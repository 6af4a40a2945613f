import LxiWeb.DriverMirrors
import LxiWeb.MathCache

/-! Readings of four multimeter drivers while the measurement function changes: calls that overlap on
one session, over a port that carries out commands in the order in which they are handed over. -/
namespace LxiWeb.ReadingModes
open AsyncTasks CallRuns EventRuns JsNumbers JsText
open Dm800Math (Mode Memory parseMode)
open MathCache (Fate)
open ScpiCalls (Request Failure)

structure BenchDmmProfile where
  variant : String
  modes : List Mode
  deriving DecidableEq

inductive Driver where
  | trueVolt
  | xdm
  | dm800
  | fluke (profile : BenchDmmProfile)
  deriving DecidableEq

structure MultimeterReading (F : Type) where
  value : F
  unit : String
  mode : Mode
  overload : Bool
  deriving DecidableEq

/- What the drivers keep: `#currentMode`, and for the DM800 what its math methods use. -/
structure Kept (F : Type) where
  currentMode : Mode
  math : Memory F
  deriving DecidableEq

def Kept.create {F : Type} : Kept F := ⟨.dcVoltage,.create⟩

/- A reply, with the function that the multimeter was in when it carried the command out. -/
structure Reply where
  text : String
  source : Mode
  deriving DecidableEq

abbrev Answer := Option (List Reply)

inductive Result (F : Type) where
  | done
  | mode (mode : Mode)
  | reading (reading : MultimeterReading F) (takenIn : Mode)
  deriving DecidableEq

-- `DEFAULT_MULTIMETER_UNITS`
def unitOf : Mode → String
  | .dcVoltage => "V"
  | .acVoltage => "V"
  | .dcCurrent => "A"
  | .acCurrent => "A"
  | .resistance => "Ω"
  | .fourWireResistance => "Ω"
  | .frequency => "Hz"
  | .period => "s"
  | .capacitance => "F"
  | .continuity => "Ω"
  | .diode => "V"
  | .temperature => "°C"

def configureTrueVolt : Mode → String
  | .dcVoltage => "CONFigure:VOLTage:DC"
  | .acVoltage => "CONFigure:VOLTage:AC"
  | .dcCurrent => "CONFigure:CURRent:DC"
  | .acCurrent => "CONFigure:CURRent:AC"
  | .resistance => "CONFigure:RESistance"
  | .fourWireResistance => "CONFigure:FRESistance"
  | .frequency => "CONFigure:FREQuency"
  | .period => "CONFigure:PERiod"
  | .capacitance => "CONFigure:CAPacitance"
  | .continuity => "CONFigure:CONTinuity"
  | .diode => "CONFigure:DIODe"
  | .temperature => "CONFigure:TEMPerature"

-- the texts of the Truevolt, without temperature
def configureXdm (mode : Mode) : Option String :=
  if mode = .temperature then none else some (configureTrueVolt mode)

def configureFluke : Mode → String
  | .dcVoltage => "CONFigure:VOLTage:DC AUTO"
  | .acVoltage => "CONFigure:VOLTage:AC AUTO"
  | .dcCurrent => "CONFigure:CURRent:DC AUTO"
  | .acCurrent => "CONFigure:CURRent:AC AUTO"
  | .resistance => "CONFigure:RESistance AUTO"
  | .fourWireResistance => "CONFigure:FRESistance AUTO"
  | .frequency => "CONFigure:FREQuency"
  | .period => "CONFigure:PERiod"
  | .capacitance => "CONFigure:CAPacitance AUTO"
  | .continuity => "CONFigure:CONTinuity"
  | .diode => "CONFigure:DIODe"
  | .temperature => "CONFigure:TEMPerature"

def configure : Driver → Mode → Option String
  | .trueVolt, mode => some (configureTrueVolt mode)
  | .xdm, mode => configureXdm mode
  | .dm800, mode => some (Dm800Math.scpi mode).configure
  | .fluke _, mode => some (configureFluke mode)

def functionQuery : Driver → String
  | .trueVolt => "FUNCtion?"
  | .xdm => "FUNCtion?"
  | .dm800 => ":SENSe:FUNCtion?"
  | .fluke _ => "SENSe:FUNCtion?"

-- whether the text stands between two of the quotes
def quotedBy (quote : Char) (text : List Char) : Bool :=
  2 ≤ text.length && text.head? = some quote && text.getLast? = some quote

def unquoteTrueVolt (raw : String) : List Char :=
  let trimmed := trim raw.toList
  if quotedBy '"' trimmed then trimmed.tail.dropLast else trimmed

-- the `unquote` of the XDM and of the Fluke drivers
def unquoteEither (raw : String) : List Char :=
  let trimmed := trim raw.toList
  if quotedBy '"' trimmed || quotedBy (Char.ofNat 39) trimmed then trimmed.tail.dropLast else trimmed

def mnemonics : List (String × Mode) :=
  [("VOLT:AC", .acVoltage), ("VOLT", .dcVoltage), ("CURR:AC", .acCurrent), ("CURR", .dcCurrent),
    ("FRES", .fourWireResistance), ("RES", .resistance), ("FREQ", .frequency), ("PER", .period),
    ("CAP", .capacitance), ("CONT", .continuity), ("DIOD", .diode)]

def startingWith (known : List (String × Mode)) (name : List Char) (fallback : Mode) : Mode :=
  ((known.find? fun m => m.1.toList.isPrefixOf name).map Prod.snd).getD fallback

def decodeTrueVolt (raw : String) (fallback : Mode) : Mode :=
  startingWith (mnemonics ++ [("TEMP", .temperature)]) ((unquoteTrueVolt raw).map capital) fallback

def decodeXdm (raw : String) (fallback : Mode) : Mode :=
  startingWith mnemonics ((unquoteEither raw).map capital) fallback

-- three names of old firmware, and those that the others have
def decodeFluke (raw : String) (fallback : Mode) : Mode :=
  let token := (trim (unquoteEither raw)).map capital
  if token = [] then fallback
  else if token = "VAC".toList then .acVoltage
  else if token = "IAC".toList then .acCurrent
  else if token = "F4W".toList then .fourWireResistance
  else startingWith (mnemonics ++ [("TEMP", .temperature)]) token fallback

def decodeMode : Driver → String → Mode → Mode
  | .trueVolt, raw, fallback => decodeTrueVolt raw fallback
  | .xdm, raw, fallback => decodeXdm raw fallback
  | .dm800, raw, _ => parseMode raw
  | .fluke _, raw, fallback => decodeFluke raw fallback

section
variable {F : Type} (num : Numbers F)

def infinity : F := num.parseFloat "Infinity"

-- `Math.abs(n) > 1e36`
def isOverload (n : F) : Bool := num.lt (num.ofInt (10 ^ 36)) (num.abs n)

def parseTrueVolt (raw : String) : F × Bool :=
  let n := num.parseFloat (String.ofList (unquoteTrueVolt raw))
  let negative := num.lt n (num.ofInt 0)
  if isOverload num n then (if negative then num.neg (infinity num) else infinity num,true)
  else (if num.truthy n then n else num.ofInt 0,false)

def parseXdm (raw : String) : F × Bool :=
  let trimmed := unquoteEither raw
  let n := num.parseFloat (String.ofList trimmed)
  if trimmed.map Char.toUpper = "OL".toList then (infinity num,true)
  else if !num.isFinite n then (num.ofInt 0,false)
  else if isOverload num n then (infinity num,true)
  else (n,false)

-- the check of the DM800 and of the Fluke drivers
def orOverload (value : F) : F × Bool :=
  let overload := !num.isFinite value || num.le (num.ofInt (99 * 10 ^ 36)) (num.abs value)
  (if overload then num.nan else value,overload)

def parseReading : Driver → String → F × Bool
  | .trueVolt, raw => parseTrueVolt num raw
  | .xdm, raw => parseXdm num raw
  | .dm800, raw => orOverload num (num.parseFloat (String.ofList (trim raw.toList)))
  | .fluke _, raw => orOverload num (DriverMirrors.flukeNumber num raw.toList)

def labelled (d : Driver) (mode : Mode) (raw : Reply) : Result F :=
  let parsed := parseReading num d raw.text
  .reading ⟨parsed.1,unitOf mode,mode,parsed.2⟩ raw.source

end

section
variable {F : Type} (num : Numbers F)

abbrev MeterMethod (F : Type) := Method (Kept F) (List Request) Answer Failure

def query (command : String) : MeterMethod F Reply :=
  issue (fun
    | some (reply :: _) => .ok reply
    | _ => .error .port) [.query command]

-- a query whose rejection is swallowed
def safeQuery (command : String) : MeterMethod F String :=
  issue (fun
    | some (reply :: _) => .ok reply.text
    | _ => .ok "") [.query command]

-- `Promise.all` of two queries, handed over at once
def queryBoth (first second : String) : MeterMethod F (Reply × Reply) :=
  issue (fun
    | some [reply,other] => .ok (reply,other)
    | _ => .error .port) [.query first, .query second]

def write (command : String) : MeterMethod F Unit :=
  issue (fun
    | some _ => .ok ()
    | none => .error .port) [.write command]

def keepMode (mode : Mode) : MeterMethod F Unit := change fun kept => { kept with currentMode := mode }

def getMode : Driver → MeterMethod F Mode
  | .trueVolt => do
      let raw ← query "FUNCtion?"
      let kept ← load
      let mode := decodeTrueVolt raw.text kept.currentMode
      keepMode mode
      pure mode
  | .xdm => do
      let raw ← query "FUNCtion?"
      let kept ← load
      pure (decodeXdm raw.text kept.currentMode)
  | .dm800 => do
      let raw ← query ":SENSe:FUNCtion?"
      pure (parseMode raw.text)
  | .fluke _ => do
      let raw ← safeQuery "SENSe:FUNCtion?"
      let kept ← load
      let mode := decodeFluke raw kept.currentMode
      keepMode mode
      pure mode

def requireScpi : Driver → Mode → Except Failure String
  | .trueVolt, mode => .ok (configureTrueVolt mode)
  | .xdm, mode =>
      match configureXdm mode with
      | some text => .ok text
      | none => .error (.error s!"Owon XDM driver does not implement mode {mode.text}")
  | .dm800, mode => .ok (Dm800Math.scpi mode).configure
  | .fluke profile, mode =>
      if mode ∈ profile.modes then .ok (configureFluke mode)
      else .error (.error s!"Fluke {profile.variant} does not support mode {mode.text}")

def setKept (d : Driver) (mode : Mode) (kept : Kept F) : Kept F :=
  match d with
  | .dm800 => { kept with math := { kept.math.dropScaling with lastModeForMath := some mode } }
  | _ => { kept with currentMode := mode }

def setMode (d : Driver) (mode : Mode) : MeterMethod F Unit :=
  match requireScpi d mode with
  | .error e => throw e
  | .ok text => do
      write text
      change (setKept d mode)

def readIn (d : Driver) (mode : Mode) : MeterMethod F (Result F) := do
  let raw ← query "READ?"
  pure (labelled num d mode raw)

def read : Driver → MeterMethod F (Result F)
  | .trueVolt => do
      let mode ← getMode .trueVolt
      readIn num .trueVolt mode
  | .xdm => do
      let mode ← getMode .xdm
      readIn num .xdm mode
  | .dm800 => do
      let (raw,modeStr) ← queryBoth ":READ?" ":SENSe:FUNCtion?"
      pure (labelled num .dm800 (parseMode modeStr.text) raw)
  | .fluke profile => do
      let raw ← query "READ?"
      let kept ← load
      pure (labelled num (.fluke profile) kept.currentMode raw)

inductive Call where
  | read
  | setMode (mode : Mode)
  | getMode
  deriving DecidableEq

abbrev MeterCall (F : Type) := Async (Kept F) (List Request) Answer (Except Failure (Result F))

def program (d : Driver) : Call → MeterCall F
  | .read => (read num d).run
  | .setMode mode => (do
      setMode d mode
      pure .done : MeterMethod F (Result F)).run
  | .getMode => (do
      let mode ← getMode d
      pure (.mode mode) : MeterMethod F (Result F)).run

end

/- How a multimeter names its functions: the driver reads the names of those that it can set. -/
structure FunctionNames (d : Driver) where
  name : Mode → String
  read : ∀ mode fallback, (configure d mode).isSome → decodeMode d (name mode) fallback = mode

/- What is to become of the commands that follow, and the function that is set when all that have been
handed over are carried out. -/
structure Meter where
  fates : Nat → Fate
  function : Mode

def configured (d : Driver) (command : String) : Option Mode :=
  MathCache.Mode.all.find? fun mode => configure d mode = some command

def serve {d : Driver} (names : FunctionNames d) (meter : Meter) (r : Request) : Meter × Option Reply :=
  let function := match r with
    | .write command =>
        if meter.fates 0 = .lost then meter.function else (configured d command).getD meter.function
    | .writeBinary _ _ | .query _ => meter.function
  let text (other : String) := match r with
    | .query command => if command = functionQuery d then names.name function else other
    | .write _ | .writeBinary _ _ => ""
  (⟨fun n => meter.fates (n + 1),function⟩,
    match meter.fates 0 with
    | .done other => some ⟨text other,function⟩
    | .lost | .unheard => none)

def serveAll {d : Driver} (names : FunctionNames d) : Meter → List Request → Meter × List (Option Reply)
  | meter, [] => (meter,[])
  | meter, r :: rest =>
      let served := serve names meter r
      let others := serveAll names served.1 rest
      (others.1,served.2 :: others.2)

def port {d : Driver} (names : FunctionNames d) : World (List Request) Answer Meter (List (Option Reply)) Unit :=
  ⟨serveAll names,fun _ receipt _ => some (receipt.mapM id)⟩

section
variable {F : Type} (num : Numbers F) {d : Driver} (names : FunctionNames d)

abbrev Session (F : Type) :=
  Pool (Kept F) (List Request) Answer (Except Failure (Result F)) Call Meter (List (Option Reply))

/- Replies come in the order of the commands; a command may be rejected before its turn. -/
def step (s : Session F) (e : Event Call Unit) : Session F :=
  match e with
  | .call c => AsyncTasks.step (port names) (program num d) s (.call c)
  | .settle index _ =>
      if index = 0 ∨ (s.tasks[index]?).any fun t => t.receipt.any Option.isNone then
        AsyncTasks.step (port names) (program num d) s (.settle index ())
      else s

def start (function : Mode) (fates : Nat → Fate) : Session F := AsyncTasks.start .create ⟨fates,function⟩

/- Every reading has the mode and the unit of the function that it was taken in. -/
def Labelled (s : Session F) : Prop :=
  ∀ c r takenIn, (c,.ok (.reading r takenIn)) ∈ s.finished → r.mode = takenIn ∧ r.unit = unitOf takenIn

end

section
variable {F : Type}

/- The mode that the `#currentMode` is going to have when all that is under way has settled. -/
def settledMode : Mode → List (Task (Kept F) (List Request) Answer (Except Failure (Result F)) Call
    (List (Option Reply))) → Mode
  | mode, [] => mode
  | mode, t :: rest =>
      match t.call, t.receipt with
      | .setMode set, [some _] => settledMode set rest
      | .getMode, [some reply] => settledMode reply.source rest
      | _, _ => settledMode mode rest

/- Where a read asks for the function first, no other function is set by the time its `READ?` follows
and the driver knows the function; where it relies on `#currentMode`, that is the function which the
multimeter is in. -/
def Undisturbed (d : Driver) (s : Session F) (e : Event Call Unit) : Prop :=
  match d, e with
  | .trueVolt, .settle index _ | .xdm, .settle index _ =>
      ∀ t ∈ s.tasks[index]?, t.call = .read → t.request = [.query "FUNCtion?"] →
        ∀ reply, t.receipt = [some reply] →
          s.world.function = reply.source ∧ (configure d reply.source).isSome
  | .fluke _, .call .read => settledMode s.shared.currentMode s.tasks = s.world.function
  | _, _ => True

end

section
variable {F : Type} {num : Numbers F} {d : Driver} {names : FunctionNames d}

abbrev Waiting (F : Type) :=
  Task (Kept F) (List Request) Answer (Except Failure (Result F)) Call (List (Option Reply))

variable (names) in
theorem serveQuery (meter : Meter) (command : String) :
    (∃ other, serveAll names meter [.query command] = (⟨fun n => meter.fates (n + 1),meter.function⟩,
      [some ⟨if command = functionQuery d then names.name meter.function else other,meter.function⟩])) ∨
    serveAll names meter [.query command] = (⟨fun n => meter.fates (n + 1),meter.function⟩,[none]) := by
  cases fate : meter.fates 0 with
  | done other => exact .inl ⟨other,by simp only [serveAll,serve,fate]⟩
  | lost => exact .inr (by simp only [serveAll,serve,fate])
  | unheard => exact .inr (by simp only [serveAll,serve,fate])

def AtFirst (num : Numbers F) (names : FunctionNames d) (t : Waiting F) : Prop :=
  program num d t.call = .await t.request t.next ∧ ∃ meter, t.receipt = (serveAll names meter t.request).2

def AtReading (num : Numbers F) (names : FunctionNames d) (t : Waiting F) : Prop :=
  t.call = .read ∧ ∃ mode, (readIn num d mode).run = .await t.request t.next ∧
    ∃ meter, meter.function = mode ∧ t.receipt = (serveAll names meter t.request).2

structure Sane (num : Numbers F) (names : FunctionNames d) (s : Session F) : Prop where
  tasks : ∀ t ∈ s.tasks, AtFirst num names t ∨ AtReading num names t
  labelled : Labelled s

theorem labelledDone {s : Session F} (labelled : Labelled s) (c : Call) {a : Except Failure (Result F)}
    (right : ∀ r takenIn, a = .ok (.reading r takenIn) → r.mode = takenIn ∧ r.unit = unitOf takenIn) :
    Labelled { s with finished := s.finished ++ [(c,a)] } := by
  intro c' r takenIn member
  rcases List.mem_append.mp member with old | new
  · exact labelled c' r takenIn old
  · obtain ⟨-,same⟩ := Prod.mk.inj (List.mem_singleton.mp new)
    exact right r takenIn same.symm

theorem saneAwait {s : Session F} (sane : Sane num names s) {c : Call} {r : List Request}
    {next : Answer → MeterCall F} (stands : ∀ t : Waiting F, t.call = c → t.request = r → t.next = next →
      t.receipt = (serveAll names s.world r).2 → AtFirst num names t ∨ AtReading num names t) :
    Sane num names (resume (port names) s c (.await r next)) := by
  refine ⟨?_,sane.labelled⟩
  intro t member
  rcases List.mem_append.mp member with old | new
  · exact sane.tasks t old
  · obtain rfl := List.mem_singleton.mp new
    exact stands _ rfl rfl rfl rfl

theorem saneErase {s : Session F} (sane : Sane num names s) (index : Nat) :
    Sane num names { s with tasks := s.tasks.eraseIdx index } :=
  ⟨fun t member => sane.tasks t (List.mem_of_mem_eraseIdx member),sane.labelled⟩

theorem saneKeep {s : Session F} (sane : Sane num names s) (kept : Kept F) :
    Sane num names { s with shared := kept } := ⟨sane.tasks,sane.labelled⟩

theorem saneDone {s : Session F} (sane : Sane num names s) (c : Call) {a : Except Failure (Result F)}
    (right : ∀ r takenIn, a = .ok (.reading r takenIn) → r.mode = takenIn ∧ r.unit = unitOf takenIn) :
    Sane num names { s with finished := s.finished ++ [(c,a)] } :=
  ⟨sane.tasks,labelledDone sane.labelled c right⟩

theorem saneCall {s : Session F} (sane : Sane num names s) (c : Call) :
    Sane num names (step num names s (.call c)) := by
  have begun : ∀ tree, program num d c = tree → (∃ r next, tree = .await r next) ∨ (∃ e, tree = .pure (.error e)) := by
    rintro tree rfl
    cases c with
    | read => cases d <;> exact .inl ⟨_,_,rfl⟩
    | getMode => cases d <;> exact .inl ⟨_,_,rfl⟩
    | setMode mode =>
      simp only [program,setMode]
      cases requireScpi d mode with
      | error e => exact .inr ⟨e,rfl⟩
      | ok text => exact .inl ⟨_,_,rfl⟩
  simp only [step,AsyncTasks.step]
  rcases begun _ rfl with ⟨r,next,waits⟩ | ⟨e,fails⟩
  · rw [waits]
    refine saneAwait sane fun t call request next' receipt => .inl ⟨?_,s.world,?_⟩
    · rw [call,request,next']
      exact waits
    · rw [receipt,request]
  · rw [fails]
    exact saneDone sane c (by simp)

variable (names) in
theorem serveOne (meter : Meter) (r : Request) :
    (∃ reply, (serveAll names meter [r]).2 = [some reply] ∧ reply.source = (serve names meter r).1.function) ∨
      (serveAll names meter [r]).2 = [none] := by
  simp only [serveAll,serve]
  cases meter.fates 0 with
  | done other => exact .inl ⟨_,rfl,rfl⟩
  | lost => exact .inr rfl
  | unheard => exact .inr rfl

variable (num names) in
theorem settleCases (s : Session F) (index : Nat) :
    step num names s (.settle index ()) = s ∨
      ∃ t, s.tasks[index]? = some t ∧ (index = 0 ∨ t.receipt.any Option.isNone) ∧
        step num names s (.settle index ()) =
          resume (port names) { s with tasks := s.tasks.eraseIdx index } t.call (t.next (t.receipt.mapM id)) := by
  unfold step
  dsimp only
  split
  · rename_i turn
    simp only [AsyncTasks.step]
    cases there : s.tasks[index]? with
    | none => exact .inl rfl
    | some t => exact .inr ⟨t,rfl,by simpa [there] using turn,rfl⟩
  · exact .inl rfl

theorem readingEnds {t : Waiting F} (at_ : AtReading num names t) :
    ∃ a, t.next (t.receipt.mapM id) = .pure a ∧
      ∀ r takenIn, a = .ok (.reading r takenIn) → r.mode = takenIn ∧ r.unit = unitOf takenIn := by
  obtain ⟨-,mode,waits,meter,rfl,receipt⟩ := at_
  have asks : (readIn num d meter.function).run = .await [Request.query "READ?"] fun b => match b with
      | some (reply :: _) => .pure (.ok (labelled num d meter.function reply))
      | _ => .pure (.error .port) := by
    refine congrArg (Async.await [Request.query "READ?"]) (funext fun b => ?_)
    match b with
    | none => rfl
    | some [] => rfl
    | some (reply :: rest) => rfl
  rw [asks] at waits
  obtain ⟨request,next⟩ := Async.await.inj waits
  rw [receipt,← next,← request]
  rcases serveOne names meter (Request.query "READ?") with ⟨reply,served,source⟩ | failed
  · rw [served]
    refine ⟨_,rfl,fun r takenIn same => ?_⟩
    have source : reply.source = meter.function := source
    obtain ⟨rfl,rfl⟩ := Result.reading.inj (Except.ok.inj same)
    rw [source]
    exact ⟨rfl,rfl⟩
  · rw [failed]
    exact ⟨_,rfl,by simp⟩

/- The mode that a task leaves in `#currentMode` where its driver keeps one. -/
abbrev leaves (mode : Mode) (t : Waiting F) : Mode := settledMode mode [t]

theorem settledCons (mode : Mode) (t : Waiting F) (rest : List (Waiting F)) :
    settledMode mode (t :: rest) = settledMode (leaves mode t) rest := by
  simp only [leaves,settledMode]
  split <;> rfl

theorem decodeBlank (fallback : Mode) : decodeFluke "" fallback = fallback := by
  cases fallback <;> decide

theorem otherEnds {t : Waiting F} (at_ : AtFirst num names t) (other : t.call ≠ .read) (s : Session F) :
    ∃ kept a, resume (port names) s t.call (t.next (t.receipt.mapM id)) =
        { s with shared := kept, finished := s.finished ++ [(t.call,a)] } ∧
      (∀ r takenIn, a ≠ .ok (.reading r takenIn)) ∧
      ∀ profile, d = .fluke profile → kept.currentMode = leaves s.shared.currentMode t := by
  obtain ⟨call,request,receipt,next⟩ := t
  obtain ⟨waits,meter,served⟩ := at_
  dsimp only at waits served other ⊢
  subst served
  cases call with
  | read => exact absurd rfl other
  | setMode mode =>
    simp only [program,setMode] at waits
    cases text : requireScpi d mode with
    | error e =>
      rw [text] at waits
      cases waits
    | ok command =>
      rw [text] at waits
      obtain ⟨rfl,rfl⟩ := Async.await.inj waits
      rcases serveOne names meter (Request.write command) with ⟨reply,answered,-⟩ | failed
      · rw [answered]
        refine ⟨setKept d mode s.shared,.ok .done,rfl,by simp,?_⟩
        rintro profile rfl
        rfl
      · rw [failed]
        exact ⟨s.shared,.error .port,rfl,by simp,fun _ _ => rfl⟩
  | getMode =>
    cases d with
    | trueVolt =>
      obtain ⟨rfl,rfl⟩ := Async.await.inj waits
      rcases serveOne names meter (Request.query "FUNCtion?") with ⟨reply,answered,-⟩ | failed
      · rw [answered]
        exact ⟨_,_,rfl,by simp,by simp⟩
      · rw [failed]
        exact ⟨s.shared,.error .port,rfl,by simp,by simp⟩
    | xdm =>
      obtain ⟨rfl,rfl⟩ := Async.await.inj waits
      rcases serveOne names meter (Request.query "FUNCtion?") with ⟨reply,answered,-⟩ | failed
      · rw [answered]
        exact ⟨s.shared,_,rfl,by simp,by simp⟩
      · rw [failed]
        exact ⟨s.shared,.error .port,rfl,by simp,by simp⟩
    | dm800 =>
      obtain ⟨rfl,rfl⟩ := Async.await.inj waits
      rcases serveOne names meter (Request.query ":SENSe:FUNCtion?") with ⟨reply,answered,-⟩ | failed
      · rw [answered]
        exact ⟨s.shared,_,rfl,by simp,by simp⟩
      · rw [failed]
        exact ⟨s.shared,.error .port,rfl,by simp,by simp⟩
    | fluke profile =>
      obtain ⟨rfl,rfl⟩ := Async.await.inj waits
      have keeps (text : String) : ∃ kept : Kept F,
          kept = { s.shared with currentMode := decodeFluke text s.shared.currentMode } ∧
            kept.currentMode = decodeFluke text s.shared.currentMode := ⟨_,rfl,by dsimp only⟩
      rcases serveQuery names meter "SENSe:FUNCtion?" with ⟨other',answered⟩ | failed
      · obtain ⟨kept,same,current⟩ := keeps (names.name meter.function)
        have known : decodeFluke (names.name meter.function) s.shared.currentMode = meter.function :=
          names.read meter.function s.shared.currentMode rfl
        rw [known] at current
        rw [answered]
        refine ⟨kept,.ok (.mode (decodeFluke (names.name meter.function) s.shared.currentMode)),?_,by simp,
          fun _ _ => current⟩
        rw [same]
        rfl
      · obtain ⟨kept,same,current⟩ := keeps ""
        rw [decodeBlank] at current
        rw [failed]
        refine ⟨kept,.ok (.mode (decodeFluke "" s.shared.currentMode)),?_,by simp,fun _ _ => current⟩
        rw [same]
        rfl

theorem dm800Ends {names : FunctionNames .dm800} {t : Waiting F} (at_ : AtFirst num names t) (read_ : t.call = .read) :
    ∃ a, t.next (t.receipt.mapM id) = .pure a ∧
      ∀ r takenIn, a = .ok (.reading r takenIn) → r.mode = takenIn ∧ r.unit = unitOf takenIn := by
  obtain ⟨call,request,receipt,next⟩ := t
  obtain ⟨waits,meter,served⟩ := at_
  dsimp only at waits served read_ ⊢
  subst served
  subst read_
  obtain ⟨rfl,rfl⟩ := Async.await.inj waits
  simp only [serveAll,serve]
  cases meter.fates 0 with
  | done other =>
    cases meter.fates 1 with
    | done other' =>
      refine ⟨_,rfl,fun r takenIn same => ?_⟩
      obtain ⟨rfl,rfl⟩ := Result.reading.inj (Except.ok.inj same)
      have known : parseMode (names.name meter.function) = meter.function :=
        names.read meter.function .dcVoltage rfl
      exact ⟨known,congrArg unitOf known⟩
    | lost | unheard => exact ⟨_,rfl,by simp⟩
  | lost | unheard =>
    cases meter.fates 1 with
    | done | lost | unheard => exact ⟨_,rfl,by simp⟩

theorem askingGoes (asking : d = .trueVolt ∨ d = .xdm) {s : Session F} (sane : Sane num names s) {t : Waiting F}
    (at_ : AtFirst num names t) (read_ : t.call = .read)
    (same : t.request = [.query "FUNCtion?"] → ∀ reply, t.receipt = [some reply] →
      s.world.function = reply.source ∧ (configure d reply.source).isSome) :
    Sane num names (resume (port names) s t.call (t.next (t.receipt.mapM id))) := by
  obtain ⟨call,request,receipt,next⟩ := t
  obtain ⟨waits,meter,served⟩ := at_
  dsimp only at waits served read_ same ⊢
  subst served
  subst read_
  have goes (mode : Mode) (here : s.world.function = mode) (kept : Kept F) :
      Sane num names (resume (port names) { s with shared := kept } .read (readIn num d mode).run) := by
    refine saneAwait (saneKeep sane kept) fun t call request next receipt => .inr ⟨call,mode,?_,s.world,here,?_⟩
    · rw [request,next]
      rfl
    · rw [receipt,request]
  rcases asking with rfl | rfl
  · obtain ⟨rfl,rfl⟩ := Async.await.inj waits
    rcases serveQuery names meter "FUNCtion?" with ⟨other,answered⟩ | failed
    · obtain ⟨here,known⟩ := same rfl _ (congrArg Prod.snd answered)
      rw [answered]
      have named : decodeTrueVolt (names.name meter.function) s.shared.currentMode = meter.function :=
        names.read meter.function s.shared.currentMode known
      have went := goes _ (here.trans named.symm)
        { s.shared with currentMode := decodeTrueVolt (names.name meter.function) s.shared.currentMode }
      exact went
    · rw [failed]
      exact saneDone sane .read (by simp)
  · obtain ⟨rfl,rfl⟩ := Async.await.inj waits
    rcases serveQuery names meter "FUNCtion?" with ⟨other,answered⟩ | failed
    · obtain ⟨here,known⟩ := same rfl _ (congrArg Prod.snd answered)
      rw [answered]
      have named : decodeXdm (names.name meter.function) s.shared.currentMode = meter.function :=
        names.read meter.function s.shared.currentMode known
      exact goes _ (here.trans named.symm) s.shared
    · rw [failed]
      exact saneDone sane .read (by simp)

theorem flukeEnds {profile : BenchDmmProfile} {names : FunctionNames (.fluke profile)} {s : Session F}
    {t : Waiting F} (at_ : AtFirst num names t) (read_ : t.call = .read)
    (cached : ∀ reply, t.receipt = [some reply] → reply.source = s.shared.currentMode) :
    ∃ a, resume (port names) s t.call (t.next (t.receipt.mapM id)) =
        { s with finished := s.finished ++ [(t.call,a)] } ∧
      ∀ r takenIn, a = .ok (.reading r takenIn) → r.mode = takenIn ∧ r.unit = unitOf takenIn := by
  obtain ⟨call,request,receipt,next⟩ := t
  obtain ⟨waits,meter,served⟩ := at_
  dsimp only at waits served read_ cached ⊢
  subst served
  subst read_
  obtain ⟨rfl,rfl⟩ := Async.await.inj waits
  rcases serveQuery names meter "READ?" with ⟨other,answered⟩ | failed
  · have source := cached _ (congrArg Prod.snd answered)
    have source : meter.function = s.shared.currentMode := source
    rw [answered]
    refine ⟨_,rfl,fun r takenIn same => ?_⟩
    obtain ⟨rfl,rfl⟩ := Result.reading.inj (Except.ok.inj same)
    exact ⟨source.symm,congrArg unitOf source.symm⟩
  · rw [failed]
    exact ⟨_,rfl,by simp⟩

theorem saneEnds {s : Session F} (sane : Sane num names s) {t : Waiting F}
    (stands : AtFirst num names t ∨ AtReading num names t)
    (reads : AtFirst num names t → t.call = .read →
      Sane num names (resume (port names) s t.call (t.next (t.receipt.mapM id)))) :
    Sane num names (resume (port names) s t.call (t.next (t.receipt.mapM id))) := by
  rcases stands with first | reading
  · by_cases read_ : t.call = .read
    · exact reads first read_
    · obtain ⟨kept,a,ends,none_,-⟩ := otherEnds first read_ s
      rw [ends]
      exact saneDone (saneKeep sane kept) t.call fun r takenIn same => absurd same (none_ r takenIn)
  · obtain ⟨a,ends,right⟩ := readingEnds reading
    rw [ends]
    exact saneDone sane t.call right

def ReadsAhead : Mode → List (Waiting F) → Prop
  | _, [] => True
  | mode, t :: rest =>
      (t.call = .read → ∀ reply, t.receipt = [some reply] → reply.source = mode) ∧
        ReadsAhead (leaves mode t) rest

theorem readsAheadSnoc {mode : Mode} {tasks : List (Waiting F)} {t : Waiting F} (ahead : ReadsAhead mode tasks)
    (last : t.call = .read → ∀ reply, t.receipt = [some reply] → reply.source = settledMode mode tasks) :
    ReadsAhead mode (tasks ++ [t]) := by
  induction tasks generalizing mode with
  | nil => exact ⟨last,trivial⟩
  | cons first rest ih => exact ⟨ahead.1,ih ahead.2 (settledCons mode first rest ▸ last)⟩

theorem leavesRejected {t : Waiting F} (rejected : t.receipt.any Option.isNone) (mode : Mode) :
    leaves mode t = mode := by
  have answered (reply : Reply) : t.receipt ≠ [some reply] := by
    intro same
    rw [same] at rejected
    cases rejected
  simp only [leaves,settledMode]
  split
  · exact absurd (by assumption) (answered _)
  · exact absurd (by assumption) (answered _)
  · rfl

theorem readsAheadErase {mode : Mode} {tasks : List (Waiting F)} {index : Nat} {t : Waiting F}
    (there : tasks[index]? = some t) (rejected : t.receipt.any Option.isNone) (ahead : ReadsAhead mode tasks) :
    ReadsAhead mode (tasks.eraseIdx index) := by
  induction tasks generalizing mode index with
  | nil => cases there
  | cons first rest ih =>
    cases index with
    | zero =>
      obtain rfl := Option.some.inj there
      have same := ahead.2
      rwa [leavesRejected rejected] at same
    | succ index => exact ⟨ahead.1,ih there ahead.2⟩

theorem readsAheadTurn {mode : Mode} {tasks : List (Waiting F)} {index : Nat} {t : Waiting F}
    (there : tasks[index]? = some t) (turn : index = 0 ∨ t.receipt.any Option.isNone)
    (ahead : ReadsAhead mode tasks) :
    (t.call = .read → ∀ reply, t.receipt = [some reply] → reply.source = mode) ∧
      ReadsAhead (leaves mode t) (tasks.eraseIdx index) := by
  rcases turn with rfl | rejected
  · cases tasks with
    | nil => cases there
    | cons head rest =>
      obtain rfl := Option.some.inj there
      exact ahead
  · refine ⟨fun _ reply answered => ?_,?_⟩
    · simp [answered] at rejected
    · rw [leavesRejected rejected]
      exact readsAheadErase there rejected ahead

structure Good (num : Numbers F) (names : FunctionNames d) (s : Session F) : Prop where
  sane : Sane num names s
  ahead : ∀ profile, d = .fluke profile →
    (∀ t ∈ s.tasks, AtFirst num names t) ∧ ReadsAhead s.shared.currentMode s.tasks

theorem goodStart (function : Mode) (fates : Nat → Fate) : Good num names (start function fates) := by
  have none_ (t : Waiting F) : t ∉ (start (F := F) function fates).tasks := List.not_mem_nil
  have noResult (entry : Call × Except Failure (Result F)) : entry ∉ (start (F := F) function fates).finished :=
    List.not_mem_nil
  refine ⟨⟨fun t member => absurd member (none_ t),fun c r takenIn member => absurd member (noResult _)⟩,?_⟩
  exact fun _ _ => ⟨fun t member => absurd member (none_ t),trivial⟩

theorem goodCall {s : Session F} (good : Good num names s) (c : Call)
    (fits : Undisturbed d s (.call c)) : Good num names (step num names s (.call c)) := by
  refine ⟨saneCall good.sane c,?_⟩
  rintro profile rfl
  obtain ⟨first,ahead⟩ := good.ahead profile rfl
  have waits {r : List Request} {next : Answer → MeterCall F} (begins : program num (.fluke profile) c = .await r next)
      (last : c = .read → ∀ reply, (serveAll names s.world r).2 = [some reply] →
        reply.source = settledMode s.shared.currentMode s.tasks) :
      (∀ t ∈ (step num names s (.call c)).tasks, AtFirst num names t) ∧
        ReadsAhead (step num names s (.call c)).shared.currentMode (step num names s (.call c)).tasks := by
    simp only [step,AsyncTasks.step,begins]
    refine ⟨fun t member => ?_,readsAheadSnoc ahead last⟩
    rcases List.mem_append.mp member with old | new
    · exact first t old
    · obtain rfl := List.mem_singleton.mp new
      exact ⟨begins,s.world,rfl⟩
  cases c with
  | read =>
    refine waits rfl fun _ reply answered => ?_
    have here : settledMode s.shared.currentMode s.tasks = s.world.function := fits
    rw [here]
    rcases serveOne names s.world (Request.query "READ?") with ⟨reply',served,source⟩ | failed
    · rw [served] at answered
      obtain rfl := Option.some.inj (List.cons.inj answered).1
      exact source
    · rw [failed] at answered
      cases answered
  | getMode => exact waits rfl (by simp)
  | setMode mode =>
    cases text : requireScpi (.fluke profile) mode with
    | ok command =>
      have begins : ∃ next, program num (.fluke profile) (.setMode mode) = .await [.write command] next := by
        simp only [program,setMode,text]
        exact ⟨_,rfl⟩
      obtain ⟨next,begins⟩ := begins
      exact waits begins (by simp)
    | error e =>
      have ends : program num (.fluke profile) (.setMode mode) = .pure (.error e) := by
        simp only [program,setMode,text]
        rfl
      simp only [step,AsyncTasks.step,ends]
      exact ⟨first,ahead⟩

theorem goodSettle {s : Session F} (good : Good num names s) (index : Nat)
    (fits : Undisturbed d s (.settle index ())) : Good num names (step num names s (.settle index ())) := by
  rcases settleCases num names s index with idle | ⟨t,there,turn,went⟩
  · rwa [idle]
  · have member := List.mem_of_getElem? there
    have left := saneErase good.sane index
    rw [went]
    cases d with
    | trueVolt | xdm =>
      refine ⟨saneEnds left (good.sane.tasks t member) fun first read_ => ?_,by simp⟩
      exact askingGoes (by simp) left first read_ (fits t there read_)
    | dm800 =>
      refine ⟨saneEnds left (good.sane.tasks t member) fun first read_ => ?_,by simp⟩
      obtain ⟨a,ends,right⟩ := dm800Ends first read_
      rw [ends]
      exact saneDone left t.call right
    | fluke profile =>
      obtain ⟨first,ahead⟩ := good.ahead profile rfl
      have at_ := first t member
      have others : ∀ t ∈ s.tasks.eraseIdx index, AtFirst num names t :=
        fun t inside => first t (List.mem_of_mem_eraseIdx inside)
      obtain ⟨measured,next⟩ := readsAheadTurn there turn ahead
      by_cases read_ : t.call = .read
      · have unchanged : leaves s.shared.currentMode t = s.shared.currentMode := by
          simp only [leaves,settledMode,read_]
        obtain ⟨a,ends,right⟩ :=
          flukeEnds (s := { s with tasks := s.tasks.eraseIdx index }) at_ read_ (measured read_)
        rw [ends]
        refine ⟨saneDone left t.call right,fun _ _ => ⟨others,?_⟩⟩
        rwa [unchanged] at next
      · obtain ⟨kept,a,ends,none_,current⟩ := otherEnds at_ read_ { s with tasks := s.tasks.eraseIdx index }
        rw [ends]
        refine ⟨saneDone (saneKeep left kept) t.call fun r takenIn same => absurd same (none_ r takenIn),?_⟩
        refine fun _ _ => ⟨others,?_⟩
        have mode : kept.currentMode = leaves s.shared.currentMode t := current profile rfl
        show ReadsAhead kept.currentMode (s.tasks.eraseIdx index)
        rwa [mode]

variable (num) in
/-- In a run in which nothing disturbs the reads, every reading has the mode and the unit of the function
that the multimeter was in when it was measured. -/
theorem readingsLabelled {d : Driver} (names : FunctionNames d) (function : Mode) (fates : Nat → Fate)
    (events : List (Event Call Unit))
    (fits : Along (step num names) (Undisturbed d) (start function fates) events) :
    Throughout (step num names) Labelled (start function fates) events := by
  have keep (s : Session F) (e : Event Call Unit) (good : Good num names s) (fits : Undisturbed d s e) :
      Good num names (step num names s e) := by
    cases e with
    | call c => exact goodCall good c fits
    | settle index outcome => exact goodSettle good index fits
  exact (throughoutAlong keep (goodStart function fates) fits).mono fun s good => good.sane.labelled

end

-- the short names that the DM858 has too
def trueVoltNames : FunctionNames .trueVolt where
  name := MathCache.dm858Name
  read mode fallback _ := by cases mode <;> rfl

def fluke8808 : BenchDmmProfile := ⟨"8808A",[.dcVoltage, .resistance]⟩

def flukeNames : FunctionNames (.fluke fluke8808) where
  name := MathCache.dm858Name
  read mode fallback _ := by cases mode <;> rfl

def answered : Nat → Fate := fun _ => .done "5"

/- The function is changed, and the next read begins, while a `READ?` is answered. -/
def crossing : List (Event Call Unit) :=
  [.call .read, .settle 0 (), .call (.setMode .resistance), .call .read, .settle 0 (), .settle 0 (), .settle 0 (),
    .settle 0 ()]

theorem readingsLabelledTwo :
    Throughout (step wholeNumbers trueVoltNames) Labelled (start .acVoltage answered) crossing :=
  readingsLabelled wholeNumbers trueVoltNames .acVoltage answered crossing (by
    refine ⟨trivial,?_,trivial,trivial,?_,?_,?_,?_,trivial⟩
    · rintro t there - - reply heard
      obtain rfl := Option.some.inj there
      obtain rfl := Option.some.inj (List.cons.inj heard).1
      exact ⟨rfl,rfl⟩
    · rintro t there - asks
      obtain rfl := Option.some.inj there
      exact absurd asks (by decide)
    · rintro t there read_
      obtain rfl := Option.some.inj there
      exact absurd read_ (by decide)
    · rintro t there - - reply heard
      obtain rfl := Option.some.inj there
      obtain rfl := Option.some.inj (List.cons.inj heard).1
      exact ⟨rfl,rfl⟩
    · rintro t there - asks
      obtain rfl := Option.some.inj there
      exact absurd asks (by decide))

/- A change of the function that overtakes the `READ?` of a read. -/
def overtaken : List (Event Call Unit) :=
  [.call .read, .call (.setMode .resistance), .settle 0 (), .settle 0 (), .settle 0 ()]

theorem staleLabels :
    ¬ Labelled (run (step wholeNumbers trueVoltNames) (start .dcVoltage answered) overtaken) ∧
    ¬ Labelled (run (step wholeNumbers flukeNames) (start .resistance answered) [.call .read, .settle 0 ()]) := by
  constructor
  · intro labelled
    have wrong := labelled .read ⟨5,"V",.dcVoltage,false⟩ .resistance (.tail _ (.head _))
    exact absurd wrong.1 (by decide)
  · intro labelled
    have wrong := labelled .read ⟨5,"V",.dcVoltage,false⟩ .resistance (.head _)
    exact absurd wrong.1 (by decide)

end LxiWeb.ReadingModes
