import LxiWeb.Dm800Math

/-! The cached scaling of the DM800 against a multimeter whose function can also be changed on its
front panel: runs of calls, one after the other, over a port that may lose what it is given. -/
namespace LxiWeb.MathCache
open AsyncTasks CallRuns Dm800Math EventRuns JsNumbers OutputKill ScpiCalls

structure Device where
  function : Mode
  average : Bool
  limit : Bool
  scale : Bool
  deriving DecidableEq, Repr

/- How the multimeter names its function: in words that the driver reads as that function. -/
structure FunctionNames where
  name : Mode → String
  read : ∀ mode, parseMode (name mode) = mode

def Mode.all : List Mode := [.dcVoltage, .acVoltage, .dcCurrent, .acCurrent, .resistance,
  .fourWireResistance, .frequency, .period, .capacitance, .continuity, .diode, .temperature]

def configured (command : String) : Option Mode :=
  Mode.all.find? fun mode => (scpi mode).configure = command

-- a new function clears the scaling
def Device.select (mode : Mode) (d : Device) : Device :=
  { d with function := mode, scale := d.scale && d.function = mode }

@[simp] theorem selectFunction (mode : Mode) (d : Device) : (d.select mode).function = mode := rfl

def Device.carryOut (command : String) (d : Device) : Device :=
  match configured command with
  | some mode => d.select mode
  | none =>
      if command = ":CALCulate:AVERage:STATe ON" then { d with average := true }
      else if command = ":CALCulate:AVERage:STATe OFF" then { d with average := false }
      else if command = ":CALCulate:LIMit:STATe ON" then { d with limit := true }
      else if command = ":CALCulate:LIMit:STATe OFF" then { d with limit := false }
      else if command = ":CALCulate:SCALe:STATe ON" then { d with scale := true }
      else if command = ":CALCulate:SCALe:STATe OFF" then { d with scale := false }
      else d

def stateText (on : Bool) : String := if on then "1" else "0"

def Device.replyTo (names : FunctionNames) (command other : String) (d : Device) : String :=
  if command = ":SENSe:FUNCtion?" then names.name d.function
  else if command = ":CALCulate:AVERage:STATe?" then stateText d.average
  else if command = ":CALCulate:LIMit:STATe?" then stateText d.limit
  else other

/- What becomes of a request: it is carried out and answered, it is lost on its way, or it is
carried out and the port rejects it all the same. -/
inductive Fate where
  | done (other : String)
  | lost
  | unheard
  deriving DecidableEq, Repr

structure Line where
  fates : Nat → Fate
  device : Device

def Device.served (r : Request) (fate : Fate) (d : Device) : Device :=
  match r with
  | .write command => if fate = .lost then d else d.carryOut command
  | .writeBinary _ _ | .query _ => d

def Device.answers (names : FunctionNames) (r : Request) (other : String) (d : Device) : String :=
  match r with
  | .query command => d.replyTo names command other
  | .write _ | .writeBinary _ _ => ""

def Line.take (names : FunctionNames) (line : Line) (r : Request) : Line × Answer :=
  (⟨fun n => line.fates (n + 1),line.device.served r (line.fates 0)⟩,
    match line.fates 0 with
    | .done other => some (line.device.answers names r other)
    | .lost | .unheard => none)

section
variable {F : Type} (num : Numbers F) (names : FunctionNames)

/- `armed` is the scaling that a `setMath` has successfully set on a voltage function which has not
changed since. -/
structure Bench (F : Type) where
  memory : Memory F
  device : Device
  armed : Option MathFunction

inductive BenchEvent (F : Type) where
  | setMode (mode : Mode) (fates : Nat → Fate)
  | setMath (config : MathConfig F) (fates : Nat → Fate)
  | getMath (fates : Nat → Fate)
  | frontPanel (mode : Mode)

def perform {α : Type} (method : Dmm F α) (b : Bench F) (fates : Nat → Fate) :
    Left (Memory F) Line (Except Failure α) :=
  runAlone (Line.take names) method.run b.memory ⟨fates,b.device⟩

def Bench.after {α : Type} (b : Bench F) (left : Left (Memory F) Line (Except Failure α)) : Bench F :=
  { memory := left.shared
    device := left.world.device
    armed := if left.world.device.function = b.device.function then b.armed else none }

def succeeded {α : Type} (left : Left (Memory F) Line (Except Failure α)) : Bool :=
  match left.result with
  | .ok _ => true
  | .error _ => false

def benchStep (b : Bench F) : BenchEvent F → Bench F
  | .setMode mode fates => b.after (perform names (setMode mode) b fates)
  | .setMath config fates =>
      let left := perform names (setMath num config) b fates
      { b.after left with
        armed := if succeeded left && scales config.function && voltage b.device.function then
          some config.function else none }
  | .getMath fates => b.after (perform names (getMath num) b fates)
  | .frontPanel mode =>
      { b with
        device := b.device.select mode
        armed := if b.device.function = mode then b.armed else none }

def Reports (b : Bench F) : BenchEvent F → Prop
  | .getMath fates => ∀ state function, (perform names (getMath num) b fates).result = .ok state →
      b.armed = some function → state.config.function = function
  | _ => True

/- What the driver has seen last is the present function when a scaling is set, and a function
with a scaling armed is not selected once more. -/
def Undisturbed (b : Bench F) : BenchEvent F → Prop
  | .setMode mode fates => mode = b.device.function → b.armed.isSome →
      succeeded (perform names (setMode mode) b fates) = false
  | .setMath config fates => scales config.function → voltage b.device.function →
      succeeded (perform names (setMath num config) b fates) →
        ∀ mode ∈ b.memory.lastModeForMath, mode = b.device.function
  | .getMath _ => True
  | .frontPanel _ => True

end

section
variable {F : Type} {names : FunctionNames} {α β : Type}

/- However the port treats its requests, the call ends with what `post` asks. -/
abbrev Ends (names : FunctionNames) (m : Dmm F α) (memory : Memory F) (d : Device)
    (post : Except Failure α → Memory F → Device → Prop) : Prop :=
  CallRuns.Ends (Line.take names) Line.device m memory d post

variable {memory : Memory F} {d : Device} {post : Except Failure α → Memory F → Device → Prop}

theorem takeQuery (names : FunctionNames) (line : Line) (command : String) :
    (line.take names (.query command)).1.device = line.device ∧
      ((line.take names (.query command)).2 = none ∨
        ∃ other, (line.take names (.query command)).2 = some (line.device.replyTo names command other)) := by
  unfold Line.take
  cases line.fates 0 with
  | done other => exact ⟨rfl,.inr ⟨other,rfl⟩⟩
  | lost | unheard => exact ⟨rfl,.inl rfl⟩

theorem endsQuery {command : String} {f : String → Dmm F α}
    (answered : ∀ other, Ends names (f (d.replyTo names command other)) memory d post)
    (failed : post (.error .port) memory d) : Ends names (query command >>= f) memory d post := by
  refine endsIssue fun line same => ?_
  subst same
  obtain ⟨kept,lost | ⟨other,reply⟩⟩ := takeQuery names line command
  · simpa [kept,lost] using failed
  · simpa [kept,reply] using answered other

theorem endsQueryOpt {command fallback : String} {f : String → Dmm F α}
    (answered : ∀ other, Ends names (f (d.replyTo names command other)) memory d post)
    (failed : Ends names (f fallback) memory d post) :
    Ends names (queryOpt command fallback >>= f) memory d post := by
  refine endsIssue fun line same => ?_
  subst same
  obtain ⟨kept,lost | ⟨other,reply⟩⟩ := takeQuery names line command
  · simpa [kept,lost] using failed
  · simpa [kept,reply] using answered other

theorem endsWrite {command : String} {f : Unit → Dmm F α}
    (taken : Ends names (f ()) memory (d.carryOut command) post)
    (failed : post (.error .port) memory d)
    (unheard : post (.error .port) memory (d.carryOut command)) :
    Ends names (write command >>= f) memory d post := by
  refine endsIssue fun line same => ?_
  subst same
  cases fate : line.fates 0 with
  | done other => simpa [Line.take,Device.served,settledWrite,fate] using taken
  | lost => simpa [Line.take,Device.served,settledWrite,fate] using failed
  | unheard => simpa [Line.take,Device.served,settledWrite,fate] using unheard

structure Still (d d' : Device) : Prop where
  function : d'.function = d.function
  average : d.average = false → d'.average = false
  limit : d.limit = false → d'.limit = false

theorem Still.refl (d : Device) : Still d d := ⟨rfl,id,id⟩

theorem Still.trans {d d' d'' : Device} (first : Still d d') (second : Still d' d'') : Still d d'' :=
  ⟨second.function.trans first.function,fun off => second.average (first.average off),
    fun off => second.limit (first.limit off)⟩

def switchingOn : List String :=
  [":CALCulate:AVERage:STATe ON", ":CALCulate:LIMit:STATe ON"] ++ Mode.all.map fun m => (scpi m).configure

theorem stillCarryOut (command : String) (absent : command ∉ switchingOn) (d : Device) :
    Still d (d.carryOut command) := by
  simp only [switchingOn,List.mem_append,List.mem_cons,List.mem_map,not_or] at absent
  obtain ⟨⟨average,limit,-⟩,configures⟩ := absent
  have unconfigured : configured command = none := by
    refine List.find?_eq_none.mpr fun mode member same => configures ⟨mode,member,?_⟩
    simpa using same
  unfold Device.carryOut
  rw [unconfigured]
  simp only [if_neg average,if_neg limit]
  split_ifs <;> constructor <;> simp

theorem prefixDiffers {start rest other : String} (differs : start.toList.isPrefixOf other.toList = false) :
    start ++ rest ≠ other := by
  rintro rfl
  have starts : start.toList <+: start.toList ++ rest.toList := List.prefix_append _ _
  rw [String.toList_append,List.isPrefixOf_iff_prefix.mpr starts] at differs
  cases differs

def Calm (names : FunctionNames) (m : Dmm F Unit) : Prop :=
  ∀ memory d, Ends names m memory d fun _ memory' d' => memory' = memory ∧ Still d d'

theorem calmReturn : Calm names (pure () : Dmm F Unit) := fun _ d => endsReturn ⟨rfl,.refl d⟩

theorem calmBind {first second : Dmm F Unit} (early : Calm names first) (late : Calm names second) :
    Calm names (first >>= fun _ => second) := by
  intro memory d
  refine endsBind (endsMono (early memory d) fun result memory' d' ⟨same,still⟩ => ?_)
  cases result with
  | error e => exact ⟨same,still⟩
  | ok _ =>
    refine endsMono (late memory' d') fun _ memory'' d'' ⟨later,stay⟩ => ?_
    exact ⟨later.trans same,still.trans stay⟩

theorem calmWrite {command : String} (absent : command ∉ switchingOn) :
    Calm names (write command : Dmm F Unit) := by
  intro memory d
  have still := stillCarryOut command absent d
  exact endsLast <| endsWrite (endsReturn ⟨rfl,still⟩) ⟨rfl,.refl d⟩ ⟨rfl,still⟩

theorem calmGiven {field : Option β} {body : β → Dmm F Unit} (calm : ∀ b, Calm names (body b)) :
    Calm names (given field body) := by
  cases field with
  | none => exact calmReturn
  | some b => exact calm b

variable (num : Numbers F)

theorem absentOfPrefix (start rest : String)
    (differs : ∀ other ∈ switchingOn, start.toList.isPrefixOf other.toList = false) :
    start ++ rest ∉ switchingOn := fun member => prefixDiffers (differs _ member) rfl

theorem nullOffAbsent (mode : Mode) (sense : String) (there : (scpi mode).sense = some sense) :
    s!"{sense}:NULL:STATe OFF" ∉ switchingOn := by
  cases mode <;> cases there <;> decide

theorem calmNullOff (mode : Mode) : Calm names
    (given (scpi mode).sense fun sense => write s!"{sense}:NULL:STATe OFF" : Dmm F Unit) := by
  cases there : (scpi mode).sense with
  | none => exact calmReturn
  | some sense => exact calmWrite (nullOffAbsent mode sense there)

theorem calmSetDbm (config : MathConfig F) : Calm names (setDbm num config) := by
  refine calmBind (calmWrite (by decide)) (calmBind (calmGiven fun ref => calmWrite ?_) (calmWrite (by decide)))
  exact absentOfPrefix ":CALCulate:SCALe:DBM:REFerence " _ (by decide)

theorem calmSetDb (config : MathConfig F) : Calm names (setDb num config) := by
  refine calmBind (calmWrite (by decide)) (calmBind (calmGiven fun ref => calmWrite ?_) (calmWrite (by decide)))
  exact absentOfPrefix ":CALCulate:SCALe:DB:REFerence " _ (by decide)

theorem calmApplyScaling {config : MathConfig F} (scaling : scales config.function) (mode : Mode) :
    Calm names (applyMath num mode config) := by
  cases function : config.function <;> simp [scales,function] at scaling
  · simpa [applyMath,function] using calmSetDb num config
  · simpa [applyMath,function] using calmSetDbm num config

theorem averageOff (d : Device) : (d.carryOut ":CALCulate:AVERage:STATe OFF").average = false := by
  have unconfigured : configured ":CALCulate:AVERage:STATe OFF" = none := by decide
  simp [Device.carryOut,unconfigured]

theorem limitOff (d : Device) : (d.carryOut ":CALCulate:LIMit:STATe OFF").limit = false := by
  have unconfigured : configured ":CALCulate:LIMit:STATe OFF" = none := by decide
  simp [Device.carryOut,unconfigured]

structure Armed (function : MathFunction) (memory : Memory F) (d : Device) : Prop where
  scaling : scales function
  kept : memory.mathConfig.function = function
  onVoltage : voltage d.function
  average : d.average = false
  limit : d.limit = false
  seen : ∀ mode ∈ memory.lastModeForMath, mode = d.function

theorem Armed.still {function : MathFunction} {d' : Device} (armed : Armed function memory d)
    (still : Still d d') : Armed function memory d' where
  scaling := armed.scaling
  kept := armed.kept
  onVoltage := by rw [still.function]; exact armed.onVoltage
  average := still.average armed.average
  limit := still.limit armed.limit
  seen := by rw [still.function]; exact armed.seen

theorem setMathArms {config : MathConfig F} (scaling : scales config.function)
    (onVoltage : voltage d.function) (seen : ∀ mode ∈ memory.lastModeForMath, mode = d.function) :
    Ends names (setMath num config) memory d fun result memory' d' =>
      result = .ok () → Armed config.function memory' d' := by
  refine endsChange (endsBind (endsQuery (fun other => endsReturn ?_) (by simp)))
  have averageStill := stillCarryOut ":CALCulate:AVERage:STATe OFF" (by decide) d
  have limitStill := stillCarryOut ":CALCulate:LIMit:STATe OFF" (by decide)
    (d.carryOut ":CALCulate:AVERage:STATe OFF")
  simp only [allMathOff,bind_assoc]
  refine endsWrite (endsWrite ?_ (by simp) (by simp)) (by simp) (by simp)
  refine endsMono (calmBind (calmWrite (by decide))
    (calmBind (calmNullOff _) (calmApplyScaling num scaling _)) _ _) ?_
  rintro result memory' d' ⟨rfl,still⟩ -
  have before := averageStill.trans limitStill
  have armed : Armed config.function { memory with mathConfig := config }
      ((d.carryOut ":CALCulate:AVERage:STATe OFF").carryOut ":CALCulate:LIMit:STATe OFF") :=
    { scaling
      kept := rfl
      onVoltage := by rw [before.function]; exact onVoltage
      average := limitStill.average (averageOff d)
      limit := limitOff _
      seen := by rw [before.function]; exact seen }
  exact armed.still still

theorem armedSees {function : MathFunction} (armed : Armed function memory d) :
    Armed function (memory.onMeasurementFunctionChanged d.function) d := by
  have kept : memory.onMeasurementFunctionChanged d.function =
      { memory with lastModeForMath := some d.function } := by
    unfold Memory.onMeasurementFunctionChanged
    cases last : memory.lastModeForMath with
    | none => rfl
    | some mode => simp [armed.seen mode last]
  rw [kept]
  exact { armed with seen := by simp }

theorem notAveraging (off : d.average = false) (other : String) :
    parseBool (d.replyTo names ":CALCulate:AVERage:STATe?" other) = false := by
  have replied : d.replyTo names ":CALCulate:AVERage:STATe?" other = "0" := by
    simp [Device.replyTo,stateText,off]
  rw [replied]
  decide

theorem notLimiting (off : d.limit = false) (other : String) :
    parseBool (d.replyTo names ":CALCulate:LIMit:STATe?" other) = false := by
  have replied : d.replyTo names ":CALCulate:LIMit:STATe?" other = "0" := by
    simp [Device.replyTo,stateText,off]
  rw [replied]
  decide

/- What a `getMath` leaves of an armed scaling, and what it reports. -/
def Reported (function : MathFunction) (d : Device) (result : Except Failure (MathState F))
    (memory : Memory F) (d' : Device) : Prop :=
  (d' = d ∧ Armed function memory d) ∧ ∀ state, result = .ok state → state.config.function = function

theorem getScalingReports {function : MathFunction} (armed : Armed function memory d) :
    Ends names (getScaling num function) memory d (Reported function d) := by
  refine endsQuery (fun other => ?_) ⟨⟨rfl,armed⟩,by simp⟩
  refine endsBind (endsChange (endsLoad (endsReturn (endsReturn ⟨⟨rfl,?_⟩,?_⟩))))
  · exact { armed with kept := rfl }
  · intro state same
    cases same
    rfl

theorem reportMathReports {function : MathFunction} (armed : Armed function memory d)
    {avgOn limOn : String} (average : parseBool avgOn = false) (limit : parseBool limOn = false)
    (nullOn : String) :
    Ends names (reportMath num d.function avgOn limOn nullOn) memory d (Reported function d) := by
  refine endsLoad ?_
  simpa [average,limit,armed.onVoltage,armed.kept,armed.scaling] using getScalingReports num armed

theorem nullStateReports {function : MathFunction} (armed : Armed function memory d)
    {avgOn limOn : String} (average : parseBool avgOn = false) (limit : parseBool limOn = false) :
    Ends names (do
      let nullOn ← match (scpi d.function).sense with
        | some sense => queryOpt s!"{sense}:NULL:STATe?" "0"
        | none => pure "0"
      reportMath num d.function avgOn limOn nullOn) memory d (Reported function d) := by
  have reports (nullOn : String) : Ends names (reportMath num d.function avgOn limOn nullOn) memory d
      (Reported function d) := reportMathReports num armed average limit nullOn
  cases (scpi d.function).sense with
  | none => exact endsBind (endsReturn (reports "0"))
  | some sense => exact endsQueryOpt (fun other => reports _) (reports "0")

theorem getMathReports {function : MathFunction} (armed : Armed function memory d) :
    Ends names (getMath num) memory d (Reported function d) := by
  refine endsBind (endsQuery (fun other => endsReturn ?_) ⟨⟨rfl,armed⟩,by simp⟩)
  have named : parseMode (d.replyTo names ":SENSe:FUNCtion?" other) = d.function := names.read d.function
  simp only [named]
  have seen := armedSees armed
  -- an answer that is lost counts as off, and the multimeter itself says off
  have off : parseBool "0" = false := by decide
  refine endsChange (endsQueryOpt (fun other => ?_) ?_)
  · have average : parseBool (d.replyTo names ":CALCulate:AVERage:STATe?" other) = false :=
      notAveraging armed.average other
    exact endsQueryOpt (fun other => nullStateReports num seen average (notLimiting armed.limit other))
      (nullStateReports num seen average off)
  · exact endsQueryOpt (fun other => nullStateReports num seen off (notLimiting armed.limit other))
      (nullStateReports num seen off off)

end

section
variable {F : Type} (num : Numbers F) (names : FunctionNames)

def Kept (b : Bench F) : Prop := ∀ function, b.armed = some function → Armed function b.memory b.device

theorem getMathKept {b : Bench F} (kept : Kept b) (fates : Nat → Fate) :
    Kept (benchStep num names b (.getMath fates)) ∧ Reports num names b (.getMath fates) := by
  cases armed : b.armed with
  | none =>
    constructor
    · intro function same
      simp [benchStep,Bench.after,armed] at same
    · intro state function _ same
      cases armed.symm.trans same
  | some function =>
    have ends : Ends names (getMath num) b.memory b.device (Reported function b.device) :=
      getMathReports num (kept function armed)
    obtain ⟨⟨device,still⟩,reports⟩ := ends ⟨fates,b.device⟩ rfl
    constructor
    · intro other same
      simp only [benchStep,Bench.after,perform,device,if_true,armed,Option.some.injEq] at same
      subst same
      simpa only [benchStep,Bench.after,perform,device] using still
    · intro state other answered same
      cases armed.symm.trans same
      exact reports state answered

theorem succeededIff {left : Left (Memory F) Line (Except Failure Unit)} :
    succeeded left = true ↔ left.result = .ok () := by
  cases result : left.result <;> simp [succeeded,result]

theorem setMathKept {b : Bench F} {config : MathConfig F} {fates : Nat → Fate}
    (calm : Undisturbed num names b (.setMath config fates)) :
    Kept (benchStep num names b (.setMath config fates)) := by
  intro function same
  obtain ⟨arms,named⟩ := Option.ite_none_right_eq_some.mp same
  simp only [Bool.and_eq_true] at arms
  obtain ⟨⟨success,scaling⟩,onVoltage⟩ := arms
  obtain rfl := Option.some.inj named
  have ends : Ends names (setMath num config) b.memory b.device fun result memory d =>
      result = .ok () → Armed config.function memory d :=
    setMathArms num scaling onVoltage (calm scaling onVoltage success)
  exact ends ⟨fates,b.device⟩ rfl (succeededIff.mp success)

theorem selects (mode : Mode) (d : Device) : d.carryOut (scpi mode).configure = d.select mode := by
  have named : configured (scpi mode).configure = some mode := by cases mode <;> decide
  simp [Device.carryOut,named]

theorem stillSelect {mode : Mode} {d : Device} (same : mode = d.function) : Still d (d.select mode) :=
  ⟨same,id,id⟩

theorem setModeKept {b : Bench F} (kept : Kept b) {mode : Mode} {fates : Nat → Fate}
    (calm : Undisturbed num names b (.setMode mode fates)) :
    Kept (benchStep num names b (.setMode mode fates)) := by
  have ends : Ends names (setMode mode) b.memory b.device fun result memory d =>
      d = b.device.select mode ∧ result = .ok () ∨
        (d = b.device ∨ d = b.device.select mode) ∧ memory = b.memory := by
    refine endsWrite (endsLastChange ?_) ?_ ?_ <;> simp [selects]
  intro function same
  obtain ⟨unchanged,held⟩ := Option.ite_none_right_eq_some.mp same
  have armed := kept function held
  rcases ends ⟨fates,b.device⟩ rfl with ⟨device,ok⟩ | ⟨device,memory⟩
  · -- the present function was selected again
    have again : mode = b.device.function := by simpa only [perform,device,selectFunction] using unchanged
    have failed := calm again (by simp [held])
    simp [succeeded,perform,ok] at failed
  · simp only [benchStep,Bench.after,perform,memory]
    refine armed.still ?_
    rcases device with device | device
    · rw [device]
      exact .refl _
    · have again : mode = b.device.function := by simpa only [perform,device,selectFunction] using unchanged
      rw [device]
      exact stillSelect again

theorem frontPanelKept {b : Bench F} (kept : Kept b) (mode : Mode) :
    Kept (benchStep num names b (.frontPanel mode)) := by
  intro function same
  obtain ⟨unchanged,held⟩ := Option.ite_none_right_eq_some.mp same
  exact (kept function held).still (stillSelect unchanged.symm)

theorem benchKept (b : Bench F) (e : BenchEvent F) (kept : Kept b) (calm : Undisturbed num names b e) :
    Kept (benchStep num names b e) := by
  cases e with
  | setMode mode fates => exact setModeKept num names kept calm
  | setMath config fates => exact setMathKept num names calm
  | getMath fates => exact (getMathKept num names kept fates).1
  | frontPanel mode => exact frontPanelKept num names kept mode

theorem benchReports (b : Bench F) (e : BenchEvent F) (kept : Kept b)
    (_calm : Undisturbed num names b e) : Reports num names b e := by
  cases e with
  | getMath fates => exact (getMathKept num names kept fates).2
  | setMode => trivial
  | setMath => trivial
  | frontPanel => trivial

def Bench.create (device : Device) : Bench F := ⟨.create,device,none⟩

theorem mathCached (device : Device) (events : List (BenchEvent F))
    (undisturbed : Along (benchStep num names) (Undisturbed num names) (.create device) events) :
    Along (benchStep num names) (Reports num names) (.create device) events :=
  alongKept (benchKept num names) (benchReports num names) (fun _ none => by cases none) undisturbed

end

def dm858Name : Mode → String
  | .dcVoltage => "VOLT"
  | .acVoltage => "VOLT:AC"
  | .dcCurrent => "CURR"
  | .acCurrent => "CURR:AC"
  | .resistance => "RES"
  | .fourWireResistance => "FRES"
  | .frequency => "FREQ"
  | .period => "PER"
  | .capacitance => "CAP"
  | .continuity => "CONT"
  | .diode => "DIOD"
  | .temperature => "TEMP"

def dm858 : FunctionNames := ⟨dm858Name,fun mode => by cases mode <;> decide⟩

def answered : Nat → Fate := fun _ => .done "0"

def onDcVoltage : Device := ⟨.dcVoltage,false,false,false⟩

def dbmConfig : MathConfig Int := ⟨.dbm,none,none,none,none⟩

/- The function is selected over the bus, and a change on the front panel is seen by a `getMath`. -/
theorem mathCachedSeen : Along (benchStep wholeNumbers dm858) (Reports wholeNumbers dm858)
    (.create onDcVoltage) [.setMode .dcVoltage answered, .frontPanel .acVoltage, .getMath answered,
      .setMath dbmConfig answered, .getMath answered] := by
  refine mathCached wholeNumbers dm858 onDcVoltage _ ⟨?_,trivial,trivial,?_,trivial,trivial⟩
  · intro _ held
    cases held
  · intro _ _ _ mode seen
    exact (Option.some.inj seen).symm

/- The front panel goes over to the other voltage between a `getMath` and the `setMath`. -/
def panelThenDbm : List (BenchEvent Int) :=
  [.getMath answered, .frontPanel .acVoltage, .setMath dbmConfig answered, .getMath answered]

theorem panelHidesDbm : ¬ Along (benchStep wholeNumbers dm858) (Reports wholeNumbers dm858)
    (.create onDcVoltage) panelThenDbm := by
  intro reports
  have last := reports.2.2.2.1 ⟨.off,none,none⟩ .dbm rfl rfl
  cases last

end LxiWeb.MathCache
