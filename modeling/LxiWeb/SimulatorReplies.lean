import LxiWeb.SimulatorErrors
import LxiWeb.SimulatorFraming

/-! One socket of the simulator: the drains that its chunks start over the shared buffer, the handlers
they run, and what is written back. -/
namespace LxiWeb.SimulatorReplies
open EventRuns JsText ScpiFraming
open SimulatorErrors (ErrorQueueItem readErrorQueue)
open SimulatorFraming (Connection ParsedCommand Split lineOf parseCommand takeLine takeLineNone takeLineWhole toText)

inductive CommandResult where
  | none
  | line (text : String)
  | binary (bytes : Bytes)
  | error (code : Int) (message : String) (queryPlaceholder : Option String)
  deriving DecidableEq

structure SessionState (V : Type) where
  errorQueue : List ErrorQueueItem
  values : V
  deriving DecidableEq

inductive Started where
  | returns (outcome : Except String CommandResult)
  | promises

abbrev Handler (V : Type) := ParsedCommand → SessionState V → SessionState V × Started

structure Personality (V : Type) where
  exactHandlers : List Char → Option (Handler V)
  prefixHandlers : List ((List Char → Bool) × Handler V)
  responses : List Char → Option String
  initialState : SessionState V

structure Simulator (V : Type) where
  personality : Personality V
  idn : String
  opt : String
  terminator : Bytes
  toUpperCase : List Char → List Char

/- A handler that is called, a promise that settles, a call of `socket.write`. -/
inductive Action where
  | began (command : ParsedCommand) (started : Started)
  | settled (command : ParsedCommand) (outcome : Except String CommandResult)
  | wrote (bytes : Bytes)

/- `pending` are the commands whose handlers are awaited, each by a drain of its own. -/
structure Socket (V : Type) where
  buffer : Bytes
  session : SessionState V
  pending : List ParsedCommand
  handed : List String
  trace : List Action

inductive Event (V : Type) where
  | data (chunk : Bytes)
  | settles (index : Nat) (outcome : Except String CommandResult) (changed : SessionState V → SessionState V)

section
variable {V : Type} (sim : Simulator V)

def pushError (state : SessionState V) (code : Int) (message : String) : SessionState V :=
  { state with errorQueue := state.errorQueue ++ [⟨code,message⟩] }

def answers (result : CommandResult) : Handler V := fun _ state => (state,.returns (.ok result))

def readsErrorQueue : Handler V := fun _ state =>
  let (text,errorQueue) := readErrorQueue state.errorQueue
  ({ state with errorQueue },.returns (.ok (.line text)))

def clearsErrorQueue : Handler V := fun _ state => ({ state with errorQueue := [] },.returns (.ok .none))

def commonExactHandlers (normalized : List Char) : Option (Handler V) :=
  match String.ofList normalized with
  | "*IDN?" => some (answers (.line sim.idn))
  | "*OPT?" => some (answers (.line sim.opt))
  | "*CLS" => some clearsErrorQueue
  | "*RST" => some (answers .none)
  | "*TST?" => some (answers (.line "0"))
  | "*STB?" => some (answers (.line "0"))
  | "*ESR?" => some (answers (.line "0"))
  | "*ESE?" => some (answers (.line "0"))
  | "*SRE?" => some (answers (.line "0"))
  | "*OPC" => some (answers .none)
  | "*OPC?" => some (answers (.line "1"))
  | "*WAI" => some (answers .none)
  | "SYST:ERR?" => some readsErrorQueue
  | "SYSTEM:ERR?" => some readsErrorQueue
  | "SYST:ERROR?" => some readsErrorQueue
  | "SYSTEM:ERROR?" => some readsErrorQueue
  | _ => none

def placeholder (command : ParsedCommand) : CommandResult := if command.isQuery then .line "" else .none

def dispatch : Handler V := fun command state =>
  match sim.personality.exactHandlers command.normalized with
  | some handler => handler command state
  | none =>
      match sim.personality.prefixHandlers.find? fun entry => entry.1 command.normalized with
      | some entry => entry.2 command state
      | none =>
          match sim.personality.responses command.normalized with
          | some text => (state,.returns (.ok (if command.isQuery then .line text else .none)))
          | none =>
              match commonExactHandlers sim command.normalized with
              | some handler => handler command state
              | none => (pushError state (-113) s!"Undefined header: {String.ofList command.raw}",
                  .returns (.ok (placeholder command)))

/- The end of `handleLine`: what a handler throws becomes an error of the queue. -/
def handled (command : ParsedCommand) (outcome : Except String CommandResult) (state : SessionState V) :
    SessionState V × CommandResult :=
  match outcome with
  | .ok result => (state,result)
  | .error message => (pushError state (-100) s!"command error: {message}",placeholder command)

/- The calls of `socket.write` that a result leads to. -/
def writes : CommandResult → List Bytes
  | .none => []
  | .line text => [encode text, sim.terminator]
  | .binary bytes => [bytes, sim.terminator]
  | .error _ _ (some text) => [encode text, sim.terminator]
  | .error _ _ none => []

def afterResult (result : CommandResult) (state : SessionState V) : SessionState V :=
  match result with
  | .error code message _ => pushError state code message
  | _ => state

def finish (s : Socket V) (command : ParsedCommand) (outcome : Except String CommandResult) : Socket V :=
  let (session,result) := handled command outcome s.session
  { s with
    session := afterResult result session
    trace := s.trace ++ (writes sim result).map .wrote }

/- The loop of `drain`: a blank line has no handler, and what a handler returns at once is answered
before anything else happens. Every round takes a byte of the buffer at least. -/
def drainFrom : Nat → Socket V → Socket V
  | 0, s => s
  | fuel + 1, s =>
      match takeLine s.buffer with
      | none => s
      | some (line,buffer) =>
          let s := { s with buffer, handed := s.handed ++ [line] }
          let command := parseCommand sim.toUpperCase line
          if command.header = [] then drainFrom fuel s
          else
            let (session,started) := dispatch sim command s.session
            let s := { s with session, trace := s.trace ++ [.began command started] }
            match started with
            | .returns outcome => drainFrom fuel (finish sim s command outcome)
            | .promises => { s with pending := s.pending ++ [command] }

def drain (s : Socket V) : Socket V := drainFrom sim s.buffer.length s

def connect : Socket V := ⟨[],sim.personality.initialState,[],[],[]⟩

/- Each chunk starts another drain; where a promise settles, its drain goes on. -/
def step (s : Socket V) : Event V → Socket V
  | .data chunk => drain sim { s with buffer := s.buffer ++ chunk }
  | .settles index outcome changed =>
      match s.pending[index]? with
      | none => s
      | some command =>
          let s := { s with
            pending := s.pending.eraseIdx index, session := changed s.session
            trace := s.trace ++ [.settled command outcome] }
          drain sim (finish sim s command outcome)

def chunkOf : Event V → Bytes
  | .data chunk => chunk
  | .settles _ _ _ => []

def delivered (events : List (Event V)) : Bytes := events.flatMap chunkOf

def commandsOf (lines : List String) : List ParsedCommand :=
  (lines.map (parseCommand sim.toUpperCase)).filter fun command => command.header ≠ []

/- What goes back for what a handler came to: a text or bytes with the terminator behind them, or
nothing. A query whose handler throws gets an empty line. -/
inductive RepliesTo : ParsedCommand → Except String CommandResult → Bytes → Prop
  | none (command) : RepliesTo command (.ok .none) []
  | line (command text) : RepliesTo command (.ok (.line text)) (encode text ++ sim.terminator)
  | binary (command bytes) : RepliesTo command (.ok (.binary bytes)) (bytes ++ sim.terminator)
  | error (command code message) : RepliesTo command (.ok (.error code message none)) []
  | placeholder (command code message text) :
      RepliesTo command (.ok (.error code message (some text))) (encode text ++ sim.terminator)
  | threwOnQuery {command} (message) (query : command.isQuery = true) :
      RepliesTo command (.error message) sim.terminator
  | threw {command} (message) (silent : command.isQuery = false) : RepliesTo command (.error message) []

/- A command that is done: what its handler gave back, what that came to, and the writes that followed. -/
structure Done where
  command : ParsedCommand
  started : Started
  outcome : Except String CommandResult
  parts : List Bytes

def Done.actions (done : Done) : List Action :=
  .began done.command done.started ::
    (match done.started with
      | .returns _ => []
      | .promises => [.settled done.command done.outcome]) ++ done.parts.map .wrote

structure Done.Answered (done : Done) : Prop where
  own : ∀ outcome, done.started = .returns outcome → done.outcome = outcome
  reply : RepliesTo sim done.command done.outcome done.parts.flatten

/- The handlers of all commands so far have run one after the other in the order of the commands, each
up to the end of its reply, but for the last one, which may still be awaited. -/
structure OneByOne (s : Socket V) : Prop where
  alone : s.pending.length ≤ 1
  order : ∃ done : List Done, s.trace = done.flatMap Done.actions ++ s.pending.map (.began · .promises) ∧
    done.map Done.command ++ s.pending = commandsOf sim s.handed ∧ ∀ one ∈ done, one.Answered sim

def wire (s : Socket V) : Connection := ⟨s.buffer,s.pending.length,s.handed⟩

structure InOrder (events : List (Event V)) : Prop where
  received : ∀ seen, seen <+: events → ∃ lines, Split (delivered seen) (wire (run (step sim) (connect sim) seen)) lines
  handlers : Throughout (step sim) (OneByOne sim) (connect sim) events

def CommandWaits (buffer : Bytes) : Prop :=
  ∃ (lines : List Line) (l : Line) (rest : Bytes), buffer = lines.flatMap Line.bytes ++ l.bytes ++ rest ∧
    (parseCommand sim.toUpperCase (lineOf l.body)).header ≠ []

/- No chunk comes while a handler is awaited and leaves a whole command in the buffer. -/
def Unhurried (s : Socket V) : Event V → Prop
  | .data chunk => s.pending ≠ [] → ¬ CommandWaits sim (s.buffer ++ chunk)
  | .settles _ _ _ => True

end

section
variable {V : Type} {sim : Simulator V}

theorem waitsNot {buffer : Bytes} (noLf : LF ∉ buffer) : ¬ CommandWaits sim buffer := by
  rintro ⟨lines,l,rest,rfl,-⟩
  exact noLf (by simp [Line.bytes])

theorem waitsFirst (l : Line) (rest : Bytes) : CommandWaits sim (l.bytes ++ rest) ↔
    (parseCommand sim.toUpperCase (lineOf l.body)).header ≠ [] ∨ CommandWaits sim rest := by
  constructor
  · rintro ⟨lines,l',rest',same,command⟩
    cases lines with
    | nil =>
      rw [List.flatMap_nil,List.nil_append,Line.bytes,Line.bytes,List.append_assoc,List.append_assoc] at same
      obtain ⟨body,-⟩ := cutAt l.noLf l'.noLf same
      exact .inl (body ▸ command)
    | cons first lines =>
      rw [List.flatMap_cons,List.append_assoc,List.append_assoc,Line.bytes,Line.bytes,List.append_assoc,
        List.append_assoc] at same
      obtain ⟨-,later⟩ := cutAt l.noLf first.noLf same
      exact .inr ⟨lines,l',rest',by simpa [Line.bytes] using later,command⟩
  · rintro (command | ⟨lines,l',rest',rfl,command⟩)
    · exact ⟨[],l,rest,rfl,command⟩
    · exact ⟨l :: lines,l',rest',by simp,command⟩

theorem commandsSnoc (lines : List String) (line : String) : commandsOf sim (lines ++ [line]) =
    commandsOf sim lines ++ if (parseCommand sim.toUpperCase line).header = [] then []
      else [parseCommand sim.toUpperCase line] := by
  simp only [commandsOf,List.map_append,List.filter_append,List.map_cons,List.map_nil]
  split
  · rename_i blank
    simp [blank]
  · rename_i command
    simp [command]

variable (sim) in
theorem roundCases (fuel : Nat) (s : Socket V) :
    (LF ∉ s.buffer ∧ drainFrom sim (fuel + 1) s = s) ∨ ∃ (l : Line) (rest : Bytes), s.buffer = l.bytes ++ rest ∧
      let command := parseCommand sim.toUpperCase (lineOf l.body)
      let taken := { s with buffer := rest, handed := s.handed ++ [lineOf l.body] }
      let begun := { taken with
        session := (dispatch sim command s.session).1
        trace := s.trace ++ [.began command (dispatch sim command s.session).2] }
      (command.header = [] ∧ drainFrom sim (fuel + 1) s = drainFrom sim fuel taken) ∨
      (command.header ≠ [] ∧
        ((∃ outcome, (dispatch sim command s.session).2 = .returns outcome ∧
            drainFrom sim (fuel + 1) s = drainFrom sim fuel (finish sim begun command outcome)) ∨
          ((dispatch sim command s.session).2 = .promises ∧
            drainFrom sim (fuel + 1) s = { begun with pending := s.pending ++ [command] }))) := by
  by_cases some_ : LF ∈ s.buffer
  · right
    obtain ⟨l,rest,same⟩ := firstLine some_
    refine ⟨l,rest,same,?_⟩
    intro command taken begun
    rw [drainFrom,same,takeLineWhole]
    dsimp only
    split
    · rename_i blank
      exact .inl ⟨blank,rfl⟩
    · rename_i header
      refine .inr ⟨header,?_⟩
      split
      · rename_i outcome started
        exact .inl ⟨outcome,started,rfl⟩
      · rename_i started
        exact .inr ⟨started,rfl⟩
  · left
    refine ⟨some_,?_⟩
    rw [drainFrom,takeLineNone some_]

theorem shorter {s : Socket V} {l : Line} {rest : Bytes} {fuel : Nat} (same : s.buffer = l.bytes ++ rest)
    (fits : s.buffer.length ≤ fuel + 1) : rest.length ≤ fuel := by
  rw [same] at fits
  simp only [Line.bytes,List.length_append,List.length_singleton] at fits
  omega

theorem repliesWrites (command : ParsedCommand) (outcome : Except String CommandResult) (state : SessionState V) :
    RepliesTo sim command outcome (writes sim (handled command outcome state).2).flatten := by
  cases outcome with
  | error message =>
    cases query : command.isQuery with
    | true => simpa [handled,placeholder,query,writes,encode] using RepliesTo.threwOnQuery message query
    | false => simpa [handled,placeholder,query,writes] using RepliesTo.threw message query
  | ok result =>
    cases result with
    | none => exact .none command
    | line text => simpa [handled,writes] using RepliesTo.line command text
    | binary bytes => simpa [handled,writes] using RepliesTo.binary command bytes
    | error code message text =>
      cases text with
      | none => exact .error command code message
      | some text => simpa [handled,writes] using RepliesTo.placeholder command code message text

theorem traceGrows (fuel : Nat) (s : Socket V) : s.trace <+: (drainFrom sim fuel s).trace := by
  induction fuel generalizing s with
  | zero => exact List.prefix_refl _
  | succ fuel ih =>
    rcases roundCases sim fuel s with ⟨-,stops⟩ | ⟨l,rest,-,⟨-,next⟩ | ⟨-,⟨outcome,-,next⟩ | ⟨-,next⟩⟩⟩
    · exact ⟨[],by rw [stops,List.append_nil]⟩
    · rw [next]
      exact ih { s with buffer := rest, handed := s.handed ++ [lineOf l.body] }
    · rw [next]
      refine List.IsPrefix.trans ?_ (ih _)
      simp only [finish,List.append_assoc]
      exact List.prefix_append _ _
    · rw [next]
      exact List.prefix_append _ _

theorem drainSplit {fuel : Nat} {s : Socket V} (fits : s.buffer.length ≤ fuel) {stream : Bytes} (lines : List Line)
    (whole : stream = lines.flatMap Line.bytes ++ s.buffer) (handed : s.handed = lines.map fun l => lineOf l.body) :
    ∃ lines, Split stream (wire (drainFrom sim fuel s)) lines := by
  induction fuel generalizing s lines with
  | zero =>
    have none_ : s.buffer = [] := List.length_eq_zero_iff.mp (Nat.le_zero.mp fits)
    exact ⟨lines,whole,handed,fun _ => by simp [wire,drainFrom,none_]⟩
  | succ fuel ih =>
    rcases roundCases sim fuel s with ⟨noLf,stops⟩ | ⟨l,rest,same,⟨-,next⟩ | ⟨-,⟨outcome,-,next⟩ | ⟨-,next⟩⟩⟩
    · rw [stops]
      exact ⟨lines,whole,handed,fun _ => noLf⟩
    · rw [next]
      exact ih (shorter same fits) (lines ++ [l]) (by simp [whole,same]) (by simp [handed])
    · rw [next]
      exact ih (shorter same fits) (lines ++ [l]) (by simp [finish,whole,same]) (by simp [finish,handed])
    · rw [next]
      refine ⟨lines ++ [l],by simp [wire,whole,same],by simp [wire,handed,lineOf],fun none_ => ?_⟩
      simp [wire] at none_

structure Idle (sim : Simulator V) (s : Socket V) : Prop where
  pending : s.pending = []
  order : ∃ done : List Done, s.trace = done.flatMap Done.actions ∧
    done.map Done.command = commandsOf sim s.handed ∧ ∀ one ∈ done, one.Answered sim

theorem idleFinish {s : Socket V} {done : List Done} {command : ParsedCommand} (started : Started)
    (outcome : Except String CommandResult) (none_ : s.pending = [])
    (own : ∀ own, started = .returns own → outcome = own)
    (trace : s.trace = done.flatMap Done.actions ++ Done.actions ⟨command,started,outcome,[]⟩)
    (order : done.map Done.command ++ [command] = commandsOf sim s.handed) (answered : ∀ one ∈ done, one.Answered sim) :
    Idle sim (finish sim s command outcome) := by
  let one : Done := ⟨command,started,outcome,writes sim (handled command outcome s.session).2⟩
  refine ⟨none_,done ++ [one],?_,?_,?_⟩
  · simp [finish,trace,one,Done.actions]
  · simpa [finish] using order
  · rw [List.forall_mem_append,List.forall_mem_singleton]
    exact ⟨answered,own,repliesWrites command outcome s.session⟩

theorem drainIdle {fuel : Nat} {s : Socket V} (idle : Idle sim s) : OneByOne sim (drainFrom sim fuel s) := by
  induction fuel generalizing s with
  | zero =>
    obtain ⟨none_,done,trace,order,answered⟩ := idle
    exact ⟨by simp [drainFrom,none_],done,by simp [drainFrom,none_,trace],by simp [drainFrom,none_,order],answered⟩
  | succ fuel ih =>
    obtain ⟨none_,done,trace,order,answered⟩ := idle
    rcases roundCases sim fuel s with
      ⟨-,stops⟩ | ⟨l,rest,-,⟨blank,next⟩ | ⟨header,⟨outcome,started,next⟩ | ⟨started,next⟩⟩⟩
    · rw [stops]
      exact ⟨by simp [none_],done,by simp [none_,trace],by simp [none_,order],answered⟩
    · rw [next]
      exact ih ⟨none_,done,trace,by rw [commandsSnoc,if_pos blank,List.append_nil,order],answered⟩
    · rw [next]
      refine ih (idleFinish (.returns outcome) outcome none_ ?_ ?_ ?_ answered)
      · rintro _ ⟨⟩
        rfl
      · simp [trace,started,Done.actions]
      · rw [order,commandsSnoc,if_neg header]
    · rw [next]
      refine ⟨by simp [none_],done,by simp [none_,trace,started],?_,answered⟩
      simp only [none_,List.nil_append,order,commandsSnoc,if_neg header]

variable (sim) in
theorem drainBusy {fuel : Nat} (s : Socket V) (fits : s.buffer.length ≤ fuel) :
    (¬ CommandWaits sim s.buffer ∧ (drainFrom sim fuel s).trace = s.trace ∧
      (drainFrom sim fuel s).pending = s.pending ∧
      commandsOf sim (drainFrom sim fuel s).handed = commandsOf sim s.handed) ∨
    (CommandWaits sim s.buffer ∧
      ∃ d started, (s.trace ++ [.began d started]) <+: (drainFrom sim fuel s).trace) := by
  induction fuel generalizing s with
  | zero =>
    have none_ : s.buffer = [] := List.length_eq_zero_iff.mp (Nat.le_zero.mp fits)
    exact .inl ⟨waitsNot (by simp [none_]),rfl,rfl,rfl⟩
  | succ fuel ih =>
    rcases roundCases sim fuel s with
      ⟨noLf,stops⟩ | ⟨l,rest,same,⟨blank,next⟩ | ⟨header,⟨outcome,started,next⟩ | ⟨started,next⟩⟩⟩
    · rw [stops]
      exact .inl ⟨waitsNot noLf,rfl,rfl,rfl⟩
    · rw [next,same,waitsFirst]
      have later := ih { s with buffer := rest, handed := s.handed ++ [lineOf l.body] } (shorter same fits)
      rw [commandsSnoc,if_pos blank,List.append_nil] at later
      simpa [blank] using later
    · rw [next,same,waitsFirst]
      refine .inr ⟨.inl header,parseCommand sim.toUpperCase (lineOf l.body),
        (dispatch sim (parseCommand sim.toUpperCase (lineOf l.body)) s.session).2,?_⟩
      refine List.IsPrefix.trans ?_ (traceGrows fuel _)
      exact List.prefix_append _ _
    · rw [next,same,waitsFirst]
      exact .inr ⟨.inl header,_,_,List.prefix_refl _⟩

def react : Bool → Action → Option Bool
  | false, .began _ .promises => some true
  | false, .began _ (.returns _) => some false
  | true, .settled _ _ => some false
  | false, .wrote _ => some false
  | _, _ => none

def scan (busy : Bool) (trace : List Action) : Option Bool := trace.foldlM react busy

theorem scanAppend (busy : Bool) (first last : List Action) :
    scan busy (first ++ last) = (scan busy first).bind fun busy => scan busy last := List.foldlM_append

theorem scanCons (busy : Bool) (action : Action) (later : List Action) :
    scan busy (action :: later) = (react busy action).bind fun busy => scan busy later := List.foldlM_cons

theorem scanWrites (parts : List Bytes) : scan false (parts.map .wrote) = some false := by
  induction parts with
  | nil => rfl
  | cons part parts ih => exact ih

theorem scanDone (done : List Done) : scan false (done.flatMap Done.actions) = some false := by
  induction done with
  | nil => rfl
  | cons one done ih =>
    have first : scan false one.actions = some false := by
      obtain ⟨command,started,outcome,parts⟩ := one
      cases started with
      | returns _ =>
        rw [Done.actions,List.cons_append,scanCons,react,Option.bind_some]
        exact scanWrites parts
      | promises =>
        rw [Done.actions,List.cons_append,scanCons,react,Option.bind_some,List.singleton_append,scanCons,react,
          Option.bind_some]
        exact scanWrites parts
    rw [List.flatMap_cons,scanAppend,first,Option.bind_some,ih]

theorem OneByOne.scanned {s : Socket V} (one : OneByOne sim s) : scan false s.trace = some (s.pending ≠ [] : Bool) := by
  obtain ⟨alone,done,trace,-⟩ := one
  rw [trace,scanAppend,scanDone]
  match same : s.pending with
  | [] => rfl
  | [command] => rfl
  | _ :: _ :: _ => simp [same] at alone

theorem beganTwice {s s' : Socket V} (one : OneByOne sim s) (busy : s.pending ≠ []) {d : ParsedCommand}
    {started : Started} (again : (s.trace ++ [.began d started]) <+: s'.trace) : ¬ OneByOne sim s' := by
  intro after
  obtain ⟨later,same⟩ := again
  have scanned := after.scanned
  have second : scan true [.began d started] = none := by cases started <;> rfl
  rw [← same,scanAppend,scanAppend,one.scanned,Option.bind_some,decide_eq_true busy,second] at scanned
  cases scanned

theorem OneByOne.idle {s : Socket V} (one : OneByOne sim s) (none_ : s.pending = []) : Idle sim s := by
  obtain ⟨-,done,trace,order,answered⟩ := one
  exact ⟨none_,done,by simpa [none_] using trace,by simpa [none_] using order,answered⟩

theorem settledIdle {s : Socket V} (one : OneByOne sim s) {index : Nat} {command : ParsedCommand}
    (found : s.pending[index]? = some command) (outcome : Except String CommandResult)
    (changed : SessionState V → SessionState V) :
    Idle sim (finish sim { s with
      pending := s.pending.eraseIdx index, session := changed s.session
      trace := s.trace ++ [.settled command outcome] } command outcome) := by
  obtain ⟨alone,done,trace,order,answered⟩ := one
  have single : s.pending = [command] ∧ index = 0 := by
    have within := (List.getElem?_eq_some_iff.mp found).1
    have first : index = 0 := by omega
    obtain ⟨other,same⟩ := List.length_eq_one_iff.mp (show s.pending.length = 1 by omega)
    rw [same,first] at found
    exact ⟨by rw [same,Option.some.inj found],first⟩
  obtain ⟨same,rfl⟩ := single
  rw [same] at trace order
  refine idleFinish .promises outcome (by simp [same]) ?_ ?_ order answered
  · rintro _ ⟨⟩
  · simp [trace,Done.actions]

theorem stepOneByOne {s : Socket V} (one : OneByOne sim s) (e : Event V) :
    OneByOne sim (step sim s e) ↔ Unhurried sim s e := by
  cases e with
  | data chunk =>
    rw [step,Unhurried]
    by_cases none_ : s.pending = []
    · have idle := one.idle none_
      exact iff_of_true (drainIdle ⟨none_,idle.order⟩) fun busy => absurd none_ busy
    · rcases drainBusy sim { s with buffer := s.buffer ++ chunk } (Nat.le_refl _) with
        ⟨quiet,trace,pending,handed⟩ | ⟨waits,d,started,again⟩
      · obtain ⟨alone,done,before,order,answered⟩ := one
        refine iff_of_true ⟨?_,done,?_,?_,answered⟩ fun _ => quiet
        · rw [drain,pending]
          exact alone
        · rw [drain,trace,pending]
          exact before
        · rw [drain,handed,pending]
          exact order
      · exact iff_of_false (beganTwice one none_ again) fun unhurried => unhurried none_ waits
  | settles index outcome changed =>
    rw [step]
    split
    · exact iff_of_true one trivial
    · rename_i command found
      exact iff_of_true (drainIdle (settledIdle one found outcome changed)) trivial

theorem startOneByOne : OneByOne sim (connect sim) := ⟨by simp [connect],[],rfl,rfl,by simp⟩

theorem stepSplit {stream : Bytes} {s : Socket V} {lines : List Line} (split : Split stream (wire s) lines)
    (e : Event V) : ∃ lines, Split (stream ++ chunkOf e) (wire (step sim s e)) lines := by
  obtain ⟨stream',handed,rest⟩ := split
  cases e with
  | data chunk => exact drainSplit (Nat.le_refl _) lines (by simp [chunkOf,stream',wire]) handed
  | settles index outcome changed =>
    rw [step]
    split
    · exact ⟨lines,by simp [chunkOf,stream'],handed,rest⟩
    · exact drainSplit (Nat.le_refl _) lines (by simp [chunkOf,stream',wire,finish]) handed

theorem runSplit (events : List (Event V)) :
    ∃ lines, Split (delivered events) (wire (run (step sim) (connect sim) events)) lines := by
  induction events using List.reverseRecOn with
  | nil => exact ⟨[],rfl,rfl,fun _ => List.not_mem_nil⟩
  | append_singleton events e ih =>
    obtain ⟨lines,split⟩ := ih
    rw [runAppend]
    simpa [delivered] using stepSplit split e

end

/-- Every chunk starts a drain of its own. The handlers of a socket run one after the other and the
replies follow the commands exactly in the runs where no chunk completes a command while a handler is
still awaited. -/
theorem repliesInOrder {V : Type} (sim : Simulator V) (events : List (Event V)) :
    InOrder sim events ↔ Along (step sim) (Unhurried sim) (connect sim) events := by
  have exact (s : Socket V) (e : Event V) (one : OneByOne sim s) :
      OneByOne sim (step sim s e) ↔ Unhurried sim s e := stepOneByOne one e
  have keep (s : Socket V) (e : Event V) (one : OneByOne sim s) (unhurried : Unhurried sim s e) :
      OneByOne sim (step sim s e) := (exact s e one).mpr unhurried
  have handlers := throughoutIffAlong keep exact startOneByOne startOneByOne events
  constructor
  · intro inOrder
    exact handlers.mp inOrder.handlers
  · intro along
    exact ⟨fun seen _ => runSplit seen,handlers.mpr along⟩

def slow : Simulator Unit :=
  ⟨⟨fun normalized => if normalized = "SLOW?".toList then some fun _ state => (state,.promises) else none,[],
    fun _ => none,⟨[],()⟩⟩,"SIM","",[LF],id⟩

/-- `SLOW?` is still awaited when `*OPC?` comes, and its reply is written before that of `SLOW?`. -/
theorem slowQueryOvertaken : ¬ InOrder slow [.data (encode "SLOW?\n"),.data (encode "*OPC?\n"),
    .settles 0 (.ok (.line "2")) id] := by
  intro inOrder
  have scanned := (inOrder.handlers _ (List.prefix_refl _)).scanned
  revert scanned
  decide

end LxiWeb.SimulatorReplies
