import LxiWeb.EventRuns
import LxiWeb.ScpiFraming

/-! One `ScpiSession` between its callers, its timers and its transport. An event is what
the JavaScript event loop hands to the session; everything up to the next `await` runs in
one step. `writing` and `timers` hold the suspended continuations of `pump` and the armed
deadlines, and `log` every call the session made outwards, oldest first. -/
namespace LxiWeb.ScpiSession
open JsText ScpiFraming

inductive ReadMode where
  | none | line | binary
  deriving DecidableEq, Repr

/-- A queued job. `id` is the identity of the job object. -/
structure Job where
  id : Nat
  request : Request
  mode : ReadMode
  timeoutMs : Int
  deriving DecidableEq, Repr

inductive Value where
  | undefined
  | text (reply : String)
  | bytes (block : Bytes)
  deriving DecidableEq, Repr

inductive Effect where
  | enqueued (job : Job)
  | refused (request : Request) (err : JsError)
  | frame (job : Job) (bytes : Bytes)
  | resolved (job : Job) (value : Value)
  | rejected (job : Job) (err : JsError)
  | closeTransport
  | notified (listener : Nat) (err : Option JsError)
  deriving DecidableEq, Repr

structure Session where
  terminator : Bytes
  defaultTimeoutMs : Int
  queue : List Job
  buffer : Bytes
  inFlight : Option Job
  closed : Bool
  listening : Bool
  closeListeners : List Nat
  writing : List Job
  timers : List Nat
  nextId : Nat
  log : List Effect
  deriving DecidableEq, Repr

def create (terminator : Bytes := [LF]) (defaultTimeoutMs : Int := 5000) : Session :=
  { terminator, defaultTimeoutMs, queue := [], buffer := [], inFlight := none, closed := false,
    listening := true, closeListeners := [], writing := [], timers := [], nextId := 0, log := [] }

def pump (s : Session) : Session :=
  if s.inFlight.isSome ∨ s.closed then s else
  match s.queue with
  | [] => s
  | job :: rest =>
      { s with
        queue := rest, inFlight := some job, writing := s.writing ++ [job]
        log := s.log ++ [.frame job (ScpiFraming.frame s.terminator job.request)] }

def push (s : Session) (job : Job) : Session :=
  { s with queue := s.queue ++ [job], nextId := s.nextId + 1, log := s.log ++ [.enqueued job] }

def enqueue (s : Session) (request : Request) (mode : ReadMode) (timeoutMs : Int) : Session :=
  if s.closed then { s with log := s.log ++ [.refused request (scpiClosedError)] } else
  pump (push s ⟨s.nextId,request,mode,timeoutMs⟩)

def armDeadline (s : Session) (job : Job) : Session :=
  if job.timeoutMs ≤ 0 then s else { s with timers := s.timers ++ [job.id] }

def clearDeadline (s : Session) (job : Job) : Session :=
  { s with timers := s.timers.filter (· ≠ job.id) }

def release (s : Session) (job : Job) (outcome : Effect) : Session :=
  let cleared := clearDeadline { s with inFlight := none } job
  { cleared with log := cleared.log ++ [outcome] }

def settle (s : Session) (outcome : Job → Effect) : Session :=
  match s.inFlight with
  | none => s
  | some job => pump (release s job (outcome job))

def completeInFlight (s : Session) (value : Value) : Session := settle s (.resolved · value)

def failInFlight (s : Session) (err : JsError) : Session := settle s (.rejected · (toScpiError err))

def tryDeliver (s : Session) : Session :=
  match s.inFlight with
  | none => s
  | some job =>
    match job.mode with
    | .none => s
    | .line =>
      match consumeLine s.buffer with
      | none => s
      | some (line,rest) => completeInFlight { s with buffer := rest } (.text line)
    | .binary =>
      match consumeBinaryBlock s.buffer with
      | .error err => failInFlight s err
      | .ok none => s
      | .ok (some (block,rest)) => completeInFlight { s with buffer := rest } (.bytes block)

def handleData (s : Session) (chunk : Bytes) : Session :=
  if s.closed then s else tryDeliver { s with buffer := s.buffer ++ chunk }

def timeoutError (job : Job) : JsError :=
  let command := match job.request with | .command text => text | .block _ _ => "(no command)"
  scpiTimeoutError s!"no reply within {job.timeoutMs}ms for {command}"

/- `pump` resumes after the transport accepted the frame of `job`. -/
def resumePump (s : Session) (job : Job) : Session :=
  match job.mode with
  | .none => completeInFlight s .undefined
  | _ => tryDeliver (armDeadline s job)

def rejectAll (s : Session) (jobs : List Job) (err : JsError) : Session :=
  { s with log := s.log ++ jobs.map (.rejected · err) }

def close (s : Session) : Session :=
  if s.closed then s else
  let err := scpiClosedError
  let s := rejectAll { s with closed := true, inFlight := none } s.inFlight.toList err
  let s := rejectAll { s with queue := [] } s.queue err
  { s with listening := false, log := s.log ++ [.closeTransport] }

def handleClose (s : Session) (err : Option JsError) : Session :=
  if s.closed then s else
  let wrapped := err.getD (scpiClosedError "transport closed")
  let s := failInFlight { s with closed := true } wrapped
  let s := rejectAll { s with queue := [] } s.queue (toScpiError wrapped)
  { s with log := s.log ++ s.closeListeners.map (.notified · err) }

inductive Event where
  | write (command : String)
  | writeBinary (command : String) (data : Bytes)
  | query (command : String) (timeoutMs : Option Int)
  | queryBinary (command : String) (timeoutMs : Option Int)
  | data (chunk : Bytes)
  | writeResolved (id : Nat)
  | writeRejected (id : Nat) (err : JsError)
  | deadline (id : Nat)
  | close
  | transportClosed (err : Option JsError)
  | onClose (listener : Nat)
  | offClose (listener : Nat)
  deriving DecidableEq, Repr

def step (s : Session) : Event → Session
  | .write command => enqueue s (.command command) .none s.defaultTimeoutMs
  | .writeBinary command data => enqueue s (.block command data) .none s.defaultTimeoutMs
  | .query command timeoutMs =>
      enqueue s (.command command) .line (timeoutMs.getD s.defaultTimeoutMs)
  | .queryBinary command timeoutMs =>
      enqueue s (.command command) .binary (timeoutMs.getD s.defaultTimeoutMs)
  | .data chunk => if s.listening then handleData s chunk else s
  | .writeResolved id =>
      match s.writing.find? (·.id = id) with
      | none => s
      | some job => resumePump { s with writing := s.writing.erase job } job
  | .writeRejected id err =>
      match s.writing.find? (·.id = id) with
      | none => s
      | some job => failInFlight { s with writing := s.writing.erase job } err
  | .deadline id =>
      if id ∈ s.timers then
        let fired := { s with timers := s.timers.filter (· ≠ id) }
        match s.inFlight with
        | some job => if job.id = id then failInFlight fired (timeoutError job) else fired
        | none => fired
      else s
  | .close => close s
  | .transportClosed err => if s.listening then handleClose s err else s
  | .onClose listener =>
      if listener ∈ s.closeListeners then s
      else { s with closeListeners := s.closeListeners ++ [listener] }
  | .offClose listener => { s with closeListeners := s.closeListeners.erase listener }

theorem settleIdle {s : Session} (free : s.inFlight = none) (outcome) : settle s outcome = s := by
  simp [settle,free]

theorem pumpCases (s : Session) :
    pump s = s ∨ ∃ job rest, s.inFlight = none ∧ s.closed = false ∧ s.queue = job :: rest ∧
      pump s = { s with
        queue := rest, inFlight := some job, writing := s.writing ++ [job]
        log := s.log ++ [.frame job (ScpiFraming.frame s.terminator job.request)] } := by
  unfold pump
  split
  · exact .inl rfl
  · rename_i free
    simp only [not_or,Bool.not_eq_true,Option.isSome_eq_false_iff,Option.isNone_iff_eq_none] at free
    split
    · exact .inl rfl
    · rename_i job rest queued
      exact .inr ⟨job,rest,free.1,free.2,queued,rfl⟩

def Effect.enqueuedJob : Effect → Option Job
  | .enqueued job => some job
  | _ => none

def Effect.handedJob : Effect → Option Job
  | .frame job _ => some job
  | _ => none

def Effect.settledJob : Effect → Option Job
  | .resolved job _ | .rejected job _ => some job
  | _ => none

section
variable (job : Job)

@[simp] theorem enqueuedEffect : (Effect.enqueued job).enqueuedJob = some job ∧
    (Effect.enqueued job).handedJob = none ∧ (Effect.enqueued job).settledJob = none :=
  ⟨rfl,rfl,rfl⟩

@[simp] theorem refusedEffect (request err) : (Effect.refused request err).enqueuedJob = none ∧
    (Effect.refused request err).handedJob = none ∧
    (Effect.refused request err).settledJob = none := ⟨rfl,rfl,rfl⟩

@[simp] theorem frameEffect (bytes) : (Effect.frame job bytes).enqueuedJob = none ∧
    (Effect.frame job bytes).handedJob = some job ∧
    (Effect.frame job bytes).settledJob = none := ⟨rfl,rfl,rfl⟩

@[simp] theorem closeEffect : Effect.closeTransport.enqueuedJob = none ∧
    Effect.closeTransport.handedJob = none ∧ Effect.closeTransport.settledJob = none :=
  ⟨rfl,rfl,rfl⟩

end

def enqueuedJobs (log : List Effect) : List Job := log.filterMap Effect.enqueuedJob
def handedJobs (log : List Effect) : List Job := log.filterMap Effect.handedJob
def settledJobs (log : List Effect) : List Job := log.filterMap Effect.settledJob

section
variable (e : Effect) (log more : List Effect)

@[simp] theorem enqueuedNil : enqueuedJobs [] = [] := rfl
@[simp] theorem handedNil : handedJobs [] = [] := rfl
@[simp] theorem settledNil : settledJobs [] = [] := rfl

@[simp] theorem enqueuedOne : enqueuedJobs [e] = e.enqueuedJob.toList := by
  cases e <;> rfl

@[simp] theorem handedOne : handedJobs [e] = e.handedJob.toList := by
  cases e <;> rfl

@[simp] theorem settledOne : settledJobs [e] = e.settledJob.toList := by
  cases e <;> rfl

@[simp] theorem enqueuedAppend :
    enqueuedJobs (log ++ more) = enqueuedJobs log ++ enqueuedJobs more := List.filterMap_append

@[simp] theorem handedAppend : handedJobs (log ++ more) = handedJobs log ++ handedJobs more :=
  List.filterMap_append

@[simp] theorem settledAppend : settledJobs (log ++ more) = settledJobs log ++ settledJobs more :=
  List.filterMap_append

end

section
variable (jobs : List Job) (err : JsError)

@[simp] theorem enqueuedRejections : enqueuedJobs (jobs.map (.rejected · err)) = [] := by
  simp [enqueuedJobs,Effect.enqueuedJob,List.filterMap_map]

@[simp] theorem handedRejections : handedJobs (jobs.map (.rejected · err)) = [] := by
  simp [handedJobs,Effect.handedJob,List.filterMap_map]

@[simp] theorem settledRejections : settledJobs (jobs.map (.rejected · err)) = jobs := by
  simp [settledJobs,Effect.settledJob,List.filterMap_map,Function.comp_def]

end

section
variable (listeners : List Nat) (err : Option JsError)

@[simp] theorem enqueuedNotices : enqueuedJobs (listeners.map (.notified · err)) = [] := by
  simp [enqueuedJobs,Effect.enqueuedJob,List.filterMap_map]

@[simp] theorem handedNotices : handedJobs (listeners.map (.notified · err)) = [] := by
  simp [handedJobs,Effect.handedJob,List.filterMap_map]

@[simp] theorem settledNotices : settledJobs (listeners.map (.notified · err)) = [] := by
  simp [settledJobs,Effect.settledJob,List.filterMap_map]

end

end LxiWeb.ScpiSession
