import LxiWeb.JsText
import LxiWeb.RingBuffers
import LxiWeb.ScpiFraming
import Mathlib.Logic.Function.Basic

/-! `SessionManager` between its callers, its instruments and the event loop. Session objects,
calls of `establish` and what those calls made (a ScpiSession, two rings, a poller) are numbered
in the order they are made; a ScpiSession, a ring and a poller carry the number of their call.
An event is what the event loop hands over, and everything up to the next `await` is one step. -/
namespace LxiWeb.SessionManager
open JsText RingBuffers ScpiFraming

inductive SessionStatus where
  | connecting | connected | error
  deriving DecidableEq, Repr

inductive DeviceKind where
  | oscilloscope | powerSupply | multimeter | electronicLoad | signalGenerator | spectrumAnalyzer
  | unknown
  deriving DecidableEq, Repr

structure DeviceIdentity where
  manufacturer : String
  model : String
  serial : Option String
  firmware : Option String
  raw : String
  deriving DecidableEq, Repr

def parseIdn (raw : String) : DeviceIdentity :=
  let trimmed := trim raw.toList
  let parts := (trimmed.splitOn ',').map trim
  let present (text : List Char) : Option String :=
    if text = [] then none else some (String.ofList text)
  { manufacturer := String.ofList (parts.getD 0 [])
    model := String.ofList (parts.getD 1 [])
    serial := present (parts.getD 2 [])
    firmware := present ([','].intercalate (parts.drop 3))
    raw := String.ofList trimmed }

structure Facade where
  kind : DeviceKind
  outputKillable : Bool
  deriving DecidableEq, Repr

abbrev Create := DeviceIdentity → Except JsError Facade

structure DriverEntry where
  id : String
  kind : DeviceKind
  create : Create
  refine : Bool

structure SessionSummary where
  id : Nat
  host : String
  port : Int
  status : SessionStatus
  kind : DeviceKind
  identity : Option DeviceIdentity
  driverId : Option String
  openedAt : Int
  error : Option String
  deriving DecidableEq, Repr

structure InternalSession where
  id : Nat
  host : String
  port : Int
  openedAt : Int
  status : SessionStatus := .connecting
  kind : DeviceKind := .unknown
  identity : Option DeviceIdentity := none
  driverId : Option String := none
  facade : Option Facade := none
  scpi : Option Nat := none
  error : Option String := none
  disposeCloseListener : Option Nat := none
  transcriptRing : Option Nat := none
  deviceErrorRing : Option Nat := none
  disposeErrorPoller : Option Nat := none
  deriving DecidableEq, Repr

def toSummary (s : InternalSession) : SessionSummary :=
  { id := s.id, host := s.host, port := s.port, status := s.status, kind := s.kind
    identity := s.identity, driverId := s.driverId, openedAt := s.openedAt, error := s.error }

structure Scpi where
  closed : Bool
  listener : Bool
  deriving DecidableEq, Repr

/- The promise a call of `establish` waits for. `staleClose` is the `scpi.close()` of a session
that has left the map, `failureClose` the one of the catch block. -/
inductive Await where
  | factory
  | idn
  | refine (identity : DeviceIdentity) (driver : DriverEntry)
  | staleClose
  | failureClose

structure Attempt where
  session : Nat
  awaiting : Option Await
  scpi : Option Scpi := none
  transcriptRing : TranscriptRing
  deviceErrorRing : DeviceErrorRing
  polling : Bool := false
  busy : Bool := false

inductive SessionEvent where
  | update (session : SessionSummary)
  | removed (id : Nat)
  | transcript (sessionId : Nat) (entries : List TranscriptEntry)
  | deviceErrors (sessionId : Nat) (entries : List DeviceErrorEntry)
  deriving DecidableEq, Repr

structure Manager where
  registry : DeviceIdentity → Option DriverEntry
  maxSessions : Nat
  transcriptRingMax : Nat
  deviceErrorRingMax : Nat
  sessions : List Nat
  session : Nat → InternalSession
  attempt : Nat → Attempt
  nextId : Nat
  nextAttempt : Nat
  -- sessions whose `close` waits for `scpi.close()`
  closing : List Nat
  emitted : List SessionEvent

def newAttempt (m : Manager) (id : Nat) (awaiting : Option Await) : Attempt :=
  { session := id, awaiting
    transcriptRing := .create m.transcriptRingMax
    deviceErrorRing := .create m.deviceErrorRingMax }

def create (registry : DeviceIdentity → Option DriverEntry) (maxSessions : Nat := 16)
    (transcriptRingMax : Nat := 2000) (deviceErrorRingMax : Nat := 200) : Manager :=
  { registry, maxSessions, transcriptRingMax, deviceErrorRingMax, sessions := []
    session := fun id => { id, host := "", port := 0, openedAt := 0 }
    attempt := fun _ =>
      { session := 0, awaiting := none, transcriptRing := .create transcriptRingMax
        deviceErrorRing := .create deviceErrorRingMax }
    nextId := 0, nextAttempt := 0, closing := [], emitted := [] }

def setSession (m : Manager) (id : Nat) (f : InternalSession → InternalSession) : Manager :=
  { m with session := Function.update m.session id (f (m.session id)) }

def setAttempt (m : Manager) (a : Nat) (f : Attempt → Attempt) : Manager :=
  { m with attempt := Function.update m.attempt a (f (m.attempt a)) }

def emit (m : Manager) (event : SessionEvent) : Manager :=
  { m with emitted := m.emitted ++ [event] }

def emitUpdate (m : Manager) (id : Nat) : Manager := emit m (.update (toSummary (m.session id)))

def list (m : Manager) : List SessionSummary := m.sessions.map fun id => toSummary (m.session id)

def get (m : Manager) (id : Nat) : Option SessionSummary :=
  if id ∈ m.sessions then some (toSummary (m.session id)) else none

def owner (m : Manager) (a : Nat) : Nat := (m.attempt a).session

def setScpi (m : Manager) (a : Nat) (f : Scpi → Scpi) : Manager :=
  setAttempt m a fun t => { t with scpi := t.scpi.map f }

-- the synchronous part of `ScpiSession.close`
def closeScpi (m : Manager) (a : Nat) : Manager := setScpi m a fun c => { c with closed := true }

def await (m : Manager) (a : Nat) (awaiting : Option Await) : Manager :=
  setAttempt m a fun t => { t with awaiting }

def disposeCloseListener (m : Manager) (id : Nat) : Manager :=
  match (m.session id).disposeCloseListener with
  | none => m
  | some a =>
      setSession (setScpi m a fun c => { c with listener := false }) id
        fun s => { s with disposeCloseListener := none }

def disposeErrorPoller (m : Manager) (id : Nat) : Manager :=
  match (m.session id).disposeErrorPoller with
  | none => m
  | some a =>
      setSession (setAttempt m a fun t => { t with polling := false }) id
        fun s => { s with disposeErrorPoller := none }

def dispose (m : Manager) (id : Nat) : Manager :=
  disposeErrorPoller (disposeCloseListener m id) id

/- `establish` up to its first `await`. -/
def establish (m : Manager) (id : Nat) : Manager :=
  { m with
    attempt := Function.update m.attempt m.nextAttempt (newAttempt m id (some .factory))
    nextAttempt := m.nextAttempt + 1 }

def DEFAULT_SCPI_PORT : Int := 5025

def openSession (m : Manager) (host : String) (port : Option Int) (now : Int) :
    Except JsError SessionSummary × Manager :=
  if m.sessions.length ≥ m.maxSessions then
    (.error ⟨.error,s!"session limit reached ({m.maxSessions})"⟩,m)
  else
    let internal : InternalSession :=
      { id := m.nextId, host, port := port.getD DEFAULT_SCPI_PORT, openedAt := now }
    let m := { m with
      sessions := m.sessions ++ [internal.id]
      session := Function.update m.session internal.id internal
      nextId := m.nextId + 1 }
    (.ok (toSummary internal),establish (emitUpdate m internal.id) internal.id)

def reconnect (m : Manager) (id : Nat) : Option SessionSummary × Manager :=
  if id ∉ m.sessions then (none,m)
  else if (m.session id).status ≠ .error then (some (toSummary (m.session id)),m)
  else
    let m := setSession m id fun s => { s with
      status := .connecting, error := none, identity := none, driverId := none, kind := .unknown
      facade := none, scpi := none, transcriptRing := none, deviceErrorRing := none }
    let m := dispose m id
    (some (toSummary (m.session id)),establish (emitUpdate m id) id)

def deleteSession (m : Manager) (id : Nat) : Manager :=
  { m with sessions := m.sessions.filter (· ≠ id) }

def awaitClose (m : Manager) (id : Nat) : Manager := { m with closing := m.closing ++ [id] }

/- `close` up to its `await`. -/
def close (m : Manager) (id : Nat) : Manager :=
  if id ∉ m.sessions then m
  else
    let m := dispose (deleteSession m id) id
    match (m.session id).scpi with
    | none => emit m (.removed id)
    | some a => awaitClose (closeScpi m a) id

def finishClose (m : Manager) (id : Nat) : Manager :=
  emit { m with closing := m.closing.filter (· ≠ id) } (.removed id)

/- The catch block of `establish` after `scpi.close()`, or where there is nothing to close. -/
def finishFailure (m : Manager) (a : Nat) : Manager :=
  let id := owner m a
  let m := setSession m id fun s => { s with transcriptRing := none, deviceErrorRing := none }
  await (emitUpdate (dispose m id) id) a none

def markError (m : Manager) (id : Nat) (err : JsError) : Manager :=
  setSession m id fun s => { s with status := .error, error := some err.message }

def failEstablish (m : Manager) (a : Nat) (err : JsError) : Manager :=
  let m := markError m (owner m a) err
  match (m.session (owner m a)).scpi with
  | some held => await (closeScpi m held) a (some .failureClose)
  | none => finishFailure m a

def leaveStale (m : Manager) (a : Nat) : Manager := await (closeScpi m a) a (some .staleClose)

def startErrorPoller (m : Manager) (a : Nat) : Manager :=
  if (m.session (owner m a)).kind = .unknown then m
  else
    setSession (setAttempt m a fun t => { t with polling := true }) (owner m a)
      fun s => { s with disposeErrorPoller := some a }

def finishEstablish (m : Manager) (a : Nat) : Manager :=
  let id := owner m a
  let m := setSession m id fun s => { s with status := .connected, disposeCloseListener := some a }
  let m := setScpi m a fun c => { c with listener := true }
  await (emitUpdate (startErrorPoller m a) id) a none

def buildFacade (m : Manager) (a : Nat) (identity : DeviceIdentity) (create : Create) : Manager :=
  match create identity with
  | .error err => failEstablish m a err
  | .ok facade =>
      finishEstablish (setSession m (owner m a) fun s => { s with facade := some facade }) a

def resumeFactory (m : Manager) (a : Nat) : Except JsError Unit → Manager
  | .error err => failEstablish m a err
  | .ok _ =>
    let id := owner m a
    let m := setAttempt m a fun t => { t with scpi := some ⟨false,false⟩ }
    if id ∉ m.sessions then leaveStale m a
    else
      let m := setSession m id fun s =>
        { s with scpi := some a, transcriptRing := some a, deviceErrorRing := some a }
      await m a (some .idn)

def resumeIdn (m : Manager) (a : Nat) : Except JsError String → Manager
  | .error err => failEstablish m a err
  | .ok raw =>
    let id := owner m a
    if id ∉ m.sessions then leaveStale m a
    else
      let identity := parseIdn raw
      match m.registry identity with
      | some driver =>
        let m := setSession m id fun s =>
          { s with identity := some identity, driverId := some driver.id, kind := driver.kind }
        if driver.refine then await m a (some (.refine identity driver))
        else buildFacade m a identity driver.create
      | none =>
        let m := setSession m id fun s =>
          { s with identity := some identity, driverId := none, kind := .unknown, facade := none }
        finishEstablish m a

-- a rejected `refine` is swallowed
def refinedCreate (driver : DriverEntry) : Except JsError Create → Create
  | .ok create => create
  | .error _ => driver.create

def resumeRefine (m : Manager) (a : Nat) (identity : DeviceIdentity) (driver : DriverEntry)
    (outcome : Except JsError Create) : Manager :=
  if owner m a ∉ m.sessions then leaveStale m a
  else buildFacade m a identity (refinedCreate driver outcome)

def resumeStale (m : Manager) (a : Nat) : Except JsError Unit → Manager
  | .ok _ => await m a none
  | .error err => failEstablish m a err

def resumeFailure (m : Manager) (a : Nat) : Manager :=
  finishFailure (setSession m (owner m a) fun s => { s with scpi := none }) a

def handleUnexpectedClose (m : Manager) (id : Nat) (err : Option JsError) : Manager :=
  if id ∉ m.sessions then m
  else if (m.session id).status ≠ .connected then m
  else
    let message := (err.map JsError.message).getD "connection lost"
    let m := setSession m id fun s => { s with
      status := .error, error := some message, facade := none, scpi := none
      transcriptRing := none, deviceErrorRing := none }
    emitUpdate (dispose m id) id

/- The transport of a ScpiSession reports loss: `ScpiSession.handleClose`. -/
def dropScpi (m : Manager) (a : Nat) (err : Option JsError) : Manager :=
  match (m.attempt a).scpi with
  | none => m
  | some c =>
    if c.closed then m
    else if c.listener then handleUnexpectedClose (closeScpi m a) (owner m a) err
    else closeScpi m a

def record (m : Manager) (a : Nat) (input : TranscriptRecordInput) : Manager :=
  let (entry,ring) := (m.attempt a).transcriptRing.push input
  emit (setAttempt m a fun t => { t with transcriptRing := ring }) (.transcript (owner m a) [entry])

def appendTranscript (m : Manager) (id : Nat) (input : TranscriptRecordInput) : Bool × Manager :=
  if id ∉ m.sessions then (false,m)
  else
    match (m.session id).transcriptRing with
    | none => (false,m)
    | some a =>
      let (entry,ring) := (m.attempt a).transcriptRing.push input
      (true,emit (setAttempt m a fun t => { t with transcriptRing := ring }) (.transcript id [entry]))

def pollTick (m : Manager) (a : Nat) : Manager :=
  if (m.attempt a).polling ∧ ¬ (m.attempt a).busy ∧ owner m a ∈ m.sessions ∧
      (m.session (owner m a)).status = .connected then
    setAttempt m a fun t => { t with busy := true }
  else m

def finishDrain (m : Manager) (a : Nat) (entries : List DeviceErrorEntry) : Manager :=
  let m := setAttempt m a fun t => { t with busy := false }
  if entries = [] then m
  else
    match (m.session (owner m a)).deviceErrorRing with
    | none => m
    | some ring =>
      emit (setAttempt m ring fun t => { t with deviceErrorRing := t.deviceErrorRing.pushMany entries })
        (.deviceErrors (owner m a) entries)

/- Besides the calls of the manager: the promises that its continuations wait for settle
(`factorySettled` to `drainSettled`), transports drop, a ScpiSession records an exchange, and the
timer of a poller fires. -/
inductive Event where
  | openSession (host : String) (port : Option Int) (now : Int)
  | reconnect (id : Nat)
  | close (id : Nat)
  | factorySettled (a : Nat) (outcome : Except JsError Unit)
  | idnSettled (a : Nat) (outcome : Except JsError String)
  | refineSettled (a : Nat) (outcome : Except JsError Create)
  | scpiCloseSettled (a : Nat) (outcome : Except JsError Unit)
  | closeSettled (id : Nat)
  | drainSettled (a : Nat) (entries : List DeviceErrorEntry)
  | dropped (a : Nat) (err : Option JsError)
  | recorded (a : Nat) (input : TranscriptRecordInput)
  | pollTick (a : Nat)
  | appendTranscript (id : Nat) (input : TranscriptRecordInput)

def step (m : Manager) : Event → Manager
  | .openSession host port now => (openSession m host port now).2
  | .reconnect id => (reconnect m id).2
  | .close id => close m id
  | .factorySettled a outcome =>
      match (m.attempt a).awaiting with
      | some .factory => resumeFactory m a outcome
      | _ => m
  | .idnSettled a outcome =>
      match (m.attempt a).awaiting with
      | some .idn => resumeIdn m a outcome
      | _ => m
  | .refineSettled a outcome =>
      match (m.attempt a).awaiting with
      | some (.refine identity driver) => resumeRefine m a identity driver outcome
      | _ => m
  | .scpiCloseSettled a outcome =>
      match (m.attempt a).awaiting with
      | some .staleClose => resumeStale m a outcome
      | some .failureClose => resumeFailure m a
      | _ => m
  | .closeSettled id => if id ∈ m.closing then finishClose m id else m
  | .drainSettled a entries => if (m.attempt a).busy then finishDrain m a entries else m
  | .dropped a err => dropScpi m a err
  | .recorded a input => if a < m.nextAttempt then record m a input else m
  | .pollTick a => pollTick m a
  | .appendTranscript id input => (appendTranscript m id input).2

/- No `establish` or `close` continuation is pending. -/
def AtRest (m : Manager) : Prop :=
  (∀ a < m.nextAttempt, (m.attempt a).awaiting.isNone) ∧ m.closing = []

instance (m) : Decidable (AtRest m) := inferInstanceAs (Decidable (_ ∧ _))

def isOpen (m : Manager) (a : Nat) : Bool := (m.attempt a).scpi.any fun c => !c.closed
def isListening (m : Manager) (a : Nat) : Bool := (m.attempt a).scpi.any Scpi.listener

/- `a` is a call of `establish` made for session `id`. -/
def Of (m : Manager) (id a : Nat) : Prop := a < m.nextAttempt ∧ owner m a = id

section
variable (m : Manager) (id k a b : Nat)

@[simp] theorem setSessionKeeps (f) : (setSession m id f).registry = m.registry ∧
    (setSession m id f).sessions = m.sessions ∧ (setSession m id f).attempt = m.attempt ∧
    (setSession m id f).nextId = m.nextId ∧ (setSession m id f).nextAttempt = m.nextAttempt ∧
    (setSession m id f).closing = m.closing ∧ (setSession m id f).emitted = m.emitted :=
  ⟨rfl,rfl,rfl,rfl,rfl,rfl,rfl⟩

@[simp] theorem setSessionSelf (f) : (setSession m id f).session id = f (m.session id) := by
  simp [setSession]

@[simp] theorem setSessionOther {k : Nat} (other : k ≠ id) (f) :
    (setSession m id f).session k = m.session k := by
  simp [setSession,other]

@[simp] theorem setAttemptKeeps (f) : (setAttempt m a f).registry = m.registry ∧
    (setAttempt m a f).sessions = m.sessions ∧ (setAttempt m a f).session = m.session ∧
    (setAttempt m a f).nextId = m.nextId ∧ (setAttempt m a f).nextAttempt = m.nextAttempt ∧
    (setAttempt m a f).closing = m.closing ∧ (setAttempt m a f).emitted = m.emitted :=
  ⟨rfl,rfl,rfl,rfl,rfl,rfl,rfl⟩

@[simp] theorem setAttemptSelf (f) : (setAttempt m a f).attempt a = f (m.attempt a) := by
  simp [setAttempt]

@[simp] theorem setAttemptOther {b : Nat} (other : b ≠ a) (f) :
    (setAttempt m a f).attempt b = m.attempt b := by
  simp [setAttempt,other]

@[simp] theorem emitKeeps (event) : (emit m event).registry = m.registry ∧
    (emit m event).sessions = m.sessions ∧ (emit m event).session = m.session ∧
    (emit m event).attempt = m.attempt ∧ (emit m event).nextId = m.nextId ∧
    (emit m event).nextAttempt = m.nextAttempt ∧ (emit m event).closing = m.closing ∧
    (emit m event).emitted = m.emitted ++ [event] := ⟨rfl,rfl,rfl,rfl,rfl,rfl,rfl,rfl⟩

@[simp] theorem emitUpdateKeeps : (emitUpdate m id).registry = m.registry ∧
    (emitUpdate m id).sessions = m.sessions ∧ (emitUpdate m id).session = m.session ∧
    (emitUpdate m id).attempt = m.attempt ∧ (emitUpdate m id).nextId = m.nextId ∧
    (emitUpdate m id).nextAttempt = m.nextAttempt ∧ (emitUpdate m id).closing = m.closing ∧
    (emitUpdate m id).emitted = m.emitted ++ [.update (toSummary (m.session id))] :=
  ⟨rfl,rfl,rfl,rfl,rfl,rfl,rfl,rfl⟩

@[simp] theorem awaitKeeps (w) : (await m a w).registry = m.registry ∧
    (await m a w).sessions = m.sessions ∧ (await m a w).session = m.session ∧
    (await m a w).nextId = m.nextId ∧ (await m a w).nextAttempt = m.nextAttempt ∧
    (await m a w).closing = m.closing ∧ (await m a w).emitted = m.emitted :=
  ⟨rfl,rfl,rfl,rfl,rfl,rfl,rfl⟩

@[simp] theorem awaitAt (w) :
    ((await m a w).attempt b).session = (m.attempt b).session ∧
    ((await m a w).attempt b).scpi = (m.attempt b).scpi ∧
    ((await m a w).attempt b).awaiting = if b = a then w else (m.attempt b).awaiting := by
  by_cases same : b = a <;> simp [await,same]

@[simp] theorem deleteKeeps : (deleteSession m id).registry = m.registry ∧
    (deleteSession m id).sessions = m.sessions.filter (· ≠ id) ∧
    (deleteSession m id).session = m.session ∧ (deleteSession m id).attempt = m.attempt ∧
    (deleteSession m id).nextId = m.nextId ∧
    (deleteSession m id).nextAttempt = m.nextAttempt ∧
    (deleteSession m id).closing = m.closing ∧ (deleteSession m id).emitted = m.emitted :=
  ⟨rfl,rfl,rfl,rfl,rfl,rfl,rfl,rfl⟩

@[simp] theorem awaitCloseKeeps : (awaitClose m id).registry = m.registry ∧
    (awaitClose m id).sessions = m.sessions ∧ (awaitClose m id).session = m.session ∧
    (awaitClose m id).attempt = m.attempt ∧ (awaitClose m id).nextId = m.nextId ∧
    (awaitClose m id).nextAttempt = m.nextAttempt ∧
    (awaitClose m id).closing = m.closing ++ [id] ∧ (awaitClose m id).emitted = m.emitted :=
  ⟨rfl,rfl,rfl,rfl,rfl,rfl,rfl,rfl⟩

@[simp] theorem establishKeeps : (establish m id).registry = m.registry ∧
    (establish m id).sessions = m.sessions ∧ (establish m id).session = m.session ∧
    (establish m id).nextId = m.nextId ∧ (establish m id).nextAttempt = m.nextAttempt + 1 ∧
    (establish m id).closing = m.closing ∧ (establish m id).emitted = m.emitted :=
  ⟨rfl,rfl,rfl,rfl,rfl,rfl,rfl⟩

@[simp] theorem establishOlder {a : Nat} (other : a ≠ m.nextAttempt) :
    (establish m id).attempt a = m.attempt a := by
  simp [establish,other]

@[simp] theorem establishNewest :
    (establish m id).attempt m.nextAttempt = newAttempt m id (some .factory) := by
  simp [establish]

@[simp] theorem setScpiKeeps (f) : (setScpi m a f).registry = m.registry ∧
    (setScpi m a f).sessions = m.sessions ∧ (setScpi m a f).session = m.session ∧
    (setScpi m a f).nextId = m.nextId ∧ (setScpi m a f).nextAttempt = m.nextAttempt ∧
    (setScpi m a f).closing = m.closing ∧ (setScpi m a f).emitted = m.emitted :=
  ⟨rfl,rfl,rfl,rfl,rfl,rfl,rfl⟩

@[simp] theorem setScpiAt (f) :
    ((setScpi m a f).attempt b).session = (m.attempt b).session ∧
    ((setScpi m a f).attempt b).awaiting = (m.attempt b).awaiting ∧
    ((setScpi m a f).attempt b).scpi =
      if b = a then (m.attempt a).scpi.map f else (m.attempt b).scpi := by
  by_cases same : b = a <;> simp [setScpi,same]

@[simp] theorem closeScpiKeeps : (closeScpi m a).registry = m.registry ∧
    (closeScpi m a).sessions = m.sessions ∧ (closeScpi m a).session = m.session ∧
    (closeScpi m a).nextId = m.nextId ∧ (closeScpi m a).nextAttempt = m.nextAttempt ∧
    (closeScpi m a).closing = m.closing ∧ (closeScpi m a).emitted = m.emitted :=
  setScpiKeeps m a _

@[simp] theorem closeScpiAt :
    ((closeScpi m a).attempt b).session = (m.attempt b).session ∧
    ((closeScpi m a).attempt b).awaiting = (m.attempt b).awaiting :=
  ⟨(setScpiAt m a b _).1,(setScpiAt m a b _).2.1⟩

@[simp] theorem closeScpiOpen : isOpen (closeScpi m a) b = (isOpen m b && b ≠ a) := by
  by_cases same : b = a
  · cases scpi : (m.attempt a).scpi <;> simp [isOpen,closeScpi,same,scpi]
  · simp [isOpen,closeScpi,same]

@[simp] theorem disposeKeeps : (dispose m id).registry = m.registry ∧
    (dispose m id).sessions = m.sessions ∧ (dispose m id).nextId = m.nextId ∧
    (dispose m id).nextAttempt = m.nextAttempt ∧ (dispose m id).closing = m.closing ∧
    (dispose m id).emitted = m.emitted := by
  unfold dispose disposeErrorPoller disposeCloseListener
  split <;> split <;> simp

@[simp] theorem disposeSession : ((dispose m id).session k).status = (m.session k).status ∧
    ((dispose m id).session k).scpi = (m.session k).scpi ∧
    toSummary ((dispose m id).session k) = toSummary (m.session k) := by
  unfold dispose disposeErrorPoller disposeCloseListener
  by_cases same : k = id <;> split <;> split <;> simp [same,toSummary]

@[simp] theorem disposeListener : ((dispose m id).session k).disposeCloseListener =
    if k = id then none else (m.session k).disposeCloseListener := by
  unfold dispose disposeErrorPoller disposeCloseListener
  by_cases same : k = id <;> split <;> split <;> simp_all

@[simp] theorem disposeAt : ((dispose m id).attempt b).session = (m.attempt b).session ∧
    ((dispose m id).attempt b).awaiting = (m.attempt b).awaiting ∧
    isOpen (dispose m id) b = isOpen m b := by
  have polled (m) : ((disposeErrorPoller m id).attempt b).session = (m.attempt b).session ∧
      ((disposeErrorPoller m id).attempt b).awaiting = (m.attempt b).awaiting ∧
      ((disposeErrorPoller m id).attempt b).scpi = (m.attempt b).scpi := by
    unfold disposeErrorPoller
    split
    · simp
    · rename_i a _
      by_cases same : b = a <;> simp [same]
  unfold dispose
  simp only [isOpen,polled]
  unfold disposeCloseListener
  split
  · simp
  · rename_i a _
    by_cases same : b = a
    · cases scpi : (m.attempt a).scpi <;> simp [same,scpi]
    · simp [same]

@[simp] theorem pollerKeeps : (startErrorPoller m a).registry = m.registry ∧
    (startErrorPoller m a).sessions = m.sessions ∧ (startErrorPoller m a).nextId = m.nextId ∧
    (startErrorPoller m a).nextAttempt = m.nextAttempt ∧
    (startErrorPoller m a).closing = m.closing ∧ (startErrorPoller m a).emitted = m.emitted := by
  unfold startErrorPoller
  split <;> simp

@[simp] theorem pollerSession :
    ((startErrorPoller m a).session k).status = (m.session k).status ∧
    ((startErrorPoller m a).session k).scpi = (m.session k).scpi ∧
    ((startErrorPoller m a).session k).disposeCloseListener =
      (m.session k).disposeCloseListener ∧
    toSummary ((startErrorPoller m a).session k) = toSummary (m.session k) := by
  unfold startErrorPoller
  split
  · simp
  · by_cases same : k = owner m a <;> simp [same,toSummary]

@[simp] theorem pollerAt :
    ((startErrorPoller m a).attempt b).session = (m.attempt b).session ∧
    ((startErrorPoller m a).attempt b).awaiting = (m.attempt b).awaiting ∧
    ((startErrorPoller m a).attempt b).scpi = (m.attempt b).scpi := by
  unfold startErrorPoller
  split
  · simp
  · by_cases same : b = a <;> simp [same]

end

section
variable (m : Manager) (id a b : Nat)

@[simp] theorem setSessionOpen (f) : isOpen (setSession m id f) b = isOpen m b := rfl
@[simp] theorem emitOpen (event) : isOpen (emit m event) b = isOpen m b := rfl
@[simp] theorem deleteOpen : isOpen (deleteSession m id) b = isOpen m b := rfl
@[simp] theorem awaitCloseOpen : isOpen (awaitClose m id) b = isOpen m b := rfl
@[simp] theorem emitUpdateOpen : isOpen (emitUpdate m id) b = isOpen m b := rfl
@[simp] theorem awaitOpen (w) : isOpen (await m a w) b = isOpen m b := by simp [isOpen]

@[simp] theorem setSessionOwner (f) : owner (setSession m id f) b = owner m b := rfl
@[simp] theorem closeScpiOwner : owner (closeScpi m a) b = owner m b := by simp [owner]
@[simp] theorem disposeOwner : owner (dispose m id) b = owner m b := by simp [owner]

end

theorem establishOf (m : Manager) (k id a : Nat) :
    Of (establish m k) id a ↔ Of m id a ∨ (a = m.nextAttempt ∧ id = k) := by
  by_cases newest : a = m.nextAttempt
  · simp [Of,owner,newest,newAttempt,eq_comm]
  · have before : a < m.nextAttempt + 1 ↔ a < m.nextAttempt := by omega
    simp [Of,owner,newest,before]

theorem establishKnown {m : Manager} {k bound : Nat}
    (known : ∀ a, a < m.nextAttempt → owner m a < bound) (session : k < bound) (a : Nat)
    (early : a < (establish m k).nextAttempt) : owner (establish m k) a < bound := by
  rcases (establishOf m k (owner (establish m k) a) a).mp ⟨early,rfl⟩ with old | ⟨_,same⟩
  · rw [← old.2]
    exact known a old.1
  · rw [same]
    exact session

/- The session that `open` makes, and the manager that has it in its map and has told so. -/
def newSession (m : Manager) (host : String) (port : Option Int) (now : Int) : InternalSession :=
  { id := m.nextId, host, port := port.getD DEFAULT_SCPI_PORT, openedAt := now }

def listSession (m : Manager) (internal : InternalSession) : Manager :=
  emitUpdate { m with
    sessions := m.sessions ++ [internal.id]
    session := Function.update m.session internal.id internal
    nextId := m.nextId + 1 } internal.id

theorem openSessionCases (m : Manager) (host : String) (port : Option Int) (now : Int) :
    (∃ err, openSession m host port now = (.error err,m)) ∨
    openSession m host port now = (.ok (toSummary (newSession m host port now)),
      establish (listSession m (newSession m host port now)) m.nextId) := by
  unfold openSession
  split
  · exact .inl ⟨_,rfl⟩
  · exact .inr rfl

section
variable (m : Manager) (internal : InternalSession)

@[simp] theorem listSessionKeeps : (listSession m internal).attempt = m.attempt ∧
    (listSession m internal).nextAttempt = m.nextAttempt ∧
    (listSession m internal).closing = m.closing ∧
    (listSession m internal).nextId = m.nextId + 1 ∧
    (listSession m internal).sessions = m.sessions ++ [internal.id] := ⟨rfl,rfl,rfl,rfl,rfl⟩

@[simp] theorem listSessionSelf : (listSession m internal).session internal.id = internal := by
  simp [listSession]

@[simp] theorem listSessionOther {k : Nat} (other : k ≠ internal.id) :
    (listSession m internal).session k = m.session k := by
  simp [listSession,other]

@[simp] theorem listSessionTells :
    (listSession m internal).emitted = m.emitted ++ [.update (toSummary internal)] := by
  simp [listSession]

end

theorem listSessionKnown {m : Manager} (listed : ∀ id ∈ m.sessions, id < m.nextId) (host port now)
    (id : Nat) (member : id ∈ (listSession m (newSession m host port now)).sessions) :
    id < (listSession m (newSession m host port now)).nextId := by
  have member : id ∈ m.sessions ++ [m.nextId] := member
  rcases List.mem_append.mp member with old | last
  · exact Nat.lt_succ_of_lt (listed id old)
  · exact List.mem_singleton.mp last ▸ Nat.lt_succ_self _

theorem failPlain {m : Manager} {a : Nat} (holds : (m.session (owner m a)).scpi = none) (err) :
    failEstablish m a err = finishFailure (markError m (owner m a) err) a := by
  simp [failEstablish,markError,holds]

theorem failHolding {m : Manager} {a held : Nat} (holds : (m.session (owner m a)).scpi = some held)
    (err) : failEstablish m a err =
      await (closeScpi (markError m (owner m a) err) held) a (some .failureClose) := by
  simp [failEstablish,markError,holds]

end LxiWeb.SessionManager
