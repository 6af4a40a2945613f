import Mathlib.Data.List.Nodup
import LxiWeb.EventRuns
import LxiWeb.ScpiFraming

/-! `TcpTransport` over Node sockets. A socket that is destroyed with an error emits it later,
once, and `close` after it; an `error` that finds no listener is an uncaught exception. An event
that Node cannot emit in a state leaves the state as it is. -/
namespace LxiWeb.TcpTransport
open EventRuns JsText ScpiFraming

/-- `waiting`: the three listeners of the connect phase are attached. `opened`: those of an open
connection are. `ending`: the callback of `end` is still to come. -/
structure Sock where
  promise : Nat
  connecting : Bool
  timer : Bool
  waiting : Bool
  opened : Bool
  ending : Bool
  destroyed : Bool
  raised : Option JsError
  errored : Bool
  closeEmitted : Bool
  deriving DecidableEq, Repr

inductive Effect where
  | settled (promise : Nat) (outcome : Except JsError Unit)
  | notified (listener : Nat) (err : Option JsError)
  | delivered (listener : Nat) (chunk : Bytes)
  | refusedWrite (err : JsError)
  | sent (socket : Nat) (data : Bytes)
  | uncaught (err : JsError)
  deriving Repr

structure Transport where
  host : String
  port : Nat
  connectTimeoutMs : Nat
  socket : Option Nat
  connected : Bool
  closed : Bool
  dataListeners : List Nat
  closeListeners : List Nat
  sockets : List Sock
  connects : Nat
  log : List Effect
  deriving Repr

def create (host : String) (port : Nat) (connectTimeoutMs : Nat := 5000) : Transport :=
  { host, port, connectTimeoutMs, socket := none, connected := false, closed := false,
    dataListeners := [], closeListeners := [], sockets := [], connects := 0, log := [] }

def Transport.record (t : Transport) (effects : List Effect) : Transport :=
  { t with log := t.log ++ effects }

def Transport.put (t : Transport) (i : Nat) (s : Sock) : Transport :=
  { t with sockets := t.sockets.set i s }

def notifyClose (t : Transport) (err : Option JsError) : Transport :=
  t.record (t.closeListeners.map (.notified · err))

def wrap (err : JsError) : JsError :=
  if err.name = .scpiTimeoutError ∨ err.name = .scpiTransportError then err
  else ⟨.scpiTransportError,err.message⟩

def handleFailure (t : Transport) (err : JsError) (reject : Option Nat) : Transport :=
  let t := t.record (reject.toList.map (.settled · (.error (wrap err))))
  notifyClose { t with closed := true, connected := false } (some (wrap err))

def Sock.opening (promise : Nat) : Sock :=
  { promise, connecting := true, timer := true, waiting := true, opened := false, ending := false,
    destroyed := false, raised := none, errored := false, closeEmitted := false }

def connect (t : Transport) : Transport :=
  let p := t.connects
  let t := { t with connects := p + 1 }
  if t.closed then
    t.record [.settled p (.error ⟨.scpiTransportError,"transport already closed"⟩)]
  else if t.connected then t.record [.settled p (.ok ())]
  else
    { t with socket := some t.sockets.length, sockets := t.sockets ++ [.opening p] }

def write (t : Transport) (data : Bytes) : Transport :=
  match t.connected, t.socket with
  | true, some i => t.record [.sent i data]
  | _, _ => t.record [.refusedWrite ⟨.scpiTransportError,"transport not connected"⟩]

def close (t : Transport) : Transport :=
  if t.closed then t else
  let socket := t.socket
  let t := { t with closed := true, connected := false, socket := none }
  match socket.bind fun i => t.sockets[i]?.map fun s => (i,s) with
  | none => notifyClose t none
  | some (i,s) => if s.destroyed then notifyClose t none else t.put i { s with ending := true }

def onTimeout (t : Transport) (i : Nat) (s : Sock) : Transport :=
  let err := scpiTimeoutError
    s!"connect to {t.host}:{t.port} timed out after {t.connectTimeoutMs}ms"
  -- the error listener goes before the socket is destroyed with an error
  let destroyed := { s with waiting := false, destroyed := true, raised := some err }
  handleFailure (t.put i destroyed) err (some s.promise)

def onConnect (t : Transport) (i : Nat) (s : Sock) : Transport :=
  let opened := { s with waiting := false, timer := false, opened := true }
  ({ t with connected := true }.put i opened).record [.settled s.promise (.ok ())]

inductive Event where
  | connect
  | write (data : Bytes)
  | close
  | onData (listener : Nat)
  | offData (listener : Nat)
  | onClose (listener : Nat)
  | offClose (listener : Nat)
  | connectEvent (socket : Nat)
  | timeoutEvent (socket : Nat)
  | dataEvent (socket : Nat) (chunk : Bytes)
  | failure (socket : Nat) (err : JsError)
  | peerEnd (socket : Nat)
  | errorEvent (socket : Nat)
  | closeEvent (socket : Nat)
  | endCallback (socket : Nat)
  deriving DecidableEq, Repr

def register (listeners : List Nat) (listener : Nat) : List Nat :=
  if listener ∈ listeners then listeners else listeners ++ [listener]

def emitConnect (t : Transport) (i : Nat) (s : Sock) : Transport :=
  if s.connecting ∧ ¬ s.destroyed then
    let s := { s with connecting := false }
    if s.waiting then onConnect t i s else t.put i s
  else t

def emitTimeout (t : Transport) (i : Nat) (s : Sock) : Transport :=
  if s.timer ∧ ¬ s.destroyed then
    let s := { s with timer := false }
    if s.waiting then onTimeout t i s else t.put i s
  else t

def emitData (t : Transport) (s : Sock) (chunk : Bytes) : Transport :=
  if s.opened ∧ ¬ s.destroyed then t.record (t.dataListeners.map (.delivered · chunk)) else t

def emitError (t : Transport) (i : Nat) (s : Sock) : Transport :=
  match s.raised with
  | none => t
  | some err =>
      let emitted := { s with raised := none, errored := true }
      if s.waiting then
        handleFailure (t.put i { emitted with waiting := false }) err (some s.promise)
      else if s.opened then handleFailure (t.put i emitted) err none
      else (t.put i emitted).record [.uncaught err]

def emitClose (t : Transport) (i : Nat) (s : Sock) : Transport :=
  if s.destroyed ∧ s.raised = none ∧ ¬ s.closeEmitted then
    let t := t.put i { s with closeEmitted := true }
    if s.opened then
      let t := { t with connected := false }
      if t.closed then t else handleFailure t ⟨.scpiTransportError,"socket closed by peer"⟩ none
    else t
  else t

def endCalledBack (t : Transport) (i : Nat) (s : Sock) : Transport :=
  if s.ending then notifyClose (t.put i { s with ending := false, destroyed := true }) none else t

def socketStep (t : Transport) (i : Nat) (s : Sock) : Event → Transport
  | .connectEvent _ => emitConnect t i s
  | .timeoutEvent _ => emitTimeout t i s
  | .dataEvent _ chunk => emitData t s chunk
  | .failure _ err =>
      if s.destroyed then t else t.put i { s with destroyed := true, raised := some err }
  | .peerEnd _ => if s.connecting then t else t.put i { s with destroyed := true }
  | .errorEvent _ => emitError t i s
  | .closeEvent _ => emitClose t i s
  | .endCallback _ => endCalledBack t i s
  | _ => t

def Event.socket : Event → Option Nat
  | .connectEvent i | .timeoutEvent i | .dataEvent i _ | .failure i _ | .peerEnd i | .errorEvent i
  | .closeEvent i | .endCallback i => some i
  | _ => none

def step (t : Transport) : Event → Transport
  | .connect => connect t
  | .write data => write t data
  | .close => close t
  | .onData listener => { t with dataListeners := register t.dataListeners listener }
  | .offData listener => { t with dataListeners := t.dataListeners.erase listener }
  | .onClose listener => { t with closeListeners := register t.closeListeners listener }
  | .offClose listener => { t with closeListeners := t.closeListeners.erase listener }
  | e =>
    match e.socket with
    | none => t
    | some i =>
      match t.sockets[i]? with
      | none => t
      | some s => socketStep t i s e

def Effect.settledPromise : Effect → Option Nat
  | .settled promise _ => some promise
  | _ => none

def Effect.notifiedListener : Effect → Option Nat
  | .notified listener _ => some listener
  | _ => none

def Effect.uncaughtError : Effect → Option JsError
  | .uncaught err => some err
  | _ => none

def settledPromises (log : List Effect) : List Nat := log.filterMap Effect.settledPromise
def notifiedListeners (log : List Effect) : List Nat := log.filterMap Effect.notifiedListener
def uncaughtErrors (log : List Effect) : List JsError := log.filterMap Effect.uncaughtError

section
variable (log more : List Effect) (err : Option JsError) (listeners : List Nat)

@[simp] theorem settledAppend :
    settledPromises (log ++ more) = settledPromises log ++ settledPromises more :=
  List.filterMap_append

@[simp] theorem notifiedAppend :
    notifiedListeners (log ++ more) = notifiedListeners log ++ notifiedListeners more :=
  List.filterMap_append

@[simp] theorem uncaughtAppend :
    uncaughtErrors (log ++ more) = uncaughtErrors log ++ uncaughtErrors more :=
  List.filterMap_append

variable (promises : List Nat) (outcome : Except JsError Unit) (p : Nat)

@[simp] theorem settledOne : settledPromises [.settled p outcome] = [p] := rfl
@[simp] theorem notifiedOne : notifiedListeners [.settled p outcome] = [] := rfl
@[simp] theorem uncaughtOne : uncaughtErrors [.settled p outcome] = [] := rfl

@[simp] theorem settledOutcomes :
    settledPromises (promises.map (.settled · outcome)) = promises := by
  simp [settledPromises,Effect.settledPromise,List.filterMap_map,Function.comp_def]

@[simp] theorem notifiedOutcomes :
    notifiedListeners (promises.map (.settled · outcome)) = [] := by
  simp [notifiedListeners,Effect.notifiedListener,List.filterMap_map]

@[simp] theorem uncaughtOutcomes : uncaughtErrors (promises.map (.settled · outcome)) = [] := by
  simp [uncaughtErrors,Effect.uncaughtError,List.filterMap_map]

@[simp] theorem settledNotices : settledPromises (listeners.map (.notified · err)) = [] := by
  simp [settledPromises,Effect.settledPromise,List.filterMap_map]

@[simp] theorem notifiedNotices :
    notifiedListeners (listeners.map (.notified · err)) = listeners := by
  simp [notifiedListeners,Effect.notifiedListener,List.filterMap_map,Function.comp_def]

@[simp] theorem uncaughtNotices : uncaughtErrors (listeners.map (.notified · err)) = [] := by
  simp [uncaughtErrors,Effect.uncaughtError,List.filterMap_map]

end

/- No uncaught exception, no promise settled and no listener notified twice, and no write that is
taken after a failure or a close. -/
structure Robust (t : Transport) : Prop where
  caught : uncaughtErrors t.log = []
  settledOnce : (settledPromises t.log).Nodup
  notifiedOnce : (notifiedListeners t.log).Nodup
  refused : t.closed = true → ∀ data, ∃ err, (write t data).log = t.log ++ [.refusedWrite err]

/- `connect` is not called while an earlier call is pending, the connect timeout does not fire,
and no socket error is emitted to close listeners after `close`. -/
def Orderly (t : Transport) : Event → Prop
  | .connect => t.closed = true ∨ t.connected = true ∨ t.socket = none
  | .timeoutEvent i => ∀ s, t.sockets[i]? = some s → s.timer = true → s.destroyed = false →
      s.waiting = false
  | .errorEvent i => ∀ s, t.sockets[i]? = some s → s.raised ≠ none → t.closed = true →
      t.closeListeners = []
  | _ => True

instance (t e) : Decidable (Orderly t e) := by
  unfold Orderly
  split <;> infer_instance

structure SockKept (t : Transport) (s : Sock) : Prop where
  heard : s.errored = true ∨ s.waiting = true ∨ s.opened = true
  once : s.raised ≠ none → s.errored = false ∧ s.destroyed = true
  gone : s.errored = true → s.destroyed = true
  apart : s.waiting = true → s.opened = false
  due : s.waiting = true → s.promise ∉ settledPromises t.log
  numbered : s.promise < t.connects
  unanswered : s.ending = true → t.closed = true ∧ notifiedListeners t.log = []
  dropped : s.waiting = true → t.closed = true → t.socket = none

structure Kept (t : Transport) : Prop where
  caught : uncaughtErrors t.log = []
  settledOnce : (settledPromises t.log).Nodup
  settledNumbered : ∀ p ∈ settledPromises t.log, p < t.connects
  notifiedOnce : (notifiedListeners t.log).Nodup
  silent : t.closed = false → notifiedListeners t.log = []
  listenersOnce : t.closeListeners.Nodup
  cut : t.closed = true → t.connected = false ∨ t.socket = none
  lone : t.sockets = [] ∨ ∃ s, t.sockets = [s] ∧ SockKept t s
  unused : t.closed = false → t.socket = none → t.sockets = []

theorem keptRobust {t : Transport} (kept : Kept t) : Robust t where
  caught := kept.caught
  settledOnce := kept.settledOnce
  notifiedOnce := kept.notifiedOnce
  refused := by
    intro closed data
    rcases kept.cut closed with off | none
    · exact ⟨_,by simp [write,off,Transport.record]; rfl⟩
    · exact ⟨_,by simp [write,none,Transport.record]; rfl⟩

theorem createKept (host port connectTimeoutMs) : Kept (create host port connectTimeoutMs) where
  caught := rfl
  settledOnce := List.nodup_nil
  settledNumbered := nofun
  notifiedOnce := List.nodup_nil
  silent _ := rfl
  listenersOnce := List.nodup_nil
  cut := nofun
  lone := .inl rfl
  unused _ _ := rfl

theorem keptSocket {t : Transport} {i : Nat} {s : Sock} (kept : Kept t)
    (found : t.sockets[i]? = some s) : i = 0 ∧ t.sockets = [s] ∧ SockKept t s := by
  rcases kept.lone with none | ⟨only,sole,good⟩
  · simp [none] at found
  · rw [sole] at found
    cases i with
    | zero =>
      obtain rfl := Option.some.inj found
      exact ⟨rfl,sole,good⟩
    | succ i => simp at found

theorem putKept {t : Transport} {s s' : Sock} (kept : Kept t) (sole : t.sockets = [s])
    (good : SockKept t s') : Kept (t.put 0 s') := by
  have replaced : (t.put 0 s').sockets = [s'] := by simp [Transport.put,sole]
  exact {
    kept with
    lone := .inr ⟨s',replaced,{ good with }⟩
    unused := fun closed none => by simp [kept.unused closed none] at sole }

/- Effects that settle, notify and throw nothing leave the invariant alone. -/
theorem recordKept {t : Transport} {effects : List Effect} (kept : Kept t)
    (quiet : settledPromises effects = [] ∧ notifiedListeners effects = [] ∧
      uncaughtErrors effects = []) : Kept (t.record effects) := by
  obtain ⟨settled,notified,uncaught⟩ := quiet
  have settledSame : settledPromises (t.record effects).log = settledPromises t.log := by
    simp [Transport.record,settled]
  have notifiedSame : notifiedListeners (t.record effects).log = notifiedListeners t.log := by
    simp [Transport.record,notified]
  exact {
    kept with
    caught := by simpa [Transport.record,uncaught] using kept.caught
    settledOnce := settledSame ▸ kept.settledOnce
    settledNumbered := settledSame ▸ kept.settledNumbered
    notifiedOnce := notifiedSame ▸ kept.notifiedOnce
    silent := notifiedSame ▸ kept.silent
    lone := kept.lone.imp id fun ⟨s,sole,good⟩ => ⟨s,sole,{
      good with
      due := settledSame ▸ good.due
      unanswered := notifiedSame ▸ good.unanswered }⟩ }

theorem failKept {t : Transport} {s s' : Sock} (kept : Kept t) (sole : t.sockets = [s])
    (good : SockKept t s') (idle : s'.waiting = false) (err : JsError) {reject : Option Nat}
    (unsettled : ∀ p, reject = some p → p ∉ settledPromises t.log ∧ p < t.connects)
    (unheard : t.closed = true → t.closeListeners = []) :
    Kept (handleFailure (t.put 0 s') err reject) := by
  have settled : settledPromises (handleFailure (t.put 0 s') err reject).log =
      settledPromises t.log ++ reject.toList := by
    simp [handleFailure,notifyClose,Transport.record,Transport.put]
  have notified : notifiedListeners (handleFailure (t.put 0 s') err reject).log =
      notifiedListeners t.log ++ t.closeListeners := by
    simp [handleFailure,notifyClose,Transport.record,Transport.put]
  have caught : uncaughtErrors (handleFailure (t.put 0 s') err reject).log =
      uncaughtErrors t.log := by
    simp [handleFailure,notifyClose,Transport.record,Transport.put]
  have replaced : (handleFailure (t.put 0 s') err reject).sockets = [s'] := by
    simp [handleFailure,notifyClose,Transport.record,Transport.put,sole]
  exact {
    caught := caught.trans kept.caught
    settledOnce := by
      rw [settled,List.nodup_append]
      refine ⟨kept.settledOnce,by cases reject <;> simp,fun p old q new same => ?_⟩
      exact (unsettled q (by simpa using new)).1 (same ▸ old)
    settledNumbered := by
      rw [settled]
      intro p member
      rcases List.mem_append.mp member with old | new
      · exact kept.settledNumbered p old
      · exact (unsettled p (by simpa using new)).2
    notifiedOnce := by
      rw [notified]
      cases closed : t.closed with
      | false => simpa [kept.silent closed] using kept.listenersOnce
      | true => simpa [unheard closed] using kept.notifiedOnce
    silent := nofun
    listenersOnce := kept.listenersOnce
    cut := fun _ => .inl rfl
    lone := by
      refine .inr ⟨s',replaced,{ good with due := ?_, unanswered := ?_, dropped := ?_ }⟩
      · simp [idle]
      · intro ending
        obtain ⟨closed,none⟩ := good.unanswered ending
        exact ⟨rfl,by rw [notified,none,unheard closed]; rfl⟩
      · simp [idle]
    unused := nofun }

theorem emitErrorKept {t : Transport} {i : Nat} {s : Sock} (kept : Kept t)
    (found : t.sockets[i]? = some s)
    (unheard : s.raised ≠ none → t.closed = true → t.closeListeners = []) :
    Kept (emitError t i s) := by
  obtain ⟨rfl,sole,good⟩ := keptSocket kept found
  unfold emitError
  split
  · exact kept
  · rename_i err raised
    have pending : s.raised ≠ none := by simp [raised]
    have emitted (waiting) (off : waiting = false) :
        SockKept t { s with raised := none, errored := true, waiting } := {
      heard := .inl rfl
      once := nofun
      gone := fun _ => (good.once pending).2
      apart := by simp [off]
      due := by simp [off]
      numbered := good.numbered
      unanswered := good.unanswered
      dropped := by simp [off] }
    by_cases waiting : s.waiting = true
    · rw [if_pos waiting]
      refine failKept kept sole (emitted false rfl) rfl err ?_ (unheard pending)
      rintro p same
      obtain rfl := Option.some.inj same
      exact ⟨good.due waiting,good.numbered⟩
    · have off : s.waiting = false := by simpa using waiting
      have opened : s.opened = true := by
        rcases good.heard with done | on | opened
        · simp [(good.once pending).1] at done
        · exact absurd on waiting
        · exact opened
      rw [if_neg waiting,if_pos opened]
      exact failKept kept sole (emitted s.waiting off) off err nofun (unheard pending)

theorem onConnectKept {t : Transport} {old s : Sock} (kept : Kept t) (sole : t.sockets = [old])
    (good : SockKept t s) (waiting : s.waiting = true) : Kept (onConnect t 0 s) := by
  have settled : settledPromises (onConnect t 0 s).log = settledPromises t.log ++ [s.promise] := by
    simp [onConnect,Transport.record,Transport.put]
  have notified : notifiedListeners (onConnect t 0 s).log = notifiedListeners t.log := by
    simp [onConnect,Transport.record,Transport.put]
  exact {
    caught := by simpa [onConnect,Transport.record,Transport.put] using kept.caught
    settledOnce := by
      rw [settled,List.nodup_append]
      refine ⟨kept.settledOnce,by simp,fun p old q new same => ?_⟩
      exact good.due waiting (List.mem_singleton.mp new ▸ same ▸ old)
    settledNumbered := by
      rw [settled]
      intro p member
      rcases List.mem_append.mp member with old | new
      · exact kept.settledNumbered p old
      · exact List.mem_singleton.mp new ▸ good.numbered
    notifiedOnce := notified ▸ kept.notifiedOnce
    silent := fun closed => notified.trans (kept.silent closed)
    listenersOnce := kept.listenersOnce
    cut := fun closed => .inr (good.dropped waiting closed)
    lone := by
      refine .inr ⟨{ s with waiting := false, timer := false, opened := true },?_,?_⟩
      · simp [onConnect,Transport.record,Transport.put,sole]
      · exact {
          heard := .inr (.inr rfl)
          once := good.once
          gone := good.gone
          apart := nofun
          due := nofun
          numbered := good.numbered
          unanswered := fun ending => notified ▸ good.unanswered ending
          dropped := nofun }
    unused := fun closed none => by simp [kept.unused closed none] at sole }

theorem emitConnectKept {t : Transport} {i : Nat} {s : Sock} (kept : Kept t)
    (found : t.sockets[i]? = some s) : Kept (emitConnect t i s) := by
  obtain ⟨rfl,sole,good⟩ := keptSocket kept found
  have good' : SockKept t { s with connecting := false } := { good with }
  unfold emitConnect
  split
  · dsimp only
    split
    · rename_i waiting
      exact onConnectKept kept sole good' waiting
    · exact putKept kept sole good'
  · exact kept

theorem emitTimeoutKept {t : Transport} {i : Nat} {s : Sock} (kept : Kept t)
    (found : t.sockets[i]? = some s)
    (inTime : s.timer = true → s.destroyed = false → s.waiting = false) :
    Kept (emitTimeout t i s) := by
  obtain ⟨rfl,sole,good⟩ := keptSocket kept found
  unfold emitTimeout
  split
  · rename_i fires
    have off : s.waiting = false := inTime fires.1 (by simpa using fires.2)
    dsimp only
    rw [if_neg (by simp [off])]
    exact putKept kept sole { good with }
  · exact kept

theorem emitCloseKept {t : Transport} {i : Nat} {s : Sock} (kept : Kept t)
    (found : t.sockets[i]? = some s) : Kept (emitClose t i s) := by
  obtain ⟨rfl,sole,good⟩ := keptSocket kept found
  have good' : SockKept t { s with closeEmitted := true } := { good with }
  unfold emitClose
  split
  · dsimp only
    split
    · rename_i opened
      have off : s.waiting = false := by
        by_contra waiting
        simp [good.apart (by simpa using waiting)] at opened
      split
      · rename_i closed
        have put := putKept kept sole good'
        refine { put with cut := fun _ => .inl rfl, lone := ?_ }
        exact .inr ⟨_,by simp [Transport.put,sole],{ good' with }⟩
      · rename_i closed
        have disconnected : Kept { t with connected := false } := {
          kept with
          cut := fun _ => .inl rfl
          lone := .inr ⟨s,sole,{ good with }⟩ }
        exact failKept disconnected sole { good' with } off _ nofun
          fun shut => absurd shut closed
    · exact putKept kept sole good'
  · exact kept

theorem notifyKept {t : Transport} (kept : Kept t) (closed : t.closed = true)
    (none : notifiedListeners t.log = []) (answered : ∀ s ∈ t.sockets, s.ending = false)
    (err : Option JsError) : Kept (notifyClose t err) where
  caught := by simpa [notifyClose,Transport.record] using kept.caught
  settledOnce := by simpa [notifyClose,Transport.record] using kept.settledOnce
  settledNumbered := by simpa [notifyClose,Transport.record] using kept.settledNumbered
  notifiedOnce := by simpa [notifyClose,Transport.record,none] using kept.listenersOnce
  silent := fun open_ => by simp [notifyClose,Transport.record,closed] at open_
  listenersOnce := kept.listenersOnce
  cut := kept.cut
  lone := by
    apply kept.lone.imp id
    rintro ⟨s,sole,good⟩
    refine ⟨s,sole,{ good with due := ?_, unanswered := ?_ }⟩
    · simpa [notifyClose,Transport.record] using good.due
    · simp [answered s (by simp [sole])]
  unused := kept.unused

theorem endCalledBackKept {t : Transport} {i : Nat} {s : Sock} (kept : Kept t)
    (found : t.sockets[i]? = some s) : Kept (endCalledBack t i s) := by
  obtain ⟨rfl,sole,good⟩ := keptSocket kept found
  unfold endCalledBack
  split
  · rename_i ending
    obtain ⟨closed,none⟩ := good.unanswered ending
    have good' : SockKept t { s with ending := false, destroyed := true } := {
      good with
      once := fun raised => ⟨(good.once raised).1,rfl⟩
      gone := fun _ => rfl
      unanswered := nofun }
    exact notifyKept (putKept kept sole good') closed none (by simp [Transport.put,sole]) _
  · exact kept

theorem connectKept {t : Transport} (kept : Kept t)
    (alone : t.closed = true ∨ t.connected = true ∨ t.socket = none) : Kept (connect t) := by
  have fresh : t.connects ∉ settledPromises t.log := fun member =>
    absurd (kept.settledNumbered _ member) (lt_irrefl _)
  have answered (outcome) :
      Kept ({ t with connects := t.connects + 1 }.record [.settled t.connects outcome]) := {
    kept with
    caught := by simpa [Transport.record] using kept.caught
    settledOnce := by
      have apart : ∀ p ∈ settledPromises t.log, p ≠ t.connects :=
        fun p old same => fresh (same ▸ old)
      simpa [Transport.record,List.nodup_append,kept.settledOnce] using apart
    settledNumbered := by
      intro p member
      simp only [Transport.record,settledAppend,settledOne,List.mem_append,List.mem_singleton]
        at member
      rcases member with old | rfl
      · exact Nat.lt_succ_of_lt (kept.settledNumbered p old)
      · exact Nat.lt_succ_self _
    notifiedOnce := by simpa [Transport.record] using kept.notifiedOnce
    silent := fun closed => by simpa [Transport.record] using kept.silent closed
    lone := by
      apply kept.lone.imp id
      rintro ⟨s,sole,good⟩
      refine ⟨s,sole,{ good with due := ?_, numbered := ?_, unanswered := ?_ }⟩
      · intro waiting
        simpa [Transport.record] using
          ⟨good.due waiting,Nat.ne_of_lt good.numbered⟩
      · exact Nat.lt_succ_of_lt good.numbered
      · simpa [Transport.record] using good.unanswered }
  unfold connect
  dsimp only
  split
  · exact answered _
  · rename_i open_
    split
    · exact answered _
    · rename_i pending
      have none : t.socket = none := (alone.resolve_left open_).resolve_left pending
      have empty := kept.unused (by simpa using open_) none
      exact {
        kept with
        settledNumbered := fun p old => Nat.lt_succ_of_lt (kept.settledNumbered p old)
        cut := fun closed => absurd closed open_
        lone := by
          refine .inr ⟨.opening t.connects,congrArg (· ++ [Sock.opening t.connects]) empty,?_⟩
          exact {
            heard := .inr (.inl rfl)
            once := nofun
            gone := nofun
            apart := fun _ => rfl
            due := fun _ => fresh
            numbered := Nat.lt_succ_self _
            unanswered := nofun
            dropped := fun _ closed => absurd closed open_ }
        unused := nofun }

theorem closeKept {t : Transport} (kept : Kept t) : Kept (close t) := by
  unfold close
  split
  · exact kept
  · rename_i open_
    have silent := kept.silent (by simpa using open_)
    have shut : Kept { t with closed := true, connected := false, socket := none } := {
      kept with
      silent := nofun
      cut := fun _ => .inl rfl
      lone := by
        apply kept.lone.imp id
        rintro ⟨s,sole,good⟩
        refine ⟨s,sole,{ good with unanswered := ?_, dropped := ?_ }⟩
        · exact fun _ => ⟨rfl,silent⟩
        · exact fun _ _ => rfl
      unused := nofun }
    have answered : ∀ s ∈ t.sockets, s.ending = false := by
      rcases kept.lone with empty | ⟨s,sole,good⟩
      · simp [empty]
      · have unended : s.ending ≠ true := fun ending => open_ (good.unanswered ending).1
        simpa [sole] using unended
    dsimp only
    split
    · exact notifyKept shut rfl silent answered _
    · rename_i i s found
      split
      · exact notifyKept shut rfl silent answered _
      · have there : t.sockets[i]? = some s := by
          obtain ⟨j,_,placed⟩ := Option.bind_eq_some_iff.mp found
          obtain ⟨s',at_,same⟩ := Option.map_eq_some_iff.mp placed
          obtain ⟨rfl,rfl⟩ := Prod.mk.inj same
          exact at_
        obtain ⟨rfl,sole,good⟩ := keptSocket shut there
        exact putKept shut sole { good with unanswered := fun _ => ⟨rfl,silent⟩ }

theorem registerNodup {listeners : List Nat} (once : listeners.Nodup) (listener : Nat) :
    (register listeners listener).Nodup := by
  unfold register
  split
  · exact once
  · rename_i new
    exact List.nodup_append.mpr ⟨once,List.nodup_singleton _,fun l old l' here same =>
      new (List.mem_singleton.mp here ▸ same ▸ old)⟩

theorem writeKept {t : Transport} (kept : Kept t) (data : Bytes) : Kept (write t data) := by
  unfold write
  split
  · exact recordKept kept ⟨rfl,rfl,rfl⟩
  · exact recordKept kept ⟨rfl,rfl,rfl⟩

theorem emitDataKept {t : Transport} (kept : Kept t) (s : Sock) (chunk : Bytes) :
    Kept (emitData t s chunk) := by
  unfold emitData
  split
  · refine recordKept kept ⟨?_,?_,?_⟩
    · simp [settledPromises,Effect.settledPromise,List.filterMap_map]
    · simp [notifiedListeners,Effect.notifiedListener,List.filterMap_map]
    · simp [uncaughtErrors,Effect.uncaughtError,List.filterMap_map]
  · exact kept

theorem socketStepKept {t : Transport} {i : Nat} {s : Sock} {e : Event} (kept : Kept t)
    (socket : e.socket = some i) (found : t.sockets[i]? = some s) (orderly : Orderly t e) :
    Kept (socketStep t i s e) := by
  obtain ⟨rfl,sole,good⟩ := keptSocket kept found
  cases e with
  | connectEvent => exact emitConnectKept kept found
  | timeoutEvent =>
    cases Option.some.inj socket
    exact emitTimeoutKept kept found (orderly s found)
  | dataEvent => exact emitDataKept kept s _
  | failure j err =>
    simp only [socketStep]
    split
    · exact kept
    · rename_i alive
      refine putKept kept sole { good with once := fun _ => ⟨?_,rfl⟩, gone := fun _ => rfl }
      by_contra errored
      exact alive (good.gone (by simpa using errored))
  | peerEnd =>
    simp only [socketStep]
    split
    · exact kept
    · exact putKept kept sole {
        good with
        once := fun raised => ⟨(good.once raised).1,rfl⟩
        gone := fun _ => rfl }
  | errorEvent =>
    cases Option.some.inj socket
    exact emitErrorKept kept found (orderly s found)
  | closeEvent => exact emitCloseKept kept found
  | endCallback => exact endCalledBackKept kept found
  | _ => exact kept

theorem stepKept (t : Transport) (e : Event) (kept : Kept t) (orderly : Orderly t e) :
    Kept (step t e) := by
  have listening {data close} (once : close.Nodup) :
      Kept { t with dataListeners := data, closeListeners := close } := {
    kept with
    listenersOnce := once
    lone := kept.lone.imp id fun ⟨s,sole,good⟩ => ⟨s,sole,{ good with }⟩ }
  have emitted (i) (socket : e.socket = some i) :
      Kept (match t.sockets[i]? with | none => t | some s => socketStep t i s e) := by
    split
    · exact kept
    · rename_i s found
      exact socketStepKept kept socket found orderly
  cases e with
  | connect => exact connectKept kept orderly
  | write data => exact writeKept kept data
  | close => exact closeKept kept
  | onData | offData => exact listening kept.listenersOnce
  | onClose listener => exact listening (registerNodup kept.listenersOnce listener)
  | offClose listener => exact listening (kept.listenersOnce.erase listener)
  | connectEvent i | timeoutEvent i | dataEvent i _ | failure i _ | peerEnd i | errorEvent i
  | closeEvent i | endCallback i => exact emitted i rfl

theorem orderlyRunsRobust (host : String) (port connectTimeoutMs : Nat) (events : List Event)
    (orderly : Along step Orderly (create host port connectTimeoutMs) events) :
    Throughout step Robust (create host port connectTimeoutMs) events :=
  (throughoutAlong stepKept (createKept host port connectTimeoutMs) orderly).mono
    fun _ kept => keptRobust kept

/- A connection that delivers data and fails, and a close after that. -/
theorem orderlyRunsRobustReset :
    Throughout step Robust (create "10.0.0.7" 5555)
      [.onClose 0,.onData 1,.connect,.connectEvent 0,.write [0x2a],.dataEvent 0 [0x31,0x0a],
        .failure 0 ⟨.error,"read ECONNRESET"⟩,.errorEvent 0,.closeEvent 0,.write [0x2a],.close] :=
  orderlyRunsRobust _ _ _ _ (by decide)

/- Nothing answers the connect. -/
theorem connectTimeoutUncaught :
    ¬ Throughout step Robust (create "10.0.0.7" 5555) [.connect,.timeoutEvent 0,.errorEvent 0] := by
  intro all
  exact absurd all.last.caught (by decide)

end LxiWeb.TcpTransport
