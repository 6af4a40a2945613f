import LxiWeb.SessionEvents

/-! The `byId` of the web store against the sessions of the server. The frames of the socket
arrive in the order they were sent, each HTTP response whenever the network likes. -/
namespace LxiWeb.ClientMirror
open EventRuns KeyedWrites ScpiFraming SessionManager SessionEvents

inductive ServerMessage where
  | init (sessions : List SessionSummary)
  | update (session : SessionSummary)
  | removed (id : Nat)
  deriving DecidableEq, Repr

/- What a call of the store gets back: the sessions, the session that `open` or `reconnect`
asked for, the word that the session it asked to close is closed, or an error status. -/
inductive Response where
  | listing (sessions : List SessionSummary)
  | summary (session : SessionSummary)
  | closed (id : Nat)
  | failed
  deriving DecidableEq, Repr

def set (session : SessionSummary) : Write Nat SessionSummary := entry session.id (some session)

def indexed (sessions : List SessionSummary) : Table Nat SessionSummary :=
  replay (fun _ => none) (sessions.map set)

/- What `apply` does to `byId`. -/
def ServerMessage.writes : ServerMessage → Write Nat SessionSummary
  | .init sessions => whole (indexed sessions)
  | .update session => set session
  | .removed id => entry id none

/- What `refresh`, `open`, `reconnect` and `remove` do to `byId` after their `await`. -/
def Response.writes : Response → Write Nat SessionSummary
  | .listing sessions => whole (indexed sessions)
  | .summary session => set session
  | .closed id => entry id none
  | .failed => keep

/- A response in flight, with how many events the manager had emitted when it was sent. -/
structure Sent where
  response : Response
  after : Nat

structure World where
  manager : Manager
  socket : Bool
  frames : List ServerMessage
  responses : List Sent
  -- DELETE requests whose handler waits for `close`
  closes : List Nat
  byId : Table Nat SessionSummary

def start (manager : Manager) : World :=
  { manager, socket := false, frames := [], responses := [], closes := [], byId := fun _ => none }

def broadcast : SessionEvent → Option ServerMessage
  | .update session => some (.update session)
  | .removed id => some (.removed id)
  | _ => none

/- The manager goes on to `m`; what it emits meanwhile goes to the socket. -/
def serve (w : World) (m : Manager) : World :=
  { w with
    manager := m
    frames :=
      if w.socket then w.frames ++ (m.emitted.drop w.manager.emitted.length).filterMap broadcast
      else w.frames }

def respond (w : World) (response : Response) : World :=
  { w with responses := w.responses ++ [⟨response,w.manager.emitted.length⟩] }

def openRoute (w : World) (host : String) (port : Option Int) (now : Int) : World :=
  match openSession w.manager host port now with
  | (.ok session,m) => respond (serve w m) (.summary session)
  | (.error _,m) => respond (serve w m) .failed

def reconnectRoute (w : World) (id : Nat) : World :=
  match reconnect w.manager id with
  | (some session,m) => respond (serve w m) (.summary session)
  | (none,m) => respond (serve w m) .failed

def closeRoute (w : World) (id : Nat) : World :=
  match SessionManager.get w.manager id with
  | none => respond w .failed
  | some _ => { serve w (close w.manager id) with closes := w.closes ++ [id] }

inductive Event where
  -- whatever moves the manager from elsewhere: instruments, timers, other browsers
  | server (e : SessionManager.Event)
  | refresh
  | openSession (host : String) (port : Option Int) (now : Int)
  | reconnect (id : Nat)
  | remove (id : Nat)
  | closeDone (id : Nat)
  | connect
  | disconnect
  | deliverFrame
  | deliverResponse (i : Nat)

def step (w : World) : Event → World
  | .server e => serve w (SessionManager.step w.manager e)
  | .refresh => respond w (.listing (list w.manager))
  | .openSession host port now => openRoute w host port now
  | .reconnect id => reconnectRoute w id
  | .remove id => closeRoute w id
  | .closeDone id =>
      -- emitting `removed` is the last thing `close` does
      if id ∈ w.closes ∧ .removed id ∈ w.manager.emitted then
        respond { w with closes := w.closes.filter (· ≠ id) } (.closed id)
      else w
  | .connect =>
      if w.socket then w
      else { w with socket := true, frames := [.init (list w.manager)] }
  | .disconnect => { w with socket := false, frames := [] }
  | .deliverFrame =>
      match w.frames with
      | [] => w
      | frame :: rest => { w with frames := rest, byId := write w.byId frame.writes }
  | .deliverResponse i =>
      match w.responses[i]? with
      | none => w
      | some sent =>
          { w with responses := w.responses.eraseIdx i, byId := write w.byId sent.response.writes }

/- Once all that was sent has arrived, the store has the session as the server lists it. -/
def Converged (w : World) (id : Nat) : Prop :=
  w.socket → w.frames = [] → w.responses = [] →
    w.byId id = (list w.manager).find? fun session => session.id = id

def about : SessionEvent → Option Nat
  | .update session => some session.id
  | .removed id => some id
  | _ => none

def Coming (w : World) (id : Nat) : Prop := Touches (w.frames.map ServerMessage.writes) id

instance (w id) : Decidable (Coming w id) := inferInstanceAs (Decidable (∃ x ∈ _, _))

/- A response arrives before any newer frame on a session it writes, and the manager keeps
silent on sessions that are gone. -/
def Fresh (w : World) : Event → Prop
  | .server e => Prompt w.manager e
  | .deliverResponse i => w.socket → ∀ sent ∈ w.responses[i]?,
      ∀ event ∈ w.manager.emitted.drop sent.after, ∀ id ∈ about event,
        (sent.response.writes id).isSome → Coming w id
  | _ => True

instance : (w : World) → (e : Event) → Decidable (Fresh w e)
  | w, .server e => inferInstanceAs (Decidable (Prompt w.manager e))
  | w, .deliverResponse i => inferInstanceAs (Decidable (w.socket → ∀ sent ∈ w.responses[i]?, _))
  | _, .refresh | _, .openSession .. | _, .reconnect _ | _, .remove _ | _, .closeDone _
  | _, .connect | _, .disconnect | _, .deliverFrame => isTrue trivial

theorem aboutIff (event : SessionEvent) (id : Nat) :
    (change event id).isSome ↔ about event = some id := by
  cases event with
  | update session => by_cases same : id = session.id <;> simp [change,entry,about,same,eq_comm]
  | removed gone => by_cases same : id = gone <;> simp [change,entry,about,same,eq_comm]
  | _ => simp [change,keep,about]

theorem replayBroadcast (t : Table Nat SessionSummary) (log : List SessionEvent) :
    replay t ((log.filterMap broadcast).map ServerMessage.writes) = replay t (log.map change) := by
  induction log generalizing t with
  | nil => rfl
  | cons event rest ih => cases event with
    | update session => exact ih _
    | removed id => exact ih _
    | _ => exact ih t

theorem replaySessions (f : Nat → SessionSummary) (named : ∀ k, (f k).id = k) (ids : List Nat)
    (t : Table Nat SessionSummary) (id) :
    replay t ((ids.map f).map set) id = if id ∈ ids then some (f id) else t id := by
  induction ids generalizing t with
  | nil => simp
  | cons k rest ih =>
    simp only [List.map_cons,replayCons,ih]
    by_cases same : id = k
    · simp [same,set,entry,write,named]
    · simp [same,set,named,writeOther same]

theorem indexedList {m : Manager} (booked : Booked m) :
    indexed (list m) = SessionManager.get m := by
  funext id
  exact replaySessions _ booked.named m.sessions _ id

theorem toldNow {m : Manager} (booked : Booked m) :
    Told (SessionManager.get m) m.emitted.length m :=
  ⟨booked,Nat.le_refl _,fun _ _ => .inl (by simp [observed])⟩

theorem toldRebased {t : Table Nat SessionSummary} {n : Nat} {m : Manager} (told : Told t n m) :
    Told (observed t n m) m.emitted.length m := by
  refine ⟨told.booked,Nat.le_refl _,fun silent id => ?_⟩
  have same : observed (observed t n m) m.emitted.length m = observed t n m := by simp [observed]
  simpa only [Follows,same] using told.follows silent id

def expected (w : World) : Table Nat SessionSummary :=
  replay w.byId (w.frames.map ServerMessage.writes)

def Stamped (m : Manager) (sent : Sent) : Prop :=
  ∃ t, Told t sent.after m ∧ ∀ id v, sent.response.writes id = some v → t id = v

structure Synced (w : World) : Prop where
  booked : Booked w.manager
  silent : Silent w.manager.emitted
  store : w.socket → Told (expected w) w.manager.emitted.length w.manager
  responses : ∀ sent ∈ w.responses, Stamped w.manager sent

theorem syncedServe {w : World} (synced : Synced w) (e : SessionManager.Event)
    (prompt : Prompt w.manager e) : Synced (serve w (SessionManager.step w.manager e)) where
  booked := (stepTold _ e (toldNow synced.booked)).1.booked
  silent := (stepTold _ e (toldNow synced.booked)).2.mpr ⟨synced.silent,prompt⟩
  store open_ := by
    have open_ : w.socket = true := open_
    have told := toldRebased (stepTold _ e (synced.store open_)).1
    have same : expected (serve w (SessionManager.step w.manager e)) =
        observed (expected w) w.manager.emitted.length (SessionManager.step w.manager e) := by
      simp only [expected,serve,open_,if_true,List.map_append,replayAppend,replayBroadcast,observed]
    exact same ▸ told
  responses sent member := by
    obtain ⟨t,told,agrees⟩ := synced.responses sent member
    exact ⟨t,(stepTold _ e told).1,agrees⟩

theorem syncedRespond {w : World} (synced : Synced w) (response : Response)
    (now : ∀ id v, response.writes id = some v → SessionManager.get w.manager id = v) :
    Synced (respond w response) where
  booked := synced.booked
  silent := synced.silent
  store := synced.store
  responses sent member := by
    rcases List.mem_append.mp member with old | new
    · exact synced.responses sent old
    · obtain rfl := List.mem_singleton.mp new
      exact ⟨_,toldNow synced.booked,now⟩

theorem openSummary {m : Manager} {host port now session}
    (opened : (openSession m host port now).1 = .ok session) :
    m.nextId ∈ (openSession m host port now).2.sessions ∧
      session = toSummary ((openSession m host port now).2.session m.nextId) := by
  rcases openSessionCases m host port now with ⟨err,refused⟩ | accepted
  · simp [refused] at opened
  · rw [accepted] at opened ⊢
    obtain rfl := Except.ok.inj opened
    refine ⟨by simp [newSession],congrArg toSummary (Eq.symm ?_)⟩
    exact listSessionSelf m (newSession m host port now)

theorem reconnectSummary {m : Manager} {id session}
    (given : (reconnect m id).1 = some session) :
    id ∈ (reconnect m id).2.sessions ∧
      session = toSummary ((reconnect m id).2.session id) := by
  unfold reconnect at given ⊢
  split at given
  · simp at given
  · rename_i listed
    have listed := not_not.mp listed
    split at given
    · rename_i healthy
      obtain rfl := Option.some.inj given
      simp [healthy,listed]
    · rename_i broken
      obtain rfl := Option.some.inj given
      simp [broken,listed]

theorem summaryNow {m : Manager} (booked : Booked m) {id : Nat} (listed : id ∈ m.sessions) (k v)
    (writes : (Response.summary (toSummary (m.session id))).writes k = some v) :
    SessionManager.get m k = v := by
  have key : (toSummary (m.session id)).id = id := booked.named id
  by_cases same : k = id
  · simp only [Response.writes,set,entry,key,same,if_true,Option.some.injEq] at writes
    simp [SessionManager.get,same,listed,writes]
  · simp [Response.writes,set,entry,key,same] at writes

theorem syncedSummary {w : World} (synced : Synced w) {id session}
    (given : id ∈ w.manager.sessions ∧ session = toSummary (w.manager.session id)) :
    Synced (respond w (.summary session)) := by
  obtain ⟨listed,rfl⟩ := given
  exact syncedRespond synced _ (summaryNow synced.booked listed)

theorem syncedFailed {w : World} (synced : Synced w) : Synced (respond w .failed) := by
  apply syncedRespond synced _
  intro id v writes
  exact absurd writes (by simp [Response.writes,keep])

theorem syncedOpen {w : World} (synced : Synced w) (host port now) :
    Synced (openRoute w host port now) := by
  have served := syncedServe synced (.openSession host port now) (promptNone rfl)
  unfold openRoute
  split
  · rename_i session m opened
    rw [show m = (openSession w.manager host port now).2 by rw [opened]]
    exact syncedSummary served (openSummary (by rw [opened]))
  · rename_i m refused
    rw [show m = (openSession w.manager host port now).2 by rw [refused]]
    exact syncedFailed served

theorem syncedReconnect {w : World} (synced : Synced w) (id) : Synced (reconnectRoute w id) := by
  have served := syncedServe synced (.reconnect id) (promptNone rfl)
  unfold reconnectRoute
  split
  · rename_i session m given
    rw [show m = (reconnect w.manager id).2 by rw [given]]
    exact syncedSummary served (reconnectSummary (by rw [given]))
  · rename_i m unknown
    rw [show m = (reconnect w.manager id).2 by rw [unknown]]
    exact syncedFailed served

theorem syncedClose {w : World} (synced : Synced w) (id) : Synced (closeRoute w id) := by
  unfold closeRoute
  split
  · exact syncedFailed synced
  · have served := syncedServe synced (.close id) (promptNone rfl)
    exact ⟨served.booked,served.silent,served.store,served.responses⟩

theorem syncedClosed {w : World} (synced : Synced w) {id : Nat}
    (removed : .removed id ∈ w.manager.emitted) : Synced (respond w (.closed id)) := by
  apply syncedRespond synced _
  intro k v writes
  by_cases same : k = id
  · have gone : id ∉ w.manager.sessions := fun listed => (synced.booked.listed id listed).2.2 removed
    have nothing : v = none := by simpa [Response.writes,entry,same] using writes.symm
    simp [SessionManager.get,same,gone,nothing]
  · simp [Response.writes,entry,same] at writes

theorem expectedConnect {w : World} (booked : Booked w.manager) :
    expected { w with socket := true, frames := [.init (list w.manager)] } =
      SessionManager.get w.manager := by
  simp [expected,ServerMessage.writes,indexedList booked]

theorem toldResponse {w : World} (synced : Synced w) {i sent} (arrives : w.responses[i]? = some sent)
    (open_ : w.socket) (fresh : Fresh w (.deliverResponse i)) :
    Told (replay (write w.byId sent.response.writes) (w.frames.map ServerMessage.writes))
      w.manager.emitted.length w.manager := by
  refine ⟨synced.booked,Nat.le_refl _,?_⟩
  intro silent id
  simp only [Follows,observed,List.drop_length,List.map_nil,replayNil]
  have before := (synced.store open_).follows silent id
  simp only [Follows,observed,List.drop_length,List.map_nil,replayNil] at before
  by_cases shadowed : (sent.response.writes id).isSome → Coming w id
  · rw [replayShadowed shadowed]
    exact before
  · obtain ⟨sets,last⟩ := Classical.not_imp.mp shadowed
    obtain ⟨v,writes⟩ := Option.isSome_iff_exists.mp sets
    obtain ⟨t,told,agrees⟩ := synced.responses sent (List.mem_of_getElem? arrives)
    have unchanged : ¬ Touches ((w.manager.emitted.drop sent.after).map change) id := by
      rintro ⟨_,member,touched⟩
      obtain ⟨event,later,rfl⟩ := List.mem_map.mp member
      exact last (fresh open_ sent arrives event later id ((aboutIff event id).mp touched) sets)
    have follows := told.follows silent id
    rw [Follows,observed,replayUntouched unchanged,agrees id v writes] at follows
    rw [replayUntouched last]
    simpa [write,writes] using follows

theorem stepSynced (w : World) (e : Event) (synced : Synced w) (fresh : Fresh w e) :
    Synced (step w e) := by
  cases e with
  | server e => exact syncedServe synced e fresh
  | refresh =>
    apply syncedRespond synced _
    intro id v writes
    rw [← indexedList synced.booked]
    exact Option.some.inj writes
  | openSession host port now => exact syncedOpen synced host port now
  | reconnect id => exact syncedReconnect synced id
  | remove id => exact syncedClose synced id
  | closeDone id =>
    simp only [step]
    split
    · rename_i done
      have waited : Synced { w with closes := w.closes.filter (· ≠ id) } :=
        ⟨synced.booked,synced.silent,synced.store,synced.responses⟩
      exact syncedClosed waited done.2
    · exact synced
  | connect =>
    simp only [step]
    split
    · exact synced
    · refine ⟨synced.booked,synced.silent,fun _ => ?_,synced.responses⟩
      rw [expectedConnect synced.booked]
      exact toldNow synced.booked
  | disconnect => exact ⟨synced.booked,synced.silent,nofun,synced.responses⟩
  | deliverFrame =>
    simp only [step]
    split
    · exact synced
    · rename_i frame rest arrives
      refine ⟨synced.booked,synced.silent,fun open_ => ?_,synced.responses⟩
      have same : expected { w with frames := rest, byId := write w.byId frame.writes } =
          expected w := by
        simp [expected,arrives]
      exact same ▸ synced.store open_
  | deliverResponse i =>
    simp only [step]
    split
    · exact synced
    · rename_i sent arrives
      refine ⟨synced.booked,synced.silent,fun open_ => toldResponse synced arrives open_ fresh,?_⟩
      intro other member
      exact synced.responses other (List.mem_of_mem_eraseIdx member)

theorem syncedConverged {w : World} (synced : Synced w) (id : Nat) (done : ¬ Due w.manager id) :
    Converged w id := by
  intro open_ delivered _
  rw [listFind synced.booked]
  have follows := (synced.store open_).follows synced.silent id
  simp only [Follows,observed,expected,delivered,List.drop_length,List.map_nil,replayNil] at follows
  exact follows.resolve_right done

theorem startSynced (registry maxSessions transcriptRingMax deviceErrorRingMax) :
    Synced (start (create registry maxSessions transcriptRingMax deviceErrorRingMax)) :=
  ⟨(createTold ..).booked,List.Pairwise.nil,nofun,fun _ member => absurd member List.not_mem_nil⟩

/- A session whose `establish` or `close` is still at work has another frame to come. -/
theorem mirrorConverges (registry : DeviceIdentity → Option DriverEntry)
    (maxSessions transcriptRingMax deviceErrorRingMax : Nat) (events : List Event)
    (fresh : Along step Fresh
      (start (create registry maxSessions transcriptRingMax deviceErrorRingMax)) events) :
    Throughout step (fun w => ∀ id, ¬ Due w.manager id → Converged w id)
      (start (create registry maxSessions transcriptRingMax deviceErrorRingMax)) events := by
  have start := startSynced registry maxSessions transcriptRingMax deviceErrorRingMax
  intro seen early
  exact syncedConverged (runKeepsAlong stepSynced start (alongPrefix fresh early))

def bench : List Event :=
  [.connect, .deliverFrame, .openSession "psu" none 0, .deliverResponse 0, .deliverFrame,
    .server (.factorySettled 0 (.ok ())), .refresh, .deliverResponse 0,
    .server (.idnSettled 0 (.ok "ACME,PSU-1,7,1.0")), .deliverFrame, .remove 0,
    .server (.closeSettled 0), .closeDone 0, .deliverFrame, .deliverResponse 0]

theorem mirrorConvergesBench :
    Throughout step (fun w => ∀ id, ¬ Due w.manager id → Converged w id) (start (create fun _ => none)) bench :=
  mirrorConverges _ _ _ _ bench (by decide)

/- The response of `open` arrives after the frame that says the session is connected; the store
shows a session that connects, for good. -/
def lateOpen : List Event :=
  [.connect, .deliverFrame, .openSession "psu" none 0, .server (.factorySettled 0 (.ok ())),
    .server (.idnSettled 0 (.ok "ACME,PSU-1,7,1.0")), .deliverFrame, .deliverFrame,
    .deliverResponse 0]

theorem lateResponseOverwrites :
    ¬ Due (run step (start (create fun _ => none)) lateOpen).manager 0 ∧
    ¬ Converged (run step (start (create fun _ => none)) lateOpen) 0 := by
  refine ⟨restDone (by decide) 0,fun converged => ?_⟩
  have agrees := converged (by decide) (by decide) (by decide)
  exact absurd agrees (by decide)

end LxiWeb.ClientMirror
