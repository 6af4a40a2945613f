import LxiWeb.ObservabilityDelivery
import LxiWeb.SessionRecords

/-! The batches of an `ObservabilityScheduler` that listens to a `SessionManager`: whose they are and
how long they get while nobody subscribes. -/
namespace LxiWeb.ObservabilityBacklog
open EventRuns RingBuffers ReadingLoops ObservabilityFeeds ObservabilityDelivery
open SessionManager (SessionEvent)
open SessionRecords (listedAfter tells)
open ObservabilityScheduler (keyOf)

structure Backlog where
  manager : SessionManager.Manager
  scheduler : ObservabilityScheduler

inductive Event where
  | manager (e : SessionManager.Event)
  | subscribe (sessionId : Nat) (topic : ObservabilityTopic) (c : Nat)
  | unsubscribe (sessionId : Nat) (topic : ObservabilityTopic) (c : Nat)
  | removeSubscriber (c : Nat)
  | timerFires (sessionId : Nat) (topic : ObservabilityTopic) (now : Int)

/- What the scheduler makes of an event of the manager; the `/ws` route passes `removed` on. -/
def heard : SessionEvent → Option ObservabilityDelivery.Event
  | .update _ => none
  | .removed id => some (.removeSession id)
  | .transcript id entries => some (.transcript id entries)
  | .deviceErrors id entries => some (.deviceErrors id entries)

def step (b : Backlog) : Event → Backlog
  | .manager e =>
      let manager := SessionManager.step b.manager e
      let news := (manager.emitted.drop b.manager.emitted.length).filterMap heard
      ⟨manager,run ObservabilityDelivery.step b.scheduler news⟩
  | .subscribe sessionId topic c =>
      { b with scheduler := b.scheduler.subscribe sessionId topic c }
  | .unsubscribe sessionId topic c =>
      { b with scheduler := b.scheduler.unsubscribe sessionId topic c }
  | .removeSubscriber c => { b with scheduler := b.scheduler.removeSubscriber c }
  | .timerFires sessionId topic now =>
      { b with scheduler := (b.scheduler.flush sessionId topic now).1 }

def start (manager : SessionManager.Manager) : Backlog := ⟨manager,.create⟩

def ringMax (m : SessionManager.Manager) : ObservabilityTopic → Nat
  | .deviceErrors => (DeviceErrorRing.create m.deviceErrorRingMax).max
  | .sessionTranscript => (TranscriptRing.create m.transcriptRingMax).max

def Unwatched (s : ObservabilityScheduler) (id : Nat) : Prop :=
  ∀ c topic, ¬ s.Holds c topic (keyOf id topic)

def Fits (b : Backlog) (id : Nat) : Prop :=
  ∀ topic, (pending b.scheduler id topic).length ≤ ringMax b.manager topic

structure Bounded (b : Backlog) : Prop where
  listed : ∀ id topic, pending b.scheduler id topic ≠ [] → id ∈ b.manager.sessions
  fits : ∀ id, Unwatched b.scheduler id → Fits b id

/- There is room for `n` more entries of a session that is still listed. -/
def Room (b : Backlog) (id : Nat) (topic : ObservabilityTopic) (n : Nat) : Prop :=
  id ∈ b.manager.sessions ∧ (Unwatched b.scheduler id →
    (pending b.scheduler id topic).length + n ≤ ringMax b.manager topic)

def Brings (b : Backlog) : SessionEvent → Prop
  | .transcript id entries => Room b id .sessionTranscript entries.length
  | .deviceErrors id entries => Room b id .deviceErrors entries.length
  | .update _ | .removed _ => True

/- The session that a `close` takes off the list while it still has a ScpiSession to close. -/
def Lingers (m : SessionManager.Manager) : SessionManager.Event → Option Nat
  | .close id => if id ∈ m.sessions ∧ (m.session id).scpi ≠ none then some id else none
  | _ => none

def Abandons (s : ObservabilityScheduler) (e : ObservabilityDelivery.Event) (id : Nat) : Prop :=
  ∀ c topic, s.Holds c topic (keyOf id topic) → Removes c (keyOf id topic) e

def Admits (b : Backlog) : Event → Prop
  | .manager e => (∀ told ∈ tells b.manager e, Brings b told) ∧
      ∀ id ∈ Lingers b.manager e, ∀ topic, pending b.scheduler id topic = []
  | .unsubscribe sessionId topic c =>
      ∀ id, Abandons b.scheduler (.unsubscribe sessionId topic c) id → Fits b id
  | .removeSubscriber c => ∀ id, Abandons b.scheduler (.removeSubscriber c) id → Fits b id
  | .subscribe .. | .timerFires .. => True

structure Held (b : Backlog) : Prop extends Bounded b where
  booked : SessionEvents.Booked b.manager
  ringed : SessionRecords.Ringed b.manager
  sound : b.scheduler.Sound

theorem stepHeard {b : Backlog} (held : Held b) (e : SessionManager.Event) :
    (step b (.manager e)).scheduler =
      match (tells b.manager e).bind heard with
      | none => b.scheduler
      | some e' => ObservabilityDelivery.step b.scheduler e' := by
  obtain ⟨updates,emitted⟩ := (SessionRecords.stepOutcome held.booked held.ringed e).emitted
  have quiet : (updates.map SessionEvent.update).filterMap heard = [] := by
    rw [List.filterMap_map,List.filterMap_eq_nil_iff]
    exact fun _ _ => rfl
  simp only [step,emitted,List.append_assoc,List.drop_left,List.filterMap_append,quiet,
    List.append_nil]
  cases told : tells b.manager e with
  | none => rfl
  | some event => cases event <;> rfl

theorem ringMaxSame {m m' : SessionManager.Manager} {listed told}
    (outcome : SessionRecords.Outcome m m' listed told) : ringMax m' = ringMax m := by
  funext topic
  cases topic <;> simp [ringMax,outcome.rings]

theorem boundedSame {b b' : Backlog} (bounded : Bounded b) (scheduler : b'.scheduler = b.scheduler)
    (max : ringMax b'.manager = ringMax b.manager)
    (sessions : ∀ id ∈ b.manager.sessions, id ∈ b'.manager.sessions) : Bounded b' where
  listed id topic waiting := sessions id (bounded.listed id topic (scheduler ▸ waiting))
  fits id unwatched topic := by
    rw [scheduler] at unwatched ⊢
    rw [max]
    exact bounded.fits id unwatched topic

theorem boundedBrings {b b' : Backlog} (bounded : Bounded b) (id topic) {new : List Row}
    (some_ : new ≠ []) (sessions : b'.manager.sessions = b.manager.sessions)
    (max : ringMax b'.manager = ringMax b.manager)
    (holds : ∀ c t key, b'.scheduler.Holds c t key ↔ b.scheduler.Holds c t key)
    (grown : ∀ k t, pending b'.scheduler k t =
      pending b.scheduler k t ++ if k = id ∧ t = topic then new else []) :
    Bounded b' ↔ Room b id topic new.length := by
  have unwatched (k) : Unwatched b'.scheduler k ↔ Unwatched b.scheduler k := by
    simp only [Unwatched,holds]
  constructor
  · intro after
    refine ⟨?_,fun alone => ?_⟩
    · rw [← sessions]
      exact after.listed id topic (by simp [grown,some_])
    · simpa [grown,max] using after.fits id ((unwatched id).mpr alone) topic
  · rintro ⟨listed,room⟩
    constructor
    · intro k t waiting
      rw [sessions]
      by_cases here : k = id ∧ t = topic
      · exact here.1 ▸ listed
      · exact bounded.listed k t (by simpa [grown,here] using waiting)
    · intro k alone t
      rw [unwatched] at alone
      rw [grown,max]
      by_cases here : k = id ∧ t = topic
      · obtain ⟨rfl,rfl⟩ := here
        simpa using room alone
      · simpa [here] using bounded.fits k alone t

theorem boundedRemoved {b b' : Backlog} (bounded : Bounded b) (sound : b.scheduler.Sound) {id}
    (scheduler : b'.scheduler = b.scheduler.removeSession id)
    (max : ringMax b'.manager = ringMax b.manager)
    (sessions : ∀ k ∈ b.manager.sessions, k ≠ id → k ∈ b'.manager.sessions) : Bounded b' where
  listed k topic waiting := by
    rw [scheduler,pendingRemoveSession] at waiting
    split at waiting
    · exact absurd rfl waiting
    · rename_i other
      exact sessions k (bounded.listed k topic waiting) other
  fits k alone topic := by
    rw [scheduler,pendingRemoveSession,max]
    split
    · exact Nat.zero_le _
    · rename_i other
      apply bounded.fits k
      intro c t holds
      apply alone c t
      rw [scheduler]
      exact (ObservabilityScheduler.holdsRemoveSession sound ..).mpr ⟨holds,other⟩

theorem boundedLingers {b b' : Backlog} (bounded : Bounded b) (id)
    (scheduler : b'.scheduler = b.scheduler) (max : ringMax b'.manager = ringMax b.manager)
    (left : ∀ k, k ∈ b'.manager.sessions ↔ k ∈ b.manager.sessions ∧ k ≠ id) :
    Bounded b' ↔ ∀ topic, pending b.scheduler id topic = [] := by
  constructor
  · intro after topic
    by_contra waiting
    have listed := after.listed id topic (by rwa [scheduler])
    exact ((left id).mp listed).2 rfl
  · intro empty
    refine ⟨fun k topic waiting => ?_,fun k alone topic => ?_⟩
    · rw [scheduler] at waiting
      refine (left k).mpr ⟨bounded.listed k topic waiting,?_⟩
      rintro rfl
      exact waiting (empty topic)
    · rw [scheduler] at alone
      rw [scheduler,max]
      exact bounded.fits k alone topic

theorem boundedLeft {b b' : Backlog} (bounded : Bounded b) {e : ObservabilityDelivery.Event}
    (manager : b'.manager = b.manager)
    (same : ∀ k t, pending b'.scheduler k t = pending b.scheduler k t)
    (holds : ∀ c t k, b'.scheduler.Holds c t (keyOf k t) ↔
      b.scheduler.Holds c t (keyOf k t) ∧ ¬ Removes c (keyOf k t) e) :
    Bounded b' ↔ ∀ id, Abandons b.scheduler e id → Fits b id := by
  have unwatched (k) : Unwatched b'.scheduler k ↔ Abandons b.scheduler e k := by
    simp only [Unwatched,Abandons,holds,not_and,not_not]
  have fits (k) : Fits b' k ↔ Fits b k := by simp only [Fits,same,manager]
  constructor
  · intro after id left
    exact (fits id).mp (after.fits id ((unwatched id).mpr left))
  · intro left
    refine ⟨fun k t waiting => ?_,fun k alone => (fits k).mpr (left k ((unwatched k).mp alone))⟩
    rw [manager]
    exact bounded.listed k t (same k t ▸ waiting)

/- What becomes of the list of sessions, by what an event tells and leaves lingering. -/
inductive Lists (m : SessionManager.Manager) (listed : List Nat) :
    Option SessionEvent → Option Nat → Prop where
  | quiet (kept : ∀ k ∈ m.sessions, k ∈ listed) : Lists m listed none none
  | lingers (id : Nat) (left : ∀ k, k ∈ listed ↔ k ∈ m.sessions ∧ k ≠ id) : Lists m listed none (some id)
  | removed (id : Nat) (kept : ∀ k ∈ m.sessions, k ≠ id → k ∈ listed) :
      Lists m listed (some (.removed id)) none
  | transcript (id : Nat) (entries : List TranscriptEntry) (some_ : entries ≠ [])
      (same : listed = m.sessions) : Lists m listed (some (.transcript id entries)) none
  | deviceErrors (id : Nat) (entries : List DeviceErrorEntry) (some_ : entries ≠ [])
      (same : listed = m.sessions) : Lists m listed (some (.deviceErrors id entries)) none

theorem stepLists (m : SessionManager.Manager) (e : SessionManager.Event) :
    Lists m (listedAfter m e) (tells m e) (Lingers m e) := by
  cases e with
  | openSession =>
    refine .quiet fun k member => ?_
    simp only [listedAfter]
    split
    · exact member
    · exact List.mem_append_left _ member
  | close id =>
    by_cases listed : id ∈ m.sessions
    · by_cases holds : (m.session id).scpi = none
      · simpa [tells,Lingers,listed,holds] using
          Lists.removed id fun k member other => by simp [listedAfter,member,other]
      · simpa [tells,Lingers,listed,holds] using Lists.lingers id fun k => by simp [listedAfter]
    · simpa [tells,Lingers,listed] using Lists.quiet fun k member => by
        simpa [listedAfter,member] using ne_of_mem_of_not_mem member listed
  | closeSettled id =>
    simp only [tells,Lingers,listedAfter]
    split
    · exact .removed id fun _ member _ => member
    · exact .quiet fun _ member => member
  | drainSettled a entries =>
    simp only [tells,Lingers,listedAfter]
    split
    · rename_i drains
      exact .deviceErrors _ entries drains.2.1 rfl
    · exact .quiet fun _ => id
  | recorded a input =>
    simp only [tells,Lingers,listedAfter]
    cases SessionRecords.recordsOn m (.recorded a input) with
    | none => exact .quiet fun _ => id
    | some b => exact .transcript _ _ (List.cons_ne_nil _ _) rfl
  | appendTranscript id input =>
    simp only [tells,Lingers,listedAfter]
    cases SessionRecords.recordsOn m (.appendTranscript id input) with
    | none => exact .quiet fun _ member => member
    | some b => exact .transcript _ _ (List.cons_ne_nil _ _) rfl
  | reconnect | factorySettled | idnSettled | refineSettled | scpiCloseSettled | dropped | pollTick =>
    exact .quiet fun _ => id

theorem managerBounded {b : Backlog} (held : Held b) (e : SessionManager.Event) :
    Bounded (step b (.manager e)) ↔ Admits b (.manager e) := by
  have outcome := SessionRecords.stepOutcome held.booked held.ringed e
  have scheduler := stepHeard held e
  have max : ringMax (step b (.manager e)).manager = ringMax b.manager := ringMaxSame outcome
  have sessions : (step b (.manager e)).manager.sessions = listedAfter b.manager e := outcome.sessions
  have bounded := held.toBounded
  simp only [Admits]
  have lists := stepLists b.manager e
  generalize tells b.manager e = told, Lingers b.manager e = lingers,
    listedAfter b.manager e = listed at scheduler sessions lists ⊢
  cases lists with
  | quiet kept =>
    refine iff_of_true ?_ (by simp)
    exact boundedSame bounded scheduler max (by rwa [sessions])
  | lingers id left =>
    simpa [Brings] using boundedLingers bounded id scheduler max fun k => by rw [sessions,left]
  | removed id kept =>
    refine iff_of_true ?_ (by simp [Brings])
    exact boundedRemoved bounded held.sound scheduler max (by rwa [sessions])
  | transcript id entries some_ same =>
    have scheduler : (step b (.manager e)).scheduler = b.scheduler.onTranscript id entries := scheduler
    have some_ : entries.map Row.transcript ≠ [] := by simpa using some_
    rw [boundedBrings bounded id .sessionTranscript some_ (sessions.trans same) max]
    · simp [Brings]
    · intro c t key
      rw [scheduler]
      exact (ObservabilityScheduler.alikeTranscript ..).holds c t key
    · intro k t
      rw [scheduler]
      simpa [brought,keyOfInj] using pendingTranscript b.scheduler id entries k t
  | deviceErrors id entries some_ same =>
    have scheduler : (step b (.manager e)).scheduler = b.scheduler.onDeviceErrors id entries := scheduler
    have some_ : entries.map Row.deviceError ≠ [] := by simpa using some_
    rw [boundedBrings bounded id .deviceErrors some_ (sessions.trans same) max]
    · simp [Brings]
    · intro c t key
      rw [scheduler]
      exact (ObservabilityScheduler.alikeDeviceErrors ..).holds c t key
    · intro k t
      rw [scheduler]
      simpa [brought,keyOfInj] using pendingDeviceErrors b.scheduler id entries k t

theorem boundedIffAdmits {b : Backlog} (e : Event) (held : Held b) : Bounded (step b e) ↔ Admits b e := by
  cases e with
  | manager e => exact managerBounded held e
  | subscribe sessionId topic c =>
    refine iff_of_true ?_ trivial
    have same (k t) : pending (b.scheduler.subscribe sessionId topic c) k t = pending b.scheduler k t :=
      pendingSubscribe ..
    refine ⟨fun k t waiting => held.listed k t (same k t ▸ waiting),fun k alone t => ?_⟩
    simp only [step,same]
    refine held.fits k (fun c' t' holds => alone c' t' ?_) t
    exact (ObservabilityScheduler.holdsSubscribe ..).mpr (.inl holds)
  | unsubscribe sessionId topic c =>
    refine boundedLeft held.toBounded rfl (fun k t => pendingUnsubscribe ..) fun c' t k => ?_
    simp only [step,ObservabilityScheduler.holdsUnsubscribe,Removes]
    refine and_congr_right fun holds => not_congr ?_
    simp only [keyOfInj]
    tauto
  | removeSubscriber c =>
    refine boundedLeft held.toBounded rfl (fun k t => pendingRemoveSubscriber ..) fun c' t k => ?_
    exact (ObservabilityScheduler.holdsRemoveSubscriber ..).trans (and_congr_right fun _ => ne_comm)
  | timerFires sessionId topic now =>
    refine iff_of_true ?_ trivial
    have less (k t) : pending (b.scheduler.flush sessionId topic now).1 k t = pending b.scheduler k t ∨
        pending (b.scheduler.flush sessionId topic now).1 k t = [] := by
      by_cases armed : Armed b.scheduler sessionId topic
      · obtain ⟨loop,under,timer⟩ := armed
        rw [(flushArmed under timer now).2.1]
        split
        · exact .inr rfl
        · exact .inl rfl
      · rw [flushIdle armed]
        exact .inl rfl
    refine ⟨fun k t waiting => ?_,fun k alone t => ?_⟩
    · rcases less k t with same | empty
      · exact held.listed k t (same ▸ waiting)
      · exact absurd empty waiting
    · rcases less k t with same | empty
      · simp only [step,same]
        refine held.fits k (fun c' t' holds => alone c' t' ?_) t
        exact ((ObservabilityScheduler.alikeFlush ..).holds ..).mpr holds
      · simp [step,empty]

theorem stepHeld (b : Backlog) (e : Event) (held : Held b) (admits : Admits b e) : Held (step b e) := by
  have bounded := (boundedIffAdmits e held).mpr admits
  cases e with
  | manager e =>
    refine ⟨bounded,SessionRecords.stepBooked held.booked e,
      SessionRecords.stepRinged held.booked held.ringed e,?_⟩
    rw [stepHeard held]
    split
    · exact held.sound
    · exact soundStep held.sound _
  | subscribe sessionId topic c => exact ⟨bounded,held.booked,held.ringed,soundStep held.sound (.subscribe ..)⟩
  | unsubscribe sessionId topic c =>
    exact ⟨bounded,held.booked,held.ringed,soundStep held.sound (.unsubscribe ..)⟩
  | removeSubscriber c => exact ⟨bounded,held.booked,held.ringed,soundStep held.sound (.removeSubscriber c)⟩
  | timerFires sessionId topic now =>
    exact ⟨bounded,held.booked,held.ringed,soundStep held.sound (.timerFires sessionId topic now)⟩

theorem startHeld (registry maxSessions transcriptRingMax deviceErrorRingMax) :
    Held (start (SessionManager.create registry maxSessions transcriptRingMax deviceErrorRingMax)) where
  listed id topic waiting := absurd (by cases topic <;> rfl) waiting
  fits id _ topic := by cases topic <;> exact Nat.zero_le _
  booked := (SessionEvents.createTold ..).booked
  ringed _ _ holds := by simp [start,SessionManager.create] at holds
  sound := ObservabilityScheduler.soundCreate

theorem backlogBounded (registry : SessionManager.DeviceIdentity → Option SessionManager.DriverEntry)
    (maxSessions transcriptRingMax deviceErrorRingMax : Nat) (events : List Event) :
    let b := start (SessionManager.create registry maxSessions transcriptRingMax deviceErrorRingMax)
    Throughout step Bounded b events ↔ Along step Admits b events := by
  intro b
  have held : Held b := startHeld registry maxSessions transcriptRingMax deviceErrorRingMax
  exact throughoutIffAlong stepHeld (fun _ e held => boundedIffAdmits e held) held held.toBounded events

/- A driver goes on after its session was closed; the write is refused, and that is recorded. -/
theorem lateRecordLeaks :
    ¬ Throughout step Bounded (start (SessionManager.create fun _ => none))
      [.manager (.openSession "dmm" none 0),.manager (.factorySettled 0 (.ok ())),
        .manager (.idnSettled 0 (.ok "RIGOL,DM858,1,2")),.manager (.close 0),
        .manager (.closeSettled 0),
        .manager (.recorded 0 ⟨.write,"*CLS",some "SCPI session is closed"⟩)] := by
  intro all
  have listed := all.last.listed 0 .sessionTranscript
  exact absurd (listed (by decide)) (by decide)

end LxiWeb.ObservabilityBacklog
