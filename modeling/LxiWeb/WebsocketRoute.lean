import LxiWeb.ClientMirror
import LxiWeb.ObservabilityFeeds
import Mathlib.Data.Finset.Lattice.Lemmas

/-! The `/ws` route: the connections it serves, the topics each has subscribed to and the
schedulers behind them. Connections are numbered. -/
namespace LxiWeb.WebsocketRoute
open KeyedWrites SessionManager ReadingLoops ObservabilityFeeds

structure Schedulers where
  reading : ReadingScheduler
  observability : ObservabilityScheduler

namespace Schedulers

def create : Schedulers := ⟨.create,.create⟩

def subscribe (s : Schedulers) (key : TopicKey) (c : Nat) : Schedulers × Sends :=
  match key.topic with
  | .observability topic =>
      ({ s with observability := s.observability.subscribe key.sessionId topic c },[])
  | .reading topic =>
      let (reading,sends) := s.reading.subscribe key.sessionId topic c
      ({ s with reading },sends)

def unsubscribe (s : Schedulers) (key : TopicKey) (c : Nat) : Schedulers :=
  match key.topic with
  | .observability topic =>
      { s with observability := s.observability.unsubscribe key.sessionId topic c }
  | .reading topic => { s with reading := s.reading.unsubscribe key.sessionId topic c }

def removeSubscriber (s : Schedulers) (c : Nat) : Schedulers :=
  ⟨s.reading.removeSubscriber c,s.observability.removeSubscriber c⟩

def removeSession (s : Schedulers) (sessionId : Nat) : Schedulers :=
  ⟨s.reading.removeSession sessionId,s.observability.removeSession sessionId⟩

def held (s : Schedulers) (c : Nat) (key : TopicKey) : Nat :=
  s.reading.held c key + s.observability.held c .deviceErrors key +
    s.observability.held c .sessionTranscript key

def Ticks (s : Schedulers) (key : TopicKey) : Prop :=
  ∃ l, (s.reading.loop l).timer ∧ (s.reading.loop l).key = key

end Schedulers

inductive ClientMessage where
  | ping
  | subscribe (key : TopicKey)
  | unsubscribe (key : TopicKey)
  deriving DecidableEq, Repr

inductive ServerMessage where
  | sessions (message : ClientMirror.ServerMessage)
  | topic (message : TopicMessage)
  deriving DecidableEq, Repr

inductive Stage where
  | dialing | client | dropped
  deriving DecidableEq, Repr

structure Conn where
  stage : Stage := .dialing
  subscriptions : Finset TopicKey := ∅
  up : List ClientMessage := []
  down : List ServerMessage := []

structure Server where
  schedulers : Schedulers
  conn : Nat → Conn
  nextConn : Nat
  -- what the manager has emitted
  emitted : List SessionEvent

namespace Server

def setConn (s : Server) (c : Nat) (f : Conn → Conn) : Server :=
  { s with conn := Function.update s.conn c (f (s.conn c)) }

def send (s : Server) (audience : Nat → Bool) (message : ServerMessage) : Server :=
  { s with conn := fun c =>
      if (s.conn c).stage = .client ∧ audience c then
        { s.conn c with down := (s.conn c).down ++ [message] }
      else s.conn c }

def broadcast (s : Server) (message : ServerMessage) : Server := s.send (fun _ => true) message

def sendAll (s : Server) (sends : Sends) : Server :=
  sends.foldl (fun s m => s.send (· ∈ m.1) (.topic m.2)) s

def onEvent (s : Server) (event : SessionEvent) : Server :=
  let s := { s with emitted := s.emitted ++ [event] }
  match event with
  | .update session => s.broadcast (.sessions (.update session))
  | .removed id =>
      { s with schedulers := s.schedulers.removeSession id }.broadcast (.sessions (.removed id))
  | .transcript id entries =>
      { s with schedulers.observability := s.schedulers.observability.onTranscript id entries }
  | .deviceErrors id entries =>
      { s with schedulers.observability := s.schedulers.observability.onDeviceErrors id entries }

def accept (s : Server) (c : Nat) (sessions : List SessionSummary) : Server :=
  if c < s.nextConn ∧ (s.conn c).stage = .dialing then
    s.setConn c fun conn =>
      { conn with stage := .client, down := conn.down ++ [.sessions (.init sessions)] }
  else s

def onMessage (s : Server) (c : Nat) : ClientMessage → Server
  | .ping => s
  | .subscribe key =>
      if key ∈ (s.conn c).subscriptions then s
      else
        let s := s.setConn c fun conn => { conn with subscriptions := insert key conn.subscriptions }
        let (schedulers,sends) := s.schedulers.subscribe key c
        { s with schedulers }.sendAll sends
  | .unsubscribe key =>
      if key ∈ (s.conn c).subscriptions then
        let s := s.setConn c fun conn => { conn with subscriptions := conn.subscriptions.erase key }
        { s with schedulers := s.schedulers.unsubscribe key c }
      else s

def receive (s : Server) (c : Nat) : Server :=
  if (s.conn c).stage = .client then
    match (s.conn c).up with
    | [] => s
    | message :: rest => (s.setConn c fun conn => { conn with up := rest }).onMessage c message
  else s

def cleanup (s : Server) (c : Nat) : Server :=
  if (s.conn c).stage = .client then
    let s := s.setConn c fun conn => { conn with stage := .dropped, subscriptions := ∅ }
    { s with schedulers := s.schedulers.removeSubscriber c }
  else s

def timerFires (s : Server) (l : Nat) : Server :=
  if (s.schedulers.reading.loop l).timer then
    { s with schedulers.reading := s.schedulers.reading.tick l }
  else s

def readSettles (s : Server) (l : Nat) (outcome : Except String String) (now : Int) : Server :=
  if 0 < (s.schedulers.reading.loop l).reads then
    let (reading,sends) := s.schedulers.reading.finishTick l outcome now
    { s with schedulers.reading := reading }.sendAll sends
  else s

def flush (s : Server) (sessionId : Nat) (topic : ObservabilityTopic) (now : Int) : Server :=
  let (observability,sends) := s.schedulers.observability.flush sessionId topic now
  { s with schedulers.observability := observability }.sendAll sends

end Server

def Removed (s : Server) (id : Nat) : Prop := .removed id ∈ s.emitted

instance (s id) : Decidable (Removed s id) := inferInstanceAs (Decidable (_ ∈ _))

namespace Schedulers

def Holds (s : Schedulers) (c : Nat) (key : TopicKey) : Prop :=
  s.reading.Holds c key ∨ ∃ topic, s.observability.Holds c topic key

structure Sound (s : Schedulers) : Prop where
  reading : s.reading.Sound
  observability : s.observability.Sound

theorem soundCreate : create.Sound := ⟨ReadingScheduler.soundCreate,ObservabilityScheduler.soundCreate⟩

theorem Sound.readingTopic {s : Schedulers} (sound : s.Sound) {c key} (holds : s.reading.Holds c key) :
    ∃ topic, key.topic = .reading topic := by
  obtain ⟨l,under,_⟩ := holds
  exact ⟨_,(congrArg TopicKey.topic (sound.reading.keyed key l under).1).symm⟩

theorem Sound.observabilityTopic {s : Schedulers} (sound : s.Sound) {c topic key}
    (holds : s.observability.Holds c topic key) : key.topic = .observability topic := by
  obtain ⟨loop,under,_⟩ := holds
  exact (sound.observability topic key loop under).1

theorem heldCount {s : Schedulers} (sound : s.Sound) {c : Nat} {key : TopicKey} {count : Prop}
    [Decidable count] (holds : s.Holds c key ↔ count) :
    s.held c key = if count then 1 else 0 := by
  have elsewhere (topic) (other : key.topic ≠ .observability topic) :
      s.observability.held c topic key = 0 :=
    ObservabilityScheduler.heldZero fun holds => other (sound.observabilityTopic holds)
  by_cases reading : s.reading.Holds c key
  · obtain ⟨topic,own⟩ := sound.readingTopic reading
    have counts := holds.mp (.inl reading)
    simp [held,ReadingScheduler.heldOne reading,elsewhere,own,counts]
  · rw [held,ReadingScheduler.heldZero reading,Nat.zero_add]
    by_cases observability : ∃ topic, s.observability.Holds c topic key
    · have counts := holds.mp (.inr observability)
      obtain ⟨topic,holds⟩ := observability
      have own := sound.observabilityTopic holds
      cases topic <;>
        simp [ObservabilityScheduler.heldOne holds,elsewhere,own,counts]
    · have counts : ¬ count := fun counts => (holds.mpr counts).elim reading observability
      have zero (topic) : s.observability.held c topic key = 0 :=
        ObservabilityScheduler.heldZero fun holds => observability ⟨topic,holds⟩
      simp [zero,counts]

theorem Sound.ticks {s : Schedulers} (sound : s.Sound) {key} (ticks : s.Ticks key) :
    ∃ c, s.Holds c key := by
  obtain ⟨l,runs,rfl⟩ := ticks
  obtain ⟨c,holds⟩ := sound.reading.ticks runs
  exact ⟨c,.inl holds⟩

theorem soundSubscribe {s : Schedulers} (sound : s.Sound) (key c) : (s.subscribe key c).1.Sound := by
  unfold subscribe
  split
  · exact ⟨sound.reading,ObservabilityScheduler.soundSubscribe sound.observability _ _ _⟩
  · exact ⟨ReadingScheduler.soundSubscribe sound.reading _ _ _,sound.observability⟩

theorem holdsSubscribe {s : Schedulers} (sound : s.Sound) (key c c' key') :
    (s.subscribe key c).1.Holds c' key' ↔ s.Holds c' key' ∨ c' = c ∧ key' = key := by
  unfold subscribe
  split
  · rename_i topic own
    have here : ObservabilityScheduler.keyOf key.sessionId topic = key := by
      rw [ObservabilityScheduler.keyOf,← own]
    simp only [Holds,ObservabilityScheduler.holdsSubscribe,here,exists_or]
    simp [or_assoc]
  · rename_i topic own
    have here : (⟨key.sessionId,.reading topic⟩ : TopicKey) = key := by rw [← own]
    simp only [Holds,ReadingScheduler.holdsSubscribe sound.reading,here]
    tauto

theorem soundUnsubscribe {s : Schedulers} (sound : s.Sound) (key c) : (s.unsubscribe key c).Sound := by
  unfold unsubscribe
  split
  · exact ⟨sound.reading,ObservabilityScheduler.soundUnsubscribe sound.observability _ _ _⟩
  · exact ⟨ReadingScheduler.soundUnsubscribe sound.reading _ _ _,sound.observability⟩

theorem holdsUnsubscribe {s : Schedulers} (sound : s.Sound) (key c c' key') :
    (s.unsubscribe key c).Holds c' key' ↔ s.Holds c' key' ∧ ¬ (c' = c ∧ key' = key) := by
  unfold unsubscribe
  split
  · rename_i topic own
    have here : ObservabilityScheduler.keyOf key.sessionId topic = key := by
      rw [ObservabilityScheduler.keyOf,← own]
    have reading (holds : s.reading.Holds c' key') : key' ≠ key := by
      obtain ⟨_,other⟩ := sound.readingTopic holds
      intro same
      simp [same,own] at other
    have observability {topic'} (holds : s.observability.Holds c' topic' key') :
        key' = key → topic' = topic := by
      intro same
      simpa [same,own,eq_comm] using sound.observabilityTopic holds
    simp only [Holds,ObservabilityScheduler.holdsUnsubscribe,here]
    constructor
    · intro holds
      rcases holds with holds | ⟨topic',holds,other⟩
      · exact ⟨.inl holds,fun both => reading holds both.2⟩
      · exact ⟨.inr ⟨topic',holds⟩,fun both => other ⟨both.1,observability holds both.2,both.2⟩⟩
    · intro both
      obtain ⟨holds,other⟩ := both
      rcases holds with holds | ⟨topic',holds⟩
      · exact .inl holds
      · exact .inr ⟨topic',holds,fun all => other ⟨all.1,all.2.2⟩⟩
  · rename_i topic own
    have here : (⟨key.sessionId,.reading topic⟩ : TopicKey) = key := by rw [← own]
    have observability (holds : ∃ topic', s.observability.Holds c' topic' key') : key' ≠ key := by
      obtain ⟨topic',holds⟩ := holds
      have other := sound.observabilityTopic holds
      intro same
      simp [same,own] at other
    simp only [Holds,ReadingScheduler.holdsUnsubscribe sound.reading,here]
    tauto

theorem soundRemoveSubscriber {s : Schedulers} (sound : s.Sound) (c) : (s.removeSubscriber c).Sound :=
  ⟨ReadingScheduler.soundShrinks sound.reading (ReadingScheduler.shrinksSubscriber sound.reading c),
    ObservabilityScheduler.soundRemoveSubscriber sound.observability c⟩

theorem holdsRemoveSubscriber {s : Schedulers} (sound : s.Sound) (c c' key) :
    (s.removeSubscriber c).Holds c' key ↔ s.Holds c' key ∧ c' ≠ c := by
  simp only [Holds,removeSubscriber,ReadingScheduler.holdsRemoveSubscriber sound.reading,
    ObservabilityScheduler.holdsRemoveSubscriber,exists_and_right,or_and_right]

theorem soundRemoveSession {s : Schedulers} (sound : s.Sound) (id) : (s.removeSession id).Sound :=
  ⟨ReadingScheduler.soundShrinks sound.reading (ReadingScheduler.shrinksSession sound.reading id),
    ObservabilityScheduler.soundRemoveSession sound.observability id⟩

theorem holdsRemoveSession {s : Schedulers} (sound : s.Sound) (id c key) :
    (s.removeSession id).Holds c key ↔ s.Holds c key ∧ key.sessionId ≠ id := by
  simp only [Holds,removeSession,ReadingScheduler.holdsRemoveSession sound.reading,
    ObservabilityScheduler.holdsRemoveSession sound.observability,exists_and_right,or_and_right]

end Schedulers

def subscribes : ClientMessage → Option TopicKey
  | .subscribe key => some key
  | _ => none

def pending (subscriptions : Finset TopicKey) : ClientMessage → Finset TopicKey
  | .ping => subscriptions
  | .subscribe key => insert key subscriptions
  | .unsubscribe key => subscriptions.erase key

def Conn.settled (conn : Conn) : Finset TopicKey := conn.up.foldl pending conn.subscriptions

/- The browser is still to hear that session `id` has been removed. -/
def Conn.Tells (conn : Conn) (id : Nat) : Prop := .sessions (.removed id) ∈ conn.down

structure Server.Kept (s : Server) : Prop where
  sound : s.schedulers.Sound
  holds : ∀ c key, s.schedulers.Holds c key ↔
    (s.conn c).stage = .client ∧ key ∈ (s.conn c).subscriptions ∧ ¬ Removed s key.sessionId
  dialing : ∀ c, (s.conn c).stage = .dialing → (s.conn c).subscriptions = ∅
  fresh : ∀ c, s.nextConn ≤ c → (s.conn c).stage = .dialing ∧ (s.conn c).up = []
  tells : ∀ c id, (s.conn c).Tells id → Removed s id

/- The connections are as before but for messages sent down that say nothing of removed sessions. -/
structure Server.Carries (s s' : Server) : Prop where
  stage : ∀ c, (s'.conn c).stage = (s.conn c).stage
  subscriptions : ∀ c, (s'.conn c).subscriptions = (s.conn c).subscriptions
  up : ∀ c, (s'.conn c).up = (s.conn c).up
  tells : ∀ c id, (s'.conn c).Tells id ↔ (s.conn c).Tells id
  next : s'.nextConn = s.nextConn
  removed : ∀ id, Removed s' id ↔ Removed s id

namespace Server

theorem Carries.trans {s s' s'' : Server} (first : Carries s s') (second : Carries s' s'') :
    Carries s s'' where
  stage c := (second.stage c).trans (first.stage c)
  subscriptions c := (second.subscriptions c).trans (first.subscriptions c)
  up c := (second.up c).trans (first.up c)
  tells c id := (second.tells c id).trans (first.tells c id)
  next := second.next.trans first.next
  removed id := (second.removed id).trans (first.removed id)

theorem Carries.refl {s s' : Server} (conn : s'.conn = s.conn) (next : s'.nextConn = s.nextConn)
    (emitted : s'.emitted = s.emitted) : Carries s s' where
  stage c := by rw [conn]
  subscriptions c := by rw [conn]
  up c := by rw [conn]
  tells c id := by rw [conn]
  next := next
  removed id := by simp only [Removed,emitted]

theorem carriesSend (s : Server) (audience : Nat → Bool) {message : ServerMessage}
    (other : ∀ id, message ≠ .sessions (.removed id)) : Carries s (s.send audience message) where
  stage c := by
    simp only [send]
    split <;> rfl
  subscriptions c := by
    simp only [send]
    split <;> rfl
  up c := by
    simp only [send]
    split <;> rfl
  tells c id := by
    simp only [send]
    split
    · simp [Conn.Tells,(other id).symm]
    · rfl
  next := rfl
  removed _ := Iff.rfl

theorem sendAllSchedulers (s : Server) (sends : Sends) : (s.sendAll sends).schedulers = s.schedulers := by
  induction sends generalizing s with
  | nil => rfl
  | cons m rest ih => exact ih _

theorem carriesSendAll (s : Server) (sends : Sends) : Carries s (s.sendAll sends) := by
  induction sends generalizing s with
  | nil => exact .refl rfl rfl rfl
  | cons m rest ih => exact (carriesSend s (· ∈ m.1) (by simp)).trans (ih _)

theorem keptCarries {s s' : Server} (kept : s.Kept) (carries : Carries s s')
    (sound : s'.schedulers.Sound)
    (holds : ∀ c key, s'.schedulers.Holds c key ↔ s.schedulers.Holds c key) : s'.Kept where
  sound := sound
  holds c key := by
    rw [holds,kept.holds,carries.stage,carries.subscriptions,carries.removed]
  dialing c := by
    rw [carries.stage,carries.subscriptions]
    exact kept.dialing c
  fresh c := by
    rw [carries.next,carries.stage,carries.up]
    exact kept.fresh c
  tells c id := by
    rw [carries.tells,carries.removed]
    exact kept.tells c id

@[simp] theorem setConnSame (s : Server) (c f) : (s.setConn c f).conn c = f (s.conn c) := by
  simp [setConn]

theorem setConnOther (s : Server) {c j : Nat} (other : j ≠ c) (f) :
    (s.setConn c f).conn j = s.conn j := by
  simp [setConn,other]

theorem Kept.known {s : Server} (kept : s.Kept) {c : Nat} (accepted : (s.conn c).stage ≠ .dialing) :
    c < s.nextConn := by
  by_contra beyond
  exact accepted (kept.fresh c (by omega)).1

/- From `s` to `s'` nothing changes but connection `c` and what the schedulers hold for it. -/
structure Only (s s' : Server) (c : Nat) : Prop where
  others : ∀ j, j ≠ c → s'.conn j = s.conn j
  next : s'.nextConn = s.nextConn
  emitted : s'.emitted = s.emitted
  holds : ∀ j key, j ≠ c → (s'.schedulers.Holds j key ↔ s.schedulers.Holds j key)

theorem keptOnly {s s' : Server} (kept : s.Kept) {c : Nat} (only : Only s s' c)
    (known : c < s.nextConn) (sound : s'.schedulers.Sound)
    (holds : ∀ key, s'.schedulers.Holds c key ↔ (s'.conn c).stage = .client ∧
      key ∈ (s'.conn c).subscriptions ∧ ¬ Removed s key.sessionId)
    (dialing : (s'.conn c).stage = .dialing → (s'.conn c).subscriptions = ∅)
    (tells : ∀ id, (s'.conn c).Tells id → Removed s id) : s'.Kept where
  sound := sound
  holds j key := by
    rw [Removed,only.emitted]
    by_cases this : j = c
    · subst this
      exact holds key
    · rw [only.others j this,only.holds j key this]
      exact kept.holds j key
  dialing j := by
    by_cases this : j = c
    · subst this
      exact dialing
    · rw [only.others j this]
      exact kept.dialing j
  fresh j beyond := by
    rw [only.next] at beyond
    rw [only.others j (by omega)]
    exact kept.fresh j beyond
  tells j id := by
    rw [Removed,only.emitted]
    by_cases this : j = c
    · subst this
      exact tells id
    · rw [only.others j this]
      exact kept.tells j id

theorem onlySetConn (s : Server) (c f) : Only s (s.setConn c f) c :=
  ⟨fun _ other => setConnOther s other f,rfl,rfl,fun _ _ _ => Iff.rfl⟩

theorem keptSetConn {s : Server} (kept : s.Kept) {c : Nat} {f : Conn → Conn} (known : c < s.nextConn)
    (stage : (f (s.conn c)).stage = (s.conn c).stage)
    (subscriptions : (f (s.conn c)).subscriptions = (s.conn c).subscriptions)
    (tells : ∀ id, (f (s.conn c)).Tells id → (s.conn c).Tells id) : (s.setConn c f).Kept := by
  apply keptOnly kept (onlySetConn s c f) known kept.sound
  · intro key
    rw [setConnSame,stage,subscriptions]
    exact kept.holds c key
  · rw [setConnSame,stage,subscriptions]
    exact kept.dialing c
  · intro id told
    rw [setConnSame] at told
    exact kept.tells c id (tells id told)

theorem onlyAccept (s : Server) (c sessions) : Only s (s.accept c sessions) c := by
  unfold accept
  split
  · exact onlySetConn s c _
  · exact ⟨fun _ _ => rfl,rfl,rfl,fun _ _ _ => Iff.rfl⟩

theorem keptAccept {s : Server} (kept : s.Kept) (c sessions) : (s.accept c sessions).Kept := by
  have only := onlyAccept s c sessions
  unfold accept at only ⊢
  split at only
  · rename_i dials
    have none := kept.dialing c dials.2
    rw [if_pos dials]
    apply keptOnly kept only dials.1 kept.sound
    · intro key
      refine (kept.holds c key).trans ?_
      simp [dials.2,none]
    · simp
    · intro id told
      rw [setConnSame] at told
      exact kept.tells c id (by simpa [Conn.Tells] using told)
  · rename_i closed
    rw [if_neg closed]
    exact kept

theorem onlyCleanup {s : Server} (kept : s.Kept) (c) : Only s (s.cleanup c) c := by
  unfold cleanup
  split
  · refine ⟨fun j other => by simp [setConn,other],rfl,rfl,?_⟩
    intro j key other
    refine (Schedulers.holdsRemoveSubscriber kept.sound c j key).trans ?_
    simp [other]
  · exact ⟨fun _ _ => rfl,rfl,rfl,fun _ _ _ => Iff.rfl⟩

theorem keptCleanup {s : Server} (kept : s.Kept) (c) : (s.cleanup c).Kept := by
  have only := onlyCleanup kept c
  unfold cleanup at only ⊢
  split at only
  · rename_i client
    rw [if_pos client]
    apply keptOnly kept only (kept.known (by simp [client]))
    · exact Schedulers.soundRemoveSubscriber kept.sound c
    · intro key
      refine (Schedulers.holdsRemoveSubscriber kept.sound c c key).trans ?_
      simp
    · simp
    · intro id told
      simp only [setConnSame] at told
      exact kept.tells c id told
  · rename_i other
    rw [if_neg other]
    exact kept

structure Takes (s s' : Server) (c : Nat) (message : ClientMessage) : Prop where
  stage : ∀ j, (s'.conn j).stage = (s.conn j).stage
  up : ∀ j, (s'.conn j).up = (s.conn j).up
  tells : ∀ j id, (s'.conn j).Tells id ↔ (s.conn j).Tells id
  here : (s'.conn c).subscriptions = pending (s.conn c).subscriptions message
  elsewhere : ∀ j, j ≠ c → (s'.conn j).subscriptions = (s.conn j).subscriptions
  next : s'.nextConn = s.nextConn
  removed : ∀ id, Removed s' id ↔ Removed s id

theorem takesNothing {s : Server} {c : Nat} {message : ClientMessage}
    (same : pending (s.conn c).subscriptions message = (s.conn c).subscriptions) :
    Takes s s c message :=
  ⟨fun _ => rfl,fun _ => rfl,fun _ _ => Iff.rfl,same.symm,fun _ _ => rfl,rfl,fun _ => Iff.rfl⟩

theorem takesSet (s : Server) (c : Nat) (message : ClientMessage) (schedulers : Schedulers) :
    Takes s { s.setConn c fun conn =>
        { conn with subscriptions := pending conn.subscriptions message } with schedulers }
      c message where
  stage j := by by_cases this : j = c <;> simp [setConn,this]
  up j := by by_cases this : j = c <;> simp [setConn,this]
  tells j id := by by_cases this : j = c <;> simp [setConn,this,Conn.Tells]
  here := by simp [setConn]
  elsewhere j other := by simp [setConn,other]
  next := rfl
  removed _ := Iff.rfl

theorem Takes.carries {s s' s'' : Server} {c message} (takes : Takes s s' c message)
    (carries : Carries s' s'') : Takes s s'' c message where
  stage j := (carries.stage j).trans (takes.stage j)
  up j := (carries.up j).trans (takes.up j)
  tells j id := (carries.tells j id).trans (takes.tells j id)
  here := (carries.subscriptions c).trans takes.here
  elsewhere j other := (carries.subscriptions j).trans (takes.elsewhere j other)
  next := carries.next.trans takes.next
  removed id := (carries.removed id).trans (takes.removed id)

theorem messageTakes (s : Server) (c : Nat) (message : ClientMessage) :
    Takes s (s.onMessage c message) c message := by
  cases message with
  | ping => exact takesNothing rfl
  | subscribe key =>
    simp only [onMessage]
    split
    · rename_i member
      exact takesNothing (Finset.insert_eq_self.mpr member)
    · exact (takesSet s c (.subscribe key) _).carries (carriesSendAll _ _)
  | unsubscribe key =>
    simp only [onMessage]
    split
    · exact takesSet s c (.unsubscribe key) _
    · rename_i absent
      exact takesNothing (Finset.erase_eq_of_notMem absent)

theorem messageHolds {s : Server} (kept : s.Kept) {c : Nat} (client : (s.conn c).stage = .client)
    {message : ClientMessage} (timely : ∀ key ∈ subscribes message, ¬ Removed s key.sessionId) :
    (s.onMessage c message).schedulers.Sound ∧
    ∀ j key, (s.onMessage c message).schedulers.Holds j key ↔
      if j = c then key ∈ pending (s.conn c).subscriptions message ∧ ¬ Removed s key.sessionId
      else s.schedulers.Holds j key := by
  have own (key) : s.schedulers.Holds c key ↔
      key ∈ (s.conn c).subscriptions ∧ ¬ Removed s key.sessionId := by simp [kept.holds,client]
  have stays (same : pending (s.conn c).subscriptions message = (s.conn c).subscriptions) (j key) :
      s.schedulers.Holds j key ↔
        if j = c then key ∈ pending (s.conn c).subscriptions message ∧ ¬ Removed s key.sessionId
        else s.schedulers.Holds j key := by
    split
    · rename_i this
      rw [this,same,own]
    · rfl
  cases message with
  | ping => exact ⟨kept.sound,stays rfl⟩
  | subscribe k =>
    have lasting := timely k rfl
    simp only [onMessage]
    split
    · rename_i member
      exact ⟨kept.sound,stays (Finset.insert_eq_self.mpr member)⟩
    · rw [sendAllSchedulers]
      refine ⟨Schedulers.soundSubscribe kept.sound k c,?_⟩
      intro j key
      apply (Schedulers.holdsSubscribe kept.sound k c j key).trans
      split
      · rename_i this
        rw [this,own,pending,Finset.mem_insert]
        constructor
        · intro holds
          rcases holds with before | ⟨_,rfl⟩
          · exact ⟨.inr before.1,before.2⟩
          · exact ⟨.inl rfl,lasting⟩
        · intro ⟨member,here⟩
          rcases member with this | before
          · exact .inr ⟨rfl,this⟩
          · exact .inl ⟨before,here⟩
      · rename_i other
        simp [other]
  | unsubscribe k =>
    simp only [onMessage]
    split
    · refine ⟨Schedulers.soundUnsubscribe kept.sound k c,?_⟩
      intro j key
      apply (Schedulers.holdsUnsubscribe kept.sound k c j key).trans
      split
      · rename_i this
        rw [this,own,pending,Finset.mem_erase]
        tauto
      · rename_i other
        simp [other]
    · rename_i absent
      exact ⟨kept.sound,stays (Finset.erase_eq_of_notMem absent)⟩

theorem keptMessage {s : Server} (kept : s.Kept) {c : Nat} (client : (s.conn c).stage = .client)
    {message : ClientMessage} (timely : ∀ key ∈ subscribes message, ¬ Removed s key.sessionId) :
    (s.onMessage c message).Kept := by
  have takes := messageTakes s c message
  obtain ⟨sound,holds⟩ := messageHolds kept client timely
  refine ⟨sound,?_,?_,?_,?_⟩
  · intro j key
    rw [holds,takes.stage,takes.removed]
    split
    · rename_i this
      simp [this,takes.here,client]
    · rename_i other
      rw [takes.elsewhere j other,kept.holds]
  · intro j dialing
    rw [takes.stage] at dialing
    have other : j ≠ c := by
      intro this
      simp [this,client] at dialing
    rw [takes.elsewhere j other]
    exact kept.dialing j dialing
  · intro j
    rw [takes.next,takes.stage,takes.up]
    exact kept.fresh j
  · intro j id
    rw [takes.tells,takes.removed]
    exact kept.tells j id

theorem removedConn (s : Server) (id c : Nat) :
    ((s.onEvent (.removed id)).conn c).stage = (s.conn c).stage ∧
    ((s.onEvent (.removed id)).conn c).subscriptions = (s.conn c).subscriptions ∧
    ((s.onEvent (.removed id)).conn c).up = (s.conn c).up := by
  simp only [onEvent,broadcast,send]
  split <;> exact ⟨rfl,rfl,rfl⟩

theorem removedTells (s : Server) (id c k : Nat) : ((s.onEvent (.removed id)).conn c).Tells k ↔
    (s.conn c).Tells k ∨ (s.conn c).stage = .client ∧ k = id := by
  simp only [onEvent,broadcast,send]
  split
  · rename_i client
    simp [Conn.Tells,client.1]
  · rename_i other
    simp only [and_true] at other
    simp [other]

theorem removedNow (s : Server) (id k : Nat) :
    Removed (s.onEvent (.removed id)) k ↔ Removed s k ∨ k = id := by
  simp [Removed,onEvent,broadcast,send]

theorem keptRemoved {s : Server} (kept : s.Kept) (id : Nat) : (s.onEvent (.removed id)).Kept where
  sound := Schedulers.soundRemoveSession kept.sound id
  holds c key := by
    have dropped : (s.onEvent (.removed id)).schedulers.Holds c key ↔
        s.schedulers.Holds c key ∧ key.sessionId ≠ id :=
      Schedulers.holdsRemoveSession kept.sound id c key
    obtain ⟨stage,subscriptions,_⟩ := removedConn s id c
    rw [dropped,kept.holds,stage,subscriptions,removedNow]
    tauto
  dialing c := by
    obtain ⟨stage,subscriptions,_⟩ := removedConn s id c
    rw [stage,subscriptions]
    exact kept.dialing c
  fresh c := by
    obtain ⟨stage,_,up⟩ := removedConn s id c
    rw [stage,up]
    exact kept.fresh c
  tells c k := by
    rw [removedTells,removedNow]
    intro told
    rcases told with told | ⟨_,this⟩
    · exact .inl (kept.tells c k told)
    · exact .inr this

end Server

end LxiWeb.WebsocketRoute
