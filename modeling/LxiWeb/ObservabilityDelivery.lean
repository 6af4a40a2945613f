import LxiWeb.EventRuns
import LxiWeb.ObservabilityFeeds

/-! Runs of an `ObservabilityScheduler`: what a subscriber is sent, and what waits for the next
flush. -/
namespace LxiWeb.ObservabilityDelivery
open EventRuns RingBuffers ReadingLoops ObservabilityFeeds
open ObservabilityScheduler (keyOf)

inductive Row where
  | deviceError (entry : DeviceErrorEntry)
  | transcript (entry : TranscriptEntry)
  deriving DecidableEq, Repr

inductive Event where
  | deviceErrors (sessionId : Nat) (entries : List DeviceErrorEntry)
  | transcript (sessionId : Nat) (entries : List TranscriptEntry)
  | subscribe (sessionId : Nat) (topic : ObservabilityTopic) (c : Nat)
  | unsubscribe (sessionId : Nat) (topic : ObservabilityTopic) (c : Nat)
  | removeSubscriber (c : Nat)
  | removeSession (sessionId : Nat)
  | timerFires (sessionId : Nat) (topic : ObservabilityTopic) (now : Int)
  deriving DecidableEq, Repr

def handle (s : ObservabilityScheduler) : Event → ObservabilityScheduler × Sends
  | .deviceErrors sessionId entries => (s.onDeviceErrors sessionId entries,[])
  | .transcript sessionId entries => (s.onTranscript sessionId entries,[])
  | .subscribe sessionId topic c => (s.subscribe sessionId topic c,[])
  | .unsubscribe sessionId topic c => (s.unsubscribe sessionId topic c,[])
  | .removeSubscriber c => (s.removeSubscriber c,[])
  | .removeSession sessionId => (s.removeSession sessionId,[])
  | .timerFires sessionId topic now => s.flush sessionId topic now

def step (s : ObservabilityScheduler) (e : Event) : ObservabilityScheduler := (handle s e).1

def pending (s : ObservabilityScheduler) (sessionId : Nat) : ObservabilityTopic → List Row
  | .deviceErrors => (s.devicePending sessionId).map .deviceError
  | .sessionTranscript => (s.transcriptPending sessionId).map .transcript

def rows : TopicMessage → List Row
  | .readingUpdate .. | .readingError .. => []
  | .deviceErrorsBatch _ entries _ => entries.map .deviceError
  | .sessionTranscriptBatch _ entries _ => entries.map .transcript

def received (c : Nat) (key : TopicKey) (sends : Sends) : List Row :=
  sends.flatMap fun send => if c ∈ send.1 ∧ messageKey send.2 = key then rows send.2 else []

def delivered (c : Nat) (key : TopicKey) : ObservabilityScheduler → List Event → List Row
  | _, [] => []
  | s, e :: rest => received c key (handle s e).2 ++ delivered c key (step s e) rest

def brought (key : TopicKey) : Event → List Row
  | .deviceErrors sessionId entries =>
      if key = keyOf sessionId .deviceErrors then entries.map .deviceError else []
  | .transcript sessionId entries =>
      if key = keyOf sessionId .sessionTranscript then entries.map .transcript else []
  | _ => []

def Removes (c : Nat) (key : TopicKey) : Event → Prop
  | .unsubscribe sessionId topic c' => c' = c ∧ key = keyOf sessionId topic
  | .removeSubscriber c' => c' = c
  | .removeSession sessionId => key.sessionId = sessionId
  | _ => False

instance (c key) : DecidablePred (Removes c key)
  | .unsubscribe sessionId topic c' => inferInstanceAs (Decidable (c' = c ∧ key = keyOf sessionId topic))
  | .removeSubscriber c' => inferInstanceAs (Decidable (c' = c))
  | .removeSession sessionId => inferInstanceAs (Decidable (key.sessionId = sessionId))
  | .deviceErrors .. | .transcript .. | .subscribe .. | .timerFires .. => isFalse id

def Armed (s : ObservabilityScheduler) (sessionId : Nat) (topic : ObservabilityTopic) : Prop :=
  ∃ loop, s.loops topic (keyOf sessionId topic) = some loop ∧ loop.timer

theorem keyOfInj {sessionId sessionId' topic topic'} :
    keyOf sessionId topic = keyOf sessionId' topic' ↔ sessionId = sessionId' ∧ topic = topic' := by
  simp [keyOf]

theorem hasPendingIff (s : ObservabilityScheduler) (sessionId topic) :
    s.hasPending sessionId topic ↔ pending s sessionId topic ≠ [] := by
  cases topic <;> simp [ObservabilityScheduler.hasPending,pending]

@[simp] theorem pendingSetLoop (s : ObservabilityScheduler) (k t loop sessionId topic) :
    pending (s.setLoop k t loop) sessionId topic = pending s sessionId topic := by
  cases topic <;> rfl

@[simp] theorem pendingScheduleFlush (s : ObservabilityScheduler) (k t sessionId topic) :
    pending (s.scheduleFlush k t) sessionId topic = pending s sessionId topic := by
  unfold ObservabilityScheduler.scheduleFlush
  split
  · rfl
  · split
    · rfl
    · split
      · rfl
      · exact pendingSetLoop ..

theorem pendingDeviceErrors (s : ObservabilityScheduler) (k entries sessionId topic) :
    pending (s.onDeviceErrors k entries) sessionId topic =
      pending s sessionId topic ++ brought (keyOf sessionId topic) (.deviceErrors k entries) := by
  simp only [ObservabilityScheduler.onDeviceErrors,pendingScheduleFlush,brought,keyOfInj]
  cases topic with
  | sessionTranscript => simp [pending]
  | deviceErrors =>
    by_cases same : sessionId = k
    · subst same
      simp [pending]
    · simp [pending,same]

theorem pendingTranscript (s : ObservabilityScheduler) (k entries sessionId topic) :
    pending (s.onTranscript k entries) sessionId topic =
      pending s sessionId topic ++ brought (keyOf sessionId topic) (.transcript k entries) := by
  simp only [ObservabilityScheduler.onTranscript,pendingScheduleFlush,brought,keyOfInj]
  cases topic with
  | deviceErrors => simp [pending]
  | sessionTranscript =>
    by_cases same : sessionId = k
    · subst same
      simp [pending]
    · simp [pending,same]

@[simp] theorem pendingSubscribe (s : ObservabilityScheduler) (k t c sessionId topic) :
    pending (s.subscribe k t c) sessionId topic = pending s sessionId topic := by
  simp only [ObservabilityScheduler.subscribe]
  split <;> simp

@[simp] theorem pendingUnsubscribe (s : ObservabilityScheduler) (k t c sessionId topic) :
    pending (s.unsubscribe k t c) sessionId topic = pending s sessionId topic := by
  unfold ObservabilityScheduler.unsubscribe
  split
  · rfl
  · exact pendingSetLoop ..

@[simp] theorem pendingRemoveSubscriber (s : ObservabilityScheduler) (c sessionId topic) :
    pending (s.removeSubscriber c) sessionId topic = pending s sessionId topic := by
  cases topic <;> rfl

theorem pendingRemoveSession (s : ObservabilityScheduler) (k sessionId topic) :
    pending (s.removeSession k) sessionId topic =
      if sessionId = k then [] else pending s sessionId topic := by
  by_cases same : sessionId = k <;> cases topic <;>
    simp [ObservabilityScheduler.removeSession,ObservabilityScheduler.setLoop,pending,same]

theorem flushArmed {s : ObservabilityScheduler} {sessionId topic loop}
    (under : s.loops topic (keyOf sessionId topic) = some loop) (timer : loop.timer) (now) :
    (s.flush sessionId topic now).1.loops =
        (s.setLoop sessionId topic (some { loop with timer := false })).loops ∧
      (∀ k t, pending (s.flush sessionId topic now).1 k t =
        if k = sessionId ∧ t = topic then [] else pending s k t) ∧
      ∀ c key, received c key (s.flush sessionId topic now).2 =
        if c ∈ loop.subscribers ∧ keyOf sessionId topic = key then pending s sessionId topic
        else [] := by
  simp only [ObservabilityScheduler.flush,under,timer,if_true]
  split
  · cases topic with
    | deviceErrors =>
      refine ⟨rfl,?_,fun c key => by simp [received,rows,messageKey,keyOf,pending]; rfl⟩
      intro k t
      by_cases same : k = sessionId <;> cases t <;>
        simp [pending,ObservabilityScheduler.setLoop,same]
    | sessionTranscript =>
      refine ⟨rfl,?_,fun c key => by simp [received,rows,messageKey,keyOf,pending]; rfl⟩
      intro k t
      by_cases same : k = sessionId <;> cases t <;>
        simp [pending,ObservabilityScheduler.setLoop,same]
  · rename_i nothing
    have empty : pending s sessionId topic = [] := by
      by_contra waiting
      apply nothing
      rw [hasPendingIff,pendingSetLoop]
      exact waiting
    refine ⟨rfl,?_,?_⟩
    · intro k t
      rw [pendingSetLoop]
      split
      · rename_i here
        rw [here.1,here.2,empty]
      · rfl
    · simp [received,empty]

theorem flushIdle {s : ObservabilityScheduler} {sessionId topic} (idle : ¬ Armed s sessionId topic)
    (now) : s.flush sessionId topic now = (s,[]) := by
  unfold ObservabilityScheduler.flush
  split
  · rfl
  · rename_i loop under
    exact if_neg fun timer => idle ⟨loop,under,timer⟩

structure Ready (s : ObservabilityScheduler) : Prop where
  sound : s.Sound
  armed : ∀ sessionId topic loop, s.loops topic (keyOf sessionId topic) = some loop →
    pending s sessionId topic ≠ [] → loop.timer

theorem readyCreate : Ready .create :=
  ⟨ObservabilityScheduler.soundCreate,fun _ _ _ under => by simp [ObservabilityScheduler.create] at under⟩

theorem scheduleFlushAt {s : ObservabilityScheduler} {k t topic key loop}
    (found : (s.scheduleFlush k t).loops topic key = some loop) :
    ∃ before, s.loops topic key = some before ∧ loop.subscribers = before.subscribers ∧
      (before.timer → loop.timer) ∧
      (topic = t → key = keyOf k t → loop.subscribers.Nonempty → loop.timer) := by
  unfold ObservabilityScheduler.scheduleFlush at found
  split at found
  · rename_i free
    refine ⟨loop,found,rfl,id,?_⟩
    rintro rfl rfl
    simp [free] at found
  · rename_i old under
    split at found
    · rename_i empty
      refine ⟨loop,found,rfl,id,?_⟩
      rintro rfl rfl
      obtain rfl := Option.some.inj (under.symm.trans found)
      simp [empty]
    · split at found
      · rename_i timer
        refine ⟨loop,found,rfl,id,?_⟩
        rintro rfl rfl
        obtain rfl := Option.some.inj (under.symm.trans found)
        exact fun _ => timer
      · by_cases here : topic = t ∧ key = keyOf k t
        · obtain ⟨rfl,rfl⟩ := here
          rw [ObservabilityScheduler.setLoopHere] at found
          obtain rfl := Option.some.inj found
          exact ⟨old,under,rfl,fun _ => rfl,fun _ _ _ => rfl⟩
        · rw [ObservabilityScheduler.setLoopOther s _ here] at found
          exact ⟨loop,found,rfl,id,fun first second => absurd ⟨first,second⟩ here⟩

theorem readyScheduleFlush {s : ObservabilityScheduler} {k t} (sound : s.Sound)
    (others : ∀ sessionId topic loop, ¬ (sessionId = k ∧ topic = t) →
      s.loops topic (keyOf sessionId topic) = some loop → pending s sessionId topic ≠ [] →
      loop.timer) : Ready (s.scheduleFlush k t) where
  sound := (ObservabilityScheduler.alikeScheduleFlush s k t).sound sound
  armed sessionId topic loop under waiting := by
    obtain ⟨before,found,same,runs,here⟩ := scheduleFlushAt under
    by_cases this : sessionId = k ∧ topic = t
    · obtain ⟨rfl,rfl⟩ := this
      exact here rfl rfl (same ▸ (sound _ _ before found).2)
    · exact runs (others sessionId topic before this found (by simpa using waiting))

theorem readySubscribe {s : ObservabilityScheduler} (ready : Ready s) (k t c) :
    Ready (s.subscribe k t c) := by
  have sound := ObservabilityScheduler.soundSubscribe ready.sound k t c
  simp only [ObservabilityScheduler.subscribe] at sound ⊢
  have others (sessionId topic loop) (other : ¬ (sessionId = k ∧ topic = t)) (grown)
      (under : (s.setLoop k t grown).loops topic (keyOf sessionId topic) = some loop)
      (waiting : pending (s.setLoop k t grown) sessionId topic ≠ []) : loop.timer := by
    have elsewhere : ¬ (topic = t ∧ keyOf sessionId topic = keyOf k t) := by
      rw [keyOfInj]
      exact fun here => other here.2
    rw [ObservabilityScheduler.setLoopOther s _ elsewhere] at under
    exact ready.armed sessionId topic loop under (by simpa using waiting)
  split
  · refine readyScheduleFlush ?_ fun sessionId topic loop other => others sessionId topic loop other _
    apply ObservabilityScheduler.soundSetLoop ready.sound
    intro l made
    obtain rfl := Option.some.inj made
    exact Finset.insert_nonempty _ _
  · rename_i nothing
    rw [if_neg nothing] at sound
    refine ⟨sound,fun sessionId topic loop under waiting => ?_⟩
    by_cases this : sessionId = k ∧ topic = t
    · obtain ⟨rfl,rfl⟩ := this
      exact absurd ((hasPendingIff _ _ _).mpr waiting) nothing
    · exact others sessionId topic loop this _ under waiting

theorem readyFewer {s s' : ObservabilityScheduler} (ready : Ready s) (sound : s'.Sound)
    (timers : ∀ topic key loop, s'.loops topic key = some loop →
      ∃ before, s.loops topic key = some before ∧ before.timer = loop.timer)
    (less : ∀ sessionId topic, pending s' sessionId topic ≠ [] → pending s sessionId topic ≠ []) :
    Ready s' where
  sound := sound
  armed sessionId topic loop under waiting := by
    obtain ⟨before,found,same⟩ := timers topic _ loop under
    exact same ▸ ready.armed sessionId topic before found (less sessionId topic waiting)

theorem readyUnsubscribe {s : ObservabilityScheduler} (ready : Ready s) (k t c) :
    Ready (s.unsubscribe k t c) := by
  apply readyFewer ready (ObservabilityScheduler.soundUnsubscribe ready.sound k t c)
  · intro topic key loop under
    unfold ObservabilityScheduler.unsubscribe at under
    split at under
    · exact ⟨loop,under,rfl⟩
    · rename_i old found
      by_cases here : topic = t ∧ key = keyOf k t
      · obtain ⟨rfl,rfl⟩ := here
        rw [ObservabilityScheduler.setLoopHere] at under
        split at under
        · simp at under
        · obtain rfl := Option.some.inj under
          exact ⟨old,found,rfl⟩
      · rw [ObservabilityScheduler.setLoopOther s _ here] at under
        exact ⟨loop,under,rfl⟩
  · simp

theorem readyRemoveSubscriber {s : ObservabilityScheduler} (ready : Ready s) (c) :
    Ready (s.removeSubscriber c) := by
  apply readyFewer ready (ObservabilityScheduler.soundRemoveSubscriber ready.sound c)
  · intro topic key loop under
    simp only [ObservabilityScheduler.removeSubscriber,Option.bind_eq_some_iff] at under
    obtain ⟨old,found,left⟩ := under
    split at left
    · simp at left
    · obtain rfl := Option.some.inj left
      exact ⟨old,found,rfl⟩
  · simp

theorem readyRemoveSession {s : ObservabilityScheduler} (ready : Ready s) (k) :
    Ready (s.removeSession k) := by
  apply readyFewer ready (ObservabilityScheduler.soundRemoveSession ready.sound k)
  · intro topic key loop under
    have dropped {s' : ObservabilityScheduler} {t} (under : (s'.setLoop k t none).loops topic key = some loop) :
        s'.loops topic key = some loop := by
      by_cases here : topic = t ∧ key = keyOf k t
      · obtain ⟨rfl,rfl⟩ := here
        simp [ObservabilityScheduler.setLoopHere] at under
      · rwa [ObservabilityScheduler.setLoopOther s' _ here] at under
    exact ⟨loop,dropped (dropped under),rfl⟩
  · intro sessionId topic
    rw [pendingRemoveSession]
    split
    · exact fun waiting => absurd rfl waiting
    · exact id

theorem readyFlush {s : ObservabilityScheduler} (ready : Ready s) (k t now) :
    Ready (s.flush k t now).1 := by
  by_cases armed : Armed s k t
  · obtain ⟨loop,under,timer⟩ := armed
    obtain ⟨loops,left,_⟩ := flushArmed under timer now
    refine ⟨(ObservabilityScheduler.alikeFlush s k t now).sound ready.sound,?_⟩
    intro sessionId topic l found waiting
    rw [left] at waiting
    split at waiting
    · exact absurd rfl waiting
    · rename_i other
      have elsewhere : ¬ (topic = t ∧ keyOf sessionId topic = keyOf k t) := by
        rw [keyOfInj]
        exact fun here => other here.2
      rw [loops,ObservabilityScheduler.setLoopOther s _ elsewhere] at found
      exact ready.armed sessionId topic l found waiting
  · rw [flushIdle armed]
    exact ready

theorem stepReady (s : ObservabilityScheduler) (e : Event) (ready : Ready s) : Ready (step s e) := by
  unfold step handle
  cases e with
  | deviceErrors k entries =>
    refine readyScheduleFlush ready.sound fun sessionId topic loop other under waiting => ?_
    apply ready.armed sessionId topic loop under
    cases topic <;> simp_all [pending]
  | transcript k entries =>
    refine readyScheduleFlush ready.sound fun sessionId topic loop other under waiting => ?_
    apply ready.armed sessionId topic loop under
    cases topic <;> simp_all [pending]
  | subscribe k t c => exact readySubscribe ready k t c
  | unsubscribe k t c => exact readyUnsubscribe ready k t c
  | removeSubscriber c => exact readyRemoveSubscriber ready c
  | removeSession k => exact readyRemoveSession ready k
  | timerFires k t now => exact readyFlush ready k t now

theorem soundStep {s : ObservabilityScheduler} (sound : s.Sound) (e : Event) : (step s e).Sound := by
  unfold step handle
  cases e with
  | deviceErrors k entries => exact (ObservabilityScheduler.alikeDeviceErrors s k entries).sound sound
  | transcript k entries => exact (ObservabilityScheduler.alikeTranscript s k entries).sound sound
  | subscribe k t c => exact ObservabilityScheduler.soundSubscribe sound k t c
  | unsubscribe k t c => exact ObservabilityScheduler.soundUnsubscribe sound k t c
  | removeSubscriber c => exact ObservabilityScheduler.soundRemoveSubscriber sound c
  | removeSession k => exact ObservabilityScheduler.soundRemoveSession sound k
  | timerFires k t now => exact (ObservabilityScheduler.alikeFlush s k t now).sound sound

theorem staysSubscribed {s : ObservabilityScheduler} (sound : s.Sound) {c : Nat} {sessionId topic}
    (holds : s.Holds c topic (keyOf sessionId topic)) {e : Event}
    (stays : ¬ Removes c (keyOf sessionId topic) e) :
    (step s e).Holds c topic (keyOf sessionId topic) := by
  unfold step handle
  cases e with
  | deviceErrors k entries =>
    exact ((ObservabilityScheduler.alikeDeviceErrors s k entries).holds c topic _).mpr holds
  | transcript k entries =>
    exact ((ObservabilityScheduler.alikeTranscript s k entries).holds c topic _).mpr holds
  | subscribe k t c' => exact (ObservabilityScheduler.holdsSubscribe ..).mpr (.inl holds)
  | unsubscribe k t c' =>
    refine (ObservabilityScheduler.holdsUnsubscribe ..).mpr ⟨holds,?_⟩
    rintro ⟨rfl,-,same⟩
    exact stays ⟨rfl,same⟩
  | removeSubscriber c' =>
    refine (ObservabilityScheduler.holdsRemoveSubscriber ..).mpr ⟨holds,?_⟩
    rintro rfl
    exact stays rfl
  | removeSession k => exact (ObservabilityScheduler.holdsRemoveSession sound ..).mpr ⟨holds,stays⟩
  | timerFires k t now => exact ((ObservabilityScheduler.alikeFlush s k t now).holds c topic _).mpr holds

theorem receivedAndPending {s : ObservabilityScheduler} {c : Nat} {sessionId topic}
    (holds : s.Holds c topic (keyOf sessionId topic)) {e : Event}
    (stays : ¬ Removes c (keyOf sessionId topic) e) :
    received c (keyOf sessionId topic) (handle s e).2 ++ pending (step s e) sessionId topic =
      pending s sessionId topic ++ brought (keyOf sessionId topic) e := by
  unfold step handle
  cases e with
  | deviceErrors k entries => exact pendingDeviceErrors s k entries sessionId topic
  | transcript k entries => exact pendingTranscript s k entries sessionId topic
  | subscribe | unsubscribe | removeSubscriber => simp [received,brought]
  | removeSession k =>
    have other : sessionId ≠ k := stays
    simp [received,brought,pendingRemoveSession,other]
  | timerFires k t now =>
    simp only [brought,List.append_nil]
    by_cases armed : Armed s k t
    · obtain ⟨loop,under,timer⟩ := armed
      obtain ⟨_,left,sent⟩ := flushArmed under timer now
      rw [left,sent]
      by_cases here : sessionId = k ∧ topic = t
      · obtain ⟨rfl,rfl⟩ := here
        obtain ⟨l,found,member⟩ := holds
        obtain rfl := Option.some.inj (under.symm.trans found)
        simp [member]
      · have elsewhere : keyOf k t ≠ keyOf sessionId topic := by
          rw [ne_eq,keyOfInj]
          exact fun same => here ⟨same.1.symm,same.2.symm⟩
        simp [here,elsewhere]
    · rw [flushIdle armed]
      rfl

theorem deliveredAndPending {s : ObservabilityScheduler} (ready : Ready s) {c : Nat} {sessionId topic}
    (holds : s.Holds c topic (keyOf sessionId topic)) {events : List Event}
    (stays : ∀ e ∈ events, ¬ Removes c (keyOf sessionId topic) e) :
    delivered c (keyOf sessionId topic) s events ++ pending (run step s events) sessionId topic =
      pending s sessionId topic ++ events.flatMap (brought (keyOf sessionId topic)) := by
  induction events generalizing s with
  | nil => simp [delivered]
  | cons e rest ih =>
    have first := stays e List.mem_cons_self
    have later := ih (stepReady s e ready) (staysSubscribed ready.sound holds first)
      fun e' member => stays e' (List.mem_cons_of_mem _ member)
    simp only [delivered,runCons,List.flatMap_cons,List.append_assoc,later]
    rw [← List.append_assoc,receivedAndPending holds first,List.append_assoc]

theorem staysSubscribedRuns {s : ObservabilityScheduler} (ready : Ready s) {c : Nat} {sessionId topic}
    (holds : s.Holds c topic (keyOf sessionId topic)) {events : List Event}
    (stays : ∀ e ∈ events, ¬ Removes c (keyOf sessionId topic) e) :
    (run step s events).Holds c topic (keyOf sessionId topic) := by
  induction events generalizing s with
  | nil => exact holds
  | cons e rest ih =>
    exact ih (stepReady s e ready) (staysSubscribed ready.sound holds (stays e List.mem_cons_self))
      fun e' member => stays e' (List.mem_cons_of_mem _ member)

theorem waitingArmed {s : ObservabilityScheduler} (ready : Ready s) {c : Nat} {sessionId topic}
    (holds : s.Holds c topic (keyOf sessionId topic)) (waiting : pending s sessionId topic ≠ []) :
    Armed s sessionId topic := by
  obtain ⟨loop,under,_⟩ := holds
  exact ⟨loop,under,ready.armed sessionId topic loop under waiting⟩

theorem flushLeavesNone {s : ObservabilityScheduler} (ready : Ready s) {c : Nat} {sessionId topic}
    (holds : s.Holds c topic (keyOf sessionId topic)) (now) :
    pending (s.flush sessionId topic now).1 sessionId topic = [] := by
  by_cases armed : Armed s sessionId topic
  · obtain ⟨loop,under,timer⟩ := armed
    obtain ⟨_,left,_⟩ := flushArmed under timer now
    simp [left]
  · rw [flushIdle armed]
    by_contra waiting
    exact armed (waitingArmed ready holds waiting)

/- From the moment it subscribes and as long as nothing takes it off the key, a subscriber has been
sent the backlog it found and all that came since but for the batch that waits; while there is
one, the timer runs, and when it fires nothing is left out. -/
theorem deliveredOnce (before after : List Event) (c : Nat) (sessionId : Nat) (topic : ObservabilityTopic)
    (stays : ∀ e ∈ after, ¬ Removes c (keyOf sessionId topic) e) :
    let found := run step .create before
    let joined := step found (.subscribe sessionId topic c)
    let now := run step joined after
    let emitted := pending found sessionId topic ++ after.flatMap (brought (keyOf sessionId topic))
    delivered c (keyOf sessionId topic) joined after ++ pending now sessionId topic = emitted ∧
      (pending now sessionId topic ≠ [] → Armed now sessionId topic) ∧
      ∀ at_, delivered c (keyOf sessionId topic) joined
        (after ++ [.timerFires sessionId topic at_]) = emitted := by
  intro found joined now emitted
  have ready : Ready joined := stepReady _ _ (runKeeps stepReady before readyCreate)
  have holds : joined.Holds c topic (keyOf sessionId topic) :=
    (ObservabilityScheduler.holdsSubscribe ..).mpr (.inr ⟨rfl,rfl,rfl⟩)
  have backlog : pending joined sessionId topic = pending found sessionId topic :=
    pendingSubscribe ..
  have nowReady : Ready now := runKeeps stepReady after ready
  have held : now.Holds c topic (keyOf sessionId topic) := staysSubscribedRuns ready holds stays
  refine ⟨?_,waitingArmed nowReady held,fun at_ => ?_⟩
  · rw [deliveredAndPending ready holds stays,backlog]
  · have fires : ∀ e ∈ after ++ [.timerFires sessionId topic at_],
        ¬ Removes c (keyOf sessionId topic) e := by
      intro e member
      rcases List.mem_append.mp member with old | new
      · exact stays e old
      · obtain rfl := List.mem_singleton.mp new
        exact id
    have all := deliveredAndPending ready holds fires
    rw [runAppend] at all
    have empty : pending (run step now [.timerFires sessionId topic at_]) sessionId topic = [] :=
      flushLeavesNone nowReady held at_
    rw [empty,List.append_nil,List.flatMap_append,backlog] at all
    simpa [brought] using all

/- Two panels of session 0: the second leaves, and the first is sent what came meanwhile. -/
theorem deliveredOnceTwoPanels :
    let events : List Event := [.transcript 0 [⟨⟨.write,"*RST",none⟩,2⟩],
      .subscribe 0 .sessionTranscript 2,.unsubscribe 0 .sessionTranscript 2]
    let joined := step (run step .create [.transcript 0 [⟨⟨.query,"*IDN?",some "DHO804"⟩,1⟩]])
      (.subscribe 0 .sessionTranscript 1)
    delivered 1 (keyOf 0 .sessionTranscript) joined (events ++ [.timerFires 0 .sessionTranscript 100]) =
      [.transcript ⟨⟨.query,"*IDN?",some "DHO804"⟩,1⟩,.transcript ⟨⟨.write,"*RST",none⟩,2⟩] :=
  (deliveredOnce [.transcript 0 [⟨⟨.query,"*IDN?",some "DHO804"⟩,1⟩]]
    [.transcript 0 [⟨⟨.write,"*RST",none⟩,2⟩],.subscribe 0 .sessionTranscript 2,
      .unsubscribe 0 .sessionTranscript 2] 1 0 .sessionTranscript (by decide)).2.2 100

end LxiWeb.ObservabilityDelivery
