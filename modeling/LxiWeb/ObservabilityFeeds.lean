import LxiWeb.ReadingLoops

/-! The debounced fan-out of device errors and transcript lines behind `/ws`, one for each session
and topic. -/
namespace LxiWeb.ObservabilityFeeds
open KeyedWrites RingBuffers ReadingLoops

structure ObservabilityLoop where
  subscribers : Finset Nat := ∅
  timer : Bool := false

/- The maps for the two topics, which the source picks with `topic === "device.errors"`. -/
structure ObservabilityScheduler where
  devicePending : Nat → List DeviceErrorEntry
  transcriptPending : Nat → List TranscriptEntry
  loops : ObservabilityTopic → Table TopicKey ObservabilityLoop

namespace ObservabilityScheduler

def create : ObservabilityScheduler :=
  { devicePending := fun _ => [], transcriptPending := fun _ => [], loops := fun _ _ => none }

def keyOf (sessionId : Nat) (topic : ObservabilityTopic) : TopicKey := ⟨sessionId,.observability topic⟩

def setLoop (s : ObservabilityScheduler) (sessionId : Nat) (topic : ObservabilityTopic)
    (loop : Option ObservabilityLoop) : ObservabilityScheduler :=
  { s with
    loops := Function.update s.loops topic
      (write (s.loops topic) (entry (keyOf sessionId topic) loop)) }

def hasPending (s : ObservabilityScheduler) (sessionId : Nat) : ObservabilityTopic → Bool
  | .deviceErrors => s.devicePending sessionId ≠ []
  | .sessionTranscript => s.transcriptPending sessionId ≠ []

/- `scheduleDeviceFlush` and `scheduleTranscriptFlush`. -/
def scheduleFlush (s : ObservabilityScheduler) (sessionId : Nat) (topic : ObservabilityTopic) :
    ObservabilityScheduler :=
  match s.loops topic (keyOf sessionId topic) with
  | none => s
  | some loop =>
      if loop.subscribers = ∅ then s
      else if loop.timer then s
      else s.setLoop sessionId topic (some { loop with timer := true })

def flush (s : ObservabilityScheduler) (sessionId : Nat) (topic : ObservabilityTopic) (now : Int) :
    ObservabilityScheduler × Sends :=
  match s.loops topic (keyOf sessionId topic) with
  | none => (s,[])
  | some loop =>
      if loop.timer then
        let s := s.setLoop sessionId topic (some { loop with timer := false })
        if s.hasPending sessionId topic then
          match topic with
          | .deviceErrors =>
              ({ s with devicePending := Function.update s.devicePending sessionId [] },
                [(loop.subscribers,.deviceErrorsBatch sessionId (s.devicePending sessionId) now)])
          | .sessionTranscript =>
              ({ s with transcriptPending := Function.update s.transcriptPending sessionId [] },
                [(loop.subscribers,
                  .sessionTranscriptBatch sessionId (s.transcriptPending sessionId) now)])
        else (s,[])
      else (s,[])

def onDeviceErrors (s : ObservabilityScheduler) (sessionId : Nat) (entries : List DeviceErrorEntry) :
    ObservabilityScheduler :=
  scheduleFlush
    { s with
      devicePending :=
        Function.update s.devicePending sessionId (s.devicePending sessionId ++ entries) }
    sessionId .deviceErrors

def onTranscript (s : ObservabilityScheduler) (sessionId : Nat) (entries : List TranscriptEntry) :
    ObservabilityScheduler :=
  scheduleFlush
    { s with
      transcriptPending :=
        Function.update s.transcriptPending sessionId (s.transcriptPending sessionId ++ entries) }
    sessionId .sessionTranscript

def subscribe (s : ObservabilityScheduler) (sessionId : Nat) (topic : ObservabilityTopic)
    (subscriber : Nat) : ObservabilityScheduler :=
  let loop := (s.loops topic (keyOf sessionId topic)).getD {}
  let s := s.setLoop sessionId topic
    (some { loop with subscribers := insert subscriber loop.subscribers })
  if s.hasPending sessionId topic then s.scheduleFlush sessionId topic else s

def unsubscribe (s : ObservabilityScheduler) (sessionId : Nat) (topic : ObservabilityTopic)
    (subscriber : Nat) : ObservabilityScheduler :=
  match s.loops topic (keyOf sessionId topic) with
  | none => s
  | some loop =>
      let subscribers := loop.subscribers.erase subscriber
      s.setLoop sessionId topic (if subscribers = ∅ then none else some { loop with subscribers })

def removeSubscriber (s : ObservabilityScheduler) (subscriber : Nat) : ObservabilityScheduler :=
  { s with
    loops := fun topic key => (s.loops topic key).bind fun loop =>
      let subscribers := loop.subscribers.erase subscriber
      if subscriber ∈ loop.subscribers ∧ subscribers = ∅ then none
      else some { loop with subscribers } }

def removeSession (s : ObservabilityScheduler) (sessionId : Nat) : ObservabilityScheduler :=
  let s := (s.setLoop sessionId .deviceErrors none).setLoop sessionId .sessionTranscript none
  { s with
    devicePending := Function.update s.devicePending sessionId []
    transcriptPending := Function.update s.transcriptPending sessionId [] }

def Holds (s : ObservabilityScheduler) (subscriber : Nat) (topic : ObservabilityTopic)
    (key : TopicKey) : Prop :=
  ∃ loop, s.loops topic key = some loop ∧ subscriber ∈ loop.subscribers

def held (s : ObservabilityScheduler) (subscriber : Nat) (topic : ObservabilityTopic)
    (key : TopicKey) : Nat :=
  match s.loops topic key with
  | some loop => if subscriber ∈ loop.subscribers then 1 else 0
  | none => 0

theorem heldOne {s : ObservabilityScheduler} {c : Nat} {topic key} (holds : s.Holds c topic key) :
    s.held c topic key = 1 := by
  obtain ⟨loop,under,member⟩ := holds
  simp [held,under,member]

theorem heldZero {s : ObservabilityScheduler} {c : Nat} {topic key} (free : ¬ s.Holds c topic key) :
    s.held c topic key = 0 := by
  unfold held
  split
  · rename_i loop under
    exact if_neg fun member => free ⟨loop,under,member⟩
  · rfl

def Sound (s : ObservabilityScheduler) : Prop :=
  ∀ topic key loop, s.loops topic key = some loop →
    key.topic = .observability topic ∧ loop.subscribers.Nonempty

theorem soundCreate : create.Sound := nofun

theorem setLoopHere (s : ObservabilityScheduler) (sessionId topic loop) :
    (s.setLoop sessionId topic loop).loops topic (keyOf sessionId topic) = loop := by
  simp [setLoop]

theorem setLoopOther (s : ObservabilityScheduler) {sessionId topic} (loop) {topic' key}
    (other : ¬ (topic' = topic ∧ key = keyOf sessionId topic)) :
    (s.setLoop sessionId topic loop).loops topic' key = s.loops topic' key := by
  by_cases same : topic' = topic
  · subst same
    have elsewhere : key ≠ keyOf sessionId topic' := fun this => other ⟨rfl,this⟩
    simp [setLoop,writeOther elsewhere]
  · simp [setLoop,same]

theorem soundSetLoop {s : ObservabilityScheduler} (sound : s.Sound) (sessionId topic)
    {loop : Option ObservabilityLoop} (nonempty : ∀ l ∈ loop, l.subscribers.Nonempty) :
    (s.setLoop sessionId topic loop).Sound := by
  intro topic' key l under
  by_cases here : topic' = topic ∧ key = keyOf sessionId topic
  · obtain ⟨rfl,rfl⟩ := here
    rw [setLoopHere] at under
    exact ⟨rfl,nonempty l under⟩
  · rw [setLoopOther s loop here] at under
    exact sound topic' key l under

theorem holdsSetLoop (s : ObservabilityScheduler) (sessionId topic) (loop c topic' key) :
    (s.setLoop sessionId topic loop).Holds c topic' key ↔
      if topic' = topic ∧ key = keyOf sessionId topic then ∃ l ∈ loop, c ∈ l.subscribers
      else s.Holds c topic' key := by
  split
  · rename_i here
    obtain ⟨rfl,rfl⟩ := here
    simp [Holds,setLoopHere]
  · rename_i elsewhere
    simp [Holds,setLoopOther s loop elsewhere]

structure Alike (s s' : ObservabilityScheduler) : Prop where
  sound : s.Sound → s'.Sound
  holds : ∀ c topic key, s'.Holds c topic key ↔ s.Holds c topic key

theorem Alike.trans {s s' s'' : ObservabilityScheduler} (first : Alike s s') (second : Alike s' s'') :
    Alike s s'' :=
  ⟨fun sound => second.sound (first.sound sound),
    fun c topic key => (second.holds c topic key).trans (first.holds c topic key)⟩

theorem alikeLoops {s s' : ObservabilityScheduler} (same : s'.loops = s.loops) : Alike s s' where
  sound := by
    unfold Sound
    rw [same]
    exact id
  holds c topic key := by simp only [Holds,same]

theorem alikeTimer {s : ObservabilityScheduler} {sessionId topic loop}
    (under : s.loops topic (keyOf sessionId topic) = some loop) (timer : Bool) :
    Alike s (s.setLoop sessionId topic (some { loop with timer })) where
  sound sound := by
    apply soundSetLoop sound sessionId topic
    intro l made
    obtain rfl := Option.some.inj made
    exact (sound topic _ loop under).2
  holds c topic' key := by
    rw [holdsSetLoop]
    split
    · rename_i here
      obtain ⟨rfl,rfl⟩ := here
      simp [Holds,under]
    · rfl

theorem alikeScheduleFlush (s : ObservabilityScheduler) (sessionId topic) :
    Alike s (s.scheduleFlush sessionId topic) := by
  unfold scheduleFlush
  split
  · exact alikeLoops rfl
  · rename_i loop under
    split
    · exact alikeLoops rfl
    · split
      · exact alikeLoops rfl
      · exact alikeTimer under true

theorem alikeFlush (s : ObservabilityScheduler) (sessionId topic now) :
    Alike s (s.flush sessionId topic now).1 := by
  unfold flush
  split
  · exact alikeLoops rfl
  · rename_i loop under
    split
    · have fired := alikeTimer under false
      simp only
      split
      · cases topic with
        | deviceErrors => exact fired.trans (alikeLoops rfl)
        | sessionTranscript => exact fired.trans (alikeLoops rfl)
      · exact fired
    · exact alikeLoops rfl

theorem alikeDeviceErrors (s : ObservabilityScheduler) (sessionId entries) :
    Alike s (s.onDeviceErrors sessionId entries) := by
  unfold onDeviceErrors
  refine .trans ?_ (alikeScheduleFlush _ sessionId .deviceErrors)
  exact alikeLoops rfl

theorem alikeTranscript (s : ObservabilityScheduler) (sessionId entries) :
    Alike s (s.onTranscript sessionId entries) := by
  unfold onTranscript
  refine .trans ?_ (alikeScheduleFlush _ sessionId .sessionTranscript)
  exact alikeLoops rfl

theorem alikeSubscribe (s : ObservabilityScheduler) (sessionId topic c) :
    Alike (s.setLoop sessionId topic (some
        { (s.loops topic (keyOf sessionId topic)).getD {} with
          subscribers :=
            insert c ((s.loops topic (keyOf sessionId topic)).getD {}).subscribers }))
      (s.subscribe sessionId topic c) := by
  simp only [subscribe]
  split
  · exact alikeScheduleFlush _ sessionId topic
  · exact alikeLoops rfl

theorem soundSubscribe {s : ObservabilityScheduler} (sound : s.Sound) (sessionId topic c) :
    (s.subscribe sessionId topic c).Sound := by
  refine (alikeSubscribe s sessionId topic c).sound (soundSetLoop sound sessionId topic ?_)
  intro l made
  obtain rfl := Option.some.inj made
  exact Finset.insert_nonempty _ _

theorem holdsSubscribe (s : ObservabilityScheduler) (sessionId topic c c' topic' key) :
    (s.subscribe sessionId topic c).Holds c' topic' key ↔
      s.Holds c' topic' key ∨ c' = c ∧ topic' = topic ∧ key = keyOf sessionId topic := by
  rw [(alikeSubscribe s sessionId topic c).holds,holdsSetLoop]
  split
  · rename_i here
    obtain ⟨rfl,rfl⟩ := here
    cases under : s.loops topic' (keyOf sessionId topic') <;> simp [Holds,under,or_comm]
  · rename_i elsewhere
    simp only [elsewhere,and_false,or_false]

theorem soundUnsubscribe {s : ObservabilityScheduler} (sound : s.Sound) (sessionId topic c) :
    (s.unsubscribe sessionId topic c).Sound := by
  unfold unsubscribe
  split
  · exact sound
  · apply soundSetLoop sound sessionId topic
    intro l made
    split at made
    · exact absurd made nofun
    · rename_i left
      obtain rfl := Option.some.inj made
      exact Finset.nonempty_iff_ne_empty.mpr left

theorem holdsUnsubscribe (s : ObservabilityScheduler) (sessionId topic c c' topic' key) :
    (s.unsubscribe sessionId topic c).Holds c' topic' key ↔
      s.Holds c' topic' key ∧ ¬ (c' = c ∧ topic' = topic ∧ key = keyOf sessionId topic) := by
  unfold unsubscribe
  split
  · rename_i free
    by_cases here : topic' = topic ∧ key = keyOf sessionId topic
    · obtain ⟨rfl,rfl⟩ := here
      simp [Holds,free]
    · simp [here]
  · rename_i loop under
    rw [holdsSetLoop]
    split
    · rename_i here
      obtain ⟨rfl,rfl⟩ := here
      have left : (∃ l ∈ (if loop.subscribers.erase c = ∅ then none
          else some { loop with subscribers := loop.subscribers.erase c }), c' ∈ l.subscribers) ↔
          c' ∈ loop.subscribers.erase c := by
        split
        · rename_i empty
          simp [empty]
        · simp
      rw [left]
      simp [Holds,under,and_comm]
    · rename_i elsewhere
      simp only [elsewhere,and_false,not_false_eq_true,and_true]

theorem soundRemoveSubscriber {s : ObservabilityScheduler} (sound : s.Sound) (c) :
    (s.removeSubscriber c).Sound := by
  intro topic key l under
  simp only [removeSubscriber,Option.bind_eq_some_iff] at under
  obtain ⟨loop,before,left⟩ := under
  split at left
  · exact absurd left nofun
  · rename_i stays
    obtain rfl := Option.some.inj left
    refine ⟨(sound topic key loop before).1,?_⟩
    by_cases member : c ∈ loop.subscribers
    · exact Finset.nonempty_iff_ne_empty.mpr fun empty => stays ⟨member,empty⟩
    · simpa [Finset.erase_eq_of_notMem member] using (sound topic key loop before).2

theorem holdsRemoveSubscriber (s : ObservabilityScheduler) (c c' topic key) :
    (s.removeSubscriber c).Holds c' topic key ↔ s.Holds c' topic key ∧ c' ≠ c := by
  cases under : s.loops topic key with
  | none => simp [Holds,removeSubscriber,under]
  | some loop =>
    have left : (∃ l, (if c ∈ loop.subscribers ∧ loop.subscribers.erase c = ∅ then none
        else some { loop with subscribers := loop.subscribers.erase c }) = some l ∧
          c' ∈ l.subscribers) ↔ c' ∈ loop.subscribers.erase c := by
      split
      · rename_i last
        simp [last.2]
      · simp
    simp only [Holds,removeSubscriber,under,Option.bind_some,left]
    simp [and_comm]

theorem soundRemoveSession {s : ObservabilityScheduler} (sound : s.Sound) (sessionId) :
    (s.removeSession sessionId).Sound := by
  have none (l) (made : l ∈ (Option.none : Option ObservabilityLoop)) : l.subscribers.Nonempty :=
    absurd made (Option.not_mem_none l)
  have first := soundSetLoop sound sessionId .deviceErrors none
  exact (alikeLoops rfl).sound (soundSetLoop first sessionId .sessionTranscript none)

theorem holdsRemoveSession {s : ObservabilityScheduler} (sound : s.Sound) (sessionId c topic key) :
    (s.removeSession sessionId).Holds c topic key ↔
      s.Holds c topic key ∧ key.sessionId ≠ sessionId := by
  have dropped : (s.removeSession sessionId).Holds c topic key ↔
      ((s.setLoop sessionId .deviceErrors none).setLoop sessionId .sessionTranscript none).Holds
        c topic key := (alikeLoops rfl).holds c topic key
  rw [dropped,holdsSetLoop,holdsSetLoop]
  have about (holds : s.Holds c topic key) : key.topic = .observability topic := by
    obtain ⟨loop,under,_⟩ := holds
    exact (sound topic key loop under).1
  by_cases this : key.sessionId = sessionId
  · have gone (other : key ≠ keyOf sessionId topic) : ¬ s.Holds c topic key := by
      intro holds
      apply other
      rw [keyOf,← this,← about holds]
    cases topic <;> simpa [this] using gone
  · have other (t) : key ≠ keyOf sessionId t := by
      intro same
      simp [same,keyOf] at this
    simp [other,this]

end ObservabilityScheduler

end LxiWeb.ObservabilityFeeds
