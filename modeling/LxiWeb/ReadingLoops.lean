import LxiWeb.KeyedWrites
import LxiWeb.RingBuffers
import Mathlib.Data.Finset.Basic
import Mathlib.Logic.Function.Basic

/-! The read loops behind `/ws`, one for each session and reading topic. A subscriber is the number
of its socket; loop objects are numbered in the order they are made, so that a stopped loop can
still be told from the one that took its key. -/
namespace LxiWeb.ReadingLoops
open KeyedWrites RingBuffers

inductive ReadingTopic where
  | dmmReading | dmmDualReading
  | psuChannels | psuTracking | psuProtection
  | scopeChannels | scopeTimebase
  | eloadMeasurement | eloadState
  | sgChannels
  | saMarkers | saTrace
  deriving DecidableEq, Repr

inductive ObservabilityTopic where
  | deviceErrors | sessionTranscript
  deriving DecidableEq, Repr

inductive WsSubscriptionTopic where
  | reading (topic : ReadingTopic)
  | observability (topic : ObservabilityTopic)
  deriving DecidableEq, Repr

structure TopicKey where
  sessionId : Nat
  topic : WsSubscriptionTopic
  deriving DecidableEq, Repr

inductive TopicMessage where
  | readingUpdate (sessionId : Nat) (topic : ReadingTopic) (payload : String) (measuredAt : Int)
  | readingError (sessionId : Nat) (topic : ReadingTopic) (message : String) (at_ : Int)
  | deviceErrorsBatch (sessionId : Nat) (entries : List DeviceErrorEntry) (at_ : Int)
  | sessionTranscriptBatch (sessionId : Nat) (entries : List TranscriptEntry) (at_ : Int)
  deriving DecidableEq, Repr

def messageKey : TopicMessage → TopicKey
  | .readingUpdate sessionId topic _ _ | .readingError sessionId topic _ _ => ⟨sessionId,.reading topic⟩
  | .deviceErrorsBatch sessionId _ _ => ⟨sessionId,.observability .deviceErrors⟩
  | .sessionTranscriptBatch sessionId _ _ => ⟨sessionId,.observability .sessionTranscript⟩

abbrev Sends := List (Finset Nat × TopicMessage)

structure Loop where
  sessionId : Nat
  topic : ReadingTopic
  subscribers : Finset Nat := ∅
  lastPayload : Option (String × Int) := none
  lastError : Option (String × Int) := none
  inFlight : Bool := false
  -- how many of its reads have not settled
  reads : Nat := 0
  -- whether its interval is running
  timer : Bool := false

def Loop.key (loop : Loop) : TopicKey := ⟨loop.sessionId,.reading loop.topic⟩

structure ReadingScheduler where
  loops : Table TopicKey Nat
  loop : Nat → Loop
  nextLoop : Nat

namespace ReadingScheduler

def create : ReadingScheduler :=
  { loops := fun _ => none, loop := fun _ => { sessionId := 0, topic := .dmmReading }, nextLoop := 0 }

def setLoop (s : ReadingScheduler) (l : Nat) (f : Loop → Loop) : ReadingScheduler :=
  { s with loop := Function.update s.loop l (f (s.loop l)) }

def stop (s : ReadingScheduler) (l : Nat) : ReadingScheduler :=
  { s.setLoop l (fun loop => { loop with timer := false }) with
    loops := write s.loops (entry (s.loop l).key none) }

/- `tick` up to its `await`. -/
def tick (s : ReadingScheduler) (l : Nat) : ReadingScheduler :=
  if (s.loop l).inFlight then s
  else if s.loops (s.loop l).key = none then s
  else s.setLoop l fun loop => { loop with inFlight := true, reads := loop.reads + 1 }

/- `tick` after its `await`: the read gave a payload or threw. -/
def finishTick (s : ReadingScheduler) (l : Nat) (outcome : Except String String) (now : Int) :
    ReadingScheduler × Sends :=
  let loop := s.loop l
  if s.loops loop.key = none then
    (s.setLoop l fun loop => { loop with inFlight := false, reads := loop.reads - 1 },[])
  else
    match outcome with
    | .ok payload =>
        (s.setLoop l fun loop =>
            { loop with
              lastPayload := some (payload,now), lastError := none, inFlight := false, reads := loop.reads - 1 },
          [(loop.subscribers,.readingUpdate loop.sessionId loop.topic payload now)])
    | .error message =>
        (s.setLoop l fun loop =>
            { loop with lastError := some (message,now), inFlight := false, reads := loop.reads - 1 },
          [(loop.subscribers,.readingError loop.sessionId loop.topic message now)])

def findLoop (s : ReadingScheduler) (sessionId : Nat) (topic : ReadingTopic) :
    Nat × ReadingScheduler :=
  match s.loops ⟨sessionId,.reading topic⟩ with
  | some l => (l,s)
  | none =>
      (s.nextLoop,
        { loops := write s.loops (entry ⟨sessionId,.reading topic⟩ (some s.nextLoop))
          loop := Function.update s.loop s.nextLoop { sessionId, topic }
          nextLoop := s.nextLoop + 1 })

def lastKnown (loop : Loop) : Option TopicMessage :=
  match loop.lastPayload,loop.lastError with
  | some (value,measuredAt),_ => some (.readingUpdate loop.sessionId loop.topic value measuredAt)
  | none,some (message,at_) => some (.readingError loop.sessionId loop.topic message at_)
  | none,none => none

def subscribe (s : ReadingScheduler) (sessionId : Nat) (topic : ReadingTopic) (subscriber : Nat) :
    ReadingScheduler × Sends :=
  let (l,s) := s.findLoop sessionId topic
  let s := s.setLoop l fun loop => { loop with subscribers := insert subscriber loop.subscribers }
  let sends := ((lastKnown (s.loop l)).map fun message => ({subscriber},message)).toList
  if (s.loop l).timer then (s,sends)
  else (tick (s.setLoop l fun loop => { loop with timer := true }) l,sends)

def unsubscribe (s : ReadingScheduler) (sessionId : Nat) (topic : ReadingTopic)
    (subscriber : Nat) : ReadingScheduler :=
  match s.loops ⟨sessionId,.reading topic⟩ with
  | none => s
  | some l =>
      let s := s.setLoop l fun loop => { loop with subscribers := loop.subscribers.erase subscriber }
      if (s.loop l).subscribers = ∅ then s.stop l else s

/- `removeSubscriber` and `removeSession` walk over `loops`; each loop there is visited once and
only its own key is touched. -/
def removeSubscriber (s : ReadingScheduler) (subscriber : Nat) : ReadingScheduler :=
  let last (loop : Loop) : Bool :=
    subscriber ∈ loop.subscribers ∧ loop.subscribers.erase subscriber = ∅
  { s with
    loop := fun l =>
      let loop := s.loop l
      if s.loops loop.key = some l then
        { loop with
          subscribers := loop.subscribers.erase subscriber
          timer := loop.timer && !last loop }
      else loop
    loops := fun key => (s.loops key).filter fun l => !last (s.loop l) }

def removeSession (s : ReadingScheduler) (sessionId : Nat) : ReadingScheduler :=
  { s with
    loop := fun l =>
      let loop := s.loop l
      if s.loops loop.key = some l ∧ loop.sessionId = sessionId then { loop with timer := false }
      else loop
    loops := fun key => (s.loops key).filter fun l => (s.loop l).sessionId ≠ sessionId }

def Holds (s : ReadingScheduler) (subscriber : Nat) (key : TopicKey) : Prop :=
  ∃ l, s.loops key = some l ∧ subscriber ∈ (s.loop l).subscribers

def held (s : ReadingScheduler) (subscriber : Nat) (key : TopicKey) : Nat :=
  match s.loops key with
  | some l => if subscriber ∈ (s.loop l).subscribers then 1 else 0
  | none => 0

theorem heldOne {s : ReadingScheduler} {c : Nat} {key : TopicKey} (holds : s.Holds c key) :
    s.held c key = 1 := by
  obtain ⟨l,under,member⟩ := holds
  simp [held,under,member]

theorem heldZero {s : ReadingScheduler} {c : Nat} {key : TopicKey} (free : ¬ s.Holds c key) :
    s.held c key = 0 := by
  unfold held
  split
  · rename_i l under
    exact if_neg fun member => free ⟨l,under,member⟩
  · rfl

/- What holds of the loops between any two events: they run exactly while somebody subscribes. -/
structure Sound (s : ReadingScheduler) : Prop where
  keyed : ∀ key l, s.loops key = some l → (s.loop l).key = key ∧ l < s.nextLoop
  running : ∀ key l, s.loops key = some l → (s.loop l).timer ∧ (s.loop l).subscribers.Nonempty
  live : ∀ l, (s.loop l).timer → s.loops (s.loop l).key = some l
  unused : ∀ l, s.nextLoop ≤ l → (s.loop l).timer = false

theorem soundCreate : create.Sound := ⟨nofun,nofun,nofun,fun _ _ => rfl⟩

@[simp] theorem setLoopSame (s : ReadingScheduler) (l : Nat) (f) : (s.setLoop l f).loop l = f (s.loop l) := by
  simp [setLoop]

theorem setLoopOther (s : ReadingScheduler) {l j : Nat} (other : j ≠ l) (f) :
    (s.setLoop l f).loop j = s.loop j := by
  simp [setLoop,other]

@[simp] theorem setLoopLoops (s : ReadingScheduler) (l : Nat) (f) : (s.setLoop l f).loops = s.loops := rfl

@[simp] theorem setLoopNext (s : ReadingScheduler) (l : Nat) (f) :
    (s.setLoop l f).nextLoop = s.nextLoop := rfl

theorem soundSetLoop {s : ReadingScheduler} (sound : s.Sound) {l : Nat} {f : Loop → Loop}
    (key : (f (s.loop l)).key = (s.loop l).key) (timer : (f (s.loop l)).timer = (s.loop l).timer)
    (nonempty : (s.loop l).subscribers.Nonempty → (f (s.loop l)).subscribers.Nonempty) :
    (s.setLoop l f).Sound where
  keyed key' j held := by
    rw [setLoopLoops] at held
    obtain ⟨keyed,known⟩ := sound.keyed key' j held
    by_cases same : j = l
    · subst same
      exact ⟨by rw [setLoopSame,key,keyed],known⟩
    · exact ⟨by rw [setLoopOther s same,keyed],known⟩
  running key' j held := by
    rw [setLoopLoops] at held
    obtain ⟨runs,some_⟩ := sound.running key' j held
    by_cases same : j = l
    · subst same
      rw [setLoopSame,timer]
      exact ⟨runs,nonempty some_⟩
    · rw [setLoopOther s same]
      exact ⟨runs,some_⟩
  live j runs := by
    rw [setLoopLoops]
    by_cases same : j = l
    · subst same
      rw [setLoopSame,timer] at runs
      rw [setLoopSame,key]
      exact sound.live j runs
    · rw [setLoopOther s same] at runs ⊢
      exact sound.live j runs
  unused j beyond := by
    have before := sound.unused j beyond
    by_cases same : j = l
    · subst same
      rw [setLoopSame,timer,before]
    · rw [setLoopOther s same,before]

theorem holdsChange {s : ReadingScheduler} (sound : s.Sound) {key : TopicKey} {l : Nat}
    (held : s.loops key = some l) (f : Loop → Loop) (c key') :
    (s.setLoop l f).Holds c key' ↔
      if key' = key then c ∈ (f (s.loop l)).subscribers else s.Holds c key' := by
  split
  · rename_i here
    subst here
    simp [Holds,held]
  · rename_i elsewhere
    have other (j) (under : s.loops key' = some j) : j ≠ l := by
      intro same
      subst same
      exact elsewhere ((sound.keyed key' j under).1.symm.trans (sound.keyed key j held).1)
    constructor
    · intro ⟨j,under,member⟩
      rw [setLoopOther s (other j under)] at member
      exact ⟨j,under,member⟩
    · intro ⟨j,under,member⟩
      exact ⟨j,under,by rwa [setLoopOther s (other j under)]⟩

/- `f` leaves alone what a loop is for, who subscribes to it and whether it runs. -/
def Notes (f : Loop → Loop) : Prop :=
  ∀ loop, (f loop).key = loop.key ∧ (f loop).timer = loop.timer ∧
    (f loop).subscribers = loop.subscribers

theorem soundNotes {s : ReadingScheduler} (sound : s.Sound) (l : Nat) {f} (notes : Notes f) :
    (s.setLoop l f).Sound := by
  obtain ⟨key,timer,subscribers⟩ := notes (s.loop l)
  exact soundSetLoop sound key timer (by rw [subscribers]; exact id)

theorem holdsNotes (s : ReadingScheduler) (l : Nat) {f} (notes : Notes f) (c key) :
    (s.setLoop l f).Holds c key ↔ s.Holds c key := by
  have same (j) : ((s.setLoop l f).loop j).subscribers = (s.loop j).subscribers := by
    by_cases this : j = l
    · subst this
      rw [setLoopSame,(notes _).2.2]
    · rw [setLoopOther s this]
  simp only [Holds,setLoopLoops,same]

theorem tickNotes (s : ReadingScheduler) (l : Nat) : ∃ f, Notes f ∧ s.tick l = s.setLoop l f := by
  have idle : s = s.setLoop l id := by simp [setLoop]
  unfold tick
  split
  · exact ⟨id,fun _ => ⟨rfl,rfl,rfl⟩,idle⟩
  · split
    · exact ⟨id,fun _ => ⟨rfl,rfl,rfl⟩,idle⟩
    · refine ⟨_,?_,rfl⟩
      exact fun _ => ⟨rfl,rfl,rfl⟩

theorem finishTickNotes (s : ReadingScheduler) (l outcome now) :
    ∃ f, Notes f ∧ (s.finishTick l outcome now).1 = s.setLoop l f := by
  simp only [finishTick]
  split
  · exact ⟨fun loop => { loop with inFlight := false, reads := loop.reads - 1 },fun _ => ⟨rfl,rfl,rfl⟩,rfl⟩
  · split
    · rename_i payload
      exact ⟨fun loop => { loop with
        lastPayload := some (payload,now), lastError := none, inFlight := false, reads := loop.reads - 1 },
        fun _ => ⟨rfl,rfl,rfl⟩,rfl⟩
    · rename_i message
      exact ⟨fun loop => { loop with
        lastError := some (message,now), inFlight := false, reads := loop.reads - 1 },
        fun _ => ⟨rfl,rfl,rfl⟩,rfl⟩

/- The two ways through `subscribe`: a loop that runs takes the subscriber in, or a new one starts
with a read of its own. -/
theorem subscribeOld {s : ReadingScheduler} (sound : s.Sound) {sessionId topic l}
    (held : s.loops ⟨sessionId,.reading topic⟩ = some l) (c : Nat) :
    (s.subscribe sessionId topic c).1 =
      s.setLoop l fun loop => { loop with subscribers := insert c loop.subscribers } := by
  simp [subscribe,findLoop,held,(sound.running _ l held).1]

def started (s : ReadingScheduler) (sessionId : Nat) (topic : ReadingTopic) (c : Nat) :
    ReadingScheduler :=
  { loops := write s.loops (entry ⟨sessionId,.reading topic⟩ (some s.nextLoop))
    loop := Function.update s.loop s.nextLoop
      { sessionId, topic, subscribers := {c}, timer := true, inFlight := true, reads := 1 }
    nextLoop := s.nextLoop + 1 }

theorem subscribeNew {s : ReadingScheduler} {sessionId topic}
    (free : s.loops ⟨sessionId,.reading topic⟩ = none) (c : Nat) :
    (s.subscribe sessionId topic c).1 = s.started sessionId topic c := by
  simp [subscribe,findLoop,free,started,setLoop,tick,Loop.key]

theorem soundStarted {s : ReadingScheduler} (sound : s.Sound) {sessionId topic}
    (free : s.loops ⟨sessionId,.reading topic⟩ = none) (c : Nat) :
    (s.started sessionId topic c).Sound := by
  have old (key l) (under : s.loops key = some l) : key ≠ ⟨sessionId,.reading topic⟩ ∧ l ≠ s.nextLoop := by
    constructor
    · intro same
      simp [same ▸ under] at free
    · exact Nat.ne_of_lt (sound.keyed key l under).2
  refine ⟨?_,?_,?_,?_⟩
  · intro key l under
    by_cases same : key = ⟨sessionId,.reading topic⟩
    · obtain rfl : l = s.nextLoop := by simpa [started,same,eq_comm] using under
      simp [started,same,Loop.key]
    · have under : s.loops key = some l := by simpa [started,writeOther same] using under
      obtain ⟨keyed,known⟩ := sound.keyed key l under
      exact ⟨by simp [started,(old key l under).2,keyed],Nat.lt_succ_of_lt known⟩
  · intro key l under
    by_cases same : key = ⟨sessionId,.reading topic⟩
    · obtain rfl : l = s.nextLoop := by simpa [started,same,eq_comm] using under
      simp [started]
    · have under : s.loops key = some l := by simpa [started,writeOther same] using under
      simpa [started,(old key l under).2] using sound.running key l under
  · intro l runs
    by_cases new : l = s.nextLoop
    · simp [started,new,Loop.key]
    · have runs : (s.loop l).timer := by simpa [started,new] using runs
      have under := sound.live l runs
      simpa [started,new,writeOther (old _ l under).1] using under
  · intro l beyond
    have beyond : s.nextLoop + 1 ≤ l := beyond
    simpa [started,show l ≠ s.nextLoop by omega] using sound.unused l (by omega)

theorem holdsStarted {s : ReadingScheduler} (sound : s.Sound) {sessionId topic}
    (free : s.loops ⟨sessionId,.reading topic⟩ = none) (c c' key) :
    (s.started sessionId topic c).Holds c' key ↔
      s.Holds c' key ∨ c' = c ∧ key = ⟨sessionId,.reading topic⟩ := by
  by_cases same : key = ⟨sessionId,.reading topic⟩
  · simp [Holds,started,same,free]
  · simp only [Holds,started,writeOther same,same,and_false,or_false]
    refine exists_congr fun l => and_congr_right fun under => ?_
    have old : l ≠ s.nextLoop := Nat.ne_of_lt (sound.keyed key l under).2
    simp [old]

theorem soundSubscribe {s : ReadingScheduler} (sound : s.Sound) (sessionId topic c) :
    (s.subscribe sessionId topic c).1.Sound := by
  cases under : s.loops ⟨sessionId,.reading topic⟩ with
  | none =>
    rw [subscribeNew under]
    exact soundStarted sound under c
  | some l =>
    rw [subscribeOld sound under]
    exact soundSetLoop sound rfl rfl fun _ => Finset.insert_nonempty _ _

theorem holdsSubscribe {s : ReadingScheduler} (sound : s.Sound) (sessionId topic c c' key) :
    (s.subscribe sessionId topic c).1.Holds c' key ↔
      s.Holds c' key ∨ c' = c ∧ key = ⟨sessionId,.reading topic⟩ := by
  cases under : s.loops ⟨sessionId,.reading topic⟩ with
  | none =>
    rw [subscribeNew under]
    exact holdsStarted sound under c c' key
  | some l =>
    rw [subscribeOld sound under,holdsChange sound under]
    by_cases same : key = ⟨sessionId,.reading topic⟩
    · subst same
      simp [Holds,under,or_comm]
    · simp [same]

/- From `s` to `s'` some loops stop and the others keep running for whoever is left. -/
structure Shrinks (s s' : ReadingScheduler) (stays : Nat → Prop) : Prop where
  loops : ∀ key l, s'.loops key = some l ↔ s.loops key = some l ∧ stays l
  key : ∀ l, (s'.loop l).key = (s.loop l).key
  timer : ∀ l, (s'.loop l).timer → (s.loop l).timer ∧ (s.loops (s.loop l).key = some l → stays l)
  running : ∀ key l, s.loops key = some l → stays l →
    (s'.loop l).timer = (s.loop l).timer ∧ (s'.loop l).subscribers.Nonempty
  next : s'.nextLoop = s.nextLoop

theorem soundShrinks {s s' : ReadingScheduler} {stays : Nat → Prop} (sound : s.Sound)
    (shrinks : Shrinks s s' stays) : s'.Sound where
  keyed key l under := by
    rw [shrinks.key,shrinks.next]
    exact sound.keyed key l ((shrinks.loops key l).mp under).1
  running key l under := by
    obtain ⟨before,stays⟩ := (shrinks.loops key l).mp under
    obtain ⟨timer,left⟩ := shrinks.running key l before stays
    exact ⟨timer ▸ (sound.running key l before).1,left⟩
  live l runs := by
    obtain ⟨before,stays⟩ := shrinks.timer l runs
    have under := sound.live l before
    rw [shrinks.key,shrinks.loops]
    exact ⟨under,stays under⟩
  unused l beyond := by
    by_contra runs
    have before := (shrinks.timer l (by simpa using runs)).1
    rw [sound.unused l (shrinks.next ▸ beyond)] at before
    exact absurd before (by decide)

theorem Sound.unique {s : ReadingScheduler} (sound : s.Sound) {key key' : TopicKey} {l : Nat}
    (under : s.loops key = some l) (under' : s.loops key' = some l) : key = key' :=
  (sound.keyed key l under).1.symm.trans (sound.keyed key' l under').1

theorem shrinksStop {s : ReadingScheduler} (sound : s.Sound) {key l}
    (under : s.loops key = some l) {f} (keeps : (f (s.loop l)).key = (s.loop l).key) :
    Shrinks s ((s.setLoop l f).stop l) (· ≠ l) where
  loops key' j := by
    have own : (f (s.loop l)).key = key := keeps.trans (sound.keyed key l under).1
    simp only [stop,setLoopSame,setLoopLoops,own]
    by_cases same : key' = key
    · subst same
      simp [under,eq_comm]
    · rw [writeOther same]
      exact ⟨fun other => ⟨other,fun this => same (sound.unique (this ▸ other) under)⟩,And.left⟩
  key j := by
    by_cases this : j = l
    · subst this
      simpa [stop,Loop.key] using keeps
    · simp [stop,setLoop,this]
  timer j runs := by
    by_cases this : j = l
    · simp [stop,this] at runs
    · exact ⟨by simpa [stop,setLoop,this] using runs,fun _ => this⟩
  running key' j other this := by
    simpa [stop,setLoop,this] using (sound.running key' j other).2
  next := rfl

theorem holdsStop {s : ReadingScheduler} (sound : s.Sound) {key l}
    (under : s.loops key = some l) {f} (keeps : (f (s.loop l)).key = (s.loop l).key) (c key') :
    ((s.setLoop l f).stop l).Holds c key' ↔ s.Holds c key' ∧ key' ≠ key := by
  have shrinks := shrinksStop sound under keeps
  have other (j) (this : j ≠ l) : ((s.setLoop l f).stop l).loop j = s.loop j := by
    simp [stop,setLoop,this]
  constructor
  · intro ⟨j,after,member⟩
    obtain ⟨before,this⟩ := (shrinks.loops key' j).mp after
    refine ⟨⟨j,before,other j this ▸ member⟩,?_⟩
    intro same
    subst same
    exact this (Option.some.inj (before.symm.trans under))
  · intro ⟨⟨j,before,member⟩,different⟩
    have this : j ≠ l := fun same => different (sound.unique (same ▸ before) under)
    exact ⟨j,(shrinks.loops key' j).mpr ⟨before,this⟩,(other j this).symm ▸ member⟩

theorem soundUnsubscribe {s : ReadingScheduler} (sound : s.Sound) (sessionId topic c) :
    (s.unsubscribe sessionId topic c).Sound := by
  unfold unsubscribe
  split
  · exact sound
  · rename_i l under
    simp only [setLoopSame]
    split
    · exact soundShrinks sound (shrinksStop sound under rfl)
    · rename_i left
      exact soundSetLoop sound rfl rfl fun _ => Finset.nonempty_iff_ne_empty.mpr left

theorem holdsUnsubscribe {s : ReadingScheduler} (sound : s.Sound) (sessionId topic c c' key) :
    (s.unsubscribe sessionId topic c).Holds c' key ↔
      s.Holds c' key ∧ ¬ (c' = c ∧ key = ⟨sessionId,.reading topic⟩) := by
  unfold unsubscribe
  split
  · rename_i free
    by_cases same : key = ⟨sessionId,.reading topic⟩
    · subst same
      simp [Holds,free]
    · simp [same]
  · rename_i l under
    simp only [setLoopSame]
    split
    · rename_i empty
      rw [holdsStop sound under rfl]
      refine and_congr_right fun ⟨j,before,member⟩ => ?_
      constructor
      · exact fun other both => other both.2
      · intro left same
        subst same
        obtain rfl : j = l := Option.some.inj (before.symm.trans under)
        have others : c' ∉ (s.loop j).subscribers.erase c := by simp [empty]
        exact others (Finset.mem_erase.mpr ⟨fun this => left ⟨this,rfl⟩,member⟩)
    · rw [holdsChange sound under]
      by_cases same : key = ⟨sessionId,.reading topic⟩
      · subst same
        simp [Holds,under,and_comm]
      · simp [same]

theorem shrinksSubscriber {s : ReadingScheduler} (sound : s.Sound) (c : Nat) :
    Shrinks s (s.removeSubscriber c) fun l =>
      ¬ (c ∈ (s.loop l).subscribers ∧ (s.loop l).subscribers.erase c = ∅) where
  loops key l := by
    simp only [removeSubscriber,Option.filter_eq_some_iff,Bool.not_eq_true',decide_eq_false_iff_not]
  key l := by
    simp only [removeSubscriber]
    split <;> rfl
  timer l runs := by
    simp only [removeSubscriber] at runs
    split at runs
    · simp only [Bool.and_eq_true,Bool.not_eq_true',decide_eq_false_iff_not] at runs
      exact ⟨runs.1,fun _ => runs.2⟩
    · rename_i free
      exact ⟨runs,fun under => absurd under free⟩
  running key l under left := by
    have own : s.loops (s.loop l).key = some l := (sound.keyed key l under).1.symm ▸ under
    simp only [removeSubscriber,own,if_true,left,decide_false,Bool.not_false,Bool.and_true,true_and]
    by_cases member : c ∈ (s.loop l).subscribers
    · exact Finset.nonempty_iff_ne_empty.mpr fun empty => left ⟨member,empty⟩
    · rw [Finset.erase_eq_of_notMem member]
      exact (sound.running key l under).2
  next := rfl

theorem holdsRemoveSubscriber {s : ReadingScheduler} (sound : s.Sound) (c c' key) :
    (s.removeSubscriber c).Holds c' key ↔ s.Holds c' key ∧ c' ≠ c := by
  have subscribers (l) (under : s.loops key = some l) :
      ((s.removeSubscriber c).loop l).subscribers = (s.loop l).subscribers.erase c := by
    have own : s.loops (s.loop l).key = some l := (sound.keyed key l under).1.symm ▸ under
    simp only [removeSubscriber,own,if_true]
  constructor
  · intro ⟨l,after,member⟩
    have before := ((shrinksSubscriber sound c).loops key l).mp after
    rw [subscribers l before.1,Finset.mem_erase] at member
    exact ⟨⟨l,before.1,member.2⟩,member.1⟩
  · intro ⟨⟨l,before,member⟩,other⟩
    have left : c' ∈ (s.loop l).subscribers.erase c := Finset.mem_erase.mpr ⟨other,member⟩
    refine ⟨l,((shrinksSubscriber sound c).loops key l).mpr ⟨before,?_⟩,subscribers l before ▸ left⟩
    intro ⟨_,empty⟩
    simp [empty] at left

theorem shrinksSession {s : ReadingScheduler} (sound : s.Sound) (sessionId : Nat) :
    Shrinks s (s.removeSession sessionId) fun l => (s.loop l).sessionId ≠ sessionId where
  loops key l := by simp [removeSession,Option.filter_eq_some_iff]
  key l := by
    simp only [removeSession]
    split <;> rfl
  timer l runs := by
    simp only [removeSession] at runs
    split at runs
    · exact absurd runs (by simp)
    · rename_i stays
      exact ⟨runs,fun under this => stays ⟨under,this⟩⟩
  running key l under left := by
    have own := (sound.keyed key l under).1
    simpa [removeSession,left] using (sound.running key l under).2
  next := rfl

theorem holdsRemoveSession {s : ReadingScheduler} (sound : s.Sound) (sessionId c key) :
    (s.removeSession sessionId).Holds c key ↔ s.Holds c key ∧ key.sessionId ≠ sessionId := by
  have about (l) (under : s.loops key = some l) : (s.loop l).sessionId = key.sessionId :=
    congrArg TopicKey.sessionId (sound.keyed key l under).1
  have subscribers (l) : ((s.removeSession sessionId).loop l).subscribers = (s.loop l).subscribers := by
    simp only [removeSession]
    split <;> rfl
  constructor
  · intro ⟨l,under,member⟩
    obtain ⟨before,stays⟩ := ((shrinksSession sound sessionId).loops key l).mp under
    exact ⟨⟨l,before,subscribers l ▸ member⟩,about l before ▸ stays⟩
  · intro ⟨⟨l,before,member⟩,other⟩
    have under := ((shrinksSession sound sessionId).loops key l).mpr ⟨before,(about l before).symm ▸ other⟩
    exact ⟨l,under,(subscribers l).symm ▸ member⟩

theorem Sound.ticks {s : ReadingScheduler} (sound : s.Sound) {l : Nat} (runs : (s.loop l).timer) :
    ∃ c, s.Holds c (s.loop l).key := by
  have under := sound.live l runs
  obtain ⟨c,member⟩ := (sound.running _ l under).2
  exact ⟨c,l,under,member⟩

end ReadingScheduler

end LxiWeb.ReadingLoops
