import LxiWeb.EventRuns
import LxiWeb.ReadingLoops

/-! Runs of a `ReadingScheduler`: how many reads are in flight under a key, and who is sent what a
read brings. -/
namespace LxiWeb.ReadingDelivery
open EventRuns ReadingLoops

/- `timerFires` is the interval of a loop, `readSettles` the promise its read gave. -/
inductive Event where
  | subscribe (sessionId : Nat) (topic : ReadingTopic) (c : Nat)
  | unsubscribe (sessionId : Nat) (topic : ReadingTopic) (c : Nat)
  | removeSubscriber (c : Nat)
  | removeSession (sessionId : Nat)
  | timerFires (l : Nat)
  | readSettles (l : Nat) (outcome : Except String String) (now : Int)

def handle (s : ReadingScheduler) : Event → ReadingScheduler × Sends
  | .subscribe sessionId topic c => s.subscribe sessionId topic c
  | .unsubscribe sessionId topic c => (s.unsubscribe sessionId topic c,[])
  | .removeSubscriber c => (s.removeSubscriber c,[])
  | .removeSession sessionId => (s.removeSession sessionId,[])
  | .timerFires l => if (s.loop l).timer then (s.tick l,[]) else (s,[])
  | .readSettles l outcome now =>
      if 0 < (s.loop l).reads then s.finishTick l outcome now else (s,[])

def step (s : ReadingScheduler) (e : Event) : ReadingScheduler := (handle s e).1

theorem stepSound {s : ReadingScheduler} (sound : s.Sound) (e : Event) : (step s e).Sound := by
  unfold step
  cases e with
  | subscribe sessionId topic c => exact ReadingScheduler.soundSubscribe sound sessionId topic c
  | unsubscribe sessionId topic c => exact ReadingScheduler.soundUnsubscribe sound sessionId topic c
  | removeSubscriber c =>
    exact ReadingScheduler.soundShrinks sound (ReadingScheduler.shrinksSubscriber sound c)
  | removeSession sessionId =>
    exact ReadingScheduler.soundShrinks sound (ReadingScheduler.shrinksSession sound sessionId)
  | timerFires l =>
    simp only [handle]
    split
    · obtain ⟨f,notes,same⟩ := ReadingScheduler.tickNotes s l
      simpa only [same] using ReadingScheduler.soundNotes sound l notes
    · exact sound
  | readSettles l outcome now =>
    simp only [handle]
    split
    · obtain ⟨f,notes,same⟩ := ReadingScheduler.finishTickNotes s l outcome now
      simpa only [same] using ReadingScheduler.soundNotes sound l notes
    · exact sound

def Reading (s : ReadingScheduler) (l : Nat) (key : TopicKey) : Prop :=
  0 < (s.loop l).reads ∧ (s.loop l).key = key

/- At most one read in flight under each key: no loop has two, and no two loops have one. -/
structure SingleRead (s : ReadingScheduler) : Prop where
  one : ∀ l, (s.loop l).reads ≤ 1
  alone : ∀ key l l', Reading s l key → Reading s l' key → l = l'

/- A subscriber that finds no loop under its key starts one; no read that an earlier loop of the key
left behind is still in flight then. -/
def NoReadLeft (s : ReadingScheduler) : Event → Prop
  | .subscribe sessionId topic _ =>
      s.loops ⟨sessionId,.reading topic⟩ = none → ∀ l, ¬ Reading s l ⟨sessionId,.reading topic⟩
  | _ => True

def Counted (s : ReadingScheduler) : Prop := ∀ l, (s.loop l).reads = (s.loop l).inFlight.toNat

theorem Counted.one {s : ReadingScheduler} (counted : Counted s) (l : Nat) : (s.loop l).reads ≤ 1 :=
  counted l ▸ Bool.toNat_le _

structure Alone (s : ReadingScheduler) : Prop where
  sound : s.Sound
  single : SingleRead s
  own : ∀ key l, s.loops key = some l → ∀ l', Reading s l' key → l' = l
  counted : Counted s
  unused : ∀ l, s.nextLoop ≤ l → (s.loop l).reads = 0

theorem aloneCreate : Alone .create :=
  ⟨ReadingScheduler.soundCreate,⟨fun _ => Nat.zero_le 1,nofun⟩,nofun,fun _ => rfl,fun _ _ => rfl⟩

structure Quiet (s s' : ReadingScheduler) : Prop where
  loops : ∀ key l, s'.loops key = some l → s.loops key = some l
  reading : ∀ l key, Reading s' l key → Reading s l key
  counted : Counted s → Counted s'
  next : s'.nextLoop = s.nextLoop

theorem Quiet.alone {s s' : ReadingScheduler} (quiet : Quiet s s') (sound : s'.Sound)
    (alone : Alone s) : Alone s' where
  sound := sound
  single := ⟨(quiet.counted alone.counted).one,fun key l l' reads reads' =>
    alone.single.alone key l l' (quiet.reading l key reads) (quiet.reading l' key reads')⟩
  own key l under l' reads :=
    alone.own key l (quiet.loops key l under) l' (quiet.reading l' key reads)
  counted := quiet.counted alone.counted
  unused l beyond := by
    by_contra reads
    have before := quiet.reading l _ ⟨Nat.pos_of_ne_zero reads,rfl⟩
    exact absurd (alone.unused l (quiet.next ▸ beyond)) before.1.ne'

theorem quietSetLoop (s : ReadingScheduler) (l : Nat) {f : Loop → Loop}
    (key : ∀ loop, (f loop).key = loop.key)
    (reads : ∀ loop, (f loop).reads ≤ loop.reads)
    (flag : ∀ loop, loop.reads = loop.inFlight.toNat → (f loop).reads = (f loop).inFlight.toNat) :
    Quiet s (s.setLoop l f) where
  loops _ _ := id
  reading j key' := by
    rintro ⟨flying,same⟩
    by_cases this : j = l
    · subst this
      rw [ReadingScheduler.setLoopSame] at flying same
      exact ⟨flying.trans_le (reads _),(key _).symm.trans same⟩
    · rw [ReadingScheduler.setLoopOther s this] at flying same
      exact ⟨flying,same⟩
  counted counted j := by
    by_cases this : j = l
    · subst this
      rw [ReadingScheduler.setLoopSame]
      exact flag _ (counted j)
    · rw [ReadingScheduler.setLoopOther s this]
      exact counted j
  next := rfl

theorem quietShrinks {s s' : ReadingScheduler} {stays : Nat → Prop}
    (shrinks : ReadingScheduler.Shrinks s s' stays)
    (reads : ∀ l, (s'.loop l).reads = (s.loop l).reads ∧ (s'.loop l).inFlight = (s.loop l).inFlight) :
    Quiet s s' where
  loops key l under := ((shrinks.loops key l).mp under).1
  reading l key := by
    rintro ⟨flying,same⟩
    exact ⟨(reads l).1 ▸ flying,(shrinks.key l).symm.trans same⟩
  counted counted l := by
    rw [(reads l).1,(reads l).2]
    exact counted l
  next := shrinks.next

theorem quietUnsubscribe {s : ReadingScheduler} (sound : s.Sound) (sessionId topic c) :
    Quiet s (s.unsubscribe sessionId topic c) := by
  unfold ReadingScheduler.unsubscribe
  split
  · exact ⟨fun _ _ => id,fun _ _ => id,id,rfl⟩
  · rename_i l under
    simp only [ReadingScheduler.setLoopSame]
    split
    · refine quietShrinks (ReadingScheduler.shrinksStop sound under rfl) fun j => ?_
      by_cases this : j = l <;> simp [ReadingScheduler.stop,ReadingScheduler.setLoop,this]
    · exact quietSetLoop s l (fun _ => rfl) (fun _ => Nat.le_refl _) fun _ => id

theorem quietRemoveSubscriber {s : ReadingScheduler} (sound : s.Sound) (c) :
    Quiet s (s.removeSubscriber c) := by
  apply quietShrinks (ReadingScheduler.shrinksSubscriber sound c)
  intro l
  simp only [ReadingScheduler.removeSubscriber]
  split <;> exact ⟨rfl,rfl⟩

theorem quietRemoveSession {s : ReadingScheduler} (sound : s.Sound) (sessionId) :
    Quiet s (s.removeSession sessionId) := by
  apply quietShrinks (ReadingScheduler.shrinksSession sound sessionId)
  intro l
  simp only [ReadingScheduler.removeSession]
  split <;> exact ⟨rfl,rfl⟩

theorem quietFinish (s : ReadingScheduler) (l outcome now) : Quiet s (s.finishTick l outcome now).1 := by
  have last (loop : Loop) (counted : loop.reads = loop.inFlight.toNat) : loop.reads - 1 = Bool.toNat false := by
    have one := Bool.toNat_le loop.inFlight
    rw [Bool.toNat_false]
    omega
  simp only [ReadingScheduler.finishTick]
  split
  · dsimp only
    exact quietSetLoop s l (fun _ => rfl) (fun _ => Nat.sub_le _ _) last
  · split
    · dsimp only
      exact quietSetLoop s l (fun _ => rfl) (fun _ => Nat.sub_le _ _) last
    · dsimp only
      exact quietSetLoop s l (fun _ => rfl) (fun _ => Nat.sub_le _ _) last

theorem singleJoined {s s' : ReadingScheduler} (alone : Alone s) {l : Nat} {key' : TopicKey}
    (reading : ∀ j key, Reading s' j key → Reading s j key ∨ j = l ∧ key = key')
    (mine : ∀ j, Reading s' j key' → j = l) (key j j') (reads : Reading s' j key)
    (reads' : Reading s' j' key) : j = j' := by
  rcases reading j key reads with before | ⟨rfl,rfl⟩
  · rcases reading j' key reads' with before' | ⟨rfl,rfl⟩
    · exact alone.single.alone key j j' before before'
    · exact mine j reads
  · exact (mine j' reads').symm

theorem aloneTick {s : ReadingScheduler} (alone : Alone s) {l : Nat} (runs : (s.loop l).timer) :
    Alone (s.tick l) := by
  have under := alone.sound.live l runs
  unfold ReadingScheduler.tick
  split
  · exact alone
  · rename_i idle
    rw [under,if_neg (by simp)]
    let started := s.setLoop l fun loop => { loop with inFlight := true, reads := loop.reads + 1 }
    have reading (j key) (reads : Reading started j key) :
        Reading s j key ∨ j = l ∧ key = (s.loop l).key := by
      by_cases this : j = l
      · subst this
        have same : (s.loop j).key = key := by simpa [started,Loop.key] using reads.2
        exact .inr ⟨rfl,same.symm⟩
      · unfold Reading at reads
        rw [ReadingScheduler.setLoopOther s this] at reads
        exact .inl reads
    have mine (j) (reads : Reading started j (s.loop l).key) : j = l := by
      rcases reading j _ reads with before | ⟨this,_⟩
      · exact alone.own _ l under j before
      · exact this
    have known : l < s.nextLoop := (alone.sound.keyed _ l under).2
    have counted : Counted started := by
      intro j
      by_cases this : j = l
      · subst this
        have none_ := alone.counted j
        simp only [Bool.not_eq_true] at idle
        rw [idle,Bool.toNat_false] at none_
        simp [started,none_]
      · simpa [started,ReadingScheduler.setLoopOther s this] using alone.counted j
    exact {
      sound := ReadingScheduler.soundNotes alone.sound l fun _ => ⟨rfl,rfl,rfl⟩
      single := ⟨counted.one,singleJoined alone reading mine⟩
      counted
      own := by
        intro key j holds j' reads
        rcases reading j' key reads with before | ⟨rfl,same⟩
        · exact alone.own key j holds j' before
        · exact Option.some.inj ((same ▸ under).symm.trans holds)
      unused := by
        intro j beyond
        have other : j ≠ l := fun this => absurd known (by simpa [started,this] using beyond)
        have idle := alone.unused j beyond
        simpa [started,ReadingScheduler.setLoopOther s other] using idle }

theorem aloneSubscribe {s : ReadingScheduler} (alone : Alone s) (sessionId topic c)
    (free : NoReadLeft s (.subscribe sessionId topic c)) : Alone (s.subscribe sessionId topic c).1 := by
  have sound := ReadingScheduler.soundSubscribe alone.sound sessionId topic c
  cases under : s.loops ⟨sessionId,.reading topic⟩ with
  | some l =>
    rw [ReadingScheduler.subscribeOld alone.sound under] at sound ⊢
    refine Quiet.alone ?_ sound alone
    apply quietSetLoop <;> simp [Loop.key]
  | none =>
    rw [ReadingScheduler.subscribeNew under] at sound ⊢
    have reading (j key) (reads : Reading (s.started sessionId topic c) j key) :
        Reading s j key ∨ j = s.nextLoop ∧ key = ⟨sessionId,.reading topic⟩ := by
      by_cases this : j = s.nextLoop
      · subst this
        have same : (⟨sessionId,.reading topic⟩ : TopicKey) = key := by
          simpa [ReadingScheduler.started,Loop.key] using reads.2
        exact .inr ⟨rfl,same.symm⟩
      · left
        simpa [Reading,ReadingScheduler.started,this] using reads
    have mine (j) (reads : Reading (s.started sessionId topic c) j ⟨sessionId,.reading topic⟩) :
        j = s.nextLoop := by
      rcases reading j _ reads with before | ⟨this,_⟩
      · exact absurd before (free under j)
      · exact this
    have counted : Counted (s.started sessionId topic c) := by
      intro j
      by_cases this : j = s.nextLoop
      · simp [ReadingScheduler.started,this]
      · simpa [ReadingScheduler.started,this] using alone.counted j
    exact {
      sound := sound
      single := ⟨counted.one,singleJoined alone reading mine⟩
      counted
      own := by
        intro key j holds j' reads
        by_cases here : key = ⟨sessionId,.reading topic⟩
        · obtain rfl : j = s.nextLoop := by
            simpa [ReadingScheduler.started,here,eq_comm] using holds
          exact mine j' (here ▸ reads)
        · have holds : s.loops key = some j := by
            simpa [ReadingScheduler.started,KeyedWrites.writeOther here] using holds
          rcases reading j' key reads with before | ⟨_,same⟩
          · exact alone.own key j holds j' before
          · exact absurd same here
      unused := by
        intro j beyond
        have beyond : s.nextLoop + 1 ≤ j := beyond
        have idle := alone.unused j (by omega)
        simpa [ReadingScheduler.started,show j ≠ s.nextLoop by omega] using idle }

theorem stepAlone (s : ReadingScheduler) (e : Event) (alone : Alone s) (free : NoReadLeft s e) :
    Alone (step s e) := by
  have sound := stepSound alone.sound e
  unfold step at sound ⊢
  cases e with
  | subscribe sessionId topic c => exact aloneSubscribe alone sessionId topic c free
  | unsubscribe sessionId topic c =>
    exact (quietUnsubscribe alone.sound sessionId topic c).alone sound alone
  | removeSubscriber c => exact (quietRemoveSubscriber alone.sound c).alone sound alone
  | removeSession sessionId => exact (quietRemoveSession alone.sound sessionId).alone sound alone
  | timerFires l =>
    simp only [handle]
    split
    · rename_i runs
      exact aloneTick alone runs
    · exact alone
  | readSettles l outcome now =>
    simp only [handle] at sound ⊢
    split
    · rename_i flying
      rw [if_pos flying] at sound
      exact (quietFinish s l outcome now).alone sound alone
    · exact alone

theorem singleIffFree {s : ReadingScheduler} (e : Event) (alone : Alone s) :
    SingleRead (step s e) ↔ NoReadLeft s e := by
  constructor
  · intro single
    cases e with
    | subscribe sessionId topic c =>
      intro under l reads
      unfold step handle at single
      simp only [ReadingScheduler.subscribeNew under] at single
      have old : l ≠ s.nextLoop := by
        intro this
        have idle := alone.unused l (Nat.le_of_eq this.symm)
        simp [Reading,idle] at reads
      refine old (single.alone ⟨sessionId,.reading topic⟩ l s.nextLoop ?_ ?_)
      · simpa [Reading,ReadingScheduler.started,old] using reads
      · simp [Reading,ReadingScheduler.started,Loop.key]
    | _ => trivial
  · exact fun free => (stepAlone s e alone free).single

theorem singleReadRuns (events : List Event) :
    Throughout step SingleRead .create events ↔ Along step NoReadLeft .create events :=
  throughoutIffAlong stepAlone (fun _ e alone => singleIffFree e alone) aloneCreate aloneCreate.single events

/- A panel closes and opens again while the first read is still out. -/
theorem restartReadsTwice : ¬ Throughout step SingleRead .create
    [.subscribe 0 .psuChannels 1,.unsubscribe 0 .psuChannels 1,.subscribe 0 .psuChannels 1] := by
  intro all
  have same := all.last.alone ⟨0,.reading .psuChannels⟩ 0 1 ⟨by decide,by decide⟩ ⟨by decide,by decide⟩
  exact absurd same (by decide)

/- A scheduler under watch: who subscribes to which key by the calls made so far, and who was
removed from a key and has not subscribed to it again. -/
structure Feed where
  scheduler : ReadingScheduler
  subscribed : Finset (Nat × TopicKey)
  removed : Finset (Nat × TopicKey)

def open_ : Feed := ⟨.create,∅,∅⟩

def subscribedAfter (subscribed : Finset (Nat × TopicKey)) : Event → Finset (Nat × TopicKey)
  | .subscribe sessionId topic c => insert (c,⟨sessionId,.reading topic⟩) subscribed
  | .unsubscribe sessionId topic c => subscribed.erase (c,⟨sessionId,.reading topic⟩)
  | .removeSubscriber c => subscribed.filter fun held => held.1 ≠ c
  | .removeSession sessionId => subscribed.filter fun held => held.2.sessionId ≠ sessionId
  | .timerFires _ | .readSettles .. => subscribed

def feedStep (f : Feed) (e : Event) : Feed :=
  let subscribed := subscribedAfter f.subscribed e
  { scheduler := step f.scheduler e, subscribed
    removed := (f.removed ∪ f.subscribed) \ subscribed }

def Delivered (f : Feed) (e : Event) : Prop :=
  ∀ send ∈ (handle f.scheduler e).2, ∀ c ∈ send.1, (c,messageKey send.2) ∉ (feedStep f e).removed

/- When a read settles whose loop another loop has replaced under the key, the subscribers that the
replaced loop still has are subscribed to the other one too. -/
def Handed (f : Feed) : Event → Prop
  | .readSettles l _ _ => 0 < (f.scheduler.loop l).reads →
      ∀ l' ∈ f.scheduler.loops (f.scheduler.loop l).key, l' ≠ l →
        (f.scheduler.loop l).subscribers ⊆ (f.scheduler.loop l').subscribers
  | _ => True

instance : (f : Feed) → (e : Event) → Decidable (Handed f e)
  | f, .readSettles l _ _ => inferInstanceAs (Decidable (0 < (f.scheduler.loop l).reads → _))
  | _, .subscribe .. | _, .unsubscribe .. | _, .removeSubscriber _ | _, .removeSession _
  | _, .timerFires _ => isTrue trivial

structure Watched (f : Feed) : Prop where
  sound : f.scheduler.Sound
  holds : ∀ c key, f.scheduler.Holds c key ↔ (c,key) ∈ f.subscribed
  known : ∀ l, ∀ c ∈ (f.scheduler.loop l).subscribers,
    (c,(f.scheduler.loop l).key) ∈ f.subscribed ∪ f.removed
  apart : Disjoint f.subscribed f.removed

theorem watchedOpen : Watched open_ :=
  ⟨ReadingScheduler.soundCreate,by simp [open_,ReadingScheduler.Holds,ReadingScheduler.create],
    nofun,by simp [open_]⟩

theorem holdsStep {s : ReadingScheduler} (sound : s.Sound) {subscribed : Finset (Nat × TopicKey)}
    (holds : ∀ c key, s.Holds c key ↔ (c,key) ∈ subscribed) (e : Event) (c key) :
    (step s e).Holds c key ↔ (c,key) ∈ subscribedAfter subscribed e := by
  unfold step
  cases e with
  | subscribe sessionId topic c' =>
    simp only [handle,subscribedAfter,ReadingScheduler.holdsSubscribe sound,holds,Finset.mem_insert,
      Prod.mk.injEq,or_comm]
  | unsubscribe sessionId topic c' =>
    simp only [handle,subscribedAfter,ReadingScheduler.holdsUnsubscribe sound,holds,Finset.mem_erase,
      Prod.mk.injEq,ne_eq,and_comm]
  | removeSubscriber c' =>
    simp only [handle,subscribedAfter,ReadingScheduler.holdsRemoveSubscriber sound,holds,
      Finset.mem_filter]
  | removeSession sessionId =>
    simp only [handle,subscribedAfter,ReadingScheduler.holdsRemoveSession sound,holds,
      Finset.mem_filter]
  | timerFires l =>
    simp only [handle,subscribedAfter]
    split
    · obtain ⟨f,notes,same⟩ := ReadingScheduler.tickNotes s l
      simp only [same,ReadingScheduler.holdsNotes s l notes,holds]
    · exact holds c key
  | readSettles l outcome now =>
    simp only [handle,subscribedAfter]
    split
    · obtain ⟨f,notes,same⟩ := ReadingScheduler.finishTickNotes s l outcome now
      simp only [same,ReadingScheduler.holdsNotes s l notes,holds]
    · exact holds c key

def Grows (s s' : ReadingScheduler) (e : Event) : Prop :=
  ∀ l, ∀ c ∈ (s'.loop l).subscribers,
    (c ∈ (s.loop l).subscribers ∧ (s'.loop l).key = (s.loop l).key) ∨
    ∃ sessionId topic, e = .subscribe sessionId topic c ∧
      (s'.loop l).key = ⟨sessionId,.reading topic⟩

theorem growsOf {s s' : ReadingScheduler} {e : Event} (key : ∀ l, (s'.loop l).key = (s.loop l).key)
    (subscribers : ∀ l, (s'.loop l).subscribers ⊆ (s.loop l).subscribers) : Grows s s' e :=
  fun l _ member => .inl ⟨subscribers l member,key l⟩

theorem growsNotes (s : ReadingScheduler) (l : Nat) {f} (notes : ReadingScheduler.Notes f)
    (e : Event) : Grows s (s.setLoop l f) e := by
  apply growsOf <;> intro j <;> by_cases this : j = l
  · subst this
    rw [ReadingScheduler.setLoopSame,(notes _).1]
  · rw [ReadingScheduler.setLoopOther s this]
  · subst this
    rw [ReadingScheduler.setLoopSame,(notes _).2.2]
  · rw [ReadingScheduler.setLoopOther s this]

theorem growsSubscribe {s : ReadingScheduler} (sound : s.Sound) (sessionId topic c) :
    Grows s (s.subscribe sessionId topic c).1 (.subscribe sessionId topic c) := by
  intro l c' member
  cases under : s.loops ⟨sessionId,.reading topic⟩ with
  | some j =>
    rw [ReadingScheduler.subscribeOld sound under] at member ⊢
    by_cases this : l = j
    · subst this
      rw [ReadingScheduler.setLoopSame] at member ⊢
      rcases Finset.mem_insert.mp member with rfl | old
      · exact .inr ⟨sessionId,topic,rfl,(sound.keyed _ l under).1⟩
      · exact .inl ⟨old,rfl⟩
    · rw [ReadingScheduler.setLoopOther s this] at member ⊢
      exact .inl ⟨member,rfl⟩
  | none =>
    rw [ReadingScheduler.subscribeNew under] at member ⊢
    by_cases this : l = s.nextLoop
    · subst this
      obtain rfl : c' = c := by simpa [ReadingScheduler.started] using member
      exact .inr ⟨sessionId,topic,rfl,by simp [ReadingScheduler.started,Loop.key]⟩
    · left
      simpa [ReadingScheduler.started,this] using member

theorem growsUnsubscribe (s : ReadingScheduler) (sessionId topic c e) :
    Grows s (s.unsubscribe sessionId topic c) e := by
  unfold ReadingScheduler.unsubscribe
  split
  · exact growsOf (fun _ => rfl) fun _ => Finset.Subset.refl _
  · rename_i l under
    simp only [ReadingScheduler.setLoopSame]
    split
    all_goals
      apply growsOf <;> intro j <;> by_cases this : j = l
      · simp [ReadingScheduler.stop,this,Loop.key]
      · simp [ReadingScheduler.stop,ReadingScheduler.setLoop,this]
      · simpa [ReadingScheduler.stop,this] using Finset.erase_subset c _
      · simp [ReadingScheduler.stop,ReadingScheduler.setLoop,this]

theorem stepGrows {s : ReadingScheduler} (sound : s.Sound) (e : Event) : Grows s (step s e) e := by
  unfold step
  have same : Grows s s e := growsOf (fun _ => rfl) fun _ => Finset.Subset.refl _
  cases e with
  | subscribe sessionId topic c => exact growsSubscribe sound sessionId topic c
  | unsubscribe sessionId topic c => exact growsUnsubscribe s sessionId topic c _
  | removeSubscriber c =>
    apply growsOf (ReadingScheduler.shrinksSubscriber sound c).key
    intro l
    simp only [ReadingScheduler.removeSubscriber]
    split
    · exact Finset.erase_subset _ _
    · exact Finset.Subset.refl _
  | removeSession sessionId =>
    apply growsOf (ReadingScheduler.shrinksSession sound sessionId).key
    intro l
    simp only [ReadingScheduler.removeSession]
    split <;> exact Finset.Subset.refl _
  | timerFires l =>
    simp only [handle]
    split
    · obtain ⟨f,notes,this⟩ := ReadingScheduler.tickNotes s l
      simpa only [this] using growsNotes s l notes _
    · exact same
  | readSettles l outcome now =>
    simp only [handle]
    split
    · obtain ⟨f,notes,this⟩ := ReadingScheduler.finishTickNotes s l outcome now
      simpa only [this] using growsNotes s l notes _
    · exact same

theorem feedStepWatched (f : Feed) (e : Event) (watched : Watched f) : Watched (feedStep f e) where
  sound := stepSound watched.sound e
  holds := holdsStep watched.sound watched.holds e
  known l c member := by
    simp only [feedStep,Finset.union_sdiff_self_eq_union,Finset.mem_union]
    rcases stepGrows watched.sound e l c member with ⟨old,key⟩ | ⟨sessionId,topic,rfl,key⟩
    · have before := Finset.mem_union.mp (watched.known l c old)
      rw [key]
      exact .inr before.symm
    · left
      rw [key]
      exact Finset.mem_insert_self _ _
  apart := Finset.disjoint_sdiff

theorem lastKnownKey {loop : Loop} {message : TopicMessage}
    (known : message ∈ ReadingScheduler.lastKnown loop) : messageKey message = loop.key := by
  unfold ReadingScheduler.lastKnown at known
  split at known
  · obtain rfl := Option.some.inj known
    rfl
  · obtain rfl := Option.some.inj known
    rfl
  · exact absurd known (Option.not_mem_none _)

theorem subscribeSends {s : ReadingScheduler} (sound : s.Sound) (sessionId topic c) :
    ∀ send ∈ (s.subscribe sessionId topic c).2,
      send.1 = {c} ∧ messageKey send.2 = ⟨sessionId,.reading topic⟩ := by
  intro send member
  cases under : s.loops ⟨sessionId,.reading topic⟩ with
  | none =>
    simp [ReadingScheduler.subscribe,ReadingScheduler.findLoop,under,ReadingScheduler.lastKnown] at member
  | some l =>
    have running := (sound.running _ l under).1
    simp only [ReadingScheduler.subscribe,ReadingScheduler.findLoop,under,
      ReadingScheduler.setLoopSame,running,if_true,Option.mem_toList] at member
    obtain ⟨message,known,rfl⟩ := Option.map_eq_some_iff.mp member
    exact ⟨rfl,(lastKnownKey known).trans (sound.keyed _ l under).1⟩

theorem finishSends (s : ReadingScheduler) (l outcome now) :
    ∀ send ∈ (s.finishTick l outcome now).2,
      (∃ l', s.loops (s.loop l).key = some l') ∧ send.1 = (s.loop l).subscribers ∧
        messageKey send.2 = (s.loop l).key := by
  intro send member
  simp only [ReadingScheduler.finishTick] at member
  split at member
  · exact absurd member List.not_mem_nil
  · rename_i listed
    have listed := Option.ne_none_iff_exists'.mp listed
    split at member
    · obtain rfl := List.mem_singleton.mp member
      exact ⟨listed,rfl,rfl⟩
    · obtain rfl := List.mem_singleton.mp member
      exact ⟨listed,rfl,rfl⟩

theorem finishSent {s : ReadingScheduler} {l : Nat} (listed : s.loops (s.loop l).key ≠ none)
    (outcome now) : ∃ message, ((s.loop l).subscribers,message) ∈ (s.finishTick l outcome now).2 ∧
      messageKey message = (s.loop l).key := by
  simp only [ReadingScheduler.finishTick,listed,if_false]
  cases outcome with
  | ok payload => exact ⟨_,List.mem_singleton_self _,rfl⟩
  | error message => exact ⟨_,List.mem_singleton_self _,rfl⟩

theorem deliveredIffHanded {f : Feed} (e : Event) (watched : Watched f) : Delivered f e ↔ Handed f e := by
  have apart {c key} (held : (c,key) ∈ f.subscribed) : (c,key) ∉ f.removed := fun gone =>
    Finset.disjoint_left.mp watched.apart held gone
  cases e with
  | subscribe sessionId topic c =>
    refine iff_of_true ?_ trivial
    intro send member c' audience
    obtain ⟨only,key⟩ := subscribeSends watched.sound sessionId topic c send member
    obtain rfl : c' = c := Finset.mem_singleton.mp (only ▸ audience)
    simp [feedStep,subscribedAfter,key]
  | readSettles l outcome now =>
    have removed : (feedStep f (.readSettles l outcome now)).removed = f.removed := by
      simp only [feedStep,subscribedAfter,Finset.union_sdiff_right]
      exact Finset.sdiff_eq_self_of_disjoint watched.apart.symm
    constructor
    · intro delivered flying l' under other c member
      have listed : f.scheduler.loops (f.scheduler.loop l).key ≠ none := by
        simp [Option.mem_def.mp under]
      obtain ⟨message,sent,key⟩ := finishSent listed outcome now
      have told := delivered _ (by simpa [handle,flying] using sent) c member
      rw [removed,key] at told
      have held := (Finset.mem_union.mp (watched.known l c member)).resolve_right told
      obtain ⟨j,under',member'⟩ := (watched.holds c _).mpr held
      obtain rfl := Option.some.inj (under'.symm.trans (Option.mem_def.mp under))
      exact member'
    · intro handed send member c audience
      simp only [handle] at member
      split at member
      · rename_i flying
        obtain ⟨⟨l',under⟩,only,key⟩ := finishSends f.scheduler l outcome now send member
        rw [removed,key]
        rw [only] at audience
        apply apart
        rw [← watched.holds]
        by_cases this : l' = l
        · exact ⟨l',under,this ▸ audience⟩
        · exact ⟨l',under,handed flying l' under this audience⟩
      · exact absurd member List.not_mem_nil
  | unsubscribe | removeSubscriber | removeSession =>
    exact iff_of_true (fun send member => absurd member List.not_mem_nil) trivial
  | timerFires l =>
    refine iff_of_true (fun send member => ?_) trivial
    simp only [handle] at member
    split at member <;> exact absurd member List.not_mem_nil

theorem deliveredRuns (events : List Event) :
    Along feedStep Delivered open_ events ↔ Along feedStep Handed open_ events :=
  alongCongr feedStepWatched (fun _ e watched => deliveredIffHanded e watched) watchedOpen events

/- The session is removed while a read is out; another browser subscribes, and the read of the old
loop is sent to the browser that was removed. -/
theorem removedStillSent : ¬ Along feedStep Delivered open_
    [.subscribe 0 .psuChannels 1,.removeSession 0,.subscribe 0 .psuChannels 2,
      .readSettles 0 (.error "session 0 is not open") 5] := by
  rw [alongCongr feedStepWatched (fun _ e watched => deliveredIffHanded e watched) watchedOpen]
  decide

end LxiWeb.ReadingDelivery
