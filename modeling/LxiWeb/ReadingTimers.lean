import LxiWeb.ReadingDelivery

/-! The intervals behind the read loops. A loop object keeps the handle of its interval also when
the interval has been cleared; whether an interval is active is the runtime's to know. -/
namespace LxiWeb.ReadingTimers
open EventRuns KeyedWrites ReadingLoops ReadingDelivery

/- `timer` is what each loop keeps, `interval` the active intervals and the loop each of them ticks. -/
structure Timed where
  scheduler : ReadingScheduler
  timer : Nat → Option Nat
  interval : Nat → Option Nat
  nextInterval : Nat

def start : Timed := ⟨.create,fun _ => none,fun _ => none,0⟩

-- `if (!loop.timer) loop.timer = setInterval(tick, ..)`
def setInterval (t : Timed) (l : Nat) : Timed :=
  match t.timer l with
  | some _ => t
  | none =>
      { t with
        timer := Function.update t.timer l (some t.nextInterval)
        interval := Function.update t.interval t.nextInterval (some l)
        nextInterval := t.nextInterval + 1 }

-- `if (loop.timer) clearInterval(loop.timer)`
def clearInterval (t : Timed) (l : Nat) : Timed :=
  match t.timer l with
  | none => t
  | some i => { t with interval := Function.update t.interval i none }

def stops (s : ReadingScheduler) : Event → Nat → Bool
  | .unsubscribe sessionId topic c, l =>
      s.loops ⟨sessionId,.reading topic⟩ = some l ∧ (s.loop l).subscribers.erase c = ∅
  | .removeSubscriber c, l =>
      s.loops (s.loop l).key = some l ∧ c ∈ (s.loop l).subscribers ∧ (s.loop l).subscribers.erase c = ∅
  | .removeSession sessionId, l => s.loops (s.loop l).key = some l ∧ (s.loop l).sessionId = sessionId
  | _, _ => false

def stopped (s : ReadingScheduler) (e : Event) : List Nat := (List.range s.nextLoop).filter (stops s e)

def timedStep (t : Timed) (e : Event) : Timed :=
  let cleared := (stopped t.scheduler e).foldl clearInterval t
  let next := { cleared with scheduler := step t.scheduler e }
  match e with
  | .subscribe sessionId topic _ => setInterval next (t.scheduler.findLoop sessionId topic).1
  | _ => next

/- `unsubscribe`, `removeSubscriber` and `removeSession` as they cover a subscription. -/
def covers (c : Nat) (key : TopicKey) : Event → Bool
  | .unsubscribe sessionId topic c' => c' = c ∧ key = ⟨sessionId,.reading topic⟩
  | .removeSubscriber c' => c' = c
  | .removeSession sessionId => key.sessionId = sessionId
  | _ => false

/- `c` subscribed to the key, and no removal since then covered it. -/
def Subscribed (events : List Event) (c : Nat) (key : TopicKey) : Prop :=
  ∃ before sessionId topic after, events = before ++ .subscribe sessionId topic c :: after ∧
    key = ⟨sessionId,.reading topic⟩ ∧ ∀ e ∈ after, covers c key e = false

structure LoopsTick (events : List Event) (t : Timed) : Prop where
  subscribers : ∀ key l, t.scheduler.loops key = some l → (t.scheduler.loop l).subscribers.Nonempty
  single : ∀ key l, t.scheduler.loops key = some l → ∃! i, t.interval i = some l
  keyed : ∀ i l, t.interval i = some l → t.scheduler.loops (t.scheduler.loop l).key = some l
  member : ∀ c sessionId topic,
    t.scheduler.Holds c ⟨sessionId,.reading topic⟩ ↔ Subscribed events c ⟨sessionId,.reading topic⟩

theorem subscribedSnoc (events : List Event) (e : Event) (c : Nat) (key : TopicKey) :
    Subscribed (events ++ [e]) c key ↔
      (∃ sessionId topic, e = .subscribe sessionId topic c ∧ key = ⟨sessionId,.reading topic⟩) ∨
        Subscribed events c key ∧ covers c key e = false := by
  constructor
  · rintro ⟨before,sessionId,topic,after,whole,named,kept⟩
    rcases List.eq_nil_or_concat after with rfl | ⟨init,last,rfl⟩
    · obtain ⟨-,same⟩ := List.append_inj' whole rfl
      exact .inl ⟨sessionId,topic,(List.cons.inj same).1,named⟩
    · rw [List.concat_eq_append,← List.cons_append,← List.append_assoc] at whole
      obtain ⟨rfl,same⟩ := List.append_inj' whole rfl
      obtain rfl := (List.cons.inj same).1
      right
      refine ⟨⟨before,sessionId,topic,init,rfl,named,fun e' member => ?_⟩,?_⟩
      · exact kept e' (by simp [member])
      · exact kept e (by simp)
  · rintro (⟨sessionId,topic,rfl,named⟩ | ⟨⟨before,sessionId,topic,after,rfl,named,kept⟩,last⟩)
    · exact ⟨events,sessionId,topic,[],rfl,named,by simp⟩
    · refine ⟨before,sessionId,topic,after ++ [e],by simp,named,fun e' member => ?_⟩
      rcases List.mem_append.mp member with inside | late
      · exact kept e' inside
      · rw [List.mem_singleton.mp late]
        exact last

theorem subscribedAfterIff (subscribed : Finset (Nat × TopicKey)) (e : Event) (c : Nat) (key : TopicKey) :
    (c,key) ∈ subscribedAfter subscribed e ↔
      (∃ sessionId topic, e = .subscribe sessionId topic c ∧ key = ⟨sessionId,.reading topic⟩) ∨
        (c,key) ∈ subscribed ∧ covers c key e = false := by
  cases e with
  | subscribe sessionId topic c' =>
    simp only [subscribedAfter,Finset.mem_insert,Prod.mk.injEq,covers,and_true,Event.subscribe.injEq]
    constructor
    · rintro (⟨rfl,rfl⟩ | old)
      · exact .inl ⟨sessionId,topic,⟨rfl,rfl,rfl⟩,rfl⟩
      · exact .inr old
    · rintro (⟨_,_,⟨rfl,rfl,rfl⟩,rfl⟩ | old)
      · exact .inl ⟨rfl,rfl⟩
      · exact .inr old
  | unsubscribe sessionId topic c' =>
    simp only [subscribedAfter,covers,Finset.mem_erase,Prod.mk.injEq,ne_eq,decide_eq_false_iff_not,
      reduceCtorEq,false_and,exists_false,false_or]
    exact ⟨fun held => ⟨held.2,fun same => held.1 ⟨same.1.symm,same.2⟩⟩,
      fun held => ⟨fun same => held.2 ⟨same.1.symm,same.2⟩,held.1⟩⟩
  | removeSubscriber c' => simp [subscribedAfter,covers,eq_comm]
  | removeSession sessionId => simp [subscribedAfter,covers]
  | timerFires l => simp [subscribedAfter,covers]
  | readSettles l outcome now => simp [subscribedAfter,covers]

theorem membersFollow (events : List Event) : ∃ subscribed : Finset (Nat × TopicKey),
    (∀ c key, (run step .create events).Holds c key ↔ (c,key) ∈ subscribed) ∧
      ∀ c key, (c,key) ∈ subscribed ↔ Subscribed events c key := by
  induction events using List.reverseRecOn with
  | nil => exact ⟨∅,by simp [ReadingScheduler.Holds,ReadingScheduler.create],by simp [Subscribed]⟩
  | append_singleton events e ih =>
    obtain ⟨subscribed,holds,member⟩ := ih
    have keep (s : ReadingScheduler) (e : Event) (sound : s.Sound) : (step s e).Sound := stepSound sound e
    have sound : (run step .create events).Sound := runKeeps keep events ReadingScheduler.soundCreate
    refine ⟨subscribedAfter subscribed e,fun c key => ?_,fun c key => ?_⟩
    · rw [runAppend]
      exact holdsStep sound holds e c key
    · rw [subscribedAfterIff,subscribedSnoc,member]

@[simp] theorem clearTimer (t : Timed) (l : Nat) : (clearInterval t l).timer = t.timer := by
  unfold clearInterval
  split <;> rfl

theorem clearOthers (t : Timed) (l i l' : Nat) :
    (clearInterval t l).interval i = some l' ↔ t.interval i = some l' ∧ t.timer l ≠ some i := by
  unfold clearInterval
  split
  · rename_i none_
    simp [none_]
  · rename_i j kept
    by_cases this : i = j
    · subst this
      simp [kept]
    · simp [kept,this,Ne.symm this]

theorem clearAll (loops : List Nat) (t : Timed) :
    (loops.foldl clearInterval t).timer = t.timer ∧ ∀ i l',
      (loops.foldl clearInterval t).interval i = some l' ↔
        t.interval i = some l' ∧ ∀ l ∈ loops, t.timer l ≠ some i := by
  induction loops generalizing t with
  | nil => simp
  | cons l rest ih =>
    obtain ⟨timer,interval⟩ := ih (clearInterval t l)
    rw [List.foldl_cons]
    refine ⟨timer.trans (clearTimer t l),fun i l' => ?_⟩
    rw [interval,clearOthers,clearTimer,List.forall_mem_cons,and_assoc]

theorem clearNext (loops : List Nat) (t : Timed) :
    (loops.foldl clearInterval t).nextInterval = t.nextInterval := by
  induction loops generalizing t with
  | nil => rfl
  | cons l rest ih =>
    rw [List.foldl_cons,ih,clearInterval]
    split <;> rfl

/- A loop in the map runs on the interval that it keeps, and no other interval is active. -/
structure Kept (t : Timed) : Prop where
  sound : t.scheduler.Sound
  runs : ∀ key l, t.scheduler.loops key = some l → ∃ i, t.timer l = some i ∧ t.interval i = some l
  owned : ∀ i l, t.interval i = some l → t.timer l = some i ∧ ∃ key, t.scheduler.loops key = some l
  fresh : ∀ i, t.nextInterval ≤ i → t.interval i = none
  unused : ∀ l, t.scheduler.nextLoop ≤ l → t.timer l = none

theorem startKept : Kept start :=
  ⟨ReadingScheduler.soundCreate,by simp [start,ReadingScheduler.create],by simp [start],by simp [start],
    by simp [start]⟩

theorem stoppedIff {s : ReadingScheduler} (sound : s.Sound) (e : Event) {key l}
    (under : s.loops key = some l) : l ∈ stopped s e ↔ stops s e l := by
  rw [stopped,List.mem_filter,List.mem_range]
  exact and_iff_right (sound.keyed key l under).2

theorem stoppedListed {s : ReadingScheduler} {e : Event} {l : Nat} (gone : l ∈ stopped s e) :
    stops s e l = true ∧ ∃ key, s.loops key = some l := by
  have stops := (List.mem_filter.mp gone).2
  refine ⟨stops,?_⟩
  cases e with
  | unsubscribe sessionId topic c => exact ⟨_,(of_decide_eq_true stops).1⟩
  | removeSubscriber c => exact ⟨_,(of_decide_eq_true stops).1⟩
  | removeSession sessionId => exact ⟨_,(of_decide_eq_true stops).1⟩
  | subscribe | timerFires | readSettles => cases stops

theorem loopsAfter {s : ReadingScheduler} (sound : s.Sound) {e : Event}
    (other : ∀ sessionId topic c, e ≠ .subscribe sessionId topic c) :
    (step s e).nextLoop = s.nextLoop ∧ ∀ key l,
      (step s e).loops key = some l ↔ s.loops key = some l ∧ stops s e l = false := by
  unfold step
  cases e with
  | subscribe sessionId topic c => exact absurd rfl (other sessionId topic c)
  | unsubscribe sessionId topic c =>
    simp only [handle,ReadingScheduler.unsubscribe]
    split
    · rename_i free
      simp [stops,free]
    · rename_i l under
      simp only [ReadingScheduler.setLoopSame]
      have only (key j) (there : s.loops key = some j) :
          s.loops ⟨sessionId,.reading topic⟩ = some j ↔ j = l := by
        rw [under,Option.some.injEq,eq_comm]
      split
      · rename_i empty
        have shrinks := ReadingScheduler.shrinksStop sound under
          (f := fun loop => { loop with subscribers := loop.subscribers.erase c }) rfl
        refine ⟨shrinks.next,fun key j => (shrinks.loops key j).trans (and_congr_right fun there => ?_)⟩
        simp only [stops,only key j there,decide_eq_false_iff_not,not_and]
        exact ⟨fun other same => absurd same other,fun stays same => stays same (same ▸ empty)⟩
      · rename_i left
        refine ⟨rfl,fun key j => (iff_self_and.mpr fun there => ?_)⟩
        simp only [stops,only key j there,decide_eq_false_iff_not,not_and]
        rintro rfl
        exact left
  | removeSubscriber c =>
    have shrinks := ReadingScheduler.shrinksSubscriber sound c
    refine ⟨shrinks.next,fun key l => (shrinks.loops key l).trans (and_congr_right fun under => ?_)⟩
    have own := (sound.keyed key l under).1
    simp [stops,own,under]
  | removeSession sessionId =>
    have shrinks := ReadingScheduler.shrinksSession sound sessionId
    refine ⟨shrinks.next,fun key l => (shrinks.loops key l).trans (and_congr_right fun under => ?_)⟩
    have own := (sound.keyed key l under).1
    simp [stops,own,under]
  | timerFires l =>
    simp only [handle,stops,and_true]
    split
    · obtain ⟨f,-,same⟩ := ReadingScheduler.tickNotes s l
      simp [same]
    · simp
  | readSettles l outcome now =>
    simp only [handle,stops,and_true]
    split
    · obtain ⟨f,-,same⟩ := ReadingScheduler.finishTickNotes s l outcome now
      simp [same]
    · simp

theorem keptElsewhere {t : Timed} (kept : Kept t) {e : Event}
    (other : ∀ sessionId topic c, e ≠ .subscribe sessionId topic c) : Kept (timedStep t e) := by
  obtain ⟨next,loops⟩ := loopsAfter kept.sound other
  obtain ⟨timer,interval⟩ := clearAll (stopped t.scheduler e) t
  have whole : timedStep t e =
      { (stopped t.scheduler e).foldl clearInterval t with scheduler := step t.scheduler e } := by
    cases e with
    | subscribe sessionId topic c => exact absurd rfl (other sessionId topic c)
    | _ => rfl
  rw [whole]
  refine ⟨stepSound kept.sound e,?_,?_,?_,?_⟩
  · intro key l under
    obtain ⟨before,stays⟩ := (loops key l).mp under
    obtain ⟨i,keeps,active⟩ := kept.runs key l before
    refine ⟨i,timer ▸ keeps,(interval i l).mpr ⟨active,fun l' gone same => ?_⟩⟩
    -- a loop that is stopped was in the map, so the interval it keeps ticks it and no other
    obtain ⟨stops,key',under'⟩ := stoppedListed gone
    obtain ⟨i',keeps',active'⟩ := kept.runs key' l' under'
    obtain rfl := Option.some.inj (keeps'.symm.trans same)
    obtain rfl := Option.some.inj (active'.symm.trans active)
    simp [stays] at stops
  · intro i l active
    obtain ⟨before,spared⟩ := (interval i l).mp active
    obtain ⟨keeps,key,under⟩ := kept.owned i l before
    refine ⟨timer ▸ keeps,key,(loops key l).mpr ⟨under,?_⟩⟩
    by_contra stops
    have gone := (stoppedIff kept.sound e under).mpr (by simpa using stops)
    exact spared l gone keeps
  · intro i beyond
    have before := kept.fresh i (clearNext (stopped t.scheduler e) t ▸ beyond)
    refine Option.eq_none_iff_forall_ne_some.mpr fun l active => ?_
    have still := ((interval i l).mp active).1
    simp [before] at still
  · intro l beyond
    rw [timer]
    exact kept.unused l (next ▸ beyond)

theorem noneStopped (s : ReadingScheduler) (sessionId topic c) :
    stopped s (.subscribe sessionId topic c) = [] := by
  simp [stopped,stops]

theorem keptSubscribed {t : Timed} (kept : Kept t) (sessionId : Nat) (topic : ReadingTopic) (c : Nat) :
    Kept (timedStep t (.subscribe sessionId topic c)) := by
  have sound := stepSound kept.sound (.subscribe sessionId topic c)
  simp only [timedStep,noneStopped,List.foldl_nil]
  cases under : t.scheduler.loops ⟨sessionId,.reading topic⟩ with
  | some l =>
    obtain ⟨i,keeps,-⟩ := kept.runs _ l under
    have same : step t.scheduler (.subscribe sessionId topic c) = t.scheduler.setLoop l fun loop =>
        { loop with subscribers := insert c loop.subscribers } :=
      ReadingScheduler.subscribeOld kept.sound under c
    simp only [ReadingScheduler.findLoop,under,setInterval,keeps]
    rw [same] at sound ⊢
    exact ⟨sound,kept.runs,kept.owned,kept.fresh,kept.unused⟩
  | none =>
    have same : step t.scheduler (.subscribe sessionId topic c) = t.scheduler.started sessionId topic c :=
      ReadingScheduler.subscribeNew under c
    have free : t.timer t.scheduler.nextLoop = none := kept.unused _ (Nat.le_refl _)
    simp only [ReadingScheduler.findLoop,under,setInterval,free]
    rw [same] at sound ⊢
    have elsewhere {key'} (this : key' ≠ ⟨sessionId,.reading topic⟩) :
        (t.scheduler.started sessionId topic c).loops key' = t.scheduler.loops key' := by
      simp only [ReadingScheduler.started,writeOther this]
    have old (l) (running : ∃ key, t.scheduler.loops key = some l) : l ≠ t.scheduler.nextLoop := by
      obtain ⟨key,under⟩ := running
      exact Nat.ne_of_lt (kept.sound.keyed key l under).2
    have unused : t.interval t.nextInterval = none := kept.fresh _ (Nat.le_refl _)
    refine ⟨sound,?_,?_,?_,?_⟩
    · intro key' l held
      by_cases this : key' = ⟨sessionId,.reading topic⟩
      · obtain rfl : t.scheduler.nextLoop = l := by
          simpa [ReadingScheduler.started,this] using held
        exact ⟨t.nextInterval,by simp,by simp⟩
      · have before : t.scheduler.loops key' = some l := (elsewhere this).symm.trans held
        obtain ⟨i,keeps,active⟩ := kept.runs key' l before
        have taken : i ≠ t.nextInterval := fun same => by simp [same,unused] at active
        exact ⟨i,by simp [old l ⟨key',before⟩,keeps],by simp [taken,active]⟩
    · intro i l active
      by_cases this : i = t.nextInterval
      · obtain rfl : t.scheduler.nextLoop = l := by simpa [this] using active
        exact ⟨by simp [this],⟨sessionId,.reading topic⟩,by simp [ReadingScheduler.started]⟩
      · have before : t.interval i = some l := by simpa [this] using active
        obtain ⟨keeps,key',held⟩ := kept.owned i l before
        have apart : key' ≠ ⟨sessionId,.reading topic⟩ := fun same => by simp [same,under] at held
        exact ⟨by simp [old l ⟨key',held⟩,keeps],key',(elsewhere apart).trans held⟩
    · intro i beyond
      have beyond : t.nextInterval + 1 ≤ i := beyond
      simpa [show i ≠ t.nextInterval by omega] using kept.fresh i (by omega)
    · intro l beyond
      have beyond : t.scheduler.nextLoop + 1 ≤ l := beyond
      simpa [show l ≠ t.scheduler.nextLoop by omega] using kept.unused l (by omega)

theorem stepKept (t : Timed) (e : Event) (kept : Kept t) : Kept (timedStep t e) := by
  cases e with
  | subscribe sessionId topic c => exact keptSubscribed kept sessionId topic c
  | unsubscribe | removeSubscriber | removeSession | timerFires | readSettles =>
    exact keptElsewhere kept (by simp)

theorem timedScheduler (t : Timed) (events : List Event) :
    (run timedStep t events).scheduler = run step t.scheduler events := by
  have one (t : Timed) (e : Event) : (timedStep t e).scheduler = step t.scheduler e := by
    cases e with
    | subscribe sessionId topic c =>
      simp only [timedStep,setInterval]
      split <;> rfl
    | unsubscribe | removeSubscriber | removeSession | timerFires | readSettles => rfl
  induction events generalizing t with
  | nil => rfl
  | cons e rest ih => rw [runCons,ih,one,runCons]

/-- In every state that a run reaches, each loop in the map has subscribers and one active interval,
each active interval ticks a loop that is in the map under its own key, and the subscribers are
those that have not been removed since they subscribed. -/
theorem loopsTick (events : List Event) : LoopsTick events (run timedStep start events) := by
  have kept : Kept (run timedStep start events) := runKeeps stepKept events startKept
  refine ⟨fun key l under => (kept.sound.running key l under).2,?_,?_,?_⟩
  · intro key l under
    obtain ⟨i,keeps,active⟩ := kept.runs key l under
    refine ⟨i,active,fun j other => ?_⟩
    exact Option.some.inj ((kept.owned j l other).1.symm.trans keeps)
  · intro i l active
    obtain ⟨-,key,under⟩ := kept.owned i l active
    rw [(kept.sound.keyed key l under).1]
    exact under
  · intro c sessionId topic
    obtain ⟨subscribed,holds,member⟩ := membersFollow events
    rw [timedScheduler]
    exact (holds c _).trans (member c _)

end LxiWeb.ReadingTimers
