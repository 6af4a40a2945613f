import LxiWeb.ReadingDelivery

/-! What `useLiveReading` shows to subscribers of a read loop: those that were there from its first
read on, and those that come later and are sent what the loop keeps. -/
namespace LxiWeb.LateSubscribers
open EventRuns ReadingLoops ReadingDelivery

structure Live where
  data : Option String := none
  measuredAt : Option Int := none
  error : Option String := none
  deriving DecidableEq, Repr

def Live.onUpdate (payload : String) (ts : Int) (_ : Live) : Live := ⟨some payload,some ts,none⟩

def Live.onError (message : String) (live : Live) : Live := { live with error := some message }

def Live.receive (live : Live) : TopicMessage → Live
  | .readingUpdate _ _ payload measuredAt => live.onUpdate payload measuredAt
  | .readingError _ _ message _ => live.onError message
  | .deviceErrorsBatch .. | .sessionTranscriptBatch .. => live

abbrev Outcome := Except String String × Int

def lastSuccess (outcomes : List Outcome) : Option (String × Int) :=
  outcomes.reverse.findSome? fun
    | (.ok payload,now) => some (payload,now)
    | (.error _,_) => none

def lastFailure (outcomes : List Outcome) : Option (String × Int) :=
  match outcomes.getLast? with
  | some (.error message,now) => some (message,now)
  | _ => none

def latest (outcomes : List Outcome) : Live :=
  ⟨(lastSuccess outcomes).map Prod.fst,(lastSuccess outcomes).map Prod.snd,
    (lastFailure outcomes).map Prod.fst⟩

/- `outcomes` are the reads that each loop has completed, `live` what each subscriber's listener has
made of the frames for a key. -/
structure Screens where
  scheduler : ReadingScheduler
  outcomes : Nat → List Outcome
  live : Nat → TopicKey → Live

def start : Screens := ⟨.create,fun _ => [],fun _ _ => {}⟩

def completed (s : ReadingScheduler) : Event → Nat → List Outcome
  | .readSettles l outcome now, l' =>
      if l' = l ∧ 0 < (s.loop l).reads ∧ s.loops (s.loop l).key ≠ none then [(outcome,now)] else []
  | _, _ => []

def framesTo (sends : Sends) (c : Nat) (key : TopicKey) : List TopicMessage :=
  (sends.filter fun send => c ∈ send.1 ∧ messageKey send.2 = key).map Prod.snd

def derived (live : Live) (frames : List TopicMessage) : Live := frames.foldl Live.receive live

def listener (w : Screens) (e : Event) (c : Nat) (key : TopicKey) : Live :=
  match e with
  | .subscribe sessionId topic c' =>
      if c = c' ∧ key = ⟨sessionId,.reading topic⟩ ∧ w.scheduler.held c key = 0 then {} else w.live c key
  | _ => w.live c key

def screenStep (w : Screens) (e : Event) : Screens where
  scheduler := step w.scheduler e
  outcomes l := w.outcomes l ++ completed w.scheduler e l
  live c key := derived (listener w e c key) (framesTo (handle w.scheduler e).2 c key)

/- What the frames of a `subscribe` tell the new subscriber, and what the subscribers of the loop, the
first of them included, have derived from all that they were sent. -/
def JoinsAlike (w : Screens) : Event → Prop
  | .subscribe sessionId topic c =>
      ∀ l ∈ w.scheduler.loops ⟨sessionId,.reading topic⟩, w.outcomes l ≠ [] →
        derived {} (framesTo (w.scheduler.subscribe sessionId topic c).2 c ⟨sessionId,.reading topic⟩) =
          latest (w.outcomes l) ∧
        ∀ c' ∈ (w.scheduler.loop l).subscribers,
          (screenStep w (.subscribe sessionId topic c)).live c' ⟨sessionId,.reading topic⟩ =
            latest (w.outcomes l)
  | _ => True

/- Nobody subscribes to a loop that keeps an error beside an older payload; and when a read settles
whose loop another loop has replaced under the key, the two have no subscriber in common. -/
def Undisturbed (w : Screens) : Event → Prop
  | .subscribe sessionId topic _ => ∀ l ∈ w.scheduler.loops ⟨sessionId,.reading topic⟩,
      (w.scheduler.loop l).lastError = none ∨ (w.scheduler.loop l).lastPayload = none
  | .readSettles l _ _ => 0 < (w.scheduler.loop l).reads →
      ∀ l' ∈ w.scheduler.loops (w.scheduler.loop l).key, l' ≠ l →
        Disjoint (w.scheduler.loop l).subscribers (w.scheduler.loop l').subscribers
  | _ => True

instance : (w : Screens) → (e : Event) → Decidable (Undisturbed w e)
  | w, .subscribe sessionId topic _ =>
      inferInstanceAs (Decidable (∀ l ∈ w.scheduler.loops ⟨sessionId,.reading topic⟩, _ ∨ _))
  | w, .readSettles l _ _ => inferInstanceAs (Decidable (0 < (w.scheduler.loop l).reads → _))
  | _, .unsubscribe .. | _, .removeSubscriber _ | _, .removeSession _ | _, .timerFires _ => isTrue trivial

@[simp] theorem successOk (outcomes : List Outcome) (payload : String) (now : Int) :
    lastSuccess (outcomes ++ [(.ok payload,now)]) = some (payload,now) := by
  simp [lastSuccess]

@[simp] theorem successError (outcomes : List Outcome) (message : String) (now : Int) :
    lastSuccess (outcomes ++ [(.error message,now)]) = lastSuccess outcomes := by
  simp [lastSuccess]

@[simp] theorem failureOk (outcomes : List Outcome) (payload : String) (now : Int) :
    lastFailure (outcomes ++ [(.ok payload,now)]) = none := by
  simp [lastFailure]

@[simp] theorem failureError (outcomes : List Outcome) (message : String) (now : Int) :
    lastFailure (outcomes ++ [(.error message,now)]) = some (message,now) := by
  simp [lastFailure]

theorem latestSnoc (outcomes : List Outcome) (sessionId topic) (outcome : Except String String) (now : Int) :
    latest (outcomes ++ [(outcome,now)]) = (latest outcomes).receive (match outcome with
      | .ok payload => .readingUpdate sessionId topic payload now
      | .error message => .readingError sessionId topic message now) := by
  cases outcome <;> simp [latest,Live.receive,Live.onUpdate,Live.onError]

theorem replayLatest {loop : Loop} {outcomes : List Outcome} {live : Live}
    (payload : loop.lastPayload = lastSuccess outcomes) (error : loop.lastError = lastFailure outcomes)
    (calm : loop.lastError = none ∨ loop.lastPayload = none)
    (from_ : live = {} ∨ live = latest outcomes) :
    derived live (ReadingScheduler.lastKnown loop).toList = latest outcomes := by
  unfold ReadingScheduler.lastKnown
  rw [payload,error] at calm ⊢
  cases success : lastSuccess outcomes with
  | some kept =>
    obtain none_ | none_ := calm
    · simp [derived,Live.receive,Live.onUpdate,latest,success,none_]
    · simp [success] at none_
  | none =>
    cases failure : lastFailure outcomes with
    | some kept =>
      obtain rfl | rfl := from_ <;> simp [derived,Live.receive,Live.onError,latest,success,failure]
    | none =>
      obtain rfl | rfl := from_ <;> simp [derived,latest,success,failure]

@[simp] theorem framesNil (c key) : framesTo [] c key = [] := rfl

theorem framesOther {sends : Sends} {c : Nat} {key : TopicKey}
    (apart : ∀ send ∈ sends, c ∈ send.1 → messageKey send.2 ≠ key) : framesTo sends c key = [] := by
  rw [framesTo,List.filter_eq_nil_iff.mpr]
  · rfl
  · intro send member
    simpa using apart send member

theorem framesSubscribe {s : ReadingScheduler} (sound : s.Sound) {sessionId topic l}
    (under : s.loops ⟨sessionId,.reading topic⟩ = some l) (c c' key) :
    framesTo (s.subscribe sessionId topic c).2 c' key =
      if c' = c ∧ key = ⟨sessionId,.reading topic⟩ then (ReadingScheduler.lastKnown (s.loop l)).toList
      else [] := by
  split
  · rename_i here
    obtain ⟨rfl,rfl⟩ := here
    have running := (sound.running _ l under).1
    simp only [ReadingScheduler.subscribe,ReadingScheduler.findLoop,under,
      ReadingScheduler.setLoopSame,running,if_true]
    change framesTo ((ReadingScheduler.lastKnown (s.loop l)).map fun message => ({c'},message)).toList
      c' _ = _
    cases known : ReadingScheduler.lastKnown (s.loop l) with
    | none => rfl
    | some message =>
      have named := (lastKnownKey (Option.mem_def.mpr known)).trans (sound.keyed _ l under).1
      simp [framesTo,named]
  · rename_i elsewhere
    refine framesOther fun send member audience named => elsewhere ?_
    obtain ⟨only,key'⟩ := subscribeSends sound sessionId topic c send member
    exact ⟨Finset.mem_singleton.mp (only ▸ audience),named.symm.trans key'⟩

theorem framesStarted {s : ReadingScheduler} {sessionId topic}
    (free : s.loops ⟨sessionId,.reading topic⟩ = none) (c : Nat) :
    (s.subscribe sessionId topic c).2 = [] := by
  simp [ReadingScheduler.subscribe,ReadingScheduler.findLoop,free,ReadingScheduler.lastKnown]

theorem framesFinish {s : ReadingScheduler} {l : Nat} (listed : s.loops (s.loop l).key ≠ none)
    (outcome : Except String String) (now : Int) (c : Nat) (key : TopicKey) :
    framesTo (s.finishTick l outcome now).2 c key =
      if c ∈ (s.loop l).subscribers ∧ key = (s.loop l).key then [match outcome with
        | .ok payload => .readingUpdate (s.loop l).sessionId (s.loop l).topic payload now
        | .error message => .readingError (s.loop l).sessionId (s.loop l).topic message now]
      else [] := by
  have named (message : TopicMessage) (key' : messageKey message = (s.loop l).key) :
      framesTo [((s.loop l).subscribers,message)] c key =
        if c ∈ (s.loop l).subscribers ∧ key = (s.loop l).key then [message] else [] := by
    by_cases here : c ∈ (s.loop l).subscribers ∧ key = (s.loop l).key
    · rw [if_pos here]
      simp [framesTo,here,key']
    · rw [if_neg here]
      refine framesOther fun send member audience same => here ?_
      obtain rfl := List.mem_singleton.mp member
      exact ⟨audience,same.symm.trans key'⟩
  simp only [ReadingScheduler.finishTick,listed,if_false]
  cases outcome with
  | ok payload => exact named _ rfl
  | error message => exact named _ rfl

structure UpToDate (w : Screens) : Prop where
  sound : w.scheduler.Sound
  payload : ∀ l, (w.scheduler.loop l).lastPayload = lastSuccess (w.outcomes l)
  error : ∀ l, (w.scheduler.loop l).lastError = lastFailure (w.outcomes l)
  unused : ∀ l, w.scheduler.nextLoop ≤ l → w.outcomes l = [] ∧ (w.scheduler.loop l).reads = 0
  live : ∀ key l, w.scheduler.loops key = some l → ∀ c ∈ (w.scheduler.loop l).subscribers,
    w.live c key = latest (w.outcomes l)

theorem startUpToDate : UpToDate start :=
  ⟨ReadingScheduler.soundCreate,fun _ => rfl,fun _ => rfl,fun _ _ => ⟨rfl,rfl⟩,nofun⟩

/- An event that tells nobody anything: the loops keep what they have, and no loop gets a subscriber. -/
structure Silent (s s' : ReadingScheduler) : Prop where
  loops : ∀ key l, s'.loops key = some l → s.loops key = some l
  payload : ∀ l, (s'.loop l).lastPayload = (s.loop l).lastPayload
  error : ∀ l, (s'.loop l).lastError = (s.loop l).lastError
  subscribers : ∀ l, (s'.loop l).subscribers ⊆ (s.loop l).subscribers
  reads : ∀ l, 0 < (s'.loop l).reads → 0 < (s.loop l).reads ∨ l < s.nextLoop
  next : s'.nextLoop = s.nextLoop

theorem setLoopAll (P : Nat → Loop → Loop → Prop) {s : ReadingScheduler} {l : Nat} {f : Loop → Loop}
    (here : P l (f (s.loop l)) (s.loop l)) (same : ∀ j loop, P j loop loop) (j : Nat) :
    P j ((s.setLoop l f).loop j) (s.loop j) := by
  by_cases this : j = l
  · subst this
    rwa [ReadingScheduler.setLoopSame]
  · rw [ReadingScheduler.setLoopOther s this]
    exact same j _

theorem silentSetLoop {s : ReadingScheduler} {l : Nat} {f : Loop → Loop}
    (payload : (f (s.loop l)).lastPayload = (s.loop l).lastPayload)
    (error : (f (s.loop l)).lastError = (s.loop l).lastError)
    (subscribers : (f (s.loop l)).subscribers ⊆ (s.loop l).subscribers)
    (reads : 0 < (f (s.loop l)).reads → 0 < (s.loop l).reads ∨ l < s.nextLoop) :
    Silent s (s.setLoop l f) where
  loops _ _ := id
  payload := setLoopAll (fun _ after before => after.lastPayload = before.lastPayload) payload fun _ _ => rfl
  error := setLoopAll (fun _ after before => after.lastError = before.lastError) error fun _ _ => rfl
  subscribers := setLoopAll (fun _ after before => after.subscribers ⊆ before.subscribers) subscribers
    fun _ _ => Finset.Subset.refl _
  reads := setLoopAll (fun j after before => 0 < after.reads → 0 < before.reads ∨ j < s.nextLoop) reads
    fun _ _ => .inl
  next := rfl

theorem Silent.refl (s : ReadingScheduler) : Silent s s :=
  ⟨fun _ _ => id,fun _ => rfl,fun _ => rfl,fun _ => Finset.Subset.refl _,fun _ => .inl,rfl⟩

theorem silentUnsubscribe {s : ReadingScheduler} (sound : s.Sound) (sessionId topic c) :
    Silent s (s.unsubscribe sessionId topic c) := by
  have quiet := quietUnsubscribe sound sessionId topic c
  unfold ReadingScheduler.unsubscribe at quiet ⊢
  split
  · exact .refl s
  · rename_i l under
    have shrunk : Silent s (s.setLoop l fun loop =>
        { loop with subscribers := loop.subscribers.erase c }) :=
      silentSetLoop rfl rfl (Finset.erase_subset _ _) .inl
    simp only [under,ReadingScheduler.setLoopSame] at quiet ⊢
    split
    · rename_i empty
      rw [if_pos empty] at quiet
      let s' := s.setLoop l fun loop => { loop with subscribers := loop.subscribers.erase c }
      have idle : Silent s' (s'.setLoop l fun loop => { loop with timer := false }) :=
        silentSetLoop rfl rfl (Finset.Subset.refl _) .inl
      exact ⟨quiet.loops,fun j => (idle.payload j).trans (shrunk.payload j),
        fun j => (idle.error j).trans (shrunk.error j),
        fun j => (idle.subscribers j).trans (shrunk.subscribers j),
        fun j flying => .inl (quiet.reading j _ ⟨flying,rfl⟩).1,rfl⟩
    · exact shrunk

theorem silentRemoved {s s' : ReadingScheduler} {e : Event} (quiet : Quiet s s') (grows : Grows s s' e)
    (told : ∀ sessionId topic c, e ≠ .subscribe sessionId topic c)
    (cache : ∀ l, (s'.loop l).lastPayload = (s.loop l).lastPayload ∧
      (s'.loop l).lastError = (s.loop l).lastError) : Silent s s' where
  loops := quiet.loops
  payload l := (cache l).1
  error l := (cache l).2
  subscribers l c member := by
    rcases grows l c member with ⟨old,-⟩ | ⟨sessionId,topic,same,-⟩
    · exact old
    · exact absurd same (told sessionId topic c)
  reads l flying := .inl (quiet.reading l _ ⟨flying,rfl⟩).1
  next := quiet.next

theorem silentStep {s : ReadingScheduler} (sound : s.Sound) {e : Event}
    (told : ∀ sessionId topic c, e ≠ .subscribe sessionId topic c)
    (settled : ∀ l outcome now, e ≠ .readSettles l outcome now) :
    Silent s (step s e) ∧ (handle s e).2 = [] := by
  unfold step
  cases e with
  | subscribe sessionId topic c => exact absurd rfl (told sessionId topic c)
  | readSettles l outcome now => exact absurd rfl (settled l outcome now)
  | unsubscribe sessionId topic c => exact ⟨silentUnsubscribe sound sessionId topic c,rfl⟩
  | removeSubscriber c =>
    refine ⟨silentRemoved (quietRemoveSubscriber sound c) (stepGrows sound (.removeSubscriber c))
      (by simp) fun l => ?_,rfl⟩
    simp only [handle,ReadingScheduler.removeSubscriber]
    split <;> exact ⟨rfl,rfl⟩
  | removeSession sessionId =>
    refine ⟨silentRemoved (quietRemoveSession sound sessionId) (stepGrows sound (.removeSession sessionId))
      (by simp) fun l => ?_,rfl⟩
    simp only [handle,ReadingScheduler.removeSession]
    split <;> exact ⟨rfl,rfl⟩
  | timerFires l =>
    simp only [handle]
    split
    · rename_i runs
      refine ⟨?_,rfl⟩
      have known := (sound.keyed _ l (sound.live l runs)).2
      simp only [ReadingScheduler.tick]
      split
      · exact .refl s
      · split
        · exact .refl s
        · exact silentSetLoop rfl rfl (Finset.Subset.refl _) fun _ => .inr known
    · exact ⟨.refl s,rfl⟩

theorem silentUpToDate {w : Screens} (current : UpToDate w) {e : Event}
    (silent : Silent w.scheduler (step w.scheduler e)) (nothing : (handle w.scheduler e).2 = [])
    (unread : ∀ l, completed w.scheduler e l = [])
    (listens : ∀ c key, listener w e c key = w.live c key) : UpToDate (screenStep w e) := by
  have outcomes (l) : (screenStep w e).outcomes l = w.outcomes l := by
    simp only [screenStep,unread,List.append_nil]
  have live (c key) : (screenStep w e).live c key = w.live c key := by
    simp only [screenStep,nothing,framesNil,derived,listens,List.foldl_nil]
  refine ⟨stepSound current.sound e,?_,?_,?_,?_⟩
  · intro l
    rw [outcomes]
    exact (silent.payload l).trans (current.payload l)
  · intro l
    rw [outcomes]
    exact (silent.error l).trans (current.error l)
  · intro l beyond
    have beyond : w.scheduler.nextLoop ≤ l := silent.next ▸ beyond
    obtain ⟨none_,idle⟩ := current.unused l beyond
    refine ⟨(outcomes l).trans none_,?_⟩
    by_contra flying
    rcases silent.reads l (Nat.pos_of_ne_zero flying) with before | known
    · exact absurd idle before.ne'
    · exact absurd known (Nat.not_lt.mpr beyond)
  · intro key l under c member
    rw [outcomes,live]
    exact current.live key l (silent.loops key l under) c (silent.subscribers l member)

theorem listenerJoining {w : Screens} (current : UpToDate w) {sessionId topic l}
    (under : w.scheduler.loops ⟨sessionId,.reading topic⟩ = some l) (c : Nat) :
    let live := listener w (.subscribe sessionId topic c) c ⟨sessionId,.reading topic⟩
    live = {} ∨ live = latest (w.outcomes l) := by
  by_cases new : w.scheduler.held c ⟨sessionId,.reading topic⟩ = 0
  · left
    simp [listener,new]
  · right
    have member : c ∈ (w.scheduler.loop l).subscribers := by
      by_contra out
      exact new (by simp [ReadingScheduler.held,under,out])
    simpa [listener,new] using current.live _ l under c member

theorem joinRunning {w : Screens} (current : UpToDate w) {sessionId topic c l}
    (calm : Undisturbed w (.subscribe sessionId topic c))
    (under : w.scheduler.loops ⟨sessionId,.reading topic⟩ = some l) :
    UpToDate (screenStep w (.subscribe sessionId topic c)) := by
  have sound := stepSound current.sound (.subscribe sessionId topic c)
  have outcomes (l) : (screenStep w (.subscribe sessionId topic c)).outcomes l = w.outcomes l :=
    List.append_nil _
  have same : step w.scheduler (.subscribe sessionId topic c) = w.scheduler.setLoop l fun loop =>
      { loop with subscribers := insert c loop.subscribers } :=
    ReadingScheduler.subscribeOld current.sound under c
  have kept (j) : ((step w.scheduler (.subscribe sessionId topic c)).loop j).lastPayload =
        (w.scheduler.loop j).lastPayload ∧
      ((step w.scheduler (.subscribe sessionId topic c)).loop j).lastError =
        (w.scheduler.loop j).lastError ∧
      ((step w.scheduler (.subscribe sessionId topic c)).loop j).reads =
        (w.scheduler.loop j).reads := by
    rw [same]
    exact setLoopAll (fun _ after before => after.lastPayload = before.lastPayload ∧
      after.lastError = before.lastError ∧ after.reads = before.reads) ⟨rfl,rfl,rfl⟩
      (fun _ _ => ⟨rfl,rfl,rfl⟩) j
  refine ⟨sound,?_,?_,?_,?_⟩
  · intro j
    rw [outcomes]
    exact (kept j).1.trans (current.payload j)
  · intro j
    rw [outcomes]
    exact (kept j).2.1.trans (current.error j)
  · intro j beyond
    have beyond : w.scheduler.nextLoop ≤ j := by simpa [screenStep,same] using beyond
    obtain ⟨none_,idle⟩ := current.unused j beyond
    exact ⟨(outcomes j).trans none_,(kept j).2.2.trans idle⟩
  · intro key j held c' member
    have listed : w.scheduler.loops key = some j := by simpa [screenStep,same] using held
    rw [outcomes]
    simp only [screenStep,handle,framesSubscribe current.sound under]
    split
    · rename_i here
      obtain ⟨rfl,rfl⟩ := here
      obtain rfl := Option.some.inj (under.symm.trans listed)
      exact replayLatest (current.payload l) (current.error l) (calm l under) (listenerJoining current under c')
    · rename_i elsewhere
      have old : c' ∈ (w.scheduler.loop j).subscribers := by
        simp only [screenStep,same] at member
        by_cases this : j = l
        · subst this
          rw [ReadingScheduler.setLoopSame] at member
          refine (Finset.mem_insert.mp member).resolve_left fun joined => elsewhere ⟨joined,?_⟩
          exact current.sound.unique listed under
        · rwa [ReadingScheduler.setLoopOther _ this] at member
      have listens : listener w (.subscribe sessionId topic c) c' key = w.live c' key :=
        if_neg fun new => elsewhere ⟨new.1,new.2.1⟩
      rw [listens]
      exact current.live key j listed c' old

theorem joinStarting {w : Screens} (current : UpToDate w) {sessionId topic c}
    (free : w.scheduler.loops ⟨sessionId,.reading topic⟩ = none) :
    UpToDate (screenStep w (.subscribe sessionId topic c)) := by
  have sound := stepSound current.sound (.subscribe sessionId topic c)
  have outcomes (l) : (screenStep w (.subscribe sessionId topic c)).outcomes l = w.outcomes l :=
    List.append_nil _
  have same : (screenStep w (.subscribe sessionId topic c)).scheduler =
      w.scheduler.started sessionId topic c := ReadingScheduler.subscribeNew free c
  obtain ⟨unread,-⟩ := current.unused _ (Nat.le_refl w.scheduler.nextLoop)
  refine ⟨sound,?_,?_,?_,?_⟩
  · intro j
    rw [outcomes,same]
    by_cases this : j = w.scheduler.nextLoop
    · simp [ReadingScheduler.started,this,unread,lastSuccess]
    · simpa [ReadingScheduler.started,this] using current.payload j
  · intro j
    rw [outcomes,same]
    by_cases this : j = w.scheduler.nextLoop
    · simp [ReadingScheduler.started,this,unread,lastFailure]
    · simpa [ReadingScheduler.started,this] using current.error j
  · intro j beyond
    rw [same] at beyond ⊢
    have beyond : w.scheduler.nextLoop + 1 ≤ j := beyond
    obtain ⟨none_,idle⟩ := current.unused j (by omega)
    refine ⟨(outcomes j).trans none_,?_⟩
    simpa [ReadingScheduler.started,show j ≠ w.scheduler.nextLoop by omega] using idle
  · intro key j held c' member
    rw [outcomes]
    rw [same] at held member
    simp only [screenStep,handle,framesStarted free,framesNil,derived,List.foldl_nil]
    by_cases here : key = ⟨sessionId,.reading topic⟩
    · subst here
      obtain rfl : w.scheduler.nextLoop = j := by simpa [ReadingScheduler.started] using held
      obtain rfl : c' = c := by simpa [ReadingScheduler.started] using member
      simp [listener,ReadingScheduler.held,free,unread,latest,lastSuccess,lastFailure]
    · have held : w.scheduler.loops key = some j := by
        simpa only [ReadingScheduler.started,KeyedWrites.writeOther here] using held
      have other : j ≠ w.scheduler.nextLoop := Nat.ne_of_lt (current.sound.keyed key j held).2
      have old : c' ∈ (w.scheduler.loop j).subscribers := by
        simpa [ReadingScheduler.started,other] using member
      have listens : listener w (.subscribe sessionId topic c) c' key = w.live c' key :=
        if_neg fun new => here new.2.1
      rw [listens]
      exact current.live key j held c' old

theorem finishKeeps {s : ReadingScheduler} {l : Nat} (listed : s.loops (s.loop l).key ≠ none)
    {outcomes : List Outcome} (payload : (s.loop l).lastPayload = lastSuccess outcomes)
    (outcome : Except String String) (now : Int) :
    ((s.finishTick l outcome now).1.loop l).lastPayload = lastSuccess (outcomes ++ [(outcome,now)]) ∧
      ((s.finishTick l outcome now).1.loop l).lastError = lastFailure (outcomes ++ [(outcome,now)]) := by
  cases outcome with
  | ok kept => simp [ReadingScheduler.finishTick,listed]
  | error message => simpa [ReadingScheduler.finishTick,listed] using payload

theorem settleTold {w : Screens} (current : UpToDate w) {l outcome now}
    (calm : Undisturbed w (.readSettles l outcome now)) (flying : 0 < (w.scheduler.loop l).reads)
    (listed : w.scheduler.loops (w.scheduler.loop l).key ≠ none) :
    UpToDate (screenStep w (.readSettles l outcome now)) := by
  have sound := stepSound current.sound (.readSettles l outcome now)
  obtain ⟨f,notes,same⟩ := ReadingScheduler.finishTickNotes w.scheduler l outcome now
  have next : (screenStep w (.readSettles l outcome now)).scheduler =
      (w.scheduler.finishTick l outcome now).1 := by
    simp [screenStep,step,handle,flying]
  have own : (screenStep w (.readSettles l outcome now)).outcomes l = w.outcomes l ++ [(outcome,now)] := by
    simp [screenStep,completed,flying,listed]
  have others (j) (this : j ≠ l) :
      (screenStep w (.readSettles l outcome now)).outcomes j = w.outcomes j := by
    simp [screenStep,completed,this]
  have elsewhere (j) (this : j ≠ l) :
      (w.scheduler.finishTick l outcome now).1.loop j = w.scheduler.loop j := by
    rw [same,ReadingScheduler.setLoopOther _ this]
  have known : l < w.scheduler.nextLoop := by
    by_contra beyond
    exact absurd (current.unused l (Nat.not_lt.mp beyond)).2 flying.ne'
  refine ⟨sound,?_,?_,?_,?_⟩
  · intro j
    rw [next]
    by_cases this : j = l
    · subst this
      rw [own]
      exact (finishKeeps listed (current.payload j) outcome now).1
    · rw [others j this,elsewhere j this]
      exact current.payload j
  · intro j
    rw [next]
    by_cases this : j = l
    · subst this
      rw [own]
      exact (finishKeeps listed (current.payload j) outcome now).2
    · rw [others j this,elsewhere j this]
      exact current.error j
  · intro j beyond
    have beyond : w.scheduler.nextLoop ≤ j := by simpa [next,same] using beyond
    have this : j ≠ l := fun here => absurd known (Nat.not_lt.mpr (here ▸ beyond))
    rw [others j this,next,elsewhere j this]
    exact current.unused j beyond
  · intro key j held c member
    rw [next,same,ReadingScheduler.setLoopLoops] at held
    have old : c ∈ (w.scheduler.loop j).subscribers := by
      rw [next,same] at member
      by_cases this : j = l
      · subst this
        rwa [ReadingScheduler.setLoopSame,(notes _).2.2] at member
      · rwa [ReadingScheduler.setLoopOther _ this] at member
    have shown := current.live key j held c old
    simp only [screenStep,handle,flying,if_true,framesFinish listed,listener]
    by_cases this : j = l
    · subst this
      have named := (current.sound.keyed key j held).1
      rw [if_pos ⟨old,named.symm⟩,shown]
      have told := latestSnoc (w.outcomes j) (w.scheduler.loop j).sessionId
        (w.scheduler.loop j).topic outcome now
      simpa [completed,flying,listed,derived] using told.symm
    · have apart : ¬ (c ∈ (w.scheduler.loop l).subscribers ∧ key = (w.scheduler.loop l).key) := by
        rintro ⟨inside,rfl⟩
        exact Finset.disjoint_left.mp (calm flying j held this) inside old
      rw [if_neg apart,shown]
      simp [completed,this,derived]

theorem settleUpToDate {w : Screens} (current : UpToDate w) (l outcome now)
    (calm : Undisturbed w (.readSettles l outcome now)) :
    UpToDate (screenStep w (.readSettles l outcome now)) := by
  by_cases told : 0 < (w.scheduler.loop l).reads ∧ w.scheduler.loops (w.scheduler.loop l).key ≠ none
  · exact settleTold current calm told.1 told.2
  have unread (j) : completed w.scheduler (.readSettles l outcome now) j = [] :=
    if_neg fun heard => told heard.2
  have quiet : Silent w.scheduler (step w.scheduler (.readSettles l outcome now)) ∧
      (handle w.scheduler (.readSettles l outcome now)).2 = [] := by
    simp only [step,handle]
    split
    · rename_i flying
      have gone : w.scheduler.loops (w.scheduler.loop l).key = none :=
        not_not.mp fun listed => told ⟨flying,listed⟩
      simp only [ReadingScheduler.finishTick,gone,if_true]
      exact ⟨silentSetLoop rfl rfl (Finset.Subset.refl _) fun _ => .inl flying,trivial⟩
    · exact ⟨.refl _,rfl⟩
  exact silentUpToDate current quiet.1 quiet.2 unread fun _ _ => rfl

theorem stepUpToDate (w : Screens) (e : Event) (current : UpToDate w) (calm : Undisturbed w e) :
    UpToDate (screenStep w e) := by
  cases e with
  | subscribe sessionId topic c =>
    cases under : w.scheduler.loops ⟨sessionId,.reading topic⟩ with
    | some l => exact joinRunning current calm under
    | none => exact joinStarting current under
  | readSettles l outcome now => exact settleUpToDate current l outcome now calm
  | unsubscribe | removeSubscriber | removeSession | timerFires =>
    refine silentUpToDate current ?_ ?_ (fun _ => rfl) fun _ _ => rfl
    · exact (silentStep current.sound (by simp) (by simp)).1
    · exact (silentStep current.sound (by simp) (by simp)).2

theorem stepAlike (w : Screens) (e : Event) (current : UpToDate w) (calm : Undisturbed w e) :
    JoinsAlike w e := by
  cases e with
  | subscribe sessionId topic c =>
    intro l under _
    have after := stepUpToDate w _ current calm
    have same : (screenStep w (.subscribe sessionId topic c)).scheduler = w.scheduler.setLoop l
        fun loop => { loop with subscribers := insert c loop.subscribers } :=
      ReadingScheduler.subscribeOld current.sound under c
    constructor
    · rw [framesSubscribe current.sound under,if_pos ⟨rfl,rfl⟩]
      exact replayLatest (current.payload l) (current.error l) (calm l under) (.inl rfl)
    · intro c' member
      have held : (screenStep w (.subscribe sessionId topic c)).scheduler.loops
          ⟨sessionId,.reading topic⟩ = some l := by rw [same]; exact under
      have shown := after.live _ l held c' (by simp [same,member])
      rw [shown]
      exact congrArg latest (List.append_nil _)
  | unsubscribe | removeSubscriber | removeSession | timerFires | readSettles => trivial

/-- In every run in which nobody joins a loop between an error and the success after it, and no
replaced loop reaches the subscribers of the one in its place, whoever joins is shown what the
subscribers see that were there from the first read on. -/
theorem joinsAlike (events : List Event) (calm : Along screenStep Undisturbed start events) :
    Along screenStep JoinsAlike start events :=
  alongKept stepUpToDate stepAlike startUpToDate calm

/- Two browsers watch a supply whose second read fails, and its third one comes. -/
theorem joinsAlikeTwo : Along screenStep JoinsAlike start
    [.subscribe 0 .psuChannels 1,.readSettles 0 (.ok "5 V") 10,.subscribe 0 .psuChannels 2,.timerFires 0,
      .readSettles 0 (.error "timed out") 20,.timerFires 0,.readSettles 0 (.ok "6 V") 30,
      .subscribe 0 .psuChannels 3] := joinsAlike _ (by decide)

def joinAfterError : List Event :=
  [.subscribe 0 .psuChannels 1,.readSettles 0 (.ok "5 V") 10,.timerFires 0,
    .readSettles 0 (.error "timed out") 20,.subscribe 0 .psuChannels 2]

/- The browser that joins after the error is shown the old reading and no error. -/
theorem errorNotReplayed : ¬ Along screenStep JoinsAlike start joinAfterError := by
  intro alike
  have told := (alike.2.2.2.2.1 0 rfl (by decide)).1
  exact absurd (congrArg Live.error told) (by decide)

end LxiWeb.LateSubscribers
