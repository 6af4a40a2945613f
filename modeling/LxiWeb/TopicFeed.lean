import LxiWeb.ObservabilityDelivery

/-! One page's listeners of one observability topic, from the browser's store to the scheduler and
back, over a socket that stays open: frames arrive both ways, late but in order. -/
namespace LxiWeb.TopicFeed
open KeyedWrites ReadingLoops ObservabilityFeeds ObservabilityDelivery
open ObservabilityScheduler (keyOf)

inductive Wish where
  | subscribe | unsubscribe
  deriving DecidableEq, Repr

/- `up` and `down` are the frames on their way that name the topic, `subscribed` says whether it is
among the socket's `subscriptions` on the server. -/
structure Feed where
  scheduler : ObservabilityScheduler
  subscribed : Bool
  up : List Wish
  down : List TopicMessage
  listeners : Finset Nat
  subscribedOnServer : Bool

def create : Feed := ⟨.create,false,[],[],∅,false⟩

def subscribeTopic (f : Feed) (listener : Nat) : Feed :=
  let f := { f with listeners := insert listener f.listeners }
  if f.subscribedOnServer then f
  else { f with up := f.up ++ [.subscribe], subscribedOnServer := true }

def unsubscribe (f : Feed) (listener : Nat) : Feed :=
  if f.listeners = ∅ then f
  else
    let f := { f with listeners := f.listeners.erase listener }
    if f.listeners ≠ ∅ then f
    else if f.subscribedOnServer then
      { f with up := f.up ++ [.unsubscribe], subscribedOnServer := false }
    else f

section
variable (sessionId : Nat) (topic : ObservabilityTopic) (c : Nat)

def receive (f : Feed) : Feed :=
  match f.up with
  | [] => f
  | .subscribe :: rest =>
      if f.subscribed then { f with up := rest }
      else { f with
        up := rest, subscribed := true, scheduler := f.scheduler.subscribe sessionId topic c }
  | .unsubscribe :: rest =>
      if f.subscribed then { f with
        up := rest, subscribed := false, scheduler := f.scheduler.unsubscribe sessionId topic c }
      else { f with up := rest }

def serve (f : Feed) (e : Event) : Feed :=
  let (scheduler,sends) := handle f.scheduler e
  let sent := sends.filter fun send => c ∈ send.1 ∧ messageKey send.2 = keyOf sessionId topic
  { f with scheduler, down := f.down ++ sent.map (·.2) }

def Foreign (e : Event) : Prop :=
  ¬ Removes c (keyOf sessionId topic) e ∧ e ≠ .subscribe sessionId topic c

instance (e) : Decidable (Foreign sessionId topic c e) :=
  inferInstanceAs (Decidable (_ ∧ _))

def coming (f : Feed) : List Row := f.down.flatMap rows ++ pending f.scheduler sessionId topic

def Misses (f : Feed) : Event → Prop
  | .timerFires k t _ =>
      (k = sessionId ∧ t = topic) ∧ f.subscribed = false ∧ Armed f.scheduler sessionId topic
  | _ => False

instance (s : ObservabilityScheduler) (k t) : Decidable (Armed s k t) :=
  decidable_of_iff ((s.loops t (keyOf k t)).any (·.timer) = true) (by simp [Armed,Option.any_eq_true])

instance (f : Feed) : (e : Event) → Decidable (Misses sessionId topic f e)
  | .timerFires k t _ => inferInstanceAs (Decidable ((k = sessionId ∧ t = topic) ∧ _ ∧ _))
  | .deviceErrors .. | .transcript .. | .subscribe .. | .unsubscribe .. | .removeSubscriber ..
  | .removeSession .. => isFalse id

structure Tuned (f : Feed) : Prop where
  ready : Ready f.scheduler
  holds : f.subscribed = true ↔ f.scheduler.Holds c topic (keyOf sessionId topic)
  wanted : f.subscribedOnServer = true ↔ f.listeners ≠ ∅
  agreed : f.up.foldl (fun _ wish => decide (wish = .subscribe)) f.subscribed = f.subscribedOnServer
  addressed : ∀ message ∈ f.down, messageKey message = keyOf sessionId topic

end

variable {sessionId : Nat} {topic : ObservabilityTopic} {c : Nat}

@[simp] theorem subscribeListeners (f : Feed) (listener : Nat) :
    (subscribeTopic f listener).listeners = insert listener f.listeners := by
  unfold subscribeTopic
  dsimp only
  split <;> rfl

@[simp] theorem unsubscribeListeners (f : Feed) (listener : Nat) :
    (unsubscribe f listener).listeners = f.listeners.erase listener := by
  unfold unsubscribe
  split
  · rename_i none_
    rw [none_,Finset.erase_empty]
  · dsimp only
    split
    · rfl
    · split <;> rfl

@[simp] theorem receiveListeners (f : Feed) : (receive sessionId topic c f).listeners = f.listeners := by
  unfold receive
  split
  · rfl
  · split <;> rfl
  · split <;> rfl

theorem tunedCreate : Tuned sessionId topic c create where
  ready := readyCreate
  holds := by simp [create,ObservabilityScheduler.Holds,ObservabilityScheduler.create]
  wanted := by simp [create]
  agreed := rfl
  addressed := by simp [create]

theorem tunedSubscribe {f : Feed} (tuned : Tuned sessionId topic c f) (listener : Nat) :
    Tuned sessionId topic c (subscribeTopic f listener) := by
  unfold subscribeTopic
  dsimp only
  split
  · rename_i known
    exact { tuned with wanted := by simp [known] }
  · exact { tuned with wanted := by simp, agreed := by simp }

theorem tunedUnsubscribe {f : Feed} (tuned : Tuned sessionId topic c f) (listener : Nat) :
    Tuned sessionId topic c (unsubscribe f listener) := by
  unfold unsubscribe
  split
  · exact tuned
  · rename_i some_
    have known : f.subscribedOnServer = true := tuned.wanted.mpr some_
    dsimp only
    rw [if_pos known]
    split
    · rename_i left
      exact { tuned with wanted := by simpa [known] using left }
    · rename_i none_
      exact { tuned with wanted := by simpa using none_, agreed := by simp }

theorem tunedReceive {f : Feed} (tuned : Tuned sessionId topic c f) :
    Tuned sessionId topic c (receive sessionId topic c f) := by
  have agreed := tuned.agreed
  unfold receive
  split
  · exact tuned
  · rename_i rest first
    rw [first,List.foldl_cons] at agreed
    split
    · rename_i known
      exact { tuned with agreed := by rw [known]; exact agreed }
    · exact { tuned with
        ready := readySubscribe tuned.ready ..
        holds := by simp [ObservabilityScheduler.holdsSubscribe]
        agreed := agreed }
  · rename_i rest first
    rw [first,List.foldl_cons] at agreed
    split
    · exact { tuned with
        ready := readyUnsubscribe tuned.ready ..
        holds := by simp [ObservabilityScheduler.holdsUnsubscribe]
        agreed := agreed }
    · rename_i known
      exact { tuned with agreed := by rw [Bool.eq_false_iff.mpr known]; exact agreed }

theorem foreignHolds {s : ObservabilityScheduler} (sound : s.Sound) {e : Event}
    (foreign : Foreign sessionId topic c e) :
    (step s e).Holds c topic (keyOf sessionId topic) ↔ s.Holds c topic (keyOf sessionId topic) := by
  refine ⟨?_,fun holds => staysSubscribed sound holds foreign.1⟩
  unfold step handle
  cases e with
  | deviceErrors k entries => exact ((ObservabilityScheduler.alikeDeviceErrors s k entries).holds c topic _).mp
  | transcript k entries => exact ((ObservabilityScheduler.alikeTranscript s k entries).holds c topic _).mp
  | subscribe k t c' =>
    intro holds
    rcases (ObservabilityScheduler.holdsSubscribe ..).mp holds with old | ⟨rfl,rfl,same⟩
    · exact old
    · obtain ⟨rfl,_⟩ := keyOfInj.mp same
      exact absurd rfl foreign.2
  | unsubscribe k t c' => exact fun holds => ((ObservabilityScheduler.holdsUnsubscribe ..).mp holds).1
  | removeSubscriber c' => exact fun holds => ((ObservabilityScheduler.holdsRemoveSubscriber ..).mp holds).1
  | removeSession k => exact fun holds => ((ObservabilityScheduler.holdsRemoveSession sound ..).mp holds).1
  | timerFires k t now => exact ((ObservabilityScheduler.alikeFlush s k t now).holds c topic _).mp

theorem tunedServe {f : Feed} (tuned : Tuned sessionId topic c f) {e : Event}
    (foreign : Foreign sessionId topic c e) : Tuned sessionId topic c (serve sessionId topic c f e) where
  ready := stepReady f.scheduler e tuned.ready
  holds := tuned.holds.trans (foreignHolds tuned.ready.sound foreign).symm
  wanted := tuned.wanted
  agreed := tuned.agreed
  addressed := by
    intro message member
    rcases List.mem_append.mp member with old | new
    · exact tuned.addressed message old
    · obtain ⟨send,sent,rfl⟩ := List.mem_map.mp new
      exact (by simpa using (List.mem_filter.mp sent).2 : _ ∧ _).2

theorem batchMessage {message : TopicMessage} (key : messageKey message = keyOf sessionId topic) :
    match topic with
    | .deviceErrors => ∃ entries at_, message = .deviceErrorsBatch sessionId entries at_
    | .sessionTranscript => ∃ entries at_, message = .sessionTranscriptBatch sessionId entries at_ := by
  cases message with
  | deviceErrorsBatch k entries at_ =>
    cases key
    exact ⟨entries,at_,rfl⟩
  | sessionTranscriptBatch k entries at_ =>
    cases key
    exact ⟨entries,at_,rfl⟩
  | _ => simp [messageKey,keyOf] at key

theorem tunedArrives {f : Feed} (tuned : Tuned sessionId topic c f) {message rest}
    (first : f.down = message :: rest) : Tuned sessionId topic c { f with down := rest } :=
  { tuned with addressed := fun m member => tuned.addressed m (first ▸ List.mem_cons_of_mem _ member) }

@[simp] theorem comingSubscribe (f : Feed) (listener : Nat) :
    coming sessionId topic (subscribeTopic f listener) = coming sessionId topic f := by
  unfold subscribeTopic
  dsimp only
  split <;> rfl

@[simp] theorem comingUnsubscribe (f : Feed) (listener : Nat) :
    coming sessionId topic (unsubscribe f listener) = coming sessionId topic f := by
  unfold unsubscribe
  split
  · rfl
  · dsimp only
    split
    · rfl
    · split <;> rfl

@[simp] theorem comingReceive (f : Feed) :
    coming sessionId topic (receive sessionId topic c f) = coming sessionId topic f := by
  unfold receive
  split
  · rfl
  · split <;> simp [coming]
  · split <;> simp [coming]

theorem comingArrives (sessionId : Nat) (topic : ObservabilityTopic) {f : Feed} {message rest}
    (first : f.down = message :: rest) :
    coming sessionId topic f = rows message ++ coming sessionId topic { f with down := rest } := by
  simp [coming,first]

theorem sentRows (f : Feed) (e : Event) :
    (serve sessionId topic c f e).down.flatMap rows =
      f.down.flatMap rows ++ received c (keyOf sessionId topic) (handle f.scheduler e).2 := by
  simp only [serve,received,List.flatMap_append,List.flatMap_map,List.append_cancel_left_eq]
  induction (handle f.scheduler e).2 with
  | nil => rfl
  | cons send rest ih =>
    rw [List.filter_cons,List.flatMap_cons,← ih]
    by_cases mine : c ∈ send.1 ∧ messageKey send.2 = keyOf sessionId topic <;> simp [mine]

theorem comingServe {f : Feed} (tuned : Tuned sessionId topic c f) {e : Event}
    (foreign : Foreign sessionId topic c e) (hits : ¬ Misses sessionId topic f e) :
    coming sessionId topic (serve sessionId topic c f e) =
      coming sessionId topic f ++ brought (keyOf sessionId topic) e := by
  have waits : (serve sessionId topic c f e).scheduler = step f.scheduler e := rfl
  rw [coming,coming,sentRows,waits,List.append_assoc,List.append_assoc,List.append_cancel_left_eq]
  cases subscribed : f.subscribed with
  | true => exact receivedAndPending (tuned.holds.mp subscribed) foreign.1
  | false =>
    have apart : ¬ f.scheduler.Holds c topic (keyOf sessionId topic) := by
      rw [← tuned.holds,subscribed]
      exact Bool.false_ne_true
    unfold step handle
    cases e with
    | deviceErrors k entries => exact pendingDeviceErrors ..
    | transcript k entries => exact pendingTranscript ..
    | subscribe | unsubscribe | removeSubscriber => simp [received,brought]
    | removeSession k =>
      have other : sessionId ≠ k := foreign.1
      simp [received,brought,pendingRemoveSession,other]
    | timerFires k t now =>
      simp only [brought,List.append_nil]
      by_cases armed : Armed f.scheduler k t
      · have elsewhere : ¬ (k = sessionId ∧ t = topic) := by
          rintro ⟨rfl,rfl⟩
          exact hits ⟨⟨rfl,rfl⟩,subscribed,armed⟩
        have elsewhere' : ¬ (sessionId = k ∧ topic = t) := fun same => elsewhere ⟨same.1.symm,same.2.symm⟩
        obtain ⟨loop,under,timer⟩ := armed
        obtain ⟨_,left,sent⟩ := flushArmed under timer now
        rw [left,sent,if_neg elsewhere',if_neg fun same => elsewhere (keyOfInj.mp same.2),List.nil_append]
      · rw [flushIdle armed]
        rfl

theorem comingMissed {f : Feed} (tuned : Tuned sessionId topic c f) {e : Event}
    (misses : Misses sessionId topic f e) :
    coming sessionId topic (serve sessionId topic c f e) = f.down.flatMap rows := by
  cases e with
  | timerFires k t now =>
    obtain ⟨⟨rfl,rfl⟩,subscribed,loop,under,timer⟩ := misses
    have apart : c ∉ loop.subscribers := by
      intro member
      have holds := tuned.holds.mpr ⟨loop,under,member⟩
      rw [subscribed] at holds
      exact Bool.false_ne_true holds
    obtain ⟨_,left,sent⟩ := flushArmed under timer now
    have waits : pending (serve k t c f (.timerFires k t now)).scheduler k t = [] := by
      change pending (f.scheduler.flush k t now).1 k t = []
      rw [left,if_pos ⟨rfl,rfl⟩]
    rw [coming,sentRows,waits]
    simp [handle,sent,apart]
  | _ => exact absurd misses id

theorem idleComing {f : Feed} (tuned : Tuned sessionId topic c f) (listening : f.listeners ≠ ∅)
    (read : f.up = []) (arrived : f.down = []) (idle : ¬ Armed f.scheduler sessionId topic) :
    coming sessionId topic f = [] := by
  have subscribed : f.subscribed = true := by
    have agreed := tuned.agreed
    rw [read] at agreed
    exact agreed.trans (tuned.wanted.mpr listening)
  have none_ : pending f.scheduler sessionId topic = [] := by
    by_contra waiting
    exact idle (waitingArmed tuned.ready (tuned.holds.mp subscribed) waiting)
  simp [coming,arrived,none_]

end LxiWeb.TopicFeed
