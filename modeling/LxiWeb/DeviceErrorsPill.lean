import LxiWeb.TopicFeed

/-! The device error pills of one page for one session, next to the session's error ring: each loads
the ring over HTTP when it is mounted, appends the batches of the page's socket `c`, and may have
the ring cleared. Others may have it cleared too. Requests succeed, each at its own pace. -/
namespace LxiWeb.DeviceErrorsPill
open EventRuns RingBuffers ReadingLoops ObservabilityFeeds ObservabilityDelivery TopicFeed
open ObservabilityScheduler (keyOf)

inductive Fetch where
  | requested
  | served (snapshot : List DeviceErrorEntry)
  | applied
  deriving DecidableEq, Repr

def Fetch.snapshot : Fetch → Option (List DeviceErrorEntry)
  | .served snapshot => some snapshot
  | _ => none

/- Where `clearErrors` is; `busy` from the request to its answer. -/
inductive Clearing where
  | idle | requested | cleared
  deriving DecidableEq, Repr

structure Pill where
  id : Nat
  entries : List DeviceErrorEntry := []
  fetch : Fetch := .requested
  clearing : Clearing := .idle
  deriving DecidableEq, Repr

def Pill.onUpdate (pill : Pill) (batch : List DeviceErrorEntry) : Pill :=
  { pill with entries := shiftTo 200 (pill.entries ++ batch) }

def Pill.apply (pill : Pill) : TopicMessage → Pill
  | .deviceErrorsBatch _ entries _ => pill.onUpdate entries
  | _ => pill

structure World where
  feed : Feed
  ring : DeviceErrorRing
  pills : List Pill

def start (ringMax : Nat) : World := ⟨TopicFeed.create,.create ringMax,[]⟩

inductive Event where
  | drain (entries : List DeviceErrorEntry)
  | server (e : ObservabilityDelivery.Event)
  | serverReads
  | mount (i : Nat)
  | unmount (i : Nat)
  | snapshotServed (i : Nat)
  | snapshotArrives (i : Nat)
  | clearPressed (i : Nat)
  | clearServed (i : Nat)
  | clearAnswered (i : Nat)
  -- the request of another page, or of a pill that is gone
  | clearedElsewhere
  | batchArrives
  deriving DecidableEq, Repr

def onPill (i : Nat) (change : Pill → Pill) (pills : List Pill) : List Pill :=
  pills.map fun pill => if pill.id = i then change pill else pill

def served (ring : DeviceErrorRing) (pill : Pill) : Pill :=
  match pill.fetch with
  | .requested => { pill with fetch := .served ring.snapshot }
  | _ => pill

def arrived (pill : Pill) : Pill :=
  match pill.fetch with
  | .served snapshot => { pill with entries := snapshot, fetch := .applied }
  | _ => pill

def pressed (pill : Pill) : Pill :=
  if pill.clearing = .idle then { pill with clearing := .requested } else pill

def cleared (pill : Pill) : Pill :=
  if pill.clearing = .requested then { pill with clearing := .cleared } else pill

def answered (pill : Pill) : Pill :=
  if pill.clearing = .cleared then { pill with entries := [], clearing := .idle } else pill

section
variable (sessionId c : Nat)

def drain (w : World) (entries : List DeviceErrorEntry) : World :=
  if entries = [] then w
  else { w with
    ring := w.ring.pushMany entries
    feed := serve sessionId .deviceErrors c w.feed (.deviceErrors sessionId entries) }

def step (w : World) : Event → World
  | .drain entries => drain sessionId c w entries
  | .server e =>
      if Foreign sessionId .deviceErrors c e ∧ brought (keyOf sessionId .deviceErrors) e = [] then
        { w with feed := serve sessionId .deviceErrors c w.feed e }
      else w
  | .serverReads => { w with feed := receive sessionId .deviceErrors c w.feed }
  | .mount i =>
      if ∃ pill ∈ w.pills, pill.id = i then w
      else { w with feed := subscribeTopic w.feed i, pills := w.pills ++ [{ id := i }] }
  | .unmount i =>
      { w with feed := unsubscribe w.feed i, pills := w.pills.filter (·.id ≠ i) }
  | .snapshotServed i => { w with pills := onPill i (served w.ring) w.pills }
  | .snapshotArrives i => { w with pills := onPill i arrived w.pills }
  | .clearPressed i => { w with pills := onPill i pressed w.pills }
  | .clearServed i =>
      if ∃ pill ∈ w.pills, pill.id = i ∧ pill.clearing = .requested then
        { w with ring := w.ring.clear, pills := onPill i cleared w.pills }
      else w
  | .clearAnswered i => { w with pills := onPill i answered w.pills }
  | .clearedElsewhere => { w with ring := w.ring.clear }
  | .batchArrives =>
      match w.feed.down with
      | [] => w
      | message :: rest =>
          { w with feed := { w.feed with down := rest }, pills := w.pills.map (·.apply message) }

def Settled (w : World) : Prop :=
  w.feed.up = [] ∧ w.feed.down = [] ∧ ¬ Armed w.feed.scheduler sessionId .deviceErrors ∧
    ∀ pill ∈ w.pills, pill.fetch = .applied ∧ pill.clearing = .idle

def Roomy (w : World) : Event → Prop
  | .drain entries => w.ring.buf.length + entries.length ≤ w.ring.max
  | _ => True

def Follows (pill : Pill) : Prop := pill.fetch = .applied ∧ pill.clearing ≠ .cleared

instance (pill : Pill) : Decidable (Follows pill) := inferInstanceAs (Decidable (_ ∧ _))

def Completes (w : World) (entries : List DeviceErrorEntry) : Prop :=
  entries.map Row.deviceError ++ coming sessionId .deviceErrors w.feed = w.ring.buf.map Row.deviceError

instance (w : World) (entries) : Decidable (Completes sessionId w entries) :=
  inferInstanceAs (Decidable (_ = _))

/- A snapshot arrives when the batches to come go on where it ends, the answer to a clearing when they
are all the ring has got since. Nobody clears the ring under a pill that follows it, unless it
is empty. No flush with entries leaves such a pill's page out, and no batch fills it beyond 200. -/
def Calm (w : World) : Event → Prop
  | .snapshotArrives i => ∀ pill ∈ w.pills, pill.id = i → pill.clearing ≠ .cleared →
      ∀ snapshot ∈ pill.fetch.snapshot, Completes sessionId w snapshot
  | .clearAnswered i => ∀ pill ∈ w.pills, pill.id = i → pill.clearing = .cleared →
      pill.fetch = .applied → Completes sessionId w []
  | .clearServed i => ∀ pill ∈ w.pills, pill.id = i → pill.clearing = .requested →
      ∀ other ∈ w.pills, other ≠ pill → Follows other → w.ring.buf = []
  | .clearedElsewhere => ∀ pill ∈ w.pills, Follows pill → w.ring.buf = []
  | .server e => Misses sessionId .deviceErrors w.feed e → ∀ pill ∈ w.pills, Follows pill →
      pending w.feed.scheduler sessionId .deviceErrors = []
  | .batchArrives => ∀ pill ∈ w.pills, Follows pill → ∀ message ∈ w.feed.down.head?,
      pill.entries.length + (rows message).length ≤ 200
  | _ => True

end

section
variable (sessionId c : Nat)

structure Held (w : World) : Prop where
  tuned : Tuned sessionId .deviceErrors c w.feed
  listening : ∀ pill ∈ w.pills, pill.id ∈ w.feed.listeners
  whole : ∀ pill ∈ w.pills, Follows pill → Completes sessionId w pill.entries

end

variable {sessionId c : Nat}

theorem startHeld (ringMax : Nat) : Held sessionId c (start ringMax) where
  tuned := tunedCreate
  listening := by simp [start]
  whole := by simp [start]

theorem pushManyRoomy {ring : DeviceErrorRing} {entries : List DeviceErrorEntry}
    (room : ring.buf.length + entries.length ≤ ring.max) :
    (ring.pushMany entries).buf = ring.buf ++ entries := by
  obtain ⟨max,buf⟩ := ring
  simp only [DeviceErrorRing.pushMany] at room ⊢
  induction entries generalizing buf with
  | nil => simp
  | cons e rest ih =>
    rw [List.length_cons] at room
    have one : shiftTo max (buf ++ [e]) = buf ++ [e] :=
      shiftShort (by simp only [List.length_append,List.length_singleton]; omega)
    rw [List.foldl_cons,one,ih (buf ++ [e]) (by simp only [List.length_append,List.length_singleton]; omega)]
    simp

section
variable (ring : DeviceErrorRing) (pill : Pill)

theorem servedId : (served ring pill).id = pill.id := by
  unfold served
  split <;> rfl

theorem arrivedId : (arrived pill).id = pill.id := by
  unfold arrived
  split <;> rfl

theorem pressedId : (pressed pill).id = pill.id := by
  unfold pressed
  split <;> rfl

theorem clearedId : (cleared pill).id = pill.id := by
  unfold cleared
  split <;> rfl

theorem answeredId : (answered pill).id = pill.id := by
  unfold answered
  split <;> rfl

theorem servedFollows (follows : Follows (served ring pill)) : served ring pill = pill := by
  unfold served at follows ⊢
  split at follows
  · exact absurd follows.1 (by simp)
  · rfl

theorem arrivedFollows (follows : Follows (arrived pill)) :
    arrived pill = pill ∨ pill.clearing ≠ .cleared ∧ pill.fetch.snapshot = some (arrived pill).entries := by
  unfold arrived at follows ⊢
  split at follows
  · rename_i snapshot fetched
    exact .inr ⟨follows.2,by rw [fetched]; rfl⟩
  · exact .inl rfl

theorem pressedFollows (follows : Follows (pressed pill)) :
    Follows pill ∧ (pressed pill).entries = pill.entries := by
  unfold pressed at follows ⊢
  split at follows
  · rename_i idle
    rw [if_pos idle]
    exact ⟨⟨follows.1,by simp [idle]⟩,rfl⟩
  · rename_i busy
    rw [if_neg busy]
    exact ⟨follows,rfl⟩

theorem clearedFollows (follows : Follows (cleared pill)) :
    cleared pill = pill ∧ pill.clearing ≠ .requested := by
  unfold cleared at follows ⊢
  split at follows
  · exact absurd rfl follows.2
  · rename_i other
    exact ⟨if_neg other,other⟩

theorem answeredFollows (follows : Follows (answered pill)) : answered pill = pill ∨
    pill.clearing = .cleared ∧ pill.fetch = .applied ∧ (answered pill).entries = [] := by
  unfold answered at follows ⊢
  split at follows
  · rename_i done
    rw [if_pos done]
    exact .inr ⟨done,follows.1,rfl⟩
  · rename_i waiting
    exact .inl (if_neg waiting)

end

theorem heldDrain {w : World} (held : Held sessionId c w) {entries : List DeviceErrorEntry}
    (room : w.ring.buf.length + entries.length ≤ w.ring.max) :
    Held sessionId c (drain sessionId c w entries) := by
  have foreign : Foreign sessionId .deviceErrors c (.deviceErrors sessionId entries) := ⟨id,by simp⟩
  have more := comingServe held.tuned foreign id
  simp only [brought,if_true] at more
  unfold drain
  split
  · exact held
  · exact {
      tuned := tunedServe held.tuned foreign
      listening := held.listening
      whole := by
        intro pill mounted follows
        have before := held.whole pill mounted follows
        unfold Completes at before ⊢
        rw [more,pushManyRoomy room,List.map_append,← before,List.append_assoc] }

theorem heldFeed {w : World} (held : Held sessionId c w) {feed : Feed}
    (tuned : Tuned sessionId .deviceErrors c feed) (listening : w.feed.listeners ⊆ feed.listeners)
    (same : ∀ pill ∈ w.pills, Follows pill →
      coming sessionId .deviceErrors feed = coming sessionId .deviceErrors w.feed) :
    Held sessionId c { w with feed } where
  tuned := tuned
  listening := fun pill mounted => listening (held.listening pill mounted)
  whole := by
    intro pill mounted follows
    unfold Completes
    rw [same pill mounted follows]
    exact held.whole pill mounted follows

theorem heldServe {w : World} (held : Held sessionId c w) {e : ObservabilityDelivery.Event}
    (foreign : Foreign sessionId .deviceErrors c e)
    (nothing : brought (keyOf sessionId .deviceErrors) e = [])
    (calm : Calm sessionId w (.server e)) :
    Held sessionId c { w with feed := serve sessionId .deviceErrors c w.feed e } := by
  refine heldFeed held (tunedServe held.tuned foreign) (Finset.Subset.refl _) fun pill mounted follows => ?_
  by_cases misses : Misses sessionId .deviceErrors w.feed e
  · rw [comingMissed held.tuned misses,coming,calm misses pill mounted follows,List.append_nil]
  · rw [comingServe held.tuned foreign misses,nothing,List.append_nil]

theorem onPillListens {w : World} (held : Held sessionId c w) (i : Nat) {change : Pill → Pill}
    (id_ : ∀ pill, (change pill).id = pill.id) :
    ∀ pill ∈ onPill i change w.pills, pill.id ∈ w.feed.listeners := by
  intro pill mounted
  obtain ⟨before,old,rfl⟩ := List.mem_map.mp mounted
  have listens := held.listening before old
  split
  · exact (id_ before).symm ▸ listens
  · exact listens

theorem heldOnPill {w : World} (held : Held sessionId c w) (i : Nat) {change : Pill → Pill}
    (id_ : ∀ pill, (change pill).id = pill.id)
    (whole : ∀ pill ∈ w.pills, pill.id = i → Follows (change pill) →
      Completes sessionId w (change pill).entries) :
    Held sessionId c { w with pills := onPill i change w.pills } where
  tuned := held.tuned
  listening := onPillListens held i id_
  whole := by
    intro pill mounted follows
    obtain ⟨before,old,rfl⟩ := List.mem_map.mp mounted
    split at follows
    · rename_i here
      rw [if_pos here]
      exact whole before old here follows
    · rename_i elsewhere
      rw [if_neg elsewhere]
      exact held.whole before old follows

@[simp] theorem applyId (pill : Pill) (message) : (pill.apply message).id = pill.id := by
  cases message <;> simp only [Pill.apply,Pill.onUpdate]

@[simp] theorem applyFollows (pill : Pill) (message) : Follows (pill.apply message) ↔ Follows pill := by
  cases message <;> simp only [Follows,Pill.apply,Pill.onUpdate]

theorem applyBatch {pill : Pill} {entries : List DeviceErrorEntry}
    (short : pill.entries.length + entries.length ≤ 200) (sessionId at_) :
    (pill.apply (.deviceErrorsBatch sessionId entries at_)).entries = pill.entries ++ entries := by
  rw [← List.length_append] at short
  simp only [Pill.apply,Pill.onUpdate]
  rw [shiftShort short]

theorem completesCleared {w : World} {entries : List DeviceErrorEntry} {pills : List Pill}
    (empty : w.ring.buf = []) (complete : Completes sessionId w entries) :
    Completes sessionId { w with ring := w.ring.clear, pills } entries := by
  unfold Completes at complete ⊢
  rw [complete,empty]
  rfl

theorem heldArrives {w : World} (held : Held sessionId c w) {message rest}
    (first : w.feed.down = message :: rest) (calm : Calm sessionId w .batchArrives) :
    Held sessionId c { w with
      feed := { w.feed with down := rest }, pills := w.pills.map (·.apply message) } := by
  obtain ⟨entries,at_,rfl⟩ := batchMessage (held.tuned.addressed message (by simp [first]))
  have parts := comingArrives sessionId .deviceErrors first
  exact {
    tuned := tunedArrives held.tuned first
    listening := by
      intro pill mounted
      obtain ⟨before,old,rfl⟩ := List.mem_map.mp mounted
      rw [applyId]
      exact held.listening before old
    whole := by
      intro pill mounted follows
      obtain ⟨before,old,rfl⟩ := List.mem_map.mp mounted
      rw [applyFollows] at follows
      have complete := held.whole before old follows
      have short := calm before old follows _ (by rw [first]; rfl)
      simp only [rows,List.length_map] at short
      unfold Completes at complete ⊢
      rw [parts] at complete
      rw [applyBatch short,List.map_append,List.append_assoc]
      exact complete }

theorem heldMount {w : World} (held : Held sessionId c w) (i : Nat) :
    Held sessionId c { w with feed := subscribeTopic w.feed i, pills := w.pills ++ [{ id := i }] } where
  tuned := tunedSubscribe held.tuned i
  listening := by
    intro pill mounted
    rw [subscribeListeners]
    rcases List.mem_append.mp mounted with old | new
    · exact Finset.mem_insert_of_mem (held.listening pill old)
    · obtain rfl := List.mem_singleton.mp new
      exact Finset.mem_insert_self _ _
  whole := by
    intro pill mounted follows
    unfold Completes
    rw [comingSubscribe]
    rcases List.mem_append.mp mounted with old | new
    · exact held.whole pill old follows
    · obtain rfl := List.mem_singleton.mp new
      exact absurd follows.1 (by simp)

theorem heldUnmount {w : World} (held : Held sessionId c w) (i : Nat) :
    Held sessionId c { w with feed := unsubscribe w.feed i, pills := w.pills.filter (·.id ≠ i) } where
  tuned := tunedUnsubscribe held.tuned i
  listening := by
    intro pill mounted
    obtain ⟨old,other⟩ := List.mem_filter.mp mounted
    rw [unsubscribeListeners]
    exact Finset.mem_erase.mpr ⟨by simpa using other,held.listening pill old⟩
  whole := by
    intro pill mounted follows
    unfold Completes
    rw [comingUnsubscribe]
    exact held.whole pill (List.mem_of_mem_filter mounted) follows

theorem heldCleared {w : World} (held : Held sessionId c w) (i : Nat)
    (empty : ∀ pill ∈ w.pills, pill.id = i ∧ pill.clearing = .requested ∨
      (Follows pill → w.ring.buf = [])) :
    Held sessionId c { w with ring := w.ring.clear, pills := onPill i cleared w.pills } where
  tuned := held.tuned
  listening := onPillListens held i clearedId
  whole := by
    intro pill mounted follows
    obtain ⟨before,old,rfl⟩ := List.mem_map.mp mounted
    have same : (if before.id = i then cleared before else before) = before ∧
        ¬ (before.id = i ∧ before.clearing = .requested) := by
      split at follows
      · rename_i here
        obtain ⟨same,other⟩ := clearedFollows before follows
        exact ⟨(if_pos here).trans same,fun asked => other asked.2⟩
      · rename_i elsewhere
        exact ⟨if_neg elsewhere,fun asked => elsewhere asked.1⟩
    rw [same.1] at follows ⊢
    have nothing := (empty before old).resolve_left same.2 follows
    exact completesCleared nothing (held.whole before old follows)

theorem stepHeld (w : World) (e : Event) (held : Held sessionId c w)
    (calm : Roomy w e ∧ Calm sessionId w e) : Held sessionId c (step sessionId c w e) := by
  obtain ⟨room,calm⟩ := calm
  cases e with
  | drain entries => exact heldDrain held room
  | server e =>
    simp only [step]
    split
    · rename_i allowed
      exact heldServe held allowed.1 allowed.2 calm
    · exact held
  | serverReads =>
    exact heldFeed held (tunedReceive held.tuned) (by simp) fun _ _ _ => comingReceive _
  | mount i =>
    simp only [step]
    split
    · exact held
    · exact heldMount held i
  | unmount i => exact heldUnmount held i
  | snapshotServed i =>
    refine heldOnPill held i (servedId w.ring) fun pill mounted _ follows => ?_
    have same := servedFollows w.ring pill follows
    rw [same] at follows ⊢
    exact held.whole pill mounted follows
  | snapshotArrives i =>
    refine heldOnPill held i arrivedId fun pill mounted here follows => ?_
    rcases arrivedFollows pill follows with same | ⟨free,snapshot⟩
    · rw [same] at follows ⊢
      exact held.whole pill mounted follows
    · exact calm pill mounted here free _ snapshot
  | clearPressed i =>
    refine heldOnPill held i pressedId fun pill mounted _ follows => ?_
    obtain ⟨before,same⟩ := pressedFollows pill follows
    rw [same]
    exact held.whole pill mounted before
  | clearServed i =>
    simp only [step]
    split
    · rename_i asked
      obtain ⟨asker,mine,id_,requested⟩ := asked
      refine heldCleared held i fun pill mounted => ?_
      by_cases same : pill = asker
      · subst same
        exact .inl ⟨id_,requested⟩
      · exact .inr (calm asker mine id_ requested pill mounted same)
    · exact held
  | clearAnswered i =>
    refine heldOnPill held i answeredId fun pill mounted here follows => ?_
    rcases answeredFollows pill follows with same | ⟨done,loaded,none_⟩
    · rw [same] at follows ⊢
      exact held.whole pill mounted follows
    · rw [none_]
      exact calm pill mounted here done loaded
  | clearedElsewhere =>
    exact { held with
      whole := fun pill mounted follows =>
        completesCleared (calm pill mounted follows) (held.whole pill mounted follows) }
  | batchArrives =>
    simp only [step]
    split
    · exact held
    · rename_i message rest first
      exact heldArrives held first calm

theorem settledShows {w : World} (held : Held sessionId c w) (settled : Settled sessionId w)
    {pill : Pill} (mounted : pill ∈ w.pills) : pill.entries = w.ring.buf := by
  obtain ⟨read,arrived,idle,done⟩ := settled
  obtain ⟨applied,free⟩ := done pill mounted
  have listening : w.feed.listeners ≠ ∅ := Finset.ne_empty_of_mem (held.listening pill mounted)
  have whole := held.whole pill mounted ⟨applied,by simp [free]⟩
  unfold Completes at whole
  rw [idleComing held.tuned listening read arrived idle,List.append_nil] at whole
  exact List.map_injective_iff.mpr (fun _ _ same => Row.deviceError.inj same) whole

theorem pillsShowRing (sessionId c ringMax : Nat) (events : List Event)
    (room : Along (step sessionId c) Roomy (start ringMax) events)
    (calm : Along (step sessionId c) (Calm sessionId) (start ringMax) events)
    (settled : Settled sessionId (run (step sessionId c) (start ringMax) events)) :
    ∀ pill ∈ (run (step sessionId c) (start ringMax) events).pills,
      pill.entries = (run (step sessionId c) (start ringMax) events).ring.buf :=
  fun _ mounted =>
    settledShows (runKeepsAlong stepHeld (startHeld ringMax) (alongBoth room calm)) settled mounted

def undefinedHeader : DeviceErrorEntry := ⟨-113,"Undefined header","-113,\"Undefined header\""⟩
def queryInterrupted : DeviceErrorEntry := ⟨-410,"Query INTERRUPTED","-410,\"Query INTERRUPTED\""⟩

def twoPills : List Event :=
  [.mount 1,.serverReads,.snapshotServed 1,.snapshotArrives 1,.drain [undefinedHeader],
    .server (.timerFires 0 .deviceErrors 250),.batchArrives,.mount 2,.snapshotServed 2,
    .drain [queryInterrupted],.snapshotArrives 2,.server (.timerFires 0 .deviceErrors 500),.batchArrives,
    .unmount 2,.clearPressed 1,.clearServed 1,.clearAnswered 1,.drain [queryInterrupted],
    .server (.timerFires 0 .deviceErrors 750),.batchArrives]

theorem pillsShowRingTwoPills :
    (run (step 0 7) (start 200) twoPills).ring.buf = [queryInterrupted] ∧
      (run (step 0 7) (start 200) twoPills).pills ≠ [] ∧
      ∀ pill ∈ (run (step 0 7) (start 200) twoPills).pills,
        pill.entries = (run (step 0 7) (start 200) twoPills).ring.buf := by
  refine ⟨by decide,by decide,pillsShowRing 0 7 200 twoPills ?_ ?_ ?_⟩
  · simp only [twoPills,alongCons,alongNil,and_true,Roomy]
    decide
  · simp only [twoPills,alongCons,alongNil,and_true,true_and,Calm]
    refine ⟨?_,?_,?_,?_,?_,?_,?_,?_,?_,?_⟩ <;> decide
  · unfold Settled
    decide

def backlogged : List Event :=
  [.mount 1,.drain [undefinedHeader],.snapshotServed 1,.snapshotArrives 1,.serverReads,
    .server (.timerFires 0 .deviceErrors 250),.batchArrives]

theorem backlogShownTwice :
    Along (step 0 7) Roomy (start 200) backlogged ∧ Settled 0 (run (step 0 7) (start 200) backlogged) ∧
      (run (step 0 7) (start 200) backlogged).ring.buf = [undefinedHeader] ∧
      (run (step 0 7) (start 200) backlogged).pills.map (·.entries) =
        [[undefinedHeader,undefinedHeader]] := by
  unfold Settled
  simp only [backlogged,alongCons,alongNil,and_true,Roomy]
  decide

end LxiWeb.DeviceErrorsPill
