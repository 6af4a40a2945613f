import LxiWeb.TopicFeed
import LxiWeb.TranscriptNumbers

/-! A transcript panel that follows one connection of a session: it loads the ring over HTTP and
merges the batches of its page's socket `c`. Each goes at its own pace, the page request as soon
as the panel is mounted. The request succeeds and the panel is not paused. -/
namespace LxiWeb.TranscriptPanel
open EventRuns KeyedMerge RingBuffers ReadingLoops ObservabilityFeeds ObservabilityDelivery TopicFeed
open ObservabilityScheduler (keyOf)

structure Page where
  entries : List TranscriptEntry
  maxSeq : Nat
  deriving DecidableEq, Repr

inductive Fetch where
  | requested
  | served (page : Page)
  | applied (page : Page)
  deriving DecidableEq, Repr

def Fetch.page : Fetch → Option Page
  | .requested => none
  | .served page | .applied page => some page

def Fetch.arrived : Fetch → Bool
  | .applied _ => true
  | _ => false

structure Panel where
  entries : List TranscriptEntry := []
  maxSeq : Nat := 0
  fetch : Fetch := .requested
  deriving DecidableEq, Repr

def Panel.onUpdate (panel : Panel) (batch : List TranscriptEntry) : Panel :=
  { panel with
    entries := TranscriptNumbers.onUpdate panel.entries batch
    maxSeq := batch.foldl (fun top e => max top e.seq) panel.maxSeq }

def Panel.apply (panel : Panel) : TopicMessage → Panel
  | .sessionTranscriptBatch _ entries _ => panel.onUpdate entries
  | _ => panel

structure World where
  feed : Feed
  ring : TranscriptRing
  panel : Option Panel

def start (ringMax : Nat) : World := ⟨TopicFeed.create,.create ringMax,none⟩

inductive Event where
  | record (input : TranscriptRecordInput)
  | server (e : ObservabilityDelivery.Event)
  | serverReads
  | otherListens (listener : Nat)
  | otherLeaves (listener : Nat)
  | mount
  | pageServed
  | pageArrives
  | batchArrives
  deriving DecidableEq, Repr

section
variable (sessionId c : Nat)

def record (w : World) (input : TranscriptRecordInput) : World :=
  let (entry,ring) := w.ring.push input
  { w with ring, feed := serve sessionId .sessionTranscript c w.feed (.transcript sessionId [entry]) }

def page (ring : TranscriptRing) : Page := ⟨ring.getSince 0 2000,ring.maxSeq⟩

def step (w : World) : Event → World
  | .record input => record sessionId c w input
  | .server e =>
      if Foreign sessionId .sessionTranscript c e ∧ brought (keyOf sessionId .sessionTranscript) e = [] then
        { w with feed := serve sessionId .sessionTranscript c w.feed e }
      else w
  | .serverReads => { w with feed := receive sessionId .sessionTranscript c w.feed }
  | .otherListens listener => { w with feed := subscribeTopic w.feed (listener + 1) }
  | .otherLeaves listener => { w with feed := unsubscribe w.feed (listener + 1) }
  | .mount =>
      match w.panel with
      | some _ => w
      | none => { w with feed := subscribeTopic w.feed 0, panel := some {} }
  | .pageServed =>
      { w with
        panel := w.panel.map fun panel =>
          match panel.fetch with
          | .requested => { panel with fetch := .served (page w.ring) }
          | _ => panel }
  | .pageArrives =>
      { w with
        panel := w.panel.map fun panel =>
          match panel.fetch with
          | .served page => ⟨page.entries,page.maxSeq,.applied page⟩
          | _ => panel }
  | .batchArrives =>
      match w.feed.down with
      | [] => w
      | message :: rest =>
          { w with feed := { w.feed with down := rest }, panel := w.panel.map (·.apply message) }

def Settled (w : World) : Prop :=
  w.feed.up = [] ∧ w.feed.down = [] ∧ ¬ Armed w.feed.scheduler sessionId .sessionTranscript ∧
    ∀ panel ∈ w.panel, panel.fetch.arrived

def Roomy (w : World) : Event → Prop
  | .record _ => w.ring.buf.length < w.ring.max
  | _ => True

/- When the page is served, what it leaves of the ring is still to come; when a flush leaves the
panel's socket out after that, its entries are on the page; and when the page replaces what
the panel shows, it has all of that. -/
def Calm (w : World) : Event → Prop
  | .pageServed => ∀ panel ∈ w.panel, panel.fetch = .requested →
      ∀ e ∈ w.ring.buf, e ∉ w.ring.getSince 0 2000 → .transcript e ∈ coming sessionId .sessionTranscript w.feed
  | .server e => Misses sessionId .sessionTranscript w.feed e →
      ∀ panel ∈ w.panel, ∀ page ∈ panel.fetch.page,
        ∀ row ∈ pending w.feed.scheduler sessionId .sessionTranscript, row ∈ page.entries.map .transcript
  | .pageArrives => ∀ panel ∈ w.panel, ∀ page ∈ panel.fetch.page, panel.fetch = .served page →
      ∀ e ∈ panel.entries, e ∈ page.entries
  | _ => True

end

def numbered (inputs : List TranscriptRecordInput) : List TranscriptEntry :=
  inputs.mapIdx fun i input => ⟨input,i + 1⟩

def recorded (events : List Event) : List TranscriptRecordInput :=
  events.filterMap fun
    | .record input => some input
    | _ => none

structure Sees (buf : List TranscriptEntry) (toCome : List Row) (panel : Panel) : Prop where
  sorted : Increasing TranscriptEntry.seq panel.entries
  shown : ∀ e ∈ panel.entries, e ∈ buf
  paged : ∀ page ∈ panel.fetch.page, page.entries.Sublist buf
  covered : ∀ page ∈ panel.fetch.page, ∀ e ∈ buf,
    e ∈ page.entries ∨ e ∈ panel.entries ∨ .transcript e ∈ toCome
  kept : ∀ page, panel.fetch = .applied page → ∀ e ∈ page.entries, e ∈ panel.entries

theorem seesFresh (buf toCome) : Sees buf toCome {} where
  sorted := increasingNil
  shown := by simp
  paged := by simp [Fetch.page]
  covered := by simp [Fetch.page]
  kept := by simp

theorem seesRecorded {buf toCome panel} (sees : Sees buf toCome panel) (e : TranscriptEntry) :
    Sees (buf ++ [e]) (toCome ++ [.transcript e]) panel where
  sorted := sees.sorted
  shown := fun e' member => List.mem_append_left _ (sees.shown e' member)
  paged := fun page some_ => (sees.paged page some_).trans (List.sublist_append_left buf [e])
  covered := by
    intro page some_ e' member
    rcases List.mem_append.mp member with old | new
    · rcases sees.covered page some_ e' old with onPage | shown | later
      · exact .inl onPage
      · exact .inr (.inl shown)
      · exact .inr (.inr (List.mem_append_left _ later))
    · obtain rfl := List.mem_singleton.mp new
      exact .inr (.inr (by simp))
  kept := sees.kept

theorem seesMissed {buf onWay waiting panel} (sees : Sees buf (onWay ++ waiting) panel)
    (known : ∀ page ∈ panel.fetch.page, ∀ row ∈ waiting, row ∈ page.entries.map Row.transcript) :
    Sees buf onWay panel where
  sorted := sees.sorted
  shown := sees.shown
  paged := sees.paged
  covered := by
    intro page some_ e member
    rcases sees.covered page some_ e member with onPage | shown | later
    · exact .inl onPage
    · exact .inr (.inl shown)
    · rcases List.mem_append.mp later with sent | lost
      · exact .inr (.inr sent)
      · obtain ⟨e',onPage,same⟩ := List.mem_map.mp (known page some_ _ lost)
        cases same
        exact .inl onPage
  kept := sees.kept

theorem seesServed {ring : TranscriptRing} {toCome panel} (sees : Sees ring.buf toCome panel)
    (rest : ∀ e ∈ ring.buf, e ∉ ring.getSince 0 2000 → .transcript e ∈ toCome) :
    Sees ring.buf toCome { panel with fetch := .served (page ring) } where
  sorted := sees.sorted
  shown := sees.shown
  paged := by
    intro p some_
    obtain rfl := Option.some.inj some_
    obtain ⟨more,same,inside⟩ := collectSublist 0 2000 [] ring.buf
    simpa [page,TranscriptRing.getSince,same] using inside
  covered := by
    intro p some_ e member
    obtain rfl := Option.some.inj some_
    by_cases onPage : e ∈ ring.getSince 0 2000
    · exact .inl onPage
    · exact .inr (.inr (rest e member onPage))
  kept := by simp

theorem seesArrived {buf toCome panel} {p : Page} (rising : Increasing TranscriptEntry.seq buf)
    (sees : Sees buf toCome panel) (served : panel.fetch = .served p)
    (all : ∀ e ∈ panel.entries, e ∈ p.entries) :
    Sees buf toCome ⟨p.entries,p.maxSeq,.applied p⟩ where
  sorted := rising.sublist (sees.paged p (by simp [served,Fetch.page]))
  shown := fun e member => (sees.paged p (by simp [served,Fetch.page])).subset member
  paged := by
    intro p' some_
    obtain rfl := Option.some.inj some_
    exact sees.paged p (by simp [served,Fetch.page])
  covered := by
    intro p' some_ e member
    obtain rfl := Option.some.inj some_
    rcases sees.covered p (by simp [served,Fetch.page]) e member with onPage | shown | later
    · exact .inl onPage
    · exact .inl (all e shown)
    · exact .inr (.inr later)
  kept := by
    intro p' same e member
    obtain rfl := Fetch.applied.inj same
    exact member

theorem seesUpdated {buf toCome panel} {batch : List TranscriptEntry}
    (rising : Increasing TranscriptEntry.seq buf)
    (sees : Sees buf (batch.map Row.transcript ++ toCome) panel) (own : ∀ e ∈ batch, e ∈ buf) :
    Sees buf toCome (panel.onUpdate batch) := by
  have inside (e) (member : e ∈ panel.entries ++ batch) : e ∈ buf := by
    rcases List.mem_append.mp member with old | new
    · exact sees.shown e old
    · exact own e new
  have merged (e) : e ∈ (panel.onUpdate batch).entries ↔ e ∈ panel.entries ∨ e ∈ batch :=
    memMerge fun e member e' member' => rising.unique (inside e member) (inside e' member')
  exact {
    sorted := increasingMerge _ _
    shown := fun e member => inside e (List.mem_append.mpr ((merged e).mp member))
    paged := sees.paged
    covered := by
      intro p some_ e member
      rw [merged]
      rcases sees.covered p some_ e member with onPage | shown | later
      · exact .inl onPage
      · exact .inr (.inl (.inl shown))
      · rcases List.mem_append.mp later with now | still
        · obtain ⟨e',new,same⟩ := List.mem_map.mp now
          cases same
          exact .inr (.inl (.inr new))
        · exact .inr (.inr still)
    kept := fun p applied e member => (merged e).mpr (.inl (sees.kept p applied e member)) }

section
variable (sessionId c : Nat)

structure Held (w : World) : Prop where
  tuned : Tuned sessionId .sessionTranscript c w.feed
  rising : Increasing TranscriptEntry.seq w.ring.buf
  below : ∀ e ∈ w.ring.buf, e.seq < w.ring.seq
  own : ∀ row ∈ coming sessionId .sessionTranscript w.feed, ∃ e ∈ w.ring.buf, row = .transcript e
  listening : w.panel ≠ none → 0 ∈ w.feed.listeners
  sees : ∀ panel ∈ w.panel, Sees w.ring.buf (coming sessionId .sessionTranscript w.feed) panel

end

variable {sessionId c : Nat}

theorem startHeld (ringMax : Nat) : Held sessionId c (start ringMax) where
  tuned := tunedCreate
  rising := increasingNil
  below := by simp [start,TranscriptRing.create]
  own := by simp [start,TopicFeed.create,coming,pending,ObservabilityScheduler.create]
  listening := by simp [start]
  sees := by simp [start]

theorem pushRoomy {ring : TranscriptRing} (room : ring.buf.length < ring.max) (input) :
    (ring.push input).2.buf = ring.buf ++ [⟨input,ring.seq⟩] :=
  shiftShort (by simp only [List.length_append,List.length_singleton]; omega)

theorem heldRecord {w : World} (held : Held sessionId c w) (input)
    (room : w.ring.buf.length < w.ring.max) : Held sessionId c (record sessionId c w input) := by
  have foreign : Foreign sessionId .sessionTranscript c (.transcript sessionId [⟨input,w.ring.seq⟩]) :=
    ⟨id,by simp⟩
  have more := comingServe held.tuned foreign id
  simp only [brought,if_true,List.map_cons,List.map_nil] at more
  have pushed := pushRoomy room input
  exact {
    tuned := tunedServe held.tuned foreign
    rising := by
      simp only [record,pushed,increasingSnoc]
      exact ⟨held.rising,held.below⟩
    below := by
      intro e member
      simp only [record,pushed,List.mem_append,List.mem_singleton] at member
      rcases member with old | rfl
      · exact Nat.lt_succ_of_lt (held.below e old)
      · exact Nat.lt_succ_self _
    own := by
      intro row member
      simp only [record,TranscriptRing.push] at member pushed
      simp only [record,TranscriptRing.push,pushed]
      rw [more] at member
      rcases List.mem_append.mp member with old | new
      · obtain ⟨e,inside,same⟩ := held.own row old
        exact ⟨e,List.mem_append_left _ inside,same⟩
      · exact ⟨⟨input,w.ring.seq⟩,by simp,List.mem_singleton.mp new⟩
    listening := held.listening
    sees := by
      intro panel mounted
      simp only [TranscriptRing.push] at pushed
      simp only [record,TranscriptRing.push,pushed]
      rw [more]
      exact seesRecorded (held.sees panel mounted) _ }

theorem heldServe {w : World} (held : Held sessionId c w) {e : ObservabilityDelivery.Event}
    (foreign : Foreign sessionId .sessionTranscript c e)
    (nothing : brought (keyOf sessionId .sessionTranscript) e = [])
    (calm : Calm sessionId w (.server e)) :
    Held sessionId c { w with feed := serve sessionId .sessionTranscript c w.feed e } := by
  have tuned := tunedServe held.tuned foreign
  by_cases misses : Misses sessionId .sessionTranscript w.feed e
  · have left := comingMissed held.tuned misses
    exact { held with
      tuned := tuned
      own := by
        intro row member
        rw [left] at member
        exact held.own row (List.mem_append_left _ member)
      sees := by
        intro panel mounted
        rw [left]
        exact seesMissed (held.sees panel mounted) (calm misses panel mounted) }
  · have same := comingServe held.tuned foreign misses
    rw [nothing,List.append_nil] at same
    exact { held with
      tuned := tuned
      own := by rw [same]; exact held.own
      sees := by rw [same]; exact held.sees }

theorem heldFeed {w : World} (held : Held sessionId c w) {feed : Feed}
    (tuned : Tuned sessionId .sessionTranscript c feed)
    (same : coming sessionId .sessionTranscript feed = coming sessionId .sessionTranscript w.feed)
    (listening : 0 ∈ w.feed.listeners → 0 ∈ feed.listeners) :
    Held sessionId c { w with feed } :=
  { held with
    tuned := tuned
    own := by rw [same]; exact held.own
    listening := fun mounted => listening (held.listening mounted)
    sees := by rw [same]; exact held.sees }

theorem heldArrives {w : World} (held : Held sessionId c w) {message rest}
    (first : w.feed.down = message :: rest) :
    Held sessionId c { w with
      feed := { w.feed with down := rest }, panel := w.panel.map (·.apply message) } := by
  obtain ⟨entries,at_,rfl⟩ := batchMessage (held.tuned.addressed message (by simp [first]))
  have parts := comingArrives sessionId .sessionTranscript first
  have own := held.own
  rw [parts] at own
  exact { held with
    tuned := tunedArrives held.tuned first
    own := fun row member => own row (List.mem_append_right _ member)
    listening := by
      intro mounted
      apply held.listening
      rintro none_
      simp [none_] at mounted
    sees := by
      intro panel mounted
      obtain ⟨before,shown,rfl⟩ := Option.map_eq_some_iff.mp mounted
      have sees := held.sees before shown
      rw [parts] at sees
      refine seesUpdated held.rising sees fun e member => ?_
      obtain ⟨e',inside,same⟩ := own (.transcript e) (by simp [rows,member])
      cases same
      exact inside }

theorem heldPanel {w : World} (held : Held sessionId c w) (change : Panel → Panel)
    (sees : ∀ panel ∈ w.panel, Sees w.ring.buf (coming sessionId .sessionTranscript w.feed) panel →
      Sees w.ring.buf (coming sessionId .sessionTranscript w.feed) (change panel)) :
    Held sessionId c { w with panel := w.panel.map change } :=
  { held with
    listening := by
      intro mounted
      apply held.listening
      rintro none_
      simp [none_] at mounted
    sees := by
      intro panel mounted
      obtain ⟨before,shown,rfl⟩ := Option.map_eq_some_iff.mp mounted
      exact sees before shown (held.sees before shown) }

theorem stepHeld (w : World) (e : Event) (held : Held sessionId c w)
    (calm : Roomy w e ∧ Calm sessionId w e) : Held sessionId c (step sessionId c w e) := by
  cases e with
  | record input => exact heldRecord held input calm.1
  | server e =>
    simp only [step]
    split
    · rename_i allowed
      exact heldServe held allowed.1 allowed.2 calm.2
    · exact held
  | serverReads =>
    exact heldFeed held (tunedReceive held.tuned) (comingReceive _) fun member => by simpa using member
  | otherListens listener =>
    refine heldFeed held (tunedSubscribe held.tuned _) (comingSubscribe ..) fun member => ?_
    rw [subscribeListeners]
    exact Finset.mem_insert_of_mem member
  | otherLeaves listener =>
    refine heldFeed held (tunedUnsubscribe held.tuned _) (comingUnsubscribe ..) fun member => ?_
    rw [unsubscribeListeners]
    exact Finset.mem_erase.mpr ⟨by simp,member⟩
  | mount =>
    simp only [step]
    split
    · exact held
    · rename_i unmounted
      have listens : 0 ∈ (subscribeTopic w.feed 0).listeners := by
        rw [subscribeListeners]
        exact Finset.mem_insert_self _ _
      have fed := heldFeed held (tunedSubscribe held.tuned 0) (comingSubscribe ..) fun _ => listens
      exact { fed with
        listening := fun _ => listens
        sees := by
          intro panel mounted
          obtain rfl := Option.some.inj mounted
          exact seesFresh _ _ }
  | pageServed =>
    refine heldPanel held _ fun panel mounted sees => ?_
    split
    · rename_i requested
      exact seesServed sees (calm.2 panel mounted requested)
    · exact sees
  | pageArrives =>
    refine heldPanel held _ fun panel mounted sees => ?_
    split
    · rename_i page served
      exact seesArrived held.rising sees served
        (calm.2 panel mounted page (by simp [served,Fetch.page]) served)
    · exact sees
  | batchArrives =>
    simp only [step]
    split
    · exact held
    · rename_i message rest first
      exact heldArrives held first

theorem settledShows {w : World} (held : Held sessionId c w) (settled : Settled sessionId w)
    {panel : Panel} (mounted : w.panel = some panel) : panel.entries = w.ring.buf := by
  obtain ⟨read,arrived,idle,loaded⟩ := settled
  obtain ⟨page,applied⟩ : ∃ page, panel.fetch = .applied page := by
    have arrived := loaded panel mounted
    cases fetch : panel.fetch with
    | applied page => exact ⟨page,rfl⟩
    | requested | served => simp [fetch,Fetch.arrived] at arrived
  have listening : w.feed.listeners ≠ ∅ :=
    Finset.ne_empty_of_mem (held.listening (by simp [mounted]))
  have nothing := idleComing held.tuned listening read arrived idle
  have sees := held.sees panel mounted
  rw [nothing] at sees
  refine sees.sorted.ext held.rising fun e => ⟨sees.shown e,fun member => ?_⟩
  rcases sees.covered page (by simp [applied,Fetch.page]) e member with onPage | shown | later
  · exact sees.kept page applied e onPage
  · exact shown
  · exact absurd later (by simp)

theorem numberedSnoc (inputs : List TranscriptRecordInput) (input) :
    numbered (inputs ++ [input]) = numbered inputs ++ [⟨input,inputs.length + 1⟩] := by
  simp [numbered,List.mapIdx_append]

theorem stepRing {w : World} {inputs : List TranscriptRecordInput} {e : Event} (room : Roomy w e)
    (whole : w.ring.buf = numbered inputs ∧ w.ring.seq = inputs.length + 1) :
    (step sessionId c w e).ring.buf = numbered (inputs ++ recorded [e]) ∧
      (step sessionId c w e).ring.seq = (inputs ++ recorded [e]).length + 1 := by
  obtain ⟨buf,seq⟩ := whole
  cases e with
  | record input =>
    refine ⟨(pushRoomy room input).trans ?_,(congrArg (· + 1) seq).trans (by simp [recorded])⟩
    rw [buf,seq]
    exact (numberedSnoc inputs input).symm
  | server e => simp only [step]; split <;> simpa [recorded] using ⟨buf,seq⟩
  | mount | batchArrives => simp only [step]; split <;> simpa [recorded] using ⟨buf,seq⟩
  | serverReads | otherListens | otherLeaves | pageServed | pageArrives =>
    simpa [step,recorded] using ⟨buf,seq⟩

theorem ringWhole (ringMax : Nat) (events : List Event)
    (room : Along (step sessionId c) Roomy (start ringMax) events) :
    (run (step sessionId c) (start ringMax) events).ring.buf = numbered (recorded events) ∧
      (run (step sessionId c) (start ringMax) events).ring.seq = (recorded events).length + 1 := by
  induction events using List.reverseRecOn with
  | nil => exact ⟨rfl,rfl⟩
  | append_singleton before e ih =>
    obtain ⟨earlier,last⟩ := (alongAppend ..).mp room
    have both : recorded (before ++ [e]) = recorded before ++ recorded [e] := List.filterMap_append
    rw [runAppend,both]
    exact stepRing last.1 (ih earlier)

theorem panelShowsTranscript (sessionId c ringMax : Nat) (events : List Event)
    (room : Along (step sessionId c) Roomy (start ringMax) events)
    (calm : Along (step sessionId c) (Calm sessionId) (start ringMax) events)
    (settled : Settled sessionId (run (step sessionId c) (start ringMax) events)) :
    ∀ panel ∈ (run (step sessionId c) (start ringMax) events).panel,
      panel.entries = numbered (recorded events) := by
  intro panel mounted
  have held := runKeepsAlong stepHeld (startHeld ringMax) (alongBoth room calm)
  rw [settledShows held settled mounted,(ringWhole ringMax events room).1]

def idn : TranscriptRecordInput := ⟨.query,"*IDN?",some "RIGOL,DM858,1,2"⟩
def reset : TranscriptRecordInput := ⟨.write,"*RST",none⟩

/- Recorded before the panel comes, `*IDN?` is on the page and in the first batch. -/
def pageAndBatch : List Event :=
  [.record idn,.mount,.serverReads,.pageServed,.record reset,.pageArrives,
    .server (.timerFires 0 .sessionTranscript 100),.batchArrives]

theorem panelShowsTranscriptMerged :
    (run (step 0 7) (start 2000) pageAndBatch).panel ≠ none ∧
      ∀ panel ∈ (run (step 0 7) (start 2000) pageAndBatch).panel,
        panel.entries = [⟨idn,1⟩,⟨reset,2⟩] := by
  refine ⟨by decide,panelShowsTranscript 0 7 2000 pageAndBatch ?_ ?_ ?_⟩
  · simp only [pageAndBatch,alongCons,alongNil,and_true,Roomy]
    decide
  · simp only [pageAndBatch,alongCons,alongNil,and_true,true_and,Calm]
    decide
  · unfold Settled
    decide

/- The page is served before `*RST` is recorded and arrives after the batch. -/
def latePage : List Event :=
  [.mount,.serverReads,.pageServed,.record reset,.server (.timerFires 0 .sessionTranscript 100),
    .batchArrives,.pageArrives]

theorem latePageDropsBatch :
    Along (step 0 7) Roomy (start 2000) latePage ∧ Settled 0 (run (step 0 7) (start 2000) latePage) ∧
      recorded latePage = [reset] ∧
      (run (step 0 7) (start 2000) latePage).panel.map (·.entries) = some [] := by
  unfold Settled
  simp only [latePage,alongCons,alongNil,and_true,Roomy]
  decide

end LxiWeb.TranscriptPanel
