import LxiWeb.MeterLogging
import LxiWeb.Polling

/-! The table of logged samples in the panel of a multimeter: the panel polls the route of the samples,
and asks for what is newer than the last one it shows. -/
namespace LxiWeb.LoggingPanel
open EventRuns MeterLogging RingBuffers
open Polling (Poll Disciplined)

/- A request of `getDmmLoggingSamples`: sent, behind `getLoggingStatus`, or answered. -/
inductive Request (F : Type) where
  | sent (since : Option Int)
  | named (since : Option Int) (run : Nat)
  | answered (samples : List (Sample F))

/- `pages` are those that came since the panel was cleared last. -/
structure Panel (F : Type) where
  meter : Meter F
  loggingPoll : Poll (Request F) (List (Sample F))
  loggingSamples : List (Reading F) := []
  pages : List (List (Sample F)) := []

inductive Event (F : Type) where
  | meter (e : MeterLogging.Event F)
  | mounts
  -- a snapshot shows a run that goes on, or one that has ended
  | enables (running : Bool)
  | ticks
  | unmounts
  | statusRead (index : Nat)
  | samplesRead (index : Nat)
  | answers (index : Nat)
  | fails (index : Nat) (message : String)
  -- `startLogging` behind its `await`
  | started

section
variable {F : Type}

def open_ : Panel F := ⟨start,Polling.usePolling false,[],[]⟩

/- `fetchLoggedSamples` of the run that the status has named; `since` is what the query says. -/
def samplesSince (m : Meter F) (r : Nat) (since : Option Int) : List (Sample F) :=
  if m.current = some r then (m.run r).samples.filter fun sample => since.getD (-1) < sample.seq else []

def reading (sample : Sample F) : Reading F := ⟨sample.value,sample.unit,sample.mode,sample.timestamp⟩

def request (s : Panel F) : Request F := .sent (s.loggingSamples.getLast?.map Reading.measuredAt)

def polls (s : Panel F) (e : Polling.Event (Request F) (List (Sample F))) : Panel F :=
  { s with loggingPoll := Polling.step true s.loggingPoll e }

def readStatus (m : Meter F) : Request F → Request F
  | .sent since =>
      match m.current with
      | none => .answered []
      | some r => .named since r
  | q => q

def readSamples (m : Meter F) : Request F → Request F
  | .named since r => .answered (samplesSince m r since)
  | q => q

def advance (s : Panel F) (index : Nat) (f : Request F → Request F) : Panel F :=
  { s with loggingPoll := { s.loggingPoll with running := s.loggingPoll.running.modify index f } }

/- The watcher of the poll's data runs before anything else arrives; it ends with the component. -/
def shows (s : Panel F) (samples : List (Sample F)) : Panel F :=
  { s with
    loggingSamples := shiftTo 500 (s.loggingSamples ++ samples.map reading)
    pages := s.pages ++ [samples] }

def step (s : Panel F) : Event F → Panel F
  | .meter e => { s with meter := MeterLogging.step s.meter e }
  | .mounts => polls s (.mounts (request s))
  | .enables running => polls s (.enables running (request s))
  | .ticks => polls s (.ticks (request s))
  | .unmounts => polls s .unmounts
  | .statusRead index => advance s index (readStatus s.meter)
  | .samplesRead index => advance s index (readSamples s.meter)
  | .answers index =>
      match s.loggingPoll.running[index]? with
      | some (.answered samples) =>
          let settled := polls s (.settles index (.ok samples))
          if s.loggingPoll.phase = .unmounted then settled else shows settled samples
      | _ => s
  | .fails index message => polls s (.settles index (.error message))
  | .started => { s with loggingSamples := [], pages := [] }

/- Of the pages since the panel was cleared one at most has samples in it, and they are what is shown. -/
structure Frozen (s : Panel F) : Prop where
  one : (s.pages.filter fun page => !page.isEmpty).length ≤ 1
  shown : s.loggingSamples = shiftTo 500 (s.pages.flatten.map reading)

/- Readings are taken at times past the number of events: milliseconds since 1970 are. -/
def Late (events : List (Event F)) : Prop :=
  ∀ r reading, .meter (.readSettles r (some reading)) ∈ events → (events.length : Int) ≤ reading.measuredAt

def Stuck (s : Panel F) (e : Event F) : Prop :=
  s.loggingSamples = [] ∨ e = .started ∨ (step s e).loggingSamples = s.loggingSamples

structure Freezes (events : List (Event F)) : Prop where
  frozen : Throughout step Frozen open_ events
  stuck : Along step Stuck open_ events

variable {n k : Nat}

/- Samples have numbers up to `k` and times from `n` on. -/
structure Timed (n k : Nat) (run : LoggingRun F) : Prop where
  emitted : run.samplesEmitted ≤ k
  numbered : ∀ x ∈ run.samples, x.seq ≤ run.samplesEmitted
  late : ∀ x ∈ run.samples, (n : Int) ≤ x.timestamp

def AllTimed (n k : Nat) (m : Meter F) : Prop := ∀ r, Timed n k (m.run r)

theorem timedLater {run : LoggingRun F} (timed : Timed n k run) : Timed n (k + 1) run :=
  ⟨Nat.le_succ_of_le timed.emitted,timed.numbered,timed.late⟩

theorem timedSame {run next : LoggingRun F} (timed : Timed n k run)
    (emitted : next.samplesEmitted = run.samplesEmitted) (samples : next.samples = run.samples) :
    Timed n (k + 1) next := by
  refine ⟨?_,?_,?_⟩ <;> simp only [emitted,samples]
  · exact Nat.le_succ_of_le timed.emitted
  · exact timed.numbered
  · exact timed.late

theorem timedSample {run : LoggingRun F} (timed : Timed n k run) {reading : Reading F}
    (late : (n : Int) ≤ reading.measuredAt) : Timed n (k + 1) (sampleOnce run reading) := by
  have inside (x : Sample F) (member : x ∈ (sampleOnce run reading).samples) :
      x ∈ run.samples ∨ (x.seq = run.samplesEmitted + 1 ∧ x.timestamp = reading.measuredAt) := by
    have whole := List.mem_of_mem_drop member
    rcases List.mem_append.mp whole with old | new
    · exact .inl old
    · obtain rfl := List.mem_singleton.mp new
      exact .inr ⟨rfl,rfl⟩
  refine ⟨Nat.succ_le_succ timed.emitted,fun x member => ?_,fun x member => ?_⟩ <;>
    rcases inside x member with old | ⟨seq,time⟩
  · exact Nat.le_succ_of_le (timed.numbered x old)
  · exact Nat.le_of_eq seq
  · exact timed.late x old
  · rwa [time]

theorem timedSetRun {m : Meter F} (timed : AllTimed n k m) {r : Nat} {f : LoggingRun F → LoggingRun F}
    (here : Timed n (k + 1) (f (m.run r))) : AllTimed n (k + 1) (setRun m r f) := by
  intro r'
  by_cases this : r' = r
  · subst this
    simpa [setRun] using here
  · simpa [setRun,this] using timedLater (timed r')

theorem timedStep {m : Meter F} (timed : AllTimed n k m) {e : MeterLogging.Event F}
    (late : ∀ r reading, e = .readSettles r (some reading) → (n : Int) ≤ reading.measuredAt) :
    AllTimed n (k + 1) (MeterLogging.step m e) := by
  have later : AllTimed n (k + 1) m := fun r => timedLater (timed r)
  cases e with
  | startLogging totalSamples now =>
    rw [MeterLogging.step,startLogging]
    split
    · exact later
    · intro r
      by_cases this : r = m.nextRun
      · subst this
        simp only [Function.update_self]
        exact ⟨Nat.zero_le _,by simp,by simp⟩
      · simpa [this] using later r
  | stopLogging =>
    rw [MeterLogging.step,stopLogging]
    split
    · exact timedSetRun timed (timedSame (timed _) rfl rfl)
    · exact later
  | intervalFires r =>
    refine timedSetRun timed ?_
    unfold fires
    split
    · split
      · exact timedLater (timed r)
      · exact timedSame (timed r) rfl rfl
    · exact timedLater (timed r)
  | readSettles r outcome =>
    have here : Timed n (k + 1) (readSettles (m.run r) outcome) := by
      unfold readSettles
      split
      · rename_i reading _
        have sampled := timedSample (timed r) (late r reading rfl)
        exact ⟨sampled.emitted,sampled.numbered,sampled.late⟩
      · exact timedSame (timed r) rfl rfl
      · exact timedLater (timed r)
    exact @timedSetRun _ n k m timed r (fun run => readSettles run outcome) here
  | finallyRuns r =>
    refine timedSetRun timed ?_
    unfold finallyRuns
    split
    · dsimp only
      split <;> exact timedSame (timed r) rfl rfl
    · exact timedLater (timed r)
  | fetchLoggedSamples reader r => exact later

/- What is known of a request: it asks for everything, or for what is newer than any sample. -/
def Fits (n : Nat) (shown : List (Reading F)) : Request F → Prop
  | .sent since | .named since _ => (since = none → shown = []) ∧ ∀ time ∈ since, (n : Int) ≤ time
  | .answered samples => (samples ≠ [] → shown = []) ∧ ∀ x ∈ samples, (n : Int) ≤ x.timestamp

structure Sound (n k : Nat) (s : Panel F) : Prop where
  timed : AllTimed n k s.meter
  disciplined : Disciplined s.loggingPoll
  requests : ∀ q ∈ s.loggingPoll.running, Fits n s.loggingSamples q
  shownLate : ∀ y ∈ s.loggingSamples, (n : Int) ≤ y.measuredAt
  frozen : Frozen s

variable {s : Panel F}

theorem requestFits (sound : Sound n k s) : Fits n s.loggingSamples (request s) := by
  rcases List.eq_nil_or_concat s.loggingSamples with none_ | ⟨init,last,whole⟩
  · simp [request,Fits,none_]
  · have asks : request s = .sent (some last.measuredAt) := by simp [request,whole]
    rw [asks]
    refine ⟨nofun,?_⟩
    rintro time ⟨⟩
    exact sound.shownLate last (by simp [whole])

theorem pageFits (timed : AllTimed n k s.meter) (bound : k ≤ n) {since : Option Int} {r : Nat}
    (fits : Fits n s.loggingSamples (.named since r)) :
    Fits n s.loggingSamples (.answered (samplesSince s.meter r since)) := by
  have retained (x : Sample F) (member : x ∈ samplesSince s.meter r since) :
      x ∈ (s.meter.run r).samples ∧ since.getD (-1) < x.seq := by
    unfold samplesSince at member
    split at member
    · simpa using List.mem_filter.mp member
    · cases member
  refine ⟨fun some_ => ?_,fun x member => (timed r).late x (retained x member).1⟩
  obtain ⟨x,rest,first⟩ := List.exists_cons_of_ne_nil some_
  obtain ⟨inside,newer⟩ := retained x (by simp [first])
  cases since with
  | none => exact fits.1 rfl
  | some time =>
    -- the panel asks with a time where the numbers of samples are meant
    have late := fits.2 time rfl
    have small := (timed r).numbered x inside
    have below := (timed r).emitted
    have after : time < x.seq := newer
    omega

theorem openSound : Sound n 0 (open_ : Panel F) := by
  refine ⟨fun r => ⟨Nat.le_refl 0,?_,?_⟩,Polling.startDisciplined false,?_,?_,?_,?_⟩ <;>
    simp [open_,start,Polling.usePolling,shiftTo]

theorem soundPolls (sound : Sound n k s) {e : Polling.Event (Request F) (List (Sample F))}
    (takes : ∀ q, Polling.carried e = some q → q = request s) : Sound n (k + 1) (polls s e) := by
  refine ⟨fun r => timedLater (sound.timed r),Polling.stepDisciplined _ e sound.disciplined,?_,sound.shownLate,
    sound.frozen.one,sound.frozen.shown⟩
  intro q member
  rcases Polling.runningAfter sound.disciplined member with old | new
  · exact sound.requests q old
  · have fits := requestFits sound
    rwa [← takes q new] at fits

theorem disciplinedModify {poll : Poll (Request F) (List (Sample F))} (kept : Disciplined poll) (index : Nat)
    (f : Request F → Request F) : Disciplined { poll with running := poll.running.modify index f } := by
  refine ⟨?_,?_,kept.armed,kept.early,kept.left,kept.data,kept.error⟩
  · simpa using kept.single
  · rw [kept.busy]
    simp [← List.length_eq_zero_iff]

theorem soundAdvance (sound : Sound n k s) (index : Nat) {f : Request F → Request F}
    (fits : ∀ q, Fits n s.loggingSamples q → Fits n s.loggingSamples (f q)) :
    Sound n (k + 1) (advance s index f) := by
  refine ⟨fun r => timedLater (sound.timed r),disciplinedModify sound.disciplined index f,?_,sound.shownLate,
    sound.frozen.one,sound.frozen.shown⟩
  intro q member
  have member : q ∈ s.loggingPoll.running.modify index f := member
  obtain ⟨i,_,rfl⟩ := List.getElem_of_mem member
  rw [List.getElem_modify]
  split
  · exact fits _ (sound.requests _ (List.getElem_mem _))
  · exact sound.requests _ (List.getElem_mem _)

theorem filterNone {pages : List (List (Sample F))} (none_ : pages.flatten = []) :
    (pages.filter fun page => !page.isEmpty) = [] := by
  rw [List.filter_eq_nil_iff]
  intro page member
  simp [List.flatten_eq_nil_iff.mp none_ page member]

theorem shownNone (frozen : Frozen s) (none_ : s.loggingSamples = []) : s.pages.flatten = [] := by
  have short := congrArg List.length frozen.shown
  rw [none_,shiftTo,List.length_drop,List.length_map] at short
  simp only [List.length_nil] at short
  exact List.eq_nil_of_length_eq_zero (by omega)

theorem frozenShows (frozen : Frozen s) {samples : List (Sample F)}
    (first : samples ≠ [] → s.loggingSamples = []) : Frozen (shows s samples) := by
  by_cases none_ : samples = []
  · subst none_
    refine ⟨by simpa [shows] using frozen.one,?_⟩
    have short : s.loggingSamples.length ≤ 500 := by
      rw [frozen.shown,shiftTo,List.length_drop]
      omega
    simpa [shows,shiftShort short] using frozen.shown
  · have shown := first none_
    have before := shownNone frozen shown
    refine ⟨?_,?_⟩
    · simp [shows,filterNone before,none_]
    · simp [shows,shown,before]

theorem soundAnswers (sound : Sound n k s) {index : Nat} {samples : List (Sample F)}
    (there : s.loggingPoll.running[index]? = some (.answered samples)) :
    Sound n (k + 1) (shows (polls s (.settles index (.ok samples))) samples) := by
  obtain ⟨inside,same⟩ := List.getElem?_eq_some_iff.mp there
  have fits : Fits n s.loggingSamples (.answered samples) := sound.requests _ (same ▸ List.getElem_mem inside)
  have polled : Sound n (k + 1) (polls s (.settles index (.ok samples))) := soundPolls sound nofun
  have alone : (polls s (.settles index (.ok samples))).loggingPoll.running = [] := by
    have single := sound.disciplined.single
    apply List.eq_nil_of_length_eq_zero
    rw [polls,Polling.step,if_pos inside,Polling.settle,List.length_eraseIdx_of_lt inside]
    omega
  refine ⟨polled.timed,polled.disciplined,?_,?_,frozenShows polled.frozen fits.1⟩
  · intro q member
    have none_ : q ∈ (polls s (.settles index (.ok samples))).loggingPoll.running := member
    rw [alone] at none_
    cases none_
  · intro y member
    simp only [shows,polls,shiftTo] at member
    rcases List.mem_append.mp (List.mem_of_mem_drop member) with old | new
    · exact sound.shownLate y old
    · obtain ⟨x,inPage,rfl⟩ := List.mem_map.mp new
      exact fits.2 x inPage

theorem soundCleared (sound : Sound n k s) : Sound n (k + 1) { s with loggingSamples := [], pages := [] } := by
  have shown : ([] : List (Reading F)) = shiftTo 500 [] := (shiftShort (Nat.zero_le _)).symm
  refine ⟨fun r => timedLater (sound.timed r),sound.disciplined,?_,nofun,Nat.zero_le _,shown⟩
  intro q member
  have fits := sound.requests q member
  cases q with
  | sent since | named since r => exact ⟨fun _ => rfl,fits.2⟩
  | answered samples => exact ⟨fun _ => rfl,fits.2⟩

theorem stepSound (sound : Sound n k s) (bound : k ≤ n) {e : Event F}
    (late : ∀ r reading, e = .meter (.readSettles r (some reading)) → (n : Int) ≤ reading.measuredAt) :
    Sound n (k + 1) (step s e) := by
  have later : Sound n (k + 1) s :=
    ⟨fun r => timedLater (sound.timed r),sound.disciplined,sound.requests,sound.shownLate,sound.frozen⟩
  have asks {q q' : Request F} (same : some q = some q') : q' = q := (Option.some.inj same).symm
  cases e with
  | meter e =>
    refine ⟨timedStep sound.timed fun r reading same => late r reading (by rw [same]),sound.disciplined,
      sound.requests,sound.shownLate,sound.frozen.one,sound.frozen.shown⟩
  | mounts | enables running | ticks => exact soundPolls sound fun q => asks
  | unmounts => exact soundPolls sound nofun
  | statusRead index =>
    refine soundAdvance sound index fun q fits => ?_
    cases q with
    | sent since =>
      rw [readStatus]
      split
      · exact ⟨fun some_ => absurd rfl some_,nofun⟩
      · exact fits
    | named | answered => exact fits
  | samplesRead index =>
    refine soundAdvance sound index fun q fits => ?_
    cases q with
    | named since r => exact pageFits sound.timed bound fits
    | sent | answered => exact fits
  | answers index =>
    rw [step]
    split
    · rename_i samples there
      dsimp only
      split
      · exact soundPolls sound nofun
      · exact soundAnswers sound there
    · exact later
  | fails index message => exact soundPolls sound nofun
  | started => exact soundCleared sound

theorem stepStuck (sound : Sound n k s) (e : Event F) : Stuck s e := by
  cases e with
  | answers index =>
    by_cases none_ : s.loggingSamples = []
    · exact .inl none_
    · refine .inr (.inr ?_)
      rw [step]
      split
      · rename_i samples there
        obtain ⟨inside,same⟩ := List.getElem?_eq_some_iff.mp there
        have fits : Fits n s.loggingSamples (.answered samples) := sound.requests _ (same ▸ List.getElem_mem inside)
        have empty : samples = [] := Classical.byContradiction fun some_ => none_ (fits.1 some_)
        have short : s.loggingSamples.length ≤ 500 := by
          rw [sound.frozen.shown,shiftTo,List.length_drop]
          omega
        dsimp only
        split
        · rfl
        · simp only [shows,polls,empty,List.map_nil,List.append_nil]
          exact shiftShort short
      · rfl
  | started => exact .inr (.inl rfl)
  | _ => exact .inr (.inr rfl)

theorem runSound {events : List (Event F)} (sound : Sound n k s) (bound : k + events.length ≤ n)
    (late : ∀ r reading, .meter (.readSettles r (some reading)) ∈ events → (n : Int) ≤ reading.measuredAt) :
    Sound n (k + events.length) (run step s events) ∧ Along step Stuck s events := by
  induction events generalizing k s with
  | nil => exact ⟨sound,trivial⟩
  | cons e rest ih =>
    rw [List.length_cons] at bound ⊢
    have next := stepSound (e := e) sound (by omega) fun r reading same => late r reading (same ▸ .head _)
    obtain ⟨last,stuck⟩ := ih next (by omega) fun r reading member => late r reading (.tail _ member)
    exact ⟨by rwa [show k + (rest.length + 1) = k + 1 + rest.length by omega],stepStuck sound e,stuck⟩

/-- Whatever the order in which samples are taken, pages asked for and answers received: once the panel
shows a page of samples, no later page brings it any more, until it is cleared. -/
theorem panelFreezes {events : List (Event F)} (late : Late events) : Freezes events where
  frozen seen early := by
    have short := early.length_le
    have sound : Sound events.length (0 + seen.length) (run step open_ seen) :=
      (runSound openSound (by omega) fun r reading member => late r reading (early.subset member)).1
    exact sound.frozen
  stuck := (runSound (k := 0) openSound (by omega) late).2

end

def twoPolls : List (Event Nat) :=
  let takes (time : Int) : List (Event Nat) := [.meter (.intervalFires 0),
    .meter (.readSettles 0 (some ⟨5,"V",.dcVoltage,time⟩)), .meter (.finallyRuns 0)]
  let polled : List (Event Nat) := [.ticks,.statusRead 0,.samplesRead 0,.answers 0]
  [.meter (.startLogging none 0),.mounts,.fails 0 "",.enables true,.fails 0 "",.started] ++ takes 100 ++ polled ++
    takes 200 ++ polled

theorem panelFreezesTwoPolls : Freezes twoPolls ∧ (run step open_ twoPolls).loggingSamples = [⟨5,"V",.dcVoltage,100⟩] ∧
    ((run step open_ twoPolls).meter.run 0).samplesEmitted = 2 := by
  have late : Late twoPolls := by
    intro r reading member
    simp only [twoPolls,List.cons_append,List.nil_append,List.mem_cons,Event.meter.injEq,
      MeterLogging.Event.readSettles.injEq,Option.some.injEq,reduceCtorEq,false_or,or_false,List.not_mem_nil] at member
    rcases member with ⟨-,rfl⟩ | ⟨-,rfl⟩ <;> decide
  exact ⟨panelFreezes late,by decide +kernel,by decide +kernel⟩

end LxiWeb.LoggingPanel
