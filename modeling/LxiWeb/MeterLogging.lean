import LxiWeb.Dm800Math
import LxiWeb.RingBuffers

/-! Logging runs of the DM800: an interval that takes samples, the read that a sample waits for, and
readers that page through the samples. -/
namespace LxiWeb.MeterLogging
open Dm800Math EventRuns RingBuffers

structure Reading (F : Type) where
  value : F
  unit : String
  mode : Mode
  measuredAt : Int
  deriving DecidableEq

structure Sample (F : Type) where
  seq : Nat
  value : F
  unit : String
  mode : Mode
  timestamp : Int
  elapsedMs : Int
  deriving DecidableEq

/- `LOGGING.maxSamples` -/
@[irreducible] def maxSamples : Nat := 1000000

/- How far the `sampleOnce` of a run is: its reading is awaited, or its `finally`. -/
inductive Sampling where
  | reading
  | settled
  deriving DecidableEq

abbrev Count := { n : Nat // 1 ≤ n }

structure LoggingRun (F : Type) where
  totalSamples : Option Count
  startedAt : Int
  samplesEmitted : Nat := 0
  samples : List (Sample F) := []
  dropped : List (Sample F) := []
  timer : Bool := false
  stopped : Bool := false
  inflight : Bool := false
  sampling : Option Sampling := none

/- The driver with all runs it has started; `current` is its `#run`. What each reader has got of a run
is kept beside it. -/
structure Meter (F : Type) where
  current : Option Nat
  run : Nat → LoggingRun F
  nextRun : Nat
  got : Nat → Nat → List (Sample F)

inductive Event (F : Type) where
  | startLogging (totalSamples : Option Count) (now : Int)
  | stopLogging
  | intervalFires (r : Nat)
  | readSettles (r : Nat) (outcome : Option (Reading F))
  | finallyRuns (r : Nat)
  | fetchLoggedSamples (reader r : Nat)

section
variable {F : Type}

def start : Meter F := ⟨none,fun _ => ⟨none,0,0,[],[],false,false,false,none⟩,0,fun _ _ => []⟩

def setRun (s : Meter F) (r : Nat) (f : LoggingRun F → LoggingRun F) : Meter F :=
  { s with run := Function.update s.run r (f (s.run r)) }

/- `runId` is the number of the run. While another run is active the call throws. -/
def startLogging (s : Meter F) (totalSamples : Option Count) (now : Int) : Meter F :=
  if s.current.any fun r => !(s.run r).stopped then s
  else
    { s with
      current := some s.nextRun
      run := Function.update s.run s.nextRun { totalSamples, startedAt := now, timer := true }
      nextRun := s.nextRun + 1 }

def stopRun (run : LoggingRun F) : LoggingRun F := { run with stopped := true, timer := false }

def stopLogging (s : Meter F) : Meter F :=
  match s.current with
  | some r => setRun s r stopRun
  | none => s

def fires (run : LoggingRun F) : LoggingRun F :=
  if run.timer then
    if run.stopped ∨ run.inflight then run
    else { run with inflight := true, sampling := some .reading }
  else run

/- `sampleOnce` behind its `await`. -/
def sampleOnce (run : LoggingRun F) (reading : Reading F) : LoggingRun F :=
  let emitted := run.samplesEmitted + 1
  let sample : Sample F :=
    ⟨emitted,reading.value,reading.unit,reading.mode,reading.measuredAt,reading.measuredAt - run.startedAt⟩
  let samples := run.samples ++ [sample]
  { run with
    samplesEmitted := emitted
    samples := shiftTo maxSamples samples
    dropped := run.dropped ++ samples.take (samples.length - maxSamples) }

def readSettles (run : LoggingRun F) (outcome : Option (Reading F)) : LoggingRun F :=
  match run.sampling, outcome with
  | some .reading, some reading => { sampleOnce run reading with sampling := some .settled }
  -- the failure is ignored
  | some .reading, none => { run with sampling := some .settled }
  | _, _ => run

def finallyRuns (run : LoggingRun F) : LoggingRun F :=
  match run.sampling with
  | some .settled =>
      let run := { run with inflight := false, sampling := none }
      if run.totalSamples.any fun total => decide (total.val ≤ run.samplesEmitted) then stopRun run else run
  | _ => run

def fetchLoggedSamples (s : Meter F) (r : Nat) (since : Option Nat) : List (Sample F) :=
  match s.current with
  | none => []
  | some current =>
      if current ≠ r then []
      else
        let cutoff : Int := (since.map Int.ofNat).getD (-1)
        (s.run current).samples.filter fun sample => cutoff < sample.seq

def fetch (s : Meter F) (reader r : Nat) : Meter F :=
  let got := s.got reader r
  let page := fetchLoggedSamples s r (got.getLast?.map Sample.seq)
  { s with got := Function.update s.got reader (Function.update (s.got reader) r (got ++ page)) }

def step (s : Meter F) : Event F → Meter F
  | .startLogging totalSamples now => startLogging s totalSamples now
  | .stopLogging => stopLogging s
  | .intervalFires r => setRun s r fires
  | .readSettles r outcome => setRun s r fun run => readSettles run outcome
  | .finallyRuns r => setRun s r finallyRuns
  | .fetchLoggedSamples reader r => fetch s reader r

def LoggingRun.taken (run : LoggingRun F) : List (Sample F) := run.dropped ++ run.samples

def Ascending (samples : List (Sample F)) : Prop := samples.Pairwise fun x y => x.seq < y.seq

structure Numbered (s : Meter F) : Prop where
  seqs : ∀ r, (s.run r).taken.map Sample.seq = List.range' 1 (s.run r).samplesEmitted
  total : ∀ r total, (s.run r).totalSamples = some total → (s.run r).samplesEmitted ≤ total
  once : ∀ reader r, Ascending (s.got reader r) ∧ ∀ x ∈ s.got reader r, x ∈ (s.run r).taken

def PageWhole (s : Meter F) (e : Event F) : Prop :=
  match e with
  | .fetchLoggedSamples reader r =>
      s.current = some r → ∀ x ∈ (s.run r).samples, x ∈ (step s e).got reader r
  | _ => True

def NoneAfterStop (s : Meter F) (e : Event F) : Prop :=
  ∀ r, (s.run r).stopped → ((step s e).run r).taken = (s.run r).taken

structure Logs (events : List (Event F)) : Prop where
  numbered : Throughout step Numbered start events
  pages : Along step PageWhole start events
  stops : Along step NoneAfterStop start events

def succeeds (r : Nat) : List (Event F) → Bool
  | [] => false
  | .readSettles r' outcome :: rest => if r' = r then outcome.isSome else succeeds r rest
  | _ :: rest => succeeds r rest

/- No read that is awaited when `stopLogging` is called for its run succeeds afterwards. -/
def StopsQuietly : Meter F → List (Event F) → Prop
  | _, [] => True
  | s, .stopLogging :: rest =>
      (∀ r, s.current = some r → (s.run r).sampling = some .reading → succeeds r rest = false) ∧
        StopsQuietly (step s .stopLogging) rest
  | s, e :: rest => StopsQuietly (step s e) rest

end

section
variable {F : Type}

structure RunSound (run : LoggingRun F) (got : Nat → List (Sample F)) : Prop where
  seqs : run.taken.map Sample.seq = List.range' 1 run.samplesEmitted
  total : ∀ total, run.totalSamples = some total → run.samplesEmitted ≤ total ∧
    (run.samplesEmitted = total → run.sampling ≠ some .reading ∧ (run.stopped ∨ run.sampling = some .settled))
  inflight : run.inflight = run.sampling.isSome
  ascending : ∀ reader, Ascending (got reader)
  inside : ∀ reader, ∀ x ∈ got reader, x ∈ run.taken
  reached : ∀ reader, ∀ y ∈ got reader, ∀ x ∈ run.samples, x.seq ≤ y.seq → x ∈ got reader

variable {run : LoggingRun F} {got : Nat → List (Sample F)}

theorem soundNew (totalSamples : Option Count) (now : Int) (timer : Bool) :
    RunSound ({ totalSamples, startedAt := now, timer } : LoggingRun F) fun _ => [] := by
  refine ⟨rfl,?_,rfl,fun _ => List.Pairwise.nil,by simp,by simp⟩
  intro total _
  have positive := total.property
  exact ⟨Nat.zero_le _,fun none_ => absurd none_ (Nat.ne_of_lt positive)⟩

theorem takenBelow (sound : RunSound run got) {x : Sample F} (member : x ∈ run.taken) :
    x.seq ≤ run.samplesEmitted := by
  have listed : x.seq ∈ List.range' 1 run.samplesEmitted := sound.seqs ▸ List.mem_map_of_mem member
  have bounds := List.mem_range'_1.mp listed
  omega

theorem takenAscending (sound : RunSound run got) : Ascending run.taken := by
  have sorted := List.pairwise_lt_range' (s := 1) (n := run.samplesEmitted)
  rw [← sound.seqs,List.pairwise_map] at sorted
  exact sorted

theorem soundStop (sound : RunSound run got) : RunSound (stopRun run) got := by
  refine ⟨sound.seqs,?_,sound.inflight,sound.ascending,sound.inside,sound.reached⟩
  intro total counted
  obtain ⟨bound,full⟩ := sound.total total counted
  exact ⟨bound,fun all => ⟨(full all).1,.inl rfl⟩⟩

theorem soundFires (sound : RunSound run got) : RunSound (fires run) got := by
  unfold fires
  split
  · split
    · exact sound
    · rename_i free
      obtain ⟨running,idle⟩ := not_or.mp free
      refine ⟨sound.seqs,?_,rfl,sound.ascending,sound.inside,sound.reached⟩
      intro total counted
      obtain ⟨bound,full⟩ := sound.total total counted
      refine ⟨bound,fun all => ?_⟩
      -- a run that has all its samples is stopped or waits for its `finally`
      rcases (full all).2 with stopped | settled
      · exact absurd stopped running
      · rw [sound.inflight,settled] at idle
        exact absurd rfl idle
  · exact sound

@[simp] theorem sampleFlags (run : LoggingRun F) (reading : Reading F) :
    (sampleOnce run reading).samplesEmitted = run.samplesEmitted + 1 ∧
      (sampleOnce run reading).totalSamples = run.totalSamples ∧
      (sampleOnce run reading).inflight = run.inflight := ⟨rfl,rfl,rfl⟩

theorem takenSample (run : LoggingRun F) (reading : Reading F) : ∃ sample : Sample F,
    sample.seq = run.samplesEmitted + 1 ∧ (sampleOnce run reading).taken = run.taken ++ [sample] ∧
      ∀ x ∈ (sampleOnce run reading).samples, x ∈ run.samples ∨ x = sample := by
  let sample : Sample F := ⟨run.samplesEmitted + 1,reading.value,reading.unit,reading.mode,
    reading.measuredAt,reading.measuredAt - run.startedAt⟩
  refine ⟨sample,rfl,?_,?_⟩
  · simp only [LoggingRun.taken,sampleOnce,shiftTo,List.append_assoc,List.take_append_drop,sample]
  · intro x member
    have inside := List.mem_of_mem_drop member
    rcases List.mem_append.mp inside with old | new
    · exact .inl old
    · exact .inr (List.mem_singleton.mp new)

theorem soundReadSettles (sound : RunSound run got) (outcome : Option (Reading F)) :
    RunSound (readSettles run outcome) got := by
  unfold readSettles
  split
  · rename_i reading waits
    obtain ⟨sample,seq,taken,retained⟩ := takenSample run reading
    refine ⟨?_,?_,by simpa [waits] using sound.inflight,sound.ascending,?_,?_⟩
    · have seqs : (sampleOnce run reading).taken.map Sample.seq = List.range' 1 (run.samplesEmitted + 1) := by
        rw [taken,List.map_append,sound.seqs,List.range'_concat]
        simp [seq,Nat.add_comm]
      exact seqs
    · intro total counted
      obtain ⟨bound,full⟩ := sound.total total counted
      have room : run.samplesEmitted ≠ total := fun all => (full all).1 waits
      refine ⟨?_,fun _ => ⟨by simp,.inr rfl⟩⟩
      have more : run.samplesEmitted + 1 ≤ total := by omega
      exact more
    · intro reader x member
      have old : x ∈ (sampleOnce run reading).taken := by
        rw [taken]
        exact List.mem_append_left _ (sound.inside reader x member)
      exact old
    · intro reader y member x retained_ early
      rcases retained x retained_ with old | rfl
      · exact sound.reached reader y member x old early
      · have below := takenBelow sound (sound.inside reader y member)
        omega
  · rename_i waits
    refine ⟨sound.seqs,?_,by simpa [waits] using sound.inflight,sound.ascending,sound.inside,sound.reached⟩
    intro total counted
    obtain ⟨bound,full⟩ := sound.total total counted
    exact ⟨bound,fun all => absurd waits (full all).1⟩
  · exact sound

theorem soundFinally (sound : RunSound run got) : RunSound (finallyRuns run) got := by
  unfold finallyRuns
  split
  · rename_i waits
    have idle : RunSound { run with inflight := false, sampling := none, stopped :=
        run.stopped || run.totalSamples.any fun total => decide (total.val ≤ run.samplesEmitted) } got := by
      refine ⟨sound.seqs,?_,rfl,sound.ascending,sound.inside,sound.reached⟩
      intro total counted
      have counted : run.totalSamples = some total := counted
      refine ⟨(sound.total total counted).1,fun all => ⟨by simp,.inl ?_⟩⟩
      have all : run.samplesEmitted = total := all
      simp [counted,all]
    dsimp only
    split
    · rename_i enough
      have stopped := soundStop idle
      simpa [stopRun] using stopped
    · rename_i more
      simpa [more] using idle
  · exact sound

end

section
variable {F : Type}

def cutoff (got : List (Sample F)) : Int := ((got.getLast?.map Sample.seq).map Int.ofNat).getD (-1)

theorem cutoffCases (got : List (Sample F)) :
    (got = [] ∧ cutoff got = -1) ∨ ∃ y ∈ got, cutoff got = y.seq := by
  rcases List.eq_nil_or_concat got with none_ | ⟨init,last,whole⟩
  · exact .inl ⟨none_,by simp [none_,cutoff]⟩
  · subst whole
    exact .inr ⟨last,by simp,by simp [cutoff]⟩

theorem cutoffReached {got : List (Sample F)} (ascending : Ascending got) :
    ∀ y ∈ got, (y.seq : Int) ≤ cutoff got := by
  rcases List.eq_nil_or_concat got with none_ | ⟨init,last,whole⟩
  · simp [none_]
  · subst whole
    rw [List.concat_eq_append] at ascending ⊢
    intro y member
    have named : cutoff (init ++ [last]) = last.seq := by simp [cutoff]
    rw [named,Int.ofNat_le]
    rcases List.mem_append.mp member with early | late
    · exact Nat.le_of_lt ((List.pairwise_append.mp ascending).2.2 y early last (List.mem_singleton_self _))
    · exact Nat.le_of_eq (congrArg Sample.seq (List.mem_singleton.mp late))

variable {run : LoggingRun F} {got : Nat → List (Sample F)}

theorem soundPage (sound : RunSound run got) (reader : Nat) :
    let page := run.samples.filter fun sample => decide (cutoff (got reader) < sample.seq)
    RunSound run (Function.update got reader (got reader ++ page)) ∧ ∀ x ∈ run.samples, x ∈ got reader ++ page := by
  intro page
  have newer (x : Sample F) (member : x ∈ page) : cutoff (got reader) < x.seq := by
    simpa using (List.mem_filter.mp member).2
  have samples : Ascending run.samples :=
    List.Pairwise.sublist (List.sublist_append_right _ _) (takenAscending sound)
  have whole (x : Sample F) (member : x ∈ run.samples) : x ∈ got reader ++ page := by
    by_cases later : cutoff (got reader) < x.seq
    · exact List.mem_append_right _ (List.mem_filter.mpr ⟨member,by simpa using later⟩)
    · rcases cutoffCases (got reader) with ⟨-,all⟩ | ⟨y,has,last⟩
      · omega
      · exact List.mem_append_left _ (sound.reached reader y has x member (by omega))
  have extended : Ascending (got reader ++ page) := by
    refine List.pairwise_append.mpr ⟨sound.ascending reader,List.Pairwise.filter _ samples,?_⟩
    intro y has x member
    have reached := cutoffReached (sound.ascending reader) y has
    have after := newer x member
    omega
  refine ⟨⟨sound.seqs,sound.total,sound.inflight,?_,?_,?_⟩,whole⟩
  · intro reader'
    by_cases this : reader' = reader
    · subst this
      simpa using extended
    · simpa [this] using sound.ascending reader'
  · intro reader' x member
    by_cases this : reader' = reader
    · subst this
      rw [Function.update_self] at member
      rcases List.mem_append.mp member with old | new
      · exact sound.inside reader' x old
      · exact List.mem_append_right _ (List.mem_of_mem_filter new)
    · rw [Function.update_of_ne this] at member
      exact sound.inside reader' x member
  · intro reader' y has x member early
    by_cases this : reader' = reader
    · subst this
      simpa using whole x member
    · rw [Function.update_of_ne this] at has ⊢
      exact sound.reached reader' y has x member early

def Unstarted (run : LoggingRun F) : Prop := run.timer = false ∧ run.stopped = false ∧ run.sampling = none

structure Sound (s : Meter F) : Prop where
  runs : ∀ r, RunSound (s.run r) fun reader => s.got reader r
  fresh : ∀ r, s.nextRun ≤ r → Unstarted (s.run r) ∧ ∀ reader, s.got reader r = []
  current : ∀ r, s.current = some r → r < s.nextRun

theorem soundStart : Sound (start : Meter F) :=
  ⟨fun _ => soundNew none 0 false,fun _ _ => ⟨⟨rfl,rfl,rfl⟩,fun _ => rfl⟩,by simp [start]⟩

variable {s : Meter F}

theorem soundSetRun (sound : Sound s) {r : Nat} {f : LoggingRun F → LoggingRun F}
    (kept : ∀ {run got}, RunSound run got → RunSound (f run) got)
    (idle : s.nextRun ≤ r → ∀ {run}, Unstarted run → Unstarted (f run)) : Sound (setRun s r f) := by
  refine ⟨?_,?_,sound.current⟩
  · intro r'
    by_cases this : r' = r
    · subst this
      simpa [setRun] using kept (sound.runs r')
    · simpa [setRun,this] using sound.runs r'
  · intro r' beyond
    obtain ⟨unstarted,got⟩ := sound.fresh r' beyond
    by_cases this : r' = r
    · subst this
      exact ⟨by simpa [setRun] using idle beyond unstarted,got⟩
    · exact ⟨by simpa [setRun,this] using unstarted,got⟩

theorem soundStartLogging (sound : Sound s) (totalSamples : Option Count) (now : Int) :
    Sound (startLogging s totalSamples now) := by
  unfold startLogging
  split
  · exact sound
  · refine ⟨?_,?_,fun r same => Option.some.inj same ▸ Nat.lt_succ_self _⟩
    · intro r
      by_cases this : r = s.nextRun
      · subst this
        have got : (fun reader => s.got reader s.nextRun) = fun _ => [] :=
          funext (sound.fresh s.nextRun (Nat.le_refl _)).2
        simpa [got] using soundNew totalSamples now true
      · simpa [this] using sound.runs r
    · intro r beyond
      have beyond : s.nextRun + 1 ≤ r := beyond
      simpa [show r ≠ s.nextRun by omega] using sound.fresh r (by omega)

theorem fetchedGot (s : Meter F) (reader r reader' r' : Nat) : (fetch s reader r).got reader' r' =
    if reader' = reader ∧ r' = r then
      s.got reader r ++ fetchLoggedSamples s r ((s.got reader r).getLast?.map Sample.seq)
    else s.got reader' r' := by
  by_cases same : reader' = reader
  · subst same
    by_cases this : r' = r
    · subst this
      simp [fetch]
    · simp [fetch,this]
  · simp [fetch,same]

theorem fetchedCurrent {r : Nat} (here : s.current = some r) (reader : Nat) :
    fetchLoggedSamples s r ((s.got reader r).getLast?.map Sample.seq) =
      (s.run r).samples.filter fun sample => decide (cutoff (s.got reader r) < sample.seq) := by
  simp [fetchLoggedSamples,here,cutoff]

theorem fetchedOther {r : Nat} (other : s.current ≠ some r) (since : Option Nat) :
    fetchLoggedSamples s r since = [] := by
  unfold fetchLoggedSamples
  split
  · rfl
  · rename_i current here
    rw [if_pos fun same => other (by rw [here,same])]

theorem soundFetch (sound : Sound s) (reader r : Nat) : Sound (fetch s reader r) := by
  by_cases here : s.current = some r
  · refine ⟨?_,?_,sound.current⟩
    · intro r'
      by_cases this : r' = r
      · subst this
        have got : (fun reader' => (fetch s reader r').got reader' r') =
            Function.update (fun reader' => s.got reader' r') reader (s.got reader r' ++
              (s.run r').samples.filter fun sample => decide (cutoff (s.got reader r') < sample.seq)) := by
          funext reader'
          rw [fetchedGot,fetchedCurrent here,Function.update_apply]
          simp
        rw [got]
        exact (soundPage (sound.runs r') reader).1
      · have got : (fun reader' => (fetch s reader r).got reader' r') = fun reader' => s.got reader' r' := by
          funext reader'
          rw [fetchedGot,if_neg fun both => this both.2]
        rw [got]
        exact sound.runs r'
    · intro r' beyond
      have other : r' ≠ r := Nat.ne_of_gt (Nat.lt_of_lt_of_le (sound.current r here) beyond)
      obtain ⟨unstarted,got⟩ := sound.fresh r' beyond
      refine ⟨unstarted,fun reader' => ?_⟩
      rw [fetchedGot,if_neg fun both => other both.2]
      exact got reader'
  · have got : (fetch s reader r).got = s.got := by
      funext reader' r'
      rw [fetchedGot,fetchedOther here,List.append_nil]
      split
      · rename_i both
        rw [both.1,both.2]
      · rfl
    refine ⟨?_,?_,sound.current⟩
    · rw [got]
      exact sound.runs
    · rw [got]
      exact sound.fresh

theorem stepSound (s : Meter F) (e : Event F) (sound : Sound s) : Sound (step s e) := by
  cases e with
  | startLogging totalSamples now => exact soundStartLogging sound totalSamples now
  | stopLogging =>
    simp only [step,stopLogging]
    split
    · rename_i r here
      exact soundSetRun sound soundStop fun beyond => absurd (sound.current r here) (Nat.not_lt_of_le beyond)
    · exact sound
  | intervalFires r =>
    refine soundSetRun sound soundFires fun _ {run} unstarted => ?_
    rwa [fires,unstarted.1,if_neg Bool.false_ne_true]
  | readSettles r outcome =>
    refine soundSetRun sound (soundReadSettles · outcome) fun _ {run} unstarted => ?_
    unfold readSettles
    rwa [unstarted.2.2]
  | finallyRuns r =>
    refine soundSetRun sound soundFinally fun _ {run} unstarted => ?_
    unfold finallyRuns
    rwa [unstarted.2.2]
  | fetchLoggedSamples reader r => exact soundFetch sound reader r

theorem Sound.numbered (sound : Sound s) : Numbered s where
  seqs r := (sound.runs r).seqs
  total r total counted := ((sound.runs r).total total counted).1
  once reader r := ⟨(sound.runs r).ascending reader,(sound.runs r).inside reader⟩

theorem Sound.pageWhole (sound : Sound s) (e : Event F) : PageWhole s e := by
  cases e with
  | fetchLoggedSamples reader r =>
    intro here x member
    have whole := (soundPage (sound.runs r) reader).2 x member
    rwa [step,fetchedGot,if_pos ⟨rfl,rfl⟩,fetchedCurrent here]
  | startLogging | stopLogging | intervalFires | readSettles | finallyRuns => trivial

def Late (s : Meter F) (r : Nat) : Prop := (s.run r).stopped ∧ (s.run r).sampling = some .reading

theorem setRunAt (s : Meter F) (r : Nat) (f : LoggingRun F → LoggingRun F) (r' : Nat) :
    (setRun s r f).run r' = if r' = r then f (s.run r) else s.run r' := Function.update_apply _ _ _ _

theorem elsewhere (sound : Sound s) (e : Event F) (other : ∀ r outcome, e ≠ .readSettles r outcome) (r : Nat) :
    ((s.run r).stopped → ((step s e).run r).taken = (s.run r).taken) ∧
      (Late (step s e) r ↔ Late s r ∨
        (e = .stopLogging ∧ s.current = some r ∧ (s.run r).sampling = some .reading)) := by
  cases e with
  | readSettles r outcome => exact absurd rfl (other r outcome)
  | fetchLoggedSamples reader r' => exact ⟨fun _ => rfl,by simp [Late,step,fetch]⟩
  | startLogging totalSamples now =>
    simp only [step,startLogging]
    split
    · simp
    · by_cases this : r = s.nextRun
      · obtain ⟨⟨-,active,-⟩,-⟩ := sound.fresh r (Nat.le_of_eq this.symm)
        exact ⟨by simp [active],by simp [Late,this,this ▸ active]⟩
      · simp [Late,this]
  | stopLogging =>
    simp only [step,stopLogging]
    split
    · rename_i current here
      by_cases this : r = current
      · subst this
        refine ⟨fun _ => by simp [setRunAt,stopRun,LoggingRun.taken],?_⟩
        simp only [Late,setRunAt,if_pos,stopRun,here,true_and]
        exact ⟨.inr,fun late => late.elim And.right id⟩
      · have elsewhere : s.current ≠ some r := fun same => this (Option.some.inj (same.symm.trans here))
        simp [Late,setRunAt,this,elsewhere]
    · rename_i none_
      simp [none_]
  | intervalFires r' =>
    simp only [step,setRunAt,Late]
    by_cases this : r = r'
    · subst this
      have idle : (s.run r).sampling = some .reading → (s.run r).inflight := by
        intro waits
        rw [(sound.runs r).inflight,waits]
        rfl
      rw [if_pos rfl,fires]
      split
      · split
        · simp
        · rename_i free
          obtain ⟨active,_⟩ := not_or.mp free
          simp [active,LoggingRun.taken]
      · simp
    · simp [this]
  | finallyRuns r' =>
    simp only [step,setRunAt,Late]
    by_cases this : r = r'
    · subst this
      rw [if_pos rfl]
      unfold finallyRuns
      split
      · rename_i waits
        dsimp only
        split <;> simp [waits,stopRun,LoggingRun.taken]
      · simp
    · simp [this]

theorem settled (r : Nat) (outcome : Option (Reading F)) (r' : Nat) :
    (((s.run r').stopped → ((step s (.readSettles r outcome)).run r').taken = (s.run r').taken) ↔
      (Late s r' → r = r' → outcome.isSome = false)) ∧
      (Late (step s (.readSettles r outcome)) r' ↔ Late s r' ∧ r ≠ r') := by
  simp only [step,setRunAt,Late]
  by_cases this : r' = r
  · subst this
    rw [if_pos rfl]
    by_cases waits : (s.run r').sampling = some .reading
    · cases outcome with
      | none => simp [readSettles,waits,LoggingRun.taken]
      | some reading =>
        obtain ⟨sample,-,taken,-⟩ := takenSample (s.run r') reading
        have settles : (readSettles (s.run r') (some reading)).taken = (s.run r').taken ++ [sample] := by
          unfold readSettles
          rw [waits]
          exact taken
        have ended : (readSettles (s.run r') (some reading)).sampling = some .settled := by
          unfold readSettles
          rw [waits]
        simp [settles,ended,waits]
    · have idle : readSettles (s.run r') outcome = s.run r' := by
        unfold readSettles
        split
        · exact absurd (by assumption) waits
        · exact absurd (by assumption) waits
        · rfl
      simp [idle,waits]
  · simp [this,Ne.symm this]

theorem lateAfter (sound : Sound s) (e : Event F) (rest : List (Event F)) :
    (NoneAfterStop s e ∧ ∀ r, Late (step s e) r → succeeds r rest = false) ↔
      (∀ r, Late s r → succeeds r (e :: rest) = false) ∧
        (e = .stopLogging → ∀ r, s.current = some r → (s.run r).sampling = some .reading →
          succeeds r rest = false) := by
  by_cases read : ∃ r outcome, e = .readSettles r outcome
  · obtain ⟨r,outcome,rfl⟩ := read
    simp only [NoneAfterStop,settled r outcome,reduceCtorEq,false_implies,and_true,← forall_and,succeeds]
    refine forall_congr' fun r' => ?_
    by_cases this : r = r'
    · simp [this]
    · simp [this]
  · have other : ∀ r outcome, e ≠ .readSettles r outcome := fun r outcome same => read ⟨r,outcome,same⟩
    have later (r) : succeeds r (e :: rest) = succeeds r rest := by
      cases e with
      | readSettles r outcome => exact absurd rfl (other r outcome)
      | startLogging | stopLogging | intervalFires | finallyRuns | fetchLoggedSamples => rfl
    simp only [later,(elsewhere sound e other _).2]
    constructor
    · rintro ⟨-,quiet⟩
      exact ⟨fun r late => quiet r (.inl late),fun stop r here waits => quiet r (.inr ⟨stop,here,waits⟩)⟩
    · rintro ⟨late,stops⟩
      refine ⟨fun r => (elsewhere sound e other r).1,?_⟩
      rintro r (before | ⟨stop,here,waits⟩)
      · exact late r before
      · exact stops stop r here waits

theorem stopsIff (events : List (Event F)) {s : Meter F} (sound : Sound s) :
    Along step NoneAfterStop s events ↔
      (∀ r, Late s r → succeeds r events = false) ∧ StopsQuietly s events := by
  induction events generalizing s with
  | nil => simp [succeeds,StopsQuietly]
  | cons e rest ih =>
    rw [alongCons,ih (stepSound s e sound),← and_assoc,lateAfter sound e rest,and_assoc]
    refine and_congr_right fun _ => ?_
    cases e with
    | stopLogging => simp [StopsQuietly]
    | startLogging | intervalFires | readSettles | finallyRuns | fetchLoggedSamples => simp [StopsQuietly]

/-- A run of the meter logs as it should exactly when no read that is awaited at a `stopLogging` for its
run succeeds afterwards. -/
theorem logsIff (events : List (Event F)) : Logs events ↔ StopsQuietly (start : Meter F) events := by
  have stops := stopsIff events (soundStart (F := F))
  have none_ : ∀ r, Late (start : Meter F) r → succeeds r events = false := by
    intro r late
    cases late.2
  constructor
  · exact fun logs => (stops.mp logs.stops).2
  · intro quiet
    refine ⟨?_,alongAlways stepSound (fun _ e sound => sound.pageWhole e) soundStart events,
      stops.mpr ⟨none_,quiet⟩⟩
    exact fun seen _ => (runKeeps stepSound seen soundStart).numbered

end

def stoppedEarly : List (Event Int) :=
  [.startLogging none 0, .intervalFires 0, .stopLogging, .readSettles 0 (some ⟨5,"V",.dcVoltage,120⟩)]

/- The sample is added behind the stop. -/
theorem lateSample : ((run step start stoppedEarly).run 0).stopped = true ∧
    ((run step start stoppedEarly).run 0).samplesEmitted = 1 ∧ ¬ Logs stoppedEarly := by
  refine ⟨by decide,by decide,?_⟩
  intro logs
  have kept := logs.stops.2.2.2.1 0 (by decide)
  exact absurd (congrArg List.length kept) (by decide +kernel)

end LxiWeb.MeterLogging
