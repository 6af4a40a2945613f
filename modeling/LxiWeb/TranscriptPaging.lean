import LxiWeb.EventRuns
import LxiWeb.RingBuffers

/-! Readers that page through a transcript ring while lines are pushed to it. -/
namespace LxiWeb.TranscriptPaging
open EventRuns RingBuffers

/- A reader asks for what is newer than the last line it got. `missed` are the lines that left the
ring before it had reached them. -/
structure Reader where
  since : Nat := 0
  received : List TranscriptEntry := []
  missed : List TranscriptEntry := []
  deriving DecidableEq, Repr

structure Paging where
  ring : TranscriptRing
  pushed : List TranscriptEntry
  reader : Nat → Reader

def start (maxSize : Nat) : Paging := ⟨.create maxSize,[],fun _ => {}⟩

inductive Event where
  | push (input : TranscriptRecordInput)
  | page (reader limit : Nat)
  deriving DecidableEq, Repr

def evicted (ring : TranscriptRing) (entry : TranscriptEntry) : List TranscriptEntry :=
  let buf := ring.buf ++ [entry]
  buf.take (buf.length - ring.max)

def Reader.misses (reader : Reader) (gone : List TranscriptEntry) : Reader :=
  { reader with missed := reader.missed ++ gone.filter fun e => reader.since < e.seq }

def lastSeq (since : Nat) (page : List TranscriptEntry) : Nat :=
  (page.getLast?.map TranscriptEntry.seq).getD since

def Reader.takes (reader : Reader) (page : List TranscriptEntry) : Reader :=
  { reader with since := lastSeq reader.since page, received := reader.received ++ page }

def step (s : Paging) : Event → Paging
  | .push input =>
      let (entry,ring) := s.ring.push input
      { ring, pushed := s.pushed ++ [entry], reader := fun r => (s.reader r).misses (evicted s.ring entry) }
  | .page r limit =>
      let page := s.ring.getSince (s.reader r).since limit
      { s with reader := Function.update s.reader r ((s.reader r).takes page) }

def waiting (s : Paging) (r : Nat) : List TranscriptEntry :=
  s.ring.buf.filter fun e => (s.reader r).since < e.seq

def Ascending (entries : List TranscriptEntry) : Prop := entries.Pairwise fun e e' => e.seq < e'.seq

/- Every line that was pushed has been received, is still there to be received, or was evicted before
the reader reached it, and only one of these. -/
structure ReadsAll (s : Paging) (r : Nat) : Prop where
  ascending : Ascending (s.reader r).received
  accounted : ((s.reader r).received ++ (s.reader r).missed ++ waiting s r).Perm s.pushed
  gone : ∀ e ∈ (s.reader r).missed, e ∉ s.ring.buf

structure Lossless (capacity : Nat) (s : Paging) : Prop where
  newest : s.ring.buf <:+ s.pushed
  full : s.ring.buf.length = min s.pushed.length capacity
  distinct : s.pushed.Nodup
  reads : ∀ r, ReadsAll s r

def PageOrdered (s : Paging) : Event → Prop
  | .push _ => True
  | .page r limit =>
      let page := s.ring.getSince (s.reader r).since limit
      Ascending page ∧ (waiting s r ≠ [] → page ≠ [])

theorem collectTaken (since limit : Nat) (out buf : List TranscriptEntry) :
    collectSince since limit out buf =
      out ++ (buf.filter fun e => since < e.seq).take (max 1 (limit - out.length)) := by
  induction buf generalizing out with
  | nil => simp [collectSince]
  | cons e rest ih =>
    by_cases old : e.seq ≤ since
    · rw [collectSince,if_pos old,ih,List.filter_cons_of_neg (by simpa using old)]
    · have new : since < e.seq := Nat.lt_of_not_le old
      rw [collectSince,if_neg old,List.filter_cons_of_pos (by simpa using new)]
      by_cases full : limit ≤ (out ++ [e]).length
      · rw [if_pos full]
        have one : max 1 (limit - out.length) = 1 := by
          rw [List.length_append,List.length_singleton] at full
          omega
        rw [one,List.take_succ_cons,List.take_zero]
      · rw [if_neg full,ih]
        rw [List.length_append,List.length_singleton] at full ⊢
        have more : max 1 (limit - out.length) = max 1 (limit - (out.length + 1)) + 1 := by omega
        rw [more,List.take_succ_cons,List.append_assoc,List.singleton_append]

theorem pageTaken (s : Paging) (r limit : Nat) :
    s.ring.getSince (s.reader r).since limit = (waiting s r).take (max 1 limit) := by
  simpa [waiting,TranscriptRing.getSince] using collectTaken (s.reader r).since limit [] s.ring.buf

theorem Ascending.nodup {entries : List TranscriptEntry} (ascending : Ascending entries) :
    entries.Nodup :=
  List.Pairwise.imp (fun less same => absurd less (by simp [same])) ascending

theorem Ascending.snoc {entries : List TranscriptEntry} {entry : TranscriptEntry}
    (ascending : Ascending entries) (above : ∀ e ∈ entries, e.seq < entry.seq) :
    Ascending (entries ++ [entry]) := by
  refine List.pairwise_append.mpr ⟨ascending,List.pairwise_singleton _ _,?_⟩
  intro e member e' last
  rw [List.mem_singleton.mp last]
  exact above e member

structure Numbered (s : Paging) : Prop where
  capacity : 1 ≤ s.ring.max
  buf : s.ring.buf = shiftTo s.ring.max s.pushed
  ascending : Ascending s.pushed
  below : ∀ e ∈ s.pushed, e.seq < s.ring.seq
  since : ∀ r, (s.reader r).since < s.ring.seq

structure Held (s : Paging) (r : Nat) : Prop where
  received : Ascending (s.reader r).received
  reached : ∀ e ∈ (s.reader r).received, e.seq ≤ (s.reader r).since
  accounted : ((s.reader r).received ++ (s.reader r).missed ++ waiting s r).Perm s.pushed
  gone : ∀ e ∈ (s.reader r).missed, e ∉ s.ring.buf

theorem Numbered.suffix {s : Paging} (numbered : Numbered s) : s.ring.buf <:+ s.pushed := by
  rw [numbered.buf]
  exact List.drop_suffix _ _

theorem Numbered.bufAscending {s : Paging} (numbered : Numbered s) : Ascending s.ring.buf :=
  List.Pairwise.sublist numbered.suffix.sublist numbered.ascending

theorem Numbered.waitingAscending {s : Paging} (numbered : Numbered s) (r : Nat) :
    Ascending (waiting s r) := List.Pairwise.filter _ numbered.bufAscending

theorem evictedSplit (ring : TranscriptRing) (input : TranscriptRecordInput) :
    evicted ring (ring.push input).1 ++ (ring.push input).2.buf = ring.buf ++ [(ring.push input).1] :=
  List.take_append_drop _ _

theorem startNumbered (maxSize : Nat) : Numbered (start maxSize) where
  capacity := Nat.le_max_left 1 maxSize
  buf := by simp [start,TranscriptRing.create,shiftTo]
  ascending := List.Pairwise.nil
  below := by simp [start]
  since _ := Nat.one_pos

theorem startHeld (maxSize r : Nat) : Held (start maxSize) r where
  received := List.Pairwise.nil
  reached := by simp [start]
  accounted := List.Perm.refl _
  gone := by simp [start]

section
variable {s : Paging} (numbered : Numbered s)

include numbered

theorem pushNumbered (input : TranscriptRecordInput) : Numbered (step s (.push input)) where
  capacity := numbered.capacity
  buf := by
    simp only [step,TranscriptRing.push]
    rw [numbered.buf,shiftSnoc]
  ascending := numbered.ascending.snoc numbered.below
  below e member := by
    rcases List.mem_append.mp member with old | new
    · exact Nat.lt_succ_of_lt (numbered.below e old)
    · rw [List.mem_singleton.mp new]
      exact Nat.lt_succ_self _
  since r := Nat.lt_succ_of_lt (numbered.since r)

theorem pushHeld {r : Nat} (held : Held s r) (input : TranscriptRecordInput) :
    Held (step s (.push input)) r := by
  have split := evictedSplit s.ring input
  have whole : Ascending (s.ring.buf ++ [(s.ring.push input).1]) :=
    numbered.bufAscending.snoc fun e member => numbered.below e (numbered.suffix.subset member)
  have new : (s.reader r).since < (s.ring.push input).1.seq := numbered.since r
  have parts : ((evicted s.ring (s.ring.push input).1).filter fun e => (s.reader r).since < e.seq) ++
      waiting (step s (.push input)) r = waiting s r ++ [(s.ring.push input).1] := by
    have last : [(s.ring.push input).1].filter (fun e => decide ((s.reader r).since < e.seq)) =
        [(s.ring.push input).1] := List.filter_cons_of_pos (by simpa using new)
    show _ ++ List.filter (fun e => decide ((s.reader r).since < e.seq)) (s.ring.push input).2.buf = _
    rw [← List.filter_append,split,List.filter_append,last,waiting]
  refine ⟨held.received,held.reached,?_,?_⟩
  · have counted := held.accounted.append_right [(s.ring.push input).1]
    rw [List.append_assoc _ (waiting s r),← parts] at counted
    simpa [step,Reader.misses] using counted
  · intro e member
    have apart := (split ▸ whole.nodup : (evicted s.ring (s.ring.push input).1 ++
      (s.ring.push input).2.buf).Nodup)
    rcases List.mem_append.mp member with old | evictedNow
    · intro retained
      have inside := split ▸ List.mem_append_right (evicted s.ring (s.ring.push input).1) retained
      rcases List.mem_append.mp inside with before | last
      · exact held.gone e old before
      · have known : e ∈ s.pushed := held.accounted.subset (by simp [old])
        rw [List.mem_singleton.mp last] at known
        exact absurd (numbered.below _ known) (Nat.lt_irrefl _)
    · intro retained
      exact (List.nodup_append.mp apart).2.2 e (List.mem_of_mem_filter evictedNow) e retained rfl

end

theorem lastReached {page : List TranscriptEntry} (ascending : Ascending page) (since : Nat) :
    ∀ e ∈ page, e.seq ≤ lastSeq since page := by
  rcases List.eq_nil_or_concat page with none_ | ⟨init,last,whole⟩
  · simp [none_]
  · subst whole
    rw [List.concat_eq_append] at ascending ⊢
    intro e member
    have named : lastSeq since (init ++ [last]) = last.seq := by simp [lastSeq]
    rw [named]
    rcases List.mem_append.mp member with early | late
    · exact Nat.le_of_lt ((List.pairwise_append.mp ascending).2.2 e early last (List.mem_singleton_self _))
    · exact Nat.le_of_eq (congrArg TranscriptEntry.seq (List.mem_singleton.mp late))

theorem newerThanPage {page rest : List TranscriptEntry} {since : Nat} (ascending : Ascending (page ++ rest))
    (newer : ∀ e ∈ page ++ rest, since < e.seq) :
    (page ++ rest).filter (fun e => lastSeq since page < e.seq) = rest := by
  obtain ⟨first,-,later⟩ := List.pairwise_append.mp ascending
  have taken : page.filter (fun e => lastSeq since page < e.seq) = [] := by
    refine List.filter_eq_nil_iff.mpr fun e member => ?_
    simpa using lastReached first since e member
  have left : rest.filter (fun e => lastSeq since page < e.seq) = rest := by
    refine List.filter_eq_self.mpr fun e member => ?_
    rcases List.eq_nil_or_concat page with none_ | ⟨init,last,whole⟩
    · simpa [none_,lastSeq] using newer e (List.mem_append_right _ member)
    · subst whole
      simpa [lastSeq] using later last (by simp) e member
  rw [List.filter_append,taken,left,List.nil_append]

theorem lastFrom {page : List TranscriptEntry} {since : Nat} (newer : ∀ e ∈ page, since < e.seq) :
    since ≤ lastSeq since page := by
  rcases List.eq_nil_or_concat page with none_ | ⟨init,last,whole⟩
  · simp [none_,lastSeq]
  · subst whole
    simpa [lastSeq] using Nat.le_of_lt (newer last (by simp))

section
variable {s : Paging} (numbered : Numbered s)

include numbered

theorem pageNumbered (r limit : Nat) : Numbered (step s (.page r limit)) where
  capacity := numbered.capacity
  buf := numbered.buf
  ascending := numbered.ascending
  below := numbered.below
  since r' := by
    by_cases this : r' = r
    · subst this
      simp only [step,pageTaken,Function.update_self,Reader.takes]
      rcases List.eq_nil_or_concat ((waiting s r').take (max 1 limit)) with none_ | ⟨init,last,whole⟩
      · rw [none_]
        exact numbered.since r'
      · have member : last ∈ (waiting s r').take (max 1 limit) := by simp [whole]
        have retained := List.mem_of_mem_filter (List.mem_of_mem_take member)
        have below := numbered.below last (numbered.suffix.subset retained)
        rw [whole]
        simpa [lastSeq] using below
    · simpa only [step,Function.update_of_ne this] using numbered.since r'

theorem pageHeld {r : Nat} (held : Held s r) (r' limit : Nat) : Held (step s (.page r' limit)) r := by
  by_cases this : r = r'
  · subst this
    let page := (waiting s r).take (max 1 limit)
    let rest := (waiting s r).drop (max 1 limit)
    have whole : page ++ rest = waiting s r := List.take_append_drop _ _
    have ordered : Ascending (page ++ rest) := whole ▸ numbered.waitingAscending r
    have newer : ∀ e ∈ page ++ rest, (s.reader r).since < e.seq := by
      intro e member
      rw [whole] at member
      simpa using (List.mem_filter.mp member).2
    have early : ∀ e ∈ page, (s.reader r).since < e.seq := fun e member =>
      newer e (List.mem_append_left _ member)
    have reader : (step s (.page r limit)).reader r = (s.reader r).takes page := by
      simp only [step,pageTaken,Function.update_self,page]
    have left : waiting (step s (.page r limit)) r = rest := by
      have again := newerThanPage ordered newer
      rw [whole,waiting,List.filter_filter] at again
      rw [waiting,reader,← again]
      refine List.filter_congr fun e _ => ?_
      have onward := lastFrom early
      rw [Bool.eq_iff_iff,Bool.and_eq_true,decide_eq_true_eq,decide_eq_true_eq,decide_eq_true_eq]
      exact ⟨fun after => ⟨after,Nat.lt_of_le_of_lt onward after⟩,And.left⟩
    refine ⟨?_,?_,?_,?_⟩
    · rw [reader]
      refine List.pairwise_append.mpr ⟨held.received,(List.pairwise_append.mp ordered).1,?_⟩
      intro e got e' member
      exact Nat.lt_of_le_of_lt (held.reached e got) (early e' member)
    · rw [reader]
      intro e member
      rcases List.mem_append.mp member with old | new
      · exact Nat.le_trans (held.reached e old) (lastFrom early)
      · exact lastReached (List.pairwise_append.mp ordered).1 _ e new
    · rw [left,reader]
      -- the page changes places with what was missed
      have moved : ((s.reader r).received ++ page ++ (s.reader r).missed ++ rest).Perm
          ((s.reader r).received ++ (s.reader r).missed ++ (page ++ rest)) := by
        simp only [List.append_assoc]
        refine List.Perm.append_left _ ?_
        rw [← List.append_assoc,← List.append_assoc]
        exact List.Perm.append_right _ List.perm_append_comm
      exact moved.trans (whole ▸ held.accounted)
    · rw [reader]
      exact held.gone
  · have reader : (step s (.page r' limit)).reader r = s.reader r := Function.update_of_ne this _ _
    have left : waiting (step s (.page r' limit)) r = waiting s r := by
      rw [waiting,reader]
      rfl
    exact ⟨reader ▸ held.received,reader ▸ held.reached,left ▸ reader ▸ held.accounted,reader ▸ held.gone⟩

end

structure Sound (maxSize : Nat) (s : Paging) : Prop where
  max : s.ring.max = Nat.max 1 maxSize
  numbered : Numbered s
  held : ∀ r, Held s r

theorem stepSound (maxSize : Nat) (s : Paging) (e : Event) (sound : Sound maxSize s) :
    Sound maxSize (step s e) := by
  cases e with
  | push input =>
    exact ⟨sound.max,pushNumbered sound.numbered input,
      fun r => pushHeld sound.numbered (sound.held r) input⟩
  | page r limit =>
    exact ⟨sound.max,pageNumbered sound.numbered r limit,
      fun r' => pageHeld sound.numbered (sound.held r') r limit⟩

theorem Sound.lossless {maxSize : Nat} {s : Paging} (sound : Sound maxSize s) :
    Lossless (Nat.max 1 maxSize) s where
  newest := sound.numbered.suffix
  full := by
    rw [sound.numbered.buf,shiftTo,List.length_drop,sound.max]
    omega
  distinct := sound.numbered.ascending.nodup
  reads r := ⟨(sound.held r).received,(sound.held r).accounted,(sound.held r).gone⟩

theorem Sound.pageOrdered {maxSize : Nat} {s : Paging} (sound : Sound maxSize s) (e : Event) :
    PageOrdered s e := by
  cases e with
  | push input => trivial
  | page r limit =>
    simp only [PageOrdered,pageTaken]
    refine ⟨List.Pairwise.sublist (List.take_sublist _ _) (sound.numbered.waitingAscending r),?_⟩
    intro newer empty
    rcases List.take_eq_nil_iff.mp empty with zero | none_
    · omega
    · exact newer none_

/-- A ring of any size holds the newest lines, and whoever pages through it gets every line once and
in order, but for those that had left the ring before they were reached. -/
theorem pagingLossless (maxSize : Nat) (events : List Event) :
    Throughout step (Lossless (Nat.max 1 maxSize)) (start maxSize) events ∧
      Along step PageOrdered (start maxSize) events := by
  have begin_ : Sound maxSize (start maxSize) :=
    ⟨rfl,startNumbered maxSize,startHeld maxSize⟩
  constructor
  · intro seen _
    exact (runKeeps (stepSound maxSize) seen begin_).lossless
  · exact alongAlways (stepSound maxSize) (fun _ e sound => sound.pageOrdered e) begin_ events

end LxiWeb.TranscriptPaging
