import Mathlib.Data.List.Basic

/-! Tables with one value or none at each key, and logs of writes to them. A write says at each
key whether it keeps what is there or sets it, so one write covers an entry, a deletion and a
whole new table; at each key the last write that touches it decides. -/
namespace LxiWeb.KeyedWrites

variable {K V : Type*}

abbrev Table (K V : Type*) := K → Option V

/-- At a key: `none` keeps, `some v` sets the table to `v` there. -/
abbrev Write (K V : Type*) := K → Option (Option V)

def keep : Write K V := fun _ => none

def entry [DecidableEq K] (k : K) (v : Option V) : Write K V := fun j => if j = k then some v else none

def whole (t : Table K V) : Write K V := fun k => some (t k)

def write (t : Table K V) (w : Write K V) : Table K V := fun k => (w k).getD (t k)

def replay (t : Table K V) (log : List (Write K V)) : Table K V := log.foldl write t

def Touches (log : List (Write K V)) (k : K) : Prop := ∃ w ∈ log, (w k).isSome

@[simp] theorem writeKeep (t : Table K V) : write t keep = t := rfl

@[simp] theorem writeWhole (t s : Table K V) : write t (whole s) = s := rfl

@[simp] theorem writeSame [DecidableEq K] (t : Table K V) (k : K) (v : Option V) :
    write t (entry k v) k = v := by
  simp [write,entry]

theorem writeOther [DecidableEq K] {j k : K} (other : j ≠ k) (t : Table K V) (v : Option V) :
    write t (entry k v) j = t j := by
  simp [write,entry,other]

@[simp] theorem replayNil (t : Table K V) : replay t [] = t := rfl

@[simp] theorem replayCons (t : Table K V) (w : Write K V) (log : List (Write K V)) :
    replay t (w :: log) = replay (write t w) log := rfl

theorem replayAppend (t : Table K V) (first last : List (Write K V)) :
    replay t (first ++ last) = replay (replay t first) last := by
  simp [replay]

@[simp] theorem replaySnoc (t : Table K V) (log : List (Write K V)) (w : Write K V) :
    replay t (log ++ [w]) = write (replay t log) w := by
  simp [replay]

/-- A key that the log does not touch keeps its value. -/
theorem replayUntouched {t : Table K V} {log : List (Write K V)} {k : K}
    (untouched : ¬ Touches log k) : replay t log k = t k := by
  induction log generalizing t with
  | nil => rfl
  | cons w rest ih =>
    have here : w k = none := by
      by_contra set
      exact untouched ⟨w,List.mem_cons_self,Option.isSome_iff_ne_none.mpr set⟩
    have later : ¬ Touches rest k := by
      rintro ⟨v,member,touched⟩
      exact untouched ⟨v,List.mem_cons_of_mem _ member,touched⟩
    rw [replayCons,ih later]
    simp [write,here]

theorem replayTouched {log : List (Write K V)} {k : K} (touched : Touches log k) (t s : Table K V) :
    replay t log k = replay s log k := by
  induction log generalizing t s with
  | nil =>
    obtain ⟨w,member,_⟩ := touched
    exact absurd member List.not_mem_nil
  | cons w rest ih =>
    by_cases later : Touches rest k
    · exact ih later _ _
    · have here : (w k).isSome := by
        obtain ⟨v,member,set⟩ := touched
        rcases List.mem_cons.mp member with rfl | old
        · exact set
        · exact absurd ⟨v,old,set⟩ later
      obtain ⟨v,set⟩ := Option.isSome_iff_exists.mp here
      rw [replayCons,replayCons,replayUntouched later,replayUntouched later]
      simp [write,set]

theorem replayCongr {t s : Table K V} {k : K} (same : t k = s k) (log : List (Write K V)) :
    replay t log k = replay s log k := by
  by_cases touched : Touches log k
  · exact replayTouched touched t s
  · rw [replayUntouched touched,replayUntouched touched,same]

theorem replayShadowed {t : Table K V} {w : Write K V} {log : List (Write K V)} {k : K}
    (shadowed : (w k).isSome → Touches log k) : replay (write t w) log k = replay t log k := by
  cases here : w k with
  | none => exact replayCongr (by simp [write,here]) log
  | some v => exact replayTouched (shadowed (by simp [here])) _ t

end LxiWeb.KeyedWrites
