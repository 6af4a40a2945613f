import Mathlib.Data.List.Sort
import Mathlib.Order.Basic

/-! Rows that carry a key, merged the way a map from keys to rows does it: a row whose key is there
replaces the one it finds, another is added, and the rows are read out in the order of their keys. -/
namespace LxiWeb.KeyedMerge

variable {α K : Type*} [LinearOrder K] (key : α → K)

def put (rows : List α) (row : α) : List α :=
  if ∃ old ∈ rows, key old = key row then rows.map fun old => if key old = key row then row else old
  else rows ++ [row]

def sortByKey (rows : List α) : List α := rows.mergeSort fun row later => key row ≤ key later

def merge (shown batch : List α) : List α := sortByKey key ((shown ++ batch).foldl (put key) [])

/-- Strictly increasing keys. -/
def Increasing (rows : List α) : Prop := rows.Pairwise fun row later => key row < key later

instance (rows : List α) : Decidable (Increasing key rows) :=
  inferInstanceAs (Decidable (List.Pairwise _ _))

variable {key}

@[simp] theorem increasingNil : Increasing key [] := List.Pairwise.nil

theorem increasingSnoc {rows : List α} {row : α} :
    Increasing key (rows ++ [row]) ↔ Increasing key rows ∧ ∀ old ∈ rows, key old < key row := by
  simp [Increasing,List.pairwise_append]

theorem Increasing.nodup {rows : List α} (increasing : Increasing key rows) : rows.Nodup :=
  List.Pairwise.imp (fun less => ne_of_apply_ne key (ne_of_lt less)) increasing

theorem Increasing.sublist {rows whole : List α} (increasing : Increasing key whole)
    (inside : rows.Sublist whole) : Increasing key rows := List.Pairwise.sublist inside increasing

theorem Increasing.unique {rows : List α} (increasing : Increasing key rows) {row other : α}
    (member : row ∈ rows) (member' : other ∈ rows) (same : key row = key other) : row = other := by
  have keys : (rows.map key).Nodup := List.pairwise_map.mpr (increasing.imp ne_of_lt)
  exact List.inj_on_of_nodup_map keys member member' same

theorem Increasing.ext {rows others : List α} (increasing : Increasing key rows)
    (increasing' : Increasing key others) (same : ∀ row, row ∈ rows ↔ row ∈ others) :
    rows = others := by
  have perm := (List.perm_ext_iff_of_nodup increasing.nodup increasing'.nodup).mpr same
  refine perm.eq_of_pairwise ?_ increasing increasing'
  intro row other _ _ less more
  exact absurd (lt_trans less more) (lt_irrefl _)

theorem keysPut {rows : List α} (nodup : (rows.map key).Nodup) (row : α) :
    ((put key rows row).map key).Nodup := by
  unfold put
  split
  · have same : (rows.map fun old => if key old = key row then row else old).map key =
        rows.map key := by
      rw [List.map_map]
      apply List.map_congr_left
      intro old _
      simp only [Function.comp_apply]
      split
      · rename_i here
        exact here.symm
      · rfl
    rwa [same]
  · rename_i free
    rw [List.map_append,List.nodup_append]
    refine ⟨nodup,List.nodup_singleton _,?_⟩
    intro k member k' member'
    obtain ⟨old,inside,rfl⟩ := List.mem_map.mp member
    obtain rfl : k' = key row := by simpa using member'
    exact fun same => free ⟨old,inside,same⟩

theorem memPut {rows : List α} {row x : α} :
    x ∈ put key rows row ↔ x = row ∨ x ∈ rows ∧ key x ≠ key row := by
  unfold put
  split
  · rename_i found
    obtain ⟨old,inside,same⟩ := found
    simp only [List.mem_map]
    constructor
    · rintro ⟨y,member,rfl⟩
      split
      · exact .inl rfl
      · rename_i other
        exact .inr ⟨member,other⟩
    · rintro (rfl | ⟨member,other⟩)
      · exact ⟨old,inside,if_pos same⟩
      · exact ⟨x,member,if_neg other⟩
  · rename_i free
    rw [List.mem_append,List.mem_singleton]
    constructor
    · rintro (member | rfl)
      · exact .inr ⟨member,fun same => free ⟨x,member,same⟩⟩
      · exact .inl rfl
    · rintro (rfl | ⟨member,_⟩)
      · exact .inr rfl
      · exact .inl member

theorem keysPutAll (rows batch : List α) (nodup : (rows.map key).Nodup) :
    ((batch.foldl (put key) rows).map key).Nodup := by
  induction batch generalizing rows with
  | nil => exact nodup
  | cons row rest ih => exact ih _ (keysPut nodup row)

theorem memPutAll {rows batch : List α} {x : α}
    (agree : ∀ row ∈ rows ++ batch, ∀ other ∈ rows ++ batch, key row = key other → row = other) :
    x ∈ batch.foldl (put key) rows ↔ x ∈ rows ∨ x ∈ batch := by
  induction batch generalizing rows with
  | nil => simp
  | cons row rest ih =>
    have inside {y} (member : y ∈ put key rows row) : y ∈ rows ++ row :: rest := by
      rcases memPut.mp member with rfl | ⟨old,_⟩
      · simp
      · simp [old]
    have keep (y) : y ∈ put key rows row ++ rest → y ∈ rows ++ row :: rest := by
      intro member
      rcases List.mem_append.mp member with here | later
      · exact inside here
      · simp [later]
    rw [List.foldl_cons,ih fun y member z member' => agree y (keep y member) z (keep z member'),memPut]
    constructor
    · rintro ((rfl | ⟨old,_⟩) | later)
      · simp
      · exact .inl old
      · simp [later]
    · rintro (old | member)
      · by_cases same : key x = key row
        · exact .inl (.inl (agree x (by simp [old]) row (by simp) same))
        · exact .inl (.inr ⟨old,same⟩)
      · rcases List.mem_cons.mp member with rfl | later
        · exact .inl (.inl rfl)
        · exact .inr later

theorem increasingMerge (shown batch : List α) : Increasing key (merge key shown batch) := by
  have nodup : ((merge key shown batch).map key).Nodup := by
    have perm := (List.mergeSort_perm ((shown ++ batch).foldl (put key) [])
      fun row later => decide (key row ≤ key later)).map key
    exact (perm.nodup_iff).mpr (keysPutAll [] _ List.nodup_nil)
  have sorted : (merge key shown batch).Pairwise fun row later => decide (key row ≤ key later) := by
    apply List.pairwise_mergeSort
    · intro a b c first second
      simpa using le_trans (by simpa using first) (by simpa using second)
    · intro a b
      simpa using le_total (key a) (key b)
  have distinct : (merge key shown batch).Pairwise fun row later => key row ≠ key later :=
    List.pairwise_map.mp nodup
  apply (sorted.and distinct).imp
  intro row later both
  exact lt_of_le_of_ne (by simpa using both.1) both.2

theorem memMerge {shown batch : List α} {x : α}
    (agree : ∀ row ∈ shown ++ batch, ∀ other ∈ shown ++ batch, key row = key other → row = other) :
    x ∈ merge key shown batch ↔ x ∈ shown ∨ x ∈ batch := by
  rw [merge,sortByKey,List.mem_mergeSort,memPutAll (by simpa using agree)]
  simp

/-- Merging parts of increasing rows gives those of the rows that are in one part or the other. -/
theorem mergeParts {shown batch whole : List α} (increasing : Increasing key whole)
    (same : ∀ row, row ∈ whole ↔ row ∈ shown ∨ row ∈ batch) : merge key shown batch = whole := by
  have inside (row) (member : row ∈ shown ++ batch) : row ∈ whole :=
    (same row).mpr (List.mem_append.mp member)
  apply (increasingMerge shown batch).ext increasing
  intro row
  rw [same row]
  exact memMerge fun row member other member' =>
    increasing.unique (inside row member) (inside other member')

end LxiWeb.KeyedMerge
