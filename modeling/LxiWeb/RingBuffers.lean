import Mathlib.Data.List.Basic

/-! The two rings of a session: SCPI transcript lines with their sequence numbers and device
error rows. Both drop their oldest entries beyond `max`. Time stamps are left out. -/
namespace LxiWeb.RingBuffers

inductive TranscriptDirection where
  | write | query | blockWrite | blockQuery
  deriving DecidableEq, Repr

structure TranscriptRecordInput where
  direction : TranscriptDirection
  command : String
  response : Option String
  deriving DecidableEq, Repr

structure TranscriptEntry where
  input : TranscriptRecordInput
  seq : Nat
  deriving DecidableEq, Repr

structure DeviceErrorEntry where
  code : Int
  message : String
  rawLine : String
  deriving DecidableEq, Repr

-- `while (buf.length > max) buf.shift()`
def shiftTo {α : Type} (max : Nat) (buf : List α) : List α := buf.drop (buf.length - max)

structure TranscriptRing where
  max : Nat
  seq : Nat
  buf : List TranscriptEntry
  deriving DecidableEq, Repr

def TranscriptRing.create (maxSize : Nat) : TranscriptRing := ⟨Nat.max 1 maxSize,1,[]⟩

def TranscriptRing.push (ring : TranscriptRing) (input : TranscriptRecordInput) :
    TranscriptEntry × TranscriptRing :=
  let entry : TranscriptEntry := ⟨input,ring.seq⟩
  (entry,{ ring with seq := ring.seq + 1, buf := shiftTo ring.max (ring.buf ++ [entry]) })

-- The loop of `getSince`, which stops at the entry that fills the page.
def collectSince (sinceSeq limit : Nat) : List TranscriptEntry → List TranscriptEntry → List TranscriptEntry
  | out, [] => out
  | out, e :: rest =>
      if e.seq ≤ sinceSeq then collectSince sinceSeq limit out rest
      else if limit ≤ (out ++ [e]).length then out ++ [e]
      else collectSince sinceSeq limit (out ++ [e]) rest

def TranscriptRing.getSince (ring : TranscriptRing) (sinceSeq limit : Nat) : List TranscriptEntry :=
  collectSince sinceSeq limit [] ring.buf

def TranscriptRing.maxSeq (ring : TranscriptRing) : Nat := ring.seq - 1

structure DeviceErrorRing where
  max : Nat
  buf : List DeviceErrorEntry
  deriving DecidableEq, Repr

def DeviceErrorRing.create (maxSize : Nat) : DeviceErrorRing := ⟨Nat.max 1 maxSize,[]⟩

def DeviceErrorRing.pushMany (ring : DeviceErrorRing) (entries : List DeviceErrorEntry) :
    DeviceErrorRing :=
  { ring with buf := entries.foldl (fun buf e => shiftTo ring.max (buf ++ [e])) ring.buf }

def DeviceErrorRing.snapshot (ring : DeviceErrorRing) : List DeviceErrorEntry := ring.buf

def DeviceErrorRing.clear (ring : DeviceErrorRing) : DeviceErrorRing := { ring with buf := [] }

theorem shiftShort {α : Type} {max : Nat} {buf : List α} (short : buf.length ≤ max) :
    shiftTo max buf = buf := by
  rw [shiftTo,Nat.sub_eq_zero_of_le short,List.drop_zero]

theorem shiftSnoc {α : Type} {max : Nat} (pushed : List α) (entry : α) :
    shiftTo max (shiftTo max pushed ++ [entry]) = shiftTo max (pushed ++ [entry]) := by
  have early : shiftTo max pushed ++ [entry] = (pushed ++ [entry]).drop (pushed.length - max) := by
    rw [shiftTo,List.drop_append_of_le_length (Nat.sub_le _ _)]
  rw [shiftTo,early,List.drop_drop,shiftTo]
  congr 1
  simp only [List.length_drop,List.length_append,List.length_singleton]
  omega

theorem collectSublist (sinceSeq limit : Nat) (out buf : List TranscriptEntry) :
    ∃ more, collectSince sinceSeq limit out buf = out ++ more ∧ more.Sublist buf := by
  induction buf generalizing out with
  | nil => exact ⟨[],(List.append_nil out).symm,List.Sublist.refl _⟩
  | cons e rest ih =>
    unfold collectSince
    split
    · obtain ⟨more,same,inside⟩ := ih out
      exact ⟨more,same,inside.cons e⟩
    · split
      · exact ⟨[e],rfl,(List.nil_sublist rest).cons_cons e⟩
      · obtain ⟨more,same,inside⟩ := ih (out ++ [e])
        exact ⟨e :: more,by simp [same],inside.cons_cons e⟩

end LxiWeb.RingBuffers
