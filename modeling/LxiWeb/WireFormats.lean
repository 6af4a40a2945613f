import Mathlib.Data.List.Basic
import Mathlib.Data.List.Range

/-! Values of a fixed width on a wire: a format says how a value is written, and a decoder inverts it
where it reads a block one whole value after the other. -/
namespace LxiWeb.WireFormats

/-- What stands in memory from the first byte of a block on. Behind the block, `at_` may give anything:
a decoder whose outcome does not depend on it does not read there. -/
structure Block where
  at_ : Nat → Option UInt8
  length : Nat
  inside : ∀ i < length, (at_ i).isSome

namespace Block
variable (block : Block)

def byte (i : Nat) : UInt8 := (block.at_ i).getD 0

def bytes : List UInt8 := (List.range block.length).map block.byte

/- The `j`th piece of `width` bytes. -/
def piece (width j : Nat) : List UInt8 := (block.bytes.drop (width * j)).take width

@[simp] theorem bytesLength : block.bytes.length = block.length := by simp [bytes]

theorem atByte {i : Nat} (within : i < block.length) : block.at_ i = some (block.byte i) := by
  obtain ⟨b,same⟩ := Option.isSome_iff_exists.mp (block.inside i within)
  simp [byte,same]

theorem byteAt {i : Nat} (within : i < block.length) : block.bytes[i]? = some (block.byte i) := by
  simp [bytes,within]

theorem pieceOne {j : Nat} (within : j < block.length) : block.piece 1 j = [block.byte j] := by
  apply List.ext_getElem?
  intro k
  rw [piece,Nat.one_mul,List.getElem?_take]
  split
  · obtain rfl : k = 0 := by omega
    simpa using block.byteAt within
  · rw [List.getElem?_eq_none]
    simp only [List.length_singleton]
    omega

theorem pieceTwo {j : Nat} (within : 2 * j + 1 < block.length) :
    block.piece 2 j = [block.byte (2 * j),block.byte (2 * j + 1)] := by
  apply List.ext_getElem?
  intro k
  rw [piece,List.getElem?_take]
  split
  · rw [List.getElem?_drop]
    obtain rfl | rfl : k = 0 ∨ k = 1 := by omega
    · simpa using block.byteAt (by omega : 2 * j < block.length)
    · simpa using block.byteAt within
  · rw [List.getElem?_eq_none]
    simp only [List.length_cons,List.length_nil]
    omega

end Block

structure Format where
  width : Nat
  positive : 0 < width
  Holds : Int → Prop
  encode : Int → List UInt8
  value : List UInt8 → Int
  length : ∀ v, (encode v).length = width
  inverse : ∀ v, Holds v → value (encode v) = v

/- A decoder of blocks gives back every list of values it is handed the encoding of. Of any block it
makes as many values as fit in, without the bytes that are left, and it reads nothing outside. -/
structure Inverts {ε : Type} (format : Format) (decode : Block → Except ε (List Int)) : Prop where
  roundTrip : ∀ values block, (∀ v ∈ values, format.Holds v) →
    block.bytes = values.flatMap format.encode → decode block = .ok values
  whole : ∀ block, ∃ values, decode block = .ok values ∧ values.length = block.length / format.width
  dropsPartial : ∀ block whole, whole.bytes = block.bytes.take (block.length / format.width * format.width) →
    decode whole = decode block
  inside : ∀ block other, other.bytes = block.bytes → decode other = decode block

def Format.values (format : Format) (block : Block) : List Int :=
  (List.range (block.length / format.width)).map fun j => format.value (block.piece format.width j)

theorem flatLength (format : Format) (values : List Int) :
    (values.flatMap format.encode).length = format.width * values.length := by
  induction values with
  | nil => simp
  | cons v rest ih =>
    rw [List.flatMap_cons,List.length_append,format.length,ih,List.length_cons]
    simp [Nat.mul_add,Nat.add_comm]

theorem flatPiece (format : Format) {values : List Int} {j : Nat} {v : Int} (there : values[j]? = some v) :
    ((values.flatMap format.encode).drop (format.width * j)).take format.width = format.encode v := by
  induction values generalizing j with
  | nil => simp at there
  | cons first rest ih =>
    rw [List.flatMap_cons]
    cases j with
    | zero =>
      obtain rfl : first = v := by simpa using there
      rw [Nat.mul_zero,List.drop_zero,← format.length first,List.take_left]
    | succ j =>
      have later : rest[j]? = some v := by simpa using there
      rw [Nat.mul_succ,Nat.add_comm,← List.drop_drop,List.drop_left' (format.length first)]
      exact ih later

variable {ε : Type} {format : Format} {decode : Block → Except ε (List Int)}

theorem invertsOfValues (pieces : ∀ block, decode block = .ok (format.values block)) : Inverts format decode where
  roundTrip := by
    intro values block holds same
    have length : block.length = format.width * values.length := by
      rw [← block.bytesLength,same,flatLength]
    have count : block.length / format.width = values.length := by
      rw [length,Nat.mul_div_cancel_left _ format.positive]
    rw [pieces]
    refine congrArg Except.ok (List.ext_getElem? fun j => ?_)
    rw [Format.values,count]
    cases there : values[j]? with
    | none =>
      have beyond := List.getElem?_eq_none_iff.mp there
      simp [beyond]
    | some v =>
      have within := (List.getElem?_eq_some_iff.mp there).1
      rw [List.getElem?_map,List.getElem?_range within,Option.map_some,Block.piece,same,
        flatPiece format there,format.inverse v (holds v (List.mem_of_getElem? there))]
  whole block := ⟨_,pieces block,by simp [Format.values]⟩
  dropsPartial := by
    intro block whole same
    have length : whole.length = block.length / format.width * format.width := by
      rw [← whole.bytesLength,same,List.length_take,block.bytesLength]
      exact Nat.min_eq_left (Nat.div_mul_le_self _ _)
    have count : whole.length / format.width = block.length / format.width := by
      rw [length,Nat.mul_div_cancel _ format.positive]
    rw [pieces,pieces]
    refine congrArg Except.ok ?_
    rw [Format.values,Format.values,count]
    refine List.map_congr_left fun j member => congrArg format.value ?_
    have within := List.mem_range.mp member
    have room : format.width * j + format.width ≤ block.length / format.width * format.width := by
      rw [← Nat.mul_succ,Nat.mul_comm]
      exact Nat.mul_le_mul_right _ within
    rw [Block.piece,Block.piece,same,List.drop_take,List.take_take,Nat.min_eq_left (by omega)]
  inside := by
    intro block other same
    have length : other.length = block.length := by
      rw [← other.bytesLength,same,block.bytesLength]
    rw [pieces,pieces,Format.values,Format.values,length]
    simp only [Block.piece,same]

end LxiWeb.WireFormats
