import LxiWeb.JsNumbers
import LxiWeb.WireFormats
import Mathlib.Algebra.Group.Int.Defs
import Mathlib.Algebra.Group.Nat.Defs

/-! Three scope drivers turn the bytes of a waveform block into samples. -/
namespace LxiWeb.SampleDecoders
open JsNumbers WireFormats

structure RangeError where
  message : String
  deriving DecidableEq, Repr

def signed (bits n : Nat) : Int := if 2 ^ (bits - 1) ≤ n then (n : Int) - 2 ^ bits else n

/- `DataView.prototype.getUint16` and `getInt16` on the view of a whole block. -/
def getUint16 (data : Block) (i : Nat) (littleEndian : Bool) : Except RangeError Nat :=
  if data.length < i + 2 then .error ⟨"Offset is outside the bounds of the DataView"⟩
  else match data.at_ i, data.at_ (i + 1) with
    | some a, some b => .ok (if littleEndian then a.toNat + 256 * b.toNat else 256 * a.toNat + b.toNat)
    | _, _ => .error ⟨"Offset is outside the bounds of the DataView"⟩

def getInt16 (data : Block) (i : Nat) (littleEndian : Bool) : Except RangeError Int :=
  (getUint16 data i littleEndian).map (signed 16)

/- `for (let i = 0, j = 0; i + 1 < length; i += 2, j += 1) out[j] = read(i)` -/
def words (read : Nat → Except RangeError Int) (length i j : Nat) (out : List Int) :
    Except RangeError (List Int) :=
  if i + 1 < length then do
    let sample ← read i
    words read length (i + 2) (j + 1) (out.set j sample)
  else .ok out
termination_by length - i

def decodeSamples (data : Block) (bitDepth : Nat) : Except RangeError (List Int) :=
  if 12 ≤ bitDepth then
    words (getInt16 data · true) data.length 0 0 (List.replicate (data.length / 2) 0)
  else
    .ok ((List.range data.length).map fun i =>
      let b := ((data.at_ i).getD 0).toNat
      if 127 < b then (b : Int) - 256 else b)

def decodeWordSamples (data : Block) : Except RangeError (List Int) :=
  words (fun i => (getUint16 data i false).map Int.ofNat) data.length 0 0
    (List.replicate (data.length / 2) 0)

inductive SampleWidth where
  | one | two
  deriving DecidableEq, Repr

def SampleWidth.bytes : SampleWidth → Nat
  | .one => 1
  | .two => 2

namespace TektronixMso

def sample (width : SampleWidth) (block : Block) (i : Nat) : Int :=
  match width with
  | .two =>
    let hi := ((block.at_ (i * 2)).getD 0).toNat
    let lo := ((block.at_ (i * 2 + 1)).getD 0).toNat
    let unsigned := (hi <<< 8) ||| lo
    if 0x8000 ≤ unsigned then (unsigned : Int) - 0x10000 else unsigned
  | .one =>
    let raw := ((block.at_ i).getD 0).toNat
    if 0x80 ≤ raw then (raw : Int) - 0x100 else raw

def samples (width : SampleWidth) (block : Block) : List Int :=
  (List.range (block.length / width.bytes)).map (sample width block)

structure Preamble (F : Type) where
  xIncrement : F
  xOrigin : F
  yMult : F
  yOffset : F
  yZero : F

section
variable {F : Type} (num : Numbers F) (add : F → F → F) (p : Preamble F)

def scale (sample : Int) : F :=
  add (num.mul (num.sub (num.ofInt sample) p.yOffset) p.yMult) p.yZero

/- The arrays `x` and `y` that the loop fills. -/
def axes (width : SampleWidth) (block : Block) : List F × List F :=
  let length := block.length / width.bytes
  ((List.range length).map fun i => add p.xOrigin (num.mul (num.ofInt i) p.xIncrement),
    (List.range length).map fun i => scale num add p (sample width block i))

end

end TektronixMso

def lowByte (n : Nat) : UInt8 := UInt8.ofNat (n % 256)

def signedByte : List UInt8 → Int
  | [a] => signed 8 a.toNat
  | _ => 0

def littleWord : List UInt8 → Nat
  | [a, b] => a.toNat + 256 * b.toNat
  | _ => 0

def bigWord : List UInt8 → Nat
  | [a, b] => 256 * a.toNat + b.toNat
  | _ => 0

theorem lowByteValue (n : Nat) : (lowByte n).toNat = n % 256 := by
  rw [lowByte,UInt8.toNat_ofNat']
  omega

theorem wordBytes {n : Nat} (short : n < 65536) : 256 * (n / 256 % 256) + n % 256 = n := by omega

theorem signedResidue {v : Int} (bits : Nat) (low : -2 ^ bits ≤ v) (high : v < 2 ^ bits) :
    signed (bits + 1) (v % 2 ^ (bits + 1)).toNat = v := by
  have positive : (0 : Int) < 2 ^ bits := Int.pow_pos (by decide)
  have double : (2 : Int) ^ (bits + 1) = 2 ^ bits + 2 ^ bits := by
    rw [Int.pow_succ]
    omega
  have cast : ((2 ^ bits : Nat) : Int) = 2 ^ bits := by simp
  have residue : v % 2 ^ (bits + 1) = if v < 0 then v + 2 ^ (bits + 1) else v := by
    split
    · rw [← Int.add_emod_right]
      exact Int.emod_eq_of_lt (by omega) (by omega)
    · exact Int.emod_eq_of_lt (by omega) (by omega)
  rw [signed,Nat.add_sub_cancel,residue,double]
  split <;> split <;> omega

def int8 : Format where
  width := 1
  positive := by decide
  Holds v := -128 ≤ v ∧ v ≤ 127
  encode v := [lowByte (v % 256).toNat]
  value := signedByte
  length _ := rfl
  inverse v holds := by
    have back := signedResidue 7 (v := v) (by omega) (by omega)
    simp only [signedByte,lowByteValue]
    rwa [Nat.mod_eq_of_lt (by omega)]

def int16LittleEndian : Format where
  width := 2
  positive := by decide
  Holds v := -32768 ≤ v ∧ v ≤ 32767
  encode v := [lowByte (v % 65536).toNat,lowByte ((v % 65536).toNat / 256)]
  value bytes := signed 16 (littleWord bytes)
  length _ := rfl
  inverse v holds := by
    have back := signedResidue 15 (v := v) (by omega) (by omega)
    simp only [littleWord,lowByteValue]
    rwa [Nat.add_comm,wordBytes (by omega)]

def int16BigEndian : Format where
  width := 2
  positive := by decide
  Holds v := -32768 ≤ v ∧ v ≤ 32767
  encode v := [lowByte ((v % 65536).toNat / 256),lowByte (v % 65536).toNat]
  value bytes := signed 16 (bigWord bytes)
  length _ := rfl
  inverse v holds := by
    have back := signedResidue 15 (v := v) (by omega) (by omega)
    simp only [bigWord,lowByteValue]
    rwa [wordBytes (by omega)]

def uint16BigEndian : Format where
  width := 2
  positive := by decide
  Holds v := 0 ≤ v ∧ v ≤ 65535
  encode v := [lowByte (v.toNat / 256),lowByte v.toNat]
  value bytes := bigWord bytes
  length _ := rfl
  inverse v holds := by
    simp only [bigWord,lowByteValue]
    rw [wordBytes (by omega)]
    omega

theorem getUint16Inside {data : Block} {j : Nat} (within : 2 * j + 1 < data.length) :
    getUint16 data (2 * j) true = .ok (littleWord (data.piece 2 j)) ∧
      getUint16 data (2 * j) false = .ok (bigWord (data.piece 2 j)) := by
  simp only [getUint16,if_neg (show ¬ data.length < 2 * j + 2 by omega),
    data.atByte (by omega : 2 * j < data.length),data.atByte within,data.pieceTwo within]
  exact ⟨rfl,rfl⟩

theorem wordsFrom {read : Nat → Except RangeError Int} {f : Nat → Int} {length : Nat}
    (reads : ∀ j, 2 * j + 1 < length → read (2 * j) = .ok (f j)) (written rest : List Int)
    (room : written.length + rest.length = length / 2) :
    words read length (2 * written.length) written.length (written ++ rest) =
      .ok (written ++ (List.range' written.length rest.length).map f) := by
  induction rest generalizing written with
  | nil =>
    rw [List.length_nil] at room
    rw [words,if_neg (by omega)]
    simp
  | cons first rest ih =>
    rw [List.length_cons] at room
    have within : 2 * written.length + 1 < length := by omega
    have grown : (written ++ [f written.length]).length + rest.length = length / 2 := by
      rw [List.length_append,List.length_singleton]
      omega
    have next := ih (written ++ [f written.length]) grown
    rw [words,if_pos within,reads _ within]
    simp only [List.length_append,List.length_singleton,List.append_assoc,List.singleton_append,
      Nat.mul_add] at next
    simp only [bind,Except.bind,List.set_append_right _ _ (Nat.le_refl _),Nat.sub_self,List.set_cons_zero]
    rw [next,List.length_cons,List.range'_succ,List.map_cons]

theorem wordsValues {data : Block} {format : Format} (two : format.width = 2)
    {read : Nat → Except RangeError Int}
    (reads : ∀ j, 2 * j + 1 < data.length → read (2 * j) = .ok (format.value (data.piece 2 j))) :
    words read data.length 0 0 (List.replicate (data.length / 2) 0) = .ok (format.values data) := by
  have whole := wordsFrom reads [] (List.replicate (data.length / 2) 0) (by simp)
  simp only [List.length_nil,Nat.mul_zero,List.nil_append,List.length_replicate] at whole
  rw [whole,Format.values,two,List.range_eq_range']

theorem siglentBytes (b : UInt8) :
    (if 127 < b.toNat then (b.toNat : Int) - 256 else b.toNat) = signed 8 b.toNat := by
  have same : 127 < b.toNat ↔ 2 ^ (8 - 1) ≤ b.toNat := by omega
  simp only [signed,same]
  rfl

theorem decodeSamplesValues (data : Block) (bitDepth : Nat) : decodeSamples data bitDepth =
    .ok ((if 12 ≤ bitDepth then int16LittleEndian else int8).values data) := by
  unfold decodeSamples
  split
  · refine wordsValues rfl fun j within => ?_
    rw [getInt16,(getUint16Inside within).1]
    rfl
  · refine congrArg Except.ok ?_
    rw [Format.values,show int8.width = 1 from rfl,Nat.div_one]
    refine List.map_congr_left fun j member => ?_
    have within := List.mem_range.mp member
    rw [data.pieceOne within,data.atByte within]
    exact siglentBytes _

theorem decodeWordSamplesValues (data : Block) :
    decodeWordSamples data = .ok (uint16BigEndian.values data) := by
  refine wordsValues rfl fun j within => ?_
  rw [(getUint16Inside within).2]
  rfl

def tektronixFormat : SampleWidth → Format
  | .one => int8
  | .two => int16BigEndian

theorem samplesValues (width : SampleWidth) (block : Block) :
    TektronixMso.samples width block = (tektronixFormat width).values block := by
  cases width with
  | one =>
    refine List.map_congr_left fun j member => ?_
    have within : j < block.length := by simpa [SampleWidth.bytes] using member
    rw [TektronixMso.sample,block.atByte within,show (tektronixFormat .one).width = 1 from rfl,
      block.pieceOne within]
    rfl
  | two =>
    refine List.map_congr_left fun j member => ?_
    have inside : j < block.length / 2 := List.mem_range.mp member
    have within : 2 * j + 1 < block.length := by omega
    have word : (block.byte (2 * j)).toNat <<< 8 ||| (block.byte (2 * j + 1)).toNat =
        256 * (block.byte (2 * j)).toNat + (block.byte (2 * j + 1)).toNat := by
      rw [← Nat.shiftLeft_add_eq_or_of_lt (UInt8.toNat_lt _),Nat.shiftLeft_eq,Nat.mul_comm]
    rw [TektronixMso.sample,Nat.mul_comm j 2,block.atByte (by omega : 2 * j < block.length),
      block.atByte within,show (tektronixFormat .two).width = 2 from rfl,block.pieceTwo within]
    simp only [Option.getD_some,word]
    rfl

/- Each of the decoders inverts its wire format; the Tektronix loop scales what it decodes. -/
theorem decodersInvert {F : Type} (num : Numbers F) (add : F → F → F) (p : TektronixMso.Preamble F) :
    (∀ bitDepth, Inverts (if 12 ≤ bitDepth then int16LittleEndian else int8) (decodeSamples · bitDepth)) ∧
    Inverts uint16BigEndian decodeWordSamples ∧
    ∀ width, Inverts (ε := RangeError) (tektronixFormat width) (fun block => .ok (TektronixMso.samples width block)) ∧
      ∀ block, (TektronixMso.axes num add p width block).2 =
          (TektronixMso.samples width block).map (TektronixMso.scale num add p) ∧
        (TektronixMso.axes num add p width block).1.length = block.length / width.bytes := by
  refine ⟨fun bitDepth => invertsOfValues fun block => decodeSamplesValues block bitDepth,
    invertsOfValues decodeWordSamplesValues,fun width => ⟨?_,fun block => ⟨?_,?_⟩⟩⟩
  · exact invertsOfValues fun block => congrArg Except.ok (samplesValues width block)
  · simp [TektronixMso.axes,TektronixMso.samples,Function.comp_def]
  · simp [TektronixMso.axes]

end LxiWeb.SampleDecoders
