import Mathlib.Data.List.Infix
import LxiWeb.ScpiSession

/-! How strict the block reader of a session is: which buffers begin with a block, which may still
become one, and which it has to refuse. -/
namespace LxiWeb.BlockStrictness
open JsText ScpiFraming ScpiSession

/- A payload is read exactly where the buffer begins with its block; nothing is read, and the buffer
is left alone, exactly where the buffer is a proper prefix of a block; every other buffer is refused. -/
structure Strict (buffer : Bytes) : Prop where
  payload : ∀ payload, (∃ rest, consumeBinaryBlock buffer = .ok (some (payload,rest))) ↔
    ∃ b : Block, b.bytes <+: buffer ∧ b.payload = payload
  waits : consumeBinaryBlock buffer = .ok none ↔ ∃ b : Block, buffer <+: b.bytes ∧ buffer ≠ b.bytes
  keeps : ∀ s job, s.inFlight = some job → job.mode = .binary → s.buffer = buffer →
    consumeBinaryBlock buffer = .ok none → tryDeliver s = s
  throws : (∃ message, consumeBinaryBlock buffer = .error (scpiProtocolError message)) ↔
    ∀ b : Block, ¬ b.bytes <+: buffer ∧ ¬ buffer <+: b.bytes

def isDigit (b : UInt8) : Bool := 0x30 ≤ b && b ≤ 0x39

/- One byte is the `#`. Behind the `#` and a count from 1 to 9, the bytes of the length that are there
are digits, or they are all there and `parseInt` makes no length of them. -/
def Counted : Bytes → Prop
  | [] => True
  | [first] => first = 0x23
  | first :: second :: more => first = 0x23 → ∀ count, 1 ≤ count → count ≤ 9 →
      second.toNat = 0x30 + count → (∀ b ∈ more.take count, isDigit b) ∨
        count ≤ more.length ∧ ∀ length, parseInt (decode (more.take count)) = some length → length < 0

def Possible (buffer : Bytes) : Prop := ∃ b : Block, b.bytes <+: buffer ∨ buffer <+: b.bytes

theorem consumeBegins {b : Block} {buffer : Bytes} (begins : b.bytes <+: buffer) :
    ∃ rest, consumeBinaryBlock buffer = .ok (some (b.payload,rest)) := by
  obtain ⟨rest,rfl⟩ := begins
  refine ⟨dropTerminator rest,?_⟩
  rw [Block.bytes,List.append_assoc,consumeAfterHeader]
  simp

theorem possibleRead {buffer : Bytes} (possible : Possible buffer) :
    (∃ b : Block, b.bytes <+: buffer ∧ ∃ rest, consumeBinaryBlock buffer = .ok (some (b.payload,rest))) ∨
      (∃ b : Block, buffer <+: b.bytes ∧ buffer ≠ b.bytes) ∧ consumeBinaryBlock buffer = .ok none := by
  obtain ⟨b,begins | early⟩ := possible
  · exact .inl ⟨b,begins,consumeBegins begins⟩
  · by_cases whole : buffer = b.bytes
    · have begins : b.bytes <+: buffer := whole ▸ List.prefix_refl _
      exact .inl ⟨b,begins,consumeBegins begins⟩
    · exact .inr ⟨⟨b,early,whole⟩,consumeBlockPart b early whole⟩

theorem tryDeliverKeeps {s : Session} {job : Job} (flying : s.inFlight = some job)
    (binary : job.mode = .binary) (waits : consumeBinaryBlock s.buffer = .ok none) : tryDeliver s = s := by
  unfold tryDeliver
  rw [flying]
  simp only [binary,waits]

theorem possibleStrict {buffer : Bytes} (possible : Possible buffer) : Strict buffer := by
  have read := possibleRead possible
  refine ⟨fun payload => ⟨?_,?_⟩,⟨?_,?_⟩,?_,⟨?_,?_⟩⟩
  · rintro ⟨rest,got⟩
    rcases read with ⟨b,begins,rest',got'⟩ | ⟨_,none_⟩
    · rw [got'] at got
      obtain ⟨rfl,rfl⟩ := Prod.mk.inj (Option.some.inj (Except.ok.inj got))
      exact ⟨b,begins,rfl⟩
    · rw [none_] at got
      cases got
  · rintro ⟨b,begins,rfl⟩
    exact consumeBegins begins
  · intro none_
    rcases read with ⟨b,begins,rest,got⟩ | ⟨part,_⟩
    · rw [none_] at got
      cases got
    · exact part
  · rintro ⟨b,early,proper⟩
    exact consumeBlockPart b early proper
  · rintro s job flying binary rfl waits
    exact tryDeliverKeeps flying binary waits
  · rintro ⟨message,refused⟩
    rcases read with ⟨b,begins,rest,got⟩ | ⟨_,none_⟩
    · rw [refused] at got
      cases got
    · rw [refused] at none_
      cases none_
  · intro never
    obtain ⟨b,begins | early⟩ := possible
    · exact absurd begins (never b).1
    · exact absurd early (never b).2

theorem impossibleStrict {buffer : Bytes} (never : ¬ Possible buffer) : Strict buffer ↔
    ∃ message, consumeBinaryBlock buffer = .error (scpiProtocolError message) := by
  have neither (b : Block) : ¬ b.bytes <+: buffer ∧ ¬ buffer <+: b.bytes :=
    ⟨fun begins => never ⟨b,.inl begins⟩,fun early => never ⟨b,.inr early⟩⟩
  constructor
  · intro strict
    exact strict.throws.mpr neither
  · rintro ⟨message,refused⟩
    refine ⟨fun payload => ⟨?_,?_⟩,⟨?_,?_⟩,?_,fun _ => neither,fun _ => ⟨message,refused⟩⟩
    · rintro ⟨rest,got⟩
      rw [refused] at got
      cases got
    · rintro ⟨b,begins,_⟩
      exact absurd begins (neither b).1
    · intro none_
      rw [refused] at none_
      cases none_
    · rintro ⟨b,early,_⟩
      exact absurd early (neither b).2
    · rintro s job flying binary rfl waits
      exact tryDeliverKeeps flying binary waits

theorem digitByteDigit (d : Fin 10) : isDigit (digitByte d) := by revert d; decide

theorem digitOfByte {b : UInt8} (digit : isDigit b) : ∃ d : Fin 10, digitByte d = b := by
  simp only [isDigit,Bool.and_eq_true,decide_eq_true_eq,UInt8.le_iff_toNat_le] at digit
  have low : (0x30 : UInt8).toNat = 48 := rfl
  have high : (0x39 : UInt8).toNat = 57 := rfl
  refine ⟨⟨b.toNat - 48,by omega⟩,?_⟩
  rw [digitByte,show 48 + (b.toNat - 48) = b.toNat by omega,UInt8.ofNat_toNat]

theorem digitsOfBytes {bytes : Bytes} (digits : ∀ b ∈ bytes, isDigit b) :
    ∃ ds : List (Fin 10), ds.map digitByte = bytes := by
  induction bytes with
  | nil => exact ⟨[],rfl⟩
  | cons b rest ih =>
    obtain ⟨d,rfl⟩ := digitOfByte (digits b List.mem_cons_self)
    obtain ⟨ds,rfl⟩ := ih fun b' member => digits b' (List.mem_cons_of_mem _ member)
    exact ⟨d :: ds,rfl⟩

theorem payloadFor (length : Nat) (tail : Bytes) : ∃ payload : Bytes, payload.length = length ∧
    (payload <+: tail ∨ tail <+: payload) := by
  by_cases missing : tail.length < length
  · refine ⟨tail ++ List.replicate (length - tail.length) 0,?_,.inr (List.prefix_append _ _)⟩
    rw [List.length_append,List.length_replicate]
    omega
  · refine ⟨tail.take length,?_,.inl (List.take_prefix _ _)⟩
    rw [List.length_take]
    omega

theorem possibleShort {second : UInt8} {more : Bytes} {count : Nat} (few : count ≤ 9)
    (code : second.toNat = 0x30 + count) (digits : ∀ b ∈ more, isDigit b) (short : more.length < count) :
    Possible (0x23 :: second :: more) := by
  obtain ⟨ds,rfl⟩ := digitsOfBytes digits
  rw [List.length_map] at short
  let all := ds ++ List.replicate (count - ds.length) 0
  have length : all.length = count := by
    simp only [all,List.length_append,List.length_replicate]
    omega
  let payload : Bytes := List.replicate (digitsValue (all.map Fin.val)) 0
  have present : all ≠ [] := by
    intro none_
    rw [none_,List.length_nil] at length
    omega
  let b : Block := ⟨all,payload,(List.length_replicate ..).symm,present,by omega⟩
  have header : second = UInt8.ofNat (0x30 + all.length) := by
    rw [length,← code,UInt8.ofNat_toNat]
  refine ⟨b,.inr ⟨(List.replicate (count - ds.length) 0).map digitByte ++ payload,?_⟩⟩
  rw [header]
  simp [Block.bytes,Block.header,b,all]

theorem possibleLong {second : UInt8} {more : Bytes} {count : Nat} (some_ : 1 ≤ count) (few : count ≤ 9)
    (code : second.toNat = 0x30 + count) (digits : ∀ b ∈ more.take count, isDigit b)
    (long : count ≤ more.length) : Possible (0x23 :: second :: more) := by
  obtain ⟨ds,same⟩ := digitsOfBytes digits
  have length : ds.length = count := by
    rw [← List.length_map digitByte,same,List.length_take]
    omega
  obtain ⟨payload,counted,fits⟩ := payloadFor (digitsValue (ds.map Fin.val)) (more.drop count)
  have present : ds ≠ [] := by
    rintro rfl
    rw [List.length_nil] at length
    omega
  let b : Block := ⟨ds,payload,counted.symm,present,by omega⟩
  have whole : 0x23 :: second :: more = b.header ++ more.drop count := by
    have header : UInt8.ofNat (0x30 + ds.length) = second := by
      rw [length,← code,UInt8.ofNat_toNat]
    simp only [Block.header,b,header,same,List.cons_append,List.take_append_drop]
  refine ⟨b,?_⟩
  rw [whole,Block.bytes]
  exact fits.imp (List.prefix_append_right_inj _).mpr (List.prefix_append_right_inj _).mpr

theorem possibleHeader {first second : UInt8} {more : Bytes} (possible : Possible (first :: second :: more)) :
    first = 0x23 ∧ ∃ count, 1 ≤ count ∧ count ≤ 9 ∧ second.toNat = 0x30 + count ∧
      ∀ b ∈ more.take count, isDigit b := by
  obtain ⟨b,fits⟩ := possible
  have shape : b.bytes =
      0x23 :: UInt8.ofNat (0x30 + b.digits.length) :: (b.digits.map digitByte ++ b.payload) := rfl
  rw [shape] at fits
  simp only [List.cons_prefix_cons] at fits
  have present : 1 ≤ b.digits.length := List.length_pos_iff.mpr b.present
  have digits (bytes : Bytes) (part : bytes <+: b.digits.map digitByte) : ∀ c ∈ bytes, isDigit c := by
    intro c member
    obtain ⟨d,_,rfl⟩ := List.mem_map.mp (part.subset member)
    exact digitByteDigit d
  have taken : (b.digits.map digitByte ++ b.payload).take b.digits.length = b.digits.map digitByte := by
    rw [← List.length_map digitByte,List.take_left]
  rcases fits with ⟨rfl,rfl,rest⟩ | ⟨rfl,rfl,rest⟩
  · refine ⟨rfl,b.digits.length,present,b.short,countByte b.short,digits _ ?_⟩
    rw [← taken]
    obtain ⟨tail,rfl⟩ := rest
    rw [List.take_append_of_le_length (by simp)]
  · refine ⟨rfl,b.digits.length,present,b.short,countByte b.short,digits _ ?_⟩
    rw [← taken]
    exact List.IsPrefix.take rest _

theorem consumeCounted {second : UInt8} (more : Bytes) {count : Nat} (some_ : 1 ≤ count) (few : count ≤ 9)
    (code : second.toNat = 0x30 + count) :
    (more.length < count → consumeBinaryBlock (0x23 :: second :: more) = .ok none) ∧
    (count ≤ more.length → ((∃ message, consumeBinaryBlock (0x23 :: second :: more) =
      .error (scpiProtocolError message)) ↔
        ∀ length, parseInt (decode (more.take count)) = some length → length < 0)) := by
  have value : (second.toNat : Int) - 0x30 = count := by omega
  have digits : ((0x23 :: second :: more).take (2 + count)).drop 2 = more.take count := by
    rw [Nat.add_comm]
    rfl
  have size : (0x23 :: second :: more).length = more.length + 2 := rfl
  unfold consumeBinaryBlock
  simp only [ne_eq,not_true_eq_false,if_false,value,Int.toNat_natCast,digits,size]
  rw [if_neg (by omega)]
  constructor
  · intro short
    rw [if_pos (by omega)]
  · intro long
    rw [if_neg (by omega)]
    cases parsed : parseInt (decode (more.take count)) with
    | none => simp
    | some length =>
      by_cases negative : length < 0
      · simp [negative]
      · simp only [negative,if_false,Option.some.injEq]
        constructor
        · rintro ⟨message,refused⟩
          split at refused <;> cases refused
        · intro below
          exact absurd (below length rfl) negative

theorem countedIff (buffer : Bytes) : Counted buffer ↔ Possible buffer ∨
    ∃ message, consumeBinaryBlock buffer = .error (scpiProtocolError message) := by
  let empty : Block := ⟨[0],[],rfl,List.cons_ne_nil _ _,by decide⟩
  match buffer with
  | [] => exact iff_of_true trivial (.inl ⟨empty,.inr List.nil_prefix⟩)
  | [first] =>
    constructor
    · rintro rfl
      exact .inl ⟨empty,.inr ⟨_,rfl⟩⟩
    · rintro (⟨b,begins | early⟩ | ⟨message,refused⟩)
      · have long := begins.length_le
        rw [Block.bytes,List.length_append,b.headerLength,List.length_singleton] at long
        omega
      · exact (List.cons_prefix_cons.mp early).1
      · cases refused
  | first :: second :: more =>
    by_cases mark : first = 0x23
    swap
    · refine iff_of_true (fun same => absurd same mark) (.inr ?_)
      simp [consumeBinaryBlock,mark]
    subst mark
    by_cases counted : ∃ count, 1 ≤ count ∧ count ≤ 9 ∧ second.toNat = 0x30 + count
    swap
    · refine iff_of_true (fun _ count some_ few code => absurd ⟨count,some_,few,code⟩ counted) (.inr ?_)
      have outside : (second.toNat : Int) - 0x30 ≤ 0 ∨ (second.toNat : Int) - 0x30 > 9 := by
        by_contra inside
        exact counted ⟨second.toNat - 0x30,by omega,by omega,by omega⟩
      have refused : consumeBinaryBlock (0x23 :: second :: more) = .error (scpiProtocolError
          s!"invalid IEEE block digit-count: {(second.toNat : Int) - 0x30}") := by
        simp only [consumeBinaryBlock,ne_eq,not_true_eq_false,if_false]
        exact if_pos outside
      exact ⟨_,refused⟩
    obtain ⟨count,some_,few,code⟩ := counted
    obtain ⟨short,long⟩ := consumeCounted more some_ few code
    constructor
    · intro holds
      rcases holds rfl count some_ few code with digits | ⟨whole,negative⟩
      · rcases Nat.lt_or_ge more.length count with missing | whole
        · rw [List.take_of_length_le missing.le] at digits
          exact .inl (possibleShort few code digits missing)
        · exact .inl (possibleLong some_ few code digits whole)
      · exact .inr ((long whole).mpr negative)
    · intro right _ count' _ _ code'
      obtain rfl : count = count' := by omega
      rcases right with possible | refused
      · obtain ⟨_,count',_,_,code',digits⟩ := possibleHeader possible
        obtain rfl : count = count' := by omega
        exact .inl digits
      · rcases Nat.lt_or_ge more.length count with missing | whole
        · rw [short missing] at refused
          obtain ⟨_,refused⟩ := refused
          cases refused
        · exact .inr ⟨whole,(long whole).mp refused⟩

theorem blocksStrict (buffer : Bytes) : Strict buffer ↔ Counted buffer := by
  rw [countedIff]
  by_cases possible : Possible buffer
  · exact iff_of_true (possibleStrict possible) (.inl possible)
  · rw [impossibleStrict possible]
    exact (or_iff_right possible).symm

/- `#2+5hello`: the sign counts as one of the two digits, and `parseInt` makes 5 of them. -/
theorem signTakenForDigit : ¬ Strict [0x23,0x32,0x2B,0x35,0x68,0x65,0x6C,0x6C,0x6F] := by
  intro strict
  have read : consumeBinaryBlock [0x23,0x32,0x2B,0x35,0x68,0x65,0x6C,0x6C,0x6F] =
      .ok (some ([0x68,0x65,0x6C,0x6C,0x6F],[])) := by decide
  obtain ⟨b,begins,_⟩ := (strict.payload _).mp ⟨_,read⟩
  obtain ⟨_,count,_,_,code,digits⟩ := possibleHeader ⟨b,.inl begins⟩
  obtain rfl : count = 2 := by
    have two : (0x32 : UInt8).toNat = 50 := rfl
    omega
  have sign := digits 0x2B (by decide)
  cases sign

end LxiWeb.BlockStrictness
