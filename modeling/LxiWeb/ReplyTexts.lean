import LxiWeb.OutputKill
import LxiWeb.SdgWaveforms

/-! Replies of one word and what the drivers read of them: a number, a switch, a mnemonic. -/
namespace LxiWeb.ReplyTexts
open JsDecimals JsText
open SdgWaveforms (Plain UpperCase solid textPlain)

/- `\.\d*` where digits stand in front of it, `\.\d+` where none do. -/
def scanPoint (bare : Bool) : List Char → List (Fin 10) × List Char
  | '.' :: text => if bare ∧ (scanDigits text).1 = [] then ([],'.' :: text) else scanDigits text
  | text => ([],text)

/- `Number.parseFloat`; `none` are `NaN` and the infinities. -/
def parseFloat (text : List Char) : Option Decimal :=
  let (negative,unsigned) := scanSign (text.dropWhile isSpace)
  let (whole,afterWhole) := scanDigits unsigned
  let (fraction,afterFraction) := scanPoint (whole = []) afterWhole
  if whole = [] ∧ fraction = [] then none
  else some (JsDecimals.parseFloat ⟨negative,whole,fraction,(scanExponent afterFraction).1⟩)

def parseNumberOrZero (raw : String) : Decimal := (parseFloat raw.toList).getD (literal "0")

/- `Math.round`: the whole number next to it, halves upwards. -/
def round (x : Decimal) : Int :=
  if 0 ≤ x.exponent then x.significand * 10 ^ x.exponent.toNat
  else
    let unit : Int := 10 ^ (-x.exponent).toNat
    (2 * x.significand + unit) / (2 * unit)

def ofInt (n : Int) : Decimal :=
  let digits := (Nat.toDigits 10 n.natAbs).map digitOf
  .of (n < 0) digits digits.length

-- `raw.trim().toUpperCase()`
def folded (upper : UpperCase) (raw : String) : List Char := upper.apply (trim raw.toList)

def Word (text : List Char) : Prop := Plain text ∧ text.all (fun c => c.toNat < 128) = true

instance (text : List Char) : Decidable (Word text) :=
  inferInstanceAs (Decidable (Plain text ∧ text.all (fun c => c.toNat < 128) = true))

def bytesOf (text : String) : List UInt8 := text.toByteArray.data.toList

def Ascii (text : String) : Prop := (bytesOf text).all (fun b => b.toNat < 128) = true

instance (text : String) : Decidable (Ascii text) :=
  inferInstanceAs (Decidable ((bytesOf text).all (fun b => b.toNat < 128) = true))

def spell (text : String) : List Char := (bytesOf text).map fun b => Char.ofNat b.toNat

theorem spellSame {text : String} (ascii : Ascii text) : text.toList = spell text := by
  have bytes : bytesOf text = text.toList.flatMap String.utf8EncodeChar := by
    conv_lhs => rw [← String.ofList_toList (s := text)]
    simp [bytesOf,String.ofList,List.utf8Encode]
  rw [Ascii,bytes] at ascii
  rw [spell,bytes]
  generalize text.toList = chars at ascii
  induction chars with
  | nil => rfl
  | cons c rest ih =>
    rw [List.flatMap_cons,List.all_append,Bool.and_eq_true] at ascii
    rw [List.flatMap_cons,List.map_append,← ih ascii.2]
    rcases encodeCharBytes c with ⟨small,one⟩ | ⟨-,big⟩
    · have whole : (UInt8.ofNat c.val.toNat).toNat = c.toNat := by
        rw [UInt8.toNat_ofNat']
        exact Nat.mod_eq_of_lt (by omega)
      rw [one,List.map_singleton,whole,Char.ofNat_toNat]
      rfl
    · obtain ⟨b,more,first⟩ := List.exists_cons_of_ne_nil (@String.utf8EncodeChar_ne_nil c)
      have small := List.all_eq_true.mp ascii.1 b (by simp [first])
      have high := big b (by simp [first])
      simp only [decide_eq_true_eq] at small
      omega

def spells {β : Type} (table : List (String × β)) : List (List Char × β) :=
  table.map fun entry => (spell entry.1,entry.2)

theorem lookupSpelled {β : Type} {table : List (String × β)} (ascii : ∀ entry ∈ table, Ascii entry.1)
    (head : List Char) : table.lookup (String.ofList head) = (spells table).lookup head := by
  induction table with
  | nil => rfl
  | cons entry rest ih =>
    have same : (String.ofList head == entry.1) = (head == spell entry.1) := by
      rw [← spellSame (ascii entry (.head _)),Bool.eq_iff_iff,beq_iff_eq,beq_iff_eq]
      exact ⟨fun same => by rw [← same,String.toList_ofList],fun same => by rw [same,String.ofList_toList]⟩
    rw [spells,List.map_cons,List.lookup_cons,List.lookup_cons,same,ih fun e inside => ascii e (.tail _ inside)]
    rfl

section
variable {text : List Char}

theorem Word.ascii (word : Word text) {c : Char} (member : c ∈ text) : c.toNat < 128 := by
  simpa using List.all_eq_true.mp word.2 c member

theorem Word.append {more : List Char} (word : Word text) (last : Word more) : Word (text ++ more) :=
  ⟨word.1.append last.1.2,by rw [List.all_append,word.2,last.2]; rfl⟩

theorem textWord (x : Decimal) : Word x.text := by
  have digit (d : Fin 10) : decide ((digitChar d).toNat < 128) = true := by revert d; decide
  refine ⟨textPlain x,List.all_eq_true.mpr fun c member => ?_⟩
  rcases textChars x c member with ⟨d,rfl⟩ | sign
  · exact digit d
  · simp only [List.mem_cons,List.not_mem_nil,or_false] at sign
    rcases sign with rfl | rfl | rfl | rfl <;> decide

theorem countWord (n : Nat) : Word (toString n).toList := by
  have digit (d : Fin 10) : solid (digitChar d) = true ∧ (digitChar d).toNat < 128 := by revert d; decide
  obtain ⟨digits,letters,-⟩ := decimalDigits n
  rw [Nat.toString_eq_ofList_toDigits,String.toList_ofList,← letters]
  have some_ : digits.map digitChar ≠ [] := by
    rw [letters]
    exact Nat.toDigits_ne_nil
  refine ⟨⟨some_,?_⟩,?_⟩ <;> rw [List.all_map,List.all_eq_true] <;> intro d _ <;> simp [digit d]

theorem solidUpper {c : Char} (ascii : c.toNat < 128) (inside : solid c = true) :
    solid c.toUpper = true ∧ c.toUpper.toNat < 128 := by
  have all : ∀ n : Fin 128, solid (Char.ofNat n) = true →
      solid (Char.ofNat n).toUpper = true ∧ (Char.ofNat n).toUpper.toNat < 128 := by decide
  have same := all ⟨c.toNat,ascii⟩
  rw [Char.ofNat_toNat] at same
  exact same inside

theorem upperWord (upper : UpperCase) (word : Word text) : Word (upper.apply text) := by
  rw [upper.ascii text word.2]
  refine ⟨⟨by simp [word.1.1],?_⟩,?_⟩ <;> rw [List.all_map,List.all_eq_true] <;> intro c member
  · exact (solidUpper (word.ascii member) (List.all_eq_true.mp word.1.2 c member)).1
  · simpa using (solidUpper (word.ascii member) (List.all_eq_true.mp word.1.2 c member)).2

theorem foldsWord (upper : UpperCase) {text : String} (word : Word text.toList) :
    folded upper text = text.toList.map Char.toUpper := by
  rw [folded,SdgWaveforms.trimPlain word.1,upper.ascii _ word.2]

theorem writtenWord (x : Decimal) : Word (SdgWaveforms.written x).toList := by
  rw [SdgWaveforms.written,String.toList_ofList]
  exact textWord x

theorem digitsUpper (digits : List (Fin 10)) : (digitsText digits).map Char.toUpper = digitsText digits := by
  have digit (d : Fin 10) : (digitChar d).toUpper = digitChar d := by revert d; decide
  simp [digitsText,Function.comp_def,digit]

theorem scanExponentUpper (exponent : Option Int) :
    (scanExponent ((exponentText exponent).map Char.toUpper)).1 = exponent.getD 0 := by
  cases exponent with
  | none => rfl
  | some e =>
    obtain ⟨digits,letters,value⟩ := decimalDigits e.natAbs
    have some_ : digits ≠ [] := by
      rintro rfl
      exact Nat.toDigits_ne_nil letters.symm
    have read := @scanDigitsText digits [] (by simp)
    rw [List.append_nil] at read
    simp only [exponentText,← letters,List.map_cons]
    rw [← digitsText,digitsUpper]
    have big : 'e'.toUpper = 'E' := by decide
    rw [big,scanExponent]
    by_cases below : e < 0
    · have sign : '-'.toUpper = '-' := by decide
      simp only [if_pos below,sign,scanSign,read,value]
      simp only [some_,ne_eq,not_false_eq_true,and_true,or_true,if_true,Option.getD_some]
      omega
    · have sign : '+'.toUpper = '+' := by decide
      simp only [if_neg below,sign,scanSign,read,value]
      simp only [some_,ne_eq,not_false_eq_true,and_true,or_true,if_true,Bool.false_eq_true,if_false,
        Option.getD_some]
      omega

theorem signRead (negative : Bool) {digits : List (Fin 10)} (some_ : digits ≠ []) (rest : List Char) :
    scanSign ((signText negative ++ (digitsText digits ++ rest)).dropWhile isSpace) =
      (negative,digitsText digits ++ rest) := by
  obtain ⟨d,later,rfl⟩ := List.exists_cons_of_ne_nil some_
  cases negative with
  | true =>
    have solid : isSpace '-' = false := by decide
    simp [signText,solid,scanSign]
  | false =>
    simp only [signText,Bool.false_eq_true,if_false,List.nil_append,digitsText,List.map_cons,List.cons_append]
    rw [List.dropWhile_cons_of_neg (by simp [digitCharNotSpace])]
    unfold scanSign
    split
    · rename_i text same
      exact absurd (List.cons.inj same).1 (digitCharNoSign d).1
    · rename_i text same
      exact absurd (List.cons.inj same).1 (digitCharNoSign d).2
    · rfl

theorem pointRead (fraction : List (Fin 10)) {rest : List Char}
    (ends : ∀ c, rest.head? = some c → c.isDigit = false ∧ c ≠ '.') :
    scanPoint false (fractionText fraction ++ rest) = (fraction,rest) := by
  rw [fractionText]
  split
  · rename_i none_
    rw [List.nil_append,none_]
    unfold scanPoint
    split
    · exact absurd rfl (ends '.' rfl).2
    · rfl
  · rw [List.cons_append,scanPoint,scanDigitsText fraction fun c first => (ends c first).1]
    simp

theorem formRead (x : Decimal) {tail : List Char}
    (ends : ∀ c, tail.head? = some c → c.isDigit = false ∧ c ≠ '.')
    (exponent : (scanExponent tail).1 = x.layout.2.2.getD 0) :
    parseFloat (signText x.negative ++ (digitsText x.layout.1 ++ (fractionText x.layout.2.1 ++ tail))) = some x := by
  have whole := scanDigitsText x.layout.1 fun _ first =>
    fractionHead x.layout.2.1 (fun c later => (ends c later).1) first
  rw [parseFloat,signRead x.negative (layoutWhole x)]
  simp only [whole,layoutWhole,decide_false,pointRead x.layout.2.1 ends,exponent,false_and,if_false]
  exact congrArg some (layoutValue x)

theorem numberRead (x : Decimal) : parseFloat x.text = some x := by
  have stops : Stops [] := nofun
  have exponent := scanExponentText x.layout.2.2 stops
  have ends (c : Char) (first : (exponentText x.layout.2.2).head? = some c) : c.isDigit = false ∧ c ≠ '.' :=
    exponentHead x.layout.2.2 stops (by rwa [List.append_nil])
  rw [List.append_nil] at exponent
  rw [Decimal.text]
  simp only [List.append_assoc]
  exact formRead x ends (by rw [exponent])

theorem numberReadUpper (upper : UpperCase) (x : Decimal) : parseFloat (upper.apply x.text) = some x := by
  have ends (c : Char) (first : ((exponentText x.layout.2.2).map Char.toUpper).head? = some c) :
      c.isDigit = false ∧ c ≠ '.' := by
    cases exponent : x.layout.2.2 with
    | none => simp [exponent,exponentText] at first
    | some e =>
      obtain rfl : 'E' = c := by simpa [exponent,exponentText] using first
      decide
  have sign : (signText x.negative).map Char.toUpper = signText x.negative := by cases x.negative <;> decide
  have fraction : (fractionText x.layout.2.1).map Char.toUpper = fractionText x.layout.2.1 := by
    have point : '.'.toUpper = '.' := by decide
    unfold fractionText
    split
    · rfl
    · rw [List.map_cons,digitsUpper,point]
  rw [upper.ascii _ (textWord x).2,Decimal.text]
  simp only [List.map_append,sign,digitsUpper,fraction,List.append_assoc]
  exact formRead x ends (scanExponentUpper _)

theorem numberHeld {text : String} {x : Decimal}
    (holds : ∃ own : String, some text = some own ∧ Word own.toList ∧ parseFloat own.toList = some x) :
    parseNumberOrZero text = x := by
  obtain ⟨own,same,-,number⟩ := holds
  obtain rfl := Option.some.inj same
  rw [parseNumberOrZero,number]
  rfl

theorem countText (head : String) (n : Nat) :
    (s!"{head} {(n : Int)}").toList = head.toList ++ ' ' :: (toString n).toList := by
  have digits : (n : Int).repr = n.repr := rfl
  simp [toString,digits]

end

end LxiWeb.ReplyTexts
