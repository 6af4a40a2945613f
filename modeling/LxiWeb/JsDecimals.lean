import Mathlib.Algebra.Group.Int.Defs
import Mathlib.Data.List.DropRight
import LxiWeb.JsText

/-! Numbers of the JavaScript runtime as exact decimals: what `${n}` writes of them, and what
`Number.parseFloat` reads of a numeral. -/
namespace LxiWeb.JsDecimals
open JsText

/- ± 0.d₁d₂…dₖ · 10 ^ point without a zero at either end; zero has no digits. -/
structure Decimal where
  negative : Bool
  digits : List (Fin 10)
  point : Int
  zero : digits = [] → negative = false ∧ point = 0
  leading : digits.head? ≠ some 0
  trailing : digits.getLast? ≠ some 0
  deriving DecidableEq

def strip (digits : List (Fin 10)) : List (Fin 10) := (digits.dropWhile (· = 0)).rdropWhile (· = 0)

theorem stripTrailing (digits : List (Fin 10)) : (strip digits).getLast? ≠ some 0 := by
  by_cases none_ : strip digits = []
  · simp [none_]
  · have other := List.rdropWhile_last_not _ _ none_
    rw [List.getLast?_eq_some_getLast none_]
    simpa [strip] using other

theorem stripLeading (digits : List (Fin 10)) : (strip digits).head? ≠ some 0 := by
  intro first
  obtain ⟨later,whole⟩ := List.rdropWhile_prefix (· = 0) (digits.dropWhile (· = 0))
  have found : (digits.dropWhile (· = 0)).head? = some 0 := by
    rw [← whole,List.head?_append]
    exact congrArg (Option.or · later.head?) first
  have other := List.head?_dropWhile_not (· = 0) digits
  simp [found] at other

namespace Decimal

def of (negative : Bool) (digits : List (Fin 10)) (point : Int) : Decimal :=
  if some_ : strip digits = [] then ⟨false,[],0,fun _ => ⟨rfl,rfl⟩,by simp,by simp⟩
  else ⟨negative,strip digits,point - (digits.takeWhile (· = 0)).length,fun none_ => absurd none_ some_,
    stripLeading digits,stripTrailing digits⟩

def significand (x : Decimal) : Int :=
  let magnitude : Int := digitsValue (x.digits.map Fin.val)
  if x.negative then -magnitude else magnitude

def exponent (x : Decimal) : Int := x.point - x.digits.length

/- `x <= y`; both sides are brought to the smaller exponent. -/
def le (x y : Decimal) : Bool :=
  x.significand * 10 ^ (x.exponent - y.exponent).toNat ≤ y.significand * 10 ^ (y.exponent - x.exponent).toNat

def lt (x y : Decimal) : Bool := !le y x

def shift (x : Decimal) (k : Int) : Decimal :=
  if some_ : x.digits = [] then x
  else { x with point := x.point + k, zero := fun none_ => absurd none_ some_ }

end Decimal

def digitsText (digits : List (Fin 10)) : List Char := digits.map digitChar

def signText (negative : Bool) : List Char := if negative then ['-'] else []

def fractionText (fraction : List (Fin 10)) : List Char :=
  if fraction = [] then [] else '.' :: digitsText fraction

def exponentText : Option Int → List Char
  | none => []
  | some e => 'e' :: (if e < 0 then '-' else '+') :: Nat.toDigits 10 e.natAbs

namespace Decimal

/- The digits before and behind the point and the exponent, as `${n}` lays them out. -/
def layout (x : Decimal) : List (Fin 10) × List (Fin 10) × Option Int :=
  if x.digits = [] then ([0],[],none)
  else if -5 ≤ x.point ∧ x.point ≤ 21 then
    if x.digits.length ≤ x.point then
      (x.digits ++ List.replicate (x.point - x.digits.length).toNat 0,[],none)
    else if 0 < x.point then (x.digits.take x.point.toNat,x.digits.drop x.point.toNat,none)
    else ([0],List.replicate (-x.point).toNat 0 ++ x.digits,none)
  else (x.digits.take 1,x.digits.drop 1,some (x.point - 1))

/- `${n}` -/
def text (x : Decimal) : List Char :=
  let (whole,fraction,exponent) := x.layout
  signText x.negative ++ digitsText whole ++ fractionText fraction ++ exponentText exponent

end Decimal

structure Numeral where
  negative : Bool
  whole : List (Fin 10)
  fraction : List (Fin 10)
  exponent : Int
  deriving DecidableEq

def digitOf (c : Char) : Fin 10 := Fin.ofNat 10 (c.toNat - 48)

/- `\d*` -/
def scanDigits (text : List Char) : List (Fin 10) × List Char :=
  ((text.takeWhile Char.isDigit).map digitOf,text.dropWhile Char.isDigit)

/- `(?:\.\d+)?` -/
def scanFraction : List Char → List (Fin 10) × List Char
  | '.' :: text => if (scanDigits text).1 = [] then ([],'.' :: text) else scanDigits text
  | text => ([],text)

/- `[+-]?` -/
def scanSign : List Char → Bool × List Char
  | '-' :: text => (true,text)
  | '+' :: text => (false,text)
  | text => (false,text)

/- `(?:[eE][+-]?\d+)?` -/
def scanExponent : List Char → Int × List Char
  | [] => (0,[])
  | c :: text =>
      let (negative,unsigned) := scanSign text
      let (digits,rest) := scanDigits unsigned
      if (c = 'e' ∨ c = 'E') ∧ digits ≠ [] then
        let magnitude : Int := digitsValue (digits.map Fin.val)
        (if negative then -magnitude else magnitude,rest)
      else (0,c :: text)

/- `-?` -/
def scanMinus : List Char → Bool × List Char
  | '-' :: text => (true,text)
  | text => (false,text)

/- What `/^-?\d+(?:\.\d+)?(?:[eE][+-]?\d+)?/` matches, and the text behind it. -/
def scanNumeral (text : List Char) : Option (Numeral × List Char) :=
  let (negative,unsigned) := scanMinus text
  let (whole,afterWhole) := scanDigits unsigned
  if whole = [] then none
  else
    let (fraction,afterFraction) := scanFraction afterWhole
    let (exponent,rest) := scanExponent afterFraction
    some (⟨negative,whole,fraction,exponent⟩,rest)

/- `Number.parseFloat` of the text that matched. -/
def parseFloat (n : Numeral) : Decimal :=
  .of n.negative (n.whole ++ n.fraction) (n.whole.length + n.exponent)

def literal (text : String) : Decimal :=
  match scanNumeral text.toList with
  | some (n,_) => parseFloat n
  | none => .of false [] 0

theorem spanExact {A : Type} {p : A → Bool} {body rest : List A} (inside : ∀ a ∈ body, p a = true)
    (ends : ∀ a, rest.head? = some a → p a = false) :
    (body ++ rest).takeWhile p = body ∧ (body ++ rest).dropWhile p = rest := by
  rw [List.takeWhile_append_of_pos inside,List.dropWhile_append_of_pos inside]
  cases rest with
  | nil => simp
  | cons a later => simp [ends a rfl]

theorem stripPadded {digits : List (Fin 10)} (some_ : digits ≠ []) (leading : digits.head? ≠ some 0)
    (trailing : digits.getLast? ≠ some 0) (before after : Nat) :
    strip (List.replicate before 0 ++ (digits ++ List.replicate after 0)) = digits ∧
      ((List.replicate before 0 ++ (digits ++ List.replicate after 0)).takeWhile (· = 0)).length = before := by
  have front : ∀ d, (digits ++ List.replicate after 0).head? = some d → decide (d = 0) = false := by
    intro d first
    rw [List.head?_append_of_ne_nil digits some_] at first
    rw [first] at leading
    simpa using leading
  have back : digits.rdropWhile (· = 0) = digits := by
    rw [List.rdropWhile_eq_self_iff]
    intro _ last
    rw [List.getLast?_eq_some_getLast some_] at trailing
    simp_all
  have tail : (digits ++ List.replicate after 0).rdropWhile (· = 0) = digits.rdropWhile (· = 0) := by
    simp [List.rdropWhile]
  have zeros : ∀ d ∈ List.replicate before (0 : Fin 10), decide (d = 0) = true := by simp
  obtain ⟨taken,dropped⟩ := spanExact zeros front
  exact ⟨by rw [strip,dropped,tail,back],by rw [taken,List.length_replicate]⟩

theorem ofPadded (x : Decimal) (some_ : x.digits ≠ []) {digits : List (Fin 10)} {point : Int} (before after : Nat)
    (padded : digits = List.replicate before 0 ++ (x.digits ++ List.replicate after 0))
    (moved : point = x.point + before) : Decimal.of x.negative digits point = x := by
  obtain ⟨kept,zeros⟩ := stripPadded some_ x.leading x.trailing before after
  rw [padded,moved,Decimal.of,dif_neg (by rw [kept]; exact some_)]
  obtain ⟨negative,digits,point,zero,leading,trailing⟩ := x
  simp only [Decimal.mk.injEq]
  exact ⟨trivial,kept,by rw [zeros]; omega⟩

theorem layoutValue (x : Decimal) : Decimal.of x.negative (x.layout.1 ++ x.layout.2.1)
    (x.layout.1.length + x.layout.2.2.getD 0) = x := by
  rw [Decimal.layout]
  split
  · rename_i none_
    obtain ⟨plain,origin⟩ := x.zero none_
    obtain ⟨negative,digits,point,zero,leading,trailing⟩ := x
    simp only at none_ plain origin
    subst none_ plain origin
    rfl
  · rename_i some_
    have long := List.length_pos_of_ne_nil some_
    split
    · split
      · refine ofPadded x some_ 0 (x.point - x.digits.length).toNat (by simp) ?_
        simp only [List.length_append,List.length_replicate,Option.getD_none]
        omega
      · split
        · refine ofPadded x some_ 0 0 (by simp) ?_
          simp only [List.length_take,Option.getD_none]
          omega
        · refine ofPadded x some_ (1 + (-x.point).toNat) 0 (by simp [List.replicate_add]) ?_
          simp only [List.length_singleton,Option.getD_none]
          omega
    · refine ofPadded x some_ 0 0 (by rw [List.take_append_drop]; simp) ?_
      simp only [List.length_take,Option.getD_some]
      omega

theorem layoutWhole (x : Decimal) : x.layout.1 ≠ [] := by
  rw [Decimal.layout]
  split
  · simp
  · rename_i some_
    split
    · split
      · simp [some_]
      · split
        · rename_i inside
          rw [ne_eq,List.take_eq_nil_iff,not_or]
          exact ⟨by omega,some_⟩
        · simp
    · simp [some_]

theorem digitOfChar (d : Fin 10) : digitOf (digitChar d) = d := by revert d; decide

theorem scanDigitsText (digits : List (Fin 10)) {rest : List Char}
    (ends : ∀ c, rest.head? = some c → c.isDigit = false) :
    scanDigits (digitsText digits ++ rest) = (digits,rest) := by
  have inside : ∀ c ∈ digitsText digits, c.isDigit = true := by
    intro c member
    obtain ⟨d,_,rfl⟩ := List.mem_map.mp member
    exact digitCharDigit d
  obtain ⟨taken,dropped⟩ := spanExact inside ends
  rw [scanDigits,taken,dropped,digitsText,List.map_map]
  simp [Function.comp_def,digitOfChar]

def Stops (text : List Char) : Prop :=
  ∀ c, text.head? = some c → c.isDigit = false ∧ c ≠ '.' ∧ c ≠ 'e' ∧ c ≠ 'E'

theorem scanExponentText (exponent : Option Int) {rest : List Char} (stops : Stops rest) :
    scanExponent (exponentText exponent ++ rest) = (exponent.getD 0,rest) := by
  cases exponent with
  | none =>
    cases rest with
    | nil => rfl
    | cons c later =>
      obtain ⟨-,-,small,large⟩ := stops c rfl
      simp [exponentText,scanExponent,small,large]
  | some e =>
    obtain ⟨digits,letters,value⟩ := decimalDigits e.natAbs
    have some_ : digits ≠ [] := by
      rintro rfl
      exact Nat.toDigits_ne_nil letters.symm
    have read := scanDigitsText digits fun c first => (stops c first).1
    rw [digitsText,letters] at read
    rw [exponentText,List.cons_append,List.cons_append,scanExponent]
    by_cases below : e < 0
    · simp only [if_pos below,scanSign,read,value]
      simp only [some_,ne_eq,not_false_eq_true,and_true,true_or,if_true,Option.getD_some]
      exact Prod.ext (by dsimp only; omega) rfl
    · simp only [if_neg below,scanSign,read,value]
      simp only [some_,ne_eq,not_false_eq_true,and_true,true_or,if_true,Bool.false_eq_true,if_false,
        Option.getD_some]
      exact Prod.ext (by dsimp only; omega) rfl

theorem exponentHead (exponent : Option Int) {rest : List Char} (stops : Stops rest) {c : Char}
    (first : (exponentText exponent ++ rest).head? = some c) : c.isDigit = false ∧ c ≠ '.' := by
  cases exponent with
  | none => exact ⟨(stops c first).1,(stops c first).2.1⟩
  | some e =>
    obtain rfl : 'e' = c := Option.some.inj first
    decide

theorem scanFractionText (fraction : List (Fin 10)) {rest : List Char}
    (ends : ∀ c, rest.head? = some c → c.isDigit = false ∧ c ≠ '.') :
    scanFraction (fractionText fraction ++ rest) = (fraction,rest) := by
  rw [fractionText]
  split
  · rename_i none_
    rw [List.nil_append,none_]
    unfold scanFraction
    split
    · exact absurd rfl (ends '.' rfl).2
    · rfl
  · rename_i some_
    rw [List.cons_append,scanFraction,scanDigitsText fraction fun c first => (ends c first).1,if_neg some_]

theorem fractionHead (fraction : List (Fin 10)) {rest : List Char}
    (ends : ∀ c, rest.head? = some c → c.isDigit = false) {c : Char}
    (first : (fractionText fraction ++ rest).head? = some c) : c.isDigit = false := by
  rw [fractionText] at first
  split at first
  · exact ends c first
  · obtain rfl : '.' = c := Option.some.inj first
    rfl

theorem scanMinusText (negative : Bool) {digits : List (Fin 10)} (some_ : digits ≠ []) (rest : List Char) :
    scanMinus (signText negative ++ (digitsText digits ++ rest)) = (negative,digitsText digits ++ rest) := by
  cases negative with
  | true => rfl
  | false =>
    obtain ⟨d,later,rfl⟩ := List.exists_cons_of_ne_nil some_
    unfold scanMinus
    split
    · rename_i text same
      exact absurd (List.cons.inj same).1 (digitCharNoSign d).1
    · rfl

/-- A number is written so that it is read back, whatever unit stands behind it. -/
theorem textRead (x : Decimal) {unit : List Char} (stops : Stops unit) :
    ∃ n, scanNumeral (x.text ++ unit) = some (n,unit) ∧ parseFloat n = x := by
  refine ⟨⟨x.negative,x.layout.1,x.layout.2.1,x.layout.2.2.getD 0⟩,?_,layoutValue x⟩
  have exponent := scanExponentText x.layout.2.2 stops
  have fraction := scanFractionText x.layout.2.1 fun _ => exponentHead x.layout.2.2 stops
  have whole := scanDigitsText x.layout.1 fun _ first =>
    fractionHead x.layout.2.1 (fun _ later => (exponentHead x.layout.2.2 stops later).1) first
  rw [Decimal.text]
  simp only [List.append_assoc]
  simp only [scanNumeral,scanMinusText x.negative (layoutWhole x),whole,fraction,exponent,if_neg (layoutWhole x)]

theorem textSome (x : Decimal) : x.text ≠ [] := by
  intro none_
  simp [Decimal.text,digitsText,layoutWhole] at none_

theorem textChars (x : Decimal) : ∀ c ∈ x.text, (∃ d, c = digitChar d) ∨ c ∈ ['-','+','.','e'] := by
  have ofDigits (digits : List (Fin 10)) : ∀ c ∈ digitsText digits, ∃ d, c = digitChar d := by
    intro c member
    obtain ⟨d,_,rfl⟩ := List.mem_map.mp member
    exact ⟨d,rfl⟩
  have ofExponent (exponent : Option Int) : ∀ c ∈ exponentText exponent,
      (∃ d, c = digitChar d) ∨ c ∈ ['-','+','.','e'] := by
    intro c member
    cases exponent with
    | none => cases member
    | some e =>
      obtain ⟨digits,letters,-⟩ := decimalDigits e.natAbs
      rw [exponentText,← letters,List.mem_cons,List.mem_cons] at member
      rcases member with rfl | rfl | member
      · exact .inr (by simp)
      · exact .inr (by split <;> simp)
      · exact .inl (ofDigits digits c member)
  intro c member
  simp only [Decimal.text,List.mem_append] at member
  rcases member with ((sign | whole) | fraction) | exponent
  · cases x.negative <;> simp_all [signText]
  · exact .inl (ofDigits _ c whole)
  · rw [fractionText] at fraction
    split at fraction
    · cases fraction
    · rcases List.mem_cons.mp fraction with rfl | member
      · exact .inr (by simp)
      · exact .inl (ofDigits _ c member)
  · exact ofExponent _ c exponent

end LxiWeb.JsDecimals
