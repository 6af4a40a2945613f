import Mathlib.Algebra.Group.Int.Defs
import LxiWeb.JsText

/-! Numbers of the JavaScript runtime. Its arithmetic is a parameter: nothing is assumed of what
a sum or a logarithm rounds to, or of how a comparison with `NaN` comes out. -/
namespace LxiWeb.JsNumbers

/- `Number.parseFloat`, `Number.isFinite`, `Number.isInteger`, `<`, `<=`, `===`, `${n}`,
`n.toFixed(digits)`, the operators and what is used of `Math`; `ofDecimal m k` is the numeral that
reads as m / 10ᵏ. -/
structure Numbers (F : Type) where
  ofDecimal : Int → Nat → F
  nan : F
  parseFloat : String → F
  isFinite : F → Bool
  isInteger : F → Bool
  lt : F → F → Bool
  le : F → F → Bool
  same : F → F → Bool
  text : F → String
  toFixed : F → Nat → String
  neg : F → F
  sub : F → F → F
  mul : F → F → F
  log10 : F → F
  abs : F → F
  round : F → F
  min : F → F → F
  max : F → F → F

namespace Numbers
variable {F : Type} (num : Numbers F)

def ofInt (m : Int) : F := num.ofDecimal m 0

def positiveFinite (n : F) : Bool := num.isFinite n && !num.le n (num.ofInt 0)

-- the drivers' `num` and `parseNumberOrZero`
def parseNumberOrZero (raw : String) : F :=
  let n := num.parseFloat raw
  if num.isFinite n then n else num.ofInt 0

-- An id of a list that counts from one.
def integerWithin (n low high : F) : Bool := num.isInteger n && !num.lt n low && !num.lt high n

-- `if (n)`: neither zero nor `NaN`
def truthy (n : F) : Bool := num.same n n && !num.same n (num.ofInt 0)

-- how `includes` compares
def sameValueZero (m n : F) : Bool := num.same m n || (!num.same m m && !num.same n n)

end Numbers

/- The integers as a runtime's numbers; what is no integer is rounded, and zero stands for `NaN`. -/
def wholeNumbers : Numbers Int where
  ofDecimal m k := m / 10 ^ k
  nan := 0
  parseFloat text := (JsText.parseInt text).getD 0
  isFinite _ := true
  isInteger _ := true
  lt a b := decide (a < b)
  le a b := decide (a ≤ b)
  same a b := decide (a = b)
  text n := toString n
  toFixed n digits := toString n ++ "." ++ "".pushn '0' digits
  neg a := -a
  sub a b := a - b
  mul a b := a * b
  log10 n := Nat.log2 n.toNat / Nat.log2 10
  abs a := Int.natAbs a
  round a := a
  min a b := Min.min a b
  max a b := Max.max a b

inductive Json (F : Type) where
  | null
  | bool (b : Bool)
  | number (n : F)
  | text (s : String)
  | array (items : List (Json F))
  | object (fields : List (String × Json F))

namespace Json
variable {F : Type}

/- `value[name]` of a value that is neither `null` nor undefined. Of two fields with one name the
later counts; what is no object has none of the names that are asked for. -/
def field (name : String) : Json F → Option (Json F)
  | .object fields => (fields.reverse.find? fun entry => entry.1 = name).map Prod.snd
  | _ => none

def asNumber : Json F → Option F
  | .number n => some n
  | _ => none

def asBool : Json F → Option Bool
  | .bool b => some b
  | _ => none

def asText : Json F → Option String
  | .text s => some s
  | _ => none

-- `if (value)`
def truthy (num : Numbers F) : Json F → Bool
  | .null => false
  | .bool b => b
  | .number n => num.truthy n
  | .text s => s ≠ ""
  | .array _ => true
  | .object _ => true

-- `body ?? {}`
def orEmpty : Option (Json F) → Json F
  | none => .object []
  | some .null => .object []
  | some body => body

end Json

end LxiWeb.JsNumbers
