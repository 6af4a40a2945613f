import Mathlib.Data.List.Basic
import Mathlib.Data.List.TakeWhile

/-! Text as the JavaScript runtime handles it: `TextEncoder`, `TextDecoder` (UTF-8 with
replacement, a leading byte order mark dropped) and `Number.parseInt(text, 10)`. -/
namespace LxiWeb.JsText

abbrev Bytes := List UInt8

def encode (text : String) : Bytes := text.toList.flatMap String.utf8EncodeChar

structure Partial where
  point : Nat
  needed : Nat
  lower : UInt8
  upper : UInt8
  deriving DecidableEq, Repr

def replacement : Char := Char.ofNat 0xFFFD

def startByte (b : UInt8) : List Char × Option Partial :=
  if b ≤ 0x7F then ([Char.ofNat b.toNat], none)
  else if 0xC2 ≤ b ∧ b ≤ 0xDF then ([], some ⟨b.toNat % 32, 1, 0x80, 0xBF⟩)
  else if b = 0xE0 then ([], some ⟨0, 2, 0xA0, 0xBF⟩)
  else if b = 0xED then ([], some ⟨13, 2, 0x80, 0x9F⟩)
  else if 0xE1 ≤ b ∧ b ≤ 0xEF then ([], some ⟨b.toNat % 16, 2, 0x80, 0xBF⟩)
  else if b = 0xF0 then ([], some ⟨0, 3, 0x90, 0xBF⟩)
  else if 0xF1 ≤ b ∧ b ≤ 0xF3 then ([], some ⟨b.toNat % 8, 3, 0x80, 0xBF⟩)
  else if b = 0xF4 then ([], some ⟨4, 3, 0x80, 0x8F⟩)
  else ([replacement], none)

def decodeChars : Option Partial → Bytes → List Char
  | none, [] => []
  | some _, [] => [replacement]
  | none, b :: rest => (startByte b).1 ++ decodeChars (startByte b).2 rest
  | some p, b :: rest =>
      if p.lower ≤ b ∧ b ≤ p.upper then
        let point := p.point * 64 + b.toNat % 64
        if p.needed = 1 then Char.ofNat point :: decodeChars none rest
        else decodeChars (some ⟨point, p.needed - 1, 0x80, 0xBF⟩) rest
      else
        -- the byte that breaks the sequence starts the next character
        replacement :: (startByte b).1 ++ decodeChars (startByte b).2 rest

def decode (bytes : Bytes) : String :=
  match bytes with
  | 0xEF :: 0xBB :: 0xBF :: rest => String.ofList (decodeChars none rest)
  | _ => String.ofList (decodeChars none bytes)

/- White space and line terminators, as `String.prototype.trim` and `parseInt` skip them. -/
def isSpace (c : Char) : Bool :=
  c.toNat ∈ [0x09, 0x0A, 0x0B, 0x0C, 0x0D, 0x20, 0xA0, 0x1680, 0x2028, 0x2029, 0x202F, 0x205F,
    0x3000, 0xFEFF] || (0x2000 ≤ c.toNat && c.toNat ≤ 0x200A)

def trim (text : List Char) : List Char :=
  ((text.dropWhile isSpace).reverse.dropWhile isSpace).reverse

-- Outside ASCII, two letters have a capital that is one ASCII letter.
def capital (c : Char) : Char :=
  if c.toNat = 0x17F then 'S' else if c.toNat = 0x131 then 'I' else c.toUpper

def digitsValue (digits : List Nat) : Nat := digits.foldl (fun n d => 10 * n + d) 0

def leadingDigits (text : List Char) : List Nat :=
  (text.takeWhile Char.isDigit).map (fun c => c.toNat - 48)

def unsignedInt (text : List Char) : Option Int :=
  if leadingDigits text = [] then none else some (digitsValue (leadingDigits text))

/- `Number.parseInt(text, 10)`: `none` is `NaN`. -/
def parseInt (text : String) : Option Int :=
  match text.toList.dropWhile isSpace with
  | '-' :: t => (unsignedInt t).map (fun n => -n)
  | '+' :: t => unsignedInt t
  | t => unsignedInt t

def digitByte (d : Fin 10) : UInt8 := UInt8.ofNat (48 + d.val)

def digitChar (d : Fin 10) : Char := Char.ofNat (48 + d.val)

theorem startDigit (d : Fin 10) : startByte (digitByte d) = ([digitChar d], none) := by
  revert d; decide

theorem decodeCharsDigits (digits : List (Fin 10)) :
    decodeChars none (digits.map digitByte) = digits.map digitChar := by
  induction digits with
  | nil => rfl
  | cons d rest ih => simp [decodeChars, startDigit, ih]

theorem digitByteNotMark (d : Fin 10) : digitByte d ≠ 0xEF := by revert d; decide

theorem decodeDigits (digits : List (Fin 10)) :
    decode (digits.map digitByte) = String.ofList (digits.map digitChar) := by
  unfold decode
  split
  · rename_i rest same
    cases digits with
    | nil => simp at same
    | cons d ds => exact absurd (List.cons.inj same).1 (digitByteNotMark d)
  · rw [decodeCharsDigits]

theorem digitCharDigit (d : Fin 10) : (digitChar d).isDigit = true := by revert d; decide

theorem digitCharValue (d : Fin 10) : (digitChar d).toNat - 48 = d.val := by revert d; decide

theorem digitCharNotSpace (d : Fin 10) : isSpace (digitChar d) = false := by revert d; decide

theorem digitCharNoSign (d : Fin 10) : digitChar d ≠ '-' ∧ digitChar d ≠ '+' := by
  revert d; decide

theorem digitCharNat (d : Fin 10) : digitChar d = d.val.digitChar := by revert d; decide

theorem decimalDigits (n : Nat) : ∃ digits : List (Fin 10),
    digits.map digitChar = Nat.toDigits 10 n ∧ digitsValue (digits.map Fin.val) = n := by
  induction n using Nat.strongRecOn with
  | ind n ih =>
    by_cases one : n < 10
    · exact ⟨[⟨n,one⟩],by simp [Nat.toDigits_of_lt_base one,digitCharNat],by simp [digitsValue]⟩
    · obtain ⟨digits,letters,value⟩ := ih (n / 10) (by omega)
      refine ⟨digits ++ [⟨n % 10,by omega⟩],?_,?_⟩
      · rw [Nat.toDigits_of_base_le (by decide) (by omega),List.map_append,letters]
        simp [digitCharNat]
      · simp only [digitsValue,List.map_append,List.foldl_append] at value ⊢
        rw [value]
        simp only [List.map_cons,List.map_nil,List.foldl_cons,List.foldl_nil]
        omega

theorem leadingDigitsDigits (digits : List (Fin 10)) :
    leadingDigits (digits.map digitChar) = digits.map Fin.val := by
  have all : (digits.map digitChar).takeWhile Char.isDigit = digits.map digitChar := by
    rw [List.takeWhile_eq_self_iff]
    intro c member
    obtain ⟨d, _, rfl⟩ := List.mem_map.mp member
    exact digitCharDigit d
  simp [leadingDigits, all, Function.comp_def, digitCharValue]

theorem unsignedIntDigits (digits : List (Fin 10)) (some : digits ≠ []) :
    unsignedInt (digits.map digitChar) = .some (digitsValue (digits.map Fin.val) : Int) := by
  rw [unsignedInt, leadingDigitsDigits, if_neg (by simpa using some)]

theorem parseIntDigits (digits : List (Fin 10)) (some : digits ≠ []) :
    parseInt (decode (digits.map digitByte)) = .some (digitsValue (digits.map Fin.val) : Int) := by
  obtain ⟨d, rest, rfl⟩ := List.exists_cons_of_ne_nil some
  have kept : ((d :: rest).map digitChar).dropWhile isSpace = (d :: rest).map digitChar := by
    simp [digitCharNotSpace]
  unfold parseInt
  rw [decodeDigits, String.toList_ofList, kept]
  split
  · rename_i t same
    exact absurd (List.cons.inj same).1 (digitCharNoSign d).1
  · rename_i t same
    exact absurd (List.cons.inj same).1 (digitCharNoSign d).2
  · exact unsignedIntDigits (d :: rest) some

theorem startOne (n : Fin 128) : startByte (UInt8.ofNat n.val) = ([Char.ofNat n.val],none) := by
  revert n; decide

theorem startTwo (n : Fin 32) (long : 2 ≤ n.val) :
    startByte (UInt8.ofNat (n.val + 0xc0)) = ([],some ⟨n.val,1,0x80,0xBF⟩) := by
  revert n; decide

theorem startThree (n : Fin 16) : startByte (UInt8.ofNat (n.val + 0xe0)) =
    ([],some ⟨n.val,2,if n.val = 0 then 0xA0 else 0x80,if n.val = 13 then 0x9F else 0xBF⟩) := by
  revert n; decide

theorem startFour (n : Fin 5) : startByte (UInt8.ofNat (n.val + 0xf0)) =
    ([],some ⟨n.val,3,if n.val = 0 then 0x90 else 0x80,if n.val = 4 then 0x8F else 0xBF⟩) := by
  revert n; decide

theorem decodeTail {point needed n : Nat} {lower upper : UInt8} (rest : Bytes)
    (above : lower.toNat ≤ n % 64 + 0x80) (below : n % 64 + 0x80 ≤ upper.toNat) :
    decodeChars (some ⟨point,needed,lower,upper⟩) (UInt8.ofNat (n % 64 + 0x80) :: rest) =
      if needed = 1 then Char.ofNat (point * 64 + n % 64) :: decodeChars none rest
      else decodeChars (some ⟨point * 64 + n % 64,needed - 1,0x80,0xBF⟩) rest := by
  have code : (UInt8.ofNat (n % 64 + 0x80)).toNat = n % 64 + 0x80 := by
    rw [UInt8.toNat_ofNat']
    omega
  have inside : lower ≤ UInt8.ofNat (n % 64 + 0x80) ∧ UInt8.ofNat (n % 64 + 0x80) ≤ upper := by
    rw [UInt8.le_iff_toNat_le,UInt8.le_iff_toNat_le,code]
    exact ⟨above,below⟩
  have value : (n % 64 + 0x80) % 64 = n % 64 := by omega
  rw [decodeChars,if_pos inside,code,value]

theorem decodePlain {point needed n : Nat} (rest : Bytes) :
    decodeChars (some ⟨point,needed,0x80,0xBF⟩) (UInt8.ofNat (n % 64 + 0x80) :: rest) =
      if needed = 1 then Char.ofNat (point * 64 + n % 64) :: decodeChars none rest
      else decodeChars (some ⟨point * 64 + n % 64,needed - 1,0x80,0xBF⟩) rest := by
  have top : (0xBF : UInt8).toNat = 0xBF := rfl
  have bottom : (0x80 : UInt8).toNat = 0x80 := rfl
  exact decodeTail rest (by omega) (by omega)

section
variable {v : Nat} (rest : Bytes)

theorem decodeTwo (long : 0x7f < v) (short : v ≤ 0x7ff) :
    decodeChars none (UInt8.ofNat (v / 64 % 0x20 + 0xc0) :: UInt8.ofNat (v % 0x40 + 0x80) :: rest) =
      Char.ofNat v :: decodeChars none rest := by
  have start := startTwo ⟨v / 64 % 32,by omega⟩ (by simp only; omega)
  have value : v / 64 % 32 * 64 + v % 64 = v := by omega
  rw [decodeChars,start,decodePlain,if_pos rfl,value,List.nil_append]

theorem decodeThree (long : 0x7ff < v) (short : v ≤ 0xffff) (scalar : v < 0xd800 ∨ 0xdfff < v) :
    decodeChars none (UInt8.ofNat (v / 4096 % 0x10 + 0xe0) :: UInt8.ofNat (v / 64 % 0x40 + 0x80) ::
      UInt8.ofNat (v % 0x40 + 0x80) :: rest) = Char.ofNat v :: decodeChars none rest := by
  have start := startThree ⟨v / 4096 % 16,by omega⟩
  have value : (v / 4096 % 16 * 64 + v / 64 % 64) * 64 + v % 64 = v := by omega
  have above : (if v / 4096 % 16 = 0 then 0xA0 else 0x80 : UInt8).toNat ≤ v / 64 % 64 + 0x80 := by
    have least : (0xA0 : UInt8).toNat = 0xA0 := rfl
    have bottom : (0x80 : UInt8).toNat = 0x80 := rfl
    split <;> omega
  have below : v / 64 % 64 + 0x80 ≤ (if v / 4096 % 16 = 13 then 0x9F else 0xBF : UInt8).toNat := by
    have most : (0x9F : UInt8).toNat = 0x9F := rfl
    have top : (0xBF : UInt8).toNat = 0xBF := rfl
    split <;> omega
  rw [decodeChars,start,decodeTail _ above below,if_neg (show 2 ≠ 1 by decide),decodePlain,
    if_pos rfl,value,List.nil_append]

theorem decodeFour (long : 0xffff < v) (short : v < 0x110000) :
    decodeChars none (UInt8.ofNat (v / 262144 % 0x08 + 0xf0) ::
      UInt8.ofNat (v / 4096 % 0x40 + 0x80) :: UInt8.ofNat (v / 64 % 0x40 + 0x80) ::
      UInt8.ofNat (v % 0x40 + 0x80) :: rest) = Char.ofNat v :: decodeChars none rest := by
  have few : v / 262144 % 8 = v / 262144 := by omega
  have start := startFour ⟨v / 262144,by omega⟩
  have value : ((v / 262144 * 64 + v / 4096 % 64) * 64 + v / 64 % 64) * 64 + v % 64 = v := by omega
  have above : (if v / 262144 = 0 then 0x90 else 0x80 : UInt8).toNat ≤ v / 4096 % 64 + 0x80 := by
    have least : (0x90 : UInt8).toNat = 0x90 := rfl
    have bottom : (0x80 : UInt8).toNat = 0x80 := rfl
    split <;> omega
  have below : v / 4096 % 64 + 0x80 ≤ (if v / 262144 = 4 then 0x8F else 0xBF : UInt8).toNat := by
    have most : (0x8F : UInt8).toNat = 0x8F := rfl
    have top : (0xBF : UInt8).toNat = 0xBF := rfl
    split <;> omega
  rw [few,decodeChars,start,decodeTail _ above below,if_neg (show 3 ≠ 1 by decide),decodePlain,
    if_neg (show 3 - 1 ≠ 1 by decide),decodePlain,if_pos rfl,value,List.nil_append]

end

theorem decodeChar (c : Char) (rest : Bytes) :
    decodeChars none (String.utf8EncodeChar c ++ rest) = c :: decodeChars none rest := by
  have valid := c.valid
  simp only [UInt32.isValidChar,Nat.isValidChar] at valid
  have whole : Char.ofNat c.val.toNat = c := Char.ofNat_toNat c
  unfold String.utf8EncodeChar
  generalize c.val.toNat = v at valid whole
  subst whole
  dsimp only
  split
  · rename_i one
    have start := startOne ⟨v,by omega⟩
    simp only [List.cons_append,List.nil_append,decodeChars,start]
  · split
    · exact decodeTwo rest (by omega) (by omega)
    · split
      · exact decodeThree rest (by omega) (by omega) (by omega)
      · exact decodeFour rest (by omega) (by omega)

theorem encodeAppend (first last : List Char) :
    encode (String.ofList (first ++ last)) = encode (String.ofList first) ++ encode (String.ofList last) := by
  simp [encode]

theorem decodeEncode (text : String) (rest : Bytes) :
    decodeChars none (encode text ++ rest) = text.toList ++ decodeChars none rest := by
  unfold encode
  induction text.toList with
  | nil => rfl
  | cons c chars ih =>
    rw [List.flatMap_cons,List.append_assoc,decodeChar,ih,List.cons_append]

@[simp] theorem decodeWhole (text : String) : decodeChars none (encode text) = text.toList := by
  simpa [decodeChars] using decodeEncode text []

theorem encodeCharBytes (c : Char) :
    (c.val.toNat < 0x80 ∧ String.utf8EncodeChar c = [UInt8.ofNat c.val.toNat]) ∨
      0x80 ≤ c.val.toNat ∧ ∀ b ∈ String.utf8EncodeChar c, 0x80 ≤ b.toNat := by
  have valid := c.valid
  simp only [UInt32.isValidChar,Nat.isValidChar] at valid
  unfold String.utf8EncodeChar
  generalize c.val.toNat = v at valid
  dsimp only
  split
  · exact .inl ⟨by omega,rfl⟩
  · refine .inr ⟨by omega,?_⟩
    have tail (n : Nat) : 0x80 ≤ (UInt8.ofNat (n % 0x40 + 0x80)).toNat := by
      rw [UInt8.toNat_ofNat']
      omega
    split
    · simp only [List.mem_cons,List.not_mem_nil,or_false,forall_eq_or_imp,forall_eq]
      exact ⟨by rw [UInt8.toNat_ofNat']; omega,tail v⟩
    · split
      · simp only [List.mem_cons,List.not_mem_nil,or_false,forall_eq_or_imp,forall_eq]
        exact ⟨by rw [UInt8.toNat_ofNat']; omega,tail _,tail v⟩
      · simp only [List.mem_cons,List.not_mem_nil,or_false,forall_eq_or_imp,forall_eq]
        exact ⟨by rw [UInt8.toNat_ofNat']; omega,tail _,tail _,tail v⟩

theorem asciiByte {c : Char} {b : UInt8} (ascii : b.toNat < 0x80) :
    b ∈ String.utf8EncodeChar c ↔ c = Char.ofNat b.toNat := by
  have whole : Char.ofNat c.val.toNat = c := Char.ofNat_toNat c
  constructor
  · intro member
    rcases encodeCharBytes c with ⟨short,one⟩ | ⟨_,many⟩
    · rw [one,List.mem_singleton] at member
      have code : b.toNat = c.val.toNat := by
        rw [member,UInt8.toNat_ofNat']
        omega
      rw [code,whole]
    · exact absurd (many b member) (by omega)
  · rintro rfl
    have code : (Char.ofNat b.toNat).val.toNat = b.toNat := by
      have valid : b.toNat.isValidChar := .inl (by omega)
      rw [Char.ofNat,dif_pos valid]
      rfl
    rcases encodeCharBytes (Char.ofNat b.toNat) with ⟨_,one⟩ | ⟨long,_⟩
    · rw [one,code]
      simp
    · omega

theorem asciiText {b : UInt8} (ascii : b.toNat < 0x80) (text : String) :
    b ∈ encode text ↔ Char.ofNat b.toNat ∈ text.toList := by
  rw [encode,List.mem_flatMap]
  constructor
  · rintro ⟨c,member,inside⟩
    exact (asciiByte ascii).mp inside ▸ member
  · exact fun member => ⟨_,member,(asciiByte ascii).mpr rfl⟩

theorem asciiLast {b : UInt8} (ascii : b.toNat < 0x80) (text : String) :
    (encode text).getLast? = some b ↔ text.toList.getLast? = some (Char.ofNat b.toNat) := by
  rw [encode]
  rcases List.eq_nil_or_concat text.toList with none_ | ⟨chars,c,whole⟩
  · simp [none_]
  · have some_ : String.utf8EncodeChar c ≠ [] := String.utf8EncodeChar_ne_nil
    rw [whole,List.concat_eq_append,List.flatMap_append,List.flatMap_singleton,
      List.getLast?_append_of_ne_nil _ some_,List.getLast?_concat,Option.some.injEq,← asciiByte ascii]
    constructor
    · exact List.mem_of_getLast?
    · intro member
      rcases encodeCharBytes c with ⟨_,one⟩ | ⟨_,many⟩
      · rw [one,List.mem_singleton] at member
        rw [one,member]
        rfl
      · exact absurd (many b member) (by omega)

theorem cutAt {α : Type*} {x : α} {first other more others : List α} (free : x ∉ first) (free' : x ∉ other)
    (same : first ++ x :: more = other ++ x :: others) : first = other ∧ more = others := by
  induction first generalizing other with
  | nil =>
    cases other with
    | nil => exact ⟨rfl,(List.cons.inj same).2⟩
    | cons y other =>
      obtain ⟨rfl,_⟩ := List.cons.inj same
      exact absurd List.mem_cons_self free'
  | cons y first ih =>
    cases other with
    | nil =>
      obtain ⟨rfl,_⟩ := List.cons.inj same
      exact absurd List.mem_cons_self free
    | cons z other =>
      obtain ⟨rfl,later⟩ := List.cons.inj same
      obtain ⟨rfl,rfl⟩ := ih (fun member => free (List.mem_cons_of_mem _ member))
        (fun member => free' (List.mem_cons_of_mem _ member)) later
      exact ⟨rfl,rfl⟩

theorem trimSpaceLast {c : Char} (space : isSpace c) (text : List Char) :
    trim (text ++ [c]) = trim text := by
  unfold trim
  rw [List.dropWhile_append]
  split
  · rename_i none_
    rw [List.isEmpty_iff.mp none_]
    simp [space]
  · simp [space]

theorem trimSolid {c d : Char} (first : isSpace c = false) (last : isSpace d = false) (mid : List Char) :
    trim (c :: (mid ++ [d])) = c :: (mid ++ [d]) := by
  have front : (c :: (mid ++ [d])).dropWhile isSpace = c :: (mid ++ [d]) := by simp [first]
  have back : (c :: (mid ++ [d])).reverse.dropWhile isSpace = (c :: (mid ++ [d])).reverse := by
    simp [last]
  rw [trim,front,back,List.reverse_reverse]

theorem decodeAscii {text : String} {c : Char} {rest : List Char} (first : text.toList = c :: rest)
    (ascii : c.val.toNat < 0x80) : decode (encode text) = text := by
  have bytes : encode text = UInt8.ofNat c.val.toNat :: rest.flatMap String.utf8EncodeChar := by
    rcases encodeCharBytes c with ⟨_,one⟩ | ⟨long,_⟩
    · rw [encode,first,List.flatMap_cons,one,List.singleton_append]
    · omega
  have whole : String.ofList (decodeChars none (encode text)) = text := by
    rw [decodeWhole,String.ofList_toList]
  unfold decode
  split
  · rename_i tail same
    have code := congrArg UInt8.toNat (List.cons.inj (bytes.symm.trans same)).1
    rw [UInt8.toNat_ofNat'] at code
    have mark : (0xEF : UInt8).toNat = 0xEF := rfl
    omega
  · exact whole

theorem encodeDigits (digits : List (Fin 10)) :
    encode (String.ofList (digits.map digitChar)) = digits.map digitByte := by
  have one (d : Fin 10) : String.utf8EncodeChar (digitChar d) = [digitByte d] := by revert d; decide
  rw [encode,String.toList_ofList]
  induction digits with
  | nil => rfl
  | cons d rest ih => rw [List.map_cons,List.flatMap_cons,one,ih,List.map_cons,List.singleton_append]

example : decode (encode "µV") = "µV" := by decide
example : parseInt " -07x" = some (-7) := by decide

end LxiWeb.JsText
