import Mathlib.Data.List.Induction
import LxiWeb.JsDecimals
import LxiWeb.ScpiCalls

/-! The preset slots of a DM800: the files of its flash that a slot is saved to and recalled from, and
the listing of their folder that says which slots are occupied. -/
namespace LxiWeb.PresetCatalog
open AsyncTasks CallRuns JsText ScpiCalls

def dm800PresetFolder : String := "INT:\\LxiPresets"

def dm800PresetStorePath (slot : Nat) : String := dm800PresetFolder ++ "\\state" ++ toString slot

def dm800PresetLoadPath (slot : Nat) : String := dm800PresetFolder ++ "\\state" ++ toString slot ++ ".sta"

/- `/"([^"]+)"/g`, from left to right: what stands between quotes. A quote that opens nothing is
passed over, so that the next one may open. -/
def quotedEntries : List Char → List (List Char)
  | [] => []
  | c :: rest =>
    let inner := rest.takeWhile (· ≠ '"')
    if c = '"' ∧ inner ≠ [] ∧ inner.length < rest.length then
      inner :: quotedEntries (rest.drop (inner.length + 1))
    else quotedEntries rest
termination_by text => text.length
decreasing_by
  · simp only [List.length_drop,List.length_cons]
    omega
  · exact Nat.lt_succ_self _

def fold (text : List Char) : List Char := text.map Char.toLower

/- `/^state(\d+)\.sta$/i`: the digits. -/
def stateFile (name : List Char) : Option (List Char) :=
  let digits := (name.drop 5).takeWhile Char.isDigit
  if fold (name.take 5) = "state".toList ∧ digits ≠ [] ∧
      fold ((name.drop 5).dropWhile Char.isDigit) = ".sta".toList then some digits
  else none

-- A slot count is far below 2⁵³, from where on `parseInt` would round.
def markSlot (slotCount : Nat) (out : List Bool) (inner : List Char) : List Bool :=
  match inner.splitOn ',' with
  | fileName :: property :: _ :: _ =>
    if trim property ≠ "STAT".toList then out
    else match stateFile (trim fileName) with
      | none => out
      | some digits =>
        match parseInt (String.ofList digits) with
        | some idx => if 0 ≤ idx ∧ idx < slotCount then out.set idx.toNat true else out
        | none => out
  | _ => out

def parseDm800PresetCatalog (response : String) (slotCount : Nat) : List Bool :=
  let out := List.replicate slotCount false
  let trimmed := trim response.toList
  if trimmed = [] then out else (quotedEntries trimmed).foldl (markSlot slotCount) out

structure Presets where
  slots : Nat
  presetDirEnsured : Bool
  deriving DecidableEq, Repr

def assertSlot (slot : Nat) : DriverMethod Presets Unit := do
  let driver ← load
  require (slot < driver.slots) (.rangeError s!"preset slot must be 0..{(driver.slots : Int) - 1}")

def ensurePresetDir : DriverMethod Presets Unit := do
  let driver ← load
  if driver.presetDirEnsured then pure ()
  else
    writeQuietly ("MMEMory:MDIRectory \"" ++ dm800PresetFolder ++ "\"")
    change fun d => { d with presetDirEnsured := true }

def savePreset (slot : Nat) : DriverMethod Presets Unit := do
  assertSlot slot
  ensurePresetDir
  write ("MMEMory:STORe:STATe \"" ++ dm800PresetStorePath slot ++ "\"")

def recallPreset (slot : Nat) : DriverMethod Presets Unit := do
  assertSlot slot
  write ("MMEMory:LOAD:STATe \"" ++ dm800PresetLoadPath slot ++ "\"")

def getPresetCatalog : DriverMethod Presets (List Bool) := do
  let driver ← load
  let answer ← attempt ("MMEMory:CATalog:ALL? \"" ++ dm800PresetFolder ++ "\"")
  pure (match answer with
    | some raw => parseDm800PresetCatalog raw driver.slots
    | none => List.replicate driver.slots false)

def fileName (path : String) : List Char := (path.toList.reverse.takeWhile (· ≠ '\\')).reverse

/- What the response lists stands between its quotes: the first opens an entry, the second closes it,
and so on. -/
def Entry (text inner : List Char) : Prop :=
  ∃ before after, text = before ++ '"' :: (inner ++ '"' :: after) ∧ '"' ∉ inner ∧ before.count '"' % 2 = 0

/- An entry `filename,property` with or without more fields, its property `STAT`. -/
def StateFile (inner name : List Char) : Prop :=
  ∃ file property more, inner.splitOn ',' = file :: property :: more ∧ trim file = name ∧
    trim property = "STAT".toList

def Listed (response : String) (k : Nat) : Prop :=
  ∃ inner name, Entry response.toList inner ∧ StateFile inner name ∧
    fold name = fold (fileName (dm800PresetLoadPath k))

def NamesRecalled (response : String) (slotCount : Nat) : Prop :=
  ∀ k < slotCount, (parseDm800PresetCatalog response slotCount)[k]? = some true ↔ Listed response k

def paddedName (zeros k : Nat) : List Char :=
  "state".toList ++ (List.replicate zeros '0' ++ Nat.toDigits 10 k) ++ ".sta".toList

/- The texts that the parser looks at: quoted as its regular expression pairs the quotes, with a third field. -/
def Read (response : String) (inner : List Char) : Prop :=
  inner ∈ quotedEntries (trim response.toList) ∧ 3 ≤ (inner.splitOn ',').length

/- The parser reads a file whose name has zeros before the number of the slot, or a text that the
response does not list. -/
def Stray (response : String) (k : Nat) : Prop :=
  ∃ inner name zeros, Read response inner ∧ StateFile inner name ∧ fold name = paddedName zeros k ∧
    (0 < zeros ∨ ¬ Entry response.toList inner)

def Plain (response : String) (k : Nat) : Prop :=
  ∃ inner name, Read response inner ∧ Entry response.toList inner ∧ StateFile inner name ∧
    fold name = paddedName 0 k

theorem paddedParts (zeros k : Nat) : paddedName zeros k =
    "state".toList ++ (List.replicate zeros '0' ++ Nat.toDigits 10 k) ++ ".sta".toList := rfl

theorem digitOfChar {c : Char} (digit : c.isDigit = true) : ∃ d : Fin 10, digitChar d = c := by
  simp only [Char.isDigit,Bool.and_eq_true,decide_eq_true_eq,UInt32.le_iff_toNat_le] at digit
  have low : '0'.val.toNat = 48 := rfl
  have high : '9'.val.toNat = 57 := rfl
  have code : c.val.toNat = c.toNat := rfl
  refine ⟨⟨c.toNat - 48,by omega⟩,?_⟩
  rw [digitChar,show 48 + (c.toNat - 48) = c.toNat by omega,Char.ofNat_toNat]

theorem digitsOfChars {text : List Char} (digits : ∀ c ∈ text, c.isDigit = true) :
    ∃ ds : List (Fin 10), ds.map digitChar = text := by
  induction text with
  | nil => exact ⟨[],rfl⟩
  | cons c rest ih =>
    obtain ⟨d,rfl⟩ := digitOfChar (digits c List.mem_cons_self)
    obtain ⟨ds,rfl⟩ := ih fun c' member => digits c' (List.mem_cons_of_mem _ member)
    exact ⟨d :: ds,rfl⟩

theorem digitsValueConcat (digits : List Nat) (d : Nat) :
    digitsValue (digits ++ [d]) = 10 * digitsValue digits + d := by
  simp [digitsValue]

theorem numeralPadded (ds : List (Fin 10)) (some_ : ds ≠ []) : ∃ zeros,
    ds.map digitChar = List.replicate zeros '0' ++ Nat.toDigits 10 (digitsValue (ds.map Fin.val)) := by
  induction ds using List.reverseRecOn with
  | nil => exact absurd rfl some_
  | append_singleton ds d ih =>
    have one : Nat.toDigits 10 d.val = [digitChar d] := by
      rw [Nat.toDigits_of_lt_base d.isLt,digitCharNat]
    rw [List.map_append,List.map_append,List.map_singleton,List.map_singleton,digitsValueConcat]
    by_cases single : ds = []
    · subst single
      exact ⟨0,by simpa [digitsValue] using one.symm⟩
    · obtain ⟨zeros,before⟩ := ih single
      by_cases zero : digitsValue (ds.map Fin.val) = 0
      · refine ⟨zeros + 1,?_⟩
        rw [before,zero,Nat.mul_zero,Nat.zero_add,one,List.replicate_succ']
        rfl
      · refine ⟨zeros,?_⟩
        have last : (10 * digitsValue (ds.map Fin.val) + d.val) % 10 = d.val := by omega
        have others : (10 * digitsValue (ds.map Fin.val) + d.val) / 10 = digitsValue (ds.map Fin.val) := by omega
        have grown : Nat.toDigits 10 (10 * digitsValue (ds.map Fin.val) + d.val) =
            Nat.toDigits 10 (digitsValue (ds.map Fin.val)) ++ [digitChar d] := by
          rw [Nat.toDigits_of_base_le (by decide) (by omega),last,others,digitCharNat]
        rw [before,grown,List.append_assoc]

theorem paddedDigits (zeros k : Nat) : ∃ ds : List (Fin 10), ds ≠ [] ∧
    ds.map digitChar = List.replicate zeros '0' ++ Nat.toDigits 10 k ∧ digitsValue (ds.map Fin.val) = k := by
  obtain ⟨ds,letters,value⟩ := decimalDigits k
  refine ⟨List.replicate zeros 0 ++ ds,?_,?_,?_⟩
  · rintro none_
    obtain ⟨_,rfl⟩ := List.append_eq_nil_iff.mp none_
    exact Nat.toDigits_ne_nil letters.symm
  · rw [List.map_append,letters,List.map_replicate]
    rfl
  · induction zeros with
    | zero => exact value
    | succ n ih => rwa [List.replicate_succ,List.cons_append,List.map_cons]

theorem parseDigits {ds : List (Fin 10)} (some_ : ds ≠ []) :
    parseInt (String.ofList (ds.map digitChar)) = some (digitsValue (ds.map Fin.val) : Int) := by
  rw [← decodeDigits]
  exact parseIntDigits ds some_

theorem lowerDigit {c : Char} (digit : c.toLower.isDigit = true) : c.toLower = c := by
  unfold Char.toLower at digit ⊢
  split
  · rename_i upper
    rw [dif_pos upper] at digit
    simp [Char.isDigit,UInt32.le_iff_toNat_le] at digit upper
    omega
  · rfl

theorem lowerOfDigit {c : Char} (digit : c.isDigit = true) : c.toLower = c := by
  obtain ⟨d,rfl⟩ := digitOfChar digit
  revert d
  decide

theorem foldDigits {text : List Char} (digits : ∀ c ∈ text, c.isDigit = true) : fold text = text := by
  have same : text.map Char.toLower = text.map id :=
    List.map_congr_left fun c member => lowerOfDigit (digits c member)
  rw [fold,same,List.map_id]

theorem stateFileDigits {name digits : List Char} : stateFile name = some digits ↔
    digits ≠ [] ∧ (∀ c ∈ digits, c.isDigit = true) ∧
      fold name = "state".toList ++ digits ++ ".sta".toList := by
  simp only [stateFile]
  constructor
  · intro found
    split at found
    · rename_i shape
      obtain rfl := Option.some.inj found
      have digits (c : Char) (member : c ∈ (name.drop 5).takeWhile Char.isDigit) : c.isDigit = true :=
        List.mem_takeWhile_imp member
      have parts : fold name = fold (name.take 5) ++ fold ((name.drop 5).takeWhile Char.isDigit) ++
          fold ((name.drop 5).dropWhile Char.isDigit) := by
        simp only [fold,← List.map_append]
        rw [List.append_assoc,List.takeWhile_append_dropWhile,List.take_append_drop]
      refine ⟨shape.2.1,digits,?_⟩
      rw [parts,shape.1,foldDigits digits,shape.2.2]
    · cases found
  · rintro ⟨some_,numeral,same⟩
    rw [List.append_assoc] at same
    obtain ⟨first,more,rfl,front,same⟩ := List.map_eq_append_iff.mp same
    obtain ⟨middle,last,rfl,inner,back⟩ := List.map_eq_append_iff.mp same
    have five : first.length = 5 := by
      rw [← List.length_map (f := Char.toLower),front]
      rfl
    have plain : middle = digits := by
      have same : middle.map Char.toLower = middle.map id := List.map_congr_left fun c member =>
        lowerDigit (numeral _ (inner ▸ List.mem_map_of_mem member))
      rw [← inner,same,List.map_id]
    subst plain
    have stop (c : Char) (head : last.head? = some c) : c.isDigit = false := by
      rw [Bool.eq_false_iff]
      intro digit
      have dot := congrArg List.head? back
      rw [List.head?_map,head,Option.map_some,lowerOfDigit digit] at dot
      cases Option.some.inj dot
      exact absurd digit (by decide)
    have span := JsDecimals.spanExact numeral stop
    rw [List.drop_left' five,List.take_left' five,span.1,span.2]
    exact if_pos ⟨front,some_,back⟩

theorem numberInName {name : List Char} {k : Nat} :
    (∃ digits, stateFile name = some digits ∧ parseInt (String.ofList digits) = some (k : Int)) ↔
      ∃ zeros, fold name = paddedName zeros k := by
  constructor
  · rintro ⟨digits,file,value⟩
    obtain ⟨some_,numeral,same⟩ := stateFileDigits.mp file
    obtain ⟨ds,rfl⟩ := digitsOfChars numeral
    have there : ds ≠ [] := by simpa using some_
    rw [parseDigits there] at value
    obtain rfl : digitsValue (ds.map Fin.val) = k := by
      have := Option.some.inj value
      omega
    obtain ⟨zeros,padded⟩ := numeralPadded ds there
    exact ⟨zeros,by rw [same,padded,paddedParts]⟩
  · rintro ⟨zeros,same⟩
    obtain ⟨ds,some_,letters,value⟩ := paddedDigits zeros k
    rw [paddedParts,← letters] at same
    refine ⟨_,stateFileDigits.mpr ⟨by simpa using some_,?_,same⟩,?_⟩
    · intro c member
      obtain ⟨d,_,rfl⟩ := List.mem_map.mp member
      exact digitCharDigit d
    · rw [parseDigits some_,value]

theorem recalledName (k : Nat) : fold (fileName (dm800PresetLoadPath k)) = paddedName 0 k := by
  obtain ⟨ds,_,letters,_⟩ := paddedDigits 0 k
  have path : (dm800PresetLoadPath k).toList =
      dm800PresetFolder.toList ++ ['\\'] ++ paddedName 0 k := by
    simp only [dm800PresetLoadPath,paddedParts,String.toList_append,Nat.toString_eq_ofList_toDigits,
      String.toList_ofList,List.append_assoc,List.replicate_zero,List.nil_append]
    rfl
  have digits (c : Char) (member : c ∈ List.replicate 0 '0' ++ Nat.toDigits 10 k) : c.isDigit = true := by
    rw [← letters] at member
    obtain ⟨d,_,rfl⟩ := List.mem_map.mp member
    exact digitCharDigit d
  have plain (c : Char) (member : c ∈ (paddedName 0 k).reverse) : decide (c ≠ '\\') = true := by
    rw [List.mem_reverse,paddedParts,List.mem_append,List.mem_append] at member
    rw [decide_eq_true_eq]
    rintro rfl
    rcases member with (member | member) | member
    · exact absurd member (by decide)
    · exact absurd (digits _ member) (by decide)
    · exact absurd member (by decide)
  have name : fileName (dm800PresetLoadPath k) = paddedName 0 k := by
    rw [fileName,path,List.reverse_append,List.reverse_append,List.reverse_singleton,
      List.takeWhile_append_of_pos plain]
    simp
  have letters : fold "state".toList = "state".toList ∧ fold ".sta".toList = ".sta".toList := by decide
  rw [name,paddedParts]
  simp only [fold,List.map_append] at letters ⊢
  rw [letters.1,letters.2,← List.map_append,← fold,foldDigits digits]

def Marks (inner : List Char) (k : Nat) : Prop :=
  ∃ file property size more, inner.splitOn ',' = file :: property :: size :: more ∧
    trim property = "STAT".toList ∧ ∃ zeros, fold (trim file) = paddedName zeros k

theorem markSlotLength (slotCount : Nat) (out : List Bool) (inner : List Char) :
    (markSlot slotCount out inner).length = out.length := by
  unfold markSlot
  repeat' split
  all_goals simp

theorem marksFields {inner file property size : List Char} {more : List (List Char)} {k : Nat}
    (fields : inner.splitOn ',' = file :: property :: size :: more) : Marks inner k ↔
      trim property = "STAT".toList ∧ ∃ digits, stateFile (trim file) = some digits ∧
        parseInt (String.ofList digits) = some (k : Int) := by
  rw [numberInName]
  constructor
  · rintro ⟨file',property',size',more',same,stat,zeros,name⟩
    rw [fields] at same
    cases same
    exact ⟨stat,zeros,name⟩
  · rintro ⟨stat,zeros,name⟩
    exact ⟨file,property,size,more,fields,stat,zeros,name⟩

theorem markSlotAt {slotCount k : Nat} {out : List Bool} (inner : List Char) (within : k < slotCount)
    (length : out.length = slotCount) :
    (markSlot slotCount out inner)[k]? = some true ↔ out[k]? = some true ∨ Marks inner k := by
  unfold markSlot
  split
  · rename_i file property size more fields
    rw [marksFields fields]
    split
    · rename_i other
      exact ⟨.inl,fun marked => marked.resolve_right fun m => other m.1⟩
    · rename_i stat
      rw [not_not] at stat
      cases named : stateFile (trim file) with
      | none => simp
      | some digits =>
        cases number : parseInt (String.ofList digits) with
        | none => simp [number]
        | some idx =>
          by_cases same : idx = k
          · subst same
            simp [stat,number,within,length]
          · have kept : (if 0 ≤ idx ∧ idx < slotCount then out.set idx.toNat true else out)[k]? = out[k]? := by
              split
              · exact List.getElem?_set_ne (by omega)
              · rfl
            simp [number,same,kept]
  · rename_i short
    have none_ : ¬ Marks inner k := by
      rintro ⟨file,property,size,more,fields,_⟩
      exact short _ _ _ _ fields
    simp [none_]

theorem foldMarks {slotCount k : Nat} (entries : List (List Char)) {out : List Bool} (within : k < slotCount)
    (length : out.length = slotCount) : (entries.foldl (markSlot slotCount) out)[k]? = some true ↔
      out[k]? = some true ∨ ∃ inner ∈ entries, Marks inner k := by
  induction entries generalizing out with
  | nil => simp
  | cons inner rest ih =>
    rw [List.foldl_cons,ih (by rw [markSlotLength,length]),markSlotAt inner within length,or_assoc,
      List.exists_mem_cons_iff]

theorem quotedEntriesPlain {header : List Char} (text : List Char) (plain : '"' ∉ header) :
    quotedEntries (header ++ text) = quotedEntries text := by
  induction header with
  | nil => rfl
  | cons c rest ih =>
    obtain ⟨other,later⟩ : '"' ≠ c ∧ '"' ∉ rest := by rwa [List.mem_cons,not_or] at plain
    rw [List.cons_append,quotedEntries,if_neg (fun both => other both.1.symm)]
    exact ih later

theorem quotedEntriesQuoted {inner : List Char} (text : List Char) (some_ : inner ≠ []) (plain : '"' ∉ inner) :
    quotedEntries ('"' :: (inner ++ '"' :: text)) = inner :: quotedEntries text := by
  have inside : (inner ++ '"' :: text).takeWhile (· ≠ '"') = inner := by
    refine (JsDecimals.spanExact (fun c member => ?_) (fun c head => ?_)).1
    · rw [decide_eq_true_eq]
      rintro rfl
      exact plain member
    · cases head
      rfl
  have after : (inner ++ '"' :: text).drop (inner.length + 1) = text := by
    rw [← List.drop_drop,List.drop_left,List.drop_one,List.tail_cons]
  have room : inner.length < (inner ++ '"' :: text).length := by simp
  rw [quotedEntries]
  simp only [inside,after]
  exact if_pos ⟨trivial,some_,room⟩

theorem quotedEntriesEmpty (text : List Char) : quotedEntries ('"' :: '"' :: text) = quotedEntries ('"' :: text) := by
  rw [quotedEntries,if_neg]
  simp

theorem quotedEntriesUnquoted {text : List Char} (plain : '"' ∉ text) : quotedEntries text = [] := by
  have rest := quotedEntriesPlain [] plain
  rwa [List.append_nil,quotedEntries] at rest

theorem entryCons {c : Char} (other : c ≠ '"') (rest inner : List Char) :
    Entry (c :: rest) inner ↔ Entry rest inner := by
  constructor
  · rintro ⟨before,after,whole,plain,even⟩
    cases before with
    | nil => exact absurd (List.cons.inj whole).1 other
    | cons d before =>
      obtain ⟨rfl,rfl⟩ := List.cons.inj whole
      refine ⟨before,after,rfl,plain,?_⟩
      rwa [List.count_cons_of_ne other] at even
  · rintro ⟨before,after,rfl,plain,even⟩
    refine ⟨c :: before,after,rfl,plain,?_⟩
    rwa [List.count_cons_of_ne other]

theorem entryQuoted {first : List Char} (plain : '"' ∉ first) (rest inner : List Char) :
    Entry ('"' :: (first ++ '"' :: rest)) inner ↔ inner = first ∨ Entry rest inner := by
  constructor
  · rintro ⟨before,after,whole,plain',even⟩
    cases before with
    | nil =>
      have same : first ++ '"' :: rest = inner ++ '"' :: after := (List.cons.inj whole).2
      exact .inl (cutAt plain plain' same).1.symm
    | cons d before =>
      obtain rfl : '"' = d := (List.cons.inj whole).1
      have same : first ++ '"' :: rest = before ++ '"' :: (inner ++ '"' :: after) := (List.cons.inj whole).2
      rw [List.count_cons_self] at even
      have inside : '"' ∈ before := List.count_pos_iff.mp (by omega)
      obtain ⟨front,back,rfl,free⟩ := List.eq_append_cons_of_mem inside
      rw [List.append_assoc,List.cons_append] at same
      obtain ⟨rfl,rfl⟩ := cutAt plain free same
      rw [List.count_append,List.count_eq_zero.mpr free,List.count_cons_self] at even
      exact .inr ⟨back,after,rfl,plain',by omega⟩
  · rintro (rfl | ⟨before,after,rfl,plain',even⟩)
    · exact ⟨[],rest,rfl,plain,rfl⟩
    · refine ⟨'"' :: (first ++ '"' :: before),after,by simp,plain',?_⟩
      simp [List.count_append,List.count_eq_zero.mpr plain]
      omega

theorem entryNone {rest : List Char} (plain : '"' ∉ rest) (inner : List Char) : ¬ Entry ('"' :: rest) inner := by
  rintro ⟨before,after,whole,-,-⟩
  have twice := congrArg (List.count '"') whole
  simp [List.count_eq_zero.mpr plain] at twice
  omega

theorem pairedAlike {text : List Char} (some_ : ∀ inner, Entry text inner → inner ≠ []) (inner : List Char) :
    inner ∈ quotedEntries text ↔ Entry text inner := by
  induction length : text.length using Nat.strong_induction_on generalizing text with
  | _ n ih =>
    subst length
    cases text with
    | nil =>
      rw [quotedEntries]
      simp [Entry]
    | cons c rest =>
      by_cases quote : c = '"'
      · subst quote
        by_cases closed : '"' ∈ rest
        · obtain ⟨first,more,rfl,plain⟩ := List.eq_append_cons_of_mem closed
          have later := ih more.length (by simp; omega)
            (fun inner entry => some_ inner ((entryQuoted plain more inner).mpr (.inr entry))) rfl
          rw [quotedEntriesQuoted more (some_ first ((entryQuoted plain more first).mpr (.inl rfl))) plain,
            List.mem_cons,entryQuoted plain,later]
        · rw [quotedEntries,if_neg,quotedEntriesUnquoted closed]
          · exact iff_of_false List.not_mem_nil (entryNone closed inner)
          · rintro ⟨-,-,short⟩
            have all : rest.takeWhile (· ≠ '"') = rest := List.takeWhile_eq_self_iff.mpr fun c member => by
              rw [decide_eq_true_eq]
              rintro rfl
              exact closed member
            rw [all] at short
            exact lt_irrefl _ short
      · rw [quotedEntries,if_neg fun both => quote both.1,entryCons quote]
        exact ih rest.length (by simp) (fun inner entry => some_ inner ((entryCons quote rest inner).mpr entry)) rfl

theorem entrySnoc {c : Char} (other : c ≠ '"') (text inner : List Char) :
    Entry (text ++ [c]) inner ↔ Entry text inner := by
  constructor
  · rintro ⟨before,after,whole,plain,even⟩
    rcases List.eq_nil_or_concat after with rfl | ⟨after,d,rfl⟩
    · have same : text ++ [c] = (before ++ '"' :: inner) ++ ['"'] := by simp [whole]
      exact absurd (List.cons.inj (List.append_inj' same rfl).2).1 other
    · have same : text ++ [c] = (before ++ '"' :: (inner ++ '"' :: after)) ++ [d] := by simp [whole]
      exact ⟨before,after,(List.append_inj' same rfl).1,plain,even⟩
  · rintro ⟨before,after,rfl,plain,even⟩
    exact ⟨before,after ++ [c],by simp,plain,even⟩

theorem entryTrim (text inner : List Char) : Entry (trim text) inner ↔ Entry text inner := by
  have quoted {c : Char} (space : isSpace c = true) : c ≠ '"' := by
    rintro rfl
    exact absurd space (by decide)
  have front (text : List Char) : Entry (text.dropWhile isSpace) inner ↔ Entry text inner := by
    induction text with
    | nil => rfl
    | cons c rest ih =>
      rw [List.dropWhile_cons]
      split
      · rename_i space
        rw [ih,entryCons (quoted space)]
      · rfl
  have back (text : List Char) : Entry (text.rdropWhile isSpace) inner ↔ Entry text inner := by
    induction text using List.reverseRecOn with
    | nil => rfl
    | append_singleton text c ih =>
      cases space : isSpace c with
      | true => rw [List.rdropWhile_concat_pos _ _ _ space,ih,entrySnoc (quoted space)]
      | false => rw [List.rdropWhile_concat_neg _ _ _ (by simp [space])]
  exact (back _).trans (front text)

theorem marksIff (inner : List Char) (k : Nat) : Marks inner k ↔ 3 ≤ (inner.splitOn ',').length ∧
    ∃ name zeros, StateFile inner name ∧ fold name = paddedName zeros k := by
  constructor
  · rintro ⟨file,property,size,more,fields,stat,zeros,name⟩
    exact ⟨by simp [fields],trim file,zeros,⟨file,property,size :: more,fields,rfl,stat⟩,name⟩
  · rintro ⟨three,_,zeros,⟨file,property,more,fields,rfl,stat⟩,name⟩
    cases more with
    | nil => simp [fields] at three
    | cons size more => exact ⟨file,property,size,more,fields,stat,zeros,name⟩

theorem catalogAt {response : String} {slotCount k : Nat} (within : k < slotCount) :
    (parseDm800PresetCatalog response slotCount)[k]? = some true ↔
      ∃ inner ∈ quotedEntries (trim response.toList), Marks inner k := by
  have none_ : (List.replicate slotCount false)[k]? ≠ some true := by simp [within]
  rw [parseDm800PresetCatalog]
  split
  · rename_i empty
    rw [empty,quotedEntries]
    simp [none_]
  · rw [foldMarks _ within List.length_replicate]
    simp [none_]

theorem occupiedCases {response : String} {slotCount k : Nat} (within : k < slotCount) :
    (parseDm800PresetCatalog response slotCount)[k]? = some true ↔ Plain response k ∨ Stray response k := by
  rw [catalogAt within]
  constructor
  · rintro ⟨inner,member,marks⟩
    obtain ⟨three,name,zeros,file,same⟩ := (marksIff inner k).mp marks
    by_cases plain : zeros = 0 ∧ Entry response.toList inner
    · obtain ⟨rfl,entry⟩ := plain
      exact .inl ⟨inner,name,⟨member,three⟩,entry,file,same⟩
    · refine .inr ⟨inner,name,zeros,⟨member,three⟩,file,same,?_⟩
      rwa [not_and_or,← ne_eq,← Nat.pos_iff_ne_zero] at plain
  · rintro (⟨inner,name,⟨member,three⟩,_,file,same⟩ | ⟨inner,name,zeros,⟨member,three⟩,file,same,_⟩)
    · exact ⟨inner,member,(marksIff inner k).mpr ⟨three,name,0,file,same⟩⟩
    · exact ⟨inner,member,(marksIff inner k).mpr ⟨three,name,zeros,file,same⟩⟩

theorem plainListed {response : String} {k : Nat} (plain : Plain response k) : Listed response k := by
  obtain ⟨inner,name,_,entry,file,same⟩ := plain
  exact ⟨inner,name,entry,file,same.trans (recalledName k).symm⟩

def Padded (response : String) (k : Nat) : Prop :=
  ∃ inner name zeros, 0 < zeros ∧ Entry response.toList inner ∧ StateFile inner name ∧ fold name = paddedName zeros k

theorem sizedRecalled {response : String} (slotCount : Nat)
    (sized : ∀ inner, Entry response.toList inner → 3 ≤ (inner.splitOn ',').length) :
    NamesRecalled response slotCount ↔ ∀ k < slotCount, Padded response k → Listed response k := by
  have some_ (inner : List Char) (entry : Entry (trim response.toList) inner) : inner ≠ [] := by
    rintro rfl
    exact absurd (sized [] ((entryTrim _ _).mp entry)) (by decide)
  have read (inner : List Char) : Read response inner ↔ Entry response.toList inner := by
    rw [Read,pairedAlike some_,entryTrim]
    exact and_iff_left_of_imp (sized inner)
  refine forall₂_congr fun k within => ?_
  rw [occupiedCases within]
  have listedPlain : Listed response k → Plain response k := by
    rintro ⟨inner,name,entry,file,same⟩
    exact ⟨inner,name,(read inner).mpr entry,entry,file,same.trans (recalledName k)⟩
  have strayPadded : Stray response k ↔ Padded response k := by
    constructor
    · rintro ⟨inner,name,zeros,taken,file,same,more⟩
      have entry := (read inner).mp taken
      exact ⟨inner,name,zeros,more.resolve_right (not_not_intro entry),entry,file,same⟩
    · rintro ⟨inner,name,zeros,more,entry,file,same⟩
      exact ⟨inner,name,zeros,(read inner).mpr entry,file,same,.inl more⟩
  rw [strayPadded]
  constructor
  · intro same padded
    exact same.mp (.inr padded)
  · intro padded
    exact ⟨fun found => found.elim plainListed padded,fun listed => .inl (listedPlain listed)⟩

section
variable {α : Type} {driver : Presets} {slot : Nat}

/- What a call of the driver sends, whatever the multimeter answers. -/
def Sends (method : DriverMethod Presets α) (driver : Presets) (requests : List Request) : Prop :=
  ∀ answers, (played answers method.run driver).exchanges.map Prod.fst = requests

theorem assertedSlot (next : Unit → DriverMethod Presets α) (within : slot < driver.slots) (answers : Nat → Answer) :
    played answers (assertSlot slot >>= next).run driver = played answers (next ()).run driver := by
  rw [assertSlot,bind_assoc]
  change played answers (require (decide (slot < driver.slots)) _ >>= next).run driver = _
  rw [decide_eq_true within,requireTrue]

variable (driver) in
theorem sendsWrite (command : String) : Sends (write command) driver [.write command] := by
  intro answers
  rw [← bind_pure (write command),write,playedIssue]
  cases settledWrite (answers 0) <;> rfl

theorem recallSends (within : slot < driver.slots) :
    Sends (recallPreset slot) driver [.write ("MMEMory:LOAD:STATe \"" ++ dm800PresetLoadPath slot ++ "\"")] := by
  intro answers
  rw [recallPreset,assertedSlot _ within]
  exact sendsWrite driver _ answers

theorem saveSends (within : slot < driver.slots) : Sends (savePreset slot) driver
    ((if driver.presetDirEnsured then [] else [.write ("MMEMory:MDIRectory \"" ++ dm800PresetFolder ++ "\"")]) ++
      [.write ("MMEMory:STORe:STATe \"" ++ dm800PresetStorePath slot ++ "\"")]) := by
  intro answers
  rw [savePreset,assertedSlot _ within,ensurePresetDir,bind_assoc]
  have loaded (f : Presets → DriverMethod Presets Unit) :
      played answers (load >>= f).run driver = played answers (f driver).run driver := rfl
  rw [loaded]
  split
  · exact sendsWrite driver _ answers
  · rw [bind_assoc,writeQuietly,playedIssue]
    exact congrArg (_ :: ·) (sendsWrite { driver with presetDirEnsured := true } _ fun n => answers (n + 1))

theorem numeralApart {k k' : Nat} (same : Nat.toDigits 10 k = Nat.toDigits 10 k') : k = k' := by
  obtain ⟨ds,letters,value⟩ := decimalDigits k
  obtain ⟨ds',letters',value'⟩ := decimalDigits k'
  have digits := congrArg leadingDigits (letters.trans (same.trans letters'.symm))
  rw [leadingDigitsDigits,leadingDigitsDigits] at digits
  rw [← value,← value',digits]

/- Saving a slot stores the file that recalling it loads, and no other slot's. -/
theorem savedRecalled {saved recalled : Nat} (there : saved < driver.slots) (there' : recalled < driver.slots) :
    ∃ path before, Sends (savePreset saved) driver (before ++ [.write ("MMEMory:STORe:STATe \"" ++ path ++ "\"")]) ∧
      (Sends (recallPreset recalled) driver [.write ("MMEMory:LOAD:STATe \"" ++ (path ++ ".sta") ++ "\"")] ↔
        saved = recalled) := by
  refine ⟨_,_,saveSends there,?_⟩
  constructor
  · intro loads
    have same := (recallSends there' fun _ => none).symm.trans (loads fun _ => none)
    have paths := congrArg String.toList (Request.write.inj (List.cons.inj same).1)
    simp only [String.toList_append,List.append_cancel_left_eq,List.append_cancel_right_eq,dm800PresetLoadPath,
      dm800PresetStorePath,Nat.toString_eq_ofList_toDigits,String.toList_ofList] at paths
    exact (numeralApart paths).symm
  · rintro rfl
    exact recallSends there'

theorem catalogLength (response : String) (slotCount : Nat) :
    (parseDm800PresetCatalog response slotCount).length = slotCount := by
  have kept (entries : List (List Char)) (out : List Bool) :
      (entries.foldl (markSlot slotCount) out).length = out.length := by
    induction entries generalizing out with
    | nil => rfl
    | cons inner rest ih => rw [List.foldl_cons,ih,markSlotLength]
  rw [parseDm800PresetCatalog]
  split
  · exact List.length_replicate
  · rw [kept,List.length_replicate]

/- Where the listing names what is recalled, recalling a slot that is offered loads a file that is listed. -/
theorem offeredLoads {answers : Nat → Answer} {response : String} (listing : answers 0 = some response)
    (names : NamesRecalled response driver.slots) {catalog : List Bool}
    (shown : (played answers getPresetCatalog.run driver).result = .ok catalog) (offered : catalog[slot]? = some true) :
    ∃ path, Sends (recallPreset slot) driver [.write ("MMEMory:LOAD:STATe \"" ++ path ++ "\"")] ∧
      ∃ inner name, Entry response.toList inner ∧ StateFile inner name ∧ fold name = fold (fileName path) := by
  have same : catalog = parseDm800PresetCatalog response driver.slots := by
    change (played answers (attempt _ >>= _).run driver).result = _ at shown
    rw [attempt,playedIssue,listing] at shown
    exact (Except.ok.inj shown).symm
  subst same
  have within : slot < driver.slots := by
    rw [← catalogLength response driver.slots]
    exact (List.getElem?_eq_some_iff.mp offered).1
  exact ⟨_,recallSends within,(names slot within).mp offered⟩

end

theorem oneQuoted (header first : List Char) (plain : '"' ∉ header) (plain' : '"' ∉ first) (some_ : first ≠ []) :
    quotedEntries (header ++ '"' :: (first ++ ['"'])) = [first] ∧
      ∀ inner, Entry (header ++ '"' :: (first ++ ['"'])) inner ↔ inner = first := by
  constructor
  · rw [quotedEntriesPlain _ plain,quotedEntriesQuoted [] some_ plain',quotedEntries]
  · intro inner
    induction header with
    | nil =>
      have none_ : ¬ Entry [] inner := by simp [Entry]
      rw [List.nil_append,entryQuoted plain',or_iff_left none_]
    | cons c header ih =>
      obtain ⟨other,later⟩ : '"' ≠ c ∧ '"' ∉ header := by rwa [List.mem_cons,not_or] at plain
      rw [List.cons_append,entryCons other.symm,ih later]

theorem unread {response : String} (short : ∀ inner ∈ quotedEntries (trim response.toList),
    (inner.splitOn ',').length < 3) {slotCount k : Nat} (within : k < slotCount)
    (listed : Listed response k) : ¬ NamesRecalled response slotCount := by
  intro named
  have missing (inner) : ¬ Read response inner := fun read => absurd read.2 (short inner read.1).not_ge
  rcases (occupiedCases within).mp ((named k within).mpr listed) with
    ⟨inner,_,read,_⟩ | ⟨inner,_,_,read,_⟩
  · exact missing inner read
  · exact missing inner read

theorem recalledThree : fold "state3.sta".toList = fold (fileName (dm800PresetLoadPath 3)) := by
  rw [recalledName]
  decide

theorem emptyEntryHides : ¬ NamesRecalled "0,1000000,\"\",\"state3.sta,STAT,1\"" 10 := by
  have text : trim "0,1000000,\"\",\"state3.sta,STAT,1\"".toList =
      "0,1000000,".toList ++ '"' :: '"' :: (",".toList ++ '"' :: ("state3.sta,STAT,1".toList ++ ['"'])) := by
    decide
  have entries : quotedEntries (trim "0,1000000,\"\",\"state3.sta,STAT,1\"".toList) = [",".toList] := by
    have last : quotedEntries ['"'] = [] := by simp [quotedEntries]
    rw [text,quotedEntriesPlain _ (by decide),quotedEntriesEmpty,quotedEntriesQuoted _ (by decide) (by decide),
      quotedEntriesPlain _ (by decide),last]
  exact unread (k := 3) (by rw [entries]; decide) (by decide)
    ⟨"state3.sta,STAT,1".toList,"state3.sta".toList,⟨"0,1000000,\"\",".toList,[],by decide,by decide,by decide⟩,
      ⟨"state3.sta".toList,"STAT".toList,["1".toList],by decide,by decide,by decide⟩,recalledThree⟩

theorem sizelessUnread : ¬ NamesRecalled "0,1000000,\"state3.sta,STAT\"" 10 := by
  have text : trim "0,1000000,\"state3.sta,STAT\"".toList =
      "0,1000000,".toList ++ '"' :: ("state3.sta,STAT".toList ++ ['"']) := by decide
  obtain ⟨entries,_⟩ := oneQuoted "0,1000000,".toList "state3.sta,STAT".toList (by decide) (by decide) (by decide)
  exact unread (k := 3) (by rw [text,entries]; decide) (by decide)
    ⟨"state3.sta,STAT".toList,"state3.sta".toList,⟨"0,1000000,".toList,[],by decide,by decide,by decide⟩,
      ⟨"state3.sta".toList,"STAT".toList,[],by decide,by decide,by decide⟩,recalledThree⟩

end LxiWeb.PresetCatalog
