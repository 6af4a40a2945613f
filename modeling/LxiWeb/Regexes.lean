import Mathlib.Data.List.Basic

/-! Regular expressions as tests of a text: where a match can end, which texts are matched, and a check
that no text is matched by two expressions. -/
namespace LxiWeb.Regexes

/-- A character class: ranges of code points. -/
abbrev CharClass := List (Nat × Nat)

namespace CharClass

def has (c : CharClass) (x : Char) : Bool := c.any fun range => range.1 ≤ x.toNat && x.toNat ≤ range.2

def disjoint (c d : CharClass) : Bool := c.all fun a => d.all fun b => a.2 < b.1 || b.2 < a.1

def only (x : Char) : CharClass := [(x.toNat,x.toNat)]

def digit : CharClass := [(0x30,0x39)]

/- The capitals, which is all that folding leaves of `[A-Z]`. -/
def letter : CharClass := [(0x41,0x5A)]

def word : CharClass := [(0x30,0x39),(0x41,0x5A),(0x5F,0x5F),(0x61,0x7A)]

def nonWord : CharClass := [(0,0x2F),(0x3A,0x40),(0x5B,0x5E),(0x60,0x60),(0x7B,0x10FFFF)]

def space : CharClass := [(0x09,0x0D),(0x20,0x20),(0xA0,0xA0),(0x1680,0x1680),(0x2000,0x200A),(0x2028,0x2029),
  (0x202F,0x202F),(0x205F,0x205F),(0x3000,0x3000),(0xFEFF,0xFEFF)]

@[simp] theorem hasOnly {x y : Char} : (only x).has y = true ↔ y = x := by
  simp only [only,has,List.any_cons,List.any_nil,Bool.or_false,Bool.and_eq_true,decide_eq_true_eq]
  constructor
  · rintro ⟨low,high⟩
    exact Char.toNat_inj.mp (by omega)
  · rintro rfl
    exact ⟨Nat.le_refl _,Nat.le_refl _⟩

theorem disjointSound {c d : CharClass} (apart : c.disjoint d = true) {x : Char} (there : c.has x = true) :
    d.has x = false := by
  rw [Bool.eq_false_iff]
  intro also
  simp only [disjoint,has,List.all_eq_true,List.any_eq_true,Bool.or_eq_true,Bool.and_eq_true,
    decide_eq_true_eq] at apart there also
  obtain ⟨a,member,low,high⟩ := there
  obtain ⟨b,member',low',high'⟩ := also
  have := apart a member b member'
  omega

theorem nonWordHas (x : Char) : nonWord.has x = !word.has x := by
  have bound : x.toNat ≤ 0x10FFFF := by
    have valid := x.valid
    have code : x.val.toNat = x.toNat := rfl
    simp only [UInt32.isValidChar,Nat.isValidChar] at valid
    omega
  rw [Bool.eq_iff_iff]
  simp only [nonWord,word,has,List.any_cons,List.any_nil,Bool.or_false,Bool.or_eq_true,Bool.and_eq_true,
    decide_eq_true_eq,Bool.not_eq_true',Bool.or_eq_false_iff,Bool.and_eq_false_iff,decide_eq_false_iff_not]
  omega

end CharClass

inductive Regex where
  | empty
  | one (c : CharClass)
  | seq (r s : Regex)
  | alt (r s : Regex)
  /-- `c{least,most}` -/
  | repeated (c : CharClass) (least : Nat) (most : Option Nat)
  /-- `^` -/
  | start
  /-- `$` -/
  | finish
  /-- `\b` -/
  | boundary
  deriving DecidableEq, Repr

namespace Regex

def optional (r : Regex) : Regex := alt r empty

def literal (text : List Char) : Regex := text.foldr (fun x r => seq (one (CharClass.only x)) r) empty

def sequence (parts : List Regex) : Regex := parts.foldr seq empty

def oneOf (texts : List (List Char)) : Regex := texts.foldr (fun text r => alt (literal text) r) (one [])

/- `^r` -/
def anchored (r : Regex) : Regex := seq start r

/- `^r\b` -/
def bounded (r : Regex) : Regex := anchored (seq r boundary)

def isWord (x : Option Char) : Bool := x.any CharClass.word.has

def repeatedEnds (c : CharClass) :
    Nat → Option Nat → Option Char → List Char → List (Option Char × List Char)
  | least, _, seen, [] => if least = 0 then [(seen,[])] else []
  | least, most, seen, x :: rest =>
    (if least = 0 then [(seen,x :: rest)] else []) ++
      if most ≠ some 0 ∧ c.has x then repeatedEnds c (least - 1) (most.map (· - 1)) (some x) rest else []

/- Where a match from here can end: the last character before and what is left. `seen` is the character
before, if there is one. -/
def ends : Regex → Option Char → List Char → List (Option Char × List Char)
  | empty, seen, text => [(seen,text)]
  | one c, _, text =>
    match text with
    | [] => []
    | x :: rest => if c.has x then [(some x,rest)] else []
  | seq r s, seen, text => (ends r seen text).flatMap fun reached => ends s reached.1 reached.2
  | alt r s, seen, text => ends r seen text ++ ends s seen text
  | repeated c least most, seen, text => repeatedEnds c least most seen text
  | start, seen, text => if seen.isNone then [(seen,text)] else []
  | finish, seen, text => if text = [] then [(seen,text)] else []
  | boundary, seen, text => if isWord seen ≠ isWord text.head? then [(seen,text)] else []

def found (r : Regex) : Option Char → List Char → Bool
  | seen, [] => !(ends r seen []).isEmpty
  | seen, x :: rest => !(ends r seen (x :: rest)).isEmpty || found r (some x) rest

/- `test` with the flag `i`, of which the classes of `r` have the capitals. The flag folds no character
beyond ASCII into one of ASCII. -/
def test (r : Regex) (text : List Char) : Bool := found r none (text.map Char.toUpper)

theorem notFoundLater (r : Regex) (x : Char) (text : List Char) :
    found (anchored r) (some x) text = false := by
  induction text generalizing x with
  | nil => rfl
  | cons y rest ih =>
    rw [found,ih y]
    rfl

theorem foundAtStart (r : Regex) (text : List Char) :
    found (anchored r) none text = true ↔ ends r none text ≠ [] := by
  have here : ends (anchored r) none text = ends r none text := List.append_nil _
  cases text with
  | nil =>
    rw [found,here]
    simp
  | cons x rest =>
    rw [found,here,notFoundLater]
    simp

theorem memSeq {r s : Regex} {seen p : Option Char} {text left : List Char} :
    (p,left) ∈ ends (seq r s) seen text ↔
      ∃ q middle, (q,middle) ∈ ends r seen text ∧ (p,left) ∈ ends s q middle := by
  simp [ends,List.mem_flatMap]

structure Takes (seen : Option Char) (text : List Char) (p : Option Char) (taken left : List Char) :
    Prop where
  text : text = taken ++ left
  last : p = taken.getLast?.or seen

theorem Takes.trans {seen p q : Option Char} {text middle left taken more : List Char}
    (first : Takes seen text q taken middle) (second : Takes q middle p more left) :
    Takes seen text p (taken ++ more) left where
  text := by rw [first.text,second.text,List.append_assoc]
  last := by rw [second.last,first.last,List.getLast?_append,Option.or_assoc]

theorem repeatedTakes {c : CharClass} {least : Nat} {most : Option Nat} {seen p : Option Char}
    {text left : List Char} (reached : (p,left) ∈ repeatedEnds c least most seen text) :
    ∃ taken, Takes seen text p taken left ∧ (∀ x ∈ taken, c.has x) ∧ least ≤ taken.length ∧
      ∀ m, most = some m → taken.length ≤ m := by
  induction text generalizing least most seen with
  | nil =>
    unfold repeatedEnds at reached
    split at reached
    · rename_i zero
      cases List.mem_singleton.mp reached
      exact ⟨[],⟨rfl,rfl⟩,nofun,by simp [zero],fun m _ => Nat.zero_le m⟩
    · cases reached
  | cons x rest ih =>
    rw [repeatedEnds,List.mem_append] at reached
    rcases reached with here | later
    · split at here
      · rename_i zero
        cases List.mem_singleton.mp here
        exact ⟨[],⟨rfl,rfl⟩,nofun,by simp [zero],fun m _ => Nat.zero_le m⟩
      · cases here
    · split at later
      · rename_i go
        obtain ⟨taken,takes,inside,long,short⟩ := ih later
        refine ⟨x :: taken,⟨by rw [takes.text]; rfl,?_⟩,?_,?_,?_⟩
        · rw [takes.last,List.getLast?_cons,Option.or_some]
          cases taken.getLast? <;> rfl
        · exact List.forall_mem_cons.mpr ⟨go.2,inside⟩
        · rw [List.length_cons]
          omega
        · rintro m rfl
          have := short (m - 1) rfl
          have : m ≠ 0 := fun zero => go.1 (congrArg some zero)
          rw [List.length_cons]
          omega
      · cases later

theorem endsLiteral (s : List Char) {seen p : Option Char} {text left : List Char} :
    (p,left) ∈ ends (literal s) seen text ↔ Takes seen text p s left := by
  induction s generalizing seen text with
  | nil =>
    constructor
    · intro reached
      cases List.mem_singleton.mp reached
      exact ⟨rfl,rfl⟩
    · rintro ⟨rfl,rfl⟩
      exact List.mem_singleton_self _
  | cons x rest ih =>
    show (p,left) ∈ ends (seq (one (CharClass.only x)) (literal rest)) seen text ↔ _
    rw [memSeq]
    cases text with
    | nil =>
      constructor
      · rintro ⟨q,middle,none_,_⟩
        cases none_
      · rintro ⟨none_,_⟩
        cases none_
    | cons y more =>
      simp only [ends]
      constructor
      · rintro ⟨q,middle,here,later⟩
        split at here
        · rename_i same
          rw [CharClass.hasOnly] at same
          subst same
          cases List.mem_singleton.mp here
          have first : Takes seen (y :: more) (some y) [y] more := ⟨rfl,rfl⟩
          exact first.trans (ih.mp later)
        · cases here
      · rintro ⟨same,last⟩
        cases same
        refine ⟨some x,rest ++ left,?_,ih.mpr ⟨rfl,?_⟩⟩
        · rw [if_pos (CharClass.hasOnly.mpr rfl)]
          exact List.mem_singleton_self _
        · rw [last,List.getLast?_cons]
          cases rest.getLast? <;> rfl

/- An expression without `^`, `$` and `\b` takes a text wherever it stands. -/
def Spells (r : Regex) (texts : List Char → Prop) : Prop :=
  ∀ {seen p text left}, (p,left) ∈ ends r seen text ↔ ∃ taken, texts taken ∧ Takes seen text p taken left

theorem spellsLiteral (s : List Char) : Spells (literal s) (· = s) := by
  intro seen p text left
  rw [endsLiteral]
  constructor
  · intro takes
    exact ⟨s,rfl,takes⟩
  · rintro ⟨taken,rfl,takes⟩
    exact takes

theorem spellsOne (c : CharClass) : Spells (one c) fun taken => ∃ x, c.has x ∧ taken = [x] := by
  intro seen p text left
  cases text with
  | nil =>
    constructor
    · intro reached
      cases reached
    · rintro ⟨taken,⟨x,_,rfl⟩,takes⟩
      cases takes.text
  | cons y rest =>
    simp only [ends]
    constructor
    · intro reached
      split at reached
      · rename_i there
        cases List.mem_singleton.mp reached
        exact ⟨[y],⟨y,there,rfl⟩,rfl,rfl⟩
      · cases reached
    · rintro ⟨taken,⟨x,there,rfl⟩,⟨text,last⟩⟩
      cases text
      rw [if_pos there,last]
      exact List.mem_singleton_self _

theorem spellsOptional {r : Regex} {texts : List Char → Prop} (spells : Spells r texts) :
    Spells (optional r) fun taken => texts taken ∨ taken = [] := by
  intro seen p text left
  rw [optional,ends,List.mem_append,spells]
  constructor
  · rintro (⟨taken,known,takes⟩ | here)
    · exact ⟨taken,.inl known,takes⟩
    · cases List.mem_singleton.mp here
      exact ⟨[],.inr rfl,rfl,rfl⟩
  · rintro ⟨taken,known | rfl,takes⟩
    · exact .inl ⟨taken,known,takes⟩
    · obtain ⟨rfl,rfl⟩ := takes
      exact .inr (List.mem_singleton_self _)

theorem spellsSeq {r s : Regex} {texts texts' : List Char → Prop} (first : Spells r texts)
    (second : Spells s texts') :
    Spells (seq r s) fun taken => ∃ a b, texts a ∧ texts' b ∧ taken = a ++ b := by
  intro seen p text left
  rw [memSeq]
  constructor
  · rintro ⟨q,middle,here,later⟩
    obtain ⟨a,known,takes⟩ := first.mp here
    obtain ⟨b,known',takes'⟩ := second.mp later
    exact ⟨a ++ b,⟨a,b,known,known',rfl⟩,takes.trans takes'⟩
  · rintro ⟨taken,⟨a,b,known,known',rfl⟩,⟨text,last⟩⟩
    rw [List.append_assoc] at text
    rw [List.getLast?_append,Option.or_assoc] at last
    exact ⟨_,b ++ left,first.mpr ⟨a,known,text,rfl⟩,second.mpr ⟨b,known',rfl,last⟩⟩

def InFront (spelling text : List Char) : Prop :=
  ∃ rest, text = spelling ++ rest ∧ isWord spelling.getLast? ≠ isWord rest.head?

theorem foundBounded {r : Regex} {texts : List Char → Prop} (spells : Spells r texts) (text : List Char) :
    found (bounded r) none text = true ↔ ∃ spelling, texts spelling ∧ InFront spelling text := by
  rw [bounded,foundAtStart]
  constructor
  · intro some_
    obtain ⟨⟨p,left⟩,reached⟩ := List.exists_mem_of_ne_nil _ some_
    obtain ⟨q,middle,here,edge⟩ := memSeq.mp reached
    obtain ⟨spelling,known,⟨whole,last⟩⟩ := spells.mp here
    refine ⟨spelling,known,middle,whole,?_⟩
    simp only [ends] at edge
    split at edge
    · rename_i differs
      rwa [last,Option.or_none] at differs
    · cases edge
  · rintro ⟨spelling,known,rest,whole,differs⟩
    have takes : Takes none text spelling.getLast? spelling rest := ⟨whole,Option.or_none.symm⟩
    have edge : (spelling.getLast?,rest) ∈ ends boundary spelling.getLast? rest := by
      rw [ends,if_pos differs]
      exact List.mem_singleton_self _
    exact List.ne_nil_of_mem (memSeq.mpr ⟨_,_,spells.mpr ⟨spelling,known,takes⟩,edge⟩)

inductive Lead where
  /-- Nothing. -/
  | any
  /-- None is left, or one that ends a word. -/
  | edge
  | next (c : CharClass) (rest : Lead)
  | either (a b : Lead)
  deriving DecidableEq, Repr

namespace Lead

def Fits : Lead → List Char → Prop
  | any, _ => True
  | edge, text => isWord text.head? = false
  | next c rest, text => ∃ x more, text = x :: more ∧ c.has x = true ∧ Fits rest more
  | either a b, text => Fits a text ∨ Fits b text

def nextTimes (c : CharClass) : Nat → Lead → Lead
  | 0, rest => rest
  | n + 1, rest => next c (nextTimes c n rest)

/- A character of `c`, with `rest` excluding what follows it. -/
def nextExcludes (c : CharClass) (rest : Lead → Bool) : Lead → Bool
  | any => false
  | edge => c.disjoint CharClass.nonWord
  | next d more => c.disjoint d || rest more
  | either a b => nextExcludes c rest a && nextExcludes c rest b

def edgeExcludes : Lead → Bool
  | any => false
  | edge => false
  | next d _ => d.disjoint CharClass.nonWord
  | either a b => edgeExcludes a && edgeExcludes b

def excludes : Lead → Lead → Bool
  | any, _ => false
  | edge, b => edgeExcludes b
  | next c rest, b => nextExcludes c (excludes rest) b
  | either a a', b => excludes a b && excludes a' b

theorem edgeSound {d : CharClass} {x : Char} {rest : List Char} (edge : isWord (x :: rest).head? = false)
    (inside : d.disjoint CharClass.nonWord = true) (there : d.has x = true) : False := by
  have word := CharClass.disjointSound inside there
  rw [CharClass.nonWordHas,Bool.not_eq_false'] at word
  exact Bool.false_ne_true (edge.symm.trans word)

theorem edgeExcludesSound {b : Lead} {text : List Char} (clash : edgeExcludes b = true)
    (first : Fits edge text) : ¬ Fits b text := by
  induction b with
  | any => cases clash
  | edge => cases clash
  | next d more _ =>
    rintro ⟨x,rest,rfl,there,_⟩
    exact edgeSound first clash there
  | either a a' ih ih' =>
    rw [edgeExcludes,Bool.and_eq_true] at clash
    rintro (one_ | other)
    · exact ih clash.1 one_
    · exact ih' clash.2 other

theorem nextExcludesSound {a b : Lead} {c : CharClass} {text : List Char}
    (clash : nextExcludes c (excludes a) b = true)
    (rest : ∀ {b : Lead} {more : List Char}, excludes a b = true → Fits a more → ¬ Fits b more)
    (first : Fits (next c a) text) : ¬ Fits b text := by
  obtain ⟨x,more,rfl,there,later⟩ := first
  induction b with
  | any => cases clash
  | edge =>
    intro second
    exact edgeSound second clash there
  | next d b _ =>
    rw [nextExcludes,Bool.or_eq_true] at clash
    rintro ⟨y,more',same,there',later'⟩
    cases same
    rcases clash with here | behind
    · rw [CharClass.disjointSound here there] at there'
      cases there'
    · exact rest behind later later'
  | either b b' ih ih' =>
    rw [nextExcludes,Bool.and_eq_true] at clash
    rintro (one_ | other)
    · exact ih clash.1 one_
    · exact ih' clash.2 other

theorem excludesSound {a b : Lead} {text : List Char} (clash : excludes a b = true) (first : Fits a text) :
    ¬ Fits b text := by
  induction a generalizing b text with
  | any => cases clash
  | edge => exact edgeExcludesSound clash first
  | next c a ih => exact nextExcludesSound clash ih first
  | either a a' ih ih' =>
    rw [excludes,Bool.and_eq_true] at clash
    rcases first with one_ | other
    · exact ih clash.1 one_
    · exact ih' clash.2 other

theorem fitsTimes {c : CharClass} {rest : Lead} {taken more : List Char} (inside : ∀ x ∈ taken, c.has x = true)
    (behind : Fits rest more) : Fits (nextTimes c taken.length rest) (taken ++ more) := by
  induction taken with
  | nil => exact behind
  | cons x taken ih =>
    rw [List.forall_mem_cons] at inside
    exact ⟨x,taken ++ more,rfl,inside.1,ih inside.2⟩

end Lead

open Lead

/- `word` says that the character before is one of a word, and `rest` what is known of the text behind
the match. -/
def leads : Regex → (Bool → Lead) → Bool → Lead
  | empty, rest, word => rest word
  | one c, rest, _ => next c (rest (c.disjoint CharClass.nonWord))
  | seq r s, rest, word => leads r (leads s rest) word
  | alt r s, rest, word => either (leads r rest word) (leads s rest word)
  | repeated c least most, rest, _ => nextTimes c least (if most = some least then rest false else any)
  | start, rest, word => rest word
  | finish, rest, word => rest word
  | boundary, rest, word => if word then edge else rest word

theorem fitsRepeated {c : CharClass} {least : Nat} {most : Option Nat} {seen p : Option Char}
    {text left : List Char} {rest : Lead} (reached : (p,left) ∈ repeatedEnds c least most seen text)
    (behind : Fits rest left) : Fits (nextTimes c least (if most = some least then rest else any)) text := by
  obtain ⟨taken,takes,inside,long,short⟩ := repeatedTakes reached
  rw [takes.text]
  by_cases exact_ : most = some least
  · have length := Nat.le_antisymm long (short least exact_)
    rw [if_pos exact_,length]
    exact fitsTimes inside behind
  · have length : (taken.take least).length = least := by
      rw [List.length_take]
      omega
    have inside' : ∀ x ∈ taken.take least, c.has x = true :=
      fun x member => inside x (List.mem_of_mem_take member)
    have unknown : Fits any (taken.drop least ++ left) := trivial
    have fits := fitsTimes inside' unknown
    rw [if_neg exact_]
    rwa [length,← List.append_assoc,List.take_append_drop] at fits

theorem leadsSound (r : Regex) {rest : Bool → Lead} {word : Bool} {seen p : Option Char}
    {text left : List Char} (reached : (p,left) ∈ ends r seen text) (before : word = true → isWord seen = true)
    (behind : ∀ w, (w = true → isWord p = true) → Fits (rest w) left) : Fits (leads r rest word) text := by
  induction r generalizing rest word seen p text left with
  | empty =>
    cases List.mem_singleton.mp reached
    exact behind word before
  | one c =>
    cases text with
    | nil => cases reached
    | cons x more =>
      simp only [ends] at reached
      split at reached
      · rename_i there
        cases List.mem_singleton.mp reached
        refine ⟨x,_,rfl,there,behind _ fun inside => ?_⟩
        have word := CharClass.disjointSound inside there
        rwa [CharClass.nonWordHas,Bool.not_eq_false'] at word
      · cases reached
  | seq r s first second =>
    obtain ⟨q,middle,begun,more⟩ := memSeq.mp reached
    exact first begun before fun w known => second more known behind
  | alt r s first second =>
    rcases List.mem_append.mp reached with here | there
    · exact .inl (first here before behind)
    · exact .inr (second there before behind)
  | repeated c least most => exact fitsRepeated reached (behind false nofun)
  | start =>
    simp only [ends] at reached
    split at reached
    · cases List.mem_singleton.mp reached
      exact behind word before
    · cases reached
  | finish =>
    simp only [ends] at reached
    split at reached
    · cases List.mem_singleton.mp reached
      exact behind word before
    · cases reached
  | boundary =>
    simp only [ends] at reached
    split at reached
    · rename_i differs
      cases List.mem_singleton.mp reached
      cases word with
      | false => exact behind false nofun
      | true =>
        rw [before rfl] at differs
        exact Bool.eq_false_iff.mpr differs.symm
    · cases reached

def apart (r s : Regex) : Bool := excludes (leads r (fun _ => any) false) (leads s (fun _ => any) false)

theorem apartSound {r s : Regex} (clash : apart r s = true) {text : List Char}
    (first : ends r none text ≠ []) : ends s none text = [] := by
  by_contra second
  obtain ⟨⟨p,left⟩,reached⟩ := List.exists_mem_of_ne_nil _ first
  obtain ⟨⟨q,left'⟩,reached'⟩ := List.exists_mem_of_ne_nil _ second
  have before : false = true → isWord none = true := nofun
  exact excludesSound clash (leadsSound r reached before fun _ _ => trivial)
    (leadsSound s reached' before fun _ _ => trivial)

theorem foundApart {r s : Regex} (clash : apart r s = true) {text : List Char}
    (first : found (anchored r) none text = true) : found (anchored s) none text = false := by
  rw [Bool.eq_false_iff,Ne,foundAtStart,not_not]
  exact apartSound clash ((foundAtStart r text).mp first)

end Regex

end LxiWeb.Regexes
