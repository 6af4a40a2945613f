import LxiWeb.Regexes
import LxiWeb.SessionManager
import Mathlib.Data.List.Find
import Mathlib.Data.List.Infix
import Mathlib.Data.List.Sort

/-! The registry of instrument drivers: an identity resolves to the first entry that matches it. A pack
registers the variants of a family from the longest name to the shortest, then the family's catch-alls. -/
namespace LxiWeb.DriverRegistry
open Regexes Regexes.Regex
open SessionManager (DeviceIdentity DeviceKind)

inductive Pattern where
  | text (value : String)
  | regex (r : Regex)
  deriving DecidableEq, Repr

structure DriverMatcher where
  manufacturer : Pattern
  model : Pattern
  deriving DecidableEq, Repr

structure DriverEntry where
  id : String
  kind : DeviceKind
  matcher : DriverMatcher
  /-- The variant `create` builds a façade for, which is the default of the family for a catch-all. -/
  variant : Option String
  known : kind ≠ .unknown := by decide
  deriving DecidableEq, Repr

abbrev Registry := List DriverEntry

def register (registry : Registry) (entry : DriverEntry) : Except String Registry :=
  if registry.any fun e => e.id = entry.id then
    .error ("driver id \"" ++ entry.id ++ "\" already registered")
  else .ok (registry ++ [entry])

/- `toLowerCase` of the packs' own texts, which are ASCII. -/
def lower (text : String) : String := String.ofList (text.toList.map Char.toLower)

variable (toLowerCase : String → String)

def valueMatches (value : String) : Pattern → Bool
  | .regex r => r.test value.toList
  | .text pattern => (lower pattern).toList <:+: (toLowerCase value).toList

def resolve (registry : Registry) (identity : DeviceIdentity) : Option DriverEntry :=
  registry.find? fun entry => valueMatches toLowerCase identity.manufacturer entry.matcher.manufacturer &&
    valueMatches toLowerCase identity.model entry.matcher.model

def fold (text : String) : List Char := text.toList.map Char.toUpper

/- `new RegExp(`^${escapeRegex(variant)}\\b`, "i")` -/
def variantRegex (variant : String) : Regex := bounded (literal (fold variant))

/- `/^(DSO|MSO)X(\d{4}[A-Z])$/`: what stands before the `X` and behind. -/
def infiniiVisionName (variant : String) : Option (List Char × List Char) :=
  match variant.toList with
  | d :: s :: o :: 'X' :: rest =>
    if ([d,s,o] = ['D','S','O'] ∨ [d,s,o] = ['M','S','O']) ∧ rest.length = 5 ∧
        (rest.take 4).all Char.isDigit ∧ (rest.drop 4).all Char.isUpper then some ([d,s,o],rest)
    else none
  | _ => none

def infiniiVisionModelRegex (variant : String) : Regex :=
  match infiniiVisionName variant with
  | none => variantRegex variant
  | some (lead,rest) =>
    bounded (seq (literal lead) (seq (optional (literal ['-'])) (seq (literal ['X'])
      (seq (optional (one CharClass.space)) (literal rest)))))

def sortedByLength (variants : List String) : List String :=
  variants.insertionSort fun a b => b.length ≤ a.length

def Named (model variant : String) : Prop := InFront (fold variant) (fold model)

/- An InfiniiVision's name may have a dash before its `X` and one white space behind. -/
def Spelling (variant : String) (spelling : List Char) : Prop :=
  match infiniiVisionName variant with
  | none => spelling = fold variant
  | some (lead,rest) => ∃ dash gap, (dash = [] ∨ dash = ['-']) ∧
      (gap = [] ∨ ∃ c, CharClass.space.has c ∧ gap = [c]) ∧ spelling = lead ++ (dash ++ ('X' :: gap ++ rest))

def NamedAs (model variant : String) : Prop :=
  ∃ spelling, Spelling variant spelling ∧ InFront spelling (fold model)

def variantsOf (pack : List DriverEntry) : List String := pack.filterMap DriverEntry.variant

def catchAlls (pack : List DriverEntry) : List DriverEntry := pack.filter fun entry => entry.variant.isNone

/- Of the variants that are `named`, the one with the longest name; else the first catch-all. -/
structure PicksLongest (named : String → Prop) (pack : List DriverEntry) (model : String)
    (resolved : Option DriverEntry) : Prop where
  variant : ∀ variant ∈ variantsOf pack, named variant →
    ∃ entry ∈ pack, ∃ longest, entry.variant = some longest ∧ named longest ∧ resolved = some entry ∧
      ∀ other ∈ variantsOf pack, named other → other ≠ longest → other.length < longest.length
  catchAll : (∀ variant ∈ variantsOf pack, ¬ named variant) →
    resolved = (catchAlls pack).find? fun entry => valueMatches toLowerCase model entry.matcher.model

structure OnlyOf (packs : List (List DriverEntry)) (pack : List DriverEntry) (manufacturer : String) :
    Prop where
  own : ∀ entry ∈ pack, valueMatches toLowerCase manufacturer entry.matcher.manufacturer
  others : ∀ other ∈ packs, other ≠ pack → ∀ entry ∈ other,
    ¬ valueMatches toLowerCase manufacturer entry.matcher.manufacturer

variable {toLowerCase}

theorem registerAll {registry drivers : List DriverEntry}
    (distinct : ((registry ++ drivers).map DriverEntry.id).Nodup) :
    drivers.foldlM register registry = .ok (registry ++ drivers) := by
  induction drivers generalizing registry with
  | nil => rw [List.append_nil]; rfl
  | cons entry rest ih =>
    have fresh : registry.any (fun e => e.id = entry.id) = false := by
      rw [List.any_eq_false]
      intro e member same
      rw [List.map_append,List.map_cons,List.nodup_append] at distinct
      exact distinct.2.2 _ (List.mem_map_of_mem member) _ List.mem_cons_self (of_decide_eq_true same)
    have one_ : register registry entry = .ok (registry ++ [entry]) := by
      rw [register,fresh]
      rfl
    rw [List.append_cons] at distinct ⊢
    rw [List.foldlM_cons,one_]
    exact ih distinct

theorem variantMatches (variant model : String) :
    valueMatches toLowerCase model (.regex (variantRegex variant)) = true ↔ Named model variant := by
  rw [valueMatches,test,variantRegex,foundBounded (spellsLiteral (fold variant))]
  constructor
  · rintro ⟨spelling,rfl,inFront⟩
    exact inFront
  · intro inFront
    exact ⟨_,rfl,inFront⟩

instance (model variant : String) : Decidable (Named model variant) :=
  decidable_of_iff _ (@variantMatches lower variant model)

theorem modelMatches (variant model : String) :
    valueMatches toLowerCase model (.regex (infiniiVisionModelRegex variant)) = true ↔ NamedAs model variant := by
  unfold infiniiVisionModelRegex NamedAs Spelling
  cases infiniiVisionName variant with
  | none =>
    dsimp only
    rw [variantMatches]
    constructor
    · intro inFront
      exact ⟨_,rfl,inFront⟩
    · rintro ⟨spelling,rfl,inFront⟩
      exact inFront
  | some parts =>
    obtain ⟨lead,rest⟩ := parts
    dsimp only
    have dash : Spells (optional (literal ['-'])) _ := spellsOptional (spellsLiteral ['-'])
    have gap : Spells (optional (one CharClass.space)) _ := spellsOptional (spellsOne CharClass.space)
    rw [valueMatches,test,foundBounded (spellsSeq (spellsLiteral lead) (spellsSeq dash
      (spellsSeq (spellsLiteral ['X']) (spellsSeq gap (spellsLiteral rest)))))]
    constructor
    · rintro ⟨spelling,⟨_,_,rfl,⟨dash,_,dashed,⟨_,_,rfl,⟨gap,_,gapped,rfl,rfl⟩,rfl⟩,rfl⟩,rfl⟩,inFront⟩
      exact ⟨_,⟨dash,gap,dashed.symm,gapped.symm,rfl⟩,inFront⟩
    · rintro ⟨spelling,⟨dash,gap,dashed,gapped,rfl⟩,inFront⟩
      exact ⟨_,⟨lead,_,rfl,⟨dash,_,dashed.symm,⟨['X'],_,rfl,⟨gap,rest,gapped.symm,rfl,rfl⟩,rfl⟩,rfl⟩,rfl⟩,
        inFront⟩

def apartPatterns : Pattern → Pattern → Bool
  | .regex (.seq .start r), .regex (.seq .start s) => apart r s
  | _, _ => false

def longer (earlier later : Option String) : Bool :=
  earlier.any fun a => later.any fun b => b.length < a.length

def yields (earlier later : DriverEntry) : Bool :=
  later.variant.isNone || longer earlier.variant later.variant ||
    apartPatterns earlier.matcher.model later.matcher.model

theorem apartSoundPatterns {p q : Pattern} (clash : apartPatterns p q = true) {value : String}
    (first : valueMatches toLowerCase value p = true) : valueMatches toLowerCase value q = false := by
  unfold apartPatterns at clash
  split at clash
  · exact foundApart clash first
  · cases clash

structure Ordered (pack : List DriverEntry) : Prop where
  named : ∀ entry ∈ pack, ∀ variant ∈ entry.variant,
    entry.matcher.model = .regex (infiniiVisionModelRegex variant)
  yielding : pack.Pairwise fun earlier later => yields earlier later = true

instance (pack : List DriverEntry) : Decidable (Ordered pack) :=
  decidable_of_iff ((∀ entry ∈ pack, ∀ variant ∈ entry.variant,
      entry.matcher.model = .regex (infiniiVisionModelRegex variant)) ∧
    pack.Pairwise fun earlier later => yields earlier later = true)
    ⟨fun both => ⟨both.1,both.2⟩,fun ordered => ⟨ordered.named,ordered.yielding⟩⟩

section
variable {pack : List DriverEntry} {model : String}

variable (toLowerCase) in
theorem Ordered.matchesIff (ordered : Ordered pack) {entry : DriverEntry} {variant : String}
    (member : entry ∈ pack) (named : entry.variant = some variant) :
    valueMatches toLowerCase model entry.matcher.model = true ↔ NamedAs model variant := by
  rw [ordered.named entry member variant named]
  exact modelMatches variant model

theorem longerLater {earlier later : DriverEntry} {variant : String} (yielded : yields earlier later = true)
    (first : valueMatches toLowerCase model earlier.matcher.model = true)
    (second : valueMatches toLowerCase model later.matcher.model = true) (named : later.variant = some variant) :
    ∃ longest, earlier.variant = some longest ∧ variant.length < longest.length := by
  rw [yields,named,Bool.or_eq_true,Bool.or_eq_true] at yielded
  rcases yielded with (none_ | longer_) | clash
  · cases none_
  · rw [longer,Option.any_eq_true] at longer_
    obtain ⟨longest,same,shorter⟩ := longer_
    exact ⟨longest,same,of_decide_eq_true shorter⟩
  · rw [apartSoundPatterns clash first] at second
    cases second

theorem Ordered.firstLongest (ordered : Ordered pack) {entry : DriverEntry}
    (found : pack.find? (fun entry => valueMatches toLowerCase model entry.matcher.model) = some entry)
    {other : DriverEntry} {variant : String} (member : other ∈ pack) (named : other.variant = some variant)
    (also : valueMatches toLowerCase model other.matcher.model = true) :
    other = entry ∨ ∃ longest, entry.variant = some longest ∧ variant.length < longest.length := by
  obtain ⟨here,before,behind,split_,unmatched⟩ := List.find?_eq_some_iff_append.mp found
  rw [split_,List.mem_append,List.mem_cons] at member
  rcases member with early | same | late
  · have := unmatched other early
    rw [also] at this
    cases this
  · exact .inl same
  · have yielding := ordered.yielding
    rw [split_,List.pairwise_append,List.pairwise_cons] at yielding
    exact .inr (longerLater (yielding.2.1.1 other late) here also named)

theorem Ordered.picksLongest (ordered : Ordered pack) :
    PicksLongest toLowerCase (NamedAs model) pack model
      (pack.find? fun entry => valueMatches toLowerCase model entry.matcher.model) where
  variant := by
    intro variant listed named
    obtain ⟨other,member,same⟩ := List.mem_filterMap.mp listed
    have also := (ordered.matchesIff toLowerCase member same).mpr named
    cases found : pack.find? fun entry => valueMatches toLowerCase model entry.matcher.model with
    | none =>
      exact absurd also (List.find?_eq_none.mp found other member)
    | some entry =>
      have inside := List.mem_of_find?_eq_some found
      have here := List.find?_some found
      have longest : ∃ longest, entry.variant = some longest := by
        rcases ordered.firstLongest found member same also with rfl | ⟨longest,own,_⟩
        · exact ⟨variant,same⟩
        · exact ⟨longest,own⟩
      obtain ⟨longest,own⟩ := longest
      refine ⟨entry,inside,longest,own,(ordered.matchesIff toLowerCase inside own).mp here,rfl,?_⟩
      intro name listed' named' differs
      obtain ⟨rival,member',same'⟩ := List.mem_filterMap.mp listed'
      have rivals := (ordered.matchesIff toLowerCase member' same').mpr named'
      rcases ordered.firstLongest found member' same' rivals with rfl | ⟨_,own',shorter⟩
      · exact absurd (Option.some.inj (same'.symm.trans own)) differs
      · cases own.symm.trans own'
        exact shorter
  catchAll := by
    intro unnamed
    rw [catchAlls,List.find?_filter]
    apply List.find?_congr
    intro entry member
    cases same : entry.variant with
    | none => simp
    | some variant =>
      have listed : variant ∈ variantsOf pack := List.mem_filterMap.mpr ⟨entry,member,same⟩
      have hidden := unnamed variant listed
      rw [← ordered.matchesIff toLowerCase member same,Bool.not_eq_true] at hidden
      simp [hidden]

theorem onlyFound {packs : List (List DriverEntry)} {p : DriverEntry → Bool} (member : pack ∈ packs)
    (others : ∀ other ∈ packs, other ≠ pack → ∀ entry ∈ other, p entry = false) :
    packs.flatten.find? p = pack.find? p := by
  induction packs with
  | nil => cases member
  | cons head rest ih =>
    have later : ∀ other ∈ rest, other ≠ pack → ∀ entry ∈ other, p entry = false :=
      fun other inside => others other (List.mem_cons_of_mem _ inside)
    rw [List.flatten_cons,List.find?_append]
    by_cases same : head = pack
    · subst same
      cases found : head.find? p with
      | some entry => rfl
      | none =>
        rw [Option.none_or,List.find?_eq_none]
        intro entry inside
        obtain ⟨other,listed,there⟩ := List.mem_flatten.mp inside
        by_cases again : other = head
        · subst again
          exact List.find?_eq_none.mp found entry there
        · rw [later other listed again entry there]
          exact Bool.false_ne_true
    · have none_ : head.find? p = none := by
        rw [List.find?_eq_none]
        intro entry inside
        rw [others head List.mem_cons_self same entry inside]
        exact Bool.false_ne_true
      rw [none_,Option.none_or]
      exact ih (List.mem_of_ne_of_mem (Ne.symm same) member) later

theorem resolvedLongest {packs : List (List DriverEntry)} {identity : DeviceIdentity}
    (ordered : ∀ pack ∈ packs, Ordered pack) (member : pack ∈ packs)
    (only : OnlyOf toLowerCase packs pack identity.manufacturer) :
    PicksLongest toLowerCase (NamedAs identity.model) pack identity.model
      (resolve toLowerCase packs.flatten identity) := by
  have here : resolve toLowerCase packs.flatten identity =
      pack.find? fun entry => valueMatches toLowerCase identity.model entry.matcher.model := by
    rw [resolve,onlyFound member]
    · apply List.find?_congr
      intro entry inside
      rw [only.own entry inside,Bool.true_and]
    · intro other listed differs entry inside
      rw [Bool.eq_false_iff.mpr (only.others other listed differs entry inside),Bool.false_and]
  rw [here]
  exact (ordered pack member).picksLongest

end

end LxiWeb.DriverRegistry
