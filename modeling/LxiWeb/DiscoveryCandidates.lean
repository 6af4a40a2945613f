import LxiWeb.JsNumbers
import LxiWeb.KeyedMerge
import Mathlib.Data.List.Induction
import Mathlib.Data.String.Basic

/-! What a discovery scan makes of the services it hears: one candidate for each host. -/
namespace LxiWeb.DiscoveryCandidates
open JsNumbers KeyedMerge

inductive DiscoveryServiceType where
  | lxi
  | scpiRaw
  | hislip
  | visa
  | other
  deriving DecidableEq

structure MdnsService (F : Type) where
  name : String
  type : String
  host : String
  port : F
  addresses : List String
  txt : List (String × String)
  fqdn : Option String
  subtypes : List String
  deriving DecidableEq

structure DiscoveryCandidate (F : Type) where
  key : String
  host : String
  port : F
  name : String
  serviceTypes : List DiscoveryServiceType
  addresses : List String
  txt : List (String × String)
  deriving DecidableEq

structure HostEntry (F : Type) where
  host : String
  name : String
  portByType : List (DiscoveryServiceType × F)
  addresses : List String
  txt : List (String × String)

def preference : List DiscoveryServiceType := [.scpiRaw, .visa, .hislip, .lxi, .other]

-- what `.` of a regular expression stops at
def isLineTerminator (c : Char) : Bool := c.toNat ∈ [0x0A, 0x0D, 0x2028, 0x2029]

-- `text.replace(/\._tcp.*$/, "")`
def dropTcp : List Char → List Char
  | [] => []
  | c :: rest =>
      if "._tcp".toList.isPrefixOf (c :: rest) ∧ rest.all (fun d => !isLineTerminator d) then []
      else c :: dropTcp rest

-- `text.replace(/^_/, "")`
def dropUnderscore : List Char → List Char
  | '_' :: rest => rest
  | text => text

/- The names that `{}` has already. -/
def prototypeNames : List String :=
  ["constructor", "__defineGetter__", "__defineSetter__", "hasOwnProperty", "__lookupGetter__",
    "__lookupSetter__", "isPrototypeOf", "propertyIsEnumerable", "toString", "valueOf", "__proto__",
    "toLocaleString"]

def codeUnits (text : String) : List Nat :=
  text.toList.flatMap fun c =>
    if c.toNat < 0x10000 then [c.toNat]
    else [0xD800 + (c.toNat - 0x10000) / 0x400, 0xDC00 + (c.toNat - 0x10000) % 0x400]

def sortTexts (texts : List String) : List String :=
  texts.mergeSort fun a b => decide (codeUnits a ≤ codeUnits b)

-- `Set.add`
def addNew (texts : List String) (text : String) : List String :=
  if text ∈ texts then texts else texts ++ [text]

def Protocol (tail : List Char) : Prop :=
  ∃ domain, tail = "._tcp".toList ++ domain ∧
    ∀ c ∈ domain, c ∉ [Char.ofNat 0x0A, Char.ofNat 0x0D, Char.ofNat 0x2028, Char.ofNat 0x2029]

/- `_name._tcp.local` names `name`; the underscore and the suffix may be missing. -/
def NamesService (type name : List Char) : Prop :=
  ∃ stem tail, (type = '_' :: stem ∨ type = stem ∧ stem.head? ≠ some '_') ∧ stem = name ++ tail ∧
    (tail = [] ∨ Protocol tail) ∧ ∀ k < name.length, ¬ Protocol (stem.drop k)

def spellings : List (String × DiscoveryServiceType) :=
  [("scpi-raw", .scpiRaw), ("visa", .visa), ("hislip", .hislip), ("lxi", .lxi)]

def rank : DiscoveryServiceType → Nat
  | .scpiRaw => 0
  | .visa => 1
  | .hislip => 2
  | .lxi => 3
  | .other => 4

section
variable {F : Type} (num : Numbers F) (toLowerCase : String → String)
  -- `a.localeCompare(b) <= 0`
  (inOrder : String → String → Bool)

def normalizeDiscoveryServiceType (type : String) : DiscoveryServiceType :=
  match toLowerCase (String.ofList (dropTcp (dropUnderscore type.toList))) with
  | "lxi" => .lxi
  | "scpi-raw" => .scpiRaw
  | "hislip" => .hislip
  | "visa" => .visa
  | _ => .other

def pickPort (ports : List (DiscoveryServiceType × F)) (preference : List DiscoveryServiceType) : F :=
  match preference.findSome? (ports.lookup ·) with
  | some port => port
  | none => (ports.head?.map Prod.snd).getD (num.ofInt 0)

def HostEntry.start (svc : MdnsService F) : HostEntry F := ⟨svc.host,svc.name,[],[],[]⟩

def setPort (ports : List (DiscoveryServiceType × F)) (kind : DiscoveryServiceType) (port : F) :
    List (DiscoveryServiceType × F) :=
  if (ports.lookup kind).isSome then ports else ports ++ [(kind, port)]

def setText (txt : List (String × String)) (entry : String × String) : List (String × String) :=
  if (txt.lookup entry.1).isSome ∨ entry.1 ∈ prototypeNames then txt else txt ++ [entry]

def HostEntry.add (entry : HostEntry F) (svc : MdnsService F) : HostEntry F :=
  { entry with
    portByType := setPort entry.portByType (normalizeDiscoveryServiceType toLowerCase svc.type) svc.port
    addresses := svc.addresses.foldl addNew entry.addresses
    txt := svc.txt.foldl setText entry.txt }

def absorb (byHost : List (String × HostEntry F)) (svc : MdnsService F) : List (String × HostEntry F) :=
  if svc.host = "" ∨ ¬ num.isInteger svc.port then byHost
  else
    let key := toLowerCase svc.host
    let entry := (byHost.lookup key).getD (.start svc)
    put Prod.fst byHost (key, entry.add toLowerCase svc)

def candidate (key : String) (entry : HostEntry F) : DiscoveryCandidate F where
  key := key
  host := entry.host
  port := pickPort num entry.portByType preference
  name := entry.name
  serviceTypes := preference.filter fun t => (entry.portByType.lookup t).isSome
  addresses := sortTexts entry.addresses
  txt := entry.txt

def dedupe (services : List (MdnsService F)) : List (DiscoveryCandidate F) :=
  let byHost := services.foldl (absorb num toLowerCase) []
  (byHost.map fun e => candidate num e.1 e.2).mergeSort fun a b => inOrder a.host b.host

/- The services of the host `key` that have a host and an integer port. -/
def ofHost (services : List (MdnsService F)) (key : String) : List (MdnsService F) :=
  services.filter fun svc => svc.host ≠ "" ∧ num.isInteger svc.port ∧ toLowerCase svc.host = key

/- A service is of the type that the name in its type spells, and of another type if it spells none. -/
def Advertises (svc : MdnsService F) (t : DiscoveryServiceType) : Prop :=
  ∃ name, NamesService svc.type.toList name ∧
    ((toLowerCase (String.ofList name), t) ∈ spellings ∨
      t = .other ∧ toLowerCase (String.ofList name) ∉ spellings.map Prod.fst)

structure Complete (services : List (MdnsService F)) (candidates : List (DiscoveryCandidate F)) : Prop where
  parts : ∀ svc ∈ services, svc.host ≠ "" → num.isInteger svc.port →
    ∃! c, c ∈ candidates ∧ svc ∈ ofHost num toLowerCase services c.key
  inhabited : ∀ c ∈ candidates, ofHost num toLowerCase services c.key ≠ []
  keys : (candidates.map DiscoveryCandidate.key).Nodup
  addresses : ∀ c ∈ candidates, ∀ a,
    a ∈ c.addresses ↔ ∃ svc ∈ ofHost num toLowerCase services c.key, a ∈ svc.addresses
  serviceTypes : ∀ c ∈ candidates, ∀ t, t ∈ c.serviceTypes ↔
    ∃ svc ∈ ofHost num toLowerCase services c.key, Advertises toLowerCase svc t
  ranked : ∀ c ∈ candidates, c.serviceTypes.Pairwise (rank · < rank ·)
  port : ∀ c ∈ candidates, ∃ svc ∈ ofHost num toLowerCase services c.key, ∃ t,
    svc.port = c.port ∧ Advertises toLowerCase svc t ∧
      ∀ other ∈ ofHost num toLowerCase services c.key, ∀ u, Advertises toLowerCase other u → rank t ≤ rank u

structure SameHosts (candidates others : List (DiscoveryCandidate F)) : Prop where
  keys : ∀ key, key ∈ candidates.map DiscoveryCandidate.key ↔ key ∈ others.map DiscoveryCandidate.key
  addresses : ∀ c ∈ candidates, ∀ d ∈ others, c.key = d.key → ∀ a, a ∈ c.addresses ↔ a ∈ d.addresses
  serviceTypes : ∀ c ∈ candidates, ∀ d ∈ others, c.key = d.key → c.serviceTypes = d.serviceTypes

end

theorem protocolIff (c : Char) (rest : List Char) : Protocol (c :: rest) ↔
    "._tcp".toList.isPrefixOf (c :: rest) ∧ rest.all (fun d => !isLineTerminator d) := by
  have breaks (d : Char) : isLineTerminator d = true ↔
      d ∈ [Char.ofNat 0x0A, Char.ofNat 0x0D, Char.ofNat 0x2028, Char.ofNat 0x2029] := by
    simp only [isLineTerminator,decide_eq_true_eq,List.mem_cons,List.not_mem_nil,or_false]
    simp only [Char.ext_iff,← UInt32.toNat_inj]
    rfl
  rw [List.isPrefixOf_iff_prefix]
  constructor
  · rintro ⟨domain,whole,line⟩
    refine ⟨⟨domain,whole.symm⟩,?_⟩
    have after : rest = ['_','t','c','p'] ++ domain := (List.cons.inj whole).2
    rw [after,List.all_eq_true]
    intro d member
    rw [Bool.not_eq_true']
    rcases List.mem_append.mp member with front | back
    · simp only [List.mem_cons,List.not_mem_nil,or_false] at front
      rcases front with rfl | rfl | rfl | rfl <;> decide
    · exact Bool.eq_false_iff.mpr fun broken => line d back ((breaks d).mp broken)
  · rintro ⟨⟨domain,whole⟩,line⟩
    refine ⟨domain,whole.symm,fun d back broken => ?_⟩
    have after : rest = ['_','t','c','p'] ++ domain := (List.cons.inj whole.symm).2
    have clean := List.all_eq_true.mp line d (after ▸ List.mem_append_right _ back)
    simp [(breaks d).mpr broken] at clean

theorem dropTcpOf {stem name tail : List Char} (split : stem = name ++ tail) (ends : tail = [] ∨ Protocol tail)
    (first : ∀ k < name.length, ¬ Protocol (stem.drop k)) : dropTcp stem = name := by
  induction name generalizing stem with
  | nil =>
    obtain rfl : stem = tail := split
    cases stem with
    | nil => rfl
    | cons c rest =>
      have suffix : Protocol (c :: rest) := ends.resolve_left (by simp)
      rw [dropTcp,if_pos ((protocolIff c rest).mp suffix)]
  | cons c name ih =>
    obtain rfl : stem = c :: (name ++ tail) := split
    have here : ¬ Protocol (c :: (name ++ tail)) := first 0 (by simp)
    rw [dropTcp,if_neg (mt (protocolIff c _).mpr here),ih rfl]
    intro k inside
    exact first (k + 1) (by simpa using inside)

theorem dropTcpSplits (stem : List Char) : ∃ tail, stem = dropTcp stem ++ tail ∧ (tail = [] ∨ Protocol tail) ∧
    ∀ k < (dropTcp stem).length, ¬ Protocol (stem.drop k) := by
  induction stem with
  | nil => exact ⟨[],rfl,.inl rfl,by simp [dropTcp]⟩
  | cons c rest ih =>
    rw [dropTcp]
    split
    · rename_i suffix
      exact ⟨c :: rest,rfl,.inr ((protocolIff c rest).mpr suffix),by simp⟩
    · rename_i inside
      obtain ⟨tail,split,ends,first⟩ := ih
      refine ⟨tail,by rw [List.cons_append,← split],ends,?_⟩
      intro k short
      cases k with
      | zero => exact mt (protocolIff c rest).mp inside
      | succ k => exact first k (by simpa using short)

theorem stemIff (type stem : List Char) :
    (type = '_' :: stem ∨ type = stem ∧ stem.head? ≠ some '_') ↔ dropUnderscore type = stem := by
  unfold dropUnderscore
  split
  · rename_i rest
    constructor
    · rintro (same | ⟨rfl,starts⟩)
      · exact (List.cons.inj same).2
      · exact absurd rfl starts
    · rintro rfl
      exact .inl rfl
  · rename_i bare
    constructor
    · rintro (rfl | ⟨rfl,-⟩)
      · exact absurd rfl (bare stem)
      · rfl
    · rintro rfl
      refine .inr ⟨rfl,fun starts => ?_⟩
      obtain ⟨rest,same⟩ := List.head?_eq_some_iff.mp starts
      exact bare rest same

theorem namesIff (type name : List Char) : NamesService type name ↔ dropTcp (dropUnderscore type) = name := by
  unfold NamesService
  simp only [stemIff]
  constructor
  · rintro ⟨stem,tail,rfl,split,ends,first⟩
    exact dropTcpOf split ends first
  · rintro rfl
    obtain ⟨tail,split,ends,first⟩ := dropTcpSplits (dropUnderscore type)
    exact ⟨_,tail,rfl,split,ends,first⟩

theorem advertisesIff {F : Type} (toLowerCase : String → String) (svc : MdnsService F) (t : DiscoveryServiceType) :
    Advertises toLowerCase svc t ↔ normalizeDiscoveryServiceType toLowerCase svc.type = t := by
  unfold Advertises normalizeDiscoveryServiceType
  simp only [namesIff,exists_eq_left']
  generalize toLowerCase _ = name
  split <;> simp_all [spellings,eq_comm]

section
variable {F : Type} {num : Numbers F} {toLowerCase : String → String}

theorem memAddNew {texts : List String} {text a : String} : a ∈ addNew texts text ↔ a ∈ texts ∨ a = text := by
  unfold addNew
  split
  · rename_i here
    constructor
    · exact .inl
    · rintro (old | rfl)
      · exact old
      · exact here
  · simp

theorem memAddAll {texts more : List String} {a : String} :
    a ∈ more.foldl addNew texts ↔ a ∈ texts ∨ a ∈ more := by
  induction more generalizing texts with
  | nil => simp
  | cons text rest ih => rw [List.foldl_cons,ih,memAddNew,List.mem_cons,or_assoc]

theorem lookupSetPort {ports : List (DiscoveryServiceType × F)} {kind t : DiscoveryServiceType} {port : F} :
    (setPort ports kind port).lookup t = (ports.lookup t).or (if t = kind then some port else none) := by
  have single : [(kind, port)].lookup t = if t = kind then some port else none := by
    by_cases same : t = kind
    · subst same
      simp
    · have differs : (t == kind) = false := beq_false_of_ne same
      simp [List.lookup_cons,differs,same]
  unfold setPort
  split
  · rename_i set
    by_cases same : t = kind
    · subst same
      rw [Option.or_of_isSome set]
    · rw [if_neg same,Option.or_none]
  · rw [List.lookup_append,single]

variable (toLowerCase) in
structure Gathered (served : List (MdnsService F)) (entry : HostEntry F) : Prop where
  addresses : ∀ a, a ∈ entry.addresses ↔ ∃ svc ∈ served, a ∈ svc.addresses
  kinds : ∀ t, (entry.portByType.lookup t).isSome ↔ ∃ svc ∈ served, Advertises toLowerCase svc t
  ports : ∀ t port, entry.portByType.lookup t = some port →
    ∃ svc ∈ served, svc.port = port ∧ Advertises toLowerCase svc t

theorem gatheredStart (svc : MdnsService F) : Gathered toLowerCase [] (.start svc) := by
  constructor
  · simp [HostEntry.start]
  · simp [HostEntry.start]
  · simp [HostEntry.start]

theorem gatheredAdd {served : List (MdnsService F)} {entry : HostEntry F} (svc : MdnsService F)
    (gathered : Gathered toLowerCase served entry) :
    Gathered toLowerCase (served ++ [svc]) (entry.add toLowerCase svc) := by
  constructor
  · intro a
    rw [HostEntry.add,memAddAll,gathered.addresses]
    simp [or_and_right,exists_or]
  · intro t
    have snoc : (∃ heard ∈ served ++ [svc], Advertises toLowerCase heard t) ↔
        (∃ heard ∈ served, Advertises toLowerCase heard t) ∨
          t = normalizeDiscoveryServiceType toLowerCase svc.type := by
      simp [or_and_right,exists_or,advertisesIff,eq_comm]
    rw [snoc,← gathered.kinds,HostEntry.add,lookupSetPort]
    cases entry.portByType.lookup t <;> simp
  · intro t port found
    rw [HostEntry.add,lookupSetPort,Option.or_eq_some_iff] at found
    rcases found with old | ⟨-,new⟩
    · obtain ⟨before,member,facts⟩ := gathered.ports t port old
      exact ⟨before,List.mem_append_left _ member,facts⟩
    · split at new
      · rename_i same
        exact ⟨svc,by simp,Option.some.inj new,(advertisesIff _ svc t).mpr same.symm⟩
      · cases new

end

section
variable {F : Type} {num : Numbers F} {toLowerCase : String → String}

variable (num toLowerCase) in
structure Tracks (services : List (MdnsService F)) (byHost : List (String × HostEntry F)) : Prop where
  keys : (byHost.map Prod.fst).Nodup
  hosts : ∀ key, key ∈ byHost.map Prod.fst ↔ ofHost num toLowerCase services key ≠ []
  entries : ∀ e ∈ byHost, Gathered toLowerCase (ofHost num toLowerCase services e.1) e.2

theorem ofHostSnoc {services : List (MdnsService F)} {svc : MdnsService F} (key : String) :
    ofHost num toLowerCase (services ++ [svc]) key = ofHost num toLowerCase services key ++
      if svc.host ≠ "" ∧ num.isInteger svc.port ∧ toLowerCase svc.host = key then [svc] else [] := by
  simp only [ofHost,List.filter_append,List.filter_cons,List.filter_nil,decide_eq_true_eq]

theorem tracksAbsorb {services : List (MdnsService F)} {byHost : List (String × HostEntry F)}
    (svc : MdnsService F) (tracks : Tracks num toLowerCase services byHost) :
    Tracks num toLowerCase (services ++ [svc]) (absorb num toLowerCase byHost svc) := by
  unfold absorb
  split
  · rename_i skipped
    have same (key) : ofHost num toLowerCase (services ++ [svc]) key = ofHost num toLowerCase services key := by
      rw [ofHostSnoc,if_neg,List.append_nil]
      rintro ⟨named,whole,-⟩
      exact skipped.elim named fun broken => broken whole
    refine ⟨tracks.keys,?_,?_⟩
    · simpa only [same] using tracks.hosts
    · simpa only [same] using tracks.entries
  · rename_i taken
    obtain ⟨named,whole⟩ : svc.host ≠ "" ∧ num.isInteger svc.port := by
      simpa only [not_or,not_not] using taken
    have here : ofHost num toLowerCase (services ++ [svc]) (toLowerCase svc.host) =
        ofHost num toLowerCase services (toLowerCase svc.host) ++ [svc] := by
      rw [ofHostSnoc,if_pos ⟨named,whole,rfl⟩]
    have elsewhere {key} (other : key ≠ toLowerCase svc.host) :
        ofHost num toLowerCase (services ++ [svc]) key = ofHost num toLowerCase services key := by
      rw [ofHostSnoc,if_neg fun h => other h.2.2.symm,List.append_nil]
    have found : Gathered toLowerCase (ofHost num toLowerCase services (toLowerCase svc.host))
        ((byHost.lookup (toLowerCase svc.host)).getD (.start svc)) := by
      cases looked : byHost.lookup (toLowerCase svc.host) with
      | some entry =>
        obtain ⟨before,after,rfl,-⟩ := List.lookup_eq_some_iff.mp looked
        exact tracks.entries (toLowerCase svc.host, entry) (by simp)
      | none =>
        have absent : toLowerCase svc.host ∉ byHost.map Prod.fst := by
          intro member
          obtain ⟨e,inside,same⟩ := List.mem_map.mp member
          simpa [same] using List.lookup_eq_none_iff.mp looked e inside
        rw [not_not.mp (mt (tracks.hosts _).mpr absent)]
        exact gatheredStart svc
    refine ⟨keysPut tracks.keys _,?_,?_⟩
    · intro key
      by_cases same : key = toLowerCase svc.host
      · subst same
        simp only [here,ne_eq,List.append_eq_nil_iff,List.cons_ne_self,and_false,not_false_eq_true,iff_true]
        exact List.mem_map.mpr ⟨_,memPut.mpr (.inl rfl),rfl⟩
      · rw [elsewhere same,← tracks.hosts]
        simp only [List.mem_map,memPut]
        constructor
        · rintro ⟨e,rfl | ⟨old,-⟩,rfl⟩
          · exact absurd rfl same
          · exact ⟨e,old,rfl⟩
        · rintro ⟨e,old,rfl⟩
          exact ⟨e,.inr ⟨old,same⟩,rfl⟩
    · intro e member
      rcases memPut.mp member with rfl | ⟨old,other⟩
      · rw [here]
        exact gatheredAdd svc found
      · rw [elsewhere other]
        exact tracks.entries e old

variable (num toLowerCase) in
theorem tracksAll (services : List (MdnsService F)) :
    Tracks num toLowerCase services (services.foldl (absorb num toLowerCase) []) := by
  induction services using List.reverseRecOn with
  | nil => exact ⟨List.nodup_nil,by simp [ofHost],by simp⟩
  | append_singleton services svc ih =>
    rw [List.foldl_append]
    exact tracksAbsorb svc ih

theorem everyKind (t : DiscoveryServiceType) : t ∈ preference := by
  cases t <;> decide

variable (num) in
theorem pickedFirst {ports : List (DiscoveryServiceType × F)} {types : List DiscoveryServiceType}
    {t : DiscoveryServiceType} (first : types.find? (fun t => (ports.lookup t).isSome) = some t) :
    ports.lookup t = some (pickPort num ports types) := by
  unfold pickPort
  induction types with
  | nil => cases first
  | cons kind rest ih =>
    rw [List.find?_cons] at first
    cases looked : ports.lookup kind with
    | some port =>
      rw [looked] at first
      obtain rfl : kind = t := Option.some.inj first
      rw [List.findSome?_cons,looked]
    | none =>
      rw [looked] at first
      rw [List.findSome?_cons,looked]
      exact ih first

theorem typesGathered {served : List (MdnsService F)} {entry : HostEntry F} (key : String)
    (gathered : Gathered toLowerCase served entry) (t : DiscoveryServiceType) :
    t ∈ (candidate num key entry).serviceTypes ↔ ∃ svc ∈ served, Advertises toLowerCase svc t := by
  rw [candidate,List.mem_filter,gathered.kinds]
  exact and_iff_right (everyKind t)

theorem typesRanked (key : String) (entry : HostEntry F) :
    (candidate num key entry).serviceTypes.Pairwise (rank · < rank ·) :=
  List.Pairwise.filter _ (by decide)

theorem portGathered {served : List (MdnsService F)} {entry : HostEntry F} (key : String)
    (gathered : Gathered toLowerCase served entry) (some_ : served ≠ []) :
    ∃ svc ∈ served, ∃ t, svc.port = (candidate num key entry).port ∧ Advertises toLowerCase svc t ∧
      ∀ other ∈ served, ∀ u, Advertises toLowerCase other u → rank t ≤ rank u := by
  have types := @typesGathered F num toLowerCase served entry key gathered
  have ranked := @typesRanked F num key entry
  obtain ⟨svc,member⟩ := List.exists_mem_of_ne_nil served some_
  have listed := (types _).mpr ⟨svc,member,(advertisesIff toLowerCase svc _).mpr rfl⟩
  cases split : (candidate num key entry).serviceTypes with
  | nil => simp [split] at listed
  | cons t rest =>
    have first : preference.find? (fun t => (entry.portByType.lookup t).isSome) = some t := by
      rw [← List.head?_filter]
      exact congrArg List.head? split
    obtain ⟨source,inside,port,kind⟩ := gathered.ports t _ (pickedFirst num first)
    refine ⟨source,inside,t,port,kind,fun other heard u advertised => ?_⟩
    have among := (types u).mpr ⟨other,heard,advertised⟩
    rw [split] at ranked among
    rcases List.mem_cons.mp among with rfl | later
    · exact le_rfl
    · exact ((List.pairwise_cons.mp ranked).1 u later).le

variable {inOrder : String → String → Bool} {services : List (MdnsService F)}

theorem memDedupe {c : DiscoveryCandidate F} : c ∈ dedupe num toLowerCase inOrder services ↔
    ∃ e ∈ services.foldl (absorb num toLowerCase) [], candidate num e.1 e.2 = c := by
  rw [dedupe,List.mem_mergeSort,List.mem_map]

theorem keysDedupe : ((dedupe num toLowerCase inOrder services).map DiscoveryCandidate.key).Perm
    ((services.foldl (absorb num toLowerCase) []).map Prod.fst) := by
  have sorted := (List.mergeSort_perm ((services.foldl (absorb num toLowerCase) []).map
    fun e => candidate num e.1 e.2) fun a b => inOrder a.host b.host).map DiscoveryCandidate.key
  rw [List.map_map] at sorted
  exact sorted

theorem memOfHost {key : String} {svc : MdnsService F} : svc ∈ ofHost num toLowerCase services key ↔
    svc ∈ services ∧ svc.host ≠ "" ∧ num.isInteger svc.port ∧ toLowerCase svc.host = key := by
  simp [ofHost]

theorem dedupeComplete : Complete num toLowerCase services (dedupe num toLowerCase inOrder services) := by
  have tracks := tracksAll num toLowerCase services
  have keys : ((dedupe num toLowerCase inOrder services).map DiscoveryCandidate.key).Nodup :=
    keysDedupe.nodup_iff.mpr tracks.keys
  constructor
  · intro svc member named whole
    have inside : svc ∈ ofHost num toLowerCase services (toLowerCase svc.host) :=
      memOfHost.mpr ⟨member,named,whole,rfl⟩
    obtain ⟨e,listed,key⟩ := List.mem_map.mp ((tracks.hosts _).mpr (List.ne_nil_of_mem inside))
    refine ⟨candidate num e.1 e.2,⟨memDedupe.mpr ⟨e,listed,rfl⟩,?_⟩,?_⟩
    · rw [candidate,key]
      exact inside
    · rintro c ⟨other,covered⟩
      refine List.inj_on_of_nodup_map keys other (memDedupe.mpr ⟨e,listed,rfl⟩) ?_
      rw [candidate,key]
      exact (memOfHost.mp covered).2.2.2.symm
  · intro c member
    obtain ⟨e,listed,rfl⟩ := memDedupe.mp member
    exact (tracks.hosts e.1).mp (List.mem_map.mpr ⟨e,listed,rfl⟩)
  · exact keys
  · intro c member a
    obtain ⟨e,listed,rfl⟩ := memDedupe.mp member
    rw [candidate,sortTexts,List.mem_mergeSort]
    exact (tracks.entries e listed).addresses a
  · intro c member
    obtain ⟨e,listed,rfl⟩ := memDedupe.mp member
    exact typesGathered e.1 (tracks.entries e listed)
  · intro c member
    obtain ⟨e,listed,rfl⟩ := memDedupe.mp member
    exact typesRanked e.1 e.2
  · intro c member
    obtain ⟨e,listed,rfl⟩ := memDedupe.mp member
    exact portGathered e.1 (tracks.entries e listed)
      ((tracks.hosts e.1).mp (List.mem_map.mpr ⟨e,listed,rfl⟩))

theorem Complete.memKeys {cs : List (DiscoveryCandidate F)} (complete : Complete num toLowerCase services cs)
    (key : String) : key ∈ cs.map DiscoveryCandidate.key ↔ ofHost num toLowerCase services key ≠ [] := by
  constructor
  · intro member
    obtain ⟨c,inside,rfl⟩ := List.mem_map.mp member
    exact complete.inhabited c inside
  · intro some_
    obtain ⟨svc,member⟩ := List.exists_mem_of_ne_nil _ some_
    obtain ⟨old,named,whole,rfl⟩ := memOfHost.mp member
    obtain ⟨c,⟨inside,covered⟩,-⟩ := complete.parts svc old named whole
    exact List.mem_map.mpr ⟨c,inside,(memOfHost.mp covered).2.2.2.symm⟩

theorem rankedUnique {types others : List DiscoveryServiceType} (ranked : types.Pairwise (rank · < rank ·))
    (ranked' : others.Pairwise (rank · < rank ·)) (same : ∀ t, t ∈ types ↔ t ∈ others) : types = others := by
  have perm : types.Perm others :=
    (List.perm_ext_iff_of_nodup (ranked.imp fun less => ne_of_apply_ne rank less.ne)
      (ranked'.imp fun less => ne_of_apply_ne rank less.ne)).mpr same
  exact perm.eq_of_pairwise (fun a b _ _ less more => absurd less more.asymm) ranked ranked'

theorem Complete.sameHosts {others : List (MdnsService F)} {cs ds : List (DiscoveryCandidate F)}
    (perm : services.Perm others) (complete : Complete num toLowerCase services cs)
    (complete' : Complete num toLowerCase others ds) : SameHosts cs ds := by
  have parts (key) : (ofHost num toLowerCase services key).Perm (ofHost num toLowerCase others key) :=
    perm.filter _
  constructor
  · intro key
    rw [complete.memKeys,complete'.memKeys,← List.length_pos_iff,← List.length_pos_iff,(parts key).length_eq]
  · intro c member d member' same a
    rw [complete.addresses c member,complete'.addresses d member',same]
    simp only [(parts d.key).mem_iff]
  · intro c member d member' same
    apply rankedUnique (complete.ranked c member) (complete'.ranked d member')
    intro t
    rw [complete.serviceTypes c member,complete'.serviceTypes d member',same]
    simp only [(parts d.key).mem_iff]

end

/-- The candidates of a list of services are complete, and those of another order of it agree with
them. -/
theorem dedupeOrderless {F : Type} (num : Numbers F) (toLowerCase : String → String)
    (inOrder : String → String → Bool) {services others : List (MdnsService F)}
    (perm : services.Perm others) :
    Complete num toLowerCase services (dedupe num toLowerCase inOrder services) ∧
      SameHosts (dedupe num toLowerCase inOrder services) (dedupe num toLowerCase inOrder others) :=
  ⟨dedupeComplete,dedupeComplete.sameHosts perm dedupeComplete⟩

def web : MdnsService Int := ⟨"DHO804","_lxi._tcp","rigol.local",80,["192.168.1.50"],[],none,[]⟩

def raw : MdnsService Int := ⟨"DHO804","_scpi-raw._tcp","RIGOL.local",5025,["fe80::1"],[],none,[]⟩

theorem dedupeTwo :
    Complete wholeNumbers String.toLower [web, raw]
        (dedupe wholeNumbers String.toLower (fun a b => decide (a ≤ b)) [web, raw]) ∧
      SameHosts (dedupe wholeNumbers String.toLower (fun a b => decide (a ≤ b)) [web, raw])
        (dedupe wholeNumbers String.toLower (fun a b => decide (a ≤ b)) [raw, web]) :=
  dedupeOrderless wholeNumbers String.toLower (fun a b => decide (a ≤ b)) (.swap raw web [])

end LxiWeb.DiscoveryCandidates
