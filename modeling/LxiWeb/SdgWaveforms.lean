import LxiWeb.JsDecimals
import Mathlib.Logic.Function.Basic

/-! The basic waveform of a Siglent SDG channel: the list that the driver writes, and what it reads of
the device's echo. -/
namespace LxiWeb.SdgWaveforms
open JsText JsDecimals

inductive WaveformType where
  | sine | square | ramp | pulse | noise | dc | arbitrary
  deriving DecidableEq

def WaveformType.name : WaveformType → String
  | sine => "sine"
  | square => "square"
  | ramp => "ramp"
  | pulse => "pulse"
  | noise => "noise"
  | dc => "dc"
  | arbitrary => "arbitrary"

structure BaseWaveform where
  frequencyHz : Decimal
  amplitudeVpp : Decimal
  offsetV : Decimal
  phaseDeg : Option Decimal
  deriving DecidableEq

inductive SignalGeneratorWaveform where
  | sine (base : BaseWaveform)
  | square (base : BaseWaveform) (dutyPct : Option Decimal)
  | ramp (base : BaseWaveform) (symmetryPct : Option Decimal)
  | pulse (base : BaseWaveform) (widthS riseTimeS fallTimeS : Option Decimal)
  | noise (amplitudeVpp offsetV : Decimal)
  | dc (offsetV : Decimal)
  | arbitrary (base : BaseWaveform) (builtinName sampleId : Option String)
  deriving DecidableEq

namespace SignalGeneratorWaveform

def type : SignalGeneratorWaveform → WaveformType
  | sine _ => .sine
  | square _ _ => .square
  | ramp _ _ => .ramp
  | pulse _ _ _ _ => .pulse
  | noise _ _ => .noise
  | dc _ => .dc
  | arbitrary _ _ _ => .arbitrary

def base : SignalGeneratorWaveform → Option BaseWaveform
  | sine base | square base _ | ramp base _ | pulse base _ _ _ | arbitrary base _ _ => some base
  | noise _ _ | dc _ => none

/- `frequencyHz`, which every type but `noise` and `dc` has. -/
def frequencyHz (w : SignalGeneratorWaveform) : Option Decimal := w.base.map BaseWaveform.frequencyHz

/- `amplitudeVpp`, which every type but `dc` has. -/
def amplitudeVpp : SignalGeneratorWaveform → Option Decimal
  | noise amplitudeVpp _ => some amplitudeVpp
  | w => w.base.map BaseWaveform.amplitudeVpp

def offsetV : SignalGeneratorWaveform → Decimal
  | sine base | square base _ | ramp base _ | pulse base _ _ _ | arbitrary base _ _ => base.offsetV
  | noise _ offsetV | dc offsetV => offsetV

def phaseDeg (w : SignalGeneratorWaveform) : Option Decimal := w.base.bind BaseWaveform.phaseDeg

def dutyPct : SignalGeneratorWaveform → Option Decimal
  | square _ dutyPct => dutyPct
  | _ => none

def symmetryPct : SignalGeneratorWaveform → Option Decimal
  | ramp _ symmetryPct => symmetryPct
  | _ => none

def widthS : SignalGeneratorWaveform → Option Decimal
  | pulse _ widthS _ _ => widthS
  | _ => none

end SignalGeneratorWaveform

structure SdgProfile where
  frequencyMaxHz : Decimal
  amplitudeMaxVpp : Decimal

structure SignalGeneratorChannelLimits where
  frequencyMaxHz : Decimal
  amplitudeMin : Decimal
  amplitudeMax : Decimal
  supportedWaveforms : List WaveformType

def supportedWaveforms : List WaveformType := [.sine,.square,.ramp,.pulse,.noise,.dc,.arbitrary]

def limits (profile : SdgProfile) : SignalGeneratorChannelLimits where
  frequencyMaxHz := profile.frequencyMaxHz
  amplitudeMin := literal "0.002"
  amplitudeMax := profile.amplitudeMaxVpp
  supportedWaveforms := supportedWaveforms

def waveformToBswv : WaveformType → String
  | .sine => "SINE"
  | .square => "SQUARE"
  | .ramp => "RAMP"
  | .pulse => "PULSE"
  | .noise => "NOISE"
  | .dc => "DC"
  | .arbitrary => "ARB"

def bswvToWaveform : String → Option WaveformType
  | "SINE" => some .sine
  | "SQUARE" => some .square
  | "RAMP" => some .ramp
  | "PULSE" => some .pulse
  | "NOISE" => some .noise
  | "DC" => some .dc
  | "ARB" => some .arbitrary
  | _ => none

-- `${n}`
def written (n : Decimal) : String := String.ofList n.text

def validate (config : SignalGeneratorWaveform) (limits : SignalGeneratorChannelLimits) : Except String Unit := do
  if config.type ∉ limits.supportedWaveforms then
    throw s!"SDG driver does not support waveform {config.type.name}"
  if let some amplitude := config.amplitudeVpp then
    if amplitude.lt limits.amplitudeMin then
      throw s!"amplitude {written amplitude} Vpp is below the profile minimum {written limits.amplitudeMin} Vpp"
    if limits.amplitudeMax.lt amplitude then
      throw s!"amplitude {written amplitude} Vpp exceeds the profile ceiling {written limits.amplitudeMax} Vpp"
  if let some frequency := config.frequencyHz then
    if frequency.le (literal "0") then
      throw "frequency must be > 0 Hz"
    if limits.frequencyMaxHz.lt frequency then
      throw s!"frequency {written frequency} Hz exceeds the profile ceiling {written limits.frequencyMaxHz} Hz"

def settings (config : SignalGeneratorWaveform) : List (String × Option Decimal) :=
  [("FRQ",config.frequencyHz),("AMP",config.amplitudeVpp),("OFST",some config.offsetV),("DUTY",config.dutyPct),
    ("SYM",config.symmetryPct),("WIDTH",config.widthS),("PHSE",config.phaseDeg)]

def pushed (setting : String × Option Decimal) : List (String × List Char) :=
  match setting.2 with
  | none => []
  | some n => [(setting.1,n.text)]

def fragments (config : SignalGeneratorWaveform) : List (String × List Char) :=
  ("WVTP",(waveformToBswv config.type).toList) :: (settings config).flatMap pushed

def join (texts : List (List Char)) : List Char := [','].intercalate texts

def bswv (channel : Decimal) : List Char := 'C' :: channel.text ++ ":BSWV".toList

/- What `setWaveform` writes, or the message of the error it throws. -/
def setWaveform (profile : SdgProfile) (channel : Decimal) (config : SignalGeneratorWaveform) :
    Except String (List Char) := do
  validate config (limits profile)
  return bswv channel ++ ' ' :: join ((fragments config).map fun pair => pair.1.toList ++ ',' :: pair.2)

inductive Suffix where
  | none | hz | v | s
  deriving DecidableEq

def Suffix.text : Suffix → List Char
  | none => []
  | hz => ['H','Z']
  | v => ['V']
  | s => ['S']

def header (command : List Char) : List Char := command.takeWhile (· ≠ ' ')

/- The lists that the device keeps, each under the header of the command that brought it. -/
abbrev Lists := List Char → List (List Char)

def stored (lists : Lists) (command : List Char) : Lists :=
  Function.update lists (header command) (((command.dropWhile (· ≠ ' ')).drop 1).splitOn ',')

def withUnits (unit : String → Suffix) : List (List Char) → List (List Char)
  | key :: value :: rest =>
      key :: (if String.ofList key = "WVTP" then value else value ++ (unit (String.ofList key)).text) ::
        withUnits unit rest
  | rest => rest

def echo (unit : String → Suffix) (lists : Lists) (query : List Char) : List Char :=
  query.dropLast ++ ' ' :: join (withUnits unit (lists query.dropLast))

def pairsOf : List String → List (String × String)
  | key :: value :: rest => (key,value) :: pairsOf rest
  | _ => []

def parseKvPairs (raw : List Char) : List (String × String) :=
  let tail := ((trim raw).dropWhile (· ≠ ' ')).drop 1
  match (tail.splitOn ',').map fun t => String.ofList (trim t) with
  | "ON" :: tokens => ("","ON") :: pairsOf tokens
  | "OFF" :: tokens => ("","OFF") :: pairsOf tokens
  | tokens => pairsOf tokens

def get (map : List (String × String)) (key : String) : Option String := map.reverse.lookup key

/- `toUpperCase`; outside ASCII it may do what it likes. -/
structure UpperCase where
  apply : List Char → List Char
  ascii : ∀ text, text.all (fun c => c.toNat < 128) = true → apply text = text.map Char.toUpper

section
variable (upper : UpperCase)

def scaled (n : Decimal) (unit : List Char) : Decimal :=
  if "MHZ".toList.isPrefixOf unit then n.shift 6
  else if "KHZ".toList.isPrefixOf unit then n.shift 3
  else if "MV".toList.isPrefixOf unit then n.shift (-3)
  else if "US".toList.isPrefixOf unit then n.shift (-6)
  else if "MS".toList.isPrefixOf unit then n.shift (-3)
  else n

def parseNumericValue (raw : Option String) : Option Decimal := do
  let text ← raw
  let (n,rest) ← scanNumeral text.toList
  return scaled (parseFloat n) (upper.apply rest)

def decodeWaveform (bswv : List (String × String)) : SignalGeneratorWaveform :=
  let rawType := upper.apply (trim ((get bswv "WVTP").getD "SINE").toList)
  let zero := literal "0"
  let frequencyHz := (parseNumericValue upper (get bswv "FRQ")).getD zero
  let amplitudeVpp := (parseNumericValue upper (get bswv "AMP")).getD zero
  let offsetV := (parseNumericValue upper (get bswv "OFST")).getD zero
  let phaseDeg := parseNumericValue upper (get bswv "PHSE")
  match (bswvToWaveform (String.ofList rawType)).getD .sine with
  | .noise => .noise amplitudeVpp offsetV
  | .dc => .dc offsetV
  | .square =>
      .square ⟨frequencyHz,amplitudeVpp,offsetV,phaseDeg⟩ (parseNumericValue upper (get bswv "DUTY"))
  | .ramp =>
      .ramp ⟨frequencyHz,amplitudeVpp,offsetV,phaseDeg⟩ (parseNumericValue upper (get bswv "SYM"))
  | .pulse =>
      .pulse ⟨frequencyHz,amplitudeVpp,offsetV,phaseDeg⟩ (parseNumericValue upper (get bswv "WIDTH")) none none
  | .arbitrary => .arbitrary ⟨frequencyHz,amplitudeVpp,offsetV,phaseDeg⟩ none (some "")
  | .sine => .sine ⟨frequencyHz,amplitudeVpp,offsetV,phaseDeg⟩

end

structure SameSettings (a b : SignalGeneratorWaveform) : Prop where
  type : a.type = b.type
  frequencyHz : a.frequencyHz = b.frequencyHz
  amplitudeVpp : a.amplitudeVpp = b.amplitudeVpp
  offsetV : a.offsetV = b.offsetV
  phaseDeg : a.phaseDeg = b.phaseDeg
  dutyPct : a.dutyPct = b.dutyPct
  symmetryPct : a.symmetryPct = b.symmetryPct
  widthS : a.widthS = b.widthS

def solid (c : Char) : Bool := !isSpace c && c != ','

theorem solidIff {c : Char} : solid c = true ↔ isSpace c = false ∧ c ≠ ',' := by simp [solid]

def Plain (text : List Char) : Prop := text ≠ [] ∧ text.all solid = true

instance (text : List Char) : Decidable (Plain text) :=
  inferInstanceAs (Decidable (text ≠ [] ∧ text.all solid = true))

theorem Plain.char {text : List Char} (plain : Plain text) {c : Char} (member : c ∈ text) :
    isSpace c = false ∧ c ≠ ',' := solidIff.mp (List.all_eq_true.mp plain.2 c member)

theorem Plain.append {first last : List Char} (plain : Plain first) (other : last.all solid = true) :
    Plain (first ++ last) :=
  ⟨by simp [plain.1],by rw [List.all_append,plain.2,other]; rfl⟩

theorem trimPlain {text : List Char} (plain : Plain text) : trim text = text := by
  have whole : ∀ (text : List Char), (∀ c ∈ text, isSpace c = false) → text.dropWhile isSpace = text := by
    intro text solid
    cases text with
    | nil => rfl
    | cons c rest => simp [solid c List.mem_cons_self]
  rw [trim,whole text fun c member => (plain.char member).1,
    whole _ fun c member => (plain.char (List.mem_reverse.mp member)).1,List.reverse_reverse]

theorem joinCons (text other : List Char) (texts : List (List Char)) :
    join (text :: other :: texts) = text ++ ',' :: join (other :: texts) := by
  simp [join,List.intercalate]

theorem joinLast {texts : List (List Char)} (some_ : texts ≠ []) (plain : ∀ t ∈ texts, Plain t) :
    ∃ mid d, join texts = mid ++ [d] ∧ isSpace d = false := by
  induction texts with
  | nil => exact absurd rfl some_
  | cons text texts ih =>
    cases texts with
    | nil =>
      have nonempty := (plain text List.mem_cons_self).1
      refine ⟨text.dropLast,text.getLast nonempty,?_,
        ((plain text List.mem_cons_self).char (List.getLast_mem nonempty)).1⟩
      rw [List.dropLast_append_getLast]
      simp [join]
    | cons other texts =>
      obtain ⟨mid,d,same,solid⟩ := ih (by simp) fun t member => plain t (List.mem_cons_of_mem _ member)
      exact ⟨text ++ ',' :: mid,d,by rw [joinCons,same]; simp,solid⟩

theorem joinSplit {texts : List (List Char)} (some_ : texts ≠ []) (plain : ∀ t ∈ texts, Plain t) :
    (join texts).splitOn ',' = texts :=
  List.splitOn_intercalate ',' (fun t member comma => ((plain t member).char comma).2 rfl) some_

theorem Plain.inOne {text : List Char} (plain : Plain text) : ∀ c ∈ text, decide (c ≠ ' ') = true := by
  rintro c member
  have solid := (plain.char member).1
  simp only [ne_eq,decide_eq_true_eq]
  rintro rfl
  exact absurd solid (by decide)

theorem behindSpace {head : List Char} (plain : Plain head) (tail : List Char) :
    ((head ++ ' ' :: tail).dropWhile (· ≠ ' ')).drop 1 = tail := by
  rw [List.dropWhile_append_of_pos plain.inOne]
  simp

theorem beforeSpace {head : List Char} (plain : Plain head) (tail : List Char) : header (head ++ ' ' :: tail) = head := by
  rw [header,List.takeWhile_append_of_pos plain.inOne]
  simp

def flat (pairs : List (String × List Char)) : List (List Char) := pairs.flatMap fun p => [p.1.toList,p.2]

def PlainPairs (pairs : List (String × List Char)) : Prop := ∀ p ∈ pairs, Plain p.1.toList ∧ Plain p.2

theorem flatPlain {pairs : List (String × List Char)} (plain : PlainPairs pairs) : ∀ t ∈ flat pairs, Plain t := by
  intro t member
  obtain ⟨p,inside,either⟩ := List.mem_flatMap.mp member
  simp only [List.mem_cons,List.not_mem_nil,or_false] at either
  rcases either with rfl | rfl
  · exact (plain p inside).1
  · exact (plain p inside).2

theorem joinPairs (pairs : List (String × List Char)) :
    join (pairs.map fun p => p.1.toList ++ ',' :: p.2) = join (flat pairs) := by
  induction pairs with
  | nil => rfl
  | cons p pairs ih =>
    cases pairs with
    | nil => simp [join,flat,List.intercalate]
    | cons q pairs =>
      have later : flat (p :: q :: pairs) = p.1.toList :: p.2 :: flat (q :: pairs) := rfl
      have next : flat (q :: pairs) = q.1.toList :: q.2 :: flat pairs := rfl
      rw [later,joinCons,next,joinCons,← next,← ih,List.map_cons,List.map_cons,joinCons]
      simp

def echoed (unit : String → Suffix) (p : String × List Char) : String × List Char :=
  (p.1,if p.1 = "WVTP" then p.2 else p.2 ++ (unit p.1).text)

theorem withUnitsFlat (unit : String → Suffix) (pairs : List (String × List Char)) :
    withUnits unit (flat pairs) = flat (pairs.map (echoed unit)) := by
  induction pairs with
  | nil => rfl
  | cons p pairs ih =>
    have later : flat (p :: pairs) = p.1.toList :: p.2 :: flat pairs := rfl
    rw [later,withUnits,ih,String.ofList_toList]
    rfl

theorem pairsFlat {pairs : List (String × List Char)} (plain : PlainPairs pairs) :
    pairsOf ((flat pairs).map fun t => String.ofList (trim t)) = pairs.map fun p => (p.1,String.ofList p.2) := by
  induction pairs with
  | nil => rfl
  | cons p pairs ih =>
    have later : flat (p :: pairs) = p.1.toList :: p.2 :: flat pairs := rfl
    obtain ⟨key,value⟩ := plain p List.mem_cons_self
    rw [later,List.map_cons,List.map_cons,pairsOf,ih fun q member => plain q (List.mem_cons_of_mem _ member),
      trimPlain key,trimPlain value,String.ofList_toList,List.map_cons]

theorem parsedPairs {head : List Char} (name : Plain head) {p : String × List Char}
    {pairs : List (String × List Char)} (plain : PlainPairs (p :: pairs)) (key : p.1 ≠ "ON" ∧ p.1 ≠ "OFF") :
    parseKvPairs (head ++ ' ' :: join (flat (p :: pairs))) =
      (p :: pairs).map fun p => (p.1,String.ofList p.2) := by
  have some_ : flat (p :: pairs) ≠ [] := by simp [flat]
  have trimmed : trim (head ++ ' ' :: join (flat (p :: pairs))) = head ++ ' ' :: join (flat (p :: pairs)) := by
    obtain ⟨c,later,rfl⟩ := List.exists_cons_of_ne_nil name.1
    obtain ⟨mid,d,same,solid⟩ := joinLast some_ (flatPlain plain)
    have whole : c :: later ++ ' ' :: (mid ++ [d]) = c :: ((later ++ ' ' :: mid) ++ [d]) := by simp
    rw [same,whole,trimSolid (name.char List.mem_cons_self).1 solid]
  have tokens := pairsFlat plain
  rw [parseKvPairs,trimmed,behindSpace name,joinSplit some_ (flatPlain plain)]
  have first : ((flat (p :: pairs)).map fun t => String.ofList (trim t)).head? = some p.1 := by
    simp [flat,trimPlain (plain p List.mem_cons_self).1]
  split
  · rename_i on
    rw [on] at first
    exact absurd (Option.some.inj first).symm key.1
  · rename_i off
    rw [off] at first
    exact absurd (Option.some.inj first).symm key.2
  · exact tokens

theorem textPlain (x : Decimal) : Plain x.text := by
  have digit (d : Fin 10) : solid (digitChar d) = true := by revert d; decide
  refine ⟨textSome x,List.all_eq_true.mpr fun c member => ?_⟩
  rcases textChars x c member with ⟨d,rfl⟩ | sign
  · exact digit d
  · simp only [List.mem_cons,List.not_mem_nil,or_false] at sign
    rcases sign with rfl | rfl | rfl | rfl <;> decide

theorem bswvPlain (channel : Decimal) : Plain (bswv channel) := by
  have front : Plain ['C'] := by decide
  exact (front.append (textPlain channel).2).append (by decide)

theorem fragmentsPlain (config : SignalGeneratorWaveform) : PlainPairs (fragments config) := by
  have keys : ∀ key ∈ (settings config).map Prod.fst, Plain key.toList := by
    change ∀ key ∈ ["FRQ","AMP","OFST","DUTY","SYM","WIDTH","PHSE"], Plain key.toList
    decide
  refine List.forall_mem_cons.mpr ⟨by cases config.type <;> decide,fun p member => ?_⟩
  obtain ⟨⟨key,value⟩,inside,entry⟩ := List.mem_flatMap.mp member
  cases value with
  | none => cases entry
  | some n =>
    obtain rfl : p = (key,n.text) := by simpa [pushed] using entry
    exact ⟨keys key (List.mem_map_of_mem inside),textPlain n⟩

theorem echoedPlain (unit : String → Suffix) {pairs : List (String × List Char)} (plain : PlainPairs pairs) :
    PlainPairs (pairs.map (echoed unit)) := by
  have suffix (u : Suffix) : u.text.all solid = true := by cases u <;> decide
  intro q member
  obtain ⟨p,inside,rfl⟩ := List.mem_map.mp member
  obtain ⟨key,value⟩ := plain p inside
  refine ⟨key,?_⟩
  rw [echoed]
  dsimp only
  split
  · exact value
  · exact value.append (suffix _)

theorem getAppend (first last : List (String × String)) (key : String) :
    get (first ++ last) key = (get last key).or (get first key) := by
  rw [get,get,get,List.reverse_append,List.lookup_append]

def entry (unit : String → Suffix) (p : String × List Char) : String × String :=
  ((echoed unit p).1,String.ofList (echoed unit p).2)

theorem getOne (unit : String → Suffix) (name : String) (value : Option Decimal) (key : String) :
    get ((pushed (name,value)).map (entry unit)) key =
      if name = key then value.map fun n => (entry unit (name,n.text)).2 else none := by
  cases value with
  | none => exact (ite_self none).symm
  | some n =>
    by_cases same : name = key
    · simp [pushed,get,entry,echoed,same]
    · have apart : (key == name) = false := beq_eq_false_iff_ne.mpr (Ne.symm same)
      simp [pushed,get,entry,echoed,same,apart]

theorem getOther (unit : String → Suffix) {settings : List (String × Option Decimal)} {key : String}
    (other : key ∉ settings.map Prod.fst) : get ((settings.flatMap pushed).map (entry unit)) key = none := by
  induction settings with
  | nil => rfl
  | cons s settings ih =>
    rw [List.map_cons,List.mem_cons,not_or] at other
    rw [List.flatMap_cons,List.map_append,getAppend,ih other.2,Option.none_or]
    exact (getOne unit s.1 s.2 key).trans (if_neg (Ne.symm other.1))

theorem getPushed (unit : String → Suffix) {settings : List (String × Option Decimal)} {key : String}
    {value : Option Decimal} (distinct : (settings.map Prod.fst).Nodup) (member : (key,value) ∈ settings) :
    get ((settings.flatMap pushed).map (entry unit)) key =
      value.map fun n => (entry unit (key,n.text)).2 := by
  induction settings with
  | nil => cases member
  | cons s settings ih =>
    rw [List.map_cons,List.nodup_cons] at distinct
    rw [List.flatMap_cons,List.map_append,getAppend]
    rcases List.mem_cons.mp member with rfl | later
    · rw [getOther unit distinct.1,Option.none_or,getOne,if_pos rfl]
    · have apart : s.1 ≠ key := by
        intro same
        exact distinct.1 (same ▸ List.mem_map_of_mem later)
      have front : get ((pushed s).map (entry unit)) key = none := (getOne unit s.1 s.2 key).trans (if_neg apart)
      rw [ih distinct.2 later,front,Option.or_none]

theorem numberRead (upper : UpperCase) (x : Decimal) (u : Suffix) :
    parseNumericValue upper (some (String.ofList (x.text ++ u.text))) = some x := by
  have stops : Stops u.text := by
    intro c first
    cases u with
    | none => cases first
    | hz | v | s =>
      obtain rfl := Option.some.inj first
      decide
  have unit : upper.apply u.text = u.text := by
    rw [upper.ascii _ (by cases u <;> decide)]
    cases u <;> decide
  obtain ⟨n,scanned,value⟩ := textRead x stops
  rw [parseNumericValue]
  simp only [Option.bind_eq_bind,Option.bind_some,String.toList_ofList,scanned,unit,value,Option.pure_def]
  cases u <;> rfl

def entries (unit : String → Suffix) (config : SignalGeneratorWaveform) : List (String × String) :=
  ((fragments config).map (echoed unit)).map fun p => (p.1,String.ofList p.2)

theorem entriesMap (unit : String → Suffix) (config : SignalGeneratorWaveform) :
    entries unit config = (fragments config).map (entry unit) := List.map_map

theorem settingRead (upper : UpperCase) (unit : String → Suffix) (config : SignalGeneratorWaveform) {key : String}
    {value : Option Decimal} (member : (key,value) ∈ settings config) :
    parseNumericValue upper (get (entries unit config) key) = value := by
  have distinct : ((settings config).map Prod.fst).Nodup := by
    change ["FRQ","AMP","OFST","DUTY","SYM","WIDTH","PHSE"].Nodup
    decide
  have number : key ≠ "WVTP" := by
    have name : key ∈ (settings config).map Prod.fst := List.mem_map_of_mem member
    change key ∈ ["FRQ","AMP","OFST","DUTY","SYM","WIDTH","PHSE"] at name
    rintro rfl
    exact absurd name (by decide)
  have found : get (entries unit config) key =
      value.map fun n => String.ofList (n.text ++ (unit key).text) := by
    have first : get [entry unit ("WVTP",(waveformToBswv config.type).toList)] key = none := by
      simp [get,entry,echoed,number]
    rw [entriesMap,fragments,List.map_cons,← List.singleton_append,getAppend,first,Option.or_none,
      getPushed unit distinct member]
    simp [entry,echoed,number]
  rw [found]
  cases value with
  | none => rfl
  | some n => exact numberRead upper n (unit key)

theorem typeFound (unit : String → Suffix) (config : SignalGeneratorWaveform) :
    get (entries unit config) "WVTP" = some (waveformToBswv config.type) := by
  have other : "WVTP" ∉ (settings config).map Prod.fst := by
    change "WVTP" ∉ ["FRQ","AMP","OFST","DUTY","SYM","WIDTH","PHSE"]
    decide
  rw [entriesMap,fragments,List.map_cons,← List.singleton_append,getAppend,getOther unit other]
  simp [get,entry,echoed]

theorem typeRead (upper : UpperCase) (t : WaveformType) :
    bswvToWaveform (String.ofList (upper.apply (trim (waveformToBswv t).toList))) = some t := by
  have plain : Plain (waveformToBswv t).toList := by cases t <;> decide
  rw [trimPlain plain,upper.ascii _ (by cases t <;> decide)]
  cases t <;> decide

theorem decodedSame (upper : UpperCase) (unit : String → Suffix) (config : SignalGeneratorWaveform) :
    SameSettings (decodeWaveform upper (entries unit config)) config := by
  have read (key : String) (value : Option Decimal) (member : (key,value) ∈ settings config) :=
    settingRead upper unit config member
  have frequency := read "FRQ" config.frequencyHz (by simp [settings])
  have amplitude := read "AMP" config.amplitudeVpp (by simp [settings])
  have offset := read "OFST" (some config.offsetV) (by simp [settings])
  have duty := read "DUTY" config.dutyPct (by simp [settings])
  have symmetry := read "SYM" config.symmetryPct (by simp [settings])
  have width := read "WIDTH" config.widthS (by simp [settings])
  have phase := read "PHSE" config.phaseDeg (by simp [settings])
  have type := typeRead upper config.type
  simp only [decodeWaveform,typeFound,Option.getD_some,type,frequency,amplitude,offset,duty,symmetry,width,phase]
  cases config <;> exact ⟨rfl,rfl,rfl,rfl,rfl,rfl,rfl,rfl⟩

theorem acceptedWrites {profile : SdgProfile} {channel : Decimal} {config : SignalGeneratorWaveform}
    {command : List Char} (accepted : setWaveform profile channel config = .ok command) :
    command = bswv channel ++ ' ' :: join (flat (fragments config)) := by
  rw [setWaveform] at accepted
  cases valid : validate config (limits profile) with
  | error message =>
    rw [valid] at accepted
    cases accepted
  | ok _ =>
    rw [valid] at accepted
    rw [← joinPairs]
    exact (Except.ok.inj accepted).symm

theorem keptBeside {head : List Char} {lists : Lists} {later : List (List Char)}
    (apart : ∀ other ∈ later, header other ≠ head) : later.foldl stored lists head = lists head := by
  induction later generalizing lists with
  | nil => rfl
  | cons other later ih =>
    rw [List.foldl_cons,ih fun next member => apart next (List.mem_cons_of_mem _ member),stored,
      Function.update_of_ne (Ne.symm (apart other List.mem_cons_self))]

/-- What the device echoes of the list that `setWaveform` wrote, whatever it is sent under other headers
meanwhile, is decoded to the settings that were written, whichever of the numbers come back with a unit. -/
theorem waveformRoundTrip (upper : UpperCase) (profile : SdgProfile) (channel : Decimal)
    (config : SignalGeneratorWaveform) (unit : String → Suffix) (lists : Lists) (later : List (List Char))
    (apart : ∀ other ∈ later, header other ≠ bswv channel) {command : List Char}
    (accepted : setWaveform profile channel config = .ok command) :
    let lists := later.foldl stored (stored lists command)
    SameSettings (decodeWaveform upper (parseKvPairs (echo unit lists (bswv channel ++ ['?'])))) config := by
  intro lists
  have plain := fragmentsPlain config
  have kept : lists (bswv channel) = flat (fragments config) := by
    rw [show lists (bswv channel) = _ from keptBeside apart,acceptedWrites accepted,stored,
      beforeSpace (bswvPlain channel),Function.update_self,behindSpace (bswvPlain channel)]
    exact joinSplit (by simp [flat,fragments]) (flatPlain plain)
  have read : parseKvPairs (echo unit lists (bswv channel ++ ['?'])) = entries unit config := by
    rw [echo,List.dropLast_concat,kept,withUnitsFlat]
    exact parsedPairs (bswvPlain channel) (echoedPlain unit plain) (by simp [echoed])
  rw [read]
  exact decodedSame upper unit config

def sdgDefault : SdgProfile := ⟨literal "30e6",literal "20"⟩

def slowPulse : SignalGeneratorWaveform :=
  .pulse ⟨literal "1e-7",literal "2.5",literal "-1.25",some (literal "90")⟩ (some (literal "2e-9")) none none

def units : String → Suffix
  | "FRQ" => .hz
  | "OFST" => .v
  | "WIDTH" => .s
  | _ => .none

-- another waveform for the other channel, and the output of the first one
def meanwhile : List (List Char) :=
  ["C2:BSWV WVTP,SINE,FRQ,50,AMP,1,OFST,0".toList,"C1:OUTP ON".toList]

theorem waveformRoundTripPulse :
    SameSettings (decodeWaveform ⟨List.map Char.toUpper,fun _ _ => rfl⟩ (parseKvPairs (echo units
      (meanwhile.foldl stored (stored (fun _ => [])
        "C1:BSWV WVTP,PULSE,FRQ,1e-7,AMP,2.5,OFST,-1.25,WIDTH,2e-9,PHSE,90".toList)) "C1:BSWV?".toList))) slowPulse :=
  waveformRoundTrip ⟨List.map Char.toUpper,fun _ _ => rfl⟩ sdgDefault (literal "1") slowPulse units (fun _ => [])
    meanwhile (by decide) (by decide)

end LxiWeb.SdgWaveforms
