import LxiWeb.DriverRegistry

/-! The packs of the eight vendors, entry by entry in the order they are registered. -/
namespace LxiWeb.DriverPacks
open DriverRegistry Regexes Regexes.Regex
open SessionManager (DeviceIdentity DeviceKind)

def dho800Variants : List String := ["DHO802","DHO804","DHO812","DHO814"]

def dp900Variants : List String := ["DP932E","DP932U","DP912"]

def dm800Variants : List String := ["DM858","DM858E"]

def dl3000Variants : List String := ["DL3021","DL3031"]

def dg900Variants : List String :=
  ["DG811","DG812","DG821","DG822","DG831","DG832","DG922","DG932","DG952","DG972"]

def ssa3000xVariants : List String :=
  ["SSA3015X-R","SSA3015X","SSA3021X-R","SSA3021X","SSA3032X-R","SSA3032X","SSA3050X-R","SSA3050X"]

def spdVariants : List String := ["SPD1168X","SPD1305X","SPD3303X-E","SPD3303X","SPD3303C"]

def sdmVariants : List String := ["SDM3045X","SDM3055","SDM3065X","SDM3065X-SC"]

def sdsVariants : List String :=
  ["SDS1104X-E","SDS1204X-E","SDS814X-HD","SDS824X-HD","SDS2104X-Plus","SDS2354X-HD","SDS3054X-HD",
   "SDS6104A","SDS6204A"]

def sdlVariants : List String := ["SDL1020X-E","SDL1020X","SDL1030X-E","SDL1030X"]

def sdgVariants : List String :=
  ["SDG1032X","SDG1062X","SDG2042X","SDG2082X","SDG2122X","SDG6022X","SDG6052X"]

def e36Variants : List String :=
  ["EDU36311A","E36102A","E36103A","E36104A","E36105A","E36106A","E36311A","E36312A","E36313A","E3640A",
   "E3641A","E3642A"]

def truevoltVariants : List String := ["34450A","34461A","34465A","34470A","34410A","34411A"]

def infiniivisionVariants : List String :=
  ["DSOX1102A","DSOX1102G","DSOX1204A","DSOX1204G","DSOX2002A","DSOX2004A","DSOX2012A","DSOX2014A",
   "DSOX2022A","DSOX2024A","MSOX2002A","MSOX2004A","MSOX2012A","MSOX2014A","MSOX2022A","MSOX2024A",
   "DSOX3024T","DSOX3034T","DSOX3054T","DSOX3104T","MSOX3024T","MSOX3034T","MSOX3054T","MSOX3104T",
   "DSOX4024A","DSOX4034A","DSOX4054A","DSOX4104A","DSOX4154A","MSOX4024A","MSOX4034A","MSOX4054A",
   "MSOX4104A","MSOX4154A","DSOX6002A","DSOX6004A","DSOX6012A","DSOX6014A","MSOX6002A","MSOX6004A",
   "MSOX6012A","MSOX6014A"]

def el3Variants : List String := ["EL34143A","EL34243A"]

def t33500bVariants : List String :=
  ["33509B","33510B","33511B","33512B","33521B","33522B","33611A","33612A","33621A","33622A"]

def xdmVariants : List String := ["XDM1041","XDM1241","XDM2041"]

def speVariants : List String := ["SPE3103","SPE3051","SPE6053","SPE6103"]

def xdsVariants : List String := ["XDS3102A","XDS3104AE"]

def tbsVariants : List String :=
  ["TBS1052C","TBS1072C","TBS1102C","TBS1202C","TBS2072B","TBS2102B","TBS2074B","TBS2104B","TBS2204B"]

def msoVariants : List String :=
  ["MDO3012","MDO3104","MDO4024C","MDO4054C","MDO4104C","DPO2024B","MSO2024B","DPO3034","MSO3054",
   "DPO4054B","MSO4104B","MSO54","MSO56","MSO58","MSO64B","MSO68B"]

def afgVariants : List String :=
  ["AFG1022","AFG1062","AFG3011C","AFG3021C","AFG3022C","AFG3051C","AFG3052C","AFG3101C","AFG3102C",
   "AFG3251C","AFG3252C","AFG31021","AFG31022","AFG31051","AFG31052","AFG31101","AFG31102","AFG31151",
   "AFG31152","AFG31251","AFG31252"]

def pwsVariants : List String :=
  ["PWS2185","PWS2323","PWS2326","PWS2721","PWS4205","PWS4305","PWS4323","PWS4602","PWS4721"]

def rtbVariants : List String :=
  ["RTB2002","RTB2004","RTM3002","RTM3004","RTA4004","MXO44","MXO54","MXO58","HMO1002","HMO1202","HMO2024"]

def ngeVariants : List String :=
  ["NGE102B","NGE103B","NGL201","NGL202","NGM201","NGM202","NGP804","NGP814","NGU201","NGU401","HMP2030",
   "HMC8043"]

def hmcVariants : List String := ["HMC8012","HMC8015"]

def smaVariants : List String := ["SMA100A","SMA100B","SMB100A","SMBV100A","SMBV100B"]

def hmfVariants : List String := ["HMF2525","HMF2550"]

def fpcVariants : List String := ["FPC1000","FPC1500","FPL1003","FPL1007","FPL1014","HMS1000","HMS3000"]

def benchDmmVariants : List String := ["8808A","8845A","8846A","8588A","8508A"]

def calibratorVariants : List String := ["5520A","5522A","5730A"]

def gdsVariants : List String :=
  ["GDS-1054B","GDS-1074B","GDS-2102E","GDS-2204E","GDS-3352","MSO-2204","MDO-2302EX"]

def gppVariants : List String :=
  ["GPP-1326","GPP-2323","GPP-3323","GPP-4323","GPD-3303S","GPD-4303S","PSW30-36","PSW30-72","PSW160-14.4"]

def gdmVariants : List String := ["GDM-8261A","GDM-8341","GDM-9061","GDM-9062"]

def gwAfgVariants : List String :=
  ["AFG-2005","AFG-2105","AFG-2125","AFG-3021","AFG-3022","AFG-3081","AFG-3121","MFG-2230M","MFG-2260M"]

def gspVariants : List String := ["GSP-730","GSP-9300","GSP-9330"]

structure Vendor where
  /-- What the ids of the variants begin with. -/
  name : String
  manufacturer : Pattern

namespace Vendor

def catchAll (vendor : Vendor) (id : String) (kind : DeviceKind) (model : Regex)
    (known : kind ≠ .unknown := by decide) : DriverEntry :=
  { id, kind, matcher := ⟨vendor.manufacturer,.regex model⟩, variant := none, known }

def variants (vendor : Vendor) (kind : DeviceKind) (names : List String)
    (model : String → Regex := variantRegex) (known : kind ≠ .unknown := by decide) : List DriverEntry :=
  names.map fun variant =>
    { id := vendor.name ++ "-" ++ lower variant, kind, matcher := ⟨vendor.manufacturer,.regex (model variant)⟩,
      variant := some variant, known }

end Vendor

def text (s : String) : Regex := literal s.toList

def anyOf (texts : List String) : Regex := oneOf (texts.map String.toList)

def digits (n : Nat) : Regex := repeated CharClass.digit n (some n)

def digitsUpTo (least most : Nat) : Regex := repeated CharClass.digit least (some most)

def someDigits : Regex := repeated CharClass.digit 1 none

def letter : Regex := one CharClass.letter

/- `[…]` of the characters of a text. -/
def among (s : String) : CharClass := s.toList.flatMap CharClass.only

def startsWith (parts : List Regex) : Regex := anchored (sequence parts)

def rigol : Vendor := ⟨"rigol",.text "rigol"⟩

def rigolDrivers : List DriverEntry :=
  rigol.variants .oscilloscope dho800Variants ++
  [rigol.catchAll "rigol-dho800" .oscilloscope (startsWith [text "DHO8",digits 2])] ++
  rigol.variants .powerSupply dp900Variants ++
  [rigol.catchAll "rigol-dp900" .powerSupply (startsWith [text "DP9",digits 2])] ++
  rigol.variants .multimeter dm800Variants ++
  [rigol.catchAll "rigol-dm800" .multimeter (startsWith [text "DM8",digits 2])] ++
  rigol.variants .electronicLoad dl3000Variants ++
  [rigol.catchAll "rigol-dl3000" .electronicLoad (startsWith [text "DL30",digits 2])] ++
  rigol.variants .signalGenerator dg900Variants ++
  [rigol.catchAll "rigol-dg800" .signalGenerator (startsWith [text "DG8",digits 2]),
   rigol.catchAll "rigol-dg900" .signalGenerator (startsWith [text "DG9",digits 2])]

def siglent : Vendor := ⟨"siglent",.text "siglent"⟩

def siglentDrivers : List DriverEntry :=
  siglent.variants .spectrumAnalyzer (sortedByLength ssa3000xVariants) ++
  [siglent.catchAll "siglent-ssa3000x" .spectrumAnalyzer
    (startsWith [text "SSA3",digits 3,text "X",optional (text "-R")])] ++
  siglent.variants .powerSupply (sortedByLength spdVariants) ++
  [siglent.catchAll "siglent-spd" .powerSupply (startsWith [text "SPD",digits 4])] ++
  siglent.variants .multimeter (sortedByLength sdmVariants) ++
  [siglent.catchAll "siglent-sdm" .multimeter (startsWith [text "SDM",digits 4])] ++
  siglent.variants .oscilloscope (sortedByLength sdsVariants) ++
  [siglent.catchAll "siglent-sds" .oscilloscope (startsWith [text "SDS",digitsUpTo 3 4])] ++
  siglent.variants .electronicLoad (sortedByLength sdlVariants) ++
  [siglent.catchAll "siglent-sdl" .electronicLoad (startsWith [text "SDL",digits 4])] ++
  siglent.variants .signalGenerator (sortedByLength sdgVariants) ++
  [siglent.catchAll "siglent-sdg" .signalGenerator (startsWith [text "SDG",digits 4])]

/- `/keysight|agilent technologies/i` -/
def keysight : Vendor := ⟨"keysight",.regex (alt (text "KEYSIGHT") (text "AGILENT TECHNOLOGIES"))⟩

def keysightDrivers : List DriverEntry :=
  keysight.variants .powerSupply (sortedByLength e36Variants) ++
  [keysight.catchAll "keysight-e36" .powerSupply
    (startsWith [optional (text "EDU"),optional (text "E"),text "36",digits 3,letter]),
   keysight.catchAll "keysight-e364x" .powerSupply (startsWith [text "E364",digits 1,letter])] ++
  keysight.variants .multimeter (sortedByLength truevoltVariants) ++
  [keysight.catchAll "keysight-truevolt" .multimeter (startsWith [text "344",digits 2,text "A"])] ++
  keysight.variants .oscilloscope (sortedByLength infiniivisionVariants) infiniiVisionModelRegex ++
  [keysight.catchAll "keysight-infiniivision" .oscilloscope
    (startsWith [anyOf ["DSO","MSO"],optional (text "-"),text "X",optional (one CharClass.space),digits 4,
      one (among "ATG")])] ++
  keysight.variants .electronicLoad (sortedByLength el3Variants) ++
  [keysight.catchAll "keysight-el3" .electronicLoad (startsWith [text "EL3",digits 4,text "A"])] ++
  keysight.variants .signalGenerator (sortedByLength t33500bVariants) ++
  [keysight.catchAll "keysight-33500b" .signalGenerator (startsWith [text "335",digits 2,text "B"]),
   keysight.catchAll "keysight-33600a" .signalGenerator (startsWith [text "336",digits 2,text "A"])]

/- `/owon|owon technologies|lilliput/i` -/
def owon : Vendor := ⟨"owon",.regex (alt (text "OWON") (alt (text "OWON TECHNOLOGIES") (text "LILLIPUT")))⟩

def blank : Vendor := ⟨"owon",.regex (seq start finish)⟩

def owonDrivers : List DriverEntry :=
  owon.variants .multimeter (sortedByLength xdmVariants) ++
  [owon.catchAll "owon-xdm" .multimeter (startsWith [text "XDM",digits 4]),
   blank.catchAll "owon-xdm-model-only" .multimeter (startsWith [text "XDM",digits 4])] ++
  owon.variants .powerSupply (sortedByLength speVariants) ++
  [owon.catchAll "owon-spe" .powerSupply (startsWith [text "SPE",digits 4]),
   blank.catchAll "owon-spe-model-only" .powerSupply (startsWith [text "SPE",digits 4])] ++
  owon.variants .oscilloscope (sortedByLength xdsVariants) ++
  [owon.catchAll "owon-xds" .oscilloscope (startsWith [text "XDS",digitsUpTo 3 4]),
   blank.catchAll "owon-xds-model-only" .oscilloscope (startsWith [text "XDS",digitsUpTo 3 4])]

def tektronix : Vendor := ⟨"tektronix",.regex (text "TEKTRONIX")⟩

def tektronixDrivers : List DriverEntry :=
  tektronix.variants .oscilloscope (sortedByLength tbsVariants) ++
  [tektronix.catchAll "tektronix-tbs" .oscilloscope
    (startsWith [text "TBS",one (among "12"),digits 3,optional letter])] ++
  tektronix.variants .oscilloscope (sortedByLength msoVariants) ++
  [tektronix.catchAll "tektronix-mso" .oscilloscope
    (startsWith [anyOf ["MSO","DPO","MDO"],digitsUpTo 2 4,optional letter])] ++
  tektronix.variants .signalGenerator (sortedByLength afgVariants) ++
  [tektronix.catchAll "tektronix-afg" .signalGenerator
    (startsWith [text "AFG",digitsUpTo 4 5,optional letter])] ++
  tektronix.variants .powerSupply (sortedByLength pwsVariants) ++
  [tektronix.catchAll "tektronix-pws" .powerSupply (startsWith [text "PWS",digits 4])]

/- `/rohde\s*&\s*schwarz|r&s|hameg/i` -/
def rnds : Vendor :=
  let spaces := repeated CharClass.space 0 none
  ⟨"rnds",.regex (alt (sequence [text "ROHDE",spaces,text "&",spaces,text "SCHWARZ"])
    (alt (text "R&S") (text "HAMEG")))⟩

-- The HMC multimeters stand in the order they are listed.
def rndsDrivers : List DriverEntry :=
  rnds.variants .oscilloscope (sortedByLength rtbVariants) ++
  [rnds.catchAll "rnds-rtb-family" .oscilloscope
    (startsWith [anyOf ["RTB","RTM","RTA","MXO","HMO"],someDigits])] ++
  rnds.variants .powerSupply (sortedByLength ngeVariants) ++
  [rnds.catchAll "rnds-ngx-family" .powerSupply
    (startsWith [anyOf ["NGE","NGL","NGM","NGP","NGU","HMP"],someDigits])] ++
  rnds.variants .multimeter hmcVariants ++
  [rnds.catchAll "rnds-hmc-dmm" .multimeter (bounded (sequence [text "HMC801",one (among "25")]))] ++
  rnds.variants .signalGenerator (sortedByLength smaVariants) ++
  [rnds.catchAll "rnds-sma-family" .signalGenerator
    (startsWith [anyOf ["SMA","SMB","SMBV"],digits 3,optional letter])] ++
  rnds.variants .signalGenerator (sortedByLength hmfVariants) ++
  [rnds.catchAll "rnds-hmf-family" .signalGenerator (startsWith [text "HMF",digits 4])] ++
  rnds.variants .spectrumAnalyzer (sortedByLength fpcVariants) ++
  [rnds.catchAll "rnds-fpc-family" .spectrumAnalyzer (startsWith [anyOf ["FPC","FPL","HMS"],someDigits])]

def fluke : Vendor := ⟨"fluke",.regex (text "FLUKE")⟩

def flukeDrivers : List DriverEntry :=
  fluke.variants .multimeter (sortedByLength benchDmmVariants) ++
  [fluke.catchAll "fluke-bench-dmm" .multimeter
    (bounded (alt (sequence [text "88",digits 2,text "A"]) (sequence [text "85",digits 2,text "A"])))] ++
  fluke.variants .powerSupply (sortedByLength calibratorVariants) ++
  [fluke.catchAll "fluke-calibrator" .powerSupply
    (bounded (alt (sequence [text "55",digits 2,text "A"]) (sequence [text "57",digits 2,text "A"])))]

/- `/gw\s*-?\s*instek|gwinstek|goodwill\s*instrument/i` -/
def gwInstek : Vendor :=
  let spaces := repeated CharClass.space 0 none
  ⟨"gwinstek",.regex (alt (sequence [text "GW",spaces,optional (text "-"),spaces,text "INSTEK"])
    (alt (text "GWINSTEK") (sequence [text "GOODWILL",spaces,text "INSTRUMENT"])))⟩

def gwInstekDrivers : List DriverEntry :=
  gwInstek.variants .oscilloscope (sortedByLength gdsVariants) ++
  [gwInstek.catchAll "gwinstek-gds" .oscilloscope
    (startsWith [anyOf ["GDS","MSO","MDO","MPO"],optional (text "-"),digitsUpTo 3 4,optional letter])] ++
  gwInstek.variants .powerSupply (sortedByLength gppVariants) ++
  [gwInstek.catchAll "gwinstek-gpp" .powerSupply
    (startsWith [anyOf ["GPP","GPD","PSW"],optional (one (CharClass.space ++ among "-")),
      repeated (CharClass.digit ++ among ".-") 1 none])] ++
  gwInstek.variants .multimeter (sortedByLength gdmVariants) ++
  [gwInstek.catchAll "gwinstek-gdm" .multimeter
    (startsWith [text "GDM",optional (text "-"),digits 4,optional letter])] ++
  gwInstek.variants .signalGenerator (sortedByLength gwAfgVariants) ++
  [gwInstek.catchAll "gwinstek-afg" .signalGenerator
    (startsWith [anyOf ["AFG","MFG"],optional (text "-"),digitsUpTo 3 4,optional letter])] ++
  gwInstek.variants .spectrumAnalyzer (sortedByLength gspVariants) ++
  [gwInstek.catchAll "gwinstek-gsp" .spectrumAnalyzer
    (startsWith [text "GSP",optional (text "-"),digitsUpTo 3 4,optional letter])]

def registerDrivers (drivers : List DriverEntry) (registry : Registry) : Except String Registry :=
  drivers.foldlM register registry

def registerRigolDrivers := registerDrivers rigolDrivers

def registerSiglentDrivers := registerDrivers siglentDrivers

def registerKeysightDrivers := registerDrivers keysightDrivers

def registerOwonDrivers := registerDrivers owonDrivers

def registerTektronixDrivers := registerDrivers tektronixDrivers

def registerRndsDrivers := registerDrivers rndsDrivers

def registerFlukeDrivers := registerDrivers flukeDrivers

def registerGwInstekDrivers := registerDrivers gwInstekDrivers

def createDefaultRegistry : Except String Registry := do
  let registry ← registerRigolDrivers []
  let registry ← registerSiglentDrivers registry
  let registry ← registerKeysightDrivers registry
  let registry ← registerOwonDrivers registry
  let registry ← registerTektronixDrivers registry
  let registry ← registerRndsDrivers registry
  let registry ← registerFlukeDrivers registry
  registerGwInstekDrivers registry

def packs : List (List DriverEntry) :=
  [rigolDrivers,siglentDrivers,keysightDrivers,owonDrivers,tektronixDrivers,rndsDrivers,flukeDrivers,
   gwInstekDrivers]

def distinct : List Nat → Nat → Bool
  | [], _ => true
  | n :: rest, seen => !seen.testBit n && distinct rest (seen ||| 1 <<< n)

theorem distinctSound {numbers : List Nat} {seen : Nat} (all : distinct numbers seen = true) :
    numbers.Nodup ∧ ∀ n ∈ numbers, seen.testBit n = false := by
  induction numbers generalizing seen with
  | nil => exact ⟨List.nodup_nil,nofun⟩
  | cons n rest ih =>
    rw [distinct,Bool.and_eq_true,Bool.not_eq_true'] at all
    obtain ⟨fresh,later⟩ := all
    obtain ⟨nodup,unseen⟩ := ih later
    have behind : ∀ m ∈ rest, seen.testBit m = false ∧ (1 <<< n).testBit m = false := by
      intro m member
      have := unseen m member
      rwa [Nat.testBit_or,Bool.or_eq_false_iff] at this
    constructor
    · refine List.nodup_cons.mpr ⟨fun again => ?_,nodup⟩
      have := (behind n again).2
      rw [Nat.one_shiftLeft,Nat.testBit_two_pow_self] at this
      cases this
    · exact List.forall_mem_cons.mpr ⟨fresh,fun m member => (behind m member).1⟩

def number (id : String) : Nat := id.toByteArray.data.toList.foldl (fun n b => (n * 256 + b.toNat) % 1000003) 0

theorem packsOrdered : (∀ pack ∈ packs, Ordered pack) ∧
    distinct (packs.flatten.map fun entry => number entry.id) 0 = true := by
  have rigol : Ordered rigolDrivers := by decide +kernel
  have siglent : Ordered siglentDrivers := by decide +kernel
  have keysight : Ordered keysightDrivers := by decide +kernel
  have owon : Ordered owonDrivers := by decide +kernel
  have tektronix : Ordered tektronixDrivers := by decide +kernel
  have rnds : Ordered rndsDrivers := by decide +kernel
  have fluke : Ordered flukeDrivers := by decide +kernel
  have gwInstek : Ordered gwInstekDrivers := by decide +kernel
  have ids : distinct (packs.flatten.map fun entry => number entry.id) 0 = true := by decide +kernel
  refine ⟨?_,ids⟩
  simp only [packs,List.forall_mem_cons]
  exact ⟨rigol,siglent,keysight,owon,tektronix,rnds,fluke,gwInstek,fun _ none_ => absurd none_ List.not_mem_nil⟩

theorem idsDistinct : (packs.flatten.map DriverEntry.id).Nodup := by
  apply List.Nodup.of_map number
  rw [List.map_map]
  exact (distinctSound packsOrdered.2).1

theorem defaultRegistry : createDefaultRegistry = .ok packs.flatten := by
  have whole : createDefaultRegistry = packs.flatten.foldlM register [] := by
    simp only [packs,List.flatten_cons,List.flatten_nil,List.append_nil,List.foldlM_append]
    rfl
  rw [whole]
  exact registerAll idsDistinct

def LongestVariant (named : String → String → Prop) (toLowerCase : String → String) : Prop :=
  ∃ registry, createDefaultRegistry = .ok registry ∧ ∀ identity : DeviceIdentity, ∀ pack ∈ packs,
    OnlyOf toLowerCase packs pack identity.manufacturer →
    PicksLongest toLowerCase (named identity.model) pack identity.model (resolve toLowerCase registry identity)

theorem longestVariant (toLowerCase : String → String) : LongestVariant NamedAs toLowerCase :=
  ⟨packs.flatten,defaultRegistry,fun _ _ member only => resolvedLongest packsOrdered.1 member only⟩

def spelled : DeviceIdentity :=
  { manufacturer := "KEYSIGHT TECHNOLOGIES", model := "DSO-X 2024A", serial := none, firmware := none,
    raw := "KEYSIGHT TECHNOLOGIES,DSO-X 2024A" }

theorem spelledByKeysight : OnlyOf lower packs keysightDrivers spelled.manufacturer where
  own := by decide +kernel
  others := by
    have apart : ∀ other ∈ [rigolDrivers,siglentDrivers] ++
        [owonDrivers,tektronixDrivers,rndsDrivers,flukeDrivers,gwInstekDrivers],
        ∀ entry ∈ other, ¬ valueMatches lower spelled.manufacturer entry.matcher.manufacturer := by
      decide +kernel
    intro other member differs
    have member : other ∈ [rigolDrivers,siglentDrivers] ++ keysightDrivers ::
      [owonDrivers,tektronixDrivers,rndsDrivers,flukeDrivers,gwInstekDrivers] := member
    rcases List.mem_append.mp member with early | behind
    · exact apart other (List.mem_append_left _ early)
    · exact apart other (List.mem_append_right _ (List.mem_of_ne_of_mem differs behind))

/- No name stands in front of the model, and yet it does not resolve to the catch-all. -/
theorem spelledNotCatchAll : ¬ LongestVariant Named lower := by
  rintro ⟨registry,built,resolved⟩
  have same := Except.ok.inj (defaultRegistry.symm.trans built)
  have member : keysightDrivers ∈ packs := List.mem_cons_of_mem _ (List.mem_cons_of_mem _ List.mem_cons_self)
  have unnamed : ∀ variant ∈ variantsOf keysightDrivers, ¬ Named spelled.model variant := by decide +kernel
  have catchAll := (resolved spelled keysightDrivers member spelledByKeysight).catchAll unnamed
  have found : ((resolve lower packs.flatten spelled).map fun entry => entry.id) = some "keysight-dsox2024a" := by
    decide +kernel
  have general : (((catchAlls keysightDrivers).find? fun entry =>
      valueMatches lower spelled.model entry.matcher.model).map fun entry => entry.id) =
      some "keysight-infiniivision" := by
    decide +kernel
  rw [same,catchAll,general] at found
  exact absurd found (by decide)

end LxiWeb.DriverPacks
