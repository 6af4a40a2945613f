import LxiWeb.PsuDrivers
import LxiWeb.SimulatedGenerator

/-! The R&S NGE driver on a simulated NGE103B. No command names a channel: the driver selects one and keeps
in mind which. From switch-on, every run of calls returns what a supply of three channels returns that knows
of no selection. -/
namespace LxiWeb.SimulatedSupply
open JsDecimals JsText KeyedWrites OutputKill ReplyTexts ScpiCalls SimulatedCommands SimulatorReplies StoredSettings
open CallRuns (runAlone)
open PsuDrivers (PsuProtectionKind)
open SdgWaveforms (UpperCase written)
open SimulatedGenerator (asciiUpper)

structure ChannelSpec where
  id : Nat
  label : String
  voltageMax : Decimal
  currentMax : Decimal
  deriving DecidableEq

structure NgeProfile where
  variant : String
  channels : List ChannelSpec
  presetSlots : Int

structure ChannelLimits where
  voltageMax : Decimal
  currentMax : Decimal
  deriving DecidableEq

structure ChannelState where
  id : Nat
  label : String
  setVoltage : Decimal
  setCurrent : Decimal
  measuredVoltage : Decimal
  measuredCurrent : Decimal
  output : Bool
  limits : ChannelLimits
  deriving DecidableEq

structure Measurement where
  channel : Nat
  voltage : Decimal
  current : Decimal
  power : Decimal
  deriving DecidableEq

structure Range where
  min : Decimal
  max : Decimal
  deriving DecidableEq

structure ProtectionState where
  enabled : Bool
  level : Decimal
  tripped : Bool
  range : Range
  deriving DecidableEq

inductive Call where
  | getChannels
  | setChannelOutput (channel : Int) (enabled : Bool)
  | setChannelVoltage (channel : Int) (volts : Decimal)
  | setChannelCurrent (channel : Int) (amps : Decimal)
  | measureChannel (channel : Int)
  | getProtection (channel : Int) (kind : PsuProtectionKind)
  | setProtectionEnabled (channel : Int) (kind : PsuProtectionKind) (enabled : Bool)
  | setProtectionLevel (channel : Int) (kind : PsuProtectionKind) (level : Decimal)
  | clearProtectionTrip (channel : Int) (kind : PsuProtectionKind)
  | getPresetCatalog
  | savePreset (slot : Int)
  | recallPreset (slot : Int)
  | disableAllOutputs
  deriving DecidableEq

inductive Result where
  | done
  | channels (states : List ChannelState)
  | measurement (measured : Measurement)
  | protection (state : ProtectionState)
  | catalog (slots : List Bool)
  | kill (result : OutputKillResult)
  deriving DecidableEq

/- Floating point: the driver's `x * 1.1` and `voltage * current`, and the simulator's `v.toFixed(4)`. -/
structure Arithmetic where
  raised : Decimal → Decimal
  power : Decimal → Decimal → Decimal
  fixed : Option Decimal → String
  word : ∀ x, Word (fixed x).toList

namespace RndsNge

variable (upper : UpperCase) (arithmetic : Arithmetic) (profile : NgeProfile)

/- The memory is `#lastSelected`. -/
abbrev Nge := DriverMethod (Option Nat)

def zero : Decimal := literal "0"

def parseBool (value : String) : Bool :=
  let v := folded upper value
  v = "1".toList ∨ v = "ON".toList ∨ v = "TRUE".toList

def channelIds : List Nat := profile.channels.map ChannelSpec.id

def specOf (id : Nat) : Option ChannelSpec := profile.channels.reverse.find? fun c => c.id = id

def limits (id : Nat) : ChannelLimits :=
  ((specOf profile id).map fun c => ⟨c.voltageMax,c.currentMax⟩).getD ⟨literal "30",literal "3"⟩

def range (id : Nat) (kind : PsuProtectionKind) : Range :=
  ((specOf profile id).map fun c => ⟨zero,arithmetic.raised (match kind with
    | .ovp => c.voltageMax
    | .ocp => c.currentMax)⟩).getD ⟨zero,zero⟩

def label (id : Nat) : String :=
  ((profile.channels.find? fun c => c.id = id).map ChannelSpec.label).getD s!"OUT{id}"

def base : PsuProtectionKind → String
  | .ovp => "SOURce:VOLTage"
  | .ocp => "SOURce:CURRent"

/- The check of `#select`. -/
def assertChannel (channel : Int) : Except Failure Nat :=
  if 0 ≤ channel ∧ channel.toNat ∈ channelIds profile then .ok channel.toNat
  else .error (.error s!"R&S {profile.variant} does not have channel {channel}")

def select (channel : Int) : Nge Nat := do
  let id ← MonadExcept.ofExcept (assertChannel profile channel)
  let lastSelected ← CallRuns.load
  if lastSelected = some id then pure id
  else
    write s!"INSTrument:SELect OUT{id}"
    CallRuns.change fun _ => some id
    pure id

def statusQueries : List String :=
  ["SOURce:VOLTage?", "SOURce:CURRent?", "MEASure:SCALar:VOLTage?", "MEASure:SCALar:CURRent?", "OUTPut:STATe?"]

def readChannel (channel : Int) : Nge ChannelState := do
  let id ← select profile channel
  let replies ← safeQueries statusQueries
  let value (i : Nat) := parseNumberOrZero (replies.getD i "")
  pure ⟨id,label profile id,value 0,value 1,value 2,value 3,parseBool upper (replies.getD 4 ""),limits profile id⟩

def getChannels : Nge (List ChannelState) := (channelIds profile).mapM fun (id : Nat) => readChannel upper profile id

def setChannelOutput (channel : Int) (enabled : Bool) : Nge Unit := do
  let _ ← select profile channel
  write s!"OUTPut:STATe {onOff enabled}"

def setChannelVoltage (channel : Int) (volts : Decimal) : Nge Unit := do
  let _ ← select profile channel
  write s!"SOURce:VOLTage {written volts}"

def setChannelCurrent (channel : Int) (amps : Decimal) : Nge Unit := do
  let _ ← select profile channel
  write s!"SOURce:CURRent {written amps}"

def measureChannel (channel : Int) : Nge Measurement := do
  let id ← select profile channel
  let replies ← safeQueries ["MEASure:SCALar:VOLTage?", "MEASure:SCALar:CURRent?"]
  let voltage := parseNumberOrZero (replies.getD 0 "")
  let current := parseNumberOrZero (replies.getD 1 "")
  pure ⟨id,voltage,current,arithmetic.power voltage current⟩

def protectionQueries (kind : PsuProtectionKind) : List String :=
  [s!"{base kind}:PROTection:LEVel?", s!"{base kind}:PROTection:STATe?", s!"{base kind}:PROTection:TRIPped?"]

def getProtection (channel : Int) (kind : PsuProtectionKind) : Nge ProtectionState := do
  let id ← select profile channel
  let replies ← safeQueries (protectionQueries kind)
  pure ⟨parseBool upper (replies.getD 1 ""),parseNumberOrZero (replies.getD 0 ""),
    parseBool upper (replies.getD 2 ""),range arithmetic profile id kind⟩

def setProtectionEnabled (channel : Int) (kind : PsuProtectionKind) (enabled : Bool) : Nge Unit := do
  let _ ← select profile channel
  write s!"{base kind}:PROTection:STATe {onOff enabled}"

def setProtectionLevel (channel : Int) (kind : PsuProtectionKind) (level : Decimal) : Nge Unit := do
  let _ ← select profile channel
  write s!"{base kind}:PROTection:LEVel {written level}"

def clearProtectionTrip (channel : Int) (kind : PsuProtectionKind) : Nge Unit := do
  let _ ← select profile channel
  write s!"{base kind}:PROTection:CLEar"

def getPresetCatalog : List Bool := List.replicate profile.presetSlots.toNat true

def assertSlot (slot : Int) : Except Failure Unit :=
  if slot < 0 ∨ profile.presetSlots ≤ slot then
    .error (.rangeError s!"preset slot must be an integer between 0 and {profile.presetSlots - 1}")
  else .ok ()

def savePreset (slot : Int) : Nge Unit := do
  MonadExcept.ofExcept (assertSlot profile slot)
  write s!"*SAV {slot}"

def recallPreset (slot : Int) : Nge Unit := do
  MonadExcept.ofExcept (assertSlot profile slot)
  write s!"*RCL {slot}"

def disableAllOutputs : Nge OutputKillResult :=
  @runPsuDisableAll _ _ caught
    { tracking := false, getTracking := pure false, setTracking := fun _ => pure ()
      getChannels := (fun states => states.map ChannelState.id) <$> getChannels upper profile
      setChannelOutput := fun channel enabled => setChannelOutput profile channel enabled }

def method : Call → Nge Result
  | .getChannels => .channels <$> getChannels upper profile
  | .setChannelOutput channel enabled => (fun _ => .done) <$> setChannelOutput profile channel enabled
  | .setChannelVoltage channel volts => (fun _ => .done) <$> setChannelVoltage profile channel volts
  | .setChannelCurrent channel amps => (fun _ => .done) <$> setChannelCurrent profile channel amps
  | .measureChannel channel => .measurement <$> measureChannel arithmetic profile channel
  | .getProtection channel kind => .protection <$> getProtection upper arithmetic profile channel kind
  | .setProtectionEnabled channel kind enabled =>
      (fun _ => .done) <$> setProtectionEnabled profile channel kind enabled
  | .setProtectionLevel channel kind level => (fun _ => .done) <$> setProtectionLevel profile channel kind level
  | .clearProtectionTrip channel kind => (fun _ => .done) <$> clearProtectionTrip profile channel kind
  | .getPresetCatalog => pure (.catalog (getPresetCatalog profile))
  | .savePreset slot => (fun _ => .done) <$> savePreset profile slot
  | .recallPreset slot => (fun _ => .done) <$> recallPreset profile slot
  | .disableAllOutputs => .kill <$> disableAllOutputs upper profile

end RndsNge

namespace RndsNge103b

inductive Channel where
  | out1 | out2 | out3
  deriving DecidableEq, Repr

def Channel.id : Channel → Nat
  | .out1 => 1
  | .out2 => 2
  | .out3 => 3

inductive Parameter where
  | voltage | current | output
  | level (kind : PsuProtectionKind)
  | enabled (kind : PsuProtectionKind)
  | tripped (kind : PsuProtectionKind)
  deriving DecidableEq, Repr

abbrev Key := Channel × Parameter

structure State where
  selected : Channel
  values : Table Key String

def defaultState : State where
  selected := .out1
  values key := some <| match key.2 with
    | .voltage => if key.1 = .out1 then "5.000" else "0.000"
    | .current => "1.000"
    | .output => "0"
    | .level .ovp => "33.0"
    | .level .ocp => "3.5"
    | .enabled _ | .tripped _ => "0"

/- What `/OUT([123])/` finds, and otherwise the first channel. -/
def outIn (arg : List Char) : Channel :=
  (arg.tails.findSome? fun
    | 'O' :: 'U' :: 'T' :: d :: _ =>
        if d = '1' then some .out1 else if d = '2' then some .out2 else if d = '3' then some .out3 else none
    | _ => none).getD .out1

variable (upper : UpperCase) (arithmetic : Arithmetic)

def kept (state : SessionState State) (p : Parameter) : Option String := state.values.values (state.values.selected,p)

def entered (state : SessionState State) (p : Parameter) (text : String) : SessionState State :=
  { state with
    values := { state.values with
      values := KeyedWrites.write state.values.values (entry (state.values.selected,p) (some text)) } }

def setSelected : Handler State := fun cmd state =>
  let arg := upper.apply (cmd.args.headD "OUT1".toList)
  ({ state with values := { state.values with selected := outIn arg } },.returns (.ok .none))

def readSelected : Handler State := fun _ state => (state,.returns (.ok (.line s!"OUT{state.values.selected.id}")))

def passivePut (p : Parameter) (fallback : String) : Handler State := fun cmd state =>
  if cmd.isQuery then (state,.returns (.ok (.line ((kept state p).getD fallback))))
  else (entered state p (String.ofList (cmd.args.headD fallback.toList)),.returns (.ok .none))

def boolPut (p : Parameter) : Handler State := fun cmd state =>
  if cmd.isQuery then (state,.returns (.ok (.line ((kept state p).getD "0"))))
  else
    let arg := upper.apply (cmd.args.headD "OFF".toList)
    (entered state p (if arg = "ON".toList ∨ arg = "1".toList then "1" else "0"),.returns (.ok .none))

def isOn (state : SessionState State) : Prop := (kept state .output).getD "0" = "1"

instance (state : SessionState State) : Decidable (isOn state) := inferInstanceAs (Decidable (_ = _))

def measureVoltage : Handler State := fun _ state =>
  let v := parseFloat ((kept state .voltage).getD "0").toList
  (state,.returns (.ok (.line (if isOn state then arithmetic.fixed v else "0.0000"))))

def measureCurrent : Handler State := fun _ state =>
  (state,.returns (.ok (.line (if isOn state then "0.1000" else "0.0000"))))

def clearTrip (kind : PsuProtectionKind) : Handler State := fun _ state =>
  (entered state (.tripped kind) "0",.returns (.ok .none))

def handlers : List (String × Handler State) :=
  [("INSTRUMENT:SELECT",setSelected upper), ("INSTRUMENT:SELECT?",readSelected),
    ("SOURCE:VOLTAGE",passivePut .voltage "0.000"), ("SOURCE:VOLTAGE?",passivePut .voltage "0.000"),
    ("SOURCE:CURRENT",passivePut .current "1.000"), ("SOURCE:CURRENT?",passivePut .current "1.000"),
    ("OUTPUT:STATE",boolPut upper .output), ("OUTPUT:STATE?",boolPut upper .output),
    ("MEASURE:SCALAR:VOLTAGE?",measureVoltage arithmetic), ("MEASURE:SCALAR:CURRENT?",measureCurrent),
    ("SOURCE:VOLTAGE:PROTECTION:LEVEL",passivePut (.level .ovp) "33.0"),
    ("SOURCE:VOLTAGE:PROTECTION:LEVEL?",passivePut (.level .ovp) "33.0"),
    ("SOURCE:VOLTAGE:PROTECTION:STATE",boolPut upper (.enabled .ovp)),
    ("SOURCE:VOLTAGE:PROTECTION:STATE?",boolPut upper (.enabled .ovp)),
    ("SOURCE:VOLTAGE:PROTECTION:TRIPPED?",passivePut (.tripped .ovp) "0"),
    ("SOURCE:VOLTAGE:PROTECTION:CLEAR",clearTrip .ovp),
    ("SOURCE:CURRENT:PROTECTION:LEVEL",passivePut (.level .ocp) "3.5"),
    ("SOURCE:CURRENT:PROTECTION:LEVEL?",passivePut (.level .ocp) "3.5"),
    ("SOURCE:CURRENT:PROTECTION:STATE",boolPut upper (.enabled .ocp)),
    ("SOURCE:CURRENT:PROTECTION:STATE?",boolPut upper (.enabled .ocp)),
    ("SOURCE:CURRENT:PROTECTION:TRIPPED?",passivePut (.tripped .ocp) "0"),
    ("SOURCE:CURRENT:PROTECTION:CLEAR",clearTrip .ocp), ("*SAV",answers .none), ("*RCL",answers .none),
    ("SYSTEM:ERROR?",answers (.line "0,\"No error\""))]

def exactHandlers (normalized : List Char) : Option (Handler State) :=
  (handlers upper arithmetic).lookup (String.ofList normalized)

def personality : Personality State where
  exactHandlers := exactHandlers upper arithmetic
  prefixHandlers := []
  responses _ := none
  initialState := ⟨[],defaultState⟩

def simulator (idn : String) : Simulator State :=
  ⟨personality upper arithmetic,idn,"",[ScpiFraming.LF],upper.apply⟩

end RndsNge103b

open RndsNge103b

abbrev RndsNge103b.Parameter.Value : Parameter → Type
  | .voltage | .current | .level _ => Decimal
  | .output | .enabled _ | .tripped _ => Bool

abbrev Supply := (s : Channel × Parameter) → s.2.Value

namespace Supply
open RndsNge (limits label range zero)

variable (arithmetic : Arithmetic) (profile : NgeProfile) (supply : Supply) (channel : Channel)

def set (p : Parameter) (v : p.Value) : Supply := Function.update supply (channel,p) v

def measuredVoltage : Decimal :=
  if supply (channel,.output) then parseNumberOrZero (arithmetic.fixed (some (supply (channel,.voltage)))) else zero

def measuredCurrent : Decimal := if supply (channel,.output) then literal "0.1" else zero

def channelState : ChannelState where
  id := channel.id
  label := label profile channel.id
  setVoltage := supply (channel,.voltage)
  setCurrent := supply (channel,.current)
  measuredVoltage := supply.measuredVoltage arithmetic channel
  measuredCurrent := supply.measuredCurrent channel
  output := supply (channel,.output)
  limits := limits profile channel.id

def measurement : Measurement :=
  let voltage := supply.measuredVoltage arithmetic channel
  let current := supply.measuredCurrent channel
  ⟨channel.id,voltage,current,arithmetic.power voltage current⟩

def protection (kind : PsuProtectionKind) : ProtectionState :=
  ⟨supply (channel,.enabled kind),supply (channel,.level kind),supply (channel,.tripped kind),
    range arithmetic profile channel.id kind⟩

def channels : List Channel :=
  (RndsNge.channelIds profile).filterMap fun id => [Channel.out1,.out2,.out3].find? fun c => c.id = id

def channelAt (n : Int) : Except Failure Channel :=
  match (channels profile).find? fun c => c.id = n with
  | some c => .ok c
  | none => .error (.error s!"R&S {profile.variant} does not have channel {n}")

def on (n : Int) (next : Channel → Supply × Result) : Supply × Except Failure Result :=
  match channelAt profile n with
  | .ok c => ((next c).1,.ok (next c).2)
  | .error e => (supply,.error e)

def off (channels : List Channel) (supply : Supply) : Supply :=
  channels.foldl (fun supply c => supply.set c .output false) supply

def catalog : List Bool := (List.range profile.presetSlots.toNat).map fun _ => true

def slot (n : Int) : Except Failure Result :=
  if 0 ≤ n ∧ n < profile.presetSlots then .ok .done
  else .error (.rangeError s!"preset slot must be an integer between 0 and {profile.presetSlots - 1}")

def call : Call → Supply × Except Failure Result
  | .getChannels => (supply,.ok (.channels ((channels profile).map (supply.channelState arithmetic profile))))
  | .setChannelOutput n enabled => supply.on profile n fun c => (supply.set c .output enabled,.done)
  | .setChannelVoltage n volts => supply.on profile n fun c => (supply.set c .voltage volts,.done)
  | .setChannelCurrent n amps => supply.on profile n fun c => (supply.set c .current amps,.done)
  | .measureChannel n => supply.on profile n fun c => (supply,.measurement (supply.measurement arithmetic c))
  | .getProtection n kind =>
      supply.on profile n fun c => (supply,.protection (supply.protection arithmetic profile c kind))
  | .setProtectionEnabled n kind enabled => supply.on profile n fun c => (supply.set c (.enabled kind) enabled,.done)
  | .setProtectionLevel n kind level => supply.on profile n fun c => (supply.set c (.level kind) level,.done)
  | .clearProtectionTrip n kind => supply.on profile n fun c => (supply.set c (.tripped kind) false,.done)
  | .getPresetCatalog => (supply,.ok (.catalog (catalog profile)))
  | .savePreset n | .recallPreset n => (supply,slot profile n)
  | .disableAllOutputs =>
      (off (channels profile) supply,.ok (.kill ⟨.ok,(channels profile).map fun c => s!"CH{c.id}",[]⟩))

def initial : Supply
  | (c,.voltage) => if c = .out1 then literal "5" else literal "0"
  | (_,.current) => literal "1"
  | (_,.level .ovp) => literal "33"
  | (_,.level .ocp) => literal "3.5"
  | (_,.output) | (_,.enabled _) | (_,.tripped _) => false

end Supply

namespace RndsNge103b.Parameter

def all : List Parameter :=
  [.voltage,.current,.output,.level .ovp,.level .ocp,.enabled .ovp,.enabled .ocp,.tripped .ovp,.tripped .ocp]

theorem listed (p : Parameter) : p ∈ all := by
  cases p with
  | level kind | enabled kind | tripped kind => cases kind <;> decide
  | _ => decide

def header : Parameter → String
  | .voltage => "SOURce:VOLTage"
  | .current => "SOURce:CURRent"
  | .output => "OUTPut:STATe"
  | .level kind => RndsNge.base kind ++ ":PROTection:LEVel"
  | .enabled kind => RndsNge.base kind ++ ":PROTection:STATe"
  | .tripped kind => RndsNge.base kind ++ ":PROTection:TRIPped"

def heard : Parameter → String
  | .voltage => "SOURCE:VOLTAGE"
  | .current => "SOURCE:CURRENT"
  | .output => "OUTPUT:STATE"
  | .level .ovp => "SOURCE:VOLTAGE:PROTECTION:LEVEL"
  | .level .ocp => "SOURCE:CURRENT:PROTECTION:LEVEL"
  | .enabled .ovp => "SOURCE:VOLTAGE:PROTECTION:STATE"
  | .enabled .ocp => "SOURCE:CURRENT:PROTECTION:STATE"
  | .tripped .ovp => "SOURCE:VOLTAGE:PROTECTION:TRIPPED"
  | .tripped .ocp => "SOURCE:CURRENT:PROTECTION:TRIPPED"

def fallback : Parameter → Option String
  | .voltage => some "0.000"
  | .current => some "1.000"
  | .level .ovp => some "33.0"
  | .level .ocp => some "3.5"
  | .tripped _ => some "0"
  | .output | .enabled _ => none

def handler (upper : UpperCase) (p : Parameter) : Handler State :=
  match p.fallback with
  | some fallback => passivePut p fallback
  | none => boolPut upper p

def writable : Parameter → Bool
  | .tripped _ => false
  | _ => true

structure Heard (p : Parameter) : Prop where
  word : Word p.header.toList
  noMark : p.header.toList.getLast? ≠ some '?'
  told : normal p.header.toList = p.heard.toList
  asked : normal (p.header.toList ++ ['?']) = (p.heard ++ "?").toList

theorem hears (p : Parameter) : p.Heard := by
  have all_ : ∀ p ∈ all, Word p.header.toList ∧ p.header.toList.getLast? ≠ some '?' ∧
      normal p.header.toList = p.heard.toList ∧ normal (p.header.toList ++ ['?']) = (p.heard ++ "?").toList := by
    decide
  obtain ⟨word,noMark,told,asked⟩ := all_ p p.listed
  exact ⟨word,noMark,told,asked⟩

section
variable (upper : UpperCase) (arithmetic : Arithmetic)

theorem handlesAsk (p : Parameter) :
    exactHandlers upper arithmetic (normal (p.header.toList ++ ['?'])) = some (p.handler upper) := by
  rw [p.hears.asked]
  cases p with
  | level kind | enabled kind | tripped kind => cases kind <;> rfl
  | _ => rfl

theorem handlesTell {p : Parameter} (writes : p.writable = true) :
    exactHandlers upper arithmetic (normal p.header.toList) = some (p.handler upper) := by
  rw [p.hears.told]
  cases p with
  | level kind | enabled kind => cases kind <;> rfl
  | tripped kind => cases writes
  | _ => rfl

end

def Holds : (p : Parameter) → Option String → p.Value → Prop
  | .voltage, kept, v | .current, kept, v | .level _, kept, v =>
      ∃ text : String, kept = some text ∧ Word text.toList ∧ parseFloat text.toList = some v
  | .output, kept, v | .enabled _, kept, v | .tripped _, kept, v => kept = some (if v then "1" else "0")

end RndsNge103b.Parameter

def encoding : Encoding (Channel × Parameter) Key String :=
  ⟨fun s => s.2.Value,id,fun s => s.2.Holds,Function.injective_id⟩

def Shows (d : SessionState State) (shown : Supply × Channel) : Prop :=
  encoding.Shows d.values.values shown.1 ∧ d.values.selected = shown.2

section
variable {upper : UpperCase} {arithmetic : Arithmetic} {profile : NgeProfile} {idn : String}
  {state : SessionState State} {supply : Supply} {c : Channel} {p : Parameter}

theorem speaks : Speaks (simulator upper arithmetic idn) upper := ⟨rfl,rfl⟩

theorem keptShown (shows_ : Shows state (supply,c)) (p : Parameter) : p.Holds (kept state p) (supply (c,p)) := by
  have holds := shows_.1 (c,p)
  rw [kept,shows_.2]
  exact holds

theorem holdsWord {text : Option String} {v : p.Value} (holds : p.Holds text v) :
    ∃ own, text = some own ∧ Word own.toList := by
  have flag (on : Bool) : Word (if on then "1" else "0").toList := by cases on <;> decide
  cases p with
  | voltage | current | level _ =>
    obtain ⟨own,same,word,-⟩ := holds
    exact ⟨own,same,word⟩
  | output | enabled _ | tripped _ => exact ⟨_,holds,flag v⟩

theorem reads (shows_ : Shows state (supply,c)) (p : Parameter) :
    ∃ text, Takes (simulator upper arithmetic idn) state (.query (p.header ++ "?")) state (some text) ∧
      p.Holds (some text) (supply (c,p)) := by
  have holds := keptShown shows_ p
  obtain ⟨text,same,word⟩ := holdsWord holds
  have mark : Word "?".toList := by decide
  have ask : Word (p.header ++ "?").toList := by
    rw [String.toList_append]
    exact p.hears.word.append mark
  refine ⟨text,asked speaks ask word ?_,same ▸ holds⟩
  have found : (simulator upper arithmetic idn).personality.exactHandlers
      (asking (p.header ++ "?").toList).normalized = some (p.handler upper) := by
    rw [asking,String.toList_append]
    exact p.handlesAsk upper arithmetic
  have query : (asking (p.header ++ "?").toList).isQuery = true := by simp [asking]
  rw [dispatchExact found,Parameter.handler]
  cases p.fallback <;> simp only [passivePut,boolPut,query,same,if_true,Option.getD_some]

theorem stays (shows_ : Shows state (supply,c)) {text : String} {v : p.Value} (holds : p.Holds (some text) v) :
    Shows (entered state p text) (supply.set c p v,c) := by
  obtain ⟨settings,selected⟩ := shows_
  obtain rfl : state.values.selected = c := selected
  exact ⟨showsStore (e := encoding) (s := (state.values.selected,p)) settings holds,rfl⟩

theorem sets (writes : p.writable = true) {arg : List Char} (word : Word arg) {v : p.Value}
    (keeps : ∀ state, ∃ text, p.handler upper (telling p.header.toList arg) state =
      (entered state p text,.returns (.ok .none)) ∧ p.Holds (some text) v) {command : String}
    (same : command.toList = p.header.toList ++ ' ' :: arg) (s : Option Nat) :
    Does (simulator upper arithmetic idn) Shows (write command) s (supply,c) (.ok ()) s (supply.set c p v,c) := by
  apply doesWrite
  intro d shows_
  obtain ⟨text,handled,holds⟩ := keeps d
  have found : (simulator upper arithmetic idn).personality.exactHandlers (telling p.header.toList arg).normalized =
      some (p.handler upper) := p.handlesTell upper arithmetic writes
  exact ⟨_,_,told speaks p.hears.word word same ((dispatchExact found).trans handled),stays shows_ holds⟩

theorem tellsPlain (p : Parameter) (arg : List Char) : (telling p.header.toList arg).isQuery = false := by
  simpa [telling] using p.hears.noMark

theorem setsNumber {fallback : String} (passive : p.fallback = some fallback) (writes : p.writable = true)
    (x : Decimal) {v : p.Value} (holds : p.Holds (some (String.ofList x.text)) v) {command : String}
    (same : command.toList = p.header.toList ++ ' ' :: (written x).toList) (s : Option Nat) :
    Does (simulator upper arithmetic idn) Shows (write command) s (supply,c) (.ok ()) s (supply.set c p v,c) := by
  rw [written,String.toList_ofList] at same
  refine sets writes (textWord x) (fun state => ⟨_,?_,holds⟩) same s
  rw [Parameter.handler,passive]
  simp only [passivePut,tellsPlain,Bool.false_eq_true,if_false]
  rfl

theorem setsFlag (switch : p.fallback = none) (writes : p.writable = true) (on : Bool) {v : p.Value}
    (holds : p.Holds (some (if on then "1" else "0")) v) {command : String}
    (same : command.toList = p.header.toList ++ ' ' :: (onOff on).toList) (s : Option Nat) :
    Does (simulator upper arithmetic idn) Shows (write command) s (supply,c) (.ok ()) s (supply.set c p v,c) := by
  have capital : upper.apply (onOff on).toList = (onOff on).toList := by
    rw [upper.ascii _ (onOffWord on).2]
    cases on <;> decide
  have one : (if (onOff on).toList = "ON".toList ∨ (onOff on).toList = "1".toList then "1" else "0") =
      if on then "1" else "0" := by cases on <;> decide
  refine sets writes (onOffWord on) (fun state => ⟨_,?_,holds⟩) same s
  rw [Parameter.handler,switch]
  simp only [boolPut,tellsPlain,Bool.false_eq_true,if_false]
  show (entered state p (if upper.apply (onOff on).toList = "ON".toList ∨ upper.apply (onOff on).toList = "1".toList
    then "1" else "0"),_) = _
  rw [capital,one]

open RndsNge Supply

def Cached (lastSelected : Option Nat) (c : Channel) : Prop := ∀ id, lastSelected = some id → c.id = id

variable (upper arithmetic idn) in
/- The method ends with `result` and leaves the supply as `next`, whatever was selected before. -/
def Ends {α : Type} (m : Nge α) (supply : Supply) (result : Except Failure α) (next : Supply) : Prop :=
  ∀ s c, Cached s c → ∃ s' c', Cached s' c' ∧
    Does (simulator upper arithmetic idn) Shows m s (supply,c) result s' (next,c')

section
variable {α β : Type} {m : Nge α} {f : α → Nge β} {supply next last : Supply} {result : Except Failure β}

theorem endsPure (a : α) : Ends upper arithmetic idn (pure a) supply (.ok a) supply :=
  fun s c cached => ⟨s,c,cached,doesPure a⟩

theorem endsThrow (e : Failure) : Ends upper arithmetic idn (throw e : Nge α) supply (.error e) supply :=
  fun s c cached => ⟨s,c,cached,doesThrow e⟩

theorem endsBind {a : α} (first : Ends upper arithmetic idn m supply (.ok a) next)
    (rest : Ends upper arithmetic idn (f a) next result last) :
    Ends upper arithmetic idn (m >>= f) supply result last := by
  intro s c cached
  obtain ⟨s',c',cached',ran⟩ := first s c cached
  obtain ⟨s'',c'',cached'',ends⟩ := rest s' c' cached'
  exact ⟨s'',c'',cached'',doesBind ran ends⟩

theorem endsStop {e : Failure} (first : Ends upper arithmetic idn m supply (.error e) next) :
    Ends upper arithmetic idn (m >>= f) supply (.error e) next := by
  intro s c cached
  obtain ⟨s',c',cached',ran⟩ := first s c cached
  exact ⟨s',c',cached',doesStop ran⟩

theorem endsMap {f : α → β} {r : Except Failure α} (first : Ends upper arithmetic idn m supply r next) :
    Ends upper arithmetic idn (f <$> m) supply (r.map f) next := by
  intro s c cached
  obtain ⟨s',c',cached',ran⟩ := first s c cached
  exact ⟨s',c',cached',doesMap ran⟩

theorem endsCatch {handle : Failure → Nge α} {a : α} (first : Ends upper arithmetic idn m supply (.ok a) next) :
    Ends upper arithmetic idn (tryCatch m handle) supply (.ok a) next := by
  intro s c cached
  obtain ⟨s',c',cached',ran⟩ := first s c cached
  exact ⟨s',c',cached',doesCatch ran⟩

end

def outText (c : Channel) : List Char := "OUT".toList ++ (toString c.id).toList

theorem outHeard (c : Channel) : Word (outText c) ∧ (outText c).map Char.toUpper = outText c ∧ outIn (outText c) = c := by
  cases c <;> decide

theorem selects (c other : Channel) (s : Option Nat) :
    Does (simulator upper arithmetic idn) Shows (write s!"INSTrument:SELect OUT{other.id}") s (supply,c) (.ok ()) s
      (supply,other) := by
  have word : Word "INSTrument:SELect".toList := by decide
  obtain ⟨target,capital,found⟩ := outHeard other
  have heard : normal "INSTrument:SELect".toList = "INSTRUMENT:SELECT".toList := by decide
  apply doesWrite
  intro d shows_
  have handler : (simulator upper arithmetic idn).personality.exactHandlers
      (telling "INSTrument:SELect".toList (outText other)).normalized = some (setSelected upper) := by
    rw [telling,heard]
    rfl
  refine ⟨_,_,told speaks word target (by simp [toString,outText]) (dispatchExact handler),shows_.1,?_⟩
  show outIn (upper.apply (outText other)) = other
  rw [upper.ascii _ target.2,capital,found]

theorem idsApart {c c' : Channel} (same : c.id = c'.id) : c = c' := by cases c <;> cases c' <;> trivial

theorem doesSelect {n : Int} {other : Channel} (asserted : assertChannel profile n = .ok other.id) {s : Option Nat}
    (cached : Cached s c) : ∃ s', Cached s' other ∧
      Does (simulator upper arithmetic idn) Shows (select profile n) s (supply,c) (.ok other.id) s'
        (supply,other) := by
  unfold select
  rw [asserted]
  by_cases known : s = some other.id
  · obtain rfl := idsApart (cached _ known)
    refine ⟨s,cached,doesBind (doesPure _) (doesLoad ?_)⟩
    rw [if_pos known]
    exact doesPure _
  · refine ⟨some other.id,fun id same => Option.some.inj same,doesBind (doesPure _) (doesLoad ?_)⟩
    rw [if_neg known]
    exact doesBind (selects c other s) (doesBind (doesChange fun _ => some other.id) (doesPure _))

theorem endsSelected {β : Type} {f : Nat → Nge β} {result : Except Failure β} {next : Supply} {n : Int}
    (asserted : assertChannel profile n = .ok c.id)
    (rest : ∀ s, Does (simulator upper arithmetic idn) Shows (f c.id) s (supply,c) result s (next,c)) :
    Ends upper arithmetic idn (select profile n >>= f) supply result next := by
  intro s c' cached
  obtain ⟨s',cached',selected⟩ := @doesSelect _ _ _ _ _ _ _ c asserted _ cached
  exact ⟨s',c,cached',doesBind selected (rest s')⟩

theorem endsRefused {β : Type} {f : Nat → Nge β} {n : Int} {e : Failure}
    (refused : assertChannel profile n = .error e) :
    Ends upper arithmetic idn (select profile n >>= f) supply (.error e) supply := by
  unfold select
  rw [refused]
  exact endsStop (endsStop (endsThrow e))

def queriesOf (parameters : List Parameter) : List String := parameters.map fun p => p.header ++ "?"

def measureQueries : List String := ["MEASure:SCALar:VOLTage?", "MEASure:SCALar:CURRent?"]

def measuredTexts (arithmetic : Arithmetic) (supply : Supply) (c : Channel) : List String :=
  if supply (c,.output) then [arithmetic.fixed (some (supply (c,.voltage))),"0.1000"] else ["0.0000","0.0000"]

theorem onShown (shows_ : Shows state (supply,c)) : isOn state ↔ supply (c,.output) = true := by
  have holds := keptShown shows_ .output
  have kept : kept state .output = some (if supply (c,.output) then "1" else "0") := holds
  rw [isOn,kept,Option.getD_some]
  cases supply (c,.output) <;> simp

theorem measures (shows_ : Shows state (supply,c)) :
    Answers (simulator upper arithmetic idn) state measureQueries (measuredTexts arithmetic supply c) := by
  have heard : (Word "MEASure:SCALar:VOLTage?".toList ∧ Word "MEASure:SCALar:CURRent?".toList) ∧
      normal "MEASure:SCALar:VOLTage?".toList = "MEASURE:SCALAR:VOLTAGE?".toList ∧
      normal "MEASure:SCALar:CURRent?".toList = "MEASURE:SCALAR:CURRENT?".toList := by decide
  obtain ⟨⟨voltageWord,currentWord⟩,voltageHeard,currentHeard⟩ := heard
  have voltageFound : (simulator upper arithmetic idn).personality.exactHandlers
      (asking "MEASure:SCALar:VOLTage?".toList).normalized = some (measureVoltage arithmetic) := by
    rw [asking,voltageHeard]
    rfl
  have currentFound : (simulator upper arithmetic idn).personality.exactHandlers
      (asking "MEASure:SCALar:CURRent?".toList).normalized = some measureCurrent := by
    rw [asking,currentHeard]
    rfl
  obtain ⟨text,kept,-,number⟩ := keptShown shows_ .voltage
  have zero : Word "0.0000".toList := by decide
  have some_ : Word "0.1000".toList := by decide
  have on := onShown shows_
  unfold measuredTexts
  cases output : supply (c,.output) with
  | true =>
    rw [output] at on
    refine .cons (asked speaks voltageWord (arithmetic.word _) ((dispatchExact voltageFound).trans ?_))
      (.cons (asked speaks currentWord some_ ((dispatchExact currentFound).trans ?_)) .nil)
    · rw [measureVoltage,kept,Option.getD_some,number,if_pos (on.mpr rfl)]
    · rw [measureCurrent,if_pos (on.mpr rfl)]
  | false =>
    rw [output] at on
    refine .cons (asked speaks voltageWord zero ((dispatchExact voltageFound).trans ?_))
      (.cons (asked speaks currentWord zero ((dispatchExact currentFound).trans ?_)) .nil)
    · rw [measureVoltage,if_neg (by simp [on])]
    · rw [measureCurrent,if_neg (by simp [on])]

theorem answersOf (shows_ : Shows state (supply,c)) : ∃ reply : Parameter → String,
    (∀ p : Parameter, p.Holds (some (reply p)) (supply (c,p))) ∧
      ∀ parameters,
        Answers (simulator upper arithmetic idn) state (queriesOf parameters) (parameters.map reply) := by
  choose reply answered holds using @reads upper arithmetic idn state supply c shows_
  refine ⟨reply,holds,fun parameters => ?_⟩
  rw [Answers,queriesOf,List.forall₂_map_left_iff,List.forall₂_map_right_iff]
  exact List.forall₂_same.mpr fun p _ => answered p

theorem flagHeld {text : String} {on : Bool} (holds : some text = some (if on then "1" else "0")) :
    RndsNge.parseBool upper text = on := by
  obtain rfl := Option.some.inj holds
  have word : Word (if on then "1" else "0").toList := by cases on <;> decide
  rw [RndsNge.parseBool,foldsWord upper word]
  cases on <;> decide

theorem measuredRead : ∃ volts amps, measuredTexts arithmetic supply c = [volts,amps] ∧
    parseNumberOrZero volts = supply.measuredVoltage arithmetic c ∧
      parseNumberOrZero amps = supply.measuredCurrent c := by
  have none_ : parseNumberOrZero "0.0000" = zero := by decide
  have some_ : parseNumberOrZero "0.1000" = literal "0.1" := by decide
  unfold measuredTexts measuredVoltage measuredCurrent
  cases supply (c,.output) with
  | true => exact ⟨_,_,rfl,rfl,some_⟩
  | false => exact ⟨_,_,rfl,none_,none_⟩

theorem endsReadChannel {n : Int} (asserted : assertChannel profile n = .ok c.id) :
    Ends upper arithmetic idn (readChannel upper profile n) supply (.ok (supply.channelState arithmetic profile c))
      supply := by
  have asks : statusQueries = queriesOf [.voltage,.current] ++ measureQueries ++ queriesOf [.output] := by
    decide
  refine endsSelected asserted fun s => doesAskSafely (P := fun texts => ∃ reply : Parameter → String,
    (∀ p : Parameter, p.Holds (some (reply p)) (supply (c,p))) ∧
      texts = [reply .voltage,reply .current] ++ measuredTexts arithmetic supply c ++ [reply .output])
    (fun d shows_ => ?_) ?_
  · obtain ⟨reply,holds,answered⟩ := @answersOf upper arithmetic idn d supply c shows_
    rw [asks]
    exact ⟨_,List.rel_append (List.rel_append (answered _) (measures shows_)) (answered _),reply,holds,rfl⟩
  · rintro _ ⟨reply,holds,rfl⟩
    have voltage : parseNumberOrZero (reply .voltage) = supply (c,.voltage) := numberHeld (holds .voltage)
    have current : parseNumberOrZero (reply .current) = supply (c,.current) := numberHeld (holds .current)
    have output : RndsNge.parseBool upper (reply .output) = supply (c,.output) := flagHeld (holds .output)
    obtain ⟨volts,amps,texts,voltageRead,currentRead⟩ := @measuredRead arithmetic supply c
    rw [texts,channelState,← voltage,← current,← voltageRead,← currentRead,← output]
    exact doesPure _

theorem doesMeasure (s : Option Nat) :
    Does (simulator upper arithmetic idn) Shows (do
        let replies ← safeQueries ["MEASure:SCALar:VOLTage?", "MEASure:SCALar:CURRent?"]
        let voltage := parseNumberOrZero (replies.getD 0 "")
        let current := parseNumberOrZero (replies.getD 1 "")
        pure (Measurement.mk c.id voltage current (arithmetic.power voltage current)))
      s (supply,c) (.ok (supply.measurement arithmetic c)) s (supply,c) := by
  refine doesAskSafely (P := fun texts => texts = measuredTexts arithmetic supply c)
    (fun d shows_ => ⟨_,measures shows_,rfl⟩) ?_
  rintro _ rfl
  obtain ⟨volts,amps,texts,voltageRead,currentRead⟩ := @measuredRead arithmetic supply c
  rw [texts,measurement,← voltageRead,← currentRead]
  exact doesPure _

theorem doesProtection (kind : PsuProtectionKind) (s : Option Nat) :
    Does (simulator upper arithmetic idn) Shows (do
        let replies ← safeQueries (protectionQueries kind)
        pure (ProtectionState.mk (RndsNge.parseBool upper (replies.getD 1 "")) (parseNumberOrZero (replies.getD 0 ""))
          (RndsNge.parseBool upper (replies.getD 2 "")) (range arithmetic profile c.id kind)))
      s (supply,c) (.ok (supply.protection arithmetic profile c kind)) s (supply,c) := by
  have asks : protectionQueries kind = queriesOf [.level kind,.enabled kind,.tripped kind] := by
    cases kind <;> decide
  rw [asks]
  refine doesAskSafely (P := fun texts => ∃ reply : Parameter → String,
    (∀ p : Parameter, p.Holds (some (reply p)) (supply (c,p))) ∧
      texts = [reply (.level kind),reply (.enabled kind),reply (.tripped kind)])
    (fun d shows_ => ?_) ?_
  · obtain ⟨reply,holds,answered⟩ := @answersOf upper arithmetic idn d supply c shows_
    exact ⟨_,answered _,reply,holds,rfl⟩
  · rintro _ ⟨reply,holds,rfl⟩
    have level : parseNumberOrZero (reply (.level kind)) = supply (c,.level kind) := numberHeld (holds (.level kind))
    have enabled : RndsNge.parseBool upper (reply (.enabled kind)) = supply (c,.enabled kind) :=
      flagHeld (holds (.enabled kind))
    have tripped : RndsNge.parseBool upper (reply (.tripped kind)) = supply (c,.tripped kind) :=
      flagHeld (holds (.tripped kind))
    rw [protection,← level,← enabled,← tripped]
    exact doesPure _

theorem doesOutput (enabled : Bool) (s : Option Nat) :
    Does (simulator upper arithmetic idn) Shows (write s!"OUTPut:STATe {onOff enabled}") s (supply,c) (.ok ()) s
      (supply.set c .output enabled,c) :=
  setsFlag (p := .output) rfl rfl enabled rfl (by simp [Parameter.header,toString]) s

theorem numberStored (x : Decimal) : ∃ own : String, some (String.ofList x.text) = some own ∧ Word own.toList ∧
    parseFloat own.toList = some x := by
  refine ⟨_,rfl,?_,?_⟩
  · rw [String.toList_ofList]
    exact textWord x
  · rw [String.toList_ofList]
    exact numberRead x

theorem clearHeard (kind : PsuProtectionKind) : Word (base kind ++ ":PROTection:CLEar").toList ∧
    exactHandlers upper arithmetic (normal (base kind ++ ":PROTection:CLEar").toList) = some (clearTrip kind) := by
  have heard : normal (base .ovp ++ ":PROTection:CLEar").toList = "SOURCE:VOLTAGE:PROTECTION:CLEAR".toList ∧
      normal (base .ocp ++ ":PROTection:CLEar").toList = "SOURCE:CURRENT:PROTECTION:CLEAR".toList := by decide
  cases kind with
  | ovp =>
    refine ⟨by decide,?_⟩
    rw [heard.1]
    rfl
  | ocp =>
    refine ⟨by decide,?_⟩
    rw [heard.2]
    rfl

theorem doesClear (kind : PsuProtectionKind) (s : Option Nat) :
    Does (simulator upper arithmetic idn) Shows (write s!"{base kind}:PROTection:CLEar") s (supply,c) (.ok ()) s
      (supply.set c (.tripped kind) false,c) := by
  obtain ⟨word,found⟩ := @clearHeard upper arithmetic kind
  apply doesWrite
  intro d shows_
  have cleared : Parameter.Holds (.tripped kind) (some "0") false := rfl
  exact ⟨_,_,toldBare speaks word ((dispatchExact found).trans rfl),stays shows_ cleared⟩

theorem endsHere {α : Type} {m : Nge α} {result : Except Failure α} {next : Supply}
    (does : ∀ s c, Does (simulator upper arithmetic idn) Shows m s (supply,c) result s (next,c)) :
    Ends upper arithmetic idn m supply result next := fun s c cached => ⟨s,c,cached,does s c⟩

theorem doesSlot {head : String} (known : head ∈ ["*SAV","*RCL"]) (slot : Nat) {command : String}
    (same : command.toList = head.toList ++ ' ' :: (toString slot).toList) (s : Option Nat) :
    Does (simulator upper arithmetic idn) Shows (write command) s (supply,c) (.ok ()) s (supply,c) := by
  have heard : ∀ head ∈ ["*SAV","*RCL"], Word head.toList ∧ normal head.toList = head.toList := by decide
  obtain ⟨word,plain⟩ := heard head known
  have found : (simulator upper arithmetic idn).personality.exactHandlers
      (telling head.toList (toString slot).toList).normalized = some (answers .none) := by
    rw [telling,plain]
    rcases List.mem_pair.mp known with rfl | rfl <;> rfl
  apply doesWrite
  intro d shows_
  exact ⟨_,_,told speaks word (countWord slot) same (dispatchExact found),shows_⟩

theorem endsPreset {head : String} (known : head ∈ ["*SAV","*RCL"]) (slot : Int) :
    Ends upper arithmetic idn (do MonadExcept.ofExcept (assertSlot profile slot); write s!"{head} {slot}") supply
      (assertSlot profile slot) supply := by
  unfold assertSlot
  split
  · exact endsStop (endsThrow _)
  · rename_i inside
    obtain ⟨n,rfl⟩ := Int.eq_ofNat_of_zero_le (by omega : 0 ≤ slot)
    exact endsBind (endsPure ()) (endsHere fun s c => doesSlot known n (countText head n) s)

theorem slotAsserted (n : Int) : Supply.slot profile n = (assertSlot profile n).map fun _ => .done := by
  unfold Supply.slot assertSlot
  by_cases inside : 0 ≤ n ∧ n < profile.presetSlots
  · rw [if_pos inside,if_neg (by omega)]
    rfl
  · rw [if_neg inside,if_pos (by omega)]
    rfl

def Fits (profile : NgeProfile) : Prop := ∀ id ∈ channelIds profile, ∃ c : Channel, c.id = id

theorem channelsNumbered (fits : Fits profile) : (channels profile).map Channel.id = channelIds profile := by
  have each (ids : List Nat) (own : ∀ id ∈ ids, ∃ c : Channel, c.id = id) :
      (ids.filterMap fun id => [Channel.out1,.out2,.out3].find? fun c => c.id = id).map Channel.id = ids := by
    induction ids with
    | nil => rfl
    | cons id rest ih =>
      obtain ⟨c,rfl⟩ := own id (.head _)
      have found : [Channel.out1,.out2,.out3].find? (fun own => own.id = c.id) = some c := by cases c <;> decide
      simp only [List.filterMap_cons,found,List.map_cons,ih fun id inside => own id (.tail _ inside)]
  exact each _ fits

theorem assertOwn (fits : Fits profile) (there : c ∈ channels profile) :
    assertChannel profile c.id = .ok c.id := by
  have inside : c.id ∈ channelIds profile := by
    rw [← channelsNumbered fits]
    exact List.mem_map_of_mem there
  exact if_pos ⟨Int.natCast_nonneg _,inside⟩

theorem assertedAt (fits : Fits profile) (n : Int) :
    assertChannel profile n = (channelAt profile n).map Channel.id := by
  unfold channelAt
  cases found : (channels profile).find? fun c => c.id = n with
  | some c =>
    have same : c.id = n := by simpa using List.find?_some found
    rw [← same]
    exact assertOwn fits (List.mem_of_find?_eq_some found)
  | none =>
    refine if_neg ?_
    rintro ⟨positive,inside⟩
    rw [← channelsNumbered fits] at inside
    obtain ⟨c,there,same⟩ := List.mem_map.mp inside
    have other := List.find?_eq_none.mp found c there
    rw [decide_eq_true_eq] at other
    omega

theorem endsOn {β : Type} {f : Nat → Nge β} {wrap : β → Result} {n : Int} {next : Channel → Supply × Result}
    (fits : Fits profile) (rest : ∀ c, ∃ b, wrap b = (next c).2 ∧
      ∀ s, Does (simulator upper arithmetic idn) Shows (f c.id) s (supply,c) (.ok b) s ((next c).1,c)) :
    Ends upper arithmetic idn (wrap <$> (select profile n >>= f)) supply (supply.on profile n next).2
      (supply.on profile n next).1 := by
  have asserted := assertedAt fits n
  unfold Supply.on
  cases at_ : channelAt profile n with
  | ok c =>
    rw [at_] at asserted
    obtain ⟨b,same,ran⟩ := rest c
    have mapped := endsMap (f := wrap) (endsSelected asserted ran)
    rwa [Except.map,same] at mapped
  | error e =>
    rw [at_] at asserted
    exact endsMap (endsRefused asserted)

theorem endsAll {γ α : Type} {f : γ → Nge α} {g : γ → α} {xs : List γ}
    (each : ∀ x ∈ xs, Ends upper arithmetic idn (f x) supply (.ok (g x)) supply) :
    Ends upper arithmetic idn (xs.mapM f) supply (.ok (xs.map g)) supply := by
  induction xs with
  | nil => exact endsPure []
  | cons x xs ih =>
    rw [List.mapM_cons]
    exact endsBind (each x (.head _)) (endsBind (ih fun x inside => each x (.tail _ inside)) (endsPure _))

theorem endsGetChannels (fits : Fits profile) : Ends upper arithmetic idn (getChannels upper profile) supply
    (.ok ((channels profile).map (supply.channelState arithmetic profile))) supply := by
  rw [getChannels,← channelsNumbered fits,List.mapM_map]
  exact endsAll fun c there => endsReadChannel (assertOwn fits there)

theorem endsEach (fits : Fits profile) {listed : List Channel} (there : ∀ c ∈ listed, c ∈ channels profile) :
    Ends upper arithmetic idn (@disableEach _ _ caught (fun id => setChannelOutput profile id false)
        (listed.map Channel.id)) supply (.ok (listed.map fun c => s!"CH{c.id}",[])) (off listed supply) := by
  induction listed generalizing supply with
  | nil => exact endsPure _
  | cons c rest ih =>
    have own := assertOwn fits (there c (.head _))
    refine endsBind (endsCatch (endsBind (endsSelected own fun s => doesOutput false s) (endsPure _))) ?_
    exact endsBind (ih fun c inside => there c (.tail _ inside)) (endsPure _)

theorem endsKill (fits : Fits profile) : Ends upper arithmetic idn (disableAllOutputs upper profile) supply
    (.ok ⟨.ok,(channels profile).map fun c => s!"CH{c.id}",[]⟩) (off (channels profile) supply) := by
  have ids : ((channels profile).map (supply.channelState arithmetic profile)).map ChannelState.id =
      (channels profile).map Channel.id := by
    rw [List.map_map]
    rfl
  have each := @endsEach upper arithmetic profile idn supply fits (channels profile) fun _ there => there
  rw [← ids] at each
  exact endsBind (endsPure []) (endsBind (endsCatch (endsBind (endsMap (endsGetChannels fits)) each))
    (endsPure (killResult _ [])))

theorem initialShown : Shows (personality upper arithmetic).initialState (Supply.initial,.out1) := by
  refine ⟨?_,rfl⟩
  rintro ⟨c,p⟩
  cases p with
  | voltage => cases c <;> refine ⟨_,rfl,?_,?_⟩ <;> decide
  | current => cases c <;> refine ⟨_,rfl,?_,?_⟩ <;> decide
  | level kind => cases kind <;> cases c <;> refine ⟨_,rfl,?_,?_⟩ <;> decide
  | output | enabled kind | tripped kind => rfl

theorem callEnds (fits : Fits profile) (call : Call) :
    Ends upper arithmetic idn (RndsNge.method upper arithmetic profile call) supply
      (supply.call arithmetic profile call).2 (supply.call arithmetic profile call).1 := by
  cases call with
  | getChannels => exact endsMap (endsGetChannels fits)
  | setChannelOutput n enabled => exact endsOn fits fun c => ⟨(),rfl,doesOutput enabled⟩
  | setChannelVoltage n volts =>
    exact endsOn fits fun c => ⟨(),rfl,
      setsNumber (p := .voltage) rfl rfl volts (numberStored volts) (by simp [Parameter.header,toString])⟩
  | setChannelCurrent n amps =>
    exact endsOn fits fun c => ⟨(),rfl,
      setsNumber (p := .current) rfl rfl amps (numberStored amps) (by simp [Parameter.header,toString])⟩
  | measureChannel n => exact endsOn fits fun c => ⟨_,rfl,doesMeasure⟩
  | getProtection n kind => exact endsOn fits fun c => ⟨_,rfl,doesProtection kind⟩
  | setProtectionEnabled n kind enabled =>
    exact endsOn fits fun c => ⟨(),rfl,
      setsFlag (p := .enabled kind) rfl rfl enabled rfl (by simp [Parameter.header,toString])⟩
  | setProtectionLevel n kind level =>
    cases kind <;> exact endsOn fits fun c => ⟨(),rfl,
      setsNumber (p := .level _) rfl rfl level (numberStored level) (by simp [Parameter.header,toString])⟩
  | clearProtectionTrip n kind => exact endsOn fits fun c => ⟨(),rfl,doesClear kind⟩
  | getPresetCatalog =>
    have slots : RndsNge.getPresetCatalog profile = catalog profile := by
      simp [RndsNge.getPresetCatalog,catalog,List.map_const']
    rw [Supply.call,← slots]
    exact endsPure _
  | savePreset n =>
    rw [Supply.call,slotAsserted]
    exact endsMap (endsPreset List.mem_cons_self n)
  | recallPreset n =>
    rw [Supply.call,slotAsserted]
    exact endsMap (endsPreset (List.mem_cons_of_mem _ List.mem_cons_self) n)
  | disableAllOutputs => exact endsMap (endsKill fits)

end

section
variable (upper : UpperCase) (arithmetic : Arithmetic) (profile : NgeProfile) (idn : String)

def Held (lastSelected : Option Nat) (state : SessionState State) (supply : Supply) : Prop :=
  ∃ c, Cached lastSelected c ∧ Shows state (supply,c)

theorem initialHeld : Held none (personality upper arithmetic).initialState Supply.initial := by
  have nothing : Cached none .out1 := fun _ none_ => by cases none_
  exact ⟨.out1,nothing,initialShown⟩

def drive (held : Option Nat × SessionState State) (call : Call) :
    (Option Nat × SessionState State) × Except Failure Result :=
  let left := runAlone (port (simulator upper arithmetic idn)) (RndsNge.method upper arithmetic profile call).run
    held.1 held.2
  ((left.shared,left.world),left.result)

/-- A run of calls from switch-on returns what the supply without a selection returns of it. -/
theorem drivenSupply (fits : Fits profile) (calls : List Call) :
    returned (drive upper arithmetic profile idn) (none,(personality upper arithmetic).initialState) calls =
      returned (Supply.call arithmetic profile) Supply.initial calls := by
  have alike (held : Option Nat × SessionState State) (supply : Supply) (call : Call)
      (shows_ : Held held.1 held.2 supply) :
      (drive upper arithmetic profile idn held call).2 = (supply.call arithmetic profile call).2 ∧
        Held (drive upper arithmetic profile idn held call).1.1 (drive upper arithmetic profile idn held call).1.2
          (supply.call arithmetic profile call).1 := by
    obtain ⟨c,cached,shown⟩ := shows_
    obtain ⟨s,c',cached',does⟩ := @callEnds upper arithmetic profile idn supply fits call held.1 c cached
    obtain ⟨next,ran,shown'⟩ := does held.2 shown
    rw [drive,ran.left]
    exact ⟨rfl,c',cached',shown'⟩
  exact returnedAlike alike (initialHeld upper arithmetic) calls

end

def nge103b : NgeProfile where
  variant := "NGE103B"
  channels := [1,2,3].map fun id => ⟨id,s!"OUT{id}",literal "32",literal "3"⟩
  presetSlots := 10

theorem nge103bFits : Fits nge103b := by
  have ids : RndsNge.channelIds nge103b = [1,2,3] := rfl
  intro id listed
  rw [ids] at listed
  simp only [List.mem_cons,List.not_mem_nil,or_false] at listed
  rcases listed with rfl | rfl | rfl
  · exact ⟨.out1,rfl⟩
  · exact ⟨.out2,rfl⟩
  · exact ⟨.out3,rfl⟩

def bench : Arithmetic where
  raised x := if x = literal "32" then literal "35.2" else literal "3.3000000000000003"
  power volts _ := if volts = literal "12" then literal "1.2000000000000002" else literal "0"
  fixed x := if x = some (literal "12") then "12.0000" else if x = some (literal "5") then "5.0000" else "0.0000"
  word x := by
    split
    · decide
    · split <;> decide

def twoChannels : List Call :=
  [.setChannelVoltage 1 (literal "12"),.setChannelOutput 1 true,.setChannelCurrent 2 (literal "0.25"),
    .measureChannel 1,.getChannels,.setChannelOutput 4 true,.getProtection 2 .ovp,.disableAllOutputs]

theorem drivenSupplyTwoChannels :
    returned (drive asciiUpper bench nge103b "Rohde&Schwarz,NGE103B,0,FV:1.42")
        (none,(personality asciiUpper bench).initialState) twoChannels =
      returned (Supply.call bench nge103b) Supply.initial twoChannels :=
  drivenSupply asciiUpper bench nge103b _ nge103bFits twoChannels

end LxiWeb.SimulatedSupply
