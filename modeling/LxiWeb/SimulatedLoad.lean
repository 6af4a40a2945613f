import Mathlib.Data.List.Nodup
import LxiWeb.SimulatedCommands
import LxiWeb.StoredSettings

/-! The DL3000 driver on a simulated DL3021: from switch-on, every run of calls returns what an electronic
load returns that keeps its settings as numbers, switches and modes. -/
namespace LxiWeb.SimulatedLoad
open JsDecimals JsText KeyedWrites OutputKill ReplyTexts ScpiCalls SimulatedCommands SimulatorReplies StoredSettings
open CallRuns (require runAlone)
open SdgWaveforms (UpperCase written)
open SimulatorFraming (ParsedCommand)

inductive Mode where
  | cc | cv | cr | cp
  deriving DecidableEq, Repr

inductive ProtectionKind where
  | ovp | ocp | opp | otp
  deriving DecidableEq, Repr

inductive BatteryMode where
  | cc | cr | cp
  deriving DecidableEq, Repr

inductive StopReason where
  | user | voltage | capacity | time
  deriving DecidableEq, Repr

structure Range where
  min : Decimal
  max : Decimal
  deriving DecidableEq

structure Limits where
  voltageMax : Decimal
  currentMax : Decimal
  powerMax : Decimal
  resistanceRange : Range
  deriving DecidableEq

structure Setpoints where
  cc : Decimal
  cv : Decimal
  cr : Decimal
  cp : Decimal
  deriving DecidableEq

structure Measurement where
  voltage : Decimal
  current : Decimal
  power : Decimal
  resistance : Decimal
  deriving DecidableEq

structure ProtectionState where
  enabled : Bool
  level : Decimal
  tripped : Bool
  range : Range
  deriving DecidableEq

structure DynamicConfig where
  levelA : Decimal
  levelB : Decimal
  timeA : Decimal
  timeB : Decimal
  slewRate : Decimal
  frequencyHz : Decimal
  enabled : Bool
  deriving DecidableEq

structure BatteryConfig where
  mode : BatteryMode
  level : Decimal
  cutoffVoltage : Decimal
  cutoffCapacity : Decimal
  cutoffTimeSec : Decimal
  deriving DecidableEq

structure BatteryState where
  running : Bool
  config : BatteryConfig
  elapsedSec : Decimal
  capacity : Decimal
  energy : Decimal
  stoppedBy : Option StopReason
  deriving DecidableEq

structure LoadState where
  enabled : Bool
  mode : Mode
  setpoints : Setpoints
  measurement : Measurement
  limits : Limits
  deriving DecidableEq

inductive Result where
  | done
  | state (s : LoadState)
  | setpoints (s : Setpoints)
  | measurement (m : Measurement)
  | protection (s : ProtectionState)
  | dynamic (c : DynamicConfig)
  | battery (s : BatteryState)
  | catalog (slots : List Bool)
  | kill (result : OutputKillResult)
  deriving DecidableEq

inductive Call where
  | getState
  | setInputEnabled (enabled : Bool)
  | setMode (mode : Mode)
  | setSetpoint (mode : Mode) (value : Decimal)
  | getSetpoints
  | measure
  | getProtection (kind : ProtectionKind)
  | setProtectionEnabled (kind : ProtectionKind) (enabled : Bool)
  | setProtectionLevel (kind : ProtectionKind) (level : Decimal)
  | clearProtectionTrip (kind : ProtectionKind)
  | getDynamicConfig
  | setDynamicConfig (config : DynamicConfig)
  | getBatteryState
  | startBattery (config : BatteryConfig)
  | stopBattery
  | getPresetCatalog
  | savePreset (slot : Int)
  | recallPreset (slot : Int)
  | disableAllOutputs
  deriving DecidableEq

structure Dl3000Profile where
  limits : Limits
  presetSlots : Int

/- Floating point: the numbers, what `parseFloat` rounds to (of no numeral, `NaN`), the operators and
`toFixed(6)`. `frequencyHz` is the driver's `1 / (timeA + timeB)`. -/
structure Arithmetic where
  F : Type
  number : Option Decimal → F
  mul : F → F → F
  div : F → F → F
  min : F → F → F
  max : F → F → F
  positive : F → Bool
  fixed : F → String
  word : ∀ x, Word (fixed x).toList
  frequencyHz : Decimal → Decimal → Decimal

def Arithmetic.constant (arithmetic : Arithmetic) (text : String) : arithmetic.F :=
  arithmetic.number (some (literal text))

namespace RigolDl3000

variable (upper : UpperCase) (arithmetic : Arithmetic) (profile : Dl3000Profile)

def encodeMode : Mode → String
  | .cc => "CURRent"
  | .cv => "VOLTage"
  | .cr => "RESistance"
  | .cp => "POWer"

def scpiMode : Mode → String := encodeMode

def decodeMode (raw : String) : Mode :=
  let v := folded upper raw
  if "VOLT".toList.isPrefixOf v then .cv
  else if "RES".toList.isPrefixOf v then .cr
  else if "POW".toList.isPrefixOf v then .cp
  else .cc

def encodeBatteryMode : BatteryMode → String
  | .cc => "CURRent"
  | .cr => "RESistance"
  | .cp => "POWer"

def decodeBatteryMode (raw : String) : BatteryMode :=
  let v := folded upper raw
  if "RES".toList.isPrefixOf v then .cr
  else if "POW".toList.isPrefixOf v then .cp
  else .cc

def decodeStopReason (raw : String) : Option StopReason :=
  let v := String.ofList (folded upper raw)
  if v = "VOLT" ∨ v = "VOLTAGE" then some .voltage
  else if v = "CAP" ∨ v = "CAPACITY" then some .capacity
  else if v = "TIME" ∨ v = "TIMER" then some .time
  else if v = "USER" ∨ v = "MANUAL" then some .user
  else none

-- of a kind that is not `otp`
def protPrefix : ProtectionKind → String
  | .ovp => ":SOURce:VOLTage:PROTection"
  | .ocp => ":SOURce:CURRent:PROTection"
  | .opp | .otp => ":SOURce:POWer:PROTection"

-- `kind.toUpperCase()`
def kindName : ProtectionKind → String
  | .ovp => "OVP"
  | .ocp => "OCP"
  | .opp => "OPP"
  | .otp => "OTP"

def zero : Decimal := literal "0"

def range : ProtectionKind → Range
  | .ovp => ⟨zero,profile.limits.voltageMax⟩
  | .ocp => ⟨zero,profile.limits.currentMax⟩
  | .opp => ⟨zero,profile.limits.powerMax⟩
  | .otp => ⟨zero,literal "120"⟩

abbrev Dl3000 := DriverMethod Unit

def measurementOf (value : Nat → Decimal) : Measurement := ⟨value 0,value 1,value 2,value 3⟩

def setpointsOf (value : Nat → Decimal) : Setpoints := ⟨value 0,value 1,value 2,value 3⟩

def setpointQueries : List String :=
  [":SOURce:CURRent:LEVel:IMMediate?", ":SOURce:VOLTage:LEVel:IMMediate?", ":SOURce:RESistance:LEVel:IMMediate?",
    ":SOURce:POWer:LEVel:IMMediate?"]

def measureQueries : List String :=
  [":MEASure:VOLTage?", ":MEASure:CURRent?", ":MEASure:POWer?", ":MEASure:RESistance?"]

/- The queries of `getSetpoints` and `measure` are sent behind the two of the state itself. -/
def getState : Dl3000 LoadState := do
  let replies ← queryAll ([":SOURce:INPut:STATe?", ":SOURce:FUNCtion?"] ++ setpointQueries ++ measureQueries)
  let value (i : Nat) := parseNumberOrZero (replies.getD i "")
  pure { enabled := parseBool (replies.getD 0 ""), mode := decodeMode upper (replies.getD 1 "")
         setpoints := setpointsOf fun i => value (2 + i), measurement := measurementOf fun i => value (6 + i)
         limits := profile.limits }

def setInputEnabled (enabled : Bool) : Dl3000 Unit := write s!":SOURce:INPut:STATe {onOff enabled}"

def setMode (mode : Mode) : Dl3000 Unit := write s!":SOURce:FUNCtion {encodeMode mode}"

def validateSetpoint (mode : Mode) (value : Decimal) : Except Failure Unit :=
  if Decimal.lt value zero then .error (.rangeError "setpoint must be a non-negative finite number")
  else
    let limits := profile.limits
    match mode with
    | .cc =>
        if Decimal.lt limits.currentMax value then
          .error (.rangeError s!"CC {written value} > {written limits.currentMax}A")
        else .ok ()
    | .cv =>
        if Decimal.lt limits.voltageMax value then
          .error (.rangeError s!"CV {written value} > {written limits.voltageMax}V")
        else .ok ()
    | .cp =>
        if Decimal.lt limits.powerMax value then
          .error (.rangeError s!"CP {written value} > {written limits.powerMax}W")
        else .ok ()
    | .cr =>
        let r := limits.resistanceRange
        if Decimal.lt value r.min ∨ Decimal.lt r.max value then
          .error (.rangeError s!"CR {written value} outside {written r.min}..{written r.max}Ω")
        else .ok ()

def checked (check : Except Failure Unit) : Dl3000 Unit :=
  match check with
  | .ok _ => pure ()
  | .error e => throw e

def setSetpoint (mode : Mode) (value : Decimal) : Dl3000 Unit := do
  checked (validateSetpoint profile mode value)
  write s!":SOURce:{scpiMode mode}:LEVel:IMMediate {written value}"

def getSetpoints : Dl3000 Setpoints := do
  let replies ← queryAll setpointQueries
  pure (setpointsOf fun i => parseNumberOrZero (replies.getD i ""))

def measure : Dl3000 Measurement := do
  let replies ← queryAll measureQueries
  pure (measurementOf fun i => parseNumberOrZero (replies.getD i ""))

def getProtection (kind : ProtectionKind) : Dl3000 ProtectionState := do
  let range := range profile kind
  if kind = .otp then
    let tripped ← query ":SYSTem:OTP?"
    pure ⟨true,range.max,parseBool tripped,range⟩
  else
    let head := protPrefix kind
    let replies ← queryAll [s!"{head}:STATe?", s!"{head}:LEVel?", s!"{head}:TRIPped?"]
    pure ⟨parseBool (replies.getD 0 ""),parseNumberOrZero (replies.getD 1 ""),parseBool (replies.getD 2 ""),range⟩

def setProtectionEnabled (kind : ProtectionKind) (enabled : Bool) : Dl3000 Unit := do
  if kind = .otp then throw (.rangeError "OTP is always enabled on DL3000")
  else write s!"{protPrefix kind}:STATe {onOff enabled}"

def validateLevel (kind : ProtectionKind) (level : Decimal) : Except Failure Unit :=
  let range := range profile kind
  if Decimal.lt level range.min ∨ Decimal.lt range.max level then
    .error (.rangeError s!"{kindName kind} level {written level} outside {written range.min}..{written range.max}")
  else .ok ()

def setProtectionLevel (kind : ProtectionKind) (level : Decimal) : Dl3000 Unit := do
  if kind = .otp then throw (.rangeError "OTP trip level is fixed on DL3000")
  else
    checked (validateLevel profile kind level)
    write s!"{protPrefix kind}:LEVel {written level}"

def clearProtectionTrip (kind : ProtectionKind) : Dl3000 Unit := do
  if kind = .otp then write ":SOURce:INPut:STATe OFF" else write s!"{protPrefix kind}:CLEar"

def getDynamicConfig : Dl3000 DynamicConfig := do
  let modeRaw ← query ":SOURce:FUNCtion:TRANsient?"
  let head := s!":SOURce:{scpiMode (decodeMode upper modeRaw)}:TRANsient"
  let replies ← queryAll [":SOURce:INPut:TRANsient?", s!"{head}:ALEVel?", s!"{head}:BLEVel?", s!"{head}:AWIDth?",
    s!"{head}:BWIDth?", s!"{head}:SRATe?"]
  let value (i : Nat) := parseNumberOrZero (replies.getD i "")
  pure { enabled := parseBool (replies.getD 0 ""), levelA := value 1, levelB := value 2, timeA := value 3
         timeB := value 4, slewRate := value 5, frequencyHz := arithmetic.frequencyHz (value 3) (value 4) }

def setDynamicConfig (config : DynamicConfig) : Dl3000 Unit := do
  let modeRaw ← query ":SOURce:FUNCtion:TRANsient?"
  let head := s!":SOURce:{scpiMode (decodeMode upper modeRaw)}:TRANsient"
  write s!"{head}:ALEVel {written config.levelA}"
  write s!"{head}:BLEVel {written config.levelB}"
  write s!"{head}:AWIDth {written config.timeA}"
  write s!"{head}:BWIDth {written config.timeB}"
  if Decimal.lt zero config.slewRate then write s!"{head}:SRATe {written config.slewRate}"
  write s!":SOURce:INPut:TRANsient {onOff config.enabled}"

def getBatteryState : Dl3000 BatteryState := do
  let replies ← queryAll [":SOURce:BATTery:STATe?", ":SOURce:BATTery:FUNCtion?", ":SOURce:BATTery:LEVel?",
    ":SOURce:BATTery:VOLTage?", ":SOURce:BATTery:CAPability?", ":SOURce:BATTery:TIMer?", ":SOURce:BATTery:TIMe?",
    ":SOURce:BATTery:DISChar:CAPability?", ":SOURce:BATTery:DISChar:ENERgy?", ":SOURce:BATTery:STOP?"]
  let value (i : Nat) := parseNumberOrZero (replies.getD i "")
  pure { running := parseBool (replies.getD 0 "")
         config := ⟨decodeBatteryMode upper (replies.getD 1 ""),value 2,value 3,value 4,value 5⟩
         elapsedSec := value 6, capacity := value 7, energy := value 8
         stoppedBy := decodeStopReason upper (replies.getD 9 "") }

def startBattery (config : BatteryConfig) : Dl3000 Unit := do
  write s!":SOURce:BATTery:FUNCtion {encodeBatteryMode config.mode}"
  write s!":SOURce:BATTery:LEVel {written config.level}"
  write s!":SOURce:BATTery:VOLTage {written config.cutoffVoltage}"
  write s!":SOURce:BATTery:CAPability {written config.cutoffCapacity}"
  write s!":SOURce:BATTery:TIMer {written config.cutoffTimeSec}"
  write ":SOURce:BATTery:STATe ON"

def stopBattery : Dl3000 Unit := write ":SOURce:BATTery:STATe OFF"

def getPresetCatalog : List Bool := List.replicate profile.presetSlots.toNat true

def assertSlot (slot : Int) : Except Failure Unit :=
  if slot < 0 ∨ slot ≥ profile.presetSlots then
    .error (.rangeError s!"preset slot must be an integer between 0 and {profile.presetSlots - 1}")
  else .ok ()

def savePreset (slot : Int) : Dl3000 Unit := do
  checked (assertSlot profile slot)
  write s!"*SAV {slot}"

def recallPreset (slot : Int) : Dl3000 Unit := do
  checked (assertSlot profile slot)
  write s!"*RCL {slot}"

def disableAllOutputs : Dl3000 OutputKillResult := @runEloadDisableAll _ _ caught ⟨setInputEnabled⟩

def method : Call → Dl3000 Result
  | .getState => .state <$> getState upper profile
  | .setInputEnabled enabled => (fun _ => .done) <$> setInputEnabled enabled
  | .setMode mode => (fun _ => .done) <$> setMode mode
  | .setSetpoint mode value => (fun _ => .done) <$> setSetpoint profile mode value
  | .getSetpoints => .setpoints <$> getSetpoints
  | .measure => .measurement <$> measure
  | .getProtection kind => .protection <$> getProtection profile kind
  | .setProtectionEnabled kind enabled => (fun _ => .done) <$> setProtectionEnabled kind enabled
  | .setProtectionLevel kind level => (fun _ => .done) <$> setProtectionLevel profile kind level
  | .clearProtectionTrip kind => (fun _ => .done) <$> clearProtectionTrip kind
  | .getDynamicConfig => .dynamic <$> getDynamicConfig upper arithmetic
  | .setDynamicConfig config => (fun _ => .done) <$> setDynamicConfig upper config
  | .getBatteryState => .battery <$> getBatteryState upper
  | .startBattery config => (fun _ => .done) <$> startBattery config
  | .stopBattery => (fun _ => .done) <$> stopBattery
  | .getPresetCatalog => pure (.catalog (getPresetCatalog profile))
  | .savePreset slot => (fun _ => .done) <$> savePreset profile slot
  | .recallPreset slot => (fun _ => .done) <$> recallPreset profile slot
  | .disableAllOutputs => .kill <$> disableAllOutputs

end RigolDl3000

namespace RigolDl3021

abbrev State := Table String String

variable (upper : UpperCase) (arithmetic : Arithmetic)

def entered (state : SessionState State) (key text : String) : SessionState State :=
  { state with values := write state.values (entry key (some text)) }

def defaultState : State := fun key => List.lookup key
  [("input","OFF"), ("function","CURR"), ("level:cc","1.000000"), ("level:cv","5.000000"), ("level:cr","100.000000"),
    ("level:cp","10.000000"), ("ovp:state","OFF"), ("ovp:level","150.000000"), ("ovp:tripped","0"),
    ("ocp:state","OFF"), ("ocp:level","40.000000"), ("ocp:tripped","0"), ("opp:state","OFF"),
    ("opp:level","200.000000"), ("opp:tripped","0"), ("trans:mode","CURR"), ("trans:enabled","OFF"),
    ("trans:alev","1.0"), ("trans:blev","2.0"), ("trans:awid","0.001"), ("trans:bwid","0.001"), ("trans:srate","0.5"),
    ("batt:state","OFF"), ("batt:func","CURR"), ("batt:level","1.0"), ("batt:voltage","2.5"), ("batt:capability","0"),
    ("batt:timer","0"), ("batt:time","0"), ("batt:acc:cap","0"), ("batt:acc:energy","0"), ("batt:stop","NONE")]

def setOrGet (key : String) : Handler State := fun cmd state =>
  if cmd.isQuery then (state,.returns (.ok (.line ((state.values key).getD "0"))))
  else (entered state key (String.ofList (upper.apply (cmd.args.headD []))),.returns (.ok .none))

def branchOf (fn : List Char) : Option Mode :=
  if "CURR".toList.isPrefixOf fn then some .cc
  else if "VOLT".toList.isPrefixOf fn then some .cv
  else if "RES".toList.isPrefixOf fn then some .cr
  else if "POW".toList.isPrefixOf fn then some .cp
  else none

def levelKey : Mode → String
  | .cc => "level:cc"
  | .cv => "level:cv"
  | .cr => "level:cr"
  | .cp => "level:cp"

def drawn (branch : Option Mode) (level : Mode → arithmetic.F) : arithmetic.F × arithmetic.F :=
  let vSource := arithmetic.constant "12"
  match branch with
  | some .cc => (vSource,level .cc)
  | some .cv =>
      let v := arithmetic.min vSource (level .cv)
      (v,arithmetic.div v (arithmetic.max (level .cr) (arithmetic.constant "1")))
  | some .cr => (vSource,arithmetic.div vSource (arithmetic.max (level .cr) (arithmetic.constant "0.01")))
  | some .cp => (vSource,arithmetic.div (level .cp) (arithmetic.max vSource (arithmetic.constant "0.01")))
  | none => (vSource,arithmetic.constant "0")

def measured (kind : Nat) (branch : Option Mode) (level : Mode → arithmetic.F) : arithmetic.F :=
  let (v,i) := drawn arithmetic branch level
  match kind with
  | 0 => v
  | 1 => i
  | 2 => arithmetic.mul v i
  | _ => if arithmetic.positive i then arithmetic.div v i else arithmetic.constant "999999"

def measureValue (kind : Nat) : Handler State := fun _ state =>
  let input := state.values "input"
  if input = some "ON" ∨ input = some "1" then
    let fn := upper.apply ((state.values "function").getD "CURR").toList
    let level (mode : Mode) := arithmetic.number
      (parseFloat ((state.values (levelKey mode)).getD (if mode = .cr then "1" else "0")).toList)
    (state,.returns (.ok (.line (arithmetic.fixed (measured arithmetic kind (branchOf fn) level)))))
  else (state,.returns (.ok (.line "0.000000")))

def clearTrip (key : String) : Handler State := fun _ state => (entered state key "0",.returns (.ok .none))

def settingKeys : List (String × String) :=
  [("SOURCE:INPUT:STATE","input"), ("SOURCE:INPUT:STATE?","input"), ("SOURCE:FUNCTION","function"),
    ("SOURCE:FUNCTION?","function"), ("SOURCE:CURRENT:LEVEL:IMMEDIATE","level:cc"),
    ("SOURCE:CURRENT:LEVEL:IMMEDIATE?","level:cc"), ("SOURCE:VOLTAGE:LEVEL:IMMEDIATE","level:cv"),
    ("SOURCE:VOLTAGE:LEVEL:IMMEDIATE?","level:cv"), ("SOURCE:RESISTANCE:LEVEL:IMMEDIATE","level:cr"),
    ("SOURCE:RESISTANCE:LEVEL:IMMEDIATE?","level:cr"), ("SOURCE:POWER:LEVEL:IMMEDIATE","level:cp"),
    ("SOURCE:POWER:LEVEL:IMMEDIATE?","level:cp"), ("SOURCE:VOLTAGE:PROTECTION:STATE","ovp:state"),
    ("SOURCE:VOLTAGE:PROTECTION:STATE?","ovp:state"), ("SOURCE:VOLTAGE:PROTECTION:LEVEL","ovp:level"),
    ("SOURCE:VOLTAGE:PROTECTION:LEVEL?","ovp:level"), ("SOURCE:VOLTAGE:PROTECTION:TRIPPED?","ovp:tripped"),
    ("SOURCE:CURRENT:PROTECTION:STATE","ocp:state"), ("SOURCE:CURRENT:PROTECTION:STATE?","ocp:state"),
    ("SOURCE:CURRENT:PROTECTION:LEVEL","ocp:level"), ("SOURCE:CURRENT:PROTECTION:LEVEL?","ocp:level"),
    ("SOURCE:CURRENT:PROTECTION:TRIPPED?","ocp:tripped"), ("SOURCE:POWER:PROTECTION:STATE","opp:state"),
    ("SOURCE:POWER:PROTECTION:STATE?","opp:state"), ("SOURCE:POWER:PROTECTION:LEVEL","opp:level"),
    ("SOURCE:POWER:PROTECTION:LEVEL?","opp:level"), ("SOURCE:POWER:PROTECTION:TRIPPED?","opp:tripped"),
    ("SOURCE:FUNCTION:TRANSIENT","trans:mode"), ("SOURCE:FUNCTION:TRANSIENT?","trans:mode"),
    ("SOURCE:INPUT:TRANSIENT","trans:enabled"), ("SOURCE:INPUT:TRANSIENT?","trans:enabled"),
    ("SOURCE:BATTERY:STATE","batt:state"), ("SOURCE:BATTERY:STATE?","batt:state"),
    ("SOURCE:BATTERY:FUNCTION","batt:func"), ("SOURCE:BATTERY:FUNCTION?","batt:func"),
    ("SOURCE:BATTERY:LEVEL","batt:level"), ("SOURCE:BATTERY:LEVEL?","batt:level"),
    ("SOURCE:BATTERY:VOLTAGE","batt:voltage"), ("SOURCE:BATTERY:VOLTAGE?","batt:voltage"),
    ("SOURCE:BATTERY:CAPABILITY","batt:capability"), ("SOURCE:BATTERY:CAPABILITY?","batt:capability"),
    ("SOURCE:BATTERY:TIMER","batt:timer"), ("SOURCE:BATTERY:TIMER?","batt:timer"),
    ("SOURCE:BATTERY:TIME?","batt:time"), ("SOURCE:BATTERY:DISCHAR:CAPABILITY?","batt:acc:cap"),
    ("SOURCE:BATTERY:DISCHAR:ENERGY?","batt:acc:energy"), ("SOURCE:BATTERY:STOP?","batt:stop")]

def measureKinds : List (String × Nat) :=
  [("MEASURE:VOLTAGE?",0), ("MEASURE:CURRENT?",1), ("MEASURE:POWER?",2), ("MEASURE:RESISTANCE?",3)]

def clearKeys : List (String × String) :=
  [("SOURCE:VOLTAGE:PROTECTION:CLEAR","ovp:tripped"), ("SOURCE:CURRENT:PROTECTION:CLEAR","ocp:tripped"),
    ("SOURCE:POWER:PROTECTION:CLEAR","opp:tripped")]

def exactHandlers (normalized : List Char) : Option (Handler State) :=
  let header := String.ofList normalized
  ((settingKeys.lookup header).map (setOrGet upper)).or
    (((measureKinds.lookup header).map (measureValue upper arithmetic)).or
      (((clearKeys.lookup header).map clearTrip).or
        (if header = "SYSTEM:OTP?" then some (answers (.line "0")) else none)))

/- `/^SOURCE:(?:CURRENT|VOLTAGE|RESISTANCE|POWER):TRANSIENT:(ALEVEL|BLEVEL|AWIDTH|BWIDTH|SRATE)/`, and the
key of the field that it finds. -/
def transientKey (normalized : List Char) : Option String := do
  let below ← normalized.dropPrefix? "SOURCE:".toList
  let tail ← ["CURRENT","VOLTAGE","RESISTANCE","POWER"].findSome? fun mode => below.dropPrefix? mode.toList
  let name ← tail.dropPrefix? ":TRANSIENT:".toList
  [("ALEVEL","trans:alev"), ("BLEVEL","trans:blev"), ("AWIDTH","trans:awid"), ("BWIDTH","trans:bwid"),
    ("SRATE","trans:srate")].findSome? fun (field,key) => (name.dropPrefix? field.toList).map fun _ => key

def transient : Handler State := fun cmd state =>
  let key := (transientKey cmd.normalized).getD "trans:srate"
  if cmd.isQuery then (state,.returns (.ok (.line ((state.values key).getD "0"))))
  else (entered state key (String.ofList (cmd.args.headD ['0'])),.returns (.ok .none))

def personality : Personality State where
  exactHandlers := exactHandlers upper arithmetic
  prefixHandlers := [(fun normalized => (transientKey normalized).isSome,transient)]
  responses normalized := if String.ofList normalized = "SYSTEM:OTP?" then some "0" else none
  initialState := ⟨[],defaultState⟩

def simulator (idn : String) : Simulator State := ⟨personality upper arithmetic,idn,"",[ScpiFraming.LF],upper.apply⟩

end RigolDl3021

namespace RigolDl3021

variable {upper : UpperCase} {arithmetic : Arithmetic} {head : List Char}

theorem exactSpelled : exactHandlers upper arithmetic head =
    (((spells settingKeys).lookup head).map (setOrGet upper)).or
      ((((spells measureKinds).lookup head).map (measureValue upper arithmetic)).or
        ((((spells clearKeys).lookup head).map clearTrip).or
          (if head = spell "SYSTEM:OTP?" then some (answers (.line "0")) else none))) := by
  have ascii : (∀ entry ∈ settingKeys, Ascii entry.1) ∧ (∀ entry ∈ measureKinds, Ascii entry.1) ∧
      (∀ entry ∈ clearKeys, Ascii entry.1) ∧ Ascii "SYSTEM:OTP?" := by decide
  obtain ⟨settings,kinds,clears,touch⟩ := ascii
  have same : String.ofList head = "SYSTEM:OTP?" ↔ head = spell "SYSTEM:OTP?" := by
    rw [← spellSame touch]
    exact ⟨fun same => by rw [← same,String.toList_ofList],fun same => by rw [same,String.ofList_toList]⟩
  simp only [exactHandlers,lookupSpelled settings,lookupSpelled kinds,lookupSpelled clears,same]

def Unknown (head : List Char) : Prop :=
  (spells settingKeys).lookup head = none ∧ (spells measureKinds).lookup head = none ∧
    (spells clearKeys).lookup head = none ∧ head ≠ spell "SYSTEM:OTP?"

instance : Decidable (Unknown head) := inferInstanceAs (Decidable (_ ∧ _))

theorem exactNone (unknown : Unknown head) : exactHandlers upper arithmetic head = none := by
  obtain ⟨setting,measure,clear,touch⟩ := unknown
  simp only [exactSpelled,setting,measure,clear,if_neg touch]
  rfl

end RigolDl3021

inductive PulseField where
  | levelA | levelB | timeA | timeB | slewRate
  deriving DecidableEq, Repr

inductive BatteryField where
  | level | cutoffVoltage | cutoffCapacity | cutoffTimeSec | elapsedSec | capacity | energy
  deriving DecidableEq, Repr

inductive Trip where
  | ovp | ocp | opp
  deriving DecidableEq, Repr

inductive Setting where
  | input
  | mode
  | level (mode : Mode)
  | guarded (kind : Trip)
  | guard (kind : Trip)
  | tripped (kind : Trip)
  | pulseMode
  | pulsing
  | pulse (field : PulseField)
  | discharging
  | dischargeMode
  | discharge (field : BatteryField)
  | stoppedBy
  deriving DecidableEq, Repr

abbrev Setting.Value : Setting → Type
  | .input | .guarded _ | .tripped _ | .pulsing | .discharging => Bool
  | .mode => Mode
  | .pulseMode => Unit
  | .level _ | .guard _ | .pulse _ | .discharge _ => Decimal
  | .dischargeMode => BatteryMode
  | .stoppedBy => Option StopReason

/- An electronic load as a user knows it. Nothing sets the mode of the transients. -/
abbrev Load := (s : Setting) → s.Value

namespace Load
variable (arithmetic : Arithmetic) (profile : Dl3000Profile) (load : Load)

def set (s : Setting) (v : s.Value) : Load := Function.update load s v

def tripOf : ProtectionKind → Option Trip
  | .ovp => some .ovp
  | .ocp => some .ocp
  | .opp => some .opp
  | .otp => none

def setpoints : Setpoints := ⟨load (.level .cc),load (.level .cv),load (.level .cr),load (.level .cp)⟩

def level (mode : Mode) : arithmetic.F := arithmetic.number (some (load (.level mode)))

def volts : arithmetic.F :=
  if load .mode = .cv then arithmetic.min (arithmetic.constant "12") (load.level arithmetic .cv)
  else arithmetic.constant "12"

def amps : arithmetic.F :=
  match load .mode with
  | .cc => load.level arithmetic .cc
  | .cv => arithmetic.div (load.volts arithmetic) (arithmetic.max (load.level arithmetic .cr) (arithmetic.constant "1"))
  | .cr => arithmetic.div (load.volts arithmetic)
      (arithmetic.max (load.level arithmetic .cr) (arithmetic.constant "0.01"))
  | .cp => arithmetic.div (load.level arithmetic .cp)
      (arithmetic.max (load.volts arithmetic) (arithmetic.constant "0.01"))

def watts : arithmetic.F := arithmetic.mul (load.volts arithmetic) (load.amps arithmetic)

def ohms : arithmetic.F :=
  if arithmetic.positive (load.amps arithmetic) then arithmetic.div (load.volts arithmetic) (load.amps arithmetic)
  else arithmetic.constant "999999"

def shown (x : arithmetic.F) : Decimal :=
  if load .input then parseNumberOrZero (arithmetic.fixed x) else literal "0"

def measurement : Measurement where
  voltage := load.shown arithmetic (load.volts arithmetic)
  current := load.shown arithmetic (load.amps arithmetic)
  power := load.shown arithmetic (load.watts arithmetic)
  resistance := load.shown arithmetic (load.ohms arithmetic)

def state : LoadState := ⟨load .input,load .mode,load.setpoints,load.measurement arithmetic,profile.limits⟩

def guardRange (kind : ProtectionKind) : Range where
  min := literal "0"
  max := match kind with
    | .ovp => profile.limits.voltageMax
    | .ocp => profile.limits.currentMax
    | .opp => profile.limits.powerMax
    | .otp => literal "120"

def protection (kind : ProtectionKind) : ProtectionState :=
  match tripOf kind with
  | none => ⟨true,literal "120",false,guardRange profile kind⟩
  | some trip => ⟨load (.guarded trip),load (.guard trip),load (.tripped trip),guardRange profile kind⟩

def dynamicConfig : DynamicConfig where
  levelA := load (.pulse .levelA)
  levelB := load (.pulse .levelB)
  timeA := load (.pulse .timeA)
  timeB := load (.pulse .timeB)
  slewRate := load (.pulse .slewRate)
  frequencyHz := arithmetic.frequencyHz (load (.pulse .timeA)) (load (.pulse .timeB))
  enabled := load .pulsing

def setDynamic (config : DynamicConfig) : Load :=
  let load := (((load.set (.pulse .levelA) config.levelA).set (.pulse .levelB) config.levelB).set
    (.pulse .timeA) config.timeA).set (.pulse .timeB) config.timeB
  let load := if Decimal.lt (literal "0") config.slewRate then load.set (.pulse .slewRate) config.slewRate else load
  load.set .pulsing config.enabled

def batteryState : BatteryState where
  running := load .discharging
  config := ⟨load .dischargeMode,load (.discharge .level),load (.discharge .cutoffVoltage),
    load (.discharge .cutoffCapacity),load (.discharge .cutoffTimeSec)⟩
  elapsedSec := load (.discharge .elapsedSec)
  capacity := load (.discharge .capacity)
  energy := load (.discharge .energy)
  stoppedBy := load .stoppedBy

def startBattery (config : BatteryConfig) : Load :=
  (((((load.set .dischargeMode config.mode).set (.discharge .level) config.level).set
    (.discharge .cutoffVoltage) config.cutoffVoltage).set (.discharge .cutoffCapacity) config.cutoffCapacity).set
    (.discharge .cutoffTimeSec) config.cutoffTimeSec).set .discharging true

def outside (range : Range) (x : Decimal) : Prop := Decimal.lt x range.min ∨ Decimal.lt range.max x

instance (range : Range) (x : Decimal) : Decidable (outside range x) := inferInstanceAs (Decidable (_ ∨ _))

def setpointRange : Mode → Range
  | .cc => ⟨literal "0",profile.limits.currentMax⟩
  | .cv => ⟨literal "0",profile.limits.voltageMax⟩
  | .cr => profile.limits.resistanceRange
  | .cp => ⟨literal "0",profile.limits.powerMax⟩

def setpointReason (mode : Mode) (value : Decimal) : String :=
  let range := setpointRange profile mode
  match mode with
  | .cc => s!"CC {written value} > {written range.max}A"
  | .cv => s!"CV {written value} > {written range.max}V"
  | .cp => s!"CP {written value} > {written range.max}W"
  | .cr => s!"CR {written value} outside {written range.min}..{written range.max}Ω"

def setpointRefused (mode : Mode) (value : Decimal) : Option String :=
  if Decimal.lt value (literal "0") then some "setpoint must be a non-negative finite number"
  else if outside (setpointRange profile mode) value then
    some (setpointReason profile mode value)
  else none

def guardTitle : ProtectionKind → String
  | .ovp => "OVP"
  | .ocp => "OCP"
  | .opp => "OPP"
  | .otp => "OTP"

def levelRefused (kind : ProtectionKind) (level : Decimal) : Option String :=
  let range := guardRange profile kind
  if outside range level then
    some s!"{guardTitle kind} level {written level} outside {written range.min}..{written range.max}"
  else none

def slotRefused (slot : Int) : Option String :=
  if 0 ≤ slot ∧ slot < profile.presetSlots then none
  else some s!"preset slot must be an integer between 0 and {profile.presetSlots - 1}"

def accepted (refused : Option String) (next : Load) : Load × Except Failure Result :=
  match refused with
  | none => (next,.ok .done)
  | some reason => (load,.error (.rangeError reason))

def catalog : List Bool := (List.range profile.presetSlots.toNat).map fun _ => true

def call : Call → Load × Except Failure Result
  | .getState => (load,.ok (.state (load.state arithmetic profile)))
  | .setInputEnabled enabled => (load.set .input enabled,.ok .done)
  | .setMode mode => (load.set .mode mode,.ok .done)
  | .setSetpoint mode value => load.accepted (setpointRefused profile mode value) (load.set (.level mode) value)
  | .getSetpoints => (load,.ok (.setpoints load.setpoints))
  | .measure => (load,.ok (.measurement (load.measurement arithmetic)))
  | .getProtection kind => (load,.ok (.protection (load.protection profile kind)))
  | .setProtectionEnabled kind enabled =>
      match tripOf kind with
      | none => (load,.error (.rangeError "OTP is always enabled on DL3000"))
      | some trip => (load.set (.guarded trip) enabled,.ok .done)
  | .setProtectionLevel kind level =>
      match tripOf kind with
      | none => (load,.error (.rangeError "OTP trip level is fixed on DL3000"))
      | some trip => load.accepted (levelRefused profile kind level) (load.set (.guard trip) level)
  | .clearProtectionTrip kind =>
      match tripOf kind with
      | none => (load.set .input false,.ok .done)
      | some trip => (load.set (.tripped trip) false,.ok .done)
  | .getDynamicConfig => (load,.ok (.dynamic (load.dynamicConfig arithmetic)))
  | .setDynamicConfig config => (load.setDynamic config,.ok .done)
  | .getBatteryState => (load,.ok (.battery load.batteryState))
  | .startBattery config => (load.startBattery config,.ok .done)
  | .stopBattery => (load.set .discharging false,.ok .done)
  | .getPresetCatalog => (load,.ok (.catalog (catalog profile)))
  | .savePreset slot | .recallPreset slot => load.accepted (slotRefused profile slot) load
  | .disableAllOutputs => (load.set .input false,.ok (.kill ⟨.ok,["input"],[]⟩))

def initial : Load
  | .input | .guarded _ | .tripped _ | .pulsing | .discharging => false
  | .mode => .cc
  | .pulseMode => ()
  | .level mode => match mode with
    | .cc => literal "1"
    | .cv => literal "5"
    | .cr => literal "100"
    | .cp => literal "10"
  | .guard kind => match kind with
    | .ovp => literal "150"
    | .ocp => literal "40"
    | .opp => literal "200"
  | .pulse field => match field with
    | .levelA => literal "1"
    | .levelB => literal "2"
    | .timeA | .timeB => literal "0.001"
    | .slewRate => literal "0.5"
  | .dischargeMode => .cc
  | .discharge field => match field with
    | .level => literal "1"
    | .cutoffVoltage => literal "2.5"
    | .cutoffCapacity | .cutoffTimeSec | .elapsedSec | .capacity | .energy => literal "0"
  | .stoppedBy => none

end Load

namespace Setting
open RigolDl3000 (decodeMode decodeBatteryMode decodeStopReason)
open RigolDl3021 (branchOf levelKey)

def all : List Setting :=
  [.input,.mode,.level .cc,.level .cv,.level .cr,.level .cp,.guarded .ovp,.guarded .ocp,.guarded .opp,.guard .ovp,
    .guard .ocp,.guard .opp,.tripped .ovp,.tripped .ocp,.tripped .opp,.pulseMode,.pulsing,.pulse .levelA,
    .pulse .levelB,.pulse .timeA,.pulse .timeB,.pulse .slewRate,.discharging,.dischargeMode,.discharge .level,
    .discharge .cutoffVoltage,.discharge .cutoffCapacity,.discharge .cutoffTimeSec,.discharge .elapsedSec,
    .discharge .capacity,.discharge .energy,.stoppedBy]

theorem listed (s : Setting) : s ∈ all := by
  cases s with
  | level m => cases m <;> decide
  | guarded kind | guard kind | tripped kind => cases kind <;> decide
  | pulse field | discharge field => cases field <;> decide
  | _ => decide

def Trip.key : Trip → String
  | .ovp => "ovp"
  | .ocp => "ocp"
  | .opp => "opp"

def key : Setting → String
  | .input => "input"
  | .mode => "function"
  | .level m => levelKey m
  | .guarded kind => Trip.key kind ++ ":state"
  | .guard kind => Trip.key kind ++ ":level"
  | .tripped kind => Trip.key kind ++ ":tripped"
  | .pulseMode => "trans:mode"
  | .pulsing => "trans:enabled"
  | .pulse field => match field with
    | .levelA => "trans:alev"
    | .levelB => "trans:blev"
    | .timeA => "trans:awid"
    | .timeB => "trans:bwid"
    | .slewRate => "trans:srate"
  | .discharging => "batt:state"
  | .dischargeMode => "batt:func"
  | .discharge field => match field with
    | .level => "batt:level"
    | .cutoffVoltage => "batt:voltage"
    | .cutoffCapacity => "batt:capability"
    | .cutoffTimeSec => "batt:timer"
    | .elapsedSec => "batt:time"
    | .capacity => "batt:acc:cap"
    | .energy => "batt:acc:energy"
  | .stoppedBy => "batt:stop"

theorem keysApart : Function.Injective key := by
  have distinct : (all.map key).Nodup := by decide
  intro s t same
  exact List.inj_on_of_nodup_map distinct (listed s) (listed t) same

def guardHead : Trip → String
  | .ovp => ":SOURce:VOLTage:PROTection"
  | .ocp => ":SOURce:CURRent:PROTection"
  | .opp => ":SOURce:POWer:PROTection"

def pulseName : PulseField → String
  | .levelA => "ALEVel"
  | .levelB => "BLEVel"
  | .timeA => "AWIDth"
  | .timeB => "BWIDth"
  | .slewRate => "SRATe"

def batteryName : BatteryField → String
  | .level => "LEVel"
  | .cutoffVoltage => "VOLTage"
  | .cutoffCapacity => "CAPability"
  | .cutoffTimeSec => "TIMer"
  | .elapsedSec => "TIMe"
  | .capacity => "DISChar:CAPability"
  | .energy => "DISChar:ENERgy"

def header : Setting → String
  | .input => ":SOURce:INPut:STATe"
  | .mode => ":SOURce:FUNCtion"
  | .level m => ":SOURce:" ++ RigolDl3000.scpiMode m ++ ":LEVel:IMMediate"
  | .guarded kind => guardHead kind ++ ":STATe"
  | .guard kind => guardHead kind ++ ":LEVel"
  | .tripped kind => guardHead kind ++ ":TRIPped"
  | .pulseMode => ":SOURce:FUNCtion:TRANsient"
  | .pulsing => ":SOURce:INPut:TRANsient"
  | .pulse field => ":SOURce:CURRent:TRANsient:" ++ pulseName field
  | .discharging => ":SOURce:BATTery:STATe"
  | .dischargeMode => ":SOURce:BATTery:FUNCtion"
  | .discharge field => ":SOURce:BATTery:" ++ batteryName field
  | .stoppedBy => ":SOURce:BATTery:STOP"

def writable : Setting → Bool
  | .tripped _ | .pulseMode | .stoppedBy => false
  | .discharge field => match field with
    | .elapsedSec | .capacity | .energy => false
    | _ => true
  | _ => true

def isPulse : Setting → Bool
  | .pulse _ => true
  | _ => false

/- What is checked of a header: its handler is `setOrGet`, or, of a transient, the one of the pattern. -/
def Heard (s : Setting) (head : List Char) : Prop :=
  if s.isPulse then RigolDl3021.transientKey head = some s.key ∧ RigolDl3021.Unknown head
  else (spells RigolDl3021.settingKeys).lookup head = some s.key

instance (s : Setting) (head : List Char) : Decidable (s.Heard head) := by
  unfold Heard
  infer_instance

theorem headersHeard : ∀ s ∈ all, Ascii s.header ∧ Word (spell s.header) ∧ (spell s.header).getLast? ≠ some '?' ∧
    s.Heard (normal (spell s.header ++ ['?'])) ∧ (s.writable = true → s.Heard (normal (spell s.header))) := by
  decide

theorem spelled (s : Setting) : s.header.toList = spell s.header := spellSame (headersHeard s (listed s)).1

theorem headerWord (s : Setting) : Word s.header.toList := by
  rw [spelled]
  exact (headersHeard s (listed s)).2.1

theorem noMark (s : Setting) : s.header.toList.getLast? ≠ some '?' := by
  rw [spelled]
  exact (headersHeard s (listed s)).2.2.1

theorem askHeard (s : Setting) : s.Heard (normal (s.header ++ "?").toList) := by
  have mark : (s.header ++ "?").toList = spell s.header ++ ['?'] := by
    rw [String.toList_append,spelled]
    rfl
  rw [mark]
  exact (headersHeard s (listed s)).2.2.2.1

theorem tellHeard (s : Setting) (writes : s.writable = true) : s.Heard (normal s.header.toList) := by
  rw [spelled]
  exact (headersHeard s (listed s)).2.2.2.2 writes

def holds (upper : UpperCase) : (s : Setting) → Option String → s.Value → Prop
  | .input, kept, on | .guarded _, kept, on | .tripped _, kept, on | .pulsing, kept, on | .discharging, kept, on =>
      kept = some (onOff on) ∨ (on = false ∧ kept = some "0")
  | .pulseMode, kept, _ => kept = some "CURR"
  | .mode, kept, m =>
      ∃ text : String, kept = some text ∧ Word text.toList ∧ decodeMode upper text = m ∧
        branchOf (upper.apply text.toList) = some m
  | .level _, kept, x | .guard _, kept, x | .pulse _, kept, x | .discharge _, kept, x =>
      ∃ text : String, kept = some text ∧ Word text.toList ∧ parseFloat text.toList = some x
  | .dischargeMode, kept, m =>
      ∃ text : String, kept = some text ∧ Word text.toList ∧ decodeBatteryMode upper text = m
  | .stoppedBy, kept, reason =>
      ∃ text : String, kept = some text ∧ Word text.toList ∧ decodeStopReason upper text = reason

def encoding (upper : UpperCase) : Encoding Setting String String := ⟨Setting.Value,key,holds upper,keysApart⟩

end Setting

section
variable {upper : UpperCase} {arithmetic : Arithmetic} {profile : Dl3000Profile} {idn : String}
  {state : SessionState RigolDl3021.State} {load : Load}

theorem speaks : Speaks (RigolDl3021.simulator upper arithmetic idn) upper := ⟨rfl,rfl⟩

theorem askWord (s : Setting) : Word (s.header ++ "?").toList := by
  have mark : Word "?".toList := by decide
  rw [String.toList_append]
  exact s.headerWord.append mark

def handlerOf (upper : UpperCase) (s : Setting) : Handler RigolDl3021.State :=
  if s.isPulse then RigolDl3021.transient else RigolDl3021.setOrGet upper s.key

theorem handles {s : Setting} {parsed : ParsedCommand} (heard : s.Heard parsed.normalized) :
    dispatch (RigolDl3021.simulator upper arithmetic idn) parsed state = handlerOf upper s parsed state := by
  unfold handlerOf
  cases pulse : s.isPulse with
  | false =>
    have known : (spells RigolDl3021.settingKeys).lookup parsed.normalized = some s.key := by
      rwa [Setting.Heard,pulse,if_neg Bool.false_ne_true] at heard
    apply dispatchExact
    simp only [RigolDl3021.simulator,RigolDl3021.personality,RigolDl3021.exactSpelled,known]
    rfl
  | true =>
    rw [Setting.Heard,if_pos pulse] at heard
    obtain ⟨known,unknown⟩ := heard
    have nothing := @RigolDl3021.exactNone upper arithmetic _ unknown
    have found : (RigolDl3021.personality upper arithmetic).prefixHandlers.find?
        (fun entry => entry.1 parsed.normalized) =
          some (fun normalized => (RigolDl3021.transientKey normalized).isSome,RigolDl3021.transient) := by
      simp [RigolDl3021.personality,known]
    exact @dispatchPrefix _ (RigolDl3021.simulator upper arithmetic idn) _ _ nothing _ found

theorem transientFinds {s : Setting} (pulse : s.isPulse = true) {head : List Char} (heard : s.Heard head) :
    RigolDl3021.transientKey head = some s.key := by
  rw [Setting.Heard,if_pos pulse] at heard
  exact heard.1

theorem handlesAsk (s : Setting) :
    dispatch (RigolDl3021.simulator upper arithmetic idn) (asking (s.header ++ "?").toList) state =
      (state,.returns (.ok (.line ((state.values s.key).getD "0")))) := by
  rw [handles s.askHeard,handlerOf]
  have query : (asking (s.header ++ "?").toList).isQuery = true := by simp [asking]
  split
  · rename_i pulse
    have known : RigolDl3021.transientKey (asking (s.header ++ "?").toList).normalized = some s.key :=
      transientFinds pulse s.askHeard
    rw [RigolDl3021.transient,known,if_pos query]
    rfl
  · rw [RigolDl3021.setOrGet,if_pos query]

def kept (upper : UpperCase) (s : Setting) (arg : List Char) : String :=
  String.ofList (if s.isPulse then arg else upper.apply arg)

theorem handlesTell (s : Setting) (writes : s.writable = true) (arg : List Char) :
    dispatch (RigolDl3021.simulator upper arithmetic idn) (telling s.header.toList arg) state =
      (RigolDl3021.entered state s.key (kept upper s arg),.returns (.ok .none)) := by
  have heard : s.Heard (telling s.header.toList arg).normalized := s.tellHeard writes
  rw [handles heard,handlerOf]
  have query : (telling s.header.toList arg).isQuery = false := by
    simpa [telling] using s.noMark
  unfold kept
  split
  · rename_i pulse
    have known : RigolDl3021.transientKey (telling s.header.toList arg).normalized = some s.key :=
      transientFinds pulse heard
    simp only [RigolDl3021.transient,known,query]
    rfl
  · simp only [RigolDl3021.setOrGet,query]
    rfl

variable (upper) in
def Shows (d : SessionState RigolDl3021.State) (load : Load) : Prop := (Setting.encoding upper).Shows d.values load

theorem holdsWord {s : Setting} {o : Option String} {v : s.Value} (holds : s.holds upper o v) :
    ∃ text : String, o = some text ∧ Word text.toList := by
  cases s with
  | input | guarded | tripped | pulsing | discharging =>
    rcases holds with rfl | ⟨-,rfl⟩
    · exact ⟨_,rfl,onOffWord v⟩
    · exact ⟨_,rfl,by decide⟩
  | pulseMode => exact ⟨_,holds,by decide⟩
  | _ =>
    obtain ⟨text,same,word,-⟩ := holds
    exact ⟨text,same,word⟩

theorem reads (shows_ : Shows upper state load) (s : Setting) :
    ∃ text, Takes (RigolDl3021.simulator upper arithmetic idn) state (.query (s.header ++ "?")) state (some text) ∧
      s.holds upper (some text) (load s) := by
  have holds := shows_ s
  obtain ⟨text,same,word⟩ := holdsWord holds
  have kept : state.values s.key = some text := same
  refine ⟨text,asked speaks (askWord s) word ?_,same ▸ holds⟩
  rw [handlesAsk,kept]
  rfl

theorem sets (s : Setting) (head : String) (named : s.header = head) (writes : s.writable = true) {arg : String}
    (word : Word arg.toList) {v : s.Value} (holds : s.holds upper (some (kept upper s arg.toList)) v) {command : String}
    (same : command.toList = head.toList ++ ' ' :: arg.toList) :
    Does (RigolDl3021.simulator upper arithmetic idn) (Shows upper) (write command) () load (.ok ()) ()
      (load.set s v) := by
  subst named
  apply doesWrite
  intro d shows_
  refine ⟨_,_,told speaks s.headerWord word same (handlesTell s writes arg.toList),?_⟩
  exact showsStore shows_ holds

theorem flagRead {text : String} {on : Bool}
    (holds : some text = some (onOff on) ∨ (on = false ∧ some text = some "0")) : parseBool text = on := by
  rcases holds with same | ⟨rfl,same⟩
  · obtain rfl := Option.some.inj same
    cases on <;> decide
  · obtain rfl := Option.some.inj same
    decide

theorem keepsFlag {s : Setting} (plain : s.isPulse = false) (on : Bool) : kept upper s (onOff on).toList = onOff on := by
  rw [kept,plain,if_neg Bool.false_ne_true,upper.ascii _ (onOffWord on).2]
  cases on <;> decide

theorem keepsNumber (s : Setting) (x : Decimal) : ∃ t : String, some (kept upper s (written x).toList) = some t ∧
    Word t.toList ∧ parseFloat t.toList = some x := by
  rw [written,String.toList_ofList]
  refine ⟨_,rfl,?_,?_⟩ <;> rw [kept,String.toList_ofList] <;> split
  · exact textWord x
  · exact upperWord upper (textWord x)
  · exact numberRead x
  · exact numberReadUpper upper x

section
open RigolDl3000

variable (load) (upper arithmetic idn)

/- The call ends with `result`, and the simulator then shows `next`. -/
def Ends {α : Type} (m : Dl3000 α) (load : Load) (result : Except Failure α) (next : Load) : Prop :=
  Does (RigolDl3021.simulator upper arithmetic idn) (Shows upper) m () load result () next

variable {upper arithmetic idn load}

theorem endsInput (enabled : Bool) :
    Ends upper arithmetic idn (setInputEnabled enabled) load (.ok ()) (load.set .input enabled) :=
  sets .input ":SOURce:INPut:STATe" rfl rfl (onOffWord enabled) (.inl (congrArg some (keepsFlag rfl enabled)))
    (by simp [toString])

theorem encodeWord (mode : Mode) : Word (encodeMode mode).toList := by cases mode <;> decide

theorem keepsWord {s : Setting} (plain : s.isPulse = false) {text : String} (word : Word text.toList) :
    kept upper s text.toList = String.ofList (text.toList.map Char.toUpper) := by
  rw [kept,plain,if_neg Bool.false_ne_true,upper.ascii _ word.2]

theorem keepsMode (mode : Mode) : Setting.holds upper .mode (some (kept upper .mode (encodeMode mode).toList)) mode := by
  have same := @keepsWord upper .mode rfl _ (encodeWord mode)
  have word : Word (kept upper .mode (encodeMode mode).toList).toList := by
    rw [same]
    cases mode <;> decide
  refine ⟨_,rfl,word,?_,?_⟩
  · rw [decodeMode,foldsWord upper word,same]
    cases mode <;> decide
  · rw [upper.ascii _ word.2,same]
    cases mode <;> decide

theorem endsMode (mode : Mode) : Ends upper arithmetic idn (setMode mode) load (.ok ()) (load.set .mode mode) :=
  sets .mode ":SOURce:FUNCtion" rfl rfl (encodeWord mode) (keepsMode mode) (by simp [toString])

def settled (check : Except Failure Unit) (load next : Load) : Load :=
  match check with
  | .ok _ => next
  | .error _ => load

theorem endsChecked (check : Except Failure Unit) {m : Dl3000 Unit} {next : Load}
    (ends : Ends upper arithmetic idn m load (.ok ()) next) :
    Ends upper arithmetic idn (do checked check; m) load check (settled check load next) := by
  cases check with
  | ok u => exact ends
  | error e => exact doesStop (doesThrow e)

def refusal : Option String → Except Failure Unit
  | none => .ok ()
  | some reason => .error (.rangeError reason)

theorem refusalIf {P Q : Prop} [Decidable P] [Decidable Q] (same : P ↔ Q) (reason : String) :
    (if P then .error (.rangeError reason) else .ok ()) = refusal (if Q then some reason else none) := by
  by_cases holds : P
  · rw [if_pos holds,if_pos (same.mp holds)]
    rfl
  · rw [if_neg holds,if_neg (mt same.mpr holds)]
    rfl

theorem setpointChecked (mode : Mode) (value : Decimal) :
    validateSetpoint profile mode value = refusal (Load.setpointRefused profile mode value) := by
  unfold validateSetpoint Load.setpointRefused zero
  by_cases below : Decimal.lt value (literal "0") = true
  · rw [if_pos below,if_pos below,refusal]
  · rw [if_neg below,if_neg below]
    have above (max : Decimal) : Decimal.lt max value = true ↔ Load.outside ⟨literal "0",max⟩ value :=
      (or_iff_right below).symm
    cases mode with
    | cr => exact refusalIf Iff.rfl _
    | cc | cv | cp => exact refusalIf (above _) _

theorem rangeSame (kind : ProtectionKind) : range profile kind = Load.guardRange profile kind := by
  cases kind <;> rfl

theorem levelChecked (kind : ProtectionKind) (level : Decimal) :
    validateLevel profile kind level = refusal (Load.levelRefused profile kind level) := by
  have title : kindName kind = Load.guardTitle kind := by cases kind <;> rfl
  unfold validateLevel Load.levelRefused
  rw [rangeSame,title]
  exact refusalIf Iff.rfl _

theorem slotChecked (slot : Int) : assertSlot profile slot = refusal (Load.slotRefused profile slot) := by
  unfold assertSlot Load.slotRefused
  by_cases inside : 0 ≤ slot ∧ slot < profile.presetSlots
  · rw [if_pos inside,if_neg (by omega)]
    rfl
  · rw [if_neg inside,if_pos (by omega)]
    rfl

theorem endsSetpoint (mode : Mode) (value : Decimal) : Ends upper arithmetic idn (setSetpoint profile mode value) load
    (validateSetpoint profile mode value)
    (settled (validateSetpoint profile mode value) load (load.set (.level mode) value)) :=
  endsChecked _ (sets (.level mode) s!":SOURce:{scpiMode mode}:LEVel:IMMediate" rfl rfl (writtenWord value)
    (keepsNumber _ value) (by simp [toString]))

theorem endsGuarded {kind : ProtectionKind} {trip : Trip} (known : Load.tripOf kind = some trip) (enabled : Bool) :
    Ends upper arithmetic idn (setProtectionEnabled kind enabled) load (.ok ()) (load.set (.guarded trip) enabled) := by
  have other : kind ≠ .otp := by
    rintro rfl
    cases known
  have named : (Setting.guarded trip).header = s!"{protPrefix kind}:STATe" := by
    cases kind <;> cases known <;> rfl
  rw [setProtectionEnabled,if_neg other]
  exact sets (.guarded trip) _ named rfl (onOffWord enabled) (.inl (congrArg some (keepsFlag rfl enabled)))
    (by simp [toString])

theorem endsGuard {kind : ProtectionKind} {trip : Trip} (known : Load.tripOf kind = some trip) (level : Decimal) :
    Ends upper arithmetic idn (setProtectionLevel profile kind level) load (validateLevel profile kind level)
      (settled (validateLevel profile kind level) load (load.set (.guard trip) level)) := by
  have other : kind ≠ .otp := by
    rintro rfl
    cases known
  have named : (Setting.guard trip).header = s!"{protPrefix kind}:LEVel" := by
    cases kind <;> cases known <;> rfl
  rw [setProtectionLevel,if_neg other]
  exact endsChecked _ (sets (.guard trip) _ named rfl (writtenWord level) (keepsNumber _ level) (by simp [toString]))

def clearQuery (trip : Trip) : String := Setting.guardHead trip ++ ":CLEar"

def measureQuery (kind : Fin 4) : String := measureQueries.getD kind ""

theorem commandsHeard : (∀ trip ∈ [Trip.ovp,.ocp,.opp], Ascii (clearQuery trip) ∧ Word (spell (clearQuery trip)) ∧
      (spells RigolDl3021.settingKeys).lookup (normal (spell (clearQuery trip))) = none ∧
      (spells RigolDl3021.measureKinds).lookup (normal (spell (clearQuery trip))) = none ∧
      (spells RigolDl3021.clearKeys).lookup (normal (spell (clearQuery trip))) = some (Setting.tripped trip).key) ∧
    (∀ kind : Fin 4, Ascii (measureQuery kind) ∧ Word (spell (measureQuery kind)) ∧
      (spells RigolDl3021.settingKeys).lookup (normal (spell (measureQuery kind))) = none ∧
      (spells RigolDl3021.measureKinds).lookup (normal (spell (measureQuery kind))) = some kind.val) ∧
    (Ascii ":SYSTem:OTP?" ∧ Word (spell ":SYSTem:OTP?") ∧
      (spells RigolDl3021.settingKeys).lookup (normal (spell ":SYSTem:OTP?")) = none ∧
      (spells RigolDl3021.measureKinds).lookup (normal (spell ":SYSTem:OTP?")) = none ∧
      (spells RigolDl3021.clearKeys).lookup (normal (spell ":SYSTem:OTP?")) = none ∧
      normal (spell ":SYSTem:OTP?") = spell "SYSTEM:OTP?") ∧
    (∀ head ∈ ["*SAV","*RCL"], Ascii head ∧ Word (spell head) ∧ (spell head).getLast? ≠ some '?' ∧
      RigolDl3021.Unknown (normal (spell head)) ∧ RigolDl3021.transientKey (normal (spell head)) = none ∧
      normal (spell head) = spell head) := by
  decide

theorem clearsKnown (trip : Trip) : Word (clearQuery trip).toList ∧
    RigolDl3021.exactHandlers upper arithmetic (normal (clearQuery trip).toList) =
      some (RigolDl3021.clearTrip (Setting.tripped trip).key) := by
  obtain ⟨ascii,word,noSetting,noMeasure,clears⟩ := commandsHeard.1 trip (by cases trip <;> decide)
  rw [spellSame ascii]
  refine ⟨word,?_⟩
  simp only [RigolDl3021.exactSpelled,noSetting,noMeasure,clears]
  rfl

theorem endsClear {kind : ProtectionKind} {trip : Trip} (known : Load.tripOf kind = some trip) :
    Ends upper arithmetic idn (clearProtectionTrip kind) load (.ok ()) (load.set (.tripped trip) false) := by
  have other : kind ≠ .otp := by
    rintro rfl
    cases known
  have named : s!"{protPrefix kind}:CLEar" = clearQuery trip := by
    cases kind <;> cases known <;> rfl
  obtain ⟨word,clears⟩ := @clearsKnown upper arithmetic trip
  rw [clearProtectionTrip,if_neg other,named]
  apply doesWrite
  intro d shows_
  have cleared : dispatch (RigolDl3021.simulator upper arithmetic idn) (asking (clearQuery trip).toList) d
      = (RigolDl3021.entered d (Setting.tripped trip).key "0",.returns (.ok .none)) := by
    rw [dispatchExact clears]
    rfl
  have off : (Setting.tripped trip).holds upper (some "0") false := .inr ⟨rfl,rfl⟩
  exact ⟨_,_,toldBare speaks word cleared,showsStore (e := Setting.encoding upper) (s := .tripped trip) shows_ off⟩

theorem endsStopBattery :
    Ends upper arithmetic idn stopBattery load (.ok ()) (load.set .discharging false) :=
  sets .discharging ":SOURce:BATTery:STATe" rfl rfl (onOffWord false) (.inl (congrArg some (keepsFlag rfl false))) rfl

theorem encodeBatteryWord (mode : BatteryMode) : Word (encodeBatteryMode mode).toList := by cases mode <;> decide

theorem keepsBatteryMode (mode : BatteryMode) :
    Setting.holds upper .dischargeMode (some (kept upper .dischargeMode (encodeBatteryMode mode).toList)) mode := by
  have same := @keepsWord upper .dischargeMode rfl _ (encodeBatteryWord mode)
  have word : Word (kept upper .dischargeMode (encodeBatteryMode mode).toList).toList := by
    rw [same]
    cases mode <;> decide
  refine ⟨_,rfl,word,?_⟩
  rw [decodeBatteryMode,foldsWord upper word,same]
  cases mode <;> decide

theorem endsBattery (config : BatteryConfig) :
    Ends upper arithmetic idn (startBattery config) load (.ok ()) (load.startBattery config) := by
  have number (field : BatteryField) (writes : (Setting.discharge field).writable = true) {load : Load} (x : Decimal) :
      Ends upper arithmetic idn (write s!":SOURce:BATTery:{Setting.batteryName field} {written x}") load (.ok ())
        (load.set (.discharge field) x) :=
    sets (.discharge field) (":SOURce:BATTery:" ++ Setting.batteryName field) rfl writes (writtenWord x)
      (keepsNumber _ x) (by simp [toString])
  refine doesBind (sets .dischargeMode ":SOURce:BATTery:FUNCtion" rfl rfl (encodeBatteryWord _)
    (keepsBatteryMode config.mode) (by simp [toString])) ?_
  refine doesBind (number .level rfl config.level) ?_
  refine doesBind (number .cutoffVoltage rfl config.cutoffVoltage) ?_
  refine doesBind (number .cutoffCapacity rfl config.cutoffCapacity) ?_
  refine doesBind (number .cutoffTimeSec rfl config.cutoffTimeSec) ?_
  exact sets .discharging ":SOURce:BATTery:STATe" rfl rfl (onOffWord true)
    (.inl (congrArg some (keepsFlag rfl true))) rfl

def quantity (arithmetic : Arithmetic) (load : Load) : Fin 4 → arithmetic.F
  | 0 => load.volts arithmetic
  | 1 => load.amps arithmetic
  | 2 => load.watts arithmetic
  | 3 => load.ohms arithmetic

theorem measuredQuantity (load : Load) (kind : Fin 4) :
    RigolDl3021.measured arithmetic kind (some (load .mode)) (load.level arithmetic) =
      quantity arithmetic load kind := by
  have current : RigolDl3021.drawn arithmetic (some (load .mode)) (load.level arithmetic) =
      (load.volts arithmetic,load.amps arithmetic) := by
    unfold Load.amps Load.volts RigolDl3021.drawn
    cases load .mode <;> rfl
  unfold RigolDl3021.measured
  rw [current]
  match kind with
  | 0 | 1 | 2 | 3 => rfl

def measuredText (arithmetic : Arithmetic) (load : Load) (kind : Fin 4) : String :=
  if load .input then arithmetic.fixed (quantity arithmetic load kind) else "0.000000"

theorem measuredWord (load : Load) (kind : Fin 4) : Word (measuredText arithmetic load kind).toList := by
  unfold measuredText
  split
  · exact arithmetic.word _
  · decide

theorem measuredRead (load : Load) (kind : Fin 4) :
    parseNumberOrZero (measuredText arithmetic load kind) =
      load.shown arithmetic (quantity arithmetic load kind) := by
  unfold measuredText Load.shown
  split
  · rfl
  · decide

theorem inputShown (shows_ : Shows upper state load) :
    (state.values "input" = some "ON" ∨ state.values "input" = some "1") ↔ load .input = true := by
  rcases shows_ .input with same | ⟨off,same⟩
  · have kept : state.values "input" = some (onOff (load .input)) := same
    rw [kept]
    cases load .input <;> decide
  · have kept : state.values "input" = some "0" := same
    rw [kept,off]
    decide

theorem levelShown (shows_ : Shows upper state load) (mode : Mode) (fallback : String) :
    parseFloat ((state.values (RigolDl3021.levelKey mode)).getD fallback).toList = some (load (.level mode)) := by
  obtain ⟨text,same,-,read⟩ := shows_ (.level mode)
  have kept : state.values (RigolDl3021.levelKey mode) = some text := same
  rw [kept]
  exact read

theorem measureHandled (shows_ : Shows upper state load) (kind : Fin 4) (parsed : ParsedCommand) :
    RigolDl3021.measureValue upper arithmetic kind parsed state =
      (state,.returns (.ok (.line (measuredText arithmetic load kind)))) := by
  obtain ⟨text,same,-,-,branch⟩ := shows_ .mode
  have kept : state.values "function" = some text := same
  have mode : RigolDl3021.branchOf (upper.apply ((state.values "function").getD "CURR").toList) = some (load .mode) := by
    rw [kept]
    exact branch
  have same := @measuredQuantity arithmetic load kind
  simp only [RigolDl3021.measureValue,inputShown shows_,levelShown shows_,mode,measuredText]
  unfold Load.level at same
  rw [same]
  cases load .input <;> rfl

theorem measures (shows_ : Shows upper state load) (kind : Fin 4) :
    Takes (RigolDl3021.simulator upper arithmetic idn) state (.query (measureQuery kind)) state
      (some (measuredText arithmetic load kind)) := by
  obtain ⟨ascii,word,noSetting,measured⟩ := commandsHeard.2.1 kind
  rw [← spellSame ascii] at word noSetting measured
  refine asked speaks word (measuredWord load kind) ?_
  have found : RigolDl3021.exactHandlers upper arithmetic (normal (measureQuery kind).toList) =
      some (RigolDl3021.measureValue upper arithmetic kind) := by
    simp only [RigolDl3021.exactSpelled,noSetting,measured]
    rfl
  rw [dispatchExact found]
  exact measureHandled shows_ kind _

def levels : List Setting := [.level .cc,.level .cv,.level .cr,.level .cp]

def guards (trip : Trip) : List Setting := [.guarded trip,.guard trip,.tripped trip]

def pulses : List Setting :=
  [.pulsing,.pulse .levelA,.pulse .levelB,.pulse .timeA,.pulse .timeB,.pulse .slewRate]

def batteries : List Setting :=
  [.discharging,.dischargeMode,.discharge .level,.discharge .cutoffVoltage,.discharge .cutoffCapacity,
    .discharge .cutoffTimeSec,.discharge .elapsedSec,.discharge .capacity,.discharge .energy,.stoppedBy]

def kinds : List (Fin 4) := [0,1,2,3]

def queriesOf (settings : List Setting) : List String := settings.map fun s => s.header ++ "?"

theorem endsAsking {β : Type} {f : List String → Dl3000 β} {result : Except Failure β} {next : Load}
    (settings : List Setting) (kinds : List (Fin 4)) {commands : List String}
    (asks : commands = queriesOf settings ++ kinds.map measureQuery)
    (rest : ∀ reply : Setting → String, (∀ s : Setting, s.holds upper (some (reply s)) (load s)) →
      Ends upper arithmetic idn (f (settings.map reply ++ kinds.map (measuredText arithmetic load))) load result next) :
    Ends upper arithmetic idn (queryAll commands >>= f) load result next := by
  subst asks
  refine doesAskAll (P := fun texts => ∃ reply : Setting → String,
    (∀ s : Setting, s.holds upper (some (reply s)) (load s)) ∧ texts = settings.map reply ++ kinds.map (measuredText arithmetic load)) (fun d shows_ => ?_) ?_
  · choose reply answered holds using @reads upper arithmetic idn d load shows_
    refine ⟨_,List.rel_append ?_ ?_,reply,holds,rfl⟩
    · rw [queriesOf,List.forall₂_map_left_iff,List.forall₂_map_right_iff]
      exact List.forall₂_same.mpr fun s _ => answered s
    · rw [List.forall₂_map_left_iff,List.forall₂_map_right_iff]
      exact List.forall₂_same.mpr fun kind _ => measures shows_ kind
  · rintro _ ⟨reply,holds,rfl⟩
    exact rest reply holds

structure Spelled : Prop where
  setpoints : setpointQueries = queriesOf levels
  measured : measureQueries = kinds.map measureQuery
  inputs : [":SOURce:INPut:STATe?", ":SOURce:FUNCtion?"] = queriesOf [.input,.mode]
  guard : ∀ kind ∈ [ProtectionKind.ovp,.ocp,.opp], ∀ trip ∈ Load.tripOf kind,
    [s!"{protPrefix kind}:STATe?", s!"{protPrefix kind}:LEVel?", s!"{protPrefix kind}:TRIPped?"] =
      queriesOf (guards trip)
  pulseMode : [":SOURce:FUNCtion:TRANsient?"] = queriesOf [.pulseMode]
  pulse : [":SOURce:INPut:TRANsient?", ":SOURce:CURRent:TRANsient:ALEVel?", ":SOURce:CURRent:TRANsient:BLEVel?",
    ":SOURce:CURRent:TRANsient:AWIDth?", ":SOURce:CURRent:TRANsient:BWIDth?", ":SOURce:CURRent:TRANsient:SRATe?"] =
      queriesOf pulses
  battery : [":SOURce:BATTery:STATe?", ":SOURce:BATTery:FUNCtion?", ":SOURce:BATTery:LEVel?",
    ":SOURce:BATTery:VOLTage?", ":SOURce:BATTery:CAPability?", ":SOURce:BATTery:TIMer?", ":SOURce:BATTery:TIMe?",
    ":SOURce:BATTery:DISChar:CAPability?", ":SOURce:BATTery:DISChar:ENERgy?", ":SOURce:BATTery:STOP?"] =
      queriesOf batteries

theorem queriesSpelled : Spelled := by constructor <;> decide

theorem endsGetSetpoints :
    Ends upper arithmetic idn getSetpoints load (.ok load.setpoints) load := by
  have spelled := queriesSpelled
  refine endsAsking levels [] (by rw [spelled.setpoints]; simp) fun reply holds => ?_
  have value (mode : Mode) : parseNumberOrZero (reply (.level mode)) = load (.level mode) :=
    numberHeld (holds (.level mode))
  simp only [levels,setpointsOf,List.map,List.append_nil,List.getD_cons_zero,List.getD_cons_succ,value]
  exact doesPure _

theorem endsMeasure : Ends upper arithmetic idn measure load (.ok (load.measurement arithmetic)) load := by
  have spelled := queriesSpelled
  refine endsAsking [] kinds spelled.measured fun reply _ => ?_
  simp only [kinds,measurementOf,List.map,List.nil_append,List.getD_cons_zero,List.getD_cons_succ,measuredRead]
  exact doesPure _

theorem endsGetState :
    Ends upper arithmetic idn (getState upper profile) load (.ok (load.state arithmetic profile)) load := by
  have spelled := queriesSpelled
  have asks : [":SOURce:INPut:STATe?", ":SOURce:FUNCtion?"] ++ setpointQueries ++ measureQueries =
      queriesOf (.input :: .mode :: levels) ++ kinds.map measureQuery := by
    rw [spelled.inputs,spelled.setpoints,spelled.measured]
    rfl
  refine endsAsking (.input :: .mode :: levels) kinds asks fun reply holds => ?_
  have input : parseBool (reply .input) = load .input := flagRead (holds .input)
  have value (mode : Mode) : parseNumberOrZero (reply (.level mode)) = load (.level mode) :=
    numberHeld (holds (.level mode))
  obtain ⟨text,same,-,mode,-⟩ := holds .mode
  obtain rfl := Option.some.inj same
  simp only [levels,kinds,setpointsOf,measurementOf,List.map,List.cons_append,List.nil_append,List.getD_cons_zero,
    List.getD_cons_succ,Nat.reduceAdd,value,measuredRead,input,mode]
  exact doesPure _

theorem endsProtection {kind : ProtectionKind} {trip : Trip} (known : Load.tripOf kind = some trip) :
    Ends upper arithmetic idn (getProtection profile kind) load (.ok (load.protection profile kind)) load := by
  have spelled := queriesSpelled
  have other : kind ≠ .otp := by
    rintro rfl
    cases known
  rw [getProtection,if_neg other,rangeSame]
  have asks := spelled.guard kind (by cases kind <;> simp_all) trip known
  rw [← List.append_nil (queriesOf (guards trip))] at asks
  refine endsAsking (guards trip) [] asks fun reply holds => ?_
  have guarded : parseBool (reply (.guarded trip)) = load (.guarded trip) := flagRead (holds (.guarded trip))
  have level : parseNumberOrZero (reply (.guard trip)) = load (.guard trip) := numberHeld (holds (.guard trip))
  have tripped : parseBool (reply (.tripped trip)) = load (.tripped trip) := flagRead (holds (.tripped trip))
  simp only [guards,List.map,List.append_nil,List.getD_cons_zero,List.getD_cons_succ,guarded,level,tripped,
    Load.protection,known]
  exact doesPure _

theorem endsPulseMode {β : Type} {f : String → Dl3000 β} {result : Except Failure β} {next : Load}
    (rest : ∀ raw, decodeMode upper raw = .cc → Ends upper arithmetic idn (f raw) load result next) :
    Ends upper arithmetic idn (query ":SOURce:FUNCtion:TRANsient?" >>= f) load result next := by
  have spelled := queriesSpelled
  have named : ":SOURce:FUNCtion:TRANsient?" = Setting.pulseMode.header ++ "?" :=
    (List.cons.inj spelled.pulseMode).1
  have word : Word "CURR".toList := by decide
  refine doesAsk (P := fun raw => decodeMode upper raw = .cc) (fun d shows_ => ?_) rest
  obtain ⟨text,answered,holds⟩ := @reads upper arithmetic idn d load shows_ .pulseMode
  obtain rfl := Option.some.inj holds
  rw [← named] at answered
  refine ⟨_,answered,?_⟩
  rw [decodeMode,foldsWord upper word]
  decide

theorem endsGetDynamic :
    Ends upper arithmetic idn (getDynamicConfig upper arithmetic) load (.ok (load.dynamicConfig arithmetic)) load := by
  have spelled := queriesSpelled
  refine endsPulseMode fun raw mode => ?_
  rw [mode]
  have asks := spelled.pulse
  rw [← List.append_nil (queriesOf pulses)] at asks
  refine endsAsking pulses [] asks fun reply holds => ?_
  have pulsing : parseBool (reply .pulsing) = load .pulsing := flagRead (holds .pulsing)
  have value (field : PulseField) : parseNumberOrZero (reply (.pulse field)) = load (.pulse field) :=
    numberHeld (holds (.pulse field))
  simp only [pulses,List.map,List.append_nil,List.getD_cons_zero,List.getD_cons_succ,pulsing,value]
  exact doesPure _

theorem endsPulse (field : PulseField) {named : String} (same : (Setting.pulse field).header = named) (x : Decimal) :
    Ends upper arithmetic idn (write s!"{named} {written x}") load (.ok ()) (load.set (.pulse field) x) :=
  sets (.pulse field) named same rfl (writtenWord x) (keepsNumber _ x) (by simp [toString])

theorem endsSetDynamic (config : DynamicConfig) :
    Ends upper arithmetic idn (setDynamicConfig upper config) load (.ok ()) (load.setDynamic config) := by
  refine endsPulseMode fun raw mode => ?_
  rw [mode]
  refine doesBind (endsPulse .levelA rfl config.levelA) ?_
  refine doesBind (endsPulse .levelB rfl config.levelB) ?_
  refine doesBind (endsPulse .timeA rfl config.timeA) ?_
  refine doesBind (endsPulse .timeB rfl config.timeB) ?_
  have switched {load : Load} : Ends upper arithmetic idn (write s!":SOURce:INPut:TRANsient {onOff config.enabled}") load
      (.ok ()) (load.set .pulsing config.enabled) :=
    sets .pulsing ":SOURce:INPut:TRANsient" rfl rfl (onOffWord config.enabled)
      (.inl (congrArg some (keepsFlag rfl config.enabled))) (by simp [toString])
  unfold Load.setDynamic zero
  split
  · exact doesBind (endsPulse .slewRate rfl config.slewRate) switched
  · exact switched

theorem endsTouchProtection :
    Ends upper arithmetic idn (getProtection profile .otp) load (.ok (load.protection profile .otp)) load := by
  obtain ⟨ascii,word,setting,measure,clear,same⟩ := commandsHeard.2.2.1
  rw [← spellSame ascii] at word setting measure clear same
  have known : RigolDl3021.exactHandlers upper arithmetic (normal ":SYSTem:OTP?".toList) =
      some (answers (.line "0")) := by
    simp only [RigolDl3021.exactSpelled,setting,measure,clear,if_pos same]
    rfl
  refine doesAsk (P := fun text => text = "0") (fun d shows_ => ?_) ?_
  · refine ⟨"0",asked speaks word (by decide) ?_,rfl⟩
    rw [dispatchExact known]
    rfl
  · rintro _ rfl
    exact doesPure _

theorem endsSlot {head : String} (known : head ∈ ["*SAV","*RCL"]) (slot : Nat) {command : String}
    (same : command.toList = head.toList ++ ' ' :: (toString slot).toList) :
    Ends upper arithmetic idn (write command) load (.ok ()) load := by
  obtain ⟨ascii,word,mark,unknown,noPulse,plain⟩ := commandsHeard.2.2.2 head known
  rw [← spellSame ascii] at word mark unknown noPulse plain
  apply doesWrite
  intro d shows_
  have uncommon : commonExactHandlers (RigolDl3021.simulator upper arithmetic idn) (normal head.toList) = none := by
    rw [plain,commonExactHandlers,String.ofList_toList]
    rcases List.mem_pair.mp known with rfl | rfl <;> rfl
  have nowhere : (RigolDl3021.personality upper arithmetic).prefixHandlers.find?
      (fun entry => entry.1 (normal head.toList)) = none := by simp [RigolDl3021.personality,noPulse]
  have silent : (RigolDl3021.personality upper arithmetic).responses (normal head.toList) = none := by
    rw [plain]
    refine if_neg ?_
    rw [String.ofList_toList]
    rcases List.mem_pair.mp known with rfl | rfl <;> simp
  have handled := @dispatchUndefined _ (RigolDl3021.simulator upper arithmetic idn)
    (telling head.toList (toString slot).toList) d (RigolDl3021.exactNone unknown) nowhere silent uncommon
  have tells : (telling head.toList (toString slot).toList).isQuery = false := by simpa [telling] using mark
  rw [placeholder,tells] at handled
  exact ⟨_,_,told speaks word (countWord slot) same handled,shows_⟩

theorem endsPreset {head : String} (known : head ∈ ["*SAV","*RCL"]) (slot : Int) :
    Ends upper arithmetic idn (do checked (assertSlot profile slot); write s!"{head} {slot}") load
      (assertSlot profile slot) (settled (assertSlot profile slot) load load) := by
  unfold assertSlot
  split
  · exact doesStop (doesThrow _)
  · rename_i inside
    obtain ⟨n,rfl⟩ := Int.eq_ofNat_of_zero_le (by omega : 0 ≤ slot)
    exact doesBind (doesPure ()) (endsSlot known n (countText head n))

theorem endsKill : Ends upper arithmetic idn disableAllOutputs load (.ok ⟨.ok,["input"],[]⟩) (load.set .input false) :=
  doesCatch (doesBind (endsInput false) (doesPure _))

theorem endsBatteryState :
    Ends upper arithmetic idn (getBatteryState upper) load (.ok load.batteryState) load := by
  have spelled := queriesSpelled
  have asks := spelled.battery
  rw [← List.append_nil (queriesOf batteries)] at asks
  refine endsAsking batteries [] asks fun reply holds => ?_
  have running : parseBool (reply .discharging) = load .discharging := flagRead (holds .discharging)
  have value (field : BatteryField) : parseNumberOrZero (reply (.discharge field)) = load (.discharge field) :=
    numberHeld (holds (.discharge field))
  obtain ⟨text,same,-,mode⟩ := holds .dischargeMode
  obtain rfl := Option.some.inj same
  obtain ⟨text,same,-,reason⟩ := holds .stoppedBy
  obtain rfl := Option.some.inj same
  simp only [batteries,List.map,List.append_nil,List.getD_cons_zero,List.getD_cons_succ,running,value,mode,reason]
  exact doesPure _

theorem initialShown : Shows upper (RigolDl3021.personality upper arithmetic).initialState Load.initial := by
  have current : Word "CURR".toList := by decide
  have none_ : Word "NONE".toList := by decide
  intro s
  cases s with
  | input | pulsing | discharging => exact .inl rfl
  | guarded kind => cases kind <;> exact .inl rfl
  | tripped kind => cases kind <;> exact .inr ⟨rfl,rfl⟩
  | pulseMode => rfl
  | mode =>
    refine ⟨"CURR",rfl,current,?_,?_⟩
    · rw [decodeMode,foldsWord upper current]
      decide
    · rw [upper.ascii _ current.2]
      decide
  | dischargeMode =>
    refine ⟨"CURR",rfl,current,?_⟩
    rw [decodeBatteryMode,foldsWord upper current]
    decide
  | stoppedBy =>
    refine ⟨"NONE",rfl,none_,?_⟩
    rw [decodeStopReason,foldsWord upper none_]
    decide
  | level mode => cases mode <;> refine ⟨_,rfl,?_,?_⟩ <;> decide
  | guard kind => cases kind <;> refine ⟨_,rfl,?_,?_⟩ <;> decide
  | pulse field | discharge field => cases field <;> refine ⟨_,rfl,?_,?_⟩ <;> decide

end

theorem callEnds (call : Call) : Ends upper arithmetic idn (RigolDl3000.method upper arithmetic profile call) load
    (Load.call arithmetic profile load call).2 (Load.call arithmetic profile load call).1 := by
  have accepts {check : Except Failure Unit} {refused : Option String} (same : check = refusal refused)
      {m : RigolDl3000.Dl3000 Unit} {next : Load}
      (ends : Ends upper arithmetic idn m load check (settled check load next)) :
      Ends upper arithmetic idn ((fun _ => Result.done) <$> m) load (load.accepted refused next).2
        (load.accepted refused next).1 := by
    subst same
    cases refused <;> exact doesMap ends
  cases call with
  | getState => exact doesMap endsGetState
  | setInputEnabled enabled => exact doesMap (endsInput enabled)
  | setMode mode => exact doesMap (endsMode mode)
  | setSetpoint mode value => exact accepts (setpointChecked mode value) (endsSetpoint mode value)
  | getSetpoints => exact doesMap endsGetSetpoints
  | measure => exact doesMap endsMeasure
  | getProtection kind =>
    cases kind with
    | otp => exact doesMap endsTouchProtection
    | _ => exact doesMap (endsProtection rfl)
  | setProtectionEnabled kind enabled =>
    cases kind with
    | otp => exact doesMap (doesThrow _)
    | _ => exact doesMap (endsGuarded rfl enabled)
  | setProtectionLevel kind level =>
    cases kind with
    | otp => exact doesMap (doesThrow _)
    | _ => exact accepts (levelChecked _ level) (endsGuard rfl level)
  | clearProtectionTrip kind =>
    cases kind with
    | otp => exact doesMap (endsInput false)
    | _ => exact doesMap (endsClear rfl)
  | getDynamicConfig => exact doesMap endsGetDynamic
  | setDynamicConfig config => exact doesMap (endsSetDynamic config)
  | getBatteryState => exact doesMap endsBatteryState
  | startBattery config => exact doesMap (endsBattery config)
  | stopBattery => exact doesMap endsStopBattery
  | getPresetCatalog =>
    have slots : RigolDl3000.getPresetCatalog profile = Load.catalog profile := by
      simp [RigolDl3000.getPresetCatalog,Load.catalog,List.map_const']
    rw [Load.call,← slots]
    exact doesPure _
  | savePreset slot =>
    exact accepts (slotChecked slot) (endsPreset (List.mem_cons_self) slot)
  | recallPreset slot =>
    exact accepts (slotChecked slot) (endsPreset (List.mem_cons_of_mem _ List.mem_cons_self) slot)
  | disableAllOutputs => exact doesMap endsKill

end

section
variable (upper : UpperCase) (arithmetic : Arithmetic) (profile : Dl3000Profile) (idn : String)

def drive (state : SessionState RigolDl3021.State) (call : Call) :
    SessionState RigolDl3021.State × Except Failure Result :=
  let left := runAlone (port (RigolDl3021.simulator upper arithmetic idn))
    (RigolDl3000.method upper arithmetic profile call).run () state
  (left.world,left.result)

/-- A run of calls from switch-on returns what the load of numbers, switches and modes returns of it. -/
theorem drivenLoad (calls : List Call) :
    returned (drive upper arithmetic profile idn) (RigolDl3021.personality upper arithmetic).initialState calls =
      returned (Load.call arithmetic profile) Load.initial calls := by
  have alike (state : SessionState RigolDl3021.State) (load : Load) (call : Call) (shows_ : Shows upper state load) :
      (drive upper arithmetic profile idn state call).2 = (Load.call arithmetic profile load call).2 ∧
        Shows upper (drive upper arithmetic profile idn state call).1 (Load.call arithmetic profile load call).1 := by
    obtain ⟨next,ran,shown⟩ := callEnds call state shows_
    rw [drive,ran.left]
    exact ⟨rfl,shown⟩
  exact returnedAlike alike initialShown calls

end

end LxiWeb.SimulatedLoad
