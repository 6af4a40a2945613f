import LxiWeb.ReplyTexts
import LxiWeb.ScpiCalls

/-! The DG800/DG900 signal generators: the facade and what its methods send. -/
namespace LxiWeb.Dg900Generator
open JsDecimals JsText OutputKill ReplyTexts ScpiCalls
open CallRuns (require)
open ScpiFraming (JsError)
open SdgWaveforms (BaseWaveform SignalGeneratorWaveform UpperCase WaveformType written)

inductive OutputImpedance where
  | ohm50 | highZ
  deriving DecidableEq, Repr

inductive ModulationType where
  | am | fm | pm | pwm | fsk | ask | psk
  deriving DecidableEq, Repr

inductive ModulationSource where
  | internal | external
  deriving DecidableEq, Repr

inductive ModulationWaveform where
  | sine | square | triangle | ramp | noise
  deriving DecidableEq, Repr

inductive Spacing where
  | linear | logarithmic
  deriving DecidableEq, Repr

inductive Trigger where
  | immediate | external | manual
  deriving DecidableEq, Repr

inductive BurstMode where
  | triggered | gated | nCycle
  deriving DecidableEq, Repr

structure ModulationConfig where
  enabled : Bool
  type : ModulationType
  source : ModulationSource
  depth : Decimal
  modulatingFrequencyHz : Decimal
  modulatingWaveform : ModulationWaveform
  deriving DecidableEq

structure SweepConfig where
  enabled : Bool
  startHz : Decimal
  stopHz : Decimal
  timeSec : Decimal
  spacing : Spacing
  trigger : Trigger
  deriving DecidableEq

structure BurstConfig where
  enabled : Bool
  mode : BurstMode
  cycles : Decimal
  periodSec : Decimal
  trigger : Trigger
  startPhaseDeg : Decimal
  deriving DecidableEq

structure SyncState where
  phaseAligned : Bool
  commonClockEnabled : Bool
  deriving DecidableEq

structure ActualSetpoints where
  frequencyHz : Decimal
  amplitudeVpp : Decimal
  offsetV : Decimal
  deriving DecidableEq

structure Range where
  min : Decimal
  max : Decimal
  deriving DecidableEq

structure ChannelLimits where
  frequencyMaxHz : Decimal
  amplitudeRangeVpp : Range
  offsetRangeV : Range
  outputImpedanceModes : List OutputImpedance
  supportedWaveforms : List WaveformType
  deriving DecidableEq

inductive Channel where
  | ch1 | ch2
  deriving DecidableEq, Repr

instance : ToString Channel where
  toString
    | .ch1 => "1"
    | .ch2 => "2"

def Channel.id : Channel → Nat
  | .ch1 => 1
  | .ch2 => 2

structure ChannelState where
  id : Nat
  label : String
  enabled : Bool
  impedance : OutputImpedance
  waveform : SignalGeneratorWaveform
  actual : ActualSetpoints
  limits : ChannelLimits
  deriving DecidableEq

inductive ChannelCount where
  | one | two
  deriving DecidableEq, Repr

def ChannelCount.count : ChannelCount → Int
  | .one => 1
  | .two => 2

def ChannelCount.channels : ChannelCount → List Channel
  | .one => [.ch1]
  | .two => [.ch1,.ch2]

structure Dg900Profile where
  channelCount : ChannelCount
  frequencyMaxHz : Decimal
  amplitudeMaxVpp : Decimal
  presetSlots : Int

inductive Result where
  | done
  | channels (states : List ChannelState)
  | channel (state : ChannelState)
  | status (actual : ActualSetpoints)
  | modulation (config : ModulationConfig)
  | sweep (config : SweepConfig)
  | burst (config : BurstConfig)
  | sync (state : SyncState)
  | catalog (slots : List Bool)
  | kill (result : OutputKillResult)
  deriving DecidableEq

def OneLine (config : SignalGeneratorWaveform) : Prop :=
  match config with
  | .arbitrary _ builtinName sampleId => ∀ name ∈ builtinName.toList ++ sampleId.toList, '\n' ∉ name.toList
  | _ => True

inductive Call where
  | getChannels
  | getChannelState (channel : Int)
  | getChannelStatus (channel : Int)
  | setChannelEnabled (channel : Int) (enabled : Bool)
  | setWaveform (channel : Int) (config : SignalGeneratorWaveform) (oneLine : OneLine config)
  | setOutputImpedance (channel : Int) (mode : OutputImpedance)
  | getModulation (channel : Int)
  | setModulation (channel : Int) (config : ModulationConfig)
  | getSweep (channel : Int)
  | setSweep (channel : Int) (config : SweepConfig)
  | getBurst (channel : Int)
  | setBurst (channel : Int) (config : BurstConfig)
  | getSync
  | alignPhase
  | setCommonClock (enabled : Bool)
  | getPresetCatalog
  | savePreset (slot : Int)
  | recallPreset (slot : Int)
  | disableAllOutputs

def riseTimeS : SignalGeneratorWaveform → Option Decimal
  | .pulse _ _ riseTimeS _ => riseTimeS
  | _ => none

def fallTimeS : SignalGeneratorWaveform → Option Decimal
  | .pulse _ _ _ fallTimeS => fallTimeS
  | _ => none

def encodeWaveformType : WaveformType → String
  | .sine => "SIN"
  | .square => "SQU"
  | .ramp => "RAMP"
  | .pulse => "PULS"
  | .noise => "NOIS"
  | .dc => "DC"
  | .arbitrary => "USER"

def encodeModulationType : ModulationType → String
  | .am => "AM"
  | .fm => "FM"
  | .pm => "PM"
  | .pwm => "PWM"
  | .fsk => "FSK"
  | .ask => "ASK"
  | .psk => "PSK"

def encodeModulationWaveform : ModulationWaveform → String
  | .sine => "SIN"
  | .square => "SQU"
  | .triangle => "TRI"
  | .ramp => "RAMP"
  | .noise => "NOIS"

def encodeTrigger : Trigger → String
  | .external => "EXT"
  | .manual => "MAN"
  | .immediate => "IMMediate"

def encodeBurstMode : BurstMode → String
  | .gated => "GATed"
  | .nCycle => "NCYCles"
  | .triggered => "TRIGgered"

section
variable (upper : UpperCase)

def decodeWaveformType (raw : String) : WaveformType :=
  let v := folded upper raw
  if "SQU".toList.isPrefixOf v then .square
  else if "RAMP".toList.isPrefixOf v then .ramp
  else if "PULS".toList.isPrefixOf v then .pulse
  else if "NOIS".toList.isPrefixOf v then .noise
  else if "DC".toList.isPrefixOf v then .dc
  else if "USER".toList.isPrefixOf v ∨ "ARB".toList.isPrefixOf v then .arbitrary
  else .sine

def decodeImpedance (raw : String) : OutputImpedance :=
  let v := folded upper raw
  if "INF".toList.isPrefixOf v ∨ v = "HZ".toList ∨ "HIGH".toList.isPrefixOf v then .highZ
  else
    match parseFloat v with
    | some n => if Decimal.lt (literal "1000") n then .highZ else .ohm50
    | none => .ohm50

def decodeModulationType (raw : String) : ModulationType :=
  let v := folded upper raw
  if "FM".toList.isPrefixOf v then .fm
  else if "PWM".toList.isPrefixOf v then .pwm
  else if "PM".toList.isPrefixOf v then .pm
  else if "FSK".toList.isPrefixOf v then .fsk
  else if "ASK".toList.isPrefixOf v then .ask
  else if "PSK".toList.isPrefixOf v then .psk
  else .am

def decodeModulationWaveform (raw : String) : ModulationWaveform :=
  let v := folded upper raw
  if "SQU".toList.isPrefixOf v then .square
  else if "TRI".toList.isPrefixOf v then .triangle
  else if "RAMP".toList.isPrefixOf v then .ramp
  else if "NOIS".toList.isPrefixOf v then .noise
  else .sine

def decodeSweepTrigger (raw : String) : Trigger :=
  let v := folded upper raw
  if "EXT".toList.isPrefixOf v then .external
  else if "MAN".toList.isPrefixOf v ∨ "BUS".toList.isPrefixOf v then .manual
  else .immediate

def decodeBurstTrigger (raw : String) : Trigger := decodeSweepTrigger upper raw

def decodeBurstMode (raw : String) : BurstMode :=
  let v := folded upper raw
  if "GAT".toList.isPrefixOf v then .gated
  else if "NCYC".toList.isPrefixOf v ∨ "N CYC".toList.isPrefixOf v then .nCycle
  else .triggered

end

/- `/EXT/i`; the case of a letter of these words does not matter. -/
def mentions (word raw : String) : Bool :=
  (raw.toList.map Char.toUpper).tails.any fun rest => word.toList.isPrefixOf rest

-- `/EXT/i.test(raw) ? "external" : "internal"`
def decodeModulationSource (raw : String) : ModulationSource := if mentions "EXT" raw then .external else .internal

-- `/LOG/i.test(raw) ? "logarithmic" : "linear"`
def decodeSpacing (raw : String) : Spacing := if mentions "LOG" raw then .logarithmic else .linear

-- `Math.max(1, Math.round(n))`
def wholeCycles (n : Decimal) : Decimal := ofInt (max 1 (round n))

namespace RigolDg900

variable (upper : UpperCase) (profile : Dg900Profile)

abbrev Dg900 := DriverMethod Unit

def zero : Decimal := literal "0"

def amplitudeRange : Range := ⟨literal "0.002",profile.amplitudeMaxVpp⟩

def offsetRange : Range := ⟨literal "-10",literal "10"⟩

def channelLimits : ChannelLimits where
  frequencyMaxHz := profile.frequencyMaxHz
  amplitudeRangeVpp := amplitudeRange profile
  offsetRangeV := offsetRange
  outputImpedanceModes := [.ohm50,.highZ]
  supportedWaveforms := [.sine,.square,.ramp,.pulse,.noise,.dc,.arbitrary]

def assertChannel (channel : Int) : Except Failure Channel :=
  let count := profile.channelCount.count
  if channel < 1 ∨ count < channel then .error (.rangeError s!"channel {channel} outside 1..{count}")
  else if channel = 1 then .ok .ch1
  else .ok .ch2

def assertSlot (slot : Int) : Except Failure Unit :=
  if slot < 0 ∨ profile.presetSlots ≤ slot then
    .error (.rangeError s!"preset slot must be an integer between 0 and {profile.presetSlots - 1}")
  else .ok ()

def bothNamed : SignalGeneratorWaveform → Bool
  | .arbitrary _ builtinName sampleId => (builtinName.getD "") ≠ "" && (sampleId.getD "") ≠ ""
  | _ => false

def validateWaveform (config : SignalGeneratorWaveform) : Except Failure Unit := do
  if let some freq := config.frequencyHz then
    if Decimal.lt freq zero ∨ Decimal.lt profile.frequencyMaxHz freq then
      throw (.rangeError s!"frequency {written freq} outside 0..{written profile.frequencyMaxHz} Hz")
  if let some amp := config.amplitudeVpp then
    let range := amplitudeRange profile
    if Decimal.lt amp range.min ∨ Decimal.lt range.max amp then
      throw (.rangeError s!"amplitude {written amp} outside {written range.min}..{written range.max} Vpp")
  let offset := config.offsetV
  if Decimal.lt offset offsetRange.min ∨ Decimal.lt offsetRange.max offset then
    throw (.rangeError s!"offset {written offset} outside {written offsetRange.min}..{written offsetRange.max} V")
  if let some duty := config.dutyPct then
    if Decimal.lt duty zero ∨ Decimal.lt (literal "100") duty then
      throw (.rangeError s!"duty cycle {written duty} outside 0..100%")
  if bothNamed config then throw (.rangeError "specify builtinName or sampleId, not both")

def waveformOf (type : WaveformType) (base : BaseWaveform) (duty symmetry width rise fall : Decimal) :
    SignalGeneratorWaveform :=
  match type with
  | .sine => .sine base
  | .square => .square base (some duty)
  | .ramp => .ramp base (some symmetry)
  | .pulse => .pulse base (some width) (some rise) (some fall)
  | .noise => .noise base.amplitudeVpp base.offsetV
  | .dc => .dc base.offsetV
  | .arbitrary => .arbitrary base none none

def stateQueries (channel : Channel) : List String :=
  [s!":OUTPut{channel}?", s!":SOURce{channel}:FUNCtion?", s!":SOURce{channel}:FREQuency?",
    s!":SOURce{channel}:VOLTage?", s!":SOURce{channel}:VOLTage:OFFSet?", s!":SOURce{channel}:PHASe?",
    s!":SOURce{channel}:FUNCtion:SQUare:DCYCle?", s!":SOURce{channel}:FUNCtion:RAMP:SYMMetry?",
    s!":SOURce{channel}:FUNCtion:PULSe:WIDTh?", s!":SOURce{channel}:FUNCtion:PULSe:TRANsition:LEADing?",
    s!":SOURce{channel}:FUNCtion:PULSe:TRANsition:TRAiling?", s!":OUTPut{channel}:IMPedance?"]

def getChannelState (channel : Int) : Dg900 ChannelState := do
  let channel ← MonadExcept.ofExcept (assertChannel profile channel)
  let replies ← queryAll (stateQueries channel)
  let value (i : Nat) := parseNumberOrZero (replies.getD i "")
  let type := decodeWaveformType upper (replies.getD 1 "")
  pure { id := channel.id, label := s!"CH{channel}", enabled := parseBool (replies.getD 0 "")
         impedance := decodeImpedance upper (replies.getD 11 "")
         waveform := waveformOf type ⟨value 2,value 3,value 4,some (value 5)⟩ (value 6) (value 7) (value 8) (value 9)
           (value 10)
         actual := ⟨value 2,value 3,value 4⟩, limits := channelLimits profile }

def numbers : List Int :=
  match profile.channelCount with
  | .one => [1]
  | .two => [1,2]

def getChannels : Dg900 (List ChannelState) := (numbers profile).mapM (getChannelState upper profile)

def getChannelStatus (channel : Int) : Dg900 ActualSetpoints := do
  let channel ← MonadExcept.ofExcept (assertChannel profile channel)
  let replies ← queryAll [s!":SOURce{channel}:FREQuency?", s!":SOURce{channel}:VOLTage?",
    s!":SOURce{channel}:VOLTage:OFFSet?"]
  let value (i : Nat) := parseNumberOrZero (replies.getD i "")
  pure ⟨value 0,value 1,value 2⟩

def setChannelEnabled (channel : Int) (enabled : Bool) : Dg900 Unit := do
  let channel ← MonadExcept.ofExcept (assertChannel profile channel)
  write s!":OUTPut{channel} {onOff enabled}"

def writeGiven (header : String) : Option Decimal → Dg900 Unit
  | some n => write s!"{header} {written n}"
  | none => pure ()

def writeName (channel : Channel) : SignalGeneratorWaveform → Dg900 Unit
  | .arbitrary _ builtinName sampleId =>
      let builtin := builtinName.getD ""
      let sample := sampleId.getD ""
      if builtin ≠ "" then write s!":SOURce{channel}:FUNCtion:ARB {builtin}"
      else if sample ≠ "" then write s!":SOURce{channel}:FUNCtion:ARB {sample}"
      else pure ()
  | _ => pure ()

def setWaveform (channel : Int) (config : SignalGeneratorWaveform) : Dg900 Unit := do
  let channel ← MonadExcept.ofExcept (assertChannel profile channel)
  MonadExcept.ofExcept (validateWaveform profile config)
  write s!":SOURce{channel}:FUNCtion {encodeWaveformType config.type}"
  writeGiven s!":SOURce{channel}:FREQuency" config.frequencyHz
  writeGiven s!":SOURce{channel}:VOLTage" config.amplitudeVpp
  write s!":SOURce{channel}:VOLTage:OFFSet {written config.offsetV}"
  writeGiven s!":SOURce{channel}:PHASe" config.phaseDeg
  writeGiven s!":SOURce{channel}:FUNCtion:SQUare:DCYCle" config.dutyPct
  writeGiven s!":SOURce{channel}:FUNCtion:RAMP:SYMMetry" config.symmetryPct
  writeGiven s!":SOURce{channel}:FUNCtion:PULSe:WIDTh" config.widthS
  writeGiven s!":SOURce{channel}:FUNCtion:PULSe:TRANsition:LEADing" (riseTimeS config)
  writeGiven s!":SOURce{channel}:FUNCtion:PULSe:TRANsition:TRAiling" (fallTimeS config)
  writeName channel config

def setOutputImpedance (channel : Int) (mode : OutputImpedance) : Dg900 Unit := do
  let channel ← MonadExcept.ofExcept (assertChannel profile channel)
  let load := if mode = .highZ then "INFinity" else "50"
  write s!":OUTPut{channel}:IMPedance {load}"

def getModulation (channel : Int) : Dg900 ModulationConfig := do
  let channel ← MonadExcept.ofExcept (assertChannel profile channel)
  let replies ← queryAll [s!":SOURce{channel}:MOD?", s!":SOURce{channel}:MOD:TYPe?",
    s!":SOURce{channel}:MOD:AM:SOURce?", s!":SOURce{channel}:MOD:AM:DEPTh?",
    s!":SOURce{channel}:MOD:AM:INTernal:FREQuency?", s!":SOURce{channel}:MOD:AM:INTernal:FUNCtion?"]
  let value (i : Nat) := parseNumberOrZero (replies.getD i "")
  pure { enabled := parseBool (replies.getD 0 ""), type := decodeModulationType upper (replies.getD 1 "")
         source := decodeModulationSource (replies.getD 2 ""), depth := value 3, modulatingFrequencyHz := value 4
         modulatingWaveform := decodeModulationWaveform upper (replies.getD 5 "") }

def setModulation (channel : Int) (config : ModulationConfig) : Dg900 Unit := do
  let channel ← MonadExcept.ofExcept (assertChannel profile channel)
  write s!":SOURce{channel}:MOD:TYPe {encodeModulationType config.type}"
  let source := if config.source = .external then "EXT" else "INT"
  write s!":SOURce{channel}:MOD:AM:SOURce {source}"
  write s!":SOURce{channel}:MOD:AM:DEPTh {written config.depth}"
  write s!":SOURce{channel}:MOD:AM:INTernal:FREQuency {written config.modulatingFrequencyHz}"
  write s!":SOURce{channel}:MOD:AM:INTernal:FUNCtion {encodeModulationWaveform config.modulatingWaveform}"
  write s!":SOURce{channel}:MOD {onOff config.enabled}"

def getSweep (channel : Int) : Dg900 SweepConfig := do
  let channel ← MonadExcept.ofExcept (assertChannel profile channel)
  let replies ← queryAll [s!":SOURce{channel}:SWEep:STATe?", s!":SOURce{channel}:FREQuency:STARt?",
    s!":SOURce{channel}:FREQuency:STOP?", s!":SOURce{channel}:SWEep:TIME?", s!":SOURce{channel}:SWEep:SPACing?",
    s!":SOURce{channel}:SWEep:TRIGger:SOURce?"]
  let value (i : Nat) := parseNumberOrZero (replies.getD i "")
  pure { enabled := parseBool (replies.getD 0 ""), startHz := value 1, stopHz := value 2, timeSec := value 3
         spacing := decodeSpacing (replies.getD 4 ""), trigger := decodeSweepTrigger upper (replies.getD 5 "") }

def setSweep (channel : Int) (config : SweepConfig) : Dg900 Unit := do
  let channel ← MonadExcept.ofExcept (assertChannel profile channel)
  write s!":SOURce{channel}:FREQuency:STARt {written config.startHz}"
  write s!":SOURce{channel}:FREQuency:STOP {written config.stopHz}"
  write s!":SOURce{channel}:SWEep:TIME {written config.timeSec}"
  let spacing := if config.spacing = .logarithmic then "LOGarithmic" else "LINear"
  write s!":SOURce{channel}:SWEep:SPACing {spacing}"
  write s!":SOURce{channel}:SWEep:TRIGger:SOURce {encodeTrigger config.trigger}"
  write s!":SOURce{channel}:SWEep:STATe {onOff config.enabled}"

def getBurst (channel : Int) : Dg900 BurstConfig := do
  let channel ← MonadExcept.ofExcept (assertChannel profile channel)
  let replies ← queryAll [s!":SOURce{channel}:BURSt:STATe?", s!":SOURce{channel}:BURSt:MODE?",
    s!":SOURce{channel}:BURSt:NCYCles?", s!":SOURce{channel}:BURSt:INTernal:PERiod?",
    s!":SOURce{channel}:BURSt:TRIGger:SOURce?", s!":SOURce{channel}:BURSt:PHASe?"]
  let value (i : Nat) := parseNumberOrZero (replies.getD i "")
  pure { enabled := parseBool (replies.getD 0 ""), mode := decodeBurstMode upper (replies.getD 1 "")
         cycles := wholeCycles (value 2), periodSec := value 3
         trigger := decodeBurstTrigger upper (replies.getD 4 ""), startPhaseDeg := value 5 }

def setBurst (channel : Int) (config : BurstConfig) : Dg900 Unit := do
  let channel ← MonadExcept.ofExcept (assertChannel profile channel)
  write s!":SOURce{channel}:BURSt:MODE {encodeBurstMode config.mode}"
  write s!":SOURce{channel}:BURSt:NCYCles {written config.cycles}"
  write s!":SOURce{channel}:BURSt:INTernal:PERiod {written config.periodSec}"
  write s!":SOURce{channel}:BURSt:TRIGger:SOURce {encodeTrigger config.trigger}"
  write s!":SOURce{channel}:BURSt:PHASe {written config.startPhaseDeg}"
  write s!":SOURce{channel}:BURSt:STATe {onOff config.enabled}"

def getSync : Dg900 SyncState := do
  match profile.channelCount with
  | .one =>
      let common ← query ":SYSTem:ROSCillator:SOURce?"
      pure ⟨false,mentions "EXT" common⟩
  | .two =>
      let replies ← queryAll [":PHASe:SYNChronize?", ":SYSTem:ROSCillator:SOURce?"]
      pure ⟨parseBool (replies.getD 0 ""),mentions "EXT" (replies.getD 1 "")⟩

def alignPhase : Dg900 Unit :=
  match profile.channelCount with
  | .one => pure ()
  | .two => write ":PHASe:SYNChronize"

def setCommonClock (enabled : Bool) : Dg900 Unit :=
  let source := if enabled then "EXTernal" else "INTernal"
  write s!":SYSTem:ROSCillator:SOURce {source}"

def getPresetCatalog : List Bool := List.replicate profile.presetSlots.toNat true

def savePreset (slot : Int) : Dg900 Unit := do
  MonadExcept.ofExcept (assertSlot profile slot)
  write s!"*SAV {slot}"

def recallPreset (slot : Int) : Dg900 Unit := do
  MonadExcept.ofExcept (assertSlot profile slot)
  write s!"*RCL {slot}"

def disableAllOutputs : Dg900 OutputKillResult :=
  @runSgDisableAll _ _ caught
    ⟨(fun states => states.map ChannelState.id) <$> getChannels upper profile,
      fun channel enabled => setChannelEnabled profile channel enabled⟩

def method : Call → Dg900 Result
  | .getChannels => .channels <$> getChannels upper profile
  | .getChannelState channel => .channel <$> getChannelState upper profile channel
  | .getChannelStatus channel => .status <$> getChannelStatus profile channel
  | .setChannelEnabled channel enabled => (fun _ => .done) <$> setChannelEnabled profile channel enabled
  | .setWaveform channel config _ => (fun _ => .done) <$> setWaveform profile channel config
  | .setOutputImpedance channel mode => (fun _ => .done) <$> setOutputImpedance profile channel mode
  | .getModulation channel => .modulation <$> getModulation upper profile channel
  | .setModulation channel config => (fun _ => .done) <$> setModulation profile channel config
  | .getSweep channel => .sweep <$> getSweep upper profile channel
  | .setSweep channel config => (fun _ => .done) <$> setSweep profile channel config
  | .getBurst channel => .burst <$> getBurst upper profile channel
  | .setBurst channel config => (fun _ => .done) <$> setBurst profile channel config
  | .getSync => .sync <$> getSync profile
  | .alignPhase => (fun _ => .done) <$> alignPhase profile
  | .setCommonClock enabled => (fun _ => .done) <$> setCommonClock enabled
  | .getPresetCatalog => pure (.catalog (getPresetCatalog profile))
  | .savePreset slot => (fun _ => .done) <$> savePreset profile slot
  | .recallPreset slot => (fun _ => .done) <$> recallPreset profile slot
  | .disableAllOutputs => .kill <$> disableAllOutputs upper profile

end RigolDg900

end LxiWeb.Dg900Generator
