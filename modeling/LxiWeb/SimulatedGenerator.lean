import Mathlib.Data.List.Find
import LxiWeb.Dg900Generator
import LxiWeb.SimulatedCommands
import LxiWeb.StoredSettings

/-! The DG800/DG900 driver on the simulated generators of that family: from switch-on, every run of calls
returns what a generator returns that keeps its settings as numbers, switches and modes. -/
namespace LxiWeb.SimulatedGenerator
open Dg900Generator JsDecimals JsText KeyedWrites OutputKill ReplyTexts ScpiCalls SimulatedCommands SimulatorReplies
open StoredSettings
open CallRuns (runAlone)
open SdgWaveforms (BaseWaveform SignalGeneratorWaveform UpperCase WaveformType written)
open SimulatorFraming (ParsedCommand parseCommand)

structure Dg9xxPersonalityOptions where
  frequencyMaxHz : Decimal
  amplitudeMaxVpp : Decimal
  channelCount : ChannelCount

inductive Parameter where
  | output | function | freq | amp | offset | phase | duty | symmetry | pulseWidth | pulseLead | pulseTrail | impedance
  | arb
  | modState | modType | modSource | modDepth | modFreq | modWave
  | sweepState | sweepStart | sweepStop | sweepTime | sweepSpacing | sweepTrigger
  | burstState | burstMode | burstNcycles | burstPeriod | burstTrigger | burstPhase
  deriving DecidableEq, Repr

namespace Dg9xxPersonality

inductive Key where
  | channel (channel : Channel) (parameter : Parameter)
  | syncPhase
  | syncClock
  deriving DecidableEq, Repr

abbrev State := Table Key String

def initialText : Parameter → String
  | .output => "OFF"
  | .function => "SIN"
  | .freq => "1000"
  | .amp => "1.0"
  | .offset => "0"
  | .phase => "0"
  | .duty => "50"
  | .symmetry => "50"
  | .pulseWidth => "0.0005"
  | .pulseLead => "0.000000005"
  | .pulseTrail => "0.000000005"
  | .impedance => "50"
  | .arb => "SINC"
  | .modState => "OFF"
  | .modType => "AM"
  | .modSource => "INT"
  | .modDepth => "50"
  | .modFreq => "1000"
  | .modWave => "SIN"
  | .sweepState => "OFF"
  | .sweepStart => "100"
  | .sweepStop => "1000"
  | .sweepTime => "1"
  | .sweepSpacing => "LIN"
  | .sweepTrigger => "IMM"
  | .burstState => "OFF"
  | .burstMode => "TRIG"
  | .burstNcycles => "1"
  | .burstPeriod => "0.01"
  | .burstTrigger => "IMM"
  | .burstPhase => "0"

def defaultState (count : ChannelCount) : State
  | .channel channel parameter => if channel ∈ count.channels then some (initialText parameter) else none
  | .syncPhase => some "0"
  | .syncClock => some "INT"

inductive Node where
  | output | source
  deriving DecidableEq, Repr

def Node.name : Node → String
  | .output => "OUTPUT"
  | .source => "SOURCE"

inductive Limit where
  | number (text : String)
  | frequencyMaxHz
  | amplitudeMaxVpp
  deriving DecidableEq

def Limit.of (options : Dg9xxPersonalityOptions) : Limit → Decimal
  | .number text => literal text
  | .frequencyMaxHz => options.frequencyMaxHz
  | .amplitudeMaxVpp => options.amplitudeMaxVpp

inductive Stores where
  | upper
  | clamped (min max : Limit)
  | impedance
  deriving DecidableEq

/- `^${node}([12])${tail}\??$`, where the question mark is part of it, and what its handler keeps. -/
structure Entry where
  node : Node
  tail : String
  key : Parameter
  fallback : String
  stores : Stores
  mark : Bool
  deriving DecidableEq

def simpleSetOrGet (tail : String) (key : Parameter) (fallback : String) (clamp : Option (Limit × Limit)) : Entry :=
  ⟨.source,tail,key,fallback,match clamp with
    | some (min,max) => .clamped min max
    | none => .upper,true⟩

def channelHandlers : List Entry :=
  [⟨.output,"",.output,"OFF",.upper,true⟩,
    ⟨.output,":IMPEDANCE",.impedance,"50",.impedance,true⟩,
    simpleSetOrGet ":FUNCTION" .function "SIN" none,
    simpleSetOrGet ":FREQUENCY" .freq "0" (some (.number "0",.frequencyMaxHz)),
    simpleSetOrGet ":VOLTAGE" .amp "1" (some (.number "0.002",.amplitudeMaxVpp)),
    simpleSetOrGet ":VOLTAGE:OFFSET" .offset "0" (some (.number "-10",.number "10")),
    simpleSetOrGet ":PHASE" .phase "0" (some (.number "-360",.number "360")),
    simpleSetOrGet ":FUNCTION:SQUARE:DCYCLE" .duty "50" (some (.number "0",.number "100")),
    simpleSetOrGet ":FUNCTION:RAMP:SYMMETRY" .symmetry "50" (some (.number "0",.number "100")),
    simpleSetOrGet ":FUNCTION:PULSE:WIDTH" .pulseWidth "0.0005" none,
    simpleSetOrGet ":FUNCTION:PULSE:TRANSITION:LEADING" .pulseLead "5e-9" none,
    simpleSetOrGet ":FUNCTION:PULSE:TRANSITION:TRAILING" .pulseTrail "5e-9" none,
    simpleSetOrGet ":FUNCTION:ARB" .arb "SINC" none,
    simpleSetOrGet ":MOD" .modState "OFF" none,
    simpleSetOrGet ":MOD:TYPE" .modType "AM" none,
    simpleSetOrGet ":MOD:AM:SOURCE" .modSource "INT" none,
    simpleSetOrGet ":MOD:AM:DEPTH" .modDepth "0" none,
    simpleSetOrGet ":MOD:AM:INTERNAL:FREQUENCY" .modFreq "0" none,
    simpleSetOrGet ":MOD:AM:INTERNAL:FUNCTION" .modWave "SIN" none,
    simpleSetOrGet ":SWEEP:STATE" .sweepState "OFF" none,
    simpleSetOrGet ":FREQUENCY:START" .sweepStart "0" none,
    simpleSetOrGet ":FREQUENCY:STOP" .sweepStop "0" none,
    simpleSetOrGet ":SWEEP:TIME" .sweepTime "1" none,
    simpleSetOrGet ":SWEEP:SPACING" .sweepSpacing "LIN" none,
    simpleSetOrGet ":SWEEP:TRIGGER:SOURCE" .sweepTrigger "IMM" none,
    simpleSetOrGet ":BURST:STATE" .burstState "OFF" none,
    simpleSetOrGet ":BURST:MODE" .burstMode "TRIG" none,
    simpleSetOrGet ":BURST:NCYCLES" .burstNcycles "1" none,
    simpleSetOrGet ":BURST:INTERNAL:PERIOD" .burstPeriod "0.01" none,
    simpleSetOrGet ":BURST:TRIGGER:SOURCE" .burstTrigger "IMM" none,
    simpleSetOrGet ":BURST:PHASE" .burstPhase "0" none,
    -- a sample that is copied
    ⟨.source,":DATA:COPY",.arb,"USER",.upper,false⟩]

-- `Math.max(min, Math.min(max, n))`
def clamp (min max n : Decimal) : Decimal :=
  let below := if Decimal.lt n max then n else max
  if Decimal.lt min below then below else min

def clampNumber (raw : List Char) (min max : Decimal) : List Char :=
  match parseFloat raw with
  | none => raw
  | some n => (clamp min max n).text

section
variable (upper : UpperCase) (options : Dg9xxPersonalityOptions)

def stored : Stores → List Char → List Char
  | .upper, arg => upper.apply arg
  | .clamped min max, arg => clampNumber arg (min.of options) (max.of options)
  | .impedance, arg =>
      let raw := upper.apply arg
      if "INF".toList.isPrefixOf raw ∨ raw = "HZ".toList then "INF".toList else "50".toList

def digits (count : ChannelCount) : List Char :=
  match count with
  | .one => ['1']
  | .two => ['1','2']

def Entry.matches_ (e : Entry) (normalized : List Char) : Bool :=
  match normalized.dropPrefix? e.node.name.toList with
  | some (digit :: rest) =>
      digit ∈ digits options.channelCount &&
        (rest == e.tail.toList || (e.mark && rest == e.tail.toList ++ ['?']))
  | _ => false

def channelKey (normalized : List Char) : Channel := if normalized[6]? = some '2' then .ch2 else .ch1

def entered (state : SessionState State) (key : Key) (text : List Char) : SessionState State :=
  { state with values := write state.values (entry key (some (String.ofList text))) }

def Entry.handler (e : Entry) : Handler State := fun cmd state =>
  let key := Key.channel (channelKey cmd.normalized) e.key
  if cmd.isQuery then (state,.returns (.ok (.line ((state.values key).getD e.fallback))))
  else (entered state key (stored upper options e.stores (cmd.args.headD e.fallback.toList)),.returns (.ok .none))

def readsKey (key : Key) (fallback : String) : Handler State := fun _ state =>
  (state,.returns (.ok (.line ((state.values key).getD fallback))))

def rosc : Handler State := fun cmd state =>
  if cmd.isQuery then readsKey .syncClock "INT" cmd state
  else (entered state .syncClock (upper.apply (cmd.args.headD "INT".toList)),.returns (.ok .none))

def exactHandlers (normalized : List Char) : Option (Handler State) :=
  List.lookup (String.ofList normalized)
    [("PHASE:SYNCHRONIZE",answers .none), ("PHASE:SYNCHRONIZE?",readsKey .syncPhase "0"),
      ("SYSTEM:ROSCILLATOR:SOURCE",rosc upper), ("SYSTEM:ROSCILLATOR:SOURCE?",readsKey .syncClock "INT")]

def makeDg9xxPersonality : Personality State where
  exactHandlers := exactHandlers upper
  prefixHandlers := channelHandlers.map fun e => (e.matches_ options,e.handler upper options)
  responses _ := none
  initialState := ⟨[],defaultState options.channelCount⟩

def simulator (idn : String) : Simulator State :=
  ⟨makeDg9xxPersonality upper options,idn,"",[ScpiFraming.LF],upper.apply⟩

end

end Dg9xxPersonality

open Dg9xxPersonality

abbrev Parameter.Value : Parameter → Type
  | .output | .modState | .sweepState | .burstState => Bool
  | .function => WaveformType
  | .freq | .amp | .offset | .phase | .duty | .symmetry | .pulseWidth | .pulseLead | .pulseTrail | .modDepth
  | .modFreq | .sweepStart | .sweepStop | .sweepTime | .burstNcycles | .burstPeriod | .burstPhase => Decimal
  | .impedance => OutputImpedance
  | .arb => Unit
  | .modType => ModulationType
  | .modSource => ModulationSource
  | .modWave => ModulationWaveform
  | .sweepSpacing => Spacing
  | .sweepTrigger | .burstTrigger => Trigger
  | .burstMode => BurstMode

inductive Setting where
  | of (channel : Channel) (parameter : Parameter)
  | clock
  deriving DecidableEq, Repr

abbrev Setting.Value : Setting → Type
  | .of _ parameter => Parameter.Value parameter
  | .clock => Bool

/- A signal generator as a user knows it. Which arbitrary waveform is played cannot be asked. -/
abbrev Generator := (s : Setting) → s.Value

namespace Generator

variable (options : Dg9xxPersonalityOptions) (profile : Dg900Profile) (generator : Generator) (channel : Channel)

def set (s : Setting) (v : s.Value) : Generator := Function.update generator s v

def range : Parameter → Option Range
  | .freq => some ⟨literal "0",options.frequencyMaxHz⟩
  | .amp => some ⟨literal "0.002",options.amplitudeMaxVpp⟩
  | .offset => some ⟨literal "-10",literal "10"⟩
  | .phase => some ⟨literal "-360",literal "360"⟩
  | .duty | .symmetry => some ⟨literal "0",literal "100"⟩
  | _ => none

def within (range : Range) (n : Decimal) : Decimal :=
  if Decimal.le range.max n then
    if Decimal.le range.max range.min then range.min else range.max
  else if Decimal.le n range.min then range.min
  else n

def limited (parameter : Parameter) (n : Decimal) : Decimal :=
  match range options parameter with
  | some range => within range n
  | none => n

def given (s : Setting) : Option s.Value → Generator
  | some v => generator.set s v
  | none => generator

def actual : ActualSetpoints :=
  ⟨generator (.of channel .freq),generator (.of channel .amp),generator (.of channel .offset)⟩

def waveform : SignalGeneratorWaveform :=
  let setting (parameter : Parameter) := generator (.of channel parameter)
  let base : BaseWaveform := ⟨setting .freq,setting .amp,setting .offset,some (setting .phase)⟩
  match setting .function with
  | .sine => .sine base
  | .square => .square base (some (setting .duty))
  | .ramp => .ramp base (some (setting .symmetry))
  | .pulse => .pulse base (some (setting .pulseWidth)) (some (setting .pulseLead)) (some (setting .pulseTrail))
  | .noise => .noise (setting .amp) (setting .offset)
  | .dc => .dc (setting .offset)
  | .arbitrary => .arbitrary base none none

def limits : ChannelLimits :=
  ⟨profile.frequencyMaxHz,⟨literal "0.002",profile.amplitudeMaxVpp⟩,⟨literal "-10",literal "10"⟩,[.ohm50,.highZ],
    [.sine,.square,.ramp,.pulse,.noise,.dc,.arbitrary]⟩

def channelState : ChannelState where
  id := channel.id
  label := s!"CH{channel}"
  enabled := generator (.of channel .output)
  impedance := generator (.of channel .impedance)
  waveform := generator.waveform channel
  actual := generator.actual channel
  limits := limits profile

def setWaveform (config : SignalGeneratorWaveform) : Generator :=
  let generator := generator.set (.of channel .function) config.type
  let generator := generator.given (.of channel .freq) (config.frequencyHz.map (limited options .freq))
  let generator := generator.given (.of channel .amp) (config.amplitudeVpp.map (limited options .amp))
  let generator := generator.set (.of channel .offset) (limited options .offset config.offsetV)
  let generator := generator.given (.of channel .phase) (config.phaseDeg.map (limited options .phase))
  let generator := generator.given (.of channel .duty) (config.dutyPct.map (limited options .duty))
  let generator := generator.given (.of channel .symmetry) (config.symmetryPct.map (limited options .symmetry))
  let generator := generator.given (.of channel .pulseWidth) (config.widthS.map (limited options .pulseWidth))
  let generator := generator.given (.of channel .pulseLead) ((riseTimeS config).map (limited options .pulseLead))
  generator.given (.of channel .pulseTrail) ((fallTimeS config).map (limited options .pulseTrail))

def modulation : ModulationConfig :=
  let setting (parameter : Parameter) := generator (.of channel parameter)
  ⟨setting .modState,setting .modType,setting .modSource,setting .modDepth,setting .modFreq,setting .modWave⟩

def setModulation (config : ModulationConfig) : Generator :=
  (((((generator.set (.of channel .modType) config.type).set (.of channel .modSource) config.source).set
    (.of channel .modDepth) config.depth).set (.of channel .modFreq) config.modulatingFrequencyHz).set
    (.of channel .modWave) config.modulatingWaveform).set (.of channel .modState) config.enabled

def sweep : SweepConfig :=
  let setting (parameter : Parameter) := generator (.of channel parameter)
  ⟨setting .sweepState,setting .sweepStart,setting .sweepStop,setting .sweepTime,setting .sweepSpacing,
    setting .sweepTrigger⟩

def setSweep (config : SweepConfig) : Generator :=
  (((((generator.set (.of channel .sweepStart) config.startHz).set (.of channel .sweepStop) config.stopHz).set
    (.of channel .sweepTime) config.timeSec).set (.of channel .sweepSpacing) config.spacing).set
    (.of channel .sweepTrigger) config.trigger).set (.of channel .sweepState) config.enabled

def burst : BurstConfig :=
  let setting (parameter : Parameter) := generator (.of channel parameter)
  let cycles := round (setting .burstNcycles)
  ⟨setting .burstState,setting .burstMode,ofInt (if cycles < 1 then 1 else cycles),setting .burstPeriod,
    setting .burstTrigger,setting .burstPhase⟩

def setBurst (config : BurstConfig) : Generator :=
  (((((generator.set (.of channel .burstMode) config.mode).set (.of channel .burstNcycles) config.cycles).set
    (.of channel .burstPeriod) config.periodSec).set (.of channel .burstTrigger) config.trigger).set
    (.of channel .burstPhase) config.startPhaseDeg).set (.of channel .burstState) config.enabled

def numbered (n : Int) : Except String Channel :=
  match profile.channelCount.channels.find? fun channel => channel.id = n with
  | some channel => .ok channel
  | none => .error s!"channel {n} outside 1..{profile.channelCount.channels.length}"

def outside (range : Range) (x : Decimal) : Bool := Decimal.lt x range.min || Decimal.lt range.max x

def against (quantity unit : String) (range : Range) (given : Option Decimal) : List String :=
  (given.filter (outside range)).toList.map fun x =>
    s!"{quantity} {written x} outside {written range.min}..{written range.max}{unit}"

def againstNames : SignalGeneratorWaveform → List String
  | .arbitrary _ (some builtin) (some sample) =>
      if builtin = "" ∨ sample = "" then [] else ["specify builtinName or sampleId, not both"]
  | _ => []

def objections (config : SignalGeneratorWaveform) : List String :=
  against "frequency" " Hz" ⟨literal "0",profile.frequencyMaxHz⟩ config.frequencyHz ++
    against "amplitude" " Vpp" ⟨literal "0.002",profile.amplitudeMaxVpp⟩ config.amplitudeVpp ++
    against "offset" " V" ⟨literal "-10",literal "10"⟩ (some config.offsetV) ++
    against "duty cycle" "%" ⟨literal "0",literal "100"⟩ config.dutyPct ++ againstNames config

def unopposed : List String → Except String Unit
  | [] => .ok ()
  | objection :: _ => .error objection

def slotted (slot : Int) : Except String Unit :=
  if 0 ≤ slot ∧ slot < profile.presetSlots then .ok ()
  else .error s!"preset slot must be an integer between 0 and {profile.presetSlots - 1}"

def accepted {α : Type} (check : Except String α) (next : α → Generator × Result) :
    Generator × Except Failure Result :=
  match check with
  | .ok a => ((next a).1,.ok (next a).2)
  | .error reason => (generator,.error (.rangeError reason))

def call : Call → Generator × Except Failure Result
  | .getChannels => (generator,.ok (.channels (profile.channelCount.channels.map (generator.channelState profile))))
  | .getChannelState n =>
      generator.accepted (numbered profile n) fun ch => (generator,.channel (generator.channelState profile ch))
  | .getChannelStatus n =>
      generator.accepted (numbered profile n) fun ch => (generator,.status (generator.actual ch))
  | .setChannelEnabled n enabled =>
      generator.accepted (numbered profile n) fun ch => (generator.set (.of ch .output) enabled,.done)
  | .setWaveform n config _ =>
      generator.accepted (do let ch ← numbered profile n; unopposed (objections profile config); pure ch) fun ch =>
        (generator.setWaveform options ch config,.done)
  | .setOutputImpedance n mode =>
      generator.accepted (numbered profile n) fun ch => (generator.set (.of ch .impedance) mode,.done)
  | .getModulation n =>
      generator.accepted (numbered profile n) fun ch => (generator,.modulation (generator.modulation ch))
  | .setModulation n config =>
      generator.accepted (numbered profile n) fun ch => (generator.setModulation ch config,.done)
  | .getSweep n => generator.accepted (numbered profile n) fun ch => (generator,.sweep (generator.sweep ch))
  | .setSweep n config =>
      generator.accepted (numbered profile n) fun ch => (generator.setSweep ch config,.done)
  | .getBurst n => generator.accepted (numbered profile n) fun ch => (generator,.burst (generator.burst ch))
  | .setBurst n config =>
      generator.accepted (numbered profile n) fun ch => (generator.setBurst ch config,.done)
  | .getSync => (generator,.ok (.sync ⟨false,generator .clock⟩))
  | .alignPhase => (generator,.ok .done)
  | .setCommonClock enabled => (generator.set .clock enabled,.ok .done)
  | .getPresetCatalog => (generator,.ok (.catalog ((List.range profile.presetSlots.toNat).map fun _ => true)))
  | .savePreset slot | .recallPreset slot =>
      generator.accepted (slotted profile slot) fun _ => (generator,.done)
  | .disableAllOutputs =>
      let channels := profile.channelCount.channels
      (channels.foldl (fun generator ch => generator.set (.of ch .output) false) generator,
        .ok (.kill ⟨.ok,channels.map fun ch => s!"CH{ch}",[]⟩))

def initial : Generator
  | .of _ parameter => match parameter with
    | .output | .modState | .sweepState | .burstState => false
    | .function => .sine
    | .freq | .modFreq | .sweepStop => literal "1000"
    | .amp | .sweepTime | .burstNcycles => literal "1"
    | .offset | .phase | .burstPhase => literal "0"
    | .duty | .symmetry | .modDepth => literal "50"
    | .pulseWidth => literal "0.0005"
    | .pulseLead | .pulseTrail => literal "5e-9"
    | .impedance => .ohm50
    | .arb => ()
    | .modType => .am
    | .modSource => .internal
    | .modWave => .sine
    | .sweepStart => literal "100"
    | .sweepSpacing => .linear
    | .sweepTrigger | .burstTrigger => .immediate
    | .burstMode => .triggered
    | .burstPeriod => literal "0.01"
  | .clock => false

end Generator

def digitOf : Channel → Char
  | .ch1 => '1'
  | .ch2 => '2'

def headOf : Node → String
  | .output => ":OUTPut"
  | .source => ":SOURce"

namespace Parameter

def all : List Parameter :=
  [.output,.function,.freq,.amp,.offset,.phase,.duty,.symmetry,.pulseWidth,.pulseLead,.pulseTrail,.impedance,.arb,
    .modState,.modType,.modSource,.modDepth,.modFreq,.modWave,.sweepState,.sweepStart,.sweepStop,.sweepTime,
    .sweepSpacing,.sweepTrigger,.burstState,.burstMode,.burstNcycles,.burstPeriod,.burstTrigger,.burstPhase]

theorem listed (p : Parameter) : p ∈ all := by cases p <;> decide

def limits : Parameter → Option (Limit × Limit)
  | .freq => some (.number "0",.frequencyMaxHz)
  | .amp => some (.number "0.002",.amplitudeMaxVpp)
  | .offset => some (.number "-10",.number "10")
  | .phase => some (.number "-360",.number "360")
  | .duty | .symmetry => some (.number "0",.number "100")
  | _ => none

def node : Parameter → Node
  | .output | .impedance => .output
  | _ => .source

def tail : Parameter → String
  | .output => ""
  | .function => ":FUNCtion"
  | .freq => ":FREQuency"
  | .amp => ":VOLTage"
  | .offset => ":VOLTage:OFFSet"
  | .phase => ":PHASe"
  | .duty => ":FUNCtion:SQUare:DCYCle"
  | .symmetry => ":FUNCtion:RAMP:SYMMetry"
  | .pulseWidth => ":FUNCtion:PULSe:WIDTh"
  | .pulseLead => ":FUNCtion:PULSe:TRANsition:LEADing"
  | .pulseTrail => ":FUNCtion:PULSe:TRANsition:TRAiling"
  | .impedance => ":IMPedance"
  | .arb => ":FUNCtion:ARB"
  | .modState => ":MOD"
  | .modType => ":MOD:TYPe"
  | .modSource => ":MOD:AM:SOURce"
  | .modDepth => ":MOD:AM:DEPTh"
  | .modFreq => ":MOD:AM:INTernal:FREQuency"
  | .modWave => ":MOD:AM:INTernal:FUNCtion"
  | .sweepState => ":SWEep:STATe"
  | .sweepStart => ":FREQuency:STARt"
  | .sweepStop => ":FREQuency:STOP"
  | .sweepTime => ":SWEep:TIME"
  | .sweepSpacing => ":SWEep:SPACing"
  | .sweepTrigger => ":SWEep:TRIGger:SOURce"
  | .burstState => ":BURSt:STATe"
  | .burstMode => ":BURSt:MODE"
  | .burstNcycles => ":BURSt:NCYCles"
  | .burstPeriod => ":BURSt:INTernal:PERiod"
  | .burstTrigger => ":BURSt:TRIGger:SOURce"
  | .burstPhase => ":BURSt:PHASe"

def stores : Parameter → Stores
  | .impedance => .impedance
  | p => match limits p with
    | some (min,max) => .clamped min max
    | none => .upper

def entryFor (node : Node) (rest : List Char) : Option Entry :=
  channelHandlers.find? fun e =>
    e.node = node && (rest == spell e.tail || (e.mark && rest == spell e.tail ++ ['?']))

def Heard (p : Parameter) (rest : List Char) : Prop :=
  (entryFor p.node rest).map (fun e => (e.key,e.stores)) = some (p,p.stores)

instance (p : Parameter) (rest : List Char) : Decidable (p.Heard rest) := inferInstanceAs (Decidable (_ = _))

def Tail (p : Parameter) : Prop :=
  Ascii p.tail ∧ (∀ channel ∈ [Channel.ch1,.ch2], Word (digitOf channel :: spell p.tail)) ∧ '?' ∉ spell p.tail ∧
    p.Heard ((spell p.tail).map Char.toUpper) ∧ p.Heard ((spell p.tail).map Char.toUpper ++ ['?'])

instance (p : Parameter) : Decidable p.Tail := inferInstanceAs (Decidable (_ ∧ _))

theorem tailsHeard : (∀ e ∈ channelHandlers, Ascii e.tail) ∧ ∀ p ∈ all, p.Tail := by decide

section
variable (upper : UpperCase)

def decode : (p : Parameter) → String → p.Value
  | .output | .modState | .sweepState | .burstState => parseBool
  | .function => decodeWaveformType upper
  | .freq | .amp | .offset | .phase | .duty | .symmetry | .pulseWidth | .pulseLead | .pulseTrail | .modDepth
  | .modFreq | .sweepStart | .sweepStop | .sweepTime | .burstNcycles | .burstPeriod | .burstPhase => parseNumberOrZero
  | .impedance => decodeImpedance upper
  | .arb => fun _ => ()
  | .modType => decodeModulationType upper
  | .modSource => decodeModulationSource
  | .modWave => decodeModulationWaveform upper
  | .sweepSpacing => decodeSpacing
  | .sweepTrigger => decodeSweepTrigger upper
  | .burstTrigger => decodeBurstTrigger upper
  | .burstMode => decodeBurstMode upper

end

end Parameter

/- What is kept of a setting is read as its value; names of waveforms are not read at all. -/
def Setting.Holds (upper : UpperCase) (count : ChannelCount) : (s : Setting) → Option String → s.Value → Prop
  | .of channel p, kept, v => channel ∈ count.channels → p ≠ .arb →
      ∃ text : String, kept = some text ∧ Word text.toList ∧ p.decode upper text = v
  | .clock, kept, v => ∃ text : String, kept = some text ∧ Word text.toList ∧ mentions "EXT" text = v

def Setting.key : Setting → Key
  | .of channel p => .channel channel p
  | .clock => .syncClock

theorem keysApart : Function.Injective Setting.key := by
  intro s t same
  cases s <;> cases t <;> cases same <;> rfl

def encoding (upper : UpperCase) (count : ChannelCount) : Encoding Setting Key String :=
  ⟨Setting.Value,Setting.key,Setting.Holds upper count,keysApart⟩

section
variable {upper : UpperCase} {options : Dg9xxPersonalityOptions} {profile : Dg900Profile} {idn : String}
  {state : SessionState State} {generator : Generator} {channel : Channel} {p : Parameter}

theorem speaks : Speaks (simulator upper options idn) upper := ⟨rfl,rfl⟩

def header (channel : Channel) (p : Parameter) : String := headOf p.node ++ toString channel ++ p.tail

theorem tailHeard (p : Parameter) : p.Tail := Parameter.tailsHeard.2 p p.listed

theorem headerText (channel : Channel) (p : Parameter) :
    (header channel p).toList = (headOf p.node).toList ++ digitOf channel :: spell p.tail := by
  have digit : (toString channel).toList = [digitOf channel] := by cases channel <;> rfl
  rw [header,String.toList_append,String.toList_append,digit,spellSame (tailHeard p).1]
  simp

theorem headerWord (channel : Channel) (p : Parameter) : Word (header channel p).toList := by
  have front : Word (headOf p.node).toList := by cases p.node <;> decide
  rw [headerText]
  exact front.append ((tailHeard p).2.1 channel (by cases channel <;> decide))

theorem noMark (channel : Channel) (p : Parameter) : (header channel p).toList.getLast? ≠ some '?' := by
  have mark : '?' ∉ (headOf p.node).toList ++ digitOf channel :: spell p.tail := by
    simp only [List.mem_append,List.mem_cons,not_or]
    refine ⟨?_,?_,(tailHeard p).2.2.1⟩
    · cases p.node <;> decide
    · cases channel <;> decide
  rw [headerText]
  exact fun last => mark (List.mem_of_getLast? last)

theorem askText (channel : Channel) (p : Parameter) : (header channel p ++ "?").toList =
    (headOf p.node).toList ++ digitOf channel :: (spell p.tail ++ ['?']) := by
  rw [String.toList_append,headerText,List.append_assoc]
  rfl

theorem normalHeader (node : Node) (channel : Channel) (rest : List Char) :
    normal ((headOf node).toList ++ digitOf channel :: rest) =
      node.name.toList ++ digitOf channel :: rest.map Char.toUpper := by
  cases node <;> cases channel <;> rfl

theorem foundBy (there : channel ∈ options.channelCount.channels) (node : Node) (rest : List Char) :
    (makeDg9xxPersonality upper options).prefixHandlers.find?
        (fun entry => entry.1 (node.name.toList ++ digitOf channel :: rest)) =
      (Parameter.entryFor node rest).map fun e => (e.matches_ options,e.handler upper options) := by
  have digit : digitOf channel ∈ digits options.channelCount := by
    revert there
    cases options.channelCount <;> cases channel <;> decide
  have same (e : Entry) (known : e ∈ channelHandlers) :
      e.matches_ options (node.name.toList ++ digitOf channel :: rest) =
        (decide (e.node = node) && (rest == spell e.tail || (e.mark && rest == spell e.tail ++ ['?']))) := by
    rw [← spellSame (Parameter.tailsHeard.1 e known)]
    by_cases own : e.node = node
    · subst own
      have below : (e.node.name.toList ++ digitOf channel :: rest).dropPrefix? e.node.name.toList =
          some (digitOf channel :: rest) := List.dropPrefix?_append_of_beq _ (by simp)
      simp [Entry.matches_,below,digit]
    · have other : (node.name.toList ++ digitOf channel :: rest).dropPrefix? e.node.name.toList = none := by
        cases node <;> cases from_ : e.node <;> first | exact absurd from_ own | rfl
      simp [Entry.matches_,other,own]
  rw [makeDg9xxPersonality,List.find?_map,Parameter.entryFor]
  congr 1
  exact List.find?_congr fun e known => same e known

theorem notExact (node : Node) (rest : List Char) : exactHandlers upper (node.name.toList ++ rest) = none := by
  rw [exactHandlers,lookupSpelled (by simp only [List.forall_mem_cons]; decide)]
  cases node <;> rfl

theorem handles (there : channel ∈ options.channelCount.channels) {parsed : ParsedCommand} {rest : List Char}
    (same : parsed.normalized = p.node.name.toList ++ digitOf channel :: rest) (heard : p.Heard rest) :
    ∃ e : Entry, e.key = p ∧ e.stores = p.stores ∧ channelKey parsed.normalized = channel ∧
      dispatch (simulator upper options idn) parsed state = e.handler upper options parsed state := by
  obtain ⟨e,found,known⟩ := Option.map_eq_some_iff.mp heard
  obtain ⟨key,stores⟩ := Prod.mk.inj known
  have digit : channelKey parsed.normalized = channel := by
    rw [same]
    cases p.node <;> cases channel <;> rfl
  have listed : (makeDg9xxPersonality upper options).prefixHandlers.find? (fun entry => entry.1 parsed.normalized) =
      some (e.matches_ options,e.handler upper options) := by
    rw [same,foundBy there,found]
    rfl
  refine ⟨e,key,stores,digit,@dispatchPrefix _ (simulator upper options idn) _ _ ?_ _ listed⟩
  rw [same]
  exact notExact p.node _

def kept (upper : UpperCase) (options : Dg9xxPersonalityOptions) (p : Parameter) (arg : List Char) : List Char :=
  stored upper options p.stores arg

theorem handlesAsk (there : channel ∈ options.channelCount.channels) {text : String}
    (kept : state.values (.channel channel p) = some text) :
    dispatch (simulator upper options idn) (asking (header channel p ++ "?").toList) state =
      (state,.returns (.ok (.line text))) := by
  have same : (asking (header channel p ++ "?").toList).normalized =
      p.node.name.toList ++ digitOf channel :: ((spell p.tail).map Char.toUpper ++ ['?']) := by
    simp only [asking,askText,normalHeader,List.map_append]
    rfl
  obtain ⟨e,key,-,digit,handled⟩ := @handles upper options idn state channel p there _ _ same (tailHeard p).2.2.2.2
  have query : (asking (header channel p ++ "?").toList).isQuery = true := by simp [asking]
  rw [handled,Entry.handler,digit,key,kept,if_pos query]
  rfl

theorem handlesTell (there : channel ∈ options.channelCount.channels) {parsed : ParsedCommand}
    (same : parsed.normalized = normal (header channel p).toList) (query : parsed.isQuery = false) :
    ∃ fallback, dispatch (simulator upper options idn) parsed state =
      (entered state (.channel channel p) (kept upper options p (parsed.args.headD fallback)),
        .returns (.ok .none)) := by
  rw [headerText,normalHeader] at same
  obtain ⟨e,key,stores,digit,handled⟩ := @handles upper options idn state channel p there _ _ same (tailHeard p).2.2.2.1
  refine ⟨e.fallback.toList,?_⟩
  rw [handled,Entry.handler,digit,key,stores,query]
  rfl

variable (upper options) in
def Shows (d : SessionState State) (generator : Generator) : Prop :=
  (encoding upper options.channelCount).Shows d.values generator ∧ d.values .syncPhase = some "0"

variable (upper options idn) in
/- The call ends with `result`, and the simulator then shows `next`. -/
def Ends {α : Type} (m : RigolDg900.Dg900 α) (generator : Generator) (result : Except Failure α) (next : Generator) :
    Prop :=
  Does (simulator upper options idn) (Shows upper options) m () generator result () next

theorem reads (shows_ : Shows upper options state generator) (there : channel ∈ options.channelCount.channels)
    (known : p ≠ .arb) :
    ∃ text, Takes (simulator upper options idn) state (.query (header channel p ++ "?")) state (some text) ∧
      p.decode upper text = generator (.of channel p) := by
  obtain ⟨text,kept,word,reads⟩ := shows_.1 (.of channel p) there known
  have mark : Word "?".toList := by decide
  have ask : Word (header channel p ++ "?").toList := by
    rw [String.toList_append]
    exact (headerWord channel p).append mark
  exact ⟨text,asked speaks ask word (handlesAsk there kept),reads⟩

theorem stays (shows_ : Shows upper options state generator) {s : Setting} {text : List Char} {v : s.Value}
    (holds : s.Holds upper options.channelCount (some (String.ofList text)) v) :
    Shows upper options (entered state s.key text) (generator.set s v) := by
  refine ⟨showsStore (e := encoding upper options.channelCount) shows_.1 holds,?_⟩
  have other : Key.syncPhase ≠ s.key := by cases s <;> nofun
  exact (writeOther other _ _).trans shows_.2

theorem sets (there : channel ∈ options.channelCount.channels) {command arg : String} (word : Word arg.toList)
    {v : p.Value} (keeps : Word (kept upper options p arg.toList) ∧
      p.decode upper (String.ofList (kept upper options p arg.toList)) = v)
    (same : command.toList = (header channel p).toList ++ ' ' :: arg.toList) :
    Ends upper options idn (write command) generator (.ok ()) (generator.set (.of channel p) v) := by
  apply doesWrite
  intro d shows_
  have query : (telling (header channel p).toList arg.toList).isQuery = false := by
    simpa [telling] using noMark channel p
  obtain ⟨fallback,handled⟩ := @handlesTell upper options idn d channel p there _ rfl query
  refine ⟨_,_,told speaks (headerWord channel p) word same handled,stays (s := .of channel p) shows_ fun _ _ => ?_⟩
  exact ⟨_,rfl,by rw [String.toList_ofList]; exact keeps.1,keeps.2⟩

theorem clampWithin (min max n : Decimal) : clamp min max n = Generator.within ⟨min,max⟩ n := by
  by_cases above : Decimal.le max n
  · by_cases crossed : Decimal.le max min <;> simp [clamp,Generator.within,Decimal.lt,above,crossed]
  · by_cases below : Decimal.le n min <;> simp [clamp,Generator.within,Decimal.lt,above,below]

theorem rangeLimits (p : Parameter) :
    Generator.range options p = p.limits.map fun limits => ⟨limits.1.of options,limits.2.of options⟩ := by
  cases p <;> rfl

theorem keptNumber (plain : p ≠ .impedance) (x : Decimal) : Word (kept upper options p x.text) ∧
    parseNumberOrZero (String.ofList (kept upper options p x.text)) = Generator.limited options p x := by
  have stores : p.stores = match p.limits with
      | some (min,max) => .clamped min max
      | none => .upper := by cases p <;> first | rfl | exact absurd rfl plain
  rw [parseNumberOrZero,String.toList_ofList,kept,stores,Generator.limited,rangeLimits]
  cases p.limits with
  | none => exact ⟨upperWord upper (textWord x),by rw [stored,numberReadUpper]; rfl⟩
  | some limits =>
    simp only [stored,clampNumber,numberRead,clampWithin,Option.map_some]
    exact ⟨textWord _,rfl⟩

theorem endsNumber (there : channel ∈ options.channelCount.channels) (plain : p ≠ .impedance)
    {f : Decimal → p.Value} (reads : ∀ text, p.decode upper text = f (parseNumberOrZero text)) (x : Decimal)
    {command : String} (same : command.toList = (header channel p).toList ++ ' ' :: (written x).toList) :
    Ends upper options idn (write command) generator (.ok ())
      (generator.set (.of channel p) (f (Generator.limited options p x))) := by
  obtain ⟨word,number⟩ := @keptNumber upper options p plain x
  refine sets there (writtenWord x) ?_ same
  rw [written,String.toList_ofList,reads,number]
  exact ⟨word,rfl⟩

theorem endsWord (there : channel ∈ options.channelCount.channels) (plain : p.stores = .upper) {command arg : String}
    (word : Word arg.toList) {v : p.Value}
    (reads : p.decode upper (String.ofList (arg.toList.map Char.toUpper)) = v)
    (same : command.toList = (header channel p).toList ++ ' ' :: arg.toList) :
    Ends upper options idn (write command) generator (.ok ()) (generator.set (.of channel p) v) := by
  have capital : kept upper options p arg.toList = arg.toList.map Char.toUpper := by
    rw [kept,plain,stored,upper.ascii _ word.2]
  refine sets there word ?_ same
  rw [capital,reads]
  refine ⟨?_,rfl⟩
  rw [← upper.ascii _ word.2]
  exact upperWord upper word

section
open RigolDg900

attribute [simp] header headOf Parameter.node Parameter.tail

def queriesOf (channel : Channel) (parameters : List Parameter) : List String :=
  parameters.map fun p => header channel p ++ "?"

theorem endsAsking {β : Type} {f : List String → Dg900 β} {result : Except Failure β} {next : Generator}
    (there : channel ∈ options.channelCount.channels) (parameters : List Parameter)
    (known : ∀ p ∈ parameters, p ≠ .arb) {commands : List String} (asks : commands = queriesOf channel parameters)
    (rest : ∀ reply : Parameter → String,
      (∀ p : Parameter, p ≠ .arb → p.decode upper (reply p) = generator (.of channel p)) →
      Ends upper options idn (f (parameters.map reply)) generator result next) :
    Ends upper options idn (queryAll commands >>= f) generator result next := by
  subst asks
  refine doesAskAll (P := fun texts => ∃ reply : Parameter → String,
    (∀ p : Parameter, p ≠ .arb → p.decode upper (reply p) = generator (.of channel p)) ∧ texts = parameters.map reply)
    (fun d shows_ => ?_) ?_
  · have one (p : Parameter) : ∃ text, p ≠ .arb →
        Takes (simulator upper options idn) d (.query (header channel p ++ "?")) d (some text) ∧
          p.decode upper text = generator (.of channel p) := by
      by_cases named : p = .arb
      · exact ⟨"",fun other => absurd named other⟩
      · obtain ⟨text,answered⟩ := @reads upper options idn d generator channel p shows_ there named
        exact ⟨text,fun _ => answered⟩
    choose reply answered using one
    refine ⟨parameters.map reply,?_,reply,fun p named => (answered p named).2,rfl⟩
    rw [Answers,queriesOf,List.forall₂_map_left_iff,List.forall₂_map_right_iff]
    exact List.forall₂_same.mpr fun p member => (answered p (known p member)).1
  · rintro _ ⟨reply,holds,rfl⟩
    exact rest reply holds

def stateParameters : List Parameter :=
  [.output,.function,.freq,.amp,.offset,.phase,.duty,.symmetry,.pulseWidth,.pulseLead,.pulseTrail,.impedance]

def modulationParameters : List Parameter := [.modState,.modType,.modSource,.modDepth,.modFreq,.modWave]

def sweepParameters : List Parameter := [.sweepState,.sweepStart,.sweepStop,.sweepTime,.sweepSpacing,.sweepTrigger]

def burstParameters : List Parameter := [.burstState,.burstMode,.burstNcycles,.burstPeriod,.burstTrigger,.burstPhase]

structure Spelled (channel : Channel) : Prop where
  state : stateQueries channel = queriesOf channel stateParameters
  status : [s!":SOURce{channel}:FREQuency?", s!":SOURce{channel}:VOLTage?", s!":SOURce{channel}:VOLTage:OFFSet?"] =
    queriesOf channel [.freq,.amp,.offset]
  modulation : [s!":SOURce{channel}:MOD?", s!":SOURce{channel}:MOD:TYPe?", s!":SOURce{channel}:MOD:AM:SOURce?",
    s!":SOURce{channel}:MOD:AM:DEPTh?", s!":SOURce{channel}:MOD:AM:INTernal:FREQuency?",
    s!":SOURce{channel}:MOD:AM:INTernal:FUNCtion?"] = queriesOf channel modulationParameters
  sweep : [s!":SOURce{channel}:SWEep:STATe?", s!":SOURce{channel}:FREQuency:STARt?",
    s!":SOURce{channel}:FREQuency:STOP?", s!":SOURce{channel}:SWEep:TIME?", s!":SOURce{channel}:SWEep:SPACing?",
    s!":SOURce{channel}:SWEep:TRIGger:SOURce?"] = queriesOf channel sweepParameters
  burst : [s!":SOURce{channel}:BURSt:STATe?", s!":SOURce{channel}:BURSt:MODE?",
    s!":SOURce{channel}:BURSt:NCYCles?", s!":SOURce{channel}:BURSt:INTernal:PERiod?",
    s!":SOURce{channel}:BURSt:TRIGger:SOURce?", s!":SOURce{channel}:BURSt:PHASe?"] = queriesOf channel burstParameters

theorem queriesSpelled (channel : Channel) : Spelled channel := by
  constructor <;> cases channel <;> decide

theorem endsOpened {α β : Type} {check : Except Failure α} {a : α} (checked : check = .ok a) {m : α → Dg900 β}
    {result : Except Failure β} {next : Generator} (ends : Ends upper options idn (m a) generator result next) :
    Ends upper options idn (MonadExcept.ofExcept check >>= m) generator result next := by
  rw [checked]
  exact ends

theorem assertedThere {n : Int} (asserted : assertChannel profile n = .ok channel) :
    channel ∈ profile.channelCount.channels := by
  dsimp only [assertChannel] at asserted
  by_cases outside : n < 1 ∨ profile.channelCount.count < n
  · rw [if_pos outside] at asserted
    cases asserted
  · rw [if_neg outside] at asserted
    cases count : profile.channelCount with
    | one =>
      have only_ : n = 1 := by
        rw [count,ChannelCount.count] at outside
        omega
      rw [if_pos only_] at asserted
      cases asserted
      decide
    | two => cases channel <;> decide

theorem assertOwn (there : channel ∈ profile.channelCount.channels) :
    assertChannel profile channel.id = .ok channel := by
  unfold assertChannel
  revert there
  cases profile.channelCount <;> cases channel <;> decide

theorem waveformRead : generator.waveform channel =
    waveformOf (generator (.of channel .function)) ⟨generator (.of channel .freq),generator (.of channel .amp),
      generator (.of channel .offset),some (generator (.of channel .phase))⟩ (generator (.of channel .duty))
      (generator (.of channel .symmetry)) (generator (.of channel .pulseWidth)) (generator (.of channel .pulseLead))
      (generator (.of channel .pulseTrail)) := by
  dsimp only [Generator.waveform,waveformOf]
  cases generator (.of channel .function) <;> rfl

theorem endsChannelState (there : channel ∈ options.channelCount.channels) {n : Int}
    (asserted : assertChannel profile n = .ok channel) :
    Ends upper options idn (getChannelState upper profile n) generator (.ok (generator.channelState profile channel))
      generator := by
  have asks := (queriesSpelled channel).state
  refine endsOpened asserted (endsAsking there stateParameters (by decide) asks fun reply holds => ?_)
  simp only [stateParameters,List.map,List.getD_cons_zero,List.getD_cons_succ]
  simp (disch := decide) only [Generator.channelState,waveformRead,Generator.actual,← holds]
  exact doesPure _

theorem endsStatus (there : channel ∈ options.channelCount.channels) {n : Int}
    (asserted : assertChannel profile n = .ok channel) :
    Ends upper options idn (getChannelStatus profile n) generator (.ok (generator.actual channel)) generator := by
  have asks := (queriesSpelled channel).status
  refine endsOpened asserted (endsAsking there [.freq,.amp,.offset] (by decide) asks fun reply holds => ?_)
  simp only [List.map,List.getD_cons_zero,List.getD_cons_succ]
  simp (disch := decide) only [Generator.actual,← holds]
  exact doesPure _

theorem endsModulation (there : channel ∈ options.channelCount.channels) {n : Int}
    (asserted : assertChannel profile n = .ok channel) :
    Ends upper options idn (getModulation upper profile n) generator (.ok (generator.modulation channel))
      generator := by
  have asks := (queriesSpelled channel).modulation
  refine endsOpened asserted (endsAsking there modulationParameters (by decide) asks fun reply holds => ?_)
  simp only [modulationParameters,List.map,List.getD_cons_zero,List.getD_cons_succ]
  simp (disch := decide) only [Generator.modulation,← holds]
  exact doesPure _

theorem endsSweep (there : channel ∈ options.channelCount.channels) {n : Int}
    (asserted : assertChannel profile n = .ok channel) :
    Ends upper options idn (getSweep upper profile n) generator (.ok (generator.sweep channel)) generator := by
  have asks := (queriesSpelled channel).sweep
  refine endsOpened asserted (endsAsking there sweepParameters (by decide) asks fun reply holds => ?_)
  simp only [sweepParameters,List.map,List.getD_cons_zero,List.getD_cons_succ]
  simp (disch := decide) only [Generator.sweep,← holds]
  exact doesPure _

theorem atLeastOne (n : Decimal) : wholeCycles n = ofInt (if round n < 1 then 1 else round n) := by
  rw [wholeCycles]
  congr 1
  split <;> omega

theorem endsBurst (there : channel ∈ options.channelCount.channels) {n : Int}
    (asserted : assertChannel profile n = .ok channel) :
    Ends upper options idn (getBurst upper profile n) generator (.ok (generator.burst channel)) generator := by
  have asks := (queriesSpelled channel).burst
  refine endsOpened asserted (endsAsking there burstParameters (by decide) asks fun reply holds => ?_)
  simp only [burstParameters,List.map,List.getD_cons_zero,List.getD_cons_succ,atLeastOne]
  simp (disch := decide) only [Generator.burst,← holds]
  exact doesPure _

theorem flagRead (on : Bool) : parseBool (String.ofList ((onOff on).toList.map Char.toUpper)) = on := by
  cases on <;> decide

theorem endsOutput (there : channel ∈ options.channelCount.channels) {n : Int}
    (asserted : assertChannel profile n = .ok channel) (enabled : Bool) :
    Ends upper options idn (setChannelEnabled profile n enabled) generator (.ok ())
      (generator.set (.of channel .output) enabled) := by
  refine endsOpened asserted (endsWord (p := .output) there rfl (onOffWord enabled) (flagRead enabled) ?_)
  simp [toString]

def impedanceText (mode : OutputImpedance) : String := if mode = .highZ then "INFinity" else "50"

theorem endsImpedance (there : channel ∈ options.channelCount.channels) {n : Int}
    (asserted : assertChannel profile n = .ok channel) (mode : OutputImpedance) :
    Ends upper options idn (setOutputImpedance profile n mode) generator (.ok ())
      (generator.set (.of channel .impedance) mode) := by
  have arg : Word (impedanceText mode).toList := by cases mode <;> decide
  have capital := upper.ascii _ arg.2
  have keeps : kept upper options .impedance (impedanceText mode).toList =
      (if mode = .highZ then "INF" else "50").toList := by
    rw [kept,Parameter.stores,stored,capital]
    cases mode <;> rfl
  have word : Word (if mode = .highZ then "INF" else "50").toList := by cases mode <;> decide
  refine endsOpened asserted (sets (p := .impedance) there arg ⟨by rw [keeps]; exact word,?_⟩ ?_)
  · rw [keeps,String.ofList_toList,Parameter.decode,decodeImpedance,foldsWord upper word]
    cases mode <;> decide
  · simp [toString,impedanceText]

theorem modulationTypeRead (type : ModulationType) : Word (encodeModulationType type).toList ∧
    decodeModulationType upper (String.ofList ((encodeModulationType type).toList.map Char.toUpper)) = type := by
  have word : Word (String.ofList ((encodeModulationType type).toList.map Char.toUpper)).toList := by
    cases type <;> decide
  refine ⟨by cases type <;> decide,?_⟩
  rw [decodeModulationType,foldsWord upper word]
  cases type <;> decide

theorem modulationWaveformRead (wave : ModulationWaveform) : Word (encodeModulationWaveform wave).toList ∧
    decodeModulationWaveform upper (String.ofList ((encodeModulationWaveform wave).toList.map Char.toUpper)) =
      wave := by
  have word : Word (String.ofList ((encodeModulationWaveform wave).toList.map Char.toUpper)).toList := by
    cases wave <;> decide
  refine ⟨by cases wave <;> decide,?_⟩
  rw [decodeModulationWaveform,foldsWord upper word]
  cases wave <;> decide

theorem sourceRead (source : ModulationSource) : Word (if source = .external then "EXT" else "INT").toList ∧
    decodeModulationSource (String.ofList ((if source = .external then "EXT" else "INT").toList.map Char.toUpper)) =
      source := by
  cases source <;> decide

theorem spacingRead (spacing : Spacing) : Word (if spacing = .logarithmic then "LOGarithmic" else "LINear").toList ∧
    decodeSpacing (String.ofList
      ((if spacing = .logarithmic then "LOGarithmic" else "LINear").toList.map Char.toUpper)) = spacing := by
  cases spacing <;> decide

theorem triggerRead (trigger : Trigger) : Word (encodeTrigger trigger).toList ∧
    decodeSweepTrigger upper (String.ofList ((encodeTrigger trigger).toList.map Char.toUpper)) = trigger := by
  have word : Word (String.ofList ((encodeTrigger trigger).toList.map Char.toUpper)).toList := by
    cases trigger <;> decide
  refine ⟨by cases trigger <;> decide,?_⟩
  rw [decodeSweepTrigger,foldsWord upper word]
  cases trigger <;> decide

theorem burstModeRead (mode : BurstMode) : Word (encodeBurstMode mode).toList ∧
    decodeBurstMode upper (String.ofList ((encodeBurstMode mode).toList.map Char.toUpper)) = mode := by
  have word : Word (String.ofList ((encodeBurstMode mode).toList.map Char.toUpper)).toList := by
    cases mode <;> decide
  refine ⟨by cases mode <;> decide,?_⟩
  rw [decodeBurstMode,foldsWord upper word]
  cases mode <;> decide

theorem waveformTypeRead (type : WaveformType) : Word (encodeWaveformType type).toList ∧
    decodeWaveformType upper (String.ofList ((encodeWaveformType type).toList.map Char.toUpper)) = type := by
  have word : Word (String.ofList ((encodeWaveformType type).toList.map Char.toUpper)).toList := by
    cases type <;> decide
  refine ⟨by cases type <;> decide,?_⟩
  rw [decodeWaveformType,foldsWord upper word]
  cases type <;> decide

theorem endsSetModulation (there : channel ∈ options.channelCount.channels) {n : Int}
    (asserted : assertChannel profile n = .ok channel) (config : ModulationConfig) :
    Ends upper options idn (setModulation profile n config) generator (.ok ())
      (generator.setModulation channel config) := by
  obtain ⟨type,typeRead⟩ := @modulationTypeRead upper config.type
  obtain ⟨source,sourceRead⟩ := sourceRead config.source
  obtain ⟨wave,waveRead⟩ := @modulationWaveformRead upper config.modulatingWaveform
  refine endsOpened asserted ?_
  refine doesBind (endsWord (p := .modType) there rfl type typeRead (by simp [toString])) ?_
  refine doesBind (endsWord (p := .modSource) there rfl source sourceRead (by simp [toString])) ?_
  refine doesBind (endsNumber (p := .modDepth) (f := id) there nofun (fun _ => rfl) config.depth
    (by simp [toString])) ?_
  refine doesBind (endsNumber (p := .modFreq) (f := id) there nofun (fun _ => rfl) config.modulatingFrequencyHz
    (by simp [toString])) ?_
  refine doesBind (endsWord (p := .modWave) there rfl wave waveRead (by simp [toString])) ?_
  exact endsWord (p := .modState) there rfl (onOffWord config.enabled) (flagRead config.enabled) (by simp [toString])

theorem endsSetSweep (there : channel ∈ options.channelCount.channels) {n : Int}
    (asserted : assertChannel profile n = .ok channel) (config : SweepConfig) :
    Ends upper options idn (setSweep profile n config) generator (.ok ()) (generator.setSweep channel config) := by
  obtain ⟨spacing,spacingRead⟩ := spacingRead config.spacing
  obtain ⟨trigger,triggerRead⟩ := @triggerRead upper config.trigger
  refine endsOpened asserted ?_
  refine doesBind (endsNumber (p := .sweepStart) (f := id) there nofun (fun _ => rfl) config.startHz
    (by simp [toString])) ?_
  refine doesBind (endsNumber (p := .sweepStop) (f := id) there nofun (fun _ => rfl) config.stopHz
    (by simp [toString])) ?_
  refine doesBind (endsNumber (p := .sweepTime) (f := id) there nofun (fun _ => rfl) config.timeSec
    (by simp [toString])) ?_
  refine doesBind (endsWord (p := .sweepSpacing) there rfl spacing spacingRead (by simp [toString])) ?_
  refine doesBind (endsWord (p := .sweepTrigger) there rfl trigger triggerRead (by simp [toString])) ?_
  exact endsWord (p := .sweepState) there rfl (onOffWord config.enabled) (flagRead config.enabled) (by simp [toString])

theorem endsSetBurst (there : channel ∈ options.channelCount.channels) {n : Int}
    (asserted : assertChannel profile n = .ok channel) (config : BurstConfig) :
    Ends upper options idn (setBurst profile n config) generator (.ok ()) (generator.setBurst channel config) := by
  obtain ⟨mode,modeRead⟩ := @burstModeRead upper config.mode
  obtain ⟨trigger,triggerRead⟩ := @triggerRead upper config.trigger
  refine endsOpened asserted ?_
  refine doesBind (endsWord (p := .burstMode) there rfl mode modeRead (by simp [toString])) ?_
  refine doesBind (endsNumber (p := .burstNcycles) (f := id) there nofun (fun _ => rfl) config.cycles
    (by simp [toString])) ?_
  refine doesBind (endsNumber (p := .burstPeriod) (f := id) there nofun (fun _ => rfl) config.periodSec
    (by simp [toString])) ?_
  refine doesBind (endsWord (p := .burstTrigger) there rfl trigger triggerRead (by simp [toString])) ?_
  refine doesBind (endsNumber (p := .burstPhase) (f := id) there nofun (fun _ => rfl) config.startPhaseDeg
    (by simp [toString])) ?_
  exact endsWord (p := .burstState) there rfl (onOffWord config.enabled) (flagRead config.enabled) (by simp [toString])

theorem endsGiven (there : channel ∈ options.channelCount.channels) (plain : p ≠ .impedance)
    {f : Decimal → p.Value} (reads : ∀ text, p.decode upper text = f (parseNumberOrZero text)) {head : String}
    (named : head = header channel p) (o : Option Decimal) :
    Ends upper options idn (writeGiven head o) generator (.ok ())
      (generator.given (.of channel p) (o.map fun x => f (Generator.limited options p x))) := by
  cases o with
  | none => exact doesPure ()
  | some x => exact endsNumber there plain reads x (by rw [named]; simp [toString])

theorem endsName (there : channel ∈ options.channelCount.channels) {name : String} (oneLine : '\n' ∉ name.toList) :
    Ends upper options idn (write s!":SOURce{channel}:FUNCtion:ARB {name}") generator (.ok ()) generator := by
  apply doesWrite
  intro d shows_
  have same : (s!":SOURce{channel}:FUNCtion:ARB {name}").toList =
      (header channel .arb).toList ++ ' ' :: name.toList := by simp [toString]
  have untouched : generator.set (.of channel .arb) () = generator := Function.update_eq_self _ _
  obtain ⟨next,taken,shown⟩ := @toldText _ (simulator upper options idn) _ _ _ d speaks (headerWord channel .arb) _
    oneLine same (fun next => Shows upper options next generator) fun raw args => by
      obtain ⟨fallback,handled⟩ := @handlesTell upper options idn d channel .arb there
        ⟨raw,(header channel .arb).toList.map Char.toUpper,normal (header channel .arb).toList,args,
          (header channel .arb).toList.getLast? = some '?'⟩ rfl (by simpa using noMark channel .arb)
      have shown := @stays upper options d generator shows_ (.of channel .arb) (kept upper options .arb
        (args.headD fallback)) () fun _ named => absurd rfl named
      rw [untouched] at shown
      exact ⟨_,handled,shown⟩
  exact ⟨next,"",taken,shown⟩

theorem endsWriteName (there : channel ∈ options.channelCount.channels) {config : SignalGeneratorWaveform}
    (oneLine : OneLine config) :
    Ends upper options idn (writeName channel config) generator (.ok ()) generator := by
  have plain (name : Option String) (of : ∀ text ∈ name.toList, '\n' ∉ text.toList) : '\n' ∉ (name.getD "").toList := by
    cases name with
    | none => simp
    | some text => exact of text (by simp)
  unfold writeName
  split
  · rename_i builtinName sampleId
    dsimp only
    split
    · exact endsName there (plain builtinName fun text member => oneLine text (by simp_all))
    · split
      · exact endsName there (plain sampleId fun text member => oneLine text (by simp_all))
      · exact doesPure ()
  · exact doesPure ()

theorem endsSetWaveform (there : channel ∈ options.channelCount.channels) {n : Int}
    (asserted : assertChannel profile n = .ok channel) {config : SignalGeneratorWaveform}
    (valid : validateWaveform profile config = .ok ()) (oneLine : OneLine config) :
    Ends upper options idn (setWaveform profile n config) generator (.ok ())
      (generator.setWaveform options channel config) := by
  obtain ⟨type,typeRead⟩ := @waveformTypeRead upper config.type
  refine endsOpened asserted (endsOpened valid ?_)
  refine doesBind (endsWord (p := .function) there rfl type typeRead (by simp [toString])) ?_
  refine doesBind (endsGiven (p := .freq) (f := id) there nofun (fun _ => rfl) (by simp [toString]) _) ?_
  refine doesBind (endsGiven (p := .amp) (f := id) there nofun (fun _ => rfl) (by simp [toString]) _) ?_
  refine doesBind (endsNumber (p := .offset) (f := id) there nofun (fun _ => rfl) config.offsetV
    (by simp [toString])) ?_
  refine doesBind (endsGiven (p := .phase) (f := id) there nofun (fun _ => rfl) (by simp [toString]) _) ?_
  refine doesBind (endsGiven (p := .duty) (f := id) there nofun (fun _ => rfl) (by simp [toString]) _) ?_
  refine doesBind (endsGiven (p := .symmetry) (f := id) there nofun (fun _ => rfl) (by simp [toString]) _) ?_
  refine doesBind (endsGiven (p := .pulseWidth) (f := id) there nofun (fun _ => rfl) (by simp [toString]) _) ?_
  refine doesBind (endsGiven (p := .pulseLead) (f := id) there nofun (fun _ => rfl) (by simp [toString]) _) ?_
  refine doesBind (endsGiven (p := .pulseTrail) (f := id) there nofun (fun _ => rfl) (by simp [toString]) _) ?_
  exact endsWriteName there oneLine

def commonCommands : List (String × String) :=
  [(":PHASe:SYNChronize","PHASE:SYNCHRONIZE"), (":PHASe:SYNChronize?","PHASE:SYNCHRONIZE?"),
    (":SYSTem:ROSCillator:SOURce","SYSTEM:ROSCILLATOR:SOURCE"),
    (":SYSTem:ROSCillator:SOURce?","SYSTEM:ROSCILLATOR:SOURCE?"), ("*SAV","*SAV"), ("*RCL","*RCL")]

theorem commonHeard : ∀ entry ∈ commonCommands,
    Word entry.1.toList ∧ String.ofList (normal entry.1.toList) = entry.2 := by decide

theorem normalCommon {command header : String} (known : (command,header) ∈ commonCommands) :
    Word command.toList ∧ normal command.toList = header.toList := by
  obtain ⟨word,same⟩ := commonHeard _ known
  have whole := congrArg String.toList same
  rw [String.toList_ofList] at whole
  exact ⟨word,whole⟩

theorem sharedRead {command header : String} {key : Key} {fallback : String}
    (known : (command,header) ∈ commonCommands) {text : String}
    (found : exactHandlers upper header.toList = some (readsKey key fallback)) (kept : state.values key = some text)
    (word : Word text.toList) :
    Takes (simulator upper options idn) state (.query command) state (some text) := by
  obtain ⟨ask,same⟩ := normalCommon known
  refine asked speaks ask word ?_
  have handler : (simulator upper options idn).personality.exactHandlers (asking command.toList).normalized =
      some (readsKey key fallback) := by
    rw [asking,same]
    exact found
  rw [dispatchExact handler,readsKey,kept]
  rfl

theorem endsGetSync : Ends upper options idn (getSync profile) generator (.ok ⟨false,generator .clock⟩) generator := by
  have phaseKnown : (":PHASe:SYNChronize?","PHASE:SYNCHRONIZE?") ∈ commonCommands := by simp [commonCommands]
  have clockKnown : (":SYSTem:ROSCillator:SOURce?","SYSTEM:ROSCILLATOR:SOURCE?") ∈ commonCommands := by
    simp [commonCommands]
  have phase (d : SessionState State) (shows_ : Shows upper options d generator) :
      Takes (simulator upper options idn) d (.query ":PHASe:SYNChronize?") d (some "0") :=
    sharedRead phaseKnown rfl shows_.2 (by decide)
  have clock (d : SessionState State) (shows_ : Shows upper options d generator) : ∃ text,
      Takes (simulator upper options idn) d (.query ":SYSTem:ROSCillator:SOURce?") d (some text) ∧
        mentions "EXT" text = generator .clock := by
    obtain ⟨text,kept,word,reads⟩ := shows_.1 .clock
    exact ⟨text,sharedRead clockKnown rfl kept word,reads⟩
  unfold getSync
  split
  · refine doesAsk (P := fun text => mentions "EXT" text = generator .clock) clock fun text reads => ?_
    rw [reads]
    exact doesPure _
  · refine doesAskAll (P := fun texts => parseBool (texts.getD 0 "") = false ∧
      mentions "EXT" (texts.getD 1 "") = generator .clock) (fun d shows_ => ?_) fun texts reads => ?_
    · obtain ⟨text,answered,reads⟩ := clock d shows_
      have off : parseBool "0" = false := by decide
      exact ⟨["0",text],.cons (phase d shows_) (.cons answered .nil),off,reads⟩
    · rw [reads.1,reads.2]
      exact doesPure _

theorem endsAlignPhase : Ends upper options idn (alignPhase profile) generator (.ok ()) generator := by
  unfold alignPhase
  split
  · exact doesPure ()
  · have known : (":PHASe:SYNChronize","PHASE:SYNCHRONIZE") ∈ commonCommands := by simp [commonCommands]
    obtain ⟨word,same⟩ := normalCommon known
    apply doesWrite
    intro d shows_
    have handler : (simulator upper options idn).personality.exactHandlers
        (asking ":PHASe:SYNChronize".toList).normalized = some (answers .none) := by
      rw [asking,same]
      rfl
    exact ⟨_,_,toldBare speaks word (dispatchExact handler),shows_⟩

def clockText (enabled : Bool) : String := if enabled then "EXTernal" else "INTernal"

theorem endsCommonClock (enabled : Bool) :
    Ends upper options idn (setCommonClock enabled) generator (.ok ()) (generator.set .clock enabled) := by
  have known : (":SYSTem:ROSCillator:SOURce","SYSTEM:ROSCILLATOR:SOURCE") ∈ commonCommands := by simp [commonCommands]
  obtain ⟨word,same⟩ := normalCommon known
  have arg : Word (clockText enabled).toList := by cases enabled <;> decide
  have capital := upper.ascii _ arg.2
  apply doesWrite
  intro d shows_
  have handler : (simulator upper options idn).personality.exactHandlers
      (telling ":SYSTem:ROSCillator:SOURce".toList (clockText enabled).toList).normalized = some (rosc upper) := by
    rw [telling,same]
    rfl
  have query : (telling ":SYSTem:ROSCillator:SOURce".toList (clockText enabled).toList).isQuery = false := by
    simp [telling]
  have kept : dispatch (simulator upper options idn)
      (telling ":SYSTem:ROSCillator:SOURce".toList (clockText enabled).toList) d =
        (entered d .syncClock (upper.apply (clockText enabled).toList),.returns (.ok .none)) := by
    rw [dispatchExact handler,rosc,query]
    rfl
  refine ⟨_,_,told speaks word arg (by simp [toString,clockText]) kept,stays (s := .clock) shows_ ⟨_,rfl,?_,?_⟩⟩
  · rw [String.toList_ofList]
    exact upperWord upper arg
  · rw [capital]
    cases enabled <;> decide

theorem endsSlot {head : String} (known : head ∈ ["*SAV","*RCL"]) (slot : Nat) {command : String}
    (same : command.toList = head.toList ++ ' ' :: (toString slot).toList) :
    Ends upper options idn (write command) generator (.ok ()) generator := by
  have listed : (head,head) ∈ commonCommands := by
    rcases List.mem_pair.mp known with rfl | rfl <;> simp [commonCommands]
  obtain ⟨word,plain⟩ := normalCommon listed
  have mark : head.toList.getLast? ≠ some '?' := by rcases List.mem_pair.mp known with rfl | rfl <;> decide
  apply doesWrite
  intro d shows_
  have handled : dispatch (simulator upper options idn) (telling head.toList (toString slot).toList) d =
      (pushError d (-113) s!"Undefined header: {String.ofList (telling head.toList (toString slot).toList).raw}",
        .returns (.ok .none)) := by
    have noMark : (telling head.toList (toString slot).toList).isQuery = false := by simpa [telling] using mark
    have none_ : exactHandlers upper (normal head.toList) = none := by
      rw [plain,exactHandlers,String.ofList_toList]
      rcases List.mem_pair.mp known with rfl | rfl <;> rfl
    have nowhere : (makeDg9xxPersonality upper options).prefixHandlers.find?
        (fun entry => entry.1 (normal head.toList)) = none := by
      rw [plain,makeDg9xxPersonality,List.find?_map,Option.map_eq_none_iff,List.find?_eq_none]
      intro e _
      have other : head.toList.dropPrefix? e.node.name.toList = none := by
        rcases List.mem_pair.mp known with rfl | rfl <;> cases e.node <;> decide
      simp [Entry.matches_,other]
    have uncommon : commonExactHandlers (simulator upper options idn) (normal head.toList) = none := by
      rw [plain,commonExactHandlers,String.ofList_toList]
      rcases List.mem_pair.mp known with rfl | rfl <;> rfl
    rw [@dispatchUndefined _ (simulator upper options idn) (telling head.toList (toString slot).toList) d none_ nowhere
      rfl uncommon,placeholder,noMark]
    rfl
  exact ⟨_,_,told speaks word (countWord slot) same handled,shows_⟩

theorem endsPreset {head : String} (known : head ∈ ["*SAV","*RCL"]) {slot : Int}
    (asserted : assertSlot profile slot = .ok ()) :
    Ends upper options idn (do MonadExcept.ofExcept (assertSlot profile slot); write s!"{head} {slot}") generator
      (.ok ()) generator := by
  have inside : 0 ≤ slot := by
    unfold assertSlot at asserted
    split at asserted
    · cases asserted
    · omega
  obtain ⟨n,rfl⟩ := Int.eq_ofNat_of_zero_le inside
  exact endsOpened asserted (endsSlot known n (countText head n))

theorem endsGetChannels (same : profile.channelCount = options.channelCount) :
    Ends upper options idn (getChannels upper profile) generator
      (.ok (profile.channelCount.channels.map (generator.channelState profile))) generator := by
  have numbered : numbers profile = profile.channelCount.channels.map fun channel => (channel.id : Int) := by
    unfold numbers
    cases profile.channelCount <;> rfl
  rw [getChannels,numbered,List.mapM_map]
  exact doesEach fun channel there => endsChannelState (same ▸ there) (assertOwn there)

def off (channels : List Channel) (generator : Generator) : Generator :=
  channels.foldl (fun generator channel => generator.set (.of channel .output) false) generator

theorem endsEach (same : profile.channelCount = options.channelCount) {channels : List Channel}
    (there : ∀ channel ∈ channels, channel ∈ profile.channelCount.channels) :
    Ends upper options idn (@disableEach _ _ caught (fun id => setChannelEnabled profile id false)
        (channels.map Channel.id)) generator (.ok (channels.map fun channel => s!"CH{channel}",[]))
      (off channels generator) := by
  induction channels generalizing generator with
  | nil => exact doesPure _
  | cons channel rest ih =>
    have own := there channel (.head _)
    have label : s!"CH{channel.id}" = s!"CH{channel}" := by cases channel <;> rfl
    refine doesBind (doesCatch (doesBind (endsOutput (same ▸ own) (assertOwn own) false) (doesPure _))) ?_
    refine doesBind (ih fun channel inside => there channel (.tail _ inside)) ?_
    rw [label]
    exact doesPure _

theorem endsKill (same : profile.channelCount = options.channelCount) :
    Ends upper options idn (disableAllOutputs upper profile) generator
      (.ok ⟨.ok,profile.channelCount.channels.map fun channel => s!"CH{channel}",[]⟩)
      (off profile.channelCount.channels generator) := by
  have ids : (profile.channelCount.channels.map (generator.channelState profile)).map ChannelState.id =
      profile.channelCount.channels.map Channel.id := by
    rw [List.map_map]
    rfl
  have each := @endsEach upper options profile idn generator same profile.channelCount.channels fun _ there => there
  rw [← ids] at each
  exact doesBind (doesCatch (doesBind (doesMap (endsGetChannels same)) each)) (doesPure (killResult _ []))

def numeric : List Parameter :=
  [.freq,.amp,.offset,.phase,.duty,.symmetry,.pulseWidth,.pulseLead,.pulseTrail,.modDepth,.modFreq,.sweepStart,
    .sweepStop,.sweepTime,.burstNcycles,.burstPeriod,.burstPhase]

theorem initialNumbers : numeric.map (fun p => parseNumberOrZero (initialText p)) =
    ["1000","1","0","0","50","50","0.0005","5e-9","5e-9","50","1000","100","1000","1","1","0.01","0"].map literal := by
  decide

theorem initialRead (p : Parameter) : p.decode upper (initialText p) = Generator.initial (.of channel p) := by
  have off : parseBool "OFF" = false := by decide
  have numbers := initialNumbers
  simp only [numeric,List.map,List.cons.injEq,and_true] at numbers
  obtain ⟨freq,amp,offset,phase,duty,symmetry,pulseWidth,pulseLead,pulseTrail,modDepth,modFreq,sweepStart,sweepStop,
    sweepTime,burstNcycles,burstPeriod,burstPhase⟩ := numbers
  have function : decodeWaveformType upper "SIN" = .sine := by
    rw [decodeWaveformType,foldsWord upper (by decide)]
    decide
  have impedance : decodeImpedance upper "50" = .ohm50 := by
    rw [decodeImpedance,foldsWord upper (by decide)]
    decide
  have modType : decodeModulationType upper "AM" = .am := by
    rw [decodeModulationType,foldsWord upper (by decide)]
    decide
  have modSource : decodeModulationSource "INT" = .internal := by decide
  have modWave : decodeModulationWaveform upper "SIN" = .sine := by
    rw [decodeModulationWaveform,foldsWord upper (by decide)]
    decide
  have spacing : decodeSpacing "LIN" = .linear := by decide
  have trigger : decodeSweepTrigger upper "IMM" = .immediate := by
    rw [decodeSweepTrigger,foldsWord upper (by decide)]
    decide
  have burstMode : decodeBurstMode upper "TRIG" = .triggered := by
    rw [decodeBurstMode,foldsWord upper (by decide)]
    decide
  cases p with
  | output | modState | sweepState | burstState => exact off
  | arb => rfl
  | sweepSpacing => exact spacing
  | sweepTrigger | burstTrigger => exact trigger
  | freq => exact freq
  | amp => exact amp
  | offset => exact offset
  | phase => exact phase
  | duty => exact duty
  | symmetry => exact symmetry
  | pulseWidth => exact pulseWidth
  | pulseLead => exact pulseLead
  | pulseTrail => exact pulseTrail
  | modDepth => exact modDepth
  | modFreq => exact modFreq
  | sweepStart => exact sweepStart
  | sweepStop => exact sweepStop
  | sweepTime => exact sweepTime
  | burstNcycles => exact burstNcycles
  | burstPeriod => exact burstPeriod
  | burstPhase => exact burstPhase
  | function => exact function
  | impedance => exact impedance
  | modType => exact modType
  | modSource => exact modSource
  | modWave => exact modWave
  | burstMode => exact burstMode

theorem initialShown : Shows upper options (makeDg9xxPersonality upper options).initialState Generator.initial := by
  have word (p : Parameter) : Word (initialText p).toList := by cases p <;> decide
  refine ⟨fun s => ?_,rfl⟩
  cases s with
  | clock => exact ⟨"INT",rfl,by decide,by decide⟩
  | of channel p =>
    intro there _
    exact ⟨initialText p,if_pos there,word p,initialRead p⟩

theorem endsRefused {α β : Type} {check : Except Failure α} {m : α → Dg900 β} {e : Failure}
    (refused : check = .error e) :
    Ends upper options idn (MonadExcept.ofExcept check >>= m) generator (.error e) generator := by
  rw [refused]
  exact doesStop (doesThrow e)

def refusal {α : Type} : Except String α → Except Failure α
  | .ok a => .ok a
  | .error reason => .error (.rangeError reason)

theorem channelChecked (n : Int) : assertChannel profile n = refusal (Generator.numbered profile n) := by
  unfold assertChannel Generator.numbered
  cases profile.channelCount with
  | one =>
    by_cases one : 1 = n
    · subst one
      rfl
    · have out : n < 1 ∨ 1 < n := by omega
      simp [ChannelCount.count,ChannelCount.channels,Channel.id,refusal,one,out]
      rfl
  | two =>
    by_cases one : 1 = n
    · subst one
      rfl
    · by_cases two : 2 = n
      · subst two
        rfl
      · have out : n < 1 ∨ 2 < n := by omega
        simp [ChannelCount.count,ChannelCount.channels,Channel.id,refusal,one,two,out]
        rfl

theorem slotChecked (slot : Int) : assertSlot profile slot = refusal (Generator.slotted profile slot) := by
  unfold assertSlot Generator.slotted
  by_cases inside : 0 ≤ slot ∧ slot < profile.presetSlots
  · rw [if_pos inside,if_neg (by omega),refusal]
  · rw [if_neg inside,if_pos (by omega),refusal]

theorem checkedNumber {x : Decimal} {P : Prop} {_ : Decidable P} {say : String} {rest : Except Failure Unit}
    {quantity unit : String} {range : Range} {others : List String} (outside : P ↔ Generator.outside range x = true)
    (said : say = s!"{quantity} {written x} outside {written range.min}..{written range.max}{unit}")
    (later : rest = refusal (Generator.unopposed others)) :
    (if P then throw (.rangeError say) >>= fun (_ : PUnit) => rest else rest) =
      refusal (Generator.unopposed (Generator.against quantity unit range (some x) ++ others)) := by
  by_cases out : P
  · have beyond := outside.mp out
    simp only [if_pos out,Generator.against,Option.filter_some,beyond,if_true,said]
    rfl
  · have inside : ¬ Generator.outside range x = true := fun beyond => out (outside.mpr beyond)
    simp only [if_neg out,Generator.against,Option.filter_some,inside,later]
    rfl

theorem checkedGiven {o : Option Decimal} {P : Decimal → Prop} {_ : DecidablePred P} {say : Decimal → String}
    {rest : Except Failure Unit} {quantity unit : String} {range : Range} {others : List String}
    (outside : ∀ x, P x ↔ Generator.outside range x = true)
    (said : ∀ x, say x = s!"{quantity} {written x} outside {written range.min}..{written range.max}{unit}")
    (later : rest = refusal (Generator.unopposed others)) :
    (match o with
      | some x => if P x then throw (.rangeError (say x)) >>= fun (_ : PUnit) => rest else rest
      | _ => rest) = refusal (Generator.unopposed (Generator.against quantity unit range o ++ others)) := by
  cases o with
  | none => exact later
  | some x => exact checkedNumber (outside x) (said x) later

theorem namesChecked (config : SignalGeneratorWaveform) :
    (if bothNamed config then throw (.rangeError "specify builtinName or sampleId, not both") else pure () :
      Except Failure Unit) = refusal (Generator.unopposed (Generator.againstNames config)) := by
  unfold bothNamed Generator.againstNames
  rcases config with _ | _ | _ | _ | _ | _ | ⟨_,_ | builtin,_ | sample⟩
  case arbitrary.some.some =>
    by_cases first : builtin = ""
    · simp [first,Generator.unopposed,refusal]
      rfl
    · by_cases second : sample = ""
      · simp [second,Generator.unopposed,refusal]
        rfl
      · simp [first,second,Generator.unopposed,refusal]
        rfl
  all_goals simp [Generator.unopposed,refusal]; rfl

theorem waveformChecked (config : SignalGeneratorWaveform) :
    validateWaveform profile config = refusal (Generator.unopposed (Generator.objections profile config)) := by
  have none_ : written (literal "0") = "0" := by decide
  have whole : written (literal "100") = "100" := by decide
  unfold validateWaveform Generator.objections
  simp only [zero,amplitudeRange,offsetRange,List.append_assoc]
  refine checkedGiven (fun x => ?_) (fun x => String.toList_injective ?_) ?_
  · simp only [Generator.outside,Bool.or_eq_true]
  · simp [toString,none_]
  refine checkedGiven (fun x => ?_) (fun x => String.toList_injective ?_) ?_
  · simp only [Generator.outside,Bool.or_eq_true]
  · simp [toString]
  refine checkedNumber ?_ (String.toList_injective ?_) ?_
  · simp only [Generator.outside,Bool.or_eq_true]
  · simp [toString]
  refine checkedGiven (fun x => ?_) (fun x => String.toList_injective ?_) ?_
  · simp only [Generator.outside,Bool.or_eq_true]
  · simp [toString,none_,whole]
  exact namesChecked config

theorem bothChecked (n : Int) (config : SignalGeneratorWaveform) :
    (do let ch ← assertChannel profile n; validateWaveform profile config; pure ch) =
      refusal (do let ch ← Generator.numbered profile n
                  Generator.unopposed (Generator.objections profile config)
                  pure ch) := by
  rw [channelChecked,waveformChecked]
  cases Generator.numbered profile n with
  | error reason => rfl
  | ok channel => cases Generator.unopposed (Generator.objections profile config) <;> rfl

theorem endsAccepted {α β : Type} {check : Except Failure α} {stated : Except String α}
    (same : check = refusal stated) {m : Dg900 β} {wrap : β → Result} {next : α → Generator × Result}
    (refuses : ∀ e, check = .error e → Ends upper options idn m generator (.error e) generator)
    (ends : ∀ a, check = .ok a → ∃ b, wrap b = (next a).2 ∧ Ends upper options idn m generator (.ok b) (next a).1) :
    Ends upper options idn (wrap <$> m) generator (generator.accepted stated next).2
      (generator.accepted stated next).1 := by
  cases stated with
  | ok a =>
    obtain ⟨b,wrapped,ends⟩ := ends a same
    have mapped := doesMap (f := wrap) ends
    rwa [Except.map,wrapped] at mapped
  | error reason => exact doesMap (refuses _ same)

end

theorem callEnds (same : profile.channelCount = options.channelCount) (call : Call) :
    Ends upper options idn (RigolDg900.method upper profile call) generator (generator.call options profile call).2
      (generator.call options profile call).1 := by
  have there {n : Int} {channel : Channel} (asserted : RigolDg900.assertChannel profile n = .ok channel) :
      channel ∈ options.channelCount.channels := same ▸ assertedThere asserted
  cases call with
  | getChannels => exact doesMap (endsGetChannels same)
  | getChannelState n =>
    exact endsAccepted (channelChecked n) (fun _ => endsRefused) fun _ asserted => ⟨_,rfl,endsChannelState (there asserted) asserted⟩
  | getChannelStatus n =>
    exact endsAccepted (channelChecked n) (fun _ => endsRefused) fun _ asserted => ⟨_,rfl,endsStatus (there asserted) asserted⟩
  | setChannelEnabled n enabled =>
    exact endsAccepted (channelChecked n) (fun _ => endsRefused) fun _ asserted => ⟨_,rfl,endsOutput (there asserted) asserted enabled⟩
  | setWaveform n config oneLine =>
    refine endsAccepted (bothChecked n config) (fun e refused => ?_) fun channel valid => ?_
    · cases asserted : RigolDg900.assertChannel profile n with
      | error e' =>
        rw [asserted] at refused
        cases refused
        exact endsRefused asserted
      | ok channel =>
        cases validated : RigolDg900.validateWaveform profile config with
        | error e' =>
          rw [asserted,validated] at refused
          cases refused
          exact endsOpened asserted (endsRefused validated)
        | ok u =>
          rw [asserted,validated] at refused
          cases refused
    · cases asserted : RigolDg900.assertChannel profile n with
      | error e =>
        rw [asserted] at valid
        cases valid
      | ok own =>
        cases validated : RigolDg900.validateWaveform profile config with
        | error e =>
          rw [asserted,validated] at valid
          cases valid
        | ok u =>
          rw [asserted,validated] at valid
          cases valid
          exact ⟨_,rfl,endsSetWaveform (there asserted) asserted validated oneLine⟩
  | setOutputImpedance n mode =>
    exact endsAccepted (channelChecked n) (fun _ => endsRefused) fun _ asserted => ⟨_,rfl,endsImpedance (there asserted) asserted mode⟩
  | getModulation n =>
    exact endsAccepted (channelChecked n) (fun _ => endsRefused) fun _ asserted => ⟨_,rfl,endsModulation (there asserted) asserted⟩
  | setModulation n config =>
    exact endsAccepted (channelChecked n) (fun _ => endsRefused) fun _ asserted =>
      ⟨_,rfl,endsSetModulation (there asserted) asserted config⟩
  | getSweep n =>
    exact endsAccepted (channelChecked n) (fun _ => endsRefused) fun _ asserted => ⟨_,rfl,endsSweep (there asserted) asserted⟩
  | setSweep n config =>
    exact endsAccepted (channelChecked n) (fun _ => endsRefused) fun _ asserted => ⟨_,rfl,endsSetSweep (there asserted) asserted config⟩
  | getBurst n =>
    exact endsAccepted (channelChecked n) (fun _ => endsRefused) fun _ asserted => ⟨_,rfl,endsBurst (there asserted) asserted⟩
  | setBurst n config =>
    exact endsAccepted (channelChecked n) (fun _ => endsRefused) fun _ asserted => ⟨_,rfl,endsSetBurst (there asserted) asserted config⟩
  | getSync => exact doesMap endsGetSync
  | alignPhase => exact doesMap endsAlignPhase
  | setCommonClock enabled => exact doesMap (endsCommonClock enabled)
  | getPresetCatalog =>
    have catalog : RigolDg900.getPresetCatalog profile = (List.range profile.presetSlots.toNat).map fun _ => true := by
      rw [RigolDg900.getPresetCatalog,List.map_const',List.length_range]
    rw [Generator.call,← catalog]
    exact doesPure _
  | savePreset slot =>
    exact endsAccepted (slotChecked slot) (fun _ => endsRefused) fun _ asserted => ⟨_,rfl,endsPreset (List.mem_cons_self) asserted⟩
  | recallPreset slot =>
    exact endsAccepted (slotChecked slot) (fun _ => endsRefused) fun _ asserted =>
      ⟨_,rfl,endsPreset (List.mem_cons_of_mem _ List.mem_cons_self) asserted⟩
  | disableAllOutputs => exact doesMap (endsKill same)

end

section
variable (upper : UpperCase) (options : Dg9xxPersonalityOptions) (profile : Dg900Profile) (idn : String)

def drive (state : SessionState State) (call : Call) : SessionState State × Except Failure Result :=
  let left := runAlone (port (simulator upper options idn)) (RigolDg900.method upper profile call).run () state
  (left.world,left.result)

/-- A run of calls from switch-on returns what the generator of numbers, switches and modes returns of it. -/
theorem drivenGenerator (same : profile.channelCount = options.channelCount) (calls : List Call) :
    returned (drive upper options profile idn) (makeDg9xxPersonality upper options).initialState calls =
      returned (Generator.call options profile) Generator.initial calls := by
  have alike (state : SessionState State) (generator : Generator) (call : Call)
      (shows_ : Shows upper options state generator) :
      (drive upper options profile idn state call).2 = (generator.call options profile call).2 ∧
        Shows upper options (drive upper options profile idn state call).1 (generator.call options profile call).1 := by
    obtain ⟨next,ran,shown⟩ := @callEnds upper options profile idn generator same call state shows_
    rw [drive,ran.left]
    exact ⟨rfl,shown⟩
  exact returnedAlike alike initialShown calls

end

def asciiUpper : UpperCase := ⟨fun text => text.map Char.toUpper,fun _ _ => rfl⟩

def dg932Profile : Dg900Profile := ⟨.two,literal "35e6",literal "20",10⟩

def dg932 : Dg9xxPersonalityOptions := ⟨literal "35000000",literal "20",.two⟩

def rampCalls : List Call :=
  [.setWaveform 2 (.ramp ⟨literal "2500",literal "3",literal "0.5",some (literal "400")⟩ (some (literal "30"))) trivial,
    .setChannelEnabled 2 true,.getChannelState 2,.setChannelEnabled 3 true]

theorem drivenGeneratorRamp :
    returned (drive asciiUpper dg932 dg932Profile "RIGOL TECHNOLOGIES,DG932,0,00.02.00")
        (makeDg9xxPersonality asciiUpper dg932).initialState rampCalls =
      returned (Generator.call dg932 dg932Profile) Generator.initial rampCalls :=
  drivenGenerator asciiUpper dg932 dg932Profile _ rfl rampCalls

end LxiWeb.SimulatedGenerator
