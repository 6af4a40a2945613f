import LxiWeb.CallRuns
import LxiWeb.JsNumbers

/-! Settings of the spectrum analysers and the RF generator whose fields are checked one by one,
between the commands that write them. The ranges of a driver come from its profile. -/
namespace LxiWeb.RejectedSettings
open AsyncTasks CallRuns JsNumbers

variable {α γ : Type}

inductive Rejection where
  | rangeError (message : String)
  | error (message : String)
  | port
  deriving DecidableEq, Repr

def IsRangeError (e : Rejection) : Prop := ∃ message, e = .rangeError message

@[simp] theorem rangeErrorRefuses (message : String) : ¬ Harmless IsRangeError (.rangeError message) :=
  fun harmless => harmless ⟨message,rfl⟩

@[simp] theorem portHarmless : Harmless IsRangeError .port := by simp [Harmless,IsRangeError]

abbrev Setter := Method Unit String Bool Rejection

def write (command : String) : Setter Unit := order .port command

def onOff (on : Bool) : String := if on then "ON" else "OFF"

structure BandwidthInput (F : Type) where
  rbwHz : Option F
  vbwHz : Option F
  autoRbw : Option Bool
  autoVbw : Option Bool

structure SweepInput (F : Type) where
  pointsN : Option F
  timeSec : Option F
  continuous : Option Bool

structure InputInput (F : Type) where
  attenuationDb : Option F
  autoAttenuation : Option Bool
  preampEnabled : Option Bool
  inputImpedanceOhm : Option F

inductive MarkerType where
  | normal | delta | peak | band
  deriving DecidableEq, Repr

structure MarkerConfig (F : Type) where
  enabled : Bool
  type : MarkerType
  frequencyHz : Option F
  traceId : Option F
  reference : Option F
  bandSpanHz : Option F

inductive WaveformType where
  | sine | square | ramp | pulse | noise | arbitrary | dc
  deriving DecidableEq, Repr

structure Waveform (F : Type) where
  type : WaveformType
  frequencyHz : F
  amplitudeVpp : F

structure Ssa3000xProfile (F : Type) where
  maxSweepPoints : F
  traceCount : F
  markerCount : F
  attenuationMin : F
  attenuationMax : F
  preampAvailable : Bool

structure SmaProfile (F : Type) where
  variant : String
  frequencyMinHz : F
  frequencyMaxHz : F
  amplitudeMaxDbm : F

section
variable {F : Type} (num : Numbers F)

def setBandwidth (input : BandwidthInput F) : Setter Unit := do
  given input.autoRbw fun on => write s!":SENSe:BANDwidth:RESolution:AUTO {onOff on}"
  given input.autoVbw fun on => write s!":SENSe:BANDwidth:VIDeo:AUTO {onOff on}"
  given input.rbwHz fun hz => do
    require (num.positiveFinite hz) (.rangeError "rbwHz must be a positive finite number")
    write s!":SENSe:BANDwidth:RESolution {num.text hz}"
  given input.vbwHz fun hz => do
    require (num.positiveFinite hz) (.rangeError "vbwHz must be a positive finite number")
    write s!":SENSe:BANDwidth:VIDeo {num.text hz}"

def pointsFit (profile : Ssa3000xProfile F) (points : F) : Bool :=
  num.integerWithin points (num.ofInt 101) profile.maxSweepPoints

def setSweep (profile : Ssa3000xProfile F) (input : SweepInput F) : Setter Unit := do
  given input.pointsN fun points => do
    require (pointsFit num profile points)
      (.rangeError s!"pointsN {num.text points} outside 101..{num.text profile.maxSweepPoints}")
    write s!":SENSe:SWEep:POINts {num.text points}"
  given input.timeSec fun time => do
    require (num.positiveFinite time) (.rangeError "timeSec must be a positive finite number")
    write s!":SENSe:SWEep:TIME {num.text time}"
  given input.continuous fun on => write s!":INITiate:CONTinuous {onOff on}"

def attenuationFits (profile : Ssa3000xProfile F) (db : F) : Bool :=
  num.isFinite db && !num.lt db profile.attenuationMin && !num.lt profile.attenuationMax db

-- the preamplifier of a driver that may have none; without one, switching it off does nothing
def setPreamp (available : Bool) (command : String) (on : Bool) : Setter Unit := do
  require (available || !on) (.rangeError "this variant has no preamp")
  if available then write s!"{command} {onOff on}"

def impedanceFits (ohm : Option F) : Bool :=
  !ohm.any fun ohm => num.truthy ohm && !num.same ohm (num.ofInt 50)

def setInput (profile : Ssa3000xProfile F) (input : InputInput F) : Setter Unit := do
  given input.autoAttenuation fun on => write s!":SENSe:POWer:RF:ATTenuation:AUTO {onOff on}"
  given input.attenuationDb fun db => do
    require (attenuationFits num profile db)
      (.rangeError s!"attenuation {num.text db} outside {num.text profile.attenuationMin}..{num.text profile.attenuationMax} dB")
    write s!":SENSe:POWer:RF:ATTenuation {num.text db}"
  given input.preampEnabled (setPreamp profile.preampAvailable ":SENSe:POWer:RF:GAIN:STATe")
  require (impedanceFits num input.inputImpedanceOhm) (.rangeError "SSA3000X supports 50 Ω input only")

def encodeMarkerType : MarkerType → String
  | .normal => "POSition"
  | .delta => "DELTa"
  | .peak => "POSition"
  | .band => "BAND"

def markerFits (profile : Ssa3000xProfile F) (id : F) : Bool :=
  num.integerWithin id (num.ofInt 1) profile.markerCount

def traceFits (profile : Ssa3000xProfile F) (id : F) : Bool :=
  num.integerWithin id (num.ofInt 1) profile.traceCount

def assertMarker (profile : Ssa3000xProfile F) (id : F) : Setter Unit :=
  require (markerFits num profile id)
    (.rangeError s!"marker {num.text id} outside 1..{num.text profile.markerCount}")

def assertTrace (profile : Ssa3000xProfile F) (id : F) : Setter Unit :=
  require (traceFits num profile id)
    (.rangeError s!"trace {num.text id} outside 1..{num.text profile.traceCount}")

def setMarker (profile : Ssa3000xProfile F) (id : F) (config : MarkerConfig F) : Setter Unit := do
  assertMarker num profile id
  let marker := s!":CALCulate:MARKer{num.text id}"
  if !config.enabled then
    write s!"{marker}:STATe OFF"
  else
    write s!"{marker}:STATe ON"
    write s!"{marker}:MODE {encodeMarkerType config.type}"
    given (if config.type = .delta then config.reference else none) fun reference =>
      write s!"{marker}:REFerence {num.text reference}"
    given config.frequencyHz fun hz => write s!"{marker}:X {num.text hz}"
    given config.traceId fun trace => do
      assertTrace num profile trace
      write s!"{marker}:TRACe {num.text trace}"
    given (if config.type = .band then config.bandSpanHz else none) fun span =>
      write s!"{marker}:FUNCtion:BAND:SPAN {num.text span}"

-- 50 Ω peak to peak and dBm
def DBM_OFFSET : F := num.ofDecimal 1301 2

def vppToDbm (vpp : F) : F :=
  if !num.isFinite vpp || num.le vpp (num.ofInt 0) then num.ofInt (-200)
  else num.sub (num.mul (num.ofInt 20) (num.log10 vpp)) (DBM_OFFSET num)

def setWaveform (profile : SmaProfile F) (channel : F) (config : Waveform F) : Setter Unit := do
  require (num.same channel (num.ofInt 1))
    (.error s!"R&S {profile.variant} has a single RF port (channel 1)")
  require (config.type = .sine)
    (.rangeError s!"R&S {profile.variant} exposes sine output only; use the vector-modulation sub-tree for complex waveforms")
  require (!num.lt config.frequencyHz profile.frequencyMinHz)
    (.rangeError s!"frequency {num.text config.frequencyHz} Hz below profile minimum {num.text profile.frequencyMinHz} Hz")
  require (!num.lt profile.frequencyMaxHz config.frequencyHz)
    (.rangeError s!"frequency {num.text config.frequencyHz} Hz exceeds profile ceiling {num.text profile.frequencyMaxHz} Hz")
  write s!"SOURce:FREQuency {num.text config.frequencyHz}"
  let dbm := vppToDbm num config.amplitudeVpp
  require (!num.lt profile.amplitudeMaxDbm dbm)
    (.rangeError s!"amplitude {num.toFixed dbm 2} dBm exceeds profile ceiling {num.text profile.amplitudeMaxDbm} dBm")
  write s!"SOURce:POWer {num.text dbm}"

def setPlainInput (preampAvailable : Bool) (gain : String) (input : InputInput F) : Setter Unit := do
  given input.autoAttenuation fun on => write s!"INPut:ATTenuation:AUTO {onOff on}"
  given input.attenuationDb fun db => write s!"INPut:ATTenuation {num.text db}"
  given input.preampEnabled (setPreamp preampAvailable gain)

def rndsFpcSetInput (preampAvailable : Bool) : InputInput F → Setter Unit :=
  setPlainInput num preampAvailable "INPut:GAIN:STATe"

def gwInstekGspSetInput (preampAvailable : Bool) : InputInput F → Setter Unit :=
  setPlainInput num preampAvailable "SENSe:POWer:RF:GAIN:STATe"

end

inductive Call (F : Type) where
  | ssa3000xBandwidth (input : BandwidthInput F)
  | ssa3000xSweep (profile : Ssa3000xProfile F) (input : SweepInput F)
  | ssa3000xInput (profile : Ssa3000xProfile F) (input : InputInput F)
  | ssa3000xMarker (profile : Ssa3000xProfile F) (id : F) (config : MarkerConfig F)
  | rndsSmaWaveform (profile : SmaProfile F) (channel : F) (config : Waveform F)
  | rndsFpcInput (preampAvailable : Bool) (input : InputInput F)
  | gwInstekGspInput (preampAvailable : Bool) (input : InputInput F)

def Call.setter {F : Type} (num : Numbers F) : Call F → Setter Unit
  | .ssa3000xBandwidth input => setBandwidth num input
  | .ssa3000xSweep profile input => setSweep num profile input
  | .ssa3000xInput profile input => setInput num profile input
  | .ssa3000xMarker profile id config => setMarker num profile id config
  | .rndsSmaWaveform profile channel config => setWaveform num profile channel config
  | .rndsFpcInput preampAvailable input => rndsFpcSetInput num preampAvailable input
  | .gwInstekGspInput preampAvailable input => gwInstekGspSetInput num preampAvailable input

/- A call that rejects with a range error wrote nothing, whichever writes the port takes. -/
def RejectedWritesNothing (setter : Setter Unit) : Prop :=
  ∀ (taken : Nat → Bool) message,
    (played taken setter.run ()).result = .error (.rangeError message) →
    (played taken setter.run ()).exchanges = []

theorem rejectedWritesNothingIff {setter : Setter Unit} :
    RejectedWritesNothing setter ↔ RefusesFirst IsRangeError setter := by
  constructor
  · intro nothing taken e ended refused
    obtain ⟨message,rfl⟩ := refused
    exact nothing taken message ended
  · intro first taken message ended
    exact first taken _ ended ⟨message,rfl⟩

section
variable {F : Type} (num : Numbers F)

def notPositive (field : Option F) : Bool := field.any fun n => !num.positiveFinite n

def bandwidthChecked (input : BandwidthInput F) : Prop :=
  let nothingSet := input.autoRbw = none ∧ input.autoVbw = none
  if notPositive num input.rbwHz then nothingSet
  else if notPositive num input.vbwHz then nothingSet ∧ input.rbwHz = none
  else True

def pointsFail (profile : Ssa3000xProfile F) (input : SweepInput F) : Bool :=
  input.pointsN.any fun points => !pointsFit num profile points

def sweepChecked (profile : Ssa3000xProfile F) (input : SweepInput F) : Prop :=
  if pointsFail num profile input then True
  else if notPositive num input.timeSec then input.pointsN = none
  else True

def attenuationFails (profile : Ssa3000xProfile F) (input : InputInput F) : Bool :=
  input.attenuationDb.any fun db => !attenuationFits num profile db

-- a preamplifier that is not there is to be switched on
def preampFails (available : Bool) (input : InputInput F) : Bool :=
  input.preampEnabled.any fun on => !available && on

def inputChecked (profile : Ssa3000xProfile F) (input : InputInput F) : Prop :=
  let attenuationUnset := input.autoAttenuation = none ∧ input.attenuationDb = none
  if attenuationFails num profile input then input.autoAttenuation = none
  else if preampFails profile.preampAvailable input then attenuationUnset
  else if !impedanceFits num input.inputImpedanceOhm then
    attenuationUnset ∧ (profile.preampAvailable → input.preampEnabled = none)
  else True

def plainInputChecked (preampAvailable : Bool) (input : InputInput F) : Prop :=
  if preampFails preampAvailable input then
    input.autoAttenuation = none ∧ input.attenuationDb = none
  else True

-- the trace is looked at last, when the marker is already switched on
def markerChecked (profile : Ssa3000xProfile F) (id : F) (config : MarkerConfig F) : Prop :=
  markerFits num profile id → config.enabled → config.traceId.all (traceFits num profile)

-- every check but the one of the amplitude comes before the frequency is written
def waveformChecked (profile : SmaProfile F) (channel : F) (config : Waveform F) : Prop :=
  num.same channel (num.ofInt 1) → config.type = .sine →
  num.lt config.frequencyHz profile.frequencyMinHz = false →
  num.lt profile.frequencyMaxHz config.frequencyHz = false →
  num.lt profile.amplitudeMaxDbm (vppToDbm num config.amplitudeVpp) = false

theorem cleanBandwidth (input : BandwidthInput F) :
    RefusesFirst IsRangeError (setBandwidth num input) ↔ bandwidthChecked num input := by
  obtain ⟨rbw,vbw,autoRbw,autoVbw⟩ := input
  cases autoRbw <;> cases autoVbw <;> cases rbw <;> cases vbw <;>
    simp [setBandwidth,write,bandwidthChecked,notPositive,given]

theorem cleanSweep (profile : Ssa3000xProfile F) (input : SweepInput F) :
    RefusesFirst IsRangeError (setSweep num profile input) ↔ sweepChecked num profile input := by
  obtain ⟨points,time,continuous⟩ := input
  cases points <;> cases time <;> cases continuous <;>
    simp [setSweep,write,sweepChecked,notPositive,pointsFail,given]

theorem cleanInput (profile : Ssa3000xProfile F) (input : InputInput F) :
    RefusesFirst IsRangeError (setInput num profile input) ↔ inputChecked num profile input := by
  obtain ⟨attenuation,auto,preamp,impedance⟩ := input
  cases attenuation <;> cases auto <;> cases preamp <;> cases available : profile.preampAvailable <;>
    simp [setInput,write,inputChecked,attenuationFails,preampFails,setPreamp,given,available]

theorem cleanPlainInput (available : Bool) (gain : String) (input : InputInput F) :
    RefusesFirst IsRangeError (setPlainInput num available gain input) ↔ plainInputChecked available input := by
  obtain ⟨attenuation,auto,preamp,impedance⟩ := input
  cases attenuation <;> cases auto <;> cases preamp <;> cases available <;>
    simp [setPlainInput,write,plainInputChecked,preampFails,setPreamp,given]

theorem cleanMarker (profile : Ssa3000xProfile F) (id : F) (config : MarkerConfig F) :
    RefusesFirst IsRangeError (setMarker num profile id config) ↔ markerChecked num profile id config := by
  obtain ⟨enabled,type,frequency,trace,reference,span⟩ := config
  cases enabled <;> cases trace <;>
    simp [setMarker,write,markerChecked,assertMarker,assertTrace,givenNone,givenSome]

theorem cleanWaveform (profile : SmaProfile F) (channel : F) (config : Waveform F) :
    RefusesFirst IsRangeError (setWaveform num profile channel config) ↔ waveformChecked num profile channel config := by
  simp [setWaveform,write,waveformChecked]

def Call.checkedFirst : Call F → Prop
  | .ssa3000xBandwidth input => bandwidthChecked num input
  | .ssa3000xSweep profile input => sweepChecked num profile input
  | .ssa3000xInput profile input => inputChecked num profile input
  | .ssa3000xMarker profile id config => markerChecked num profile id config
  | .rndsSmaWaveform profile channel config => waveformChecked num profile channel config
  | .rndsFpcInput preampAvailable input => plainInputChecked preampAvailable input
  | .gwInstekGspInput preampAvailable input => plainInputChecked preampAvailable input

theorem rejectedWritesNothing (call : Call F) :
    RejectedWritesNothing (call.setter num) ↔ call.checkedFirst num := by
  rw [rejectedWritesNothingIff]
  cases call with
  | ssa3000xBandwidth input => exact cleanBandwidth num input
  | ssa3000xSweep profile input => exact cleanSweep num profile input
  | ssa3000xInput profile input => exact cleanInput num profile input
  | ssa3000xMarker profile id config => exact cleanMarker num profile id config
  | rndsSmaWaveform profile channel config => exact cleanWaveform num profile channel config
  | rndsFpcInput preampAvailable input => exact cleanPlainInput num preampAvailable _ input
  | gwInstekGspInput preampAvailable input => exact cleanPlainInput num preampAvailable _ input
end

def automaticAndNegative : BandwidthInput Int := ⟨some (-1),none,some true,none⟩

theorem refusedBandwidthWrites :
    ¬ RejectedWritesNothing ((Call.ssa3000xBandwidth automaticAndNegative).setter wholeNumbers) := by
  intro nothing
  have exchanges := nothing (fun _ => true) "rbwHz must be a positive finite number" rfl
  cases exchanges

end LxiWeb.RejectedSettings
