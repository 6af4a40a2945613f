import Mathlib.Logic.Function.Basic
import LxiWeb.JsNumbers
import LxiWeb.ScpiCalls

/-! Drivers that keep what they have set, because the instrument does not tell it: the DHO800
oscilloscopes, the DG900 generators and the Fluke calibrators. -/
namespace LxiWeb.DriverMirrors
open AsyncTasks CallRuns JsNumbers JsText ScpiCalls

inductive MathOperator where
  | add | sub | mul | div | fft | int | diff | sqrt | log | ln | exp | abs
  deriving DecidableEq, Repr

inductive FftWindow where
  | rectangle | hanning | hamming | blackmanHarris | flatTop | triangle
  deriving DecidableEq, Repr

structure Fft (F : Type) where
  window : FftWindow
  span : F
  center : F

structure ScopeMath (F : Type) where
  enabled : Bool
  operator : MathOperator
  source1 : String
  source2 : Option String
  scale : Option F
  offset : Option F
  fft : Option (Fft F)

structure ReferenceSlot where
  slot : Int
  enabled : Bool
  source : Option String
  deriving DecidableEq, Repr

structure History (F : Type) where
  enabled : Bool
  totalFrames : F
  currentFrame : F
  playing : Bool

inductive Wiring (F : Type) where
  | i2c (sclSource sdaSource : String)
  | spi (clkSource mosiSource : String) (misoSource : Option String)
  | uart (txSource : String) (baud : F)
  | can (source : String) (baud : F)
  | lin (source : String) (baud : F)

/- `unread` are the fields that the driver keeps without reading them. -/
structure DecoderConfig (F : Type) where
  wiring : Wiring F
  unread : List (String × String)

structure DecoderState (F : Type) where
  id : Int
  enabled : Bool
  config : Option (DecoderConfig F)

structure Dho800 (F : Type) where
  mathConfig : ScopeMath F
  refSlots : Int → Option ReferenceSlot
  history : History F
  presetOccupied : Int → Option Bool
  decoderStates : Int → Option (DecoderState F)

def encodeMathOperator : MathOperator → String
  | .add => "ADD"
  | .sub => "SUBTract"
  | .mul => "MULTiply"
  | .div => "DIVision"
  | .fft => "FFT"
  | .int => "INTegrate"
  | .diff => "DIFFerentiate"
  | .sqrt => "SQRT"
  | .log => "LOG"
  | .ln => "LN"
  | .exp => "EXP"
  | .abs => "ABSolute"

def encodeFftWindow : FftWindow → String
  | .rectangle => "RECT"
  | .hanning => "HANN"
  | .hamming => "HAMM"
  | .blackmanHarris => "BHAR"
  | .flatTop => "FLAT"
  | .triangle => "TRI"

def encodeProtocol {F : Type} : Wiring F → String
  | .i2c _ _ => "IIC"
  | .spi _ _ _ => "SPI"
  | .uart _ _ => "RS232"
  | .can _ _ => "CAN"
  | .lin _ _ => "LIN"

namespace Dho800
variable {F : Type}

-- the first `count` indices of a new array
def filled {α : Type} (count : Nat) (value : Int → α) (i : Int) : Option α :=
  if 0 ≤ i ∧ i < count then some (value i) else none

def create (num : Numbers F) (referenceSlots decoderBuses : Nat) : Dho800 F where
  mathConfig := ⟨false,.add,"CH1",some "CH2",none,none,none⟩
  refSlots := filled referenceSlots fun i => ⟨i,false,none⟩
  history := ⟨false,num.ofInt 0,num.ofInt 0,false⟩
  presetOccupied := filled 10 fun _ => false
  decoderStates := filled decoderBuses fun i => ⟨i + 1,false,none⟩

def keepMath (config : ScopeMath F) (m : Dho800 F) : Dho800 F := { m with mathConfig := config }

def keepReference (slot : Int) (source : String) (m : Dho800 F) : Dho800 F :=
  { m with refSlots := Function.update m.refSlots slot (some ⟨slot,true,some source⟩) }

def keepReferenceEnabled (slot : Int) (enabled : Bool) (m : Dho800 F) : Dho800 F :=
  let source := (m.refSlots slot).bind ReferenceSlot.source
  { m with refSlots := Function.update m.refSlots slot (some ⟨slot,enabled,source⟩) }

def keepHistory (f : History F → History F) (m : Dho800 F) : Dho800 F := { m with history := f m.history }

def keepPreset (slot : Int) (m : Dho800 F) : Dho800 F :=
  { m with presetOccupied := Function.update m.presetOccupied slot (some true) }

def keepDecoder (busId : Int) (config : Option (DecoderConfig F)) (m : Dho800 F) : Dho800 F :=
  let state := ⟨busId,config.isSome,config⟩
  { m with decoderStates := Function.update m.decoderStates (busId - 1) (some state) }

end Dho800

abbrev Dho800Method (F : Type) := DriverMethod (Dho800 F)

section
variable {F : Type} (num : Numbers F)

-- `if (text)`
def nonEmpty (text : Option String) : Option String := text.filter (· ≠ "")

def setMathConfig (config : ScopeMath F) : Dho800Method F Unit := do
  writeQuietly s!":MATH:OPERator {encodeMathOperator config.operator}"
  writeQuietly s!":MATH:SOURce1 {config.source1}"
  given (nonEmpty config.source2) fun source2 => writeQuietly s!":MATH:SOURce2 {source2}"
  writeQuietly s!":MATH:DISPlay {onOff config.enabled}"
  given (if config.operator = .fft then config.fft else none) fun fft => do
    writeQuietly s!":MATH:FFT:WINDow {encodeFftWindow fft.window}"
    writeQuietly s!":MATH:FFT:SPAN {num.text fft.span}"
    writeQuietly s!":MATH:FFT:CENTer {num.text fft.center}"
  change (Dho800.keepMath config)

def saveReference (slot : Int) (source : String) : Dho800Method F Unit := do
  writeQuietly s!":REFerence:CURRent REF{slot + 1}"
  writeQuietly s!":REFerence:SOURce {source}"
  writeQuietly ":REFerence:SAVE"
  change (Dho800.keepReference slot source)

def setReferenceEnabled (slot : Int) (enabled : Bool) : Dho800Method F Unit := do
  writeQuietly s!":REFerence:REF{slot + 1}:DISPlay {onOff enabled}"
  change (Dho800.keepReferenceEnabled slot enabled)

def setHistoryEnabled (enabled : Bool) : Dho800Method F Unit := do
  writeQuietly s!":HISTory:DISPlay {onOff enabled}"
  change (Dho800.keepHistory fun history => { history with enabled })

def setHistoryFrame (frame : F) : Dho800Method F Unit := do
  writeQuietly s!":HISTory:FRAMe {num.text frame}"
  change (Dho800.keepHistory fun history => { history with currentFrame := frame })

def setHistoryPlayback (playing : Bool) : Dho800Method F Unit := do
  writeQuietly s!":HISTory:PLAY {onOff playing}"
  change (Dho800.keepHistory fun history => { history with playing })

def savePreset (slot : Int) : Dho800Method F Unit := do
  writeQuietly s!"*SAV {slot}"
  change (Dho800.keepPreset slot)

def recallPreset (slot : Int) : Dho800Method F Unit := writeQuietly s!"*RCL {slot}"

def setWiring (busId : Int) : Wiring F → Dho800Method F Unit
  | .i2c sclSource sdaSource => do
      writeQuietly s!":BUS{busId}:IIC:SCLK:SOURce {sclSource}"
      writeQuietly s!":BUS{busId}:IIC:SDA:SOURce {sdaSource}"
  | .spi clkSource mosiSource misoSource => do
      writeQuietly s!":BUS{busId}:SPI:CLK:SOURce {clkSource}"
      writeQuietly s!":BUS{busId}:SPI:MOSI:SOURce {mosiSource}"
      given (nonEmpty misoSource) fun miso => writeQuietly s!":BUS{busId}:SPI:MISO:SOURce {miso}"
  | .uart txSource baud => do
      writeQuietly s!":BUS{busId}:RS232:TX:SOURce {txSource}"
      writeQuietly s!":BUS{busId}:RS232:BAUD {num.text baud}"
  | .can source baud => do
      writeQuietly s!":BUS{busId}:CAN:SOURce {source}"
      writeQuietly s!":BUS{busId}:CAN:BAUD {num.text baud}"
  | .lin source baud => do
      writeQuietly s!":BUS{busId}:LIN:SOURce {source}"
      writeQuietly s!":BUS{busId}:LIN:BAUD {num.text baud}"

def setDecoder (busId : Int) : Option (DecoderConfig F) → Dho800Method F Unit
  | none => do
      writeQuietly s!":BUS{busId}:DISPlay OFF"
      change (Dho800.keepDecoder busId none)
  | some config => do
      writeQuietly s!":BUS{busId}:MODE {encodeProtocol config.wiring}"
      setWiring num busId config.wiring
      writeQuietly s!":BUS{busId}:DISPlay ON"
      change (Dho800.keepDecoder busId (some config))

end

inductive Dho800Call (F : Type) where
  | setMathConfig (config : ScopeMath F)
  | saveReference (slot : Int) (source : String)
  | setReferenceEnabled (slot : Int) (enabled : Bool)
  | setHistoryEnabled (enabled : Bool)
  | setHistoryFrame (frame : F)
  | setHistoryPlayback (playing : Bool)
  | savePreset (slot : Int)
  | recallPreset (slot : Int)
  | setDecoder (busId : Int) (config : Option (DecoderConfig F))

def Dho800Call.method {F : Type} (num : Numbers F) : Dho800Call F → Dho800Method F Unit
  | .setMathConfig config => DriverMirrors.setMathConfig num config
  | .saveReference slot source => DriverMirrors.saveReference slot source
  | .setReferenceEnabled slot enabled => DriverMirrors.setReferenceEnabled slot enabled
  | .setHistoryEnabled enabled => DriverMirrors.setHistoryEnabled enabled
  | .setHistoryFrame frame => DriverMirrors.setHistoryFrame num frame
  | .setHistoryPlayback playing => DriverMirrors.setHistoryPlayback playing
  | .savePreset slot => DriverMirrors.savePreset slot
  | .recallPreset slot => DriverMirrors.recallPreset slot
  | .setDecoder busId config => DriverMirrors.setDecoder num busId config

structure ArbitrarySample where
  id : String
  name : String
  sampleCount : Nat
  deriving DecidableEq, Repr

structure Dg900 where
  uploads : List ArbitrarySample
  deriving DecidableEq, Repr

structure Dg900Profile (F : Type) where
  channelCount : F
  arbitraryMaxSamples : Nat

/- Samples as the number of them and the bytes that `toInt16Samples` makes of them. -/
structure Samples where
  length : Nat
  payload : List UInt8
  deriving DecidableEq, Repr

structure UploadResult where
  sampleId : String
  sampleCount : Nat
  deriving DecidableEq, Repr

-- `/^[A-Za-z0-9_\\-]{1,32}$/`
def sampleName (name : String) : Bool :=
  name ≠ "" && name.toList.length ≤ 32 &&
    name.toList.all fun c => c.isAlphanum || c = '_' || c = '-'

def keepUpload (sample : ArbitrarySample) (m : Dg900) : Dg900 :=
  if m.uploads.any (·.id = sample.id) then
    ⟨m.uploads.modify (m.uploads.findIdx (·.id = sample.id)) fun _ => sample⟩
  else ⟨m.uploads ++ [sample]⟩

def dropUpload (sampleId : String) (m : Dg900) : Dg900 := ⟨m.uploads.filter (·.id ≠ sampleId)⟩

section
variable {F : Type} (num : Numbers F) (profile : Dg900Profile F)

def uploadArbitrary (channel : F) (name : String) (samples : Samples) :
    DriverMethod Dg900 UploadResult := do
  require (num.integerWithin channel (num.ofInt 1) profile.channelCount)
    (.rangeError s!"channel {num.text channel} outside 1..{num.text profile.channelCount}")
  require (sampleName name)
    (.rangeError "arbitrary sample name must be 1..32 chars, alphanumeric/_/-")
  require (samples.length ≠ 0 && samples.length ≤ profile.arbitraryMaxSamples)
    (.rangeError s!"sample count {samples.length} outside 1..{profile.arbitraryMaxSamples}")
  writeBinary s!":SOURce{num.text channel}:TRACe:DATA:DAC16 VOLATILE,END," samples.payload
  write s!":SOURce{num.text channel}:DATA:COPY {name}"
  change (keepUpload ⟨name,name,samples.length⟩)
  pure ⟨name,samples.length⟩

def deleteArbitrary (sampleId : String) : DriverMethod Dg900 Unit := do
  change (dropUpload sampleId)
  write s!":SOURce1:DATA:DELete {sampleId}"

end

inductive Dg900Call (F : Type) where
  | uploadArbitrary (channel : F) (name : String) (samples : Samples)
  | deleteArbitrary (sampleId : String)

def Dg900Call.method {F : Type} (num : Numbers F) (profile : Dg900Profile F) :
    Dg900Call F → DriverMethod Dg900 Unit
  | .uploadArbitrary channel name samples => do
      let _ ← DriverMirrors.uploadArbitrary num profile channel name samples
  | .deleteArbitrary sampleId => DriverMirrors.deleteArbitrary sampleId

inductive Sourcing where
  | voltage | current
  deriving DecidableEq, Repr

structure Calibrator (F : Type) where
  setVoltage : F
  setCurrent : F
  mode : Sourcing

def Calibrator.create {F : Type} (num : Numbers F) : Calibrator F := ⟨num.ofInt 0,num.ofInt 0,.voltage⟩

structure CalibratorProfile (F : Type) where
  variant : String
  voltageMaxDc : F
  currentMaxDc : F

def decimalPrefix (text : List Char) : Option (List Char) :=
  let (sign,unsigned) := match text with
    | '+' :: rest => (['+'],rest)
    | '-' :: rest => (['-'],rest)
    | _ => ([],text)
  let whole := unsigned.takeWhile Char.isDigit
  let (fraction,rest) := match unsigned.drop whole.length with
    | '.' :: more => ('.' :: more.takeWhile Char.isDigit,more.dropWhile Char.isDigit)
    | more => ([],more)
  let exponent := match rest with
    | e :: more =>
        let (mark,digits) := match more with
          | '+' :: digits => (['+'],digits.takeWhile Char.isDigit)
          | '-' :: digits => (['-'],digits.takeWhile Char.isDigit)
          | digits => ([],digits.takeWhile Char.isDigit)
        if (e = 'e' ∨ e = 'E') ∧ digits ≠ [] then e :: (mark ++ digits) else []
    | [] => []
  if whole = [] ∧ fraction.length ≤ 1 then none else some (sign ++ whole ++ fraction ++ exponent)

section
variable {F : Type} (num : Numbers F) (profile : CalibratorProfile F)

def flukeNumber (raw : List Char) : F :=
  match decimalPrefix (trim raw) with
  | none => num.ofInt 0
  | some number => num.parseNumberOrZero (String.ofList number)

/- The quantity that `OUT?` names, and its value. -/
def parseOutputQuery (raw : String) : Option (Sourcing × F) :=
  match ((trim raw.toList).splitOn ',').map trim with
  | value :: unit :: _ =>
      if unit.map capital = ['V'] then some (.voltage,flukeNumber num value)
      else if unit.map capital = ['A'] then some (.current,flukeNumber num value)
      else none
  | _ => none

def Calibrator.keepOutput (m : Calibrator F) : Option (Sourcing × F) → Calibrator F
  | some (.voltage,value) => { m with setVoltage := value }
  | some (.current,value) => { m with setCurrent := value }
  | none => m

def Calibrator.keepVoltage (volts : F) (m : Calibrator F) : Calibrator F :=
  { m with setVoltage := volts, mode := .voltage }

def Calibrator.keepCurrent (amps : F) (m : Calibrator F) : Calibrator F :=
  { m with setCurrent := amps, mode := .current }

def clamped (max n : F) : F := num.min max (num.max (num.neg max) n)

def flukeBool (value : String) : Bool :=
  let trimmed := (trim value.toList).map capital
  let text := String.ofList trimmed
  if text = "" then false
  else if text = "1" || text = "ON" || text = "TRUE" then true
  else if text = "0" || text = "OFF" || text = "FALSE" then false
  else !num.same (num.parseFloat text) (num.ofInt 0)

structure CalibratorChannel (F : Type) where
  setVoltage : F
  setCurrent : F
  measuredVoltage : F
  measuredCurrent : F
  output : Bool
  voltageMax : F
  currentMax : F

def getChannels : DriverMethod (Calibrator F) (CalibratorChannel F) := do
  let outRaw ← queryOpt "OUT?" ""
  let operRaw ← queryOpt "OPER?" ""
  change fun m => m.keepOutput (parseOutputQuery num outRaw)
  let m ← load
  pure {
    setVoltage := m.setVoltage
    setCurrent := m.setCurrent
    measuredVoltage := if m.mode = .voltage then m.setVoltage else num.ofInt 0
    measuredCurrent := if m.mode = .current then m.setCurrent else num.ofInt 0
    output := flukeBool num operRaw
    voltageMax := profile.voltageMaxDc
    currentMax := profile.currentMaxDc }

def assertChannel (channel : F) : DriverMethod (Calibrator F) Unit :=
  require (num.same channel (num.ofInt 1))
    (.error s!"Fluke {profile.variant} calibrator only exposes channel 1")

def setChannelVoltage (channel volts : F) : DriverMethod (Calibrator F) Unit := do
  assertChannel num profile channel
  require (num.isFinite volts) (.error s!"invalid voltage {num.text volts}")
  let volts := clamped num profile.voltageMaxDc volts
  change (Calibrator.keepVoltage volts)
  write s!"OUT {num.text volts},V"

def setChannelCurrent (channel amps : F) : DriverMethod (Calibrator F) Unit := do
  assertChannel num profile channel
  require (num.isFinite amps) (.error s!"invalid current {num.text amps}")
  let amps := clamped num profile.currentMaxDc amps
  change (Calibrator.keepCurrent amps)
  write s!"OUT {num.text amps},A"

end

inductive CalibratorCall (F : Type) where
  | getChannels
  | setChannelVoltage (channel volts : F)
  | setChannelCurrent (channel amps : F)

def CalibratorCall.method {F : Type} (num : Numbers F) (profile : CalibratorProfile F) :
    CalibratorCall F → DriverMethod (Calibrator F) Unit
  | .getChannels => do
      let _ ← DriverMirrors.getChannels num profile
  | .setChannelVoltage channel volts => DriverMirrors.setChannelVoltage num profile channel volts
  | .setChannelCurrent channel amps => DriverMirrors.setChannelCurrent num profile channel amps

end LxiWeb.DriverMirrors
