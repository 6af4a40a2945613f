import LxiWeb.JsNumbers
import LxiWeb.OutputKill
import LxiWeb.ScpiCalls

/-! The math state of the DM800 driver: what it keeps of the last configuration and of the last
measurement function it has seen, beside what it asks the multimeter. -/
namespace LxiWeb.Dm800Math
open AsyncTasks CallRuns EventRuns JsNumbers JsText OutputKill ScpiCalls

inductive Mode where
  | dcVoltage | acVoltage | dcCurrent | acCurrent | resistance | fourWireResistance | frequency
  | period | capacitance | continuity | diode | temperature
  deriving DecidableEq, Repr

inductive MathFunction where
  | none | null | db | dbm | stats | limit
  deriving DecidableEq, Repr

def Mode.text : Mode → String
  | .dcVoltage => "dcVoltage"
  | .acVoltage => "acVoltage"
  | .dcCurrent => "dcCurrent"
  | .acCurrent => "acCurrent"
  | .resistance => "resistance"
  | .fourWireResistance => "fourWireResistance"
  | .frequency => "frequency"
  | .period => "period"
  | .capacitance => "capacitance"
  | .continuity => "continuity"
  | .diode => "diode"
  | .temperature => "temperature"

structure MathConfig (F : Type) where
  function : MathFunction
  nullOffset : Option F
  dbmReference : Option F
  limitUpper : Option F
  limitLower : Option F
  deriving DecidableEq

structure MathStatistics (F : Type) where
  min : F
  max : F
  average : F
  stddev : F
  count : F
  deriving DecidableEq

inductive LimitResult where
  | pass | failHigh | failLow
  deriving DecidableEq, Repr

structure MathState (F : Type) where
  config : MathConfig F
  stats : Option (MathStatistics F)
  limitResult : Option LimitResult
  deriving DecidableEq

def MathConfig.off {F : Type} : MathConfig F := ⟨.none,none,none,none,none⟩

structure Memory (F : Type) where
  mathConfig : MathConfig F
  lastModeForMath : Option Mode
  deriving DecidableEq

def Memory.create {F : Type} : Memory F := ⟨.off,none⟩

structure DmmScpi where
  configure : String
  sense : Option String
  deriving DecidableEq, Repr

-- continuity, diode and temperature have no subtree of their own
def scpi : Mode → DmmScpi
  | .dcVoltage => ⟨":CONFigure:VOLTage:DC AUTO",some ":SENSe:VOLTage:DC"⟩
  | .acVoltage => ⟨":CONFigure:VOLTage:AC AUTO",some ":SENSe:VOLTage:AC"⟩
  | .dcCurrent => ⟨":CONFigure:CURRent:DC AUTO",some ":SENSe:CURRent:DC"⟩
  | .acCurrent => ⟨":CONFigure:CURRent:AC AUTO",some ":SENSe:CURRent:AC"⟩
  | .resistance => ⟨":CONFigure:RESistance AUTO",some ":SENSe:RESistance"⟩
  | .fourWireResistance => ⟨":CONFigure:FRESistance AUTO",some ":SENSe:FRESistance"⟩
  | .frequency => ⟨":CONFigure:FREQuency",some ":SENSe:FREQuency"⟩
  | .period => ⟨":CONFigure:PERiod",some ":SENSe:PERiod"⟩
  | .capacitance => ⟨":CONFigure:CAPacitance AUTO",some ":SENSe:CAPacitance"⟩
  | .continuity => ⟨":CONFigure:CONTinuity",none⟩
  | .diode => ⟨":CONFigure:DIODe",none⟩
  | .temperature => ⟨":CONFigure:TEMPerature",none⟩

-- `replace(/^"|"$/g, "")`
def unquote (text : List Char) : List Char :=
  let opened := if text.head? = some '"' then text.tail else text
  if opened.getLast? = some '"' then opened.dropLast else opened

def parseMode (raw : String) : Mode :=
  let trimmed := (unquote (trim raw.toList)).map capital
  let starts (mnemonic : String) : Bool := mnemonic.toList.isPrefixOf trimmed
  if starts "VOLT:AC" then .acVoltage
  else if starts "VOLT" then .dcVoltage
  else if starts "CURR:AC" then .acCurrent
  else if starts "CURR" then .dcCurrent
  else if starts "FRES" then .fourWireResistance
  else if starts "RES" then .resistance
  else if starts "FREQ" then .frequency
  else if starts "PER" then .period
  else if starts "CAP" then .capacitance
  else if starts "CONT" then .continuity
  else if starts "DIOD" then .diode
  else if starts "TEMP" then .temperature
  else .dcVoltage

def scales (function : MathFunction) : Bool := function = .db || function = .dbm

def voltage (mode : Mode) : Bool := mode = .dcVoltage || mode = .acVoltage

section
variable {F : Type} (num : Numbers F)

abbrev Dmm (F : Type) := DriverMethod (Memory F)

def Memory.dropScaling (m : Memory F) : Memory F :=
  if scales m.mathConfig.function then { m with mathConfig := .off } else m

def Memory.onMeasurementFunctionChanged (mode : Mode) (m : Memory F) : Memory F :=
  let kept := if m.lastModeForMath.isSome && m.lastModeForMath ≠ some mode then m.dropScaling else m
  { kept with lastModeForMath := some mode }

def getMode : Dmm F Mode := do
  let raw ← query ":SENSe:FUNCtion?"
  pure (parseMode raw)

def setMode (mode : Mode) : Dmm F Unit := do
  write (scpi mode).configure
  change fun m => { m.dropScaling with lastModeForMath := some mode }

-- the value of `read`, the one field that `getMath` uses
def readValue : Dmm F F := do
  let replies ← queryAll [":READ?", ":SENSe:FUNCtion?"]
  let value := num.parseFloat (String.ofList (trim (replies.headD "").toList))
  let overload := !num.isFinite value || num.le (num.ofInt (99 * 10 ^ 36)) (num.abs value)
  pure (if overload then num.nan else value)

def keepMath (f : MathConfig F → MathConfig F) : Dmm F (MathConfig F) := do
  change fun m => { m with mathConfig := f m.mathConfig }
  let m ← load
  pure m.mathConfig

def getStatistics : Dmm F (MathState F) := do
  let replies ← queryAll [":CALCulate:AVERage:MINimum?", ":CALCulate:AVERage:MAXimum?",
    ":CALCulate:AVERage:AVERage?", ":CALCulate:AVERage:SDEViation?", ":CALCulate:AVERage:COUNt?"]
  let value (i : Nat) := num.parseNumberOrZero (replies.getD i "")
  let config ← keepMath fun config => { config with function := .stats }
  pure { config, limitResult := none, stats := some {
    min := value 0, max := value 1, average := value 2, stddev := value 3
    count := num.max (num.ofInt 0) (num.round (value 4)) } }

def getLimit : Dmm F (MathState F) := do
  let replies ← queryAll [":CALCulate:LIMit:UPPer:DATA?", ":CALCulate:LIMit:LOWer:DATA?"]
  let upper := num.parseNumberOrZero (replies.getD 0 "")
  let lower := num.parseNumberOrZero (replies.getD 1 "")
  let v ← readValue num
  let limitResult : LimitResult :=
    if num.lt upper v then .failHigh else if num.lt v lower then .failLow else .pass
  let config ← keepMath fun config =>
    { config with function := .limit, limitUpper := some upper, limitLower := some lower }
  pure { config, limitResult := some limitResult, stats := none }

/- The multimeter is not asked whether it scales: the driver's own configuration says so. -/
def getScaling (function : MathFunction) : Dmm F (MathState F) := do
  let isDbm : Bool := function = .dbm
  let ref ← query
    (if isDbm then ":CALCulate:SCALe:DBM:REFerence?" else ":CALCulate:SCALe:DB:REFerence?")
  let reference := num.parseNumberOrZero ref
  let config ← keepMath fun config =>
    { config with
      function
      dbmReference := if isDbm then some reference else none
      nullOffset := if isDbm then none else some reference }
  pure ⟨config,none,none⟩

def getNull (sense : String) : Dmm F (MathState F) := do
  let off ← query s!"{sense}:NULL:VALue?"
  let config ← keepMath fun config =>
    { config with function := .null, nullOffset := some (num.parseNumberOrZero off) }
  pure ⟨config,none,none⟩

/- The branches of `getMath`, by what the multimeter said to the three state queries. -/
def reportMath (mode : Mode) (avgOn limOn nullOn : String) : Dmm F (MathState F) := do
  let m ← load
  if parseBool avgOn then getStatistics num
  else if parseBool limOn then getLimit num
  else if voltage mode && scales m.mathConfig.function then getScaling num m.mathConfig.function
  else
    match (scpi mode).sense, parseBool nullOn with
    | some sense, true => getNull num sense
    | _, _ => do
      let config ← keepMath fun _ => .off
      pure ⟨config,none,none⟩

def getMath : Dmm F (MathState F) := do
  let mode ← getMode
  change (Memory.onMeasurementFunctionChanged mode)
  let avgOn ← queryOpt ":CALCulate:AVERage:STATe?" "0"
  let limOn ← queryOpt ":CALCulate:LIMit:STATe?" "0"
  let nullOn ← match (scpi mode).sense with
    | some sense => queryOpt s!"{sense}:NULL:STATe?" "0"
    | none => pure "0"
  reportMath num mode avgOn limOn nullOn

def setLimit (config : MathConfig F) : Dmm F Unit := do
  write ":CALCulate:LIMit:STATe ON"
  given config.limitUpper fun upper => write s!":CALCulate:LIMit:UPPer:DATA {num.text upper}"
  given config.limitLower fun lower => write s!":CALCulate:LIMit:LOWer:DATA {num.text lower}"

def setDbm (config : MathConfig F) : Dmm F Unit := do
  write ":CALCulate:SCALe:FUNCtion DBM"
  given config.dbmReference fun ref => write s!":CALCulate:SCALe:DBM:REFerence {num.text ref}"
  write ":CALCulate:SCALe:STATe ON"

def setDb (config : MathConfig F) : Dmm F Unit := do
  write ":CALCulate:SCALe:FUNCtion DB"
  given config.nullOffset fun ref => write s!":CALCulate:SCALe:DB:REFerence {num.text ref}"
  write ":CALCulate:SCALe:STATe ON"

def setNull (mode : Mode) (config : MathConfig F) : Dmm F Unit :=
  match (scpi mode).sense with
  | none => throw (.error
      s!"relative (NULL) math is not available for '{mode.text}' on DM800 (no [SENSe]:NULL subtree)")
  | some sense => do
    write s!"{sense}:NULL:STATe ON"
    given config.nullOffset fun offset => write s!"{sense}:NULL:VALue {num.text offset}"

def allMathOff (mode : Mode) : Dmm F Unit := do
  write ":CALCulate:AVERage:STATe OFF"
  write ":CALCulate:LIMit:STATe OFF"
  write ":CALCulate:SCALe:STATe OFF"
  given (scpi mode).sense fun sense => write s!"{sense}:NULL:STATe OFF"

def applyMath (mode : Mode) (config : MathConfig F) : Dmm F Unit :=
  match config.function with
  | .none => pure ()
  | .stats => write ":CALCulate:AVERage:STATe ON"
  | .limit => setLimit num config
  | .dbm => setDbm num config
  | .db => setDb num config
  | .null => setNull num mode config

def setMath (config : MathConfig F) : Dmm F Unit := do
  change fun m => { m with mathConfig := config }
  let mode ← getMode
  allMathOff mode
  applyMath num mode config

end

end LxiWeb.Dm800Math
