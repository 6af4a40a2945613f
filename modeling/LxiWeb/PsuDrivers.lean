import LxiWeb.OutputKill
import LxiWeb.SelectThenAct

/-! Power supplies whose commands carry no channel: the driver selects a channel first. The four
drivers share one layout, stated once as `Supply`; what differs is how they select and which
texts they send. Replies stay as the text the supply sent. -/
namespace LxiWeb.PsuDrivers
open AsyncTasks OutputKill ScpiFraming SelectThenAct

abbrev PsuMethod := Method Nat JsError String

abbrev Replies := List (Option (Reading Nat String))

inductive PsuProtectionKind where
  | ovp | ocp
  deriving DecidableEq, Repr

structure Protection where
  query : PsuProtectionKind → List (String × Bool)
  enable : PsuProtectionKind → Bool → String
  level : PsuProtectionKind → String → String
  clear : PsuProtectionKind → String

structure Tracking where
  get : PsuMethod Bool
  set : Bool → PsuMethod Unit

structure Supply where
  channelIds : List Nat
  select : Nat → PsuMethod Unit
  status : List (String × Bool)
  measure : List (String × Bool)
  output : Bool → String
  voltage : String → String
  current : String → String
  protection : Option Protection
  tracking : Option Tracking

structure ChannelReplies where
  id : Nat
  replies : Replies
  deriving DecidableEq, Repr

inductive PsuResult where
  | undefined
  | channels (states : List ChannelReplies)
  | channel (state : ChannelReplies)
  | killed (result : OutputKillResult)
  deriving DecidableEq, Repr

namespace Supply
variable (psu : Supply)

def readSelected (channel : Nat) (asked : List (String × Bool)) : PsuMethod ChannelReplies := do
  call (psu.select channel)
  let replies ← readAll (some channel) asked
  pure ⟨channel,replies⟩

def writeSelected (channel : Nat) (text : String) : PsuMethod Unit := do
  call (psu.select channel)
  write (some channel) text

def readChannels : List Nat → PsuMethod (List ChannelReplies)
  | [] => pure []
  | id :: rest => do
      let state ← call (psu.readSelected id psu.status)
      let more ← readChannels rest
      pure (state :: more)

def getChannels : PsuMethod (List ChannelReplies) := psu.readChannels psu.channelIds

def setChannelOutput (channel : Nat) (enabled : Bool) : PsuMethod Unit :=
  psu.writeSelected channel (psu.output enabled)

def facade : PowerSupply PsuMethod where
  tracking := psu.tracking.isSome
  getTracking := match psu.tracking with | none => pure false | some t => call t.get
  setTracking enabled := match psu.tracking with | none => pure () | some t => call (t.set enabled)
  getChannels := do
    let states ← call psu.getChannels
    pure (states.map ChannelReplies.id)
  setChannelOutput channel enabled := call (psu.setChannelOutput channel enabled)

def disableAllOutputs : PsuMethod OutputKillResult := call (runPsuDisableAll psu.facade)

end Supply

inductive PsuCall where
  | getChannels
  | setChannelOutput (channel : Nat) (enabled : Bool)
  | setChannelVoltage (channel : Nat) (volts : String)
  | setChannelCurrent (channel : Nat) (amps : String)
  | measureChannel (channel : Nat)
  | getProtection (channel : Nat) (kind : PsuProtectionKind)
  | setProtectionEnabled (channel : Nat) (kind : PsuProtectionKind) (enabled : Bool)
  | setProtectionLevel (channel : Nat) (kind : PsuProtectionKind) (level : String)
  | clearProtectionTrip (channel : Nat) (kind : PsuProtectionKind)
  | disableAllOutputs
  deriving DecidableEq, Repr

-- A facade without the capability has no such method.
def absent (name : String) : PsuMethod PsuResult := throw ⟨.error,s!"psu.{name} is not a function"⟩

def protecting (psu : Supply) (name : String) (method : Protection → PsuMethod PsuResult) :
    PsuMethod PsuResult :=
  match psu.protection with
  | none => absent name
  | some p => method p

def method (psu : Supply) : PsuCall → PsuMethod PsuResult
  | .getChannels => do pure (.channels (← psu.getChannels))
  | .setChannelOutput channel enabled => do psu.setChannelOutput channel enabled; pure .undefined
  | .setChannelVoltage channel volts => do
      psu.writeSelected channel (psu.voltage volts); pure .undefined
  | .setChannelCurrent channel amps => do
      psu.writeSelected channel (psu.current amps); pure .undefined
  | .measureChannel channel => do pure (.channel (← psu.readSelected channel psu.measure))
  | .getProtection channel kind =>
      protecting psu "getProtection" fun p => do
        pure (.channel (← psu.readSelected channel (p.query kind)))
  | .setProtectionEnabled channel kind enabled =>
      protecting psu "setProtectionEnabled" fun p => do
        psu.writeSelected channel (p.enable kind enabled); pure .undefined
  | .setProtectionLevel channel kind level =>
      protecting psu "setProtectionLevel" fun p => do
        psu.writeSelected channel (p.level kind level); pure .undefined
  | .clearProtectionTrip channel kind =>
      protecting psu "clearProtectionTrip" fun p => do
        psu.writeSelected channel (p.clear kind); pure .undefined
  | .disableAllOutputs => do pure (.killed (← psu.disableAllOutputs))

def onOff (enabled : Bool) : String := if enabled then "ON" else "OFF"

structure Profile where
  variant : String
  channelIds : List Nat
  deriving DecidableEq, Repr

namespace RndsNge

def select (profile : Profile) (channel : Nat) : PsuMethod Unit := do
  if channel ∉ profile.channelIds then
    throw ⟨.error,s!"R&S {profile.variant} does not have channel {channel}"⟩
  else if (← lastSelected) = some channel then pure ()
  else
    writeSelect channel s!"INSTrument:SELect OUT{channel}"
    keepSelected channel

def base : PsuProtectionKind → String
  | .ovp => "SOURce:VOLTage"
  | .ocp => "SOURce:CURRent"

def supply (profile : Profile) : Supply where
  channelIds := profile.channelIds
  select := select profile
  status := [("SOURce:VOLTage?",true),("SOURce:CURRent?",true),("MEASure:SCALar:VOLTage?",true),
    ("MEASure:SCALar:CURRent?",true),("OUTPut:STATe?",true)]
  measure := [("MEASure:SCALar:VOLTage?",true),("MEASure:SCALar:CURRent?",true)]
  output enabled := s!"OUTPut:STATe {onOff enabled}"
  voltage volts := s!"SOURce:VOLTage {volts}"
  current amps := s!"SOURce:CURRent {amps}"
  protection := some {
    query := fun kind => [(s!"{base kind}:PROTection:LEVel?",true),
      (s!"{base kind}:PROTection:STATe?",true),(s!"{base kind}:PROTection:TRIPped?",true)]
    enable := fun kind enabled => s!"{base kind}:PROTection:STATe {onOff enabled}"
    level := fun kind level => s!"{base kind}:PROTection:LEVel {level}"
    clear := fun kind => s!"{base kind}:PROTection:CLEar" }
  tracking := none

end RndsNge

namespace KeysightE36

def select (channel : Nat) : PsuMethod Unit :=
  writeSelect channel s!"INSTrument:NSELect {channel}"

def base : PsuProtectionKind → String
  | .ovp => "VOLTage"
  | .ocp => "CURRent"

def getTracking : PsuMethod Bool :=
  tryCatch (do
    let replies ← readAll none [("OUTPut:TRACk?",false)]
    pure (replies.any fun raw => raw.any fun raw => parseBool raw.value))
    fun _ => pure false

def supply (profile : Profile) (trackingChannels : List Nat) : Supply where
  channelIds := profile.channelIds
  select := select
  status := [("VOLTage?",false),("CURRent?",false),("MEASure:SCALar:VOLTage:DC?",false),
    ("MEASure:SCALar:CURRent:DC?",false),("OUTPut:STATe?",false)]
  measure := [("MEASure:SCALar:VOLTage:DC?",false),("MEASure:SCALar:CURRent:DC?",false)]
  output enabled := s!"OUTPut:STATe {onOff enabled}"
  voltage volts := s!"VOLTage {volts}"
  current amps := s!"CURRent {amps}"
  protection := some {
    query := fun kind => [(s!"{base kind}:PROTection:STATe?",false),
      (s!"{base kind}:PROTection:LEVel?",false),(s!"{base kind}:PROTection:TRIPped?",true)]
    enable := fun kind enabled => s!"{base kind}:PROTection:STATe {onOff enabled}"
    level := fun kind level => s!"{base kind}:PROTection:LEVel {level}"
    clear := fun kind => s!"{base kind}:PROTection:CLEar" }
  tracking :=
    if trackingChannels = [] then none
    else some ⟨getTracking,fun enabled => write none s!"OUTPut:TRACk {onOff enabled}"⟩

end KeysightE36

def hop (profile : Profile) (text : Nat → String) (channel : Nat) : PsuMethod Unit :=
  if profile.channelIds.length > 1 then writeSelect channel (text channel) else pure ()

def selectUnlessSingle (profile : Profile) (vendor : String) (text : Nat → String) (channel : Nat) :
    PsuMethod Unit := do
  if channel ∉ profile.channelIds then
    throw ⟨.error,s!"{vendor} {profile.variant} does not have channel {channel}"⟩
  else if (← lastSelected) = some channel then pure ()
  else
    hop profile text channel
    keepSelected channel

namespace OwonSpe

def select (profile : Profile) : Nat → PsuMethod Unit :=
  selectUnlessSingle profile "Owon" fun channel => s!"INSTrument:NSELect {channel}"

def supply (profile : Profile) : Supply where
  channelIds := profile.channelIds
  select := select profile
  status := [("VOLTage?",false),("CURRent?",false),("MEASure:VOLTage?",false),
    ("MEASure:CURRent?",false),("OUTPut?",false)]
  measure := [("MEASure:VOLTage?",false),("MEASure:CURRent?",false)]
  output enabled := s!"OUTPut {onOff enabled}"
  voltage volts := s!"VOLTage {volts}"
  current amps := s!"CURRent {amps}"
  protection := none
  tracking := none

end OwonSpe

namespace TektronixPws

def select (profile : Profile) : Nat → PsuMethod Unit :=
  selectUnlessSingle profile "Tektronix" fun channel => s!"INSTrument:SELect OUT{channel}"

def supply (profile : Profile) : Supply where
  channelIds := profile.channelIds
  select := select profile
  status := [("VOLTage?",true),("CURRent?",true),("MEASure:VOLTage?",true),
    ("MEASure:CURRent?",true),("OUTPut?",true)]
  measure := [("MEASure:VOLTage?",true),("MEASure:CURRent?",true)]
  output enabled := s!"OUTPut {onOff enabled}"
  voltage volts := s!"VOLTage {volts}"
  current amps := s!"CURRent {amps}"
  protection := none
  tracking := none

end TektronixPws

inductive Driver where
  | rndsNge (profile : Profile)
  | keysightE36 (profile : Profile) (trackingChannels : List Nat)
  | owonSpe (profile : Profile)
  | tektronixPws (profile : Profile)
  deriving DecidableEq, Repr

def Driver.supply : Driver → Supply
  | .rndsNge profile => RndsNge.supply profile
  | .keysightE36 profile trackingChannels => KeysightE36.supply profile trackingChannels
  | .owonSpe profile => OwonSpe.supply profile
  | .tektronixPws profile => TektronixPws.supply profile

end LxiWeb.PsuDrivers
