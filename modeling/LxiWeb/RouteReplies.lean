import LxiWeb.CallRuns
import LxiWeb.JsNumbers

/-! Two routes that change an instrument in several awaited steps: `POST dmm/ranging` and
`POST psu/channels/:channel/protection/:kind`. A facade is the data that a driver shows and which
of its optional methods there are; any call of one may reject. -/
namespace LxiWeb.RouteReplies
open AsyncTasks CallRuns JsNumbers

structure Reply where
  status : Nat
  error : String
  deriving DecidableEq, Repr

def reply400 (error : String) : Reply := ⟨400,error⟩

def reply409 (error : String) : Reply := ⟨409,error⟩

-- what the server makes of a handler that rejects
def reply500 : Reply := ⟨500,"Internal Server Error"⟩

def Refused (reply : Reply) : Prop := reply.status = 400 ∨ reply.status = 409

@[simp] theorem reply400Refused (error : String) : ¬ Harmless Refused (reply400 error) :=
  fun harmless => harmless (.inl rfl)

@[simp] theorem reply409Refused (error : String) : ¬ Harmless Refused (reply409 error) :=
  fun harmless => harmless (.inr rfl)

@[simp] theorem reply500Harmless : Harmless Refused reply500 := by simp [Harmless,Refused,reply500]

inductive Kind where
  | ovp | ocp
  deriving DecidableEq, Repr

inductive FacadeCall (F : Type) where
  | setRange (mode : String) (range : Json F)
  | setNplc (value : F)
  | setAutoZero (mode : String)
  | setProtectionLevel (channel : F) (kind : Kind) (level : F)
  | setProtectionEnabled (channel : F) (kind : Kind) (enabled : Bool)

/- A handler that returns has replied `{ ok: true }`; one that sends an error ends with it. -/
abbrev Handler (F : Type) := Method Unit (FacadeCall F) Bool Reply

def call {F : Type} (c : FacadeCall F) : Handler F Unit := order reply500 c

structure Ranging (F : Type) where
  modes : List String
  -- the upper ends of a mode's ranges
  ranges : String → Option (List F)
  nplc : List F

structure Multimeter (F : Type) where
  ranging : Option (Ranging F)
  setRange : Bool
  setNplc : Bool
  setAutoZero : Bool

structure Protection (F : Type) where
  channels : List F
  -- the least and the greatest level of a channel that is listed
  ranges : F → Kind → Option (F × F)

structure PowerSupply (F : Type) where
  protection : Option (Protection F)
  setProtectionLevel : Bool
  setProtectionEnabled : Bool

section
variable {F : Type} (num : Numbers F) (toNumber : Json F → F)

/- `range` is beyond the last range of the mode; without ranges anything passes. -/
def rangeFits (ranging : Ranging F) (mode : String) (range : Json F) : Bool :=
  range.asText = some "auto" ||
    match (ranging.ranges mode).bind List.getLast? with
    | none => true
    | some max =>
        !num.le (toNumber range) (num.ofInt 0) &&
          !num.lt (num.mul max (num.ofDecimal 11 1)) (toNumber range)

def postRange (d : Multimeter F) (ranging : Ranging F) (mode : Option (Json F)) (range : Json F) :
    Handler F Unit := do
  require (mode.any (Json.truthy num)) (reply400 "mode is required when setting range")
  match mode.bind Json.asText with
  | none => throw (reply400 "mode is not supported by ranging")
  | some mode => do
    require (mode ∈ ranging.modes) (reply400 "mode is not supported by ranging")
    require (rangeFits num toNumber ranging mode range) (reply400 "range out of bounds")
    require d.setRange (reply409 "setRange not implemented")
    call (.setRange mode range)

def nplcFits (ranging : Ranging F) (nplc : F) : Bool :=
  num.isFinite nplc && ranging.nplc.any fun x => num.same x nplc

def postNplc (d : Multimeter F) (ranging : Ranging F) (nplc : Json F) : Handler F Unit := do
  require (nplcFits num ranging (toNumber nplc)) (reply400 "nplc not in capability list")
  require d.setNplc (reply409 "setNplc not implemented")
  call (.setNplc (toNumber nplc))

def autoZeroModes : List String := ["on", "off", "once"]

def postAutoZero (d : Multimeter F) (autoZero : Json F) : Handler F Unit :=
  match autoZero.asText with
  | none => throw (reply400 "invalid autoZero mode")
  | some mode => do
    require (mode ∈ autoZeroModes) (reply400 "invalid autoZero mode")
    require d.setAutoZero (reply409 "setAutoZero not implemented")
    call (.setAutoZero mode)

/- `d` is `none` for a session that is no multimeter. -/
def postDmmRanging (d : Option (Multimeter F)) (body : Option (Json F)) : Handler F Unit :=
  match d with
  | none => throw (reply409 "session is not a multimeter")
  | some d =>
    match d.ranging with
    | none => throw (reply409 "ranging is not supported")
    | some ranging => do
      let body := Json.orEmpty body
      given (body.field "range") (postRange num toNumber d ranging (body.field "mode"))
      given (body.field "nplc") (postNplc num toNumber d ranging)
      given (body.field "autoZero") (postAutoZero d)

def parseKind (kind : String) : Option Kind :=
  if kind = "ovp" then some .ovp else if kind = "ocp" then some .ocp else none

def channelListed (protection : Protection F) (ch : F) : Bool :=
  protection.channels.any fun c => num.sameValueZero c ch

def levelFits (protection : Protection F) (ch : F) (kind : Kind) (level : F) : Bool :=
  (protection.ranges ch kind).all fun (min,max) => !num.lt level min && !num.lt max level

/- `channel` and `kind` are parts of the path. -/
def postPsuProtection (p : Option (PowerSupply F)) (channel kind : String) (body : Option (Json F)) :
    Handler F Unit :=
  match p with
  | none => throw (reply409 "session is not a power supply")
  | some p =>
    match p.protection with
    | none => throw (reply409 "protection is not supported by this PSU")
    | some protection =>
      let ch := toNumber (.text channel)
      match parseKind kind with
      | none => throw (reply400 "kind must be 'ovp' or 'ocp'")
      | some kind => do
        require (channelListed num protection ch) (reply400 "channel does not support protection")
        let body := Json.orEmpty body
        require ((body.field "level").isSome || (body.field "enabled").isSome)
          (reply400 "enabled or level must be provided")
        given ((body.field "level").bind Json.asNumber) fun level => do
          require (levelFits num protection ch kind level) (reply400 "level out of range")
          require p.setProtectionLevel (reply409 "setProtectionLevel not supported")
          call (.setProtectionLevel ch kind level)
        given ((body.field "enabled").bind Json.asBool) fun enabled => do
          require p.setProtectionEnabled (reply409 "setProtectionEnabled not supported")
          call (.setProtectionEnabled ch kind enabled)

inductive Request (F : Type) where
  | dmmRanging (d : Option (Multimeter F)) (body : Option (Json F))
  | psuProtection (p : Option (PowerSupply F)) (channel kind : String) (body : Option (Json F))

def Request.handler : Request F → Handler F Unit
  | .dmmRanging d body => postDmmRanging num toNumber d body
  | .psuProtection p channel kind body => postPsuProtection num toNumber p channel kind body

/- A handler that replies 400 or 409 has called nothing that changes the instrument, whichever
of its calls go through. -/
def RefusedChangesNothing (handler : Handler F Unit) : Prop :=
  ∀ (passed : Nat → Bool) reply, (played passed handler.run ()).result = .error reply →
    reply.status = 400 ∨ reply.status = 409 → (played passed handler.run ()).exchanges = []

def rangeRefused (d : Multimeter F) (ranging : Ranging F) (mode : Option (Json F)) (range : Json F) :
    Bool :=
  !(mode.any (Json.truthy num) && (mode.bind Json.asText).any fun mode =>
    mode ∈ ranging.modes && rangeFits num toNumber ranging mode range && d.setRange)

def nplcRefused (d : Multimeter F) (ranging : Ranging F) (nplc : Json F) : Bool :=
  !(nplcFits num ranging (toNumber nplc) && d.setNplc)

def autoZeroRefused (d : Multimeter F) (autoZero : Json F) : Bool :=
  !autoZero.asText.any fun mode => mode ∈ autoZeroModes && d.setAutoZero

-- the first field that is refused stands behind none that was set
def rangingChecked (d : Multimeter F) (ranging : Ranging F) (body : Json F) : Prop :=
  if (body.field "range").any (rangeRefused num toNumber d ranging (body.field "mode")) then True
  else if (body.field "nplc").any (nplcRefused num toNumber d ranging) then body.field "range" = none
  else if (body.field "autoZero").any (autoZeroRefused d) then
    body.field "range" = none ∧ body.field "nplc" = none
  else True

-- a level that is set, and `enabled` beside it, need the methods of both
def protectionChecked (p : PowerSupply F) (protection : Protection F) (ch : F) (kind : Kind)
    (body : Json F) : Prop :=
  channelListed num protection ch →
  ∀ level ∈ (body.field "level").bind Json.asNumber,
    ((body.field "enabled").bind Json.asBool).isSome →
    levelFits num protection ch kind level → p.setProtectionLevel → p.setProtectionEnabled

end

structure SetsField {F : Type} (part : Handler F Unit) (refused : Bool) : Prop where
  accepts : ∀ next : Unit → Handler F Unit,
    Accepts Refused (part >>= next) ↔ refused = false ∧ Accepts Refused (next ())
  first : ∀ next : Unit → Handler F Unit,
    RefusesFirst Refused (part >>= next) ↔ (refused = false → Accepts Refused (next ()))

namespace SetsField
variable {F : Type} {part : Handler F Unit} {refused : Bool}

theorem acceptsLast (sets : SetsField part refused) : Accepts Refused part ↔ refused = false := by
  have ended := sets.accepts pure
  rw [bind_pure] at ended
  simpa using ended

theorem firstLast (sets : SetsField part refused) : RefusesFirst Refused part := by
  have ended := sets.first pure
  rw [bind_pure] at ended
  exact ended.mpr fun _ => acceptsReturn ()

end SetsField

section
variable {F : Type} (num : Numbers F) (toNumber : Json F → F) (d : Multimeter F) (ranging : Ranging F)

theorem rangeSets (mode : Option (Json F)) (range : Json F) :
    SetsField (postRange num toNumber d ranging mode range)
      (rangeRefused num toNumber d ranging mode range) := by
  constructor <;> intro next <;> cases named : mode.bind Json.asText <;>
    simp [postRange,rangeRefused,call,named,and_assoc]

theorem nplcSets (nplc : Json F) :
    SetsField (postNplc num toNumber d ranging nplc) (nplcRefused num toNumber d ranging nplc) := by
  constructor <;> intro next <;> simp [postNplc,nplcRefused,call,and_assoc]

theorem autoZeroSets (autoZero : Json F) :
    SetsField (postAutoZero d autoZero) (autoZeroRefused d autoZero) := by
  constructor <;> intro next <;> cases named : autoZero.asText <;>
    simp [postAutoZero,autoZeroRefused,call,named,and_assoc]

theorem rangingFirst (body : Json F) :
    RefusesFirst Refused (do
      given (body.field "range") (postRange num toNumber d ranging (body.field "mode"))
      given (body.field "nplc") (postNplc num toNumber d ranging)
      given (body.field "autoZero") (postAutoZero d)) ↔ rangingChecked num toNumber d ranging body := by
  have range := rangeSets num toNumber d ranging (body.field "mode")
  have nplc := nplcSets num toNumber d ranging
  have zero := autoZeroSets d
  cases ranged : body.field "range" <;> cases integrated : body.field "nplc" <;>
    cases zeroed : body.field "autoZero" <;>
    simp [rangingChecked,ranged,integrated,zeroed,given,(range _).first,(range _).firstLast,(nplc _).first,
      (nplc _).accepts,(zero _).acceptsLast,(zero _).firstLast,(nplc _).firstLast,(nplc _).acceptsLast]

def Request.checkedFirst : Request F → Prop
  | .dmmRanging d body => ∀ m ∈ d, ∀ ranging ∈ m.ranging,
      rangingChecked num toNumber m ranging (Json.orEmpty body)
  | .psuProtection p channel kind body => ∀ supply ∈ p, ∀ protection ∈ supply.protection,
      ∀ k ∈ parseKind kind,
        protectionChecked num supply protection (toNumber (.text channel)) k (Json.orEmpty body)

theorem protectionFirst (p : Option (PowerSupply F)) (channel kind : String) (body : Option (Json F)) :
    RefusesFirst Refused (postPsuProtection num toNumber p channel kind body) ↔
      (Request.psuProtection p channel kind body).checkedFirst num toNumber := by
  cases p with
  | none => simp [postPsuProtection,Request.checkedFirst]
  | some supply =>
    cases listed : supply.protection with
    | none => simp [postPsuProtection,Request.checkedFirst,listed]
    | some protection =>
      cases kinds : parseKind kind with
      | none => simp [postPsuProtection,Request.checkedFirst,listed,kinds]
      | some k =>
        cases level : ((Json.orEmpty body).field "level").bind Json.asNumber with
        | none => cases enabled : ((Json.orEmpty body).field "enabled").bind Json.asBool <;>
            simp [postPsuProtection,Request.checkedFirst,protectionChecked,listed,kinds,level,enabled,given,call]
        | some hz =>
          have provided : ((Json.orEmpty body).field "level").isSome := by
            obtain ⟨value,held,-⟩ := Option.bind_eq_some_iff.mp level
            simp [held]
          cases enabled : ((Json.orEmpty body).field "enabled").bind Json.asBool <;>
            simp [postPsuProtection,Request.checkedFirst,protectionChecked,listed,kinds,level,enabled,given,call,provided]

theorem dmmRangingFirst (d : Option (Multimeter F)) (body : Option (Json F)) :
    RefusesFirst Refused (postDmmRanging num toNumber d body) ↔
      (Request.dmmRanging d body).checkedFirst num toNumber := by
  cases d with
  | none => simp [postDmmRanging,Request.checkedFirst]
  | some m =>
    cases ranged : m.ranging with
    | none => simp [postDmmRanging,Request.checkedFirst,ranged]
    | some ranging =>
      simpa [postDmmRanging,Request.checkedFirst,ranged] using
        rangingFirst num toNumber m ranging (Json.orEmpty body)

theorem refusedChangesNothing (request : Request F) :
    RefusedChangesNothing (request.handler num toNumber) ↔ request.checkedFirst num toNumber := by
  cases request with
  | dmmRanging d body => exact dmmRangingFirst num toNumber d body
  | psuProtection p channel kind body => exact protectionFirst num toNumber p channel kind body

end

def wholeNumberOf : Json Int → Int
  | .number n => n
  | _ => 0

def someMultimeter : Multimeter Int :=
  { ranging := some { modes := ["dcVoltage"], ranges := fun _ => some [10], nplc := [1] }
    setRange := true, setNplc := true, setAutoZero := true }

def rangeAndWrongNplc : Json Int :=
  .object [("mode", .text "dcVoltage"), ("range", .number 10), ("nplc", .number 7)]

theorem refusedRangingChanges : ¬ RefusedChangesNothing
    ((Request.dmmRanging (some someMultimeter) (some rangeAndWrongNplc)).handler wholeNumbers wholeNumberOf) := by
  intro nothing
  have exchanges := nothing (fun _ => true) (reply400 "nplc not in capability list") rfl (.inl rfl)
  cases exchanges

end LxiWeb.RouteReplies
