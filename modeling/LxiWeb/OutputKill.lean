import Mathlib.Data.List.Basic
import LxiWeb.ScpiFraming

/-! The panic path of power supplies and signal generators. `runPsuDisableAll` and
`runSgDisableAll` are written over any facade; a scripted facade gives every call an outcome
and keeps what became of the instrument. -/
namespace LxiWeb.OutputKill
open JsText ScpiFraming

inductive Kind where
  | ok | part | error
  deriving DecidableEq, Repr

structure KillError where
  target : String
  message : String
  deriving DecidableEq, Repr

structure OutputKillResult where
  kind : Kind
  touched : List String
  errors : List KillError
  deriving DecidableEq, Repr

/-- The part of a supply that the panic path uses; `tracking` says that the supply has the
capability and both its accessors. -/
structure PowerSupply (m : Type → Type) where
  tracking : Bool
  getTracking : m Bool
  setTracking : Bool → m Unit
  getChannels : m (List Nat)
  setChannelOutput : Nat → Bool → m Unit

structure SignalGenerator (m : Type → Type) where
  getChannels : m (List Nat)
  setChannelEnabled : Nat → Bool → m Unit

structure ElectronicLoad (m : Type → Type) where
  setInputEnabled : Bool → m Unit

def killResult (touched : List String) (errors : List KillError) : OutputKillResult :=
  if errors = [] then ⟨.ok,touched,[]⟩
  else ⟨if touched = [] then .error else .part,touched,errors⟩

section
variable {m : Type → Type} [Monad m] [MonadExceptOf JsError m]

def disableEach (turnOff : Nat → m Unit) : List Nat → m (List String × List KillError)
  | [] => pure ([],[])
  | id :: rest => do
      let one ← tryCatch (do turnOff id; pure ([s!"CH{id}"],[]))
        fun err => pure ([],[⟨s!"CH{id}",err.message⟩])
      let more ← disableEach turnOff rest
      pure (one.1 ++ more.1,one.2 ++ more.2)

def disableListed (target : String) (getChannels : m (List Nat)) (turnOff : Nat → m Unit) :
    m (List String × List KillError) :=
  tryCatch (do
    let channels ← getChannels
    disableEach turnOff channels)
    fun err => pure ([],[⟨target,err.message⟩])

def stopTracking (psu : PowerSupply m) : m (List KillError) :=
  if psu.tracking then
    tryCatch (do
      if ← psu.getTracking then psu.setTracking false
      pure [])
      fun err => pure [⟨"tracking",err.message⟩]
  else pure []

def runPsuDisableAll (psu : PowerSupply m) : m OutputKillResult := do
  let tracking ← stopTracking psu
  let channels ← disableListed "psu" psu.getChannels (psu.setChannelOutput · false)
  pure (killResult channels.1 (tracking ++ channels.2))

def runEloadDisableAll (el : ElectronicLoad m) : m OutputKillResult :=
  tryCatch (do
    el.setInputEnabled false
    pure ⟨.ok,["input"],[]⟩)
    fun err => pure ⟨.error,[],[⟨"input",err.message⟩]⟩

def runSgDisableAll (sg : SignalGenerator m) : m OutputKillResult := do
  let channels ← disableListed "sg" sg.getChannels (sg.setChannelEnabled · false)
  pure (killResult channels.1 channels.2)

end

inductive PairingMode where
  | off | series | parallel
  deriving DecidableEq, Repr

/- The instrument: the output calls made, the output writes it was sent, the outputs it turned
off, its coupling. -/
structure Instrument where
  calls : Nat
  attempted : List (Nat × Bool)
  disabled : List Nat
  tracking : Bool
  pairing : PairingMode
  deriving DecidableEq, Repr

abbrev Panic := ExceptT JsError (StateM Instrument)

/- One output call: what the driver awaits in front of the output write (a check of the channel, a
select write), and the write itself. -/
structure OutputCall where
  selected : Except JsError Unit
  written : Except JsError Unit

/- One outcome for every call of a run; output calls are numbered in the order they are made. -/
structure PsuOutcomes where
  tracks : Bool
  getTracking : Except JsError Bool
  setTracking : Except JsError Unit
  getChannels : Except JsError (List Nat)
  setChannelOutput : Nat → Nat → OutputCall

structure SgOutcomes where
  getChannels : Except JsError (List Nat)
  setChannelEnabled : Nat → Nat → OutputCall

def writeOutput (outcome : Nat → Nat → OutputCall) (id : Nat) (enabled : Bool) : Panic Unit := fun s =>
  let call := outcome s.calls id
  let called := { s with calls := s.calls + 1 }
  match call.selected with
  | .error err => (.error err,called)
  | .ok _ =>
    let sent := { called with attempted := s.attempted ++ [(id,enabled)] }
    match call.written with
    | .error err => (.error err,sent)
    | .ok _ => (.ok (),{ sent with
        disabled := if enabled then s.disabled.erase id else s.disabled ++ [id] })

def writeTracking (outcome : Except JsError Unit) (enabled : Bool) : Panic Unit := fun s =>
  match outcome with
  | .error err => (.error err,s)
  | .ok _ => (.ok (),{ s with tracking := enabled })

def settled {α : Type} (outcome : Except JsError α) : Panic α := fun s => (outcome,s)

def PsuOutcomes.facade (o : PsuOutcomes) : PowerSupply Panic where
  tracking := o.tracks
  getTracking := settled o.getTracking
  setTracking := writeTracking o.setTracking
  getChannels := settled o.getChannels
  setChannelOutput := writeOutput o.setChannelOutput

def SgOutcomes.facade (o : SgOutcomes) : SignalGenerator Panic where
  getChannels := settled o.getChannels
  setChannelEnabled := writeOutput o.setChannelEnabled

section
variable {α β : Type} (x : Panic α) (s : Instrument)

@[simp] theorem panicBind (f : α → Panic β) :
    (x >>= f) s = match x s with
      | (.ok a,after) => f a after
      | (.error err,after) => (.error err,after) := by
  simp only [bind,ExceptT.bind,ExceptT.mk,StateT.bind,ExceptT.bindCont]
  cases outcome : x s with
  | mk r after => cases r <;> rfl

@[simp] theorem panicMap (f : α → β) :
    (f <$> x) s = match x s with
      | (.ok a,after) => (.ok (f a),after)
      | (.error err,after) => (.error err,after) := by
  rw [← bind_pure_comp,panicBind]
  rfl

end

def Reached (outcome : Nat → Nat → OutputCall) (first : Nat) (ids : List Nat) (id : Nat) : Prop :=
  ∃ i, ids[i]? = some id ∧ (outcome (first + i) id).selected = .ok ()

def start (tracking : Bool) (pairing : PairingMode) : Instrument := ⟨0,[],[],tracking,pairing⟩

/- Every channel of the profile is sent an OFF, and `ok` means that all of them took it and
that no coupling is left. -/
def Complete (profile : List Nat) (ran : Except JsError OutputKillResult × Instrument) : Prop :=
  ∃ result, ran.1 = .ok result ∧ (∀ id ∈ profile, (id,false) ∈ ran.2.attempted) ∧
    (result.kind = .ok →
      (∀ id ∈ profile, id ∈ ran.2.disabled) ∧ ran.2.tracking = false ∧ ran.2.pairing = .off)

/- The status read resolves and lists every channel of the profile, and in one of the calls made
for the channel nothing fails in front of the OFF write. -/
def Reaches (profile : List Nat) (getChannels : Except JsError (List Nat))
    (outcome : Nat → Nat → OutputCall) : Prop :=
  ∀ id ∈ profile, ∃ ids, getChannels = .ok ids ∧ Reached outcome 0 ids id

def parseBool (raw : String) : Bool :=
  String.ofList ((trim raw.toList).map capital) ∈ ["1","ON","TRUE","YES"]

theorem mapMOk {α β : Type} {f : α → Except JsError β} (xs : List α) :
    (∃ ys, xs.mapM f = .ok ys) ↔ ∀ x ∈ xs, ∃ y, f x = .ok y := by
  induction xs with
  | nil => simp [pure,Except.pure]
  | cons x rest ih =>
    rw [List.forall_mem_cons,← ih,List.mapM_cons]
    cases now : f x with
    | error err => simp [bind,Except.bind]
    | ok y =>
      cases later : rest.mapM f with
      | error err => simp [bind,Except.bind]
      | ok ys => simp [bind,Except.bind,pure,Except.pure]

namespace RigolDp900

def statusQueries (id : Nat) : List String :=
  [s!":SOURce{id}:VOLTage?",s!":SOURce{id}:CURRent?",s!":MEASure:ALL? CH{id}",
    s!":OUTPut:STATe? CH{id}"]

variable (port : String → Except JsError String)

/- `Promise.all` over the four queries of a channel; the panic path keeps only its id. -/
def readChannel (id : Nat) : Except JsError Nat := do
  let _ ← (statusQueries id).mapM port
  pure id

def outcomes (channelIds : List Nat) : PsuOutcomes where
  tracks := true
  getTracking := (port ":OUTPut:TRACk?").map parseBool
  setTracking := (port ":OUTPut:TRACk OFF").map fun _ => ()
  getChannels := channelIds.mapM (readChannel port)
  setChannelOutput _ id := ⟨.ok (),(port s!":OUTPut:STATe CH{id},OFF").map fun _ => ()⟩

theorem readChannelOk (id : Nat) :
    (∃ y, readChannel port id = .ok y) ↔ ∀ query ∈ statusQueries id, ∃ raw, port query = .ok raw := by
  rw [← mapMOk]
  unfold readChannel
  cases (statusQueries id).mapM port <;> simp [bind,Except.bind,pure,Except.pure]

theorem readChannelId {id y : Nat} (read : readChannel port id = .ok y) : y = id := by
  unfold readChannel at read
  cases replies : (statusQueries id).mapM port with
  | error err => simp [replies,bind,Except.bind] at read
  | ok raws => simpa [replies,bind,Except.bind,pure,Except.pure,eq_comm] using read

theorem readAll {ids ys : List Nat} (read : ids.mapM (readChannel port) = .ok ys) : ys = ids := by
  induction ids generalizing ys with
  | nil => simpa [pure,Except.pure,eq_comm] using read
  | cons id rest ih =>
    rw [List.mapM_cons] at read
    cases now : readChannel port id with
    | error err => simp [now,bind,Except.bind] at read
    | ok y =>
      cases later : rest.mapM (readChannel port) with
      | error err => simp [now,later,bind,Except.bind] at read
      | ok more =>
        rw [readChannelId port now,ih later] at *
        simpa [now,later,bind,Except.bind,pure,Except.pure,eq_comm] using read

theorem reachesIff (channelIds : List Nat) :
    Reaches channelIds (outcomes port channelIds).getChannels (outcomes port channelIds).setChannelOutput ↔
      ∀ id ∈ channelIds, ∀ query ∈ statusQueries id, ∃ raw, port query = .ok raw := by
  have answered := mapMOk (f := readChannel port) channelIds
  simp only [readChannelOk] at answered
  rw [← answered]
  constructor
  · intro reaches
    cases channelIds with
    | nil => exact ⟨[],rfl⟩
    | cons id rest =>
      obtain ⟨ids,read,_⟩ := reaches id (by simp)
      exact ⟨ids,read⟩
  · rintro ⟨ids,read⟩ id member
    obtain rfl := readAll port read
    obtain ⟨i,at_⟩ := List.mem_iff_getElem?.mp member
    exact ⟨ids,read,i,at_,rfl⟩

end RigolDp900

namespace KeysightE36

/- `port` answers by rounds: 0 is all that comes before the OFF loop, `n + 1` the n-th output call. -/
variable (trackingChannels : List Nat) (port : Nat → String → Except JsError String)

def select (round id : Nat) : Except JsError Unit :=
  (port round s!"INSTrument:NSELect {id}").map fun _ => ()

def statusQueries : List String :=
  ["VOLTage?","CURRent?","MEASure:SCALar:VOLTage:DC?","MEASure:SCALar:CURRent:DC?","OUTPut:STATe?"]

def readChannel (id : Nat) : Except JsError Nat := do
  select port 0 id
  let _ ← statusQueries.mapM (port 0)
  pure id

-- A failed read of the tracking is taken for no tracking.
def getTracking : Bool :=
  match port 0 "OUTPut:TRACk?" with
  | .ok raw => parseBool raw
  | .error _ => false

def outcomes (channelIds : List Nat) : PsuOutcomes where
  tracks := !trackingChannels.isEmpty
  getTracking := .ok (getTracking port)
  setTracking := (port 0 "OUTPut:TRACk OFF").map fun _ => ()
  getChannels := channelIds.mapM (readChannel port)
  setChannelOutput call id :=
    ⟨select port (call + 1) id,(port (call + 1) "OUTPut:STATe OFF").map fun _ => ()⟩

def losesSelect (round : Nat) (_ : String) : Except JsError String :=
  if round = 2 then .error ⟨.scpiTransportError,"write EPIPE"⟩ else .ok "0"

end KeysightE36

theorem rejectedSelectKeepsOutputOn :
    ¬ Complete [1,2] (runPsuDisableAll
      (KeysightE36.outcomes [] KeysightE36.losesSelect [1,2]).facade (start false .off)) := by
  rintro ⟨_,_,all,_⟩
  exact absurd (all 2 (by decide)) (by decide)

end LxiWeb.OutputKill
