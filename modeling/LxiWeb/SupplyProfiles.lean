import Mathlib.Algebra.Group.Nat.Defs
import LxiWeb.JsNumbers
import LxiWeb.ScpiCalls

/-! The profiles of the SPD and DP900 supplies, and how the connected instrument narrows them. -/
namespace LxiWeb.SupplyProfiles
open AsyncTasks CallRuns JsNumbers JsText ScpiCalls

structure ProtectionRange (F : Type) where
  min : F
  max : F
  deriving DecidableEq

structure SpdChannelProfile (F : Type) where
  id : Int
  label : String
  voltageMax : F
  currentMax : F
  ovpRange : ProtectionRange F
  ocpRange : ProtectionRange F
  deriving DecidableEq

structure Dp900ChannelProfile (F : Type) where
  id : Int
  voltageMax : F
  currentMax : F
  ovpRange : ProtectionRange F
  ocpRange : ProtectionRange F
  deriving DecidableEq

structure Profile (C : Type) where
  variant : String
  channels : List C
  pairingChannels : List Int
  trackingChannels : List Int
  presetSlots : Nat
  deriving DecidableEq

abbrev SpdProfile (F : Type) := Profile (SpdChannelProfile F)

abbrev Dp900Profile (F : Type) := Profile (Dp900ChannelProfile F)

-- `tok.length > 0 && tok !== "0"`
def parseOptList (raw : String) : List (List Char) :=
  (((trim raw.toList).splitOn ',').map trim).filter fun tok => tok ≠ [] ∧ tok ≠ ['0']

def queryOptList : DriverMethod Unit (List (List Char)) := do
  let answer ← attempt "*OPT?"
  pure ((answer.map parseOptList).getD [])

def infinite : Nat := 2 ^ 1024 - 2 ^ 970

def channelCount (raw : String) : Option Nat :=
  match parseInt (String.ofList (trim raw.toList)) with
  | some n => if 0 < n ∧ n.toNat < infinite then some n.toNat else none
  | none => none

def queryChannelCount : DriverMethod Unit (Option Nat) := do
  let answer ← attempt ":SYSTem:CHANnel:COUNt?"
  pure (answer.bind channelCount)

section
variable {C F : Type}

def Profile.narrow (base : Profile C) (detected : Nat) : Profile C :=
  { base with channels := base.channels.take detected }

def refineSpdProfile (base : SpdProfile F) : DriverMethod Unit (SpdProfile F) := do
  let _options ← queryOptList
  let detected ← queryChannelCount
  match detected with
  | some detected => if detected < base.channels.length then pure (base.narrow detected) else pure base
  | none => pure base

variable (num : Numbers F)

def readsVoltage (raw : String) : Bool := trim raw.toList ≠ [] && num.isFinite (num.parseFloat raw)

/- The loop of `probeChannelCount` behind channel `count`, with `left` channels to go. -/
def probeFrom : (left count : Nat) → DriverMethod Unit Nat
  | 0, count => pure count
  | left + 1, count => do
      let answer ← attempt s!":SOURce{count + 1}:VOLTage?"
      if answer.any (readsVoltage num) then probeFrom left (count + 1) else pure count

def probeChannelCount (upper : Nat) : DriverMethod Unit Nat := do
  let count ← probeFrom num upper 0
  pure (max 1 count)

def refineDp900Profile (base : Dp900Profile F) : DriverMethod Unit (Dp900Profile F) := do
  let reported ← queryChannelCount
  let detected ← match reported with
    | some n => pure n
    | none => probeChannelCount num base.channels.length
  if base.channels.length ≤ detected then pure base else pure (base.narrow detected)

end

section
variable {C F : Type} (id : C → Int)

structure Consistent (p : Profile C) : Prop where
  pairing : ∀ c ∈ p.pairingChannels, c ∈ p.channels.map id
  tracking : ∀ c ∈ p.trackingChannels, c ∈ p.channels.map id

structure Narrows (base refined : Profile C) : Prop where
  start : refined.channels <+: base.channels
  some_ : refined.channels ≠ []
  consistent : Consistent id refined
  pairing : refined.pairingChannels ⊆ base.pairingChannels
  tracking : refined.trackingChannels ⊆ base.trackingChannels

abbrev Replies := String → Answer

def ask (replies : Replies) (r : Request) : Replies × Answer :=
  match r with
  | .query command => (replies,replies command)
  | .write command | .writeBinary command _ => (replies,replies command)

def refined (m : DriverMethod Unit (Profile C)) (replies : Replies) : Except Failure (Profile C) :=
  (runAlone ask m.run () replies).result

def GivesNarrower (base : Profile C) (m : DriverMethod Unit (Profile C)) (replies : Replies) : Prop :=
  ∃ p, refined m replies = .ok p ∧ Narrows id base p

/- There are channels, and every coupled one is among the first `n`. -/
structure CoupledWithin (base : Profile C) (n : Nat) : Prop where
  channels : base.channels ≠ []
  pairing : ∀ c ∈ base.pairingChannels, c ∈ (base.channels.take n).map id
  tracking : ∀ c ∈ base.trackingChannels, c ∈ (base.channels.take n).map id

end

def reportedCount (replies : Replies) : Option Nat := (replies ":SYSTem:CHANnel:COUNt?").bind channelCount

def answers {F : Type} (num : Numbers F) (replies : Replies) (id : Nat) : Bool :=
  (replies s!":SOURce{id}:VOLTage?").any (readsVoltage num)

/- How many of `upper` channels answer before the first one that does not, and one at least. -/
def probedCount {F : Type} (num : Numbers F) (replies : Replies) (upper : Nat) : Nat :=
  max 1 ((List.range' 1 upper).takeWhile (answers num replies)).length

section
variable {C F : Type} {id : C → Int} {replies : Replies}

theorem narrowWhole {base : Profile C} {n : Nat} (all : base.channels.length ≤ n) : base.narrow n = base := by
  rw [Profile.narrow,List.take_of_length_le all]

theorem narrowsIff {base : Profile C} {n : Nat} (some_ : base.channels ≠ [] → 0 < n) :
    Narrows id base (base.narrow n) ↔ CoupledWithin id base n := by
  constructor
  · intro narrows
    refine ⟨fun none_ => narrows.some_ ?_,narrows.consistent.pairing,narrows.consistent.tracking⟩
    simp [Profile.narrow,none_]
  · intro coupled
    refine ⟨List.take_prefix n _,?_,⟨coupled.pairing,coupled.tracking⟩,List.Subset.refl _,List.Subset.refl _⟩
    intro empty
    rcases List.take_eq_nil_iff.mp empty with zero | none_
    · exact absurd zero (Nat.ne_of_gt (some_ coupled.channels))
    · exact coupled.channels none_

theorem channelCountPositive {raw : String} {n : Nat} (read : channelCount raw = some n) : 0 < n := by
  unfold channelCount at read
  split at read
  · split at read
    · obtain rfl := Option.some.inj read
      omega
    · cases read
  · cases read

theorem reportedPositive {n : Nat} (reported : reportedCount replies = some n) : 0 < n := by
  obtain ⟨raw,-,read⟩ := Option.bind_eq_some_iff.mp reported
  exact channelCountPositive read

theorem refinedSpd (base : SpdProfile F) : refined (refineSpdProfile base) replies =
    .ok (base.narrow ((reportedCount replies).getD base.channels.length)) := by
  have counted : refined (refineSpdProfile base) replies =
      (runAlone ask (match reportedCount replies with
        | some detected =>
            if detected < base.channels.length then pure (base.narrow detected) else pure base
        | none => pure base : DriverMethod Unit (SpdProfile F)).run () replies).result := rfl
  rw [counted]
  cases reportedCount replies with
  | none => rw [Option.getD_none,narrowWhole (Nat.le_refl _)]; rfl
  | some n =>
    simp only [Option.getD_some]
    split
    · rfl
    · rename_i all
      rw [narrowWhole (Nat.le_of_not_lt all)]
      rfl

variable (num : Numbers F)

theorem probedFrom (left count : Nat) :
    runAlone ask (probeFrom num left count).run () replies =
      ⟨.ok (count + ((List.range' (count + 1) left).takeWhile (answers num replies)).length),(),replies⟩ := by
  induction left generalizing count with
  | zero => rfl
  | succ left ih =>
    have asked : runAlone ask (probeFrom num (left + 1) count).run () replies =
        runAlone ask (if answers num replies (count + 1) then probeFrom num left (count + 1)
          else pure count : DriverMethod Unit Nat).run () replies := rfl
    rw [asked,List.range'_succ,List.takeWhile_cons]
    split
    · rw [ih,List.length_cons]
      congr 2
      omega
    · rfl

theorem refinedDp900 (base : Dp900Profile F) : refined (refineDp900Profile num base) replies =
    .ok (base.narrow ((reportedCount replies).getD (probedCount num replies base.channels.length))) := by
  have counted : runAlone ask queryChannelCount.run () replies = ⟨.ok (reportedCount replies),(),replies⟩ := rfl
  have narrowed (n : Nat) : (runAlone ask (if base.channels.length ≤ n then pure base
      else pure (base.narrow n) : DriverMethod Unit (Dp900Profile F)).run () replies).result =
        .ok (base.narrow n) := by
    split
    · rename_i all
      rw [narrowWhole all]
      rfl
    · rfl
  rw [refined,refineDp900Profile,runMethodBind,counted]
  cases reportedCount replies with
  | some n => exact narrowed n
  | none =>
    have probed : runAlone ask (probeChannelCount num base.channels.length).run () replies =
        ⟨.ok (probedCount num replies base.channels.length),(),replies⟩ := by
      rw [probeChannelCount,runMethodBind,probedFrom,Nat.zero_add]
      rfl
    simp only [Option.getD_none,runMethodBind,probed]
    exact narrowed _

theorem givesIff {m : DriverMethod Unit (Profile C)} {base : Profile C} {n : Nat}
    (refines : refined m replies = .ok (base.narrow n)) (some_ : base.channels ≠ [] → 0 < n) :
    GivesNarrower id base m replies ↔ CoupledWithin id base n := by
  rw [← narrowsIff some_,GivesNarrower,refines]
  constructor
  · rintro ⟨p,same,narrows⟩
    exact Except.ok.inj same ▸ narrows
  · exact fun narrows => ⟨_,rfl,narrows⟩

/-- The refined profile is a narrower and consistent one exactly when the base has channels and its
coupled channels are among those that are counted. -/
theorem refinedNarrower (spd : SpdProfile F) (dp900 : Dp900Profile F) (replies : Replies) :
    (GivesNarrower SpdChannelProfile.id spd (refineSpdProfile spd) replies ↔
      CoupledWithin SpdChannelProfile.id spd ((reportedCount replies).getD spd.channels.length)) ∧
    (GivesNarrower Dp900ChannelProfile.id dp900 (refineDp900Profile num dp900) replies ↔
      CoupledWithin Dp900ChannelProfile.id dp900
        ((reportedCount replies).getD (probedCount num replies dp900.channels.length))) := by
  constructor
  · refine givesIff (refinedSpd spd) fun channels => ?_
    cases reported : reportedCount replies with
    | none => exact List.length_pos_iff.mpr channels
    | some n => exact reportedPositive reported
  · refine givesIff (refinedDp900 num dp900) fun _ => ?_
    cases reported : reportedCount replies with
    | none => exact Nat.le_max_left 1 _
    | some n => exact reportedPositive reported

end

def channel (id : Int) (label : String) (voltageMax currentMax : Rat) : SpdChannelProfile Rat :=
  ⟨id,label,voltageMax,currentMax,⟨1 / 1000,voltageMax * 11 / 10⟩,⟨1 / 1000,currentMax * 11 / 10⟩⟩

def spd3303x : SpdProfile Rat where
  variant := "SPD3303X"
  channels := [channel 1 "CH1" 32 (16 / 5), channel 2 "CH2" 32 (16 / 5), channel 3 "CH3" 5 (16 / 5)]
  pairingChannels := [1, 2]
  trackingChannels := [1, 2]
  presetSlots := 5

def oneChannel : Replies := fun command => if command = ":SYSTem:CHANnel:COUNt?" then some "1" else none

theorem oneChannelStaysPaired : Consistent SpdChannelProfile.id spd3303x ∧
    ¬ GivesNarrower SpdChannelProfile.id spd3303x (refineSpdProfile spd3303x) oneChannel := by
  constructor
  · constructor <;> decide
  · have counted : reportedCount oneChannel = some 1 := by decide +kernel
    rw [givesIff (refinedSpd spd3303x) (by simp [counted]),counted]
    intro coupled
    have second := coupled.pairing 2 (by decide)
    simp [spd3303x,channel] at second

end LxiWeb.SupplyProfiles
