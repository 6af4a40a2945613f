import LxiWeb.SimulatedLoad
import LxiWeb.SimulatedSupply
import LxiWeb.WiredCalls

/-! The whole way from a driver to a simulated instrument: driver, session, bytes, socket, personality. One call
after the other returns what the abstract instrument returns. -/
namespace LxiWeb.WiredInstruments
open EventRuns SimulatedCommands SimulatedSession SimulatorReplies WiredCalls
open AsyncTasks (start)
open SdgWaveforms (UpperCase)
open SimulatedGenerator (asciiUpper)

section
open SimulatedLoad

theorem loadAtOnce (upper : UpperCase) (arithmetic : Arithmetic) (idn : String) :
    AtOnce (RigolDl3021.simulator upper arithmetic idn) := by
  have setting (key : String) : Returns (RigolDl3021.setOrGet upper key) := by
    intro command state
    unfold RigolDl3021.setOrGet
    split <;> exact ⟨_,rfl⟩
  have measure (kind : Nat) : Returns (RigolDl3021.measureValue upper arithmetic kind) := by
    intro command state
    simp only [RigolDl3021.measureValue]
    split <;> exact ⟨_,rfl⟩
  apply atOnceOwn
  · intro normalized handler found
    have one : RigolDl3021.exactHandlers upper arithmetic normalized = some handler := found
    simp only [RigolDl3021.exactHandlers,Option.or_eq_some_iff,Option.map_eq_some_iff] at one
    rcases one with ⟨key,-,rfl⟩ | ⟨-,⟨kind,-,rfl⟩ | ⟨-,⟨key,-,rfl⟩ | ⟨-,touch⟩⟩⟩
    · exact setting key
    · exact measure kind
    · exact fun _ _ => ⟨_,rfl⟩
    · split at touch
      · obtain rfl := Option.some.inj touch
        exact fun _ _ => ⟨_,rfl⟩
      · cases touch
  · intro entry member
    obtain rfl := List.mem_singleton.mp member
    intro command state
    simp only [RigolDl3021.transient]
    split <;> exact ⟨_,rfl⟩

variable (upper : UpperCase) (arithmetic : Arithmetic) (profile : Dl3000Profile) (idn : String)

abbrev wiredLoadRun (timeout : Int) (events : List (WiredEvent Call)) :=
  wired (RigolDl3021.simulator upper arithmetic idn) timeout
    (fun call => (RigolDl3000.method upper arithmetic profile call).run) () events

/-- The DL3000 driver on its own connection to the simulated DL3021. -/
theorem wiredLoad (timeout : Int) (events : List (WiredEvent Call))
    (turns : Along (wiredStep (RigolDl3021.simulator upper arithmetic idn) fun call =>
      (RigolDl3000.method upper arithmetic profile call).run) OneAtATime
      (start () (SimulatedSession.connect (RigolDl3021.simulator upper arithmetic idn) timeout)) events)
    (calm : Along (wiredStep (RigolDl3021.simulator upper arithmetic idn) fun call =>
      (RigolDl3000.method upper arithmetic profile call).run) Untroubled
      (start () (SimulatedSession.connect (RigolDl3021.simulator upper arithmetic idn) timeout)) events) :
    ReturnsInTurn (Load.call arithmetic profile) Load.initial events
        (wiredLoadRun upper arithmetic profile idn timeout events) ∧
      NoneStuck (wiredLoadRun upper arithmetic profile idn timeout events) :=
  wiredReturns (loadAtOnce upper arithmetic idn) (performsDoes fun _ call => callEnds call) initialShown timeout events
    turns calm

open JsDecimals (literal)

def idle : Arithmetic where
  F := Unit
  number _ := ()
  mul _ _ := ()
  div _ _ := ()
  min _ _ := ()
  max _ _ := ()
  positive _ := false
  fixed _ := "0.000000"
  word _ := by decide
  frequencyHz _ _ := literal "0"

def dl3021 : Dl3000Profile :=
  ⟨⟨literal "150",literal "40",literal "200",⟨literal "0.08",literal "15000"⟩⟩,10⟩

def switchedOn : List (WiredEvent Call) :=
  [.call (.setInputEnabled true),.moves (.arrives 9),.moves (.writeResolved 0),.moves (.arrives 100),.resumes 0]

theorem wiredLoadSwitchedOn :
    ReturnsInTurn (Load.call idle dl3021) Load.initial (switchedOn ++ [.call (.setSetpoint .cv (literal "151"))])
        (wiredLoadRun asciiUpper idle dl3021 "RIGOL TECHNOLOGIES,DL3021,0,00.01.00" 5000
          (switchedOn ++ [.call (.setSetpoint .cv (literal "151"))])) ∧
      NoneStuck (wiredLoadRun asciiUpper idle dl3021 "RIGOL TECHNOLOGIES,DL3021,0,00.01.00" 5000
        (switchedOn ++ [.call (.setSetpoint .cv (literal "151"))])) := by
  apply wiredLoad
  · rw [alongAppend]
    exact ⟨⟨rfl,trivial,trivial,trivial,trivial,trivial⟩,List.isEmpty_iff.mp (by decide),trivial⟩
  · exact ⟨trivial,trivial,trivial,trivial,trivial,trivial,trivial⟩

end

section
open Dg900Generator SimulatedGenerator SimulatedGenerator.Dg9xxPersonality

theorem generatorAtOnce (upper : UpperCase) (options : Dg9xxPersonalityOptions) (idn : String) :
    AtOnce (Dg9xxPersonality.simulator upper options idn) := by
  apply atOnceOwn
  · intro normalized handler found command state
    have one : Dg9xxPersonality.exactHandlers upper normalized = some handler := found
    unfold Dg9xxPersonality.exactHandlers at one
    obtain ⟨before,later,listed,-⟩ := List.lookup_eq_some_iff.mp one
    have member := List.mem_append_right before
      (List.mem_cons_self (a := (String.ofList normalized,handler)) (l := later))
    rw [← listed] at member
    simp only [List.mem_cons,Prod.mk.injEq,List.not_mem_nil,or_false] at member
    rcases member with ⟨-,rfl⟩ | ⟨-,rfl⟩ | ⟨-,rfl⟩ | ⟨-,rfl⟩
    · exact ⟨_,rfl⟩
    · exact ⟨_,rfl⟩
    · simp only [rosc]
      split <;> exact ⟨_,rfl⟩
    · exact ⟨_,rfl⟩
  · intro entry member command state
    obtain ⟨e,-,rfl⟩ := List.mem_map.mp member
    simp only [Entry.handler]
    split <;> exact ⟨_,rfl⟩

variable (upper : UpperCase) (options : Dg9xxPersonalityOptions) (profile : Dg900Profile) (idn : String)

abbrev wiredGeneratorRun (timeout : Int) (events : List (WiredEvent Call)) :=
  wired (Dg9xxPersonality.simulator upper options idn) timeout
    (fun call => (RigolDg900.method upper profile call).run) () events

/-- The DG800/DG900 driver on its own connection to a simulated generator of that family. -/
theorem wiredGenerator (same : profile.channelCount = options.channelCount) (timeout : Int)
    (events : List (WiredEvent Call))
    (turns : Along (wiredStep (Dg9xxPersonality.simulator upper options idn) fun call =>
      (RigolDg900.method upper profile call).run) OneAtATime
      (start () (SimulatedSession.connect (Dg9xxPersonality.simulator upper options idn) timeout)) events)
    (calm : Along (wiredStep (Dg9xxPersonality.simulator upper options idn) fun call =>
      (RigolDg900.method upper profile call).run) Untroubled
      (start () (SimulatedSession.connect (Dg9xxPersonality.simulator upper options idn) timeout)) events) :
    ReturnsInTurn (Generator.call options profile) Generator.initial events
        (wiredGeneratorRun upper options profile idn timeout events) ∧
      NoneStuck (wiredGeneratorRun upper options profile idn timeout events) :=
  wiredReturns (generatorAtOnce upper options idn) (performsDoes fun _ call => callEnds same call) initialShown timeout
    events turns calm

def outputOn : List (WiredEvent Call) :=
  [.call (.setChannelEnabled 2 true),.moves (.arrives 7),.moves (.writeResolved 0),.moves (.arrives 100),.resumes 0]

theorem wiredGeneratorOutputOn :
    ReturnsInTurn (Generator.call dg932 dg932Profile) Generator.initial (outputOn ++ [.call .getSync])
        (wiredGeneratorRun asciiUpper dg932 dg932Profile "RIGOL TECHNOLOGIES,DG932,0,00.02.00" 5000
          (outputOn ++ [.call .getSync])) ∧
      NoneStuck (wiredGeneratorRun asciiUpper dg932 dg932Profile "RIGOL TECHNOLOGIES,DG932,0,00.02.00" 5000
        (outputOn ++ [.call .getSync])) := by
  apply wiredGenerator asciiUpper dg932 dg932Profile _ rfl
  · rw [alongAppend]
    exact ⟨⟨rfl,trivial,trivial,trivial,trivial,trivial⟩,List.isEmpty_iff.mp (by decide),trivial⟩
  · exact ⟨trivial,trivial,trivial,trivial,trivial,trivial,trivial⟩

end

section
open JsDecimals (literal)
open SimulatedSupply SimulatedSupply.RndsNge103b
open TaskSimulations (Performs)

theorem supplyAtOnce (upper : UpperCase) (arithmetic : Arithmetic) (idn : String) :
    AtOnce (RndsNge103b.simulator upper arithmetic idn) := by
  have passive (p : Parameter) (fallback : String) : Returns (passivePut p fallback) := by
    intro command state
    unfold passivePut
    split <;> exact ⟨_,rfl⟩
  have switch (p : Parameter) : Returns (boolPut upper p) := by
    intro command state
    unfold boolPut
    split <;> exact ⟨_,rfl⟩
  have every : ∀ entry ∈ RndsNge103b.handlers upper arithmetic, Returns entry.2 := by
    simp only [RndsNge103b.handlers,List.forall_mem_cons]
    exact ⟨fun _ _ => ⟨_,rfl⟩,fun _ _ => ⟨_,rfl⟩,passive _ _,passive _ _,passive _ _,passive _ _,switch _,switch _,
      fun _ _ => ⟨_,rfl⟩,fun _ _ => ⟨_,rfl⟩,passive _ _,passive _ _,switch _,switch _,passive _ _,
      fun _ _ => ⟨_,rfl⟩,passive _ _,passive _ _,switch _,switch _,passive _ _,fun _ _ => ⟨_,rfl⟩,
      fun _ _ => ⟨_,rfl⟩,fun _ _ => ⟨_,rfl⟩,fun _ _ => ⟨_,rfl⟩,fun _ member => absurd member List.not_mem_nil⟩
  apply atOnceOwn
  · intro normalized handler found
    have one : (RndsNge103b.handlers upper arithmetic).lookup (String.ofList normalized) = some handler := found
    obtain ⟨before,later,listed,-⟩ := List.lookup_eq_some_iff.mp one
    exact every (String.ofList normalized,handler) (listed ▸ List.mem_append_right before List.mem_cons_self)
  · intro entry member
    cases member

variable (upper : UpperCase) (arithmetic : Arithmetic) (profile : NgeProfile) (idn : String)

theorem supplyPerforms (fits : Fits profile) (s : Option Nat) (d : SessionState RndsNge103b.State) (supply : Supply)
    (call : Call) (held : Held s d supply) :
    Performs (port (RndsNge103b.simulator upper arithmetic idn))
      (Understood (RndsNge103b.simulator upper arithmetic idn)) Held
      (RndsNge.method upper arithmetic profile call).run s d (supply.call arithmetic profile call) := by
  obtain ⟨c,cached,shown⟩ := held
  obtain ⟨s',c',cached',does⟩ := @callEnds upper arithmetic profile idn supply fits call s c cached
  obtain ⟨d',runs,shown'⟩ := does d shown
  refine ⟨runs.understood,?_,?_⟩ <;> rw [runs.left]
  exact ⟨c',cached',shown'⟩

abbrev wiredSupplyRun (timeout : Int) (events : List (WiredEvent Call)) :=
  wired (RndsNge103b.simulator upper arithmetic idn) timeout
    (fun call => (RndsNge.method upper arithmetic profile call).run) none events

/-- The R&S NGE driver on its own connection to the simulated NGE103B: nothing is seen of the selection. -/
theorem wiredSupply (fits : Fits profile) (timeout : Int) (events : List (WiredEvent Call))
    (turns : Along (wiredStep (RndsNge103b.simulator upper arithmetic idn) fun call =>
      (RndsNge.method upper arithmetic profile call).run) OneAtATime
      (start none (SimulatedSession.connect (RndsNge103b.simulator upper arithmetic idn) timeout)) events)
    (calm : Along (wiredStep (RndsNge103b.simulator upper arithmetic idn) fun call =>
      (RndsNge.method upper arithmetic profile call).run) Untroubled
      (start none (SimulatedSession.connect (RndsNge103b.simulator upper arithmetic idn) timeout)) events) :
    ReturnsInTurn (Supply.call arithmetic profile) Supply.initial events
        (wiredSupplyRun upper arithmetic profile idn timeout events) ∧
      NoneStuck (wiredSupplyRun upper arithmetic profile idn timeout events) :=
  wiredReturns (supplyAtOnce upper arithmetic idn) (supplyPerforms upper arithmetic profile idn fits)
    (initialHeld upper arithmetic) timeout events turns calm

def secondOn : List (WiredEvent Call) :=
  [.call (.setChannelOutput 2 true),.moves (.arrives 9),.moves (.writeResolved 0),.moves (.arrives 100),.resumes 0,
    .moves (.arrives 100),.moves (.writeResolved 1),.resumes 0]

theorem wiredSupplySecondOn :
    ReturnsInTurn (Supply.call bench nge103b) Supply.initial (secondOn ++ [.call (.measureChannel 1)])
        (wiredSupplyRun asciiUpper bench nge103b "Rohde&Schwarz,NGE103B,0,FV:1.42" 5000
          (secondOn ++ [.call (.measureChannel 1)])) ∧
      NoneStuck (wiredSupplyRun asciiUpper bench nge103b "Rohde&Schwarz,NGE103B,0,FV:1.42" 5000
        (secondOn ++ [.call (.measureChannel 1)])) := by
  apply wiredSupply asciiUpper bench nge103b _ nge103bFits
  · rw [alongAppend]
    refine ⟨⟨rfl,trivial,trivial,trivial,trivial,trivial,trivial,trivial,trivial⟩,?_⟩
    exact ⟨List.isEmpty_iff.mp (by decide),trivial⟩
  · exact ⟨trivial,trivial,trivial,trivial,trivial,trivial,trivial,trivial,trivial,trivial⟩

end

end LxiWeb.WiredInstruments
