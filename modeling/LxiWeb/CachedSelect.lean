import Mathlib.Logic.Function.Basic
import LxiWeb.CallRuns
import LxiWeb.PsuChannelTargeting

/-! The drivers that keep the channel they selected last, against the same drivers on a port that puts
the select command in front of every command without a channel: runs of calls, one after the other,
with raw commands and recalled presets between them. -/
namespace LxiWeb.CachedSelect
open AsyncTasks EventRuns PsuChannelTargeting PsuDrivers ScpiFraming SelectThenAct
open CallRuns (runAlone Meets Left)

structure Instrument (S : Type) where
  selected : Nat
  channels : Nat → S

/- A command without a channel acts on the selected one; a recalled preset or a raw command may do
anything. Each gives the text of its reply. -/
structure Behaviour (S : Type) where
  act : String → S → S × String
  other : String → Instrument S → Instrument S × String

/- A command is carried out, lost on its way, or carried out and rejected all the same. -/
inductive Fate where
  | done
  | lost (e : JsError)
  | unheard (e : JsError)
  deriving DecidableEq, Repr

structure Line (S : Type) where
  fates : Nat → Fate
  instrument : Instrument S

inductive Selecting where
  | cached
  | everyTime
  deriving DecidableEq, Repr

abbrev Outcome := Except JsError (Reading Nat String)

section
variable {S : Type} (behaviour : Behaviour S)

def carryOut (command : Command Nat) (d : Instrument S) : Instrument S × String :=
  match command.target with
  | some _ =>
      let (state,reply) := behaviour.act command.text (d.channels d.selected)
      ({ d with channels := Function.update d.channels d.selected state },reply)
  | none => behaviour.other command.text d

def deliver (line : Line S) (d : Instrument S) (served : Instrument S × String) : Line S × Outcome :=
  let fates := fun n => line.fates (n + 1)
  match line.fates 0 with
  | .done => (⟨fates,served.1⟩,.ok ⟨some d.selected,served.2⟩)
  | .lost e => (⟨fates,d⟩,.error e)
  | .unheard e => (⟨fates,served.1⟩,.error e)

-- the select command that goes out in front of a command for channel `c`
def Selecting.before (selecting : Selecting) (command : Command Nat) (d : Instrument S) : Instrument S :=
  match selecting, command.target with
  | .everyTime, some c => { d with selected := c }
  | _, _ => d

def serve (selecting : Selecting) (command : Command Nat) (line : Line S) : Line S × Outcome :=
  let d := selecting.before command line.instrument
  deliver line d (carryOut behaviour command d)

def serveAll (selecting : Selecting) : List (Command Nat) → Line S → Line S × List Outcome
  | [], line => (line,[])
  | command :: rest, line =>
      let first := serve behaviour selecting command line
      let more := serveAll selecting rest first.1
      (more.1,first.2 :: more.2)

def takeRequest (selecting : Selecting) (line : Line S) : Request Nat → Line S × List Outcome
  | .select c _ =>
      let sent := deliver line line.instrument ({ line.instrument with selected := c },"")
      (sent.1,[sent.2])
  | .batch commands => serveAll behaviour selecting commands line

end

inductive CachingDriver where
  | rndsNge (profile : Profile) (presetSlots : Nat)
  | owonSpe (profile : Profile)
  | tektronixPws (profile : Profile)
  deriving DecidableEq, Repr

def CachingDriver.driver : CachingDriver → Driver
  | .rndsNge profile _ => .rndsNge profile
  | .owonSpe profile => .owonSpe profile
  | .tektronixPws profile => .tektronixPws profile

def assertSlot (presetSlots : Nat) (slot : Int) : PsuMethod Unit :=
  if 0 ≤ slot ∧ slot < presetSlots then pure ()
  else throw ⟨.error,s!"preset slot must be an integer between 0 and {(presetSlots : Int) - 1}"⟩

-- `command` is `*SAV` or `*RCL`
def preset (driver : CachingDriver) (name command : String) (slot : Int) : PsuMethod PsuResult :=
  match driver with
  | .rndsNge _ presetSlots => do
      assertSlot presetSlots slot
      write none s!"{command} {slot}"
      pure .undefined
  | .owonSpe _ | .tektronixPws _ => absent name

def savePreset (driver : CachingDriver) (slot : Int) : PsuMethod PsuResult :=
  preset driver "savePreset" "*SAV" slot

def recallPreset (driver : CachingDriver) (slot : Int) : PsuMethod PsuResult :=
  preset driver "recallPreset" "*RCL" slot

def sendRaw (command : String) (expectReply : Bool) : PsuMethod (Option String) := do
  let replies ← readAll none [(command,false)]
  pure (if expectReply then (replies.head?.bind id).map Reading.value else none)

inductive Returned where
  | facade (result : Except JsError PsuResult)
  | raw (result : Except JsError (Option String))
  deriving DecidableEq, Repr

inductive SupplyCall where
  | facade (call : PsuCall)
  | savePreset (slot : Int)
  | recallPreset (slot : Int)
  | sendRaw (command : String) (expectReply : Bool)
  deriving DecidableEq, Repr

def program (driver : CachingDriver) : SupplyCall → SelectThenAct.Call Nat JsError String Returned
  | .facade call => do
      let result ← (method driver.driver.supply call).run
      pure (.facade result)
  | .savePreset slot => do
      let result ← (CachedSelect.savePreset driver slot).run
      pure (.facade result)
  | .recallPreset slot => do
      let result ← (CachedSelect.recallPreset driver slot).run
      pure (.facade result)
  | .sendRaw command expectReply => do
      let result ← (CachedSelect.sendRaw command expectReply).run
      pure (.raw result)

structure SupplyEvent where
  call : SupplyCall
  fates : Nat → Fate

structure Bench (S : Type) where
  cache : Option Nat
  instrument : Instrument S
  returned : List Returned

section
variable {S : Type} (behaviour : Behaviour S) (driver : CachingDriver)

def benchStep (selecting : Selecting) (b : Bench S) (e : SupplyEvent) : Bench S :=
  let left := runAlone (takeRequest behaviour selecting) (program driver e.call)
    b.cache ⟨e.fates,b.instrument⟩
  ⟨left.shared,left.world.instrument,b.returned ++ [left.result]⟩

def Bench.create (d : Instrument S) : Bench S := ⟨none,d,[]⟩

def Agree (D : Discipline Nat) (cache : Option Nat) (d : Instrument S) : Prop :=
  ∀ c, cache = some c ∨ D.pinned = some c → d.selected = c

def OthersAgree (D : Discipline Nat) (cache : Option Nat) : List (Command Nat) → Line S → Prop
  | [], _ => True
  | command :: rest, line =>
      let after := (serve behaviour .cached command line).1
      (command.target = none → Agree D cache after.instrument) ∧ OthersAgree D cache rest after

/- A select command that is carried out and rejected is for the channel that the driver keeps
already, if it keeps one. -/
def Undisturbed (D : Discipline Nat) (cache : Option Nat) (line : Line S) : Request Nat → Prop
  | .select c _ => ∀ e, line.fates 0 = .unheard e → ∀ kept, cache = some kept → c = kept
  | .batch commands => OthersAgree behaviour D cache commands line

def CallUndisturbed (b : Bench S) (e : SupplyEvent) : Prop :=
  Meets (takeRequest behaviour .cached) (Undisturbed behaviour (discipline driver.driver))
    (program driver e.call) b.cache ⟨e.fates,b.instrument⟩

def SameEffect (b b' : Bench S) : Prop :=
  b.instrument.channels = b'.instrument.channels ∧ b.returned = b'.returned

end

section
variable {S : Type} {behaviour : Behaviour S} {D : Discipline Nat} {cache : Option Nat}
  {line : Line S}

@[simp] theorem beforeCached (command : Command Nat) (d : Instrument S) :
    Selecting.before .cached command d = d := by
  cases command.target <;> rfl

theorem serveTargeted {command : Command Nat} {c : Nat} (named : command.target = some c)
    (selected : line.instrument.selected = c) :
    serve behaviour .everyTime command line = serve behaviour .cached command line ∧
      (serve behaviour .cached command line).1.instrument.selected = c := by
  have already : Selecting.before .everyTime command line.instrument = line.instrument := by
    simp [Selecting.before,named,← selected]
  constructor
  · simp only [serve,already,beforeCached]
  · simp only [serve,deliver,beforeCached]
    split <;> simp [carryOut,named,selected]

theorem serveUntargeted {command : Command Nat} (named : command.target = none) :
    serve behaviour .everyTime command line = serve behaviour .cached command line := by
  simp [serve,Selecting.before,named]

theorem serveSource {command : Command Nat} {reading : Reading Nat String}
    (answered : (serve behaviour .cached command line).2 = .ok reading) :
    reading.source = some line.instrument.selected := by
  simp only [serve,deliver,beforeCached] at answered
  split at answered <;> cases answered
  rfl

theorem selectCarriedOut {selecting : Selecting} {c : Nat} {text : String}
    (heard : accepted (takeRequest behaviour selecting line (.select c text)).2) :
    (takeRequest behaviour selecting line (.select c text)).1.instrument.selected = c := by
  simp only [takeRequest,deliver,accepted,List.mem_singleton,forall_eq] at heard ⊢
  cases fate : line.fates 0 with
  | done => rfl
  | lost e | unheard e =>
    simp only [fate] at heard
    obtain ⟨reading,same⟩ := heard
    cases same

theorem selectRejected {selecting : Selecting} {c : Nat} {text : String}
    (failed : ¬ accepted (takeRequest behaviour selecting line (.select c text)).2) :
    (takeRequest behaviour selecting line (.select c text)).1.instrument = line.instrument ∨
      (∃ e, line.fates 0 = .unheard e) ∧
        (takeRequest behaviour selecting line (.select c text)).1.instrument.selected = c := by
  simp only [takeRequest,deliver,accepted,List.mem_singleton,forall_eq] at failed ⊢
  cases fate : line.fates 0 with
  | done => simp [fate] at failed
  | lost e => exact .inl rfl
  | unheard e => exact .inr ⟨⟨e,rfl⟩,rfl⟩

theorem serveAgrees {command : Command Nat} (agree : Agree D cache line.instrument)
    (aimed : ∀ c, command.target = some c → cache = some c ∨ D.pinned = some c)
    (other : command.target = none → Agree D cache (serve behaviour .cached command line).1.instrument) :
    serve behaviour .everyTime command line = serve behaviour .cached command line ∧
      Agree D cache (serve behaviour .cached command line).1.instrument := by
  cases named : command.target with
  | none => exact ⟨serveUntargeted named,other named⟩
  | some c =>
    have selected := agree c (aimed c named)
    obtain ⟨same,still⟩ :
        serve behaviour .everyTime command line = serve behaviour .cached command line ∧
          (serve behaviour .cached command line).1.instrument.selected = c :=
      serveTargeted named selected
    refine ⟨same,fun kept relied => ?_⟩
    rw [still,← selected]
    exact agree kept relied

theorem serveAllAgrees {commands : List (Command Nat)} (agree : Agree D cache line.instrument)
    (aimed : ∀ command ∈ commands, ∀ c, command.target = some c → cache = some c ∨ D.pinned = some c)
    (others : OthersAgree behaviour D cache commands line) :
    serveAll behaviour .everyTime commands line = serveAll behaviour .cached commands line ∧
      Agree D cache (serveAll behaviour .cached commands line).1.instrument := by
  induction commands generalizing line with
  | nil => exact ⟨rfl,agree⟩
  | cons command rest ih =>
    obtain ⟨first,following⟩ := others
    obtain ⟨aim,more⟩ := List.forall_mem_cons.mp aimed
    obtain ⟨same,still⟩ := serveAgrees agree aim first
    obtain ⟨sameRest,ended⟩ := ih still more following
    exact ⟨by simp only [serveAll,same,sameRest],ended⟩

theorem serveAllAnswers {commands : List (Command Nat)} (agree : Agree D cache line.instrument)
    (aimed : ∀ command ∈ commands, ∀ c, command.target = some c → cache = some c ∨ D.pinned = some c)
    (others : OthersAgree behaviour D cache commands line) :
    (serveAll behaviour .cached commands line).2.length = commands.length ∧
      ∀ reading, .ok reading ∈ (serveAll behaviour .cached commands line).2 →
        ∀ c, cache = some c ∨ D.pinned = some c → reading.source = some c := by
  induction commands generalizing line with
  | nil => exact ⟨rfl,by simp [serveAll]⟩
  | cons command rest ih =>
    obtain ⟨first,following⟩ := others
    obtain ⟨aim,more⟩ := List.forall_mem_cons.mp aimed
    obtain ⟨counted,sources⟩ := ih (serveAgrees agree aim first).2 more following
    refine ⟨by simp [serveAll,counted],fun reading given c relied => ?_⟩
    rcases List.mem_cons.mp given with own | later
    · rw [serveSource own.symm,agree c relied]
    · exact sources reading later c relied

end

structure Follows {S : Type} (D : Discipline Nat) (h : Hold Nat) (cache : Option Nat)
    (d : Instrument S) : Prop where
  pinned : ∀ c, D.pinned = some c → d.selected = c
  saved : h.saved → ∀ c, cache = some c → d.selected = c
  unsaved : ∀ c, h = .unsaved c → d.selected = c
  known : ∀ c, h = .seen c ∨ h = .held c → cache = some c

section
variable {S α : Type} {behaviour : Behaviour S} {D : Discipline Nat} {cache : Option Nat}
  {d : Instrument S} {h : Hold Nat}

theorem Follows.agree (follows : Follows D h cache d) (saved : h.saved) : Agree D cache d := by
  rintro c (kept | only)
  · exact follows.saved saved c kept
  · exact follows.pinned c only

theorem Follows.aimed (follows : Follows D h cache d) {c : Nat} (may : D.mayAct h c) :
    cache = some c ∨ D.pinned = some c :=
  may.imp (fun held => follows.known c (.inr held)) id

theorem followsSettled (agree : Agree D cache d) (still : ∀ c, h ≠ .unsaved c)
    (known : ∀ c, h = .seen c ∨ h = .held c → cache = some c) : Follows D h cache d where
  pinned c only := agree c (.inr only)
  saved _ c kept := agree c (.inl kept)
  unsaved c same := absurd same (still c)
  known := known

theorem followsRead (follows : Follows D h cache d) (saved : h.saved) :
    Follows D (.cachedIn cache) cache d := by
  cases cache with
  | none => exact followsSettled (follows.agree saved) nofun (by simp [Hold.cachedIn])
  | some c => exact followsSettled (follows.agree saved) nofun (by simp [Hold.cachedIn])

theorem followsKept (follows : Follows D h cache d) {c : Nat} (may : D.maySave h c) :
    Follows D (.held c) (some c) d := by
  have selected : d.selected = c := by
    rcases may with unsaved | held | only
    · exact follows.unsaved c unsaved
    · exact follows.saved (held ▸ trivial) c (follows.known c (.inr held))
    · exact follows.pinned c only
  refine followsSettled ?_ nofun (by simp)
  rintro c' (kept | only)
  · exact Option.some.inj kept ▸ selected
  · exact follows.pinned c' only

theorem followsRested (follows : Follows D h cache d) {d' : Instrument S} (saved : h.saved)
    (agree : Agree D cache d') : Follows D h.rested cache d' := by
  cases h with
  | unsaved c => exact saved.elim
  | nothing => exact followsSettled agree (by simp [Hold.rested]) (by simp [Hold.rested])
  | seen c | held c =>
    refine followsSettled agree (by simp [Hold.rested]) fun c' same => follows.known c' ?_
    simpa [Hold.rested] using same

section
variable {line : Line S} {selecting : Selecting} {c : Nat} {text : String}
  (only : ∀ o, D.pinned = some o → c = o)
include only

theorem followsSelected (heard : accepted (takeRequest behaviour selecting line (.select c text)).2) :
    Follows D (.unsaved c) cache
      (takeRequest behaviour selecting line (.select c text)).1.instrument where
  pinned o same := (selectCarriedOut heard).trans (only o same)
  saved saved := saved.elim
  unsaved c' same := by
    cases same
    exact selectCarriedOut heard
  known := by simp

theorem followsRejected (agree : Agree D cache line.instrument)
    (failed : ¬ accepted (takeRequest behaviour selecting line (.select c text)).2)
    (undisturbed : Undisturbed behaviour D cache line (.select c text)) :
    Follows D .nothing cache
      (takeRequest behaviour selecting line (.select c text)).1.instrument := by
  refine followsSettled ?_ nofun (by simp)
  rcases selectRejected failed with same | ⟨⟨e,unheard⟩,selected⟩
  · rw [same]
    exact agree
  · rintro c' (kept | pinned)
    · rw [selected,undisturbed e unheard c' kept]
    · rw [selected,only c' pinned]

end

theorem runFollows {p : SelectThenAct.Call Nat JsError String α} {post : Hold Nat → α → Prop}
    {line : Line S} (cached : D.cached = true) (safe : Safe D p h post)
    (follows : Follows D h cache line.instrument)
    (calm : Meets (takeRequest behaviour .cached) (Undisturbed behaviour D) p cache line) :
    runAlone (takeRequest behaviour .everyTime) p cache line =
      runAlone (takeRequest behaviour .cached) p cache line ∧
    ∃ h', post h' (runAlone (takeRequest behaviour .cached) p cache line).result ∧
      Follows D h' (runAlone (takeRequest behaviour .cached) p cache line).shared
        (runAlone (takeRequest behaviour .cached) p cache line).world.instrument := by
  induction p generalizing h cache line with
  | pure a => exact ⟨rfl,h,safe,follows⟩
  | read next ih => exact ih cache (safe.2.2 cache) (followsRead follows safe.2.1) calm
  | assign s next ih =>
    obtain ⟨c,rfl,may,rest⟩ := safe
    exact ih rest (followsKept follows may) calm
  | await r next ih =>
    obtain ⟨undisturbed,calm⟩ := calm
    cases r with
    | batch commands =>
      obtain ⟨saved,acts,rest⟩ := safe
      have agree := follows.agree saved
      have aimed : ∀ command ∈ commands, ∀ c, command.target = some c →
          cache = some c ∨ D.pinned = some c :=
        fun command member c named => follows.aimed (acts command member c named)
      obtain ⟨same,still⟩ := serveAllAgrees agree aimed undisturbed
      obtain ⟨counted,sources⟩ := serveAllAnswers agree aimed undisturbed
      have answered : Answered commands (serveAll behaviour .cached commands line).2 :=
        ⟨counted,fun reading given command member c named =>
          sources reading given c (aimed command member c named)⟩
      have ended := ih _ (rest _ answered) (followsRested follows saved still) calm
      simp only [runAlone,takeRequest] at ended ⊢
      rw [same]
      exact ended
    | select c text =>
      obtain ⟨saved,only,rest⟩ := safe
      obtain ⟨gained,refused⟩ := rest (takeRequest behaviour .cached line (.select c text)).2
      have agree := follows.agree saved
      by_cases heard : accepted (takeRequest behaviour .cached line (.select c text)).2
      · have mine := gained heard
        rw [Discipline.gained,if_pos cached] at mine
        exact ih _ mine (followsSelected only heard) calm
      · exact ih _ (refused heard) (followsRejected only (follows.agree saved) heard undisturbed) calm

end

theorem cachedDiscipline (driver : CachingDriver) : (discipline driver.driver).cached = true := by
  cases driver <;> rfl

theorem keepsPreset {D : Discipline Nat} (driver : CachingDriver) (name command : String) (slot : Int) :
    Keeps D (preset driver name command slot) fun _ => True := by
  cases driver with
  | rndsNge profile presetSlots =>
    have asserted : Keeps D (assertSlot presetSlots slot) fun _ => True := by
      unfold assertSlot
      split
      · exact keepsPure trivial
      · exact keepsThrow _
    exact keepsBind asserted fun _ _ => keepsBind (keepsWrite _) fun _ _ => keepsPure trivial
  | owonSpe profile | tektronixPws profile => exact keepsThrow _

theorem keepsCalls (driver : CachingDriver) (call : SupplyCall) :
    Safe (discipline driver.driver) (program driver call) .nothing fun h _ => h.saved := by
  cases call with
  | facade c =>
    have kept := methodKeeps (driverSelects driver.driver) (driverTracks driver.driver) c
    exact safeThen (kept .nothing trivial) fun h result ⟨saved,_⟩ => saved
  | savePreset slot | recallPreset slot =>
    have kept (name command) := keepsPreset (D := discipline driver.driver) driver name command slot
    exact safeThen (kept _ _ .nothing trivial) fun h result ⟨saved,_⟩ => saved
  | sendRaw command expectReply =>
    have kept : Keeps (discipline driver.driver) (CachedSelect.sendRaw command expectReply)
        fun _ => True :=
      keepsBind (keepsReadAll _) fun _ _ => keepsPure trivial
    exact safeThen (kept .nothing trivial) fun h result ⟨saved,_⟩ => saved

section
variable {S : Type} (behaviour : Behaviour S) (driver : CachingDriver)

theorem benchStepAgrees (b : Bench S) (e : SupplyEvent)
    (agree : Agree (discipline driver.driver) b.cache b.instrument)
    (undisturbed : CallUndisturbed behaviour driver b e) :
    benchStep behaviour driver .everyTime b e = benchStep behaviour driver .cached b e ∧
      Agree (discipline driver.driver) (benchStep behaviour driver .cached b e).cache
        (benchStep behaviour driver .cached b e).instrument := by
  have start : Follows (discipline driver.driver) .nothing b.cache
      (Line.mk e.fates b.instrument).instrument :=
    followsSettled agree nofun (by simp)
  obtain ⟨same,h,saved,follows⟩ := runFollows (cachedDiscipline driver) (keepsCalls driver e.call)
    start undisturbed
  exact ⟨by simp only [benchStep,same],follows.agree saved⟩

/- The only channel of a supply that has one is selected from the start. -/
theorem cachedSelectRuns (d : Instrument S)
    (only : ∀ c, (discipline driver.driver).pinned = some c → d.selected = c)
    (events : List SupplyEvent)
    (undisturbed : Along (benchStep behaviour driver .cached) (CallUndisturbed behaviour driver)
      (Bench.create d) events) :
    SameEffect (run (benchStep behaviour driver .cached) (Bench.create d) events)
      (run (benchStep behaviour driver .everyTime) (Bench.create d) events) := by
  have agree : Agree (discipline driver.driver) none d := by
    rintro c (kept | pinned)
    · cases kept
    · exact only c pinned
  have same := runAlike (benchStepAgrees behaviour driver) (s := Bench.create d) agree undisturbed
  rw [same]
  exact ⟨rfl,rfl⟩

end

def recording : Behaviour (List String) where
  act text s := (s ++ [text],"")
  other text d := (if text = "INSTrument:SELect OUT2" then { d with selected := 2 } else d,"")

def nge : CachingDriver := .rndsNge ⟨"NGE102B",[1,2]⟩ 10

def setting (volts : String) : SupplyEvent := ⟨.facade (.setChannelVoltage 1 volts),fun _ => .done⟩

def raw (command : String) (expectReply : Bool) : SupplyEvent :=
  ⟨.sendRaw command expectReply,fun _ => .done⟩

def onSecond : Bench (List String) := .create ⟨2,fun _ => []⟩

/- The second setting finds its channel selected, after a raw command that moves nothing. -/
theorem cachedSelectRunsNge :
    SameEffect
      (run (benchStep recording nge .cached) onSecond [setting "5",raw "*IDN?" true,setting "7"])
      (run (benchStep recording nge .everyTime) onSecond
        [setting "5",raw "*IDN?" true,setting "7"]) := by
  apply cachedSelectRuns
  · intro c pinned
    cases pinned
  · have targeted {text : String} {cache : Option Nat} {line : Line (List String)} :
        Undisturbed recording ⟨true,none⟩ cache line (.batch [⟨some 1,text⟩]) :=
      ⟨fun other => absurd other (by simp),trivial⟩
    refine ⟨⟨?_,trivial,targeted,trivial⟩,⟨⟨fun _ => ?_,trivial⟩,trivial⟩,
      ⟨trivial,targeted,trivial⟩,trivial⟩
    · intro e unheard
      cases unheard
    · rintro c (kept | pinned)
      · cases kept
        rfl
      · cases pinned

/- A raw command selects channel 2: the next setting for channel 1 lands there. -/
theorem rawSelectMisleads :
    ¬ SameEffect
      (run (benchStep recording nge .cached) onSecond
        [setting "5",raw "INSTrument:SELect OUT2" false,setting "7"])
      (run (benchStep recording nge .everyTime) onSecond
        [setting "5",raw "INSTrument:SELect OUT2" false,setting "7"]) := by
  intro same
  have second := congrFun same.1 2
  revert second
  decide

end LxiWeb.CachedSelect
