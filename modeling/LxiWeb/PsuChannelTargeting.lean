import LxiWeb.PsuDrivers

/-! Channel targeting of the selecting supplies, over every interleaving of their calls. -/
namespace LxiWeb.PsuChannelTargeting
open AsyncTasks EventRuns OutputKill PsuDrivers ScpiFraming SelectThenAct

abbrev PsuEvent := Event PsuCall (List (Except JsError String))

abbrev PsuPool := Calls Nat JsError String (Except JsError PsuResult) PsuCall

def psuStep (psu : Supply) : PsuPool → PsuEvent → PsuPool :=
  step port fun c => (method psu c).run

def PsuResult.states : PsuResult → List ChannelReplies
  | .channels states => states
  | .channel state => [state]
  | _ => []

/-- Every reply of a result was produced while the channel it is filed under was selected. -/
def OwnReplies (result : PsuResult) : Prop :=
  ∀ state ∈ PsuResult.states result, FromSource state.id state.replies

def Targeted (pool : PsuPool) : Prop :=
  OnTarget pool.world.log ∧
  ∀ call outcome, (call,outcome) ∈ pool.finished → ∀ result, outcome = .ok result → OwnReplies result

def onlyChannel (channelIds : List Nat) : Option Nat :=
  match channelIds with
  | [only] => some only
  | _ => none

def discipline : Driver → Discipline Nat
  | .rndsNge _ => ⟨true,none⟩
  | .keysightE36 _ _ => ⟨false,none⟩
  | .owonSpe profile | .tektronixPws profile => ⟨true,onlyChannel profile.channelIds⟩

section
variable {D : Discipline Nat} {psu : Supply} (selects : ∀ c, Selects D (psu.select c) c)
include selects

theorem readSelectedKeeps (channel : Nat) (asked : List (String × Bool)) :
    Keeps D (psu.readSelected channel asked) fun state => FromSource state.id state.replies :=
  selectedRead (selects channel) fun _ own => keepsPure own

theorem writeSelectedKeeps (channel : Nat) (text : String) :
    Keeps D (psu.writeSelected channel text) fun _ => True := selectedWrite (selects channel) text

theorem readChannelsKeeps (ids : List Nat) :
    Keeps D (psu.readChannels ids) fun states =>
      ∀ state ∈ states, FromSource state.id state.replies := by
  induction ids with
  | nil => exact keepsPure (by simp)
  | cons id rest ih =>
    refine keepsBind (keepsCall (readSelectedKeeps selects id _)) fun state own => ?_
    refine keepsBind ih fun more others => keepsPure ?_
    simpa using ⟨own,others⟩

theorem setChannelOutputKeeps (channel : Nat) (enabled : Bool) :
    Keeps D (psu.setChannelOutput channel enabled) fun _ => True :=
  writeSelectedKeeps selects channel _

theorem disableEachKeeps (ids : List Nat) :
    Keeps D (disableEach (psu.facade.setChannelOutput · false) ids) fun _ => True := by
  induction ids with
  | nil => exact keepsPure trivial
  | cons id rest ih =>
    have one : Keeps D (do psu.facade.setChannelOutput id false; pure ([s!"CH{id}"],([] : List KillError)))
        fun _ => True :=
      keepsBind (keepsCall (setChannelOutputKeeps selects id false)) fun _ _ => keepsPure trivial
    exact keepsBind (keepsTry one fun _ => keepsPure trivial) fun _ _ =>
      keepsBind ih fun _ _ => keepsPure trivial

omit selects in
theorem stopTrackingKeeps
    (tracks : ∀ t, psu.tracking = some t →
      Keeps D t.get (fun _ => True) ∧ ∀ enabled, Keeps D (t.set enabled) fun _ => True) :
    Keeps D (stopTracking psu.facade) fun _ => True := by
  unfold stopTracking
  cases supported : psu.tracking with
  | none => simpa [Supply.facade,supported] using keepsPure trivial
  | some t =>
    obtain ⟨get,set⟩ := tracks t supported
    simp only [Supply.facade,supported,Option.isSome_some,if_true]
    refine keepsTry (keepsBind (keepsCall get) fun active _ => ?_) fun _ => keepsPure trivial
    split
    · exact keepsBind (keepsCall (set false)) fun _ _ => keepsPure trivial
    · exact keepsPure trivial

theorem disableAllOutputsKeeps
    (tracks : ∀ t, psu.tracking = some t →
      Keeps D t.get (fun _ => True) ∧ ∀ enabled, Keeps D (t.set enabled) fun _ => True) :
    Keeps D psu.disableAllOutputs fun _ => True := by
  have listed : Keeps D psu.facade.getChannels fun _ => True :=
    keepsBind (keepsCall (readChannelsKeeps selects _)) fun _ _ => keepsPure trivial
  have channels : Keeps D (disableListed "psu" psu.facade.getChannels
      (psu.facade.setChannelOutput · false)) fun _ => True :=
    keepsTry (keepsBind listed fun ids _ => disableEachKeeps selects ids) fun _ => keepsPure trivial
  exact keepsCall (keepsBind (stopTrackingKeeps tracks) fun _ _ =>
    keepsBind channels fun _ _ => keepsPure trivial)

omit selects in
theorem protectingKeeps {name : String} {m : Protection → PsuMethod PsuResult}
    {good : PsuResult → Prop} (keeps : ∀ p, Keeps D (m p) good) :
    Keeps D (protecting psu name m) good := by
  unfold protecting
  split
  · exact keepsThrow _
  · exact keeps _

theorem methodKeeps
    (tracks : ∀ t, psu.tracking = some t →
      Keeps D t.get (fun _ => True) ∧ ∀ enabled, Keeps D (t.set enabled) fun _ => True)
    (c : PsuCall) : Keeps D (method psu c) OwnReplies := by
  have written (channel text) : Keeps D
      (do psu.writeSelected channel text; pure PsuResult.undefined) OwnReplies :=
    keepsBind (writeSelectedKeeps selects channel text) fun _ _ =>
      keepsPure (by simp [OwnReplies,PsuResult.states])
  have read (channel asked) : Keeps D
      (do pure (PsuResult.channel (← psu.readSelected channel asked))) OwnReplies :=
    keepsBind (readSelectedKeeps selects channel asked) fun state own =>
      keepsPure (by simpa [OwnReplies,PsuResult.states] using own)
  cases c with
  | getChannels =>
    exact keepsBind (readChannelsKeeps selects _) fun states own => keepsPure own
  | setChannelOutput | setChannelVoltage | setChannelCurrent => exact written _ _
  | measureChannel => exact read _ _
  | getProtection => exact protectingKeeps fun p => read _ _
  | setProtectionEnabled | setProtectionLevel | clearProtectionTrip =>
    exact protectingKeeps fun p => written _ _
  | disableAllOutputs =>
    exact keepsBind (disableAllOutputsKeeps selects tracks) fun _ _ =>
      keepsPure (by simp [OwnReplies,PsuResult.states])

end

theorem writeSelectGains {D : Discipline Nat} (cached : D.cached = true) {c : Nat} {text : String}
    (only : ∀ o, D.pinned = some o → c = o) (h : Hold Nat) (saved : h.saved) :
    Safe D (writeSelect (ε := JsError) (τ := String) c text).run h fun h result =>
      (result = .ok () → D.maySave h c) ∧ ∀ err, result = .error err → h.saved := by
  refine safeMono (writeSelectSafe saved only) fun h result ⟨gained,failed⟩ => ⟨fun ok => ?_,?_⟩
  · left
    simp [gained ok,Discipline.gained,cached]
  · intro err same
    rw [failed err same]
    trivial

theorem rndsNgeSelects (profile : Profile) (c : Nat) :
    Selects ⟨true,none⟩ (RndsNge.select profile c) c := by
  unfold RndsNge.select
  split
  · exact fun h saved => ⟨saved,nofun⟩
  · exact cachedSelects rfl (writeSelectGains rfl nofun)

theorem keysightE36Selects (c : Nat) : Selects ⟨false,none⟩ (KeysightE36.select c) c := by
  intro h saved
  refine safeMono (writeSelectSafe saved nofun) fun h result ⟨gained,failed⟩ => ?_
  cases result with
  | ok _ =>
    rw [gained rfl]
    exact ⟨trivial,fun _ => .inl rfl⟩
  | error err =>
    rw [failed err rfl]
    exact ⟨trivial,nofun⟩

theorem onlyChannelOf {channelIds : List Nat} {c : Nat} (member : c ∈ channelIds)
    (single : ¬ channelIds.length > 1) : onlyChannel channelIds = some c := by
  match channelIds with
  | [only] => simp [onlyChannel,List.mem_singleton.mp member]
  | _ :: _ :: _ => simp at single

theorem onlyChannelMember {channelIds : List Nat} {c o : Nat} (member : c ∈ channelIds)
    (only : onlyChannel channelIds = some o) : c = o := by
  unfold onlyChannel at only
  split at only
  · cases only
    exact List.mem_singleton.mp member
  · contradiction

theorem unlessSingleSelects (profile : Profile) (vendor : String) (text : Nat → String) (c : Nat) :
    Selects ⟨true,onlyChannel profile.channelIds⟩ (selectUnlessSingle profile vendor text c) c := by
  unfold selectUnlessSingle
  split
  · exact fun h saved => ⟨saved,nofun⟩
  · rename_i present
    have member : c ∈ profile.channelIds := not_not.mp present
    refine cachedSelects rfl fun h saved => ?_
    unfold hop
    split
    · exact writeSelectGains rfl (fun o only => onlyChannelMember member only) h saved
    · rename_i single
      exact ⟨fun _ => .inr (.inr (onlyChannelOf member single)),nofun⟩

theorem driverSelects (driver : Driver) (c : Nat) :
    Selects (discipline driver) (driver.supply.select c) c := by
  cases driver with
  | rndsNge profile => exact rndsNgeSelects profile c
  | keysightE36 profile trackingChannels => exact keysightE36Selects c
  | owonSpe profile => exact unlessSingleSelects profile _ _ c
  | tektronixPws profile => exact unlessSingleSelects profile _ _ c

theorem driverTracks (driver : Driver) (t : Tracking) (supported : driver.supply.tracking = some t) :
    Keeps (discipline driver) t.get (fun _ => True) ∧
      ∀ enabled, Keeps (discipline driver) (t.set enabled) fun _ => True := by
  cases driver with
  | keysightE36 profile trackingChannels =>
    simp only [Driver.supply,KeysightE36.supply] at supported
    split at supported
    · contradiction
    · obtain rfl := Option.some.inj supported
      refine ⟨keepsTry ?_ fun _ => keepsPure trivial,fun enabled => keepsWrite _⟩
      exact keepsBind (keepsReadAll _) fun _ _ => keepsPure trivial
  | _ => contradiction

/- The calls between a selection and the last command that relies on it name one channel, and no
selection that a driver keeps in its cache is refused. -/
def Undivided (driver : Driver) (pool : PsuPool) (e : PsuEvent) : Prop :=
  Exclusive (psuStep driver.supply pool e) ∧ Accepts (discipline driver) pool e

theorem channelsTargeted (driver : Driver) (selected : Option Nat)
    (only : ∀ c, (discipline driver).pinned = some c → selected = some c) (events : List PsuEvent)
    (undivided : Along (psuStep driver.supply) (Undivided driver) (start none ⟨selected,[]⟩) events) :
    Throughout (psuStep driver.supply) Targeted (start none ⟨selected,[]⟩) events := by
  have safe (c : PsuCall) : Safe (discipline driver) (method driver.supply c).run .nothing
      (Finishes (fun _ outcome => ∀ result, outcome = .ok result → OwnReplies result) c) :=
    methodKeeps (driverSelects driver) (driverTracks driver) c .nothing trivial
  exact callsStayOnTarget safe selected only events undivided

/- A setter for channel 2 begins while one for channel 1 waits for its last command, and a measurement while the
second one does. -/
theorem channelsTargetedNge :
    Throughout (psuStep (Driver.rndsNge ⟨"NGE102B",[1,2]⟩).supply) Targeted (start none ⟨none,[]⟩)
      [.call (.setChannelVoltage 1 "5"),.settle 0 [.ok ""],.settle 0 [],.call (.setChannelVoltage 2 "3"),
        .settle 0 [.ok ""],.settle 0 [.ok ""],.settle 0 [],.call (.measureChannel 2),.settle 0 [.ok ""],.settle 0 [],
        .settle 0 [.ok "3.0",.ok "0.1"]] := by
  apply channelsTargeted
  · exact nofun
  · simp only [alongCons,alongNil,and_true]
    have single {t : Waiting Nat JsError String (Except JsError PsuResult) PsuCall} :
      List.Pairwise (fun t t' => ∀ c c', InSection c t → InSection c' t' → c = c') [t] :=
      List.pairwise_singleton _ t
    have beside {t t' : Waiting Nat JsError String (Except JsError PsuResult) PsuCall}
        (last : ∀ c, ¬ InSection c t) :
        List.Pairwise (fun t t' => ∀ c c', InSection c t → InSection c' t' → c = c') [t,t'] :=
      List.pairwise_pair.mpr fun c _ inside => absurd inside (last c)
    refine ⟨⟨single,trivial⟩,⟨single,?_⟩,⟨single,?_⟩,⟨beside ?_,trivial⟩,⟨single,?_⟩,⟨single,?_⟩,⟨single,?_⟩,
      ⟨beside ?_,trivial⟩,⟨single,?_⟩,⟨single,?_⟩,⟨List.Pairwise.nil,?_⟩⟩
    case refine_3 | refine_7 =>
      rintro c ⟨b,-,needs⟩
      exact lastNeedsNothing (b.forM fun outcome => outcome.map fun _ => ()) (fun _ => PsuResult.undefined) c needs
    all_goals
      intro _ _ _ _ _ _
      simp

/- Two setters for different channels: the voltage meant for channel 1 reaches channel 2. -/
theorem interleavedSettersCrossChannels :
    ¬ Throughout (psuStep (Driver.rndsNge ⟨"NGE102B",[1,2]⟩).supply) Targeted (start none ⟨none,[]⟩)
      [.call (.setChannelVoltage 1 "5"),.call (.setChannelVoltage 2 "3"),.settle 0 [.ok ""],
        .settle 0 [.ok ""],.settle 0 []] := by
  intro all
  have misled : (⟨⟨some 1,"SOURce:VOLTage 5"⟩,some 2⟩ : Executed Nat) ∈
      (run (psuStep (Driver.rndsNge ⟨"NGE102B",[1,2]⟩).supply) (start none ⟨none,[]⟩)
        [.call (.setChannelVoltage 1 "5"),.call (.setChannelVoltage 2 "3"),.settle 0 [.ok ""],
          .settle 0 [.ok ""],.settle 0 []]).world.log := by
    decide
  simpa using all.last.1 _ misled 1 rfl

end LxiWeb.PsuChannelTargeting
