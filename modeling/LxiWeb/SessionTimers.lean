import LxiWeb.SessionPollers

/-! The interval timers that a server keeps for its sessions: the error pollers of `establish` and the
logging runs of RigolDm800. A driver belongs to the call of `establish` that made its façade and
queries the port of that call; a logging run is numbered in the order in which runs are started. -/
namespace LxiWeb.SessionTimers
open EventRuns ScpiFraming SessionManager SessionPollers

structure LoggingRun where
  call : Nat
  totalSamples : Option Nat
  samplesEmitted : Nat := 0
  timer : Bool := false
  stopped : Bool := false
  inflight : Bool := false
  deriving DecidableEq, Repr

/- The call of `establish` that made a façade, and the id of the driver it made it with. -/
structure Made where
  call : Nat
  driver : String
  deriving DecidableEq, Repr

/- `run` is the `#run` of the driver that a call made. -/
structure Server where
  manager : Manager
  facade : Nat → Option Made
  run : Nat → Option Nat
  logging : Nat → LoggingRun
  nextRun : Nat

def Server.create (manager : Manager) : Server where
  manager
  facade _ := none
  run _ := none
  logging _ := { call := 0, totalSamples := none }
  nextRun := 0

def setRun (s : Server) (n : Nat) (f : LoggingRun → LoggingRun) : Server :=
  { s with logging := Function.update s.logging n (f (s.logging n)) }

def stopRun (s : Server) (n : Nat) : Server :=
  setRun s n fun run => { run with stopped := true, timer := false }

def startLogging (s : Server) (call : Nat) (totalSamples : Option Nat) :
    Except JsError Nat × Server :=
  if (s.run call).any fun n => !(s.logging n).stopped then
    (.error ⟨.error,"a logging run is already active"⟩,s)
  else
    (.ok s.nextRun,{ s with
      run := Function.update s.run call (some s.nextRun)
      logging := Function.update s.logging s.nextRun { call, totalSamples, timer := true }
      nextRun := s.nextRun + 1 })

def stopLogging (s : Server) (call : Nat) : Server :=
  match s.run call with
  | none => s
  | some n => stopRun s n

def loggingTick (s : Server) (n : Nat) : Server :=
  let run := s.logging n
  if run.timer ∧ ¬ run.stopped ∧ ¬ run.inflight then setRun s n fun run => { run with inflight := true }
  else s

/- `taken` is whether the reading of `sampleOnce` came. -/
def sampleOnce (taken : Bool) (run : LoggingRun) : LoggingRun :=
  { run with
    inflight := false
    samplesEmitted := if taken then run.samplesEmitted + 1 else run.samplesEmitted }

def finishSample (s : Server) (n : Nat) (taken : Bool) : Server :=
  let s := setRun s n (sampleOnce taken)
  if (s.logging n).totalSamples.any (· ≤ (s.logging n).samplesEmitted) then stopRun s n else s

def dm800 : List String := ["rigol-dm858","rigol-dm858e","rigol-dm800"]

def getFacade (m : Manager) (id : Nat) : Option Facade :=
  if id ∈ m.sessions then (m.session id).facade else none

def dmm (s : Server) (id : Nat) : Option Made := do
  let facade ← getFacade s.manager id
  let made ← s.facade id
  if facade.kind = .multimeter ∧ made.driver ∈ dm800 then some made else none

def built (a : Nat) (driver : DriverEntry) : Except JsError Facade → Option Made
  | .ok _ => some ⟨a,driver.id⟩
  | .error _ => none

def builtBy (m : Manager) : Event → Option Made
  | .idnSettled a (.ok raw) =>
      match (m.attempt a).awaiting, m.registry (parseIdn raw) with
      | some .idn, some driver =>
          if owner m a ∉ m.sessions ∨ driver.refine then none
          else built a driver (driver.create (parseIdn raw))
      | _, _ => none
  | .refineSettled a outcome =>
      match (m.attempt a).awaiting with
      | some (.refine identity driver) =>
          if owner m a ∉ m.sessions then none
          else built a driver (refinedCreate driver outcome identity)
      | _ => none
  | _ => none

def sessionStep (s : Server) (e : Event) : Server :=
  let manager := step s.manager e
  let facade := fun id =>
    if (manager.session id).facade = none then none
    else
      match builtBy s.manager e with
      | some made => if owner s.manager made.call = id then some made else s.facade id
      | none => s.facade id
  { s with manager, facade }

inductive ServerEvent where
  | session (e : Event)
  | startLogging (id : Nat) (totalSamples : Option Nat)
  | stopLogging (id : Nat)
  | loggingTick (run : Nat)
  | sampleSettled (run : Nat) (taken : Bool)

def serverStep (s : Server) : ServerEvent → Server
  | .session e => sessionStep s e
  | .startLogging id totalSamples =>
      match dmm s id with
      | none => s
      | some made => (startLogging s made.call totalSamples).2
  | .stopLogging id =>
      match dmm s id with
      | none => s
      | some made => stopLogging s made.call
  | .loggingTick n => loggingTick s n
  | .sampleSettled n taken => if (s.logging n).inflight then finishSample s n taken else s

/- Every active timer queries the port that its listed and connected session is bound to, and every
connected session of a known kind has one poller. -/
structure TimersOwned (s : Server) : Prop where
  pollers : ∀ a, (s.manager.attempt a).polling → BoundTo s.manager (owner s.manager a) a
  logging : ∀ n, (s.logging n).timer →
    BoundTo s.manager (owner s.manager (s.logging n).call) (s.logging n).call
  one : ∀ id ∈ s.manager.sessions, (s.manager.session id).status = .connected →
    (s.manager.session id).kind ≠ .unknown →
    ∃! a, owner s.manager a = id ∧ (s.manager.attempt a).polling

/- No connection ends while its instrument logs, and no catch block of `establish` finishes while its
session has gone on with another call. -/
def Cleared (s : Server) : ServerEvent → Prop
  | .session e => Settled s.manager e ∧ ∀ n < s.nextRun, (s.logging n).timer →
      ¬ Loses s.manager (owner s.manager (s.logging n).call) e
  | _ => True

instance (m id e) : Decidable (Loses m id e) := by
  unfold Loses
  split
  all_goals infer_instance

instance (s e) : Decidable (Cleared s e) := by
  unfold Cleared
  split
  all_goals infer_instance

section
variable {s : Server}

structure Sane (s : Server) : Prop where
  polled : Polled s.manager
  made : ∀ id made, s.facade id = some made → Of s.manager id made.call ∧
    (id ∈ s.manager.sessions → BoundTo s.manager id made.call)
  timers : ∀ n, (s.logging n).timer → n < s.nextRun ∧ (s.logging n).call < s.manager.nextAttempt ∧
    BoundTo s.manager (owner s.manager (s.logging n).call) (s.logging n).call

theorem builtOk {a : Nat} {driver : DriverEntry} {outcome : Except JsError Facade} {made : Made}
    (builds : built a driver outcome = some made) : made.call = a ∧ outcome.isOk := by
  cases outcome with
  | error err => cases builds
  | ok facade => exact ⟨(congrArg Made.call (Option.some.inj builds)).symm,rfl⟩

theorem idnBound {m : Manager} {k a : Nat} {raw : String} {driver : DriverEntry}
    (polled : PolledAt m k) (own : Of m k a) (waits : (m.attempt a).awaiting = some .idn)
    (listed : k ∈ m.sessions) (resolved : m.registry (parseIdn raw) = some driver)
    (unrefined : driver.refine = false) (made : (driver.create (parseIdn raw)).isOk) :
    BoundTo (resumeIdn m a (.ok raw)) k a := by
  obtain rfl : owner m a = k := own.2
  have identified := apartSession m (owner m a) fun s => { s with
    identity := some (parseIdn raw), driverId := some driver.id, kind := driver.kind }
  have still := polledDetails polled own (by simp [SessionOwnership.Running,waits]) (fun s => { s with
    identity := some (parseIdn raw), driverId := some driver.id, kind := driver.kind }) ⟨rfl,rfl,rfl⟩
  obtain ⟨_,_,bound⟩ := polledBuild still ((identified.of _ a).mpr own)
    (by simp [SessionOwnership.Midway,waits]) listed (parseIdn raw) driver.create
  simpa [resumeIdn,listed,resolved,unrefined] using bound made

theorem builtBound {m : Manager} (polled : Polled m) {e : Event} {made : Made}
    (builds : builtBy m e = some made) :
    Of m (owner m made.call) made.call ∧ BoundTo (step m e) (owner m made.call) made.call := by
  unfold builtBy at builds
  split at builds
  · split at builds
    · rename_i a raw _ _ driver waits resolved
      split at builds
      · cases builds
      · rename_i here
        obtain ⟨listed,unrefined⟩ := not_or.mp here
        obtain ⟨rfl,made⟩ := builtOk builds
        refine ⟨polled.of waits,?_⟩
        simp only [step,waits]
        exact idnBound (polled.each _) (polled.of waits) waits (not_not.mp listed) resolved
          (eq_false_of_ne_true unrefined) made
    · cases builds
  · split at builds
    · rename_i a outcome _ identity driver waits
      split at builds
      · cases builds
      · rename_i listed
        obtain ⟨rfl,made⟩ := builtOk builds
        refine ⟨polled.of waits,?_⟩
        obtain ⟨_,_,bound⟩ := polledBuild (polled.each _) (polled.of waits)
          (by simp [SessionOwnership.Midway,waits]) (not_not.mp listed) identity
          (refinedCreate driver outcome)
        simpa only [step,waits,resumeRefine,listed,if_false] using bound made
    · cases builds
  · cases builds

theorem stepMade {e : Event} (sane : Sane s) (carried : Carried s.manager (step s.manager e)
      (Loses s.manager · e)) (id : Nat) (made : Made)
    (kept : (sessionStep s e).facade id = some made) :
    Of (step s.manager e) id made.call ∧
      (id ∈ (step s.manager e).sessions → BoundTo (step s.manager e) id made.call) := by
  have still {a} (own : Of s.manager id a) : Of (step s.manager e) id a :=
    ⟨(carried.calls a own.1).1,(carried.calls a own.1).2.trans own.2⟩
  have before (old : s.facade id = some made) (holds : ((step s.manager e).session id).facade ≠ none) :
      Of (step s.manager e) id made.call ∧
        (id ∈ (step s.manager e).sessions → BoundTo (step s.manager e) id made.call) := by
    obtain ⟨own,bound⟩ := sane.made id made old
    refine ⟨still own,fun listed => ?_⟩
    rcases carried.listed id listed with was | fresh
    · rcases carried.kept id made.call (bound was) with bound | ⟨_,gone⟩
      · exact bound
      · exact absurd (gone listed) holds
    · exact absurd fresh holds
  simp only [sessionStep] at kept
  split at kept
  · cases kept
  · rename_i holds
    split at kept
    · rename_i new builds
      split at kept
      · rename_i this
        obtain rfl := Option.some.inj kept
        obtain ⟨own,bound⟩ := builtBound sane.polled builds
        rw [this] at own bound
        exact ⟨still own,fun _ => bound⟩
      · exact before kept holds
    · exact before kept holds

theorem saneSession (sane : Sane s) (e : Event) (cleared : Cleared s (.session e)) :
    Sane (sessionStep s e) := by
  obtain ⟨settled,logs⟩ := cleared
  have carried := stepCarried sane.polled e settled
  exact {
    polled := carried.polled
    made := stepMade sane carried
    timers := by
      intro n active
      obtain ⟨started,early,bound⟩ := sane.timers n active
      obtain ⟨later,same⟩ := carried.calls _ early
      refine ⟨started,later,?_⟩
      show BoundTo (step s.manager e) (owner (step s.manager e) (s.logging n).call) (s.logging n).call
      rw [same]
      rcases carried.kept _ _ bound with bound | ⟨loses,_⟩
      · exact bound
      · exact absurd loses (logs n started active) }

theorem dmmMade {id : Nat} {made : Made} (found : dmm s id = some made) :
    id ∈ s.manager.sessions ∧ s.facade id = some made := by
  unfold dmm at found
  simp only [bind,Option.bind_eq_some_iff] at found
  obtain ⟨facade,listed,made',known,here⟩ := found
  have same := (Option.ite_none_right_eq_some.mp here).2
  exact ⟨(Option.ite_none_right_eq_some.mp listed).1,known.trans same⟩

theorem saneSetRun (sane : Sane s) (n : Nat) (f : LoggingRun → LoggingRun)
    (keeps : (f (s.logging n)).call = (s.logging n).call ∧
      ((f (s.logging n)).timer → (s.logging n).timer)) : Sane (setRun s n f) where
  polled := sane.polled
  made := sane.made
  timers := by
    intro k active
    by_cases same : k = n
    · subst same
      have active : (f (s.logging k)).timer := by simpa [setRun] using active
      simpa [setRun,keeps.1] using sane.timers k (keeps.2 active)
    · have active : (s.logging k).timer := by simpa [setRun,same] using active
      simpa [setRun,same] using sane.timers k active

theorem saneStop (sane : Sane s) (n : Nat) : Sane (stopRun s n) :=
  saneSetRun sane n _ ⟨rfl,by simp⟩

theorem saneStart (sane : Sane s) {id : Nat} {made : Made} (found : dmm s id = some made)
    (totalSamples) : Sane (startLogging s made.call totalSamples).2 := by
  unfold startLogging
  split
  · exact sane
  · obtain ⟨listed,known⟩ := dmmMade found
    obtain ⟨own,bound⟩ := sane.made id made known
    exact {
      polled := sane.polled
      made := sane.made
      timers := by
        intro n active
        by_cases new : n = s.nextRun
        · subst new
          have bound := bound listed
          rw [← own.2] at bound
          simpa using ⟨own.1,bound⟩
        · have active : (s.logging n).timer := by simpa [new] using active
          obtain ⟨started,kept⟩ := sane.timers n active
          exact ⟨Nat.lt_succ_of_lt started,by simpa [new] using kept⟩ }

theorem saneSample (sane : Sane s) (n : Nat) (taken : Bool) : Sane (finishSample s n taken) := by
  unfold finishSample
  have sampled := saneSetRun sane n (sampleOnce taken) ⟨rfl,id⟩
  simp only
  split
  · exact saneStop sampled n
  · exact sampled

theorem stepSane (s : Server) (e : ServerEvent) (sane : Sane s) (cleared : Cleared s e) :
    Sane (serverStep s e) := by
  cases e with
  | session e => exact saneSession sane e cleared
  | startLogging id totalSamples =>
    simp only [serverStep]
    split
    · exact sane
    · rename_i made found
      exact saneStart sane found totalSamples
  | stopLogging id =>
    simp only [serverStep,stopLogging]
    split
    · exact sane
    · split
      · exact sane
      · exact saneStop sane _
  | loggingTick n =>
    simp only [serverStep,loggingTick]
    split
    · exact saneSetRun sane n _ ⟨rfl,id⟩
    · exact sane
  | sampleSettled n taken =>
    simp only [serverStep]
    split
    · exact saneSample sane n taken
    · exact sane

end

theorem saneOwned {s : Server} (sane : Sane s) : TimersOwned s where
  pollers a polls := by
    have made : a < s.manager.nextAttempt := by
      by_contra beyond
      simp [(sane.polled.unused a (by omega)).2] at polls
    exact ((sane.polled.each _).polling a ⟨made,rfl⟩ polls).1
  logging n active := (sane.timers n active).2.2
  one id listed connected known := by
    obtain ⟨a,own,holds,_,polls⟩ := (sane.polled.each id).connected listed connected
    refine ⟨a,⟨own.2,polls known⟩,?_⟩
    rintro b ⟨ofB,pollsB⟩
    have made : b < s.manager.nextAttempt := by
      by_contra beyond
      simp [(sane.polled.unused b (by omega)).2] at pollsB
    have bound := ((sane.polled.each id).polling b ⟨made,ofB⟩ pollsB).1
    exact Option.some.inj (bound.2.2.symm.trans holds)

theorem createSane (registry maxSessions transcriptRingMax deviceErrorRingMax) :
    Sane (.create (create registry maxSessions transcriptRingMax deviceErrorRingMax)) where
  polled := {
    unused := fun _ _ => ⟨rfl,rfl⟩
    known := fun a early => absurd early (Nat.not_lt_zero a)
    listed := fun _ member => absurd member List.not_mem_nil
    each := fun _ => {
      one := fun a _ own => absurd own.1 (Nat.not_lt_zero a)
      connecting := fun a own => absurd own.1 (Nat.not_lt_zero a)
      midway := fun a own => absurd own.1 (Nat.not_lt_zero a)
      disposes := nofun
      polling := fun a own => absurd own.1 (Nat.not_lt_zero a)
      connected := fun member => absurd member List.not_mem_nil } }
  made := nofun
  timers := nofun

theorem timersOwnedRuns (registry : DeviceIdentity → Option DriverEntry)
    (maxSessions transcriptRingMax deviceErrorRingMax : Nat) (events : List ServerEvent)
    (cleared : Along serverStep Cleared
      (.create (create registry maxSessions transcriptRingMax deviceErrorRingMax)) events) :
    Throughout serverStep TimersOwned
      (.create (create registry maxSessions transcriptRingMax deviceErrorRingMax)) events :=
  (throughoutAlong stepSane (createSane _ _ _ _) cleared).mono fun _ sane => saneOwned sane

def metering : DeviceIdentity → Option DriverEntry :=
  fun _ => some ⟨"rigol-dm858",.multimeter,fun _ => .ok ⟨.multimeter,false⟩,true⟩

def lost : JsError := ⟨.error,"read ECONNRESET"⟩

/- Two meters: one logs to its end, drops, is reconnected and closed; the transport of the other drops
while its driver probes the instrument. -/
theorem timersOwnedBench : Throughout serverStep TimersOwned (.create (create metering))
    [.session (.openSession "dmm" none 0), .session (.factorySettled 0 (.ok ())),
      .session (.idnSettled 0 (.ok "RIGOL,DM858,1,2")),
      .session (.refineSettled 0 (.error lost)), .startLogging 0 (some 1), .loggingTick 0,
      .session (.openSession "dmm" (some 3000) 1), .session (.factorySettled 1 (.ok ())),
      .session (.idnSettled 1 (.ok "RIGOL,DM858E,1,2")), .sampleSettled 0 true,
      .session (.dropped 1 (some lost)), .session (.dropped 0 (some lost)),
      .session (.refineSettled 1 (.error lost)), .startLogging 1 none, .session (.reconnect 0),
      .session (.factorySettled 2 (.ok ())), .session (.idnSettled 2 (.ok "RIGOL,DM858,1,2")),
      .session (.refineSettled 2 (.error lost)), .session (.pollTick 2), .session (.close 0),
      .stopLogging 1, .session (.closeSettled 0)] :=
  timersOwnedRuns metering 16 2000 200 _ (by decide +kernel)

/- A session that is closed while its instrument logs: nobody stops the run. -/
theorem closeWhileLogging : ¬ Throughout serverStep TimersOwned (.create (create metering))
    [.session (.openSession "dmm" none 0), .session (.factorySettled 0 (.ok ())),
      .session (.idnSettled 0 (.ok "RIGOL,DM858,1,2")),
      .session (.refineSettled 0 (.error lost)), .startLogging 0 none, .session (.close 0)] := by
  intro owned
  exact absurd (owned.last.logging 0 (by decide)).1 (by decide)

-- The first call fails in `*IDN?`, and its catch block finishes after a reconnect: the poller of the
-- second call is gone.
example : ¬ Throughout serverStep TimersOwned (.create (create metering))
    [.session (.openSession "dmm" none 0), .session (.factorySettled 0 (.ok ())),
      .session (.idnSettled 0 (.error lost)), .session (.reconnect 0),
      .session (.factorySettled 1 (.ok ())), .session (.idnSettled 1 (.ok "RIGOL,DM858,1,2")),
      .session (.refineSettled 1 (.error lost)), .session (.scpiCloseSettled 0 (.ok ()))] := by
  intro owned
  obtain ⟨a,⟨at_,polls⟩,_⟩ := owned.last.one 0 (by decide +kernel) (by decide +kernel)
    (by decide +kernel)
  have bound := owned.last.pollers a polls
  rw [at_] at bound
  exact Option.some_ne_none a (bound.2.2.symm.trans (by decide +kernel))

end LxiWeb.SessionTimers
