import LxiWeb.Dm800Math
import LxiWeb.DriverMirrors

/-! What the drivers keep of their settings over runs of calls, with any writes rejected: which calls
keep a setting that the instrument did not get. -/
namespace LxiWeb.MirroredWrites
open AsyncTasks CallRuns DriverMirrors EventRuns JsNumbers ScpiCalls

/- `answers` are what the requests of a call get; `taken` says that no write was rejected so far. -/
structure Traffic where
  answers : Nat → Answer
  taken : Bool

def isQuery : Request → Bool
  | .query _ => true
  | .write _ => false
  | .writeBinary _ _ => false

def Traffic.take (traffic : Traffic) (r : Request) : Traffic × Answer :=
  (⟨fun n => traffic.answers (n + 1),traffic.taken && (isQuery r || (traffic.answers 0).isSome)⟩,
    traffic.answers 0)

structure Drivers (F : Type) where
  dho800 : Dho800 F
  dg900 : Dg900
  dm800 : Dm800Math.Memory F
  calibrator : Calibrator F

structure Profiles (F : Type) where
  dg900 : Dg900Profile F
  calibrator : CalibratorProfile F

inductive Dm800Call (F : Type) where
  | setMode (mode : Dm800Math.Mode)
  | setMath (config : Dm800Math.MathConfig F)
  | getMath

inductive Call (F : Type) where
  | dho800 (call : Dho800Call F)
  | dg900 (call : Dg900Call F)
  | dm800 (call : Dm800Call F)
  | calibrator (call : CalibratorCall F)

section
variable {F : Type} (num : Numbers F) (profiles : Profiles F)

def Dm800Call.method : Dm800Call F → Dm800Math.Dmm F Unit
  | .setMode mode => Dm800Math.setMode mode
  | .setMath config => Dm800Math.setMath num config
  | .getMath => do
      let _ ← Dm800Math.getMath num

def ran {σ : Type} (method : DriverMethod σ Unit) (memory : σ) (answers : Nat → Answer) : σ × Bool :=
  let left := runAlone Traffic.take method.run memory ⟨answers,true⟩
  (left.shared,left.world.taken)

def perform (s : Drivers F) (answers : Nat → Answer) : Call F → Drivers F × Bool
  | .dho800 call =>
      let (memory,taken) := ran (call.method num) s.dho800 answers
      ({ s with dho800 := memory },taken)
  | .dg900 call =>
      let (memory,taken) := ran (call.method num profiles.dg900) s.dg900 answers
      ({ s with dg900 := memory },taken)
  | .dm800 call =>
      let (memory,taken) := ran (call.method num) s.dm800 answers
      ({ s with dm800 := memory },taken)
  | .calibrator call =>
      let (memory,taken) := ran (call.method num profiles.calibrator) s.calibrator answers
      ({ s with calibrator := memory },taken)

structure CallEvent (F : Type) where
  call : Call F
  answers : Nat → Answer

def mirrorStep (s : Drivers F) (e : CallEvent F) : Drivers F := (perform num profiles s e.answers e.call).1

def Drivers.reported (s : Drivers F) : Dho800 F × Dg900 × Dm800Math.MathConfig F × Calibrator F :=
  (s.dho800,s.dg900,s.dm800.mathConfig,s.calibrator)

/- A call changes what getters report only if all of its writes were taken. -/
def ChangesTaken (s : Drivers F) (e : CallEvent F) : Prop :=
  (mirrorStep num profiles s e).reported ≠ s.reported →
    (perform num profiles s e.answers e.call).2 = true

def dho800Kept : Dho800Call F → Dho800 F → Dho800 F
  | .setMathConfig config => Dho800.keepMath config
  | .saveReference slot source => Dho800.keepReference slot source
  | .setReferenceEnabled slot enabled => Dho800.keepReferenceEnabled slot enabled
  | .setHistoryEnabled enabled => Dho800.keepHistory fun history => { history with enabled }
  | .setHistoryFrame frame => Dho800.keepHistory fun history => { history with currentFrame := frame }
  | .setHistoryPlayback playing => Dho800.keepHistory fun history => { history with playing }
  | .savePreset slot => Dho800.keepPreset slot
  | .recallPreset _ => id
  | .setDecoder busId config => Dho800.keepDecoder busId config

def dg900Kept : Dg900Call F → Dg900 → Dg900
  | .uploadArbitrary _ _ _ => id
  | .deleteArbitrary sampleId => dropUpload sampleId

def dm800Kept : Dm800Call F → Dm800Math.MathConfig F → Dm800Math.MathConfig F
  | .setMode _ => id
  | .setMath config => fun _ => config
  | .getMath => id

def calibratorKept : CalibratorCall F → Calibrator F → Calibrator F
  | .getChannels => id
  | .setChannelVoltage _ volts => Calibrator.keepVoltage (clamped num profiles.calibrator.voltageMaxDc volts)
  | .setChannelCurrent _ amps => Calibrator.keepCurrent (clamped num profiles.calibrator.currentMaxDc amps)

def NothingNew (s : Drivers F) : Call F → Prop
  | .dho800 call => dho800Kept call s.dho800 = s.dho800
  | .dg900 call => dg900Kept call s.dg900 = s.dg900
  | .dm800 call => dm800Kept call s.dm800.mathConfig = s.dm800.mathConfig
  | .calibrator call => calibratorKept num profiles call s.calibrator = s.calibrator

def TakenOrThere (s : Drivers F) (e : CallEvent F) : Prop :=
  (perform num profiles s e.answers e.call).2 = true ∨ NothingNew num profiles s e.call

end

section
variable {σ α : Type} {memory : σ} {taken : Bool} {post : Except Failure α → σ → Bool → Prop}

abbrev Ends (m : DriverMethod σ α) (memory : σ) (taken : Bool)
    (post : Except Failure α → σ → Bool → Prop) : Prop :=
  CallRuns.Ends Traffic.take Traffic.taken m memory taken post

theorem endsSent {r : Request} {f : Unit → DriverMethod σ α} (writes : isQuery r = false)
    (accepted : Ends (f ()) memory taken post) (rejected : post (.error .port) memory false) :
    Ends (issue settledWrite r >>= f) memory taken post := by
  refine endsIssue fun traffic same => ?_
  subst same
  cases answer : traffic.answers 0 with
  | none => simpa [Traffic.take,writes,settledWrite,answer] using rejected
  | some reply => simpa [Traffic.take,writes,settledWrite,answer] using accepted

theorem endsWrite {command : String} {f : Unit → DriverMethod σ α}
    (accepted : Ends (f ()) memory taken post) (rejected : post (.error .port) memory false) :
    Ends (write command >>= f) memory taken post := endsSent rfl accepted rejected

theorem endsWriteBinary {header : String} {payload : List UInt8} {f : Unit → DriverMethod σ α}
    (accepted : Ends (f ()) memory taken post) (rejected : post (.error .port) memory false) :
    Ends (writeBinary header payload >>= f) memory taken post := endsSent rfl accepted rejected

theorem endsRequire {holds : Bool} {e : Failure} {f : Unit → DriverMethod σ α}
    (passed : Ends (f ()) memory taken post) (refused : post (.error e) memory taken) :
    Ends (require holds e >>= f) memory taken post := by
  cases holds with
  | true => exact passed
  | false => exact endsThrow refused

theorem endsBindKept {β γ : Type} (part : σ → Bool → γ) {m : DriverMethod σ β} {f : β → DriverMethod σ α}
    (first : ∀ memory taken, Ends m memory taken fun _ memory' taken' =>
      part memory' taken' = part memory taken)
    (rest : ∀ b memory taken, Ends (f b) memory taken fun _ memory' taken' =>
      part memory' taken' = part memory taken) (memory : σ) (taken : Bool) :
    Ends (m >>= f) memory taken fun _ memory' taken' => part memory' taken' = part memory taken := by
  refine endsBind (endsMono (first memory taken) fun result memory' taken' same => ?_)
  cases result with
  | ok b => exact endsMono (rest b memory' taken') fun _ _ _ later => later.trans same
  | error e => exact same

def Leaves (m : DriverMethod σ α) : Prop :=
  ∀ memory taken, Ends m memory taken fun _ memory' _ => memory' = memory

theorem leavesReturn (a : α) : Leaves (pure a : DriverMethod σ α) := fun _ _ => endsReturn rfl

theorem leavesThrow (e : Failure) : Leaves (throw e : DriverMethod σ α) := fun _ _ => endsThrow rfl

theorem leavesIssue {read : Answer → Except Failure α} {r : Request} :
    Leaves (issue read r : DriverMethod σ α) := by
  intro memory taken
  refine endsLast (endsIssue fun traffic same => ?_)
  cases read (traffic.take r).2 with
  | ok a => exact endsReturn rfl
  | error e => rfl

theorem leavesBind {β : Type} {m : DriverMethod σ β} {f : β → DriverMethod σ α} (first : Leaves m)
    (rest : ∀ b, Leaves (f b)) : Leaves (m >>= f) := endsBindKept (fun memory _ => memory) first rest

theorem leavesGiven {β : Type} {field : Option β} {body : β → DriverMethod σ Unit}
    (each : ∀ b, Leaves (body b)) : Leaves (given field body) := by
  cases field with
  | none => exact leavesReturn ()
  | some b => exact each b

theorem leavesWrite {command : String} : Leaves (write command : DriverMethod σ Unit) := leavesIssue

def Writeless (m : DriverMethod σ α) : Prop :=
  ∀ memory taken, Ends m memory taken fun _ _ taken' => taken' = taken

theorem writelessReturn (a : α) : Writeless (pure a : DriverMethod σ α) := fun _ _ => endsReturn rfl

theorem writelessThrow (e : Failure) : Writeless (throw e : DriverMethod σ α) := fun _ _ => endsThrow rfl

theorem writelessIssue {read : Answer → Except Failure α} {command : String} :
    Writeless (issue read (.query command) : DriverMethod σ α) := by
  intro memory taken
  refine endsLast (endsIssue fun traffic same => ?_)
  subst same
  cases read (traffic.take (.query command)).2 with
  | ok a => exact endsReturn (by simp [Traffic.take,isQuery])
  | error e => simp [Traffic.take,isQuery]

theorem writelessBind {β : Type} {m : DriverMethod σ β} {f : β → DriverMethod σ α}
    (first : Writeless m) (rest : ∀ b, Writeless (f b)) : Writeless (m >>= f) :=
  endsBindKept (fun _ taken => taken) first rest

theorem writelessLoad : Writeless (load : DriverMethod σ σ) := fun _ _ => endsLast (endsLoad (endsReturn rfl))

theorem writelessChange (f : σ → σ) : Writeless (change f : DriverMethod σ Unit) :=
  fun _ _ => endsLastChange rfl

theorem writelessAttemptAll (commands : List String) :
    Writeless (attemptAll commands : DriverMethod σ (List Answer)) := by
  induction commands with
  | nil => exact writelessReturn []
  | cons command rest ih =>
    exact writelessBind writelessIssue fun _ => writelessBind ih fun _ => writelessReturn _

theorem writelessQueryAll (commands : List String) :
    Writeless (queryAll commands : DriverMethod σ (List String)) := by
  refine writelessBind (writelessAttemptAll commands) fun answers => ?_
  cases answers.mapM id with
  | none => exact writelessThrow _
  | some replies => exact writelessReturn _

end

section
variable {σ : Type}

def Quiet (m : DriverMethod σ Unit) : Prop :=
  ∀ memory taken, Ends m memory taken fun result memory' _ => result = .ok () ∧ memory' = memory

def Keeps (m : DriverMethod σ Unit) (f : σ → σ) : Prop :=
  ∀ memory taken, Ends m memory taken fun _ memory' _ => memory' = f memory

theorem quietReturn : Quiet (pure () : DriverMethod σ Unit) := fun _ _ => endsReturn ⟨rfl,rfl⟩

theorem quietWrite (command : String) : Quiet (writeQuietly command : DriverMethod σ Unit) :=
  fun _ _ => endsLast (endsIssue fun _ _ => endsReturn ⟨rfl,rfl⟩)

theorem quietBind {first second : DriverMethod σ Unit} (early : Quiet first) (late : Quiet second) :
    Quiet (first >>= fun _ => second) := by
  intro memory taken
  refine endsBind (endsMono (early memory taken) ?_)
  rintro result memory' taken' ⟨rfl,rfl⟩
  exact late _ _

theorem quietGiven {β : Type} {field : Option β} {body : β → DriverMethod σ Unit}
    (each : ∀ b, Quiet (body b)) : Quiet (given field body) := by
  cases field with
  | none => exact quietReturn
  | some b => exact each b

theorem keepsChange (f : σ → σ) : Keeps (change f) f := fun _ _ => endsLastChange rfl

theorem keepsBehind {first second : DriverMethod σ Unit} {f : σ → σ} (quiet : Quiet first)
    (keeps : Keeps second f) : Keeps (first >>= fun _ => second) f := by
  intro memory taken
  refine endsBind (endsMono (quiet memory taken) ?_)
  rintro result memory' taken' ⟨rfl,rfl⟩
  exact keeps _ _

theorem keepsWrite {command : String} {second : DriverMethod σ Unit} {f : σ → σ}
    (keeps : Keeps second f) : Keeps (writeQuietly command >>= fun _ => second) f :=
  keepsBehind (quietWrite command) keeps

end

section
variable {F : Type} (num : Numbers F)

theorem quietWiring (busId : Int) (wiring : Wiring F) : Quiet (setWiring num busId wiring) := by
  cases wiring with
  | i2c scl sda => exact quietBind (quietWrite _) (quietWrite _)
  | spi clk mosi miso =>
    exact quietBind (quietWrite _) (quietBind (quietWrite _) (quietGiven fun _ => quietWrite _))
  | uart tx baud => exact quietBind (quietWrite _) (quietWrite _)
  | can source baud => exact quietBind (quietWrite _) (quietWrite _)
  | lin source baud => exact quietBind (quietWrite _) (quietWrite _)

theorem dho800Keeps (call : Dho800Call F) : Keeps (call.method num) (dho800Kept call) := by
  cases call with
  | setMathConfig config =>
    refine keepsWrite (keepsWrite (keepsBehind (quietGiven fun _ => quietWrite _) (keepsWrite ?_)))
    refine keepsBehind (quietGiven fun fft => ?_) (keepsChange _)
    exact quietBind (quietWrite _) (quietBind (quietWrite _) (quietWrite _))
  | saveReference slot source => exact keepsWrite (keepsWrite (keepsWrite (keepsChange _)))
  | setReferenceEnabled slot enabled => exact keepsWrite (keepsChange _)
  | setHistoryEnabled enabled => exact keepsWrite (keepsChange _)
  | setHistoryFrame frame => exact keepsWrite (keepsChange _)
  | setHistoryPlayback playing => exact keepsWrite (keepsChange _)
  | savePreset slot => exact keepsWrite (keepsChange _)
  | recallPreset slot =>
    intro memory taken
    refine endsMono (quietWrite _ memory taken) ?_
    rintro result memory' taken' ⟨rfl,rfl⟩
    rfl
  | setDecoder busId config =>
    cases config with
    | none => exact keepsWrite (keepsChange _)
    | some config =>
      exact keepsWrite (keepsBehind (quietWiring num busId config.wiring) (keepsWrite (keepsChange _)))

theorem dg900Left (profile : Dg900Profile F) (call : Dg900Call F) (memory : Dg900) :
    Ends (call.method num profile) memory true fun _ memory' taken =>
      taken = false → memory' = dg900Kept call memory := by
  cases call with
  | uploadArbitrary channel name samples =>
    refine endsBind (endsRequire (endsRequire (endsRequire ?_ ?_) ?_) ?_)
    · exact endsWriteBinary (endsWrite (endsChange (endsReturn (endsReturn (by simp)))) fun _ => rfl) fun _ => rfl
    all_goals simp
  | deleteArbitrary sampleId =>
    refine endsChange (endsMono (leavesWrite _ _) ?_)
    rintro _ _ _ rfl _
    rfl

theorem calibratorLeft (profiles : Profiles F) (call : CalibratorCall F) (memory : Calibrator F) :
    Ends (call.method num profiles.calibrator) memory true fun _ memory' taken =>
      taken = false → memory' = calibratorKept num profiles call memory := by
  cases call with
  | getChannels =>
    have silent : Writeless ((CalibratorCall.getChannels (F := F)).method num profiles.calibrator) :=
      writelessBind (writelessBind writelessIssue fun _ => writelessBind writelessIssue fun _ =>
        writelessBind (writelessChange _) fun _ => writelessBind writelessLoad fun _ =>
          writelessReturn _) fun _ => writelessReturn _
    refine endsMono (silent memory true) ?_
    rintro _ _ _ rfl rejected
    cases rejected
  | setChannelVoltage channel volts =>
    refine endsRequire (endsRequire (endsChange (endsMono (leavesWrite _ _) ?_)) (by simp)) (by simp)
    rintro _ _ _ rfl _
    rfl
  | setChannelCurrent channel amps =>
    refine endsRequire (endsRequire (endsChange (endsMono (leavesWrite _ _) ?_)) (by simp)) (by simp)
    rintro _ _ _ rfl _
    rfl

theorem leavesApplyMath (mode : Dm800Math.Mode) (config : Dm800Math.MathConfig F) :
    Leaves (Dm800Math.applyMath num mode config) := by
  unfold Dm800Math.applyMath
  cases config.function with
  | none => exact leavesReturn ()
  | stats => exact leavesWrite
  | limit =>
    exact leavesBind leavesWrite fun _ => leavesBind (leavesGiven fun _ => leavesWrite) fun _ =>
      leavesGiven fun _ => leavesWrite
  | dbm =>
    exact leavesBind leavesWrite fun _ => leavesBind (leavesGiven fun _ => leavesWrite) fun _ => leavesWrite
  | db =>
    exact leavesBind leavesWrite fun _ => leavesBind (leavesGiven fun _ => leavesWrite) fun _ => leavesWrite
  | null =>
    unfold Dm800Math.setNull
    cases (Dm800Math.scpi mode).sense with
    | none => exact leavesThrow _
    | some sense => exact leavesBind leavesWrite fun _ => leavesGiven fun _ => leavesWrite

theorem leavesAllMathOff (mode : Dm800Math.Mode) : Leaves (Dm800Math.allMathOff (F := F) mode) :=
  leavesBind leavesWrite fun _ => leavesBind leavesWrite fun _ => leavesBind leavesWrite fun _ =>
    leavesGiven fun _ => leavesWrite

theorem writelessKeepMath (f : Dm800Math.MathConfig F → Dm800Math.MathConfig F) :
    Writeless (Dm800Math.keepMath f) :=
  writelessBind (writelessChange _) fun _ => writelessBind writelessLoad fun _ => writelessReturn _

theorem writelessReportMath (mode : Dm800Math.Mode) (avgOn limOn nullOn : String) :
    Writeless (Dm800Math.reportMath num mode avgOn limOn nullOn) := by
  refine writelessBind writelessLoad fun m => ?_
  split
  · exact writelessBind (writelessQueryAll _) fun _ => writelessBind (writelessKeepMath _) fun _ =>
      writelessReturn _
  split
  · refine writelessBind (writelessQueryAll _) fun _ => writelessBind ?_ fun _ =>
      writelessBind (writelessKeepMath _) fun _ => writelessReturn _
    exact writelessBind (writelessQueryAll _) fun _ => writelessReturn _
  split
  · exact writelessBind writelessIssue fun _ => writelessBind (writelessKeepMath _) fun _ =>
      writelessReturn _
  · split
    · exact writelessBind writelessIssue fun _ => writelessBind (writelessKeepMath _) fun _ =>
        writelessReturn _
    · exact writelessBind (writelessKeepMath _) fun _ => writelessReturn _

theorem writelessGetMath : Writeless (Dm800Math.getMath num) := by
  refine writelessBind (writelessBind writelessIssue fun _ => writelessReturn _) fun mode => ?_
  refine writelessBind (writelessChange _) fun _ => writelessBind writelessIssue fun _ =>
    writelessBind writelessIssue fun _ => ?_
  cases (Dm800Math.scpi mode).sense with
  | none => exact writelessBind (writelessReturn _) fun _ => writelessReportMath num _ _ _ _
  | some sense => exact writelessBind writelessIssue fun _ => writelessReportMath num _ _ _ _

theorem dm800Left (call : Dm800Call F) (memory : Dm800Math.Memory F) :
    Ends (call.method num) memory true fun _ memory' taken =>
      taken = false → memory'.mathConfig = dm800Kept call memory.mathConfig := by
  cases call with
  | setMode mode => exact endsWrite (endsLastChange (by simp)) fun _ => rfl
  | setMath config =>
    have leaves : Leaves (do
        let mode ← Dm800Math.getMode
        Dm800Math.allMathOff mode
        Dm800Math.applyMath num mode config) :=
      leavesBind (leavesBind leavesIssue fun _ => leavesReturn _) fun mode =>
        leavesBind (leavesAllMathOff mode) fun _ => leavesApplyMath num mode config
    refine endsChange (endsMono (leaves _ _) ?_)
    rintro _ _ _ rfl _
    rfl
  | getMath =>
    have silent : Writeless ((Dm800Call.getMath (F := F)).method num) :=
      writelessBind (writelessGetMath num) fun _ => writelessReturn _
    refine endsMono (silent memory true) ?_
    rintro _ _ _ rfl rejected
    cases rejected

end

section
variable {F : Type} (num : Numbers F) (profiles : Profiles F)

theorem changesIff {α : Type} {before after kept : α} {taken : Bool} (left : taken = false → after = kept) :
    (after ≠ before → taken = true) ↔ taken = true ∨ kept = before := by
  cases taken with
  | true => simp
  | false => simp [left]

theorem changesTakenIff (s : Drivers F) (e : CallEvent F) :
    ChangesTaken num profiles s e ↔ TakenOrThere num profiles s e := by
  obtain ⟨call,answers⟩ := e
  cases call with
  | dho800 call =>
    refine Iff.trans ?_ (changesIff fun _ => dho800Keeps num call s.dho800 true ⟨answers,true⟩ rfl)
    simp [ChangesTaken,mirrorStep,perform,Drivers.reported,ran]
  | dg900 call =>
    refine Iff.trans ?_ (changesIff (dg900Left num profiles.dg900 call s.dg900 ⟨answers,true⟩ rfl))
    simp [ChangesTaken,mirrorStep,perform,Drivers.reported,ran]
  | dm800 call =>
    refine Iff.trans ?_ (changesIff (dm800Left num call s.dm800 ⟨answers,true⟩ rfl))
    simp [ChangesTaken,mirrorStep,perform,Drivers.reported,ran]
  | calibrator call =>
    refine Iff.trans ?_ (changesIff (calibratorLeft num profiles call s.calibrator ⟨answers,true⟩ rfl))
    simp [ChangesTaken,mirrorStep,perform,Drivers.reported,ran]

/-- In every run, a call changes what getters report only if all of its writes were taken, exactly
when no call whose writes are rejected keeps something new of itself. -/
theorem mirrorsTaken (s : Drivers F) (events : List (CallEvent F)) :
    Along (mirrorStep num profiles) (ChangesTaken num profiles) s events ↔
      Along (mirrorStep num profiles) (TakenOrThere num profiles) s events :=
  ⟨alongMono fun s e => (changesTakenIff num profiles s e).mp,
    alongMono fun s e => (changesTakenIff num profiles s e).mpr⟩

end

def someProfiles : Profiles Int := ⟨⟨2,16384⟩,⟨"5520A",1000,20⟩⟩

def withUpload : Drivers Int where
  dho800 := Dho800.create wholeNumbers 10 2
  dg900 := ⟨[⟨"ramp","ramp",4⟩]⟩
  dm800 := .create
  calibrator := .create wholeNumbers

def rejectedDelete : CallEvent Int := ⟨.dg900 (.deleteArbitrary "ramp"),fun _ => none⟩

theorem rejectedDeleteForgotten : ¬ Along (mirrorStep wholeNumbers someProfiles)
    (ChangesTaken wholeNumbers someProfiles) withUpload [rejectedDelete] := by
  intro honest
  have changed : (mirrorStep wholeNumbers someProfiles withUpload rejectedDelete).reported ≠
      withUpload.reported := by
    intro same
    have uploads := congrArg (fun shown => shown.2.1.uploads.length) same
    cases uploads
  have taken := honest.1 changed
  cases taken

end LxiWeb.MirroredWrites
