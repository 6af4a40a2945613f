import Mathlib.Data.List.Induction
import Mathlib.Data.List.Nodup
import Mathlib.Data.List.Perm.Subperm
import LxiWeb.ScpiSession

/-! The life of a job, over every run of a session: queued, handed to the transport, settled.
Rejected writes are the one place where the running job and the settled job can differ:
`pump` fails whatever is in flight, where the deadline timer checks its own job first. -/
namespace LxiWeb.ScpiJobLifecycle
open EventRuns ScpiFraming ScpiSession

def Serial (log : List Effect) : Prop :=
  ∀ earlier job bytes, earlier ++ [.frame job bytes] <+: log →
    ∀ before ∈ handedJobs earlier, before ∈ settledJobs earlier

theorem serialNil : Serial [] := by
  intro earlier job bytes early
  simp at early

theorem serialSnoc {log : List Effect} {e : Effect} (serial : Serial log)
    (frame : ∀ job bytes, e = .frame job bytes → ∀ before ∈ handedJobs log, before ∈ settledJobs log) :
    Serial (log ++ [e]) := by
  intro earlier job bytes early
  rcases List.prefix_concat_iff.mp early with whole | inside
  · obtain ⟨rfl,last⟩ := List.append_inj' whole rfl
    exact frame job bytes (List.cons.inj last).1.symm
  · exact serial earlier job bytes inside

theorem serialQuiet {log more : List Effect} (serial : Serial log)
    (quiet : handedJobs more = []) : Serial (log ++ more) := by
  induction more using List.reverseRecOn with
  | nil => simpa using serial
  | append_singleton more e ih =>
    simp only [handedAppend,List.append_eq_nil_iff] at quiet
    rw [← List.append_assoc]
    apply serialSnoc (ih quiet.1)
    rintro job bytes rfl
    simp at quiet

structure TrackedParts (queue : List Job) (inFlight : Option Job) (closed : Bool) (nextId : Nat)
    (log : List Effect) : Prop where
  ordered : handedJobs log ++ queue <+: enqueuedJobs log
  accounted : (settledJobs log ++ inFlight.toList ++ queue).Perm (enqueuedJobs log)
  distinct : ((enqueuedJobs log).map Job.id).Nodup
  fresh : ∀ job ∈ enqueuedJobs log, job.id < nextId
  running : ∀ job ∈ handedJobs log, job ∈ settledJobs log ∨ inFlight = some job
  complete : closed = false → handedJobs log ++ queue = enqueuedJobs log
  idle : closed = true → inFlight = none ∧ queue = []
  serial : Serial log

def Tracked (s : Session) : Prop := TrackedParts s.queue s.inFlight s.closed s.nextId s.log

theorem createTracked (terminator timeout) : Tracked (create terminator timeout) where
  ordered := List.prefix_refl _
  accounted := List.Perm.refl _
  distinct := List.nodup_nil
  fresh := by simp [create]
  running := by simp [create]
  complete _ := rfl
  idle closed := by simp [create] at closed
  serial := serialNil

theorem pumpTracked {s : Session} (tracked : Tracked s) : Tracked (pump s) := by
  unfold pump
  split
  · exact tracked
  · rename_i free
    simp only [not_or,Bool.not_eq_true,Option.isSome_eq_false_iff,Option.isNone_iff_eq_none]
      at free
    split
    · exact tracked
    · rename_i job rest queued
      have before := tracked
      unfold Tracked at before
      rw [free.1,queued] at before
      exact {
        ordered := by simpa using before.ordered
        accounted := by simpa using before.accounted
        distinct := by simpa using before.distinct
        fresh := by simpa using before.fresh
        running := by
          intro j member
          simp only [handedAppend,List.mem_append] at member
          rcases member with old | new
          · left; simpa using before.running j old
          · right; simpa [eq_comm] using new
        complete := fun open_ => by
          simpa using before.complete open_
        idle := fun closed => by simp [free.2] at closed
        serial := serialSnoc before.serial fun _ _ _ j member => by
          simpa using before.running j member }

theorem pushTracked {s : Session} (tracked : Tracked s) (open_ : s.closed = false)
    (request mode timeoutMs) : Tracked (push s ⟨s.nextId,request,mode,timeoutMs⟩) := by
  have whole := tracked.complete open_
  exact {
    ordered := by simp [push,← whole]
    accounted := by
      simpa [push] using tracked.accounted.append_right [_]
    distinct := by
      have older : s.nextId ∉ (enqueuedJobs s.log).map Job.id := by
        intro member
        obtain ⟨job,old,same⟩ := List.mem_map.mp member
        exact absurd (tracked.fresh job old) (by omega)
      simpa [push,List.nodup_append] using ⟨tracked.distinct,by simpa using older⟩
    fresh := by
      intro job member
      simp only [push,enqueuedAppend,List.mem_append] at member
      rcases member with old | new
      · exact Nat.lt_succ_of_lt (tracked.fresh job old)
      · have same : job = ⟨s.nextId,request,mode,timeoutMs⟩ := by simpa using new
        simp [push,same]
    running := by simpa [push] using tracked.running
    complete := by simp [push,← whole]
    idle := by simp [push,open_]
    serial := serialQuiet tracked.serial (by simp) }

theorem enqueueTracked {s : Session} (tracked : Tracked s) (request mode timeoutMs) :
    Tracked (enqueue s request mode timeoutMs) := by
  unfold enqueue
  split
  · exact {
      ordered := by simpa using tracked.ordered
      accounted := by simpa using tracked.accounted
      distinct := by simpa using tracked.distinct
      fresh := by simpa using tracked.fresh
      running := by simpa using tracked.running
      complete := by simpa using tracked.complete
      idle := tracked.idle
      serial := serialQuiet tracked.serial (by simp) }
  · rename_i open_
    exact pumpTracked (pushTracked tracked (by simpa using open_) _ _ _)

def Outcome (outcome : Job → Effect) : Prop :=
  ∀ job, (outcome job).settledJob = some job ∧ (outcome job).handedJob = none ∧
    (outcome job).enqueuedJob = none

theorem resolvedOutcome (value : Value) : Outcome (.resolved · value) := fun _ => ⟨rfl,rfl,rfl⟩

theorem rejectedOutcome (err : JsError) : Outcome (.rejected · err) := fun _ => ⟨rfl,rfl,rfl⟩

theorem releaseTracked {s : Session} {job : Job} (tracked : Tracked s)
    (flying : s.inFlight = some job) {outcome : Job → Effect} (one : Outcome outcome) :
    Tracked (release s job (outcome job)) := by
  obtain ⟨settled,handed,enqueued⟩ := one job
  have before := tracked
  unfold Tracked at before
  rw [flying] at before
  exact {
    ordered := by simpa [release,clearDeadline,handed,enqueued] using before.ordered
    accounted := by simpa [release,clearDeadline,settled,enqueued] using before.accounted
    distinct := by simpa [release,clearDeadline,enqueued] using before.distinct
    fresh := by simpa [release,clearDeadline,enqueued] using before.fresh
    running := by
      intro j member
      left
      have old : j ∈ handedJobs s.log := by simpa [release,clearDeadline,handed] using member
      rcases before.running j old with done | same
      · simp [release,clearDeadline,done]
      · obtain rfl := Option.some.inj same
        simp [release,clearDeadline,settled]
    complete := by simpa [release,clearDeadline,handed,enqueued] using before.complete
    idle := fun closed => ⟨rfl,(before.idle closed).2⟩
    serial := serialSnoc before.serial fun j bytes same => by
      have none := handed
      rw [same] at none
      simp at none }

theorem settleTracked {s : Session} (tracked : Tracked s) {outcome : Job → Effect}
    (one : Outcome outcome) : Tracked (settle s outcome) := by
  unfold settle
  split
  · exact tracked
  · rename_i job flying
    exact pumpTracked (releaseTracked tracked flying one)

theorem completeTracked {s : Session} (tracked : Tracked s) (value) :
    Tracked (completeInFlight s value) := settleTracked tracked (resolvedOutcome value)

theorem failTracked {s : Session} (tracked : Tracked s) (err) : Tracked (failInFlight s err) :=
  settleTracked tracked (rejectedOutcome (toScpiError err))

theorem tryDeliverTracked {s : Session} (tracked : Tracked s) : Tracked (tryDeliver s) := by
  have buffered (rest) : Tracked { s with buffer := rest } := tracked
  unfold tryDeliver
  split
  · exact tracked
  · split
    · exact tracked
    · split
      · exact tracked
      · exact completeTracked (buffered _) _
    · split
      · exact failTracked tracked _
      · exact tracked
      · exact completeTracked (buffered _) _

theorem resumePumpTracked {s : Session} (tracked : Tracked s) (job) : Tracked (resumePump s job) := by
  have armed : Tracked (armDeadline s job) := by
    unfold armDeadline
    split <;> exact tracked
  unfold resumePump
  split
  · exact completeTracked tracked _
  · exact tryDeliverTracked armed

theorem shutTracked {s shut : Session} (tracked : Tracked s) (more : List Effect)
    (empty : shut.queue = [] ∧ shut.inFlight = none ∧ shut.closed = true)
    (same : shut.nextId = s.nextId) (log : shut.log = s.log ++ more)
    (settles : settledJobs more = s.inFlight.toList ++ s.queue)
    (quiet : handedJobs more = [] ∧ enqueuedJobs more = []) : Tracked shut := by
  obtain ⟨queue,inFlight,closed⟩ := empty
  have handed : handedJobs shut.log = handedJobs s.log := by simp [log,quiet.1]
  have enqueued : enqueuedJobs shut.log = enqueuedJobs s.log := by simp [log,quiet.2]
  have settled : settledJobs shut.log = settledJobs s.log ++ (s.inFlight.toList ++ s.queue) := by
    simp [log,settles]
  unfold Tracked
  rw [queue,inFlight,closed,same]
  exact {
    ordered := by
      rw [handed,enqueued,List.append_nil]
      exact (List.prefix_append _ _).trans tracked.ordered
    accounted := by simpa [settled,enqueued] using tracked.accounted
    distinct := enqueued ▸ tracked.distinct
    fresh := enqueued ▸ tracked.fresh
    running := by
      intro job member
      left
      rw [handed] at member
      rcases tracked.running job member with done | flying
      · simp [settled,done]
      · simp [settled,flying]
    complete := nofun
    idle := fun _ => ⟨rfl,rfl⟩
    serial := log ▸ serialQuiet tracked.serial quiet.1 }

theorem closeTracked {s : Session} (tracked : Tracked s) : Tracked (close s) := by
  unfold close
  split
  · exact tracked
  · let more : List Effect := s.inFlight.toList.map (.rejected · scpiClosedError) ++
      s.queue.map (.rejected · scpiClosedError) ++ [.closeTransport]
    exact shutTracked tracked more ⟨rfl,rfl,rfl⟩ rfl
      (by simp [rejectAll,more]) (by simp [more]) (by simp [more])

/- While the session shuts down, `failInFlight` finds `closed` already set, so the pump it runs
hands nothing over. -/
theorem failInFlightClosed (s : Session) (closed : s.closed = true) (err : JsError) :
    (failInFlight s err).queue = s.queue ∧ (failInFlight s err).inFlight = none ∧
    (failInFlight s err).closed = true ∧ (failInFlight s err).nextId = s.nextId ∧
    (failInFlight s err).closeListeners = s.closeListeners ∧
    (failInFlight s err).writing = s.writing ∧ (failInFlight s err).timers ⊆ s.timers ∧
    (failInFlight s err).log = s.log ++ s.inFlight.toList.map (.rejected · (toScpiError err)) := by
  unfold failInFlight settle
  cases flying : s.inFlight with
  | none => simp [flying,closed]
  | some job => simp [pump,release,clearDeadline,closed]

theorem handleCloseTracked {s : Session} (tracked : Tracked s) (err) :
    Tracked (handleClose s err) := by
  unfold handleClose
  split
  · exact tracked
  · let wrapped := err.getD (scpiClosedError "transport closed")
    obtain ⟨queue,inFlight,closed,nextId,listeners,_,_,log⟩ :=
      failInFlightClosed { s with closed := true } rfl wrapped
    let more : List Effect := s.inFlight.toList.map (.rejected · (toScpiError wrapped)) ++
      s.queue.map (.rejected · (toScpiError wrapped)) ++ s.closeListeners.map (.notified · err)
    refine shutTracked tracked more ⟨rfl,inFlight,closed⟩ nextId ?_
      (by simp [more]) (by simp [more])
    simp only [rejectAll]
    rw [log,queue,listeners]
    simp [more,wrapped]

theorem stepTracked (s : Session) (e : Event) (tracked : Tracked s) : Tracked (step s e) := by
  have buffered (buffer) : Tracked { s with buffer } := tracked
  have written (writing) : Tracked { s with writing } := tracked
  have fired (timers) : Tracked { s with timers } := tracked
  cases e with
  | write | writeBinary | query | queryBinary => exact enqueueTracked tracked _ _ _
  | data chunk =>
    simp only [step,handleData]
    split
    · split
      · exact tracked
      · exact tryDeliverTracked (buffered _)
    · exact tracked
  | writeResolved id =>
    simp only [step]
    split
    · exact tracked
    · exact resumePumpTracked (written _) _
  | writeRejected id err =>
    simp only [step]
    split
    · exact tracked
    · exact failTracked (written _) _
  | deadline id =>
    simp only [step]
    split
    · split
      · split
        · exact failTracked (fired _) _
        · exact fired _
      · exact fired _
    · exact tracked
  | close => exact closeTracked tracked
  | transportClosed err =>
    simp only [step]
    split
    · exact handleCloseTracked tracked err
    · exact tracked
  | onClose listener =>
    simp only [step]
    split <;> exact tracked
  | offClose listener => exact tracked

structure JobLifecycle (s : Session) : Prop where
  oneInFlight : ((handedJobs s.log).filter (· ∉ settledJobs s.log)).length ≤ 1
  inOrder : handedJobs s.log <+: enqueuedJobs s.log
  afterPrevious : Serial s.log
  settledOnce : (settledJobs s.log).Nodup
  accounted : (settledJobs s.log ++ s.inFlight.toList ++ s.queue).Perm (enqueuedJobs s.log)
  exclusive : (settledJobs s.log ++ s.inFlight.toList ++ s.queue).Nodup

theorem trackedExclusive {s : Session} (tracked : Tracked s) :
    (settledJobs s.log ++ s.inFlight.toList ++ s.queue).Nodup :=
  tracked.accounted.nodup_iff.mpr (List.Nodup.of_map Job.id tracked.distinct)

theorem trackedFlying {s : Session} {job : Job} (tracked : Tracked s)
    (flying : s.inFlight = some job) : job ∈ enqueuedJobs s.log :=
  tracked.accounted.subset (by simp [flying])

theorem trackedHandedOnce {s : Session} (tracked : Tracked s) : (handedJobs s.log).Nodup :=
  (List.Nodup.of_map Job.id tracked.distinct).sublist
    ((List.prefix_append _ _).trans tracked.ordered).sublist

theorem trackedLifecycle {s : Session} (tracked : Tracked s) : JobLifecycle s where
  oneInFlight := by
    have running : (handedJobs s.log).filter (· ∉ settledJobs s.log) ⊆ s.inFlight.toList := by
      intro job member
      simp only [List.mem_filter,decide_eq_true_eq] at member
      have flying := (tracked.running job member.1).resolve_left member.2
      simp [flying]
    have once := (trackedHandedOnce tracked).filter (fun job => decide (job ∉ settledJobs s.log))
    calc ((handedJobs s.log).filter (· ∉ settledJobs s.log)).length
        ≤ s.inFlight.toList.length := (once.subperm running).length_le
      _ ≤ 1 := by cases s.inFlight <;> simp
  inOrder := (List.prefix_append _ _).trans tracked.ordered
  afterPrevious := tracked.serial
  settledOnce := (List.nodup_append.mp (List.nodup_append.mp (trackedExclusive tracked)).1).1
  accounted := tracked.accounted
  exclusive := trackedExclusive tracked

/- A rejected write of the frame of job `id` settles no job but `id`. -/
def OwnRejection (s : Session) (e : Event) : Prop :=
  match e with
  | .writeRejected id _ =>
      ∀ job ∈ settledJobs (step s e).log, job ∈ settledJobs s.log ∨ job.id = id
  | _ => True

/- The transport rejects the write of a frame only while its own job is in flight or none is. -/
def WriterInFlight (s : Session) (e : Event) : Prop :=
  match e with
  | .writeRejected id _ =>
      (∃ job ∈ s.writing, job.id = id) → ∀ job, s.inFlight = some job → job.id = id
  | _ => True

instance (s e) : Decidable (OwnRejection s e) := by
  unfold OwnRejection
  split <;> infer_instance

theorem pumpSettled (s : Session) : settledJobs (pump s).log = settledJobs s.log := by
  unfold pump
  split
  · rfl
  · split <;> simp

theorem settledAfterFailure (s : Session) (err : JsError) :
    settledJobs (failInFlight s err).log = settledJobs s.log ++ s.inFlight.toList := by
  unfold failInFlight settle
  cases s.inFlight with
  | none => simp
  | some job => simp [pumpSettled,release,clearDeadline,Effect.settledJob]

theorem ownRejectionIff (s : Session) (e : Event) (tracked : Tracked s) :
    OwnRejection s e ↔ WriterInFlight s e := by
  cases e with
  | writeRejected id err =>
    simp only [OwnRejection,WriterInFlight,step]
    cases found : s.writing.find? (·.id = id) with
    | none =>
      have absent := List.find?_eq_none.mp found
      constructor
      · rintro _ ⟨job,member,same⟩
        exact absurd same (by simpa using absent job member)
      · intro _ job member
        exact .inl member
    | some writer =>
      have awaited : ∃ job ∈ s.writing, job.id = id :=
        ⟨writer,List.mem_of_find?_eq_some found,by simpa using List.find?_some found⟩
      simp only [settledAfterFailure,List.mem_append,Option.mem_toList,awaited,true_implies]
      constructor
      · intro own job flying
        refine (own job (.inr flying)).resolve_left fun settled => ?_
        have exclusive := (List.nodup_append.mp (trackedExclusive tracked)).1
        rw [flying] at exclusive
        exact (List.nodup_append.mp exclusive).2.2 job settled job (by simp) rfl
      · rintro same job (old | flying)
        · exact .inl old
        · exact .inr (same job flying)
  | _ => exact Iff.rfl

theorem jobLifecycleRuns (terminator : JsText.Bytes) (defaultTimeoutMs : Int) (events : List Event) :
    Throughout step JobLifecycle (create terminator defaultTimeoutMs) events ∧
    (Along step OwnRejection (create terminator defaultTimeoutMs) events ↔
      Along step WriterInFlight (create terminator defaultTimeoutMs) events) := by
  have start := createTracked terminator defaultTimeoutMs
  refine ⟨?_,alongCongr stepTracked ownRejectionIff start events⟩
  intro seen _
  exact trackedLifecycle (runKeeps stepTracked seen start)

/- The reply to `A?` arrives before its write settles; when that write then fails, `B?` pays. -/
theorem lateWriteFailureRejectsNext :
    ¬ Along step OwnRejection (create)
      [.query "A?" none, .query "B?" none, .data [0x31,LF], .writeRejected 0 ⟨.error,"EPIPE"⟩] := by
  decide

end LxiWeb.ScpiJobLifecycle
