import LxiWeb.ScpiJobLifecycle

/-! What is left of a ScpiSession that `close` was called on or whose transport was lost: suspended
continuations of `pump`, armed deadlines and late data find nothing more to do. -/
namespace LxiWeb.ScpiQuiescence
open EventRuns ScpiFraming ScpiSession ScpiJobLifecycle

inductive Ending where
  | close
  | loss (err : Option JsError)
  deriving DecidableEq, Repr

def Ending.event : Ending → Event
  | .close => .close
  | .loss err => .transportClosed err

def rejectedJobs (log : List Effect) : List Job := log.filterMap fun
  | .rejected job _ => some job
  | _ => none

def notifiedListeners (log : List Effect) : List Nat := log.filterMap fun
  | .notified listener _ => some listener
  | _ => none

def requested : Event → Option Request
  | .write command => some (.command command)
  | .writeBinary command data => some (.block command data)
  | .query command _ => some (.command command)
  | .queryBinary command _ => some (.command command)
  | .data _ | .writeResolved _ | .writeRejected _ _ | .deadline _ | .close | .transportClosed _
  | .onClose _ | .offClose _ => none

def Refuses (s : Session) (e : Event) : Prop :=
  ∀ request ∈ requested e, (step s e).log = s.log ++ [.refused request scpiClosedError]

/- `s` is the ScpiSession when it ends, `t` the one after `later` events more. -/
structure Quiescent (s : Session) (ending : Ending) (later : List Event) (t : Session) : Prop where
  nothingLeft : t.queue = [] ∧ t.inFlight = none
  rejectedOnce : ∀ job ∈ enqueuedJobs s.log, job ∉ settledJobs s.log →
    (rejectedJobs t.log).count job = 1 ∧ (settledJobs t.log).count job = 1
  noFrame : handedJobs t.log = handedJobs s.log
  refuses : Along step Refuses (step s ending.event) later
  -- of a ScpiSession that has ended before, the listeners are told nothing more
  told : ∀ listener, (notifiedListeners t.log).count listener =
    if s.closed then (notifiedListeners s.log).count listener
    else match ending with
      | .close => 0
      | .loss _ => if listener ∈ s.closeListeners then 1 else 0

section
variable (log more : List Effect) (jobs : List Job) (listeners : List Nat)

@[simp] theorem rejectedAppend : rejectedJobs (log ++ more) = rejectedJobs log ++ rejectedJobs more :=
  List.filterMap_append

@[simp] theorem notifiedAppend :
    notifiedListeners (log ++ more) = notifiedListeners log ++ notifiedListeners more :=
  List.filterMap_append

@[simp] theorem rejectedRejections (err) : rejectedJobs (jobs.map (.rejected · err)) = jobs := by
  simp [rejectedJobs,List.filterMap_map]

@[simp] theorem notifiedRejections (err) : notifiedListeners (jobs.map (.rejected · err)) = [] := by
  simp [notifiedListeners,List.filterMap_map]

@[simp] theorem rejectedNotices (err) : rejectedJobs (listeners.map (.notified · err)) = [] := by
  simp [rejectedJobs,List.filterMap_map]

@[simp] theorem notifiedNotices (err) :
    notifiedListeners (listeners.map (.notified · err)) = listeners := by
  simp [notifiedListeners,List.filterMap_map]

theorem rejectedSettled : rejectedJobs log ⊆ settledJobs log := by
  intro job member
  simp only [rejectedJobs,List.mem_filterMap] at member
  obtain ⟨e,inside,same⟩ := member
  refine List.mem_filterMap.mpr ⟨e,inside,?_⟩
  cases e <;> simp_all [Effect.settledJob]

end

def audience (s : Session) : Bool × Bool × List Nat × List Nat :=
  (s.closed,s.listening,s.closeListeners,notifiedListeners s.log)

section
variable (s : Session)

@[simp] theorem audiencePump : audience (pump s) = audience s := by
  rcases pumpCases s with same | ⟨job,rest,_,_,_,handed⟩
  · rw [same]
  · rw [handed]
    simp [audience,notifiedListeners]

@[simp] theorem audienceRelease {outcome : Job → Effect} (one : Outcome outcome) (job : Job) :
    audience (release s job (outcome job)) = audience s := by
  have quiet : notifiedListeners [outcome job] = [] := by
    have settled := (one job).1
    cases effect : outcome job with
    | notified listener err => simp [effect,Effect.settledJob] at settled
    | _ => rfl
  simp [audience,release,clearDeadline,quiet]

theorem audienceSettle {outcome : Job → Effect} (one : Outcome outcome) :
    audience (settle s outcome) = audience s := by
  unfold settle
  split
  · rfl
  · rw [audiencePump,audienceRelease s one]

@[simp] theorem audienceComplete (value) : audience (completeInFlight s value) = audience s :=
  audienceSettle s (resolvedOutcome value)

@[simp] theorem audienceFail (err) : audience (failInFlight s err) = audience s :=
  audienceSettle s (rejectedOutcome (toScpiError err))

@[simp] theorem audienceDeliver : audience (tryDeliver s) = audience s := by
  unfold tryDeliver
  split
  · rfl
  · split
    · rfl
    · split
      · rfl
      · rw [audienceComplete]; rfl
    · split
      · rw [audienceFail]
      · rfl
      · rw [audienceComplete]; rfl

@[simp] theorem audienceEnqueue (request mode timeoutMs) :
    audience (enqueue s request mode timeoutMs) = audience s := by
  unfold enqueue
  split
  · simp [audience,notifiedListeners]
  · rw [audiencePump]
    simp [audience,push,notifiedListeners]

theorem audienceTraffic (e : Event)
    (traffic : e ≠ .close ∧ (∀ err, e ≠ .transportClosed err) ∧ (∀ l, e ≠ .onClose l) ∧
      ∀ l, e ≠ .offClose l) : audience (step s e) = audience s := by
  cases e with
  | write | writeBinary | query | queryBinary => simp [step]
  | data chunk =>
    simp only [step,handleData]
    split
    · split
      · rfl
      · rw [audienceDeliver]; rfl
    · rfl
  | writeResolved id =>
    simp only [step,resumePump,armDeadline]
    split
    · rfl
    · split
      · rw [audienceComplete]; rfl
      · split <;> (rw [audienceDeliver]; rfl)
  | writeRejected id err =>
    simp only [step]
    split
    · rfl
    · rw [audienceFail]; rfl
  | deadline id =>
    simp only [step]
    split
    · split
      · split
        · rw [audienceFail]; rfl
        · rfl
      · rfl
    · rfl
  | close => exact absurd rfl traffic.1
  | transportClosed err => exact absurd rfl (traffic.2.1 err)
  | onClose l => exact absurd rfl (traffic.2.2.1 l)
  | offClose l => exact absurd rfl (traffic.2.2.2 l)

end

structure Ended (s : Session) : Prop where
  closed : s.closed = true
  free : s.inFlight = none
  empty : s.queue = []

section
variable {s : Session}

theorem closeLog (opens : s.closed = false) : Ended (close s) ∧
    (close s).log = s.log ++ (s.inFlight.toList ++ s.queue).map (.rejected · scpiClosedError) ++
      [.closeTransport] := by
  simp only [close,opens,Bool.false_eq_true,if_false]
  refine ⟨⟨rfl,rfl,rfl⟩,?_⟩
  simp [rejectAll]

theorem lossLog (opens : s.closed = false) (err : Option JsError) : Ended (handleClose s err) ∧
    (handleClose s err).closeListeners = s.closeListeners ∧
    (handleClose s err).log = s.log ++ (s.inFlight.toList ++ s.queue).map
      (.rejected · (toScpiError (err.getD (scpiClosedError "transport closed")))) ++
        s.closeListeners.map (.notified · err) := by
  obtain ⟨queue,free,closed,_,listeners,_,_,log⟩ :=
    failInFlightClosed { s with closed := true } rfl (err.getD (scpiClosedError "transport closed"))
  simp only [handleClose,opens,Bool.false_eq_true,if_false,rejectAll]
  refine ⟨⟨closed,free,rfl⟩,listeners,?_⟩
  rw [log,queue,listeners]
  simp

end

structure Heeded (s : Session) : Prop where
  tracked : Tracked s
  distinct : s.closeListeners.Nodup
  untold : s.closed = false → s.listening = true ∧ notifiedListeners s.log = []

theorem createHeeded (terminator timeout) : Heeded (create terminator timeout) :=
  ⟨createTracked terminator timeout,List.nodup_nil,fun _ => ⟨rfl,rfl⟩⟩

theorem Heeded.same {s s' : Session} (heeded : Heeded s) (tracked : Tracked s')
    (same : audience s' = audience s) : Heeded s' := by
  simp only [audience,Prod.mk.injEq] at same
  obtain ⟨closed,listening,listeners,notified⟩ := same
  exact ⟨tracked,listeners ▸ heeded.distinct,by rw [closed,listening,notified]; exact heeded.untold⟩

theorem stepHeeded (s : Session) (e : Event) (heeded : Heeded s) : Heeded (step s e) := by
  have tracked := stepTracked s e heeded.tracked
  have ended {s' : Session} (kept : Tracked s') (ends : Ended s')
      (listeners : s'.closeListeners = s.closeListeners) : Heeded s' :=
    ⟨kept,listeners ▸ heeded.distinct,fun opens => by simp [ends.closed] at opens⟩
  cases e with
  | close =>
    cases opens : s.closed with
    | true => exact heeded.same tracked (by simp [step,close,opens])
    | false =>
      refine ended tracked (closeLog opens).1 ?_
      simp [step,close,opens,rejectAll]
  | transportClosed err =>
    cases opens : s.closed with
    | true => exact heeded.same tracked (by simp [step,handleClose,opens])
    | false =>
      have listening := (heeded.untold opens).1
      simp only [step,listening,if_true] at tracked ⊢
      exact ended tracked (lossLog opens err).1 (lossLog opens err).2.1
  | onClose listener =>
    simp only [step] at tracked ⊢
    split at tracked
    · rename_i there
      rw [if_pos there]
      exact heeded
    · rename_i new
      rw [if_neg new]
      refine ⟨tracked,?_,heeded.untold⟩
      exact List.Nodup.append heeded.distinct (List.nodup_singleton _)
        (List.disjoint_singleton.mpr new)
  | offClose listener => exact ⟨tracked,heeded.distinct.erase _,heeded.untold⟩
  | _ => exact heeded.same tracked (audienceTraffic s _ (by simp))

theorem endingStep {s : Session} (heeded : Heeded s) (opens : s.closed = false) (ending : Ending) :
    Ended (step s ending.event) ∧ ∃ err last, (step s ending.event).log =
      s.log ++ (s.inFlight.toList ++ s.queue).map (.rejected · err) ++ last ∧
      handedJobs last = [] ∧ settledJobs last = [] ∧ rejectedJobs last = [] ∧
      notifiedListeners last = match ending with
        | .close => []
        | .loss _ => s.closeListeners := by
  cases ending with
  | close =>
    obtain ⟨ended,log⟩ := closeLog opens
    exact ⟨ended,_,_,log,rfl,rfl,rfl,rfl⟩
  | loss err =>
    obtain ⟨ended,_,log⟩ := lossLog opens err
    simp only [Ending.event,step,(heeded.untold opens).1,if_true]
    exact ⟨ended,_,_,log,by simp,by simp,by simp,by simp⟩

def refusals (e : Event) : List Effect := (requested e).toList.map (.refused · scpiClosedError)

theorem enqueueEnded {s : Session} (ended : Ended s) (request mode timeoutMs) :
    Ended (enqueue s request mode timeoutMs) ∧
      (enqueue s request mode timeoutMs).log = s.log ++ [.refused request scpiClosedError] := by
  rw [enqueue,if_pos ended.closed]
  exact ⟨⟨ended.closed,ended.free,ended.empty⟩,rfl⟩

theorem stepEnded {s : Session} (ended : Ended s) (e : Event) :
    Ended (step s e) ∧ (step s e).log = s.log ++ refusals e := by
  have idle {s' : Session} (same : s'.closed = s.closed ∧ s'.inFlight = s.inFlight ∧
      s'.queue = s.queue ∧ s'.log = s.log) : Ended s' ∧ s'.log = s.log ++ [] := by
    obtain ⟨closed,free,empty,log⟩ := same
    exact ⟨⟨closed.trans ended.closed,free.trans ended.free,empty.trans ended.empty⟩,by simp [log]⟩
  have free := ended.free
  cases e with
  | write | writeBinary | query | queryBinary => exact enqueueEnded ended _ _ _
  | data chunk => exact idle (by simp [step,handleData,ended.closed])
  | writeResolved id =>
    simp only [step]
    split
    · exact idle ⟨rfl,rfl,rfl,rfl⟩
    · simp only [resumePump,armDeadline]
      split
      · exact idle (by simp [completeInFlight,settle,free])
      · split <;> exact idle (by simp [tryDeliver,free])
  | writeRejected id err =>
    simp only [step]
    split
    · exact idle ⟨rfl,rfl,rfl,rfl⟩
    · exact idle (by simp [failInFlight,settle,free])
  | deadline id =>
    simp only [step,free]
    split <;> exact idle ⟨rfl,by simp [free],rfl,rfl⟩
  | close => exact idle (by simp [step,close,ended.closed])
  | transportClosed err => exact idle (by simp [step,handleClose,ended.closed])
  | onClose listener =>
    simp only [step]
    split <;> exact idle ⟨rfl,rfl,rfl,rfl⟩
  | offClose listener => exact idle ⟨rfl,rfl,rfl,rfl⟩

theorem runEnded {s : Session} (ended : Ended s) (later : List Event) :
    Ended (run step s later) ∧ (run step s later).log = s.log ++ later.flatMap refusals := by
  induction later generalizing s with
  | nil => exact ⟨ended,by simp⟩
  | cons e rest ih =>
    obtain ⟨next,log⟩ := stepEnded ended e
    obtain ⟨last,logs⟩ := ih next
    exact ⟨last,by rw [runCons,logs,log,List.flatMap_cons,List.append_assoc]⟩

section
variable (later : List Event)

theorem quietRefusals : handedJobs (later.flatMap refusals) = [] ∧ settledJobs (later.flatMap refusals) = [] ∧
    rejectedJobs (later.flatMap refusals) = [] ∧ notifiedListeners (later.flatMap refusals) = [] := by
  induction later with
  | nil => exact ⟨rfl,rfl,rfl,rfl⟩
  | cons e rest ih =>
    have one : handedJobs (refusals e) = [] ∧ settledJobs (refusals e) = [] ∧
        rejectedJobs (refusals e) = [] ∧ notifiedListeners (refusals e) = [] := by
      unfold refusals
      cases requested e <;> exact ⟨rfl,rfl,rfl,rfl⟩
    simp [List.flatMap_cons,one,ih]

theorem endedRefuses {s : Session} (ended : Ended s) : Along step Refuses s later := by
  refine alongAlways (fun s e (ended : Ended s) => (stepEnded ended e).1) ?_ ended later
  intro s e ended request asked
  rw [(stepEnded ended e).2,refusals,asked]
  rfl

end

theorem unsettledOnce {s : Session} (tracked : Tracked s) {job : Job} (enqueued : job ∈ enqueuedJobs s.log)
    (unsettled : job ∉ settledJobs s.log) : (s.inFlight.toList ++ s.queue).count job = 1 := by
  have once := (List.nodup_append.mp (List.append_assoc .. ▸ trackedExclusive tracked)).2.1
  have there := tracked.accounted.symm.subset enqueued
  rw [List.append_assoc] at there
  exact List.count_eq_one_of_mem once ((List.mem_append.mp there).resolve_left unsettled)

theorem endedQuiescent {s : Session} (heeded : Heeded s) (ending : Ending) (later : List Event) :
    Quiescent s ending later (run step (step s ending.event) later) := by
  obtain ⟨handed,settled,rejected,notified⟩ := quietRefusals later
  cases opens : s.closed with
  | true =>
    have ended : Ended s := ⟨opens,(heeded.tracked.idle opens).1,(heeded.tracked.idle opens).2⟩
    obtain ⟨next,log⟩ := stepEnded ended ending.event
    obtain ⟨last,logs⟩ := runEnded next later
    have nothing : refusals ending.event = [] := by cases ending <;> rfl
    rw [log,nothing,List.append_nil] at logs
    refine ⟨⟨last.empty,last.free⟩,?_,?_,endedRefuses later next,?_⟩
    · intro job enqueued unsettled
      have once := unsettledOnce heeded.tracked enqueued unsettled
      simp [ended.free,ended.empty] at once
    · simp [logs,handed]
    · simp [logs,notified,opens]
  | false =>
    obtain ⟨next,err,more,log,noFrame,noOutcome,noRejection,tells⟩ := endingStep heeded opens ending
    obtain ⟨last,logs⟩ := runEnded next later
    rw [log] at logs
    refine ⟨⟨last.empty,last.free⟩,?_,?_,endedRefuses later next,?_⟩
    · intro job enqueued unsettled
      have once := unsettledOnce heeded.tracked enqueued unsettled
      have before : (settledJobs s.log).count job = 0 := List.count_eq_zero_of_not_mem unsettled
      have before' : (rejectedJobs s.log).count job = 0 :=
        List.count_eq_zero_of_not_mem fun member => unsettled (rejectedSettled s.log member)
      rw [logs]
      simp only [rejectedAppend,settledAppend,rejectedRejections,settledRejections,List.count_append,
        noRejection,noOutcome,rejected,settled,before,before'] at once ⊢
      simpa using once
    · simp [logs,handed,noFrame]
    · intro listener
      rw [logs]
      simp only [notifiedAppend,notifiedRejections,notified,(heeded.untold opens).2,tells,
        List.append_nil,List.nil_append,opens,Bool.false_eq_true,if_false]
      cases ending with
      | close => rfl
      | loss err => exact heeded.distinct.count

/- In every run, from every moment on at which a ScpiSession is closed or its transport lost. -/
theorem closedQuiescent (terminator : JsText.Bytes) (defaultTimeoutMs : Int) (before : List Event)
    (ending : Ending) (later : List Event) :
    Quiescent (run step (create terminator defaultTimeoutMs) before) ending later
      (run step (create terminator defaultTimeoutMs) (before ++ ending.event :: later)) := by
  rw [runAppend,runCons]
  exact endedQuiescent (runKeeps stepHeeded before (createHeeded terminator defaultTimeoutMs)) ending later

end LxiWeb.ScpiQuiescence
