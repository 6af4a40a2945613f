import LxiWeb.ScpiQuiescence
import LxiWeb.ScpiReplyAttribution
import LxiWeb.SimulatedCommands

/-! A `ScpiSession` over TCP to a socket of the simulator. Bytes are in order both ways, cut into chunks
of any size that arrive at any later time. -/
namespace LxiWeb.SimulatedSession
open EventRuns JsText ScpiFraming ScpiJobLifecycle ScpiReplyAttribution ScpiSession SimulatedCommands
open SimulatorFraming (bodyOf lineOf takeLineNone takeLineWhole)
open SimulatorReplies (Action CommandResult Simulator Socket drainFrom finish)

/- `up` and `down` are the bytes on their way to the simulator and back. -/
structure Loop (V : Type) where
  session : Session
  up : Bytes
  socket : Socket V
  down : Bytes

inductive LoopEvent where
  | client (e : BenchEvent)
  | arrives (count : Nat)
  deriving DecidableEq, Repr

def sentBytes (log : List Effect) : Bytes := log.flatMap fun
  | .frame _ bytes => bytes
  | _ => []

def writtenBytes (trace : List Action) : Bytes := trace.flatMap fun
  | .wrote bytes => bytes
  | _ => []

section
variable {V : Type} (sim : Simulator V)

def connect (defaultTimeoutMs : Int := 5000) : Loop V :=
  ⟨create [LF] defaultTimeoutMs,[],SimulatorReplies.connect sim,[]⟩

def loopStep (l : Loop V) : LoopEvent → Loop V
  | .client e =>
      let session := ScpiSession.step l.session (sessionEvent l.down e)
      { l with
        session, up := l.up ++ sentBytes (session.log.drop l.session.log.length)
        down := leftOnWire l.down e }
  | .arrives count =>
      let socket := SimulatorReplies.step sim l.socket (.data (l.up.take count))
      { l with
        up := l.up.drop count, socket
        down := l.down ++ writtenBytes (socket.trace.drop l.socket.trace.length) }

/- Every query that resolved got what the simulator answers when it runs the commands one after the
other in the order of the calls. -/
def AnsweredInTurn (log : List Effect) : Prop :=
  ∀ before job later, enqueuedJobs log = before ++ job :: later → job.mode ≠ .none →
    ∀ value, .resolved job value ∈ log →
      ReadsAs job.mode (replyTo sim (before.map Job.request) job.request) value

structure Still (l : Loop V) : Prop where
  opens : l.session.closed = false
  up : l.up = []
  down : l.down = []
  writing : l.session.writing = []

def NoneLeft (l : Loop V) : Prop :=
  Still l → ∀ job ∈ enqueuedJobs l.session.log, ∃ value, .resolved job value ∈ l.session.log

/- The command is one line, and the simulator answers it the way the call reads it or not at all. -/
def Proper (before : List Job) (job : Job) : Prop :=
  LF ∉ bodyOf job.request ∧
    (replyTo sim (before.map Job.request) job.request = [] ∨
      ∃ value, ReadsAs job.mode (replyTo sim (before.map Job.request) job.request) value)

/- No deadline fires on a query that the simulator answers, and no chunk ends between a block and its
terminator. -/
def Undisturbed (l : Loop V) : LoopEvent → Prop
  | .client e =>
      (∀ job, calledJob l.session e = some job → Proper sim (enqueuedJobs l.session.log) job) ∧
      ∀ before job later, enqueuedJobs l.session.log = before ++ job :: later →
        l.session.inFlight = some job →
          match e with
          | .deadline id => job.id = id → replyTo sim (before.map Job.request) job.request = []
          | .deliver count => job.mode = .binary → l.down.drop count ≠ [LF]
          | _ => True
  | .arrives _ => True

def Calls (P : List Job → Job → Prop) (l : Loop V) : LoopEvent → Prop
  | .client e => ∀ job, calledJob l.session e = some job → P (enqueuedJobs l.session.log) job
  | .arrives _ => True

def Answered (before : List Job) (job : Job) : Prop :=
  job.mode ≠ .none → replyTo sim (before.map Job.request) job.request ≠ []

end

/- `calls` are the jobs that were put in the queue; the bytes are those of the jobs handed over. -/
structure Grown (calls : List Job) (s s' : Session) : Prop where
  terminator : s'.terminator = s.terminator
  log : ∃ more, s'.log = s.log ++ more ∧ enqueuedJobs more = calls ∧
    sentBytes more = (handedJobs more).flatMap fun job => frame s.terminator job.request

section
variable {calls later : List Job} {s t u : Session} {more : List Effect}

@[simp] theorem sentAppend (log more : List Effect) :
    sentBytes (log ++ more) = sentBytes log ++ sentBytes more := List.flatMap_append

theorem Grown.refl (s : Session) : Grown [] s s := ⟨rfl,[],by simp,rfl,rfl⟩

theorem Grown.trans (first : Grown calls s t) (last : Grown later t u) : Grown (calls ++ later) s u := by
  obtain ⟨sameFirst,more,grownFirst,calledFirst,sentFirst⟩ := first
  obtain ⟨sameLast,more',grownLast,calledLast,sentLast⟩ := last
  refine ⟨sameLast.trans sameFirst,more ++ more',by rw [grownLast,grownFirst,List.append_assoc],?_,?_⟩
  · rw [enqueuedAppend,calledFirst,calledLast]
  · rw [sameFirst] at sentLast
    simp [sentFirst,sentLast]

theorem Grown.quiet (terminator : t.terminator = s.terminator) (log : t.log = s.log ++ more)
    (silent : sentBytes more = [] ∧ handedJobs more = []) : Grown (enqueuedJobs more) s t :=
  ⟨terminator,more,log,rfl,by simp [silent]⟩

theorem Grown.same (terminator : t.terminator = s.terminator) (log : t.log = s.log) : Grown [] s t :=
  ⟨terminator,[],by simp [log],rfl,rfl⟩

theorem Grown.behind (last : Grown calls t u) (terminator : t.terminator = s.terminator)
    (log : t.log = s.log) : Grown calls s u := (Grown.same terminator log).trans last

end

section
variable (s : Session)

theorem grownPump : Grown [] s (pump s) := by
  rcases pumpCases s with same | ⟨job,rest,_,_,_,handed⟩
  · rw [same]
    exact .refl s
  · rw [handed]
    exact ⟨rfl,[_],rfl,rfl,by simp [sentBytes]⟩

theorem grownSettle {outcome : Job → Effect} (one : Outcome outcome) : Grown [] s (settle s outcome) := by
  unfold settle
  split
  · exact .refl s
  · rename_i job flying
    have silent : sentBytes [outcome job] = [] := by
      have settled := (one job).1
      cases effect : outcome job with
      | frame job bytes => simp [effect,Effect.settledJob] at settled
      | _ => rfl
    have released : Grown (enqueuedJobs [outcome job]) s (release s job (outcome job)) :=
      .quiet rfl rfl ⟨silent,by simp [(one job).2.1]⟩
    rw [enqueuedOne,(one job).2.2] at released
    exact released.trans (grownPump _)

theorem grownComplete (value : Value) : Grown [] s (completeInFlight s value) :=
  grownSettle s (resolvedOutcome value)

theorem grownFail (err : JsError) : Grown [] s (failInFlight s err) :=
  grownSettle s (rejectedOutcome (toScpiError err))

theorem grownDeliver : Grown [] s (tryDeliver s) := by
  unfold tryDeliver
  split
  · exact .refl s
  · split
    · exact .refl s
    · split
      · exact .refl s
      · exact (grownComplete _ _).behind rfl rfl
    · split
      · exact grownFail s _
      · exact .refl s
      · exact (grownComplete _ _).behind rfl rfl

theorem sentRejections (jobs : List Job) (err : JsError) : sentBytes (jobs.map (.rejected · err)) = [] := by
  induction jobs with
  | nil => rfl
  | cons job jobs ih => exact ih

theorem sentNotices (listeners : List Nat) (err : Option JsError) :
    sentBytes (listeners.map (.notified · err)) = [] := by
  induction listeners with
  | nil => rfl
  | cons listener listeners ih => exact ih

theorem grownOpen (opens : s.closed = false) (request mode timeoutMs) :
    Grown [⟨s.nextId,request,mode,timeoutMs⟩] s (enqueue s request mode timeoutMs) := by
  rw [enqueue,if_neg (by simp [opens])]
  have pushed : Grown [_] s (push s ⟨s.nextId,request,mode,timeoutMs⟩) :=
    ⟨rfl,[.enqueued _],rfl,rfl,rfl⟩
  exact pushed.trans (grownPump _)

theorem grownEnqueue (request mode timeoutMs) :
    Grown [] s (enqueue s request mode timeoutMs) ∨
      Grown [⟨s.nextId,request,mode,timeoutMs⟩] s (enqueue s request mode timeoutMs) := by
  by_cases opens : s.closed = false
  · exact .inr (grownOpen s opens request mode timeoutMs)
  · rw [enqueue,if_pos (by simpa using opens)]
    exact .inl ⟨rfl,[.refused request scpiClosedError],rfl,rfl,rfl⟩

theorem grownClose : Grown [] s (close s) := by
  by_cases opens : s.closed = false
  · have terminator : (close s).terminator = s.terminator := by simp [close,opens,rejectAll]
    have closed := Grown.quiet terminator ((ScpiQuiescence.closeLog opens).2.trans (List.append_assoc _ _ _))
    rw [sentAppend,sentRejections] at closed
    simpa using closed ⟨rfl,by simp⟩
  · rw [close,if_pos (by simpa using opens)]
    exact .refl s

theorem grownHandleClose (err) : Grown [] s (handleClose s err) := by
  by_cases opens : s.closed = false
  · have terminator : (handleClose s err).terminator = s.terminator := by
      simp only [handleClose,opens,Bool.false_eq_true,if_false,rejectAll]
      exact (grownFail { s with closed := true } _).terminator
    have closed := Grown.quiet terminator ((ScpiQuiescence.lossLog opens err).2.2.trans (List.append_assoc _ _ _))
    rw [sentAppend,sentRejections,sentNotices] at closed
    simpa using closed ⟨rfl,by simp⟩
  · rw [handleClose,if_pos (by simpa using opens)]
    exact .refl s

theorem grownStep (wire : Bytes) (e : BenchEvent) :
    ∃ calls, Grown calls s (ScpiSession.step s (sessionEvent wire e)) ∧
      (calls = [] ∨ ∃ job, calledJob s e = some job ∧ calls = [job]) := by
  have called {request mode timeoutMs} (same : calledJob s e = some ⟨s.nextId,request,mode,timeoutMs⟩) :
      ∃ calls, Grown calls s (enqueue s request mode timeoutMs) ∧
        (calls = [] ∨ ∃ job, calledJob s e = some job ∧ calls = [job]) := by
    rcases grownEnqueue s request mode timeoutMs with refused | pushed
    · exact ⟨_,refused,.inl rfl⟩
    · exact ⟨_,pushed,.inr ⟨_,same,rfl⟩⟩
  have other (grown : Grown [] s (ScpiSession.step s (sessionEvent wire e))) :
      ∃ calls, Grown calls s (ScpiSession.step s (sessionEvent wire e)) ∧
        (calls = [] ∨ ∃ job, calledJob s e = some job ∧ calls = [job]) := ⟨_,grown,.inl rfl⟩
  cases e with
  | write | writeBinary | query | queryBinary => exact called rfl
  | deliver count =>
    apply other
    simp only [sessionEvent,ScpiSession.step,handleData]
    split
    · split
      · exact .refl s
      · exact (grownDeliver _).behind rfl rfl
    · exact .refl s
  | writeResolved id =>
    apply other
    simp only [sessionEvent,ScpiSession.step,resumePump]
    split
    · exact .refl s
    · split
      · exact (grownComplete _ _).behind rfl rfl
      · have armed (s : Session) (job : Job) : Grown [] s (armDeadline s job) := by
          unfold armDeadline
          split <;> exact .same rfl rfl
        exact ((armed _ _).trans (grownDeliver _)).behind rfl rfl
  | deadline id =>
    apply other
    simp only [sessionEvent,ScpiSession.step]
    split
    · split
      · split
        · exact (grownFail _ _).behind rfl rfl
        · exact .same rfl rfl
      · exact .same rfl rfl
    · exact .refl s
  | close => exact other (grownClose s)
  | transportClosed message =>
    apply other
    simp only [sessionEvent,ScpiSession.step]
    split
    · exact grownHandleClose s _
    · exact .refl s

end

section
variable {V : Type} {sim : Simulator V}

theorem writtenWrites (parts : List Bytes) : writtenBytes (parts.map .wrote) = parts.flatten := by
  induction parts with
  | nil => rfl
  | cons part parts ih => exact congrArg (part ++ ·) ih

@[simp] theorem writtenAppend (trace more : List Action) :
    writtenBytes (trace ++ more) = writtenBytes trace ++ writtenBytes more := List.flatMap_append

theorem frameBody (r : Request) : frame [LF] r = bodyOf r ++ [LF] := by
  cases r <;> simp [bodyOf,frame,sendCommand,sendBinary]

theorem firstFrame {l : Line} {rest more : Bytes} {requests : List Request}
    (framed : ∀ r ∈ requests, LF ∉ bodyOf r)
    (stream : l.bytes ++ rest ++ more = requests.flatMap (frame [LF])) :
    ∃ r later, requests = r :: later ∧ l.body = bodyOf r ∧ rest ++ more = later.flatMap (frame [LF]) := by
  cases requests with
  | nil => simp [Line.bytes] at stream
  | cons r later =>
    simp only [Line.bytes,List.flatMap_cons,frameBody,List.append_assoc,List.singleton_append] at stream
    obtain ⟨body,others⟩ := cutAt l.noLf (framed r List.mem_cons_self) stream
    exact ⟨r,later,rfl,body,by simpa [frameBody] using others⟩

variable (sim) in
structure Served (state : SimulatorReplies.SessionState V) (now : List Request) (s s' : Socket V) : Prop where
  session : s'.session = (serveAll sim state now).1
  written : ∃ more, s'.trace = s.trace ++ more ∧ writtenBytes more = (serveAll sim state now).2
  pending : s'.pending = []
  split : LF ∉ s'.buffer

theorem oneRound (atOnce : AtOnce sim) (fuel : Nat) {s : Socket V} {r : Request} {l : Line} {rest : Bytes}
    (same : s.buffer = l.bytes ++ rest) (body : l.body = bodyOf r) :
    ∃ t, drainFrom sim (fuel + 1) s = drainFrom sim fuel t ∧ t.buffer = rest ∧ t.pending = s.pending ∧
      t.session = (serve sim s.session r).1 ∧
      ∃ more, t.trace = s.trace ++ more ∧ writtenBytes more = (serve sim s.session r).2 := by
  have line : SimulatorFraming.toText (trimCr l.body) = lineOf (bodyOf r) := by rw [body]; rfl
  rw [drainFrom,same,takeLineWhole,line]
  simp only [serve,answer,handleLine]
  generalize SimulatorFraming.parseCommand sim.toUpperCase (lineOf (bodyOf r)) = command
  by_cases blank : command.header = []
  · simp only [if_pos blank]
    exact ⟨_,rfl,rfl,rfl,rfl,[],by simp,rfl⟩
  · simp only [if_neg blank]
    obtain ⟨outcome,returns⟩ := atOnce command s.session
    generalize SimulatorReplies.dispatch sim command s.session = dispatched at returns ⊢
    obtain ⟨session,started⟩ := dispatched
    obtain rfl := returns
    refine ⟨_,rfl,rfl,rfl,rfl,?_⟩
    simp only [finish]
    generalize SimulatorReplies.handled command outcome session = result
    refine ⟨.began command (.returns outcome) :: (SimulatorReplies.writes sim result.2).map .wrote,?_,?_⟩
    · rw [List.append_assoc]
      rfl
    · exact writtenWrites _

theorem drainServes (atOnce : AtOnce sim) {fuel : Nat} {s : Socket V} {requests : List Request} {more : Bytes}
    (framed : ∀ r ∈ requests, LF ∉ bodyOf r) (fits : s.buffer.length ≤ fuel) (idle : s.pending = [])
    (stream : s.buffer ++ more = requests.flatMap (frame [LF])) :
    ∃ now later, requests = now ++ later ∧ Served sim s.session now s (drainFrom sim fuel s) ∧
      (drainFrom sim fuel s).buffer ++ more = later.flatMap (frame [LF]) := by
  induction fuel generalizing s requests with
  | zero =>
    have none_ : s.buffer = [] := List.length_eq_zero_iff.mp (Nat.le_zero.mp fits)
    refine ⟨[],requests,rfl,⟨rfl,⟨[],by simp [drainFrom],rfl⟩,idle,?_⟩,stream⟩
    simp [drainFrom,none_]
  | succ fuel ih =>
    by_cases some_ : LF ∈ s.buffer
    · obtain ⟨l,rest,same⟩ := firstLine some_
      have shorter := SimulatorReplies.shorter same fits
      rw [same] at stream
      obtain ⟨r,requests,rfl,body,behind⟩ := firstFrame framed stream
      obtain ⟨t,next,buffer,pending,session,trace⟩ := oneRound atOnce fuel same body
      rw [next]
      obtain ⟨now,later,rfl,served,left⟩ := ih (s := t)
        (fun r member => framed r (List.mem_cons_of_mem _ member)) (buffer ▸ shorter) (pending.trans idle)
        (buffer ▸ behind)
      refine ⟨r :: now,later,rfl,?_,left⟩
      obtain ⟨more,grown,written⟩ := trace
      obtain ⟨last,⟨more',grown',written'⟩,pending',split⟩ := served
      rw [session] at last written'
      refine ⟨last,⟨more ++ more',by rw [grown',grown,List.append_assoc],?_⟩,pending',split⟩
      rw [writtenAppend,written,written']
      rfl
    · have stops : drainFrom sim (fuel + 1) s = s := by rw [drainFrom,takeLineNone some_]
      rw [stops]
      exact ⟨[],requests,rfl,⟨rfl,⟨[],by simp,rfl⟩,idle,some_⟩,stream⟩

end

theorem readsWell {mode : ReadMode} {bytes : Bytes} {value : Value} (reads : ReadsAs mode bytes value) :
    (∃ l : Line, bytes = l.bytes) ∨ ∃ b : Block, bytes = b.bytes ++ [LF] := by
  cases reads with
  | line l => exact .inl ⟨l,rfl⟩
  | block b => exact .inr ⟨b,rfl⟩

theorem untilSelf {before later : List Job} {job : Job} (once : (before ++ job :: later).Nodup) :
    (before ++ job :: later).takeWhile (· ≠ job) = before := by
  have apart : ∀ other ∈ before, (decide (other ≠ job)) = true := by
    intro other member
    have differs := (List.nodup_append.mp once).2.2 other member job List.mem_cons_self
    simpa using differs
  rw [List.takeWhile_append_of_pos apart]
  simp

def Every (P : List Job → Job → Prop) (jobs : List Job) : Prop :=
  ∀ before job later, jobs = before ++ job :: later → P before job

theorem everySnoc {P : List Job → Job → Prop} {jobs : List Job} {job : Job} (all : Every P jobs)
    (new : P jobs job) : Every P (jobs ++ [job]) := by
  intro before other later place
  rcases List.eq_nil_or_concat later with rfl | ⟨later,last,rfl⟩
  · obtain ⟨rfl,same⟩ := List.append_inj' place rfl
    exact (List.cons.inj same).1 ▸ new
  · rw [List.concat_eq_append,← List.cons_append,← List.append_assoc] at place
    exact all before other later (List.append_inj' place rfl).1

section
variable {V : Type} (sim : Simulator V) (jobs : List Job)

open Classical in
noncomputable def replyIn (job : Job) : Option Reply :=
  if placed : job ∈ jobs ∧ ∃ value,
      ReadsAs job.mode (replyTo sim ((jobs.takeWhile (· ≠ job)).map Job.request) job.request) value
  then some ⟨_,readsWell placed.2.choose_spec⟩ else none

variable {sim jobs}

theorem fitsIn (job : Job) : Fits (replyIn sim jobs) job := by
  intro r answered
  unfold replyIn at answered
  split at answered
  · rename_i placed
    obtain rfl := Option.some.inj answered
    exact placed.2
  · contradiction

theorem replyIs {before later : List Job} {job : Job} {r : Reply} (once : jobs.Nodup)
    (place : jobs = before ++ job :: later) (answered : replyIn sim jobs job = some r) :
    r.bytes = replyTo sim (before.map Job.request) job.request := by
  subst place
  unfold replyIn at answered
  split at answered
  · obtain rfl := Option.some.inj answered
    simp only [untilSelf once]
  · contradiction

theorem silentIn {before later : List Job} {job : Job} (once : jobs.Nodup)
    (place : jobs = before ++ job :: later)
    (silent : replyTo sim (before.map Job.request) job.request = []) : replyIn sim jobs job = none := by
  cases answered : replyIn sim jobs job with
  | none => rfl
  | some r =>
    obtain ⟨value,reads⟩ := fitsIn job r answered
    exact absurd ((replyIs once place answered).trans silent) (readsAsLong reads).1

theorem replyAt {before later : List Job} {job : Job} (once : jobs.Nodup) (proper : Every (Proper sim) jobs)
    (place : jobs = before ++ job :: later) :
    replyBytes (replyIn sim jobs) job = replyTo sim (before.map Job.request) job.request := by
  cases answered : replyIn sim jobs job with
  | some r => rw [replySome answered,replyIs once place answered]
  | none =>
    rw [replyNone answered]
    rcases (proper before job later place).2 with silent | ⟨value,reads⟩
    · exact silent.symm
    · subst place
      unfold replyIn at answered
      rw [dif_pos ⟨by simp,value,by rwa [untilSelf once]⟩] at answered
      contradiction

theorem repliesServed (once : jobs.Nodup) (proper : Every (Proper sim) jobs) {done now later : List Job}
    (place : jobs = done ++ now ++ later) :
    (serveAll sim (after sim (done.map Job.request)) (now.map Job.request)).2 =
      now.flatMap (replyBytes (replyIn sim jobs)) := by
  induction now generalizing done with
  | nil => rfl
  | cons job now ih =>
    have cons : jobs = done ++ job :: (now ++ later) := by simpa using place
    have snoc : jobs = (done ++ [job]) ++ now ++ later := by simpa using place
    have here := replyAt once proper cons
    have next := ih snoc
    rw [List.map_append,afterAppend] at next
    rw [List.map_cons,serveAll,List.flatMap_cons,here]
    exact congrArg (_ ++ ·) next

end

section
variable {s : Session} {job : Job}

theorem flyingHanded (tracked : Tracked s) (flying : s.inFlight = some job) : job ∈ handedJobs s.log := by
  have opens : s.closed = false := by
    by_contra closed
    simp [(tracked.idle (by simpa using closed)).1] at flying
  have entered := trackedFlying tracked flying
  rw [← tracked.complete opens] at entered
  refine (List.mem_append.mp entered).resolve_right fun queued => ?_
  have exclusive := trackedExclusive tracked
  rw [flying] at exclusive
  exact (List.nodup_append.mp exclusive).2.2 job (by simp) job queued rfl

theorem flyingUnsettled (tracked : Tracked s) (flying : s.inFlight = some job) : job ∉ settledJobs s.log := by
  intro settled
  have exclusive := (List.nodup_append.mp (trackedExclusive tracked)).1
  rw [flying] at exclusive
  exact (List.nodup_append.mp exclusive).2.2 job settled job (by simp) rfl

theorem flyingLast (tracked : Tracked s) (flying : s.inFlight = some job) {before : List Job} {last : Job}
    (handed : handedJobs s.log = before ++ [last]) : last = job := by
  obtain ⟨early,late,split,first,behind⟩ := List.filterMap_eq_append_iff.mp handed
  obtain ⟨quiet,e,more,rfl,none_,one,-⟩ := List.filterMap_eq_cons_iff.mp behind
  by_contra other
  have inside : job ∈ handedJobs early := by
    have member := flyingHanded tracked flying
    rw [handed] at member
    rcases List.mem_append.mp member with old | new
    · exact List.mem_filterMap.mpr (List.mem_filterMap.mp (first.symm ▸ old))
    · exact absurd (List.mem_singleton.mp new).symm other
  cases e with
  | frame last bytes =>
    have settled := tracked.serial (early ++ quiet) last bytes (by simp [split]) job
      (by simp [inside])
    apply flyingUnsettled tracked flying
    rw [split]
    simp only [settledAppend] at settled ⊢
    simpa [or_assoc] using Or.inl (List.mem_append.mp settled)
  | _ => simp [Effect.handedJob] at one

end

section
variable {V : Type} {sim : Simulator V} {jobs : List Job}

structure Sane (P : List Job → Job → Prop) (l : Loop V) : Prop where
  tracked : Tracked l.session
  every : Every P (enqueuedJobs l.session.log)

variable {P : List Job → Job → Prop}

theorem connectSane (timeout : Int) : Sane P (connect sim timeout) :=
  ⟨createTracked _ _,fun before job later place => by simp [connect,create] at place⟩

theorem saneStep (l : Loop V) (e : LoopEvent) (sane : Sane P l) (calls : Calls P l e) :
    Sane P (loopStep sim l e) := by
  cases e with
  | arrives count => exact ⟨sane.tracked,sane.every⟩
  | client e =>
    refine ⟨stepTracked _ _ sane.tracked,?_⟩
    obtain ⟨jobs,⟨-,more,log,called,-⟩,own⟩ := grownStep l.session l.down e
    simp only [loopStep,log,enqueuedAppend,called]
    rcases own with rfl | ⟨job,call,rfl⟩
    · simpa using sane.every
    · exact everySnoc sane.every (calls job call)

def within (down : Bytes) : BenchEvent → BenchEvent
  | .deliver count => .deliver (min count down.length)
  | e => e

theorem withinEvent (down more : Bytes) (e : BenchEvent) :
    sessionEvent (down ++ more) (within down e) = sessionEvent down e := by
  cases e with
  | deliver count =>
    simp only [within,sessionEvent,Event.data.injEq]
    rw [List.take_append_of_le_length (Nat.min_le_right _ _)]
    rcases Nat.le_total count down.length with less | more
    · rw [Nat.min_eq_left less]
    · rw [Nat.min_eq_right more,List.take_length,List.take_of_length_le more]
  | _ => rfl

theorem withinLeft (down more : Bytes) (e : BenchEvent) :
    leftOnWire (down ++ more) (within down e) = leftOnWire down e ++ more := by
  cases e with
  | deliver count =>
    simp only [within,leftOnWire]
    rw [List.drop_append_of_le_length (Nat.min_le_right _ _)]
    rcases Nat.le_total count down.length with less | more'
    · rw [Nat.min_eq_left less]
    · rw [Nat.min_eq_right more',List.drop_length,List.drop_eq_nil_of_le more']
  | _ => rfl

variable (sim jobs) in
/- `jobs` are the commands of the whole run. Of those handed over the simulator has served `done`; the
others are on their way to it, and their replies are still to come behind the bytes on their way back. -/
structure Mirrors (l : Loop V) : Prop where
  terminator : l.session.terminator = [LF]
  known : enqueuedJobs l.session.log <+: jobs
  idle : l.socket.pending = []
  split : LF ∉ l.socket.buffer
  stream : ∃ done waiting, handedJobs l.session.log = done ++ waiting ∧
    l.socket.session = after sim (done.map Job.request) ∧
    l.socket.buffer ++ l.up = (waiting.map Job.request).flatMap (frame [LF]) ∧
    Aligned (replyIn sim jobs) ⟨l.session,l.down ++ waiting.flatMap (replyBytes (replyIn sim jobs))⟩

theorem connectMirrors (timeout : Int) : Mirrors sim jobs (connect sim timeout) where
  terminator := rfl
  known := List.nil_prefix
  idle := rfl
  split := List.not_mem_nil
  stream := ⟨[],[],rfl,rfl,rfl,connectAligned _ _⟩

theorem stillToCome {l : Loop V} {job : Job} {done waiting : List Job} {replies : Job → Bytes}
    (tracked : Tracked l.session) (flying : l.session.inFlight = some job)
    (handed : handedJobs l.session.log = done ++ waiting) (some_ : waiting ≠ [])
    (stream : l.session.buffer ++ (l.down ++ waiting.flatMap replies) = replies job) :
    l.down = [] ∧ waiting.flatMap replies = replies job := by
  obtain ⟨first,last,rfl⟩ := List.eq_nil_or_concat waiting |>.resolve_left some_
  rw [List.concat_eq_append] at handed stream ⊢
  obtain rfl := flyingLast tracked flying (handed.trans (List.append_assoc _ _ _).symm)
  simp only [List.flatMap_append,List.flatMap_cons,List.flatMap_nil,List.append_nil,← List.append_assoc] at stream
  have nothing := List.append_left_eq_self.mp stream
  simp only [List.append_eq_nil_iff] at nothing
  exact ⟨nothing.1.2,by simp [nothing.2]⟩

theorem placedIn {known before later : List Job} {job : Job} (early : known <+: jobs)
    (place : known = before ++ job :: later) : ∃ rest, jobs = before ++ job :: rest := by
  obtain ⟨rest,rfl⟩ := early
  exact ⟨later ++ rest,by rw [place,List.append_assoc,List.cons_append]⟩

theorem undisturbedWithin {l : Loop V} {e : BenchEvent} (once : jobs.Nodup)
    (known : enqueuedJobs l.session.log <+: jobs) (undisturbed : Undisturbed sim l (.client e))
    {done waiting : List Job} (handed : handedJobs l.session.log = done ++ waiting)
    (aligned : Aligned (replyIn sim jobs)
      ⟨l.session,l.down ++ waiting.flatMap (replyBytes (replyIn sim jobs))⟩) :
    ScpiReplyAttribution.Undisturbed (replyIn sim jobs)
      ⟨l.session,l.down ++ waiting.flatMap (replyBytes (replyIn sim jobs))⟩ (within l.down e) := by
  refine ⟨fun job _ => fitsIn job,fun job flying => ?_⟩
  obtain ⟨before,later,place⟩ := List.append_of_mem (trackedFlying aligned.tracked flying)
  have calm := undisturbed.2 before job later place flying
  cases e with
  | deadline id =>
    intro same
    obtain ⟨rest,place⟩ := placedIn known place
    exact silentIn once place (calm same)
  | deliver count =>
    intro binary
    have left := withinLeft l.down (waiting.flatMap (replyBytes (replyIn sim jobs))) (.deliver count)
    simp only [within,leftOnWire] at left
    rw [left]
    by_cases none_ : waiting = []
    · simpa [none_] using calm binary
    · obtain ⟨nothing,whole⟩ := stillToCome aligned.tracked flying handed none_ (aligned.stream job flying).1
      rw [nothing,whole,List.drop_nil,List.nil_append]
      cases answered : replyIn sim jobs job with
      | none => simp [replyNone answered]
      | some r =>
        obtain ⟨value,reads⟩ := fitsIn job r answered
        exact replySome answered ▸ (readsAsLong reads).2 binary
  | _ => trivial

theorem clientMirrors {l : Loop V} {e : BenchEvent} (once : jobs.Nodup) (mirrors : Mirrors sim jobs l)
    (undisturbed : Undisturbed sim l (.client e))
    (known : enqueuedJobs (loopStep sim l (.client e)).session.log <+: jobs) :
    Mirrors sim jobs (loopStep sim l (.client e)) := by
  obtain ⟨done,waiting,handed,session,stream,aligned⟩ := mirrors.stream
  obtain ⟨calls,⟨terminator,more,log,-,sent⟩,-⟩ := grownStep l.session l.down e
  have bench := benchStepAligned _ _ aligned (undisturbedWithin once mirrors.known undisturbed handed aligned)
  simp only [benchStep,withinEvent,withinLeft,answers,log,handedAppend,List.drop_left] at bench
  refine ⟨terminator.trans mirrors.terminator,known,mirrors.idle,mirrors.split,done,waiting ++ handedJobs more,?_,
    session,?_,?_⟩
  · simp [loopStep,log,handed]
  · simp only [loopStep,log,List.drop_left,sent,mirrors.terminator]
    rw [← List.append_assoc,stream,List.map_append,List.flatMap_append]
    simp [List.flatMap_map]
  · simpa [loopStep] using bench

theorem arrivesMirrors {l : Loop V} {count : Nat} (atOnce : AtOnce sim) (once : jobs.Nodup)
    (proper : Every (Proper sim) jobs) (mirrors : Mirrors sim jobs l) :
    Mirrors sim jobs (loopStep sim l (.arrives count)) := by
  obtain ⟨done,waiting,handed,session,stream,aligned⟩ := mirrors.stream
  have within_ : ∀ r ∈ waiting.map Job.request, LF ∉ bodyOf r := by
    intro r member
    obtain ⟨job,waits,rfl⟩ := List.mem_map.mp member
    have entered : job ∈ enqueuedJobs l.session.log :=
      ((List.prefix_append _ _).trans aligned.tracked.ordered).subset (by simp [handed,waits])
    obtain ⟨before,later,place⟩ := List.append_of_mem (mirrors.known.subset entered)
    exact (proper before job later place).1
  have onWay : l.socket.buffer ++ l.up.take count ++ l.up.drop count = l.socket.buffer ++ l.up := by simp
  obtain ⟨now,later,place,⟨served,⟨more,trace,written⟩,idle,split⟩,left⟩ :=
    drainServes atOnce (s := { l.socket with buffer := l.socket.buffer ++ l.up.take count }) within_
      (Nat.le_refl _) mirrors.idle (onWay.trans stream)
  obtain ⟨first,last,rfl,rfl,rfl⟩ := List.map_eq_append_iff.mp place
  simp only [session] at written
  obtain ⟨rest,whole⟩ := ((List.prefix_append _ _).trans aligned.tracked.ordered).trans mirrors.known
  have replies : writtenBytes more = first.flatMap (replyBytes (replyIn sim jobs)) := by
    rw [written]
    have place : jobs = done ++ first ++ (last ++ rest) := by
      rw [← whole,handed]
      simp
    exact repliesServed once proper place
  have state : (SimulatorReplies.step sim l.socket (.data (l.up.take count))).session =
      after sim ((done ++ first).map Job.request) := by
    rw [List.map_append,afterAppend,← session]
    exact served
  refine ⟨mirrors.terminator,mirrors.known,idle,split,done ++ first,last,?_,state,left,?_⟩
  · rw [List.append_assoc]
    exact handed
  · have grown : (SimulatorReplies.step sim l.socket (.data (l.up.take count))).trace = l.socket.trace ++ more :=
      trace
    simpa [loopStep,grown,replies] using aligned

theorem mirrorsStep (atOnce : AtOnce sim) (once : jobs.Nodup) (proper : Every (Proper sim) jobs) (l : Loop V)
    (e : LoopEvent) (mirrors : Mirrors sim jobs l)
    (admitted : Undisturbed sim l e ∧ enqueuedJobs (loopStep sim l e).session.log <+: jobs) :
    Mirrors sim jobs (loopStep sim l e) := by
  cases e with
  | client e => exact clientMirrors once mirrors admitted.1 admitted.2
  | arrives count => exact arrivesMirrors atOnce once proper mirrors

end

section
variable {V : Type} {sim : Simulator V} {jobs : List Job}

theorem knownStep (l : Loop V) (e : LoopEvent) :
    enqueuedJobs l.session.log <+: enqueuedJobs (loopStep sim l e).session.log := by
  cases e with
  | client e =>
    obtain ⟨calls,⟨-,more,log,-⟩,-⟩ := grownStep l.session l.down e
    simp only [loopStep,log,enqueuedAppend]
    exact List.prefix_append _ _
  | arrives count => exact List.prefix_refl _

theorem knownRun (l : Loop V) (events : List LoopEvent) :
    enqueuedJobs l.session.log <+: enqueuedJobs (run (loopStep sim) l events).session.log := by
  induction events generalizing l with
  | nil => exact List.prefix_refl _
  | cons e rest ih => exact (knownStep l e).trans (ih _)

theorem knownAlong (l : Loop V) (events : List LoopEvent)
    (known : enqueuedJobs (run (loopStep sim) l events).session.log <+: jobs) :
    Along (loopStep sim) (fun l e => enqueuedJobs (loopStep sim l e).session.log <+: jobs) l events := by
  induction events generalizing l with
  | nil => trivial
  | cons e rest ih => exact ⟨(knownRun _ rest).trans known,ih _ known⟩

theorem properCalls (l : Loop V) (e : LoopEvent) (undisturbed : Undisturbed sim l e) :
    Calls (Proper sim) l e := by
  cases e with
  | client e => exact undisturbed.1
  | arrives count => trivial

theorem runSane (timeout : Int) {events : List LoopEvent}
    (calm : Along (loopStep sim) (Undisturbed sim) (connect sim timeout) events) :
    Sane (Proper sim) (run (loopStep sim) (connect sim timeout) events) :=
  runKeepsAlong saneStep (connectSane timeout) (alongMono properCalls calm)

theorem Sane.once {P : List Job → Job → Prop} {l : Loop V} (sane : Sane P l) :
    (enqueuedJobs l.session.log).Nodup := .of_map Job.id sane.tracked.distinct

theorem runMirrors (atOnce : AtOnce sim) (timeout : Int) {events : List LoopEvent}
    (calm : Along (loopStep sim) (Undisturbed sim) (connect sim timeout) events) :
    Mirrors sim (enqueuedJobs (run (loopStep sim) (connect sim timeout) events).session.log)
      (run (loopStep sim) (connect sim timeout) events) := by
  have sane := runSane timeout calm
  exact runKeepsAlong (mirrorsStep atOnce sane.once sane.every) (connectMirrors timeout)
    (alongBoth calm (knownAlong _ events (List.prefix_refl _)))

theorem mirrorsAnswer {l : Loop V} (mirrors : Mirrors sim (enqueuedJobs l.session.log) l) (sane : Sane (Proper sim) l) :
    AnsweredInTurn sim l.session.log := by
  intro before job later place query value resolved
  obtain ⟨done,waiting,-,-,-,aligned⟩ := mirrors.stream
  obtain ⟨r,answered,reads⟩ := aligned.attributed.1 job value resolved query
  exact replyIs sane.once place answered ▸ reads

/-- The answer to a query that resolves is the one of the simulator when it runs the commands of all calls
one after the other, in the order of the calls and each of them once, however the bytes are cut and delayed
on both ways. -/
theorem answeredInTurn (sim : Simulator V) (atOnce : AtOnce sim) (timeout : Int) (events : List LoopEvent)
    (calm : Along (loopStep sim) (Undisturbed sim) (connect sim timeout) events) :
    Throughout (loopStep sim) (fun l => AnsweredInTurn sim l.session.log) (connect sim timeout) events := by
  intro seen early
  have calm := alongPrefix calm early
  exact mirrorsAnswer (runMirrors atOnce timeout calm) (runSane timeout calm)

end

def level : Simulator String :=
  ⟨⟨fun normalized => match String.ofList normalized with
      | "V" => some fun command state =>
          ({ state with values := String.ofList (command.args.headD []) },.returns (.ok .none))
      | "V?" => some fun _ state => (state,.returns (.ok (.line state.values)))
      | _ => none,
    [],fun _ => none,⟨[],"0"⟩⟩,"SIM","",[LF],id⟩

theorem levelAtOnce : AtOnce level := by
  apply atOnceOwn
  · intro normalized handler found command state
    simp only [level] at found
    split at found
    · obtain rfl := Option.some.inj found
      exact ⟨_,rfl⟩
    · obtain rfl := Option.some.inj found
      exact ⟨_,rfl⟩
    · contradiction
  · exact fun _ => nofun

def levelEvents : List LoopEvent :=
  [.client (.write "V 5"),.client (.query "V?" none),.arrives 2,.client (.writeResolved 0),.arrives 7,
    .client (.deliver 1),.client (.writeResolved 1),.client (.deliver 1)]

theorem levelSet : Proper level [] ⟨0,.command "V 5",.none,5000⟩ :=
  ⟨by decide,.inl (by decide)⟩

theorem levelRead : Proper level [⟨0,.command "V 5",.none,5000⟩] ⟨1,.command "V?",.line,5000⟩ := by
  have reply : replyTo level [.command "V 5"] (.command "V?") = Line.bytes ⟨[0x35],by decide⟩ := by decide
  have reads : ReadsAs .line (Line.bytes ⟨[0x35],by decide⟩) _ := .line _
  rw [← reply] at reads
  exact ⟨by decide,.inr ⟨_,reads⟩⟩

theorem levelCalm : Along (loopStep level) (Undisturbed level) (connect level) levelEvents := by
  have quiet {l : Loop String} {id : Nat} : Undisturbed level l (.client (.writeResolved id)) :=
    ⟨nofun,fun _ _ _ _ _ => trivial⟩
  have part {l : Loop String} {count : Nat} (line : ∀ job, l.session.inFlight = some job → job.mode ≠ .binary) :
      Undisturbed level l (.client (.deliver count)) :=
    ⟨nofun,fun _ job _ _ flying binary => absurd binary (line job flying)⟩
  refine ⟨⟨?_,fun _ _ _ _ _ => trivial⟩,⟨?_,fun _ _ _ _ _ => trivial⟩,trivial,quiet,trivial,part ?_,quiet,part ?_,
    trivial⟩
  · rintro job ⟨⟩
    exact levelSet
  · rintro job ⟨⟩
    exact levelRead
  · decide
  · decide

theorem answeredInTurnLevel :
    Throughout (loopStep level) (fun l => AnsweredInTurn level l.session.log) (connect level) levelEvents :=
  answeredInTurn level levelAtOnce 5000 levelEvents levelCalm

structure Lively (s : Session) : Prop where
  busy : s.closed = false → s.inFlight = none → s.queue = []
  awaited : ∀ job, s.inFlight = some job → job.mode = .none → job ∈ s.writing
  kept : s.closed = false → ∀ job err, .rejected job err ∉ s.log

section
variable {s : Session}

theorem Lively.shut (closed : s.closed = true) (free : s.inFlight = none) : Lively s :=
  ⟨by simp [closed],by simp [free],by simp [closed]⟩

theorem livelyPump (awaited : ∀ job, s.inFlight = some job → job.mode = .none → job ∈ s.writing)
    (kept : s.closed = false → ∀ job err, .rejected job err ∉ s.log) : Lively (pump s) := by
  unfold pump
  split
  · rename_i stops
    exact ⟨fun opens free => by simp [opens,free] at stops,awaited,kept⟩
  · split
    · rename_i none_
      exact ⟨fun _ _ => none_,awaited,kept⟩
    · rename_i next rest queued
      refine ⟨nofun,?_,fun opens job err => by simpa using kept opens job err⟩
      intro job flying _
      obtain rfl := Option.some.inj flying
      simp

theorem livelyResolve (busy : s.closed = false → s.inFlight = none → s.queue = [])
    (kept : s.closed = false → ∀ job err, .rejected job err ∉ s.log) (value : Value) :
    Lively (completeInFlight s value) := by
  unfold completeInFlight settle
  split
  · rename_i free
    exact ⟨busy,by simp [free],kept⟩
  · apply livelyPump
    · simp [release,clearDeadline]
    · simpa [release,clearDeadline] using kept

theorem protocolError {buf : Bytes} {err : JsError} (failed : consumeBinaryBlock buf = .error err) :
    err.name = .scpiProtocolError := by
  unfold consumeBinaryBlock at failed
  grind [scpiProtocolError]

theorem rejectedLogged {job : Job} (flying : s.inFlight = some job) (err : JsError) :
    .rejected job (toScpiError err) ∈ (failInFlight s err).log := by
  unfold failInFlight settle
  rw [flying]
  obtain ⟨-,more,log,-⟩ := grownPump (release s job (.rejected job (toScpiError err)))
  change _ ∈ (pump (release s job (.rejected job (toScpiError err)))).log
  rw [log]
  simp [release]

theorem livelyDeliver (lively : Lively s)
    (formed : ∀ job err, .rejected job err ∈ (tryDeliver s).log → err.name ≠ .scpiProtocolError) :
    Lively (tryDeliver s) := by
  revert formed
  unfold tryDeliver
  split
  · exact fun _ => lively
  · rename_i job flying
    split
    · exact fun _ => lively
    · split
      · exact fun _ => lively
      · exact fun _ => livelyResolve (by exact lively.busy) (by exact lively.kept) _
    · split
      · rename_i err failed
        intro formed
        refine absurd ?_ (formed _ _ (rejectedLogged flying err))
        simp [toScpiError,protocolError failed]
      · exact fun _ => lively
      · exact fun _ => livelyResolve (by exact lively.busy) (by exact lively.kept) _

theorem livelyEnqueue (lively : Lively s) (request mode timeoutMs) :
    Lively (enqueue s request mode timeoutMs) := by
  unfold enqueue
  split
  · rename_i closed
    exact ⟨lively.busy,lively.awaited,by simp [closed]⟩
  · exact livelyPump lively.awaited fun opens job err => by simpa [push] using lively.kept opens job err

theorem livelyStep {wire : Bytes} {e : BenchEvent} (lively : Lively s)
    (tracked : Tracked (ScpiSession.step s (sessionEvent wire e)))
    (formed : ∀ job err, .rejected job err ∈ (ScpiSession.step s (sessionEvent wire e)).log →
      err.name ≠ .scpiProtocolError)
    (due : ∀ id, e = .deadline id → id ∈ s.timers → ∀ job, s.inFlight = some job → job.id ≠ id) :
    Lively (ScpiSession.step s (sessionEvent wire e)) := by
  cases e with
  | write | writeBinary | query | queryBinary => exact livelyEnqueue lively _ _ _
  | deliver count =>
    revert formed
    simp only [sessionEvent,ScpiSession.step,handleData]
    split
    · split
      · exact fun _ => lively
      · exact fun formed => livelyDeliver ⟨lively.busy,lively.awaited,lively.kept⟩ formed
    · exact fun _ => lively
  | writeResolved id =>
    revert formed
    simp only [sessionEvent,ScpiSession.step,resumePump]
    split
    · exact fun _ => lively
    · rename_i writer _
      split
      · exact fun _ => livelyResolve (by exact lively.busy) (by exact lively.kept) _
      · rename_i mode
        refine fun formed => livelyDeliver ?_ formed
        have awaited : ∀ job, s.inFlight = some job → job.mode = .none → job ∈ s.writing.erase writer := by
          intro job flying silent
          exact (List.mem_erase_of_ne fun same => mode (by rw [← same,silent])).mpr (lively.awaited job flying silent)
        unfold armDeadline
        split <;> exact ⟨lively.busy,awaited,lively.kept⟩
  | deadline id =>
    simp only [sessionEvent,ScpiSession.step]
    split
    · rename_i armed
      split
      · rename_i job flying
        rw [if_neg (due id rfl armed job flying)]
        exact ⟨lively.busy,lively.awaited,lively.kept⟩
      · exact ⟨lively.busy,lively.awaited,lively.kept⟩
    · exact lively
  | close =>
    have closed : (close s).closed = true := by
      unfold close
      split
      · assumption
      · rfl
    exact .shut closed (tracked.idle closed).1
  | transportClosed message =>
    revert tracked
    simp only [sessionEvent,ScpiSession.step]
    split
    · intro tracked
      have closed : (handleClose s (message.map (⟨.scpiTransportError,·⟩))).closed = true := by
        by_cases opens : s.closed = false
        · exact (ScpiQuiescence.lossLog opens _).1.closed
        · rw [handleClose,if_pos (by simpa using opens)]
          simpa using opens
      exact .shut closed (tracked.idle closed).1
    · exact fun _ => lively

end

section
variable {V : Type} {sim : Simulator V} {jobs : List Job}

theorem notDue {l : Loop V} {e : BenchEvent} (mirrors : Mirrors sim jobs l)
    (answered : Every (Answered sim) jobs) (undisturbed : Undisturbed sim l (.client e)) :
    ∀ id, e = .deadline id → id ∈ l.session.timers → ∀ job, l.session.inFlight = some job → job.id ≠ id := by
  rintro id rfl timer job flying same
  obtain ⟨done,waiting,-,-,-,aligned⟩ := mirrors.stream
  obtain ⟨before,later,place⟩ := List.append_of_mem (trackedFlying aligned.tracked flying)
  have silent := undisturbed.2 before job later place flying same
  obtain ⟨rest,placed⟩ := placedIn mirrors.known place
  obtain ⟨other,entered,id_,query⟩ := aligned.armed id timer
  obtain rfl : other = job := List.inj_on_of_nodup_map aligned.tracked.distinct entered
    (trackedFlying aligned.tracked flying) (id_.trans same.symm)
  exact answered before other rest placed query silent

theorem mirrorsLively (atOnce : AtOnce sim) (once : jobs.Nodup) (proper : Every (Proper sim) jobs)
    (answered : Every (Answered sim) jobs) (l : Loop V) (e : LoopEvent)
    (both : Mirrors sim jobs l ∧ Lively l.session)
    (admitted : Undisturbed sim l e ∧ enqueuedJobs (loopStep sim l e).session.log <+: jobs) :
    Mirrors sim jobs (loopStep sim l e) ∧ Lively (loopStep sim l e).session := by
  obtain ⟨mirrors,lively⟩ := both
  have next := mirrorsStep atOnce once proper l e mirrors admitted
  refine ⟨next,?_⟩
  cases e with
  | arrives count => exact lively
  | client e =>
    obtain ⟨done,waiting,-,-,-,aligned⟩ := next.stream
    exact livelyStep lively aligned.tracked aligned.attributed.2 (notDue mirrors answered admitted.1)

theorem runLively (atOnce : AtOnce sim) (timeout : Int) {events : List LoopEvent}
    (calm : Along (loopStep sim) (Undisturbed sim) (connect sim timeout) events)
    (answered : Along (loopStep sim) (Calls (Answered sim)) (connect sim timeout) events) :
    Mirrors sim (enqueuedJobs (run (loopStep sim) (connect sim timeout) events).session.log)
        (run (loopStep sim) (connect sim timeout) events) ∧
      Every (Answered sim) (enqueuedJobs (run (loopStep sim) (connect sim timeout) events).session.log) ∧
      Lively (run (loopStep sim) (connect sim timeout) events).session := by
  have sane := runSane timeout calm
  have heard := (runKeepsAlong saneStep (connectSane timeout) answered).every
  have created : Lively (connect sim timeout).session := ⟨fun _ _ => rfl,nofun,fun _ _ _ => List.not_mem_nil⟩
  obtain ⟨mirrors,lively⟩ := runKeepsAlong (mirrorsLively atOnce sane.once sane.every heard)
    ⟨connectMirrors timeout,created⟩ (alongBoth calm (knownAlong _ events (List.prefix_refl _)))
  exact ⟨mirrors,heard,lively⟩

theorem stillServed {l : Loop V} (mirrors : Mirrors sim jobs l) (up : l.up = []) :
    Aligned (replyIn sim jobs) ⟨l.session,l.down⟩ := by
  obtain ⟨done,waiting,-,-,stream,aligned⟩ := mirrors.stream
  have served : waiting = [] := by
    cases waiting with
    | nil => rfl
    | cons job waiting =>
      refine absurd ?_ mirrors.split
      rw [up,List.append_nil] at stream
      simp [stream,frameBody]
  simpa [served] using aligned

theorem stillFree {l : Loop V} (once : jobs.Nodup) (mirrors : Mirrors sim jobs l)
    (proper : Every (Proper sim) jobs) (answered : Every (Answered sim) jobs) (lively : Lively l.session)
    (still : Still l) : l.session.inFlight = none := by
  have aligned := stillServed mirrors still.up
  cases flying : l.session.inFlight with
  | none => rfl
  | some job =>
    obtain ⟨before,later,place⟩ := List.append_of_mem (trackedFlying aligned.tracked flying)
    obtain ⟨rest,placed⟩ := placedIn mirrors.known place
    have silent : replyIn sim jobs job = none := by
      by_contra some_
      exact aligned.pending job flying some_ still.down
    by_cases mode : job.mode = .none
    · simpa [still.writing] using lively.awaited job flying mode
    · have nothing := replyAt once proper placed
      rw [replyNone silent] at nothing
      exact absurd nothing.symm (answered before job rest placed mode)

theorem settledHow {log : List Effect} {job : Job} (settled : job ∈ settledJobs log) :
    (∃ value, .resolved job value ∈ log) ∨ ∃ err, .rejected job err ∈ log := by
  obtain ⟨e,member,same⟩ := List.mem_filterMap.mp settled
  cases e with
  | resolved other value =>
    obtain rfl := Option.some.inj same
    exact .inl ⟨value,member⟩
  | rejected other err =>
    obtain rfl := Option.some.inj same
    exact .inr ⟨err,member⟩
  | _ => contradiction

theorem runNoneLeft (atOnce : AtOnce sim) (timeout : Int) {events : List LoopEvent}
    (calm : Along (loopStep sim) (Undisturbed sim) (connect sim timeout) events)
    (answered : Along (loopStep sim) (Calls (Answered sim)) (connect sim timeout) events) :
    NoneLeft (run (loopStep sim) (connect sim timeout) events) := by
  intro still job entered
  have sane := runSane timeout calm
  obtain ⟨mirrors,heard,lively⟩ := runLively atOnce timeout calm answered
  have free := stillFree sane.once mirrors sane.every heard lively still
  have accounted := sane.tracked.accounted.symm.subset entered
  rw [free,lively.busy still.opens free] at accounted
  exact (settledHow (by simpa using accounted)).resolve_right fun ⟨err,rejected⟩ =>
    lively.kept still.opens job err rejected

/-- Where the simulator answers every query, no call of an open session waits for ever: as soon as nothing is
on its way any more, all of them have resolved. -/
theorem noneLeftBehind (sim : Simulator V) (atOnce : AtOnce sim) (timeout : Int) (events : List LoopEvent)
    (calm : Along (loopStep sim) (Undisturbed sim) (connect sim timeout) events)
    (answered : Along (loopStep sim) (Calls (Answered sim)) (connect sim timeout) events) :
    Throughout (loopStep sim) NoneLeft (connect sim timeout) events :=
  fun _ early => runNoneLeft atOnce timeout (alongPrefix calm early) (alongPrefix answered early)

end

theorem noneLeftBehindLevel : Throughout (loopStep level) NoneLeft (connect level) levelEvents := by
  apply noneLeftBehind level levelAtOnce 5000 levelEvents levelCalm
  refine ⟨?_,?_,trivial,nofun,trivial,nofun,nofun,nofun,trivial⟩
  · rintro job ⟨⟩
    exact absurd rfl
  · rintro job ⟨⟩
    intro _
    decide

end LxiWeb.SimulatedSession
