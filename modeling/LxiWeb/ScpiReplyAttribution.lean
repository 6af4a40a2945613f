import LxiWeb.ScpiJobLifecycle

/-! A session wired to a device that answers in command order. `reply` fixes what the device
answers to each command it receives, and `wire` holds the answered bytes that are still on
their way: they arrive in order, in chunks of any size and at any later time. -/
namespace LxiWeb.ScpiReplyAttribution
open EventRuns JsText ScpiFraming ScpiJobLifecycle ScpiSession

/-- A reply as the call reads it: a line as text, a block with its terminator as payload. -/
inductive ReadsAs : ReadMode → Bytes → Value → Prop where
  | line (l : Line) : ReadsAs .line l.bytes (.text l.text)
  | block (b : Block) : ReadsAs .binary (b.bytes ++ [LF]) (.bytes b.payload)

structure Reply where
  bytes : Bytes
  wellFormed : (∃ l : Line, bytes = l.bytes) ∨ ∃ b : Block, bytes = b.bytes ++ [LF]

structure Bench where
  session : Session
  wire : Bytes
  deriving DecidableEq, Repr

inductive BenchEvent where
  | write (command : String)
  | writeBinary (command : String) (data : Bytes)
  | query (command : String) (timeoutMs : Option Int)
  | queryBinary (command : String) (timeoutMs : Option Int)
  | deliver (count : Nat)
  | writeResolved (id : Nat)
  | deadline (id : Nat)
  | close
  | transportClosed (message : Option String)
  deriving DecidableEq, Repr

def sessionEvent (wire : Bytes) : BenchEvent → Event
  | .write command => .write command
  | .writeBinary command data => .writeBinary command data
  | .query command timeoutMs => .query command timeoutMs
  | .queryBinary command timeoutMs => .queryBinary command timeoutMs
  | .deliver count => .data (wire.take count)
  | .writeResolved id => .writeResolved id
  | .deadline id => .deadline id
  | .close => .close
  | .transportClosed message => .transportClosed (message.map (⟨.scpiTransportError,·⟩))

def leftOnWire (wire : Bytes) : BenchEvent → Bytes
  | .deliver count => wire.drop count
  | _ => wire

section
variable (reply : Job → Option Reply)

def replyBytes (job : Job) : Bytes := match reply job with | none => [] | some r => r.bytes

def answers (before after : Session) : Bytes :=
  ((handedJobs after.log).drop (handedJobs before.log).length).flatMap (replyBytes reply)

def benchStep (b : Bench) (e : BenchEvent) : Bench :=
  let session := step b.session (sessionEvent b.wire e)
  ⟨session,leftOnWire b.wire e ++ answers reply b.session session⟩

def connect (terminator : Bytes := [LF]) (defaultTimeoutMs : Int := 5000) : Bench :=
  ⟨create terminator defaultTimeoutMs,[]⟩

/- A resolved query carries the reply to its own command, and no query failed on the form of
the bytes it was given. -/
def Attributed (log : List Effect) : Prop :=
  (∀ job value, .resolved job value ∈ log → job.mode ≠ .none →
    ∃ r, reply job = some r ∧ ReadsAs job.mode r.bytes value) ∧
  ∀ job err, .rejected job err ∈ log → err.name ≠ .scpiProtocolError

/- The device answers the command with the kind of message the call reads, or not at all. -/
def Fits (job : Job) : Prop := ∀ r, reply job = some r → ∃ value, ReadsAs job.mode r.bytes value

/- Jobs are numbered in the order of the calls, so a call decides the job it creates. -/
def calledJob (s : Session) : BenchEvent → Option Job
  | .write command => some ⟨s.nextId,.command command,.none,s.defaultTimeoutMs⟩
  | .writeBinary command data => some ⟨s.nextId,.block command data,.none,s.defaultTimeoutMs⟩
  | .query command timeoutMs =>
      some ⟨s.nextId,.command command,.line,timeoutMs.getD s.defaultTimeoutMs⟩
  | .queryBinary command timeoutMs =>
      some ⟨s.nextId,.command command,.binary,timeoutMs.getD s.defaultTimeoutMs⟩
  | _ => none

/- The steps after which no byte of a reply outlives its command: every call gets the kind of
reply it reads, no deadline fires on a command the device answers, and no chunk ends between a
block and its terminator. -/
def Undisturbed (b : Bench) (e : BenchEvent) : Prop :=
  (∀ job, calledJob b.session e = some job → Fits reply job) ∧
  ∀ job, b.session.inFlight = some job →
    match e with
    | .deadline id => job.id = id → reply job = none
    | .deliver count => job.mode = .binary → b.wire.drop count ≠ [LF]
    | _ => True

end

variable {reply : Job → Option Reply}

theorem lineReply {buffer wire : Bytes} {l : Line} (stream : buffer ++ wire = l.bytes) :
    if wire = [] then consumeLine buffer = some (l.text,[]) else consumeLine buffer = none := by
  split
  · rename_i empty
    subst empty
    have whole := consumeLineWhole l []
    rw [List.append_nil] at stream whole
    rwa [stream]
  · rename_i some
    apply consumeLineNone
    obtain ⟨front,last,rfl⟩ := List.eq_nil_or_concat wire |>.resolve_left some
    rw [Line.bytes,List.concat_eq_append,← List.append_assoc] at stream
    have body := (List.append_inj' stream rfl).1
    intro member
    exact l.noLf (body ▸ List.mem_append_left front member)

theorem blockReply {buffer wire : Bytes} {b : Block} (stream : buffer ++ wire = b.bytes ++ [LF])
    (terminator : wire ≠ [LF]) :
    if wire = [] then consumeBinaryBlock buffer = .ok (some (b.payload,[]))
    else consumeBinaryBlock buffer = .ok none := by
  split
  · rename_i empty
    subst empty
    rw [List.append_nil] at stream
    rw [stream]
    exact consumeBlockWhole b []
  · rename_i some
    obtain ⟨front,last,rfl⟩ := List.eq_nil_or_concat wire |>.resolve_left some
    rw [List.concat_eq_append,← List.append_assoc] at stream
    obtain ⟨body,same⟩ := List.append_inj' stream rfl
    refine consumeBlockPart b ⟨front,body⟩ fun whole => terminator ?_
    rw [whole,List.append_right_eq_self] at body
    rw [body,List.concat_eq_append,same,List.nil_append]

variable (reply) in
structure Owned (s : Session) : Prop where
  tracked : Tracked s
  fits : ∀ job ∈ enqueuedJobs s.log, Fits reply job
  attributed : Attributed reply s.log
  started : ∀ job ∈ s.writing, job ∈ handedJobs s.log
  once : s.writing.Nodup
  armed : ∀ id ∈ s.timers, ∃ job ∈ enqueuedJobs s.log, job.id = id ∧ job.mode ≠ .none
  awaited : ∀ job ∈ s.writing, job.mode = .none → s.closed = false → s.inFlight = some job
  attached : s.closed = false → s.listening = true

variable (reply) in
structure Sound (b : Bench) : Prop extends Owned reply b.session where
  quiet : b.session.closed = false → b.session.inFlight = none →
    b.session.buffer = [] ∧ b.wire = []
  stream : ∀ job, b.session.inFlight = some job →
    b.session.buffer ++ b.wire = replyBytes reply job ∧
    (job.mode = .binary → b.wire ≠ [LF])

variable (reply) in
structure Aligned (b : Bench) : Prop extends Sound reply b where
  pending : ∀ job, b.session.inFlight = some job → reply job ≠ none → b.wire ≠ []

variable (reply) in
/- `after` follows `before`, and the wire then also carries the answers to what it started. -/
def Served (before : Session) (wire : Bytes) (after : Session) : Prop :=
  ∃ started, handedJobs after.log = handedJobs before.log ++ started ∧
    Aligned reply ⟨after,wire ++ started.flatMap (replyBytes reply)⟩

theorem servedAnswers {before after : Session} {wire : Bytes}
    (served : Served reply before wire after) :
    Aligned reply ⟨after,wire ++ answers reply before after⟩ := by
  obtain ⟨started,handed,aligned⟩ := served
  simpa [answers,handed] using aligned

theorem servedSame {before after : Session} {wire : Bytes}
    (handed : handedJobs after.log = handedJobs before.log)
    (aligned : Aligned reply ⟨after,wire⟩) : Served reply before wire after :=
  ⟨[],by simpa using handed,by simpa using aligned⟩

theorem servedFrom {before after : Session} (middle : Session) {wire : Bytes}
    (handed : handedJobs middle.log = handedJobs before.log)
    (served : Served reply middle wire after) : Served reply before wire after := by
  obtain ⟨started,more,aligned⟩ := served
  exact ⟨started,by rw [more,handed],aligned⟩

theorem fitsMode {job : Job} (fits : Fits reply job) (mode : job.mode = .none) :
    reply job = none := by
  cases answered : reply job with
  | none => rfl
  | some r =>
    obtain ⟨value,reads⟩ := fits r answered
    rw [mode] at reads
    cases reads

theorem readsLine {bytes : Bytes} {value : Value} (reads : ReadsAs .line bytes value) :
    ∃ l : Line, bytes = l.bytes ∧ value = .text l.text := by
  cases reads with
  | line l => exact ⟨l,rfl,rfl⟩

theorem readsBlock {bytes : Bytes} {value : Value} (reads : ReadsAs .binary bytes value) :
    ∃ b : Block, bytes = b.bytes ++ [LF] ∧ value = .bytes b.payload := by
  cases reads with
  | block b => exact ⟨b,rfl,rfl⟩

theorem readsAsLong {job : Job} {r : Reply} {value : Value} (reads : ReadsAs job.mode r.bytes value) :
    r.bytes ≠ [] ∧ (job.mode = .binary → r.bytes ≠ [LF]) := by
  generalize job.mode = mode, r.bytes = bytes at reads
  cases reads with
  | line l => simp [Line.bytes]
  | block b => simp [Block.bytes,Block.header]

theorem attributedAppend {log more : List Effect} (old : Attributed reply log)
    (new : Attributed reply more) : Attributed reply (log ++ more) := by
  constructor
  · intro job value member
    rcases List.mem_append.mp member with early | late
    · exact old.1 job value early
    · exact new.1 job value late
  · intro job err member
    rcases List.mem_append.mp member with early | late
    · exact old.2 job err early
    · exact new.2 job err late

theorem attributedQuiet {more : List Effect} (quiet : settledJobs more = []) :
    Attributed reply more := by
  have unsettled (e) (member : e ∈ more) : e.settledJob = none :=
    List.filterMap_eq_nil_iff.mp quiet e member
  constructor
  · intro job value member
    exact absurd (unsettled _ member) (by simp [Effect.settledJob])
  · intro job err member
    exact absurd (unsettled _ member) (by simp [Effect.settledJob])

theorem attributedRejection (jobs : List Job) {err : JsError}
    (other : err.name ≠ .scpiProtocolError) :
    Attributed reply (jobs.map (.rejected · err)) := by
  constructor
  · intro job value member
    simp at member
  · intro job err' member
    simp only [List.mem_map] at member
    obtain ⟨_,_,same⟩ := member
    cases same
    exact other

theorem attributedUndefined {job : Job} (mode : job.mode = .none) :
    Attributed reply [.resolved job .undefined] := by
  constructor
  · intro j value member answered
    simp only [List.mem_singleton,Effect.resolved.injEq] at member
    exact absurd (member.1 ▸ mode) answered
  · intro j err member
    simp at member

theorem attributedValue {job : Job} {r : Reply} {value : Value} (answered : reply job = some r)
    (reads : ReadsAs job.mode r.bytes value) : Attributed reply [.resolved job value] := by
  constructor
  · intro j v member _
    simp only [List.mem_singleton,Effect.resolved.injEq] at member
    obtain ⟨rfl,rfl⟩ := member
    exact ⟨r,answered,reads⟩
  · intro j err member
    simp at member

theorem pumpServed {s : Session} {wire : Bytes} (aligned : Aligned reply ⟨s,wire⟩) :
    Served reply s wire (pump s) := by
  have tracked := pumpTracked aligned.tracked
  have handedOnce := trackedHandedOnce tracked
  rcases pumpCases s with same | ⟨job,rest,free,open_,queued,same⟩
  · rw [same]
    exact servedSame rfl aligned
  · simp only at tracked handedOnce
    rw [same] at tracked handedOnce ⊢
    obtain ⟨buffer,onWire⟩ := aligned.quiet open_ free
    simp only at buffer onWire
    have fresh : job ∉ handedJobs s.log := by
      simp only [handedAppend,handedOne,frameEffect,Option.toList_some] at handedOnce
      intro member
      exact (List.nodup_append.mp handedOnce).2.2 job member job (by simp) rfl
    have fits : Fits reply job := by
      apply aligned.fits
      have whole := aligned.tracked.complete open_
      simp only at whole
      rw [← whole]
      simp [queued]
    refine ⟨[job],by simp,?_⟩
    exact {
      tracked := tracked
      fits := by simpa using aligned.fits
      attributed := attributedAppend aligned.attributed (attributedQuiet (by simp))
      started := by
        intro j member
        rcases List.mem_append.mp member with old | new
        · simpa using .inl (aligned.started j old)
        · simpa using .inr (by simpa using new)
      once := by
        have outside : job ∉ s.writing := fun member => fresh (aligned.started job member)
        have before : s.writing.Nodup := aligned.once
        exact List.nodup_append.mpr ⟨before,List.nodup_singleton job,fun j member k new same =>
          outside (List.mem_singleton.mp new ▸ same ▸ member)⟩
      armed := by simpa using aligned.armed
      awaited := by
        intro j member mode _
        rcases List.mem_append.mp member with old | new
        · have flying := aligned.awaited j old mode open_
          simp [free] at flying
        · simpa [eq_comm] using new
      attached := aligned.attached
      quiet := by
        intro _ idle
        simp at idle
      stream := by
        intro j flying
        obtain rfl := Option.some.inj flying
        refine ⟨by simp [buffer,onWire],fun binary => ?_⟩
        simp only [onWire,List.nil_append,List.flatMap_cons,List.flatMap_nil,List.append_nil]
        unfold replyBytes
        cases answered : reply job with
        | none => simp
        | some r =>
          obtain ⟨value,reads⟩ := fits r answered
          exact (readsAsLong reads).2 binary
      pending := by
        intro j flying answered
        obtain rfl := Option.some.inj flying
        obtain ⟨r,some⟩ := Option.ne_none_iff_exists'.mp answered
        obtain ⟨value,reads⟩ := fits r some
        simpa [onWire,replyBytes,some] using (readsAsLong reads).1 }

theorem settleServed {s : Session} {wire : Bytes} {job : Job} (owned : Owned reply s)
    (flying : s.inFlight = some job) (drained : s.buffer = [] ∧ wire = [])
    (resumed : job.mode = .none → job ∉ s.writing) {outcome : Job → Effect}
    (one : Outcome outcome) (own : Attributed reply [outcome job]) :
    Served reply s wire (settle s outcome) := by
  have tracked := releaseTracked owned.tracked flying one
  obtain ⟨settled,handed,enqueued⟩ := one job
  have released : handedJobs (release s job (outcome job)).log = handedJobs s.log := by
    simp [release,clearDeadline,handed]
  have entered : enqueuedJobs (release s job (outcome job)).log = enqueuedJobs s.log := by
    simp [release,clearDeadline,enqueued]
  unfold settle
  rw [flying]
  refine servedFrom _ released (pumpServed ?_)
  exact {
    tracked := tracked
    fits := entered ▸ owned.fits
    attributed := attributedAppend owned.attributed own
    started := released ▸ owned.started
    once := owned.once
    armed := by
      intro id member
      simp only [entered]
      exact owned.armed id (List.mem_of_mem_filter member)
    awaited := by
      intro j member mode open_
      obtain rfl := Option.some.inj (flying.symm.trans (owned.awaited j member mode open_))
      exact absurd member (resumed mode)
    attached := owned.attached
    quiet := fun _ _ => drained
    stream := by
      intro j flies
      simp [release,clearDeadline] at flies
    pending := by
      intro j flies
      simp [release,clearDeadline] at flies }

theorem completeServed {s : Session} {job : Job} {r : Reply} {value : Value}
    (owned : Owned reply s) (flying : s.inFlight = some job) (mode : job.mode ≠ .none)
    (answered : reply job = some r) (reads : ReadsAs job.mode r.bytes value) :
    Served reply s [] (completeInFlight { s with buffer := [] } value) := by
  have emptied : Owned reply { s with buffer := [] } := { owned with }
  apply servedFrom { s with buffer := [] } rfl
  exact settleServed emptied flying ⟨rfl,rfl⟩ (absurd · mode) (resolvedOutcome value)
    (attributedValue answered reads)

theorem replyNone {job : Job} (silent : reply job = none) : replyBytes reply job = [] := by
  simp [replyBytes,silent]

theorem replySome {job : Job} {r : Reply} (answered : reply job = some r) :
    replyBytes reply job = r.bytes := by
  simp [replyBytes,answered]

theorem silentBuffer {buffer wire : Bytes} {job : Job} (silent : reply job = none)
    (stream : buffer ++ wire = replyBytes reply job) : buffer = [] := by
  rw [replyNone silent] at stream
  exact (List.append_eq_nil_iff.mp stream).1

theorem lineTurn {buffer wire : Bytes} {job : Job} (fits : Fits reply job)
    (mode : job.mode = .line) (stream : buffer ++ wire = replyBytes reply job) :
    (consumeLine buffer = none ∧ (reply job ≠ none → wire ≠ [])) ∨
    ∃ r l, reply job = some r ∧ ReadsAs job.mode r.bytes (.text (Line.text l)) ∧ wire = [] ∧
      consumeLine buffer = some (l.text,[]) := by
  cases answered : reply job with
  | none =>
    rw [silentBuffer answered stream]
    exact .inl ⟨rfl,by simp⟩
  | some r =>
    obtain ⟨value,reads⟩ := fits r answered
    obtain ⟨l,same,rfl⟩ := readsLine (mode ▸ reads)
    rw [replySome answered,same] at stream
    have read := lineReply stream
    split at read
    · rename_i empty
      exact .inr ⟨r,l,rfl,reads,empty,read⟩
    · rename_i more
      exact .inl ⟨read,fun _ => more⟩

theorem blockTurn {buffer wire : Bytes} {job : Job} (fits : Fits reply job)
    (mode : job.mode = .binary) (stream : buffer ++ wire = replyBytes reply job)
    (terminator : wire ≠ [LF]) :
    (consumeBinaryBlock buffer = .ok none ∧ (reply job ≠ none → wire ≠ [])) ∨
    ∃ r b, reply job = some r ∧ ReadsAs job.mode r.bytes (.bytes (Block.payload b)) ∧ wire = [] ∧
      consumeBinaryBlock buffer = .ok (some (b.payload,[])) := by
  cases answered : reply job with
  | none =>
    rw [silentBuffer answered stream]
    exact .inl ⟨rfl,by simp⟩
  | some r =>
    obtain ⟨value,reads⟩ := fits r answered
    obtain ⟨b,same,rfl⟩ := readsBlock (mode ▸ reads)
    rw [replySome answered,same] at stream
    have read := blockReply stream terminator
    split at read
    · rename_i empty
      exact .inr ⟨r,b,rfl,reads,empty,read⟩
    · rename_i more
      exact .inl ⟨read,fun _ => more⟩

theorem tryDeliverServed {s : Session} {wire : Bytes} (sound : Sound reply ⟨s,wire⟩) :
    Served reply s wire (tryDeliver s) := by
  unfold tryDeliver
  split
  · rename_i free
    exact servedSame rfl ⟨sound,by simp [free]⟩
  · rename_i job flying
    have waiting (more : reply job ≠ none → wire ≠ []) : Served reply s wire s :=
      servedSame rfl ⟨sound,fun j same => Option.some.inj (flying.symm.trans same) ▸ more⟩
    have fits : Fits reply job := sound.fits job (trackedFlying sound.tracked flying)
    obtain ⟨stream,terminator⟩ := sound.stream job flying
    split
    · rename_i mode
      exact waiting fun answered => absurd (fitsMode fits mode) answered
    · rename_i mode
      rcases lineTurn fits mode stream with ⟨read,more⟩ | ⟨r,l,answered,reads,rfl,read⟩
      · rw [read]
        exact waiting more
      · rw [read]
        exact completeServed sound.toOwned flying (by simp [mode]) answered reads
    · rename_i mode
      rcases blockTurn fits mode stream (terminator mode) with
        ⟨read,more⟩ | ⟨r,b,answered,reads,rfl,read⟩
      · rw [read]
        exact waiting more
      · rw [read]
        exact completeServed sound.toOwned flying (by simp [mode]) answered reads

theorem enqueueServed {s : Session} {wire : Bytes} (aligned : Aligned reply ⟨s,wire⟩)
    (request mode timeoutMs) (fits : Fits reply ⟨s.nextId,request,mode,timeoutMs⟩) :
    Served reply s wire (enqueue s request mode timeoutMs) := by
  have tracked := enqueueTracked aligned.tracked request mode timeoutMs
  revert tracked
  unfold enqueue
  split
  · intro tracked
    apply servedSame (by simp)
    exact {
      aligned with
      tracked := tracked
      fits := by simpa using aligned.fits
      attributed := attributedAppend aligned.attributed (attributedQuiet (by simp))
      started := by simpa using aligned.started
      armed := by simpa using aligned.armed }
  · rename_i open_
    intro _
    refine servedFrom _ (by simp [push]) (pumpServed ?_)
    exact {
      aligned with
      tracked := pushTracked aligned.tracked (by simpa using open_) _ _ _
      fits := by
        intro job member
        simp only [push,enqueuedAppend,List.mem_append] at member
        rcases member with old | new
        · exact aligned.fits job old
        · simp only [enqueuedOne,enqueuedEffect,Option.toList_some,List.mem_singleton] at new
          exact new ▸ fits
      attributed := attributedAppend aligned.attributed (attributedQuiet (by simp))
      started := by simpa [push] using aligned.started
      armed := by
        intro id member
        obtain ⟨job,old,same⟩ := aligned.armed id member
        exact ⟨job,by simpa [push] using .inl old,same⟩ }

theorem deliverServed {s : Session} {wire : Bytes} (count : Nat) (aligned : Aligned reply ⟨s,wire⟩)
    (together : ∀ job, s.inFlight = some job → job.mode = .binary → wire.drop count ≠ [LF]) :
    Served reply s (wire.drop count) (step s (.data (wire.take count))) := by
  simp only [step,handleData]
  by_cases closed : s.closed = true
  · have free : s.inFlight = none := (aligned.tracked.idle closed).1
    simp only [closed,if_true,ite_self]
    refine servedSame rfl { aligned.toOwned with quiet := ?_, stream := ?_, pending := ?_ }
    · simp [closed]
    · simp [free]
    · simp [free]
  · rw [if_pos (aligned.attached (by simpa using closed)),if_neg closed]
    refine servedFrom _ rfl (tryDeliverServed ?_)
    exact {
      aligned.toOwned with
      quiet := by
        intro open_ free
        obtain ⟨buffer,onWire⟩ := aligned.quiet open_ free
        simp only at buffer onWire
        simp [buffer,onWire]
      stream := by
        intro job flying
        refine ⟨?_,together job flying⟩
        rw [← (aligned.stream job flying).1,List.append_assoc,List.take_append_drop] }

theorem resumeServed {s : Session} {wire : Bytes} (aligned : Aligned reply ⟨s,wire⟩) {job : Job}
    (member : job ∈ s.writing) :
    Served reply s wire (resumePump { s with writing := s.writing.erase job } job) := by
  have owned : Owned reply { s with writing := s.writing.erase job } := {
    aligned.toOwned with
    started := fun j old => aligned.started j (List.mem_of_mem_erase old)
    once := aligned.once.erase job
    awaited := fun j old => aligned.awaited j (List.mem_of_mem_erase old) }
  apply servedFrom { s with writing := s.writing.erase job } rfl
  unfold resumePump
  split
  · rename_i mode
    rcases Option.eq_none_or_eq_some s.inFlight with free | ⟨running,flying⟩
    · rw [completeInFlight,settleIdle (s := { s with writing := s.writing.erase job }) free]
      exact servedSame rfl { aligned.toSound with toOwned := owned, pending := aligned.pending }
    · have open_ : s.closed = false := by
        by_contra closed
        have free := (aligned.tracked.idle (by simpa using closed)).1
        simp [flying] at free
      obtain rfl : job = running :=
        Option.some.inj ((aligned.awaited job member mode open_).symm.trans flying)
      have silent := fitsMode (aligned.fits job (trackedFlying aligned.tracked flying)) mode
      have stream := (aligned.stream job flying).1
      rw [replyNone silent] at stream
      exact settleServed owned flying (List.append_eq_nil_iff.mp stream)
        (fun _ => aligned.once.not_mem_erase) (resolvedOutcome .undefined)
        (attributedUndefined mode)
  · rename_i mode
    refine servedFrom _ ?_ (tryDeliverServed ?_)
    · unfold armDeadline
      split <;> rfl
    · unfold armDeadline
      split
      · exact { aligned.toSound with toOwned := owned }
      · refine { aligned.toSound with toOwned := { owned with armed := ?_ } }
        intro id timer
        rcases List.mem_append.mp timer with old | new
        · exact aligned.armed id old
        · refine ⟨job,?_,(List.mem_singleton.mp new).symm,mode⟩
          exact (List.prefix_append _ _ |>.trans aligned.tracked.ordered).subset
            (aligned.started job member)

theorem deadlineServed {s : Session} {wire : Bytes} (aligned : Aligned reply ⟨s,wire⟩) {id : Nat}
    (timer : id ∈ s.timers)
    (silent : ∀ job, s.inFlight = some job → job.id = id → reply job = none) :
    Served reply s wire (step s (.deadline id)) := by
  have owned : Owned reply { s with timers := s.timers.filter (· ≠ id) } := {
    aligned.toOwned with
    armed := fun other left => aligned.armed other (List.mem_of_mem_filter left) }
  have fired : Aligned reply ⟨{ s with timers := s.timers.filter (· ≠ id) },wire⟩ :=
    { aligned with toOwned := owned }
  simp only [step,timer,if_true]
  split
  · rename_i job flying
    split
    · rename_i same
      apply servedFrom { s with timers := s.timers.filter (· ≠ id) } rfl
      have stream := (aligned.stream job flying).1
      rw [replyNone (silent job flying same)] at stream
      refine settleServed owned flying (List.append_eq_nil_iff.mp stream) ?_
        (rejectedOutcome _) ?_
      · intro mode
        obtain ⟨other,entered,id_,mode'⟩ := aligned.armed id timer
        have unique := List.inj_on_of_nodup_map aligned.tracked.distinct entered
          (trackedFlying aligned.tracked flying) (id_.trans same.symm)
        exact absurd mode (unique ▸ mode')
      · exact attributedRejection [job] (by simp [timeoutError,scpiTimeoutError,toScpiError])
    · exact servedSame rfl fired
  · exact servedSame rfl fired

theorem shutServed {s shut : Session} {wire : Bytes} (aligned : Aligned reply ⟨s,wire⟩)
    (tracked : Tracked shut) (closed : shut.closed = true) (more : List Effect)
    (log : shut.log = s.log ++ more) (quiet : handedJobs more = [] ∧ enqueuedJobs more = [])
    (own : Attributed reply more) (writing : shut.writing = s.writing)
    (timers : shut.timers ⊆ s.timers) : Served reply s wire shut := by
  have free : shut.inFlight = none := (tracked.idle closed).1
  have handed : handedJobs shut.log = handedJobs s.log := by simp [log,quiet.1]
  have enqueued : enqueuedJobs shut.log = enqueuedJobs s.log := by simp [log,quiet.2]
  apply servedSame handed
  exact {
    tracked := tracked
    fits := enqueued ▸ aligned.fits
    attributed := log ▸ attributedAppend aligned.attributed own
    started := by simpa [writing,handed] using aligned.started
    once := writing ▸ aligned.once
    armed := fun id timer => by simpa [enqueued] using aligned.armed id (timers timer)
    awaited := by simp [closed]
    attached := by simp [closed]
    quiet := by simp [closed]
    stream := by simp [free]
    pending := by simp [free] }

theorem closeServed {s : Session} {wire : Bytes} (aligned : Aligned reply ⟨s,wire⟩) :
    Served reply s wire (close s) := by
  have tracked := closeTracked aligned.tracked
  revert tracked
  unfold close
  split
  · exact fun _ => servedSame rfl aligned
  · intro tracked
    let more : List Effect := s.inFlight.toList.map (.rejected · scpiClosedError) ++
      s.queue.map (.rejected · scpiClosedError) ++ [.closeTransport]
    refine shutServed aligned tracked rfl more (by simp [rejectAll,more])
      (by simp [more]) ?_ rfl (List.Subset.refl _)
    exact attributedAppend
      (attributedAppend (attributedRejection _ (by simp [scpiClosedError]))
        (attributedRejection _ (by simp [scpiClosedError])))
      (attributedQuiet (by simp))

theorem transportClosedServed {s : Session} {wire : Bytes} (aligned : Aligned reply ⟨s,wire⟩)
    (message : Option String) :
    Served reply s wire (handleClose s (message.map (⟨.scpiTransportError,·⟩))) := by
  have tracked := handleCloseTracked aligned.tracked (message.map (⟨.scpiTransportError,·⟩))
  revert tracked
  unfold handleClose
  split
  · exact fun _ => servedSame rfl aligned
  · intro tracked
    generalize wrap : (message.map (⟨.scpiTransportError,·⟩)).getD
      (scpiClosedError "transport closed") = wrapped at tracked ⊢
    have other : (toScpiError wrapped).name ≠ .scpiProtocolError := by
      subst wrap
      cases message <;> simp [toScpiError,scpiClosedError]
    obtain ⟨queue,_,closed,_,listeners,writing,timers,log⟩ :=
      failInFlightClosed { s with closed := true } rfl wrapped
    let more : List Effect := s.inFlight.toList.map (.rejected · (toScpiError wrapped)) ++
      s.queue.map (.rejected · (toScpiError wrapped)) ++
      s.closeListeners.map (.notified · (message.map (⟨.scpiTransportError,·⟩)))
    refine shutServed aligned tracked closed more ?_ (by simp [more]) ?_ writing timers
    · simp only [rejectAll]
      rw [log,queue,listeners]
      simp [more]
    · exact attributedAppend
        (attributedAppend (attributedRejection _ other) (attributedRejection _ other))
        (attributedQuiet (by simp))

theorem connectAligned (terminator defaultTimeoutMs) :
    Aligned reply (connect terminator defaultTimeoutMs) where
  tracked := createTracked terminator defaultTimeoutMs
  fits := nofun
  attributed := ⟨nofun,nofun⟩
  started := nofun
  once := List.nodup_nil
  armed := nofun
  awaited := nofun
  attached _ := rfl
  quiet _ _ := ⟨rfl,rfl⟩
  stream := nofun
  pending := nofun

theorem benchStepAligned (b : Bench) (e : BenchEvent) (aligned : Aligned reply b)
    (undisturbed : Undisturbed reply b e) : Aligned reply (benchStep reply b e) := by
  obtain ⟨fits,calm⟩ := undisturbed
  obtain ⟨s,wire⟩ := b
  apply servedAnswers
  cases e with
  | write command | writeBinary command data | query command timeoutMs
  | queryBinary command timeoutMs => exact enqueueServed aligned _ _ _ (fits _ rfl)
  | deliver count => exact deliverServed count aligned calm
  | writeResolved id =>
    simp only [sessionEvent,leftOnWire,step]
    split
    · exact servedSame rfl aligned
    · rename_i job found
      exact resumeServed aligned (List.mem_of_find?_eq_some found)
  | deadline id =>
    by_cases timer : id ∈ s.timers
    · exact deadlineServed aligned timer calm
    · simp only [sessionEvent,leftOnWire,step,timer,if_false]
      exact servedSame rfl aligned
  | close => exact closeServed aligned
  | transportClosed message =>
    simp only [sessionEvent,leftOnWire,step]
    split
    · exact transportClosedServed aligned message
    · exact servedSame rfl aligned

theorem repliesAttributed (reply : Job → Option Reply) (terminator : Bytes)
    (defaultTimeoutMs : Int) (events : List BenchEvent)
    (calm : Along (benchStep reply) (Undisturbed reply) (connect terminator defaultTimeoutMs) events) :
    Throughout (benchStep reply) (fun b => Attributed reply b.session.log)
      (connect terminator defaultTimeoutMs) events :=
  (throughoutAlong benchStepAligned (connectAligned terminator defaultTimeoutMs) calm).mono
    fun _ aligned => aligned.attributed

/- A device that answers `1` to `A?` and `2` to `B?`, and nothing to any other command. -/
def meter (job : Job) : Option Reply :=
  match job.request with
  | .command "A?" => some ⟨[0x31,LF],.inl ⟨⟨[0x31],by decide⟩,rfl⟩⟩
  | .command "B?" => some ⟨[0x32,LF],.inl ⟨⟨[0x32],by decide⟩,rfl⟩⟩
  | _ => none

theorem meterFits (id : Nat) (command : String) (timeoutMs : Int) :
    Fits meter ⟨id,.command command,.line,timeoutMs⟩ := by
  intro r answered
  unfold meter at answered
  split at answered
  · obtain rfl := Option.some.inj answered
    exact ⟨_,.line ⟨[0x31],by decide⟩⟩
  · obtain rfl := Option.some.inj answered
    exact ⟨_,.line ⟨[0x32],by decide⟩⟩
  · contradiction

theorem meterCalled {s : Session} {e : BenchEvent}
    (asked : calledJob s e = none ∨ ∃ command timeoutMs, e = .query command timeoutMs)
    (job : Job) (called : calledJob s e = some job) : Fits meter job := by
  rcases asked with silent | ⟨command,timeoutMs,rfl⟩
  · simp [silent] at called
  · obtain rfl := Option.some.inj called
    exact meterFits _ _ _

/- The reply to `A?` arrives in two parts, the first before the write of `A?` settles, and
`X?` times out unanswered. -/
theorem repliesAttributedMeter :
    Throughout (benchStep meter) (fun b => Attributed meter b.session.log) connect
      [.query "A?" none,.query "X?" (some 100),.query "B?" none,.deliver 1,.writeResolved 0,
        .deliver 1,.writeResolved 1,.deadline 1,.writeResolved 2,.deliver 2] := by
  apply repliesAttributed
  simp only [alongCons,alongNil,and_true]
  refine ⟨?_,?_,?_,?_,?_,?_,?_,?_,?_,?_⟩ <;>
    exact ⟨meterCalled (by simp [calledJob]),by decide⟩

/- `A?` times out, and its late reply then answers `B?`. -/
theorem lateReplyAnswersNext :
    ¬ Throughout (benchStep meter) (fun b => Attributed meter b.session.log) connect
      [.query "A?" none,.writeResolved 0,.query "B?" none,.deadline 0,.deliver 2] := by
  intro all
  have resolved : .resolved ⟨1,.command "B?",.line,5000⟩ (.text "1") ∈ (run (benchStep meter) connect
      [.query "A?" none,.writeResolved 0,.query "B?" none,.deadline 0,.deliver 2]).session.log := by
    decide
  obtain ⟨r,answered,reads⟩ := all.last.1 _ _ resolved (by decide)
  obtain rfl := Option.some.inj answered
  obtain ⟨l,whole,text⟩ := readsLine reads
  have body : l.body = [0x32] := (List.append_inj' whole rfl).1.symm
  rw [Line.text,body] at text
  exact absurd text (by decide)

end LxiWeb.ScpiReplyAttribution
