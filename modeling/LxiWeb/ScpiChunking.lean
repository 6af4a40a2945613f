import LxiWeb.ScpiReplyAttribution

/-! A session of queries whose replies arrive in chunks. `reply` fixes the bytes the device
sends for each command it receives: lines, blocks or anything else. They arrive in order, cut
anywhere and at any time after the command was handed to the transport. -/
namespace LxiWeb.ScpiChunking
open EventRuns JsText ScpiFraming ScpiReplyAttribution ScpiSession

abbrev Result := Except JsError Value

/- One read of `tryDeliver`, on all bytes that will ever be there for it. -/
def readOne (mode : ReadMode) (stream : Bytes) : Option (Result × Bytes) :=
  match mode with
  | .none => none
  | .line => (consumeLine stream).map fun (line,rest) => (.ok (.text line),rest)
  | .binary =>
    match consumeBinaryBlock stream with
    | .error err => some (.error (toScpiError err),stream)
    | .ok none => none
    | .ok (some (block,rest)) => some (.ok (.bytes block),rest)

section
variable (reply : Job → Bytes)

/- What the queries of a queue return when each reply arrives in one piece, `left` being the
bytes the queries before them left over. A query that its bytes do not answer holds up the rest. -/
def inOnePiece (left : Bytes) : List Job → List (Job × Result)
  | [] => []
  | job :: jobs =>
    match readOne job.mode (left ++ reply job) with
    | none => []
    | some (result,rest) => (job,result) :: inOnePiece rest jobs

/- The same from the middle of the queue: the reply to `job` is part of `stream` already. -/
def fromJob (stream : Bytes) (job : Job) (jobs : List Job) : List (Job × Result) :=
  match readOne job.mode stream with
  | none => []
  | some (result,rest) => (job,result) :: inOnePiece reply rest jobs

end

inductive WireEvent where
  | query (command : String) (timeoutMs : Option Int)
  | queryBinary (command : String) (timeoutMs : Option Int)
  | deliver (count : Nat)
  | writeResolved (id : Nat)
  | deadline (id : Nat)
  deriving DecidableEq, Repr

def toBench : WireEvent → BenchEvent
  | .query command timeoutMs => .query command timeoutMs
  | .queryBinary command timeoutMs => .queryBinary command timeoutMs
  | .deliver count => .deliver count
  | .writeResolved id => .writeResolved id
  | .deadline id => .deadline id

def step (reply : Job → Bytes) (b : Bench) (e : WireEvent) : Bench :=
  let session := ScpiSession.step b.session (sessionEvent b.wire (toBench e))
  let handed := (handedJobs session.log).drop (handedJobs b.session.log).length
  ⟨session,leftOnWire b.wire (toBench e) ++ handed.flatMap reply⟩

def resultOf : Effect → Option (Job × Result)
  | .resolved job value => some (job,.ok value)
  | .rejected job err => some (job,.error err)
  | _ => none

def results (log : List Effect) : List (Job × Result) := log.filterMap resultOf

/- So far the queries returned what they return to whole replies, in the same order, and when
nothing is on its way any more they returned all of it. -/
def AsInOnePiece (reply : Job → Bytes) (b : Bench) : Prop :=
  results b.session.log <+: inOnePiece reply [] (enqueuedJobs b.session.log) ∧
  (b.wire = [] → b.session.writing = [] →
    results b.session.log = inOnePiece reply [] (enqueuedJobs b.session.log))

def endsBlock : Bytes → Bool
  | first :: second :: rest =>
      let digits := second.toNat - 0x30
      first = 0x23 ∧ 0 < digits ∧ digits ≤ 9 ∧ digits ≤ rest.length ∧
        parseInt (decode (rest.take digits)) = some ((rest.length - digits : Nat) : Int)
  | _ => false

def cutsTerminator (waiting : Option Job) (buffer wire : Bytes) : Bool :=
  waiting.any (·.mode = .binary) && endsBlock buffer && wire.head? = some LF

/- No chunk ends between a block and its LF, and no query in flight runs out of time. -/
def Unsplit (b : Bench) : WireEvent → Prop
  | .deliver count => cutsTerminator b.session.inFlight (b.session.buffer ++ b.wire.take count)
      (b.wire.drop count) = false
  | .writeResolved _ => cutsTerminator b.session.inFlight b.session.buffer b.wire = false
  | .deadline id => b.session.inFlight.all (·.id ≠ id)
  | _ => True

theorem lineExtended {buffer rest : Bytes} {line : String}
    (read : consumeLine buffer = some (line,rest)) (more : Bytes) :
    consumeLine (buffer ++ more) = some (line,rest ++ more) := by
  unfold consumeLine at read ⊢
  cases found : buffer.idxOf? LF with
  | none => simp [found] at read
  | some idx =>
    obtain ⟨within,at_,before⟩ := List.idxOf?_eq_some_iff.mp found
    have same : (buffer ++ more).idxOf? LF = some idx := by
      rw [List.idxOf?_eq_some_iff]
      refine ⟨by simp; omega,by rwa [List.getElem_append_left within],?_⟩
      intro j earlier
      rw [List.getElem_append_left (by omega)]
      exact before j earlier
    simp only [found,Option.some.injEq,Prod.mk.injEq] at read
    obtain ⟨rfl,rfl⟩ := read
    simp only [same]
    rw [List.take_append_of_le_length (by omega),List.drop_append_of_le_length (by omega)]

theorem dropTerminatorExtended (rest more : Bytes) (terminator : rest = [] → more.head? ≠ some LF) :
    dropTerminator (rest ++ more) = dropTerminator rest ++ more := by
  cases rest with
  | nil => simp [dropTerminator,terminator rfl]
  | cons byte rest =>
    by_cases ends : byte = LF
    · simp [dropTerminator,ends]
    · simp [dropTerminator,ends]

theorem behindHeader {second : UInt8} (digits : Bytes)
    (count : (second.toNat : Int) - 0x30 = digits.length) (some_ : 0 < digits.length)
    (few : digits.length ≤ 9) (tail : Bytes) :
    consumeBinaryBlock (0x23 :: second :: (digits ++ tail)) =
      match parseInt (decode digits) with
      | none => .error (scpiProtocolError "invalid IEEE block length: NaN")
      | some length =>
        if length < 0 then .error (scpiProtocolError s!"invalid IEEE block length: {length}")
        else if tail.length < length.toNat then .ok none
        else .ok (some (tail.take length.toNat,dropTerminator (tail.drop length.toNat))) := by
  have header : ((0x23 :: second :: (digits ++ tail)).take (2 + digits.length)).drop 2 = digits := by
    rw [Nat.add_comm]
    simp
  have body (length : Nat) : ((0x23 :: second :: (digits ++ tail)).take
      (2 + digits.length + length)).drop (2 + digits.length) = tail.take length := by
    rw [show 2 + digits.length + length = digits.length + length + 1 + 1 by omega,
      show 2 + digits.length = digits.length + 1 + 1 by omega]
    simp only [List.take_succ_cons,List.drop_succ_cons]
    rw [List.take_length_add_append,List.drop_left]
  have rest (length : Nat) : (0x23 :: second :: (digits ++ tail)).drop
      (2 + digits.length + length) = tail.drop length := by
    rw [show 2 + digits.length + length = digits.length + length + 1 + 1 by omega]
    simp only [List.drop_succ_cons]
    rw [List.drop_length_add_append]
  have size : (0x23 :: second :: (digits ++ tail)).length = 2 + digits.length + tail.length := by
    simp only [List.length_cons,List.length_append]
    omega
  simp only [consumeBinaryBlock,ne_eq,not_true_eq_false,if_false,count,Int.toNat_natCast]
  rw [if_neg (by omega)]
  cases value : parseInt (decode digits) with
  | none => simp only [header,value]; rw [if_neg (by omega)]
  | some length => simp only [header,value,body,rest,size,Nat.add_lt_add_iff_left]; rw [if_neg (by omega)]

/- What a read of a block can come to: it fails on the header whatever follows, it waits, or it
hands over the payload, and what follows is left in the buffer. -/
theorem blockCases (first second : UInt8) (rest : Bytes) :
    (∃ err, ∀ more, consumeBinaryBlock (first :: second :: (rest ++ more)) = .error err) ∨
    consumeBinaryBlock (first :: second :: rest) = .ok none ∨
    ∃ block left, (left = [] → endsBlock (first :: second :: rest)) ∧
      ∀ more, consumeBinaryBlock (first :: second :: (rest ++ more)) =
        .ok (some (block,dropTerminator (left ++ more))) := by
  by_cases hash : first = 0x23
  · subst hash
    generalize count : (second.toNat : Int) - 0x30 = digitCount
    by_cases range : digitCount ≤ 0 ∨ digitCount > 9
    · refine .inl ⟨scpiProtocolError s!"invalid IEEE block digit-count: {digitCount}",fun more => ?_⟩
      simp only [consumeBinaryBlock,ne_eq,not_true_eq_false,if_false,count,if_pos range]
    · obtain ⟨n,rfl⟩ := Int.eq_ofNat_of_zero_le (a := digitCount) (by omega)
      by_cases header : rest.length < n
      · refine .inr (.inl ?_)
        simp only [consumeBinaryBlock,ne_eq,not_true_eq_false,if_false,count,if_neg range,
          Int.toNat_natCast]
        rw [if_pos (by simp only [List.length_cons]; omega)]
      · obtain ⟨digits,tail,rfl,rfl⟩ : ∃ digits tail, rest = digits ++ tail ∧ digits.length = n :=
          ⟨rest.take n,rest.drop n,(List.take_append_drop n rest).symm,by simp; omega⟩
        have read := behindHeader digits count (by omega) (by omega)
        simp only [List.append_assoc,read]
        cases value : parseInt (decode digits) with
        | none => exact .inl ⟨_,fun _ => rfl⟩
        | some length =>
          by_cases negative : length < 0
          · exact .inl ⟨_,fun _ => if_pos negative⟩
          · obtain ⟨size,rfl⟩ := Int.eq_ofNat_of_zero_le (a := length) (by omega)
            simp only [if_neg negative,Int.toNat_natCast]
            by_cases missing : tail.length < size
            · exact .inr (.inl (if_pos missing))
            · refine .inr (.inr ⟨tail.take size,tail.drop size,?_,fun more => ?_⟩)
              · intro all
                have exact_ : tail.length = size := by
                  rw [List.drop_eq_nil_iff] at all
                  omega
                have digitCount : second.toNat - 0x30 = digits.length := by omega
                simp [endsBlock,digitCount,value,exact_]
                omega
              · rw [if_neg (by simp; omega),List.take_append_of_le_length (by omega),
                  List.drop_append_of_le_length (by omega)]
  · exact .inl ⟨_,fun more => by simp only [consumeBinaryBlock,ne_eq,hash,not_false_eq_true,if_true]; rfl⟩

theorem readExtended {mode : ReadMode} {buffer rest : Bytes} {result : Result}
    (read : readOne mode buffer = some (result,rest)) (more : Bytes)
    (terminator : mode = .binary → endsBlock buffer → more.head? ≠ some LF) :
    readOne mode (buffer ++ more) = some (result,rest ++ more) := by
  cases mode with
  | none => simp [readOne] at read
  | line =>
    simp only [readOne,Option.map_eq_some_iff,Prod.mk.injEq] at read ⊢
    obtain ⟨⟨line,left⟩,taken,rfl,rfl⟩ := read
    exact ⟨(line,left ++ more),lineExtended taken more,rfl,rfl⟩
  | binary =>
    match buffer with
    | [] | [_] => simp [readOne,consumeBinaryBlock] at read
    | first :: second :: tail =>
      rcases blockCases first second tail with ⟨err,fails⟩ | waits | ⟨block,left,ends,reads⟩
      · have now := fails []
        rw [List.append_nil] at now
        simp only [readOne,List.cons_append,now,fails more,Option.some.injEq,Prod.mk.injEq] at read ⊢
        obtain ⟨rfl,rfl⟩ := read
        exact ⟨rfl,rfl⟩
      · simp [readOne,waits] at read
      · have now := reads []
        rw [List.append_nil,List.append_nil] at now
        simp only [readOne,List.cons_append,now,reads more,Option.some.injEq,Prod.mk.injEq] at read ⊢
        obtain ⟨rfl,rfl⟩ := read
        exact ⟨rfl,dropTerminatorExtended left more fun empty => terminator rfl (ends empty)⟩

section
variable (log more : List Effect)

@[simp] theorem resultsAppend : results (log ++ more) = results log ++ results more :=
  List.filterMap_append

end

variable {reply : Job → Bytes}

variable (reply) in
def outstanding (b : Bench) (more : List Job) : List (Job × Result) :=
  let stream := b.session.buffer ++ b.wire
  match b.session.inFlight with
  | none => inOnePiece reply stream (b.session.queue ++ more)
  | some job => fromJob reply stream job (b.session.queue ++ more)

variable (reply) in
structure Queued (b : Bench) : Prop where
  open_ : b.session.closed = false
  attached : b.session.listening = true
  queries : ∀ job ∈ b.session.queue ++ b.session.writing, job.mode ≠ .none
  told : ∀ more, results b.session.log ++ outstanding reply b more =
    inOnePiece reply [] (enqueuedJobs b.session.log ++ more)

variable (reply) in
/- Between two steps the query in flight has looked at all the buffer holds, or it will when its
write resolves. -/
structure Reading (b : Bench) : Prop extends Queued reply b where
  idle : b.session.inFlight = none → b.session.queue = []
  tried : ∀ job, b.session.inFlight = some job →
    job ∈ b.session.writing ∨ readOne job.mode b.session.buffer = none

variable (reply) in
def Served (before : Session) (wire : Bytes) (after : Session) : Prop :=
  ∃ started, handedJobs after.log = handedJobs before.log ++ started ∧
    Reading reply ⟨after,wire ++ started.flatMap reply⟩

theorem servedSame {before after : Session} {wire : Bytes}
    (handed : handedJobs after.log = handedJobs before.log)
    (reading : Reading reply ⟨after,wire⟩) : Served reply before wire after :=
  ⟨[],by simpa using handed,by simpa using reading⟩

theorem servedFrom {before after : Session} (middle : Session) {wire : Bytes}
    (handed : handedJobs middle.log = handedJobs before.log)
    (served : Served reply middle wire after) : Served reply before wire after := by
  obtain ⟨started,more,reading⟩ := served
  exact ⟨started,by rw [more,handed],reading⟩

theorem pumpServed {s : Session} {wire : Bytes} (queued : Queued reply ⟨s,wire⟩)
    (free : s.inFlight = none) : Served reply s wire (pump s) := by
  have open_ : s.closed = false := queued.open_
  have told := queued.told
  have queries := queued.queries
  simp only [outstanding,free] at told queries
  cases waiting : s.queue with
  | nil =>
    have same : pump s = s := by simp [pump,waiting]
    rw [same]
    refine servedSame rfl { queued with idle := fun _ => waiting, tried := ?_ }
    simp [free]
  | cons job rest =>
    simp only [waiting] at told queries
    simp only [pump,free,open_,waiting,Option.isSome_none,Bool.false_eq_true,or_self,if_false]
    refine ⟨[job],by simp,?_⟩
    exact {
      open_ := rfl
      attached := queued.attached
      queries := by
        intro j member
        apply queries
        simp only [List.mem_append,List.mem_cons,List.not_mem_nil,or_false] at member ⊢
        tauto
      told := by
        intro more
        rw [← show enqueuedJobs s.log = enqueuedJobs (s.log ++ [.frame job _]) by simp,← told more]
        simp [outstanding,results,resultOf,inOnePiece,fromJob]
      idle := by simp
      tried := by
        intro j flying
        obtain rfl := Option.some.inj flying
        simp }

theorem settleServed {s : Session} {wire rest : Bytes} {job : Job} {result : Result}
    (queued : Queued reply ⟨s,wire⟩) (flying : s.inFlight = some job)
    (read : readOne job.mode (s.buffer ++ wire) = some (result,rest ++ wire)) (outcome : Job → Effect)
    (told : resultOf (outcome job) = some (job,result))
    (quiet : (outcome job).handedJob = none ∧ (outcome job).enqueuedJob = none) :
    Served reply s wire (settle { s with buffer := rest, inFlight := some job } outcome) := by
  have before := queued.told
  simp only [outstanding,flying,fromJob,read] at before
  simp only [settle]
  refine servedFrom _ (by simp [release,clearDeadline,quiet.1]) (pumpServed ?_ rfl)
  exact {
    open_ := queued.open_
    attached := queued.attached
    queries := queued.queries
    told := by
      intro more
      simp only [release,clearDeadline,outstanding,enqueuedAppend,enqueuedOne,quiet.2,resultsAppend,
        Option.toList_none,List.append_nil]
      rw [← before more]
      simp [results,told] }

theorem tryDeliverServed {s : Session} {wire : Bytes} (queued : Queued reply ⟨s,wire⟩)
    (idle : s.inFlight = none → s.queue = [])
    (unsplit : cutsTerminator s.inFlight s.buffer wire = false) :
    Served reply s wire (tryDeliver s) := by
  cases flying : s.inFlight with
  | none =>
    simp only [tryDeliver,flying]
    exact servedSame rfl { queued with idle := idle, tried := by simp [flying] }
  | some job =>
    have wait (unread : readOne job.mode s.buffer = none) : Served reply s wire s :=
      servedSame rfl { queued with
        idle := idle
        tried := fun j same => .inr (Option.some.inj (flying.symm.trans same) ▸ unread) }
    have extended (rest : Bytes) (result : Result)
        (read : readOne job.mode s.buffer = some (result,rest)) :=
      readExtended read wire (by
        intro binary ends head
        simp [cutsTerminator,flying,binary,ends,head] at unsplit)
    simp only [tryDeliver,flying]
    cases mode : job.mode with
    | none => exact wait (by simp [readOne,mode])
    | line =>
      cases read : consumeLine s.buffer with
      | none => exact wait (by simp [readOne,mode,read])
      | some taken =>
        obtain ⟨line,rest⟩ := taken
        exact settleServed queued flying (extended rest (.ok (.text line)) (by simp [readOne,mode,read]))
          (.resolved · (.text line)) rfl ⟨rfl,rfl⟩
    | binary =>
      cases read : consumeBinaryBlock s.buffer with
      | error err =>
        have same : s = { s with buffer := s.buffer, inFlight := some job } := by rw [← flying]
        simp only [failInFlight]
        rw [same]
        exact settleServed queued flying
          (extended s.buffer (.error (toScpiError err)) (by simp [readOne,mode,read]))
          (.rejected · (toScpiError err)) rfl ⟨rfl,rfl⟩
      | ok taken =>
        cases taken with
        | none => exact wait (by simp [readOne,mode,read])
        | some pair =>
          obtain ⟨block,rest⟩ := pair
          exact settleServed queued flying
            (extended rest (.ok (.bytes block)) (by simp [readOne,mode,read]))
            (.resolved · (.bytes block)) rfl ⟨rfl,rfl⟩

theorem enqueueServed {s : Session} {wire : Bytes} (reading : Reading reply ⟨s,wire⟩)
    (request timeoutMs) {mode : ReadMode} (query : mode ≠ .none) :
    Served reply s wire (enqueue s request mode timeoutMs) := by
  have open_ : s.closed = false := reading.open_
  have queued : Queued reply ⟨push s ⟨s.nextId,request,mode,timeoutMs⟩,wire⟩ := {
    open_ := reading.open_
    attached := reading.attached
    queries := by
      intro j member
      simp only [push,List.mem_append,List.mem_singleton] at member
      rcases member with (old | rfl) | old
      · exact reading.queries j (List.mem_append_left _ old)
      · exact query
      · exact reading.queries j (List.mem_append_right _ old)
    told := by
      intro more
      have before := reading.told (⟨s.nextId,request,mode,timeoutMs⟩ :: more)
      simp only [push,outstanding,resultsAppend,enqueuedAppend,enqueuedOne,enqueuedEffect,
        Option.toList_some,List.append_assoc,List.singleton_append] at before ⊢
      rw [← before]
      simp [results,resultOf] }
  simp only [enqueue,open_,Bool.false_eq_true,if_false]
  refine servedFrom (push s ⟨s.nextId,request,mode,timeoutMs⟩) (by simp [push]) ?_
  cases flying : s.inFlight with
  | none => exact pumpServed queued flying
  | some job =>
    have same : pump (push s ⟨s.nextId,request,mode,timeoutMs⟩) =
        push s ⟨s.nextId,request,mode,timeoutMs⟩ := by simp [pump,push,flying]
    rw [same]
    exact servedSame rfl { queued with
      idle := by simp [push,flying]
      tried := reading.tried }

theorem deliverServed {s : Session} {wire : Bytes} (count : Nat) (reading : Reading reply ⟨s,wire⟩)
    (unsplit : cutsTerminator s.inFlight (s.buffer ++ wire.take count) (wire.drop count) = false) :
    Served reply s (wire.drop count) (ScpiSession.step s (.data (wire.take count))) := by
  have open_ : s.closed = false := reading.open_
  have attached : s.listening = true := reading.attached
  have told := reading.told
  simp only [ScpiSession.step,handleData]
  rw [if_pos attached,if_neg (by simp [open_])]
  refine servedFrom { s with buffer := s.buffer ++ wire.take count } rfl ?_
  refine tryDeliverServed ?_ reading.idle unsplit
  exact {
    open_ := reading.open_
    attached := reading.attached
    queries := reading.queries
    told := by simpa [outstanding] using told }

theorem resumeServed {s : Session} {wire : Bytes} (reading : Reading reply ⟨s,wire⟩) {job : Job}
    (member : job ∈ s.writing)
    (unsplit : cutsTerminator s.inFlight s.buffer wire = false) :
    Served reply s wire (resumePump { s with writing := s.writing.erase job } job) := by
  have query : job.mode ≠ .none := reading.queries job (List.mem_append_right _ member)
  have armed : Queued reply ⟨armDeadline { s with writing := s.writing.erase job } job,wire⟩ := by
    have left : ∀ j ∈ s.queue ++ s.writing.erase job, j.mode ≠ .none := by
      intro j waiting
      apply reading.queries
      rcases List.mem_append.mp waiting with queued | written
      · exact List.mem_append_left _ queued
      · exact List.mem_append_right _ (List.mem_of_mem_erase written)
    unfold armDeadline
    split <;> exact { reading.toQueued with queries := left }
  have resumed : resumePump { s with writing := s.writing.erase job } job =
      tryDeliver (armDeadline { s with writing := s.writing.erase job } job) := by
    unfold resumePump
    split
    · contradiction
    · rfl
  rw [resumed]
  refine servedFrom _ ?_ (tryDeliverServed armed ?_ ?_)
  · unfold armDeadline
    split <;> rfl
  · unfold armDeadline
    split <;> exact reading.idle
  · unfold armDeadline
    split <;> exact unsplit

theorem connectReading (terminator defaultTimeoutMs) :
    Reading reply (connect terminator defaultTimeoutMs) where
  open_ := rfl
  attached := rfl
  queries := by simp [connect,create]
  told _ := rfl
  idle _ := rfl
  tried := by simp [connect,create]

theorem stepReading (b : Bench) (e : WireEvent) (reading : Reading reply b) (unsplit : Unsplit b e) :
    Reading reply (step reply b e) := by
  obtain ⟨s,wire⟩ := b
  suffices served : Served reply s (leftOnWire wire (toBench e))
      (ScpiSession.step s (sessionEvent wire (toBench e))) by
    obtain ⟨started,handed,after⟩ := served
    simpa [step,handed] using after
  cases e with
  | query command timeoutMs | queryBinary command timeoutMs =>
    exact enqueueServed reading _ _ (by simp)
  | deliver count => exact deliverServed count reading unsplit
  | writeResolved id =>
    simp only [toBench,sessionEvent,leftOnWire,ScpiSession.step]
    split
    · exact servedSame rfl reading
    · rename_i job found
      exact resumeServed reading (List.mem_of_find?_eq_some found) unsplit
  | deadline id =>
    have fired : Reading reply ⟨{ s with timers := s.timers.filter (· ≠ id) },wire⟩ :=
      { reading with }
    simp only [toBench,sessionEvent,leftOnWire,ScpiSession.step]
    split
    · split
      · rename_i job flying
        have other : job.id ≠ id := by simpa [Unsplit,flying] using unsplit
        rw [if_neg other]
        exact servedSame rfl fired
      · exact servedSame rfl fired
    · exact servedSame rfl reading

theorem readingAsInOnePiece {b : Bench} (reading : Reading reply b) : AsInOnePiece reply b := by
  have told := reading.told []
  rw [List.append_nil] at told
  refine ⟨⟨_,told⟩,fun arrived written => ?_⟩
  suffices settled : outstanding reply b [] = [] by rwa [settled,List.append_nil] at told
  simp only [outstanding,arrived,List.append_nil]
  cases flying : b.session.inFlight with
  | none => simp [reading.idle flying,inOnePiece]
  | some job =>
    have unread := (reading.tried job flying).resolve_left (by simp [written])
    simp [fromJob,unread]

theorem chunksAsInOnePiece (reply : Job → Bytes) (terminator : Bytes) (defaultTimeoutMs : Int)
    (events : List WireEvent)
    (unsplit : Along (step reply) Unsplit (connect terminator defaultTimeoutMs) events) :
    Throughout (step reply) (AsInOnePiece reply) (connect terminator defaultTimeoutMs) events :=
  (throughoutAlong stepReading (connectReading terminator defaultTimeoutMs) unsplit).mono
    fun _ => readingAsInOnePiece

/- A device that answers `WAV?` with a block of two bytes and `ID?` with a line. -/
def probe (job : Job) : Bytes :=
  match job.request with
  | .command "WAV?" => [0x23,0x31,0x32,0x61,0x62,LF]
  | .command "ID?" => [0x37,CR,LF]
  | _ => []

/- The block is cut in its header and in its payload, the line before its LF. -/
theorem chunksAsInOnePieceProbe :
    Throughout (step probe) (AsInOnePiece probe) connect
      [.queryBinary "WAV?" none,.query "ID?" none,.deliver 1,.writeResolved 0,.deliver 3,.deliver 2,
        .deliver 2,.writeResolved 1,.deliver 1] := by
  apply chunksAsInOnePiece
  simp only [alongCons,alongNil,and_true,Unsplit]
  decide

/- Cut between the block and its LF, the same replies give `ID?` an empty line. -/
theorem cutTerminatorAnswersNext :
    let whole := run (step probe) connect [.queryBinary "WAV?" none,.query "ID?" none,
      .writeResolved 0,.deliver 6,.writeResolved 1,.deliver 3]
    let cut := run (step probe) connect [.queryBinary "WAV?" none,.query "ID?" none,
      .writeResolved 0,.deliver 5,.deliver 1,.writeResolved 1,.deliver 3]
    enqueuedJobs cut.session.log = enqueuedJobs whole.session.log ∧
    (whole.wire = [] ∧ whole.session.writing = []) ∧ (cut.wire = [] ∧ cut.session.writing = []) ∧
    (results whole.session.log).map Prod.snd = [.ok (.bytes [0x61,0x62]),.ok (.text "7")] ∧
    (results cut.session.log).map Prod.snd = [.ok (.bytes [0x61,0x62]),.ok (.text "")] := by
  decide

end LxiWeb.ScpiChunking
