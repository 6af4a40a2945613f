import LxiWeb.ScpiReplyAttribution
import LxiWeb.SessionManager

/-! Text that reaches an instrument unframed: raw commands of the console and the names of samples.
The device takes a message off each LF and answers the messages whose header ends in `?`. -/
namespace LxiWeb.RawCommands
open EventRuns JsText ScpiFraming ScpiJobLifecycle ScpiReplyAttribution ScpiSession

def statusText : SessionManager.SessionStatus → String
  | .connecting => "connecting"
  | .connected => "connected"
  | .error => "error"

/- `POST /api/sessions/:id/scpi` up to its call of `sendRaw`: the session's status, the body's
`command` where it is a string, and whether its `expectReply` is truthy where there is one. -/
def postScpi (status : Option SessionManager.SessionStatus) (command : Option String)
    (expectReply : Option Bool) : Except (Nat × String) (String × Bool) :=
  match status with
  | none => .error (404,"not found")
  | some status =>
    if status ≠ .connected then
      .error (409,s!"session is {statusText status}, expected 'connected'")
    else
      let command := ((command.map fun text => trim text.toList).getD [])
      if command = [] then .error (400,"command is required")
      else .ok (String.ofList command,expectReply.getD (decide ('?' ∈ command)))

def sendRaw (command : String) (expectReply : Bool) : BenchEvent :=
  if expectReply then .query command none else .write command

def deleteArbitrary (sampleId : String) : String := s!":SOURce1:DATA:DELete {sampleId}"

def messages (bytes : Bytes) : List (List Char) := ((bytes.splitOn LF).dropLast).map (decodeChars none)

def isQuery (message : List Char) : Bool :=
  ((trim message).takeWhile fun c => !isSpace c).getLast? = some '?'

/- A device answers a query with a line or a block of its own choice, however the call that sent it
reads; the number tells the calls of the session apart. -/
structure Device where
  answer : Nat → List Char → Reply

def Device.reply (d : Device) (job : Job) : Bytes :=
  match job.request with
  | .command text =>
      ((messages (sendCommand [LF] text)).filter isQuery).flatMap fun m => (d.answer job.id m).bytes
  | .block _ _ => []

def OneLine (r : Reply) : Prop := ∃ l : Line, r.bytes = l.bytes

def step (reply : Job → Bytes) (b : Bench) (e : BenchEvent) : Bench :=
  let session := ScpiSession.step b.session (sessionEvent b.wire e)
  let handed := (handedJobs session.log).drop (handedJobs b.session.log).length
  ⟨session,leftOnWire b.wire e ++ handed.flatMap reply⟩

/- The bytes that are buffered or on their way are the reply to the command in flight; what has
settled left none. -/
def NothingLeft (d : Device) (b : Bench) : Prop :=
  b.session.closed = false → b.session.buffer ++ b.wire = b.session.inFlight.toList.flatMap d.reply

/- A command of one message, whose caller reads the reply that comes, if one does. -/
def Framed (d : Device) (job : Job) : Prop :=
  match job.request with
  | .command text => '\n' ∉ text.toList ∧
      (isQuery text.toList → ∃ value, ReadsAs job.mode (d.answer job.id text.toList).bytes value)
  | .block _ _ => True

/- No query that the device answers runs out of time, and no chunk ends between a block and its LF. -/
def OnTime (d : Device) (b : Bench) (e : BenchEvent) : Prop :=
  ∀ job, b.session.inFlight = some job →
    match e with
    | .deadline id => job.id = id → d.reply job = []
    | .deliver count => job.mode = .binary → b.wire.drop count ≠ [LF]
    | _ => True

def Calm (d : Device) (b : Bench) (e : BenchEvent) : Prop :=
  (∀ job, calledJob b.session e = some job → Framed d job) ∧ OnTime d b e

/- A raw command is one message, and whatever runs before it and after it, it leaves no reply. -/
structure Kept (d : Device) (command : String) (expectReply : Bool) : Prop where
  one : (messages (sendCommand [LF] command)).length = 1
  nothingLeft : ∀ before later : List BenchEvent,
    Along (step d.reply) (Calm d) connect before →
    Along (step d.reply) (Calm d) (run (step d.reply) connect (before ++ [sendRaw command expectReply])) later →
    Throughout (step d.reply) (NothingLeft d) connect (before ++ sendRaw command expectReply :: later)

theorem replyEnds (r : Reply) : ∃ body, r.bytes = body ++ [LF] := by
  obtain ⟨bytes,⟨l,rfl⟩ | ⟨b,rfl⟩⟩ := r
  · exact ⟨l.body,rfl⟩
  · exact ⟨b.bytes,rfl⟩

theorem oneMessage {text : String} (one : '\n' ∉ text.toList) :
    messages (sendCommand [LF] text) = [text.toList] := by
  have noLf : LF ∉ encode text := by
    rw [asciiText (b := LF) (by decide)]
    exact one
  rw [messages,sendCommand,List.splitOn_append_cons_self_of_not_mem noLf]
  simp

theorem oneMessageIff (text : String) :
    (messages (sendCommand [LF] text)).length = 1 ↔ '\n' ∉ text.toList := by
  constructor
  · intro one member
    have lf : LF ∈ encode text := (asciiText (b := LF) (by decide) text).mpr member
    obtain ⟨first,rest,whole⟩ := List.append_of_mem lf
    rw [messages,sendCommand,whole,List.append_assoc,List.cons_append,List.splitOn_append_cons_self,
      List.splitOn_append_cons_self] at one
    have front := List.length_pos_iff.mpr (List.splitOn_ne_nil LF first)
    have back := List.length_pos_iff.mpr (List.splitOn_ne_nil LF rest)
    simp at one
    omega
  · intro one
    rw [oneMessage one]
    rfl

theorem deletesOnceIff (sampleId : String) :
    (messages (sendCommand [LF] (deleteArbitrary sampleId))).length = 1 ↔ '\n' ∉ sampleId.toList := by
  have front : '\n' ∉ ":SOURce1:DATA:DELete ".toList := by decide
  have text : (deleteArbitrary sampleId).toList = ":SOURce1:DATA:DELete ".toList ++ sampleId.toList :=
    String.toList_append
  rw [oneMessageIff,text,List.mem_append,not_or]
  exact and_iff_right front

def misfit (mode : ReadMode) : Reply :=
  if mode = .binary then ⟨[0x30,LF],.inl ⟨⟨[0x30],by decide⟩,rfl⟩⟩
  else ⟨[0x23,0x31,0x31,LF,LF],.inr ⟨⟨[1],[LF],by decide,by decide,by decide⟩,rfl⟩⟩

theorem misfitUnread {mode : ReadMode} {value : Value} : ¬ ReadsAs mode (misfit mode).bytes value := by
  intro reads
  cases mode with
  | none => cases reads
  | line =>
    obtain ⟨l,whole,_⟩ := readsLine reads
    have whole : [0x23,0x31,0x31,LF] ++ [LF] = l.body ++ [LF] := whole
    have body : l.body = [0x23,0x31,0x31,LF] := (List.append_inj' whole rfl).1.symm
    exact l.noLf (by simp [body])
  | binary =>
    obtain ⟨b,whole,_⟩ := readsBlock reads
    have first := congrArg List.head? whole
    simp [misfit,Block.bytes,Block.header] at first

variable (d : Device)

def Device.once (job : Job) : Option Reply :=
  match job.request with
  | .command text =>
      if '\n' ∈ text.toList then some (misfit job.mode)
      else if isQuery text.toList then some (d.answer job.id text.toList) else none
  | .block _ _ => none

theorem onceFits {job : Job} (fits : Fits d.once job) : replyBytes d.once job = d.reply job := by
  cases request : job.request with
  | command text =>
    simp only [replyBytes,Device.once,Device.reply,request]
    by_cases one : '\n' ∈ text.toList
    · obtain ⟨value,reads⟩ := fits (misfit job.mode) (by simp [Device.once,request,one])
      exact absurd reads misfitUnread
    · rw [if_neg one,oneMessage one]
      by_cases query : isQuery text.toList
      · simp [query]
      · simp [query]
  | block command data => simp [replyBytes,Device.once,Device.reply,request]

theorem framedFits {job : Job} (framed : Framed d job) : Fits d.once job := by
  intro r answered
  cases request : job.request with
  | command text =>
    simp only [Framed,Device.once,request] at framed answered
    obtain ⟨one,read⟩ := framed
    rw [if_neg one] at answered
    split at answered
    · rename_i query
      obtain rfl := Option.some.inj answered
      exact read query
    · cases answered
  | block command data => simp [Device.once,request] at answered

theorem stepOnce {b : Bench} {e : BenchEvent} (aligned : Aligned d.once (benchStep d.once b e)) :
    step d.reply b e = benchStep d.once b e := by
  have fits : ∀ job ∈ handedJobs (benchStep d.once b e).session.log, Fits d.once job := by
    intro job handed
    apply aligned.fits
    exact aligned.tracked.ordered.subset (List.mem_append_left _ handed)
  simp only [step,benchStep,answers] at fits ⊢
  congr 2
  apply List.flatMap_congr
  intro job member
  exact (onceFits d (fits job (List.mem_of_mem_drop member))).symm

theorem stepAligned (b : Bench) (e : BenchEvent) (aligned : Aligned d.once b) (calm : Calm d b e) :
    Aligned d.once (step d.reply b e) := by
  have next : Aligned d.once (benchStep d.once b e) := by
    refine benchStepAligned b e aligned ⟨fun job called => framedFits d (calm.1 job called),?_⟩
    intro job flying
    have fits := aligned.fits job (trackedFlying aligned.tracked flying)
    have timely := calm.2 job flying
    cases e with
    | deadline id =>
      intro expired
      have silent := onceFits d fits
      rw [timely expired,replyBytes] at silent
      cases answered : d.once job with
      | none => rfl
      | some r =>
        obtain ⟨value,reads⟩ := fits r answered
        rw [answered] at silent
        exact absurd silent (readsAsLong reads).1
    | deliver count => exact timely
    | _ => trivial
  rw [stepOnce d next]
  exact next

theorem alignedLeaves {b : Bench} (aligned : Aligned d.once b) : NothingLeft d b := by
  intro open_
  cases flying : b.session.inFlight with
  | none =>
    obtain ⟨buffer,wire⟩ := aligned.quiet open_ flying
    simp [buffer,wire]
  | some job =>
    rw [(aligned.stream job flying).1,onceFits d (aligned.fits job (trackedFlying aligned.tracked flying))]
    simp

theorem framedLeaves {events : List BenchEvent} (calm : Along (step d.reply) (Calm d) connect events) :
    Throughout (step d.reply) (NothingLeft d) connect events :=
  (throughoutAlong (stepAligned d) (connectAligned _ _) calm).mono fun _ => alignedLeaves d

theorem rawCalm {command : String} {expectReply : Bool} (one : '\n' ∉ command.toList)
    (read : isQuery command.toList → expectReply ∧ ∀ n, OneLine (d.answer n command.toList)) (b : Bench) :
    Calm d b (sendRaw command expectReply) := by
  unfold sendRaw
  split
  · rename_i expected
    refine ⟨fun job called => ?_,fun job flying => trivial⟩
    obtain rfl := Option.some.inj called
    refine ⟨one,fun query => ?_⟩
    obtain ⟨l,bytes⟩ := (read query).2 b.session.nextId
    exact ⟨_,bytes ▸ ReadsAs.line l⟩
  · rename_i unexpected
    refine ⟨fun job called => ?_,fun job flying => trivial⟩
    obtain rfl := Option.some.inj called
    exact ⟨one,fun query => absurd (read query).1 unexpected⟩

theorem queryReply {command : String} (one : '\n' ∉ command.toList) (query : isQuery command.toList)
    {job : Job} (same : job.request = .command command) :
    d.reply job = (d.answer job.id command.toList).bytes := by
  simp [Device.reply,same,oneMessage one,query]

theorem unreadQuery {command : String} (one : '\n' ∉ command.toList) (query : isQuery command.toList) :
    ¬ NothingLeft d (run (step d.reply) connect [.write command,.writeResolved 0]) := by
  intro left
  obtain ⟨body,bytes⟩ := replyEnds (d.answer 0 command.toList)
  simp [NothingLeft,runCons,runNil,step,ScpiSession.step,sessionEvent,leftOnWire,enqueue,push,pump,connect,
    create,handedJobs,Effect.handedJob,resumePump,completeInFlight,settle,release,clearDeadline,
    queryReply d one query,bytes] at left

structure Resting (n : Nat) (b : Bench) : Prop where
  counted : b.session.nextId = n
  open_ : b.session.closed = false
  listening : b.session.listening = true
  free : b.session.inFlight = none
  queue : b.session.queue = []
  writing : b.session.writing = []
  buffer : b.session.buffer = []
  wire : b.wire = []

def pause (n : Nat) : List BenchEvent := [.write "A",.writeResolved n]

theorem pauseRests {n : Nat} {b : Bench} (rest : Resting n b) :
    Resting (n + 1) (run (step d.reply) b (pause n)) := by
  obtain ⟨⟨terminator,timeout,_,_,_,_,_,listeners,_,timers,_,log⟩,_⟩ := b
  obtain ⟨rfl,rfl,rfl,rfl,rfl,rfl,rfl,rfl⟩ := rest
  have silent (job : Job) (same : job.request = .command "A") : d.reply job = [] := by
    have none : isQuery ['A'] = false := by decide
    have text : "A".toList = ['A'] := by decide
    rw [Device.reply,same]
    simp only
    rw [oneMessage (by decide),text,List.filter_cons,none]
    rfl
  constructor <;>
    simp [pause,runCons,runNil,step,ScpiSession.step,sessionEvent,leftOnWire,enqueue,push,pump,resumePump,
      completeInFlight,settle,release,clearDeadline,handedJobs,Effect.handedJob,
      List.filterMap_cons,silent]

def pauses (n : Nat) : List BenchEvent := (List.range n).flatMap pause

theorem pausesRest (n : Nat) : Resting n (run (step d.reply) connect (pauses n)) := by
  induction n with
  | zero => constructor <;> rfl
  | succ n ih =>
    rw [pauses,List.range_succ,List.flatMap_append,runAppend,List.flatMap_singleton]
    exact pauseRests d ih

theorem pauseCalm (n : Nat) (b : Bench) : Along (step d.reply) (Calm d) b (pause n) := by
  have none : isQuery ['A'] = false := by decide
  simp [pause,Along,Calm,OnTime,calledJob,Framed,none]

theorem pausesCalm (n : Nat) : Along (step d.reply) (Calm d) connect (pauses n) := by
  induction n with
  | zero => trivial
  | succ n ih =>
    rw [pauses,List.range_succ,List.flatMap_append,alongAppend,List.flatMap_singleton]
    exact ⟨ih,pauseCalm d n _⟩

theorem firstLine {r : Reply} (several : ¬ OneLine r) :
    ∃ line rest, consumeLine r.bytes = some (line,rest) ∧ rest ≠ [] := by
  obtain ⟨body,bytes⟩ := replyEnds r
  have inside : LF ∈ body := by
    by_contra outside
    exact several ⟨⟨body,outside⟩,bytes⟩
  obtain ⟨first,rest,rfl,before⟩ := List.eq_append_cons_of_mem inside
  let l : Line := ⟨first,before⟩
  have split : r.bytes = l.bytes ++ (rest ++ [LF]) := by simp [l,bytes,Line.bytes]
  exact ⟨l.text,rest ++ [LF],by rw [split,consumeLineWhole],by simp⟩

theorem armDeadlineEq (s : Session) (job : Job) : armDeadline s job =
    { s with timers := if job.timeoutMs ≤ 0 then s.timers else s.timers ++ [job.id] } := by
  unfold armDeadline
  split <;> rfl

def asked (command : String) (n : Nat) (reply : Bytes) : List BenchEvent :=
  [.query command none,.writeResolved n,.deliver reply.length]

theorem severalLeft {command : String} (one : '\n' ∉ command.toList) (query : isQuery command.toList)
    {n : Nat} {b : Bench} (rest : Resting n b) (several : ¬ OneLine (d.answer n command.toList)) :
    ¬ NothingLeft d (run (step d.reply) b (asked command n (d.answer n command.toList).bytes)) := by
  obtain ⟨line,left,read,some⟩ := firstLine several
  obtain ⟨⟨terminator,timeout,_,_,_,_,_,listeners,_,timers,_,log⟩,_⟩ := b
  obtain ⟨rfl,rfl,rfl,rfl,rfl,rfl,rfl,rfl⟩ := rest
  intro nothing
  simp [NothingLeft,asked,runCons,runNil,step,ScpiSession.step,sessionEvent,leftOnWire,enqueue,push,pump,
    resumePump,armDeadlineEq,handleData,tryDeliver,consumeLineNone,completeInFlight,settle,release,clearDeadline,
    handedJobs,Effect.handedJob,List.filterMap_cons,queryReply d one query,read] at nothing
  exact some nothing

theorem askedCalm (command : String) {n : Nat} {b : Bench} (rest : Resting n b) (count : Nat) :
    Along (step d.reply) (Calm d) (step d.reply b (.query command none)) [.writeResolved n,.deliver count] := by
  refine ⟨⟨by simp [calledJob],fun _ _ => trivial⟩,⟨by simp [calledJob],?_⟩,trivial⟩
  obtain ⟨⟨terminator,timeout,_,_,_,_,_,listeners,_,timers,_,log⟩,_⟩ := b
  obtain ⟨rfl,rfl,rfl,rfl,rfl,rfl,rfl,rfl⟩ := rest
  intro job flying binary
  simp [step,ScpiSession.step,sessionEvent,enqueue,push,pump,resumePump,armDeadlineEq,tryDeliver,
    consumeLineNone] at flying
  simp [← flying] at binary

theorem keptIff (command : String) (expectReply : Bool) : Kept d command expectReply ↔
    '\n' ∉ command.toList ∧
      (isQuery command.toList → expectReply ∧ ∀ n, OneLine (d.answer n command.toList)) := by
  constructor
  · intro kept
    have one := (oneMessageIff command).mp kept.one
    refine ⟨one,fun query => ?_⟩
    have expected : expectReply = true := by
      by_contra unexpected
      have left := kept.nothingLeft [] [.writeResolved 0] trivial (by simp [Along,Calm,OnTime,calledJob])
      simp only [sendRaw,if_neg unexpected,List.nil_append] at left
      exact unreadQuery d one query left.last
    subst expected
    refine ⟨rfl,fun n => ?_⟩
    by_contra several
    have rest := pausesRest d n
    have left := kept.nothingLeft (pauses n)
      [.writeResolved n,.deliver (d.answer n command.toList).bytes.length] (pausesCalm d n) ?_
    · have last := left.last
      rw [runAppend] at last
      exact severalLeft d one query rest several last
    · rw [runAppend]
      exact askedCalm d command rest _
  · rintro ⟨one,read⟩
    refine ⟨(oneMessageIff command).mpr one,fun before later calm calm' => framedLeaves d ?_⟩
    rw [alongAppend,alongCons]
    refine ⟨calm,rawCalm d one read _,?_⟩
    rwa [runAppend] at calm'

/- A command is one message of which nothing is left exactly when it has no LF in it and, if it is a
query, it is sent as one and answered in one line. -/
theorem oneMessageEach (d : Device) (status : Option SessionManager.SessionStatus) (body : Option String)
    (expectReply : Option Bool) (sampleId : String) :
    (∀ command expected, postScpi status body expectReply = .ok (command,expected) →
      (Kept d command expected ↔ '\n' ∉ command.toList ∧
        (isQuery command.toList → expected ∧ ∀ n, OneLine (d.answer n command.toList)))) ∧
    ((messages (sendCommand [LF] (deleteArbitrary sampleId))).length = 1 ↔ '\n' ∉ sampleId.toList) :=
  ⟨fun command expected _ => keptIff d command expected,deletesOnceIff sampleId⟩

def scope : Device := ⟨fun _ _ => ⟨[0x23,0x31,0x32,LF,0x20,LF],.inr ⟨⟨[2],[LF,0x20],by decide,by decide,by decide⟩,rfl⟩⟩⟩

theorem scopeLines (n : Nat) (message : List Char) : ¬ OneLine (scope.answer n message) := by
  rintro ⟨l,whole⟩
  have whole : [0x23,0x31,0x32,LF,0x20] ++ [LF] = l.body ++ [LF] := whole
  have body : l.body = [0x23,0x31,0x32,LF,0x20] := (List.append_inj' whole rfl).1.symm
  exact l.noLf (by simp [body])

/- A command of two lines is sent on as two messages, a query may be sent as a write, a block may be
read as a line, and the name of a sample may end its command. -/
theorem unframedCommands :
    postScpi (some .connected) (some " VOLT 1\n*IDN?") none = .ok ("VOLT 1\n*IDN?",true) ∧
    ¬ Kept scope "VOLT 1\n*IDN?" true ∧
    postScpi (some .connected) (some "*IDN?") (some false) = .ok ("*IDN?",false) ∧
    ¬ Kept scope "*IDN?" false ∧
    postScpi (some .connected) (some ":WAV:DATA?") none = .ok (":WAV:DATA?",true) ∧
    ¬ Kept scope ":WAV:DATA?" true ∧
    messages (sendCommand [LF] (deleteArbitrary "a\n*RST")) =
      [":SOURce1:DATA:DELete a".toList,"*RST".toList] := by
  refine ⟨by decide,?_,by decide,?_,by decide,?_,by decide⟩
  · rw [keptIff,not_and]
    intro one
    exact absurd (by decide) one
  · rw [keptIff,not_and]
    intro _ read
    exact absurd (read (by decide)).1 (by decide)
  · rw [keptIff,not_and]
    intro _ read
    exact scopeLines 0 _ ((read (by decide)).2 0)

end LxiWeb.RawCommands
