import LxiWeb.SimulatedSession
import LxiWeb.TaskSimulations

/-! Driver calls whose requests go through a `ScpiSession` over the wire to a simulator: they take the
steps that they take at a port where the simulator answers each request when it is made. -/
namespace LxiWeb.WiredCalls
open AsyncTasks EventRuns JsText ScpiFraming ScpiReplyAttribution ScpiSession SimulatedCommands SimulatedSession
open TaskSimulations
open ScpiCalls (Answer Failure DriverMethod)
open ScpiJobLifecycle (Tracked trackedFlying)
open ScpiQuiescence (audienceTraffic)
open SimulatorFraming (bodyOf)
open SimulatorReplies (Simulator)

def asked : ScpiCalls.Request → BenchEvent
  | .write command => .write command
  | .writeBinary header payload => .writeBinary header payload
  | .query command => .query command none

def modeOf (r : ScpiCalls.Request) : ReadMode := if asksLine r then .line else .none

/- What the promise of a job was settled with; `none` is a rejection. -/
def settlement (id : Nat) (log : List Effect) : Option (Option Value) := log.findSome? fun
  | .resolved job value => if job.id = id then some (some value) else none
  | .rejected job _ => if job.id = id then some none else none
  | _ => none

def answerOf (r : ScpiCalls.Request) : Option Value → Answer
  | none => none
  | some (.text reply) => if asksLine r then some reply else some ""
  | some _ => if asksLine r then none else some ""

section
variable {V σ γ α : Type} (sim : Simulator V)

def overWire : World ScpiCalls.Request Answer (Loop V) Nat (List Effect) where
  take l r := (loopStep sim l (.client (asked r)),l.session.nextId)
  answer r id log := (settlement id log).map (answerOf r)

inductive WireEvent where
  | arrives (count : Nat)
  | deliver (count : Nat)
  | writeResolved (id : Nat)
  | deadline (id : Nat)
  | close
  | transportClosed (message : Option String)
  deriving DecidableEq, Repr

def WireEvent.loop : WireEvent → LoopEvent
  | .arrives count => .arrives count
  | .deliver count => .client (.deliver count)
  | .writeResolved id => .client (.writeResolved id)
  | .deadline id => .client (.deadline id)
  | .close => .client .close
  | .transportClosed message => .client (.transportClosed message)

inductive WiredEvent (γ : Type) where
  | call (c : γ)
  | resumes (index : Nat)
  | moves (e : WireEvent)
  deriving DecidableEq, Repr

variable (program : γ → Async σ ScpiCalls.Request Answer α)

abbrev WiredPool (V σ γ α : Type) := Pool σ ScpiCalls.Request Answer α γ (Loop V) Nat

abbrev PortPool (V σ γ α : Type) := Pool σ ScpiCalls.Request Answer α γ (SimulatorReplies.SessionState V) Answer

def wiredStep (pool : WiredPool V σ γ α) : WiredEvent γ → WiredPool V σ γ α
  | .call c => AsyncTasks.step (overWire sim) program pool (.call c)
  | .resumes index => AsyncTasks.step (overWire sim) program pool (.settle index pool.world.session.log)
  | .moves e => { pool with world := loopStep sim pool.world e.loop }

def Untroubled (pool : WiredPool V σ γ α) : WiredEvent γ → Prop
  | .moves (.deadline id) => ∀ job ∈ pool.world.session.inFlight, job.id ≠ id
  | .moves .close | .moves (.transportClosed _) => False
  | _ => True

instance decideUntroubled (pool : WiredPool V σ γ α) : (e : WiredEvent γ) → Decidable (Untroubled pool e)
  | .moves (.deadline id) => inferInstanceAs (Decidable (∀ job ∈ pool.world.session.inFlight, job.id ≠ id))
  | .moves .close | .moves (.transportClosed _) => isFalse not_false
  | .moves (.arrives _) | .moves (.deliver _) | .moves (.writeResolved _) => isTrue trivial
  | .call _ | .resumes _ => isTrue trivial

def portStep : PortPool V σ γ α → Event γ Unit → PortPool V σ γ α := AsyncTasks.step (atOnce (port sim)) program

/- What an event is for the calls; a call that still has to wait does not go on. -/
def counterpart (pool : WiredPool V σ γ α) : WiredEvent γ → Option (Event γ Unit)
  | .call c => some (.call c)
  | .resumes index => do
      let t ← pool.tasks[index]?
      let _ ← settlement t.receipt pool.world.session.log
      some (.settle index ())
  | .moves _ => none

end

section
variable (s : Session)

theorem staysOpen (opens : s.closed = false) (e : ScpiSession.Event)
    (traffic : e ≠ .close ∧ (∀ err, e ≠ .transportClosed err) ∧ (∀ l, e ≠ .onClose l) ∧
      ∀ l, e ≠ .offClose l) : (ScpiSession.step s e).closed = false := by
  have same := congrArg Prod.fst (audienceTraffic s e traffic)
  exact same.trans opens

theorem calledAsked (r : ScpiCalls.Request) :
    calledJob s (asked r) = some ⟨s.nextId,sent r,modeOf r,s.defaultTimeoutMs⟩ := by
  cases r <;> rfl

theorem stepAsked (wire : Bytes) (r : ScpiCalls.Request) :
    ScpiSession.step s (sessionEvent wire (asked r)) = enqueue s (sent r) (modeOf r) s.defaultTimeoutMs := by
  cases r <;> rfl

end

section
variable {V σ γ α : Type} (sim : Simulator V) (timeout : Int)

structure Tied (l : Loop V) (d : SimulatorReplies.SessionState V) : Prop where
  reached : ∃ events, l = run (loopStep sim) (connect sim timeout) events ∧
    Along (loopStep sim) (Undisturbed sim) (connect sim timeout) events ∧
    Along (loopStep sim) (Calls (Answered sim)) (connect sim timeout) events
  opens : l.session.closed = false
  texts : ∀ job ∈ enqueuedJobs l.session.log, job.mode ≠ .binary
  served : d = after sim ((enqueuedJobs l.session.log).map Job.request)

def Awaits (l : Loop V) (r : ScpiCalls.Request) (id : Nat) (answered : Answer) : Prop :=
  ∃ before job later, enqueuedJobs l.session.log = before ++ job :: later ∧ job.id = id ∧ job.request = sent r ∧
    job.mode = modeOf r ∧ Understood sim (after sim (before.map Job.request)) r ∧
    answered = (port sim (after sim (before.map Job.request)) r).2

variable {sim timeout} {l : Loop V} {d : SimulatorReplies.SessionState V} {r : ScpiCalls.Request}

theorem connectTied : Tied sim timeout (connect sim timeout) sim.personality.initialState where
  reached := ⟨[],rfl,trivial,trivial⟩
  opens := rfl
  texts job entered := by simp [SimulatedSession.connect,create] at entered
  served := rfl

theorem portServes (d : SimulatorReplies.SessionState V) (r : ScpiCalls.Request) :
    (port sim d r).1 = (serve sim d (sent r)).1 := by
  cases r <;> simp only [port,sent,serveCommand]

theorem understoodReads (understood : Understood sim d r) :
    (asksLine r = true ∧ ∃ l : Line, (serve sim d (sent r)).2 = l.bytes ∧ (port sim d r).2 = some l.text) ∨
      (asksLine r = false ∧ (serve sim d (sent r)).2 = [] ∧ (port sim d r).2 = some "") := by
  obtain ⟨-,answers⟩ := understood
  cases r with
  | query command =>
    obtain ⟨l,bytes⟩ := answers
    refine .inl ⟨rfl,l,bytes,?_⟩
    rw [sent,serveCommand] at bytes
    have read := consumeLineWhole l []
    rw [List.append_nil] at read
    simp only [port,bytes,read,Option.map_some]
  | write | writeBinary => exact .inr ⟨rfl,answers,rfl⟩

theorem Tied.next (tied : Tied sim timeout l d) {e : LoopEvent} (calm : Undisturbed sim l e)
    (answered : Calls (Answered sim) l e) (opens : (loopStep sim l e).session.closed = false)
    {calls : List Job} (log : enqueuedJobs (loopStep sim l e).session.log = enqueuedJobs l.session.log ++ calls)
    (texts : ∀ job ∈ calls, job.mode ≠ .binary) {d' : SimulatorReplies.SessionState V}
    (served : d' = (serveAll sim d (calls.map Job.request)).1) : Tied sim timeout (loopStep sim l e) d' := by
  obtain ⟨events,rfl,calmly,heard⟩ := tied.reached
  refine ⟨⟨events ++ [e],?_,?_,?_⟩,opens,?_,?_⟩
  · rw [runAppend]
    rfl
  · exact (alongAppend _ _ _ _).mpr ⟨calmly,calm,trivial⟩
  · exact (alongAppend _ _ _ _).mpr ⟨heard,answered,trivial⟩
  · intro job entered
    rw [log] at entered
    exact (List.mem_append.mp entered).elim (tied.texts job) (texts job)
  · rw [served,log,List.map_append,afterAppend,tied.served]

theorem askedLog (opens : l.session.closed = false) (r : ScpiCalls.Request) :
    enqueuedJobs (loopStep sim l (.client (asked r))).session.log =
      enqueuedJobs l.session.log ++ [⟨l.session.nextId,sent r,modeOf r,l.session.defaultTimeoutMs⟩] := by
  obtain ⟨-,more,log,called,-⟩ := grownOpen l.session opens (sent r) (modeOf r) l.session.defaultTimeoutMs
  simp only [loopStep,stepAsked,log,enqueuedAppend,called]

theorem askedTied (tied : Tied sim timeout l d) (understood : Understood sim d r) :
    Tied sim timeout (loopStep sim l (.client (asked r))) (port sim d r).1 := by
  have reply : replyTo sim ((enqueuedJobs l.session.log).map Job.request) (sent r) = (serve sim d (sent r)).2 := by
    rw [replyTo,← tied.served]
  have same {job : Job} (called : calledJob l.session (asked r) = some job) :
      job = ⟨l.session.nextId,sent r,modeOf r,l.session.defaultTimeoutMs⟩ := by
    rw [calledAsked] at called
    exact (Option.some.inj called).symm
  refine tied.next (e := .client (asked r)) ⟨fun job called => ?_,fun _ job _ _ _ => ?_⟩
    (fun job called query => ?_) ?_ (askedLog tied.opens r) ?_ ?_
  · obtain rfl := same called
    refine ⟨understood.1,?_⟩
    rw [reply]
    rcases understoodReads understood with ⟨line,l,bytes,-⟩ | ⟨-,nothing,-⟩
    · rw [bytes,modeOf,if_pos line]
      exact .inr ⟨_,.line l⟩
    · exact .inl nothing
  · cases r <;> trivial
  · obtain rfl := same called
    rw [reply]
    rcases understoodReads understood with ⟨-,l,bytes,-⟩ | ⟨none_,-⟩
    · simp [bytes,Line.bytes]
    · simp [modeOf,none_] at query
  · exact staysOpen _ tied.opens _ (by cases r <;> simp [asked,sessionEvent])
  · intro job member
    obtain rfl := List.mem_singleton.mp member
    unfold modeOf
    split <;> simp
  · rw [portServes]
    simp only [List.map_singleton,serveAll]

theorem movesTied (tied : Tied sim timeout l d) {pool : WiredPool V σ γ α} (world : pool.world = l) {e : WireEvent}
    (calm : Untroubled pool (.moves e)) : Tied sim timeout (loopStep sim l e.loop) d := by
  have quiet {e : BenchEvent} (none_ : calledJob l.session e = none) :
      enqueuedJobs (loopStep sim l (.client e)).session.log = enqueuedJobs l.session.log ++ [] := by
    obtain ⟨calls,⟨-,more,log,called,-⟩,own⟩ := grownStep l.session l.down e
    simp only [loopStep,log,enqueuedAppend,called]
    rcases own with rfl | ⟨job,call,-⟩
    · rfl
    · simp [none_] at call
  have nothing {e : BenchEvent} {job : Job} (called : calledJob l.session e = some job)
      (none_ : calledJob l.session e = none) : False := by simp [none_] at called
  have none_ : ∀ job ∈ ([] : List Job), job.mode ≠ .binary := fun _ => by simp
  cases e with
  | arrives count =>
    exact tied.next (e := .arrives count) trivial trivial tied.opens (List.append_nil _).symm none_ rfl
  | deliver count =>
    refine tied.next (e := .client (.deliver count)) ⟨fun job called => (nothing called rfl).elim,
      fun before job later place _ binary => ?_⟩ (fun job called => (nothing called rfl).elim) ?_ (quiet rfl) none_ rfl
    · exact absurd binary (tied.texts job (by simp [place]))
    · exact staysOpen _ tied.opens _ (by simp [sessionEvent])
  | writeResolved id =>
    refine tied.next (e := .client (.writeResolved id)) ⟨fun job called => (nothing called rfl).elim,
      fun _ _ _ _ _ => trivial⟩ (fun job called => (nothing called rfl).elim) ?_ (quiet rfl) none_ rfl
    exact staysOpen _ tied.opens _ (by simp [sessionEvent])
  | deadline id =>
    have late : ∀ job ∈ l.session.inFlight, job.id ≠ id := world ▸ calm
    refine tied.next (e := .client (.deadline id)) ⟨fun job called => (nothing called rfl).elim,
      fun _ job _ _ flying expired => absurd expired (late job flying)⟩
      (fun job called => (nothing called rfl).elim) ?_ (quiet rfl) none_ rfl
    exact staysOpen _ tied.opens _ (by simp [sessionEvent])
  | close | transportClosed => exact calm.elim

theorem awaitsKept {l' : Loop V} (grown : enqueuedJobs l.session.log <+: enqueuedJobs l'.session.log) {id : Nat}
    {answered : Answer} (awaits : Awaits sim l r id answered) : Awaits sim l' r id answered := by
  obtain ⟨before,job,later,place,rest⟩ := awaits
  obtain ⟨more,place'⟩ := placedIn grown place
  exact ⟨before,job,more,place',rest⟩

theorem wireStands : Stands (overWire sim) (atOnce (port sim)) (Understood sim) (Tied sim timeout) (Awaits sim) where
  takes l d r tied understood := by
    refine ⟨askedTied tied understood,_,_,[],@askedLog _ sim l tied.opens r,rfl,rfl,rfl,?_,?_⟩
    · rwa [← tied.served]
    · rw [← tied.served]
      rfl
  keeps l d r tied understood r' id answered awaits := awaitsKept (knownStep l _) awaits

section
variable {id : Nat} {answered : Answer}

theorem settledBy {log : List Effect} {outcome : Option Value} (settled : settlement id log = some outcome) :
    ∃ job, job.id = id ∧
      ((∃ value, .resolved job value ∈ log ∧ outcome = some value) ∨ ∃ err, .rejected job err ∈ log) := by
  obtain ⟨e,member,same⟩ := List.exists_of_findSome?_eq_some settled
  cases e with
  | resolved job value =>
    by_cases own : job.id = id
    · simp only [if_pos own] at same
      exact ⟨job,own,.inl ⟨value,member,(Option.some.inj same).symm⟩⟩
    · simp [own] at same
  | rejected job err =>
    by_cases own : job.id = id
    · exact ⟨job,own,.inr ⟨err,member⟩⟩
    · simp [own] at same
  | _ => contradiction

theorem settledOnce {s : Session} {job job' : Job} (tracked : Tracked s) (entered : job ∈ enqueuedJobs s.log)
    (settled : job' ∈ settledJobs s.log) (same : job'.id = job.id) : job' = job :=
  List.inj_on_of_nodup_map tracked.distinct (tracked.accounted.subset (by simp [settled])) entered same

theorem settledSame (atOnce_ : AtOnce sim) (tied : Tied sim timeout l d) (awaits : Awaits sim l r id answered)
    {outcome : Option Value} (settled : settlement id l.session.log = some outcome) : answerOf r outcome = answered := by
  obtain ⟨before,job,later,place,own,request,mode,understood,rfl⟩ := awaits
  have entered : job ∈ enqueuedJobs l.session.log := by simp [place]
  obtain ⟨events,rfl,calm,heard⟩ := tied.reached
  have sane := runSane timeout calm
  have lively := (runLively atOnce_ timeout calm heard).2.2
  obtain ⟨job',own',how⟩ := settledBy settled
  rcases how with ⟨value,resolved,rfl⟩ | ⟨err,rejected⟩
  · obtain rfl := settledOnce sane.tracked entered (List.mem_filterMap.mpr ⟨_,resolved,rfl⟩) (own'.trans own.symm)
    rcases understoodReads understood with ⟨line,l,bytes,answers⟩ | ⟨none_,-,answers⟩
    · have query : job'.mode = .line := by rw [mode,modeOf,if_pos line]
      have reads := mirrorsAnswer (runMirrors atOnce_ timeout calm) sane before job' later place (by simp [query])
        value resolved
      rw [query,replyTo,request,bytes] at reads
      generalize same : l.bytes = written at reads
      cases reads with
      | line l' =>
        have body : l.body = l'.body := List.append_cancel_right same
        rw [answers,answerOf,if_pos line,Line.text,Line.text,body]
    · rw [answers]
      cases value <;> simp [answerOf,none_]
  · exact absurd rejected (lively.kept tied.opens job' err)

theorem settledStill (atOnce_ : AtOnce sim) (tied : Tied sim timeout l d) (awaits : Awaits sim l r id answered)
    (still : Still l) : ∃ outcome, settlement id l.session.log = some outcome := by
  obtain ⟨before,job,later,place,own,-⟩ := awaits
  obtain ⟨events,rfl,calm,heard⟩ := tied.reached
  obtain ⟨value,resolved⟩ := runNoneLeft atOnce_ timeout calm heard still job (by simp [place])
  rw [← Option.isSome_iff_exists,settlement,List.findSome?_isSome_iff]
  exact ⟨_,resolved,by simp [own]⟩

end

section
variable {program : γ → Async σ ScpiCalls.Request Answer α} {pool : WiredPool V σ γ α} {pool' : PortPool V σ γ α}

abbrev Same (sim : Simulator V) (timeout : Int) (pool : WiredPool V σ γ α) (pool' : PortPool V σ γ α) : Prop :=
  SamePool (Tied sim timeout) (Awaits sim) pool pool'

theorem startSame (s : σ) : Same sim timeout (start s (connect sim timeout) : WiredPool V σ γ α)
    (start s sim.personality.initialState) := ⟨rfl,connectTied,.nil,rfl⟩

variable (sim program) in
abbrev Understands (pool' : PortPool V σ γ α) (e : AsyncTasks.Event γ Unit) : Prop :=
  Makes (atOnce (port sim)) program (fun _ => Understood sim) pool' e

theorem sameStep (atOnce_ : AtOnce sim) (same : Same sim timeout pool pool') {e : WiredEvent γ}
    (calm : Untroubled pool e) (understands : ∀ e' ∈ counterpart pool e, Understands sim program pool' e') :
    Same sim timeout (wiredStep sim program pool e) (run (portStep sim program) pool' (counterpart pool e).toList) := by
  cases e with
  | call c => exact callSame wireStands same c (understands _ rfl)
  | moves e =>
    exact { same with
      world := movesTied same.world rfl calm
      tasks := same.tasks.imp fun t t' (one : SameTask _ t t') =>
        { one with receipt := awaitsKept (knownStep pool.world e.loop) one.receipt } }
  | resumes index =>
    cases found : pool.tasks[index]? with
    | none => simpa [counterpart,wiredStep,AsyncTasks.step,found] using same
    | some t =>
      cases settled : settlement t.receipt pool.world.session.log with
      | none => simpa [counterpart,wiredStep,AsyncTasks.step,found,overWire,settled] using same
      | some outcome =>
        have own : counterpart pool (.resumes index) = some (.settle index ()) := by simp [counterpart,found,settled]
        rw [own] at understands ⊢
        refine settleSame (b := answerOf t.request outcome) wireStands same
          (fun r id answered b awaits gives => ?_) found ?_ (understands _ rfl)
        · obtain ⟨outcome',settled',rfl⟩ := Option.map_eq_some_iff.mp gives
          exact congrArg some (settledSame atOnce_ same.world awaits settled').symm
        · simp only [overWire,settled,Option.map_some]

theorem sameUnstuck (atOnce_ : AtOnce sim) (same : Same sim timeout pool pool') (still : Still pool.world) {index : Nat}
    (inside : index < pool.tasks.length) : counterpart pool (.resumes index) = some (.settle index ()) := by
  have one := same.tasks.get inside (same.tasks.length_eq ▸ inside)
  obtain ⟨outcome,settled⟩ := settledStill atOnce_ same.world one.receipt still
  simp only [List.get_eq_getElem] at settled
  simp [counterpart,List.getElem?_eq_getElem inside,settled]

end

end

section
variable {V σ γ α : Type} (sim : Simulator V) (timeout : Int) (program : γ → Async σ ScpiCalls.Request Answer α) (s : σ)
  (events : List (WiredEvent γ))

def wired : WiredPool V σ γ α := run (wiredStep sim program) (start s (connect sim timeout)) events

def portEvents : List (AsyncTasks.Event γ Unit) :=
  counterparts (wiredStep sim program) counterpart (start s (connect sim timeout)) events

def atPort : PortPool V σ γ α :=
  run (portStep sim program) (start s sim.personality.initialState) (portEvents sim timeout program s events)

structure Mirrored (pool : WiredPool V σ γ α) (pool' : PortPool V σ γ α) : Prop where
  shared : pool.shared = pool'.shared
  finished : pool.finished = pool'.finished
  running : pool.tasks.map Task.call = pool'.tasks.map Task.call

def NoneStuck (pool : WiredPool V σ γ α) : Prop :=
  Still pool.world → ∀ index, index < pool.tasks.length → counterpart pool (.resumes index) = some (.settle index ())

/-- Any number of calls run at once over one session: their requests reach the simulator whole, each once and
in the order in which they were made, and every call goes on with the reply to its own request, however the
bytes are cut and delayed, as long as no deadline fires on a request in flight and the connection stays. So the
calls go as they go at a port without a wire. -/
theorem wiredAsAtPort (atOnce_ : AtOnce sim)
    (calm : Along (wiredStep sim program) Untroubled (start s (connect sim timeout)) events)
    (understands : Along (portStep sim program) (Understands sim program) (start s sim.personality.initialState)
      (portEvents sim timeout program s events)) :
    Mirrored (wired sim timeout program s events) (atPort sim timeout program s events) ∧
      NoneStuck (wired sim timeout program s events) := by
  have begun : Same sim timeout (start s (connect sim timeout) : WiredPool V σ γ α)
      (start s sim.personality.initialState) := startSame s
  have same : Same sim timeout (wired sim timeout program s events) (atPort sim timeout program s events) :=
    runSimulates (R := Same sim timeout) (fun _ _ _ same calm understands => sameStep atOnce_ same calm understands)
      begun calm understands
  refine ⟨⟨same.shared,same.finished,?_⟩,fun still index inside => sameUnstuck atOnce_ same still inside⟩
  rw [← List.forall₂_eq_eq_eq,List.forall₂_map_left_iff,List.forall₂_map_right_iff]
  exact same.tasks.imp fun t t' one => one.call

end

def setsAndReads (other : Bool) : DriverMethod Unit String := do
  ScpiCalls.write (if other then "V 7" else "V 5")
  ScpiCalls.query "V?"

def levelCalls : List (WiredEvent Bool) :=
  [.call false,.call true,.moves (.arrives 4),.moves (.writeResolved 0),.resumes 0,.moves (.arrives 4),
    .moves (.writeResolved 1),.resumes 0,.moves (.arrives 3),.moves (.deliver 1),.moves (.writeResolved 2),.resumes 0,
    .moves (.deliver 1),.resumes 0,.moves (.deadline 2)]

def levelPortEvents : List (AsyncTasks.Event Bool Unit) :=
  [.call false,.call true,.settle 0 (),.settle 0 (),.settle 0 ()]

theorem levelUnderstands : Along (portStep level fun c => (setsAndReads c).run)
    (Understands level fun c => (setsAndReads c).run) (start () level.personality.initialState) levelPortEvents := by
  have silent {d : SimulatorReplies.SessionState String} {command : String}
      (line : LF ∉ bodyOf (.command command)) (nothing : (serve level d (.command command)).2 = []) :
      Understood level d (.write command) := ⟨line,nothing⟩
  have reads {d : SimulatorReplies.SessionState String} {command : String} {l : Line}
      (line : LF ∉ bodyOf (.command command)) (bytes : (serve level d (.command command)).2 = l.bytes) :
      Understood level d (.query command) := ⟨line,l,bytes⟩
  refine ⟨silent (by decide) (by decide),silent (by decide) (by decide),?_,?_,?_,trivial⟩
  · rintro t b ⟨⟩ ⟨⟩
    exact reads (l := ⟨[0x37],by decide⟩) (by decide) (by decide)
  · rintro t b ⟨⟩ ⟨⟩
    exact reads (l := ⟨[0x37],by decide⟩) (by decide) (by decide)
  · rintro t b ⟨⟩ ⟨⟩
    trivial

theorem levelCalm : Along (wiredStep level fun c => (setsAndReads c).run) Untroubled
    (start () (connect level 5000)) levelCalls := by
  decide

theorem wiredAsAtPortLevel :
    Mirrored (wired level 5000 (fun c => (setsAndReads c).run) () levelCalls)
        (atPort level 5000 (fun c => (setsAndReads c).run) () levelCalls) ∧
      NoneStuck (wired level 5000 (fun c => (setsAndReads c).run) () levelCalls) := by
  apply wiredAsAtPort level 5000 _ () levelCalls levelAtOnce levelCalm
  have own : portEvents level 5000 (fun c => (setsAndReads c).run) () levelCalls = levelPortEvents := by decide
  rw [own]
  exact levelUnderstands

section
variable {V σ γ α G : Type} {sim : Simulator V} {method : γ → DriverMethod σ α}
  {Shows : σ → SimulatorReplies.SessionState V → G → Prop} {spec : G → γ → G × Except Failure α} {first : G}

def callsOf : List (WiredEvent γ) → List γ := List.filterMap fun
  | .call c => some c
  | _ => none

def OneAtATime (pool : WiredPool V σ γ (Except Failure α)) : WiredEvent γ → Prop
  | .call _ => pool.tasks = []
  | _ => True

variable (spec first) in
/- The calls ended in their order with what the abstract machine returns, all but perhaps the last. -/
structure ReturnsInTurn (events : List (WiredEvent γ)) (pool : WiredPool V σ γ (Except Failure α)) : Prop where
  calls : calledSoFar pool = callsOf events
  atMostOne : pool.tasks.length ≤ 1
  results : pool.finished.map Prod.snd = StoredSettings.returned spec first (pool.finished.map Prod.fst)

theorem performsDoes {method : γ → DriverMethod Unit α} {Shows : SimulatorReplies.SessionState V → G → Prop}
    (does : ∀ g c, Does sim Shows (method c) () g (spec g c).2 () (spec g c).1) (s : Unit)
    (d : SimulatorReplies.SessionState V) (g : G) (c : γ) (shows_ : Shows d g) :
    Performs (port sim) (Understood sim) (fun _ : Unit => Shows) (method c).run s d (spec g c) := by
  obtain ⟨d',runs,next⟩ := does g c d shows_
  refine ⟨runs.understood,?_,?_⟩ <;> rw [runs.left]
  exact next

theorem wiredCalled {program : γ → Async σ ScpiCalls.Request Answer (Except Failure α)}
    {pool : WiredPool V σ γ (Except Failure α)} (one : pool.tasks.length ≤ 1) {events : List (WiredEvent γ)}
    (turns : Along (wiredStep sim program) OneAtATime pool events) :
    calledSoFar (run (wiredStep sim program) pool events) = calledSoFar pool ++ callsOf events ∧
      (run (wiredStep sim program) pool events).tasks.length ≤ 1 := by
  induction events generalizing pool with
  | nil => simpa [callsOf] using one
  | cons e rest ih =>
    obtain ⟨here,later⟩ := turns
    cases e with
    | call c =>
      obtain ⟨called,still⟩ := @resumeCalled _ _ _ _ _ _ _ _ (overWire sim) pool here c (program c)
      refine ⟨(ih still later).1.trans ?_,(ih still later).2⟩
      rw [called]
      simp [callsOf]
    | resumes index =>
      obtain ⟨called,still⟩ := @settleCalled _ _ _ _ _ _ _ _ (overWire sim) pool program one index
        pool.world.session.log
      refine ⟨(ih still later).1.trans ?_,(ih still later).2⟩
      rw [called]
      rfl
    | moves e => exact ih one later

/-- Calls that wait for one another return over the wire what the abstract machine returns of them, as long as no
deadline fires on a request in flight and the connection stays. -/
theorem wiredReturns (atOnce_ : AtOnce sim)
    (performs : ∀ s d g c, Shows s d g → Performs (port sim) (Understood sim) Shows (method c).run s d (spec g c))
    {memory : σ} (shown : Shows memory sim.personality.initialState first) (timeout : Int)
    (events : List (WiredEvent γ))
    (turns : Along (wiredStep sim fun c => (method c).run) OneAtATime (start memory (connect sim timeout)) events)
    (calm : Along (wiredStep sim fun c => (method c).run) Untroubled (start memory (connect sim timeout)) events) :
    ReturnsInTurn spec first events (wired sim timeout (fun c => (method c).run) memory events) ∧
      NoneStuck (wired sim timeout (fun c => (method c).run) memory events) := by
  let Related (pool : WiredPool V σ γ (Except Failure α)) (pool' : PortPool V σ γ (Except Failure α)) : Prop :=
    Same sim timeout pool pool' ∧ InTurn (port sim) (Understood sim) Shows spec first pool'
  have step (pool : WiredPool V σ γ (Except Failure α)) (pool' : PortPool V σ γ (Except Failure α))
      (e : WiredEvent γ) (related : Related pool pool') (fair : OneAtATime pool e ∧ Untroubled pool e) :
      Related (wiredStep sim (fun c => (method c).run) pool e)
        (run (portStep sim fun c => (method c).run) pool' (counterpart pool e).toList) := by
    obtain ⟨same,inTurn⟩ := related
    obtain ⟨turn,calm⟩ := fair
    have next : ∀ e' ∈ counterpart pool e, Understands sim (fun c => (method c).run) pool' e' ∧
        InTurn (port sim) (Understood sim) Shows spec first
          (portStep sim (fun c => (method c).run) pool' e') := by
      intro e' own
      cases e with
      | call c =>
        obtain rfl := Option.some.inj own
        have free : pool'.tasks = [] := by
          have lengths := same.tasks.length_eq
          rw [show pool.tasks = [] from turn] at lengths
          exact List.eq_nil_of_length_eq_zero lengths.symm
        exact callInTurn performs inTurn free c
      | resumes index =>
        have settles : e' = .settle index () := by
          simp only [counterpart,Option.mem_def,Option.bind_eq_bind,Option.bind_eq_some_iff] at own
          obtain ⟨_,_,_,_,own⟩ := own
          exact (Option.some.inj own).symm
        rw [settles]
        exact settleInTurn inTurn index
      | moves e => cases own
    refine ⟨sameStep atOnce_ same calm fun e' own => (next e' own).1,?_⟩
    cases own : counterpart pool e with
    | none => exact inTurn
    | some e' => exact (next e' own).2
  have along' := @alongAlways _ _ (portStep sim fun c => (method c).run) (fun _ => True) (fun _ _ => True)
    (fun _ _ _ => trivial) (fun _ _ _ => trivial) (start memory sim.personality.initialState) trivial
    (counterparts (wiredStep sim fun c => (method c).run) counterpart (start memory (connect sim timeout)) events)
  have begun : Related (start memory (connect sim timeout)) (start memory sim.personality.initialState) :=
    ⟨startSame memory,rfl,.inl ⟨rfl,shown⟩⟩
  obtain ⟨same,inTurn⟩ := runSimulates (R := Related) (fun pool pool' e related fair _ => step pool pool' e related fair)
    begun (alongBoth turns calm) along'
  have none_ : (start memory (connect sim timeout) : WiredPool V σ γ (Except Failure α)).tasks.length ≤ 1 :=
    Nat.zero_le 1
  obtain ⟨called,one⟩ := wiredCalled none_ turns
  refine ⟨⟨called,one,?_⟩,fun still index inside => sameUnstuck atOnce_ same still inside⟩
  have returned := inTurn.returned
  rwa [← same.finished] at returned

end

end LxiWeb.WiredCalls
