import LxiWeb.EventRuns
import LxiWeb.OutputKill
import LxiWeb.SessionRecords
import Mathlib.Data.List.Nodup

/-! `SessionManager.panic`. Every connected session that can be killed is told to switch its outputs
off, and every listed session ends up in the result. Panics may overlap; what becomes of a call of
`disableAllOutputs`, and when its timer fires, the environment says. -/
namespace LxiWeb.PanicRuns
open EventRuns OutputKill RingBuffers ScpiFraming SessionManager
open SessionEvents (Booked createTold)
open SessionRecords (Ringed listedAfter stepBooked stepOutcome stepRinged)

inductive SkipReason where
  | sessionNotConnected | notOutputKillable
  deriving DecidableEq, Repr

structure TouchedSession where
  sessionId : Nat
  idn : String
  outcome : OutputKillResult
  elapsedMs : Int
  deriving DecidableEq, Repr

structure SkippedSession where
  sessionId : Nat
  reason : SkipReason
  deriving DecidableEq, Repr

structure PanicResult where
  startedAt : Int
  finishedAt : Int
  touchedSessions : List TouchedSession
  skippedSessions : List SkippedSession
  deriving DecidableEq, Repr

/- A call of `panicOneSession`; it has returned once its row is there. -/
structure PanicOneSession where
  sessionId : Nat
  idn : String
  t0 : Rat
  row : Option TouchedSession

structure Panic where
  startedAt : Int
  skippedSessions : List SkippedSession
  calls : List PanicOneSession
  returned : Bool

/- Panics are numbered in the order in which they are called; `panicComplete` are the emitted results
with the numbers of their panics. -/
structure Panics where
  manager : Manager
  panicHistoryMax : Nat
  panics : List Panic
  panicHistory : List PanicResult
  panicComplete : List (Nat × PanicResult)

def create (manager : Manager) (panicHistoryMax : Nat := 20) : Panics := ⟨manager,panicHistoryMax,[],[],[]⟩

def isOutputKillableFacade (facade : Option Facade) : Bool := facade.any Facade.outputKillable

def skipReason (session : InternalSession) : Option SkipReason :=
  if session.status ≠ .connected then some .sessionNotConnected
  else if !isOutputKillableFacade session.facade then some .notOutputKillable
  else none

/- The loop over `this.#sessions.values()`. -/
def sortOut : List InternalSession → List SkippedSession × List InternalSession
  | [] => ([],[])
  | session :: rest =>
    let (skippedSessions,killable) := sortOut rest
    match skipReason session with
    | some reason => (⟨session.id,reason⟩ :: skippedSessions,killable)
    | none => (skippedSessions,session :: killable)

def values (m : Manager) : List InternalSession := m.sessions.map m.session

-- `panicOneSession` up to its `await`
def panicOneSession (session : InternalSession) (t0 : Rat) : PanicOneSession :=
  { sessionId := session.id
    idn := (session.identity.map DeviceIdentity.raw).getD "unknown"
    t0
    row := none }

/- `panic` up to its `await`. -/
def startPanic (s : Panics) (now : Int) (clock : Nat → Rat) : Panic :=
  let (skippedSessions,killable) := sortOut (values s.manager)
  { startedAt := now
    skippedSessions
    calls := killable.mapIdx fun i session => panicOneSession session (clock i)
    returned := false }

def killOutcome : Except JsError OutputKillResult → OutputKillResult
  | .ok outcome => outcome
  | .error err => ⟨.error,[],[⟨"panic",err.message⟩]⟩

-- `Math.round`
def round (x : Rat) : Int := (x + 1 / 2).floor

/- The promise of `withTimeout` settles, the first time with effect. -/
def PanicOneSession.settle (call : PanicOneSession) (outcome : Except JsError OutputKillResult) (clock : Rat) :
    PanicOneSession :=
  match call.row with
  | some _ => call
  | none =>
    let row : TouchedSession :=
      { sessionId := call.sessionId, idn := call.idn, outcome := killOutcome outcome
        elapsedMs := round (clock - call.t0) }
    { call with row := some row }

def Panic.settle (panic : Panic) (i : Nat) (outcome : Except JsError OutputKillResult) (clock : Rat) : Panic :=
  { panic with calls := panic.calls.modify i fun call => call.settle outcome clock }

def Panic.outcomes (panic : Panic) : Option (List TouchedSession) := panic.calls.mapM PanicOneSession.row

def settle (s : Panics) (p i : Nat) (outcome : Except JsError OutputKillResult) (clock : Rat) : Panics :=
  { s with panics := s.panics.modify p fun panic => panic.settle i outcome clock }

/- `panic` from its `await` on, which waits for all the outcomes. -/
def finishPanic (s : Panics) (p : Nat) (now : Int) : Panics :=
  match s.panics[p]? with
  | none => s
  | some panic =>
    match panic.returned, panic.outcomes with
    | false, some outcomes =>
      let result : PanicResult :=
        { startedAt := panic.startedAt, finishedAt := now, touchedSessions := outcomes
          skippedSessions := panic.skippedSessions }
      { s with
        panics := s.panics.modify p fun panic => { panic with returned := true }
        panicHistory := shiftTo s.panicHistoryMax (s.panicHistory ++ [result])
        panicComplete := s.panicComplete ++ [(p,result)] }
    | _, _ => s

def getPanicHistory (s : Panics) : List PanicResult := s.panicHistory

/- The sessions go on beside the panics: they are opened, closed and dropped as before. -/
inductive Event where
  | session (event : SessionManager.Event)
  | panic (now : Int) (clock : Nat → Rat)
  | settled (p i : Nat) (outcome : Except JsError OutputKillResult) (clock : Rat)
  | timedOut (p i : Nat) (clock : Rat)
  | resumed (p : Nat) (now : Int)

def step (s : Panics) : Event → Panics
  | .session event => { s with manager := SessionManager.step s.manager event }
  | .panic now clock => { s with panics := s.panics ++ [startPanic s now clock] }
  | .settled p i outcome clock => settle s p i outcome clock
  | .timedOut p i clock => settle s p i (.error ⟨.error,"panic-timeout"⟩) clock
  | .resumed p now => finishPanic s p now

def outputsCanBeKilled (session : InternalSession) : Prop :=
  session.status = .connected ∧ isOutputKillableFacade session.facade

structure Accounts (m : Manager) (result : PanicResult) : Prop where
  once : ∀ id ∈ m.sessions, (result.touchedSessions.map TouchedSession.sessionId ++
    result.skippedSessions.map SkippedSession.sessionId).count id = 1
  listed : ∀ id ∈ result.touchedSessions.map TouchedSession.sessionId ++
    result.skippedSessions.map SkippedSession.sessionId, id ∈ m.sessions
  touched : ∀ id ∈ m.sessions, id ∈ result.touchedSessions.map TouchedSession.sessionId ↔
    outputsCanBeKilled (m.session id)
  reason : ∀ row ∈ result.skippedSessions, row.reason =
    if (m.session row.sessionId).status = .connected then .notOutputKillable else .sessionNotConnected

/- The event gives call `i` of panic `p` an outcome. -/
def Brings (p i : Nat) (outcome : OutputKillResult) : Event → Prop
  | .settled p' i' got _ => p' = p ∧ i' = i ∧ outcome = killOutcome got
  | .timedOut p' i' _ => p' = p ∧ i' = i ∧ outcome = ⟨.error,[],[⟨"panic","panic-timeout"⟩]⟩
  | _ => False

structure Distinct (m : Manager) : Prop where
  nodup : m.sessions.Nodup
  booked : Booked m
  ringed : Ringed m

theorem listedNodup {m : Manager} (distinct : Distinct m) (e : SessionManager.Event) :
    (listedAfter m e).Nodup := by
  cases e with
  | openSession host port now =>
    rw [listedAfter]
    split
    · exact distinct.nodup
    · have fresh : m.nextId ∉ m.sessions := fun member =>
        absurd (distinct.booked.listed m.nextId member).1 (Nat.lt_irrefl _)
      exact List.Nodup.append distinct.nodup (List.nodup_singleton _) (List.disjoint_singleton.mpr fresh)
  | close id => exact distinct.nodup.filter _
  | _ => exact distinct.nodup

theorem distinctStep (m : Manager) (e : SessionManager.Event) (distinct : Distinct m) :
    Distinct (SessionManager.step m e) where
  nodup := by
    rw [(stepOutcome distinct.booked distinct.ringed e).sessions]
    exact listedNodup distinct e
  booked := stepBooked distinct.booked e
  ringed := stepRinged distinct.booked distinct.ringed e

theorem skippedOut {row : SkippedSession} (sessions : List InternalSession) : row ∈ (sortOut sessions).1 ↔
    ∃ session ∈ sessions, session.id = row.sessionId ∧ skipReason session = some row.reason := by
  induction sessions with
  | nil => simp [sortOut]
  | cons session rest ih =>
    rw [sortOut,List.exists_mem_cons_iff,← ih]
    cases reason : skipReason session with
    | none => simp
    | some r =>
      obtain ⟨id,r'⟩ := row
      simp [eq_comm]

theorem killableOut {session : InternalSession} (sessions : List InternalSession) :
    session ∈ (sortOut sessions).2 ↔ session ∈ sessions ∧ skipReason session = none := by
  induction sessions with
  | nil => simp [sortOut]
  | cons first rest ih =>
    rw [sortOut,List.mem_cons]
    cases reason : skipReason first with
    | none =>
      simp only [List.mem_cons,ih]
      constructor
      · rintro (rfl | later)
        · exact ⟨.inl rfl,reason⟩
        · exact ⟨.inr later.1,later.2⟩
      · rintro ⟨rfl | later,none_⟩
        · exact .inl rfl
        · exact .inr ⟨later,none_⟩
    | some r =>
      simp only [ih]
      constructor
      · rintro ⟨later,none_⟩
        exact ⟨.inr later,none_⟩
      · rintro ⟨rfl | later,none_⟩
        · rw [reason] at none_
          cases none_
        · exact ⟨later,none_⟩

theorem sortOutIds (sessions : List InternalSession) :
    ((sortOut sessions).2.map InternalSession.id ++ (sortOut sessions).1.map SkippedSession.sessionId).Perm
      (sessions.map InternalSession.id) := by
  induction sessions with
  | nil => exact .nil
  | cons session rest ih =>
    rw [sortOut,List.map_cons]
    cases skipReason session with
    | none => exact ih.cons _
    | some reason => exact List.perm_middle.trans (ih.cons _)

theorem killable_ (session : InternalSession) : skipReason session = none ↔ outputsCanBeKilled session := by
  unfold skipReason outputsCanBeKilled
  split
  · rename_i other
    simp [other]
  · rename_i connected
    rw [not_not] at connected
    cases killable : isOutputKillableFacade session.facade <;> simp [connected]

theorem reasonSkipped {session : InternalSession} {reason : SkipReason} (skipped : skipReason session = some reason) :
    reason = if session.status = .connected then .notOutputKillable else .sessionNotConnected := by
  unfold skipReason at skipped
  split at skipped
  · rename_i other
    rw [if_neg other]
    exact (Option.some.inj skipped).symm
  · rename_i connected
    rw [not_not] at connected
    rw [if_pos connected]
    split at skipped
    · exact (Option.some.inj skipped).symm
    · cases skipped

theorem valuesIds {m : Manager} (distinct : Distinct m) : (values m).map InternalSession.id = m.sessions := by
  rw [values,List.map_map]
  calc m.sessions.map (InternalSession.id ∘ m.session)
    _ = m.sessions.map id := List.map_congr_left fun k _ => distinct.booked.named k
    _ = m.sessions := List.map_id _

theorem accountsOf {m : Manager} (distinct : Distinct m) {result : PanicResult}
    (skipped : result.skippedSessions = (sortOut (values m)).1)
    (touched : result.touchedSessions.map TouchedSession.sessionId =
      (sortOut (values m)).2.map InternalSession.id) : Accounts m result := by
  have all := sortOutIds (values m)
  rw [valuesIds distinct,← skipped,← touched] at all
  have value (session : InternalSession) (member : session ∈ values m) : session.id ∈ m.sessions ∧
      m.session session.id = session := by
    obtain ⟨k,listed,rfl⟩ := List.mem_map.mp member
    rw [distinct.booked.named]
    exact ⟨listed,rfl⟩
  refine ⟨fun id member => ?_,fun id member => all.mem_iff.mp member,fun id member => ?_,fun row member => ?_⟩
  · rw [all.count_eq,distinct.nodup.count,if_pos member]
  · rw [touched,← killable_]
    constructor
    · intro listed
      obtain ⟨session,killable,rfl⟩ := List.mem_map.mp listed
      obtain ⟨there,none_⟩ := (killableOut _).mp killable
      rwa [(value session there).2]
    · intro none_
      have there : m.session id ∈ values m := List.mem_map_of_mem member
      exact List.mem_map.mpr ⟨m.session id,(killableOut _).mpr ⟨there,none_⟩,distinct.booked.named id⟩
  · rw [skipped,skippedOut] at member
    obtain ⟨session,there,same,reason⟩ := member
    rw [← same,(value session there).2]
    exact reasonSkipped reason

theorem outcomesRows {panic : Panic} {rows : List TouchedSession} :
    panic.outcomes = some rows ↔ panic.calls.map PanicOneSession.row = rows.map some := by
  unfold Panic.outcomes
  induction panic.calls generalizing rows with
  | nil => cases rows <;> simp
  | cons call rest ih =>
    rw [List.mapM_cons,List.map_cons]
    cases row : call.row with
    | none => cases rows <;> simp
    | some r =>
      cases later : rest.mapM PanicOneSession.row with
      | none =>
        cases rows with
        | nil => simp
        | cons first more =>
          have none_ : rest.map PanicOneSession.row ≠ more.map some := by
            rw [ne_eq,← ih,later]
            exact nofun
          simp [none_]
      | some found =>
        cases rows with
        | nil => simp
        | cons first more => simp [← ih,later]

theorem rowsThere {calls : List PanicOneSession} (rows : ∀ call ∈ calls, call.row.isSome) :
    calls.map PanicOneSession.row = (calls.filterMap PanicOneSession.row).map some := by
  induction calls with
  | nil => rfl
  | cons call rest ih =>
    obtain ⟨row,there⟩ := Option.isSome_iff_exists.mp (rows call List.mem_cons_self)
    have later := ih fun c member => rows c (List.mem_cons_of_mem _ member)
    rw [List.map_cons,List.filterMap_cons_some there,List.map_cons,there,later]

/- What has become of call `i` of panic `p` in the events seen. -/
structure CallOf (p i : Nat) (seen : List Event) (sessionId : Nat) (call : PanicOneSession) : Prop where
  same : call.sessionId = sessionId
  row : ∀ row, call.row = some row → row.sessionId = sessionId ∧ ∃ e ∈ seen, Brings p i row.outcome e
  served : (∃ e ∈ seen, ∃ outcome, Brings p i outcome e) → call.row.isSome

structure ResultOf (p : Nat) (noted : Panic) (seen : List Event) (result : PanicResult) : Prop where
  skipped : result.skippedSessions = noted.skippedSessions
  ids : result.touchedSessions.map TouchedSession.sessionId = noted.calls.map PanicOneSession.sessionId
  brought : ∀ i row, result.touchedSessions[i]? = some row → ∃ e ∈ seen, Brings p i row.outcome e

structure Follows (p : Nat) (noted : Panic) (seen : List Event) (s : Panics) (panic : Panic) : Prop where
  there : s.panics[p]? = some panic
  skipped : panic.skippedSessions = noted.skippedSessions
  length : panic.calls.length = noted.calls.length
  calls : ∀ i first call, noted.calls[i]? = some first → panic.calls[i]? = some call →
    CallOf p i seen first.sessionId call
  returned : panic.returned = true → ∃ result, (p,result) ∈ s.panicComplete
  results : ∀ result, (p,result) ∈ s.panicComplete → ResultOf p noted seen result

section
variable {p i : Nat} {seen : List Event} {e : Event}

theorem CallOf.later {sessionId : Nat} {call : PanicOneSession} (known : CallOf p i seen sessionId call)
    (other : ∀ outcome, ¬ Brings p i outcome e) : CallOf p i (seen ++ [e]) sessionId call where
  same := known.same
  row row there := by
    obtain ⟨own,e',member,brings⟩ := known.row row there
    exact ⟨own,e',List.mem_append_left _ member,brings⟩
  served := by
    rintro ⟨e',member,outcome,brings⟩
    rcases List.mem_append.mp member with before | new
    · exact known.served ⟨e',before,outcome,brings⟩
    · rw [List.mem_singleton.mp new] at brings
      exact absurd brings (other outcome)

theorem ResultOf.later {noted : Panic} {result : PanicResult} (known : ResultOf p noted seen result) :
    ResultOf p noted (seen ++ [e]) result where
  skipped := known.skipped
  ids := known.ids
  brought i row there := by
    obtain ⟨e',member,brings⟩ := known.brought i row there
    exact ⟨e',List.mem_append_left _ member,brings⟩

theorem CallOf.settled {sessionId : Nat} {call : PanicOneSession} (known : CallOf p i seen sessionId call)
    (outcome : Except JsError OutputKillResult) (clock : Rat)
    (brings : Brings p i (killOutcome outcome) e) :
    CallOf p i (seen ++ [e]) sessionId (call.settle outcome clock) := by
  unfold PanicOneSession.settle
  split
  · rename_i row there
    refine ⟨known.same,fun row' there' => ?_,fun _ => by rw [there]; rfl⟩
    obtain ⟨own,e',member,brought⟩ := known.row row' there'
    exact ⟨own,e',List.mem_append_left _ member,brought⟩
  · refine ⟨known.same,fun row' there' => ?_,fun _ => rfl⟩
    cases there'
    exact ⟨known.same,e,List.mem_append_right _ (List.mem_singleton_self e),brings⟩

end

section
variable {p : Nat} {noted : Panic} {seen : List Event} {e : Event} {s s' : Panics} {panic : Panic}

theorem Follows.untouched (known : Follows p noted seen s panic) (there : s'.panics[p]? = s.panics[p]?)
    (complete : ∀ result, (p,result) ∈ s'.panicComplete ↔ (p,result) ∈ s.panicComplete)
    (other : ∀ i outcome, ¬ Brings p i outcome e) : Follows p noted (seen ++ [e]) s' panic where
  there := there.trans known.there
  skipped := known.skipped
  length := known.length
  calls i first call before now := (known.calls i first call before now).later (other i)
  returned done := by
    obtain ⟨result,member⟩ := known.returned done
    exact ⟨result,(complete result).mpr member⟩
  results result member := (known.results result ((complete result).mp member)).later

theorem Follows.settled (known : Follows p noted seen s panic) (i : Nat)
    (outcome : Except JsError OutputKillResult) (clock : Rat) (brings : Brings p i (killOutcome outcome) e)
    (other : ∀ j outcome, j ≠ i → ¬ Brings p j outcome e) :
    Follows p noted (seen ++ [e]) (settle s p i outcome clock) (panic.settle i outcome clock) where
  there := by simp [settle,known.there]
  skipped := known.skipped
  length := by simpa [Panic.settle] using known.length
  calls j first call before now := by
    rw [Panic.settle,List.getElem?_modify] at now
    obtain ⟨call',at_,same⟩ := Option.map_eq_some_iff.mp now
    have mine := known.calls j first call' before at_
    by_cases this : i = j
    · subst this
      rw [if_pos rfl] at same
      subst same
      exact mine.settled outcome clock brings
    · rw [if_neg this] at same
      subst same
      exact mine.later fun out => other j out (Ne.symm this)
  returned := known.returned
  results result member := (known.results result member).later

theorem Follows.finished (known : Follows p noted seen s panic) (now : Int)
    (other : ∀ i outcome, ¬ Brings p i outcome e) :
    ∃ panic', Follows p noted (seen ++ [e]) (finishPanic s p now) panic' := by
  unfold finishPanic
  rw [known.there]
  dsimp only
  split
  · rename_i outcomes _ rows
    have mapped := outcomesRows.mp rows
    have length := known.length
    have count : panic.calls.length = outcomes.length := by
      rw [← List.length_map (f := PanicOneSession.row),mapped,List.length_map]
    -- the rows stand where the calls stand
    have at_ (i : Nat) (row : TouchedSession) (there : outcomes[i]? = some row) :
        ∃ first call, noted.calls[i]? = some first ∧ CallOf p i seen first.sessionId call ∧
          call.row = some row := by
      have within : i < outcomes.length := (List.getElem?_eq_some_iff.mp there).1
      have same := congrArg (·[i]?) mapped
      simp only [List.getElem?_map,there,Option.map_some] at same
      obtain ⟨call,calls,row_⟩ := Option.map_eq_some_iff.mp same
      have first := List.getElem?_eq_getElem (show i < noted.calls.length by omega)
      exact ⟨_,call,first,known.calls i _ call first calls,row_⟩
    have fresh : ResultOf p noted (seen ++ [e]) ⟨panic.startedAt,now,outcomes,panic.skippedSessions⟩ := by
      refine ⟨known.skipped,?_,fun i row there => ?_⟩
      · refine List.ext_getElem? fun i => ?_
        rw [List.getElem?_map,List.getElem?_map]
        cases there : outcomes[i]? with
        | none =>
          have short := List.getElem?_eq_none_iff.mp there
          rw [List.getElem?_eq_none (by rw [← known.length]; omega)]
          rfl
        | some row =>
          obtain ⟨first,call,before,mine,row_⟩ := at_ i row there
          rw [before,Option.map_some,Option.map_some,(mine.row row row_).1]
      · obtain ⟨_,call,_,mine,row_⟩ := at_ i row there
        obtain ⟨_,e',member,brings⟩ := mine.row row row_
        exact ⟨e',List.mem_append_left _ member,brings⟩
    refine ⟨{ panic with returned := true },?_,known.skipped,known.length,?_,?_,?_⟩
    · simp [known.there]
    · exact fun i first call before now => (known.calls i first call before now).later (other i)
    · exact fun _ => ⟨_,List.mem_append_right _ (List.mem_singleton_self _)⟩
    · intro result member
      rcases List.mem_append.mp member with before | new
      · exact (known.results result before).later
      · cases List.mem_singleton.mp new
        exact fresh
  · exact ⟨panic,known.untouched rfl (fun _ => Iff.rfl) other⟩

theorem finishOther (s : Panics) {q : Nat} (now : Int) (different : q ≠ p) :
    (finishPanic s q now).panics[p]? = s.panics[p]? ∧
      ∀ result, (p,result) ∈ (finishPanic s q now).panicComplete ↔ (p,result) ∈ s.panicComplete := by
  unfold finishPanic
  split
  · exact ⟨rfl,fun _ => Iff.rfl⟩
  · split
    · refine ⟨List.getElem?_modify_ne _ _ different,fun result => ?_⟩
      simp [different.symm]
    · exact ⟨rfl,fun _ => Iff.rfl⟩

theorem followsStep (known : Follows p noted seen s panic) (e : Event) :
    ∃ panic', Follows p noted (seen ++ [e]) (step s e) panic' := by
  cases e with
  | session event => exact ⟨panic,known.untouched rfl (fun _ => Iff.rfl) fun _ _ => id⟩
  | panic now clock =>
    have within := (List.getElem?_eq_some_iff.mp known.there).1
    exact ⟨panic,known.untouched (List.getElem?_append_left within) (fun _ => Iff.rfl) fun _ _ => id⟩
  | settled q i outcome clock =>
    by_cases same : q = p
    · subst same
      exact ⟨_,known.settled i outcome clock ⟨rfl,rfl,rfl⟩ fun j _ different brings => different brings.2.1.symm⟩
    · exact ⟨panic,known.untouched (List.getElem?_modify_ne _ _ same) (fun _ => Iff.rfl)
        fun _ _ brings => same brings.1⟩
  | timedOut q i clock =>
    by_cases same : q = p
    · subst same
      exact ⟨_,known.settled i _ clock ⟨rfl,rfl,rfl⟩ fun j _ different brings => different brings.2.1.symm⟩
    · exact ⟨panic,known.untouched (List.getElem?_modify_ne _ _ same) (fun _ => Iff.rfl)
        fun _ _ brings => same brings.1⟩
  | resumed q now =>
    by_cases same : q = p
    · subst same
      exact known.finished now fun _ _ => id
    · obtain ⟨there,complete⟩ := finishOther s now same
      exact ⟨panic,known.untouched there complete fun _ _ => id⟩

end

structure Sound (max : Nat) (s : Panics) : Prop where
  distinct : Distinct s.manager
  capacity : s.panicHistoryMax = max
  history : s.panicHistory = shiftTo max (s.panicComplete.map Prod.snd)
  once : (s.panicComplete.map Prod.fst).Nodup
  numbered : ∀ p result, (p,result) ∈ s.panicComplete →
    ∃ panic, s.panics[p]? = some panic ∧ panic.returned = true

theorem settleSound {max : Nat} {s : Panics} (sound : Sound max s) (q i : Nat)
    (outcome : Except JsError OutputKillResult) (clock : Rat) : Sound max (settle s q i outcome clock) where
  distinct := sound.distinct
  capacity := sound.capacity
  history := sound.history
  once := sound.once
  numbered p result member := by
    obtain ⟨panic,there,returned⟩ := sound.numbered p result member
    by_cases same : q = p
    · subst same
      exact ⟨panic.settle i outcome clock,by simp [settle,there],returned⟩
    · exact ⟨panic,by rw [← there]; exact List.getElem?_modify_ne _ _ same,returned⟩

theorem finishSound {max : Nat} {s : Panics} (sound : Sound max s) (q : Nat) (now : Int) :
    Sound max (finishPanic s q now) := by
  unfold finishPanic
  split
  · exact sound
  · rename_i panic there
    split
    · rename_i outcomes running rows
      refine ⟨sound.distinct,sound.capacity,?_,?_,?_⟩
      · simp only [List.map_append,List.map_singleton]
        rw [sound.capacity,sound.history,shiftSnoc]
      · simp only [List.map_append,List.map_singleton]
        refine List.nodup_append.mpr ⟨sound.once,List.pairwise_singleton _ _,?_⟩
        rintro p member _ new rfl
        rw [List.mem_singleton] at new
        subst new
        obtain ⟨⟨_,result⟩,listed,rfl⟩ := List.mem_map.mp member
        obtain ⟨panic',there',returned⟩ := sound.numbered _ result listed
        rw [there] at there'
        cases there'
        rw [running] at returned
        cases returned
      · intro p result member
        by_cases same : q = p
        · subst same
          exact ⟨{ panic with returned := true },by simp [there],rfl⟩
        · rcases List.mem_append.mp member with before | new
          · obtain ⟨panic',there',returned⟩ := sound.numbered p result before
            exact ⟨panic',by rw [← there']; exact List.getElem?_modify_ne _ _ same,returned⟩
          · cases List.mem_singleton.mp new
            exact absurd rfl same
    · exact sound

theorem soundStep {max : Nat} (s : Panics) (e : Event) (sound : Sound max s) : Sound max (step s e) := by
  cases e with
  | session event =>
    exact ⟨distinctStep _ event sound.distinct,sound.capacity,sound.history,sound.once,sound.numbered⟩
  | panic now clock =>
    refine ⟨sound.distinct,sound.capacity,sound.history,sound.once,fun p result member => ?_⟩
    obtain ⟨panic,there,returned⟩ := sound.numbered p result member
    have within := (List.getElem?_eq_some_iff.mp there).1
    exact ⟨panic,(List.getElem?_append_left within).trans there,returned⟩
  | settled q i outcome clock => exact settleSound sound q i outcome clock
  | timedOut q i clock => exact settleSound sound q i _ clock
  | resumed q now => exact finishSound sound q now

theorem createSound (registry maxSessions transcriptRingMax deviceErrorRingMax) (panicHistoryMax : Nat) :
    Sound panicHistoryMax (create
      (SessionManager.create registry maxSessions transcriptRingMax deviceErrorRingMax) panicHistoryMax) where
  distinct := ⟨List.nodup_nil,(createTold registry maxSessions transcriptRingMax deviceErrorRingMax).booked,nofun⟩
  capacity := rfl
  history := by simp [create,shiftTo]
  once := List.Pairwise.nil
  numbered := by simp [create]

theorem startedIds (s : Panics) (now clock) :
    (startPanic s now clock).calls.map PanicOneSession.sessionId =
      (sortOut (values s.manager)).2.map InternalSession.id := by
  refine List.ext_getElem? fun i => ?_
  simp [startPanic,panicOneSession,Function.comp_def]

theorem startedFollows {max : Nat} {s : Panics} (sound : Sound max s) (now clock) :
    Follows s.panics.length (startPanic s now clock) [] (step s (.panic now clock))
      (startPanic s now clock) where
  there := by simp [step]
  skipped := rfl
  length := rfl
  calls i first call before now_ := by
    rw [before] at now_
    cases now_
    have waiting : first.row = none := by
      have made : (startPanic s now clock).calls[i]? =
          (sortOut (values s.manager)).2[i]?.map fun session => panicOneSession session (clock i) := by
        simp [startPanic]
      obtain ⟨session,_,rfl⟩ := Option.map_eq_some_iff.mp (made.symm.trans before)
      rfl
    refine ⟨rfl,fun row there => ?_,fun ⟨_,member,_⟩ => absurd member List.not_mem_nil⟩
    rw [waiting] at there
    cases there
  returned done := by cases done
  results result member := by
    obtain ⟨panic,there,_⟩ := sound.numbered _ result member
    rw [List.getElem?_eq_none (Nat.le_refl _)] at there
    cases there

theorem followsRun {p : Nat} {noted panic : Panic} {seen : List Event} {s : Panics}
    (known : Follows p noted seen s panic) (events : List Event) :
    ∃ panic', Follows p noted (seen ++ events) (run step s events) panic' := by
  induction events generalizing seen s panic with
  | nil => exact ⟨panic,by rw [List.append_nil]; exact known⟩
  | cons e rest ih =>
    obtain ⟨_,next⟩ := followsStep known e
    obtain ⟨panic',last⟩ := ih next
    exact ⟨panic',by rwa [List.append_assoc,List.singleton_append] at last⟩

theorem followsResumed {p : Nat} {noted panic : Panic} {seen : List Event} {s : Panics}
    (known : Follows p noted seen s panic)
    (served : ∀ i < noted.calls.length, ∃ e ∈ seen, ∃ outcome, Brings p i outcome e) (now : Int) :
    ∃ result, (p,result) ∈ (finishPanic s p now).panicComplete := by
  have rows : ∀ call ∈ panic.calls, call.row.isSome := by
    intro call member
    obtain ⟨i,there⟩ := List.mem_iff_getElem?.mp member
    have within := (List.getElem?_eq_some_iff.mp there).1
    rw [known.length] at within
    exact (known.calls i _ call (List.getElem?_eq_getElem within) there).served (served i within)
  have outcomes := outcomesRows.mpr (rowsThere rows)
  cases running : panic.returned with
  | true =>
    obtain ⟨result,member⟩ := known.returned running
    refine ⟨result,?_⟩
    simpa [finishPanic,known.there,running] using member
  | false => simp [finishPanic,known.there,running,outcomes]

theorem completeStays {x : Nat × PanicResult} (s : Panics) (e : Event) (member : x ∈ s.panicComplete) :
    x ∈ (step s e).panicComplete := by
  cases e with
  | session event => exact member
  | panic now clock => exact member
  | settled q i outcome clock => exact member
  | timedOut q i clock => exact member
  | resumed q now =>
    unfold step finishPanic
    dsimp only
    split
    · exact member
    · split
      · exact List.mem_append_left _ member
      · exact member

/- What becomes of a panic that is called in `called` and followed by the events `after`. -/
structure Met (called : Panics) (after : List Event) (ended : Panics) : Prop where
  accounts : ∀ result, (called.panics.length,result) ∈ ended.panicComplete → Accounts called.manager result
  outcomes : ∀ result, (called.panics.length,result) ∈ ended.panicComplete → ∀ i row,
    result.touchedSessions[i]? = some row → ∃ e ∈ after, Brings called.panics.length i row.outcome e
  resolves : ∀ during now rest, after = during ++ .resumed called.panics.length now :: rest →
    (∀ i < (sortOut (values called.manager)).2.length,
      ∃ e ∈ during, ∃ outcome, Brings called.panics.length i outcome e) →
    ∃ result, (called.panics.length,result) ∈ ended.panicComplete

theorem soundMet {max : Nat} {called : Panics} (sound : Sound max called) (now clock)
    (after : List Event) :
    Met called after (run step (step called (.panic now clock)) after) := by
  have begun := startedFollows sound now clock
  obtain ⟨_,last⟩ := followsRun begun after
  rw [List.nil_append] at last
  refine ⟨fun result member => ?_,fun result member => (last.results result member).brought,?_⟩
  · have own := last.results result member
    exact accountsOf sound.distinct own.skipped (own.ids.trans (startedIds called now clock))
  · rintro during later rest rfl served
    obtain ⟨_,waiting⟩ := followsRun begun during
    rw [List.nil_append] at waiting
    have count : (startPanic called now clock).calls.length =
        (sortOut (values called.manager)).2.length := by simp [startPanic]
    obtain ⟨result,member⟩ := followsResumed waiting (fun i within => served i (count ▸ within)) later
    rw [runAppend,runCons]
    exact ⟨result,runKeeps (completeStays) rest member⟩

/- A panic accounts for every session, and none is forgotten that came to its end. -/
theorem panicAccounts (registry : DeviceIdentity → Option DriverEntry)
    (maxSessions transcriptRingMax deviceErrorRingMax panicHistoryMax : Nat) (events : List Event) :
    let start := create (SessionManager.create registry maxSessions transcriptRingMax deviceErrorRingMax)
      panicHistoryMax
    let ended := run step start events
    (∀ before now clock after, events = before ++ .panic now clock :: after →
      Met (run step start before) after ended) ∧
    getPanicHistory ended = shiftTo panicHistoryMax (ended.panicComplete.map Prod.snd) ∧
    (ended.panicComplete.map Prod.fst).Nodup := by
  intro start ended
  have begun : Sound panicHistoryMax start := createSound _ _ _ _ _
  have sound (seen : List Event) : Sound panicHistoryMax (run step start seen) :=
    runKeeps soundStep seen begun
  refine ⟨?_,(sound events).history,(sound events).once⟩
  rintro before now clock after rfl
  have met := soundMet (sound before) now clock after
  rwa [← runCons,← runAppend] at met

end LxiWeb.PanicRuns
