import LxiWeb.SessionEvents

/-! Where a `SessionManager` keeps what its sessions record: each call of `establish` has a ring of
its own, and only the two recording events and the start of another call touch any. -/
namespace LxiWeb.SessionRecords
open RingBuffers ScpiFraming SessionManager SessionEvents

theorem stepBooked {m : Manager} (booked : Booked m) (e : Event) : Booked (step m e) := by
  have told : Told (get m) m.emitted.length m := by
    refine ⟨booked,Nat.le_refl _,fun _ id => .inl ?_⟩
    simp [observed]
  exact (stepTold m e told).1.booked

structure Keeps (m m' : Manager) : Prop where
  sessions : m'.sessions = m.sessions
  counts : m'.nextAttempt = m.nextAttempt ∧ m'.transcriptRingMax = m.transcriptRingMax ∧
    m'.deviceErrorRingMax = m.deviceErrorRingMax
  owner : ∀ a, owner m' a = owner m a
  ring : ∀ a, (m'.attempt a).transcriptRing = (m.attempt a).transcriptRing
  held : ∀ id a, (m'.session id).transcriptRing = some a →
    (m.session id).transcriptRing = some a ∨ Of m id a
  emitted : ∃ updates : List SessionSummary, m'.emitted = m.emitted ++ updates.map .update

theorem Keeps.refl (m : Manager) : Keeps m m :=
  ⟨rfl,⟨rfl,rfl,rfl⟩,fun _ => rfl,fun _ => rfl,fun _ _ => .inl,[],by simp⟩

theorem Keeps.of {m m' : Manager} (keeps : Keeps m m') (id a : Nat) : Of m' id a ↔ Of m id a := by
  simp only [Of,keeps.counts.1,keeps.owner]

theorem Keeps.trans {m m' m'' : Manager} (first : Keeps m m') (second : Keeps m' m'') :
    Keeps m m'' where
  sessions := second.sessions.trans first.sessions
  counts := ⟨second.counts.1.trans first.counts.1,second.counts.2.1.trans first.counts.2.1,
    second.counts.2.2.trans first.counts.2.2⟩
  owner a := (second.owner a).trans (first.owner a)
  ring a := (second.ring a).trans (first.ring a)
  held id a holds := by
    rcases second.held id a holds with before | own
    · exact first.held id a before
    · exact .inr ((first.of id a).mp own)
  emitted := by
    obtain ⟨early,emitted⟩ := first.emitted
    obtain ⟨late,emitted'⟩ := second.emitted
    exact ⟨early ++ late,by simp [emitted',emitted]⟩

section
variable (m : Manager) (k a : Nat)

theorem keepsSession {f : InternalSession → InternalSession}
    (held : ∀ b, (f (m.session k)).transcriptRing = some b →
      (m.session k).transcriptRing = some b ∨ Of m k b) : Keeps m (setSession m k f) where
  sessions := rfl
  counts := ⟨rfl,rfl,rfl⟩
  owner _ := rfl
  ring _ := rfl
  held id b holds := by
    by_cases same : id = k
    · subst same
      exact held b (by simpa using holds)
    · rw [setSessionOther m k same] at holds
      exact .inl holds
  emitted := ⟨[],by simp⟩

theorem keepsAttempt {f : Attempt → Attempt} (same : (f (m.attempt a)).session = (m.attempt a).session ∧
    (f (m.attempt a)).transcriptRing = (m.attempt a).transcriptRing) : Keeps m (setAttempt m a f) where
  sessions := rfl
  counts := ⟨rfl,rfl,rfl⟩
  owner b := by by_cases here : b = a <;> simp [owner,here,same.1]
  ring b := by by_cases here : b = a <;> simp [here,same.2]
  held _ _ := .inl
  emitted := ⟨[],by simp⟩

theorem keepsUpdate : Keeps m (emitUpdate m k) :=
  ⟨rfl,⟨rfl,rfl,rfl⟩,fun _ => rfl,fun _ => rfl,fun _ _ => .inl,[toSummary (m.session k)],rfl⟩

theorem keepsAwait (w) : Keeps m (await m a w) := keepsAttempt m a ⟨rfl,rfl⟩

theorem keepsScpi (f) : Keeps m (setScpi m a f) := keepsAttempt m a ⟨rfl,rfl⟩

theorem keepsClose : Keeps m (closeScpi m a) := keepsScpi m a _

theorem keepsDispose : Keeps m (dispose m k) := by
  have listener : Keeps m (disposeCloseListener m k) := by
    unfold disposeCloseListener
    split
    · exact .refl m
    · exact (keepsScpi m _ _).trans (keepsSession _ k fun _ => .inl)
  refine listener.trans ?_
  unfold dispose disposeErrorPoller
  split
  · exact .refl _
  · refine .trans ?_ (keepsSession _ k fun _ => .inl)
    exact keepsAttempt _ _ ⟨rfl,rfl⟩

theorem keepsFinishFailure : Keeps m (finishFailure m a) := by
  have emptied := keepsSession m (owner m a) (f := fun s => { s with
    transcriptRing := none, deviceErrorRing := none }) (by simp)
  exact ((emptied.trans (keepsDispose _ _)).trans (keepsUpdate _ _)).trans (keepsAwait _ a none)

theorem keepsFail (err) : Keeps m (failEstablish m a err) := by
  have failed : Keeps m (markError m (owner m a) err) := keepsSession m _ fun _ => .inl
  cases holds : (m.session (owner m a)).scpi with
  | none =>
    rw [failPlain holds]
    exact failed.trans (keepsFinishFailure _ a)
  | some held =>
    rw [failHolding holds]
    exact (failed.trans (keepsClose _ held)).trans (keepsAwait _ a _)

theorem keepsStale : Keeps m (leaveStale m a) := (keepsClose m a).trans (keepsAwait _ a _)

theorem keepsFinish : Keeps m (finishEstablish m a) := by
  have connected := (keepsSession m (owner m a) (f := fun s =>
    { s with status := .connected, disposeCloseListener := some a }) fun _ => .inl).trans
      (keepsScpi _ a fun c => { c with listener := true })
  have polled : Keeps m (startErrorPoller (setScpi (setSession m (owner m a) fun s =>
      { s with status := .connected, disposeCloseListener := some a }) a
        fun c => { c with listener := true }) a) := by
    refine connected.trans ?_
    unfold startErrorPoller
    split
    · exact .refl _
    · refine .trans ?_ (keepsSession _ _ fun _ => .inl)
      exact keepsAttempt _ _ ⟨rfl,rfl⟩
  exact (polled.trans (keepsUpdate _ _)).trans (keepsAwait _ a none)

theorem keepsBuild (identity create) : Keeps m (buildFacade m a identity create) := by
  unfold buildFacade
  split
  · exact keepsFail m a _
  · exact (keepsSession m _ fun _ => .inl).trans (keepsFinish _ a)

theorem keepsLost (err) : Keeps m (handleUnexpectedClose m k err) := by
  unfold handleUnexpectedClose
  split
  · exact .refl m
  · split
    · exact .refl m
    · refine .trans (.trans ?_ (keepsDispose _ k)) (keepsUpdate _ k)
      exact keepsSession m k (by simp)

theorem keepsDropped (err) : Keeps m (dropScpi m a err) := by
  unfold dropScpi
  split
  · exact .refl m
  · split
    · exact .refl m
    · split
      · exact (keepsClose m a).trans (keepsLost _ _ err)
      · exact keepsClose m a

theorem keepsTick : Keeps m (pollTick m a) := by
  unfold pollTick
  split
  · exact keepsAttempt m a ⟨rfl,rfl⟩
  · exact .refl m

end

theorem keepsFactory {m : Manager} {a : Nat} (own : Of m (owner m a) a) (outcome) :
    Keeps m (resumeFactory m a outcome) := by
  cases outcome with
  | error err => exact keepsFail m a err
  | ok _ =>
    have made : Keeps m (setAttempt m a fun t => { t with scpi := some ⟨false,false⟩ }) :=
      keepsAttempt m a ⟨rfl,rfl⟩
    simp only [resumeFactory]
    split
    · exact made.trans (keepsStale _ a)
    · refine made.trans (.trans ?_ (keepsAwait _ a _))
      apply keepsSession
      intro b holds
      obtain rfl : a = b := Option.some.inj holds
      exact .inr ((made.of _ a).mpr own)

theorem keepsIdn (m : Manager) (a : Nat) (outcome) : Keeps m (resumeIdn m a outcome) := by
  cases outcome with
  | error err => exact keepsFail m a err
  | ok raw =>
    simp only [resumeIdn]
    split
    · exact keepsStale m a
    · split
      · split
        · exact (keepsSession m _ fun _ => .inl).trans (keepsAwait _ a _)
        · exact (keepsSession m _ fun _ => .inl).trans (keepsBuild _ a _ _)
      · exact (keepsSession m _ fun _ => .inl).trans (keepsFinish _ a)

theorem keepsRefine (m : Manager) (a : Nat) (identity driver outcome) :
    Keeps m (resumeRefine m a identity driver outcome) := by
  unfold resumeRefine
  split
  · exact keepsStale m a
  · exact keepsBuild m a _ _

def Plain : Event → Prop
  | .openSession .. | .reconnect _ | .close _ | .closeSettled _ | .drainSettled .. | .recorded ..
  | .appendTranscript .. => False
  | _ => True

theorem stepPlain {m : Manager} (booked : Booked m) {e : Event} (plain : Plain e) :
    Keeps m (step m e) := by
  cases e with
  | openSession | reconnect | close | closeSettled | drainSettled | recorded | appendTranscript =>
    exact plain.elim
  | factorySettled a outcome =>
    simp only [step]
    split
    · rename_i waits
      exact keepsFactory (booked.of waits) outcome
    · exact .refl m
  | idnSettled a outcome =>
    simp only [step]
    split
    · exact keepsIdn m a outcome
    · exact .refl m
  | refineSettled a outcome =>
    simp only [step]
    split
    · exact keepsRefine m a _ _ outcome
    · exact .refl m
  | scpiCloseSettled a outcome =>
    simp only [step]
    split
    · cases outcome with
      | ok _ => exact keepsAwait m a none
      | error err => exact keepsFail m a err
    · exact (keepsSession m _ fun _ => .inl).trans (keepsFinishFailure _ a)
    · exact .refl m
  | dropped a err => exact keepsDropped m a err
  | pollTick a => exact keepsTick m a

theorem reconnectCases (m : Manager) (id : Nat) :
    (reconnect m id).2 = m ∨
      ∃ m', id ∈ m.sessions ∧ Keeps m m' ∧ (reconnect m id).2 = establish m' id := by
  unfold reconnect
  split
  · exact .inl rfl
  · rename_i listed
    split
    · exact .inl rfl
    · refine .inr ⟨_,not_not.mp listed,?_,rfl⟩
      refine .trans (.trans ?_ (keepsDispose _ id)) (keepsUpdate _ id)
      exact keepsSession m id (by simp)

theorem closeCases {m : Manager} {id : Nat} (listed : id ∈ m.sessions) :
    ∃ m', Keeps (deleteSession m id) m' ∧ m'.emitted = m.emitted ∧
      close m id = match (m.session id).scpi with
        | none => emit m' (.removed id)
        | some _ => m' := by
  unfold close
  rw [if_neg (not_not.mpr listed)]
  have disposed := keepsDispose (deleteSession m id) id
  cases holds : (m.session id).scpi with
  | none => exact ⟨_,disposed,by simp,by simp [holds]⟩
  | some a =>
    refine ⟨awaitClose (closeScpi (dispose (deleteSession m id) id) a) id,?_,by simp,by simp [holds]⟩
    obtain ⟨sessions,counts,owner,ring,held,emitted⟩ := disposed.trans (keepsClose _ a)
    exact ⟨sessions,counts,owner,ring,held,emitted⟩

theorem drainCases (m : Manager) (a : Nat) (entries) :
    ∃ m', Keeps m m' ∧ m'.emitted = m.emitted ∧
      step m (.drainSettled a entries) =
        if (m.attempt a).busy ∧ entries ≠ [] ∧ (m.session (owner m a)).deviceErrorRing.isSome then
          emit m' (.deviceErrors (owner m a) entries)
        else m' := by
  have drained : Keeps m (setAttempt m a fun t => { t with busy := false }) :=
    keepsAttempt m a ⟨rfl,rfl⟩
  simp only [step]
  by_cases busy : (m.attempt a).busy
  · by_cases nothing : entries = []
    · exact ⟨_,drained,rfl,by simp [busy,nothing,finishDrain]⟩
    · have same : owner (setAttempt m a fun t => { t with busy := false }) a = owner m a :=
        drained.owner a
      cases holds : (m.session (owner m a)).deviceErrorRing with
      | none => exact ⟨_,drained,rfl,by simp [busy,nothing,finishDrain,same,holds]⟩
      | some ring =>
        refine ⟨setAttempt (setAttempt m a fun t => { t with busy := false }) ring fun t =>
          { t with deviceErrorRing := t.deviceErrorRing.pushMany entries },?_,rfl,?_⟩
        · exact drained.trans (keepsAttempt _ ring ⟨rfl,rfl⟩)
        · simp [busy,nothing,finishDrain,same,holds]
  · exact ⟨m,.refl m,rfl,by simp [busy]⟩

def Ringed (m : Manager) : Prop := ∀ id a, (m.session id).transcriptRing = some a → Of m id a

theorem Keeps.ringed {m m' : Manager} (keeps : Keeps m m') (ringed : Ringed m) : Ringed m' := by
  intro id a holds
  rw [keeps.of]
  rcases keeps.held id a holds with before | own
  · exact ringed id a before
  · exact own

theorem ringedEstablish {m : Manager} (ringed : Ringed m) (k : Nat) : Ringed (establish m k) := by
  intro id a holds
  obtain ⟨made,own⟩ := ringed id a holds
  refine ⟨Nat.lt_succ_of_lt made,?_⟩
  rwa [owner,establishOlder m k (Nat.ne_of_lt made)]

theorem ringedListed {m : Manager} (ringed : Ringed m) (internal : InternalSession)
    (bare : internal.transcriptRing = none) : Ringed (listSession m internal) := by
  intro id a holds
  by_cases same : id = internal.id
  · subst same
    rw [listSessionSelf,bare] at holds
    simp at holds
  · rw [listSessionOther m internal same] at holds
    exact ringed id a holds

theorem appendCases {m : Manager} (ringed : Ringed m) (id : Nat) (input) :
    (appendTranscript m id input).2 =
      match if id ∈ m.sessions then (m.session id).transcriptRing else none with
      | none => m
      | some a => record m a input := by
  unfold appendTranscript
  by_cases listed : id ∈ m.sessions
  · cases holds : (m.session id).transcriptRing with
    | none => simp [listed]
    | some a =>
      have own : owner m a = id := (ringed id a holds).2
      simp [listed,record,own]
  · simp [listed]

theorem recordOf (m : Manager) (a : Nat) (input) (id b) : Of (record m a input) id b ↔ Of m id b := by
  by_cases same : b = a <;> simp [Of,record,owner,same]

theorem stepRinged {m : Manager} (booked : Booked m) (ringed : Ringed m) (e : Event) :
    Ringed (step m e) := by
  have recorded (a input) : Ringed (record m a input) := fun id b holds =>
    (recordOf m a input id b).mpr (ringed id b holds)
  cases e with
  | openSession host port now =>
    simp only [step]
    rcases openSessionCases m host port now with ⟨err,same⟩ | same
    · rw [same]
      exact ringed
    · rw [same]
      exact ringedEstablish (ringedListed ringed _ rfl) _
  | reconnect id =>
    simp only [step]
    rcases reconnectCases m id with same | ⟨m',_,keeps,same⟩
    · rw [same]
      exact ringed
    · rw [same]
      exact ringedEstablish (keeps.ringed ringed) id
  | close id =>
    simp only [step]
    by_cases listed : id ∈ m.sessions
    · obtain ⟨m',keeps,_,same⟩ := closeCases listed
      have kept : Ringed m' := keeps.ringed ringed
      rw [same]
      split
      · exact kept
      · exact kept
    · simpa [close,listed] using ringed
  | closeSettled id =>
    simp only [step]
    split
    · exact ringed
    · exact ringed
  | drainSettled a entries =>
    obtain ⟨m',keeps,_,same⟩ := drainCases m a entries
    have kept : Ringed m' := keeps.ringed ringed
    rw [same]
    split
    · exact kept
    · exact kept
  | recorded a input =>
    simp only [step]
    split
    · exact recorded a input
    · exact ringed
  | appendTranscript id input =>
    simp only [step,appendCases ringed]
    split
    · exact ringed
    · exact recorded _ input
  | factorySettled | idnSettled | refineSettled | scpiCloseSettled | dropped | pollTick =>
    refine (stepPlain booked ?_).ringed ringed
    trivial

def listedAfter (m : Manager) : Event → List Nat
  | .openSession .. => if m.sessions.length ≥ m.maxSessions then m.sessions else m.sessions ++ [m.nextId]
  | .close id => m.sessions.filter (· ≠ id)
  | _ => m.sessions

/- The ring that an event puts an entry in, by the call of `establish` it belongs to. -/
def recordsOn (m : Manager) : Event → Option Nat
  | .recorded a _ => if a < m.nextAttempt then some a else none
  | .appendTranscript id _ => if id ∈ m.sessions then (m.session id).transcriptRing else none
  | _ => none

def nextSeq (m : Manager) (a : Nat) : Nat := (m.attempt a).transcriptRing.seq

def lineOn (m : Manager) (input : TranscriptRecordInput) (a : Nat) : SessionEvent :=
  .transcript (owner m a) [⟨input,nextSeq m a⟩]

def tells (m : Manager) : Event → Option SessionEvent
  | .recorded a input => (recordsOn m (.recorded a input)).map (lineOn m input)
  | .appendTranscript id input => (recordsOn m (.appendTranscript id input)).map (lineOn m input)
  | .drainSettled a entries =>
      if (m.attempt a).busy ∧ entries ≠ [] ∧ (m.session (owner m a)).deviceErrorRing.isSome then
        some (.deviceErrors (owner m a) entries)
      else none
  | .close id => if id ∈ m.sessions ∧ (m.session id).scpi = none then some (.removed id) else none
  | .closeSettled id => if id ∈ m.closing then some (.removed id) else none
  | _ => none

structure Outcome (m m' : Manager) (listed : List Nat) (told : Option SessionEvent) : Prop where
  sessions : m'.sessions = listed
  rings : m'.transcriptRingMax = m.transcriptRingMax ∧ m'.deviceErrorRingMax = m.deviceErrorRingMax
  emitted : ∃ updates : List SessionSummary,
    m'.emitted = m.emitted ++ told.toList ++ updates.map .update

theorem outcomeSame (m : Manager) : Outcome m m m.sessions none := ⟨rfl,⟨rfl,rfl⟩,[],by simp⟩

theorem Keeps.outcome {m m' : Manager} (keeps : Keeps m m') : Outcome m m' m.sessions none where
  sessions := keeps.sessions
  rings := keeps.counts.2
  emitted := by simpa using keeps.emitted

theorem outcomeEmit (m : Manager) {m' : Manager} {listed} (sessions : m'.sessions = listed)
    (rings : m'.transcriptRingMax = m.transcriptRingMax ∧ m'.deviceErrorRingMax = m.deviceErrorRingMax)
    (silent : m'.emitted = m.emitted) (event) : Outcome m (emit m' event) listed (some event) :=
  ⟨sessions,rings,[],by simp [silent]⟩

theorem closeOutcome (m : Manager) (id : Nat) :
    Outcome m (step m (.close id)) (listedAfter m (.close id)) (tells m (.close id)) := by
  simp only [step,listedAfter,tells]
  by_cases listed : id ∈ m.sessions
  · obtain ⟨m',keeps,silent,same⟩ := closeCases listed
    rw [same]
    cases holds : (m.session id).scpi with
    | none =>
      simp only [listed,and_self,if_true]
      exact outcomeEmit m keeps.sessions keeps.counts.2 silent _
    | some a =>
      simp only [reduceCtorEq,and_false,if_false]
      exact ⟨keeps.sessions,keeps.counts.2,[],by simp [silent]⟩
  · have left : m.sessions.filter (fun k => decide (k ≠ id)) = m.sessions :=
      List.filter_eq_self.mpr fun k member => by
        simpa using ne_of_mem_of_not_mem member listed
    rw [left]
    simpa [close,listed] using outcomeSame m

theorem stepOutcome {m : Manager} (booked : Booked m) (ringed : Ringed m) (e : Event) :
    Outcome m (step m e) (listedAfter m e) (tells m e) := by
  have recorded (a input) : Outcome m (record m a input) m.sessions (some (lineOn m input a)) :=
    ⟨rfl,⟨rfl,rfl⟩,[],by simp [record,TranscriptRing.push,lineOn,nextSeq]⟩
  cases e with
  | openSession host port now =>
    simp only [step,listedAfter,tells,openSession]
    split
    · exact outcomeSame m
    · refine ⟨rfl,⟨rfl,rfl⟩,[toSummary (newSession m host port now)],?_⟩
      simp [newSession]
  | reconnect id =>
    simp only [step,listedAfter,tells]
    rcases reconnectCases m id with same | ⟨m',_,keeps,same⟩
    · rw [same]
      exact outcomeSame m
    · rw [same]
      obtain ⟨sessions,rings,emitted⟩ := keeps.outcome
      exact ⟨sessions,rings,emitted⟩
  | close id =>
    exact closeOutcome m id
  | closeSettled id =>
    simp only [step,listedAfter,tells]
    split
    · let m' : Manager := { m with closing := m.closing.filter (· ≠ id) }
      exact outcomeEmit m (show m'.sessions = m.sessions from rfl) ⟨rfl,rfl⟩ rfl (.removed id)
    · exact outcomeSame m
  | drainSettled a entries =>
    obtain ⟨m',keeps,silent,same⟩ := drainCases m a entries
    rw [same]
    simp only [listedAfter,tells]
    split
    · exact outcomeEmit m keeps.sessions keeps.counts.2 silent _
    · exact keeps.outcome
  | recorded a input =>
    simp only [step,listedAfter,tells,recordsOn]
    split
    · exact recorded a input
    · exact outcomeSame m
  | appendTranscript id input =>
    simp only [step,listedAfter,tells,recordsOn,appendCases ringed]
    split
    · rename_i none_
      rw [none_]
      exact outcomeSame m
    · rename_i a some_
      rw [some_]
      exact recorded a input
  | factorySettled | idnSettled | refineSettled | scpiCloseSettled | dropped | pollTick =>
    refine (stepPlain booked ?_).outcome
    trivial

end LxiWeb.SessionRecords
