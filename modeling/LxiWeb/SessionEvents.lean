import LxiWeb.EventRuns
import LxiWeb.KeyedWrites
import LxiWeb.SessionManager

/-! The event stream of a `SessionManager` against the sessions it lists. -/
namespace LxiWeb.SessionEvents
open EventRuns KeyedWrites RingBuffers ScpiFraming SessionManager

def change : SessionEvent → Write Nat SessionSummary
  | .update session => entry session.id (some session)
  | .removed id => entry id none
  | _ => keep

/- What a listener with table `t` ends up with that applies every `update` and `removed` from the
`n`th event on. -/
def observed (t : Table Nat SessionSummary) (n : Nat) (m : Manager) : Table Nat SessionSummary :=
  replay t ((m.emitted.drop n).map change)

def mirror : Manager → Table Nat SessionSummary := observed (fun _ => none) 0

/- The session an event reports on; `removed` only says that it is gone. -/
def reports : SessionEvent → Option Nat
  | .update session => some session.id
  | .removed _ => none
  | .transcript id _ | .deviceErrors id _ => some id

def removes : SessionEvent → Option Nat
  | .removed id => some id
  | _ => none

def Silent (emitted : List SessionEvent) : Prop :=
  emitted.Pairwise fun e later => ∀ id ∈ removes e, reports later ≠ some id

instance (emitted) : Decidable (Silent emitted) := inferInstanceAs (Decidable (List.Pairwise _ _))

def Due (m : Manager) (id : Nat) : Prop :=
  (id ∈ m.sessions ∧ ∃ a, Of m id a ∧ (m.attempt a).awaiting.isSome) ∨ id ∈ m.closing

def Follows (t : Table Nat SessionSummary) (n : Nat) (m : Manager) (id : Nat) : Prop :=
  observed t n m id = get m id ∨ Due m id

structure Booked (m : Manager) : Prop where
  named : ∀ id, (m.session id).id = id
  listed : ∀ id ∈ m.sessions, id < m.nextId ∧ id ∉ m.closing ∧ .removed id ∉ m.emitted
  closing : ∀ id ∈ m.closing, id < m.nextId ∧ .removed id ∉ m.emitted
  removed : ∀ id, .removed id ∈ m.emitted → id < m.nextId
  accounted : ∀ id < m.nextId, id ∈ m.sessions ∨ id ∈ m.closing ∨ .removed id ∈ m.emitted
  owners : ∀ a < m.nextAttempt, owner m a < m.nextId
  unused : ∀ a, m.nextAttempt ≤ a → (m.attempt a).awaiting = none
  stale : ∀ a, (m.attempt a).awaiting = some .staleClose → owner m a ∉ m.sessions

/- `m'` differs from `m` at most in session `k`, its attempts and what was emitted. -/
structure Within (m m' : Manager) (k : Nat) : Prop where
  counts : m'.sessions = m.sessions ∧ m'.closing = m.closing ∧ m'.nextId = m.nextId ∧
    m'.nextAttempt = m.nextAttempt
  owner : ∀ a, owner m' a = owner m a
  named : ∀ id, (m'.session id).id = (m.session id).id
  others : ∀ id, id ≠ k → toSummary (m'.session id) = toSummary (m.session id)
  awaiting : ∀ a, ¬ Of m k a → (m'.attempt a).awaiting = (m.attempt a).awaiting
  stale : ∀ a, (m'.attempt a).awaiting = some .staleClose →
    (m.attempt a).awaiting = some .staleClose ∨ k ∉ m.sessions

theorem Within.of {m m' : Manager} {k : Nat} (within : Within m m' k) (id a : Nat) :
    Of m' id a ↔ Of m id a := by
  simp only [Of,within.counts.2.2.2,within.owner]

theorem Within.refl (m : Manager) (k : Nat) : Within m m k :=
  ⟨⟨rfl,rfl,rfl,rfl⟩,fun _ => rfl,fun _ => rfl,fun _ _ => rfl,fun _ _ => rfl,fun _ => .inl⟩

theorem Within.trans {m m' m'' : Manager} {k : Nat} (first : Within m m' k)
    (second : Within m' m'' k) : Within m m'' k where
  counts := ⟨second.counts.1.trans first.counts.1,second.counts.2.1.trans first.counts.2.1,
    second.counts.2.2.1.trans first.counts.2.2.1,second.counts.2.2.2.trans first.counts.2.2.2⟩
  owner a := (second.owner a).trans (first.owner a)
  named id := (second.named id).trans (first.named id)
  others id other := (second.others id other).trans (first.others id other)
  awaiting a elsewhere :=
    (second.awaiting a (by rwa [first.of])).trans (first.awaiting a elsewhere)
  stale a waits := by
    rcases second.stale a waits with before | gone
    · exact first.stale a before
    · exact .inr (by rwa [← first.counts.1])

section
variable (m : Manager) (k a : Nat)

theorem withinSession (f : InternalSession → InternalSession)
    (named : (f (m.session k)).id = (m.session k).id) : Within m (setSession m k f) k where
  counts := ⟨rfl,rfl,rfl,rfl⟩
  owner _ := rfl
  named id := by
    by_cases same : id = k
    · simp [same,named]
    · simp [same]
  others id other := by simp [other]
  awaiting _ _ := rfl
  stale _ := .inl

theorem withinAttempt (f : Attempt → Attempt) (keeps : (f (m.attempt a)).session = (m.attempt a).session ∧
    (f (m.attempt a)).awaiting = (m.attempt a).awaiting) : Within m (setAttempt m a f) k where
  counts := ⟨rfl,rfl,rfl,rfl⟩
  owner b := by by_cases same : b = a <;> simp [owner,same,keeps]
  named _ := rfl
  others _ _ := rfl
  awaiting b _ := by by_cases same : b = a <;> simp [same,keeps]
  stale b := by
    by_cases same : b = a
    · simpa [same,keeps] using Or.inl
    · simpa [same] using Or.inl

theorem withinDispose : Within m (dispose m k) k where
  counts := by simp
  owner := by simp
  named id := congrArg SessionSummary.id (disposeSession m k id).2.2
  others id _ := (disposeSession m k id).2.2
  awaiting := by simp
  stale a waits := by simpa using Or.inl waits

theorem withinEmit (event) : Within m (emit m event) k :=
  ⟨⟨rfl,rfl,rfl,rfl⟩,fun _ => rfl,fun _ => rfl,fun _ _ => rfl,fun _ _ => rfl,fun _ => .inl⟩

theorem withinUpdate : Within m (emitUpdate m k) k := withinEmit m k _

theorem withinScpi (f) : Within m (setScpi m a f) k := withinAttempt m k a _ ⟨rfl,rfl⟩

theorem withinClose : Within m (closeScpi m a) k := withinScpi m k a _

end

theorem withinAwait {m : Manager} {k a : Nat} (own : Of m k a) (w)
    (stale : w = some .staleClose → k ∉ m.sessions) : Within m (await m a w) k where
  counts := ⟨rfl,rfl,rfl,rfl⟩
  owner b := by simp [owner]
  named _ := rfl
  others _ _ := rfl
  awaiting b elsewhere := by
    have other : b ≠ a := by
      intro same
      exact elsewhere (same ▸ own)
    simp [other]
  stale b waits := by
    by_cases same : b = a
    · exact .inr (stale (by simpa [same] using waits))
    · exact .inl (by simpa [same] using waits)

/- What a continuation does for session `k`: it reports the state it leaves the session in, or it
keeps quiet, and then another promise is awaited or the session is not listed. `late` is whether
it reports on a session that is no longer listed. -/
inductive Worked (m m' : Manager) (k : Nat) (late : Prop) : Prop where
  | quiet (within : Within m m' k) (same : m'.emitted = m.emitted)
      (pending : k ∈ m.sessions → ∃ a, Of m' k a ∧ (m'.attempt a).awaiting.isSome)
      (soundless : k ∉ m.sessions → ¬ late)
  | told (within : Within m m' k)
      (emitted : m'.emitted = m.emitted ++ [.update (toSummary (m'.session k))])
      (reported : k ∉ m.sessions → late)

theorem Worked.within {m m' : Manager} {k : Nat} {late : Prop} (worked : Worked m m' k late) :
    Within m m' k := by
  cases worked <;> assumption

theorem Worked.after {m m' m'' : Manager} {k : Nat} {late : Prop} (first : Within m m' k)
    (quiet : m'.emitted = m.emitted) (worked : Worked m' m'' k late) : Worked m m'' k late := by
  cases worked with
  | quiet within same pending soundless =>
    exact .quiet (first.trans within) (same.trans quiet) (by rwa [← first.counts.1])
      (by rwa [← first.counts.1])
  | told within emitted reported =>
    exact .told (first.trans within) (by rw [emitted,quiet]) (by rwa [← first.counts.1])

theorem workedFinishFailure {m : Manager} {k a : Nat} (own : Of m k a) {late : Prop}
    (reported : k ∉ m.sessions → late) : Worked m (finishFailure m a) k late := by
  obtain rfl : owner m a = k := own.2
  have emptied := (withinSession m (owner m a) (fun s => { s with
    transcriptRing := none, deviceErrorRing := none }) rfl).trans (withinDispose _ _)
  have told := emptied.trans (withinUpdate _ _)
  refine .told (told.trans (withinAwait ((told.of _ a).mpr own) none (by simp))) ?_ reported
  simp [finishFailure]

theorem workedFail {m : Manager} {k a : Nat} (own : Of m k a) (err) {late : Prop}
    (reported : k ∉ m.sessions → (late ↔ (m.session k).scpi = none)) :
    Worked m (failEstablish m a err) k late := by
  obtain rfl : owner m a = k := own.2
  have failed : Within m (markError m (owner m a) err) (owner m a) := withinSession m _ _ rfl
  have own' := (failed.of _ a).mpr own
  cases holds : (m.session (owner m a)).scpi with
  | none =>
    rw [failPlain holds]
    exact .after failed rfl (workedFinishFailure own' fun gone => (reported gone).mpr holds)
  | some held =>
    rw [failHolding holds]
    have closed := failed.trans (withinClose _ _ held)
    have waits := closed.trans (withinAwait ((closed.of _ a).mpr own) (some .failureClose) (by simp))
    refine .quiet waits rfl (fun _ => ⟨a,(waits.of _ a).mpr own,by simp⟩) ?_
    intro gone
    rw [reported gone,holds]
    simp

theorem workedStale {m : Manager} {k a : Nat} (own : Of m k a) {late : Prop}
    (gone : k ∉ m.sessions) (silent : ¬ late) : Worked m (leaveStale m a) k late := by
  have closed := withinClose m k a
  exact .quiet (closed.trans (withinAwait ((closed.of _ a).mpr own) _ fun _ => gone)) rfl
    (fun listed => absurd listed gone) fun _ => silent

theorem withinPoller (m : Manager) (a : Nat) : Within m (startErrorPoller m a) (owner m a) := by
  unfold startErrorPoller
  split
  · exact .refl m _
  · exact (withinAttempt m _ a _ ⟨rfl,rfl⟩).trans (withinSession _ _ _ rfl)

theorem workedFinish {m : Manager} {k a : Nat} (own : Of m k a) {late : Prop}
    (listed : k ∈ m.sessions) : Worked m (finishEstablish m a) k late := by
  obtain rfl : owner m a = k := own.2
  have connected := withinSession m (owner m a)
    (fun s => { s with status := .connected, disposeCloseListener := some a }) rfl
  have listening := connected.trans (withinScpi _ _ a fun c => { c with listener := true })
  have at_ := listening.owner a
  have polled := listening.trans (at_ ▸ withinPoller _ a)
  have told := polled.trans (withinUpdate _ _)
  refine .told (told.trans (withinAwait ((told.of _ a).mpr own) none (by simp))) ?_
    fun gone => absurd listed gone
  simp [finishEstablish]

theorem workedBuild {m : Manager} {k a : Nat} (own : Of m k a) {late : Prop}
    (listed : k ∈ m.sessions) (identity create) :
    Worked m (buildFacade m a identity create) k late := by
  unfold buildFacade
  split
  · exact workedFail own _ fun gone => absurd listed gone
  · rename_i facade _
    obtain rfl : owner m a = k := own.2
    have built := withinSession m (owner m a) (fun s => { s with facade := some facade }) rfl
    exact .after built rfl (workedFinish ((built.of _ a).mpr own) listed)

theorem workedFactory {m : Manager} {k a : Nat} (own : Of m k a) (outcome) {late : Prop}
    (reported : k ∉ m.sessions →
      (late ↔ (∃ err, outcome = .error err) ∧ (m.session k).scpi = none)) :
    Worked m (resumeFactory m a outcome) k late := by
  obtain rfl : owner m a = k := own.2
  cases outcome with
  | error err =>
    exact workedFail own err fun gone => by simpa using reported gone
  | ok _ =>
    have made := withinAttempt m (owner m a) a (fun t => { t with scpi := some ⟨false,false⟩ })
      ⟨rfl,rfl⟩
    simp only [resumeFactory]
    split
    · rename_i gone
      exact .after made rfl (workedStale ((made.of _ a).mpr own) gone (by simp [reported gone]))
    · rename_i listed
      have stored := made.trans (withinSession _ (owner m a) (fun s => { s with
        scpi := some a, transcriptRing := some a, deviceErrorRing := some a }) rfl)
      have waits := stored.trans (withinAwait ((stored.of _ a).mpr own) (some .idn) (by simp))
      exact .quiet waits rfl (fun _ => ⟨a,(waits.of _ a).mpr own,by simp⟩)
        fun gone => absurd gone listed

theorem workedIdn {m : Manager} {k a : Nat} (own : Of m k a) (outcome) {late : Prop}
    (reported : k ∉ m.sessions →
      (late ↔ (∃ err, outcome = .error err) ∧ (m.session k).scpi = none)) :
    Worked m (resumeIdn m a outcome) k late := by
  obtain rfl : owner m a = k := own.2
  cases outcome with
  | error err =>
    exact workedFail own err fun gone => by simpa using reported gone
  | ok raw =>
    simp only [resumeIdn]
    split
    · rename_i gone
      exact workedStale own gone (by simp [reported gone])
    · rename_i listed
      have listed := not_not.mp listed
      split
      · rename_i driver _
        have identified := withinSession m (owner m a) (fun s => { s with
          identity := some (parseIdn raw), driverId := some driver.id, kind := driver.kind }) rfl
        have own' := (identified.of _ a).mpr own
        split
        · have waits := identified.trans (withinAwait own' (some (.refine (parseIdn raw) driver)) (by simp))
          exact .quiet waits rfl (fun _ => ⟨a,(waits.of _ a).mpr own,by simp⟩)
            fun gone => absurd listed gone
        · exact .after identified rfl (workedBuild own' listed _ _)
      · have identified := withinSession m (owner m a) (fun s => { s with
          identity := some (parseIdn raw), driverId := none, kind := .unknown
          facade := none }) rfl
        exact .after identified rfl (workedFinish ((identified.of _ a).mpr own) listed)

theorem workedRefine {m : Manager} {k a : Nat} (own : Of m k a) (identity driver outcome)
    {late : Prop} (silent : ¬ late) : Worked m (resumeRefine m a identity driver outcome) k late := by
  obtain rfl : owner m a = k := own.2
  unfold resumeRefine
  split
  · rename_i gone
    exact workedStale own gone silent
  · rename_i listed
    exact workedBuild own (not_not.mp listed) _ _

theorem workedStaleSettled {m : Manager} {k a : Nat} (own : Of m k a) (gone : k ∉ m.sessions)
    (outcome) {late : Prop}
    (reported : late ↔ (∃ err, outcome = .error err) ∧ (m.session k).scpi = none) :
    Worked m (resumeStale m a outcome) k late := by
  cases outcome with
  | error err => exact workedFail own err fun _ => by simpa using reported
  | ok _ =>
    exact .quiet (withinAwait own none (by simp)) rfl (fun listed => absurd listed gone)
      fun _ => by simp [reported]

theorem workedFailureSettled {m : Manager} {k a : Nat} (own : Of m k a) {late : Prop}
    (reported : k ∉ m.sessions → late) : Worked m (resumeFailure m a) k late := by
  obtain rfl : owner m a = k := own.2
  have emptied := withinSession m (owner m a) (fun s => { s with scpi := none }) rfl
  exact .after emptied rfl (workedFinishFailure ((emptied.of _ a).mpr own) reported)

theorem workedLost (m : Manager) (k : Nat) (err) :
    handleUnexpectedClose m k err = m ∨
      (k ∈ m.sessions ∧ Worked m (handleUnexpectedClose m k err) k False) := by
  unfold handleUnexpectedClose
  split
  · exact .inl rfl
  · rename_i listed
    split
    · exact .inl rfl
    · right
      have lost := (withinSession m k (fun s => { s with
        status := .error, error := some ((err.map JsError.message).getD "connection lost")
        facade := none, scpi := none, transcriptRing := none, deviceErrorRing := none }) rfl).trans
          (withinDispose _ k)
      refine ⟨not_not.mp listed,.told (lost.trans (withinUpdate _ k)) ?_ fun gone => absurd gone listed⟩
      simp

theorem Booked.of {m : Manager} (booked : Booked m) {a w} (waits : (m.attempt a).awaiting = some w) :
    Of m (owner m a) a := by
  refine ⟨?_,rfl⟩
  by_contra beyond
  simp [booked.unused a (by omega)] at waits

theorem workedBooked {m m' : Manager} {k : Nat} {late : Prop} (booked : Booked m)
    (worked : Worked m m' k late) : Booked m' := by
  have within := worked.within
  obtain ⟨sessions,closing,nextId,nextAttempt⟩ := within.counts
  have removed (id) : SessionEvent.removed id ∈ m'.emitted ↔ SessionEvent.removed id ∈ m.emitted := by
    cases worked with
    | quiet _ same => rw [same]
    | told _ emitted => simp [emitted]
  exact {
    named := fun id => (within.named id).trans (booked.named id)
    listed := by simpa only [sessions,closing,nextId,removed] using booked.listed
    closing := by simpa only [closing,nextId,removed] using booked.closing
    removed := by simpa only [nextId,removed] using booked.removed
    accounted := by simpa only [sessions,closing,nextId,removed] using booked.accounted
    owners := by simpa only [nextAttempt,nextId,within.owner] using booked.owners
    unused := by
      intro a beyond
      rw [nextAttempt] at beyond
      rw [within.awaiting a fun own => absurd own.1 (by omega)]
      exact booked.unused a beyond
    stale := by
      intro a waits
      rw [within.owner,sessions]
      rcases within.stale a waits with before | gone
      · exact booked.stale a before
      · by_cases own : Of m k a
        · exact own.2 ▸ gone
        · exact booked.stale a (within.awaiting a own ▸ waits) }

section
variable {t : Table Nat SessionSummary} {n : Nat}

theorem observedEmit {m m' : Manager} {event} (early : n ≤ m.emitted.length)
    (emitted : m'.emitted = m.emitted ++ [event]) :
    observed t n m' = write (observed t n m) (change event) := by
  simp [observed,emitted,List.drop_append_of_le_length early]

theorem observedSame {m m' : Manager} (emitted : m'.emitted = m.emitted) :
    observed t n m' = observed t n m := by
  simp [observed,emitted]

theorem followsSame {m m' : Manager} {id : Nat} (follows : Follows t n m id)
    (listed : id ∈ m'.sessions ↔ id ∈ m.sessions) (closing : id ∈ m'.closing ↔ id ∈ m.closing)
    (summary : toSummary (m'.session id) = toSummary (m.session id))
    (waits : ∀ a, Of m id a → Of m' id a ∧ (m'.attempt a).awaiting = (m.attempt a).awaiting)
    (told : observed t n m' id = observed t n m id) : Follows t n m' id := by
  rcases follows with same | ⟨member,a,own,pending⟩ | ends
  · left
    simp only [told,same,SessionManager.get,listed,summary]
  · right; left
    exact ⟨listed.mpr member,a,(waits a own).1,by rw [(waits a own).2]; exact pending⟩
  · right; right
    exact closing.mpr ends

theorem workedFollows {m m' : Manager} {k : Nat} {late : Prop} (booked : Booked m)
    (early : n ≤ m.emitted.length)
    (worked : Worked m m' k late) (known : k < m.nextId)
    (prompt : late → .removed k ∉ m.emitted) (follows : ∀ id, Follows t n m id)
    (id : Nat) : Follows t n m' id := by
  have within := worked.within
  obtain ⟨sessions,closing,_,_⟩ := within.counts
  have named := (workedBooked booked worked).named k
  by_cases here : id = k
  · subst here
    cases worked with
    | quiet _ same pending _ =>
      by_cases listed : id ∈ m.sessions
      · exact .inr (.inl ⟨sessions ▸ listed,pending listed⟩)
      · rcases follows id with agrees | ⟨member,_⟩ | ends
        · left
          rw [observedSame same,agrees]
          simp [SessionManager.get,sessions,listed]
        · exact absurd member listed
        · exact .inr (.inr (closing ▸ ends))
    | told _ emitted reported =>
      by_cases listed : id ∈ m.sessions
      · left
        rw [observedEmit early emitted]
        have key : (toSummary (m'.session id)).id = id := named
        simp [change,key,SessionManager.get,sessions,listed]
      · right; right
        rw [closing]
        have lasting := prompt (reported listed)
        rcases booked.accounted id known with member | ends | removed
        · exact absurd member listed
        · exact ends
        · exact absurd removed lasting
  · apply followsSame (follows id) (by rw [sessions]) (by rw [closing]) (within.others id here)
    · intro a own
      refine ⟨(within.of id a).mpr own,within.awaiting a ?_⟩
      intro own'
      exact here (own.2.symm.trans own'.2)
    · cases worked with
      | quiet _ same => rw [observedSame same]
      | told _ emitted =>
        have key : (toSummary (m'.session k)).id = k := named
        rw [observedEmit early emitted,change,key,writeOther here]

theorem removesIff (event : SessionEvent) (id : Nat) :
    removes event = some id ↔ event = .removed id := by
  cases event <;> simp [removes]

theorem silentSnoc (log : List SessionEvent) (event) : Silent (log ++ [event]) ↔
    Silent log ∧ ∀ id, .removed id ∈ log → reports event ≠ some id := by
  unfold Silent
  rw [List.pairwise_append]
  constructor
  · intro ⟨before,_,last⟩
    exact ⟨before,fun id removed => last _ removed event (by simp) id rfl⟩
  · intro ⟨before,last⟩
    refine ⟨before,by simp,?_⟩
    intro e member later same id removed
    obtain rfl := List.mem_singleton.mp same
    exact last id ((removesIff e id).mp removed ▸ member)

theorem silentReport {log : List SessionEvent} {event k} (about : reports event = some k) :
    Silent (log ++ [event]) ↔ Silent log ∧ .removed k ∉ log := by
  rw [silentSnoc,about]
  constructor
  · rintro ⟨silent,last⟩
    exact ⟨silent,fun removed => last k removed rfl⟩
  · rintro ⟨silent,lasting⟩
    refine ⟨silent,?_⟩
    intro id removed same
    exact lasting (Option.some.inj same ▸ removed)

theorem silentRemoved (log : List SessionEvent) (k) :
    Silent (log ++ [.removed k]) ↔ Silent log := by
  simp [silentSnoc,reports]

theorem workedSilent {m m' : Manager} {k : Nat} {late : Prop} (booked : Booked m)
    (worked : Worked m m' k late) :
    Silent m'.emitted ↔ Silent m.emitted ∧ (late → .removed k ∉ m.emitted) := by
  have named := (workedBooked booked worked).named k
  cases worked with
  | quiet _ same _ soundless =>
    rw [same]
    refine ⟨fun silent => ⟨silent,?_⟩,And.left⟩
    intro late
    by_cases listed : k ∈ m.sessions
    · exact (booked.listed k listed).2.2
    · exact absurd late (soundless listed)
  | told _ emitted reported =>
    rw [emitted,silentSnoc]
    have key : reports (.update (toSummary (m'.session k))) = some k := congrArg some named
    rw [key]
    constructor
    · rintro ⟨silent,last⟩
      exact ⟨silent,fun _ removed => last k removed rfl⟩
    · rintro ⟨silent,lasting⟩
      refine ⟨silent,?_⟩
      intro id removed same
      obtain rfl := Option.some.inj same
      by_cases listed : k ∈ m.sessions
      · exact (booked.listed k listed).2.2 removed
      · exact lasting (reported listed) removed

structure Told (t : Table Nat SessionSummary) (n : Nat) (m : Manager) : Prop where
  booked : Booked m
  early : n ≤ m.emitted.length
  follows : Silent m.emitted → ∀ id, Follows t n m id

theorem toldWorked {m m' : Manager} {k : Nat} {late : Prop} (told : Told t n m)
    (worked : Worked m m' k late) (known : k < m.nextId) : Told t n m' := by
  have grown : m.emitted.length ≤ m'.emitted.length := by
    cases worked with
    | quiet _ same => rw [same]
    | told _ emitted => simp [emitted]
  refine ⟨workedBooked told.booked worked,told.early.trans grown,?_⟩
  intro silent
  obtain ⟨before,prompt⟩ := (workedSilent told.booked worked).mp silent
  exact workedFollows told.booked told.early worked known prompt (told.follows before)

theorem toldEstablish {m : Manager} {k : Nat} (told : Told t n m) (known : k < m.nextId) :
    Told t n (establish m k) := by
  have older (a) (early : a < m.nextAttempt) : (establish m k).attempt a = m.attempt a :=
    establishOlder m k (Nat.ne_of_lt early)
  refine ⟨{ told.booked with owners := ?_, unused := ?_, stale := ?_ },told.early,?_⟩
  · exact establishKnown told.booked.owners known
  · intro a later
    have later : m.nextAttempt + 1 ≤ a := later
    rw [establishOlder m k (by omega)]
    exact told.booked.unused a (by omega)
  · intro a waits
    by_cases last : a = m.nextAttempt
    · simp [last,newAttempt] at waits
    · rw [establishOlder m k last] at waits
      simpa [owner,last] using told.booked.stale a waits
  · intro silent id
    refine followsSame (told.follows silent id) Iff.rfl Iff.rfl rfl ?_ rfl
    intro a own
    refine ⟨⟨Nat.lt_succ_of_lt own.1,?_⟩,by rw [older a own.1]⟩
    simpa [owner,older a own.1] using own.2

theorem toldReconnect {m : Manager} (told : Told t n m) (k : Nat) :
    Told t n (reconnect m k).2 ∧ (Silent (reconnect m k).2.emitted ↔ Silent m.emitted) := by
  unfold reconnect
  split
  · exact ⟨told,Iff.rfl⟩
  · rename_i listed
    have listed := not_not.mp listed
    split
    · exact ⟨told,Iff.rfl⟩
    · have reset := (withinSession m k (fun s => { s with
        status := .connecting, error := none, identity := none, driverId := none, kind := .unknown
        facade := none, scpi := none, transcriptRing := none, deviceErrorRing := none }) rfl).trans
          (withinDispose _ k)
      have worked : Worked m _ k False :=
        .told (reset.trans (withinUpdate _ k)) (by simp) fun gone => absurd listed gone
      have known := (told.booked.listed k listed).1
      refine ⟨toldEstablish (toldWorked told worked known) (by simpa using known),?_⟩
      simpa using workedSilent told.booked worked

theorem bookedListed {m : Manager} (booked : Booked m) (host port now) :
    Booked (listSession m (newSession m host port now)) := by
  have member (id) : id ∈ (listSession m (newSession m host port now)).sessions ↔
      id ∈ m.sessions ∨ id = m.nextId := by
    simp [newSession]
  have removed (id) : .removed id ∈ (listSession m (newSession m host port now)).emitted ↔
      .removed id ∈ m.emitted := by
    simp
  refine {
    named := ?_, listed := ?_, closing := ?_, removed := ?_, accounted := ?_, owners := ?_
    unused := booked.unused
    stale := ?_ }
  · intro id
    by_cases this : id = m.nextId
    · subst this
      exact congrArg InternalSession.id (listSessionSelf m (newSession m host port now))
    · rw [listSessionOther _ _ this]
      exact booked.named id
  · intro id listed
    rw [removed]
    rcases (member id).mp listed with old | rfl
    · obtain ⟨known,open_,lasting⟩ := booked.listed id old
      exact ⟨Nat.lt_succ_of_lt known,open_,lasting⟩
    · refine ⟨Nat.lt_succ_self _,?_,?_⟩
      · exact fun ends => absurd (booked.closing _ ends).1 (Nat.lt_irrefl _)
      · exact fun gone => absurd (booked.removed _ gone) (Nat.lt_irrefl _)
  · intro id ends
    rw [removed]
    exact ⟨Nat.lt_succ_of_lt (booked.closing id ends).1,(booked.closing id ends).2⟩
  · intro id gone
    exact Nat.lt_succ_of_lt (booked.removed id ((removed id).mp gone))
  · intro id known
    rw [member,removed]
    rcases Nat.lt_succ_iff_lt_or_eq.mp known with old | rfl
    · rcases booked.accounted id old with listed | rest
      · exact .inl (.inl listed)
      · exact .inr rest
    · exact .inl (.inr rfl)
  · intro a early
    exact Nat.lt_succ_of_lt (booked.owners a early)
  · intro a waits listed
    rcases (member _).mp listed with old | new
    · exact booked.stale a waits old
    · have known := booked.owners a (booked.of waits).1
      exact absurd (new ▸ known) (Nat.lt_irrefl _)

theorem toldListed {m : Manager} (told : Told t n m) (host port now) :
    Told t n (listSession m (newSession m host port now)) := by
  have emitted := listSessionTells m (newSession m host port now)
  refine ⟨bookedListed told.booked host port now,?_,?_⟩
  · simpa using Nat.le_succ_of_le told.early
  · intro silent id
    rw [emitted,silentSnoc] at silent
    by_cases this : id = m.nextId
    · left
      have key : (toSummary (newSession m host port now)).id = id := this.symm
      have listed : id ∈ (listSession m (newSession m host port now)).sessions := by
        simp [newSession,this]
      have new : (listSession m (newSession m host port now)).session id =
          newSession m host port now := by
        subst this
        exact listSessionSelf m (newSession m host port now)
      have got : SessionManager.get (listSession m (newSession m host port now)) id =
          some (toSummary (newSession m host port now)) := by
        rw [SessionManager.get,if_pos listed,new]
      rw [observedEmit told.early emitted,got]
      simp [change,key]
    · refine followsSame (told.follows silent.1 id) (by simp [newSession,this]) Iff.rfl
        (by rw [listSessionOther _ _ this]) (fun a own => ⟨own,rfl⟩) ?_
      rw [observedEmit told.early emitted,change]
      exact writeOther this _ _

theorem toldOpen {m : Manager} (told : Told t n m) (host port now) :
    Told t n (openSession m host port now).2 ∧
      (Silent (openSession m host port now).2.emitted ↔ Silent m.emitted) := by
  rcases openSessionCases m host port now with ⟨err,refused⟩ | opened
  · rw [refused]
    exact ⟨told,Iff.rfl⟩
  · rw [opened]
    refine ⟨toldEstablish (toldListed told host port now) (Nat.lt_succ_self _),?_⟩
    have fresh : .removed m.nextId ∉ m.emitted :=
      fun gone => absurd (told.booked.removed _ gone) (Nat.lt_irrefl _)
    have about : reports (.update (toSummary (newSession m host port now))) = some m.nextId := rfl
    calc Silent (listSession m (newSession m host port now)).emitted
        ↔ Silent m.emitted ∧ .removed m.nextId ∉ m.emitted := by
          rw [listSessionTells,silentReport about]
      _ ↔ Silent m.emitted := and_iff_left fresh

/- Session `k` leaves the map: its `removed` is out, or `close` still has to send it. -/
structure Gone (m m' : Manager) (k : Nat) : Prop where
  told : m'.emitted = m.emitted ∧ m'.closing = m.closing ++ [k] ∨
    m'.emitted = m.emitted ++ [.removed k] ∧ m'.closing = m.closing
  sessions : m'.sessions = m.sessions.filter (· ≠ k)
  counts : m'.nextId = m.nextId ∧ m'.nextAttempt = m.nextAttempt
  summary : ∀ id, toSummary (m'.session id) = toSummary (m.session id)
  owners : ∀ a, owner m' a = owner m a
  awaiting : ∀ a, (m'.attempt a).awaiting = (m.attempt a).awaiting

theorem Gone.member {m m' : Manager} {k : Nat} (gone : Gone m m' k) (id : Nat) :
    id ∈ m'.sessions ↔ id ∈ m.sessions ∧ id ≠ k := by
  simp [gone.sessions]

theorem Gone.others {m m' : Manager} {k : Nat} (gone : Gone m m' k) {id : Nat} (other : id ≠ k) :
    (id ∈ m'.closing ↔ id ∈ m.closing) ∧ (.removed id ∈ m'.emitted ↔ .removed id ∈ m.emitted) := by
  rcases gone.told with ⟨emitted,closing⟩ | ⟨emitted,closing⟩ <;> simp [emitted,closing,other]

theorem bookedGone {m m' : Manager} {k : Nat} (booked : Booked m) (listed : k ∈ m.sessions)
    (gone : Gone m m' k) : Booked m' := by
  obtain ⟨known,open_,lasting⟩ := booked.listed k listed
  have counts := gone.counts
  have here : k ∈ m'.closing ∨ .removed k ∈ m'.emitted := by
    rcases gone.told with ⟨_,closing⟩ | ⟨emitted,_⟩
    · exact .inl (by simp [closing])
    · exact .inr (by simp [emitted])
  refine {
    named := fun id => (congrArg SessionSummary.id (gone.summary id)).trans (booked.named id)
    listed := ?_, closing := ?_, removed := ?_, accounted := ?_, owners := ?_
    unused := by simpa only [counts.2,gone.awaiting] using booked.unused
    stale := ?_ }
  · intro id listed'
    obtain ⟨old,other⟩ := (gone.member id).mp listed'
    rw [counts.1,(gone.others other).1,(gone.others other).2]
    exact booked.listed id old
  · intro id closing
    by_cases this : id = k
    · subst this
      refine ⟨counts.1 ▸ known,?_⟩
      rcases gone.told with ⟨emitted,_⟩ | ⟨_,same⟩
      · rw [emitted]
        exact lasting
      · exact absurd (same ▸ closing) open_
    · rw [counts.1,(gone.others this).2]
      exact booked.closing id ((gone.others this).1.mp closing)
  · intro id removed
    rw [counts.1]
    by_cases this : id = k
    · exact this ▸ known
    · exact booked.removed id ((gone.others this).2.mp removed)
  · intro id early
    rw [counts.1] at early
    by_cases this : id = k
    · exact .inr (this ▸ here)
    · rw [gone.member,(gone.others this).1,(gone.others this).2]
      rcases booked.accounted id early with old | rest
      · exact .inl ⟨old,this⟩
      · exact .inr rest
  · intro a early
    rw [counts.2] at early
    rw [gone.owners,counts.1]
    exact booked.owners a early
  · intro a waits
    rw [gone.owners,gone.member]
    rw [gone.awaiting] at waits
    exact fun both => booked.stale a waits both.1

theorem toldGone {m m' : Manager} {k : Nat} (told : Told t n m) (listed : k ∈ m.sessions)
    (gone : Gone m m' k) : Told t n m' := by
  refine ⟨bookedGone told.booked listed gone,?_,?_⟩
  · rcases gone.told with ⟨emitted,_⟩ | ⟨emitted,_⟩
    · exact emitted ▸ told.early
    · simpa [emitted] using Nat.le_succ_of_le told.early
  · intro silent id
    have silent : Silent m.emitted := by
      rcases gone.told with ⟨emitted,_⟩ | ⟨emitted,_⟩
      · exact emitted ▸ silent
      · rw [emitted,silentSnoc] at silent
        exact silent.1
    by_cases this : id = k
    · subst this
      rcases gone.told with ⟨_,closing⟩ | ⟨emitted,_⟩
      · exact .inr (.inr (by simp [closing]))
      · left
        rw [observedEmit told.early emitted]
        simp [change,SessionManager.get,gone.member]
    · refine followsSame (told.follows silent id) (by simp [gone.member,this]) (gone.others this).1
        (gone.summary id)
        (fun a own => ⟨⟨gone.counts.2 ▸ own.1,(gone.owners a).trans own.2⟩,gone.awaiting a⟩) ?_
      rcases gone.told with ⟨emitted,_⟩ | ⟨emitted,_⟩
      · rw [observedSame emitted]
      · rw [observedEmit told.early emitted,change]
        exact writeOther this _ _

theorem toldClose {m : Manager} (told : Told t n m) (k : Nat) :
    Told t n (close m k) ∧ (Silent (close m k).emitted ↔ Silent m.emitted) := by
  unfold close
  split
  · exact ⟨told,Iff.rfl⟩
  · rename_i listed
    have listed := not_not.mp listed
    simp only
    split
    · refine ⟨toldGone told listed ⟨.inr ?_,?_,?_,?_,?_,?_⟩,?_⟩ <;> simp [owner,silentRemoved]
    · refine ⟨toldGone told listed ⟨.inl ?_,?_,?_,?_,?_,?_⟩,?_⟩ <;> simp [owner]

theorem toldFinishClose {m : Manager} {k : Nat} (told : Told t n m) (ends : k ∈ m.closing) :
    Told t n (finishClose m k) := by
  have booked := told.booked
  obtain ⟨known,lasting⟩ := booked.closing k ends
  have unlisted : k ∉ m.sessions := fun listed => (booked.listed k listed).2.1 ends
  have closing (id) : id ∈ (finishClose m k).closing ↔ id ∈ m.closing ∧ id ≠ k := by
    simp [finishClose]
  have removed (id) : .removed id ∈ (finishClose m k).emitted ↔ .removed id ∈ m.emitted ∨ id = k := by
    simp [finishClose]
  have emitted : (finishClose m k).emitted = m.emitted ++ [.removed k] := rfl
  refine ⟨{ booked with listed := ?_, closing := ?_, removed := ?_, accounted := ?_ },?_,?_⟩
  · intro id listed
    have other : id ≠ k := fun same => unlisted (same ▸ listed)
    rw [closing,removed]
    obtain ⟨early,open_,lasting⟩ := booked.listed id listed
    exact ⟨early,fun both => open_ both.1,by simp [lasting,other]⟩
  · intro id member
    rw [closing] at member
    rw [removed]
    exact ⟨(booked.closing id member.1).1,by simp [(booked.closing id member.1).2,member.2]⟩
  · intro id member
    rcases (removed id).mp member with old | rfl
    · exact booked.removed id old
    · exact known
  · intro id early
    rw [closing,removed]
    rcases booked.accounted id early with listed | member | old
    · exact .inl listed
    · by_cases this : id = k
      · exact .inr (.inr (.inr this))
      · exact .inr (.inl ⟨member,this⟩)
    · exact .inr (.inr (.inl old))
  · simpa [emitted] using Nat.le_succ_of_le told.early
  · intro silent id
    rw [emitted,silentSnoc] at silent
    by_cases this : id = k
    · subst this
      left
      have gone : id ∉ (finishClose m id).sessions := unlisted
      rw [observedEmit told.early emitted]
      simp [change,SessionManager.get,gone]
    · refine followsSame (told.follows silent.1 id) Iff.rfl (by simp [closing,this]) rfl
        (fun a own => ⟨own,rfl⟩) ?_
      rw [observedEmit told.early emitted,change]
      exact writeOther this _ _

theorem toldElsewhere {m m' : Manager} (told : Told t n m) (within : ∀ k, Within m m' k)
    (emitted : m'.emitted = m.emitted ∨ ∃ event, change event = keep ∧ removes event = none ∧
      m'.emitted = m.emitted ++ [event]) : Told t n m' := by
  have removed (id) : .removed id ∈ m'.emitted ↔ .removed id ∈ m.emitted := by
    rcases emitted with emitted | ⟨event,_,stays,emitted⟩
    · rw [emitted]
    · have other : event ≠ .removed id := by
        intro same
        simp [same,removes] at stays
      simp [emitted,other.symm]
  have booked := told.booked
  have same (a) : (m'.attempt a).awaiting = (m.attempt a).awaiting := by
    by_cases own : Of m 0 a
    · apply (within 1).awaiting a
      intro own'
      exact absurd (own.2.symm.trans own'.2) (by decide)
    · exact (within 0).awaiting a own
  have summary (id) : toSummary (m'.session id) = toSummary (m.session id) :=
    (within (id + 1)).others id (by omega)
  obtain ⟨sessions,closing,nextId,nextAttempt⟩ := (within 0).counts
  refine ⟨{
    named := fun id => ((within 0).named id).trans (booked.named id)
    listed := by simpa only [sessions,closing,nextId,removed] using booked.listed
    closing := by simpa only [closing,nextId,removed] using booked.closing
    removed := by simpa only [nextId,removed] using booked.removed
    accounted := by simpa only [sessions,closing,nextId,removed] using booked.accounted
    owners := by simpa only [nextAttempt,nextId,(within 0).owner] using booked.owners
    unused := by simpa only [nextAttempt,same] using booked.unused
    stale := by simpa only [sessions,same,(within 0).owner] using booked.stale },?_,?_⟩
  · rcases emitted with emitted | ⟨event,_,_,emitted⟩
    · exact emitted ▸ told.early
    · simpa [emitted] using Nat.le_succ_of_le told.early
  intro silent id
  have silent : Silent m.emitted := by
    rcases emitted with emitted | ⟨event,_,_,emitted⟩
    · exact emitted ▸ silent
    · rw [emitted,silentSnoc] at silent
      exact silent.1
  refine followsSame (told.follows silent id) (by rw [sessions]) (by rw [closing]) (summary id)
    (fun a own => ⟨((within 0).of id a).mpr own,same a⟩) ?_
  rcases emitted with emitted | ⟨event,quiet,_,emitted⟩
  · rw [observedSame emitted]
  · rw [observedEmit told.early emitted,quiet,writeKeep]

-- the catch block of `establish` when it has no ScpiSession to close
def bareFailure (m : Manager) (a : Nat) : Option Nat :=
  if (m.session (owner m a)).scpi = none then some (owner m a) else none

/- The session an event makes the manager report on without asking whether it is still listed: the
catch block of `establish`, a SCPI exchange that settles, a drained error queue. -/
def lateReport (m : Manager) : Event → Option Nat
  | .factorySettled a (.error _) =>
      match (m.attempt a).awaiting with
      | some .factory => bareFailure m a
      | _ => none
  | .idnSettled a (.error _) =>
      match (m.attempt a).awaiting with
      | some .idn => bareFailure m a
      | _ => none
  | .scpiCloseSettled a (.error _) =>
      match (m.attempt a).awaiting with
      | some .staleClose => bareFailure m a
      | some .failureClose => some (owner m a)
      | _ => none
  | .scpiCloseSettled a (.ok _) =>
      match (m.attempt a).awaiting with
      | some .failureClose => some (owner m a)
      | _ => none
  | .drainSettled a entries =>
      if (m.attempt a).busy ∧ entries ≠ [] ∧
          (m.session (owner m a)).deviceErrorRing.isSome then
        some (owner m a)
      else none
  | .recorded a _ => if a < m.nextAttempt then some (owner m a) else none
  | _ => none

theorem bareOwner {m : Manager} {a id : Nat} (late : bareFailure m a = some id) :
    id = owner m a ∧ (m.session (owner m a)).scpi = none := by
  unfold bareFailure at late
  split at late
  · rename_i bare
    exact ⟨(Option.some.inj late).symm,bare⟩
  · exact absurd late nofun

theorem bareIff (m : Manager) (a : Nat) :
    bareFailure m a = some (owner m a) ↔ (m.session (owner m a)).scpi = none := by
  simp [bareFailure]

/- Such a report comes before `close` has completed for its session. -/
def Prompt (m : Manager) (e : Event) : Prop := ∀ id ∈ lateReport m e, .removed id ∉ m.emitted

instance (m e) : Decidable (Prompt m e) := inferInstanceAs (Decidable (∀ id ∈ _, _))

theorem promptNone {m : Manager} {e : Event} (none : lateReport m e = none) : Prompt m e := by
  simp [Prompt,none]

theorem toldDropped {m : Manager} (told : Told t n m) (a : Nat) (err) :
    Told t n (dropScpi m a err) ∧ (Silent (dropScpi m a err).emitted ↔ Silent m.emitted) := by
  unfold dropScpi
  split
  · exact ⟨told,Iff.rfl⟩
  · split
    · exact ⟨told,Iff.rfl⟩
    · have closed : Told t n (closeScpi m a) :=
        toldElsewhere told (fun k => withinClose m k a) (.inl rfl)
      split
      · rcases workedLost (closeScpi m a) (owner m a) err with same | ⟨listed,worked⟩
        · rw [same]
          exact ⟨closed,Iff.rfl⟩
        · refine ⟨toldWorked closed worked (closed.booked.listed _ listed).1,?_⟩
          rw [workedSilent closed.booked worked]
          simp
      · exact ⟨closed,Iff.rfl⟩

theorem toldQuiet {m m' : Manager} {e : Event} (none : lateReport m e = none)
    (told : Told t n m' ∧ (Silent m'.emitted ↔ Silent m.emitted)) :
    Told t n m' ∧ (Silent m'.emitted ↔ Silent m.emitted ∧ Prompt m e) :=
  ⟨told.1,by simp [promptNone none,told.2]⟩

theorem toldIdle {m : Manager} {e : Event} (told : Told t n m) (none : lateReport m e = none) :
    Told t n m ∧ (Silent m.emitted ↔ Silent m.emitted ∧ Prompt m e) :=
  toldQuiet none ⟨told,Iff.rfl⟩

theorem toldWorks {m m' : Manager} {a : Nat} {w : Await} {e : Event} (told : Told t n m)
    (waits : (m.attempt a).awaiting = some w)
    (only : ∀ id, lateReport m e = some id → id = owner m a)
    (worked : Worked m m' (owner m a) (lateReport m e = some (owner m a))) :
    Told t n m' ∧ (Silent m'.emitted ↔ Silent m.emitted ∧ Prompt m e) := by
  have booked := told.booked
  refine ⟨toldWorked told worked (booked.owners a (booked.of waits).1),?_⟩
  rw [workedSilent booked worked]
  have same : Prompt m e ↔
      (lateReport m e = some (owner m a) → .removed (owner m a) ∉ m.emitted) := by
    constructor
    · exact fun prompt late => prompt _ late
    · intro lasting id late
      obtain rfl := only id late
      exact lasting late
  rw [same]

theorem toldDrain {m : Manager} (told : Told t n m) (a : Nat) (entries) :
    Told t n (step m (.drainSettled a entries)) ∧
      (Silent (step m (.drainSettled a entries)).emitted ↔
        Silent m.emitted ∧ Prompt m (.drainSettled a entries)) := by
  have within (k) := withinAttempt m k a (fun t => { t with busy := false }) ⟨rfl,rfl⟩
  have drained : Told t n (setAttempt m a fun t => { t with busy := false }) :=
    toldElsewhere told within (.inl rfl)
  simp only [step]
  split
  · rename_i busy
    simp only [finishDrain]
    split
    · rename_i empty
      exact toldQuiet (by simp [lateReport,empty]) ⟨drained,Iff.rfl⟩
    · rename_i some_
      split
      · rename_i ringless
        have ringless : (m.session (owner m a)).deviceErrorRing = none := by
          simpa [owner] using ringless
        exact toldQuiet (by simp [lateReport,ringless]) ⟨drained,Iff.rfl⟩
      · rename_i ring holds
        have holds : (m.session (owner m a)).deviceErrorRing = some ring := by
          simpa [owner] using holds
        have late : lateReport m (.drainSettled a entries) = some (owner m a) := by
          simp [lateReport,busy,some_,holds]
        refine ⟨toldElsewhere drained (fun k => ?_) (.inr ⟨_,rfl,rfl,rfl⟩),?_⟩
        · exact (withinAttempt _ k ring _ ⟨rfl,rfl⟩).trans (withinEmit _ k _)
        · have about : reports (.deviceErrors (owner (setAttempt m a
              fun t => { t with busy := false }) a) entries) = some (owner m a) :=
            congrArg some ((within 0).owner a)
          simp only [Prompt,late,Option.mem_def,Option.some.injEq,forall_eq']
          exact silentReport about
  · rename_i free
    exact toldIdle told (by simp [lateReport,free])

theorem toldRecord {m : Manager} (told : Told t n m) (a : Nat) (input) :
    Told t n (step m (.recorded a input)) ∧
      (Silent (step m (.recorded a input)).emitted ↔
        Silent m.emitted ∧ Prompt m (.recorded a input)) := by
  simp only [step]
  split
  · rename_i made
    have late : lateReport m (.recorded a input) = some (owner m a) := by simp [lateReport,made]
    refine ⟨toldElsewhere told (fun k => ?_) (.inr ⟨_,rfl,rfl,rfl⟩),?_⟩
    · exact (withinAttempt m k a _ ⟨rfl,rfl⟩).trans (withinEmit _ k _)
    · have about : reports (.transcript (owner m a) [((m.attempt a).transcriptRing.push input).1]) =
          some (owner m a) := rfl
      simp only [Prompt,late,Option.mem_def,Option.some.injEq,forall_eq']
      exact silentReport about
  · rename_i unmade
    exact toldIdle told (by simp [lateReport,unmade])

theorem toldAppend {m : Manager} (told : Told t n m) (id : Nat) (input) :
    Told t n (appendTranscript m id input).2 ∧
      (Silent (appendTranscript m id input).2.emitted ↔ Silent m.emitted) := by
  simp only [appendTranscript]
  split
  · exact ⟨told,Iff.rfl⟩
  · rename_i listed
    split
    · exact ⟨told,Iff.rfl⟩
    · rename_i a _
      have about : reports (.transcript id [((m.attempt a).transcriptRing.push input).1]) =
        some id := rfl
      have lasting := (told.booked.listed id (not_not.mp listed)).2.2
      refine ⟨toldElsewhere told (fun k => ?_) (.inr ⟨_,rfl,rfl,rfl⟩),?_⟩
      · exact (withinAttempt m k a _ ⟨rfl,rfl⟩).trans (withinEmit _ k _)
      · exact (silentReport about).trans (and_iff_left lasting)

theorem stepTold (m : Manager) (e : Event) (told : Told t n m) :
    Told t n (step m e) ∧ (Silent (step m e).emitted ↔ Silent m.emitted ∧ Prompt m e) := by
  have booked := told.booked
  cases e with
  | openSession host port now => exact toldQuiet rfl (toldOpen told host port now)
  | reconnect id => exact toldQuiet rfl (toldReconnect told id)
  | close id => exact toldQuiet rfl (toldClose told id)
  | factorySettled a outcome =>
    simp only [step]
    split
    · rename_i waits
      refine toldWorks told waits ?_ (workedFactory (booked.of waits) outcome fun _ => ?_)
      · intro id late
        cases outcome with
        | ok _ => simp [lateReport] at late
        | error err => exact (bareOwner (by simpa [lateReport,waits] using late)).1
      · cases outcome <;> simp [lateReport,waits,bareIff]
    · rename_i other
      apply toldIdle told
      cases outcome <;> simp [lateReport]
  | idnSettled a outcome =>
    simp only [step]
    split
    · rename_i waits
      refine toldWorks told waits ?_ (workedIdn (booked.of waits) outcome fun _ => ?_)
      · intro id late
        cases outcome with
        | ok _ => simp [lateReport] at late
        | error err => exact (bareOwner (by simpa [lateReport,waits] using late)).1
      · cases outcome <;> simp [lateReport,waits,bareIff]
    · rename_i other
      apply toldIdle told
      cases outcome <;> simp [lateReport]
  | refineSettled a outcome =>
    simp only [step]
    split
    · rename_i waits
      exact toldWorks told waits (by simp [lateReport])
        (workedRefine (booked.of waits) _ _ outcome (by simp [lateReport]))
    · exact toldIdle told rfl
  | scpiCloseSettled a outcome =>
    simp only [step]
    split
    · rename_i waits
      refine toldWorks told waits ?_
        (workedStaleSettled (booked.of waits) (booked.stale a waits) outcome ?_)
      · intro id late
        cases outcome with
        | ok _ => simp [lateReport,waits] at late
        | error err => exact (bareOwner (by simpa [lateReport,waits] using late)).1
      · cases outcome <;> simp [lateReport,waits,bareIff]
    · rename_i waits
      refine toldWorks told waits ?_ (workedFailureSettled (booked.of waits) fun _ => ?_)
      · intro id late
        cases outcome <;> simpa [lateReport,waits,eq_comm] using late
      · cases outcome <;> simp [lateReport,waits]
    · rename_i notStale notFailure
      apply toldIdle told
      cases outcome <;> simp [lateReport]
  | closeSettled id =>
    simp only [step]
    split
    · rename_i ends
      exact toldQuiet rfl ⟨toldFinishClose told ends,silentRemoved _ id⟩
    · exact toldIdle told rfl
  | drainSettled a entries => exact toldDrain told a entries
  | dropped a err => exact toldQuiet rfl (toldDropped told a err)
  | recorded a input => exact toldRecord told a input
  | pollTick a =>
    simp only [step,pollTick]
    split
    · apply toldQuiet rfl
      exact ⟨toldElsewhere told (fun k => withinAttempt m k a _ ⟨rfl,rfl⟩) (.inl rfl),Iff.rfl⟩
    · exact toldIdle told rfl
  | appendTranscript id input => exact toldQuiet rfl (toldAppend told id input)

end

theorem createTold (registry maxSessions transcriptRingMax deviceErrorRingMax) :
    Told (fun _ => none) 0 (create registry maxSessions transcriptRingMax deviceErrorRingMax) where
  booked := {
    named := fun _ => rfl
    listed := fun _ member => absurd member List.not_mem_nil
    closing := fun _ member => absurd member List.not_mem_nil
    removed := fun _ member => absurd member List.not_mem_nil
    accounted := fun id known => absurd known (Nat.not_lt_zero id)
    owners := fun a early => absurd early (Nat.not_lt_zero a)
    unused := fun _ _ => rfl
    stale := nofun }
  early := Nat.le_refl 0
  follows _ _ := .inl rfl

def Mirrored (m : Manager) : Prop :=
  AtRest m → ∀ id, mirror m id = (list m).find? fun session => session.id = id

theorem findNamed (f : Nat → SessionSummary) (named : ∀ k, (f k).id = k) (ids : List Nat) (id) :
    (ids.map f).find? (fun session => session.id = id) =
      if id ∈ ids then some (f id) else none := by
  induction ids with
  | nil => rfl
  | cons k rest ih =>
    by_cases same : k = id
    · simp [same,named]
    · simp [same,Ne.symm same,named,ih]

theorem listFind {m : Manager} (booked : Booked m) (id : Nat) :
    (list m).find? (fun session => session.id = id) = SessionManager.get m id :=
  findNamed _ booked.named m.sessions id

theorem restDone {m : Manager} (rest : AtRest m) (id : Nat) : ¬ Due m id := by
  rintro (⟨_,a,own,pending⟩ | ends)
  · have idle := rest.1 a own.1
    simp [Option.isNone_iff_eq_none.mp idle] at pending
  · exact absurd (rest.2 ▸ ends) List.not_mem_nil

theorem restMirrored {m : Manager} (told : Told (fun _ => none) 0 m) (silent : Silent m.emitted) :
    Mirrored m := by
  intro rest id
  rw [listFind told.booked]
  exact (told.follows silent id).resolve_right (restDone rest id)

theorem eventsMatchSessions (registry : DeviceIdentity → Option DriverEntry)
    (maxSessions transcriptRingMax deviceErrorRingMax : Nat) (events : List Event) :
    (Silent (run step (create registry maxSessions transcriptRingMax deviceErrorRingMax)
        events).emitted ∧
      Throughout step Mirrored
        (create registry maxSessions transcriptRingMax deviceErrorRingMax) events) ↔
    Along step Prompt (create registry maxSessions transcriptRingMax deviceErrorRingMax) events := by
  have start := createTold registry maxSessions transcriptRingMax deviceErrorRingMax
  have iff := goodIffAlong (fun m : Manager => Silent m.emitted) (fun m e told => (stepTold m e told).1)
    (fun m e told => (stepTold m e told).2) start List.Pairwise.nil
  constructor
  · intro both
    exact (iff events).mp both.1
  · intro prompt
    refine ⟨(iff events).mpr prompt,?_⟩
    intro seen early
    exact restMirrored (runKeeps (fun m e told => (stepTold m e told).1) seen start)
      ((iff seen).mpr (alongPrefix prompt early))

/- The session is closed while it still connects; the connect then fails, and a listener that
follows the stream ends up with a session that does not exist. -/
theorem failedConnectOutlivesClose :
    ¬ (Silent (run step (create fun _ => none)
        [.openSession "psu" none 0, .close 0,
          .factorySettled 0 (.error ⟨.error,"connect ETIMEDOUT"⟩)]).emitted) ∧
    ¬ Mirrored (run step (create fun _ => none)
        [.openSession "psu" none 0, .close 0,
          .factorySettled 0 (.error ⟨.error,"connect ETIMEDOUT"⟩)]) := by
  refine ⟨by decide,?_⟩
  intro mirrored
  exact absurd (mirrored (by decide) 0) (by decide)

end LxiWeb.SessionEvents
