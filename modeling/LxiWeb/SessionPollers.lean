import LxiWeb.SessionManager
import LxiWeb.SessionOwnership

/-! The error pollers of a `SessionManager`. A poller runs for a listed session that is connected on
the ScpiSession it drains, and every connected session of a known kind has one, as long as no catch
block of `establish` finishes while its session has gone on with another call. -/
namespace LxiWeb.SessionPollers
open ScpiFraming SessionManager SessionOwnership

/- Session `id` is listed and connected on the ScpiSession of call `a`. -/
def BoundTo (m : Manager) (id a : Nat) : Prop :=
  id ∈ m.sessions ∧ (m.session id).status = .connected ∧ (m.session id).scpi = some a

/- The catch block of call `a` waits for its `scpi.close()`. -/
def inCatch (m : Manager) (a : Nat) : Bool :=
  match (m.attempt a).awaiting with
  | some .failureClose => true
  | _ => false

structure PolledAt (m : Manager) (id : Nat) : Prop where
  one : ∀ a b, Of m id a → Of m id b → Running m a → Running m b → a = b
  connecting : ∀ a, Of m id a → Running m a → (m.session id).status = .connecting
  midway : ∀ a, Of m id a → Midway m a → id ∈ m.sessions → (m.session id).scpi = some a
  disposes : ∀ a, (m.session id).disposeErrorPoller = some a → Of m id a
  polling : ∀ a, Of m id a → (m.attempt a).polling →
    BoundTo m id a ∧ (m.session id).disposeErrorPoller = some a
  connected : id ∈ m.sessions → (m.session id).status = .connected →
    ∃ a, Of m id a ∧ (m.session id).scpi = some a ∧ (m.attempt a).awaiting = none ∧
      ((m.session id).kind ≠ .unknown → (m.attempt a).polling)

structure Polled (m : Manager) : Prop where
  unused : ∀ a, m.nextAttempt ≤ a → (m.attempt a).awaiting = none ∧ (m.attempt a).polling = false
  known : ∀ a, a < m.nextAttempt → owner m a < m.nextId
  listed : ∀ id ∈ m.sessions, id < m.nextId
  each : ∀ id, PolledAt m id

/- `m'` differs from `m` at most in session `k`, the calls made for it and what no poller reads. -/
structure Apart (m m' : Manager) (k : Nat) : Prop where
  counts : m'.nextAttempt = m.nextAttempt ∧ m'.nextId = m.nextId
  owner : ∀ a, owner m' a = owner m a
  shrinks : m'.sessions ⊆ m.sessions
  listed : ∀ id, id ≠ k → (id ∈ m'.sessions ↔ id ∈ m.sessions)
  session : ∀ id, id ≠ k → m'.session id = m.session id
  attempt : ∀ a, ¬ Of m k a → (m'.attempt a).awaiting = (m.attempt a).awaiting ∧
    (m'.attempt a).polling = (m.attempt a).polling

theorem Apart.of {m m' : Manager} {k : Nat} (apart : Apart m m' k) (id a : Nat) :
    Of m' id a ↔ Of m id a := by
  simp only [Of,apart.counts.1,apart.owner]

theorem Apart.refl (m : Manager) (k : Nat) : Apart m m k :=
  ⟨⟨rfl,rfl⟩,fun _ => rfl,fun _ member => member,fun _ _ => Iff.rfl,fun _ _ => rfl,
    fun _ _ => ⟨rfl,rfl⟩⟩

theorem Apart.trans {m m' m'' : Manager} {k : Nat} (first : Apart m m' k)
    (second : Apart m' m'' k) : Apart m m'' k where
  counts := ⟨second.counts.1.trans first.counts.1,second.counts.2.trans first.counts.2⟩
  owner a := (second.owner a).trans (first.owner a)
  shrinks := List.Subset.trans second.shrinks first.shrinks
  listed id other := (second.listed id other).trans (first.listed id other)
  session id other := (second.session id other).trans (first.session id other)
  attempt a elsewhere := by
    obtain ⟨awaiting,polling⟩ := second.attempt a (by rw [first.of]; exact elsewhere)
    rw [awaiting,polling]
    exact first.attempt a elsewhere

/- Session `id` and the calls made for it are in `m'` as they are in `m`. -/
structure Unmoved (m m' : Manager) (id : Nat) : Prop where
  listed : id ∈ m'.sessions ↔ id ∈ m.sessions
  session : m'.session id = m.session id
  of : ∀ a, Of m' id a ↔ Of m id a
  attempt : ∀ a, Of m id a → (m'.attempt a).awaiting = (m.attempt a).awaiting ∧
    (m'.attempt a).polling = (m.attempt a).polling

theorem Apart.unmoved {m m' : Manager} {k id : Nat} (apart : Apart m m' k) (other : id ≠ k) :
    Unmoved m m' id where
  listed := apart.listed id other
  session := apart.session id other
  of := apart.of id
  attempt a own := apart.attempt a fun own' => other (own.2.symm.trans own'.2)

theorem polledUnmoved {m m' : Manager} {id : Nat} (unmoved : Unmoved m m' id)
    (polled : PolledAt m id) : PolledAt m' id := by
  obtain ⟨listed,session,of,same⟩ := unmoved
  have running (a) (own : Of m id a) : Running m' a ↔ Running m a := by
    simp only [Running,same a own]
  exact {
    one := by
      intro a b ownA ownB runA runB
      rw [of] at ownA ownB
      exact polled.one a b ownA ownB ((running a ownA).mp runA) ((running b ownB).mp runB)
    connecting := by
      intro a own run
      rw [of] at own
      rw [session]
      exact polled.connecting a own ((running a own).mp run)
    midway := by
      intro a own midway member
      rw [of] at own
      rw [session]
      exact polled.midway a own (by simpa only [Midway,same a own] using midway) (listed.mp member)
    disposes := by
      intro a disposed
      rw [of]
      exact polled.disposes a (session ▸ disposed)
    polling := by
      intro a own polling
      rw [of] at own
      rw [(same a own).2] at polling
      simpa only [BoundTo,session,listed] using polled.polling a own polling
    connected := by
      intro member connected
      rw [session] at connected ⊢
      obtain ⟨a,own,holds,ended,polls⟩ := polled.connected (listed.mp member) connected
      refine ⟨a,(of a).mpr own,holds,?_,?_⟩
      · rw [(same a own).1,ended]
      · rw [(same a own).2]
        exact polls }

theorem polledElsewhere {m m' : Manager} {k : Nat} (apart : Apart m m' (k + 1))
    (polled : PolledAt m k) : PolledAt m' k :=
  polledUnmoved (apart.unmoved (Nat.ne_of_lt (Nat.lt_succ_self k))) polled

section
variable (m : Manager) (k a : Nat)

theorem apartSession (f) : Apart m (setSession m k f) k := by
  constructor <;> simp +contextual [owner]

theorem apartQuiet (f : Attempt → Attempt)
    (keeps : (f (m.attempt a)).session = (m.attempt a).session ∧
      (f (m.attempt a)).awaiting = (m.attempt a).awaiting ∧
      (f (m.attempt a)).polling = (m.attempt a).polling) : Apart m (setAttempt m a f) k where
  counts := ⟨rfl,rfl⟩
  owner b := by by_cases same : b = a <;> simp [owner,same,keeps]
  shrinks := List.Subset.refl _
  listed _ _ := Iff.rfl
  session _ _ := rfl
  attempt b _ := by by_cases same : b = a <;> simp [same,keeps]

theorem apartEmit (event) : Apart m (emit m event) k :=
  ⟨⟨rfl,rfl⟩,fun _ => rfl,List.Subset.refl _,fun _ _ => Iff.rfl,fun _ _ => rfl,fun _ _ => ⟨rfl,rfl⟩⟩

theorem apartUpdate : Apart m (emitUpdate m k) k := apartEmit m k _

theorem apartScpi (f) : Apart m (setScpi m a f) k := apartQuiet m k a _ ⟨rfl,rfl,rfl⟩

theorem apartClose : Apart m (closeScpi m a) k := apartScpi m k a _

end

theorem apartAttempt {m : Manager} {k a : Nat} (own : Of m k a) (f : Attempt → Attempt)
    (keeps : (f (m.attempt a)).session = (m.attempt a).session) :
    Apart m (setAttempt m a f) k where
  counts := ⟨rfl,rfl⟩
  owner b := by by_cases same : b = a <;> simp [owner,same,keeps]
  shrinks := List.Subset.refl _
  listed _ _ := Iff.rfl
  session _ _ := rfl
  attempt b elsewhere := by
    have other : b ≠ a := by
      intro same
      exact elsewhere (same ▸ own)
    simp [other]

theorem apartAwait {m : Manager} {k a : Nat} (own : Of m k a) (w) : Apart m (await m a w) k :=
  apartAttempt own _ rfl

theorem apartDispose {m : Manager} {k : Nat}
    (own : ∀ a, (m.session k).disposeErrorPoller = some a → Of m k a) :
    Apart m (dispose m k) k := by
  have first : Apart m (disposeCloseListener m k) k ∧
      ((disposeCloseListener m k).session k).disposeErrorPoller =
        (m.session k).disposeErrorPoller := by
    unfold disposeCloseListener
    split
    · exact ⟨.refl m k,rfl⟩
    · exact ⟨(apartScpi m k _ _).trans (apartSession _ k _),by simp⟩
  refine first.1.trans ?_
  unfold dispose disposeErrorPoller
  split
  · exact .refl _ k
  · rename_i a disposed
    have mine := (first.1.of k a).mpr (own a (first.2 ▸ disposed))
    exact (apartAttempt mine _ rfl).trans (apartSession _ k _)

@[simp] theorem awaitPolling (m : Manager) (a b : Nat) (w) :
    ((await m a w).attempt b).polling = (m.attempt b).polling := by
  by_cases same : b = a <;> simp [await,same]

@[simp] theorem closeScpiPolling (m : Manager) (a b : Nat) :
    ((closeScpi m a).attempt b).polling = (m.attempt b).polling := by
  by_cases same : b = a <;> simp [closeScpi,setScpi,same]

theorem disposeSelf (m : Manager) (k : Nat) : (dispose m k).session k =
    { m.session k with disposeCloseListener := none, disposeErrorPoller := none } := by
  unfold dispose disposeErrorPoller disposeCloseListener
  cases fields : m.session k
  split <;> split <;> simp_all

theorem disposePolling (m : Manager) (k b : Nat) : ((dispose m k).attempt b).polling =
    if (m.session k).disposeErrorPoller = some b then false else (m.attempt b).polling := by
  have first : ((disposeCloseListener m k).attempt b).polling = (m.attempt b).polling ∧
      ((disposeCloseListener m k).session k).disposeErrorPoller =
        (m.session k).disposeErrorPoller := by
    unfold disposeCloseListener
    split
    · exact ⟨rfl,rfl⟩
    · rename_i a _
      by_cases same : b = a <;> simp [setScpi,same]
  unfold dispose disposeErrorPoller
  split
  · rename_i nothing
    rw [first.2] at nothing
    simp [nothing,first.1]
  · rename_i a disposed
    rw [first.2] at disposed
    by_cases same : b = a
    · simp [disposed,same]
    · simp [disposed,same,Ne.symm same,first.1]

section
variable {m m' : Manager} {k a : Nat}

theorem polledIdle (polled : PolledAt m k)
    (down : k ∈ m.sessions → (m.session k).status ≠ .connected) (b : Nat) (own : Of m k b) :
    (m.attempt b).polling = false := by
  by_contra polls
  obtain ⟨listed,connected,_⟩ := (polled.polling b own (eq_true_of_ne_false polls)).1
  exact down listed connected

theorem runningDown (polled : PolledAt m k) (own : Of m k a) (run : Running m a) :
    k ∈ m.sessions → (m.session k).status ≠ .connected := by
  intro _ connected
  simp [polled.connecting a own run] at connected

theorem polledDown (apart : Apart m m' k)
    (one : ∀ b c, Of m k b → Of m k c → Running m' b → Running m' c → b = c)
    (connecting : ∀ b, Of m k b → Running m' b → (m'.session k).status = .connecting)
    (midway : ∀ b, Of m k b → Midway m' b → k ∈ m'.sessions → (m'.session k).scpi = some b)
    (disposes : ∀ b, (m'.session k).disposeErrorPoller = some b → Of m k b)
    (idle : ∀ b, Of m k b → (m'.attempt b).polling = false)
    (down : k ∈ m'.sessions → (m'.session k).status ≠ .connected) : PolledAt m' k where
  one b c ownB ownC := one b c ((apart.of k b).mp ownB) ((apart.of k c).mp ownC)
  connecting b ownB := connecting b ((apart.of k b).mp ownB)
  midway b ownB := midway b ((apart.of k b).mp ownB)
  disposes b disposed := (apart.of k b).mpr (disposes b disposed)
  polling b ownB polls := by
    rw [idle b ((apart.of k b).mp ownB)] at polls
    cases polls
  connected listed connected := absurd connected (down listed)

theorem polledEnded (apart : Apart m m' k) (ended : ∀ b, Of m k b → ¬ Running m' b)
    (disposes : ∀ b, (m'.session k).disposeErrorPoller = some b → Of m k b)
    (idle : ∀ b, Of m k b → (m'.attempt b).polling = false)
    (down : k ∈ m'.sessions → (m'.session k).status ≠ .connected) : PolledAt m' k := by
  apply polledDown apart
  · intro b c ownB _ runB
    exact absurd runB (ended b ownB)
  · intro b ownB runB
    exact absurd runB (ended b ownB)
  · intro b ownB midway
    exact absurd (midwayRunning midway) (ended b ownB)
  · exact disposes
  · exact idle
  · exact down

theorem apartFinishFailure (own : Of m k a)
    (disposes : ∀ b, (m.session k).disposeErrorPoller = some b → Of m k b) :
    Apart m (finishFailure m a) k := by
  obtain rfl : owner m a = k := own.2
  have rings := apartSession m (owner m a)
    fun s => { s with transcriptRing := none, deviceErrorRing := none }
  have emptied := rings.trans (apartDispose fun b disposed =>
    (rings.of _ b).mpr (disposes b (by simpa using disposed)))
  have told := emptied.trans (apartUpdate _ _)
  exact told.trans (apartAwait ((told.of _ a).mpr own) none)

theorem finishFailureSelf (own : Of m k a) : (finishFailure m a).sessions = m.sessions ∧
    (finishFailure m a).session k = { m.session k with
      transcriptRing := none, deviceErrorRing := none, disposeCloseListener := none
      disposeErrorPoller := none } := by
  obtain rfl : owner m a = k := own.2
  simp [finishFailure,disposeSelf]

theorem finishFailureAt (b : Nat) :
    ((finishFailure m a).attempt b).awaiting = (if b = a then none else (m.attempt b).awaiting) ∧
    ((finishFailure m a).attempt b).polling =
      (if (m.session (owner m a)).disposeErrorPoller = some b then false
       else (m.attempt b).polling) := by
  by_cases same : b = a <;> simp [finishFailure,same,disposePolling]

theorem polledFinishFailure (own : Of m k a)
    (disposes : ∀ b, (m.session k).disposeErrorPoller = some b → Of m k b)
    (one : ∀ b c, Of m k b → Of m k c → Running m b → Running m c → b = c)
    (going : ∀ b, Of m k b → Running m b → b ≠ a →
      (m.session k).status = .connecting ∧ (k ∈ m.sessions → ¬ Midway m b))
    (idle : ∀ b, Of m k b → (m.attempt b).polling = false)
    (down : k ∈ m.sessions → (m.session k).status ≠ .connected) :
    PolledAt (finishFailure m a) k := by
  obtain ⟨sessions,session⟩ := finishFailureSelf own
  have running (b) (run : Running (finishFailure m a) b) : Running m b ∧ b ≠ a := by
    by_cases same : b = a
    · simp [Running,finishFailureAt,same] at run
    · exact ⟨by simpa [Running,finishFailureAt,same] using run,same⟩
  apply polledDown (apartFinishFailure own disposes)
  · intro b c ownB ownC runB runC
    exact one b c ownB ownC (running b runB).1 (running c runC).1
  · intro b ownB runB
    obtain ⟨run,other⟩ := running b runB
    simpa [session] using (going b ownB run other).1
  · intro b ownB midway listed
    obtain ⟨run,other⟩ := running b (midwayRunning midway)
    have before : Midway m b := by simpa [Midway,finishFailureAt,other] using midway
    exact absurd before ((going b ownB run other).2 (sessions ▸ listed))
  · simp [session]
  · intro b ownB
    simp [finishFailureAt,idle b ownB]
  · simpa [sessions,session] using down

theorem polledFail (polled : PolledAt m k) (own : Of m k a) (run : Running m a) (err) :
    Apart m (failEstablish m a err) k ∧ PolledAt (failEstablish m a err) k := by
  have failed : Apart m (markError m k err) k := apartSession m k _
  have own' := (failed.of k a).mpr own
  have alone (b) (ownB : Of m k b) (runB : Running m b) : b = a := polled.one b a ownB own runB run
  have idle := polledIdle polled (runningDown polled own run)
  have disposes (b) (disposed : ((markError m k err).session k).disposeErrorPoller = some b) :
      Of m k b := polled.disposes b (by simpa [markError] using disposed)
  have at_ : owner m a = k := own.2
  cases holds : (m.session k).scpi with
  | none =>
    have same : failEstablish m a err = finishFailure (markError m k err) a :=
      at_ ▸ failPlain (at_ ▸ holds) err
    rw [same]
    refine ⟨failed.trans (apartFinishFailure own' fun b disposed =>
      (failed.of k b).mpr (disposes b disposed)),?_⟩
    apply polledFinishFailure own'
    · intro b disposed
      exact (failed.of k b).mpr (disposes b disposed)
    · intro b c ownB ownC runB runC
      exact polled.one b c ((failed.of k b).mp ownB) ((failed.of k c).mp ownC) runB runC
    · intro b ownB runB other
      exact absurd (alone b ((failed.of k b).mp ownB) runB) other
    · intro b ownB
      exact idle b ((failed.of k b).mp ownB)
    · simp [markError]
  | some held =>
    have same : failEstablish m a err =
        await (closeScpi (markError m k err) held) a (some .failureClose) :=
      at_ ▸ failHolding (at_ ▸ holds) err
    have closed := failed.trans (apartClose _ k held)
    have apart := closed.trans (apartAwait ((closed.of k a).mpr own) (some .failureClose))
    rw [same]
    refine ⟨apart,polledEnded apart ?_ ?_ ?_ ?_⟩
    · intro b ownB runB
      by_cases same : b = a
      · simp [Running,same] at runB
      · exact same (alone b ownB (by simpa [Running,same,markError] using runB))
    · exact disposes
    · intro b ownB
      simpa [markError] using idle b ownB
    · simp [markError]

theorem polledStale (polled : PolledAt m k) (own : Of m k a) (run : Running m a)
    (gone : k ∉ m.sessions) : Apart m (leaveStale m a) k ∧ PolledAt (leaveStale m a) k := by
  have closed := apartClose m k a
  have apart := closed.trans (apartAwait ((closed.of k a).mpr own) (some .staleClose))
  have running (b) (after : Running (leaveStale m a) b) : Running m b := by
    by_cases same : b = a
    · exact same ▸ run
    · simpa [Running,leaveStale,same] using after
  have unlisted : k ∉ (leaveStale m a).sessions := by simpa [leaveStale] using gone
  refine ⟨apart,polledDown apart ?_ ?_ ?_ ?_ ?_ ?_⟩
  · intro b c ownB ownC runB runC
    exact polled.one b c ownB ownC (running b runB) (running c runC)
  · intro b ownB runB
    simpa [leaveStale] using polled.connecting b ownB (running b runB)
  · intro b _ _ listed
    exact absurd listed unlisted
  · intro b disposed
    exact polled.disposes b (by simpa [leaveStale] using disposed)
  · intro b ownB
    simpa [leaveStale] using polledIdle polled (fun listed => absurd listed gone) b ownB
  · intro listed
    exact absurd listed unlisted

theorem polledNext (polled : PolledAt m k) (own : Of m k a) (run : Running m a)
    (f : InternalSession → InternalSession)
    (keeps : (f (m.session k)).status = (m.session k).status ∧
      (f (m.session k)).disposeErrorPoller = (m.session k).disposeErrorPoller)
    (w)
    (holds : k ∈ m.sessions → (f (m.session k)).scpi = some a) :
    Apart m (await (setSession m k f) a w) k ∧ PolledAt (await (setSession m k f) a w) k := by
  have changed := apartSession m k f
  have apart := changed.trans (apartAwait ((changed.of k a).mpr own) w)
  have alone (b) (ownB : Of m k b) (after : Running (await (setSession m k f) a w) b) : b = a := by
    by_contra other
    exact other (polled.one b a ownB own (by simpa [Running,other] using after) run)
  refine ⟨apart,polledDown apart ?_ ?_ ?_ ?_ ?_ ?_⟩
  · intro b c ownB ownC runB runC
    rw [alone b ownB runB,alone c ownC runC]
  · intro b _ _
    simpa [keeps] using polled.connecting a own run
  · intro b ownB midway listed
    rw [alone b ownB (midwayRunning midway)]
    simpa using holds listed
  · intro b disposed
    exact polled.disposes b (by simpa [keeps] using disposed)
  · intro b ownB
    simpa using polledIdle polled (runningDown polled own run) b ownB
  · intro listed
    simpa [keeps] using runningDown polled own run listed

theorem polledDetails (polled : PolledAt m k) (own : Of m k a) (run : Running m a)
    (f : InternalSession → InternalSession)
    (keeps : (f (m.session k)).status = (m.session k).status ∧
      (f (m.session k)).disposeErrorPoller = (m.session k).disposeErrorPoller ∧
      (f (m.session k)).scpi = (m.session k).scpi) : PolledAt (setSession m k f) k := by
  apply polledDown (apartSession m k f)
  · exact polled.one
  · intro b ownB runB
    simpa [keeps] using polled.connecting b ownB runB
  · intro b ownB midway listed
    simpa [keeps] using polled.midway b ownB midway listed
  · intro b disposed
    exact polled.disposes b (by simpa [keeps] using disposed)
  · exact polledIdle polled (runningDown polled own run)
  · intro listed
    simpa [keeps] using runningDown polled own run listed

theorem listeningOwner (m : Manager) (a : Nat) : owner (setScpi (setSession m (owner m a) fun s =>
    { s with status := .connected, disposeCloseListener := some a }) a
    fun c => { c with listener := true }) a = owner m a := by simp [owner]

theorem finishSelf (own : Of m k a) : (finishEstablish m a).sessions = m.sessions ∧
    ((finishEstablish m a).session k).status = .connected ∧
    ((finishEstablish m a).session k).scpi = (m.session k).scpi ∧
    ((finishEstablish m a).session k).kind = (m.session k).kind ∧
    ((finishEstablish m a).session k).facade = (m.session k).facade ∧
    ((finishEstablish m a).session k).disposeErrorPoller =
      (if (m.session k).kind = .unknown then (m.session k).disposeErrorPoller else some a) := by
  obtain rfl : owner m a = k := own.2
  simp only [finishEstablish,startErrorPoller,listeningOwner]
  by_cases unknown : (m.session (owner m a)).kind = .unknown <;> simp [unknown]

theorem finishAt (own : Of m k a) (b : Nat) :
    ((finishEstablish m a).attempt b).awaiting = (if b = a then none else (m.attempt b).awaiting) ∧
    ((finishEstablish m a).attempt b).polling =
      (if b = a ∧ (m.session k).kind ≠ .unknown then true else (m.attempt b).polling) := by
  obtain rfl : owner m a = k := own.2
  simp only [finishEstablish,startErrorPoller,listeningOwner]
  by_cases unknown : (m.session (owner m a)).kind = .unknown <;> by_cases here : b = a <;>
    simp [unknown,here,setScpi]

theorem apartPoller (own : Of m k a) : Apart m (startErrorPoller m a) k := by
  obtain rfl : owner m a = k := own.2
  unfold startErrorPoller
  split
  · exact .refl m _
  · exact (apartAttempt own _ rfl).trans (apartSession _ _ _)

theorem apartFinish (own : Of m k a) : Apart m (finishEstablish m a) k := by
  obtain rfl : owner m a = k := own.2
  have connected := apartSession m (owner m a)
    fun s => { s with status := .connected, disposeCloseListener := some a }
  have listening := connected.trans (apartScpi _ (owner m a) a fun c => { c with listener := true })
  have polled := listening.trans (apartPoller ((listening.of _ a).mpr own))
  have told := polled.trans (apartUpdate _ _)
  exact told.trans (apartAwait ((told.of _ a).mpr own) none)

theorem polledFinish (polled : PolledAt m k) (own : Of m k a) (midway : Midway m a)
    (listed : k ∈ m.sessions) :
    Apart m (finishEstablish m a) k ∧ PolledAt (finishEstablish m a) k ∧
      BoundTo (finishEstablish m a) k a := by
  have run := midwayRunning midway
  have apart := apartFinish own
  obtain ⟨sessions,status,scpi,kind,_,disposes⟩ := finishSelf own
  have bound : BoundTo (finishEstablish m a) k a :=
    ⟨sessions ▸ listed,status,scpi.trans (polled.midway a own midway listed)⟩
  have idle := polledIdle polled (runningDown polled own run)
  have ended (b) (ownB : Of m k b) : ¬ Running (finishEstablish m a) b := by
    intro after
    by_cases same : b = a
    · simp [Running,finishAt own,same] at after
    · exact same (polled.one b a ownB own (by simpa [Running,finishAt own,same] using after) run)
  have polls (b) (ownB : Of m k b) (polls : ((finishEstablish m a).attempt b).polling) :
      b = a ∧ (m.session k).kind ≠ .unknown := by
    by_contra other
    rw [(finishAt own b).2,if_neg other,idle b ownB] at polls
    cases polls
  refine ⟨apart,?_,bound⟩
  exact {
    one := by
      intro b c ownB _ runB
      exact absurd runB (ended b ((apart.of k b).mp ownB))
    connecting := by
      intro b ownB runB
      exact absurd runB (ended b ((apart.of k b).mp ownB))
    midway := by
      intro b ownB midway
      exact absurd (midwayRunning midway) (ended b ((apart.of k b).mp ownB))
    disposes := by
      intro b disposed
      rw [apart.of]
      rw [disposes] at disposed
      split at disposed
      · exact polled.disposes b disposed
      · exact Option.some.inj disposed ▸ own
    polling := by
      intro b ownB pollsB
      obtain ⟨rfl,known⟩ := polls b ((apart.of k b).mp ownB) pollsB
      exact ⟨bound,by simp [disposes,known]⟩
    connected := by
      intro _ _
      refine ⟨a,(apart.of k a).mpr own,bound.2.2,by simp [finishAt own],?_⟩
      intro known
      rw [kind] at known
      simp [finishAt own,known] }

theorem polledBuild (polled : PolledAt m k) (own : Of m k a) (midway : Midway m a)
    (listed : k ∈ m.sessions) (identity create) :
    Apart m (buildFacade m a identity create) k ∧ PolledAt (buildFacade m a identity create) k ∧
      ((create identity).isOk → BoundTo (buildFacade m a identity create) k a) := by
  have run := midwayRunning midway
  unfold buildFacade
  split
  · rename_i err failed
    obtain ⟨apart,after⟩ := polledFail polled own run err
    exact ⟨apart,after,by simp [failed,Except.isOk,Except.toBool]⟩
  · rename_i facade made
    obtain rfl : owner m a = k := own.2
    have built := apartSession m (owner m a) fun s => { s with facade := some facade }
    have still := polledDetails polled own run (fun s => { s with facade := some facade })
      ⟨rfl,rfl,rfl⟩
    obtain ⟨apart,after,bound⟩ := polledFinish still ((built.of _ a).mpr own) midway listed
    exact ⟨built.trans apart,after,fun _ => bound⟩

theorem polledQuiet (polled : PolledAt m k) (b : Nat) (f : Attempt → Attempt)
    (keeps : (f (m.attempt b)).session = (m.attempt b).session ∧
      (f (m.attempt b)).awaiting = (m.attempt b).awaiting ∧
      (f (m.attempt b)).polling = (m.attempt b).polling) :
    Apart m (setAttempt m b f) k ∧ PolledAt (setAttempt m b f) k :=
  ⟨apartQuiet m k b f keeps,
    polledElsewhere (apartQuiet m (k + 1) b f keeps) polled⟩

theorem polledFactory (polled : PolledAt m k) (own : Of m k a)
    (waits : (m.attempt a).awaiting = some .factory) (outcome) :
    Apart m (resumeFactory m a outcome) k ∧ PolledAt (resumeFactory m a outcome) k := by
  have run : Running m a := by simp [Running,waits]
  have at_ : owner m a = k := own.2
  cases outcome with
  | error err => exact polledFail polled own run err
  | ok _ =>
    obtain ⟨made,still⟩ := polledQuiet polled a (fun t => { t with scpi := some ⟨false,false⟩ })
      ⟨rfl,rfl,rfl⟩
    have own' := (made.of k a).mpr own
    have run' : Running (connectedBy m a) a := by simp [Running,connectedBy,waits]
    simp only [resumeFactory,at_]
    split
    · rename_i gone
      obtain ⟨apart,after⟩ := polledStale still own' run' gone
      exact ⟨made.trans apart,after⟩
    · obtain ⟨apart,after⟩ := polledNext still own' run' (fun s => { s with
        scpi := some a, transcriptRing := some a, deviceErrorRing := some a }) ⟨rfl,rfl⟩
        (some .idn) fun _ => rfl
      exact ⟨made.trans apart,after⟩

theorem polledIdn (polled : PolledAt m k) (own : Of m k a)
    (waits : (m.attempt a).awaiting = some .idn) (outcome) :
    Apart m (resumeIdn m a outcome) k ∧ PolledAt (resumeIdn m a outcome) k := by
  have run : Running m a := by simp [Running,waits]
  have midway : Midway m a := by simp [Midway,waits]
  obtain rfl : owner m a = k := own.2
  cases outcome with
  | error err => exact polledFail polled own run err
  | ok raw =>
    simp only [resumeIdn]
    split
    · rename_i gone
      exact polledStale polled own run gone
    · rename_i listed
      have listed := not_not.mp listed
      have holds := polled.midway a own midway listed
      split
      · rename_i driver _
        have identified := apartSession m (owner m a) fun s => { s with
          identity := some (parseIdn raw), driverId := some driver.id, kind := driver.kind }
        have still := polledDetails polled own run (fun s => { s with
          identity := some (parseIdn raw), driverId := some driver.id, kind := driver.kind })
          ⟨rfl,rfl,rfl⟩
        split
        · exact polledNext polled own run _ ⟨rfl,rfl⟩ _ fun _ => holds
        · obtain ⟨apart,after,_⟩ := polledBuild still ((identified.of _ a).mpr own) midway listed
            (parseIdn raw) driver.create
          exact ⟨identified.trans apart,after⟩
      · have identified := apartSession m (owner m a) fun s => { s with
          identity := some (parseIdn raw), driverId := none, kind := .unknown, facade := none }
        have still := polledDetails polled own run (fun s => { s with
          identity := some (parseIdn raw), driverId := none, kind := .unknown, facade := none })
          ⟨rfl,rfl,rfl⟩
        obtain ⟨apart,after,_⟩ := polledFinish still ((identified.of _ a).mpr own) midway listed
        exact ⟨identified.trans apart,after⟩

theorem polledRefine (polled : PolledAt m k) (own : Of m k a) {identity driver}
    (waits : (m.attempt a).awaiting = some (.refine identity driver)) (outcome) :
    Apart m (resumeRefine m a identity driver outcome) k ∧
      PolledAt (resumeRefine m a identity driver outcome) k := by
  obtain rfl : owner m a = k := own.2
  unfold resumeRefine
  split
  · rename_i gone
    exact polledStale polled own (by simp [Running,waits]) gone
  · rename_i listed
    obtain ⟨apart,after,_⟩ := polledBuild polled own (by simp [Midway,waits]) (not_not.mp listed)
      identity (refinedCreate driver outcome)
    exact ⟨apart,after⟩

theorem polledStaleSettled (polled : PolledAt m k) (own : Of m k a)
    (waits : (m.attempt a).awaiting = some .staleClose) (outcome) :
    Apart m (resumeStale m a outcome) k ∧ PolledAt (resumeStale m a outcome) k := by
  have run : Running m a := by simp [Running,waits]
  have down := runningDown polled own run
  cases outcome with
  | error err => exact polledFail polled own run err
  | ok _ =>
    have apart := apartAwait own none
    have ended (b) (ownB : Of m k b) : ¬ Running (await m a none) b := by
      intro after
      by_cases same : b = a
      · simp [Running,same] at after
      · exact same (polled.one b a ownB own (by simpa [Running,same] using after) run)
    refine ⟨apart,polledEnded apart ended polled.disposes ?_ down⟩
    intro b ownB
    rw [resumeStale,awaitPolling]
    exact polledIdle polled down b ownB

theorem polledFailureSettled (polled : PolledAt m k) (own : Of m k a)
    (settled : k ∈ m.sessions → ∀ held, (m.session k).scpi = some held → inCatch m held) :
    Apart m (resumeFailure m a) k ∧ PolledAt (resumeFailure m a) k ∧ ∀ b, ¬ BoundTo m k b := by
  have unbound (b) : ¬ BoundTo m k b := by
    rintro ⟨listed,connected,_⟩
    obtain ⟨c,_,holds,ended,_⟩ := polled.connected listed connected
    simpa [inCatch,ended] using settled listed c holds
  have down : k ∈ m.sessions → (m.session k).status ≠ .connected := by
    intro listed connected
    obtain ⟨c,_,holds,_⟩ := polled.connected listed connected
    exact unbound c ⟨listed,connected,holds⟩
  have idle := polledIdle polled down
  have emptied := apartSession m k fun s => { s with scpi := none }
  have own' := (emptied.of k a).mpr own
  have disposes (b) (disposed : ((setSession m k fun s => { s with scpi := none }).session
      k).disposeErrorPoller = some b) : Of m k b := polled.disposes b (by simpa using disposed)
  have same : resumeFailure m a =
      finishFailure (setSession m k fun s => { s with scpi := none }) a := by
    rw [resumeFailure,own.2]
  rw [same]
  refine ⟨emptied.trans (apartFinishFailure own' disposes),
    polledFinishFailure own' disposes polled.one ?_ idle ?_,unbound⟩
  · intro b ownB runB _
    refine ⟨by simpa using polled.connecting b ownB runB,fun listed midway => ?_⟩
    have awaits := settled listed b (polled.midway b ownB midway listed)
    have going : Midway m b := midway
    unfold inCatch at awaits
    unfold Midway at going
    split at going <;> simp_all
  · intro listed
    simpa using down listed

theorem disposeIdle (polled : PolledAt m k) {b : Nat} (own : Of m k b) {n : Manager}
    (same : (n.session k).disposeErrorPoller = (m.session k).disposeErrorPoller)
    (polls : (n.attempt b).polling = (m.attempt b).polling) :
    ((dispose n k).attempt b).polling = false := by
  rw [disposePolling,same]
  split
  · rfl
  · rename_i other
    rw [polls]
    by_contra polling
    exact other (polled.polling b own (eq_true_of_ne_false polling)).2

theorem lostCases (polled : PolledAt m k) (err) : handleUnexpectedClose m k err = m ∨
    Apart m (handleUnexpectedClose m k err) k ∧ PolledAt (handleUnexpectedClose m k err) k ∧
      ((handleUnexpectedClose m k err).session k).facade = none := by
  unfold handleUnexpectedClose
  split
  · exact .inl rfl
  · split
    · exact .inl rfl
    · rename_i connected
      have connected : (m.session k).status = .connected := not_not.mp connected
      refine .inr ?_
      have lost := apartSession m k fun s => { s with
        status := .error, error := some ((err.map JsError.message).getD "connection lost")
        facade := none, scpi := none, transcriptRing := none, deviceErrorRing := none }
      have emptied := lost.trans (apartDispose fun b disposed =>
        (lost.of k b).mpr (polled.disposes b (by simpa using disposed)))
      have apart := emptied.trans (apartUpdate _ k)
      refine ⟨apart,polledEnded apart ?_ ?_ ?_ ?_,by simp [disposeSelf]⟩
      · intro b ownB runB
        have connecting := polled.connecting b ownB (by simpa [Running] using runB)
        simp [connected] at connecting
      · simp [disposeSelf]
      · intro b ownB
        rw [(emitUpdateKeeps _ _).2.2.2.1]
        exact disposeIdle polled ownB (by simp) rfl
      · simp [disposeSelf]

theorem polledClose (polled : PolledAt m k) :
    Apart m (close m k) k ∧ PolledAt (close m k) k ∧ k ∉ (close m k).sessions := by
  unfold close
  split
  · rename_i gone
    exact ⟨.refl m k,polled,gone⟩
  · have left : Apart m (deleteSession m k) k := {
      counts := ⟨rfl,rfl⟩
      owner := fun _ => rfl
      shrinks := List.filter_subset_self _
      listed := fun id other => by simp [other]
      session := fun _ _ => rfl
      attempt := fun _ _ => ⟨rfl,rfl⟩ }
    have emptied := left.trans (apartDispose fun b disposed =>
      (left.of k b).mpr (polled.disposes b disposed))
    have gone : k ∉ (dispose (deleteSession m k) k).sessions := by simp
    have after : PolledAt (dispose (deleteSession m k) k) k := by
      have running (b) (run : Running (dispose (deleteSession m k) k) b) : Running m b := by
        simpa [Running] using run
      apply polledDown emptied
      · intro b c ownB ownC runB runC
        exact polled.one b c ownB ownC (running b runB) (running c runC)
      · intro b ownB runB
        simpa using polled.connecting b ownB (running b runB)
      · intro b _ _ listed
        exact absurd listed gone
      · simp [disposeSelf]
      · intro b ownB
        exact disposeIdle polled ownB rfl rfl
      · intro listed
        exact absurd listed gone
    simp only [disposeSession,deleteKeeps]
    split
    · exact ⟨emptied.trans (apartEmit _ k _),polledElsewhere (apartEmit _ (k + 1) _) after,gone⟩
    · rename_i a _
      have waits (n : Manager) (j : Nat) : Apart n (awaitClose n k) j :=
        ⟨⟨rfl,rfl⟩,fun _ => rfl,List.Subset.refl _,fun _ _ => Iff.rfl,fun _ _ => rfl,
          fun _ _ => ⟨rfl,rfl⟩⟩
      refine ⟨(emptied.trans (apartClose _ k a)).trans (waits _ k),?_,by simp⟩
      exact polledElsewhere ((apartClose _ (k + 1) a).trans (waits _ _)) after

end

theorem polledGlobal {m m' : Manager} {k : Nat} (polled : Polled m) (apart : Apart m m' k)
    (own : PolledAt m' k) : Polled m' where
  unused a beyond := by
    rw [apart.counts.1] at beyond
    have elsewhere : ¬ Of m k a := fun own => absurd own.1 (by omega)
    rw [(apart.attempt a elsewhere).1,(apart.attempt a elsewhere).2]
    exact polled.unused a beyond
  known a early := by
    rw [apart.counts.1] at early
    rw [apart.owner,apart.counts.2]
    exact polled.known a early
  listed id member := by
    rw [apart.counts.2]
    exact polled.listed id (apart.shrinks member)
  each id := by
    by_cases same : id = k
    · exact same ▸ own
    · exact polledUnmoved (apart.unmoved same) (polled.each id)

theorem polledEstablish {m : Manager} {k : Nat} (polled : Polled m) (known : k < m.nextId)
    (connecting : (m.session k).status = .connecting)
    (idle : ∀ a, Of m k a → ¬ Running m a) : Polled (establish m k) := by
  have of := establishOf m k
  have same (id a) (own : Of m id a) : (establish m k).attempt a = m.attempt a :=
    establishOlder m k (Nat.ne_of_lt own.1)
  have last (id a) (own : Of (establish m k) id a) (old : ¬ Of m id a) :
      (establish m k).attempt a = newAttempt m k (some .factory) := by
    rcases (of id a).mp own with own | ⟨rfl,_⟩
    · exact absurd own old
    · exact establishNewest m k
  exact {
    unused := by
      intro a beyond
      have beyond : m.nextAttempt + 1 ≤ a := beyond
      rw [establishOlder m k (by omega)]
      exact polled.unused a (by omega)
    known := establishKnown polled.known known
    listed := polled.listed
    each := by
      intro id
      have before := polled.each id
      have runs (a) (own : Of (establish m k) id a) (run : Running (establish m k) a) :
          (Of m id a ∧ Running m a) ∨ (a = m.nextAttempt ∧ id = k) := by
        rcases (of id a).mp own with old | new
        · simp only [Running,same id a old] at run
          exact .inl ⟨old,run⟩
        · exact .inr new
      exact {
        one := by
          intro a b ownA ownB runA runB
          rcases runs a ownA runA with ⟨oldA,ranA⟩ | ⟨newA,rfl⟩
          · rcases runs b ownB runB with ⟨oldB,ranB⟩ | ⟨_,rfl⟩
            · exact before.one a b oldA oldB ranA ranB
            · exact absurd ranA (idle a oldA)
          · rcases runs b ownB runB with ⟨oldB,ranB⟩ | ⟨newB,_⟩
            · exact absurd ranB (idle b oldB)
            · rw [newA,newB]
        connecting := by
          intro a own run
          rcases runs a own run with ⟨old,run⟩ | ⟨_,rfl⟩
          · exact before.connecting a old run
          · exact connecting
        midway := by
          intro a own midway
          by_cases old : Of m id a
          · simp only [Midway,same id a old] at midway
            exact before.midway a old midway
          · simp [Midway,last id a own old,newAttempt] at midway
        disposes := fun a disposed => (of id a).mpr (.inl (before.disposes a disposed))
        polling := by
          intro a own polling
          by_cases old : Of m id a
          · rw [same id a old] at polling
            exact before.polling a old polling
          · simp [last id a own old,newAttempt] at polling
        connected := by
          intro member connected
          obtain ⟨a,own,holds,ended,polls⟩ := before.connected member connected
          rw [← same id a own] at ended polls
          exact ⟨a,(of id a).mpr (.inl own),holds,ended,polls⟩ } }

theorem polledReconnect {m : Manager} (polled : Polled m) (k : Nat) :
    (reconnect m k).2 = m ∨ ∃ n, (reconnect m k).2 = establish n k ∧ Apart m n k ∧
      Polled (establish n k) ∧ (n.session k).facade = none ∧ ∀ b, ¬ BoundTo m k b := by
  unfold reconnect
  split
  · exact .inl rfl
  · rename_i listed
    split
    · exact .inl rfl
    · rename_i failed
      have failed : (m.session k).status = .error := not_not.mp failed
      have own := polled.each k
      have idle (b) (ownB : Of m k b) : ¬ Running m b := by
        intro runB
        simp [own.connecting b ownB runB] at failed
      let reset : InternalSession → InternalSession := fun s => { s with
        status := .connecting, error := none, identity := none, driverId := none, kind := .unknown
        facade := none, scpi := none, transcriptRing := none, deviceErrorRing := none }
      have cleared := apartSession m k reset
      have emptied := cleared.trans (apartDispose fun b disposed =>
        (cleared.of k b).mpr (own.disposes b (by simpa [reset] using disposed)))
      have apart := emptied.trans (apartUpdate _ k)
      have ended (b) (ownB : Of m k b) :
          ¬ Running (emitUpdate (dispose (setSession m k reset) k) k) b := by
        simpa [Running] using idle b ownB
      have still : PolledAt (emitUpdate (dispose (setSession m k reset) k) k) k := by
        apply polledEnded apart ended
        · simp [disposeSelf]
        · intro b ownB
          rw [(emitUpdateKeeps _ _).2.2.2.1]
          exact disposeIdle own ownB (by simp [reset]) rfl
        · simp [reset]
      refine .inr ⟨_,rfl,apart,?_,by simp [disposeSelf],?_⟩
      · apply polledEstablish (polledGlobal polled apart still)
        · simpa using polled.listed k (not_not.mp listed)
        · simp [reset]
        · intro b ownB
          exact ended b ((apart.of k b).mp ownB)
      · rintro b ⟨_,connected,_⟩
        simp [failed] at connected

theorem listedUnmoved (m : Manager) (host port now) (id : Nat) (other : id ≠ m.nextId) :
    Unmoved m (listSession m (newSession m host port now)) id where
  listed := by simp [newSession,other]
  session := listSessionOther _ _ other
  of _ := Iff.rfl
  attempt _ _ := ⟨rfl,rfl⟩

theorem polledListed {m : Manager} (polled : Polled m) (host port now) :
    Polled (listSession m (newSession m host port now)) := by
  have new : (listSession m (newSession m host port now)).session m.nextId =
      newSession m host port now := listSessionSelf _ _
  have nobody (a) : ¬ Of m m.nextId a := fun own =>
    absurd (polled.known a own.1) (by simp [own.2])
  exact {
    unused := polled.unused
    known := fun a early => Nat.lt_succ_of_lt (polled.known a early)
    listed := listSessionKnown polled.listed host port now
    each := by
      intro id
      by_cases this : id = m.nextId
      · subst this
        exact {
          one := fun a _ own => absurd own (nobody a)
          connecting := fun a own => absurd own (nobody a)
          midway := fun a own => absurd own (nobody a)
          disposes := fun a disposed => absurd (new ▸ disposed) nofun
          polling := fun a own => absurd own (nobody a)
          connected := fun _ connected => absurd (new ▸ connected) nofun }
      · exact polledUnmoved (listedUnmoved m host port now id this) (polled.each id) }

/- A catch block that finishes for a listed session finds there no ScpiSession, or one that a catch
block is closing. -/
def Settled (m : Manager) : Event → Prop
  | .scpiCloseSettled a _ => inCatch m a → owner m a ∈ m.sessions →
      ∀ held ∈ (m.session (owner m a)).scpi, inCatch m held
  | _ => True

instance (m : Manager) : (e : Event) → Decidable (Settled m e)
  | .scpiCloseSettled a _ => inferInstanceAs (Decidable (inCatch m a → _))
  | .openSession .. | .reconnect _ | .close _ | .factorySettled .. | .idnSettled ..
  | .refineSettled .. | .closeSettled _ | .drainSettled .. | .dropped .. | .recorded ..
  | .pollTick _ | .appendTranscript .. => .isTrue trivial

def Loses (m : Manager) (id : Nat) : Event → Prop
  | .close k => k = id
  | .dropped a _ => owner m a = id ∧ (m.attempt a).scpi = some ⟨false,true⟩
  | _ => False

/- What a step leaves of the sessions and calls that were there; `loses` says whose connection ends. -/
structure Carried (m m' : Manager) (loses : Nat → Prop) : Prop where
  polled : Polled m'
  calls : ∀ a, a < m.nextAttempt → a < m'.nextAttempt ∧ owner m' a = owner m a
  kept : ∀ id b, BoundTo m id b →
    BoundTo m' id b ∨ loses id ∧ (id ∈ m'.sessions → (m'.session id).facade = none)
  listed : ∀ id, id ∈ m'.sessions → id ∈ m.sessions ∨ (m'.session id).facade = none

section
variable {m m' : Manager} {k : Nat} {loses : Nat → Prop}

theorem carriedWork (polled : Polled m) (apart : Apart m m' k) (own : PolledAt m' k)
    (kept : ∀ b, BoundTo m k b →
      BoundTo m' k b ∨ loses k ∧ (k ∈ m'.sessions → (m'.session k).facade = none)) :
    Carried m m' loses where
  polled := polledGlobal polled apart own
  calls a early := ⟨apart.counts.1 ▸ early,apart.owner a⟩
  kept id b bound := by
    by_cases same : id = k
    · exact same ▸ kept b (same ▸ bound)
    · left
      simpa only [BoundTo,apart.session id same,apart.listed id same] using bound
  listed id member := .inl (apart.shrinks member)

theorem unboundRunning {a : Nat} (polled : PolledAt m k) (own : Of m k a) (run : Running m a)
    (b : Nat) : ¬ BoundTo m k b := fun bound =>
  runningDown polled own run bound.1 bound.2.1

theorem carriedGoing {a : Nat} (polled : Polled m) (own : Of m k a) (run : Running m a)
    (works : Apart m m' k ∧ PolledAt m' k) : Carried m m' loses :=
  carriedWork polled works.1 works.2 fun b bound =>
    absurd bound (unboundRunning (polled.each k) own run b)

theorem carriedQuiet (polled : Polled m) (apart : ∀ j, Apart m m' j)
    (session : m'.session = m.session) (sessions : m'.sessions = m.sessions) :
    Carried m m' loses := by
  refine carriedWork polled (apart 0) (polledElsewhere (apart 1) (polled.each 0)) fun b bound => ?_
  left
  simpa only [BoundTo,session,sessions] using bound

theorem carriedSame (polled : Polled m) : Carried m m loses :=
  carriedQuiet polled (.refl m) rfl rfl

theorem carriedEstablish {n : Manager} (after : Polled (establish n k))
    (calls : ∀ a, a < m.nextAttempt → a < n.nextAttempt ∧ owner n a = owner m a)
    (others : ∀ id, id ≠ k → Unmoved m n id) (fresh : (n.session k).facade = none)
    (unbound : ∀ b, ¬ BoundTo m k b) : Carried m (establish n k) loses where
  polled := after
  calls a early := by
    obtain ⟨before,same⟩ := calls a early
    refine ⟨Nat.lt_succ_of_lt before,?_⟩
    rw [owner,establishOlder n k (Nat.ne_of_lt before)]
    exact same
  kept id b bound := by
    have other : id ≠ k := by
      intro same
      exact unbound b (same ▸ bound)
    left
    simpa only [BoundTo,establishKeeps,(others id other).session,(others id other).listed] using bound
  listed id member := by
    by_cases same : id = k
    · exact .inr (same ▸ fresh)
    · exact .inl ((others id same).listed.mp member)

end

theorem carriedReconnect {m : Manager} {loses : Nat → Prop} (polled : Polled m) (k : Nat) :
    Carried m (reconnect m k).2 loses := by
  rcases polledReconnect polled k with same | ⟨n,same,apart,after,fresh,unbound⟩
  · rw [same]
    exact carriedSame polled
  · rw [same]
    exact carriedEstablish after (fun a early => ⟨apart.counts.1 ▸ early,apart.owner a⟩)
      (fun id other => apart.unmoved other) fresh unbound

theorem carriedOpen {m : Manager} {loses : Nat → Prop} (polled : Polled m) (host port now) :
    Carried m (openSession m host port now).2 loses := by
  rcases openSessionCases m host port now with ⟨err,refused⟩ | opened
  · rw [refused]
    exact carriedSame polled
  · rw [opened]
    have new : (listSession m (newSession m host port now)).session m.nextId =
        newSession m host port now := listSessionSelf _ _
    refine carriedEstablish ?_ (fun a early => ⟨early,rfl⟩) (listedUnmoved m host port now) ?_ ?_
    · apply polledEstablish (polledListed polled host port now) (Nat.lt_succ_self _)
      · exact congrArg InternalSession.status new
      · intro a own
        exact absurd (polled.known a own.1) (own.2 ▸ Nat.lt_irrefl _)
    · exact congrArg InternalSession.facade new
    · intro b bound
      exact absurd (polled.listed _ bound.1) (Nat.lt_irrefl _)

theorem carriedDropped {m : Manager} (polled : Polled m) (a : Nat) (err) :
    Carried m (dropScpi m a err) (Loses m · (.dropped a err)) := by
  have closed : Carried m (closeScpi m a) (Loses m · (.dropped a err)) :=
    carriedQuiet polled (fun j => apartClose m j a) rfl rfl
  unfold dropScpi
  split
  · exact carriedSame polled
  · rename_i c scpi
    split
    · exact carriedSame polled
    · rename_i opens
      split
      · rename_i listens
        have still := closed.polled.each (owner m a)
        rcases lostCases still err with same | ⟨apart,after,gone⟩
        · rw [same]
          exact closed
        · refine carriedWork polled ((apartClose m _ a).trans apart) after fun b bound => ?_
          have loses : (m.attempt a).scpi = some ⟨false,true⟩ := by
            obtain ⟨shut,listener⟩ := c
            simp_all
          exact .inr ⟨⟨rfl,loses⟩,fun _ => gone⟩
      · exact closed

theorem Polled.of {m : Manager} (polled : Polled m) {a w} (waits : (m.attempt a).awaiting = some w) :
    Of m (owner m a) a := by
  refine ⟨?_,rfl⟩
  by_contra beyond
  simp [(polled.unused a (by omega)).1] at waits

theorem stepCarried {m : Manager} (polled : Polled m) (e : Event) (settled : Settled m e) :
    Carried m (step m e) (Loses m · e) := by
  cases e with
  | openSession host port now => exact carriedOpen polled host port now
  | reconnect id => exact carriedReconnect polled id
  | close id =>
    obtain ⟨apart,after,gone⟩ := polledClose (polled.each id)
    exact carriedWork polled apart after fun _ _ => .inr ⟨rfl,fun listed => absurd listed gone⟩
  | factorySettled a outcome =>
    simp only [step]
    split
    · rename_i waits
      exact carriedGoing polled (polled.of waits) (by simp [Running,waits])
        (polledFactory (polled.each _) (polled.of waits) waits outcome)
    · exact carriedSame polled
  | idnSettled a outcome =>
    simp only [step]
    split
    · rename_i waits
      exact carriedGoing polled (polled.of waits) (by simp [Running,waits])
        (polledIdn (polled.each _) (polled.of waits) waits outcome)
    · exact carriedSame polled
  | refineSettled a outcome =>
    simp only [step]
    split
    · rename_i waits
      exact carriedGoing polled (polled.of waits) (by simp [Running,waits])
        (polledRefine (polled.each _) (polled.of waits) waits outcome)
    · exact carriedSame polled
  | scpiCloseSettled a outcome =>
    simp only [step]
    split
    · rename_i waits
      exact carriedGoing polled (polled.of waits) (by simp [Running,waits])
        (polledStaleSettled (polled.each _) (polled.of waits) waits outcome)
    · rename_i waits
      obtain ⟨apart,after,unbound⟩ := polledFailureSettled (polled.each _) (polled.of waits)
        (settled (by simp [inCatch,waits]))
      exact carriedWork polled apart after fun b bound => absurd bound (unbound b)
    · exact carriedSame polled
  | closeSettled id =>
    simp only [step]
    split
    · have apart (j) : Apart m (finishClose m id) j :=
        ⟨⟨rfl,rfl⟩,fun _ => rfl,List.Subset.refl _,fun _ _ => Iff.rfl,fun _ _ => rfl,
          fun _ _ => ⟨rfl,rfl⟩⟩
      exact carriedQuiet polled apart rfl rfl
    · exact carriedSame polled
  | drainSettled a entries =>
    have idle (j) := apartQuiet m j a (fun t => { t with busy := false }) ⟨rfl,rfl,rfl⟩
    simp only [step,finishDrain]
    split
    · split
      · exact carriedQuiet polled idle rfl rfl
      · split
        · exact carriedQuiet polled idle rfl rfl
        · exact carriedQuiet polled (fun j =>
            ((idle j).trans (apartQuiet _ j _ _ ⟨rfl,rfl,rfl⟩)).trans (apartEmit _ j _)) rfl rfl
    · exact carriedSame polled
  | dropped a err => exact carriedDropped polled a err
  | recorded a input =>
    simp only [step]
    split
    · exact carriedQuiet polled (fun j => (apartQuiet m j a _ ⟨rfl,rfl,rfl⟩).trans (apartEmit _ j _))
        rfl rfl
    · exact carriedSame polled
  | pollTick a =>
    simp only [step,pollTick]
    split
    · exact carriedQuiet polled (fun j => apartQuiet m j a _ ⟨rfl,rfl,rfl⟩) rfl rfl
    · exact carriedSame polled
  | appendTranscript id input =>
    simp only [step,appendTranscript]
    split
    · exact carriedSame polled
    · split
      · exact carriedSame polled
      · exact carriedQuiet polled
          (fun j => (apartQuiet m j _ _ ⟨rfl,rfl,rfl⟩).trans (apartEmit _ j _)) rfl rfl

end LxiWeb.SessionPollers
