import LxiWeb.EventRuns
import LxiWeb.ScpiQuiescence
import LxiWeb.SessionManager

/-! Who holds the ScpiSessions of a `SessionManager`. The invariant is kept for each session on
its own: an operation works on one session and the attempts made for it (`Local`), and leaves the
others where they were (`Frame`). -/
namespace LxiWeb.SessionOwnership
open EventRuns RingBuffers ScpiFraming SessionManager

def Midway (m : Manager) (a : Nat) : Prop :=
  match (m.attempt a).awaiting with
  | some .idn | some (.refine _ _) => True
  | _ => False

def Running (m : Manager) (a : Nat) : Prop :=
  match (m.attempt a).awaiting with
  | some .failureClose | none => False
  | _ => True

structure OwnedAt (m : Manager) (id : Nat) : Prop where
  one : ∀ a b, Of m id a → Of m id b → Running m a → Running m b → a = b
  connecting : ∀ a, Of m id a → Running m a → (m.session id).status = .connecting
  held : ∀ a, (m.session id).scpi = some a → Of m id a
  disposes : ∀ a, (m.session id).disposeCloseListener = some a → Of m id a
  owned : ∀ a, Of m id a → isOpen m a → id ∈ m.sessions ∧ (m.session id).scpi = some a ∧
    (Midway m a ∨ ((m.session id).status = .connected ∧ isListening m a))
  connected : id ∈ m.sessions → (m.session id).status = .connected →
    ∃ a, (m.session id).scpi = some a ∧ isOpen m a ∧ isListening m a

structure Owned (m : Manager) : Prop where
  unused : ∀ a, m.nextAttempt ≤ a → (m.attempt a).awaiting = none ∧ (m.attempt a).scpi = none
  known : ∀ a, a < m.nextAttempt → owner m a < m.nextId
  listed : ∀ id ∈ m.sessions, id < m.nextId
  each : ∀ id, OwnedAt m id

/- Session `id` and its attempts are in `m'` as they are in `m`, up to attempts that went on. -/
structure Frame (m m' : Manager) (id : Nat) : Prop where
  listed : id ∈ m'.sessions ↔ id ∈ m.sessions
  session : (m'.session id).status = (m.session id).status ∧
    (m'.session id).scpi = (m.session id).scpi ∧
    (m'.session id).disposeCloseListener = (m.session id).disposeCloseListener
  of : ∀ a, Of m' id a ↔ Of m id a
  attempt : ∀ a, Of m id a → (Running m' a → Running m a) ∧ (Midway m' a ↔ Midway m a) ∧
    (m'.attempt a).scpi = (m.attempt a).scpi

theorem ownedFrame {m m' : Manager} {id : Nat} (frame : Frame m m' id) (owned : OwnedAt m id) :
    OwnedAt m' id := by
  obtain ⟨listed,⟨status,scpi,disposes⟩,of,attempt⟩ := frame
  have opens (a) (own : Of m id a) : isOpen m' a = isOpen m a := by
    simp only [isOpen,(attempt a own).2.2]
  have listening (a) (own : Of m id a) : isListening m' a = isListening m a := by
    simp only [isListening,(attempt a own).2.2]
  exact {
    one := by
      intro a b ownA ownB runA runB
      rw [of] at ownA ownB
      exact owned.one a b ownA ownB ((attempt a ownA).1 runA) ((attempt b ownB).1 runB)
    connecting := by
      intro a own run
      rw [of] at own
      rw [status]
      exact owned.connecting a own ((attempt a own).1 run)
    held := by
      intro a held
      rw [of]
      exact owned.held a (scpi ▸ held)
    disposes := by
      intro a disposed
      rw [of]
      exact owned.disposes a (disposes ▸ disposed)
    owned := by
      intro a own opens'
      rw [of] at own
      rw [opens a own] at opens'
      rw [listed,scpi,status,(attempt a own).2.1,listening a own]
      exact owned.owned a own opens'
    connected := by
      rw [listed,scpi,status]
      intro listed' connected
      obtain ⟨a,held,opens',listens⟩ := owned.connected listed' connected
      have own := owned.held a held
      exact ⟨a,held,by rw [opens a own]; exact opens',by rw [listening a own]; exact listens⟩ }

/- `m'` differs from `m` at most in session `k`, the attempts made for it and what nothing below
reads. -/
structure Local (m m' : Manager) (k : Nat) : Prop where
  counts : m'.nextAttempt = m.nextAttempt ∧ m'.nextId = m.nextId
  owner : ∀ a, owner m' a = owner m a
  shrinks : m'.sessions ⊆ m.sessions
  listed : ∀ id, id ≠ k → (id ∈ m'.sessions ↔ id ∈ m.sessions)
  session : ∀ id, id ≠ k → (m'.session id).status = (m.session id).status ∧
    (m'.session id).scpi = (m.session id).scpi ∧
    (m'.session id).disposeCloseListener = (m.session id).disposeCloseListener
  attempt : ∀ a, ¬ Of m k a → (m'.attempt a).awaiting = (m.attempt a).awaiting ∧
    (m'.attempt a).scpi = (m.attempt a).scpi

theorem Local.of {m m' : Manager} {k : Nat} (loc : Local m m' k) (id a : Nat) :
    Of m' id a ↔ Of m id a := by
  simp only [Of,loc.counts.1,loc.owner]

theorem Local.frame {m m' : Manager} {k id : Nat} (loc : Local m m' k) (other : id ≠ k) :
    Frame m m' id := by
  have elsewhere (a) (own : Of m id a) : ¬ Of m k a := by
    intro own'
    exact other (own.2.symm.trans own'.2)
  have same (a) (own : Of m id a) := loc.attempt a (elsewhere a own)
  exact {
    listed := loc.listed id other
    session := loc.session id other
    of := loc.of id
    attempt := fun a own => by simp only [Running,Midway,same a own,imp_self,and_self] }

theorem Local.refl (m : Manager) (k : Nat) : Local m m k :=
  ⟨⟨rfl,rfl⟩,fun _ => rfl,fun _ member => member,fun _ _ => Iff.rfl,fun _ _ => ⟨rfl,rfl,rfl⟩,
    fun _ _ => ⟨rfl,rfl⟩⟩

theorem Local.trans {m m' m'' : Manager} {k : Nat} (first : Local m m' k)
    (second : Local m' m'' k) : Local m m'' k where
  counts := ⟨second.counts.1.trans first.counts.1,second.counts.2.trans first.counts.2⟩
  owner a := (second.owner a).trans (first.owner a)
  shrinks := List.Subset.trans second.shrinks first.shrinks
  listed id other := (second.listed id other).trans (first.listed id other)
  session id other := by
    obtain ⟨status,scpi,disposes⟩ := second.session id other
    rw [status,scpi,disposes]
    exact first.session id other
  attempt a elsewhere := by
    obtain ⟨awaiting,scpi⟩ := second.attempt a (by rw [first.of]; exact elsewhere)
    rw [awaiting,scpi]
    exact first.attempt a elsewhere

theorem localSession (m : Manager) (k : Nat) (f) : Local m (setSession m k f) k := by
  constructor <;> simp +contextual [owner]

theorem localAttempt {m : Manager} {k a : Nat} (own : Of m k a) (f : Attempt → Attempt)
    (keeps : (f (m.attempt a)).session = (m.attempt a).session) :
    Local m (setAttempt m a f) k where
  counts := ⟨rfl,rfl⟩
  owner b := by by_cases same : b = a <;> simp [owner,same,keeps]
  shrinks := List.Subset.refl _
  listed _ _ := Iff.rfl
  session _ _ := ⟨rfl,rfl,rfl⟩
  attempt b elsewhere := by
    have other : b ≠ a := by
      intro same
      exact elsewhere (same ▸ own)
    simp [other]

theorem localQuiet (m : Manager) (k a : Nat) (f : Attempt → Attempt)
    (keeps : (f (m.attempt a)).session = (m.attempt a).session ∧
      (f (m.attempt a)).awaiting = (m.attempt a).awaiting ∧
      (f (m.attempt a)).scpi = (m.attempt a).scpi) :
    Local m (setAttempt m a f) k where
  counts := ⟨rfl,rfl⟩
  owner b := by by_cases same : b = a <;> simp [owner,same,keeps]
  shrinks := List.Subset.refl _
  listed _ _ := Iff.rfl
  session _ _ := ⟨rfl,rfl,rfl⟩
  attempt b _ := by by_cases same : b = a <;> simp [same,keeps]

theorem localEmit (m : Manager) (k : Nat) (event) : Local m (emit m event) k :=
  ⟨⟨rfl,rfl⟩,fun _ => rfl,List.Subset.refl _,fun _ _ => Iff.rfl,fun _ _ => ⟨rfl,rfl,rfl⟩,
    fun _ _ => ⟨rfl,rfl⟩⟩

theorem localUpdate (m : Manager) (k : Nat) : Local m (emitUpdate m k) k := localEmit m k _

theorem localAwait {m : Manager} {k a : Nat} (own : Of m k a) (w) : Local m (await m a w) k :=
  localAttempt own _ rfl

theorem localScpi {m : Manager} {k a : Nat} (own : Of m k a) (f) : Local m (setScpi m a f) k :=
  localAttempt own _ rfl

theorem localClose {m : Manager} {k a : Nat} (own : Of m k a) : Local m (closeScpi m a) k :=
  localScpi own _

theorem localDispose {m : Manager} {k : Nat}
    (own : ∀ a, (m.session k).disposeCloseListener = some a → Of m k a) :
    Local m (dispose m k) k := by
  have first : Local m (disposeCloseListener m k) k := by
    unfold disposeCloseListener
    split
    · exact .refl m k
    · rename_i a disposed
      exact (localScpi (own a disposed) _).trans (localSession _ k _)
  have second (m) : Local m (disposeErrorPoller m k) k := by
    unfold disposeErrorPoller
    split
    · exact .refl m k
    · exact (localQuiet m k _ _ ⟨rfl,rfl,rfl⟩).trans (localSession _ k _)
  exact first.trans (second _)

theorem localFinishFailure {m : Manager} {k a : Nat} (own : Of m k a)
    (disposes : ∀ b, (m.session k).disposeCloseListener = some b → Of m k b) :
    Local m (finishFailure m a) k := by
  obtain rfl : owner m a = k := own.2
  have rings := localSession m (owner m a)
    fun s => { s with transcriptRing := none, deviceErrorRing := none }
  have emptied := rings.trans (localDispose fun b disposed =>
    (rings.of _ b).mpr (disposes b (by simpa using disposed)))
  have told := emptied.trans (localUpdate _ _)
  exact told.trans (localAwait ((told.of _ a).mpr own) none)

theorem localMarkError (m : Manager) (k : Nat) (err) : Local m (markError m k err) k :=
  localSession m k _

theorem localFail {m : Manager} {k a : Nat} (owned : OwnedAt m k) (own : Of m k a) (err) :
    Local m (failEstablish m a err) k := by
  obtain rfl : owner m a = k := own.2
  have failed := localMarkError m (owner m a) err
  simp only [failEstablish]
  split
  · rename_i held holds
    have closed := failed.trans (localClose ((failed.of _ held).mpr
      (owned.held held (by simpa [markError] using holds))))
    exact closed.trans (localAwait ((closed.of _ a).mpr own) _)
  · exact failed.trans (localFinishFailure ((failed.of _ a).mpr own) fun b disposed =>
      (failed.of _ b).mpr (owned.disposes b (by simpa [markError] using disposed)))

theorem localStale {m : Manager} {k a : Nat} (own : Of m k a) : Local m (leaveStale m a) k := by
  have closed := localClose own
  exact closed.trans (localAwait ((closed.of _ a).mpr own) _)

theorem localPoller {m : Manager} {k a : Nat} (own : Of m k a) : Local m (startErrorPoller m a) k := by
  obtain rfl : owner m a = k := own.2
  unfold startErrorPoller
  split
  · exact .refl m _
  · have polling := localQuiet m (owner m a) a (fun t => { t with polling := true }) ⟨rfl,rfl,rfl⟩
    exact polling.trans (localSession _ _ _)

theorem localFinish {m : Manager} {k a : Nat} (own : Of m k a) : Local m (finishEstablish m a) k := by
  obtain rfl : owner m a = k := own.2
  have connected := localSession m (owner m a)
    fun s => { s with status := .connected, disposeCloseListener := some a }
  have listening := connected.trans (localScpi ((connected.of _ a).mpr own)
    fun c => { c with listener := true })
  have polled := listening.trans (localPoller ((listening.of _ a).mpr own))
  have told := polled.trans (localUpdate _ _)
  exact told.trans (localAwait ((told.of _ a).mpr own) none)

def Dead (m : Manager) (id : Nat) : Prop := ∀ a, Of m id a → isOpen m a = false

theorem ownedDead {m : Manager} {id : Nat}
    (one : ∀ a b, Of m id a → Of m id b → Running m a → Running m b → a = b)
    (connecting : ∀ a, Of m id a → Running m a → (m.session id).status = .connecting)
    (held : ∀ a, (m.session id).scpi = some a → Of m id a)
    (disposes : ∀ a, (m.session id).disposeCloseListener = some a → Of m id a)
    (dead : Dead m id) (down : id ∈ m.sessions → (m.session id).status ≠ .connected) :
    OwnedAt m id where
  one := one
  connecting := connecting
  held := held
  disposes := disposes
  owned a own opens := by simp [dead a own] at opens
  connected listed connected := absurd connected (down listed)

theorem deadHeld {m : Manager} {id : Nat} (owned : OwnedAt m id)
    (closed : ∀ a, (m.session id).scpi = some a → isOpen m a = false) : Dead m id := by
  intro a own
  by_contra opens
  have opens := eq_true_of_ne_false opens
  have holds := (owned.owned a own opens).2.1
  simp [closed a holds] at opens

theorem deadUnlisted {m : Manager} {id : Nat} (owned : OwnedAt m id) (gone : id ∉ m.sessions) :
    Dead m id := by
  intro a own
  by_contra opens
  exact gone (owned.owned a own (eq_true_of_ne_false opens)).1

theorem midwayRunning {m : Manager} {a : Nat} (midway : Midway m a) : Running m a := by
  unfold Midway at midway
  unfold Running
  split at midway <;> simp_all

theorem deadError {m : Manager} {id : Nat} (owned : OwnedAt m id)
    (failed : (m.session id).status = .error) : Dead m id := by
  intro a own
  by_contra opens
  rcases (owned.owned a own (eq_true_of_ne_false opens)).2.2 with midway | connected
  · have connecting := owned.connecting a own (midwayRunning midway)
    simp [failed] at connecting
  · simp [failed] at connected

theorem ownedFinishFailure {m : Manager} {k a : Nat} (own : Of m k a)
    (one : ∀ b c, Of m k b → Of m k c → Running m b → Running m c → b = c)
    (connecting : ∀ b, Of m k b → Running m b → b ≠ a → (m.session k).status = .connecting)
    (held : ∀ b, (m.session k).scpi = some b → Of m k b)
    (disposes : ∀ b, (m.session k).disposeCloseListener = some b → Of m k b)
    (dead : Dead m k) (down : k ∈ m.sessions → (m.session k).status ≠ .connected) :
    OwnedAt (finishFailure m a) k := by
  have loc := localFinishFailure own disposes
  obtain rfl : owner m a = k := own.2
  have status : ((finishFailure m a).session (owner m a)).status =
      (m.session (owner m a)).status := by simp [finishFailure]
  have running (b) : Running (finishFailure m a) b ↔ Running m b ∧ b ≠ a := by
    by_cases same : b = a <;> simp [finishFailure,Running,same]
  apply ownedDead
  · intro b c ownB ownC runB runC
    exact one b c ((loc.of _ b).mp ownB) ((loc.of _ c).mp ownC) ((running b).mp runB).1
      ((running c).mp runC).1
  · intro b ownB runB
    rw [status]
    exact connecting b ((loc.of _ b).mp ownB) ((running b).mp runB).1 ((running b).mp runB).2
  · intro b holds
    rw [loc.of]
    exact held b (by simpa [finishFailure] using holds)
  · intro b disposed
    simp [finishFailure] at disposed
  · intro b ownB
    simpa [finishFailure] using dead b ((loc.of _ b).mp ownB)
  · rw [status]
    simpa [finishFailure] using down

theorem ownedFail {m : Manager} {k a : Nat} (owned : OwnedAt m k) (own : Of m k a)
    (run : Running m a) (err) : OwnedAt (failEstablish m a err) k := by
  have loc := localFail owned own err
  have alone (b) (ownB : Of m k b) (runB : Running m b) : b = a := owned.one b a ownB own runB run
  have at_ : owner m a = k := own.2
  have failed := localMarkError m k err
  cases holds : (m.session k).scpi with
  | none =>
    have same : failEstablish m a err = finishFailure (markError m k err) a :=
      at_ ▸ failPlain (at_ ▸ holds) err
    rw [same]
    apply ownedFinishFailure ((failed.of _ a).mpr own)
    · intro b c ownB ownC runB runC
      exact owned.one b c ((failed.of _ b).mp ownB) ((failed.of _ c).mp ownC) runB runC
    · intro b ownB runB other
      exact absurd (alone b ((failed.of _ b).mp ownB) runB) other
    · intro b holdsB
      simp [markError,holds] at holdsB
    · intro b disposed
      rw [failed.of]
      exact owned.disposes b (by simpa [markError] using disposed)
    · intro b ownB
      have dead : Dead m k := deadHeld owned (by simp [holds])
      exact dead b ((failed.of _ b).mp ownB)
    · simp [markError]
  | some held =>
    have same : failEstablish m a err =
        await (closeScpi (markError m k err) held) a (some .failureClose) :=
      at_ ▸ failHolding (at_ ▸ holds) err
    rw [same] at loc ⊢
    have running (b) (ownB : Of m k b) :
        ¬ Running (await (closeScpi (markError m k err) held) a (some .failureClose)) b := by
      intro runB
      by_cases same : b = a
      · simp [Running,same] at runB
      · exact same (alone b ownB (by simpa [Running,same,markError] using runB))
    apply ownedDead
    · intro b c ownB ownC runB runC
      exact absurd runB (running b ((loc.of _ b).mp ownB))
    · intro b ownB runB
      exact absurd runB (running b ((loc.of _ b).mp ownB))
    · intro b holds
      rw [loc.of]
      exact owned.held b (by simpa [markError] using holds)
    · intro b disposed
      rw [loc.of]
      exact owned.disposes b (by simpa [markError] using disposed)
    · intro b ownB
      by_cases onHeld : b = held
      · simp [onHeld]
      · have shut : isOpen m b = false := by
          by_contra opens
          have holdsB := (owned.owned b ((loc.of _ b).mp ownB) (eq_true_of_ne_false opens)).2.1
          exact onHeld (Option.some.inj (holdsB.symm.trans holds))
        simp [markError,shut]
    · simp [markError]

theorem ownedStale {m : Manager} {k a : Nat} (one : ∀ b c, Of m k b → Of m k c → Running m b →
      Running m c → b = c)
    (connecting : ∀ b, Of m k b → Running m b → (m.session k).status = .connecting)
    (held : ∀ b, (m.session k).scpi = some b → Of m k b)
    (disposes : ∀ b, (m.session k).disposeCloseListener = some b → Of m k b)
    (own : Of m k a) (run : Running m a) (gone : k ∉ m.sessions)
    (dead : ∀ b, Of m k b → b ≠ a → isOpen m b = false) : OwnedAt (leaveStale m a) k := by
  have loc := localStale own
  have running (b) (after : Running (leaveStale m a) b) : Running m b := by
    by_cases same : b = a
    · exact same ▸ run
    · simpa [Running,leaveStale,same] using after
  apply ownedDead
  · intro b c ownB ownC runB runC
    exact one b c ((loc.of _ b).mp ownB) ((loc.of _ c).mp ownC) (running b runB) (running c runC)
  · intro b ownB runB
    simpa [leaveStale] using connecting b ((loc.of _ b).mp ownB) (running b runB)
  · intro b holds
    rw [loc.of]
    exact held b (by simpa [leaveStale] using holds)
  · intro b disposed
    rw [loc.of]
    exact disposes b (by simpa [leaveStale] using disposed)
  · intro b ownB
    by_cases same : b = a
    · simp [leaveStale,same]
    · simp [leaveStale,dead b ((loc.of _ b).mp ownB) same]
  · intro listed
    exact absurd (by simpa [leaveStale] using listed) gone

/- The manager once the factory has given call `a` its ScpiSession. -/
def connectedBy (m : Manager) (a : Nat) : Manager :=
  setAttempt m a fun t => { t with scpi := some ⟨false,false⟩ }

theorem factoryDead {m : Manager} {k a : Nat} (owned : OwnedAt m k) (own : Of m k a)
    (waits : (m.attempt a).awaiting = some .factory) : Dead m k := by
  have run : Running m a := by simp [Running,waits]
  intro b ownB
  by_contra opens
  rcases (owned.owned b ownB (eq_true_of_ne_false opens)).2.2 with midway | connected
  · have same := owned.one b a ownB own (midwayRunning midway) run
    simp [Midway,same,waits] at midway
  · simp [owned.connecting a own run] at connected

theorem connectedOther {m : Manager} {k a b : Nat} (dead : Dead m k) (ownB : Of m k b)
    (other : b ≠ a) : isOpen (connectedBy m a) b = false := by
  simpa [connectedBy,isOpen,other] using dead b ownB

theorem ownedStored {m : Manager} {k a : Nat} (owned : OwnedAt m k) (own : Of m k a)
    (waits : (m.attempt a).awaiting = some .factory) (listed : k ∈ m.sessions) :
    let stored := await (setSession (connectedBy m a) k
      fun s => { s with scpi := some a, transcriptRing := some a, deviceErrorRing := some a })
      a (some .idn)
    Local m stored k ∧ OwnedAt stored k := by
  have run : Running m a := by simp [Running,waits]
  have dead := factoryDead owned own waits
  have fresh : Local m (connectedBy m a) k := localAttempt own _ rfl
  have kept := fresh.trans (localSession (connectedBy m a) k
    fun s => { s with scpi := some a, transcriptRing := some a, deviceErrorRing := some a })
  have loc := kept.trans (localAwait ((kept.of _ a).mpr own) (some .idn))
  refine ⟨loc,?_⟩
  have runs (b) (ownB : Of m k b) (after : Running (await (setSession (connectedBy m a) k
      fun s => { s with scpi := some a, transcriptRing := some a, deviceErrorRing := some a })
      a (some .idn)) b) : b = a := by
    by_contra other
    have before : Running m b := by simpa [Running,other,connectedBy] using after
    exact other (owned.one b a ownB own before run)
  exact {
    one := by
      intro b c ownB ownC runB runC
      rw [runs b ((loc.of _ b).mp ownB) runB,runs c ((loc.of _ c).mp ownC) runC]
    connecting := by
      intro b ownB runB
      simpa [connectedBy] using owned.connecting a own run
    held := by
      intro b holds
      have same : a = b := by simpa using holds
      rw [loc.of]
      exact same ▸ own
    disposes := by
      intro b disposed
      rw [loc.of]
      exact owned.disposes b (by simpa [connectedBy] using disposed)
    owned := by
      intro b ownB opens
      by_cases same : b = a
      · simp [same,Midway,connectedBy] at listed ⊢
        exact listed
      · have shut := connectedOther dead ((loc.of _ b).mp ownB) same
        simp [shut] at opens
    connected := by
      intro _ connected
      have connecting := owned.connecting a own run
      simp [connectedBy,connecting] at connected }

theorem ownedFactory {m : Manager} {k a : Nat} (owned : OwnedAt m k) (own : Of m k a)
    (waits : (m.attempt a).awaiting = some .factory) (outcome) :
    Local m (resumeFactory m a outcome) k ∧ OwnedAt (resumeFactory m a outcome) k := by
  have run : Running m a := by simp [Running,waits]
  have at_ : owner m a = k := own.2
  cases outcome with
  | error err => exact ⟨localFail owned own err,ownedFail owned own run err⟩
  | ok _ =>
    have fresh : Local m (connectedBy m a) k := localAttempt own _ rfl
    have running (b) : Running (connectedBy m a) b ↔ Running m b := by
      by_cases same : b = a <;> simp [connectedBy,Running,same]
    simp only [resumeFactory,at_]
    split
    · rename_i gone
      have left : Local (connectedBy m a) (leaveStale (connectedBy m a) a) k :=
        localStale ((fresh.of _ a).mpr own)
      refine ⟨fresh.trans left,?_⟩
      apply ownedStale (k := k) (a := a)
      · intro b c ownB ownC runB runC
        exact owned.one b c ((fresh.of _ b).mp ownB) ((fresh.of _ c).mp ownC)
          ((running b).mp runB) ((running c).mp runC)
      · intro b ownB runB
        exact owned.connecting b ((fresh.of _ b).mp ownB) ((running b).mp runB)
      · intro b holds
        exact (fresh.of _ b).mpr (owned.held b holds)
      · intro b disposed
        exact (fresh.of _ b).mpr (owned.disposes b disposed)
      · exact (fresh.of _ a).mpr own
      · exact (running a).mpr run
      · exact gone
      · intro b ownB other
        exact connectedOther (factoryDead owned own waits) ((fresh.of _ b).mp ownB) other
    · rename_i listed
      exact ownedStored owned own waits (not_not.mp listed)

theorem ownedDetails {m : Manager} {k : Nat} (owned : OwnedAt m k)
    (f : InternalSession → InternalSession)
    (keeps : (f (m.session k)).status = (m.session k).status ∧
      (f (m.session k)).scpi = (m.session k).scpi ∧
      (f (m.session k)).disposeCloseListener = (m.session k).disposeCloseListener) :
    OwnedAt (setSession m k f) k := by
  have frame : Frame m (setSession m k f) k :=
    ⟨Iff.rfl,by simpa using keeps,fun _ => Iff.rfl,fun _ _ => ⟨id,Iff.rfl,rfl⟩⟩
  exact ownedFrame frame owned

theorem ownedFinish {m : Manager} {k a : Nat} (owned : OwnedAt m k) (own : Of m k a)
    (midway : Midway m a) (opens : isOpen m a) : OwnedAt (finishEstablish m a) k := by
  have loc := localFinish own
  have run := midwayRunning midway
  obtain ⟨listed,holds,_⟩ := owned.owned a own opens
  obtain rfl : owner m a = k := own.2
  have idle (b) (ownB : Of m (owner m a) b) : ¬ Running (finishEstablish m a) b := by
    intro after
    by_cases same : b = a
    · simp [Running,finishEstablish,same] at after
    · have before : Running m b := by
        simpa [Running,finishEstablish,same] using after
      exact same (owned.one b a ownB own before run)
  have opensA : isOpen (finishEstablish m a) a = true := by
    cases scpi : (m.attempt a).scpi <;>
      simp_all [isOpen,finishEstablish]
  have listens : isListening (finishEstablish m a) a = true := by
    cases scpi : (m.attempt a).scpi <;>
      simp_all [isOpen,isListening,finishEstablish]
  have status : ((finishEstablish m a).session (owner m a)).status = .connected := by
    simp [finishEstablish]
  have holdsA : ((finishEstablish m a).session (owner m a)).scpi = some a := by
    simp [finishEstablish,holds]
  exact {
    one := by
      intro b c ownB _ runB
      exact absurd runB (idle b ((loc.of _ b).mp ownB))
    connecting := by
      intro b ownB runB
      exact absurd runB (idle b ((loc.of _ b).mp ownB))
    held := by
      intro b holdsB
      obtain rfl := Option.some.inj (holdsA.symm.trans holdsB)
      exact (loc.of _ a).mpr own
    disposes := by
      intro b disposed
      have same : a = b := by simpa [finishEstablish] using disposed
      rw [loc.of]
      exact same ▸ own
    owned := by
      intro b ownB opensB
      have same : b = a := by
        by_contra other
        have before : isOpen m b = true := by
          simpa [isOpen,finishEstablish,other] using opensB
        have holdsB := (owned.owned b ((loc.of _ b).mp ownB) before).2.1
        exact other (Option.some.inj (holdsB.symm.trans holds))
      refine ⟨?_,same ▸ holdsA,.inr ⟨status,same ▸ listens⟩⟩
      simpa [finishEstablish] using listed
    connected := fun _ _ => ⟨a,holdsA,opensA,listens⟩ }

theorem ownedBuild {m : Manager} {k a : Nat} (owned : OwnedAt m k) (own : Of m k a)
    (midway : Midway m a) (identity create) (opens : (create identity).isOk → isOpen m a) :
    Local m (buildFacade m a identity create) k ∧ OwnedAt (buildFacade m a identity create) k := by
  unfold buildFacade
  split
  · exact ⟨localFail owned own _,ownedFail owned own (midwayRunning midway) _⟩
  · rename_i facade made
    obtain rfl : owner m a = k := own.2
    have built := localSession m (owner m a) fun s => { s with facade := some facade }
    have opens : isOpen m a := opens (by simp [made,Except.isOk,Except.toBool])
    exact ⟨built.trans (localFinish ((built.of _ a).mpr own)),
      ownedFinish (ownedDetails owned _ ⟨rfl,rfl,rfl⟩) ((built.of _ a).mpr own) midway opens⟩

theorem ownedUnlisted {m : Manager} {k a : Nat} (owned : OwnedAt m k) (own : Of m k a)
    (run : Running m a) (gone : k ∉ m.sessions) :
    Local m (leaveStale m a) k ∧ OwnedAt (leaveStale m a) k :=
  ⟨localStale own,ownedStale owned.one owned.connecting owned.held owned.disposes own run gone
    fun b ownB _ => deadUnlisted owned gone b ownB⟩

theorem ownedNext {m : Manager} {k a : Nat} (owned : OwnedAt m k) (own : Of m k a) {w}
    (runs : Running (await m a w) a → Running m a)
    (midway : Midway (await m a w) a ↔ Midway m a) : OwnedAt (await m a w) k := by
  have frame : Frame m (await m a w) k := {
    listed := Iff.rfl
    session := ⟨rfl,rfl,rfl⟩
    of := (localAwait own w).of k
    attempt := by
      intro b _
      by_cases same : b = a
      · simpa [same] using ⟨runs,midway⟩
      · simp [Running,Midway,same] }
  exact ownedFrame frame owned

/- The reply to `*IDN?` takes the call of `establish` to "connected" without another `await`. -/
def connects (m : Manager) (raw : String) : Prop :=
  match m.registry (parseIdn raw) with
  | some driver => driver.refine = false ∧ (driver.create (parseIdn raw)).isOk
  | none => True

theorem ownedIdn {m : Manager} {k a : Nat} (owned : OwnedAt m k) (own : Of m k a)
    (waits : (m.attempt a).awaiting = some .idn) (outcome)
    (opens : ∀ raw, outcome = .ok raw → k ∈ m.sessions → connects m raw → isOpen m a) :
    Local m (resumeIdn m a outcome) k ∧ OwnedAt (resumeIdn m a outcome) k := by
  have run : Running m a := by simp [Running,waits]
  have midway : Midway m a := by simp [Midway,waits]
  obtain rfl : owner m a = k := own.2
  cases outcome with
  | error err => exact ⟨localFail owned own err,ownedFail owned own run err⟩
  | ok raw =>
    simp only [resumeIdn]
    split
    · rename_i gone
      exact ownedUnlisted owned own run gone
    · rename_i listed
      have opens := opens raw rfl (not_not.mp listed)
      split
      · rename_i driver resolved
        have identified := localSession m (owner m a) fun s => { s with
          identity := some (parseIdn raw), driverId := some driver.id, kind := driver.kind }
        have still := ownedDetails owned (fun s => { s with
          identity := some (parseIdn raw), driverId := some driver.id, kind := driver.kind })
          ⟨rfl,rfl,rfl⟩
        have own' := (identified.of _ a).mpr own
        split
        · have waiting := localAwait own' (some (.refine (parseIdn raw) driver))
          exact ⟨identified.trans waiting,ownedNext still own' (fun _ => run)
            (by simpa [Midway] using midway)⟩
        · rename_i unrefined
          obtain ⟨loc,built⟩ := ownedBuild still own' midway (parseIdn raw) driver.create
            fun ok => opens (by simp [connects,resolved,unrefined,ok])
          exact ⟨identified.trans loc,built⟩
      · rename_i unknown
        have identified := localSession m (owner m a) fun s => { s with
          identity := some (parseIdn raw), driverId := none, kind := .unknown, facade := none }
        have still := ownedDetails owned (fun s => { s with
          identity := some (parseIdn raw), driverId := none, kind := .unknown, facade := none })
          ⟨rfl,rfl,rfl⟩
        have own' := (identified.of _ a).mpr own
        exact ⟨identified.trans (localFinish own'),
          ownedFinish still own' midway (opens (by simp [connects,unknown]))⟩

theorem ownedRefine {m : Manager} {k a : Nat} (owned : OwnedAt m k) (own : Of m k a)
    {identity driver} (waits : (m.attempt a).awaiting = some (.refine identity driver)) (outcome)
    (opens : k ∈ m.sessions → (refinedCreate driver outcome identity).isOk → isOpen m a) :
    Local m (resumeRefine m a identity driver outcome) k ∧
      OwnedAt (resumeRefine m a identity driver outcome) k := by
  have run : Running m a := by simp [Running,waits]
  obtain rfl : owner m a = k := own.2
  unfold resumeRefine
  split
  · rename_i gone
    exact ownedUnlisted owned own run gone
  · rename_i listed
    exact ownedBuild owned own (by simp [Midway,waits]) _ _ (opens (not_not.mp listed))

theorem ownedStaleSettled {m : Manager} {k a : Nat} (owned : OwnedAt m k) (own : Of m k a)
    (waits : (m.attempt a).awaiting = some .staleClose) (outcome) :
    Local m (resumeStale m a outcome) k ∧ OwnedAt (resumeStale m a outcome) k := by
  cases outcome with
  | error err => exact ⟨localFail owned own err,ownedFail owned own (by simp [Running,waits]) err⟩
  | ok _ =>
    exact ⟨localAwait own none,ownedNext owned own (by simp [Running]) (by simp [Midway,waits])⟩

theorem ownedFailureSettled {m : Manager} {k a : Nat} (owned : OwnedAt m k) (own : Of m k a)
    (closed : ∀ held, (m.session k).scpi = some held → isOpen m held = false) :
    Local m (resumeFailure m a) k ∧ OwnedAt (resumeFailure m a) k := by
  have dead := deadHeld owned closed
  obtain rfl : owner m a = k := own.2
  have emptied := localSession m (owner m a) fun s => { s with scpi := none }
  have own' := (emptied.of _ a).mpr own
  have disposes (b) (disposed : ((setSession m (owner m a) fun s => { s with scpi := none }).session
      (owner m a)).disposeCloseListener = some b) := owned.disposes b (by simpa using disposed)
  refine ⟨emptied.trans (localFinishFailure own' disposes),?_⟩
  apply ownedFinishFailure own'
  · exact owned.one
  · intro b ownB runB _
    simpa using owned.connecting b ownB runB
  · simp
  · exact disposes
  · exact dead
  · intro listed connected
    obtain ⟨b,holds,opens,_⟩ := owned.connected listed (by simpa using connected)
    simp [closed b holds] at opens

theorem localLost {m : Manager} {k : Nat} (err)
    (disposes : ∀ b, (m.session k).disposeCloseListener = some b → Of m k b) :
    Local m (handleUnexpectedClose m k err) k := by
  unfold handleUnexpectedClose
  split
  · exact .refl m k
  · split
    · exact .refl m k
    · have lost := localSession m k fun s => { s with
        status := .error, error := some ((err.map JsError.message).getD "connection lost")
        facade := none, scpi := none, transcriptRing := none, deviceErrorRing := none }
      have emptied := lost.trans (localDispose fun b disposed =>
        (lost.of _ b).mpr (disposes b (by simpa using disposed)))
      exact emptied.trans (localUpdate _ k)

theorem ownedShut {m m' : Manager} {k : Nat} (owned : OwnedAt m k) (loc : Local m m' k)
    (dead : Dead m' k) (running : ∀ b, Of m k b → Running m' b → Running m b)
    (status : (m'.session k).status = (m.session k).status ∨ ∀ b, Of m k b → ¬ Running m b)
    (down : k ∈ m'.sessions → (m'.session k).status ≠ .connected)
    (held : ∀ b, (m'.session k).scpi = some b → (m.session k).scpi = some b)
    (disposes : ∀ b, (m'.session k).disposeCloseListener = some b →
      (m.session k).disposeCloseListener = some b) : OwnedAt m' k := by
  apply ownedDead
  · intro b c ownB ownC runB runC
    have ownB := (loc.of _ b).mp ownB
    have ownC := (loc.of _ c).mp ownC
    exact owned.one b c ownB ownC (running b ownB runB) (running c ownC runC)
  · intro b ownB runB
    have ownB := (loc.of _ b).mp ownB
    rcases status with same | idle
    · rw [same]
      exact owned.connecting b ownB (running b ownB runB)
    · exact absurd (running b ownB runB) (idle b ownB)
  · intro b holds
    exact (loc.of _ b).mpr (owned.held b (held b holds))
  · intro b disposed
    exact (loc.of _ b).mpr (owned.disposes b (disposes b disposed))
  · exact dead
  · exact down

theorem lostOpen (m : Manager) (k b : Nat) (err) :
    isOpen (handleUnexpectedClose m k err) b = isOpen m b := by
  unfold handleUnexpectedClose
  split
  · rfl
  · split <;> simp

theorem ownedDropped {m : Manager} {k a : Nat} (owned : OwnedAt m k) (own : Of m k a) (err) :
    Local m (dropScpi m a err) k ∧ OwnedAt (dropScpi m a err) k := by
  obtain rfl : owner m a = k := own.2
  unfold dropScpi
  split
  · exact ⟨.refl m _,owned⟩
  · rename_i c scpi
    split
    · exact ⟨.refl m _,owned⟩
    · rename_i opens
      have opens : isOpen m a = true := by simpa [isOpen,scpi] using opens
      obtain ⟨listed,holds,_⟩ := owned.owned a own opens
      have closed := localClose own
      have dead : Dead (closeScpi m a) (owner m a) := by
        intro b ownB
        by_contra opensB
        have both : isOpen m b = true ∧ b ≠ a := by simpa using opensB
        have holdsB := (owned.owned b ((closed.of _ b).mp ownB) both.1).2.1
        exact both.2 (Option.some.inj (holdsB.symm.trans holds))
      have running (b) (_ : Of m (owner m a) b) (after : Running (closeScpi m a) b) :
          Running m b := by simpa [Running] using after
      have alone (down : (m.session (owner m a)).status ≠ .connected) :
          OwnedAt (closeScpi m a) (owner m a) :=
        ownedShut owned closed dead running (.inl rfl) (fun _ => down) (fun _ => id) (fun _ => id)
      split
      · have lost := localLost (k := owner m a) err fun b disposed =>
          (closed.of _ b).mpr (owned.disposes b disposed)
        refine ⟨closed.trans lost,?_⟩
        by_cases connected : (m.session (owner m a)).status = .connected
        · have idle (b) (ownB : Of m (owner m a) b) : ¬ Running m b := by
            intro runB
            simp [owned.connecting b ownB runB] at connected
          apply ownedShut owned (closed.trans lost) _ _ (.inr idle)
          · simp [handleUnexpectedClose,listed,connected]
          · simp [handleUnexpectedClose,listed,connected]
          · simp [handleUnexpectedClose,listed,connected]
          · intro b ownB
            rw [lostOpen]
            exact dead b ((lost.of _ b).mp ownB)
          · intro b _ after
            simpa [Running,handleUnexpectedClose,listed,connected] using after
        · have same : handleUnexpectedClose (closeScpi m a) (owner m a) err = closeScpi m a := by
            simp [handleUnexpectedClose,connected]
          rw [same]
          exact alone connected
      · rename_i unheard
        refine ⟨closed,alone ?_⟩
        intro connected
        obtain ⟨b,holdsB,_,listens⟩ := owned.connected listed connected
        obtain rfl := Option.some.inj (holds.symm.trans holdsB)
        simp [isListening,scpi,unheard] at listens

theorem ownedClose {m : Manager} {k : Nat} (owned : OwnedAt m k) :
    Local m (close m k) k ∧ OwnedAt (close m k) k := by
  unfold close
  split
  · exact ⟨.refl m k,owned⟩
  · have left : Local m (deleteSession m k) k := {
      counts := ⟨rfl,rfl⟩
      owner := fun _ => rfl
      shrinks := List.filter_subset_self _
      listed := fun id other => by simp [other]
      session := fun _ _ => ⟨rfl,rfl,rfl⟩
      attempt := fun _ _ => ⟨rfl,rfl⟩ }
    have emptied := left.trans (localDispose fun b disposed =>
      (left.of _ b).mpr (owned.disposes b disposed))
    simp only [disposeSession,deleteKeeps]
    split
    · rename_i holds
      have dead := deadHeld owned (by simp [holds])
      refine ⟨emptied.trans (localEmit _ k _),?_⟩
      apply ownedShut owned (emptied.trans (localEmit _ k _)) _ _ (.inl _)
      · simp
      · simp
      · simp
      · intro b ownB
        simpa using dead b ((emptied.of _ b).mp ownB)
      · intro b _ after
        simpa [Running] using after
      · simp
    · rename_i a holds
      have shut := emptied.trans (localClose ((emptied.of _ a).mpr (owned.held a holds)))
      have waits : Local (closeScpi (dispose (deleteSession m k) k) a)
          (awaitClose (closeScpi (dispose (deleteSession m k) k) a) k) k :=
        ⟨⟨rfl,rfl⟩,fun _ => rfl,List.Subset.refl _,fun _ _ => Iff.rfl,fun _ _ => ⟨rfl,rfl,rfl⟩,
          fun _ _ => ⟨rfl,rfl⟩⟩
      refine ⟨shut.trans waits,?_⟩
      apply ownedShut owned (shut.trans waits) _ _ (.inl _)
      · simp
      · simp
      · simp
      · intro b ownB
        by_contra opensB
        have both : isOpen m b = true ∧ b ≠ a := by simpa using opensB
        have holdsB := (owned.owned b (((shut.trans waits).of _ b).mp ownB) both.1).2.1
        exact both.2 (Option.some.inj (holdsB.symm.trans holds))
      · intro b _ after
        simpa [Running] using after
      · simp

theorem ownedFinishClose {m : Manager} {k : Nat} (owned : OwnedAt m k) :
    Local m (finishClose m k) k ∧ OwnedAt (finishClose m k) k := by
  have frame : Frame m (finishClose m k) k :=
    ⟨Iff.rfl,⟨rfl,rfl,rfl⟩,fun _ => Iff.rfl,fun _ _ => ⟨id,Iff.rfl,rfl⟩⟩
  exact ⟨⟨⟨rfl,rfl⟩,fun _ => rfl,List.Subset.refl _,fun _ _ => Iff.rfl,fun _ _ => ⟨rfl,rfl,rfl⟩,
    fun _ _ => ⟨rfl,rfl⟩⟩,ownedFrame frame owned⟩

theorem ownedLocal {m m' : Manager} {k : Nat} (owned : Owned m) (loc : Local m m' k)
    (own : OwnedAt m' k) : Owned m' where
  unused a beyond := by
    rw [loc.counts.1] at beyond
    have elsewhere : ¬ Of m k a := fun own => absurd own.1 (by omega)
    rw [(loc.attempt a elsewhere).1,(loc.attempt a elsewhere).2]
    exact owned.unused a beyond
  known a early := by
    rw [loc.counts.1] at early
    rw [loc.owner,loc.counts.2]
    exact owned.known a early
  listed id member := by
    rw [loc.counts.2]
    exact owned.listed id (loc.shrinks member)
  each id := by
    by_cases same : id = k
    · exact same ▸ own
    · exact ownedFrame (loc.frame same) (owned.each id)

theorem ownedEstablish {m : Manager} {k : Nat} (owned : Owned m) (known : k < m.nextId)
    (connecting : (m.session k).status = .connecting)
    (idle : ∀ a, Of m k a → ¬ Running m a) : Owned (establish m k) := by
  have of := establishOf m k
  have same (id a) (own : Of m id a) : (establish m k).attempt a = m.attempt a :=
    establishOlder m k (Nat.ne_of_lt own.1)
  have shut : isOpen (establish m k) m.nextAttempt = false := by simp [isOpen,newAttempt]
  exact {
    unused := by
      intro a beyond
      have beyond : m.nextAttempt + 1 ≤ a := beyond
      rw [establishOlder m k (by omega)]
      exact owned.unused a (by omega)
    known := establishKnown owned.known known
    listed := owned.listed
    each := by
      intro id
      by_cases this : id = k
      · subst this
        have runs (a) (own : Of (establish m id) id a) (run : Running (establish m id) a) :
            a = m.nextAttempt := by
          rcases (of id a).mp own with old | new
          · simp only [Running,same id a old] at run
            exact absurd run (idle a old)
          · exact new.1
        exact {
          one := fun a b ownA ownB runA runB => (runs a ownA runA).trans (runs b ownB runB).symm
          connecting := fun _ _ _ => connecting
          held := fun a holds => (of id a).mpr (.inl ((owned.each id).held a holds))
          disposes := fun a disposed => (of id a).mpr (.inl ((owned.each id).disposes a disposed))
          owned := by
            intro a own opens
            rcases (of id a).mp own with old | new
            · have before : isOpen m a = true := by simpa [isOpen,same id a old] using opens
              have kept := (owned.each id).owned a old before
              simpa only [Midway,isListening,same id a old,establishKeeps] using kept
            · simp [new.1,shut] at opens
          connected := by
            intro _ connected
            exact absurd (connecting.symm.trans connected) (by decide) }
      · have frame : Frame m (establish m k) id := {
          listed := Iff.rfl
          session := ⟨rfl,rfl,rfl⟩
          of := fun a => by simp [of,this]
          attempt := fun a own => by simp [Running,Midway,same id a own] }
        exact ownedFrame frame (owned.each id) }

theorem ownedReconnect {m : Manager} (owned : Owned m) (k : Nat) : Owned (reconnect m k).2 := by
  unfold reconnect
  split
  · exact owned
  · rename_i listed
    split
    · exact owned
    · rename_i failed
      have failed : (m.session k).status = .error := not_not.mp failed
      have own := owned.each k
      have idle (b) (ownB : Of m k b) : ¬ Running m b := by
        intro runB
        simp [own.connecting b ownB runB] at failed
      let reset : InternalSession → InternalSession := fun s => { s with
        status := .connecting, error := none, identity := none, driverId := none, kind := .unknown
        facade := none, scpi := none, transcriptRing := none, deviceErrorRing := none }
      have cleared := localSession m k reset
      have emptied := cleared.trans (localDispose fun b disposed =>
        (cleared.of _ b).mpr (own.disposes b (by simpa [reset] using disposed)))
      have told := emptied.trans (localUpdate _ k)
      have still : OwnedAt (emitUpdate (dispose (setSession m k reset) k) k) k := by
        apply ownedShut own told _ _ (.inr idle)
        · simp [reset]
        · simp [reset]
        · simp
        · intro b ownB
          simpa using deadError own failed b ((told.of _ b).mp ownB)
        · intro b _ after
          simpa [Running] using after
      have known := owned.listed k (not_not.mp listed)
      apply ownedEstablish (ownedLocal owned told still)
      · simpa using known
      · simp [reset]
      · intro b ownB runB
        exact idle b ((told.of _ b).mp ownB) (by simpa [Running] using runB)

theorem ownedListed {m : Manager} (owned : Owned m) (host port now) :
    Owned (listSession m (newSession m host port now)) := by
  have new : (listSession m (newSession m host port now)).session m.nextId =
      newSession m host port now := listSessionSelf _ _
  have none (a) : ¬ Of m m.nextId a := fun own =>
    absurd (owned.known a own.1) (by simp [own.2])
  exact {
    unused := owned.unused
    known := fun a early => Nat.lt_succ_of_lt (owned.known a early)
    listed := listSessionKnown owned.listed host port now
    each := by
      intro id
      by_cases this : id = m.nextId
      · subst this
        exact {
          one := fun a _ own => absurd own (none a)
          connecting := fun a own => absurd own (none a)
          held := fun a holds => absurd (new ▸ holds) nofun
          disposes := fun a disposed => absurd (new ▸ disposed) nofun
          owned := fun a own => absurd own (none a)
          connected := fun _ connected => absurd (new ▸ connected) nofun }
      · have frame : Frame m (listSession m (newSession m host port now)) id := {
          listed := by simp [newSession,this]
          session := by rw [listSessionOther _ _ this]; exact ⟨rfl,rfl,rfl⟩
          of := fun _ => Iff.rfl
          attempt := fun _ _ => ⟨fun run => run,Iff.rfl,rfl⟩ }
        exact ownedFrame frame (owned.each id) }

theorem ownedOpen {m : Manager} (owned : Owned m) (host port now) :
    Owned (openSession m host port now).2 := by
  rcases openSessionCases m host port now with ⟨err,refused⟩ | opened
  · rw [refused]
    exact owned
  · rw [opened]
    have connecting : ((listSession m (newSession m host port now)).session m.nextId).status =
        .connecting := congrArg InternalSession.status (listSessionSelf _ _)
    apply ownedEstablish (ownedListed owned host port now) (Nat.lt_succ_self _) connecting
    intro a own
    exact absurd (owned.known a own.1) (own.2 ▸ Nat.lt_irrefl _)

theorem ownedElsewhere {m m' : Manager} (owned : Owned m) (quiet : ∀ k, Local m m' k) : Owned m' :=
  ownedLocal owned (quiet 0) (ownedFrame ((quiet 1).frame (by decide)) (owned.each 0))

section
variable (m : Manager) (k a : Nat)

theorem localRecord (input) : Local m (record m a input) k :=
  (localQuiet m k a _ ⟨rfl,rfl,rfl⟩).trans (localEmit _ _ _)

theorem localAppend (id input) : Local m (appendTranscript m id input).2 k := by
  unfold appendTranscript
  split
  · exact .refl m k
  · split
    · exact .refl m k
    · exact (localQuiet m k _ _ ⟨rfl,rfl,rfl⟩).trans (localEmit _ _ _)

theorem localTick : Local m (pollTick m a) k := by
  unfold pollTick
  split
  · exact localQuiet m k a _ ⟨rfl,rfl,rfl⟩
  · exact .refl m k

theorem localDrain (entries) : Local m (finishDrain m a entries) k := by
  have idle := localQuiet m k a (fun t => { t with busy := false }) ⟨rfl,rfl,rfl⟩
  simp only [finishDrain]
  split
  · exact idle
  · split
    · exact idle
    · exact (idle.trans (localQuiet _ k _ _ ⟨rfl,rfl,rfl⟩)).trans (localEmit _ _ _)

end

section
open ScpiSession
open ScpiQuiescence (audience audienceTraffic lossLog)

/- What `Scpi` keeps of a ScpiSession on which the manager would register `listener`. -/
def seen (s : Session) (listener : Nat) : Scpi := ⟨s.closed,listener ∈ s.closeListeners⟩

def Registers (s : Session) : Prop := s.closeListeners.Nodup ∧ (s.listening = false → s.closed)

variable (s : Session) (listener : Nat)

theorem trafficSeen (e : ScpiSession.Event)
    (traffic : e ≠ .close ∧ (∀ err, e ≠ .transportClosed err) ∧ (∀ l, e ≠ .onClose l) ∧
      ∀ l, e ≠ .offClose l) :
    seen (ScpiSession.step s e) listener = seen s listener ∧ (Registers s → Registers (ScpiSession.step s e)) := by
  have same := audienceTraffic s e traffic
  simp only [audience,Prod.mk.injEq] at same
  obtain ⟨closed,listening,listeners,-⟩ := same
  refine ⟨by rw [seen,closed,listeners,seen],fun registers => ⟨listeners ▸ registers.1,?_⟩⟩
  intro silent
  rw [listening] at silent
  rw [closed]
  exact registers.2 silent

/- `close` shuts the ScpiSession before its first `await` and calls nobody; a transport that
reports loss shuts an open one and calls exactly the registered listeners, once each. -/
theorem closeSeen : seen (ScpiSession.close s) listener = { seen s listener with closed := true } := by
  unfold ScpiSession.close
  split
  · rename_i closed
    simp [seen,closed]
  · rfl

theorem lossSeen (opens : s.closed = false) (err) :
    seen (handleClose s err) listener = { seen s listener with closed := true } ∧
    ∃ settled, (∀ l e, Effect.notified l e ∉ settled) ∧
      (handleClose s err).log = s.log ++ settled ++ s.closeListeners.map (.notified · err) := by
  obtain ⟨ended,listeners,log⟩ := lossLog opens err
  refine ⟨?_,_,?_,log⟩
  · rw [seen,ended.closed,listeners,seen]
  · simp

def heard (c : Scpi) : ScpiSession.Event → Scpi
  | .close | .transportClosed _ => { c with closed := true }
  | .onClose l => if l = listener then { c with listener := true } else c
  | .offClose l => if l = listener then { c with listener := false } else c
  | _ => c

variable {s} in
theorem seenStep (registers : Registers s) (e : ScpiSession.Event) :
    seen (ScpiSession.step s e) listener = heard listener (seen s listener) e ∧ Registers (ScpiSession.step s e) := by
  obtain ⟨once,ends⟩ := registers
  have shut (closed : s.closed) : seen s listener = { seen s listener with closed := true } := by
    rw [seen,closed]
  cases e with
  | close =>
    refine ⟨closeSeen s listener,?_⟩
    simp only [ScpiSession.step,ScpiSession.close]
    split
    · exact ⟨once,ends⟩
    · exact ⟨once,fun _ => rfl⟩
  | transportClosed err =>
    simp only [ScpiSession.step,heard]
    by_cases listens : s.listening
    · rw [if_pos listens]
      by_cases closed : s.closed
      · rw [handleClose,if_pos closed]
        exact ⟨shut closed,once,ends⟩
      · have opens : s.closed = false := Bool.eq_false_iff.mpr closed
        obtain ⟨ended,listeners,-⟩ := lossLog opens err
        exact ⟨(lossSeen s listener opens err).1,listeners ▸ once,fun _ => ended.closed⟩
    · rw [if_neg listens]
      exact ⟨shut (ends (Bool.eq_false_iff.mpr listens)),once,ends⟩
  | onClose l =>
    simp only [ScpiSession.step,heard]
    by_cases there : l ∈ s.closeListeners
    · rw [if_pos there]
      refine ⟨?_,once,ends⟩
      split
      · rename_i same
        simp [seen,same ▸ there]
      · rfl
    · rw [if_neg there]
      refine ⟨?_,List.nodup_append.mpr ⟨once,List.nodup_singleton l,fun a member b new => ?_⟩,ends⟩
      · by_cases same : l = listener
        · simp [seen,same]
        · simp [seen,same,Ne.symm same]
      · rintro rfl
        exact there (List.mem_singleton.mp new ▸ member)
  | offClose l =>
    simp only [ScpiSession.step,heard]
    refine ⟨?_,once.erase l,ends⟩
    by_cases same : l = listener
    · subst same
      simp [seen,once.mem_erase_iff]
    · simp [seen,once.mem_erase_iff,same,Ne.symm same]
  | write | writeBinary | query | queryBinary | data | writeResolved | writeRejected | deadline =>
    exact ⟨(trafficSeen s listener _ (by simp)).1,(trafficSeen s listener _ (by simp)).2 ⟨once,ends⟩⟩

/-- Over every run of a ScpiSession the manager's view of it follows from the events alone. -/
theorem seenRuns (registers : Registers s) (events : List ScpiSession.Event) :
    seen (run ScpiSession.step s events) listener = run (heard listener) (seen s listener) events := by
  induction events generalizing s with
  | nil => rfl
  | cons e rest ih =>
    obtain ⟨same,next⟩ := seenStep listener registers e
    rw [runCons,runCons,ih _ next,same]

end

/- No call of `establish` goes on to "connected" on a ScpiSession that has closed meanwhile, and
none finishes its catch block while its session holds an open ScpiSession (of a later call). -/
def Undisturbed (m : Manager) : Event → Prop
  | .idnSettled a (.ok raw) =>
      (m.attempt a).awaiting matches some .idn → owner m a ∈ m.sessions → connects m raw → isOpen m a
  | .refineSettled a outcome =>
      match (m.attempt a).awaiting with
      | some (.refine identity driver) =>
          owner m a ∈ m.sessions → (refinedCreate driver outcome identity).isOk → isOpen m a
      | _ => True
  | .scpiCloseSettled a _ =>
      (m.attempt a).awaiting matches some .failureClose →
        ∀ held ∈ (m.session (owner m a)).scpi, isOpen m held = false
  | _ => True

instance (m raw) : Decidable (connects m raw) := by
  unfold connects
  split <;> infer_instance

instance (m e) : Decidable (Undisturbed m e) := by
  unfold Undisturbed
  split <;> try split
  all_goals infer_instance

theorem stepOwned (m : Manager) (e : Event) (owned : Owned m) (ok : Undisturbed m e) :
    Owned (step m e) := by
  have of {a w} (waits : (m.attempt a).awaiting = some w) : Of m (owner m a) a := by
    refine ⟨?_,rfl⟩
    by_contra beyond
    simp [(owned.unused a (by omega)).1] at waits
  cases e with
  | openSession host port now => exact ownedOpen owned host port now
  | reconnect id => exact ownedReconnect owned id
  | close id =>
    obtain ⟨loc,own⟩ := ownedClose (owned.each id)
    exact ownedLocal owned loc own
  | factorySettled a outcome =>
    simp only [step]
    split
    · rename_i waits
      obtain ⟨loc,own⟩ := ownedFactory (owned.each _) (of waits) waits outcome
      exact ownedLocal owned loc own
    · exact owned
  | idnSettled a outcome =>
    simp only [step]
    split
    · rename_i waits
      obtain ⟨loc,own⟩ := ownedIdn (owned.each _) (of waits) waits outcome (by
        intro raw same listed connected
        subst same
        exact ok (by simp [waits]) listed connected)
      exact ownedLocal owned loc own
    · exact owned
  | refineSettled a outcome =>
    simp only [step]
    split
    · rename_i identity driver waits
      obtain ⟨loc,own⟩ := ownedRefine (owned.each _) (of waits) waits outcome (by
        simpa [Undisturbed,waits] using ok)
      exact ownedLocal owned loc own
    · exact owned
  | scpiCloseSettled a outcome =>
    simp only [step]
    split
    · rename_i waits
      obtain ⟨loc,own⟩ := ownedStaleSettled (owned.each _) (of waits) waits outcome
      exact ownedLocal owned loc own
    · rename_i waits
      obtain ⟨loc,own⟩ := ownedFailureSettled (owned.each _) (of waits) (ok (by simp [waits]))
      exact ownedLocal owned loc own
    · exact owned
  | closeSettled id =>
    simp only [step]
    split
    · obtain ⟨loc,own⟩ := ownedFinishClose (owned.each id)
      exact ownedLocal owned loc own
    · exact owned
  | drainSettled a entries =>
    simp only [step]
    split
    · exact ownedElsewhere owned fun k => localDrain m k a entries
    · exact owned
  | dropped a err =>
    by_cases made : a < m.nextAttempt
    · obtain ⟨loc,own⟩ := ownedDropped (owned.each _) ⟨made,rfl⟩ err
      exact ownedLocal owned loc own
    · have unused := (owned.unused a (by omega)).2
      simpa [step,dropScpi,unused] using owned
  | recorded a input =>
    simp only [step]
    split
    · exact ownedElsewhere owned fun k => localRecord m k a input
    · exact owned
  | pollTick a => exact ownedElsewhere owned fun k => localTick m k a
  | appendTranscript id input => exact ownedElsewhere owned fun k => localAppend m k id input

theorem createOwned (registry maxSessions transcriptRingMax deviceErrorRingMax) :
    Owned (create registry maxSessions transcriptRingMax deviceErrorRingMax) where
  unused _ _ := ⟨rfl,rfl⟩
  known a early := absurd early (Nat.not_lt_zero a)
  listed _ member := absurd member List.not_mem_nil
  each _ := {
    one := fun a _ own => absurd own.1 (Nat.not_lt_zero a)
    connecting := fun a own => absurd own.1 (Nat.not_lt_zero a)
    held := nofun
    disposes := nofun
    owned := fun a own => absurd own.1 (Nat.not_lt_zero a)
    connected := fun member => absurd member List.not_mem_nil }

structure SessionsOwned (m : Manager) : Prop where
  live : ∀ id ∈ m.sessions, (m.session id).status = .connected →
    ∃ a c, (m.session id).scpi = some a ∧ (m.attempt a).scpi = some c ∧
      c.closed = false ∧ c.listener = true
  notOrphaned : ∀ a c, (m.attempt a).scpi = some c → c.closed = false →
    ∃! id, id ∈ m.sessions ∧ (m.session id).status = .connected ∧ (m.session id).scpi = some a

theorem restOwned {m : Manager} (owned : Owned m) (rest : AtRest m) : SessionsOwned m where
  live id listed connected := by
    obtain ⟨a,holds,opens,listens⟩ := (owned.each id).connected listed connected
    cases scpi : (m.attempt a).scpi with
    | none => simp [isOpen,scpi] at opens
    | some c => exact ⟨a,c,holds,scpi,by simpa [isOpen,scpi] using opens,
        by simpa [isListening,scpi] using listens⟩
  notOrphaned a c scpi opens := by
    have made : a < m.nextAttempt := by
      by_contra beyond
      simp [(owned.unused a (by omega)).2] at scpi
    obtain ⟨listed,holds,midway | connected⟩ :=
      (owned.each (owner m a)).owned a ⟨made,rfl⟩ (by simp [isOpen,scpi,opens])
    · have idle := rest.1 a made
      unfold Midway at midway
      split at midway <;> simp_all
    · refine ⟨owner m a,⟨listed,connected.1,holds⟩,?_⟩
      intro id other
      exact ((owned.each id).held a other.2.2).2.symm

theorem sessionsOwnedRuns (registry : DeviceIdentity → Option DriverEntry)
    (maxSessions transcriptRingMax deviceErrorRingMax : Nat) (events : List Event)
    (undisturbed : Along step Undisturbed
      (create registry maxSessions transcriptRingMax deviceErrorRingMax) events) :
    Throughout step (fun m => AtRest m → SessionsOwned m)
      (create registry maxSessions transcriptRingMax deviceErrorRingMax) events :=
  (throughoutAlong stepOwned (createOwned _ _ _ _) undisturbed).mono fun _ owned => restOwned owned

def psu : Facade := ⟨.powerSupply,true⟩

def probing : DeviceIdentity → Option DriverEntry :=
  fun _ => some ⟨"rigol-dp932e",.powerSupply,fun _ => .ok psu,true⟩

def lost : JsError := ⟨.error,"read ECONNRESET"⟩

/- Two sessions, a drop, a reconnect that fails in `*IDN?`, another one that succeeds, a close. -/
theorem sessionsOwnedBench : Throughout step (fun m => AtRest m → SessionsOwned m) (create probing)
    [.openSession "psu" none 0, .factorySettled 0 (.ok ()), .idnSettled 0 (.ok "RIGOL,DP932E,1,2"),
      .openSession "dmm" (some 3000) 1, .refineSettled 0 (.error lost), .dropped 0 (some lost),
      .reconnect 0, .factorySettled 2 (.ok ()), .idnSettled 2 (.error lost),
      .scpiCloseSettled 2 (.ok ()), .reconnect 0, .factorySettled 3 (.ok ()),
      .idnSettled 3 (.ok "RIGOL,DP932E,1,2"), .refineSettled 3 (.ok fun _ => .ok psu), .close 0,
      .factorySettled 1 (.error lost), .closeSettled 0] :=
  sessionsOwnedRuns probing 16 2000 200 _ (by decide +kernel)

/- The transport drops while the driver probes the instrument: the probe swallows the error, and
the session is "connected" on a ScpiSession that is closed and will never report it. -/
theorem dropWhileRefining : ¬ Throughout step (fun m => AtRest m → SessionsOwned m) (create probing)
    [.openSession "psu" none 0, .factorySettled 0 (.ok ()), .idnSettled 0 (.ok "RIGOL,DP932E,1,2"),
      .dropped 0 (some lost), .refineSettled 0 (.ok fun _ => .ok psu)] := by
  intro owned
  obtain ⟨a,c,holds,scpi,opens,_⟩ :=
    (owned.last (by decide)).live 0 (by decide) (by decide)
  obtain rfl : 0 = a := Option.some.inj holds
  obtain rfl : (⟨true,true⟩ : Scpi) = c := Option.some.inj scpi
  exact absurd opens (by decide)

end LxiWeb.SessionOwnership
