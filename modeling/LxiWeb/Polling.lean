import LxiWeb.EventRuns

/-! The polling of a panel: a timer, calls of `refresh` and tasks that settle when they like, while the
component is mounted and its owner turns the polling on and off. -/
namespace LxiWeb.Polling
open EventRuns

inductive Phase where
  | setup
  | mounted
  | unmounted
  deriving DecidableEq, Repr

/- `running` are the tasks that have not settled, each with what it took along at its start; `settled`
are the outcomes so far. -/
structure Poll (Q R : Type) where
  phase : Phase
  enabled : Bool
  timer : Bool := false
  inflight : Bool := false
  running : List Q := []
  data : Option R := none
  error : Option String := none
  settled : List (Except String R) := []

inductive Event (Q R : Type) where
  | mounts (q : Q)
  | enables (on : Bool) (q : Q)
  | ticks (q : Q)
  | refreshes (q : Q)
  | settles (index : Nat) (outcome : Except String R)
  | unmounts

section
variable {Q R : Type} (immediate : Bool)

def usePolling (enabled : Bool) : Poll Q R := { phase := .setup, enabled }

def refresh (s : Poll Q R) (q : Q) : Poll Q R :=
  if s.inflight then s else { s with inflight := true, running := s.running ++ [q] }

/- `refresh` behind its `await`. -/
def settle (s : Poll Q R) (index : Nat) (outcome : Except String R) : Poll Q R :=
  let s := { s with inflight := false, running := s.running.eraseIdx index, settled := s.settled ++ [outcome] }
  match outcome with
  | .ok value => { s with data := some value, error := none }
  | .error message => { s with error := some message }

def onMounted (s : Poll Q R) (q : Q) : Poll Q R :=
  let s := if immediate then refresh s q else s
  { s with phase := .mounted, timer := s.timer || s.enabled }

def watchEnabled (s : Poll Q R) (on : Bool) (q : Q) : Poll Q R :=
  if s.phase = .unmounted ∨ on = s.enabled then { s with enabled := on }
  else if on then { refresh s q with enabled := true, timer := true }
  else { s with enabled := false, timer := false }

def step (s : Poll Q R) : Event Q R → Poll Q R
  | .mounts q => if s.phase = .setup then onMounted immediate s q else s
  | .enables on q => watchEnabled s on q
  | .ticks q => if s.timer then refresh s q else s
  | .refreshes q => refresh s q
  | .settles index outcome => if index < s.running.length then settle s index outcome else s
  | .unmounts => if s.phase = .mounted then { s with phase := .unmounted, timer := false } else s

def lastValue (settled : List (Except String R)) : Option R := (settled.filterMap Except.toOption).getLast?

def lastError (settled : List (Except String R)) : Option String :=
  match settled.getLast? with
  | some (.error message) => some message
  | _ => none

structure Disciplined (s : Poll Q R) : Prop where
  single : s.running.length ≤ 1
  busy : s.inflight = true ↔ s.running ≠ []
  armed : s.phase = .mounted → s.timer = s.enabled
  early : s.phase = .setup → s.timer = true → s.enabled = true
  left : s.phase = .unmounted → s.timer = false
  data : s.data = lastValue s.settled
  error : s.error = lastError s.settled

def Called : Event Q R → Prop
  | .refreshes _ => True
  | _ => False

def carried : Event Q R → Option Q
  | .mounts q | .enables _ q | .ticks q | .refreshes q => some q
  | .settles _ _ | .unmounts => none

def StartsAlone (s : Poll Q R) (e : Event Q R) : Prop :=
  (step immediate s e).running = s.running ∨ (∃ index, (step immediate s e).running = s.running.eraseIdx index) ∨
    (s.running = [] ∧ (s.phase ≠ .unmounted ∨ Called e) ∧
      ∃ q, carried e = some q ∧ (step immediate s e).running = [q])

structure Orderly (enabled : Bool) (events : List (Event Q R)) : Prop where
  disciplined : Throughout (step immediate) Disciplined (usePolling enabled) events
  starts : Along (step immediate) (StartsAlone immediate) (usePolling enabled) events

variable {immediate} {s : Poll Q R} {q : Q}

theorem startDisciplined (enabled : Bool) : Disciplined (usePolling enabled : Poll Q R) := by
  refine ⟨Nat.zero_le _,?_,nofun,nofun,nofun,rfl,rfl⟩
  simp [usePolling]

theorem refreshCases (kept : Disciplined s) (q : Q) :
    refresh s q = s ∨ (s.running = [] ∧ refresh s q = { s with inflight := true, running := [q] }) := by
  unfold refresh
  split
  · exact .inl rfl
  · rename_i idle
    have none_ : s.running = [] := Classical.byContradiction fun some_ => idle (kept.busy.mpr some_)
    exact .inr ⟨none_,by rw [none_,List.nil_append]⟩

theorem refreshDisciplined (kept : Disciplined s) (q : Q) : Disciplined (refresh s q) := by
  rcases refreshCases kept q with same | ⟨-,same⟩
  · rwa [same]
  · rw [same]
    exact ⟨Nat.le_refl 1,by simp,kept.armed,kept.early,kept.left,kept.data,kept.error⟩

theorem valueSnoc (settled : List (Except String R)) (value : R) :
    lastValue (settled ++ [.ok value]) = some value := by
  simp [lastValue,Except.toOption]

theorem valueFailed (settled : List (Except String R)) (message : String) :
    lastValue (settled ++ [.error message]) = lastValue settled := by
  simp [lastValue,Except.toOption]

theorem settleDisciplined (kept : Disciplined s) {index : Nat} (there : index < s.running.length)
    (outcome : Except String R) : Disciplined (settle s index outcome) := by
  have last : s.running.eraseIdx index = [] := by
    have single := kept.single
    apply List.eq_nil_of_length_eq_zero
    rw [List.length_eraseIdx_of_lt there]
    omega
  unfold settle
  rw [last]
  cases outcome with
  | ok value =>
    refine ⟨Nat.zero_le _,by simp,kept.armed,kept.early,kept.left,(valueSnoc _ _).symm,?_⟩
    simp [lastError]
  | error message =>
    refine ⟨Nat.zero_le _,by simp,kept.armed,kept.early,kept.left,?_,?_⟩
    · rw [valueFailed]
      exact kept.data
    · simp [lastError]

theorem mountedDisciplined (kept : Disciplined s) (young : s.phase = .setup) (q : Q) :
    Disciplined (onMounted immediate s q) := by
  have first : Disciplined (if immediate then refresh s q else s) ∧
      (if immediate then refresh s q else s).phase = .setup := by
    split
    · refine ⟨refreshDisciplined kept q,?_⟩
      rcases refreshCases kept q with same | ⟨-,same⟩ <;> rw [same] <;> exact young
    · exact ⟨kept,young⟩
  obtain ⟨sound,still⟩ := first
  refine ⟨sound.single,sound.busy,fun _ => ?_,nofun,nofun,sound.data,sound.error⟩
  have early := sound.early still
  dsimp only [onMounted]
  generalize (if immediate then refresh s q else s) = next at early
  cases timer : next.timer with
  | false => rfl
  | true => rw [early timer]; rfl

theorem watchDisciplined (kept : Disciplined s) (on : Bool) (q : Q) : Disciplined (watchEnabled s on q) := by
  unfold watchEnabled
  split
  · rename_i quiet
    have same (here : s.phase ≠ .unmounted) : on = s.enabled := quiet.resolve_left here
    refine ⟨kept.single,kept.busy,fun here => ?_,fun here timer => ?_,kept.left,kept.data,kept.error⟩
    · rw [same (by rw [here]; decide)]
      exact kept.armed here
    · rw [same (by rw [here]; decide)]
      exact kept.early here timer
  · rename_i alive
    split
    · have sound := refreshDisciplined kept q
      refine ⟨sound.single,sound.busy,fun _ => rfl,fun _ _ => rfl,fun gone => ?_,sound.data,sound.error⟩
      have same : (refresh s q).phase = s.phase := by
        rcases refreshCases kept q with same | ⟨-,same⟩ <;> rw [same]
      exact absurd (same.symm.trans gone) (not_or.mp alive).1
    · exact ⟨kept.single,kept.busy,fun _ => rfl,nofun,fun _ => rfl,kept.data,kept.error⟩

theorem stepDisciplined (s : Poll Q R) (e : Event Q R) (kept : Disciplined s) : Disciplined (step immediate s e) := by
  cases e with
  | mounts q =>
    rw [step]
    split
    · rename_i young
      exact mountedDisciplined kept young q
    · exact kept
  | enables on q => exact watchDisciplined kept on q
  | ticks q =>
    rw [step]
    split
    · exact refreshDisciplined kept q
    · exact kept
  | refreshes q => exact refreshDisciplined kept q
  | settles index outcome =>
    rw [step]
    split
    · rename_i there
      exact settleDisciplined kept there outcome
    · exact kept
  | unmounts =>
    rw [step]
    split
    · exact ⟨kept.single,kept.busy,nofun,nofun,fun _ => rfl,kept.data,kept.error⟩
    · exact kept

theorem refreshAlone (kept : Disciplined s) (q : Q) :
    (refresh s q).running = s.running ∨ (s.running = [] ∧ (refresh s q).running = [q]) := by
  rcases refreshCases kept q with same | ⟨idle,same⟩
  · exact .inl (by rw [same])
  · exact .inr ⟨idle,by rw [same]⟩

theorem stepStarts (s : Poll Q R) (e : Event Q R) (kept : Disciplined s) : StartsAlone immediate s e := by
  have starts {q : Q} {next : List Q} (there : s.phase ≠ .unmounted ∨ Called e) (takes : carried e = some q)
      (grows : next = s.running ∨ next = (refresh s q).running) :
      next = s.running ∨ (∃ index, next = s.running.eraseIdx index) ∨
        (s.running = [] ∧ (s.phase ≠ .unmounted ∨ Called e) ∧ ∃ q, carried e = some q ∧ next = [q]) := by
    rcases grows with same | rfl
    · exact .inl same
    · rcases refreshAlone kept q with same | ⟨idle,same⟩
      · exact .inl same
      · exact .inr (.inr ⟨idle,there,q,takes,same⟩)
  unfold StartsAlone
  cases e with
  | mounts q =>
    by_cases young : s.phase = .setup
    · have there : s.phase ≠ .unmounted := by simp [young]
      refine starts (.inl there) rfl ?_
      cases immediate <;> simp [step,young,onMounted]
    · exact .inl (by rw [step,if_neg young])
  | enables on q =>
    by_cases quiet : s.phase = .unmounted ∨ on = s.enabled
    · exact .inl (by rw [step,watchEnabled,if_pos quiet])
    · refine starts (.inl (not_or.mp quiet).1) rfl ?_
      rw [step,watchEnabled,if_neg quiet]
      cases on
      · exact .inl rfl
      · exact .inr rfl
  | ticks q =>
    by_cases timer : s.timer = true
    · have there : s.phase ≠ .unmounted := by
        intro gone
        rw [kept.left gone] at timer
        cases timer
      refine starts (.inl there) rfl (.inr ?_)
      rw [step,if_pos timer]
    · exact .inl (by rw [step,if_neg timer])
  | refreshes q => exact starts (.inr trivial) rfl (.inr rfl)
  | settles index outcome =>
    by_cases there : index < s.running.length
    · refine .inr (.inl ⟨index,?_⟩)
      rw [step,if_pos there]
      cases outcome <;> rfl
    · exact .inl (by rw [step,if_neg there])
  | unmounts =>
    refine .inl ?_
    rw [step]
    split <;> rfl

theorem runningAfter (kept : Disciplined s) {e : Event Q R} (member : q ∈ (step immediate s e).running) :
    q ∈ s.running ∨ carried e = some q := by
  rcases stepStarts s e kept with same | ⟨index,same⟩ | ⟨-,-,q',takes,same⟩
  · exact .inl (same ▸ member)
  · rw [same] at member
    exact .inl (List.mem_of_mem_eraseIdx member)
  · rw [same,List.mem_singleton] at member
    exact .inr (by rw [takes,member])

/-- At most one task runs at a time; the timer is armed exactly while the component is mounted and its
polling enabled; what is shown is the last value and the last error; a component that has been left
starts no task of itself. -/
theorem pollingOrderly (enabled : Bool) (events : List (Event Q R)) : Orderly immediate enabled events where
  disciplined := fun seen _ => runKeeps stepDisciplined seen (startDisciplined enabled)
  starts := alongAlways stepDisciplined stepStarts (startDisciplined enabled) events

end

end LxiWeb.Polling
