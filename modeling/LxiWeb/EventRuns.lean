import Mathlib.Data.List.Basic

/-! Runs of an event system. `step` is total: an event the environment cannot
produce in a state leaves that state as it is, so every event list is a run.
`Along` is a condition on each event and on the state that event finds. -/
namespace LxiWeb.EventRuns

variable {S E : Type*} (step : S → E → S)

def run (s : S) (events : List E) : S := events.foldl step s

def Along (ok : S → E → Prop) : S → List E → Prop
  | _, [] => True
  | s, e :: rest => ok s e ∧ Along ok (step s e) rest

instance decideAlong (ok : S → E → Prop) [∀ s e, Decidable (ok s e)] :
    (s : S) → (events : List E) → Decidable (Along step ok s events)
  | _, [] => isTrue trivial
  | s, e :: rest =>
    have : Decidable (Along step ok (step s e) rest) := decideAlong ok (step s e) rest
    inferInstanceAs (Decidable (ok s e ∧ Along step ok (step s e) rest))

/-- `P` holds in the first state of the run and after each of its events. -/
def Throughout (P : S → Prop) (s : S) (events : List E) : Prop :=
  ∀ seen, seen <+: events → P (run step s seen)

variable {step}

@[simp] theorem runNil (s : S) : run step s [] = s := rfl

@[simp] theorem runCons (s : S) (e : E) (rest : List E) :
    run step s (e :: rest) = run step (step s e) rest := rfl

theorem runAppend (s : S) (first last : List E) :
    run step s (first ++ last) = run step (run step s first) last := List.foldl_append

@[simp] theorem alongNil (ok : S → E → Prop) (s : S) : Along step ok s [] := trivial

@[simp] theorem alongCons (ok : S → E → Prop) (s : S) (e : E) (rest : List E) :
    Along step ok s (e :: rest) ↔ ok s e ∧ Along step ok (step s e) rest := Iff.rfl

theorem alongAppend (ok : S → E → Prop) (s : S) (first last : List E) :
    Along step ok s (first ++ last) ↔
      Along step ok s first ∧ Along step ok (run step s first) last := by
  induction first generalizing s with
  | nil => simp
  | cons e rest ih => simp [ih, and_assoc]

theorem alongPrefix {ok : S → E → Prop} {s : S} {seen events : List E}
    (along : Along step ok s events) (early : seen <+: events) : Along step ok s seen := by
  obtain ⟨later, rfl⟩ := early
  exact ((alongAppend ok s seen later).mp along).1

theorem alongMono {ok other : S → E → Prop} (weaker : ∀ s e, ok s e → other s e) {s : S}
    {events : List E} (along : Along step ok s events) : Along step other s events := by
  induction events generalizing s with
  | nil => trivial
  | cons e rest ih => exact ⟨weaker s e along.1,ih along.2⟩

theorem alongBoth {ok other : S → E → Prop} {s : S} {events : List E} (first : Along step ok s events)
    (second : Along step other s events) : Along step (fun s e => ok s e ∧ other s e) s events := by
  induction events generalizing s with
  | nil => trivial
  | cons e rest ih => exact ⟨⟨first.1,second.1⟩,ih first.2 second.2⟩

/-- The invariant rule: what every admitted event keeps, every admitted run keeps. -/
theorem runKeepsAlong {Inv : S → Prop} {ok : S → E → Prop}
    (keep : ∀ s e, Inv s → ok s e → Inv (step s e)) {s : S} {events : List E}
    (start : Inv s) (along : Along step ok s events) : Inv (run step s events) := by
  induction events generalizing s with
  | nil => exact start
  | cons e rest ih => exact ih (keep s e start along.1) along.2

theorem runKeeps {Inv : S → Prop} (keep : ∀ s e, Inv s → Inv (step s e)) {s : S}
    (events : List E) (start : Inv s) : Inv (run step s events) := by
  induction events generalizing s with
  | nil => exact start
  | cons e rest ih => exact ih (keep s e start)

/- What an invariant and the admission of an event give, every event of an admitted run has. -/
theorem alongKept {Inv : S → Prop} {ok good : S → E → Prop}
    (keep : ∀ s e, Inv s → ok s e → Inv (step s e)) (gives : ∀ s e, Inv s → ok s e → good s e)
    {s : S} {events : List E} (start : Inv s) (along : Along step ok s events) :
    Along step good s events := by
  induction events generalizing s with
  | nil => trivial
  | cons e rest ih => exact ⟨gives s e start along.1,ih (keep s e start along.1) along.2⟩

theorem alongAlways {Inv : S → Prop} {good : S → E → Prop} (keep : ∀ s e, Inv s → Inv (step s e))
    (gives : ∀ s e, Inv s → good s e) {s : S} (start : Inv s) (events : List E) :
    Along step good s events := by
  induction events generalizing s with
  | nil => trivial
  | cons e rest ih => exact ⟨gives s e start,ih (keep s e start)⟩

theorem runAlike {other : S → E → S} {Inv : S → Prop} {ok : S → E → Prop}
    (alike : ∀ s e, Inv s → ok s e → other s e = step s e ∧ Inv (step s e)) {s : S}
    {events : List E} (start : Inv s) (along : Along step ok s events) :
    run other s events = run step s events := by
  induction events generalizing s with
  | nil => rfl
  | cons e rest ih =>
    obtain ⟨same,kept⟩ := alike s e start along.1
    rw [runCons,runCons,same]
    exact ih kept along.2

theorem throughoutAlong {Inv : S → Prop} {ok : S → E → Prop}
    (keep : ∀ s e, Inv s → ok s e → Inv (step s e)) {s : S} {events : List E}
    (start : Inv s) (along : Along step ok s events) : Throughout step Inv s events :=
  fun _ early => runKeepsAlong keep start (alongPrefix along early)

theorem Throughout.last {P : S → Prop} {s : S} {events : List E}
    (all : Throughout step P s events) : P (run step s events) := all events (List.prefix_refl _)

theorem Throughout.mono {P Q : S → Prop} {s : S} {events : List E}
    (all : Throughout step P s events) (weaker : ∀ s, P s → Q s) : Throughout step Q s events :=
  fun seen early => weaker _ (all seen early)

/- Conditions on events that agree in every state the invariant allows admit the same runs. -/
theorem alongCongr {Inv : S → Prop} {ok other : S → E → Prop}
    (keep : ∀ s e, Inv s → Inv (step s e)) (agree : ∀ s e, Inv s → (ok s e ↔ other s e))
    {s : S} (start : Inv s) (events : List E) :
    Along step ok s events ↔ Along step other s events := by
  induction events generalizing s with
  | nil => simp
  | cons e rest ih => simp only [alongCons, agree s e start, ih (keep s e start)]

/- A property that an event keeps exactly when `ok` admits it holds at the end of a run exactly
when `ok` admits every event of the run. -/
theorem goodIffAlong {Inv : S → Prop} (Good : S → Prop) {ok : S → E → Prop}
    (keep : ∀ s e, Inv s → Inv (step s e))
    (exact : ∀ s e, Inv s → (Good (step s e) ↔ Good s ∧ ok s e))
    {s : S} (start : Inv s) (good : Good s) (events : List E) :
    Good (run step s events) ↔ Along step ok s events := by
  have general : ∀ s, Inv s → (Good (run step s events) ↔ Good s ∧ Along step ok s events) := by
    induction events with
    | nil => simp
    | cons e rest ih =>
      intro s inv
      simp only [runCons, alongCons, ih (step s e) (keep s e inv), exact s e inv, and_assoc]
  simpa [good] using general s start

theorem throughoutNil {P : S → Prop} {s : S} : Throughout step P s [] ↔ P s := by
  simp [Throughout]

theorem throughoutCons {P : S → Prop} {s : S} {e : E} {rest : List E} :
    Throughout step P s (e :: rest) ↔ P s ∧ Throughout step P (step s e) rest := by
  constructor
  · intro all
    refine ⟨all [] List.nil_prefix,?_⟩
    intro seen early
    exact all (e :: seen) (List.cons_prefix_cons.mpr ⟨rfl,early⟩)
  · rintro ⟨first,later⟩ seen early
    cases seen with
    | nil => exact first
    | cons e' seen =>
      obtain ⟨rfl,inside⟩ := List.cons_prefix_cons.mp early
      exact later seen inside

/- Where the admitted events keep an invariant, and under it an event leads to a good state exactly
when it is admitted, all states of a run are good exactly when all its events are admitted. -/
theorem throughoutIffAlong {Inv Good : S → Prop} {ok : S → E → Prop}
    (keep : ∀ s e, Inv s → ok s e → Inv (step s e))
    (exact : ∀ s e, Inv s → (Good (step s e) ↔ ok s e)) {s : S} (start : Inv s) (good : Good s)
    (events : List E) : Throughout step Good s events ↔ Along step ok s events := by
  induction events generalizing s with
  | nil => simpa [throughoutNil] using good
  | cons e rest ih =>
    rw [throughoutCons,alongCons]
    constructor
    · rintro ⟨_,later⟩
      have next : Good (step s e) := later [] List.nil_prefix
      have admitted := (exact s e start).mp next
      exact ⟨admitted,(ih (keep s e start admitted) next).mp later⟩
    · rintro ⟨admitted,later⟩
      have next := (exact s e start).mpr admitted
      exact ⟨good,(ih (keep s e start admitted) next).mpr later⟩

section
variable {S' E' : Type*} {step' : S' → E' → S'}

variable (step) in
def counterparts (abs : S → E → Option E') : S → List E → List E'
  | _, [] => []
  | s, e :: rest => (abs s e).toList ++ counterparts abs (step s e) rest

/-- Forward simulation: where every admitted event keeps two machines related, with its counterpart on the
other side or with none, every admitted run does. -/
theorem runSimulates {R : S → S' → Prop} {abs : S → E → Option E'} {ok : S → E → Prop} {ok' : S' → E' → Prop}
    (related : ∀ s s' e, R s s' → ok s e → (∀ e' ∈ abs s e, ok' s' e') →
      R (step s e) (run step' s' (abs s e).toList)) {s : S} {s' : S'} {events : List E} (start : R s s')
    (along : Along step ok s events) (along' : Along step' ok' s' (counterparts step abs s events)) :
    R (run step s events) (run step' s' (counterparts step abs s events)) := by
  induction events generalizing s s' with
  | nil => exact start
  | cons e rest ih =>
    rw [counterparts,alongAppend] at along'
    rw [counterparts,runAppend]
    refine ih (related s s' e start along.1 ?_) along.2 along'.2
    intro e' counterpart
    rw [Option.mem_def] at counterpart
    rw [counterpart] at along'
    exact along'.1.1

end

end LxiWeb.EventRuns
