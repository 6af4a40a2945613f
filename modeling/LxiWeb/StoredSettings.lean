import Mathlib.Logic.Function.Basic
import LxiWeb.KeyedWrites

/-! A device that keeps a value under each key, and the settings of any types that these values stand for;
two machines that answer every run of calls alike. -/
namespace LxiWeb.StoredSettings
open KeyedWrites

structure Encoding (S K T : Type) where
  Value : S → Type
  key : S → K
  Holds : (s : S) → Option T → Value s → Prop
  apart : Function.Injective key

section
variable {S K T : Type} (e : Encoding S K T)

def Encoding.Shows (t : Table K T) (settings : ∀ s, e.Value s) : Prop := ∀ s, e.Holds s (t (e.key s)) (settings s)

variable {e} [DecidableEq K] {t : Table K T} {settings : ∀ s, e.Value s}

theorem showsStore [DecidableEq S] (shows_ : e.Shows t settings) {s : S} {v : Option T} {a : e.Value s}
    (holds : e.Holds s v a) : e.Shows (write t (entry (e.key s) v)) (Function.update settings s a) := by
  intro other
  by_cases same : other = s
  · subst same
    rwa [Function.update_self,writeSame]
  · rw [Function.update_of_ne same,writeOther (e.apart.ne same)]
    exact shows_ other

end

section
variable {A B C R : Type} {step : A → C → A × R} {spec : B → C → B × R} {Shows : A → B → Prop}

variable (step) in
def returned : A → List C → List R
  | _, [] => []
  | a, c :: rest => (step a c).2 :: returned (step a c).1 rest

/-- Where one call keeps two machines together and returns the same of both, every run does. -/
theorem returnedAlike
    (alike : ∀ a b c, Shows a b → (step a c).2 = (spec b c).2 ∧ Shows (step a c).1 (spec b c).1) {a : A} {b : B}
    (shows_ : Shows a b) (calls : List C) : returned step a calls = returned spec b calls := by
  induction calls generalizing a b with
  | nil => rfl
  | cons c rest ih =>
    obtain ⟨same,next⟩ := alike a b c shows_
    rw [returned,returned,same,ih next]

end

end LxiWeb.StoredSettings
