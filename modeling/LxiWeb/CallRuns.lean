import LxiWeb.AsyncTasks

/-! One call run by itself to its end: the outside answers its requests one after the other as it
likes, and nobody else touches the memory. A `Method` may end early with an error. -/
namespace LxiWeb.CallRuns
open AsyncTasks

variable {σ ρ β α γ ε : Type}

structure Ended (σ ρ β α : Type) where
  result : α
  shared : σ
  exchanges : List (ρ × β)

/- `answers` are what the requests get, in the order in which they are made. -/
def played : (answers : Nat → β) → Async σ ρ β α → σ → Ended σ ρ β α
  | _, .pure a, s => ⟨a,s,[]⟩
  | answers, .read next, s => played answers (next s) s
  | answers, .assign s next, _ => played answers next s
  | answers, .await r next, s =>
      let rest := played (fun n => answers (n + 1)) (next (answers 0)) s
      { rest with exchanges := (r,answers 0) :: rest.exchanges }

instance : LawfulMonad (Async σ ρ β) :=
  LawfulMonad.mk' (Async σ ρ β) asyncBindPure (fun _ _ => rfl) asyncBindAssoc

def following (b : β) (answers : Nat → β) : Nat → β
  | 0 => b
  | n + 1 => answers n

abbrev Method (σ ρ β ε α : Type) := ExceptT ε (Async σ ρ β) α

def issue (read : β → Except ε γ) (r : ρ) : Method σ ρ β ε γ :=
  ExceptT.mk (.await r fun b => .pure (read b))

def require (holds : Bool) (e : ε) : Method σ ρ β ε Unit := if holds then pure () else throw e

def load : Method σ ρ β ε σ := ExceptT.lift Async.get

def change (f : σ → σ) : Method σ ρ β ε Unit := ExceptT.mk (.read fun s => .assign (f s) (.pure (.ok ())))

def given (field : Option α) (body : α → Method σ ρ β ε Unit) : Method σ ρ β ε Unit :=
  match field with
  | none => pure ()
  | some a => body a

section
variable {f : γ → Method σ ρ β ε α} {g : Unit → Method σ ρ β ε α} {answers : Nat → β} {s : σ}

theorem playedIssue {read : β → Except ε γ} {r : ρ} :
    played answers (issue read r >>= f).run s =
      let rest := match read (answers 0) with
        | .ok c => played (fun n => answers (n + 1)) (f c).run s
        | .error e => ⟨.error e,s,[]⟩
      { rest with exchanges := (r,answers 0) :: rest.exchanges } := by
  show played answers (Async.await r fun b => (Async.pure (read b)).bind (ExceptT.bindCont f)) s = _
  simp only [played,Async.bind]
  cases read (answers 0) <;> rfl

theorem requireTrue {e : ε} : (require true e >>= g) = g () := rfl

theorem requireFalse {e : ε} : (require false e >>= g) = throw e := rfl

theorem givenNone {body : γ → Method σ ρ β ε Unit} : (given none body >>= g) = g () := rfl

theorem givenSome {body : γ → Method σ ρ β ε Unit} {a : γ} : (given (some a) body >>= g) = (body a >>= g) := rfl
end

section
variable {δ : Type}

structure Left (σ δ α : Type) where
  result : α
  shared : σ
  world : δ

def runAlone (take : δ → ρ → δ × β) : Async σ ρ β α → σ → δ → Left σ δ α
  | .pure a, s, d => ⟨a,s,d⟩
  | .read next, s, d => runAlone take (next s) s d
  | .assign s next, _, d => runAlone take next s d
  | .await r next, s, d => runAlone take (next (take d r).2) s (take d r).1

/- `p` holds of the memory, the world and the request whenever a request is made. -/
def Meets (take : δ → ρ → δ × β) (p : σ → δ → ρ → Prop) : Async σ ρ β α → σ → δ → Prop
  | .pure _, _, _ => True
  | .read next, s, d => Meets take p (next s) s d
  | .assign s next, _, d => Meets take p next s d
  | .await r next, s, d => p s d r ∧ Meets take p (next (take d r).2) s (take d r).1

variable {take : δ → ρ → δ × β} {f : γ → Method σ ρ β ε α} {s : σ} {d : δ}

theorem runAloneBind (x : Async σ ρ β γ) (f : γ → Async σ ρ β α) (s : σ) (d : δ) :
    runAlone take (x.bind f) s d =
      runAlone take (f (runAlone take x s d).result) (runAlone take x s d).shared
        (runAlone take x s d).world := by
  induction x generalizing s d with
  | pure a => rfl
  | read next ih => exact ih s s d
  | assign s' next ih => exact ih s' d
  | await r next ih => exact ih _ s _

theorem runMethodBind (m : Method σ ρ β ε γ) :
    runAlone take (m >>= f).run s d =
      match runAlone take m.run s d with
      | ⟨.ok c,s,d⟩ => runAlone take (f c).run s d
      | ⟨.error e,s,d⟩ => ⟨.error e,s,d⟩ := by
  show runAlone take (Async.bind m.run (ExceptT.bindCont f)) s d = _
  rw [runAloneBind]
  cases runAlone take m.run s d with
  | mk result s d => cases result <;> rfl

theorem runIssue {read : β → Except ε γ} {r : ρ} :
    runAlone take (issue read r >>= f).run s d =
      match read (take d r).2 with
      | .ok c => runAlone take (f c).run s (take d r).1
      | .error e => ⟨.error e,s,(take d r).1⟩ := by
  show runAlone take (Async.await r fun b => (Async.pure (read b)).bind (ExceptT.bindCont f)) s d = _
  simp only [runAlone,Async.bind]
  cases read (take d r).2 <;> rfl

theorem meetsAsyncBind {p : σ → δ → ρ → Prop} (x : Async σ ρ β γ) (f : γ → Async σ ρ β α) (s : σ) (d : δ) :
    Meets take p (x.bind f) s d ↔ Meets take p x s d ∧
      Meets take p (f (runAlone take x s d).result) (runAlone take x s d).shared (runAlone take x s d).world := by
  induction x generalizing s d with
  | pure a => simp [Meets,runAlone,Async.bind]
  | read next ih => exact ih s s d
  | assign s' next ih => exact ih s' d
  | await r next ih => exact (and_congr_right fun _ => ih _ s _).trans and_assoc.symm

theorem meetsBind {p : σ → δ → ρ → Prop} {m : Method σ ρ β ε γ} :
    Meets take p (m >>= f).run s d ↔ Meets take p m.run s d ∧
      match runAlone take m.run s d with
      | ⟨.ok c,s,d⟩ => Meets take p (f c).run s d
      | ⟨.error _,_,_⟩ => True := by
  refine (meetsAsyncBind m.run (ExceptT.bindCont f) s d).trans (and_congr_right fun _ => ?_)
  cases runAlone take m.run s d with
  | mk result s d => cases result <;> rfl

section
variable {ν : Type} {view : δ → ν}

def Ends (take : δ → ρ → δ × β) (view : δ → ν) (m : Method σ ρ β ε α) (s : σ) (v : ν)
    (post : Except ε α → σ → ν → Prop) : Prop :=
  ∀ d, view d = v → post (runAlone take m.run s d).result (runAlone take m.run s d).shared
    (view (runAlone take m.run s d).world)

variable {v : ν} {m : Method σ ρ β ε γ} {post : Except ε α → σ → ν → Prop}

theorem endsReturn {a : α} (holds : post (.ok a) s v) : Ends take view (pure a) s v post := by
  intro d same
  cases same
  exact holds

theorem endsThrow {e : ε} (holds : post (.error e) s v) : Ends take view (throw e) s v post := by
  intro d same
  cases same
  exact holds

theorem endsBind (first : Ends take view m s v fun result s v => match result with
      | .ok c => Ends take view (f c) s v post
      | .error e => post (.error e) s v) : Ends take view (m >>= f) s v post := by
  intro d same
  have ended := first d same
  rw [runMethodBind]
  cases left : runAlone take m.run s d with
  | mk result s' d' =>
    rw [left] at ended
    cases result with
    | ok c => exact ended d' rfl
    | error e => exact ended

theorem endsMono {strong : Except ε γ → σ → ν → Prop} {post : Except ε γ → σ → ν → Prop}
    (ends : Ends take view m s v strong)
    (weaker : ∀ result s v, strong result s v → post result s v) : Ends take view m s v post :=
  fun d same => weaker _ _ _ (ends d same)

theorem endsIssue {read : β → Except ε γ} {r : ρ}
    (rest : ∀ d, view d = v → match read (take d r).2 with
      | .ok c => Ends take view (f c) s (view (take d r).1) post
      | .error e => post (.error e) s (view (take d r).1)) :
    Ends take view (issue read r >>= f) s v post := by
  intro d same
  have ended := rest d same
  rw [runIssue]
  cases outcome : read (take d r).2 with
  | ok c =>
    rw [outcome] at ended
    exact ended _ rfl
  | error e =>
    rw [outcome] at ended
    exact ended

theorem endsLast {post : Except ε γ → σ → ν → Prop} (ends : Ends take view (m >>= pure) s v post) :
    Ends take view m s v post := by
  rwa [bind_pure] at ends

theorem endsChange {g : σ → σ} {f : Unit → Method σ ρ β ε α}
    (rest : Ends take view (f ()) (g s) v post) : Ends take view (change g >>= f) s v post := rest

theorem endsLastChange {g : σ → σ} {post : Except ε Unit → σ → ν → Prop}
    (holds : post (.ok ()) (g s) v) : Ends take view (change g) s v post := endsLast (endsChange (endsReturn holds))

theorem endsLoad {f : σ → Method σ ρ β ε α} (rest : Ends take view (f s) s v post) :
    Ends take view (load >>= f) s v post := rest

end

end

def order (failed : ε) (r : ρ) : Method σ ρ Bool ε Unit :=
  issue (fun taken => if taken then .ok () else .error failed) r

section
variable (refusal : ε → Prop)

def Harmless (e : ε) : Prop := ¬ refusal e

def Accepts (m : Method Unit ρ Bool ε α) : Prop :=
  ∀ taken e, (played taken m.run ()).result = .error e → Harmless refusal e

def RefusesFirst (m : Method Unit ρ Bool ε α) : Prop :=
  ∀ taken e, (played taken m.run ()).result = .error e → refusal e →
    (played taken m.run ()).exchanges = []
end

section
variable {refusal : ε → Prop} {e failed : ε} {r : ρ} {holds : Bool} {m : Method Unit ρ Bool ε α}
  {g : Unit → Method Unit ρ Bool ε α} {field : Option γ} {text : γ → ρ}

@[simp] theorem acceptsReturn (a : α) : Accepts refusal (pure a : Method Unit ρ Bool ε α) := by
  intro taken e ended
  cases ended

@[simp] theorem acceptsThrow :
    Accepts refusal (throw e : Method Unit ρ Bool ε α) ↔ Harmless refusal e := by
  constructor
  · intro accepts
    exact accepts (fun _ => true) e rfl
  · intro harmless taken e' ended
    cases ended
    exact harmless

@[simp] theorem acceptsRequire :
    Accepts refusal (require holds e >>= g) ↔
      if holds then Accepts refusal (g ()) else Harmless refusal e := by
  cases holds with
  | false => simp [requireFalse]
  | true => simp [requireTrue]

@[simp] theorem acceptsLastRequire :
    Accepts refusal (require holds e : Method Unit ρ Bool ε Unit) ↔
      (holds = false → Harmless refusal e) := by
  have ended : Accepts refusal (require holds e >>= pure : Method Unit ρ Bool ε Unit) ↔ _ :=
    acceptsRequire
  rw [bind_pure] at ended
  simpa using ended

theorem refusesFirstOfAccepts (accepts : Accepts refusal m) : RefusesFirst refusal m := by
  intro taken e ended refused
  exact absurd refused (accepts taken e ended)

@[simp] theorem refusesFirstReturn (a : α) :
    RefusesFirst refusal (pure a : Method Unit ρ Bool ε α) :=
  refusesFirstOfAccepts (acceptsReturn a)

@[simp] theorem refusesFirstThrow : RefusesFirst refusal (throw e : Method Unit ρ Bool ε α) :=
  fun _ _ _ _ => rfl

@[simp] theorem refusesFirstRequire :
    RefusesFirst refusal (require holds e >>= g) ↔ (holds = true → RefusesFirst refusal (g ())) := by
  cases holds with
  | false => simp [requireFalse]
  | true => simp [requireTrue]

@[simp] theorem refusesFirstLastRequire :
    RefusesFirst refusal (require holds e : Method Unit ρ Bool ε Unit) := by
  have ended : RefusesFirst refusal (require holds e >>= pure : Method Unit ρ Bool ε Unit) :=
    refusesFirstRequire.mpr fun _ => refusesFirstReturn ()
  rwa [bind_pure] at ended

theorem playedOrder (taken : Nat → Bool) :
    played taken (order failed r >>= g).run () =
      let rest := if taken 0 then played (fun n => taken (n + 1)) (g ()).run () else ⟨.error failed,(),[]⟩
      { rest with exchanges := (r,taken 0) :: rest.exchanges } := by
  rw [order,playedIssue]
  cases taken 0 <;> rfl

@[simp] theorem acceptsOrder (harmless : Harmless refusal failed) :
    Accepts refusal (order failed r >>= g) ↔ Accepts refusal (g ()) := by
  constructor
  · intro accepts taken e ended
    refine accepts (following true taken) e ?_
    rw [playedOrder]
    exact ended
  · intro accepts taken e ended
    rw [playedOrder] at ended
    cases outcome : taken 0 with
    | true => exact accepts (fun n => taken (n + 1)) e (by simpa [outcome] using ended)
    | false =>
      rw [outcome] at ended
      cases ended
      exact harmless

@[simp] theorem acceptsLastOrder (harmless : Harmless refusal failed) :
    Accepts refusal (order failed r : Method Unit ρ Bool ε Unit) := by
  have ended : Accepts refusal (order failed r >>= pure : Method Unit ρ Bool ε Unit) :=
    (acceptsOrder harmless).mpr (acceptsReturn ())
  rwa [bind_pure] at ended

@[simp] theorem acceptsGivenOrder (harmless : Harmless refusal failed) :
    Accepts refusal (given field (fun a => order failed (text a)) >>= g) ↔ Accepts refusal (g ()) := by
  cases field with
  | none => rw [givenNone]
  | some a => rw [givenSome,acceptsOrder harmless]

@[simp] theorem acceptsLastGivenOrder (harmless : Harmless refusal failed) :
    Accepts refusal (given field fun a => order failed (text a) : Method Unit ρ Bool ε Unit) := by
  cases field with
  | none => exact acceptsReturn ()
  | some a => exact acceptsLastOrder harmless

@[simp] theorem refusesFirstOrder (harmless : Harmless refusal failed) :
    RefusesFirst refusal (order failed r >>= g) ↔ Accepts refusal (g ()) := by
  constructor
  · intro first
    rw [← acceptsOrder (r := r) harmless]
    intro taken e ended refused
    have unordered := first taken e ended refused
    rw [playedOrder] at unordered
    cases unordered
  · intro accepts
    exact refusesFirstOfAccepts ((acceptsOrder harmless).mpr accepts)

@[simp] theorem refusesFirstLastOrder (harmless : Harmless refusal failed) :
    RefusesFirst refusal (order failed r : Method Unit ρ Bool ε Unit) :=
  refusesFirstOfAccepts (acceptsLastOrder harmless)

end

end LxiWeb.CallRuns
