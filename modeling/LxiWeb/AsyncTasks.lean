import LxiWeb.EventRuns

/-! Asynchronous functions on one thread. A function is a tree of the steps between which
nothing else runs; at an `await` it hands over a request and other calls go on. The world
takes a request when it is handed over and answers it at any later time. -/
namespace LxiWeb.AsyncTasks

variable {σ ρ β α γ δ η ω : Type}

/-- `σ` is the memory that the calls share, `ρ` what they await and `β` what an await gives. -/
inductive Async (σ ρ β α : Type) where
  | pure (a : α)
  | read (next : σ → Async σ ρ β α)
  | assign (shared : σ) (next : Async σ ρ β α)
  | await (request : ρ) (next : β → Async σ ρ β α)

namespace Async

protected def bind : Async σ ρ β α → (α → Async σ ρ β γ) → Async σ ρ β γ
  | .pure a, f => f a
  | .read next, f => .read fun s => (next s).bind f
  | .assign s next, f => .assign s (next.bind f)
  | .await r next, f => .await r fun b => (next b).bind f

instance : Monad (Async σ ρ β) where
  pure := .pure
  bind := Async.bind

def get : Async σ ρ β σ := .read .pure

def set (s : σ) : Async σ ρ β Unit := .assign s (.pure ())

def ask (r : ρ) : Async σ ρ β β := .await r .pure

end Async

theorem asyncBindPure (x : Async σ ρ β α) : x.bind .pure = x := by
  induction x with
  | pure a => rfl
  | read next ih => exact congrArg Async.read (funext ih)
  | assign s next ih => exact congrArg (Async.assign s) ih
  | await r next ih => exact congrArg (Async.await r) (funext ih)

theorem asyncBindAssoc (x : Async σ ρ β α) (f : α → Async σ ρ β γ) (g : γ → Async σ ρ β δ) :
    (x.bind f).bind g = x.bind fun a => (f a).bind g := by
  induction x with
  | pure a => rfl
  | read next ih => exact congrArg Async.read (funext ih)
  | assign s next ih => exact congrArg (Async.assign s) ih
  | await r next ih => exact congrArg (Async.await r) (funext ih)

structure World (ρ β δ η ω : Type) where
  take : δ → ρ → δ × η
  answer : ρ → η → ω → Option β

structure Task (σ ρ β α γ η : Type) where
  call : γ
  request : ρ
  receipt : η
  next : β → Async σ ρ β α

structure Pool (σ ρ β α γ δ η : Type) where
  shared : σ
  world : δ
  tasks : List (Task σ ρ β α γ η)
  finished : List (γ × α)

inductive Event (γ ω : Type) where
  | call (c : γ)
  | settle (index : Nat) (outcome : ω)
  deriving DecidableEq, Repr

variable (w : World ρ β δ η ω)

def resume (pool : Pool σ ρ β α γ δ η) (c : γ) : Async σ ρ β α → Pool σ ρ β α γ δ η
  | .pure a => { pool with finished := pool.finished ++ [(c,a)] }
  | .read next => resume pool c (next pool.shared)
  | .assign s next => resume { pool with shared := s } c next
  | .await r next =>
      let taken := w.take pool.world r
      { pool with world := taken.1, tasks := pool.tasks ++ [⟨c,r,taken.2,next⟩] }

def step (program : γ → Async σ ρ β α) (pool : Pool σ ρ β α γ δ η) :
    Event γ ω → Pool σ ρ β α γ δ η
  | .call c => resume w pool c (program c)
  | .settle index outcome =>
      match pool.tasks[index]? with
      | none => pool
      | some t =>
        match w.answer t.request t.receipt outcome with
        | none => pool
        | some b => resume w { pool with tasks := pool.tasks.eraseIdx index } t.call (t.next b)

def start (shared : σ) (world : δ) : Pool σ ρ β α γ δ η := ⟨shared,world,[],[]⟩

end LxiWeb.AsyncTasks
