import Mathlib.Data.List.Forall2
import LxiWeb.CallRuns
import LxiWeb.StoredSettings

/-! Pools of asynchronous calls. A pool whose outside stands for another one takes the same steps as the
pool over that one; and where each call waits for the one before, the calls go as they go alone. -/
namespace LxiWeb.TaskSimulations
open AsyncTasks CallRuns EventRuns
open StoredSettings (returned)

variable {σ ρ β α γ δ η ω δ' η' ω' : Type}

/- `p` holds of the memory, of the outside and of the request when the call next makes one. -/
def NextMeets (p : σ → δ → ρ → Prop) : Async σ ρ β α → σ → δ → Prop
  | .pure _, _, _ => True
  | .read next, s, d => NextMeets p (next s) s d
  | .assign s next, _, d => NextMeets p next s d
  | .await r _, s, d => p s d r

def Makes (w : World ρ β δ η ω) (program : γ → Async σ ρ β α) (p : σ → δ → ρ → Prop) (pool : Pool σ ρ β α γ δ η) :
    Event γ ω → Prop
  | .call c => NextMeets p (program c) pool.shared pool.world
  | .settle index outcome => ∀ t b, pool.tasks[index]? = some t → w.answer t.request t.receipt outcome = some b →
      NextMeets p (t.next b) pool.shared pool.world

/- `w` stands for `w'` while `R` relates them and `Kept` relates what they remember of a request, as far as
the requests meet `p`. -/
structure Stands (w : World ρ β δ η ω) (w' : World ρ β δ' η' ω') (p : δ' → ρ → Prop) (R : δ → δ' → Prop)
    (Kept : δ → ρ → η → η' → Prop) : Prop where
  takes : ∀ d d' r, R d d' → p d' r →
    R (w.take d r).1 (w'.take d' r).1 ∧ Kept (w.take d r).1 r (w.take d r).2 (w'.take d' r).2
  keeps : ∀ d d' r, R d d' → p d' r → ∀ r' h h', Kept d r' h h' → Kept (w.take d r).1 r' h h'

structure SameTask (Kept : ρ → η → η' → Prop) (t : Task σ ρ β α γ η) (t' : Task σ ρ β α γ η') : Prop where
  call : t.call = t'.call
  request : t.request = t'.request
  receipt : Kept t.request t.receipt t'.receipt
  next : t.next = t'.next

structure SamePool (R : δ → δ' → Prop) (Kept : δ → ρ → η → η' → Prop) (pool : Pool σ ρ β α γ δ η)
    (pool' : Pool σ ρ β α γ δ' η') : Prop where
  shared : pool.shared = pool'.shared
  world : R pool.world pool'.world
  tasks : List.Forall₂ (SameTask (Kept pool.world)) pool.tasks pool'.tasks
  finished : pool.finished = pool'.finished

section
variable {w : World ρ β δ η ω} {w' : World ρ β δ' η' ω'} {p : δ' → ρ → Prop} {R : δ → δ' → Prop}
  {Kept : δ → ρ → η → η' → Prop} {pool : Pool σ ρ β α γ δ η} {pool' : Pool σ ρ β α γ δ' η'}
  {program : γ → Async σ ρ β α}

theorem resumeSame (stands : Stands w w' p R Kept) (same : SamePool R Kept pool pool') (c : γ) (x : Async σ ρ β α)
    (meets : NextMeets (fun _ => p) x pool'.shared pool'.world) :
    SamePool R Kept (resume w pool c x) (resume w' pool' c x) := by
  induction x generalizing pool pool' with
  | pure a => exact { same with finished := by simp only [resume,same.finished] }
  | read next ih =>
    rw [resume,resume,same.shared]
    exact ih _ same meets
  | assign s next ih => exact ih { same with shared := rfl } meets
  | await r next ih =>
    obtain ⟨world,kept⟩ := stands.takes _ _ r same.world meets
    have old := same.tasks.imp fun t t' (same_ : SameTask _ t t') =>
      { same_ with receipt := stands.keeps _ _ r same.world meets _ _ _ same_.receipt }
    exact {
      shared := same.shared
      world
      tasks := List.rel_append old (.cons ⟨rfl,rfl,kept,rfl⟩ .nil)
      finished := same.finished }

theorem callSame (stands : Stands w w' p R Kept) (same : SamePool R Kept pool pool') (c : γ)
    (makes : Makes w' program (fun _ => p) pool' (.call c)) :
    SamePool R Kept (step w program pool (.call c)) (step w' program pool' (.call c)) :=
  resumeSame stands same c _ makes

theorem settleSame (stands : Stands w w' p R Kept) (same : SamePool R Kept pool pool') {index : Nat} {outcome : ω}
    {outcome' : ω'} (alike : ∀ r h h' b, Kept pool.world r h h' → w.answer r h outcome = some b →
      w'.answer r h' outcome' = some b) {t : Task σ ρ β α γ η} {b : β} (found : pool.tasks[index]? = some t)
    (answered : w.answer t.request t.receipt outcome = some b)
    (makes : Makes w' program (fun _ => p) pool' (.settle index outcome')) :
    SamePool R Kept (step w program pool (.settle index outcome)) (step w' program pool' (.settle index outcome')) := by
  obtain ⟨t',found',one⟩ : ∃ t', pool'.tasks[index]? = some t' ∧ SameTask (Kept pool.world) t t' := by
    obtain ⟨inside,rfl⟩ := List.getElem?_eq_some_iff.mp found
    have inside' : index < pool'.tasks.length := same.tasks.length_eq ▸ inside
    exact ⟨pool'.tasks[index],List.getElem?_eq_getElem inside',same.tasks.get inside inside'⟩
  have answered' := alike _ _ _ _ one.receipt answered
  rw [one.request] at answered'
  have others : List.Forall₂ (SameTask (Kept pool.world)) (pool.tasks.eraseIdx index) (pool'.tasks.eraseIdx index) := by
    rw [List.eraseIdx_eq_take_drop_succ,List.eraseIdx_eq_take_drop_succ]
    exact List.rel_append (List.forall₂_take _ same.tasks) (List.forall₂_drop _ same.tasks)
  have left : SamePool R Kept { pool with tasks := pool.tasks.eraseIdx index }
      { pool' with tasks := pool'.tasks.eraseIdx index } := { same with tasks := others }
  simp only [step,found,answered,found',answered']
  rw [one.call,one.next]
  exact resumeSame stands left _ _ (makes t' b found' answered')

end

def calledSoFar (pool : Pool σ ρ β α γ δ η) : List γ := pool.finished.map Prod.fst ++ pool.tasks.map Task.call

section
variable {w : World ρ β δ η ω} {pool : Pool σ ρ β α γ δ η}

theorem resumeCalled (free : pool.tasks = []) (c : γ) (x : Async σ ρ β α) :
    calledSoFar (resume w pool c x) = calledSoFar pool ++ [c] ∧ (resume w pool c x).tasks.length ≤ 1 := by
  induction x generalizing pool with
  | pure a => simp [resume,calledSoFar,free]
  | read next ih => exact ih _ free
  | assign s next ih => exact @ih { pool with shared := s } free
  | await r next ih => simp [resume,calledSoFar,free]

theorem settleCalled {program : γ → Async σ ρ β α} (one : pool.tasks.length ≤ 1) (index : Nat) (outcome : ω) :
    calledSoFar (step w program pool (.settle index outcome)) = calledSoFar pool ∧
      (step w program pool (.settle index outcome)).tasks.length ≤ 1 := by
  cases found : pool.tasks[index]? with
  | none => simpa [step,found] using one
  | some t =>
    cases answered : w.answer t.request t.receipt outcome with
    | none => simpa [step,found,answered] using one
    | some b =>
      obtain ⟨inside,own⟩ := List.getElem?_eq_some_iff.mp found
      obtain rfl : index = 0 := by omega
      obtain ⟨t',only⟩ := List.length_eq_one_iff.mp (by omega : pool.tasks.length = 1)
      obtain rfl : t' = t := by simpa [only] using own
      obtain ⟨called,still⟩ := @resumeCalled _ _ _ _ _ _ _ _ w { pool with tasks := pool.tasks.eraseIdx 0 }
        (by simp [only]) t'.call (t'.next b)
      simp only [step,found,answered]
      refine ⟨called.trans ?_,still⟩
      simp [calledSoFar,only]

end

def atOnce (take : δ → ρ → δ × β) : World ρ β δ β Unit := ⟨take,fun _ answered _ => some answered⟩

section
variable {G : Type} (take : δ → ρ → δ × β) (p : δ → ρ → Prop) (Shows : σ → δ → G → Prop)

/- Run alone, the code makes only requests that meet `p`, and leaves what `target` says. -/
structure Performs (x : Async σ ρ β α) (s : σ) (d : δ) (target : G × α) : Prop where
  meets : Meets take (fun _ => p) x s d
  result : (runAlone take x s d).result = target.2
  leaves : Shows (runAlone take x s d).shared (runAlone take x s d).world target.1

variable (spec : G → γ → G × α) (first : G)

def afterCalls (calls : List γ) : G := calls.foldl (fun g c => (spec g c).1) first

structure InTurn (pool : Pool σ ρ β α γ δ β) : Prop where
  returned : pool.finished.map Prod.snd = returned spec first (pool.finished.map Prod.fst)
  running : (pool.tasks = [] ∧ Shows pool.shared pool.world (afterCalls spec first (pool.finished.map Prod.fst))) ∨
    ∃ t, pool.tasks = [t] ∧ Performs take p Shows (t.next t.receipt) pool.shared pool.world
      (spec (afterCalls spec first (pool.finished.map Prod.fst)) t.call)

variable {take p Shows spec first} {pool : Pool σ ρ β α γ δ β} {program : γ → Async σ ρ β α}

theorem returnedSnoc (g : G) (calls : List γ) (c : γ) :
    returned spec g (calls ++ [c]) = returned spec g calls ++ [(spec (afterCalls spec g calls) c).2] := by
  induction calls generalizing g with
  | nil => rfl
  | cons first rest ih => exact congrArg (_ :: ·) (ih _)

theorem resumeInTurn {c : γ} {x : Async σ ρ β α} (free : pool.tasks = [])
    (so : pool.finished.map Prod.snd = returned spec first (pool.finished.map Prod.fst))
    (performs : Performs take p Shows x pool.shared pool.world
      (spec (afterCalls spec first (pool.finished.map Prod.fst)) c)) :
    NextMeets (fun _ => p) x pool.shared pool.world ∧
      InTurn take p Shows spec first (resume (atOnce take) pool c x) := by
  induction x generalizing pool with
  | pure a =>
    refine ⟨trivial,?_,.inl ⟨free,?_⟩⟩
    · obtain rfl : a = _ := performs.result
      simp only [resume,List.map_append,List.map_singleton,returnedSnoc,so]
    · simpa [resume,afterCalls,runAlone] using performs.leaves
  | read next ih => exact ih _ free so ⟨performs.meets,performs.result,performs.leaves⟩
  | assign s next ih =>
    exact @ih { pool with shared := s } free so ⟨performs.meets,performs.result,performs.leaves⟩
  | await r next ih =>
    refine ⟨performs.meets.1,so,.inr ⟨⟨c,r,(take pool.world r).2,next⟩,by simp [resume,free,atOnce],?_⟩⟩
    exact ⟨performs.meets.2,performs.result,performs.leaves⟩

theorem callInTurn (performs : ∀ s d g c, Shows s d g → Performs take p Shows (program c) s d (spec g c))
    (turn : InTurn take p Shows spec first pool) (free : pool.tasks = []) (c : γ) :
    Makes (atOnce take) program (fun _ => p) pool (.call c) ∧
      InTurn take p Shows spec first (step (atOnce take) program pool (.call c)) := by
  have shows_ := turn.running.resolve_right (fun ⟨t,one,_⟩ => by simp [one] at free)
  exact resumeInTurn free turn.returned (performs _ _ _ c shows_.2)

theorem settleInTurn (turn : InTurn take p Shows spec first pool) (index : Nat) :
    Makes (atOnce take) program (fun _ => p) pool (.settle index ()) ∧
      InTurn take p Shows spec first (step (atOnce take) program pool (.settle index ())) := by
  cases found : pool.tasks[index]? with
  | none => exact ⟨fun t b found' => by simp [found] at found',by simpa [step,found] using turn⟩
  | some t =>
    obtain ⟨t',one,performs⟩ := turn.running.resolve_left fun free => by simp [free.1] at found
    obtain ⟨rfl,rfl⟩ : index = 0 ∧ t' = t := by simpa [one,List.getElem?_singleton] using found
    have next := @resumeInTurn _ _ _ _ _ _ _ take p Shows spec first { pool with tasks := pool.tasks.eraseIdx 0 }
      t'.call (t'.next t'.receipt) (by simp [one]) turn.returned performs
    refine ⟨fun t b found' answered => ?_,?_⟩
    · obtain rfl := Option.some.inj (found.symm.trans found')
      obtain rfl := Option.some.inj answered
      exact next.1
    · simpa only [step,found,atOnce] using next.2

end

end LxiWeb.TaskSimulations
