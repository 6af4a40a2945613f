import LxiWeb.AsyncTasks

/-! Calls that share a device with one selection. A command with a target is meant for the
selection its caller named, yet the device applies it to whatever is selected when the command
arrives. The rules below follow what a call may rely on: `Safe` is a weakest precondition over
the selection the call holds. -/
namespace LxiWeb.SelectThenAct
open EventRuns AsyncTasks

variable {κ ε τ α β γ : Type}

structure Command (κ : Type) where
  target : Option κ
  text : String
  deriving DecidableEq, Repr

inductive Request (κ : Type) where
  | select (target : κ) (text : String)
  | batch (commands : List (Command κ))
  deriving DecidableEq, Repr

structure Reading (κ τ : Type) where
  source : Option κ
  value : τ
  deriving DecidableEq, Repr

abbrev Answer (κ ε τ : Type) := List (Except ε (Reading κ τ))

structure Executed (κ : Type) where
  command : Command κ
  selected : Option κ
  deriving DecidableEq, Repr

structure Device (κ : Type) where
  selected : Option κ
  log : List (Executed κ)
  deriving DecidableEq, Repr

def execute (d : Device κ) : Request κ → Device κ × Option κ
  | .select c text => (⟨some c,d.log ++ [⟨⟨none,text⟩,d.selected⟩]⟩,some c)
  | .batch commands => ({ d with log := d.log ++ commands.map (⟨·,d.selected⟩) },d.selected)

def Request.size : Request κ → Nat
  | .select _ _ => 1
  | .batch commands => commands.length

/-- Every command is answered or fails, at whatever time and with whatever text. -/
def reply (r : Request κ) (source : Option κ) (outcomes : List (Except ε τ)) :
    Option (Answer κ ε τ) :=
  if outcomes.length = r.size then some (outcomes.map (·.map (⟨source,·⟩))) else none

def port : World (Request κ) (Answer κ ε τ) (Device κ) (Option κ) (List (Except ε τ)) :=
  ⟨execute,reply⟩

abbrev Call (κ ε τ α : Type) := Async (Option κ) (Request κ) (Answer κ ε τ) α

abbrev Calls (κ ε τ α γ : Type) :=
  Pool (Option κ) (Request κ) (Answer κ ε τ) α γ (Device κ) (Option κ)

abbrev Waiting (κ ε τ α γ : Type) :=
  Task (Option κ) (Request κ) (Answer κ ε τ) α γ (Option κ)

abbrev Method (κ ε τ α : Type) := ExceptT ε (Async (Option κ) (Request κ) (Answer κ ε τ)) α

def issue (r : Request κ) : Method κ ε τ (Answer κ ε τ) := ExceptT.lift (Async.ask r)

def checked (b : Answer κ ε τ) : Method κ ε τ Unit :=
  ExceptT.mk (.pure (b.forM fun outcome => outcome.map fun _ => ()))

def writeSelect (c : κ) (text : String) : Method κ ε τ Unit := do
  let b ← issue (.select c text)
  checked b

def write (target : Option κ) (text : String) : Method κ ε τ Unit := do
  let b ← issue (.batch [⟨target,text⟩])
  checked b

/-- A batch of queries; one marked `true` reads a failure as no reply, the others fail the call. -/
def readAll (target : Option κ) (asked : List (String × Bool)) :
    Method κ ε τ (List (Option (Reading κ τ))) := do
  let b ← issue (.batch (asked.map (⟨target,·.1⟩)))
  ExceptT.mk (.pure ((asked.zip b).mapM fun
    | ((_,true),outcome) => pure outcome.toOption
    | ((_,false),outcome) => outcome.map some))

def lastSelected : Method κ ε τ (Option κ) := ExceptT.lift Async.get

def keepSelected (c : κ) : Method κ ε τ Unit := ExceptT.lift (Async.set (some c))

/-- The caller of an asynchronous method goes on in a later turn than the method ends in. -/
def call (method : Method κ ε τ α) : Method κ ε τ α :=
  ExceptT.mk (method.run >>= fun result => .await (.batch []) fun _ => .pure result)

def OnTarget (log : List (Executed κ)) : Prop :=
  ∀ e ∈ log, ∀ c, e.command.target = some c → e.selected = some c

def Answered (commands : List (Command κ)) (b : Answer κ ε τ) : Prop :=
  b.length = commands.length ∧
  ∀ reading, .ok reading ∈ b → ∀ command ∈ commands, ∀ c, command.target = some c →
    reading.source = some c

/- What is left of a call still relies on the selection `c`, without selecting anew. -/
def Needs (c : κ) : Call κ ε τ α → Prop
  | .pure _ => False
  | .read _ => False
  | .assign s next => s = some c ∨ Needs c next
  | .await (.select _ _) _ => False
  | .await (.batch commands) next =>
      (∃ command ∈ commands, command.target = some c) ∨
      ∃ b, Answered commands b ∧ Needs c (next b)

theorem lastNeedsNothing (heard : Except ε β) (result : β → α) (c : κ) :
    ¬ Needs c (do let b ← ExceptT.mk (.pure heard); pure (result b) : Method κ ε τ α).run := by
  cases heard <;> exact id

def InSection (c : κ) (t : Waiting κ ε τ α γ) : Prop :=
  match t.request with
  | .select other _ => other = c
  | .batch commands => ∃ b, Answered commands b ∧ Needs c (t.next b)

/- The calls that are between a selection and the last command that relies on it all named the
same one. -/
def Exclusive (pool : Calls κ ε τ α γ) : Prop :=
  pool.tasks.Pairwise fun t t' => ∀ c c', InSection c t → InSection c' t' → c = c'

/- `seen` is a selection read from the cache, `unsaved` one the device accepted and the cache
does not hold yet. -/
inductive Hold (κ : Type) where
  | nothing
  | seen (c : κ)
  | unsaved (c : κ)
  | held (c : κ)

/- `cached`: calls keep the last selection and skip selecting it again. `pinned`: the one
selection the device can have, when it has only one. -/
structure Discipline (κ : Type) where
  cached : Bool
  pinned : Option κ

def Hold.rested : Hold κ → Hold κ
  | .seen c => .held c
  | h => h

def Hold.saved : Hold κ → Prop
  | .unsaved _ => False
  | _ => True

def Hold.of (c : κ) (h : Hold κ) : Prop := h = .seen c ∨ h = .unsaved c ∨ h = .held c

def Hold.cachedIn : Option κ → Hold κ
  | none => .nothing
  | some c => .seen c

def Discipline.gained (D : Discipline κ) (c : κ) : Hold κ :=
  if D.cached then .unsaved c else .held c

def Discipline.mayAct (D : Discipline κ) (h : Hold κ) (c : κ) : Prop :=
  h = .held c ∨ D.pinned = some c

def Discipline.maySave (D : Discipline κ) (h : Hold κ) (c : κ) : Prop :=
  h = .unsaved c ∨ D.mayAct h c

def accepted (b : Answer κ ε τ) : Prop := ∀ outcome ∈ b, ∃ reading, outcome = .ok reading

def Safe (D : Discipline κ) : Call κ ε τ α → Hold κ → (Hold κ → α → Prop) → Prop
  | .pure a, h, post => post h a
  | .read next, h, post =>
      D.cached = true ∧ h.saved ∧ ∀ cache, Safe D (next cache) (.cachedIn cache) post
  | .assign s next, h, post =>
      ∃ c, s = some c ∧ D.maySave h c ∧ Safe D next (.held c) post
  | .await (.select c _) next, h, post =>
      h.saved ∧ (∀ only, D.pinned = some only → c = only) ∧ ∀ b : Answer κ ε τ,
        (accepted b → Safe D (next b) (D.gained c) post) ∧
        (¬ accepted b → Safe D (next b) .nothing post)
  | .await (.batch commands) next, h, post =>
      h.saved ∧ (∀ command ∈ commands, ∀ c, command.target = some c → D.mayAct h c) ∧
      ∀ b, Answered commands b → Safe D (next b) h.rested post

theorem safeThen {D : Discipline κ} {p : Call κ ε τ α} {f : α → Call κ ε τ γ} {h : Hold κ}
    {first : Hold κ → α → Prop} {post : Hold κ → γ → Prop} (safe : Safe D p h first)
    (goesOn : ∀ h a, first h a → Safe D (f a) h post) : Safe D (p >>= f) h post := by
  induction p generalizing h with
  | pure a => exact goesOn h a safe
  | read next ih => exact ⟨safe.1,safe.2.1,fun cache => ih cache (safe.2.2 cache)⟩
  | assign s next ih =>
    obtain ⟨c,same,may,rest⟩ := safe
    exact ⟨c,same,may,ih rest⟩
  | await r next ih =>
    cases r with
    | select c text =>
      exact ⟨safe.1,safe.2.1,fun b => ⟨fun ok => ih b ((safe.2.2 b).1 ok),
        fun failed => ih b ((safe.2.2 b).2 failed)⟩⟩
    | batch commands => exact ⟨safe.1,safe.2.1,fun b given => ih b (safe.2.2 b given)⟩

theorem safeMono {D : Discipline κ} {p : Call κ ε τ α} {h : Hold κ} {post weaker : Hold κ → α → Prop}
    (safe : Safe D p h post) (implies : ∀ h a, post h a → weaker h a) : Safe D p h weaker := by
  have ends : Safe D (p >>= pure) h weaker := safeThen safe implies
  rwa [show p >>= pure = p from asyncBindPure p] at ends

theorem safeExceptBind {D : Discipline κ} {m : Method κ ε τ α} {f : α → Method κ ε τ β} {h : Hold κ}
    {post : Hold κ → Except ε β → Prop}
    (safe : Safe D m.run h fun h result => match result with
      | .ok a => Safe D (f a).run h post
      | .error err => post h (.error err)) : Safe D (m >>= f).run h post := by
  refine safeThen (p := m.run) safe fun h result next => ?_
  cases result <;> exact next

theorem safeTry {D : Discipline κ} {m : Method κ ε τ α} {handle : ε → Method κ ε τ α} {h : Hold κ}
    {post : Hold κ → Except ε α → Prop}
    (safe : Safe D m.run h fun h result => match result with
      | .ok a => post h (.ok a)
      | .error err => Safe D (handle err).run h post) :
    Safe D (tryCatch m handle).run h post := by
  refine safeThen (p := m.run) safe fun h result next => ?_
  cases result <;> exact next

theorem safeCall {D : Discipline κ} {m : Method κ ε τ α} {h : Hold κ}
    {post : Hold κ → Except ε α → Prop}
    (safe : Safe D m.run h fun h result => h.saved ∧ post h.rested result) :
    Safe D (call m).run h post := by
  refine safeThen (p := m.run) safe fun h result ⟨saved,next⟩ => ?_
  exact ⟨saved,by simp,fun _ _ => next⟩

theorem restedSaved {h : Hold κ} (saved : h.saved) : h.rested.saved := by
  cases h <;> simp_all [Hold.rested,Hold.saved]

def Keeps (D : Discipline κ) (m : Method κ ε τ α) (good : α → Prop) : Prop :=
  ∀ h : Hold κ, h.saved → Safe D m.run h fun h result =>
    h.saved ∧ ∀ a, result = .ok a → good a

/- After the method has succeeded, and its caller goes on, the caller may act on `c`. -/
def Selects (D : Discipline κ) (m : Method κ ε τ Unit) (c : κ) : Prop :=
  ∀ h : Hold κ, h.saved → Safe D m.run h fun h result =>
    h.saved ∧ (result = .ok () → D.mayAct h.rested c)

section
variable {D : Discipline κ} {m : Method κ ε τ α} {good : α → Prop}

theorem keepsPure {a : α} (holds : good a) : Keeps (ε := ε) (τ := τ) D (pure a) good :=
  fun _ saved => ⟨saved,fun _ same => Except.ok.inj same ▸ holds⟩

theorem keepsThrow (err : ε) : Keeps D (throw err : Method κ ε τ α) good :=
  fun _ saved => ⟨saved,nofun⟩

theorem keepsBind {f : α → Method κ ε τ β} {better : β → Prop} (first : Keeps D m good)
    (rest : ∀ a, good a → Keeps D (f a) better) : Keeps D (m >>= f) better := by
  intro h saved
  refine safeExceptBind (safeMono (first h saved) fun h result ⟨saved,holds⟩ => ?_)
  cases result with
  | ok a => exact rest a (holds a rfl) h saved
  | error err => exact ⟨saved,nofun⟩

theorem keepsTry {handle : ε → Method κ ε τ α} (body : Keeps D m good)
    (handled : ∀ err, Keeps D (handle err) good) : Keeps D (tryCatch m handle) good := by
  intro h saved
  refine safeTry (safeMono (body h saved) fun h result ⟨saved,holds⟩ => ?_)
  cases result with
  | ok a => exact ⟨saved,holds⟩
  | error err => exact handled err h saved

theorem keepsCall (body : Keeps D m good) : Keeps D (call m) good := fun h saved =>
  safeCall (safeMono (body h saved) fun _ _ ⟨saved,holds⟩ => ⟨saved,restedSaved saved,holds⟩)

theorem safeIssue {commands : List (Command κ)} {f : Answer κ ε τ → Method κ ε τ α} {h : Hold κ}
    {post : Hold κ → Except ε α → Prop} (saved : h.saved)
    (acts : ∀ command ∈ commands, ∀ c, command.target = some c → D.mayAct h c)
    (rest : ∀ b, Answered commands b → Safe D (f b).run h.rested post) :
    Safe D (issue (.batch commands) >>= f).run h post :=
  safeExceptBind ⟨saved,acts,rest⟩

theorem mapMMember {f : α → Except ε β} {xs : List α} {ys : List β} (mapped : xs.mapM f = .ok ys)
    {y : β} (member : y ∈ ys) : ∃ x ∈ xs, f x = .ok y := by
  induction xs generalizing ys with
  | nil =>
    obtain rfl := Except.ok.inj mapped
    contradiction
  | cons x rest ih =>
    rw [List.mapM_cons] at mapped
    cases now : f x with
    | error err => simp [now,bind,Except.bind] at mapped
    | ok y' =>
      cases later : rest.mapM f with
      | error err => simp [now,later,bind,Except.bind] at mapped
      | ok more =>
        obtain rfl : y' :: more = ys := by
          simpa [now,later,bind,Except.bind,pure,Except.pure] using mapped
        rcases List.mem_cons.mp member with rfl | old
        · exact ⟨x,by simp,now⟩
        · obtain ⟨x',inside,same⟩ := ih later old
          exact ⟨x',List.mem_cons_of_mem x inside,same⟩

/- Every reply in the list was produced under the selection `c`. -/
def FromSource (c : κ) (replies : List (Option (Reading κ τ))) : Prop :=
  ∀ reading, some reading ∈ replies → reading.source = some c

theorem fromAnswers {c : κ} {asked : List (String × Bool)} {b : Answer κ ε τ}
    {replies : List (Option (Reading κ τ))}
    (answered : Answered (asked.map (⟨some c,·.1⟩)) b)
    (read : ((asked.zip b).mapM fun
      | ((_,true),outcome) => pure outcome.toOption
      | ((_,false),outcome) => outcome.map some) = .ok replies) : FromSource c replies := by
  intro reading member
  obtain ⟨⟨command,outcome⟩,paired,kept⟩ := mapMMember read member
  have given : .ok reading ∈ b := by
    have inside := (List.of_mem_zip paired).2
    obtain ⟨text,quiet⟩ := command
    cases quiet <;> cases outcome <;>
      simp_all [Except.toOption,Except.map,pure,Except.pure]
  have sent : (⟨some c,command.1⟩ : Command κ) ∈ asked.map (⟨some c,·.1⟩) :=
    List.mem_map_of_mem (List.of_mem_zip paired).1
  exact answered.2 reading given _ sent c rfl

theorem readAllSafe {target : Option κ} {asked : List (String × Bool)} {h : Hold κ}
    (saved : h.saved) (acts : ∀ c, target = some c → D.mayAct h c) :
    Safe D (readAll (ε := ε) (τ := τ) target asked).run h fun h result =>
      h.saved ∧ ∀ replies, result = .ok replies → ∀ c, target = some c → FromSource c replies := by
  refine safeIssue saved ?_ fun b answered => ⟨restedSaved saved,?_⟩
  · intro command member c same
    obtain ⟨_,_,rfl⟩ := List.mem_map.mp member
    exact acts c same
  · rintro replies read c rfl
    exact fromAnswers answered read

theorem writeSafe {target : Option κ} {text : String} {h : Hold κ} (saved : h.saved)
    (acts : ∀ c, target = some c → D.mayAct h c) :
    Safe D (write (ε := ε) (τ := τ) target text).run h fun h _ => h.saved := by
  refine safeIssue saved ?_ fun b answered => restedSaved saved
  intro command member c same
  obtain rfl := List.mem_singleton.mp member
  exact acts c same

theorem checkedIff {b : Answer κ ε τ} : (checked b).run = .pure (.ok ()) ↔ accepted b := by
  unfold checked accepted
  simp only [ExceptT.run_mk,Async.pure.injEq]
  induction b with
  | nil => simp [pure,Except.pure]
  | cons outcome rest ih =>
    rw [List.forall_mem_cons,← ih]
    cases outcome <;> simp [List.forM,Except.map,bind,Except.bind]

theorem writeSelectSafe {c : κ} {text : String} {h : Hold κ} (saved : h.saved)
    (only : ∀ o, D.pinned = some o → c = o) :
    Safe D (writeSelect (ε := ε) (τ := τ) c text).run h fun h result =>
      (result = .ok () → h = D.gained c) ∧ (∀ err, result = .error err → h = .nothing) := by
  refine safeExceptBind ⟨saved,only,fun b => ⟨?_,?_⟩⟩
  · intro ok
    have fine := checkedIff.mpr ok
    change Safe D (checked b).run (D.gained c) fun h result =>
      (result = .ok () → h = D.gained c) ∧ ∀ err, result = .error err → h = .nothing
    rw [fine]
    exact ⟨fun _ => rfl,nofun⟩
  · intro refused
    refine ⟨fun fine => ?_,fun _ _ => rfl⟩
    exact absurd (checkedIff.mp (congrArg Async.pure fine)) refused

theorem cachedSelects [DecidableEq κ] {c : κ} {select : Method κ ε τ Unit} (cached : D.cached = true)
    (gains : ∀ h : Hold κ, h.saved → Safe D select.run h fun h result =>
      (result = .ok () → D.maySave h c) ∧ ∀ err, result = .error err → h.saved) :
    Selects D (do
      if (← lastSelected) = some c then pure ()
      else
        select
        keepSelected c) c := by
  intro h saved
  refine safeExceptBind ⟨cached,saved,fun cache => ?_⟩
  by_cases same : cache = some c
  · subst same
    change Safe D (ite (some c = some c) _ _ : Method κ ε τ Unit).run (.seen c) _
    rw [if_pos rfl]
    exact ⟨trivial,fun _ => .inl rfl⟩
  · change Safe D (ite (cache = some c) _ _ : Method κ ε τ Unit).run (.cachedIn cache) _
    rw [if_neg same]
    refine safeExceptBind (safeMono (gains (.cachedIn cache) (by cases cache <;> trivial)) ?_)
    intro h result ⟨gained,failed⟩
    cases result with
    | ok _ => exact ⟨c,rfl,gained rfl,trivial,fun _ => .inl rfl⟩
    | error err => exact ⟨failed err rfl,nofun⟩

theorem selectedThen {c : κ} {select : Method κ ε τ Unit} (selects : Selects D select c)
    (rest : ∀ h, h.saved → D.mayAct h c →
      Safe D m.run h fun h result => h.saved ∧ ∀ a, result = .ok a → good a) :
    Keeps D (do call select; m) good := by
  intro h saved
  refine safeExceptBind (safeCall (safeMono (selects h saved) fun h result ⟨saved,act⟩ => ?_))
  refine ⟨saved,?_⟩
  cases result with
  | error err => exact ⟨restedSaved saved,nofun⟩
  | ok _ => exact rest h.rested (restedSaved saved) (act rfl)

theorem selectedRead {c : κ} {select : Method κ ε τ Unit} (selects : Selects D select c)
    {asked : List (String × Bool)} {f : List (Option (Reading κ τ)) → Method κ ε τ α}
    (rest : ∀ replies, FromSource c replies → Keeps D (f replies) good) :
    Keeps D (do call select; let replies ← readAll (some c) asked; f replies) good := by
  refine selectedThen selects fun h saved act => ?_
  have acts : ∀ c', some c = some c' → D.mayAct h c' := fun c' same => Option.some.inj same ▸ act
  refine safeExceptBind (safeMono (readAllSafe saved acts) ?_)
  intro h r ⟨saved,own⟩
  cases r with
  | ok replies => exact rest replies (own replies rfl c rfl) h saved
  | error err => exact ⟨saved,nofun⟩

theorem selectedWrite {c : κ} {select : Method κ ε τ Unit} (selects : Selects D select c)
    (text : String) : Keeps D (do call select; write (some c) text) fun _ => True := by
  refine selectedThen selects fun h saved act => ?_
  refine safeMono (writeSafe saved fun c' same => ?_) fun h r saved => ⟨saved,fun _ _ => trivial⟩
  exact Option.some.inj same ▸ act

/- A part of a method that runs from one end to the other with `c` selected. -/
def Within (D : Discipline κ) (c : κ) (m : Method κ ε τ α) (good : α → Prop) : Prop :=
  Safe D m.run (.held c) fun h result => h = .held c ∧ ∀ a, result = .ok a → good a

theorem withinPure {c : κ} {a : α} (holds : good a) :
    Within (ε := ε) (τ := τ) D c (pure a) good := ⟨rfl,fun _ same => Except.ok.inj same ▸ holds⟩

theorem withinBind {c : κ} {f : α → Method κ ε τ β} {better : β → Prop} (first : Within D c m good)
    (rest : ∀ a, good a → Within D c (f a) better) : Within D c (m >>= f) better := by
  refine safeExceptBind (safeMono first fun h result ⟨same,holds⟩ => ?_)
  subst same
  cases result with
  | ok a => exact rest a (holds a rfl)
  | error err => exact ⟨rfl,nofun⟩

theorem withinIssue {c : κ} {commands : List (Command κ)}
    (acts : ∀ command ∈ commands, ∀ c', command.target = some c' → c = c') :
    Within (ε := ε) (τ := τ) D c (issue (.batch commands)) (Answered commands) := by
  refine ⟨trivial,fun command member c' target => ?_,fun b answered => ⟨rfl,?_⟩⟩
  · exact .inl (acts command member c' target ▸ rfl)
  · exact fun b' same => Except.ok.inj same ▸ answered

theorem withinWrite {c : κ} (text : String) :
    Within (ε := ε) (τ := τ) D c (write none text) fun _ => True :=
  withinBind (withinIssue (by simp)) fun _ _ => ⟨rfl,fun _ _ => trivial⟩

theorem withinReadAll {c : κ} (asked : List (String × Bool)) :
    Within (ε := ε) (τ := τ) D c (readAll (some c) asked) (FromSource c) := by
  refine withinBind (withinIssue ?_) fun b answered => ⟨rfl,fun replies read => ?_⟩
  · intro command member c' same
    obtain ⟨_,_,rfl⟩ := List.mem_map.mp member
    exact Option.some.inj same
  · exact fromAnswers answered read

theorem keepsSection {c : κ} {text : String} (cacheless : D.cached = false)
    (only : ∀ o, D.pinned = some o → c = o) (rest : Within D c m good) :
    Keeps D (do writeSelect c text; m) good := by
  intro h saved
  refine safeExceptBind (safeMono (writeSelectSafe saved only) fun h result ⟨gained,failed⟩ => ?_)
  cases result with
  | ok _ =>
    rw [gained rfl,Discipline.gained,if_neg (by simp [cacheless])]
    refine safeMono rest fun h result ⟨same,holds⟩ => ⟨?_,holds⟩
    subst same
    trivial
  | error err =>
    rw [failed err rfl]
    exact ⟨trivial,nofun⟩

theorem keepsReadAll (asked : List (String × Bool)) :
    Keeps (ε := ε) (τ := τ) D (readAll none asked) fun _ => True := fun _ saved =>
  safeMono (readAllSafe saved nofun) fun _ _ ⟨saved,_⟩ => ⟨saved,fun _ _ => trivial⟩

theorem keepsWrite (text : String) :
    Keeps (ε := ε) (τ := τ) D (write none text) fun _ => True := fun _ saved =>
  safeMono (writeSafe saved nofun) fun _ _ saved => ⟨saved,fun _ _ => trivial⟩

end

theorem needsHeld {D : Discipline κ} {p : Call κ ε τ α} {h : Hold κ} {post : Hold κ → α → Prop}
    {c : κ} (safe : Safe D p h post) (needs : Needs c p) : h.of c ∨ D.pinned = some c := by
  induction p generalizing h with
  | pure a => exact needs.elim
  | read next => exact needs.elim
  | assign s next ih =>
    obtain ⟨c',rfl,may,rest⟩ := safe
    have same : c' = c ∨ D.pinned = some c := by
      rcases needs with now | later
      · exact .inl (Option.some.inj now)
      · simpa [Hold.of] using ih rest later
    rcases same with rfl | only
    · rcases may with unsaved | held | only
      · exact .inl (.inr (.inl unsaved))
      · exact .inl (.inr (.inr held))
      · exact .inr only
    · exact .inr only
  | await r next ih =>
    cases r with
    | select => exact needs.elim
    | batch commands =>
      obtain ⟨_,acts,rest⟩ := safe
      rcases needs with ⟨command,member,target⟩ | ⟨b,given,later⟩
      · exact (acts command member c target).imp (fun held => .inr (.inr held)) id
      · refine (ih b (rest b given) later).imp (fun rested => ?_) id
        cases h <;> simp_all [Hold.rested,Hold.of]

section
variable (D : Discipline κ) (spec : γ → α → Prop)

def Finishes (call : γ) (h : Hold κ) (a : α) : Prop := h.saved ∧ spec call a

def SafeTask (t : Waiting κ ε τ α γ) : Prop :=
  match t.request with
  | .select c _ => ∀ b,
      (accepted b → Safe D (t.next b) (D.gained c) (Finishes spec t.call)) ∧
      (¬ accepted b → Safe D (t.next b) .nothing (Finishes spec t.call))
  | .batch commands =>
      (∀ command ∈ commands, ∀ c, command.target = some c → t.receipt = some c) ∧
      ∃ h : Hold κ, h.saved ∧
        ∀ b, Answered commands b → Safe D (t.next b) h.rested (Finishes spec t.call)

def CacheHolds (pool : Calls κ ε τ α γ) : Prop :=
  D.cached = true → ∀ c, pool.shared = some c → pool.world.selected = some c ∨
    ∃ t ∈ pool.tasks, ∃ other text, t.request = .select other text

structure Sane (pool : Calls κ ε τ α γ) : Prop where
  onTarget : OnTarget pool.world.log
  located : ∀ t ∈ pool.tasks, ∀ c, InSection c t → pool.world.selected = some c
  safe : ∀ t ∈ pool.tasks, SafeTask D spec t
  pinned : ∀ c, D.pinned = some c → pool.world.selected = some c
  meets : ∀ call a, (call,a) ∈ pool.finished → spec call a

def Accepts (pool : Calls κ ε τ α γ) : Event γ (List (Except ε τ)) → Prop
  | .call _ => True
  | .settle index outcomes => D.cached = true → ∀ t c text, pool.tasks[index]? = some t →
      t.request = .select c text → ∀ outcome ∈ outcomes, ∃ value, outcome = .ok value

end

variable {D : Discipline κ} {spec : γ → α → Prop} {pool : Calls κ ε τ α γ}

theorem batchOnTarget {d : Device κ} {commands : List (Command κ)} (log : OnTarget d.log)
    (aimed : ∀ command ∈ commands, ∀ c, command.target = some c → d.selected = some c) :
    OnTarget (execute d (.batch commands)).1.log := by
  intro e member c target
  rcases List.mem_append.mp member with old | new
  · exact log e old c target
  · obtain ⟨command,given,rfl⟩ := List.mem_map.mp new
    exact aimed command given c target

theorem selectOnTarget {d : Device κ} (log : OnTarget d.log) (c : κ) (text : String) :
    OnTarget (execute d (.select c text)).1.log := by
  intro e member c' target
  rcases List.mem_append.mp member with old | new
  · exact log e old c' target
  · simp [List.mem_singleton.mp new] at target

theorem awaitApart {call : γ} {r : Request κ} {next : Answer κ ε τ → Call κ ε τ α}
    (exclusive : Exclusive (resume port pool call (.await r next))) :
    ∀ t ∈ pool.tasks, ∀ c c', InSection c t →
      InSection c' (⟨call,r,(execute pool.world r).2,next⟩ : Waiting κ ε τ α γ) → c = c' :=
  fun t old => (List.pairwise_append.mp exclusive).2.2 t old _ (List.mem_singleton.mpr rfl)

theorem selectSane {call : γ} {c : κ} {text : String} {next : Answer κ ε τ → Call κ ε τ α}
    {h : Hold κ} (sane : Sane D spec pool)
    (safe : Safe D (.await (.select c text) next) h (Finishes spec call))
    (exclusive : Exclusive (resume port pool call (.await (.select c text) next))) :
    Sane D spec (resume port pool call (.await (.select c text) next)) ∧
      CacheHolds D (resume port pool call (.await (.select c text) next)) := by
  obtain ⟨_,only,rest⟩ := safe
  let t : Waiting κ ε τ α γ := ⟨call,.select c text,some c,next⟩
  have added : (resume port pool call (.await (.select c text) next)).tasks =
      pool.tasks ++ [t] := rfl
  constructor
  · exact {
      onTarget := selectOnTarget sane.onTarget c text
      located := by
        intro t' member c' inside
        rcases List.mem_append.mp member with old | new
        · exact congrArg some (awaitApart exclusive t' old c' c inside rfl).symm
        · obtain rfl := List.mem_singleton.mp new
          exact congrArg some inside
      safe := by
        intro t' member
        rcases List.mem_append.mp member with old | new
        · exact sane.safe t' old
        · obtain rfl := List.mem_singleton.mp new
          exact rest
      pinned := fun c' pinned => congrArg some (only c' pinned)
      meets := sane.meets }
  · exact fun _ _ _ => .inr ⟨t,by simp [added],c,text,rfl⟩

theorem batchSane {call : γ} {commands : List (Command κ)} {next : Answer κ ε τ → Call κ ε τ α}
    {h : Hold κ} (sane : Sane D spec pool) (cache : h.saved → CacheHolds D pool)
    (safe : Safe D (.await (.batch commands) next) h (Finishes spec call))
    (holds : ∀ c, h = .unsaved c ∨ (h = .held c ∧ Needs c (.await (.batch commands) next)) →
      pool.world.selected = some c)
    (seen : ∀ c, h = .seen c → D.cached = true ∧ pool.shared = some c)
    (exclusive : Exclusive (resume port pool call (.await (.batch commands) next))) :
    Sane D spec (resume port pool call (.await (.batch commands) next)) ∧
      CacheHolds D (resume port pool call (.await (.batch commands) next)) := by
  obtain ⟨saved,acts,rest⟩ := id safe
  have aimed : ∀ command ∈ commands, ∀ c, command.target = some c →
      pool.world.selected = some c := by
    intro command member c target
    rcases acts command member c target with held | only
    · exact holds c (.inr ⟨held,.inl ⟨command,member,target⟩⟩)
    · exact sane.pinned c only
  constructor
  · exact {
      onTarget := batchOnTarget sane.onTarget aimed
      located := by
        intro t' member c inside
        rcases List.mem_append.mp member with old | new
        · exact sane.located t' old c inside
        · obtain rfl := List.mem_singleton.mp new
          obtain ⟨b,given,later⟩ := inside
          have needs : Needs c (.await (.batch commands) next) := .inr ⟨b,given,later⟩
          rcases needsHeld safe needs with (read | unsaved | held) | only
          · obtain ⟨cached,shared⟩ := seen c read
            rcases cache saved cached c shared with selected | ⟨t',other,c',text,selecting⟩
            · exact selected
            · -- a selection is under way, and this call has just entered its section too
              have inside' : InSection c' t' := by simp [InSection,selecting]
              have same := awaitApart exclusive t' other c' c inside' ⟨b,given,later⟩
              exact same ▸ sane.located t' other c' inside'
          · exact holds c (.inl unsaved)
          · exact holds c (.inr ⟨held,needs⟩)
          · exact sane.pinned c only
      safe := by
        intro t' member
        rcases List.mem_append.mp member with old | new
        · exact sane.safe t' old
        · obtain rfl := List.mem_singleton.mp new
          exact ⟨aimed,h,saved,rest⟩
      pinned := sane.pinned
      meets := sane.meets }
  · intro cached c shared
    apply (cache saved cached c shared).imp id
    rintro ⟨t',old,selecting⟩
    exact ⟨t',List.mem_append_left _ old,selecting⟩

/- The step lemma. Until its next await a call acts on the selection it holds, and the device has
that selection as long as no other call is in the section of a different one. -/
theorem resumeSane {p : Call κ ε τ α} {call : γ} {h : Hold κ} (sane : Sane D spec pool)
    (cache : h.saved → CacheHolds D pool) (safe : Safe D p h (Finishes spec call))
    (holds : ∀ c, h = .unsaved c ∨ (h = .held c ∧ Needs c p) → pool.world.selected = some c)
    (seen : ∀ c, h = .seen c → D.cached = true ∧ pool.shared = some c)
    (exclusive : Exclusive (resume port pool call p)) :
    Sane D spec (resume port pool call p) ∧ CacheHolds D (resume port pool call p) := by
  induction p generalizing pool h with
  | pure a =>
    refine ⟨{ sane with meets := ?_ },cache safe.1⟩
    intro c a' member
    rcases List.mem_append.mp member with old | new
    · exact sane.meets c a' old
    · obtain ⟨rfl,rfl⟩ := Prod.mk.inj (List.mem_singleton.mp new)
      exact safe.2
  | read next ih =>
    refine ih pool.shared sane (fun _ => cache safe.2.1) (safe.2.2 pool.shared) ?_ ?_ exclusive
    · intro c held
      unfold Hold.cachedIn at held
      split at held <;> simp at held
    · intro c seen
      unfold Hold.cachedIn at seen
      split at seen
      · contradiction
      · rename_i shared
        cases seen
        exact ⟨safe.1,shared⟩
  | assign s next ih =>
    obtain ⟨c,rfl,may,rest⟩ := safe
    have selected : pool.world.selected = some c := by
      rcases may with unsaved | held | only
      · exact holds c (.inl unsaved)
      · exact holds c (.inr ⟨held,.inl rfl⟩)
      · exact sane.pinned c only
    have saved : Sane D spec { pool with shared := some c } := { sane with }
    refine ih saved ?_ rest ?_ nofun exclusive
    · intro _ _ c' same
      exact .inl (selected.trans same)
    · rintro c' (unsaved | ⟨held,_⟩)
      · cases unsaved
      · cases held
        exact selected
  | await r next ih =>
    cases r with
    | select c text => exact selectSane sane safe exclusive
    | batch commands => exact batchSane sane cache safe holds seen exclusive

theorem replyAnswered {commands : List (Command κ)} {source : Option κ}
    {outcomes : List (Except ε τ)} {b : Answer κ ε τ}
    (replied : reply (.batch commands) source outcomes = some b)
    (aimed : ∀ command ∈ commands, ∀ c, command.target = some c → source = some c) :
    Answered commands b := by
  unfold reply at replied
  split at replied
  · rename_i counted
    obtain rfl := Option.some.inj replied
    refine ⟨by simpa [Request.size] using counted,?_⟩
    intro reading member command given c target
    obtain ⟨outcome,_,same⟩ := List.mem_map.mp member
    cases outcome with
    | error => cases same
    | ok value =>
      cases same
      exact aimed command given c target
  · contradiction

theorem replyAccepted {c : κ} {text : String} {source : Option κ} {outcomes : List (Except ε τ)}
    {b : Answer κ ε τ} (replied : reply (.select c text) source outcomes = some b)
    (all : ∀ outcome ∈ outcomes, ∃ value, outcome = .ok value) : accepted b := by
  unfold reply at replied
  split at replied
  · obtain rfl := Option.some.inj replied
    intro outcome member
    obtain ⟨sent,given,rfl⟩ := List.mem_map.mp member
    obtain ⟨value,rfl⟩ := all sent given
    exact ⟨_,rfl⟩
  · contradiction

theorem leaveSane (sane : Sane D spec pool) (index : Nat) :
    Sane D spec { pool with tasks := pool.tasks.eraseIdx index } := {
  sane with
  located := fun t old => sane.located t (List.mem_of_mem_eraseIdx old)
  safe := fun t old => sane.safe t (List.mem_of_mem_eraseIdx old) }

theorem leaveCache {index : Nat} {t : Waiting κ ε τ α γ} {commands : List (Command κ)}
    (cache : CacheHolds D pool) (found : pool.tasks[index]? = some t)
    (asked : t.request = .batch commands) :
    CacheHolds D { pool with tasks := pool.tasks.eraseIdx index } := by
  intro cached c shared
  apply (cache cached c shared).imp id
  rintro ⟨t',old,other,text,selecting⟩
  obtain ⟨i,at_⟩ := List.mem_iff_getElem?.mp old
  refine ⟨t',List.mem_eraseIdx_iff_getElem?.mpr ⟨i,?_,at_⟩,other,text,selecting⟩
  rintro rfl
  obtain rfl := Option.some.inj (found.symm.trans at_)
  cases asked.symm.trans selecting

theorem stepSane {program : γ → Call κ ε τ α}
    (safe : ∀ call, Safe D (program call) .nothing (Finishes spec call))
    (e : Event γ (List (Except ε τ))) (sane : Sane D spec pool) (cache : CacheHolds D pool)
    (exclusive : Exclusive (step port program pool e)) (accepts : Accepts D pool e) :
    Sane D spec (step port program pool e) ∧ CacheHolds D (step port program pool e) := by
  cases e with
  | call call => exact resumeSane sane (fun _ => cache) (safe call) (by simp) (by simp) exclusive
  | settle index outcomes =>
    cases found : pool.tasks[index]? with
    | none => simpa [step,found] using ⟨sane,cache⟩
    | some t =>
      cases answered : reply t.request t.receipt outcomes with
      | none => simpa [step,port,found,answered] using ⟨sane,cache⟩
      | some b =>
        simp only [step,port,found,answered] at exclusive ⊢
        have member : t ∈ pool.tasks := List.mem_of_getElem? found
        have rest := leaveSane sane index
        have located := sane.located t member
        have mine := sane.safe t member
        unfold SafeTask at mine
        unfold InSection at located
        cases asked : t.request with
        | select c text =>
          simp only [asked] at mine located
          have selected : pool.world.selected = some c := located c rfl
          by_cases cached : D.cached = true
          · have ok : accepted b :=
              replyAccepted (asked ▸ answered) (accepts cached t c text found asked)
            have gained : D.gained c = .unsaved c := if_pos cached
            refine resumeSane rest (h := .unsaved c) False.elim (gained ▸ (mine b).1 ok) ?_ nofun
              exclusive
            rintro c' (same | ⟨same,_⟩) <;> cases same
            exact selected
          · have cacheless : CacheHolds D { pool with tasks := pool.tasks.eraseIdx index } :=
              fun isCached => absurd isCached cached
            have gained : D.gained c = .held c := if_neg cached
            by_cases ok : accepted b
            · refine resumeSane rest (fun _ => cacheless) (gained ▸ (mine b).1 ok) ?_ (by simp) exclusive
              rintro c' (same | ⟨same,_⟩) <;> cases same
              exact selected
            · exact resumeSane rest (fun _ => cacheless) ((mine b).2 ok) (by simp) nofun exclusive
        | batch commands =>
          simp only [asked] at mine located
          obtain ⟨aimed,h,saved,safe⟩ := mine
          have given : Answered commands b := replyAnswered (asked ▸ answered) aimed
          refine resumeSane rest (fun _ => leaveCache cache found asked) (safe b given) ?_ ?_
            exclusive
          · rintro c (unsaved | ⟨_,needs⟩)
            · cases h <;> simp_all [Hold.rested,Hold.saved]
            · exact located c ⟨b,given,needs⟩
          · intro c seen
            cases h <;> simp [Hold.rested] at seen

theorem callsStayOnTarget {program : γ → Call κ ε τ α}
    (safe : ∀ call, Safe D (program call) .nothing (Finishes spec call))
    (selected : Option κ) (pinned : ∀ c, D.pinned = some c → selected = some c)
    (events : List (Event γ (List (Except ε τ))))
    (calm : Along (step port program)
      (fun pool e => Exclusive (step port program pool e) ∧ Accepts D pool e)
      (start none ⟨selected,[]⟩) events) :
    Throughout (step port program)
      (fun pool => OnTarget pool.world.log ∧ ∀ call a, (call,a) ∈ pool.finished → spec call a)
      (start none ⟨selected,[]⟩) events := by
  have first : Sane D spec (start none ⟨selected,[]⟩ : Calls κ ε τ α γ) := {
    onTarget := nofun
    located := nofun
    safe := nofun
    pinned := pinned
    meets := nofun }
  have keep : Throughout (step port program) (fun pool => Sane D spec pool ∧ CacheHolds D pool)
      (start none ⟨selected,[]⟩) events :=
    throughoutAlong (fun pool e inv ok => stepSane safe e inv.1 inv.2 ok.1 ok.2) ⟨first,nofun⟩ calm
  exact keep.mono fun pool inv => ⟨inv.1.onTarget,inv.1.meets⟩

end LxiWeb.SelectThenAct
