import LxiWeb.DiscoveryCandidates
import LxiWeb.EventRuns

/-! The discovery service: `browse` calls that wait for each other on a chain of promises, each with
an mDNS factory of its own. -/
namespace LxiWeb.DiscoveryScans
open EventRuns JsNumbers DiscoveryCandidates

structure Setup (F : Type) where
  num : Numbers F
  floor : F → F
  toLowerCase : String → String
  inOrder : String → String → Bool
  defaultTimeout : F
  maxTimeout : F
  serviceTypes : List DiscoveryServiceType

/- What the factory of a call does: what its builder, `find`, `stop` and `destroy` throw, and the
services that `find` reports before it returns. -/
structure Behaviour (F : Type) where
  builder : Option String
  early : List (MdnsService F)
  find : Option String
  stop : Option String
  destroy : Option String

structure DiscoveryResponse (F : Type) where
  candidates : List (DiscoveryCandidate F)
  timeoutMs : F
  serviceTypes : List DiscoveryServiceType
  nonInstrumentMdnsUps : Option Nat

structure Scan (F : Type) where
  factory : Nat
  timeoutMs : F
  services : List (MdnsService F)
  mdnsUpTotal : Nat

inductive Phase (F : Type) where
  | queued
  | scanning (scan : Scan F)
  | resolved (response : DiscoveryResponse F)
  | rejected (error : String)

def Phase.settled {F : Type} : Phase F → Bool
  | .queued => false
  | .scanning _ => false
  | .resolved _ => true
  | .rejected _ => true

/- A call of `browse`, with the call that it comes after on the chain. -/
structure Call (F : Type) where
  after : Option Nat
  timeoutMs : Option F
  phase : Phase F

/- `destroyed` counts the calls of a factory's `destroy`. -/
structure Discovery (F : Type) where
  call : Nat → Option (Call F)
  nextCall : Nat
  browseChain : Option Nat
  destroyed : Nat → Nat
  nextFactory : Nat

inductive Event (F : Type) where
  | browse (timeoutMs : Option F)
  | start (k : Nat)
  | up (k : Nat) (service : MdnsService F)
  | elapsed (k : Nat)

def kindText : DiscoveryServiceType → String
  | .lxi => "lxi"
  | .scpiRaw => "scpi-raw"
  | .hislip => "hislip"
  | .visa => "visa"
  | .other => "other"

-- `/_((?:scpi-raw)|lxi|hislip|visa)\._tcp/`
def labelAt (text : List Char) : Option DiscoveryServiceType :=
  [.scpiRaw, .lxi, .hislip, .visa].find? fun kind => ("_" ++ kindText kind ++ "._tcp").toList.isPrefixOf text

section
variable {F : Type} (setup : Setup F)

def instrumentKindFromFqdn (fqdn : String) : Option DiscoveryServiceType :=
  (setup.toLowerCase fqdn).toList.tails.findSome? labelAt

def classifyAllowlistedInstrumentKind (service : MdnsService F) (allowed : List DiscoveryServiceType) :
    Option DiscoveryServiceType :=
  let byType := normalizeDiscoveryServiceType setup.toLowerCase service.type
  let byName :=
    if byType = .other then
      match service.fqdn with
      | some fqdn => (instrumentKindFromFqdn setup fqdn).getD byType
      | none => byType
    else byType
  let kind :=
    if byName = .other then
      ((service.subtypes.map (normalizeDiscoveryServiceType setup.toLowerCase)).find? (· ≠ .other)).getD byName
    else byName
  if kind = .other ∨ kind ∉ allowed then none else some kind

def clamp (value lo hi : F) : F :=
  if setup.num.isFinite value then setup.num.min hi (setup.num.max lo (setup.floor value)) else lo

def onUp (scan : Scan F) (service : MdnsService F) : Scan F :=
  let scan := { scan with mdnsUpTotal := scan.mdnsUpTotal + 1 }
  match classifyAllowlistedInstrumentKind setup service setup.serviceTypes with
  | none => scan
  | some kind => { scan with services := scan.services ++ [{ service with type := kindText kind }] }

def respond (scan : Scan F) : DiscoveryResponse F where
  candidates := dedupe setup.num setup.toLowerCase setup.inOrder scan.services
  timeoutMs := scan.timeoutMs
  serviceTypes := setup.serviceTypes
  nonInstrumentMdnsUps :=
    let others := scan.mdnsUpTotal - scan.services.length
    if 0 < others then some others else none

def thrown (error : Option String) : Except String Unit :=
  match error with
  | some e => .error e
  | none => .ok ()

namespace Discovery

def create : Discovery F := ⟨fun _ => none,0,none,fun _ => 0,0⟩

def setPhase (s : Discovery F) (k : Nat) (phase : Phase F) : Discovery F :=
  { s with call := Function.update s.call k ((s.call k).map fun c => { c with phase := phase }) }

def settled (s : Discovery F) (k : Nat) : Bool := (s.call k).any fun c => c.phase.settled

def browse (s : Discovery F) (timeoutMs : Option F) : Discovery F :=
  { s with
    call := Function.update s.call s.nextCall (some ⟨s.browseChain,timeoutMs,.queued⟩)
    nextCall := s.nextCall + 1
    browseChain := some s.nextCall }

/- `#runBrowse` as far as its `await`. The call of `find` stands before the `try`. -/
def begin (s : Discovery F) (does : Behaviour F) (timeoutMs : Option F) : Discovery F × Phase F :=
  let timeoutMs := clamp setup (timeoutMs.getD setup.defaultTimeout) (setup.num.ofInt 50) setup.maxTimeout
  match thrown does.builder with
  | .error e => (s, .rejected e)
  | .ok _ =>
      let scan := does.early.foldl (onUp setup) ⟨s.nextFactory,timeoutMs,[],0⟩
      let s := { s with nextFactory := s.nextFactory + 1 }
      match thrown does.find with
      | .error e => (s, .rejected e)
      | .ok _ => (s, .scanning scan)

def destroy (s : Discovery F) (does : Behaviour F) (factory : Nat) : Discovery F × Except String Unit :=
  ({ s with destroyed := Function.update s.destroyed factory (s.destroyed factory + 1) },thrown does.destroy)

/- The `finally` block: what `stop` and `destroy` throw is swallowed. -/
def tearDown (s : Discovery F) (does : Behaviour F) (factory : Nat) : Discovery F :=
  match thrown does.stop with
  | .ok _ | .error _ => (s.destroy does factory).1

end Discovery

def ready (s : Discovery F) (c : Call F) : Bool :=
  match c.phase with
  | .queued => c.after.all s.settled
  | _ => false

variable (does : Nat → Behaviour F)

def step (s : Discovery F) (e : Event F) : Discovery F :=
  match e with
  | .browse timeoutMs => s.browse timeoutMs
  | .start k =>
      match s.call k with
      | some c =>
          if ready s c then
            let next := s.begin setup (does k) c.timeoutMs
            next.1.setPhase k next.2
          else s
      | none => s
  | .up k service =>
      match s.call k with
      | some ⟨_,_,.scanning scan⟩ => s.setPhase k (.scanning (onUp setup scan service))
      | _ => s
  | .elapsed k =>
      match s.call k with
      | some ⟨_,_,.scanning scan⟩ =>
          (s.tearDown (does k) scan.factory).setPhase k (.resolved (respond setup scan))
      | _ => s

def Discovery.Alive (s : Discovery F) (factory : Nat) : Prop :=
  factory < s.nextFactory ∧ s.destroyed factory = 0

def Discovery.Running (s : Discovery F) (factory : Nat) : Prop :=
  ∃ k c scan, s.call k = some c ∧ c.phase = .scanning scan ∧ scan.factory = factory

def Behaviour.throws (b : Behaviour F) : Option String := b.builder.or b.find

def finish (calls : Nat) : List (Event F) := (List.range calls).flatMap fun k => [.start k, .elapsed k]

structure Serialised (s : Discovery F) : Prop where
  single : ∀ f g, s.Alive f → s.Alive g → f = g
  destroyed : ∀ f, f < s.nextFactory → s.destroyed f = 1 ∨ s.Running f
  rejected : ∀ k c e, s.call k = some c → c.phase = .rejected e → (does k).throws = some e
  resolved : ∀ k c r, s.call k = some c → c.phase = .resolved r → (does k).throws = none
  settles : ∀ k, k < s.nextCall → (run (step setup does) s (finish s.nextCall)).settled k

/- No call whose factory could be built has a `find` that throws. -/
def FindReturns (s : Discovery F) (e : Event F) : Prop :=
  match e with
  | .start k => (s.call k).any (ready s) → (does k).builder = none → (does k).find = none
  | _ => True

end

section
variable {F : Type} {setup : Setup F} {does : Nat → Behaviour F}

def Own (b : Behaviour F) : Phase F → Prop
  | .queued => True
  | .scanning _ => b.throws = none
  | .resolved _ => b.throws = none
  | .rejected e => b.throws = some e

def predecessor : Nat → Option Nat
  | 0 => none
  | k + 1 => some k

theorem settledIff {s : Discovery F} {k : Nat} :
    s.settled k = true ↔ ∃ c, s.call k = some c ∧ c.phase.settled = true := Option.any_eq_true _ _

variable (does) in
structure Ordered (s : Discovery F) : Prop where
  calls : ∀ k, (s.call k).isSome ↔ k < s.nextCall
  chain : s.browseChain = predecessor s.nextCall
  after : ∀ k c, s.call k = some c → c.after = predecessor k
  begun : ∀ k c, s.call k = some c → c.phase ≠ .queued → ∀ j < k, s.settled j
  own : ∀ k c, s.call k = some c → Own (does k) c.phase
  scanning : ∀ k c scan, s.call k = some c → c.phase = .scanning scan → s.Alive scan.factory
  fresh : ∀ f, s.nextFactory ≤ f → s.destroyed f = 0

theorem orderedCreate : Ordered does (.create : Discovery F) := by
  refine ⟨by simp [Discovery.create],rfl,?_,?_,?_,?_,fun _ _ => rfl⟩ <;> intro k c <;> simp [Discovery.create]

structure Turn (s : Discovery F) (k : Nat) (c : Call F) : Prop where
  called : s.call k = some c
  before : ∀ j < k, s.settled j
  open_ : c.phase.settled = false

theorem Turn.unsettled {s : Discovery F} {k c} (turn : Turn s k c) : s.settled k = false := by
  simp [Discovery.settled,turn.called,turn.open_]

theorem Turn.alone {s : Discovery F} (ordered : Ordered does s) {k c} (turn : Turn s k c) {j d}
    (other : j ≠ k) (called : s.call j = some d) (begun : d.phase ≠ .queued) : d.phase.settled := by
  rcases Nat.lt_or_gt_of_ne other with less | more
  · have settled := turn.before j less
    simpa [Discovery.settled,called] using settled
  · have settled := ordered.begun j d called begun k more
    rw [turn.unsettled] at settled
    cases settled

theorem Turn.idle {s : Discovery F} (ordered : Ordered does s) {k c} (turn : Turn s k c) {j d} {scan : Scan F}
    (other : j ≠ k) (called : s.call j = some d) : d.phase ≠ .scanning scan := by
  intro phase
  have finished := turn.alone ordered other called (by simp [phase])
  simp [phase,Phase.settled] at finished

theorem turnScanning {s : Discovery F} (ordered : Ordered does s) {k c scan} (called : s.call k = some c)
    (phase : c.phase = .scanning scan) : Turn s k c := by
  refine ⟨called,ordered.begun k c called (by simp [phase]),?_⟩
  rw [phase,Phase.settled]

theorem settledUpTo {s : Discovery F} (ordered : Ordered does s) {k : Nat} (settled : s.settled k) :
    ∀ j ≤ k, s.settled j := by
  intro j early
  rcases Nat.eq_or_lt_of_le early with rfl | less
  · exact settled
  · obtain ⟨c,called,finished⟩ := settledIff.mp settled
    refine ordered.begun k c called ?_ j less
    intro queued
    simp [queued,Phase.settled] at finished

theorem turnReady {s : Discovery F} (ordered : Ordered does s) {k c} (called : s.call k = some c)
    (isReady : ready s c) : Turn s k c := by
  unfold ready at isReady
  split at isReady
  · rename_i queued
    refine ⟨called,?_,by rw [queued,Phase.settled]⟩
    rw [ordered.after k c called] at isReady
    intro j less
    cases k with
    | zero => omega
    | succ k => exact settledUpTo ordered (by simpa [predecessor] using isReady) j (by omega)
  · cases isReady

@[simp] theorem callSetPhase (s : Discovery F) (k j : Nat) (phase : Phase F) : (s.setPhase k phase).call j =
    if j = k then (s.call k).map fun c => { c with phase := phase } else s.call j :=
  Function.update_apply _ _ _ _

structure Moves (s s' : Discovery F) (k : Nat) (phase : Phase F) : Prop where
  call : s'.call = (s.setPhase k phase).call
  nextCall : s'.nextCall = s.nextCall
  chain : s'.browseChain = s.browseChain
  scanning : ∀ scan, phase = .scanning scan → s'.Alive scan.factory
  fresh : ∀ f, s'.nextFactory ≤ f → s'.destroyed f = 0

theorem Moves.callIff {s s' : Discovery F} {k c phase} (moves : Moves s s' k phase) (called : s.call k = some c)
    {j d} : s'.call j = some d ↔ if j = k then d = { c with phase := phase } else s.call j = some d := by
  rw [moves.call,callSetPhase,called]
  split
  · rw [Option.map_some,Option.some.injEq,eq_comm]
  · rfl

theorem Moves.here {s s' : Discovery F} {k c phase} (moves : Moves s s' k phase) (called : s.call k = some c) :
    s'.call k = some { c with phase := phase } := by
  rw [moves.callIff called,if_pos rfl]

theorem Moves.each {s s' : Discovery F} {k c phase} (moves : Moves s s' k phase) (turn : Turn s k c)
    {P : Nat → Call F → Prop} (own : P k { c with phase := phase })
    (others : ∀ j d, j ≠ k → s.call j = some d → P j d) (j d) (called : s'.call j = some d) : P j d := by
  rw [moves.callIff turn.called] at called
  split at called
  · rename_i same
    rw [called,same]
    exact own
  · rename_i other
    exact others j d other called

theorem Moves.settled {s s' : Discovery F} {k c phase} (moves : Moves s s' k phase) (turn : Turn s k c)
    {j : Nat} (settled : s.settled j) : s'.settled j := by
  obtain ⟨d,called,finished⟩ := settledIff.mp settled
  have other : j ≠ k := by
    rintro rfl
    rw [turn.unsettled] at settled
    cases settled
  exact settledIff.mpr ⟨d,(moves.callIff turn.called).mpr (by simpa [other] using called),finished⟩

theorem Moves.ordered {s s' : Discovery F} {k c phase} (moves : Moves s s' k phase) (turn : Turn s k c)
    (ordered : Ordered does s) (own : Own (does k) phase) : Ordered does s' := by
  refine ⟨?_,?_,?_,?_,?_,?_,moves.fresh⟩
  · intro j
    rw [moves.nextCall,← ordered.calls j,moves.call,callSetPhase]
    split
    · rename_i same
      rw [same,Option.isSome_map]
    · rfl
  · rw [moves.chain,moves.nextCall,ordered.chain]
  · exact moves.each turn (ordered.after k c turn.called) fun j d _ called => ordered.after j d called
  · refine moves.each turn (fun _ i less => moves.settled turn (turn.before i less)) ?_
    exact fun j d _ called begun i less => moves.settled turn (ordered.begun j d called begun i less)
  · exact moves.each turn own fun j d _ called => ordered.own j d called
  · refine fun j d scan called => moves.each turn (P := fun _ d => d.phase = .scanning scan → _)
      (moves.scanning scan) ?_ j d called
    exact fun j d other called phase' => absurd phase' (turn.idle ordered other called)

variable (setup) in
theorem beginCases (s : Discovery F) (b : Behaviour F) (timeoutMs : Option F) :
    (∃ e, b.builder = some e ∧ s.begin setup b timeoutMs = (s, .rejected e)) ∨
      (b.builder = none ∧ ∃ e, b.find = some e ∧
        s.begin setup b timeoutMs = ({ s with nextFactory := s.nextFactory + 1 }, .rejected e)) ∨
      (b.builder = none ∧ b.find = none ∧ ∃ scan, scan.factory = s.nextFactory ∧
        s.begin setup b timeoutMs = ({ s with nextFactory := s.nextFactory + 1 }, .scanning scan)) := by
  have kept (early : List (MdnsService F)) (scan : Scan F) :
      (early.foldl (onUp setup) scan).factory = scan.factory := by
    induction early generalizing scan with
    | nil => rfl
    | cons service rest ih =>
      rw [List.foldl_cons,ih,onUp]
      cases classifyAllowlistedInstrumentKind setup service setup.serviceTypes <;> rfl
  unfold Discovery.begin
  cases built : b.builder with
  | some e => exact .inl ⟨e,rfl,rfl⟩
  | none =>
    cases found : b.find with
    | some e => exact .inr (.inl ⟨rfl,e,rfl,rfl⟩)
    | none => exact .inr (.inr ⟨rfl,rfl,_,kept _ _,rfl⟩)

def TornDown (s : Discovery F) : Prop := ∀ f, f < s.nextFactory → s.destroyed f = 1 ∨ s.Running f

theorem turnRunning {s : Discovery F} (ordered : Ordered does s) {k c} (turn : Turn s k c) {f : Nat} :
    s.Running f ↔ ∃ scan, c.phase = .scanning scan ∧ scan.factory = f := by
  constructor
  · rintro ⟨j,d,scan,called,phase,factory⟩
    by_cases same : j = k
    · obtain rfl := Option.some.inj (turn.called.symm.trans (same ▸ called))
      exact ⟨scan,phase,factory⟩
    · exact absurd phase (turn.idle ordered same called)
  · rintro ⟨scan,phase,factory⟩
    exact ⟨k,c,scan,turn.called,phase,factory⟩

theorem Moves.running {s s' : Discovery F} {k c phase} (moves : Moves s s' k phase) (turn : Turn s k c)
    (ordered : Ordered does s) {f : Nat} : s'.Running f ↔ ∃ scan, phase = .scanning scan ∧ scan.factory = f := by
  constructor
  · rintro ⟨j,d,scan,called,phase',factory⟩
    rw [moves.callIff turn.called] at called
    split at called
    · rw [called] at phase'
      exact ⟨scan,phase',factory⟩
    · rename_i other
      exact absurd phase' (turn.idle ordered other called)
  · rintro ⟨scan,scanning,factory⟩
    exact ⟨k,_,scan,moves.here turn.called,scanning,factory⟩

theorem quiet {s : Discovery F} (ordered : Ordered does s) (down : TornDown s) {k c} (turn : Turn s k c)
    (queued : c.phase = .queued) {f : Nat} (made : f < s.nextFactory) : s.destroyed f = 1 := by
  rcases down f made with destroyed | running
  · exact destroyed
  · obtain ⟨scan,scanning,-⟩ := (turnRunning ordered turn).mp running
    simp [queued] at scanning

variable (setup does) in
structure Takes (s : Discovery F) (e : Event F) (k : Nat) (c : Call F) (phase : Phase F) : Prop where
  turn : Turn s k c
  moves : Moves s (step setup does s e) k phase
  own : Own (does k) phase
  begun : phase ≠ .queued
  exact_ : TornDown s → (TornDown (step setup does s e) ↔ FindReturns does s e)

variable (setup) in
theorem startTakes {s : Discovery F} (ordered : Ordered does s) {k c} (called : s.call k = some c)
    (isReady : ready s c) : ∃ phase, Takes setup does s (.start k) k c phase := by
  have turn := turnReady ordered called isReady
  have queued : c.phase = .queued := by
    unfold ready at isReady
    split at isReady
    · assumption
    · cases isReady
  have fits : FindReturns does s (.start k) ↔ ((does k).builder = none → (does k).find = none) := by
    simp [FindReturns,called,isReady]
  have stepped : step setup does s (.start k) =
      (s.begin setup (does k) c.timeoutMs).1.setPhase k (s.begin setup (does k) c.timeoutMs).2 := by
    simp [step,called,isReady]
  rcases beginCases setup s (does k) c.timeoutMs with
    ⟨e,built,begun⟩ | ⟨built,e,found,begun⟩ | ⟨built,found,scan,factory,begun⟩
  · rw [begun] at stepped
    have moves : Moves s (step setup does s (.start k)) k (.rejected e) := by
      rw [stepped]
      exact ⟨rfl,rfl,rfl,by simp,ordered.fresh⟩
    refine ⟨_,turn,moves,by simp [Own,Behaviour.throws,built],by simp,fun down => ?_⟩
    rw [fits]
    refine iff_of_true ?_ (by simp [built])
    intro f made
    rw [stepped] at made ⊢
    exact .inl (quiet ordered down turn queued made)
  · rw [begun] at stepped
    have moves : Moves s (step setup does s (.start k)) k (.rejected e) := by
      rw [stepped]
      exact ⟨rfl,rfl,rfl,by simp,fun f beyond => ordered.fresh f (by simp [Discovery.setPhase] at beyond; omega)⟩
    refine ⟨_,turn,moves,by simp [Own,Behaviour.throws,built,found],by simp,fun down => ?_⟩
    rw [fits]
    refine iff_of_false ?_ (by simp [built,found])
    -- the new factory has no scan, and nothing destroys it
    intro down'
    rcases down' s.nextFactory (by simp [stepped,Discovery.setPhase]) with destroyed | running
    · rw [stepped] at destroyed
      simp [Discovery.setPhase,ordered.fresh] at destroyed
    · simp [moves.running turn ordered] at running
  · rw [begun] at stepped
    have moves : Moves s (step setup does s (.start k)) k (.scanning scan) := by
      rw [stepped]
      refine ⟨rfl,rfl,rfl,?_,fun f beyond => ordered.fresh f (by simp [Discovery.setPhase] at beyond; omega)⟩
      rintro scan' same
      obtain rfl := Phase.scanning.inj same
      exact ⟨by simp [Discovery.setPhase,factory],by simp [Discovery.setPhase,factory,ordered.fresh]⟩
    refine ⟨_,turn,moves,by simp [Own,Behaviour.throws,built,found],by simp,fun down => ?_⟩
    rw [fits]
    refine iff_of_true ?_ fun _ => found
    intro f made
    by_cases new : f = s.nextFactory
    · exact .inr ((moves.running turn ordered).mpr ⟨scan,rfl,factory.trans new.symm⟩)
    · left
      rw [stepped] at made ⊢
      simp only [Discovery.setPhase] at made ⊢
      exact quiet ordered down turn queued (by omega)

theorem upTakes {s : Discovery F} (ordered : Ordered does s) {k c scan} (called : s.call k = some c)
    (phase : c.phase = .scanning scan) (service : MdnsService F) :
    Takes setup does s (.up k service) k c (.scanning (onUp setup scan service)) := by
  have turn := turnScanning ordered called phase
  have stepped : step setup does s (.up k service) = s.setPhase k (.scanning (onUp setup scan service)) := by
    obtain ⟨after,timeoutMs,_⟩ := c
    obtain rfl := phase
    simp [step,called]
  have factory : (onUp setup scan service).factory = scan.factory := by
    rw [onUp]
    cases classifyAllowlistedInstrumentKind setup service setup.serviceTypes <;> rfl
  have moves : Moves s (step setup does s (.up k service)) k (.scanning (onUp setup scan service)) := by
    rw [stepped]
    refine ⟨rfl,rfl,rfl,?_,ordered.fresh⟩
    rintro scan' same
    obtain rfl := Phase.scanning.inj same
    rw [factory]
    exact ordered.scanning k c scan called phase
  refine ⟨turn,moves,?_,by simp,fun down => iff_of_true ?_ trivial⟩
  · have own := ordered.own k c called
    rwa [phase] at own
  · intro f made
    rw [moves.running turn ordered]
    rw [stepped] at made ⊢
    rcases down f made with destroyed | running
    · exact .inl destroyed
    · obtain ⟨scan',phase',rfl⟩ := (turnRunning ordered turn).mp running
      obtain rfl := Phase.scanning.inj (phase.symm.trans phase')
      exact .inr ⟨_,rfl,factory⟩

variable (setup) in
theorem elapsedTakes {s : Discovery F} (ordered : Ordered does s) {k c scan} (called : s.call k = some c)
    (phase : c.phase = .scanning scan) :
    Takes setup does s (.elapsed k) k c (.resolved (respond setup scan)) := by
  have turn := turnScanning ordered called phase
  have alive := ordered.scanning k c scan called phase
  have stepped : step setup does s (.elapsed k) =
      ({ s with destroyed := Function.update s.destroyed scan.factory (s.destroyed scan.factory + 1) } :
        Discovery F).setPhase k (.resolved (respond setup scan)) := by
    have torn : s.tearDown (does k) scan.factory =
        { s with destroyed := Function.update s.destroyed scan.factory (s.destroyed scan.factory + 1) } := by
      unfold Discovery.tearDown
      split <;> rfl
    obtain ⟨after,timeoutMs,_⟩ := c
    obtain rfl := phase
    simp [step,called,torn]
  have moves : Moves s (step setup does s (.elapsed k)) k (.resolved (respond setup scan)) := by
    rw [stepped]
    refine ⟨rfl,rfl,rfl,by simp,fun f beyond => ?_⟩
    have other : f ≠ scan.factory := by
      rintro rfl
      exact absurd alive.1 (Nat.not_lt_of_le beyond)
    simpa [Discovery.setPhase,other] using ordered.fresh f beyond
  refine ⟨turn,moves,?_,by simp,fun down => iff_of_true ?_ trivial⟩
  · have own := ordered.own k c called
    rwa [phase] at own
  · intro f made
    left
    rw [stepped] at made ⊢
    by_cases this : f = scan.factory
    · simp [Discovery.setPhase,this,alive.2]
    · rcases down f made with destroyed | running
      · simpa [Discovery.setPhase,this] using destroyed
      · obtain ⟨scan',phase',rfl⟩ := (turnRunning ordered turn).mp running
        obtain rfl := Phase.scanning.inj (phase.symm.trans phase')
        exact absurd rfl this

variable (setup) in
theorem stepCases {s : Discovery F} (ordered : Ordered does s) (e : Event F) :
    (step setup does s e = s ∧ FindReturns does s e) ∨ (∃ timeoutMs, e = .browse timeoutMs) ∨
      ∃ k c phase, Takes setup does s e k c phase := by
  cases e with
  | browse timeoutMs => exact .inr (.inl ⟨timeoutMs,rfl⟩)
  | start k =>
    cases called : s.call k with
    | none => exact .inl ⟨by simp [step,called],by simp [FindReturns,called]⟩
    | some c =>
      by_cases isReady : ready s c
      · exact .inr (.inr ⟨k,c,startTakes setup ordered called isReady⟩)
      · exact .inl ⟨by simp [step,called,isReady],by simp [FindReturns,called,isReady]⟩
  | up k service =>
    cases called : s.call k with
    | none => exact .inl ⟨by simp [step,called],trivial⟩
    | some c =>
      cases phase : c.phase with
      | scanning scan => exact .inr (.inr ⟨k,c,_,upTakes ordered called phase service⟩)
      | queued | resolved | rejected =>
        obtain ⟨_,_,_⟩ := c
        obtain rfl := phase
        exact .inl ⟨by simp [step,called],trivial⟩
  | elapsed k =>
    cases called : s.call k with
    | none => exact .inl ⟨by simp [step,called],trivial⟩
    | some c =>
      cases phase : c.phase with
      | scanning scan => exact .inr (.inr ⟨k,c,_,elapsedTakes setup ordered called phase⟩)
      | queued | resolved | rejected =>
        obtain ⟨_,_,_⟩ := c
        obtain rfl := phase
        exact .inl ⟨by simp [step,called],trivial⟩

theorem browseCall (s : Discovery F) (timeoutMs : Option F) (k : Nat) : (s.browse timeoutMs).call k =
    if k = s.nextCall then some ⟨s.browseChain,timeoutMs,.queued⟩ else s.call k := Function.update_apply _ _ _ _

theorem uncalled {s : Discovery F} (ordered : Ordered does s) : s.call s.nextCall = none := by
  have free := (ordered.calls s.nextCall).not.mpr (Nat.lt_irrefl _)
  simpa using free

theorem browseSettled {s : Discovery F} (ordered : Ordered does s) (timeoutMs : Option F) {j : Nat}
    (settled : s.settled j) : (s.browse timeoutMs).settled j := by
  obtain ⟨c,called,finished⟩ := settledIff.mp settled
  have other : j ≠ s.nextCall := by
    rintro rfl
    simp [uncalled ordered] at called
  exact settledIff.mpr ⟨c,by rwa [browseCall,if_neg other],finished⟩

theorem browseOrdered {s : Discovery F} (ordered : Ordered does s) (timeoutMs : Option F) :
    Ordered does (s.browse timeoutMs) := by
  have cases_ {k c} (called : (s.browse timeoutMs).call k = some c) :
      (k = s.nextCall ∧ c = ⟨s.browseChain,timeoutMs,.queued⟩) ∨ s.call k = some c := by
    rw [browseCall] at called
    split at called
    · rename_i same
      exact .inl ⟨same,(Option.some.inj called).symm⟩
    · exact .inr called
  refine ⟨?_,rfl,?_,?_,?_,?_,ordered.fresh⟩
  · intro k
    have old := ordered.calls k
    rw [browseCall,Discovery.browse]
    split
    · rename_i same
      simp [same]
    · rename_i other
      rw [old]
      dsimp only
      omega
  · intro k c called
    rcases cases_ called with ⟨rfl,rfl⟩ | old
    · exact ordered.chain
    · exact ordered.after k c old
  · intro k c called begun j less
    rcases cases_ called with ⟨rfl,rfl⟩ | old
    · exact absurd rfl begun
    · exact browseSettled ordered timeoutMs (ordered.begun k c old begun j less)
  · intro k c called
    rcases cases_ called with ⟨rfl,rfl⟩ | old
    · trivial
    · exact ordered.own k c old
  · intro k c scan called phase
    rcases cases_ called with ⟨rfl,rfl⟩ | old
    · cases phase
    · exact ordered.scanning k c scan old phase

theorem browseTornDown {s : Discovery F} (ordered : Ordered does s) (timeoutMs : Option F) (down : TornDown s) :
    TornDown (s.browse timeoutMs) := by
  intro f made
  rcases down f made with destroyed | ⟨k,c,scan,called,phase,factory⟩
  · exact .inl destroyed
  · have other : k ≠ s.nextCall := by
      rintro rfl
      simp [uncalled ordered] at called
    exact .inr ⟨k,c,scan,by rwa [browseCall,if_neg other],phase,factory⟩

variable (setup) in
theorem stepOrdered (s : Discovery F) (e : Event F) (ordered : Ordered does s) :
    Ordered does (step setup does s e) := by
  rcases stepCases setup ordered e with ⟨same,-⟩ | ⟨timeoutMs,rfl⟩ | ⟨k,c,phase,takes⟩
  · rwa [same]
  · exact browseOrdered ordered timeoutMs
  · exact takes.moves.ordered takes.turn ordered takes.own

theorem stepSettled {s : Discovery F} (ordered : Ordered does s) (e : Event F) {j : Nat} (settled : s.settled j) :
    (step setup does s e).settled j := by
  rcases stepCases setup ordered e with ⟨same,-⟩ | ⟨timeoutMs,rfl⟩ | ⟨k,c,phase,takes⟩
  · rwa [same]
  · exact browseSettled ordered timeoutMs settled
  · exact takes.moves.settled takes.turn settled

theorem stepTornDown {s : Discovery F} (ordered : Ordered does s) (down : TornDown s) (e : Event F) :
    TornDown (step setup does s e) ↔ FindReturns does s e := by
  rcases stepCases setup ordered e with ⟨same,fits⟩ | ⟨timeoutMs,rfl⟩ | ⟨k,c,phase,takes⟩
  · rw [same]
    exact iff_of_true down fits
  · exact iff_of_true (browseTornDown ordered timeoutMs down) trivial
  · exact takes.exact_ down

theorem turnSettles {s : Discovery F} (ordered : Ordered does s) {k : Nat} (made : k < s.nextCall)
    (before : ∀ j < k, s.settled j) :
    (step setup does (step setup does s (.start k)) (.elapsed k)).settled k := by
  have started := stepOrdered setup s (.start k) ordered
  obtain ⟨c,called⟩ := Option.isSome_iff_exists.mp ((ordered.calls k).mpr made)
  have begun : ∃ d, (step setup does s (.start k)).call k = some d ∧ d.phase ≠ .queued := by
    by_cases queued : c.phase = .queued
    · have isReady : ready s c := by
        rw [ready,queued,ordered.after k c called]
        cases k with
        | zero => rfl
        | succ k => simpa [predecessor] using before k (by omega)
      obtain ⟨phase,takes⟩ := startTakes setup ordered called isReady
      exact ⟨_,takes.moves.here called,takes.begun⟩
    · have idle : step setup does s (.start k) = s := by
        have held : ready s c = false := by
          cases phase : c.phase <;> simp_all [ready]
        simp [step,called,held]
      rw [idle]
      exact ⟨c,called,queued⟩
  obtain ⟨d,there,begun⟩ := begun
  cases phase : d.phase with
  | queued => exact absurd phase begun
  | scanning scan =>
    have takes := elapsedTakes setup started there phase
    exact settledIff.mpr ⟨_,takes.moves.here there,rfl⟩
  | resolved r => exact stepSettled started _ (settledIff.mpr ⟨d,there,by simp [phase,Phase.settled]⟩)
  | rejected e => exact stepSettled started _ (settledIff.mpr ⟨d,there,by simp [phase,Phase.settled]⟩)

theorem stepNext (s : Discovery F) (e : Event F) (other : ∀ timeoutMs, e ≠ .browse timeoutMs)
    (ordered : Ordered does s) : (step setup does s e).nextCall = s.nextCall := by
  rcases stepCases setup ordered e with ⟨same,-⟩ | ⟨timeoutMs,rfl⟩ | ⟨k,c,phase,takes⟩
  · rw [same]
  · exact absurd rfl (other timeoutMs)
  · exact takes.moves.nextCall

theorem finishSettles {s : Discovery F} (ordered : Ordered does s) {n : Nat} (made : n ≤ s.nextCall) :
    (run (step setup does) s (finish n)).nextCall = s.nextCall ∧
      Ordered does (run (step setup does) s (finish n)) ∧
      ∀ k < n, (run (step setup does) s (finish n)).settled k := by
  induction n with
  | zero => exact ⟨rfl,ordered,by simp⟩
  | succ n ih =>
    obtain ⟨next,kept,settled⟩ := ih (by omega)
    have turn : run (step setup does) s (finish (n + 1)) =
        step setup does (step setup does (run (step setup does) s (finish n)) (.start n)) (.elapsed n) := by
      rw [finish,List.range_succ,List.flatMap_append,runAppend]
      rfl
    have started := stepOrdered setup _ (.start n) kept
    rw [turn]
    refine ⟨?_,stepOrdered setup _ _ started,?_⟩
    · rw [stepNext _ _ (by simp) started,stepNext _ _ (by simp) kept,next]
    · intro k less
      rcases Nat.lt_succ_iff_lt_or_eq.mp less with early | rfl
      · exact stepSettled started _ (stepSettled kept _ (settled k early))
      · exact turnSettles kept (by omega) settled

theorem serialisedIff {s : Discovery F} (ordered : Ordered does s) : Serialised setup does s ↔ TornDown s := by
  constructor
  · exact fun serialised => serialised.destroyed
  · intro down
    refine ⟨?_,down,?_,?_,?_⟩
    · intro f g alive alive'
      have running {f} (alive : s.Alive f) : s.Running f := by
        rcases down f alive.1 with destroyed | running
        · simp [alive.2] at destroyed
        · exact running
      obtain ⟨k,c,scan,called,phase,rfl⟩ := running alive
      obtain ⟨scan',phase',rfl⟩ := (turnRunning ordered (turnScanning ordered called phase)).mp (running alive')
      rw [Phase.scanning.inj (phase.symm.trans phase')]
    · intro k c e called phase
      have own := ordered.own k c called
      rwa [phase] at own
    · intro k c r called phase
      have own := ordered.own k c called
      rwa [phase] at own
    · exact (finishSettles ordered (Nat.le_refl _)).2.2

/-- Scans are serialised and clean up in every state of a run exactly when no scan that got its factory
has a `find` that throws. -/
theorem scansSerialised (setup : Setup F) (does : Nat → Behaviour F) (events : List (Event F)) :
    Throughout (step setup does) (Serialised setup does) .create events ↔
      Along (step setup does) (FindReturns does) .create events := by
  have keep (s : Discovery F) (e : Event F) (inv : Ordered does s ∧ TornDown s) (fits : FindReturns does s e) :
      Ordered does (step setup does s e) ∧ TornDown (step setup does s e) :=
    ⟨stepOrdered setup s e inv.1,(stepTornDown inv.1 inv.2 e).mpr fits⟩
  have exact_ (s : Discovery F) (e : Event F) (inv : Ordered does s ∧ TornDown s) :
      Serialised setup does (step setup does s e) ↔ FindReturns does s e :=
    (serialisedIff (stepOrdered setup s e inv.1)).trans (stepTornDown inv.1 inv.2 e)
  have none_ : TornDown (.create : Discovery F) := fun f made => absurd made (Nat.not_lt_zero f)
  exact throughoutIffAlong keep exact_ ⟨orderedCreate,none_⟩ ((serialisedIff orderedCreate).mpr none_) events

end

def bench : Setup Int :=
  ⟨wholeNumbers,id,String.toLower,fun a b => decide (a ≤ b),3000,15000,[.lxi, .scpiRaw, .hislip, .visa]⟩

def offlineFirst : Nat → Behaviour Int
  | 0 => ⟨none,[],some "no network interface",none,none⟩
  | _ => ⟨none,[],none,none,none⟩

def twoScans : List (Event Int) := [.browse none, .start 0, .browse none, .start 1]

/- The first factory is never destroyed, and both exist at once. -/
theorem findThrowsLeaks : (run (step bench offlineFirst) .create twoScans).Alive 0 ∧
    (run (step bench offlineFirst) .create twoScans).Alive 1 ∧
    ¬ Throughout (step bench offlineFirst) (Serialised bench offlineFirst) .create twoScans := by
  have first : (run (step bench offlineFirst) .create twoScans).Alive 0 := ⟨by decide,by decide⟩
  have second : (run (step bench offlineFirst) .create twoScans).Alive 1 := ⟨by decide,by decide⟩
  refine ⟨first,second,fun all => ?_⟩
  exact absurd (all.last.single 0 1 first second) (by decide)

end LxiWeb.DiscoveryScans
