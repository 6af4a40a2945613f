import LxiWeb.ScpiFraming
import LxiWeb.SelectThenAct

/-! Waveform reads of four scope drivers. A read selects the source, sends its settings, asks for
the preamble and then for the samples; the waveform keeps the replies it is computed from. -/
namespace LxiWeb.ScopeWaveforms
open AsyncTasks EventRuns JsText ScpiFraming SelectThenAct

inductive Source where
  | channel (id : Nat)
  | math
  | reference (slot : Nat)
  deriving DecidableEq, Repr

inductive Payload where
  | text (raw : String)
  | block (data : Bytes)
  deriving DecidableEq, Repr

abbrev ScopeMethod := Method Source JsError Payload

abbrev Replies := List (Option (Reading Source Payload))

structure Waveform where
  channel : Nat
  preamble : Replies
  samples : Replies
  deriving DecidableEq, Repr

/-- One driver's way of reading: `quiet` reads answer a failure with an empty waveform. -/
structure Acquisition where
  select : Source → String
  settings : List String
  preamble : List (String × Bool)
  data : String
  quiet : Bool

def writeEach : List String → ScopeMethod Unit
  | [] => pure ()
  | text :: rest => do
      write none text
      writeEach rest

namespace Acquisition
variable (a : Acquisition)

def transfer (source : Source) (channel : Nat) : ScopeMethod Waveform := do
  writeEach a.settings
  let preamble ← readAll (some source) a.preamble
  let samples ← readAll (some source) [(a.data,false)]
  pure ⟨channel,preamble,samples⟩

def readWaveformFromSource (source : Source) (channel : Nat) : ScopeMethod Waveform :=
  let read := do
    writeSelect source (a.select source)
    a.transfer source channel
  if a.quiet then tryCatch read fun _ => pure ⟨channel,[],[]⟩ else read

def readWaveform (channel : Nat) : ScopeMethod Waveform :=
  a.readWaveformFromSource (.channel channel) channel

end Acquisition

def Source.rigolName : Source → String
  | .channel id => s!"CHANnel{id}"
  | .math => "MATH"
  | .reference slot => s!"REF{slot + 1}"

def rigolDho800 : Acquisition where
  select source := s!":WAVeform:SOURce {source.rigolName}"
  settings := [":WAVeform:MODE NORMal",":WAVeform:FORMat BYTE"]
  preamble := [(":WAVeform:PREamble?",false)]
  data := ":WAVeform:DATA?"
  quiet := false

def siglentSdsHd : Acquisition where
  select source := s!":WAVeform:SOURce {source.rigolName}"
  settings := []
  preamble := [(":WAVeform:PREamble?",false)]
  data := ":WAVeform:DATA?"
  quiet := true

def keysightInfiniiVision : Acquisition where
  select source := s!":WAVeform:SOURce {source.rigolName}"
  settings := [":WAVeform:FORMat WORD",":WAVeform:POINts:MODE NORMal"]
  preamble := [(":WAVeform:PREamble?",false)]
  data := ":WAVeform:DATA?"
  quiet := true

def Source.tektronixName : Source → String
  | .channel id => s!"CH{id}"
  | source => source.rigolName

def tektronixMso (sampleWidth : Nat) : Acquisition where
  select source := s!"DATa:SOUrce {source.tektronixName}"
  settings := ["DATa:ENCdg RIBinary",s!"DATa:WIDth {sampleWidth}"]
  preamble := [("WFMOutpre:XINcr?",true),("WFMOutpre:XZEro?",true),("WFMOutpre:YMUlt?",true),
    ("WFMOutpre:YOFf?",true),("WFMOutpre:YZEro?",true)]
  data := "CURVe?"
  quiet := true

inductive Scope where
  | rigolDho800
  | siglentSdsHd
  | keysightInfiniiVision
  | tektronixMso (sampleWidth : Nat)
  deriving DecidableEq, Repr

def Scope.acquisition : Scope → Acquisition
  | .rigolDho800 => ScopeWaveforms.rigolDho800
  | .siglentSdsHd => ScopeWaveforms.siglentSdsHd
  | .keysightInfiniiVision => ScopeWaveforms.keysightInfiniiVision
  | .tektronixMso sampleWidth => ScopeWaveforms.tektronixMso sampleWidth

inductive ScopeCall where
  | readWaveform (channel : Nat)
  | readMathWaveform
  | readReferenceWaveform (slot : Nat)
  deriving DecidableEq, Repr

def method (scope : Scope) : ScopeCall → ScopeMethod Waveform
  | .readWaveform channel => scope.acquisition.readWaveform channel
  | .readMathWaveform =>
      if scope = .rigolDho800 then rigolDho800.readWaveformFromSource .math 0
      else throw ⟨.error,"s.readMathWaveform is not a function"⟩
  | .readReferenceWaveform slot =>
      if scope = .rigolDho800 then rigolDho800.readWaveformFromSource (.reference slot) 0
      else throw ⟨.error,"s.readReferenceWaveform is not a function"⟩

def ScopeCall.source : ScopeCall → Source
  | .readWaveform channel => .channel channel
  | .readMathWaveform => .math
  | .readReferenceWaveform slot => .reference slot

abbrev ScopeEvent := Event ScopeCall (List (Except JsError Payload))

abbrev ScopePool := Calls Source JsError Payload (Except JsError Waveform) ScopeCall

def scopeStep (scope : Scope) : ScopePool → ScopeEvent → ScopePool :=
  step port fun c => (method scope c).run

def Faithful (source : Source) (w : Waveform) : Prop :=
  FromSource source w.preamble ∧ FromSource source w.samples

/- Preamble and samples of every waveform were produced under the source its call asked for. -/
def Atomic (pool : ScopePool) : Prop :=
  ∀ call outcome, (call,outcome) ∈ pool.finished → ∀ w, outcome = .ok w → Faithful call.source w

def cacheless : Discipline Source := ⟨false,none⟩

theorem writeEachWithin (source : Source) (texts : List String) :
    Within cacheless source (writeEach texts) fun _ => True := by
  induction texts with
  | nil => exact withinPure trivial
  | cons text rest ih => exact withinBind (withinWrite text) fun _ _ => ih

theorem transferWithin (a : Acquisition) (source : Source) (channel : Nat) :
    Within cacheless source (a.transfer source channel) (Faithful source) := by
  refine withinBind (writeEachWithin source _) fun _ _ => ?_
  refine withinBind (withinReadAll _) fun preamble first => ?_
  exact withinBind (withinReadAll _) fun samples second => withinPure ⟨first,second⟩

theorem readKeeps (a : Acquisition) (source : Source) (channel : Nat) :
    Keeps cacheless (a.readWaveformFromSource source channel) (Faithful source) := by
  have read : Keeps cacheless (do writeSelect source (a.select source); a.transfer source channel)
      (Faithful source) := keepsSection rfl nofun (transferWithin a source channel)
  unfold Acquisition.readWaveformFromSource
  simp only
  split
  · exact keepsTry read fun _ => keepsPure (by simp [Faithful,FromSource])
  · exact read

theorem methodKeeps (scope : Scope) (c : ScopeCall) :
    Keeps cacheless (method scope c) (Faithful c.source) := by
  cases c with
  | readWaveform channel => exact readKeeps _ _ _
  | readMathWaveform | readReferenceWaveform =>
    simp only [method]
    split
    · exact readKeeps _ _ _
    · exact keepsThrow _

/- No read selects its source while another read, of a different source, still has a query to
send. -/
def Undivided (scope : Scope) (pool : ScopePool) (e : ScopeEvent) : Prop :=
  Exclusive (scopeStep scope pool e)

theorem waveformsAtomic (scope : Scope) (selected : Option Source) (events : List ScopeEvent)
    (undivided : Along (scopeStep scope) (Undivided scope) (start none ⟨selected,[]⟩) events) :
    Throughout (scopeStep scope) Atomic (start none ⟨selected,[]⟩) events := by
  have safe (c : ScopeCall) : Safe cacheless (method scope c).run .nothing
      (Finishes (fun c outcome => ∀ w, outcome = .ok w → Faithful c.source w) c) :=
    methodKeeps scope c .nothing trivial
  have accepts (pool : ScopePool) (e : ScopeEvent) : Accepts cacheless pool e := by
    cases e with
    | call => trivial
    | settle => exact nofun
  have calm : Along (scopeStep scope)
      (fun pool e => Exclusive (scopeStep scope pool e) ∧ Accepts cacheless pool e)
      (start none ⟨selected,[]⟩) events :=
    alongMono (fun pool e exclusive => ⟨exclusive,accepts pool e⟩) undivided
  exact (callsStayOnTarget safe selected nofun events calm).mono fun pool held => held.2

/- The math waveform is asked for, and its source selected, while the samples of channel 1 are on their way. -/
theorem waveformsAtomicRigol :
    Throughout (scopeStep .rigolDho800) Atomic (start none ⟨none,[]⟩)
      [.call (.readWaveform 1),.settle 0 [.ok (.text "")],.settle 0 [.ok (.text "")],
        .settle 0 [.ok (.text "")],.settle 0 [.ok (.text "0,0,2,1,1E-6,0,0,1,0,0")],
        .call .readMathWaveform,.settle 1 [.ok (.text "")],.settle 0 [.ok (.block [1,2])],
        .settle 0 [.ok (.text "")],.settle 0 [.ok (.text "")]] := by
  apply waveformsAtomic
  simp only [alongCons,alongNil,and_true]
  have single {t : Waiting Source JsError Payload (Except JsError Waveform) ScopeCall} :
      List.Pairwise (fun t t' => ∀ c c', InSection c t → InSection c' t' → c = c') [t] :=
    List.pairwise_singleton _ t
  have beside {t t' : Waiting Source JsError Payload (Except JsError Waveform) ScopeCall}
      (last : ∀ c, ¬ InSection c t) :
      List.Pairwise (fun t t' => ∀ c c', InSection c t → InSection c' t' → c = c') [t,t'] :=
    List.pairwise_pair.mpr fun c _ inside => absurd inside (last c)
  refine ⟨single,single,single,single,single,beside ?_,beside ?_,single,single,single⟩
  all_goals
    rintro c ⟨b,-,needs⟩
    exact lastNeedsNothing _ _ c needs

/- The waveform of channel 1 is made of the preamble and the samples of channel 2. -/
theorem interleavedReadsMixSources :
    ¬ Throughout (scopeStep .rigolDho800) Atomic (start none ⟨none,[]⟩)
      [.call (.readWaveform 1),.call (.readWaveform 2),.settle 0 [.ok (.text "")],
        .settle 0 [.ok (.text "")],.settle 0 [.ok (.text "")],.settle 0 [.ok (.text "")],
        .settle 0 [.ok (.text "")],.settle 0 [.ok (.text "")],.settle 0 [.ok (.text "0,0,2")],
        .settle 0 [.ok (.text "0,0,2")],.settle 0 [.ok (.block [1,2])]] := by
  intro all
  have own := all.last (.readWaveform 1)
    (.ok ⟨1,[some ⟨some (.channel 2),.text "0,0,2"⟩],[some ⟨some (.channel 2),.block [1,2]⟩]⟩)
    (List.mem_singleton.mpr rfl) _ rfl
  simpa [ScopeCall.source] using own.1 _ (List.mem_singleton.mpr rfl)

end LxiWeb.ScopeWaveforms
