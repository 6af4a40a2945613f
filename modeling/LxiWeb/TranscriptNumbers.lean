import LxiWeb.KeyedMerge
import LxiWeb.SessionRecords

/-! The sequence numbers of a session's transcript entries over all the connections it has had, and
the panels that page and merge by them. -/
namespace LxiWeb.TranscriptNumbers
open EventRuns KeyedMerge RingBuffers SessionManager SessionEvents SessionRecords

def entriesOf (id : Nat) : SessionEvent → List TranscriptEntry
  | .transcript sessionId entries => if sessionId = id then entries else []
  | _ => []

def transcriptOf (m : Manager) (id : Nat) : List TranscriptEntry := m.emitted.flatMap (entriesOf id)

/- What a page with `since` leaves of the entries, and what `onUpdate` makes of those shown and a
batch. -/
def since (sinceSeq : Nat) (entries : List TranscriptEntry) : List TranscriptEntry :=
  entries.filter fun e => sinceSeq < e.seq

def onUpdate (entries batch : List TranscriptEntry) : List TranscriptEntry :=
  merge TranscriptEntry.seq entries batch

/- The numbers rise from each entry to the next; whoever has the entries up to one of them gets the
others by paging from its number and, with them, all of them by merging. -/
structure Numbered (entries : List TranscriptEntry) : Prop where
  rising : Increasing TranscriptEntry.seq entries
  paged : ∀ seen last rest, entries = seen ++ last :: rest → since last.seq entries = rest
  merged : ∀ seen rest, entries = seen ++ rest → onUpdate seen rest = entries

theorem numberedIff (entries : List TranscriptEntry) :
    Numbered entries ↔ Increasing TranscriptEntry.seq entries := by
  refine ⟨Numbered.rising,fun rising => ⟨rising,?_,?_⟩⟩
  · rintro seen last rest rfl
    obtain ⟨_,after,early⟩ := List.pairwise_append.mp rising
    have later := (List.pairwise_cons.mp after).1
    have none : since last.seq seen = [] := by
      refine List.filter_eq_nil_iff.mpr fun e member => ?_
      have less := early e member last List.mem_cons_self
      simpa using Nat.le_of_lt less
    have all : since last.seq rest = rest := List.filter_eq_self.mpr fun e member => by
      simpa using later e member
    have parts : since last.seq (seen ++ last :: rest) =
        since last.seq seen ++ since last.seq rest := by simp [since]
    rw [parts,none,all,List.nil_append]
  · rintro seen rest rfl
    exact mergeParts rising fun row => List.mem_append

/- An entry is recorded only while no other connection attempt of its session has recorded any. -/
def OneRing (m : Manager) (e : Event) : Prop :=
  ∀ a ∈ recordsOn m e, ∀ b, Of m (owner m a) b → b ≠ a → nextSeq m b = 1

structure Given (m : Manager) : Prop where
  booked : Booked m
  ringed : Ringed m
  positive : ∀ id a, Of m id a → 1 ≤ nextSeq m a
  below : ∀ id, ∀ e ∈ transcriptOf m id, ∃ a, Of m id a ∧ e.seq < nextSeq m a
  first : ∀ id a, Of m id a → 1 < nextSeq m a → ∃ e ∈ transcriptOf m id, e.seq = 1

structure Single (m : Manager) : Prop extends Given m where
  one : ∀ id a b, Of m id a → Of m id b → 1 < nextSeq m a → 1 < nextSeq m b → a = b
  rising : ∀ id, Increasing TranscriptEntry.seq (transcriptOf m id)

structure Still (m m' : Manager) : Prop where
  same : ∀ id, transcriptOf m' id = transcriptOf m id
  kept : ∀ id a, Of m id a → Of m' id a ∧ nextSeq m' a = nextSeq m a
  fresh : ∀ id a, Of m' id a → Of m id a ∨ nextSeq m' a = 1

theorem Still.trans {m m' m'' : Manager} (first : Still m m') (second : Still m' m'') : Still m m'' where
  same id := (second.same id).trans (first.same id)
  kept id a own := by
    obtain ⟨own',seq⟩ := first.kept id a own
    obtain ⟨own'',seq'⟩ := second.kept id a own'
    exact ⟨own'',seq'.trans seq⟩
  fresh id a own := by
    rcases second.fresh id a own with before | new
    · rcases first.fresh id a before with old | new
      · exact .inl old
      · exact .inr ((second.kept id a before).2.trans new)
    · exact .inr new

theorem Still.single {m m' : Manager} (still : Still m m') (booked : Booked m') (ringed : Ringed m')
    (single : Single m) : Single m' := by
  have before {id a} (own : Of m' id a) (used : 1 < nextSeq m' a) :
      Of m id a ∧ nextSeq m' a = nextSeq m a := by
    rcases still.fresh id a own with old | new
    · exact ⟨old,(still.kept id a old).2⟩
    · omega
  exact {
    booked := booked
    ringed := ringed
    positive := by
      intro id a own
      rcases still.fresh id a own with old | new
      · rw [(still.kept id a old).2]
        exact single.positive id a old
      · omega
    below := by
      intro id e member
      rw [still.same] at member
      obtain ⟨a,own,less⟩ := single.below id e member
      obtain ⟨own',seq⟩ := still.kept id a own
      exact ⟨a,own',seq ▸ less⟩
    first := by
      intro id a own used
      obtain ⟨old,seq⟩ := before own used
      rw [still.same]
      exact single.first id a old (seq ▸ used)
    one := by
      intro id a b own own' used used'
      obtain ⟨old,seq⟩ := before own used
      obtain ⟨old',seq'⟩ := before own' used'
      exact single.one id a b old old' (seq ▸ used) (seq' ▸ used')
    rising := fun id => by
      rw [still.same]
      exact single.rising id }

theorem stillKeeps {m m' : Manager} (keeps : Keeps m m') : Still m m' where
  same id := by
    obtain ⟨updates,emitted⟩ := keeps.emitted
    simp [transcriptOf,emitted,entriesOf,List.flatMap_map]
  kept id a own := ⟨(keeps.of id a).mpr own,congrArg TranscriptRing.seq (keeps.ring a)⟩
  fresh id a own := .inl ((keeps.of id a).mp own)

theorem stillEmit {m : Manager} {event} (other : ∀ id, entriesOf id event = []) :
    Still m (emit m event) where
  same id := by simp [transcriptOf,other]
  kept _ _ own := ⟨own,rfl⟩
  fresh _ _ := .inl

theorem stillEstablish (m : Manager) (k : Nat) : Still m (establish m k) where
  same _ := rfl
  kept id a own := by
    have old := establishOlder m k (Nat.ne_of_lt own.1)
    exact ⟨⟨Nat.lt_succ_of_lt own.1,by rw [owner,old]; exact own.2⟩,by rw [nextSeq,old]; rfl⟩
  fresh id a own := by
    by_cases new : a = m.nextAttempt
    · subst new
      exact .inr (by simp [nextSeq,newAttempt,TranscriptRing.create])
    · left
      have early : a < m.nextAttempt + 1 := own.1
      refine ⟨by omega,?_⟩
      rw [← own.2,owner,owner,establishOlder m k new]

theorem stillListed (m : Manager) (internal) : Still m (listSession m internal) where
  same id := by simp [transcriptOf,entriesOf]
  kept _ _ own := ⟨own,rfl⟩
  fresh _ _ := .inl

theorem stepStill {m : Manager} (given : Given m) {e : Event} (none_ : recordsOn m e = none) :
    Still m (step m e) := by
  have refl : Still m m := ⟨fun _ => rfl,fun _ _ own => ⟨own,rfl⟩,fun _ _ => .inl⟩
  cases e with
  | openSession host port now =>
    simp only [step]
    rcases openSessionCases m host port now with ⟨err,same⟩ | same
    · rw [same]
      exact refl
    · rw [same]
      exact (stillListed m _).trans (stillEstablish _ _)
  | reconnect id =>
    simp only [step]
    rcases reconnectCases m id with same | ⟨m',_,keeps,same⟩
    · rw [same]
      exact refl
    · rw [same]
      exact (stillKeeps keeps).trans (stillEstablish _ id)
  | close id =>
    simp only [step]
    by_cases listed : id ∈ m.sessions
    · obtain ⟨m',keeps,_,same⟩ := closeCases listed
      have off : Still m (deleteSession m id) := ⟨fun _ => rfl,fun _ _ own => ⟨own,rfl⟩,fun _ _ => .inl⟩
      have kept := off.trans (stillKeeps keeps)
      rw [same]
      split
      · exact kept.trans (stillEmit fun _ => rfl)
      · exact kept
    · simpa [close,listed] using refl
  | closeSettled id =>
    simp only [step]
    split
    · refine .trans ?_ (stillEmit fun _ => rfl)
      exact ⟨fun _ => rfl,fun _ _ own => ⟨own,rfl⟩,fun _ _ => .inl⟩
    · exact refl
  | drainSettled a entries =>
    obtain ⟨m',keeps,_,same⟩ := drainCases m a entries
    rw [same]
    split
    · exact (stillKeeps keeps).trans (stillEmit fun _ => rfl)
    · exact stillKeeps keeps
  | recorded a input =>
    have unmade : ¬ a < m.nextAttempt := by simpa [recordsOn] using none_
    simpa [step,unmade] using refl
  | appendTranscript id input =>
    simp only [step,appendCases given.ringed]
    simp only [recordsOn] at none_
    rw [none_]
    exact refl
  | factorySettled | idnSettled | refineSettled | scpiCloseSettled | dropped | pollTick =>
    refine stillKeeps (stepPlain given.booked ?_)
    trivial

theorem stepRecords {m : Manager} (ringed : Ringed m) {e : Event} {a : Nat}
    (records : recordsOn m e = some a) : ∃ input, step m e = record m a input := by
  cases e with
  | recorded b input =>
    simp only [recordsOn] at records
    split at records
    · rename_i made
      obtain rfl := Option.some.inj records
      exact ⟨input,by simp [step,made]⟩
    · simp at records
  | appendTranscript id input =>
    simp only [recordsOn] at records
    exact ⟨input,by simp only [step,appendCases ringed,records]⟩
  | _ => simp [recordsOn] at records

theorem recordsOf {m : Manager} (ringed : Ringed m) {e : Event} {a : Nat}
    (records : recordsOn m e = some a) : Of m (owner m a) a := by
  cases e with
  | recorded b input =>
    simp only [recordsOn] at records
    split at records
    · rename_i made
      obtain rfl := Option.some.inj records
      exact ⟨made,rfl⟩
    · simp at records
  | appendTranscript id input =>
    simp only [recordsOn] at records
    split at records
    · obtain ⟨made,own⟩ := ringed id a records
      exact ⟨made,rfl⟩
    · simp at records
  | _ => simp [recordsOn] at records

section
variable (m : Manager) (a : Nat) (input : TranscriptRecordInput)

theorem recordTranscript (id : Nat) : transcriptOf (record m a input) id =
    transcriptOf m id ++ if owner m a = id then [⟨input,nextSeq m a⟩] else [] := by
  simp only [transcriptOf,record,TranscriptRing.push,emitKeeps,setAttemptKeeps,List.flatMap_append,
    List.flatMap_singleton,entriesOf,nextSeq]

theorem recordSeq (b : Nat) :
    nextSeq (record m a input) b = if b = a then nextSeq m a + 1 else nextSeq m b := by
  by_cases same : b = a <;> simp [nextSeq,record,TranscriptRing.push,same]

end

section
variable {m : Manager} {a : Nat} (single : Single m) (input : TranscriptRecordInput)
include single

theorem recordHighest (own : Of m (owner m a) a)
    (one : ∀ b, Of m (owner m a) b → b ≠ a → nextSeq m b = 1) {e : TranscriptEntry}
    (member : e ∈ transcriptOf m (owner m a)) : e.seq < nextSeq m a := by
  obtain ⟨b,own',less⟩ := single.below _ e member
  by_cases same : b = a
  · exact same ▸ less
  · have lone := one b own' same
    have positive := single.positive _ a own
    omega

theorem recordBelow (own : Of m (owner m a) a) {id : Nat} {e : TranscriptEntry}
    (member : e ∈ transcriptOf (record m a input) id) :
    ∃ b, Of m id b ∧ e.seq < nextSeq (record m a input) b := by
  rw [recordTranscript] at member
  rcases List.mem_append.mp member with old | new
  · obtain ⟨b,own',less⟩ := single.below id e old
    refine ⟨b,own',?_⟩
    rw [recordSeq]
    split
    · rename_i same
      exact Nat.lt_succ_of_lt (same ▸ less)
    · exact less
  · split at new
    · rename_i here
      obtain rfl := List.mem_singleton.mp new
      exact ⟨a,here ▸ own,by simp [recordSeq]⟩
    · simp at new

theorem recordFirst {id b : Nat} (own : Of m id b) (used : 1 < nextSeq (record m a input) b) :
    ∃ e ∈ transcriptOf (record m a input) id, e.seq = 1 := by
  rw [recordSeq] at used
  rw [recordTranscript]
  by_cases known : 1 < nextSeq m b
  · obtain ⟨e,member,seq⟩ := single.first id b own known
    exact ⟨e,List.mem_append_left _ member,seq⟩
  · split at used
    · rename_i same
      subst same
      have positive := single.positive id b own
      have start : nextSeq m b = 1 := by omega
      exact ⟨⟨input,nextSeq m b⟩,by simp [own.2],start⟩
    · exact absurd used known

theorem recordOne (one : ∀ b, Of m (owner m a) b → b ≠ a → nextSeq m b = 1) {id b d : Nat}
    (own : Of m id b) (own' : Of m id d) (many : 1 < nextSeq (record m a input) b)
    (many' : 1 < nextSeq (record m a input) d) : b = d := by
  have used {id b} (own : Of m id b) (same : owner m a = id)
      (used : 1 < nextSeq (record m a input) b) : b = a := by
    subst same
    by_contra other
    rw [recordSeq,if_neg other,one b own other] at used
    omega
  by_cases here : owner m a = id
  · rw [used own here many,used own' here many']
  · have other (k) (mine : Of m id k) : k ≠ a := by
      intro same
      exact here (same ▸ mine.2)
    rw [recordSeq,if_neg (other b own)] at many
    rw [recordSeq,if_neg (other d own')] at many'
    exact single.one id b d own own' many many'

theorem recordSingle (own : Of m (owner m a) a)
    (one : ∀ b, Of m (owner m a) b → b ≠ a → nextSeq m b = 1)
    (booked : Booked (record m a input)) (ringed : Ringed (record m a input)) :
    Single (record m a input) where
  booked := booked
  ringed := ringed
  positive := by
    intro id b own'
    rw [recordOf] at own'
    have positive := single.positive id b own'
    rw [recordSeq]
    split <;> omega
  below := by
    intro id e member
    simp only [recordOf]
    exact recordBelow single input own member
  first := by
    intro id b own' used
    rw [recordOf] at own'
    exact recordFirst single input own' used
  one := by
    intro id b d own' own'' many many'
    rw [recordOf] at own' own''
    exact recordOne single input one own' own'' many many'
  rising := by
    intro id
    rw [recordTranscript]
    split
    · rename_i here
      subst here
      exact increasingSnoc.mpr ⟨single.rising _,fun e => recordHighest single own one⟩
    · simpa using single.rising id

end

theorem createSingle (registry maxSessions transcriptRingMax deviceErrorRingMax) :
    Single (create registry maxSessions transcriptRingMax deviceErrorRingMax) where
  booked := (createTold registry maxSessions transcriptRingMax deviceErrorRingMax).booked
  ringed _ _ holds := by simp [create] at holds
  positive _ a own := absurd own.1 (Nat.not_lt_zero a)
  below _ _ member := absurd member List.not_mem_nil
  first _ a own := absurd own.1 (Nat.not_lt_zero a)
  one _ a _ own := absurd own.1 (Nat.not_lt_zero a)
  rising _ := increasingNil

theorem stepSingle (m : Manager) (e : Event) (single : Single m) (one : OneRing m e) :
    Single (step m e) := by
  have booked := stepBooked single.booked e
  have ringed := stepRinged single.booked single.ringed e
  cases records : recordsOn m e with
  | none => exact (stepStill single.toGiven records).single booked ringed single
  | some a =>
    obtain ⟨input,same⟩ := stepRecords single.ringed records
    rw [same] at booked ringed ⊢
    exact recordSingle single input (recordsOf single.ringed records) (one a records) booked ringed

theorem risingIffOne {m : Manager} (e : Event) (single : Single m) :
    (∀ id, Increasing TranscriptEntry.seq (transcriptOf (step m e) id)) ↔ OneRing m e := by
  refine ⟨?_,fun one => (stepSingle m e single one).rising⟩
  intro rising a records b own other
  obtain ⟨input,same⟩ := stepRecords single.ringed records
  have all := rising (owner m a)
  rw [same,recordTranscript,if_pos rfl,increasingSnoc] at all
  by_contra many
  have positive := single.positive _ b own
  have used : 1 < nextSeq m b := by omega
  obtain ⟨old,member,start⟩ := single.first _ b own used
  have above := all.2 old member
  have used' : 1 < nextSeq m a := by simpa [start] using above
  exact other (single.one _ b a own (recordsOf single.ringed records) used used')

theorem transcriptNumbered (registry : DeviceIdentity → Option DriverEntry)
    (maxSessions transcriptRingMax deviceErrorRingMax : Nat) (events : List Event) :
    Throughout step (fun m => ∀ id, Numbered (transcriptOf m id))
        (create registry maxSessions transcriptRingMax deviceErrorRingMax) events ↔
      Along step OneRing (create registry maxSessions transcriptRingMax deviceErrorRingMax) events := by
  simp only [numberedIff]
  exact throughoutIffAlong stepSingle (fun _ e single => risingIffOne e single)
    (createSingle registry maxSessions transcriptRingMax deviceErrorRingMax) (fun _ => increasingNil)
    events

def identified : TranscriptRecordInput := ⟨.query,"*IDN?",some "RIGOL,DM858,1,2"⟩

/- The ring of a reconnect starts over: the second `*IDN?` has the number of the first. -/
theorem reconnectRepeatsNumber :
    ¬ Throughout step (fun m => ∀ id, Numbered (transcriptOf m id)) (create fun _ => none)
      [.openSession "dmm" none 0,.factorySettled 0 (.ok ()),.recorded 0 identified,
        .idnSettled 0 (.ok "RIGOL,DM858,1,2"),.dropped 0 none,.reconnect 0,
        .factorySettled 1 (.ok ()),.recorded 1 identified] := by
  intro all
  have rising := (all.last 0).rising
  exact absurd rising (by decide)

end LxiWeb.TranscriptNumbers
