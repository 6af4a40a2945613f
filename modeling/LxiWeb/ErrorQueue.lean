import LxiWeb.RingBuffers
import LxiWeb.ScpiFraming

/-! The error queue of an instrument: the lines that `SYST:ERR?` answers with, and the loop that
drains them over any port. Time stamps are left out. -/
namespace LxiWeb.ErrorQueue
open JsText RingBuffers ScpiFraming

structure SystErr where
  code : Int
  message : List Char
  deriving DecidableEq, Repr

def quoted : List Char → Option (List Char × List Char)
  | [] => none
  | '"' :: rest => some ([],rest)
  | ['\\'] => none
  | '\\' :: c :: rest => (quoted rest).map (Prod.map (fun body => '\\' :: c :: body) id)
  | c :: rest => (quoted rest).map (Prod.map (c :: ·) id)

-- `replace(/\\"/g, '"')`
def unescape : List Char → List Char
  | [] => []
  | '\\' :: '"' :: rest => '"' :: unescape rest
  | c :: rest => c :: unescape rest

-- `/no error/i`, which folds ASCII letters only
def noError (message : List Char) : Bool :=
  (message.map Char.toLower).tails.any fun t => "no error".toList.isPrefixOf t

/- `\d+\s*,\s*`: the number, and the text behind the comma. -/
def codeAndText (line : List Char) : Option (Nat × List Char) :=
  if leadingDigits line = [] then none
  else
    match (line.dropWhile Char.isDigit).dropWhile isSpace with
    | ',' :: t => some (digitsValue (leadingDigits line),t.dropWhile isSpace)
    | _ => none

/- `"((?:[^"\\]|\\.)*)"\s*$` -/
def quotedText : List Char → Option (List Char)
  | '"' :: t =>
      match quoted t with
      | some (body,after) => if after.all isSpace then some body else none
      | none => none
  | _ => none

def unsignedRow (line : List Char) : Option (Nat × List Char) :=
  match codeAndText line with
  | none => none
  | some (n,text) => (quotedText text).map (n,·)

def systErrRow : List Char → Option (Int × List Char)
  | '-' :: t => (unsignedRow t).map fun row => (-(row.1 : Int),row.2)
  | t => (unsignedRow t).map fun row => (row.1,row.2)

def parseSystErrLine (line : String) : Option SystErr :=
  let trimmed := trim line.toList
  if trimmed = [] then none
  else
    match systErrRow trimmed with
    | none => some ⟨0,trimmed⟩
    | some (code,body) =>
        if code = 0 ∧ noError (unescape body) then none else some ⟨code,unescape body⟩

example : parseSystErrLine "-113,\"Undefined header\"" = some ⟨-113,"Undefined header".toList⟩ := by decide

abbrev Reply := Except JsError String

def toEntry (line : String) (parsed : SystErr) : DeviceErrorEntry :=
  ⟨parsed.code,String.ofList parsed.message,String.ofList (trim line.toList)⟩

/- `query` is `port.query("SYST:ERR?")` with the state of the port and what is behind it. -/
def drainSystErr {σ : Type} (query : σ → Reply × σ) : Nat → σ → List DeviceErrorEntry × σ
  | 0, s => ([],s)
  | maxIterations + 1, s =>
      match query s with
      | (.error _,s) => ([],s)
      | (.ok line,s) =>
          match parseSystErrLine line with
          | none => ([],s)
          | some parsed =>
              let (out,s) := drainSystErr query maxIterations s
              (toEntry line parsed :: out,s)

def scripted (replies : Nat → Reply) (i : Nat) : Reply × Nat := (replies i,i + 1)

def dropSign : List Char → List Char
  | '+' :: t => t
  | '-' :: t => t
  | t => t

def messageOf (text : List Char) : List Char := ((quotedText text).map unescape).getD text

def sentinel (line : List Char) : Bool :=
  match codeAndText (dropSign line) with
  | some (n,text) => n = 0 && noError (messageOf text)
  | none => false

def parsedRow : Reply → Option DeviceErrorEntry
  | .error _ => none
  | .ok line => (systErrRow (trim line.toList)).map fun row => toEntry line ⟨row.1,unescape row.2⟩

/- A reply that ends the queue: a failed one, an empty one, one that cannot be parsed, and the
sentinel, whatever its spelling. -/
def endsQueue : Reply → Bool
  | .error _ => true
  | .ok line => trim line.toList = [] || sentinel (trim line.toList) || (systErrRow (trim line.toList)).isNone

/- The replies that may be read and come before the first one that ends the queue. -/
def beforeEnd (replies : Nat → Reply) (from_ max : Nat) : List Reply :=
  ((List.range' from_ max).map replies).takeWhile fun r => !endsQueue r

/- From the query `from_` on, `max` queries at most. -/
structure StopsAtEnd (replies : Nat → Reply) (from_ max : Nat) : Prop where
  rows : (drainSystErr (scripted replies) max from_).1 = (beforeEnd replies from_ max).filterMap parsedRow
  queries : (drainSystErr (scripted replies) max from_).2 =
    from_ + min ((beforeEnd replies from_ max).length + 1) max

def unreadable : Reply → Bool
  | .error _ => false
  | .ok line => trim line.toList ≠ [] && (systErrRow (trim line.toList)).isNone

def halts : Reply → Bool
  | .error _ => true
  | .ok line => (parseSystErrLine line).isNone

section
variable {line : String} {t : List Char}

theorem rowSource {code body} (row : systErrRow t = some (code,body)) :
    ∃ n text, codeAndText (dropSign t) = some (n,text) ∧ quotedText text = some body ∧
      (code = 0 ↔ n = 0) := by
  have unsigned {n : Nat} {u body} (source : unsignedRow u = some (n,body)) :
      ∃ text, codeAndText u = some (n,text) ∧ quotedText text = some body := by
    unfold unsignedRow at source
    cases found : codeAndText u with
    | none => simp [found] at source
    | some pair =>
      obtain ⟨m,text⟩ := pair
      simp only [found,Option.map_eq_some_iff,Prod.mk.injEq] at source
      obtain ⟨inner,quote,rfl,rfl⟩ := source
      exact ⟨text,rfl,quote⟩
  unfold systErrRow at row
  split at row
  · obtain ⟨⟨n,inner⟩,source,same⟩ := Option.map_eq_some_iff.mp row
    obtain ⟨rfl,rfl⟩ := Prod.mk.inj same
    obtain ⟨text,found,quote⟩ := unsigned source
    exact ⟨n,text,found,quote,by simp⟩
  · rename_i other
    obtain ⟨⟨n,inner⟩,source,same⟩ := Option.map_eq_some_iff.mp row
    obtain ⟨rfl,rfl⟩ := Prod.mk.inj same
    obtain ⟨text,found,quote⟩ := unsigned source
    have plain : dropSign t = t := by
      unfold dropSign
      split
      · simp [codeAndText,leadingDigits] at found
      · exact absurd rfl (other _)
      · rfl
    rw [plain]
    exact ⟨n,text,found,quote,by simp⟩

theorem sentinelRow {code body} (row : systErrRow t = some (code,body)) :
    sentinel t = true ↔ code = 0 ∧ noError (unescape body) = true := by
  obtain ⟨n,text,found,quote,zero⟩ := rowSource row
  simp [sentinel,found,messageOf,quote,zero]

theorem endsIff (r : Reply) : endsQueue r = true ↔ halts r = true ∨ unreadable r = true := by
  cases r with
  | error err => simp [endsQueue,halts]
  | ok line =>
    simp only [endsQueue,halts,unreadable,parseSystErrLine]
    by_cases blank : trim line.toList = []
    · simp [blank]
    · cases row : systErrRow (trim line.toList) with
      | none => simp [blank]
      | some pair =>
        obtain ⟨code,body⟩ := pair
        simp only [blank,decide_false,Bool.false_or,Option.isNone_some,Bool.or_false,sentinelRow row,
          if_false]
        split <;> simp_all

theorem parsedRead (read : unreadable (.ok line) = false) (more : halts (.ok line) = false) :
    ∃ parsed, parseSystErrLine line = some parsed ∧ parsedRow (.ok line) = some (toEntry line parsed) := by
  simp only [unreadable,halts,parseSystErrLine,parsedRow] at read more ⊢
  by_cases blank : trim line.toList = []
  · simp [blank] at more
  · cases row : systErrRow (trim line.toList) with
    | none => simp [blank,row] at read
    | some pair =>
      simp only [row,if_neg blank] at more ⊢
      split at more
      · simp at more
      · rename_i kept
        exact ⟨_,if_neg kept,rfl⟩

end

section
variable {replies : Nat → Reply} {k n : Nat}

def Readable (replies : Nat → Reply) (from_ max : Nat) : Prop :=
  ∀ i, from_ ≤ i → i < from_ + max → unreadable (replies i) = true →
    ∃ j, from_ ≤ j ∧ j < i ∧ halts (replies j) = true

theorem stopsHalt (halt : halts (replies k) = true) : StopsAtEnd replies k (n + 1) := by
  have ends : endsQueue (replies k) = true := (endsIff _).mpr (.inl halt)
  have none_ : beforeEnd replies k (n + 1) = [] := by simp [beforeEnd,List.range'_succ,ends]
  have drained : drainSystErr (scripted replies) (n + 1) k = ([],k + 1) := by
    unfold drainSystErr
    simp only [scripted]
    cases reply : replies k with
    | error err => rfl
    | ok line =>
      rw [reply,halts,Option.isNone_iff_eq_none] at halt
      simp [halt]
  constructor
  · rw [drained,none_]
    rfl
  · rw [drained,none_]
    simp

theorem stopsUnread (unread : unreadable (replies k) = true) : ¬ StopsAtEnd replies k (n + 1) := by
  intro stops
  have ends : endsQueue (replies k) = true := (endsIff _).mpr (.inr unread)
  have none_ : beforeEnd replies k (n + 1) = [] := by simp [beforeEnd,List.range'_succ,ends]
  have rows := stops.rows
  rw [none_] at rows
  cases reply : replies k with
  | error err => simp [reply,unreadable] at unread
  | ok line =>
    have kept : parseSystErrLine line = some ⟨0,trim line.toList⟩ := by
      simp only [reply,unreadable,Bool.and_eq_true,decide_eq_true_eq,Option.isNone_iff_eq_none] at unread
      simp [parseSystErrLine,unread]
    simp [drainSystErr,scripted,reply,kept] at rows

theorem stopsRow (read : unreadable (replies k) = false) (more : halts (replies k) = false) :
    StopsAtEnd replies k (n + 1) ↔ StopsAtEnd replies (k + 1) n := by
  have goesOn : endsQueue (replies k) = false := by
    rw [Bool.eq_false_iff,ne_eq,endsIff,read,more]
    simp
  have next : beforeEnd replies k (n + 1) = replies k :: beforeEnd replies (k + 1) n := by
    simp [beforeEnd,List.range'_succ,goesOn]
  cases reply : replies k with
  | error err => simp [reply,halts] at more
  | ok line =>
    rw [reply] at read more
    obtain ⟨parsed,found,row⟩ := parsedRead read more
    have drained : drainSystErr (scripted replies) (n + 1) k =
        (toEntry line parsed :: (drainSystErr (scripted replies) n (k + 1)).1,
          (drainSystErr (scripted replies) n (k + 1)).2) := by
      simp [drainSystErr,scripted,reply,found]
    constructor
    · rintro ⟨rows,queries⟩
      rw [drained,next] at rows queries
      rw [reply,List.filterMap_cons_some row] at rows
      simp only [List.length_cons] at queries
      exact ⟨(List.cons.inj rows).2,by omega⟩
    · rintro ⟨rows,queries⟩
      constructor
      · rw [drained,next,reply,List.filterMap_cons_some row,rows]
      · rw [drained,next]
        simp only [List.length_cons,queries]
        omega

theorem readableRow (read : unreadable (replies k) = false) (more : halts (replies k) = false) :
    Readable replies k (n + 1) ↔ Readable replies (k + 1) n := by
  constructor
  · intro readable i after before unread
    obtain ⟨j,first,earlier,halt⟩ := readable i (by omega) (by omega) unread
    by_cases same : j = k
    · simp [same,more] at halt
    · exact ⟨j,by omega,earlier,halt⟩
  · intro readable i after before unread
    by_cases same : i = k
    · simp [same,read] at unread
    · obtain ⟨j,first,earlier,halt⟩ := readable i (by omega) (by omega) unread
      exact ⟨j,by omega,earlier,halt⟩

theorem stopsReadable (replies : Nat → Reply) (max from_ : Nat) :
    StopsAtEnd replies from_ max ↔ Readable replies from_ max := by
  induction max generalizing from_ with
  | zero =>
    refine iff_of_true ⟨rfl,by simp [drainSystErr]⟩ ?_
    intro i after before
    omega
  | succ n ih =>
    by_cases unread : unreadable (replies from_) = true
    · refine iff_of_false (stopsUnread unread) fun readable => ?_
      obtain ⟨j,first,earlier,_⟩ := readable from_ le_rfl (by omega) unread
      omega
    · by_cases halt : halts (replies from_) = true
      · refine iff_of_true (stopsHalt halt) fun i after before unread' => ?_
        refine ⟨from_,le_rfl,?_,halt⟩
        by_contra late
        obtain rfl : i = from_ := by omega
        exact unread unread'
      · rw [Bool.not_eq_true] at unread halt
        rw [stopsRow unread halt,readableRow unread halt,ih]

end

theorem drainStopsAtEnd (replies : Nat → Reply) (maxIterations : Nat) :
    StopsAtEnd replies 0 maxIterations ↔
      ∀ i < maxIterations, unreadable (replies i) = true → ∃ j < i, halts (replies j) = true := by
  rw [stopsReadable]
  simp [Readable]

/- A queue that is empty, in the spelling of an instrument that writes the sign. -/
theorem signedSentinelIsRow : ¬ StopsAtEnd (fun _ => .ok "+0,\"No error\"") 0 256 := by
  rw [stopsReadable]
  intro readable
  obtain ⟨j,_,earlier,_⟩ := readable 0 le_rfl (by decide) (by decide)
  omega

end LxiWeb.ErrorQueue
