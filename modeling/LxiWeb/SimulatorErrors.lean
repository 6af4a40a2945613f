import LxiWeb.ErrorQueue
import Mathlib.Data.List.Induction

/-! The simulator's error queue read through `SYST:ERR?`: what it writes on the wire, and what the
drain makes of it. -/
namespace LxiWeb.SimulatorErrors
open ErrorQueue JsText ScpiFraming

/- Codes are written in digits; the runtime rounds those of 2 ^ 53 and more, and writes those of 10 ^ 21 and
more with an exponent. -/
structure ErrorQueueItem where
  code : Int
  message : String
  deriving DecidableEq, Repr

def readErrorQueue : List ErrorQueueItem → String × List ErrorQueueItem
  | [] => ("0,\"No error\"",[])
  | entry :: queue => (s!"{entry.code},\"{entry.message}\"",queue)

/- The queue behind a connection, and the bytes of its replies that are not read yet. -/
structure Link where
  buffer : Bytes
  queue : List ErrorQueueItem
  deriving DecidableEq, Repr

def query (s : Link) : Reply × Link :=
  let (text,queue) := readErrorQueue s.queue
  let buffer := s.buffer ++ encode text ++ [LF]
  match consumeLine buffer with
  | some (line,buffer) => (.ok line,⟨buffer,queue⟩)
  | none => (.error (scpiTimeoutError "query timed out"),⟨buffer,queue⟩)

def pairOf (e : ErrorQueueItem) : Int × String := (e.code,e.message)

structure RoundTrip (maxIterations : Nat) (queue : List ErrorQueueItem) : Prop where
  rows : (drainSystErr query maxIterations ⟨[],queue⟩).1.map (fun e => (e.code,e.message)) = queue.map pairOf
  empty : (drainSystErr query maxIterations ⟨[],queue⟩).2.queue = []

def Plain (message : List Char) : Prop :=
  '"' ∉ message ∧ (message.reverse.takeWhile (· = '\\')).length % 2 = 0

instance (message : List Char) : Decidable (Plain message) := by unfold Plain; infer_instance

theorem trailingSkip {c : Char} {m : List Char} (other : c ≠ '\\') :
    ((c :: m).reverse.takeWhile (· = '\\')).length = (m.reverse.takeWhile (· = '\\')).length := by
  rw [List.reverse_cons,List.takeWhile_append]
  split
  · rename_i all
    simp [other,all]
  · rfl

theorem trailingPair (c : Char) (m : List Char) :
    (('\\' :: c :: m).reverse.takeWhile (· = '\\')).length % 2 =
      (m.reverse.takeWhile (· = '\\')).length % 2 := by
  rw [List.reverse_cons,List.reverse_cons,List.append_assoc,List.takeWhile_append]
  split
  · rename_i all
    by_cases slash : c = '\\'
    · simp [slash,all]
    · simp [slash,all]
  · rfl

theorem quotedPlain {m : List Char} (bare : '"' ∉ m) : quoted (m ++ ['"']) =
    if (m.reverse.takeWhile (· = '\\')).length % 2 = 0 then some (m,[]) else none := by
  induction m using List.twoStepInduction with
  | nil => rfl
  | singleton c =>
    have other : c ≠ '"' := fun same => bare (by simp [same])
    by_cases slash : c = '\\'
    · subst slash
      rfl
    · simp [quoted,slash]
  | cons_cons c d m pair one =>
    rw [List.mem_cons,not_or] at bare
    by_cases slash : c = '\\'
    · subst slash
      have later : '"' ∉ m := fun member => bare.2 (List.mem_cons_of_mem d member)
      rw [trailingPair]
      simp only [List.cons_append,quoted,pair later]
      split <;> rfl
    · rw [trailingSkip slash]
      have next := one d bare.2
      rw [List.cons_append,quoted,next]
      · split <;> rfl
      · exact fun same => bare.1 same.symm
      · exact fun same _ => slash same
      · exact fun _ _ same _ => slash same

theorem unescapeCons (c : Char) (l : List Char) : (unescape (c :: l)).length ≤ (unescape l).length + 1 := by
  generalize whole : c :: l = w
  fun_cases unescape w with
  | case1 => cases whole
  | case2 rest =>
    obtain ⟨rfl,rfl⟩ := List.cons.inj whole
    simp [unescape]
  | case3 d rest _ =>
    obtain ⟨rfl,rfl⟩ := List.cons.inj whole
    simp

theorem unescapeLength (l : List Char) : (unescape l).length ≤ l.length := by
  induction l with
  | nil => exact le_rfl
  | cons c l ih =>
    have step := unescapeCons c l
    rw [List.length_cons]
    omega

theorem unescapeBare {l : List Char} (bare : '"' ∉ l) : unescape l = l := by
  fun_induction unescape l with
  | case1 => rfl
  | case2 rest ih => simp at bare
  | case3 c rest _ ih =>
    rw [List.mem_cons,not_or] at bare
    rw [ih bare.2]

theorem quotedSource {l body after : List Char} (read : quoted l = some (body,after)) :
    l = body ++ '"' :: after ∧ ('"' ∈ body → (unescape body).length < body.length) := by
  fun_induction quoted l generalizing body with
  | case1 => cases read
  | case2 rest =>
    obtain ⟨rfl,rfl⟩ := Prod.mk.inj (Option.some.inj read)
    simp
  | case3 => cases read
  | case4 c rest ih =>
    obtain ⟨⟨inner,rest'⟩,found,same⟩ := Option.map_eq_some_iff.mp read
    obtain ⟨rfl,rfl⟩ := Prod.mk.inj same
    obtain ⟨rfl,shorter⟩ := ih found
    refine ⟨rfl,fun member => ?_⟩
    by_cases quote : c = '"'
    · subst quote
      have bound := unescapeLength inner
      simp only [unescape,List.length_cons]
      omega
    · have inside : '"' ∈ inner := by simpa [Ne.symm quote] using member
      have first := unescapeCons '\\' (c :: inner)
      have second := unescapeCons c inner
      have less := shorter inside
      simp only [List.length_cons]
      omega
  | case5 c rest quote _ _ ih =>
    obtain ⟨⟨inner,rest'⟩,found,same⟩ := Option.map_eq_some_iff.mp read
    obtain ⟨rfl,rfl⟩ := Prod.mk.inj same
    obtain ⟨rfl,shorter⟩ := ih found
    refine ⟨rfl,fun member => ?_⟩
    have inside : '"' ∈ inner := by
      rcases List.mem_cons.mp member with same | inside
      · exact absurd same.symm quote
      · exact inside
    have first := unescapeCons c inner
    have less := shorter inside
    simp only [List.length_cons]
    omega

def lineOf (e : ErrorQueueItem) : String := s!"{e.code},\"{e.message}\""

theorem lineText (e : ErrorQueueItem) : (lineOf e).toList =
    (toString e.code).toList ++ ',' :: '"' :: (e.message.toList ++ ['"']) := by
  have mark : (toString "\"").toList = ['"'] := rfl
  have between : (toString ",\"").toList = [',','"'] := rfl
  have text : (toString e.message).toList = e.message.toList := rfl
  simp [lineOf,mark,between,text]

theorem codeRead (n : Nat) (rest : List Char) :
    codeAndText ((toString n).toList ++ ',' :: '"' :: rest) = some (n,'"' :: rest) := by
  obtain ⟨digits,letters,value⟩ := decimalDigits n
  have text : (toString n).toList = digits.map digitChar := by
    rw [letters,Nat.toString_eq_ofList_toDigits,String.toList_ofList]
  have some_ : digits ≠ [] := by
    rintro rfl
    exact Nat.toDigits_ne_nil letters.symm
  have all : ∀ c ∈ digits.map digitChar, c.isDigit = true := by
    intro c member
    obtain ⟨d,_,rfl⟩ := List.mem_map.mp member
    exact digitCharDigit d
  have comma : Char.isDigit ',' = false := by decide
  have number : leadingDigits (digits.map digitChar ++ ',' :: '"' :: rest) = digits.map Fin.val := by
    rw [leadingDigits,List.takeWhile_append_of_pos all,List.takeWhile_cons,comma]
    simp [Function.comp_def,digitCharValue]
  rw [text,codeAndText,number,if_neg (by simpa using some_),List.dropWhile_append_of_pos all,
    List.dropWhile_cons,comma]
  have noSpace : isSpace ',' = false := by decide
  have quote : isSpace '"' = false := by decide
  simp [noSpace,quote,value]

theorem rowOf (e : ErrorQueueItem) : systErrRow (lineOf e).toList =
    (quotedText ('"' :: (e.message.toList ++ ['"']))).map (e.code,·) := by
  have unsigned (n : Nat) := codeRead n (e.message.toList ++ ['"'])
  rw [lineText]
  cases code : e.code with
  | ofNat n =>
    have sign : (toString (Int.ofNat n)).toList = (toString n).toList := rfl
    rw [sign]
    unfold systErrRow
    split
    · rename_i t first
      have read := unsigned n
      rw [first] at read
      simp [codeAndText,leadingDigits] at read
    · rw [unsignedRow,unsigned]
      simp [Function.comp_def]
  | negSucc n =>
    have sign : (toString (Int.negSucc n)).toList = '-' :: (toString (n + 1)).toList := by
      have whole : toString (Int.negSucc n) = "-" ++ toString (n + 1) := rfl
      simp [whole]
    rw [sign,List.cons_append,systErrRow,unsignedRow,unsigned]
    simp [Function.comp_def,Int.negSucc_eq]

theorem codeSolid (n : Int) : ∃ c rest, (toString n).toList = c :: rest ∧ c.val.toNat < 0x80 ∧
    ∀ d ∈ c :: rest, isSpace d = false := by
  have unsigned (n : Nat) : ∃ c rest, (toString n).toList = c :: rest ∧ c.val.toNat < 0x80 ∧
      ∀ d ∈ c :: rest, isSpace d = false := by
    obtain ⟨digits,letters,_⟩ := decimalDigits n
    have text : (toString n).toList = digits.map digitChar := by
      rw [letters,Nat.toString_eq_ofList_toDigits,String.toList_ofList]
    cases digits with
    | nil => exact absurd letters.symm Nat.toDigits_ne_nil
    | cons d digits =>
      have ascii (d : Fin 10) : (digitChar d).val.toNat < 0x80 := by revert d; decide
      refine ⟨digitChar d,digits.map digitChar,text,ascii d,fun c member => ?_⟩
      obtain ⟨d,_,rfl⟩ := List.mem_map.mp (show c ∈ (d :: digits).map digitChar from member)
      exact digitCharNotSpace d
  cases n with
  | ofNat n => exact unsigned n
  | negSucc n =>
    have whole : toString (Int.negSucc n) = "-" ++ toString (n + 1) := rfl
    obtain ⟨c,rest,text,_,solid⟩ := unsigned (n + 1)
    refine ⟨'-',c :: rest,?_,by decide,List.forall_mem_cons.mpr ⟨by decide,solid⟩⟩
    rw [whole,String.toList_append,text]
    rfl

theorem lineTrimmed (e : ErrorQueueItem) : trim (lineOf e).toList = (lineOf e).toList := by
  obtain ⟨c,rest,first,_,solid⟩ := codeSolid e.code
  have whole : (lineOf e).toList = c :: ((rest ++ ',' :: '"' :: e.message.toList) ++ ['"']) := by
    rw [lineText,first]
    simp
  rw [whole,trimSolid (solid c List.mem_cons_self) (by decide)]

theorem lineRead {text : String} {c : Char} {rest : List Char} (first : text.toList = c :: rest)
    (ascii : c.val.toNat < 0x80) (closed : text.toList.getLast? = some '"') (line : '\n' ∉ text.toList) :
    consumeLine (encode text ++ [LF]) = some (text,[]) := by
  have uncut : (encode text).getLast? ≠ some CR := by
    intro cut
    have last := (asciiLast (b := CR) (by decide) text).mp cut
    rw [closed] at last
    exact absurd last (by decide)
  have noLf : LF ∉ encode text := by
    rw [asciiText (b := LF) (by decide)]
    exact line
  have whole := consumeLineWhole ⟨encode text,noLf⟩ []
  rw [Line.bytes,List.append_nil,Line.text,trimCr,if_neg uncut,decodeAscii first ascii] at whole
  exact whole

theorem queryLine (e : ErrorQueueItem) (queue : List ErrorQueueItem) (line : '\n' ∉ e.message.toList) :
    query ⟨[],e :: queue⟩ = (.ok (lineOf e),⟨[],queue⟩) := by
  obtain ⟨c,rest,first,ascii,solid⟩ := codeSolid e.code
  have begins : (lineOf e).toList = c :: (rest ++ ',' :: '"' :: (e.message.toList ++ ['"'])) := by
    rw [lineText,first,List.cons_append]
  have closed : (lineOf e).toList.getLast? = some '"' := by
    rw [lineText,← List.cons_append,← List.cons_append,← List.append_assoc,List.getLast?_concat]
  have noLf : '\n' ∉ (lineOf e).toList := by
    intro member
    rw [lineText,first,List.mem_append] at member
    rcases member with code | later
    · exact absurd (solid _ code) (by decide)
    · simp [line] at later
  have read := lineRead begins ascii closed noLf
  simp only [query,readErrorQueue,List.nil_append]
  rw [← lineOf,read]

theorem parsedPlain {e : ErrorQueueItem} (plain : Plain e.message.toList)
    (error : ¬ (e.code = 0 ∧ noError e.message.toList)) :
    parseSystErrLine (lineOf e) = some ⟨e.code,e.message.toList⟩ := by
  have row : systErrRow (lineOf e).toList = some (e.code,e.message.toList) := by
    simp [rowOf,quotedText,quotedPlain plain.1,plain.2]
  have some_ : (lineOf e).toList ≠ [] := by simp [lineText]
  simp only [parseSystErrLine,lineTrimmed,if_neg some_,row,unescapeBare plain.1,if_neg error]

theorem closesLast {m body : List Char} (read : quotedText ('"' :: (m ++ ['"'])) = some body) :
    body = m ∧ quoted (m ++ ['"']) = some (m,[]) := by
  simp only [quotedText] at read
  cases found : quoted (m ++ ['"']) with
  | none => simp [found] at read
  | some pair =>
    obtain ⟨inner,after⟩ := pair
    simp only [found,Option.ite_none_right_eq_some,Option.some.injEq] at read
    obtain ⟨spaces,rfl⟩ := read
    have whole := (quotedSource found).1
    rcases List.eq_nil_or_concat after with none_ | ⟨front,c,last⟩
    · subst none_
      obtain rfl := List.append_cancel_right whole
      exact ⟨rfl,rfl⟩
    · rw [List.concat_eq_append] at last
      subst last
      have quote : c = '"' := by
        have ends := congrArg List.getLast? whole
        rw [List.getLast?_concat,← List.cons_append,← List.append_assoc,List.getLast?_concat] at ends
        exact (Option.some.inj ends).symm
      rw [List.all_append,quote,Bool.and_eq_true] at spaces
      exact absurd spaces.2 (by decide)

theorem parsedOther {e : ErrorQueueItem} (other : ¬ Plain e.message.toList) {parsed : SystErr}
    (found : parseSystErrLine (lineOf e) = some parsed) : parsed.message ≠ e.message.toList := by
  have some_ : (lineOf e).toList ≠ [] := by simp [lineText]
  simp only [parseSystErrLine,lineTrimmed,if_neg some_,rowOf] at found
  intro same
  have length := congrArg List.length same
  cases text : quotedText ('"' :: (e.message.toList ++ ['"'])) with
  | none =>
    rw [text] at found
    obtain rfl := Option.some.inj found
    simp [lineText] at length
    omega
  | some body =>
    obtain ⟨rfl,read⟩ := closesLast text
    rw [text] at found
    simp only [Option.map_some] at found
    split at found
    · cases found
    · obtain rfl := Option.some.inj found
      by_cases bare : '"' ∈ e.message.toList
      · have shorter := (quotedSource read).2 bare
        simp only at length
        omega
      · rw [quotedPlain bare] at read
        have even := (Option.ite_none_right_eq_some.mp read).1
        exact other ⟨bare,even⟩

theorem roundTripNil (n : Nat) : RoundTrip n [] := by
  cases n with
  | zero => exact ⟨rfl,rfl⟩
  | succ n =>
    have answer : query ⟨[],[]⟩ = (.ok "0,\"No error\"",⟨[],[]⟩) := by decide
    have none_ : parseSystErrLine "0,\"No error\"" = none := by decide
    constructor
    · simp [drainSystErr,answer,none_]
    · simp [drainSystErr,answer,none_]

theorem roundTripCons {n : Nat} {e : ErrorQueueItem} {queue : List ErrorQueueItem}
    (line : '\n' ∉ e.message.toList) (error : ¬ (e.code = 0 ∧ noError e.message.toList)) :
    RoundTrip (n + 1) (e :: queue) ↔ Plain e.message.toList ∧ RoundTrip n queue := by
  have answer := queryLine e queue line
  constructor
  · intro trip
    have rows := trip.rows
    have empty := trip.empty
    cases found : parseSystErrLine (lineOf e) with
    | none => simp [drainSystErr,answer,found] at rows
    | some parsed =>
      simp only [drainSystErr,answer,found,List.map_cons,List.cons.injEq,toEntry,pairOf,
        Prod.mk.injEq] at rows empty
      refine ⟨?_,rows.2,empty⟩
      by_contra other
      exact parsedOther other found (by rw [← rows.1.2,String.toList_ofList])
  · rintro ⟨plain,trip⟩
    have found := parsedPlain plain error
    constructor
    · simp [drainSystErr,answer,found,toEntry,pairOf,trip.rows]
    · simp [drainSystErr,answer,found,trip.empty]

theorem roundTripIff {n : Nat} {queue : List ErrorQueueItem} (few : queue.length ≤ n)
    (lines : ∀ e ∈ queue, '\n' ∉ e.message.toList)
    (errors : ∀ e ∈ queue, ¬ (e.code = 0 ∧ noError e.message.toList)) :
    RoundTrip n queue ↔ ∀ e ∈ queue, Plain e.message.toList := by
  induction queue generalizing n with
  | nil => exact iff_of_true (roundTripNil n) (by simp)
  | cons e queue ih =>
    rw [List.forall_mem_cons] at lines errors
    obtain ⟨m,rfl⟩ : ∃ m, n = m + 1 := ⟨n - 1,by rw [List.length_cons] at few; omega⟩
    rw [roundTripCons lines.1 errors.1,ih (Nat.le_of_succ_le_succ few) lines.2 errors.2,
      List.forall_mem_cons]

theorem errorQueueRoundTrip (queue : List ErrorQueueItem) (few : queue.length ≤ 255)
    (lines : ∀ e ∈ queue, '\n' ∉ e.message.toList)
    (errors : ∀ e ∈ queue, ¬ (e.code = 0 ∧ noError e.message.toList)) :
    RoundTrip 256 queue ↔ ∀ e ∈ queue, Plain e.message.toList :=
  roundTripIff (by omega) lines errors

theorem errorQueueRoundTripTwo :
    RoundTrip 256 [⟨-113,"Undefined header: FOO"⟩,⟨0,"a\\\\"⟩] ↔
      ∀ e ∈ ([⟨-113,"Undefined header: FOO"⟩,⟨0,"a\\\\"⟩] : List ErrorQueueItem), Plain e.message.toList :=
  errorQueueRoundTrip _ (by decide) (by decide) (by decide)

/- The simulator quotes a command that has quotes of its own. -/
theorem quotesSplitMessage : ¬ RoundTrip 256 [⟨-113,"Undefined header: DISP \"x\""⟩] := by
  rw [roundTripIff (by decide) (by decide) (by decide)]
  decide

end LxiWeb.SimulatorErrors
