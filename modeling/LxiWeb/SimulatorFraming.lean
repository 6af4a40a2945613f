import LxiWeb.EventRuns
import LxiWeb.ScpiFraming
import Mathlib.Data.List.Forall2

/-! The simulator's end of the wire: the encoder of its binary replies, and the line splitter in
front of its sessions. -/
namespace LxiWeb.SimulatorFraming
open EventRuns JsText ScpiFraming

def encodeIeee488Block (bytes : Bytes) : Except JsError Bytes :=
  let lenStr := toString bytes.length
  if lenStr.length > 9 then
    .error ⟨.error,s!"IEEE 488.2 definite-length block length exceeds 9 digits: {lenStr}"⟩
  else .ok (encode s!"#{lenStr.length}{lenStr}" ++ bytes)

/- What `sendBinary` writes between its command and the terminator. It refuses nothing. -/
def sentBlock (data : Bytes) : Except JsError Bytes := .ok (sendBinary [] "" data)

/- The two encoders agree on a payload, and what they make of it is read back in front of `rest`. -/
structure RoundTrip (payload rest : Bytes) : Prop where
  agree : encodeIeee488Block payload = sentBlock payload ∨
    (∃ err, encodeIeee488Block payload = .error err) ∧ ∃ err, sentBlock payload = .error err
  readBack : ∀ block, encodeIeee488Block payload = .ok block ∨ sentBlock payload = .ok block →
    consumeBinaryBlock (block ++ LF :: rest) = .ok (some (payload,rest))

theorem encodesShort {payload : Bytes} (short : payload.length < 1000000000) :
    encodeIeee488Block payload = sentBlock payload := by
  have few := (shortDigits payload.length).mpr short
  simp only [encodeIeee488Block,gt_iff_lt,if_neg (Nat.not_lt.mpr few),sentBlock,sendBinary,
    List.append_nil]
  rfl

theorem refusesLong {payload : Bytes} (long : 1000000000 ≤ payload.length) :
    ∃ err, encodeIeee488Block payload = .error err := by
  have many : (toString payload.length).length > 9 :=
    Nat.lt_of_not_le fun few => Nat.not_lt.mpr long ((shortDigits _).mp few)
  exact ⟨_,if_pos many⟩

theorem longDisagrees {payload : Bytes} (long : 1000000000 ≤ payload.length) (rest : Bytes) :
    ¬ RoundTrip payload rest := by
  intro trip
  obtain ⟨err,refused⟩ := refusesLong long
  rcases trip.agree with same | ⟨_,_,sent⟩
  · rw [refused] at same
    simp [sentBlock] at same
  · simp [sentBlock] at sent

theorem blockRoundTrip (payload rest : Bytes) : RoundTrip payload rest ↔ payload.length < 1000000000 := by
  refine ⟨fun trip => ?_,fun short => ?_⟩
  · by_contra long
    exact longDisagrees (Nat.not_lt.mp long) rest trip
  · have same := encodesShort short
    refine ⟨.inl same,fun block made => ?_⟩
    obtain ⟨b,rfl,sends⟩ := sendsBlock short
    rw [same,or_self,sentBlock,sends] at made
    obtain rfl := Except.ok.inj made
    simpa [encode] using consumeBlockWhole b rest

/- The session sends a block of ten length digits; the simulator refuses to. -/
theorem tenDigitsDisagree : ¬ RoundTrip (List.replicate 1000000000 0) [] := by
  apply longDisagrees
  rw [List.length_replicate]

/- A connection of the simulator: the bytes that are not split yet, how many calls of `drain` wait
for a handler, and the lines handed to `handleLine`. -/
structure Connection where
  buffer : Bytes
  waiting : Nat
  handed : List String
  deriving DecidableEq, Repr

def connect : Connection := ⟨[],0,[]⟩

-- `Buffer.toString("utf8")` keeps a byte order mark
def toText (bytes : Bytes) : String := String.ofList (decodeChars none bytes)

def takeLine (buffer : Bytes) : Option (String × Bytes) :=
  match buffer.idxOf? LF with
  | none => none
  | some idx => some (toText (trimCr (buffer.take idx)),buffer.drop (idx+1))

/- `drain` up to its `await`. -/
def drain (c : Connection) : Connection :=
  match takeLine c.buffer with
  | none => c
  | some (line,buffer) => ⟨buffer,c.waiting + 1,c.handed ++ [line]⟩

/- Each chunk starts another `drain`; where a handler is done, its `drain` goes round again. -/
inductive Event where
  | data (chunk : Bytes)
  | handled
  deriving DecidableEq, Repr

def step (c : Connection) : Event → Connection
  | .data chunk => drain { c with buffer := c.buffer ++ chunk }
  | .handled =>
      match c.waiting with
      | 0 => c
      | waiting + 1 => drain { c with waiting }

def chunkOf : Event → Bytes
  | .data chunk => chunk
  | .handled => []

def delivered (events : List Event) : Bytes := events.flatMap chunkOf

structure ParsedCommand where
  raw : List Char
  header : List Char
  normalized : List Char
  args : List (List Char)
  isQuery : Bool
  deriving DecidableEq, Repr

def parseCommand (toUpperCase : List Char → List Char) (line : String) : ParsedCommand :=
  let raw := trim line.toList
  if raw = [] then ⟨raw,[],[],[],false⟩
  else
    let headerPart := raw.takeWhile fun c => !isSpace c
    let argPart := trim (raw.dropWhile fun c => !isSpace c)
    let isQuery := headerPart.getLast? = some '?'
    let header := toUpperCase headerPart
    let normalized := if header.head? = some ':' then header.tail else header
    let args :=
      if argPart = [] then [] else ((argPart.splitOn ',').map trim).filter fun arg => arg ≠ []
    ⟨raw,header,normalized,args,isQuery⟩

/- The line is read as the command that was written; for a block it has, byte for byte, the command,
the header and the payload that were sent. -/
def Carries : Request → String → Prop
  | .command text, line => ∀ toUpperCase, parseCommand toUpperCase line = parseCommand toUpperCase text
  | .block command data, line => encode line = sendBinary [] command data

def commandOf : Request → String
  | .command text | .block text _ => text

/- A payload that is well-formed UTF-8 without a LF and does not end in CR. -/
def PlainPayload : Request → Prop
  | .command _ => True
  | .block _ data => LF ∉ data ∧ data.getLast? ≠ some CR ∧ ∃ text, data = encode text

structure Split (stream : Bytes) (c : Connection) (lines : List Line) : Prop where
  stream : stream = lines.flatMap Line.bytes ++ c.buffer
  handed : c.handed = lines.map fun l => toText (trimCr l.body)
  rest : c.waiting = 0 → LF ∉ c.buffer

theorem takeLineWhole (l : Line) (rest : Bytes) :
    takeLine (l.bytes ++ rest) = some (toText (trimCr l.body),rest) := by
  simp [takeLine,Line.bytes,l.found]

theorem takeLineNone {buffer : Bytes} (noLf : LF ∉ buffer) : takeLine buffer = none := by
  simp [takeLine,List.idxOf?_eq_none_iff.mpr noLf]

theorem drainSplit {stream : Bytes} {c : Connection} (lines : List Line)
    (whole : stream = lines.flatMap Line.bytes ++ c.buffer)
    (handed : c.handed = lines.map fun l => toText (trimCr l.body)) :
    ∃ lines, Split stream (drain c) lines := by
  by_cases some_ : LF ∈ c.buffer
  · obtain ⟨l,rest,same⟩ := firstLine some_
    refine ⟨lines ++ [l],?_⟩
    unfold drain
    rw [same,takeLineWhole]
    exact {
      stream := by simp [whole,same]
      handed := by simp [handed]
      rest := fun none_ => absurd none_ (Nat.succ_ne_zero _) }
  · refine ⟨lines,?_⟩
    unfold drain
    rw [takeLineNone some_]
    exact ⟨whole,handed,fun _ => some_⟩

theorem stepSplit {stream : Bytes} {c : Connection} {lines : List Line} (split : Split stream c lines)
    (e : Event) : ∃ lines, Split (stream ++ chunkOf e) (step c e) lines := by
  cases e with
  | data chunk =>
    apply drainSplit lines
    · simp [split.stream,chunkOf]
    · exact split.handed
  | handled =>
    simp only [chunkOf,List.append_nil,step]
    split
    · exact ⟨lines,split⟩
    · exact drainSplit lines split.stream split.handed

theorem runSplit (events : List Event) : ∃ lines, Split (delivered events) (run step connect events) lines := by
  have general (events : List Event) {stream c lines} (split : Split stream c lines) :
      ∃ lines, Split (stream ++ delivered events) (run step c events) lines := by
    induction events generalizing stream c lines with
    | nil => exact ⟨lines,by simpa [delivered] using split⟩
    | cons e rest ih =>
      obtain ⟨lines,next⟩ := stepSplit split e
      simpa [delivered] using ih next
  have start : Split [] connect [] := ⟨rfl,rfl,fun _ => List.not_mem_nil⟩
  simpa using general events start

def lineOf (body : Bytes) : String := toText (trimCr body)

theorem toTextEncode (text : String) : toText (encode text) = text := by
  rw [toText,decodeWhole,String.ofList_toList]

theorem endsInCr (text : String) :
    (encode text).getLast? = some CR ↔ text.toList.getLast? = some '\r' :=
  asciiLast (b := CR) (by decide) text

theorem encodeCr (chars : List Char) :
    encode (String.ofList (chars ++ ['\r'])) = encode (String.ofList chars) ++ [CR] := by
  rw [encodeAppend]
  rfl

theorem encodeLine (body : Bytes) : encode (lineOf body) = body ↔
    body.getLast? ≠ some CR ∧ ∃ text, body = encode text := by
  constructor
  · intro whole
    refine ⟨fun cut => ?_,lineOf body,whole.symm⟩
    have last := cut
    rw [← whole,endsInCr] at last
    obtain ⟨chars,same⟩ := List.getLast?_eq_some_iff.mp last
    have text : lineOf body = String.ofList (chars ++ ['\r']) := by
      rw [← same,String.ofList_toList]
    have shorter : lineOf body = String.ofList chars := by
      rw [text,encodeCr] at whole
      rw [lineOf,trimCr,if_pos cut,← whole,List.dropLast_concat,toTextEncode]
    have equal := congrArg String.toList (text.symm.trans shorter)
    simp at equal
  · rintro ⟨uncut,text,rfl⟩
    rw [lineOf,trimCr,if_neg uncut,toTextEncode]

theorem trimLine (text : String) : trim (lineOf (encode text)).toList = trim text.toList := by
  by_cases cut : (encode text).getLast? = some CR
  · obtain ⟨chars,same⟩ := List.getLast?_eq_some_iff.mp ((endsInCr text).mp cut)
    have whole : text = String.ofList (chars ++ ['\r']) := by rw [← same,String.ofList_toList]
    rw [lineOf,trimCr,if_pos cut,whole,encodeCr,List.dropLast_concat,toTextEncode,
      String.toList_ofList,String.toList_ofList,trimSpaceLast (by decide)]
  · rw [lineOf,trimCr,if_neg cut,toTextEncode]

theorem parseTrimmed {line text : String} (same : trim line.toList = trim text.toList) (toUpperCase) :
    parseCommand toUpperCase line = parseCommand toUpperCase text := by
  simp only [parseCommand,same]

def bodyOf (f : Request) : Bytes := frame [] f

def headOf (command : String) (data : Bytes) : String :=
  command ++ s!"#{(toString data.length).length}{toString data.length}"

theorem blockBody (command : String) (data : Bytes) :
    bodyOf (.block command data) = encode (headOf command data) ++ data := by
  simp [bodyOf,frame,sendBinary,headOf,encode]

theorem headText (command : String) (data : Bytes) : (headOf command data).toList =
    command.toList ++ '#' :: (Nat.toDigits 10 (toString data.length).length ++
      Nat.toDigits 10 data.length) := by
  have mark : (toString "#").toList = ['#'] := rfl
  have text : (toString data.length.repr).toList = Nat.toDigits 10 data.length := Nat.toList_repr
  simp [headOf,mark,text]

theorem digitNot {c : Char} {n : Nat} (member : c ∈ Nat.toDigits 10 n) : c ≠ '\r' ∧ c ≠ '\n' := by
  have digit := Nat.isDigit_of_mem_toDigits (by decide) (by decide) member
  constructor
  · rintro rfl
    simp at digit
  · rintro rfl
    simp at digit

theorem headUncut (command : String) (data : Bytes) :
    (encode (headOf command data)).getLast? ≠ some CR := by
  rw [ne_eq,endsInCr,headText]
  intro cut
  have some_ : Nat.toDigits 10 data.length ≠ [] := Nat.toDigits_ne_nil
  rw [← List.cons_append,← List.append_assoc,List.getLast?_append_of_ne_nil _ some_] at cut
  exact (digitNot (List.mem_of_getLast? cut)).1 rfl

theorem headNoLf {command : String} (noLf : '\n' ∉ command.toList) (data : Bytes) :
    LF ∉ encode (headOf command data) := by
  rw [asciiText (b := LF) (by decide),headText]
  intro member
  rcases List.mem_append.mp member with inCommand | inHeader
  · exact noLf inCommand
  · rcases List.mem_cons.mp inHeader with mark | inDigits
    · exact absurd mark (by decide)
    · rcases List.mem_append.mp inDigits with digit | digit
      · exact (digitNot digit).2 rfl
      · exact (digitNot digit).2 rfl

theorem validTail (head : String) (data : Bytes) :
    (∃ text, encode head ++ data = encode text) ↔ ∃ text, data = encode text := by
  constructor
  · rintro ⟨text,whole⟩
    have read : text.toList = head.toList ++ decodeChars none data := by
      rw [← decodeWhole text,← whole,decodeEncode]
    have again : encode text = encode head ++ encode (String.ofList (decodeChars none data)) := by
      simp [encode,read]
    exact ⟨_,List.append_cancel_left (whole.trans again)⟩
  · rintro ⟨text,rfl⟩
    exact ⟨head ++ text,by simp [encode]⟩

theorem blockUncut (command : String) (data : Bytes) :
    (bodyOf (.block command data)).getLast? ≠ some CR ↔ data.getLast? ≠ some CR := by
  rw [blockBody]
  by_cases none_ : data = []
  · subst none_
    simp [headUncut]
  · rw [List.getLast?_append_of_ne_nil _ none_]

theorem carriesLine {f : Request} (noLf : LF ∉ bodyOf f) : Carries f (lineOf (bodyOf f)) ↔ PlainPayload f := by
  cases f with
  | command text =>
    refine iff_of_true (fun toUpperCase => parseTrimmed ?_ toUpperCase) trivial
    simpa [bodyOf,frame,sendCommand] using trimLine text
  | block command data =>
    have free : LF ∉ data := by
      rw [blockBody] at noLf
      exact fun member => noLf (List.mem_append_right _ member)
    have line : Carries (.block command data) (lineOf (bodyOf (.block command data))) ↔
        encode (lineOf (bodyOf (.block command data))) = bodyOf (.block command data) := Iff.rfl
    rw [line,encodeLine,blockUncut,blockBody,validTail]
    simp [PlainPayload,free]

theorem linesUnique {lines : List Line} {buffer : Bytes} {bodies : List Bytes}
    (free : ∀ body ∈ bodies, LF ∉ body) (rest : LF ∉ buffer)
    (same : lines.flatMap Line.bytes ++ buffer = bodies.flatMap (· ++ [LF])) :
    lines.map Line.body = bodies := by
  induction bodies generalizing lines with
  | nil =>
    cases lines with
    | nil => rfl
    | cons l later => simp [Line.bytes] at same
  | cons body bodies ih =>
    cases lines with
    | nil =>
      have here : LF ∈ buffer := by
        rw [List.flatMap_nil,List.nil_append] at same
        simp [same]
      exact absurd here rest
    | cons l later =>
      simp only [List.flatMap_cons,Line.bytes,List.append_assoc,List.singleton_append] at same
      have noLf := free body List.mem_cons_self
      obtain ⟨first,others⟩ := cutAt l.noLf noLf same
      rw [List.map_cons,first,ih (fun b member => free b (List.mem_cons_of_mem _ member)) others]

theorem linesCounted (lines : List Line) : (lines.flatMap Line.bytes).count LF = lines.length := by
  induction lines with
  | nil => rfl
  | cons l rest ih => simp [Line.bytes,ih,List.count_eq_zero.mpr l.noLf]

theorem bodiesCounted {bodies : List Bytes}
    (one : (bodies.flatMap (· ++ [LF])).count LF = bodies.length) : ∀ body ∈ bodies, LF ∉ body := by
  have least (bodies : List Bytes) : bodies.length ≤ (bodies.flatMap (· ++ [LF])).count LF := by
    induction bodies with
    | nil => exact Nat.zero_le _
    | cons body bodies ih =>
      simp only [List.flatMap_cons,List.count_append,List.length_cons,List.count_singleton_self]
      omega
  induction bodies with
  | nil => simp
  | cons body bodies ih =>
    simp only [List.flatMap_cons,List.count_append,List.length_cons,List.count_singleton_self] at one
    have more := least bodies
    have none_ : body.count LF = 0 := by omega
    intro b member
    rcases List.mem_cons.mp member with rfl | later
    · exact List.count_eq_zero.mp none_
    · exact ih (by omega) b later

theorem frameBodies (frames : List Request) :
    frames.flatMap (frame [LF]) = (frames.map bodyOf).flatMap (· ++ [LF]) := by
  rw [List.flatMap_map]
  congr 1
  funext f
  cases f <;> simp [bodyOf,frame,sendCommand,sendBinary]

theorem plainNoLf {f : Request} (noLf : '\n' ∉ (commandOf f).toList) (plain : PlainPayload f) :
    LF ∉ bodyOf f := by
  cases f with
  | command text =>
    simp only [bodyOf,frame,sendCommand,List.append_nil]
    rw [asciiText (b := LF) (by decide)]
    exact noLf
  | block command data =>
    rw [blockBody,List.mem_append]
    exact fun member => member.elim (headNoLf noLf data) plain.1

/- Once every handler is done, the lines handed over carry the frames one by one exactly if every
payload is plain, however the frames were cut into chunks. -/
theorem framesHanded (frames : List Request) (noLf : ∀ f ∈ frames, '\n' ∉ (commandOf f).toList)
    (events : List Event) (whole : delivered events = frames.flatMap (frame [LF]))
    (done : (run step connect events).waiting = 0) :
    List.Forall₂ Carries frames (run step connect events).handed ↔ ∀ f ∈ frames, PlainPayload f := by
  obtain ⟨lines,split⟩ := runSplit events
  have stream := split.stream
  rw [whole,frameBodies] at stream
  have rest := split.rest done
  have handed (free : ∀ body ∈ frames.map bodyOf, LF ∉ body) :
      (run step connect events).handed = frames.map fun f => lineOf (bodyOf f) := by
    have bodies := linesUnique free rest stream.symm
    rw [split.handed]
    calc lines.map (fun l => toText (trimCr l.body)) = (lines.map Line.body).map lineOf := by
          rw [List.map_map]
          rfl
      _ = frames.map fun f => lineOf (bodyOf f) := by
          rw [bodies,List.map_map]
          rfl
  constructor
  · intro carried
    have size : lines.length = (frames.map bodyOf).length := by
      rw [List.length_map,carried.length_eq,split.handed,List.length_map]
    have count := congrArg (List.count LF) stream
    rw [List.count_append,linesCounted,List.count_eq_zero.mpr rest,Nat.add_zero,size] at count
    have free := bodiesCounted count
    intro f member
    have carries : List.Forall₂ Carries frames (frames.map fun f => lineOf (bodyOf f)) := by
      rw [← handed free]
      exact carried
    rw [List.forall₂_map_right_iff,List.forall₂_same] at carries
    exact (carriesLine (free _ (List.mem_map_of_mem member))).mp (carries f member)
  · intro plain
    have free : ∀ body ∈ frames.map bodyOf, LF ∉ body := by
      intro body member
      obtain ⟨f,inside,rfl⟩ := List.mem_map.mp member
      exact plainNoLf (noLf f inside) (plain f inside)
    rw [handed free,List.forall₂_map_right_iff,List.forall₂_same]
    exact fun f member => (carriesLine (free _ (List.mem_map_of_mem member))).mpr (plain f member)

/- Two frames in two chunks, the cut inside the second command. -/
theorem framesHandedChunked :
    List.Forall₂ Carries [.command "*RST",.block ":DATA VOLATILE," [0x41,0x42]]
      (run step connect [.data (encode "*RST\n:DAT"),.handled,.data (encode "A VOLATILE,#12AB\n"),
        .handled]).handed :=
  (framesHanded [.command "*RST",.block ":DATA VOLATILE," [0x41,0x42]] (by decide)
    [.data (encode "*RST\n:DAT"),.handled,.data (encode "A VOLATILE,#12AB\n"),.handled]
    (by decide) (by decide)).mpr (by
      intro f member
      rcases List.mem_cons.mp member with rfl | later
      · trivial
      · obtain rfl := List.mem_singleton.mp later
        exact ⟨by decide,by decide,"AB",by decide⟩)

def upload : Request := .block ":SOURce1:TRACe:DATA:DAC16 VOLATILE,END," [0x0A,0x00]

/- A 16-bit sample of value 10 has a LF in it, and the upload is handed over in two pieces. -/
theorem sampleSplitsUpload :
    ¬ List.Forall₂ Carries [upload]
      (run step connect [.data (frame [LF] upload),.handled,.handled]).handed := by
  intro carried
  exact absurd carried.length_eq (by decide)

end LxiWeb.SimulatorFraming
