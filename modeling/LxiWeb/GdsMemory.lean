import LxiWeb.ScpiChunking

/-! The waveform memory of a GW Instek oscilloscope, read over a `ScpiSession`: a dump of many lines
asked for with a query that reads one. Time stamps are left out. -/
namespace LxiWeb.GdsMemory
open EventRuns JsText ScpiChunking ScpiFraming ScpiReplyAttribution ScpiSession

/- The runtime's numbers: `Number.parseFloat`, `Number.isFinite`, `n || m` and the operators. -/
structure Numbers (F : Type) where
  parseFloat : List Char → F
  isFinite : F → Bool
  orElse : F → F → F
  ofNat : Nat → F
  mul : F → F → F
  sub : F → F → F
  div : F → F → F

structure Waveform (F : Type) where
  channel : Nat
  x : List F
  y : List F
  xIncrement : F
  xOrigin : F
  deriving DecidableEq

def marker : List Char := "Raw Waveform Data:".toList

def startsWithFold (pattern text : List Char) : Bool :=
  (pattern.map Char.toLower).isPrefixOf (text.map Char.toLower)

/- `text.search(/Raw Waveform Data:/i)` as the text in front of the match and the text from it on. -/
def splitAtMarker : List Char → List Char × Option (List Char)
  | [] => ([],none)
  | c :: t =>
      if startsWithFold marker (c :: t) then ([],some (c :: t))
      else
        let (before,found) := splitAtMarker t
        (c :: before,found)

-- `replace(/^[^\n]*\n/, "")`
def dropLine (text : List Char) : List Char :=
  if '\n' ∈ text then (text.dropWhile (· ≠ '\n')).tail else text

/- A `Map` of the header lines: the last line with a key counts. The keys that are asked for are
ASCII, and no other letter has one of their letters as its small letter. -/
def fieldOf (header : List Char) (key : List Char) : Option (List Char) :=
  let entries := (header.splitOn '\n').filterMap fun line =>
    if ',' ∈ line then
      some ((trim (line.takeWhile (· ≠ ','))).map Char.toLower,trim ((line.dropWhile (· ≠ ',')).tail))
    else none
  (entries.reverse.find? fun entry => entry.1 = key).map Prod.snd

section
variable {F : Type} (num : Numbers F)

def samplesOf (body : List Char) : List F :=
  (((body.splitOnP fun c => isSpace c || c = ',').filter (· ≠ [])).map num.parseFloat).filter num.isFinite

def decodeGdsMemory (raw : List Char) (channel : Nat) : Waveform F :=
  let text := raw.filter (· ≠ '\r')
  let (header,found) := splitAtMarker text
  let body := (found.map dropLine).getD []
  let number (key : String) (otherwise : F) :=
    num.orElse (num.parseFloat ((fieldOf header key.toList).getD [])) otherwise
  let xIncrement := number "sampling period" (num.parseFloat "1e-6".toList)
  let verticalScale := number "vertical scale" (num.ofNat 1)
  let verticalPosition := number "vertical position" (num.ofNat 0)
  let samples := samplesOf num body
  let SCALE := num.div verticalScale (num.ofNat 25)
  { channel
    x := (List.range samples.length).map fun i => num.mul (num.ofNat i) xIncrement
    y := samples.map fun s => num.sub (num.mul s SCALE) verticalPosition
    xIncrement
    xOrigin := num.ofNat 0 }

-- `safeQuery`: a query that fails counts as an empty reply.
def safeQuery : Result → List Char
  | .ok (.text reply) => reply.toList
  | _ => []

def memoryCommand (channel : Nat) : String := s!":CHANnel{channel}:MEMory?"

/- The call that `readWaveform` makes on the session, and what it returns once that is settled. -/
def memoryQuery (channel : Nat) : WireEvent := .query (memoryCommand channel) (some 10000)

def readWaveform (channel : Nat) (settled : Result) : Waveform F :=
  decodeGdsMemory num (safeQuery settled) channel

end

structure Dump where
  header : List (List Char)
  samples : List Int
  lines : ∀ line ∈ header, '\n' ∉ line

def Dump.data (d : Dump) : List Char := [','].intercalate (d.samples.map fun s => (toString s).toList)

def Dump.text (d : Dump) : List Char :=
  d.header.flatMap (· ++ ['\n']) ++ marker ++ '\n' :: d.data

def Dump.bytes (d : Dump) : Bytes := encode (String.ofList d.text) ++ [LF]

def device (d : Dump) (channel : Nat) (answers : Job → Line) (job : Job) : Bytes :=
  if job.request = .command (memoryCommand channel) then d.bytes else (answers job).bytes

def steady : WireEvent → Bool
  | .query .. | .deliver _ | .writeResolved _ => true
  | .queryBinary .. | .deadline _ => false

section
variable {F : Type} (num : Numbers F)

def OwnReplies (d : Dump) (channel : Nat) (answers : Job → Line) (b : Bench) : Prop :=
  ∀ job result, (job,result) ∈ results b.session.log →
    if job.request = .command (memoryCommand channel) then
      readWaveform num channel result = decodeGdsMemory num d.text channel
    else result = .ok (.text (answers job).text)

def ReadsWhole (d : Dump) (channel : Nat) : Prop :=
  ∀ (answers : Job → Line) (later : List WireEvent), later.all steady →
    Throughout (step (device d channel answers)) (OwnReplies num d channel answers) connect
      (memoryQuery channel :: later)

end

theorem dumpFront (d : Dump) : ∃ (first second : Line) (rest : Bytes),
    d.bytes = first.bytes ++ (second.bytes ++ rest) := by
  have twice : 2 ≤ d.bytes.count LF := by
    have text : d.text = (d.header.flatMap (· ++ ['\n']) ++ marker) ++ ('\n' :: d.data) := by
      simp [Dump.text]
    have between : encode (String.ofList ('\n' :: d.data)) = LF :: encode (String.ofList d.data) := by
      have newline : String.utf8EncodeChar '\n' = [LF] := by decide
      simp [encode,newline]
    rw [Dump.bytes,text,encodeAppend,between]
    simp only [List.count_append,List.count_cons_self]
    omega
  obtain ⟨first,left,whole⟩ := firstLine (List.count_pos_iff.mp (show 0 < d.bytes.count LF by omega))
  have one : first.bytes.count LF = 1 := by
    simp [Line.bytes,List.count_eq_zero.mpr first.noLf]
  rw [whole,List.count_append,one] at twice
  obtain ⟨second,rest,again⟩ := firstLine (List.count_pos_iff.mp (show 0 < left.count LF by omega))
  exact ⟨first,second,rest,by rw [whole,again]⟩

theorem nextAnswerIsDump {d : Dump} {channel : Nat} {answers : Job → Line} {first second : Line} {rest : Bytes}
    (dump : d.bytes = first.bytes ++ (second.bytes ++ rest)) (command : String) :
    let b := run (ScpiChunking.step (device d channel answers)) connect [memoryQuery channel,.writeResolved 0,
      .deliver d.bytes.length,.query command none,.writeResolved 1]
    (⟨1,.command command,.line,5000⟩,.ok (.text second.text)) ∈ results b.session.log := by
  have read := consumeLineWhole first (second.bytes ++ rest)
  rw [← dump] at read
  have next := consumeLineWhole second rest
  have none_ : consumeLine [] = none := by decide
  simp [runCons,runNil,memoryQuery,ScpiChunking.step,toBench,sessionEvent,leftOnWire,ScpiSession.step,
    enqueue,pump,push,connect,create,handedJobs,device,resumePump,armDeadline,tryDeliver,read,next,none_,
    handleData,completeInFlight,settle,release,clearDeadline,results,resultOf]

theorem identityOther (channel : Nat) : "*IDN?" ≠ memoryCommand channel := by
  intro same
  have first := congrArg (fun text => text.toList.head?) same
  have colon : (toString ":CHANnel").toList = ':' :: "CHANnel".toList := rfl
  simp [memoryCommand,colon] at first

theorem gdsDumpNeverRead {F : Type} (num : Numbers F) (d : Dump) (channel : Nat) : ¬ ReadsWhole num d channel := by
  intro whole
  obtain ⟨first,second,rest,dump⟩ := dumpFront d
  let zero : Line := ⟨[0x30],by decide⟩
  let one : Line := ⟨[0x31],by decide⟩
  have apart : zero.text ≠ one.text := by decide
  obtain ⟨own,other⟩ : ∃ own : Line, own.text ≠ second.text := by
    by_cases same : zero.text = second.text
    · exact ⟨one,fun again => apart (same.trans again.symm)⟩
    · exact ⟨zero,same⟩
  have answered := whole (fun _ => own) [.writeResolved 0,.deliver d.bytes.length,.query "*IDN?" none,
    .writeResolved 1] rfl _ (List.prefix_refl _) _ _ (nextAnswerIsDump dump "*IDN?")
  simp [identityOther channel] at answered
  exact other answered.symm

def twoSamples : Dump := ⟨["Format,1.00".toList],[0,-45],by decide⟩

theorem identityGetsMarker :
    let answers : Job → Line := fun _ => ⟨encode "GW,GDS-1054B",by decide⟩
    let b := run (ScpiChunking.step (device twoSamples 1 answers)) connect [memoryQuery 1,.writeResolved 0,
      .deliver 64,.query "*IDN?" none,.writeResolved 1,.deliver 64]
    (results b.session.log).map Prod.snd = [.ok (.text "Format,1.00"),.ok (.text "Raw Waveform Data:")] ∧
    ∀ (F : Type) (num : Numbers F), ¬ OwnReplies num twoSamples 1 answers b := by
  refine ⟨by decide,fun F num own => ?_⟩
  have answered := own ⟨1,.command "*IDN?",.line,5000⟩ (.ok (.text "Raw Waveform Data:")) (by decide)
  rw [if_neg (by decide)] at answered
  exact absurd answered (by decide)

end LxiWeb.GdsMemory
