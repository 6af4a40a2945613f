import LxiWeb.ReplyTexts
import LxiWeb.ScpiCalls
import LxiWeb.SimulatorReplies

/-! A simulator whose handlers return at once, run command by command: what it answers to a line, and a
port that carries a driver's requests to it. -/
namespace LxiWeb.SimulatedCommands
open JsText ReplyTexts ScpiFraming SimulatorFraming SimulatorReplies
open CallRuns (Left Meets meetsAsyncBind meetsBind runAlone runMethodBind)
open SdgWaveforms (UpperCase joinSplit trimPlain)

variable {V : Type} (sim : Simulator V)

def AtOnce : Prop := ∀ command state, ∃ outcome, (dispatch sim command state).2 = .returns outcome

def Returns (handler : Handler V) : Prop := ∀ command state, ∃ outcome, (handler command state).2 = .returns outcome

def handleLine (line : String) (state : SessionState V) : SessionState V × CommandResult :=
  let command := parseCommand sim.toUpperCase line
  if command.header = [] then (state,.none)
  else
    match dispatch sim command state with
    | (state,.returns outcome) => handled command outcome state
    | (state,.promises) => (state,.none)

def answer (line : String) (state : SessionState V) : SessionState V × Bytes :=
  let (state,result) := handleLine sim line state
  (afterResult result state,(writes sim result).flatten)

def serve (state : SessionState V) (r : Request) : SessionState V × Bytes := answer sim (lineOf (bodyOf r)) state

def serveAll : SessionState V → List Request → SessionState V × Bytes
  | state, [] => (state,[])
  | state, r :: rest =>
      let first := serve sim state r
      let more := serveAll first.1 rest
      (more.1,first.2 ++ more.2)

def after (requests : List Request) : SessionState V := (serveAll sim sim.personality.initialState requests).1

def replyTo (before : List Request) (r : Request) : Bytes := (serve sim (after sim before) r).2

/- A driver's request at an instrument that answers at once; the line is read as the `ScpiSession` does. -/
def port (state : SessionState V) : ScpiCalls.Request → SessionState V × ScpiCalls.Answer
  | .write command => ((answer sim command state).1,some "")
  | .writeBinary header payload => ((serve sim state (.block header payload)).1,some "")
  | .query command =>
      let (state,bytes) := answer sim command state
      (state,(consumeLine bytes).map Prod.fst)

def sent : ScpiCalls.Request → Request
  | .write command | .query command => .command command
  | .writeBinary header payload => .block header payload

def asksLine : ScpiCalls.Request → Bool
  | .query _ => true
  | _ => false

/- The request is one line, answered with a line where it is a query and not at all otherwise. -/
def Understood (state : SessionState V) (r : ScpiCalls.Request) : Prop :=
  LF ∉ bodyOf (sent r) ∧
    if asksLine r then ∃ l : Line, (serve sim state (sent r)).2 = l.bytes else (serve sim state (sent r)).2 = []

structure Takes (state : SessionState V) (r : ScpiCalls.Request) (next : SessionState V) (a : ScpiCalls.Answer) :
    Prop where
  understood : Understood sim state r
  taken : port sim state r = (next,a)

variable {sim}

section
variable {parsed : ParsedCommand} {state : SessionState V} {handler : Handler V}

theorem dispatchExact (found : sim.personality.exactHandlers parsed.normalized = some handler) :
    dispatch sim parsed state = handler parsed state := by
  rw [dispatch,found]

theorem dispatchPrefix (none_ : sim.personality.exactHandlers parsed.normalized = none)
    {entry : (List Char → Bool) × Handler V}
    (found : sim.personality.prefixHandlers.find? (fun entry => entry.1 parsed.normalized) = some entry) :
    dispatch sim parsed state = entry.2 parsed state := by
  rw [dispatch,none_,found]

theorem dispatchUndefined (none_ : sim.personality.exactHandlers parsed.normalized = none)
    (nowhere : sim.personality.prefixHandlers.find? (fun entry => entry.1 parsed.normalized) = none)
    (silent : sim.personality.responses parsed.normalized = none)
    (uncommon : commonExactHandlers sim parsed.normalized = none) :
    dispatch sim parsed state = (pushError state (-113) s!"Undefined header: {String.ofList parsed.raw}",
      .returns (.ok (placeholder parsed))) := by
  rw [dispatch,none_,nowhere,silent,uncommon]

end

theorem commonReturns {normalized : List Char} {handler : Handler V}
    (found : commonExactHandlers sim normalized = some handler) : Returns handler := by
  intro command state
  unfold commonExactHandlers at found
  split at found <;> first | contradiction | (obtain rfl := Option.some.inj found; exact ⟨_,rfl⟩)

theorem atOnceOwn (exact_ : ∀ normalized handler, sim.personality.exactHandlers normalized = some handler →
      Returns handler)
    (prefix_ : ∀ entry ∈ sim.personality.prefixHandlers, Returns entry.2) : AtOnce sim := by
  intro command state
  unfold dispatch
  split
  · rename_i handler found
    exact exact_ _ handler found command state
  · split
    · rename_i entry found
      exact prefix_ entry (List.mem_of_find?_eq_some found) command state
    · split
      · exact ⟨_,rfl⟩
      · split
        · rename_i handler found
          exact commonReturns found command state
        · exact ⟨_,rfl⟩

theorem serveAllAppend (state : SessionState V) (first last : List Request) :
    serveAll sim state (first ++ last) =
      let served := serveAll sim state first
      let more := serveAll sim served.1 last
      (more.1,served.2 ++ more.2) := by
  induction first generalizing state with
  | nil => rfl
  | cons r rest ih => simp [serveAll,ih]

theorem afterAppend (first last : List Request) :
    after sim (first ++ last) = (serveAll sim (after sim first) last).1 := by
  rw [after,serveAllAppend]
  rfl

theorem answerText (text : String) (state : SessionState V) :
    answer sim (lineOf (encode text)) state = answer sim text state := by
  have same := parseTrimmed (trimLine text) sim.toUpperCase
  simp only [answer,handleLine,same]

theorem commandBody (text : String) : bodyOf (.command text) = encode text := by simp [bodyOf,frame,sendCommand]

theorem serveCommand (text : String) (state : SessionState V) :
    serve sim state (.command text) = answer sim text state := by
  rw [serve,commandBody,answerText]

theorem commandLine {text : String} (whole : '\n' ∉ text.toList) : LF ∉ bodyOf (.command text) := by
  rw [commandBody,asciiText (by decide)]
  exact whole

def normal (head : List Char) : List Char :=
  let header := head.map Char.toUpper
  if header.head? = some ':' then header.tail else header

def asking (head : List Char) : ParsedCommand :=
  ⟨head,head.map Char.toUpper,normal head,[],head.getLast? = some '?'⟩

def telling (head arg : List Char) : ParsedCommand :=
  ⟨head ++ ' ' :: arg,head.map Char.toUpper,normal head,[arg],head.getLast? = some '?'⟩

theorem wordSpan {head rest : List Char} (word : Word head) (ends : ∀ c, rest.head? = some c → isSpace c = true) :
    (head ++ rest).takeWhile (fun c => !isSpace c) = head ∧ (head ++ rest).dropWhile (fun c => !isSpace c) = rest :=
  JsDecimals.spanExact (fun c member => by simp [(word.1.char member).1]) fun c first => by simp [ends c first]

theorem keptFront {text : List Char} (first : ∀ c, text.head? = some c → isSpace c = false) :
    text.dropWhile isSpace = text := by
  cases text with
  | nil => rfl
  | cons c rest => rw [List.dropWhile_cons_of_neg (by simp [first c rfl])]

theorem trimEnds {text : List Char} (first : ∀ c, text.head? = some c → isSpace c = false)
    (last : ∀ c, text.getLast? = some c → isSpace c = false) : trim text = text := by
  rw [trim,keptFront first,keptFront (fun c front => last c (by rwa [List.head?_reverse] at front)),
    List.reverse_reverse]

section
variable (upper : UpperCase) {head arg : List Char}

theorem parseAsk (word : Word head) : parseCommand upper.apply (String.ofList head) = asking head := by
  obtain ⟨front,back⟩ := @wordSpan head [] word nofun
  rw [List.append_nil] at front back
  have nothing : trim [] = [] := by decide
  simp only [parseCommand,String.toList_ofList,trimPlain word.1,if_neg word.1.1,front,back,nothing,
    upper.ascii head word.2,if_true]
  rfl

theorem parseTell (word : Word head) (text : Word arg) :
    parseCommand upper.apply (String.ofList (head ++ ' ' :: arg)) = telling head arg := by
  have space : isSpace ' ' = true := by decide
  obtain ⟨front,back⟩ := @wordSpan head (' ' :: arg) word (by simp [space])
  have begins (c : Char) (first : (head ++ ' ' :: arg).head? = some c) : isSpace c = false := by
    rw [List.head?_append_of_ne_nil head word.1.1] at first
    exact (word.1.char (List.mem_of_head? first)).1
  have ends (c : Char) (last : arg.getLast? = some c) : isSpace c = false :=
    (text.1.char (List.mem_of_getLast? last)).1
  have whole : trim (head ++ ' ' :: arg) = head ++ ' ' :: arg := by
    refine trimEnds begins fun c last => ends c ?_
    rwa [List.getLast?_append_of_ne_nil _ (List.cons_ne_nil _ _),List.getLast?_cons_of_ne_nil text.1.1] at last
  have behind : trim (' ' :: arg) = arg := by
    rw [trim,List.dropWhile_cons_of_pos space]
    exact trimPlain text.1
  have one : arg.splitOn ',' = [arg] := by
    have split := @joinSplit [arg] (by simp) (by simpa using text.1)
    simpa [SdgWaveforms.join] using split
  have kept : ([arg].map trim).filter (fun arg => arg ≠ []) = [arg] := by simp [trimPlain text.1,text.1.1]
  have some_ : head ++ ' ' :: arg ≠ [] := by simp
  simp only [parseCommand,String.toList_ofList,whole,if_neg some_,front,back,behind,one,kept,
    upper.ascii head word.2,if_neg text.1.1]
  rfl

theorem parseText (word : Word head) (rest : List Char) :
    ∃ raw args, parseCommand upper.apply (String.ofList (head ++ ' ' :: rest)) =
      ⟨raw,head.map Char.toUpper,normal head,args,head.getLast? = some '?'⟩ := by
  have begins (c : Char) (first : (head ++ ' ' :: rest).head? = some c) : isSpace c = false := by
    rw [List.head?_append_of_ne_nil head word.1.1] at first
    exact (word.1.char (List.mem_of_head? first)).1
  have closes : head.reverse.dropWhile isSpace = head.reverse :=
    keptFront fun c last => (word.1.char (List.mem_reverse.mp (List.mem_of_head? last))).1
  have trimmed : ∃ tail, trim (head ++ ' ' :: rest) = head ++ tail ∧ ∀ c, tail.head? = some c → isSpace c = true := by
    rw [trim,keptFront begins,List.reverse_append,List.dropWhile_append,closes]
    split
    · exact ⟨[],by rw [List.reverse_reverse,List.append_nil],fun _ first => absurd first (by simp)⟩
    · refine ⟨(List.dropWhile isSpace (' ' :: rest).reverse).reverse,?_,?_⟩
      · rw [List.reverse_append,List.reverse_reverse]
      intro c first
      obtain ⟨more,whole⟩ := List.dropWhile_suffix isSpace (l := (' ' :: rest).reverse)
      have same := congrArg List.reverse whole
      rw [List.reverse_append,List.reverse_reverse] at same
      have front : (' ' :: rest).head? = some c := by
        rw [← same,List.head?_append,first]
        rfl
      obtain rfl := Option.some.inj front
      decide
  obtain ⟨tail,whole,ends⟩ := trimmed
  obtain ⟨front,-⟩ := @wordSpan head tail word ends
  have some_ : head ++ tail ≠ [] := by simp [word.1.1]
  simp only [parseCommand,String.toList_ofList,whole,if_neg some_,front,upper.ascii head word.2]
  exact ⟨_,_,rfl⟩

end

theorem onOffWord (on : Bool) : Word (ScpiCalls.onOff on).toList := by cases on <;> decide

/- The personality runs on the same runtime as the driver and ends its replies with a line feed. -/
structure Speaks (sim : Simulator V) (upper : UpperCase) : Prop where
  toUpperCase : sim.toUpperCase = upper.apply
  terminator : sim.terminator = [LF]

theorem solidWord {text : List Char} (word : Word text) {c : Char} (space : isSpace c = true) : c ∉ text :=
  fun member => absurd (word.1.char member).1 (by simp [space])

theorem wordLine {text : String} (word : Word text.toList) : LF ∉ encode text := by
  rw [asciiText (by decide)]
  exact solidWord word (by decide)

theorem replyRead {text : String} (word : Word text.toList) :
    (consumeLine [encode text,[LF]].flatten).map Prod.fst = some text := by
  obtain ⟨c,rest,first⟩ := List.exists_cons_of_ne_nil word.1.1
  have noLf := wordLine word
  have noCr : (encode text).getLast? ≠ some CR := by
    rw [ne_eq,endsInCr]
    exact fun last => solidWord word (c := '\r') (by decide) (List.mem_of_getLast? last)
  have ascii : c.val.toNat < 0x80 := word.ascii (by simp [first])
  have read := consumeLineWhole ⟨encode text,noLf⟩ []
  rw [Line.text,trimCr,if_neg noCr,decodeAscii first ascii,Line.bytes,List.append_nil] at read
  rw [List.flatten_cons,List.flatten_singleton,read]
  rfl

section
variable {upper : UpperCase} {head arg : List Char} {text command : String} {state next : SessionState V}

theorem answerOf {parsed : ParsedCommand} {result : CommandResult}
    (parses : parseCommand sim.toUpperCase command = parsed) (some_ : parsed.header ≠ [])
    (handles : dispatch sim parsed state = (next,.returns (.ok result))) :
    answer sim command state = (afterResult result next,(writes sim result).flatten) := by
  simp only [answer,handleLine,parses,if_neg some_,handles,handled]

theorem headSome (word : Word head) : head.map Char.toUpper ≠ [] := by simp [word.1.1]

theorem asked (speaks : Speaks sim upper) (word : Word command.toList) (reply : Word text.toList)
    (handles : dispatch sim (asking command.toList) state = (next,.returns (.ok (.line text)))) :
    Takes sim state (.query command) next (some text) := by
  have parses : parseCommand sim.toUpperCase command = asking command.toList := by
    rw [speaks.toUpperCase,← parseAsk upper word,String.ofList_toList]
  refine ⟨⟨commandLine (solidWord word (by decide)),⟨encode text,wordLine reply⟩,?_⟩,?_⟩
  · rw [sent,serveCommand,answerOf parses (headSome word) handles,writes,speaks.terminator]
    simp [Line.bytes]
  · simp only [port,answerOf parses (headSome word) handles,writes,speaks.terminator,replyRead reply,afterResult]

theorem takesWrite {parsed : ParsedCommand} (parses : parseCommand sim.toUpperCase command = parsed)
    (some_ : parsed.header ≠ []) (handles : dispatch sim parsed state = (next,.returns (.ok .none)))
    (whole : '\n' ∉ command.toList) : Takes sim state (.write command) next (some "") := by
  refine ⟨⟨commandLine whole,?_⟩,?_⟩
  · show (serve sim state (.command command)).2 = []
    rw [serveCommand,answerOf parses some_ handles]
    rfl
  · simp only [port,answerOf parses some_ handles,afterResult]

theorem wholeTold {rest : List Char} (word : Word head) (whole : '\n' ∉ rest)
    (same : command.toList = head ++ ' ' :: rest) : '\n' ∉ command.toList := by
  have front := @solidWord head word '\n' (by decide)
  simp [same,front,whole]

theorem told (speaks : Speaks sim upper) (word : Word head) (text : Word arg)
    (same : command.toList = head ++ ' ' :: arg)
    (handles : dispatch sim (telling head arg) state = (next,.returns (.ok .none))) :
    Takes sim state (.write command) next (some "") := by
  have parses : parseCommand sim.toUpperCase command = telling head arg := by
    rw [speaks.toUpperCase,← parseTell upper word text,← same,String.ofList_toList]
  exact takesWrite parses (headSome word) handles (wholeTold word (solidWord text (by decide)) same)

theorem toldText (speaks : Speaks sim upper) (word : Word head) {rest : List Char} (whole : '\n' ∉ rest)
    (same : command.toList = head ++ ' ' :: rest) {P : SessionState V → Prop}
    (handles : ∀ raw args, ∃ next, dispatch sim ⟨raw,head.map Char.toUpper,normal head,args,head.getLast? = some '?'⟩
      state = (next,.returns (.ok .none)) ∧ P next) :
    ∃ next, Takes sim state (.write command) next (some "") ∧ P next := by
  obtain ⟨raw,args,parsed⟩ := parseText upper word rest
  obtain ⟨next,handled,holds⟩ := handles raw args
  rw [← same,String.ofList_toList,← speaks.toUpperCase] at parsed
  exact ⟨next,takesWrite parsed (headSome word) handled (wholeTold word whole same),holds⟩

theorem toldBare (speaks : Speaks sim upper) (word : Word command.toList)
    (handles : dispatch sim (asking command.toList) state = (next,.returns (.ok .none))) :
    Takes sim state (.write command) next (some "") := by
  have parses : parseCommand sim.toUpperCase command = asking command.toList := by
    rw [speaks.toUpperCase,← parseAsk upper word,String.ofList_toList]
  exact takesWrite parses (headSome word) handles (solidWord word (by decide))

end

section
variable {σ α β : Type} (sim)

structure Runs (m : ScpiCalls.DriverMethod σ α) (s : σ) (d : SessionState V)
    (left : Left σ (SessionState V) (Except ScpiCalls.Failure α)) : Prop where
  understood : Meets (port sim) (fun _ d r => Understood sim d r) m.run s d
  left : runAlone (port sim) m.run s d = left

variable {sim} {s s' : σ} {d d' : SessionState V} {command text : String} {m : ScpiCalls.DriverMethod σ α}
  {left : Left σ (SessionState V) (Except ScpiCalls.Failure β)}

theorem runsBind {f : α → ScpiCalls.DriverMethod σ β} {a : α} (first : Runs sim m s d ⟨.ok a,s',d'⟩)
    (rest : Runs sim (f a) s' d' left) : Runs sim (m >>= f) s d left := by
  refine ⟨meetsBind.mpr ⟨first.understood,?_⟩,?_⟩
  · rw [first.left]
    exact rest.understood
  · rw [runMethodBind,first.left]
    exact rest.left

theorem runsStop {f : α → ScpiCalls.DriverMethod σ β} {e : ScpiCalls.Failure}
    (first : Runs sim m s d ⟨.error e,s',d'⟩) : Runs sim (m >>= f) s d ⟨.error e,s',d'⟩ := by
  refine ⟨meetsBind.mpr ⟨first.understood,?_⟩,?_⟩
  · rw [first.left]
    trivial
  · rw [runMethodBind,first.left]

theorem runsIssue {read : ScpiCalls.Answer → Except ScpiCalls.Failure α} {r : ScpiCalls.Request}
    {answered : ScpiCalls.Answer} {a : α} (taken : Takes sim d r d' answered) (reads : read answered = .ok a) :
    Runs sim (CallRuns.issue read r : ScpiCalls.DriverMethod σ α) s d ⟨.ok a,s,d'⟩ := by
  refine ⟨⟨taken.understood,?_⟩,?_⟩
  · trivial
  · show Left.mk (read (port sim d r).2) s (port sim d r).1 = _
    rw [taken.taken,reads]

def Answers (sim : Simulator V) (d : SessionState V) : List String → List String → Prop :=
  List.Forall₂ fun command text => Takes sim d (.query command) d (some text)

theorem runsAttemptAll {commands texts : List String} (answered : Answers sim d commands texts) :
    Runs sim (ScpiCalls.attemptAll commands : ScpiCalls.DriverMethod σ _) s d ⟨.ok (texts.map some),s,d⟩ := by
  induction answered with
  | nil => exact ⟨trivial,rfl⟩
  | cons one more ih =>
    rw [ScpiCalls.attemptAll]
    exact runsBind (runsIssue one rfl) (runsBind ih ⟨trivial,rfl⟩)

theorem runsQueryAll {commands texts : List String} (answered : Answers sim d commands texts) :
    Runs sim (ScpiCalls.queryAll commands : ScpiCalls.DriverMethod σ _) s d ⟨.ok texts,s,d⟩ := by
  have whole : (texts.map some).mapM id = some texts := by
    clear answered
    induction texts with
    | nil => rfl
    | cons text texts ih => simp [ih]
  refine runsBind (runsAttemptAll answered) ?_
  simp only [whole]
  exact ⟨trivial,rfl⟩

theorem runsCatch {handle : ScpiCalls.Failure → ScpiCalls.DriverMethod σ α} {a : α}
    (first : Runs sim m s d ⟨.ok a,s',d'⟩) : Runs sim (tryCatch m handle) s d ⟨.ok a,s',d'⟩ := by
  refine ⟨(meetsAsyncBind m.run _ s d).mpr ⟨first.understood,?_⟩,(CallRuns.runAloneBind m.run _ s d).trans ?_⟩
  all_goals rw [first.left]
  · trivial
  · rfl

end

section
variable {σ α β ν : Type} (sim) (Shows : SessionState V → ν → Prop)

def Does (m : ScpiCalls.DriverMethod σ α) (s : σ) (v : ν) (result : Except ScpiCalls.Failure α) (s' : σ) (v' : ν) :
    Prop :=
  ∀ d, Shows d v → ∃ d', Runs sim m s d ⟨result,s',d'⟩ ∧ Shows d' v'

variable {sim Shows} {m : ScpiCalls.DriverMethod σ α} {s s' s'' : σ} {v v' v'' : ν}
  {result : Except ScpiCalls.Failure β} {command : String}

theorem doesPure (a : α) : Does sim Shows (pure a) s v (.ok a) s v := fun d shows_ => ⟨d,⟨trivial,rfl⟩,shows_⟩

theorem doesThrow (e : ScpiCalls.Failure) :
    Does sim Shows (throw e : ScpiCalls.DriverMethod σ α) s v (.error e) s v :=
  fun d shows_ => ⟨d,⟨trivial,rfl⟩,shows_⟩

theorem doesLoad {f : σ → ScpiCalls.DriverMethod σ β} (rest : Does sim Shows (f s) s v result s' v') :
    Does sim Shows (CallRuns.load >>= f) s v result s' v' := by
  intro d shows_
  obtain ⟨d',ran,next⟩ := rest d shows_
  exact ⟨d',⟨ran.understood,ran.left⟩,next⟩

theorem doesChange (g : σ → σ) :
    Does sim Shows (CallRuns.change g : ScpiCalls.DriverMethod σ Unit) s v (.ok ()) (g s) v :=
  fun d shows_ => ⟨d,⟨trivial,rfl⟩,shows_⟩

theorem doesBind {f : α → ScpiCalls.DriverMethod σ β} {a : α} (first : Does sim Shows m s v (.ok a) s' v')
    (rest : Does sim Shows (f a) s' v' result s'' v'') : Does sim Shows (m >>= f) s v result s'' v'' := by
  intro d shows_
  obtain ⟨d',ran,next⟩ := first d shows_
  obtain ⟨d'',ends,last⟩ := rest d' next
  exact ⟨d'',runsBind ran ends,last⟩

theorem doesStop {f : α → ScpiCalls.DriverMethod σ β} {e : ScpiCalls.Failure}
    (first : Does sim Shows m s v (.error e) s' v') : Does sim Shows (m >>= f) s v (.error e) s' v' := by
  intro d shows_
  obtain ⟨d',ran,next⟩ := first d shows_
  exact ⟨d',runsStop ran,next⟩

theorem doesMap {f : α → β} {r : Except ScpiCalls.Failure α} (first : Does sim Shows m s v r s' v') :
    Does sim Shows (f <$> m) s v (r.map f) s' v' := by
  rw [← bind_pure_comp]
  cases r with
  | ok a => exact doesBind first (doesPure (f a))
  | error e => exact doesStop first

theorem doesEach {γ : Type} {f : γ → ScpiCalls.DriverMethod σ α} {g : γ → α} {xs : List γ}
    (each : ∀ x ∈ xs, Does sim Shows (f x) s v (.ok (g x)) s v) :
    Does sim Shows (xs.mapM f) s v (.ok (xs.map g)) s v := by
  induction xs with
  | nil => exact doesPure []
  | cons x xs ih =>
    rw [List.mapM_cons]
    refine doesBind (each x (.head _)) (doesBind (ih fun x inside => each x (.tail _ inside)) (doesPure _))

theorem doesWrite
    (takes : ∀ d, Shows d v → ∃ d' text, Takes sim d (.write command) d' (some text) ∧ Shows d' v') :
    Does sim Shows (ScpiCalls.write command) s v (.ok ()) s v' := by
  intro d shows_
  obtain ⟨d',text,taken,next⟩ := takes d shows_
  exact ⟨d',runsIssue taken rfl,next⟩

theorem doesCatch {handle : ScpiCalls.Failure → ScpiCalls.DriverMethod σ α} {a : α}
    (first : Does sim Shows m s v (.ok a) s' v') : Does sim Shows (tryCatch m handle) s v (.ok a) s' v' := by
  intro d shows_
  obtain ⟨d',ran,next⟩ := first d shows_
  exact ⟨d',runsCatch ran,next⟩

theorem doesAsk {P : String → Prop} {f : String → ScpiCalls.DriverMethod σ β}
    (answers : ∀ d, Shows d v → ∃ text, Takes sim d (.query command) d (some text) ∧ P text)
    (rest : ∀ text, P text → Does sim Shows (f text) s v result s' v') :
    Does sim Shows (ScpiCalls.query command >>= f) s v result s' v' := by
  intro d shows_
  obtain ⟨text,answered,known⟩ := answers d shows_
  obtain ⟨d',ran,next⟩ := rest text known d shows_
  exact ⟨d',runsBind (runsIssue answered rfl) ran,next⟩

theorem doesAskSafely {commands : List String} {P : List String → Prop}
    {f : List String → ScpiCalls.DriverMethod σ β}
    (answers : ∀ d, Shows d v → ∃ texts, Answers sim d commands texts ∧ P texts)
    (rest : ∀ texts, P texts → Does sim Shows (f texts) s v result s' v') :
    Does sim Shows (ScpiCalls.safeQueries commands >>= f) s v result s' v' := by
  intro d shows_
  obtain ⟨texts,answered,known⟩ := answers d shows_
  obtain ⟨d',ran,next⟩ := rest texts known d shows_
  have whole : (texts.map some).map (fun answer => answer.getD "") = texts := by simp [Function.comp_def]
  refine ⟨d',runsBind (runsBind (runsAttemptAll answered) ⟨trivial,rfl⟩) ?_,next⟩
  rwa [whole]

theorem doesAskAll {commands : List String} {P : List String → Prop}
    {f : List String → ScpiCalls.DriverMethod σ β}
    (answers : ∀ d, Shows d v → ∃ texts, Answers sim d commands texts ∧ P texts)
    (rest : ∀ texts, P texts → Does sim Shows (f texts) s v result s' v') :
    Does sim Shows (ScpiCalls.queryAll commands >>= f) s v result s' v' := by
  intro d shows_
  obtain ⟨texts,answered,known⟩ := answers d shows_
  obtain ⟨d',ran,next⟩ := rest texts known d shows_
  exact ⟨d',runsBind (runsQueryAll answered) ran,next⟩

end

end LxiWeb.SimulatedCommands
