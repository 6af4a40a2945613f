import LxiWeb.CallRuns
import LxiWeb.ScpiFraming

/-! Driver methods as the commands and queries they send over a port, one after the other. The port
rejects what it cannot send or gets no reply to. -/
namespace LxiWeb.ScpiCalls
open AsyncTasks CallRuns

inductive Request where
  | write (command : String)
  | writeBinary (header : String) (payload : List UInt8)
  | query (command : String)
  deriving DecidableEq, Repr

abbrev Answer := Option String

inductive Failure where
  | error (message : String)
  | rangeError (message : String)
  | port
  deriving DecidableEq, Repr

abbrev DriverMethod (σ : Type) := Method σ Request Answer Failure

variable {σ : Type}

def settledWrite (answer : Answer) : Except Failure Unit :=
  if answer.isSome then .ok () else .error .port

def write (command : String) : DriverMethod σ Unit := issue settledWrite (.write command)

def writeBinary (header : String) (payload : List UInt8) : DriverMethod σ Unit :=
  issue settledWrite (.writeBinary header payload)

-- `port.write(command).catch(() => undefined)`
def writeQuietly (command : String) : DriverMethod σ Unit := issue (fun _ => .ok ()) (.write command)

def query (command : String) : DriverMethod σ String :=
  issue (fun
    | some reply => .ok reply
    | none => .error .port) (.query command)

-- a query whose rejection counts as the fallback
def queryOpt (command fallback : String) : DriverMethod σ String :=
  issue (fun answer => .ok (answer.getD fallback)) (.query command)

def attempt (command : String) : DriverMethod σ Answer := issue .ok (.query command)

def attemptAll : List String → DriverMethod σ (List Answer)
  | [] => pure []
  | command :: rest => do
      let answer ← attempt command
      let more ← attemptAll rest
      pure (answer :: more)

/- `Promise.all` of queries: all are sent, and one that is rejected fails the call. -/
def queryAll (commands : List String) : DriverMethod σ (List String) := do
  let answers ← attemptAll commands
  match answers.mapM id with
  | some replies => pure replies
  | none => throw .port

-- `Promise.all` of queries whose rejections count as empty replies
def safeQueries (commands : List String) : DriverMethod σ (List String) := do
  let answers ← attemptAll commands
  pure (answers.map fun answer => answer.getD "")

-- `err.message`
def Failure.message : Failure → String
  | .error text | .rangeError text => text
  | .port => ""

@[reducible] def caught : MonadExceptOf ScpiFraming.JsError (DriverMethod σ) where
  throw err := throw (.error err.message)
  tryCatch m handle := tryCatch m fun failure => handle ⟨.error,failure.message⟩

def onOff (on : Bool) : String := if on then "ON" else "OFF"

end LxiWeb.ScpiCalls
