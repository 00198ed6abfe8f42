/-
Settings from the environment.

Every variable has a default that is valid, and nothing in the environment can make a setting
invalid: a name or an address that is blank, a duration that is zero or cannot be read, and bytes
that are no text all leave the default in place.  The log tells of durations that were passed over.
-/
import JobWorker.Notice
import JobWorker.Text.Utf8

namespace JobWorker

/-- The variables that are read. -/
inductive Variable where
  | workerName
  | pollInterval
  | jobTimeout
  | gatewayAddress
  | authToken
  deriving DecidableEq, Repr

/-- The name of a variable in the environment. -/
def Variable.name : Variable → String
  | .workerName => "ZB_WORKER_NAME"
  | .pollInterval => "ZB_POLL_INTERVAL"
  | .jobTimeout => "ZB_JOB_TIMEOUT"
  | .gatewayAddress => "ZB_GATEWAY_ADDRESS"
  | .authToken => "ZB_AUTH_TOKEN"

/-- All variables. -/
def Variable.all : List Variable :=
  [.workerName, .pollInterval, .jobTimeout, .gatewayAddress, .authToken]

/-- The bytes that each variable is set to, if it is set. -/
structure Environment where
  bytes? : Variable → Option (List UInt8)

namespace Environment

/-- The environment in which no variable is set. -/
def unset : Environment := ⟨fun _ => none⟩

/-- The text that a variable is set to. -/
def text? (env : Environment) (v : Variable) : Option String :=
  (env.bytes? v).bind Text.Utf8.text?

/-- The text that a variable is set to, if it is not blank. -/
def nonBlank? (env : Environment) (v : Variable) : Option String :=
  (env.text? v).filter fun text => !Text.isBlankText text

/-- The duration that a variable is set to, or else a default. -/
def duration (env : Environment) (v : Variable) (default : Duration) : Duration × List Notice :=
  match env.text? v with
  | none => (default, [])
  | some text =>
    match Duration.read text with
    | .ok d => if d.isZero then (default, [.zeroDuration v.name text]) else (d, [])
    | .error e => (default, [.invalidDuration v.name text e])

/-- The address of a gateway on this machine. -/
def defaultAddress : String := "http://127.0.0.1:8080"

/-- The name under which a worker asks for jobs. -/
def workerName (env : Environment) : String := (env.nonBlank? .workerName).getD "default"

/-- How long a worker waits before it asks for jobs again. -/
def pollInterval (env : Environment) : Duration × List Notice :=
  env.duration .pollInterval (.ofMillis 100)

/-- How long jobs are leased that are activated once. -/
def jobTimeout (env : Environment) : Duration × List Notice :=
  env.duration .jobTimeout (.ofSecs 300)

/-- Where the gateway is. -/
def gatewayAddress (env : Environment) : String :=
  (env.nonBlank? .gatewayAddress).getD defaultAddress

/-- What the gateway is shown to let the caller in. -/
def authToken (env : Environment) : Option String :=
  (env.text? .authToken).filter fun text => text ≠ ""

end Environment

end JobWorker
