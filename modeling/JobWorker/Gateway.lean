/-
Gateways.

A gateway stands between workers and the broker.  It leases jobs to workers, and it takes the two
commands that end a job.  Anything that can answer these calls is a gateway: a service behind a
network as well as a script.
-/
import JobWorker.Job
import JobWorker.Request

namespace JobWorker

/-- Why a gateway did not do what it was asked. -/
inductive GatewayError where
  | unavailable (reason : String)
  | rejected (status : UInt16) (reason : String)
  | invalidResponse (reason : String)
  | invalidRequest (reason : String)
  deriving DecidableEq, Repr

/-- The wording of an error. -/
def GatewayError.message : GatewayError → String
  | .unavailable reason => "gateway unavailable: " ++ reason
  | .rejected status reason => s!"gateway rejected request ({status.toNat}): " ++ reason
  | .invalidResponse reason => "invalid gateway response: " ++ reason
  | .invalidRequest reason => "invalid request: " ++ reason

/-- A command that ends a job. -/
inductive Command where
  | complete (request : CompleteRequest)
  | fail (request : FailRequest)
  deriving DecidableEq, Repr

/-- The job that a command ends. -/
def Command.key : Command → JobKey
  | .complete request => request.key
  | .fail request => request.key

/-- Whatever a gateway can be asked. -/
inductive Call where
  | activate (request : ActivateRequest)
  | command (command : Command)
  deriving DecidableEq, Repr

/-- The answer to a request for jobs. -/
abbrev Grant := Except GatewayError (List Job)

/-- The answer to a command. -/
abbrev Verdict := Except GatewayError Unit

/-- How the calls to a gateway are answered, and what becomes of it. -/
class Gateway (γ : Type) where
  /-- Leases jobs.  There is no answer when the caller is kept waiting for ever. -/
  activate : γ → ActivateRequest → γ × Option Grant
  /-- Takes a command. -/
  perform : γ → Command → γ × Verdict

end JobWorker
