/-
What is sent to a gateway over the network.

Every request has a body: a JSON object with its members in a fixed order.  The variables of a
completed job are sent as the value of their document, and not at all when the document is blank.
-/
import JobWorker.Json.Reader
import JobWorker.Request

namespace JobWorker.Rest

open Json

/-- The body of a request for jobs that the gateway may hold open for some milliseconds. -/
def activationBody (requestTimeout : Int64) (r : ActivateRequest) : Value :=
  .object <|
    [("type", .string r.jobType),
     ("worker", .string r.worker),
     ("timeout", .int r.timeoutMs.toNat),
     ("maxJobsToActivate", .int r.maxJobs.toNat)] ++
    (if r.fetchVariables = [] then []
     else [("fetchVariable", .array (r.fetchVariables.map .string))]) ++
    [("requestTimeout", .int requestTimeout.toInt)]

/-- The value of a document of variables, if there is one; a blank document is none. -/
def variablesValue : Option String → Except Error (Option Value)
  | none => .ok none
  | some text => if Text.isBlankText text then .ok none else (parse readValue text).map some

/-- The body of a completion with variables. -/
def completionBody (value : Option Value) : Value :=
  .object (value.toList.map fun v => ("variables", v))

/-- The body of a failure. -/
def failureBody (r : FailRequest) : Value :=
  .object [("retries", .int r.retries.toInt), ("errorMessage", .string r.errorMessage)]

/-- The path for requests for jobs. -/
def activationPath : String := "/v2/jobs/activation"

/-- The path for completions of a job. -/
def completionPath (key : JobKey) : String := "/v2/jobs/" ++ key.text ++ "/completion"

/-- The path for failures of a job. -/
def failurePath (key : JobKey) : String := "/v2/jobs/" ++ key.text ++ "/failure"

end JobWorker.Rest
