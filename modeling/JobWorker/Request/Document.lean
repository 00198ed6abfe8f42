/-
Requests as JSON documents.

Fields are written in a fixed order.  An empty list of names and absent variables are left out, and
are what a reader takes when they are absent.
-/
import JobWorker.Json.Shape
import JobWorker.Request

namespace JobWorker

open Json

namespace ActivateRequest

/-- The fields of a request for jobs. -/
inductive Field where
  | jobType
  | worker
  | timeoutMs
  | maxJobs
  | fetchVariables
  deriving DecidableEq, Repr

/-- The fields of a request for jobs in a document. -/
def shape : Shape Field where
  title := "struct ActivateJobsRequest"
  fields := [.jobType, .worker, .timeoutMs, .maxJobs, .fetchVariables]
  name
    | .jobType => "job_type"
    | .worker => "worker"
    | .timeoutMs => "timeout_ms"
    | .maxJobs => "max_jobs_to_activate"
    | .fetchVariables => "fetch_variables"
  Holds
    | .jobType | .worker => String
    | .timeoutMs => UInt64
    | .maxJobs => UInt32
    | .fetchVariables => List String
  read
    | .jobType | .worker => readString
    | .timeoutMs => readUInt64
    | .maxJobs => readUInt32
    | .fetchVariables => readList readString
  absent
    | .jobType | .worker | .timeoutMs | .maxJobs => none
    | .fetchVariables => some []
  complete i := by cases i <;> decide

/-- The request with given values of the fields. -/
def ofRecord (r : shape.Record) : ActivateRequest :=
  ⟨r .jobType, r .worker, r .timeoutMs, r .maxJobs, r .fetchVariables⟩

/-- Reads a request for jobs. -/
def read : Reader ActivateRequest := shape.readAs ofRecord

/-- A request for jobs as a JSON document. -/
def toJson (r : ActivateRequest) : Value :=
  .object <|
    [("job_type", .string r.jobType),
     ("worker", .string r.worker),
     ("timeout_ms", .int r.timeoutMs.toNat),
     ("max_jobs_to_activate", .int r.maxJobs.toNat)] ++
    if r.fetchVariables = [] then []
    else [("fetch_variables", .array (r.fetchVariables.map .string))]

end ActivateRequest

namespace CompleteRequest

/-- The fields of a request to complete a job. -/
inductive Field where
  | key
  | variablesText
  deriving DecidableEq, Repr

/-- The fields of a request to complete a job in a document. -/
def shape : Shape Field where
  title := "struct CompleteJobRequest"
  fields := [.key, .variablesText]
  name
    | .key => "job_key"
    | .variablesText => "variables"
  Holds
    | .key => JobKey
    | .variablesText => Option String
  read
    | .key => JobKey.read
    | .variablesText => readOption readString
  absent
    | .key => none
    | .variablesText => some none
  complete i := by cases i <;> decide

/-- The request with given values of the fields. -/
def ofRecord (r : shape.Record) : CompleteRequest := ⟨r .key, r .variablesText⟩

/-- Reads a request to complete a job. -/
def read : Reader CompleteRequest := shape.readAs ofRecord

/-- A request to complete a job as a JSON document. -/
def toJson (r : CompleteRequest) : Value :=
  .object (("job_key", r.key.toJson) ::
    r.variablesText.toList.map fun text => ("variables", .string text))

end CompleteRequest

namespace FailRequest

/-- The fields of a request to fail a job. -/
inductive Field where
  | key
  | retries
  | errorMessage
  deriving DecidableEq, Repr

/-- The fields of a request to fail a job in a document. -/
def shape : Shape Field where
  title := "struct FailJobRequest"
  fields := [.key, .retries, .errorMessage]
  name
    | .key => "job_key"
    | .retries => "retries"
    | .errorMessage => "error_message"
  Holds
    | .key => JobKey
    | .retries => Int32
    | .errorMessage => String
  read
    | .key => JobKey.read
    | .retries => readInt32
    | .errorMessage => readString
  absent _ := none
  complete i := by cases i <;> decide

/-- The request with given values of the fields. -/
def ofRecord (r : shape.Record) : FailRequest := ⟨r .key, r .retries, r .errorMessage⟩

/-- Reads a request to fail a job. -/
def read : Reader FailRequest := shape.readAs ofRecord

/-- A request to fail a job as a JSON document. -/
def toJson (r : FailRequest) : Value :=
  .object
    [("job_key", r.key.toJson),
     ("retries", .int r.retries.toInt),
     ("error_message", .string r.errorMessage)]

end FailRequest

end JobWorker
