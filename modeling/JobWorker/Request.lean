/-
What is asked of a gateway.

Jobs are leased, completed and failed.  A lease lasts a number of milliseconds; the variables of
the jobs can be restricted to some names, and the empty list of names stands for all variables.
-/
import JobWorker.Duration
import JobWorker.JobKey

namespace JobWorker

/-- Asks for jobs of one type. -/
structure ActivateRequest where
  jobType : String
  worker : String
  timeoutMs : UInt64
  maxJobs : UInt32
  fetchVariables : List String
  deriving DecidableEq, Repr

namespace ActivateRequest

/-- The request for a lease of some length; it asks for no jobs yet. -/
def lease (jobType worker : String) (timeout : Duration) : ActivateRequest :=
  { jobType, worker, timeoutMs := timeout.millisWord, maxJobs := 0, fetchVariables := [] }

/-- How long the lease lasts. -/
def timeout (r : ActivateRequest) : Duration := .ofMillis r.timeoutMs

/-- The same request for a number of jobs. -/
def withMaxJobs (r : ActivateRequest) (maxJobs : UInt32) : ActivateRequest := { r with maxJobs }

end ActivateRequest

/-- Completes a job, with the text of a document of variables if there are any. -/
structure CompleteRequest where
  key : JobKey
  variablesText : Option String
  deriving DecidableEq, Repr

/-- Marks a job as failed and says how often it may be tried again. -/
structure FailRequest where
  key : JobKey
  retries : Int32
  errorMessage : String
  deriving DecidableEq, Repr

end JobWorker
