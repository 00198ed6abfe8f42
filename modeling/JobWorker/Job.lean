/-
Jobs.

A job is an immutable record of what the broker leased to a worker.  Its variables and its custom
headers are kept as the texts of JSON documents; they are parsed only when somebody asks.
-/
import JobWorker.JobKey

namespace JobWorker

/-- Where in which process a job was created. -/
structure Headers where
  processId : String
  elementId : String
  elementInstanceKey : Int64
  processVersion : Int32
  processKey : Int64
  processInstanceKey : Int64
  deriving DecidableEq, Repr

/-- The headers of a job that belongs to no process. -/
def Headers.blank : Headers := ⟨"", "", 0, 0, 0, 0⟩

/-- A job leased to a worker. -/
structure Job where
  key : JobKey
  type : String
  worker : String
  retries : Int32
  deadline : Int64
  variablesText : String
  customHeadersText : String
  headers : Headers
  deriving DecidableEq, Repr

namespace Job

/-- A job with every field at a default, for building others from. -/
def blank : Job :=
  { key := JobKey.ofInt 1
    type := "test"
    worker := "test-worker"
    retries := 3
    deadline := 0
    variablesText := "\x7b\x7d"
    customHeadersText := "\x7b\x7d"
    headers := Headers.blank }

/-- A job as the broker leases it: the key shows in the variables and in the element, so that jobs
can be told apart after they have passed through a worker. -/
def sample (key : JobKey) (type worker : String) : Job :=
  { blank with
    key, type, worker
    deadline := 123932
    variablesText := "\x7b\"foo\":" ++ key.text ++ "\x7d"
    headers :=
      { processId := "process"
        elementId := "job" ++ key.text
        elementInstanceKey := 23
        processVersion := 3
        processKey := 21
        processInstanceKey := 42 } }

/-- One sample job for each key. -/
def samples (keys : List JobKey) (type worker : String) : List Job :=
  keys.map (sample · type worker)

/-- The retries that are left once an attempt has failed. -/
def retriesLeft (job : Job) : Int32 := if 0 < job.retries then job.retries - 1 else 0

end Job

end JobWorker
