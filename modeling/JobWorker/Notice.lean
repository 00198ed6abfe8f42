/-
What is written to the log.

Each occasion has a level, a fixed message and named fields; the occasion itself keeps the values
that the fields are made of.
-/
import JobWorker.Duration.Reading
import JobWorker.Gateway

namespace JobWorker

/-- How much a notice matters. -/
inductive Level where
  | info
  | warn
  | error
  deriving DecidableEq, Repr

/-- The name of a level. -/
def Level.text : Level → String
  | .info => "INFO"
  | .warn => "WARN"
  | .error => "ERROR"

/-- An occasion to write to the log. -/
inductive Notice where
  | opened (worker jobType : String) (capacity : UInt32) (pollInterval : Duration)
  | closed (worker jobType : String)
  | activationFailed (worker jobType : String) (error : GatewayError)
  | surplusDropped (jobType : String) (requested granted : Nat)
  | jobDropped (key : JobKey)
  | foreignReceipt (worker : String) (key receiptKey : JobKey)
  | autoCompletionFailed (worker : String) (key : JobKey) (error : GatewayError)
  | handlerFailed (worker : String) (key : JobKey) (jobType cause : String)
  | failingFailed (worker : String) (key : JobKey) (error : GatewayError)
  | zeroDuration (name value : String)
  | invalidDuration (name value : String) (error : Duration.ReadError)
  deriving DecidableEq, Repr

namespace Notice

/-- How much a notice matters. -/
def level : Notice → Level
  | .opened .. | .closed .. => .info
  | .handlerFailed .. => .error
  | _ => .warn

/-- The message of a notice. -/
def message : Notice → String
  | .opened .. => "job worker opened"
  | .closed .. => "job worker closed"
  | .activationFailed .. => "job activation failed"
  | .surplusDropped .. => "gateway granted more jobs than requested, dropping surplus"
  | .jobDropped .. => "job queue full, dropping activated job"
  | .foreignReceipt .. => "handler returned a receipt for another job"
  | .autoCompletionFailed .. => "auto-completion failed"
  | .handlerFailed .. => "job handler failed"
  | .failingFailed .. => "failing job failed"
  | .zeroDuration .. => "zero duration ignored, using default"
  | .invalidDuration .. => "invalid duration, using default"

/-- The fields of a notice, by name. -/
def fields : Notice → List (String × String)
  | .opened worker jobType capacity pollInterval =>
    [("worker", worker), ("job_type", jobType), ("capacity", toString capacity.toNat),
     ("poll_interval_ms", toString pollInterval.millisWord.toNat)]
  | .closed worker jobType => [("worker", worker), ("job_type", jobType)]
  | .activationFailed worker jobType error =>
    [("worker", worker), ("job_type", jobType), ("error", error.message)]
  | .surplusDropped jobType requested granted =>
    [("job_type", jobType), ("requested", toString requested), ("granted", toString granted)]
  | .jobDropped key => [("job_key", key.text)]
  | .foreignReceipt worker key receiptKey =>
    [("worker", worker), ("job_key", key.text), ("receipt_key", receiptKey.text)]
  | .autoCompletionFailed worker key error | .failingFailed worker key error =>
    [("worker", worker), ("job_key", key.text), ("error", error.message)]
  | .handlerFailed worker key jobType cause =>
    [("worker", worker), ("job_key", key.text), ("job_type", jobType), ("error", cause)]
  | .zeroDuration name value => [("var", name), ("value", value)]
  | .invalidDuration name value error =>
    [("var", name), ("value", value), ("error", error.message)]

end Notice

end JobWorker
