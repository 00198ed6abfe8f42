/-
Why settings are refused.

Texts must hold more than white space, and numbers and durations must not be zero.  These checks are
shared by workers and by single activations.
-/
import JobWorker.Duration
import JobWorker.Text.Blank

namespace JobWorker

/-- What can be set. -/
inductive Setting where
  | jobType
  | handler
  | maxJobsActive
  | limit
  | timeout
  | pollInterval
  deriving DecidableEq, Repr

/-- The name of a setting. -/
def Setting.name : Setting → String
  | .jobType => "job_type"
  | .handler => "handler"
  | .maxJobsActive => "max_jobs_active"
  | .limit => "limit"
  | .timeout => "timeout"
  | .pollInterval => "poll_interval"

/-- What can be wrong with the value of a setting. -/
inductive Flaw where
  | empty
  | zero
  deriving DecidableEq, Repr

/-- What a value with a flaw should have been. -/
def Flaw.reason : Flaw → String
  | .empty => "must not be empty"
  | .zero => "must be greater than zero"

/-- Why settings are refused. -/
inductive ConfigError where
  | missing (setting : Setting)
  | invalid (setting : Setting) (flaw : Flaw)
  | noRuntime
  | currentThreadRuntime
  deriving DecidableEq, Repr

/-- The wording of an error. -/
def ConfigError.message : ConfigError → String
  | .missing setting => "missing required setting '" ++ setting.name ++ "'"
  | .invalid setting flaw => "invalid setting '" ++ setting.name ++ "': " ++ flaw.reason
  | .noRuntime => "job workers must be opened inside a tokio runtime"
  | .currentThreadRuntime => "job workers need a multi-threaded tokio runtime"

namespace Setting

/-- The value of a setting that has to be set. -/
def required {α : Type} (setting : Setting) : Option α → Except ConfigError α
  | some value => .ok value
  | none => .error (.missing setting)

/-- A text that has to be set and must not be blank. -/
def requiredText (setting : Setting) (value : Option String) : Except ConfigError String := do
  let text ← setting.required value
  if Text.isBlankText text then .error (.invalid setting .empty) else .ok text

/-- A number that has to be set and must not be zero. -/
def requiredCount (setting : Setting) (value : Option UInt32) :
    Except ConfigError { n : UInt32 // 0 < n.toNat } := do
  let n ← setting.required value
  if h : 0 < n.toNat then .ok ⟨n, h⟩ else .error (.invalid setting .zero)

/-- A duration that must not be zero. -/
def nonZero (setting : Setting) (value : Duration) : Except ConfigError Duration :=
  if value.isZero then .error (.invalid setting .zero) else .ok value

end Setting

end JobWorker
