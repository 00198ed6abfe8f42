/-
How a worker is set up.

Options are what a caller says; a configuration is what is left when they have been checked.  The
checks come in a fixed order and the first failure counts.  A worker also needs a runtime with more
than one thread, for handlers may block theirs; that is looked at last.
-/
import JobWorker.Activation
import JobWorker.Handler

namespace JobWorker.Worker

/-- What a worker is opened with. -/
structure Config (σ : Type) where
  /-- The request for as many jobs as the queue can hold. -/
  request : ActivateRequest
  handler : Handler σ
  pollInterval : Duration
  /-- Whether jobs are completed that the handler leaves unresolved. -/
  autoComplete : Bool
  /-- The queue can hold a job. -/
  capacity_pos : 0 < request.maxJobs.toNat

namespace Config

variable {σ : Type} (w : Config σ)

/-- The number of jobs that the queue can hold. -/
def capacity : Nat := w.request.maxJobs.toNat

/-- The name under which the worker asks for jobs. -/
def name : String := w.request.worker

/-- The type of the jobs that the worker asks for. -/
def jobType : String := w.request.jobType

end Config

/-- What a caller can say about a worker. -/
structure Options (σ : Type) where
  jobType : Option String
  handler : Option (Handler σ)
  maxJobsActive : Option UInt32
  timeout : Option Duration
  name : Option String
  pollInterval : Option Duration
  fetchVariables : List String
  autoComplete : Bool

/-- What the caller runs in. -/
inductive Runtime where
  | none
  | currentThread
  | multiThread
  deriving DecidableEq, Repr

/-- Whether workers can be opened in a runtime. -/
def Runtime.check : Runtime → Except ConfigError Unit
  | .none => .error .noRuntime
  | .currentThread => .error .currentThreadRuntime
  | .multiThread => .ok ()

namespace Options

variable {σ : Type}

/-- The options that have to be given, once they have been checked. -/
structure Given (σ : Type) where
  jobType : String
  handler : Handler σ
  maxJobs : { n : UInt32 // 0 < n.toNat }
  timeout : Duration

/-- Checks the options that have to be given. -/
def given (o : Options σ) : Except ConfigError (Given σ) := do
  let jobType ← Setting.jobType.requiredText o.jobType
  let handler ← Setting.handler.required o.handler
  let maxJobs ← Setting.maxJobsActive.requiredCount o.maxJobsActive
  let timeout ← Setting.timeout.required o.timeout
  let timeout ← Setting.timeout.nonZero timeout
  return { jobType, handler, maxJobs, timeout }

/-- The configuration that the options stand for.  The environment is read only for options that are
not given, and only when the others are in order. -/
def config (o : Options σ) (env : Environment) : List Notice × Except ConfigError (Config σ) :=
  match o.given with
  | .error e => ([], .error e)
  | .ok g =>
    let (pollInterval, notices) := Activation.givenOr o.pollInterval env.pollInterval
    (notices, do
      let pollInterval ← Setting.pollInterval.nonZero pollInterval
      return {
        request := { ActivateRequest.lease g.jobType (o.name.getD env.workerName) g.timeout with
          maxJobs := g.maxJobs.val
          fetchVariables := o.fetchVariables }
        handler := g.handler
        pollInterval
        autoComplete := o.autoComplete
        capacity_pos := g.maxJobs.property })

/-- Checks the options without starting anything. -/
def validate (o : Options σ) (env : Environment) : List Notice × Except ConfigError Unit :=
  let (notices, config) := o.config env
  (notices, config.map fun _ => ())

/-- The configuration to start a worker with in a runtime. -/
def openIn (o : Options σ) (env : Environment) (runtime : Runtime) :
    List Notice × Except ConfigError (Config σ) :=
  let (notices, config) := o.config env
  match config.bind fun w => runtime.check.map fun _ => w with
  | .error e => (notices, .error e)
  | .ok w => (notices ++ [.opened w.name w.jobType w.request.maxJobs w.pollInterval], .ok w)

end Options

end JobWorker.Worker
