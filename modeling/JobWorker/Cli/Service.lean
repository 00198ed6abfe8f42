/-
Workers that run until the program is told to stop.

One worker is opened for each job type, all with the same settings otherwise; if the settings for any
of them are refused, none is opened.  The handler prints a line for each job and leaves the job
unresolved.
-/
import JobWorker.Job.Variables
import JobWorker.Json.Printer
import JobWorker.Rest
import JobWorker.Worker.Schedule

namespace JobWorker.Cli

open Worker

/-- The line that is printed for a job with variables. -/
def jobLine (job : Job) (members : Json.Members) : String :=
  (Json.Value.object
    [("key", job.key.toJson), ("type", .string job.type), ("variables", .object members)]).text

/-- Prints each job.  A job whose variables are no object is failed. -/
def printing : Handler Unit where
  fresh := ()
  start _ job :=
    match job.variablesMap with
    | .ok members =>
      .say (.line (jobLine job members)) (.done () (.returned .unresolved))
    | .error e => .done () (.failed [e.message])

/-- The flags of the subcommand that opens workers. -/
structure WorkerArguments where
  jobTypes : List String
  maxJobs : UInt32
  timeout : Duration
  pollInterval : Option Duration
  name : Option String
  fetchVariables : List String
  autoComplete : Bool
  deriving DecidableEq, Repr

namespace WorkerArguments

/-- The options for the worker of one job type. -/
def options (a : WorkerArguments) (jobType : String) : Options Unit where
  jobType := some jobType
  handler := some printing
  maxJobsActive := some a.maxJobs
  timeout := some a.timeout
  name := a.name
  pollInterval := a.pollInterval
  fetchVariables := a.fetchVariables
  autoComplete := a.autoComplete

/-- Opens the workers for all job types: first all settings are checked, then the workers are opened
one after the other. -/
def openAll (a : WorkerArguments) (env : Environment) : Except ConfigError (List (Config Unit)) := do
  let options := a.jobTypes.map a.options
  let _ ← options.mapM fun o => (o.validate env).2
  options.mapM fun o => (o.openIn env .multiThread).2

end WorkerArguments

/-- Workers that share a gateway on the network. -/
structure Service (ν : Type) where
  remote : Rest.Remote ν
  workers : List (Config Unit × State Unit)

namespace Service

variable {ν : Type} [Rest.Network ν]

/-- The workers when they have just been opened. -/
def start (remote : Rest.Remote ν) (workers : List (Config Unit)) : Service ν :=
  ⟨remote, workers.map fun w => (w, w.start)⟩

/-- Lets every worker do something with the gateway, one after the other. -/
def each (f : Config Unit → World (Rest.Remote ν) Unit → World (Rest.Remote ν) Unit × List Event) :
    Rest.Remote ν → List (Config Unit × State Unit) →
      Rest.Remote ν × List (Config Unit × State Unit) × List Event
  | remote, [] => (remote, [], [])
  | remote, (w, s) :: workers =>
    let (x, events) := f w ⟨remote, s, 0⟩
    let (remote, workers, more) := each f x.gateway workers
    (remote, (w, x.state) :: workers, events ++ more)

/-- Lets every worker do something and then run until it rests, for at most `fuel` moves. -/
def advance (fuel : Nat)
    (f : Config Unit → World (Rest.Remote ν) Unit → World (Rest.Remote ν) Unit × List Event)
    (s : Service ν) : Service ν × List Event :=
  let (remote, workers, events) := each
    (fun w x =>
      let (x, events) := f w x
      let (x, more) := x.settle w fuel
      (x, events ++ more)) s.remote s.workers
  (⟨remote, workers⟩, events)

/-- Lets every worker run until it rests. -/
def settle (fuel : Nat) (s : Service ν) : Service ν × List Event :=
  s.advance fuel fun _ x => (x, [])

/-- Lets the poll interval of every worker pass once. -/
def elapse (fuel : Nat) (s : Service ν) : Service ν × List Event :=
  s.advance fuel fun w x => x.elapse w

/-- Closes all workers. -/
def shutdown (fuel : Nat) (s : Service ν) : Service ν × List Event :=
  s.advance fuel fun w x =>
    let (state, events) := x.state.close w
    ({ x with state }, events)

end Service

/-- The lines that are printed. -/
def printed (events : List Event) : List String :=
  events.filterMap fun
    | .said (.line text) => some text
    | _ => none

end JobWorker.Cli
