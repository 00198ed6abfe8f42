/-
The program.

A fault of the command line or of the settings ends it with code 2 before anything is asked of a
gateway.  A single activation ends it with code 0 or, if it fails, with code 1.  Workers run until the
program is told to stop, and then it ends with code 0, whatever became of their jobs.
-/
import JobWorker.Cli.Help
import JobWorker.Cli.Service
import JobWorker.Job.Document

namespace JobWorker.Cli

/-- How the program ends. -/
structure Exit where
  code : Nat
  stdout : String
  /-- What is written to the error output behind `error: `. -/
  error : Option String
  deriving DecidableEq, Repr

namespace Exit

/-- The end after success. -/
def success (stdout : String) : Exit := ⟨0, stdout, none⟩

/-- The end after a failure. -/
def failure (code : Nat) (message : String) : Exit := ⟨code, "", some message⟩

/-- The code for faults of the command line and of the settings. -/
def misuse : Nat := 2

/-- The end of workers that were told to stop, once they have printed some lines. -/
def stopped (printed : List String) : Exit := .success (lines printed)

end Exit

/-- What running the program comes to. -/
inductive Ending (ν : Type) where
  | exited (exit : Exit) (network : ν)
  /-- It goes on until it is told to stop. -/
  | serving (service : Service ν)

/-- The gateway that is named by a flag or by the environment. -/
def endpoint (items : List Item) (env : Environment) : Rest.Endpoint :=
  let given := items.findSome? fun
    | .gateway text => some text
    | _ => none
  let e := Rest.Endpoint.ofAddress (given.getD env.gatewayAddress)
  (env.authToken.map e.withToken).getD e

/-- The job types among the items. -/
def jobTypes (items : List Item) : List String :=
  items.filterMap fun
    | .jobType text => some text
    | _ => none

/-- The greatest number of jobs for each worker among the items. -/
def maxJobs? (items : List Item) : Option UInt32 :=
  items.findSome? fun
    | .maxJobs n => some n
    | _ => none

/-- The number of jobs for a single activation among the items. -/
def limit? (items : List Item) : Option UInt32 :=
  items.findSome? fun
    | .limit n => some n
    | _ => none

/-- The poll interval among the items. -/
def pollInterval? (items : List Item) : Option Duration :=
  items.findSome? fun
    | .pollInterval d => some d
    | _ => none

/-- The lease timeout among the items. -/
def timeout? (items : List Item) : Option Duration :=
  items.findSome? fun
    | .timeout d => some d
    | _ => none

/-- The name of the worker among the items. -/
def name? (items : List Item) : Option String :=
  items.findSome? fun
    | .name text => some text
    | _ => none

/-- The names of variables among the items. -/
def fetchVariables (items : List Item) : List String :=
  items.filterMap fun
    | .fetchVariable text => some text
    | _ => none

/-- The arguments for workers, or the flags that are missing. -/
def workerArguments (items : List Item) : Except UsageError WorkerArguments :=
  match maxJobs? items, timeout? items with
  | some maxJobs, some timeout =>
    .ok
      { jobTypes := jobTypes items
        maxJobs, timeout
        pollInterval := pollInterval? items
        name := name? items
        fetchVariables := fetchVariables items
        autoComplete := items.contains .autoComplete }
  | _, _ => .error (.missing Subcommand.worker.required)

/-- The options for a single activation. -/
def activationOptions (items : List Item) : Activation.Options where
  jobType := (jobTypes items).head?
  limit := limit? items
  timeout := timeout? items
  workerName := name? items
  fetchVariables := fetchVariables items

variable {ν : Type} [Rest.Network ν]

/-- What asking a gateway behind a network comes to.  It always answers. -/
def outcome (options : Activation.Options) (env : Environment) (g : Rest.Remote ν) :
    Rest.Remote ν × Activation.Result :=
  let sent := options.send env g
  (sent.1, sent.2.2.get (options.isSome_send g.isSome_activate env))

theorem outcome_of_send {options : Activation.Options} {env : Environment} {g g' : Rest.Remote ν}
    {events : List Event} {result : Activation.Result}
    (h : options.send env g = (g', events, some result)) :
    outcome options env g = (g', result) := by
  simp [outcome, h]

/-- Activates jobs once and prints them. -/
def activate (items : List Item) (env : Environment) (network : ν) : Exit × ν :=
  let options := activationOptions items
  match (options.request env).2 with
  | .error e => (.failure Exit.misuse e.message, network)
  | .ok _ =>
    match outcome options env ⟨endpoint items env, network⟩ with
    | (remote, .ok jobs) => (.success ((Job.listToJson jobs).pretty ++ "\n"), remote.network)
    | (remote, .error (.config e)) => (.failure Exit.misuse e.message, remote.network)
    | (remote, .error e) => (.failure 1 e.message, remote.network)

/-- Opens workers. -/
def serve (items : List Item) (env : Environment) (network : ν) : Ending ν :=
  match workerArguments items with
  | .error e => .exited (.failure Exit.misuse e.message) network
  | .ok a =>
    match a.openAll env with
    | .error e => .exited (.failure Exit.misuse e.message) network
    | .ok workers => .serving (.start ⟨endpoint items env, network⟩ workers)

/-- Runs the program. -/
def run (arguments : List String) (env : Environment) (network : ν) : Ending ν :=
  match read arguments with
  | .error e => .exited (.failure Exit.misuse e.message) network
  | .ok .nothing => .exited ⟨Exit.misuse, "", none⟩ network
  | .ok .version => .exited (.success ("zb " ++ version ++ "\n")) network
  | .ok (.help topic) => .exited (.success topic.text) network
  | .ok (.run .activate items) =>
    let (exit, network) := activate items env network
    .exited exit network
  | .ok (.run .worker items) => serve items env network

end JobWorker.Cli
