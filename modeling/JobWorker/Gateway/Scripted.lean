/-
A gateway that follows a script.

The script is a list of batches of jobs and of errors.  A request takes jobs from the first entry
only; what it leaves of a batch stays in front, like jobs that the broker has not leased yet.  When
the script has run out, nothing is granted.  Every call is recorded before it is answered, also when
the answer is an error or never comes.
-/
import JobWorker.Gateway

namespace JobWorker

namespace Scripted

/-- What one or several requests for jobs find. -/
inductive Entry where
  | batch (jobs : List Job)
  | error (e : GatewayError)
  deriving DecidableEq, Repr

/-- The jobs of an entry. -/
def Entry.jobs : Entry → List Job
  | .batch jobs => jobs
  | .error _ => []

/-- How many of the jobs at hand a request takes. -/
def share (overGranting : Bool) (maxJobs : UInt32) (jobs : List Job) : Nat :=
  if overGranting then jobs.length else min jobs.length maxJobs.toNat

/-- The script without what a request takes from it, and the answer. -/
def grant (overGranting : Bool) (maxJobs : UInt32) : List Entry → List Entry × Grant
  | [] => ([], .ok [])
  | .error e :: script => (script, .error e)
  | .batch jobs :: script =>
    let n := share overGranting maxJobs jobs
    (if jobs.drop n = [] then script else .batch (jobs.drop n) :: script, .ok (jobs.take n))

end Scripted

/-- A gateway with a script. -/
structure Scripted where
  /-- What is still to be granted. -/
  script : List Scripted.Entry
  /-- The calls so far, in order. -/
  calls : List Call
  /-- Whether requests for jobs are kept waiting for ever. -/
  holding : Bool
  /-- Whether whole batches are granted, however few jobs were asked for. -/
  overGranting : Bool
  /-- What every completion is refused with, if completions are refused. -/
  completeError : Option GatewayError
  /-- What every failure is refused with, if failures are refused. -/
  failError : Option GatewayError
  deriving DecidableEq, Repr

namespace Scripted

/-- A gateway with an empty script. -/
def blank : Scripted := ⟨[], [], false, false, none, none⟩

/-- Adds an entry at the end of the script. -/
def push (g : Scripted) (entry : Entry) : Scripted := { g with script := g.script ++ [entry] }

/-- Records a call. -/
def record (g : Scripted) (call : Call) : Scripted := { g with calls := g.calls ++ [call] }

/-- The jobs that are still in the script, in order. -/
def pending (g : Scripted) : List Job := g.script.flatMap Entry.jobs

/-- The error that a command is refused with, if there is one. -/
def refusal (g : Scripted) : Command → Option GatewayError
  | .complete _ => g.completeError
  | .fail _ => g.failError

instance : Gateway Scripted where
  activate g request :=
    let g := g.record (.activate request)
    if g.holding then (g, none)
    else
      let (script, answer) := grant g.overGranting request.maxJobs g.script
      ({ g with script }, some answer)
  perform g command :=
    (g.record (.command command),
      match g.refusal command with
      | some e => .error e
      | none => .ok ())

/-- The completions among the calls. -/
def completions (g : Scripted) : List CompleteRequest :=
  g.calls.filterMap fun
    | .command (.complete request) => some request
    | _ => none

/-- The failures among the calls. -/
def failures (g : Scripted) : List FailRequest :=
  g.calls.filterMap fun
    | .command (.fail request) => some request
    | _ => none

/-- The requests for jobs among the calls. -/
def activations (g : Scripted) : List ActivateRequest :=
  g.calls.filterMap fun
    | .activate request => some request
    | _ => none

/-- What a request takes is a first part of the jobs in the script, and the others stay. -/
theorem take_append_pending (overGranting : Bool) (maxJobs : UInt32) (script : List Entry) :
    ((grant overGranting maxJobs script).2.toOption.getD []) ++
      (grant overGranting maxJobs script).1.flatMap Entry.jobs = script.flatMap Entry.jobs := by
  match script with
  | [] => rfl
  | .error e :: script => rfl
  | .batch jobs :: script =>
    simp only [grant]
    split
    · next h =>
      have : jobs.take (share overGranting maxJobs jobs) = jobs := by
        have := List.take_append_drop (share overGranting maxJobs jobs) jobs
        rwa [h, List.append_nil] at this
      simp [Except.toOption, Entry.jobs, this]
    · simp [Except.toOption, Entry.jobs, ← List.append_assoc]

end Scripted

end JobWorker
