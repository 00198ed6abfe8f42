/-
Workers that are being opened.

First the settings for all workers are checked, and the first that are refused put an end to it.  Then
the workers are opened one after the other.  A worker runs as soon as it is open, while others are
still to be opened.  If one of them cannot be opened, those that are open are let go, which closes them.
-/
import JobWorker.Cli.Service
import JobWorker.Worker.Moves

namespace JobWorker.Cli

open Worker

/-- How far the opening of workers has come. -/
inductive Stage where
  /-- The settings for jobs of these types are still to be checked. -/
  | checking (left : List String)
  /-- The workers for jobs of these types are still to be opened. -/
  | opening (left : List String)
  | opened
  | refused (error : ConfigError)

/-- Workers that are being opened; some may be running already. -/
structure Opening where
  workers : List (Config Unit × State Unit)
  stage : Stage

namespace Opening

/-- One act while workers are opened. -/
inductive Act where
  /-- The next settings are checked, or the next worker is opened. -/
  | proceed
  /-- A worker that is open makes a move. -/
  | work (k : Nat) (m : Move)

/-- Nothing has been checked yet. -/
def start (a : WorkerArguments) : Opening := ⟨[], .checking a.jobTypes⟩

/-- Lets go of the workers that are open. -/
def letGo (o : Opening) : List (Config Unit × State Unit) × List Event :=
  (o.workers.map fun (w, s) => (w, (s.close w).1), o.workers.flatMap fun (w, s) => (s.close w).2)

/-- How opening goes on, unless it is over. -/
def proceed? (a : WorkerArguments) (env : Environment) (runtime : Runtime) (o : Opening) :
    Option (Opening × List Event) :=
  match o.stage with
  | .checking [] => some ({ o with stage := .opening a.jobTypes }, [])
  | .checking (jobType :: left) =>
    match (a.options jobType).validate env with
    | (notices, .ok ()) => some ({ o with stage := .checking left }, Event.ofNotices notices)
    | (notices, .error e) => some ({ o with stage := .refused e }, Event.ofNotices notices)
  | .opening [] => some ({ o with stage := .opened }, [])
  | .opening (jobType :: left) =>
    match (a.options jobType).openIn env runtime with
    | (notices, .ok w) =>
      some (⟨o.workers ++ [(w, w.start)], .opening left⟩, Event.ofNotices notices)
    | (notices, .error e) => some (⟨o.letGo.1, .refused e⟩, Event.ofNotices notices ++ o.letGo.2)
  | .opened | .refused _ => none

/-- What a move of a worker leads to, if it is possible. -/
def work? (o : Opening) (k : Nat) (m : Move) : Option (Opening × List Event) := do
  let (w, s) ← o.workers[k]?
  let (s, events) ← s.move? w m
  return ({ o with workers := o.workers.set k (w, s) }, events)

/-- What an act leads to, if it is possible, and what happens in it. -/
def act? (a : WorkerArguments) (env : Environment) (runtime : Runtime) (o : Opening) :
    Act → Option (Opening × List Event)
  | .proceed => o.proceed? a env runtime
  | .work k m => o.work? k m

/-- What some acts lead to, if they are possible, and what happens in them. -/
def run? (a : WorkerArguments) (env : Environment) (runtime : Runtime) (o : Opening) :
    List Act → Option (Opening × List Event)
  | [] => some (o, [])
  | act :: acts => do
    let (o, events) ← o.act? a env runtime act
    let (o, more) ← o.run? a env runtime acts
    return (o, events ++ more)

end Opening

end JobWorker.Cli
