/-
Workers that are opened one after the other.

Opening a worker is a row of steps: the options are checked, the runtime is looked at, the loops are
started, and the log is written.  A step that fails ends the row, and whatever the steps before it have
done stays done.  A worker that is open runs on its own from then on, beside the others.
-/
import JobWorker.Worker.Moves

namespace JobWorker.Worker

/-- The workers that have been started, with where each of them stands, and what has happened. -/
structure Crew (σ : Type) where
  members : List (Config σ × State σ)
  events : List Event

namespace Crew

variable {σ : Type}

/-- No worker has been started, and nothing has happened. -/
def empty : Crew σ := ⟨[], []⟩

/-- Something that is done to a crew and can fail.  What has been done before it fails is not undone. -/
abbrev Doing (σ α : Type) := ExceptT ConfigError (StateM (Crew σ)) α

/-- Writes to the log. -/
def write (notices : List Notice) : Doing σ Unit :=
  modify fun c => { c with events := c.events ++ Event.ofNotices notices }

/-- Starts the loops of a worker. -/
def launch (w : Config σ) : Doing σ Unit :=
  modify fun c => { c with members := c.members ++ [(w, w.start)] }

/-- Checks options, and makes the configuration that they stand for. -/
def check (options : Options σ) (env : Environment) : Doing σ (Config σ) := do
  let (notices, config) := options.config env
  write notices
  config

/-- Checks options without starting anything. -/
def validate (options : Options σ) (env : Environment) : Doing σ Unit := do
  let _ ← check options env

/-- Opens a worker in a runtime. -/
def openWorker (options : Options σ) (env : Environment) (runtime : Runtime) :
    Doing σ (Config σ) := do
  let w ← check options env
  runtime.check
  launch w
  write [.opened w.name w.jobType w.request.maxJobs w.pollInterval]
  return w

/-- One act. -/
inductive Act (σ : Type) where
  | validate (options : Options σ)
  | opening (options : Options σ) (runtime : Runtime)
  /-- A worker that has been started makes a move. -/
  | work (k : Nat) (m : Move)

/-- What an act leads to, if it is possible.  Whoever opens a worker may fail, but may always try. -/
def act? (env : Environment) (c : Crew σ) : Act σ → Option (Crew σ)
  | .validate options => some ((Crew.validate options env).run c).2
  | .opening options runtime => some ((openWorker options env runtime).run c).2
  | .work k m => do
    let (w, s) ← c.members[k]?
    let (s, events) ← s.move? w m
    return ⟨c.members.set k (w, s), c.events ++ events⟩

/-- What some acts lead to, if they are possible. -/
def run? (env : Environment) (c : Crew σ) (acts : List (Act σ)) : Option (Crew σ) :=
  acts.foldlM (act? env) c

end Crew

end JobWorker.Worker
