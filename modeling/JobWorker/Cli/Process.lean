/-
Workers in a process.

The workers act independently of each other, and whatever the gateway answers is theirs alone to deal
with.  The process itself only waits for a signal.  Then it closes the workers one after the other,
awaits the end of each before it goes on to the next, and exits.  Further signals change nothing.
-/
import JobWorker.Cli.Program
import JobWorker.Worker.Moves

namespace JobWorker.Cli

open Worker

/-- How far a process has come. -/
inductive Phase where
  /-- It waits for a signal. -/
  | serving
  /-- It was told to stop, and as many workers have ended since. -/
  | stopping (ended : Nat)
  | exited (exit : Exit)

/-- A process that runs workers. -/
structure Process where
  workers : List (Config Unit × State Unit)
  phase : Phase
  /-- The lines that have been printed so far. -/
  printed : List String

/-- One act in a process. -/
inductive Act where
  /-- A worker makes a move. -/
  | work (k : Nat) (m : Move)
  | signal
  /-- The process goes on with stopping. -/
  | advance

namespace Process

/-- The process whose workers have just been opened. -/
def start (workers : List (Config Unit)) : Process :=
  ⟨workers.map fun w => (w, w.start), .serving, []⟩

/-- Whether the process has exited. -/
def isOver (p : Process) : Bool :=
  match p.phase with
  | .exited _ => true
  | _ => false

/-- What a move of a worker leads to, if it is possible. -/
def work? (p : Process) (k : Nat) (m : Move) : Option Process := do
  let (w, s) ← p.workers[k]?
  let (s, events) ← s.move? w m
  return { p with workers := p.workers.set k (w, s), printed := p.printed ++ Cli.printed events }

/-- How stopping goes on when some workers have ended: the next one is closed, or its end is taken
note of; when there is none left, the process exits. -/
def advance? (p : Process) (ended : Nat) : Option Process :=
  match p.workers[ended]? with
  | none => some { p with phase := .exited (.stopped p.printed) }
  | some (w, s) =>
    if !s.closed then some { p with workers := p.workers.set ended (w, (s.close w).1) }
    else if s.isFinished then some { p with phase := .stopping (ended + 1) }
    else none

/-- What an act leads to, if it is possible. -/
def act? (p : Process) : Act → Option Process
  | .work k m => if p.isOver then none else p.work? k m
  | .signal =>
    match p.phase with
    | .serving => some { p with phase := .stopping 0 }
    | .stopping _ => some p
    | .exited _ => none
  | .advance =>
    match p.phase with
    | .stopping ended => p.advance? ended
    | _ => none

/-- What some acts lead to, if they are possible. -/
def run? (p : Process) : List Act → Option Process
  | [] => some p
  | a :: acts => do (← p.act? a).run? acts

end Process

end JobWorker.Cli
