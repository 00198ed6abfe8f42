/-
A worker on its own.

Here the loops take turns: the loop that executes jobs goes first, and each loop goes on until it has
to wait.  The gateway answers at once or, when it is asked for jobs, never.  A handler that waits is
let go by a permit.  What is left when neither loop can move is a state of rest; only the passing of
the poll interval, a permit or closing leads out of it.
-/
import JobWorker.Worker.Loops

namespace JobWorker.Worker

/-- A worker, its gateway, and the permits for handlers that wait. -/
structure World (γ σ : Type) where
  gateway : γ
  state : State σ
  permits : Nat

namespace World

variable {γ σ : Type} [Gateway γ]

/-- Ends the handling of a job, including the command of the worker itself. -/
def finish (w : Config σ) (job : Job) (memory : σ) (outcome : Outcome) (x : World γ σ) :
    World γ σ × List Event :=
  let (s, events) := x.state.finish w job memory outcome
  match s.execute with
  | .following _ command =>
    let (g, verdict) := Gateway.perform x.gateway command
    let (s, more) := s.answered w verdict
    ({ x with gateway := g, state := s }, events ++ more)
  | _ => ({ x with state := s }, events)

/-- Goes on with the handler of a job until it ends or waits without a permit. -/
def proceed (w : Config σ) (job : Job) : Activity σ → World γ σ → World γ σ × List Event
  | .done memory outcome, x => x.finish w job memory outcome
  | .await next, x =>
    match x.permits with
    | 0 => ({ x with state := { x.state with execute := .blocked job next } }, [])
    | permits + 1 => proceed w job next { x with permits }
  | .send command next, x =>
    let (g, sent, answer) := command.send x.gateway
    let (x, events) := proceed w job (next answer) { x with gateway := g }
    (x, sent ++ events)
  | .say remark next, x =>
    let (x, events) := proceed w job next x
    (x, .said remark :: events)

/-- Takes up a job, of which `rest` are left in the queue. -/
def takeUp (w : Config σ) (job : Job) (rest : List Job) (x : World γ σ) : World γ σ × List Event :=
  let (x, events) :=
    proceed w job (w.handler.start x.state.memory job) { x with state := x.state.dequeued rest }
  (x, .started job :: events)

/-- Asks for jobs, if there is room for any, and takes the answer if it comes. -/
def poll (w : Config σ) (x : World γ σ) : World γ σ × List Event :=
  let (s, events) := x.state.poll w
  match s.acquire with
  | .activating request =>
    match Gateway.activate x.gateway request with
    | (g, some answer) =>
      let (s, more) := s.receive w request answer
      ({ x with gateway := g, state := s }, events ++ more)
    | (g, none) => ({ x with gateway := g, state := s }, events)
  | _ => ({ x with state := s }, events)

/-- The next move of the loop that executes jobs, if it can move. -/
def execute (w : Config σ) (x : World γ σ) : Option (World γ σ × List Event) :=
  match x.state.execute with
  | .idle =>
    if x.state.closed then some ({ x with state := x.state.stopExecuting }, [])
    else match x.state.queue with
      | [] => none
      | job :: rest => some (x.takeUp w job rest)
  | .blocked job next => if x.permits = 0 then none else some (proceed w job (.await next) x)
  | _ => none

/-- The next move of the loop that acquires jobs, if it can move. -/
def acquire (w : Config σ) (x : World γ σ) : Option (World γ σ × List Event) :=
  match x.state.acquire with
  | .stopped => none
  | .starting =>
    if x.state.closed then some ({ x with state := x.state.stopAcquiring }, []) else some (x.poll w)
  | .activating _ =>
    if x.state.closed then some ({ x with state := x.state.stopAcquiring }, []) else none
  | .waiting =>
    if x.state.closed then some ({ x with state := x.state.stopAcquiring }, [])
    else if x.state.pollNow then
      some ({ x with state := { x.state with pollNow := false } }.poll w)
    else none

/-- The next move. -/
def move (w : Config σ) (x : World γ σ) : Option (World γ σ × List Event) :=
  (x.execute w).or (x.acquire w)

/-- Moves until nothing can move, at most `fuel` times. -/
def settle (w : Config σ) : Nat → World γ σ → World γ σ × List Event
  | 0, x => (x, [])
  | fuel + 1, x =>
    match x.move w with
    | none => (x, [])
    | some (x, events) =>
      let (x, more) := settle w fuel x
      (x, events ++ more)

/-- Lets the poll interval pass once. -/
def elapse (w : Config σ) (x : World γ σ) : World γ σ × List Event :=
  match x.state.acquire with
  | .waiting => if x.state.closed then (x, []) else x.poll w
  | _ => (x, [])

end World

end JobWorker.Worker
