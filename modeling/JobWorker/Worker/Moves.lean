/-
What can happen to a worker at any time.

The two loops, the gateway, the clock, whoever lets a handler go and whoever closes the worker act
independently.  A move is one act of one of them, from one point where a loop waits to the next.  A
gateway may answer whatever it likes and as late as it likes; a handler may wait for ever.  A
history is a list of moves in any order in which they are possible.
-/
import JobWorker.Worker.Loops

namespace JobWorker.Worker

/-- What it is about a handle on a worker that closes the worker. -/
inductive Closing where
  /-- It is asked to close the worker. -/
  | asked
  /-- It is let go. -/
  | dropped
  /-- The end of the worker is awaited. -/
  | awaited
  deriving DecidableEq, Repr

/-- One act. -/
inductive Move where
  /-- The acquiring loop asks for jobs for the first time. -/
  | first
  /-- The acquiring loop follows the signal. -/
  | wake
  /-- The poll interval is over. -/
  | elapse
  /-- The gateway answers a request for jobs. -/
  | grant (answer : Grant)
  /-- The acquiring loop ends. -/
  | stopAcquiring
  /-- The executing loop takes up the next job. -/
  | takeUp
  /-- A handler that waits is let go. -/
  | letGo
  /-- The gateway answers a command. -/
  | verdict (verdict : Verdict)
  /-- The executing loop ends. -/
  | stopExecuting
  /-- The worker is closed, which is the same in whatever way it comes about. -/
  | close (way : Closing)

namespace State

variable {σ : Type}

/-- What a move leads to, if it is possible.  A worker that is closed makes no request, takes no
answer to one and takes up no job. -/
def move? (w : Config σ) (s : State σ) : Move → Option (State σ × List Event)
  | .first =>
    match s.acquire with
    | .starting => if s.closed then none else some (s.poll w)
    | _ => none
  | .wake =>
    match s.acquire with
    | .waiting =>
      if s.closed || !s.pollNow then none else some ({ s with pollNow := false }.poll w)
    | _ => none
  | .elapse =>
    match s.acquire with
    | .waiting => if s.closed then none else some (s.poll w)
    | _ => none
  | .grant answer =>
    match s.acquire with
    | .activating request => if s.closed then none else some (s.receive w request answer)
    | _ => none
  | .stopAcquiring =>
    match s.acquire with
    | .stopped => none
    | _ => if s.closed then some (s.stopAcquiring, []) else none
  | .takeUp =>
    match s.execute, s.queue with
    | .idle, job :: rest => if s.closed then none else some (s.takeUp w job rest)
    | _, _ => none
  | .letGo =>
    match s.execute with
    | .blocked job next => some (s.proceed w job next)
    | _ => none
  | .verdict verdict =>
    match s.execute with
    | .sending .. | .following .. => some (s.answered w verdict)
    | _ => none
  | .stopExecuting =>
    match s.execute with
    | .idle => if s.closed then some (s.stopExecuting, []) else none
    | _ => none
  | .close _ => some (s.close w)

/-- What a history leads to, if it is possible, and what happens in it. -/
def run? (w : Config σ) (s : State σ) : List Move → Option (State σ × List Event)
  | [] => some (s, [])
  | m :: history => do
    let (s, events) ← s.move? w m
    let (s, more) ← s.run? w history
    return (s, events ++ more)

end State

/-- The states that some history leads to, with what happens in it. -/
def Reaches {σ : Type} (w : Config σ) (history : List Move) (s : State σ) (events : List Event) :
    Prop :=
  w.start.run? w history = some (s, events)

end JobWorker.Worker
