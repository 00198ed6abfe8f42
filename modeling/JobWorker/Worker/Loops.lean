/-
The two loops of a worker.

One loop acquires jobs: it asks the gateway for as many as the queue has room for, and then waits for
the poll interval or for a signal.  The other loop executes them: it takes the first job of the queue
and runs the handler, and it gives the signal when it has taken the last one.  The loops share the
queue, the signal, which is remembered but not counted, and the flag by which the worker is closed.

Every function here leads from one point where a loop waits to the next, and says what happens on the
way.  Between two such points nothing else of the worker happens.
-/
import JobWorker.Worker.Config

namespace JobWorker.Worker

/-- Where the loop stands that acquires jobs. -/
inductive Acquire where
  /-- It has not asked for anything yet. -/
  | starting
  /-- It has asked for a number of jobs and waits for the answer. -/
  | activating (request : ActivateRequest)
  /-- It waits for the signal or for the poll interval. -/
  | waiting
  | stopped
  deriving DecidableEq, Repr

/-- Where the loop stands that executes jobs. -/
inductive Execute (σ : Type) where
  /-- It waits for a job. -/
  | idle
  /-- The handler of a job waits until it is let go. -/
  | blocked (job : Job) (next : Activity σ)
  /-- The handler of a job has sent a command and waits for the answer. -/
  | sending (job : Job) (command : Command) (next : Except GatewayError Receipt → Activity σ)
  /-- The handler has ended, and the worker has sent a command of its own for the job. -/
  | following (job : Job) (command : Command)
  | stopped

/-- What the loops share, and where they stand. -/
structure State (σ : Type) where
  /-- The jobs that have been acquired and not been taken up. -/
  queue : List Job
  /-- Whether the signal to ask for jobs is given. -/
  pollNow : Bool
  closed : Bool
  /-- What the handler remembers. -/
  memory : σ
  acquire : Acquire
  execute : Execute σ

variable {σ : Type}

/-- A worker that has just been opened. -/
def Config.start (w : Config σ) : State σ :=
  { queue := []
    pollNow := false
    closed := false
    memory := w.handler.fresh
    acquire := .starting
    execute := .idle }

namespace State

/-! ### Acquiring -/

/-- The number of jobs that the queue has room for. -/
def room (w : Config σ) (s : State σ) : Nat := w.capacity - s.queue.length

/-- The request for as many jobs as the queue has room for. -/
def topUp (w : Config σ) (s : State σ) : ActivateRequest :=
  w.request.withMaxJobs (UInt32.ofNat (s.room w))

/-- Asks for jobs, if there is room for any. -/
def poll (w : Config σ) (s : State σ) : State σ × List Event :=
  if s.room w = 0 then ({ s with acquire := .waiting }, [])
  else
    ({ s with acquire := .activating (s.topUp w) }, [.call (.activate (s.topUp w))])

/-- Puts a job into the queue, or drops it if the queue is full. -/
def enqueue (w : Config σ) (s : State σ) (job : Job) : State σ × List Event :=
  if s.room w = 0 then (s, [.noticed (.jobDropped job.key)])
  else ({ s with queue := s.queue ++ [job] }, [])

/-- Puts jobs into the queue one after the other. -/
def enqueueAll (w : Config σ) (s : State σ) : List Job → State σ × List Event
  | [] => (s, [])
  | job :: jobs =>
    let (s, events) := s.enqueue w job
    let (s, more) := s.enqueueAll w jobs
    (s, events ++ more)

/-- Takes the answer to a request for jobs. -/
def receive (w : Config σ) (request : ActivateRequest) (answer : Grant) (s : State σ) :
    State σ × List Event :=
  let s := { s with acquire := .waiting }
  match answer with
  | .ok jobs =>
    let (s, dropped) := s.enqueueAll w (Activation.accept request jobs)
    (s, .granted answer :: Event.ofNotices (Activation.surplusNotices request jobs) ++ dropped)
  | .error e => (s, [.granted answer, .noticed (.activationFailed w.name w.jobType e)])

/-- Ends the loop that acquires jobs. -/
def stopAcquiring (s : State σ) : State σ := { s with acquire := .stopped }

/-! ### Executing -/

end State

/-- The message with which a job is failed. -/
def Config.failureMessage (w : Config σ) (job : Job) (cause : String) : String :=
  "Job worker '" ++ w.name ++ "' tried to handle job of type '" ++ job.type ++
    "', but exception occurred '" ++ cause ++ "'"

/-- What the worker writes to the log when the handler of a job has ended. -/
def Config.remarksOn (w : Config σ) (job : Job) : Except String Resolution → List Notice
  | .ok (.resolved receipt) =>
    if receipt.key = job.key then [] else [.foreignReceipt w.name job.key receipt.key]
  | .ok .unresolved => []
  | .error cause => [.handlerFailed w.name job.key job.type cause]

/-- The command that the worker itself sends when the handler of a job has ended. -/
def Config.followUp (w : Config σ) (job : Job) : Except String Resolution → Option Command
  | .ok resolution =>
    if resolution.resolves job.key then none
    else if w.autoComplete then some (.complete ⟨job.key, none⟩)
    else none
  | .error cause => some (.fail ⟨job.key, job.retriesLeft, w.failureMessage job cause⟩)

/-- What the worker writes to the log when its own command is answered. -/
def Config.remarksOnVerdict (w : Config σ) (command : Command) : Verdict → List Notice
  | .ok _ => []
  | .error e =>
    match command with
    | .complete request => [.autoCompletionFailed w.name request.key e]
    | .fail request => [.failingFailed w.name request.key e]

namespace State

/-- Ends the handling of a job. -/
def finish (w : Config σ) (job : Job) (memory : σ) (outcome : Outcome) (s : State σ) :
    State σ × List Event :=
  let s := { s with memory }
  let events := .ended job outcome :: Event.ofNotices (w.remarksOn job outcome.result)
  match w.followUp job outcome.result with
  | none => ({ s with execute := .idle }, events)
  | some command =>
    ({ s with execute := .following job command }, events ++ [.call (.command command)])

/-- Goes on with the handler of a job until it waits for something. -/
def proceed (w : Config σ) (job : Job) (s : State σ) : Activity σ → State σ × List Event
  | .done memory outcome => s.finish w job memory outcome
  | .await next => ({ s with execute := .blocked job next }, [])
  | .send command next =>
    ({ s with execute := .sending job command next }, [.call (.command command)])
  | .say remark next =>
    let (s, events) := s.proceed w job next
    (s, .said remark :: events)

/-- The state when the first job has been taken off the queue and `rest` is left. -/
def dequeued (rest : List Job) (s : State σ) : State σ :=
  { s with queue := rest, pollNow := s.pollNow || rest.isEmpty }

/-- Takes up a job, of which `rest` are left in the queue. -/
def takeUp (w : Config σ) (job : Job) (rest : List Job) (s : State σ) : State σ × List Event :=
  let (s, events) := (s.dequeued rest).proceed w job (w.handler.start s.memory job)
  (s, .started job :: events)

/-- Takes the answer to the command that the handler or the worker has sent. -/
def answered (w : Config σ) (verdict : Verdict) (s : State σ) : State σ × List Event :=
  match s.execute with
  | .sending job command next =>
    let (s, events) := s.proceed w job (next (command.receiptFor verdict))
    (s, .answered command verdict :: events)
  | .following _ command =>
    ({ s with execute := .idle },
      .answered command verdict :: Event.ofNotices (w.remarksOnVerdict command verdict))
  | _ => (s, [])

/-- Ends the loop that executes jobs. -/
def stopExecuting (s : State σ) : State σ := { s with execute := .stopped }

/-! ### Closing -/

/-- Closes a worker; only the first time does it happen. -/
def close (w : Config σ) (s : State σ) : State σ × List Event :=
  if s.closed then (s, [])
  else ({ s with closed := true }, [.noticed (.closed w.name w.jobType)])

/-- Whether both loops have ended. -/
def isFinished (s : State σ) : Bool :=
  match s.acquire, s.execute with
  | .stopped, .stopped => true
  | _, _ => false

end State

end JobWorker.Worker
