/-
Handlers.

A handler is run once for each job.  What it does is laid out as an activity: it can say things,
send commands and go on according to the answers, wait until it is let go, and finally end with an
outcome.  A handler keeps a memory from one job to the next.
-/
import JobWorker.Receipt

namespace JobWorker

/-- How a handler ended. -/
inductive Outcome where
  /-- It came to an end, and says what became of the job. -/
  | returned (resolution : Resolution)
  /-- It failed; the causes of the failure, the outermost first. -/
  | failed (causes : List String)
  /-- It broke off, leaving a text or something that is no text. -/
  | panicked (text : Option String)
  deriving DecidableEq, Repr

/-- What a worker makes of an outcome: a resolution or the cause of a failure. -/
def Outcome.result : Outcome → Except String Resolution
  | .returned resolution => .ok resolution
  | .failed causes => .error (": ".intercalate causes)
  | .panicked text => .error ("handler panicked: " ++ text.getD "unknown panic payload")

/-- What a handler can say. -/
inductive Remark where
  /-- It took up a job. -/
  | tookUp (key : JobKey)
  /-- It took up a job, and shows all of it. -/
  | tookUpShown (job : Job)
  /-- It had to wait with a job, and goes on. -/
  | released (key : JobKey)
  /-- A line of output. -/
  | line (text : String)
  deriving DecidableEq, Repr

/-- What a handler does with a job, step by step. -/
inductive Activity (σ : Type) where
  /-- Ends, and leaves a memory to the next activity. -/
  | done (memory : σ) (outcome : Outcome)
  /-- Waits until it is let go. -/
  | await (next : Activity σ)
  /-- Sends a command and goes on with the answer. -/
  | send (command : Command) (next : Except GatewayError Receipt → Activity σ)
  /-- Says something. -/
  | say (remark : Remark) (next : Activity σ)

/-- What is done with every job. -/
structure Handler (σ : Type) where
  /-- The memory before the first job. -/
  fresh : σ
  /-- What is done with a job. -/
  start : σ → Job → Activity σ

end JobWorker
