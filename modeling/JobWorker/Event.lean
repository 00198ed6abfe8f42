/-
What can be seen of workers and callers from outside.

Events are listed in the order in which they happen.  Whatever is asked of a gateway shows twice,
when the call is made and when it is answered; a call that is never answered shows once.
-/
import JobWorker.Handler
import JobWorker.Notice

namespace JobWorker

/-- Something that happens. -/
inductive Event where
  /-- A call to the gateway is made. -/
  | call (call : Call)
  /-- A request for jobs is answered. -/
  | granted (answer : Grant)
  /-- A command is answered. -/
  | answered (command : Command) (verdict : Verdict)
  /-- A handler starts on a job. -/
  | started (job : Job)
  /-- The handler of a job has ended. -/
  | ended (job : Job) (outcome : Outcome)
  /-- A handler says something. -/
  | said (remark : Remark)
  /-- Something is written to the log. -/
  | noticed (notice : Notice)

/-- The events of writing notices to the log. -/
def Event.ofNotices (notices : List Notice) : List Event := notices.map .noticed

/-- Sends a command and waits for the answer. -/
def Command.send {γ : Type} [Gateway γ] (c : Command) (g : γ) :
    γ × List Event × Except GatewayError Receipt :=
  let (g, verdict) := Gateway.perform g c
  (g, [.call (.command c), .answered c verdict], c.receiptFor verdict)

end JobWorker
