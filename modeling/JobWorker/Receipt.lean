/-
Receipts.

A receipt says that the gateway accepted a command for a job.  A handler that has ended its job by a
command of its own hands the receipt back, and the worker leaves the job alone.
-/
import JobWorker.Gateway

namespace JobWorker

/-- The two ways to end a job. -/
inductive CommandKind where
  | complete
  | fail
  deriving DecidableEq, Repr

/-- The name of a kind of command. -/
def CommandKind.text : CommandKind → String
  | .complete => "complete"
  | .fail => "fail"

/-- Which kind a command is. -/
def Command.kind : Command → CommandKind
  | .complete _ => .complete
  | .fail _ => .fail

/-- The proof that the gateway accepted a command. -/
structure Receipt where
  key : JobKey
  kind : CommandKind
  deriving DecidableEq, Repr

/-- The receipt for a command. -/
def Command.receipt (c : Command) : Receipt := ⟨c.key, c.kind⟩

/-- The answer to a command, with the receipt if it was accepted. -/
def Command.receiptFor (c : Command) (verdict : Verdict) : Except GatewayError Receipt :=
  verdict.map fun _ => c.receipt

/-- What a handler says about its job. -/
inductive Resolution where
  | resolved (receipt : Receipt)
  | unresolved
  deriving DecidableEq, Repr

/-- Whether a resolution carries a receipt for a job. -/
def Resolution.resolves : Resolution → JobKey → Bool
  | .resolved receipt, key => receipt.key = key
  | .unresolved, _ => false

end JobWorker
