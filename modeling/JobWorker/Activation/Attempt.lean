/-
An activation among other callers of a gateway with a script.

The caller looks at its activation from time to time, and the others go about their business.  The look
that calls the gateway writes the request down.  Unless requests are kept waiting, the same look also
gets the answer, but others may have had their turns in the meantime; till then nobody looks again.
-/
import JobWorker.Activation.Looks
import JobWorker.Gateway.Scripted.Desk

namespace JobWorker.Activation

open Scripted

/-- An activation at a gateway, and the others there. -/
structure Attempt where
  desk : Desk
  stage : Stage
  /-- Whether a look has called the gateway and is yet to get the answer. -/
  looking : Bool

namespace Attempt

/-- What happens next. -/
inductive Turn where
  /-- Another caller, or whoever writes the script, does something. -/
  | others (act : Desk.Act)
  /-- The caller looks at the activation. -/
  | look (cancelled : Bool)
  /-- The look gets the answer of the gateway. -/
  | collect

/-- Nobody has looked at the activation yet. -/
def start (d : Desk) : Attempt := ⟨d, .fresh, false⟩

/-- The caller looks, and calls the gateway if it is time to. -/
def look (request : ActivateRequest) (cancelled : Bool) (x : Attempt) : Attempt :=
  let stage := (x.stage.look request ⟨cancelled, none⟩).1
  if x.stage.calls request cancelled then
    { desk := { x.desk with gateway := x.desk.gateway.record (.activate request) }
      stage
      looking := !x.desk.gateway.holding }
  else { x with stage }

/-- The look gets what the script holds. -/
def collect (request : ActivateRequest) (x : Attempt) : Attempt :=
  let g := x.desk.gateway
  let (script, grant) := grant g.overGranting request.maxJobs g.script
  { desk := { x.desk with gateway := { g with script } }
    stage := (x.stage.look request ⟨false, some grant⟩).1
    looking := false }

/-- What happens in a turn, if it is possible. -/
def turn? (request : ActivateRequest) (x : Attempt) : Turn → Option Attempt
  | .others act => (x.desk.act? act).map fun desk => { x with desk }
  | .look cancelled => if x.looking then none else some (x.look request cancelled)
  | .collect => if x.looking then some (x.collect request) else none

/-- What happens in some turns, if they are possible. -/
def run? (request : ActivateRequest) (x : Attempt) (turns : List Turn) : Option Attempt :=
  turns.foldlM (turn? request) x

end Attempt

end JobWorker.Activation
