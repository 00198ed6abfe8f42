/-
Any number of callers at a gateway with a script.

A request for jobs is dealt with at two moments.  First it is written down, and it is decided whether
it is kept waiting for ever; then the script is looked at.  Between the two, other callers have their
turns, and the script may be added to.  A command is dealt with at one moment.
-/
import JobWorker.Event
import JobWorker.Gateway.Scripted

namespace JobWorker.Scripted

/-- A gateway with a script, and what its callers see of it. -/
structure Desk where
  gateway : Scripted
  /-- The requests that have been written down and are to be answered. -/
  waiting : List ActivateRequest
  /-- The calls and the answers so far. -/
  events : List Event

namespace Desk

/-- A gateway with an empty script that nobody has called. -/
def blank : Desk := ⟨.blank, [], []⟩

/-- One act, which takes a single moment. -/
inductive Act where
  | push (entry : Entry)
  | hold
  | overGrant
  | refuseCompletions (error : Option GatewayError)
  | refuseFailures (error : Option GatewayError)
  /-- A request for jobs is written down. -/
  | ask (request : ActivateRequest)
  /-- One of the requests that wait is answered. -/
  | answer (k : Nat)
  /-- A command is taken and answered. -/
  | perform (command : Command)

/-- Writes a request down. -/
def ask (d : Desk) (request : ActivateRequest) : Desk where
  gateway := d.gateway.record (.activate request)
  waiting := if d.gateway.holding then d.waiting else d.waiting ++ [request]
  events := d.events ++ [.call (.activate request)]

/-- Answers a request with what the script holds. -/
def answer (d : Desk) (k : Nat) (request : ActivateRequest) : Desk :=
  let (script, grant) := grant d.gateway.overGranting request.maxJobs d.gateway.script
  { gateway := { d.gateway with script }
    waiting := d.waiting.eraseIdx k
    events := d.events ++ [.granted grant] }

/-- Takes a command and answers it. -/
def perform (d : Desk) (command : Command) : Desk :=
  let (gateway, verdict) := Gateway.perform d.gateway command
  { d with
    gateway
    events := d.events ++ [.call (.command command), .answered command verdict] }

/-- What an act leads to, if it is possible. -/
def act? (d : Desk) : Act → Option Desk
  | .push entry => some { d with gateway := d.gateway.push entry }
  | .hold => some { d with gateway := { d.gateway with holding := true } }
  | .overGrant => some { d with gateway := { d.gateway with overGranting := true } }
  | .refuseCompletions error =>
    some { d with gateway := { d.gateway with completeError := error } }
  | .refuseFailures error => some { d with gateway := { d.gateway with failError := error } }
  | .ask request => some (d.ask request)
  | .answer k => d.waiting[k]?.map (d.answer k)
  | .perform command => some (d.perform command)

/-- What some acts lead to, if they are possible. -/
def run? (d : Desk) (acts : List Act) : Option Desk := acts.foldlM act? d

end Desk

end JobWorker.Scripted
