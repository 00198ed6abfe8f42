/-
Waiting for what an activation comes to.

Whoever asks for jobs looks again and again.  At each look the first question is whether the caller has
given up, and only then is the gateway looked at: giving up goes before an answer that is there at the
same time.  The gateway is called by the first look that gets so far, and at that look it may answer
already.
-/
import JobWorker.Activation

namespace JobWorker.Activation

/-- What there is to be seen at one look. -/
structure Look where
  /-- Whether the caller has given up. -/
  cancelled : Bool
  /-- The answer of the gateway, if it has answered. -/
  answer : Option Grant

/-- How far an activation has come. -/
inductive Stage where
  | fresh
  /-- The gateway has been called. -/
  | asked
  | ended (result : Result)

namespace Stage

/-- What an activation has come to. -/
def result? : Stage → Option Result
  | .ended result => some result
  | .fresh | .asked => none

/-- Whether a look at an activation calls the gateway. -/
def calls (request : ActivateRequest) (cancelled : Bool) : Stage → Bool
  | .fresh => request.maxJobs ≠ 0 && !cancelled
  | .asked | .ended _ => false

/-- Looks at the gateway that has been called. -/
def hear (request : ActivateRequest) : Option Grant → Stage × List Event
  | none => (.asked, [])
  | some answer =>
    let (events, result) := conclude request answer
    (.ended result, events)

/-- Looks at an activation once. -/
def look (request : ActivateRequest) (l : Look) : Stage → Stage × List Event
  | .fresh =>
    if request.maxJobs = 0 then (.ended (.ok []), [])
    else if l.cancelled then (.ended (.error .cancelled), [])
    else
      let (stage, events) := hear request l.answer
      (stage, .call (.activate request) :: events)
  | .asked => if l.cancelled then (.ended (.error .cancelled), []) else hear request l.answer
  | .ended result => (.ended result, [])

/-- Looks at an activation again and again. -/
def follow (request : ActivateRequest) (stage : Stage) : List Look → Stage × List Event
  | [] => (stage, [])
  | l :: looks =>
    let (stage, events) := stage.look request l
    let (stage, more) := stage.follow request looks
    (stage, events ++ more)

end Stage

end JobWorker.Activation
