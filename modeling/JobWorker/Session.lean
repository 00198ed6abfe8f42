/-
Sessions.

In a session a script is written and followed, jobs are asked for, commands are sent, and workers are
opened and closed, one worker at a time.  After each action everything runs until nothing can run
without time passing; that takes no more moves than there are jobs in the script and in the queue,
twice over, and a few more.
-/
import JobWorker.Gateway.Scripted
import JobWorker.Worker.Schedule

namespace JobWorker

open Worker

namespace Session

/-- A worker that was opened. -/
structure Opened (σ : Type) where
  config : Config σ
  state : State σ
  permits : Nat

/-- What a handle on a worker shows. -/
structure Identity where
  isClosed : Bool
  workerName : String
  jobType : String
  deriving DecidableEq, Repr

/-- What is asked when the end of a worker is awaited. -/
inductive Awaited where
  /-- Nobody waits. -/
  | nothing
  /-- The end of the worker that was opened last. -/
  | current
  /-- The end of a worker that another one has replaced. -/
  | former (finished : Bool)
  deriving DecidableEq, Repr

/-- What can be done in a session. -/
inductive Action (σ : Type) where
  | push (entry : Scripted.Entry)
  | hold
  | overGrant
  | refuseCompletions (error : Option GatewayError)
  | refuseFailures (error : Option GatewayError)
  /-- Asks the gateway for jobs and takes them as they are granted. -/
  | request (request : ActivateRequest)
  /-- Asks for jobs once. -/
  | activate (request : ActivateRequest) (cancellation : Activation.Cancellation)
  /-- Asks for jobs once, as the options say. -/
  | activateWith (options : Activation.Options)
  /-- Makes the request that the options stand for, but does not send it. -/
  | draft (options : Activation.Options)
  | send (command : Command)
  | opening (options : Options σ)
  | close
  /-- Lets the handle on the worker go. -/
  | drop
  /-- Lets the handle go and awaits the end of the worker. -/
  | shutdown
  /-- Lets handlers that wait go on, as often as `permits` says. -/
  | release (permits : Nat)
  /-- The poll interval passes once. -/
  | tick
  /-- Only looks. -/
  | look

/-- What the caller gets back from an action. -/
inductive Answer where
  | none
  | granted (answer : Option Grant)
  | activated (result : Option Activation.Result)
  | drafted (request : Except ConfigError ActivateRequest)
  | sent (answer : Except GatewayError Receipt)
  | opened (identity : Except ConfigError Identity)
  | ended (finished : Bool)

end Session

/-- What a session has come to. -/
structure Session (σ : Type) where
  env : Environment
  gateway : Scripted
  /-- The worker that was opened last. -/
  worker : Option (Session.Opened σ)
  /-- Whether there is a handle on that worker. -/
  held : Bool
  awaited : Session.Awaited

namespace Session

variable {σ : Type}

/-- The beginning of a session. -/
def start (env : Environment) : Session σ := ⟨env, .blank, none, false, .nothing⟩

/-- What the handle on the worker shows. -/
def identity? (s : Session σ) : Option Identity :=
  if s.held then s.worker.map fun o => ⟨o.state.closed, o.config.name, o.config.jobType⟩ else none

/-- Whether the worker whose end is awaited has ended. -/
def hasEnded? (s : Session σ) : Option Bool :=
  match s.awaited with
  | .nothing => none
  | .current => some ((s.worker.map fun o => o.state.isFinished).getD true)
  | .former finished => some finished

/-- Does something with the worker and the gateway together. -/
def onWorker (s : Session σ)
    (f : Config σ → World Scripted σ → World Scripted σ × List Event) : Session σ × List Event :=
  match s.worker with
  | none => (s, [])
  | some o =>
    let (x, events) := f o.config ⟨s.gateway, o.state, o.permits⟩
    ({ s with
        gateway := x.gateway
        worker := some { o with state := x.state, permits := x.permits } }, events)

/-- As many moves as a worker can make before it rests. -/
def fuel (x : World Scripted σ) : Nat :=
  2 * (x.gateway.pending.length + x.state.queue.length) + 8

/-- Runs until nothing can run without time passing. -/
def settle (s : Session σ) : Session σ × List Event :=
  s.onWorker fun w x => x.settle w (fuel x)

/-- Closes the worker. -/
def closeWorker (s : Session σ) : Session σ × List Event :=
  s.onWorker fun w x =>
    let (state, events) := x.state.close w
    ({ x with state }, events)

/-- Closes the worker if there is a handle on it. -/
def closeHeld (s : Session σ) : Session σ × List Event :=
  if s.held then s.closeWorker else (s, [])

/-- Makes a worker the one that was opened last. -/
def adopt (s : Session σ) (w : Config σ) : Session σ :=
  { s with
    worker := some ⟨w, w.start, 0⟩
    held := true
    awaited := match s.awaited, s.hasEnded? with
      | .current, some finished => .former finished
      | awaited, _ => awaited }

/-- Opens a worker; a worker that is still held is closed. -/
def openWorker (s : Session σ) (options : Options σ) : Session σ × List Event × Answer :=
  match options.openIn s.env .multiThread with
  | (notices, .error e) => (s, Event.ofNotices notices, .opened (.error e))
  | (notices, .ok w) =>
    let (s, events) := s.closeHeld
    let (s, more) := s.settle
    (s.adopt w, events ++ more ++ Event.ofNotices notices, .opened (.ok ⟨false, w.name, w.jobType⟩))

/-- Does one action and nothing else. -/
def act (s : Session σ) : Action σ → Session σ × List Event × Answer
  | .push entry => ({ s with gateway := s.gateway.push entry }, [], .none)
  | .hold => ({ s with gateway := { s.gateway with holding := true } }, [], .none)
  | .overGrant => ({ s with gateway := { s.gateway with overGranting := true } }, [], .none)
  | .refuseCompletions error =>
    ({ s with gateway := { s.gateway with completeError := error } }, [], .none)
  | .refuseFailures error => ({ s with gateway := { s.gateway with failError := error } }, [], .none)
  | .request request =>
    let (gateway, answer) := Gateway.activate s.gateway request
    ({ s with gateway },
      .call (.activate request) :: answer.toList.map .granted, .granted answer)
  | .activate request cancellation =>
    let (gateway, events, result) := Activation.run request cancellation s.gateway
    ({ s with gateway }, events, .activated result)
  | .activateWith options =>
    let (gateway, events, result) := options.send s.env s.gateway
    ({ s with gateway }, events, .activated result)
  | .draft options =>
    let (notices, request) := options.request s.env
    (s, Event.ofNotices notices, .drafted request)
  | .send command =>
    let (gateway, events, answer) := command.send s.gateway
    ({ s with gateway }, events, .sent answer)
  | .opening options => s.openWorker options
  | .close =>
    let (s, events) := s.closeHeld
    (s, events, .none)
  | .drop =>
    let (s, events) := s.closeHeld
    ({ s with held := false }, events, .none)
  | .shutdown =>
    if s.held then
      let (s, events) := s.closeWorker
      let (s, more) := s.settle
      let s := { s with held := false, awaited := .current }
      (s, events ++ more, .ended (s.hasEnded?.getD true))
    else (s, [], .none)
  | .release permits =>
    ({ s with worker := s.worker.map fun o => { o with permits := o.permits + permits } }, [], .none)
  | .tick =>
    let (s, events) := s.onWorker fun w x => x.elapse w
    (s, events, .none)
  | .look => (s, [], .none)

/-- One step: an action, and what follows from it. -/
def step (s : Session σ) (a : Action σ) : Session σ × List Event × Answer :=
  let (s, events, answer) := s.act a
  let (s, more) := s.settle
  (s, events ++ more, answer)

end Session

end JobWorker
