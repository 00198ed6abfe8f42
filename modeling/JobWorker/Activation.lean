/-
Asking for jobs once.

At most as many jobs are accepted as were asked for; what a gateway grants beyond that is dropped.
A request for no jobs is answered without asking the gateway, even when the caller has given up.
-/
import JobWorker.Event
import JobWorker.Settings.ConfigError
import JobWorker.Settings.Environment

namespace JobWorker

namespace Activation

/-- Why an activation brought no jobs. -/
inductive Failure where
  | gateway (error : GatewayError)
  | config (error : ConfigError)
  | cancelled
  deriving DecidableEq, Repr

/-- The wording of a failure. -/
def Failure.message : Failure → String
  | .gateway error => error.message
  | .config error => error.message
  | .cancelled => "activation cancelled"

/-- What an activation comes to. -/
abbrev Result := Except Failure (List Job)

/-- When the caller gives up. -/
inductive Cancellation where
  | never
  /-- Before the gateway is asked. -/
  | before
  /-- When the gateway has been asked and has not answered at once. -/
  | pending
  deriving DecidableEq, Repr

/-- The jobs that are accepted of those granted. -/
def accept (request : ActivateRequest) (jobs : List Job) : List Job :=
  jobs.take request.maxJobs.toNat

/-- What is written to the log when more jobs were granted than requested. -/
def surplusNotices (request : ActivateRequest) (jobs : List Job) : List Notice :=
  if request.maxJobs.toNat < jobs.length then
    [.surplusDropped request.jobType request.maxJobs.toNat jobs.length]
  else []

/-- What an answer of the gateway comes to. -/
def conclude (request : ActivateRequest) : Grant → List Event × Result
  | .ok jobs =>
    (.granted (.ok jobs) :: Event.ofNotices (surplusNotices request jobs),
      .ok (accept request jobs))
  | .error e => ([.granted (.error e)], .error (.gateway e))

/-- Asks a gateway for jobs.  There is no result when the gateway never answers and the caller never
gives up. -/
def run {γ : Type} [Gateway γ] (request : ActivateRequest) (cancellation : Cancellation) (g : γ) :
    γ × List Event × Option Result :=
  if request.maxJobs = 0 then (g, [], some (.ok []))
  else if cancellation = .before then (g, [], some (.error .cancelled))
  else
    let called := Event.call (.activate request)
    match Gateway.activate g request with
    | (g, some answer) =>
      let (events, result) := conclude request answer
      (g, called :: events, some result)
    | (g, none) => (g, [called], if cancellation = .pending then some (.error .cancelled) else none)

/-- What can be said about a single activation. -/
structure Options where
  jobType : Option String
  limit : Option UInt32
  timeout : Option Duration
  workerName : Option String
  fetchVariables : List String
  deriving DecidableEq, Repr

/-- The duration that was given, or else that of the environment. -/
def givenOr (given : Option Duration) (fromEnvironment : Duration × List Notice) :
    Duration × List Notice :=
  match given with
  | some d => (d, [])
  | none => fromEnvironment

/-- The request that the options stand for.  The environment is read only for options that are not
given, and only when the options before them are in order. -/
def Options.request (options : Options) (env : Environment) :
    List Notice × Except ConfigError ActivateRequest :=
  let counted : Except ConfigError (String × UInt32) := do
    let jobType ← Setting.jobType.requiredText options.jobType
    let limit ← Setting.limit.requiredCount options.limit
    return (jobType, limit.val)
  match counted with
  | .error e => ([], .error e)
  | .ok (jobType, limit) =>
    let (timeout, notices) := givenOr options.timeout env.jobTimeout
    (notices, do
      let timeout ← Setting.timeout.nonZero timeout
      return { ActivateRequest.lease jobType (options.workerName.getD env.workerName) timeout with
        maxJobs := limit
        fetchVariables := options.fetchVariables })

/-- Asks a gateway for jobs as the options say. -/
def Options.send {γ : Type} [Gateway γ] (options : Options) (env : Environment) (g : γ) :
    γ × List Event × Option Result :=
  match options.request env with
  | (notices, .error e) => (g, Event.ofNotices notices, some (.error (.config e)))
  | (notices, .ok request) =>
    let (g, events, result) := run request .never g
    (g, Event.ofNotices notices ++ events, result)

/-- Whoever gets an answer has a result. -/
theorem isSome_run {γ : Type} [Gateway γ] {request : ActivateRequest} {g : γ}
    (h : (Gateway.activate g request).2.isSome = true) (cancellation : Cancellation) :
    (run request cancellation g).2.2.isSome = true := by
  obtain ⟨answer, hanswer⟩ := Option.isSome_iff_exists.1 h
  unfold run
  split
  · rfl
  · split
    · rfl
    · rw [show Gateway.activate g request = ((Gateway.activate g request).1, some answer) from
        Prod.ext rfl hanswer]
      rfl

theorem Options.isSome_send {γ : Type} [Gateway γ] {g : γ}
    (h : ∀ request, (Gateway.activate g request).2.isSome = true) (options : Options)
    (env : Environment) : (options.send env g).2.2.isSome = true := by
  unfold send
  split
  · rfl
  · exact isSome_run (h _) .never

/-- Never more jobs are accepted than were asked for. -/
theorem length_accept_le (request : ActivateRequest) (jobs : List Job) :
    (accept request jobs).length ≤ request.maxJobs.toNat :=
  List.length_take_le ..

end Activation

end JobWorker
