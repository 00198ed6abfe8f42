/-
What a single move of a worker can do.

A move is computed by a function that looks at both loops.  `Step` says the same as a relation with
one constructor for each thing that can happen, and everything that is shown of all histories of a
worker goes through it: a property holds at the start, and each constructor keeps it.

The relation says exactly what becomes of the queue, and for that the queue must have room for the
jobs that are granted.  `Bounded` is the reason why it always has: what is in the queue and what has
been asked for never exceed the capacity together.  Between a request and its answer the queue can
only shrink, so the bound is kept however long the answer takes.
-/
import JobWorker.Worker.Moves

namespace JobWorker.Worker

variable {σ : Type} {w : Config σ}

/-! ### Room in the queue -/

theorem room_lt_size (w : Config σ) (s : State σ) : s.room w < UInt32.size := by
  have h : w.capacity < UInt32.size := w.request.maxJobs.toNat_lt
  unfold State.room
  omega

/-- The request to fill the queue is for just as many jobs as there is room for. -/
@[simp] theorem topUp_maxJobs (w : Config σ) (s : State σ) :
    (s.topUp w).maxJobs.toNat = s.room w :=
  UInt32.toNat_ofNat_of_lt' (room_lt_size w s)

/-- With nothing in the queue, a worker asks for as many jobs as the queue can hold. -/
theorem topUp_of_queue_eq_nil {s : State σ} (hqueue : s.queue = []) :
    (s.topUp w).maxJobs.toNat = w.capacity := by
  rw [topUp_maxJobs, State.room, hqueue, List.length_nil, Nat.sub_zero]

/-- What waits in the queue and what has been asked for fit into the queue together. -/
structure Bounded (w : Config σ) (s : State σ) : Prop where
  queue : s.queue.length ≤ w.capacity
  pending : ∀ request, s.acquire = .activating request →
    s.queue.length + request.maxJobs.toNat ≤ w.capacity

theorem bounded_start (w : Config σ) : Bounded w w.start :=
  ⟨Nat.zero_le _, by intro request h; simp [Config.start] at h⟩

/-- Jobs for which there is room are put into the queue, and nothing else happens. -/
theorem enqueueAll_of_le : ∀ (jobs : List Job) (s : State σ),
    s.queue.length + jobs.length ≤ w.capacity →
      s.enqueueAll w jobs = ({ s with queue := s.queue ++ jobs }, []) := by
  intro jobs
  induction jobs with
  | nil => intro s _; simp [State.enqueueAll]
  | cons job jobs ih =>
      intro s h
      rw [List.length_cons] at h
      have hroom : s.room w ≠ 0 := by unfold State.room; omega
      have hlen : (s.queue ++ [job]).length + jobs.length ≤ w.capacity := by
        rw [List.length_append, List.length_singleton]
        omega
      rw [State.enqueueAll, State.enqueue, if_neg hroom]
      simp only
      rw [ih { s with queue := s.queue ++ [job] } hlen]
      simp

/-! ### From one point where a handler waits to the next -/

/-- What the handler of a job does from one point where it waits to the next. -/
inductive Stretch (w : Config σ) (job : Job) (s : State σ) : State σ → List Event → Prop
  | blocked (remarks : List Remark) (next : Activity σ) :
      Stretch w job s { s with execute := .blocked job next } (remarks.map .said)
  | sending (remarks : List Remark) (command : Command)
      (next : Except GatewayError Receipt → Activity σ) :
      Stretch w job s { s with execute := .sending job command next }
        (remarks.map .said ++ [.call (.command command)])
  | settled (remarks : List Remark) (memory : σ) (outcome : Outcome)
      (hnone : w.followUp job outcome.result = none) :
      Stretch w job s { s with memory, execute := .idle }
        (remarks.map .said ++ .ended job outcome ::
          Event.ofNotices (w.remarksOn job outcome.result))
  | following (remarks : List Remark) (memory : σ) (outcome : Outcome) (command : Command)
      (hsome : w.followUp job outcome.result = some command) :
      Stretch w job s { s with memory, execute := .following job command }
        (remarks.map .said ++ .ended job outcome ::
          Event.ofNotices (w.remarksOn job outcome.result) ++ [.call (.command command)])

theorem Stretch.say {job : Job} {s s' : State σ} {events : List Event} (remark : Remark)
    (h : Stretch w job s s' events) : Stretch w job s s' (.said remark :: events) := by
  cases h with
  | blocked remarks next => exact .blocked (remark :: remarks) next
  | sending remarks command next => exact .sending (remark :: remarks) command next
  | settled remarks memory outcome hnone => exact .settled (remark :: remarks) memory outcome hnone
  | following remarks memory outcome command hsome =>
      exact .following (remark :: remarks) memory outcome command hsome

/-- The activity of a handler, followed to where it waits, is such a stretch. -/
theorem stretch_proceed (w : Config σ) (job : Job) (s : State σ) :
    ∀ activity : Activity σ,
      Stretch w job s (s.proceed w job activity).1 (s.proceed w job activity).2 := by
  intro activity
  induction activity with
  | done memory outcome =>
      rw [State.proceed, State.finish]
      cases hfollow : w.followUp job outcome.result with
      | none => exact .settled [] memory outcome hfollow
      | some command => exact .following [] memory outcome command hfollow
  | await next _ => exact .blocked [] next
  | send command next _ => exact .sending [] command next
  | say remark next ih => exact ih.say remark

/-- The job that the executing loop is busy with. -/
def Execute.job? : Execute σ → Option Job
  | .blocked job _ | .sending job _ _ | .following job _ => some job
  | .idle | .stopped => none

/-! ### One move -/

/-- The moves by which the acquiring loop goes on to ask for jobs, and when they are possible. -/
inductive Asks (s : State σ) : Move → Prop
  | first (hstart : s.acquire = .starting) : Asks s .first
  | wake (hwait : s.acquire = .waiting) (hsignal : s.pollNow = true) : Asks s .wake
  | elapse (hwait : s.acquire = .waiting) : Asks s .elapse

/-- The state in which the move has taken the signal, if it is one that follows the signal. -/
def State.heed (s : State σ) : Move → State σ
  | .wake => { s with pollNow := false }
  | _ => s

/-- Everything that a move can do to a worker. -/
inductive Step (w : Config σ) (s : State σ) : Move → State σ → List Event → Prop
  | ask {m : Move} (hasks : Asks s m) (hopen : s.closed = false) (hroom : s.room w ≠ 0) :
      Step w s m { s.heed m with acquire := .activating (s.topUp w) }
        [.call (.activate (s.topUp w))]
  | skip {m : Move} (hasks : Asks s m) (hopen : s.closed = false) (hfull : s.room w = 0) :
      Step w s m { s.heed m with acquire := .waiting } []
  | accept {request : ActivateRequest} (jobs : List Job)
      (hpending : s.acquire = .activating request) (hopen : s.closed = false) :
      Step w s (.grant (.ok jobs))
        { s with queue := s.queue ++ Activation.accept request jobs, acquire := .waiting }
        (.granted (.ok jobs) :: Event.ofNotices (Activation.surplusNotices request jobs))
  | refuse {request : ActivateRequest} (error : GatewayError)
      (hpending : s.acquire = .activating request) (hopen : s.closed = false) :
      Step w s (.grant (.error error)) { s with acquire := .waiting }
        [.granted (.error error), .noticed (.activationFailed w.name w.jobType error)]
  | stopAcquiring (hrunning : s.acquire ≠ .stopped) (hclosed : s.closed = true) :
      Step w s .stopAcquiring s.stopAcquiring []
  | takeUp {job : Job} {rest : List Job} {s' : State σ} {events : List Event}
      (hidle : s.execute = .idle) (hqueue : s.queue = job :: rest) (hopen : s.closed = false)
      (h : Stretch w job (s.dequeued rest) s' events) :
      Step w s .takeUp s' (.started job :: events)
  | letGo {job : Job} {next : Activity σ} {s' : State σ} {events : List Event}
      (hblocked : s.execute = .blocked job next) (h : Stretch w job s s' events) :
      Step w s .letGo s' events
  | reply {job : Job} {command : Command} {next : Except GatewayError Receipt → Activity σ}
      {s' : State σ} {events : List Event} (verdict : Verdict)
      (hsending : s.execute = .sending job command next) (h : Stretch w job s s' events) :
      Step w s (.verdict verdict) s' (.answered command verdict :: events)
  | settle {job : Job} {command : Command} (verdict : Verdict)
      (hfollowing : s.execute = .following job command) :
      Step w s (.verdict verdict) { s with execute := .idle }
        (.answered command verdict :: Event.ofNotices (w.remarksOnVerdict command verdict))
  | stopExecuting (hidle : s.execute = .idle) (hclosed : s.closed = true) :
      Step w s .stopExecuting s.stopExecuting []
  | close (way : Closing) (hopen : s.closed = false) :
      Step w s (.close way) { s with closed := true } [.noticed (.closed w.name w.jobType)]
  | closeAgain (way : Closing) (hclosed : s.closed = true) : Step w s (.close way) s []

@[simp] theorem heed_room (w : Config σ) (s : State σ) (m : Move) :
    (s.heed m).room w = s.room w := by
  cases m <;> rfl

@[simp] theorem heed_topUp (w : Config σ) (s : State σ) (m : Move) :
    (s.heed m).topUp w = s.topUp w := by
  rw [State.topUp, heed_room, State.topUp]

/-- Going on to ask for jobs leads to a request, or straight back to waiting. -/
theorem step_poll {s s' : State σ} {m : Move} {events : List Event} (hasks : Asks s m)
    (hopen : s.closed = false) (h : (s.heed m).poll w = (s', events)) : Step w s m s' events := by
  rw [State.poll, heed_room, heed_topUp] at h
  split at h
  · rename_i hfull
    cases h
    exact .skip hasks hopen hfull
  · rename_i hroom
    cases h
    exact .ask hasks hopen hroom

theorem step_receive {s s' : State σ} {request : ActivateRequest} {answer : Grant}
    {events : List Event} (hb : Bounded w s) (hpending : s.acquire = .activating request)
    (hopen : s.closed = false) (h : s.receive w request answer = (s', events)) :
    Step w s (.grant answer) s' events := by
  cases answer with
  | error error =>
      cases h
      exact .refuse error hpending hopen
  | ok jobs =>
      have hlen := Activation.length_accept_le request jobs
      have hfit := hb.pending request hpending
      rw [State.receive] at h
      simp only at h
      rw [enqueueAll_of_le (Activation.accept request jobs) { s with acquire := .waiting }
        (by simp only; omega)] at h
      simp only [List.append_nil] at h
      cases h
      exact .accept jobs hpending hopen

/-- Whatever a move does, the relation says. -/
theorem step_of_move? {s s' : State σ} {m : Move} {events : List Event} (hb : Bounded w s)
    (h : s.move? w m = some (s', events)) : Step w s m s' events := by
  cases m with
  | first =>
      simp only [State.move?] at h
      split at h
      · rename_i hstart
        split at h
        · cases h
        · rename_i hopen
          exact step_poll (.first hstart) (by simpa using hopen) (by simpa [State.heed] using h)
      · cases h
  | wake =>
      simp only [State.move?] at h
      split at h
      · rename_i hwait
        split at h
        · cases h
        · rename_i hguard
          simp only [Bool.or_eq_true, Bool.not_eq_true', not_or, Bool.not_eq_true,
            Bool.not_eq_false] at hguard
          exact step_poll (.wake hwait hguard.2) hguard.1 (by simpa [State.heed] using h)
      · cases h
  | elapse =>
      simp only [State.move?] at h
      split at h
      · rename_i hwait
        split at h
        · cases h
        · rename_i hopen
          exact step_poll (.elapse hwait) (by simpa using hopen) (by simpa [State.heed] using h)
      · cases h
  | grant answer =>
      simp only [State.move?] at h
      split at h
      · rename_i request hpending
        split at h
        · cases h
        · rename_i hopen
          exact step_receive hb hpending (by simpa using hopen) (by simpa using h)
      · cases h
  | stopAcquiring =>
      simp only [State.move?] at h
      split at h
      · cases h
      · rename_i hrunning
        split at h
        · rename_i hclosed
          cases h
          exact .stopAcquiring (fun hc => hrunning hc) hclosed
        · cases h
  | takeUp =>
      simp only [State.move?] at h
      split at h
      · rename_i job rest hidle hqueue
        split at h
        · cases h
        · rename_i hopen
          cases h
          exact .takeUp hidle hqueue (by simpa using hopen) (stretch_proceed w job _ _)
      · cases h
  | letGo =>
      simp only [State.move?] at h
      split at h
      · rename_i job next hblocked
        have hstretch := stretch_proceed w job s next
        rw [Option.some.inj h] at hstretch
        exact .letGo hblocked hstretch
      · cases h
  | verdict verdict =>
      simp only [State.move?] at h
      split at h
      · rename_i job command next hsending
        simp only [State.answered, hsending] at h
        cases h
        exact .reply verdict hsending (stretch_proceed w job s _)
      · rename_i job command hfollowing
        simp only [State.answered, hfollowing] at h
        cases h
        exact .settle verdict hfollowing
      · cases h
  | stopExecuting =>
      simp only [State.move?] at h
      split at h
      · rename_i hidle
        split at h
        · rename_i hclosed
          cases h
          exact .stopExecuting hidle hclosed
        · cases h
      · cases h
  | close way =>
      simp only [State.move?, State.close] at h
      split at h
      · rename_i hclosed
        cases h
        exact .closeAgain way hclosed
      · rename_i hopen
        cases h
        exact .close way (by simpa using hopen)

end JobWorker.Worker
