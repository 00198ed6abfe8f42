/-
What becomes of jobs, whenever they were asked for.

A handler that never waits to be let go carries a job from its start to the end without a pause, and
the worker's own command follows at once.  What is seen on the way, the deeds, hangs on the job, on
what the handler remembers and on how commands are answered, and on nothing else: not on the queue,
the signal, the script of the gateway or the log.  `treat` is this account of one job and `treatAll`
that of a list of jobs, both without a worker that runs.

The second half shows that a worker that runs keeps to the account, and what of the state it leaves
alone.
-/
import JobWorker.Worker.Schedule
import JobWorker.Proofs.Gateway.Answers
import JobWorker.Proofs.Worker.Record

namespace JobWorker

/-! ### Handlers that never wait -/

section

variable {σ : Type}

/-- An activity that does not wait to be let go, whatever its commands are answered. -/
inductive Activity.Unhindered : Activity σ → Prop
  | done (memory : σ) (outcome : Outcome) : Unhindered (.done memory outcome)
  | send (command : Command) (next : Except GatewayError Receipt → Activity σ)
      (hnext : ∀ answer, (next answer).Unhindered) : Unhindered (.send command next)
  | say (remark : Remark) (next : Activity σ) (hnext : next.Unhindered) :
      Unhindered (.say remark next)

/-- A handler that does not wait to be let go, with any job and whatever it remembers. -/
def Handler.NeverBlocks (handler : Handler σ) : Prop :=
  ∀ memory job, (handler.start memory job).Unhindered

/-- What an activity leaves in memory, how it ends and what it shows, if commands are answered like
this and it need not wait. -/
def Activity.play (verdict : Command → Verdict) : Activity σ → σ × Outcome × List Event
  | .done memory outcome => (memory, outcome, [])
  | .await next => next.play verdict
  | .send command next =>
    let (memory, outcome, events) := (next (command.receiptFor (verdict command))).play verdict
    (memory, outcome, .call (.command command) :: .answered command (verdict command) :: events)
  | .say remark next =>
    let (memory, outcome, events) := next.play verdict
    (memory, outcome, .said remark :: events)

end

namespace Worker

/-! ### The account of a job -/

/-- The events of the executing loop. -/
def deeds (events : List Event) : List Event := events.filter fun e => !e.isForeign

@[simp] theorem deeds_nil : deeds [] = [] := rfl

@[simp] theorem deeds_append (events more : List Event) :
    deeds (events ++ more) = deeds events ++ deeds more :=
  List.filter_append ..

@[simp] theorem deeds_cons (e : Event) (events : List Event) :
    deeds (e :: events) = if e.isForeign then deeds events else e :: deeds events := by
  cases h : e.isForeign <;> simp [deeds, h]

@[simp] theorem deeds_ofNotices (notices : List Notice) : deeds (Event.ofNotices notices) = [] := by
  simp [deeds, Event.ofNotices, Event.isForeign]

/-- A reader that finds nothing in foreign events loses nothing when only deeds are left. -/
theorem pick_deeds {α : Type} {f : Event → Option α}
    (hforeign : ∀ e : Event, e.isForeign = true → f e = none) (events : List Event) :
    pick f (deeds events) = pick f events :=
  pick_filter (fun e he => hforeign e (by simpa using he)) events

theorem handed_deeds (events : List Event) : handed (deeds events) = handed events :=
  pick_deeds (fun e he => (e.unread_of_isForeign he).1) events

theorem finished_deeds (events : List Event) : finished (deeds events) = finished events :=
  pick_deeds (fun e he => (e.unread_of_isForeign he).2.1) events

theorem commands_deeds (events : List Event) : commands (deeds events) = commands events :=
  pick_deeds (fun e he => (e.unread_of_isForeign he).2.2) events

section

variable {σ : Type} (w : Config σ) (verdict : Command → Verdict)

/-- The end of a handler and the worker's own command after it. -/
def Config.ending (job : Job) (outcome : Outcome) : List Event :=
  .ended job outcome :: match w.followUp job outcome.result with
    | none => []
    | some command => [.call (.command command), .answered command (verdict command)]

/-- What is left in memory of a job, and what is done with it. -/
def Config.treat (memory : σ) (job : Job) : σ × List Event :=
  let (memory, outcome, events) := (w.handler.start memory job).play verdict
  (memory, .started job :: events ++ w.ending verdict job outcome)

/-- The same for jobs one after the other. -/
def Config.treatAll (memory : σ) : List Job → σ × List Event
  | [] => (memory, [])
  | job :: jobs =>
    let (memory, events) := w.treat verdict memory job
    let (memory, more) := Config.treatAll memory jobs
    (memory, events ++ more)

theorem treatAll_append (memory : σ) (jobs more : List Job) :
    w.treatAll verdict memory (jobs ++ more)
      = ((w.treatAll verdict (w.treatAll verdict memory jobs).1 more).1,
          (w.treatAll verdict memory jobs).2 ++
            (w.treatAll verdict (w.treatAll verdict memory jobs).1 more).2) := by
  induction jobs generalizing memory with
  | nil => rfl
  | cons job jobs ih => simp only [List.cons_append, Config.treatAll, ih, List.append_assoc]

/-- A reader of neither commands nor what is said finds nothing in what a handler does. -/
theorem pick_play {α : Type} {f : Event → Option α} (hsaid : ∀ remark, f (.said remark) = none)
    (hcall : ∀ command, f (.call (.command command)) = none)
    (hanswered : ∀ command answer, f (.answered command answer) = none) (activity : Activity σ) :
    pick f (activity.play verdict).2.2 = [] := by
  induction activity with
  | done memory outcome => rfl
  | await next ih => exact ih
  | send command next ih => simpa [Activity.play, hcall, hanswered] using ih _
  | say remark next ih => simpa [Activity.play, hsaid] using ih

theorem handed_treatAll (memory : σ) (jobs : List Job) :
    handed (w.treatAll verdict memory jobs).2 = jobs := by
  induction jobs generalizing memory with
  | nil => rfl
  | cons job jobs ih =>
      have hplay := pick_play (f := Event.handed?) verdict (by simp) (by simp) (by simp)
        (w.handler.start memory job)
      have hending : ∀ outcome, handed (w.ending verdict job outcome) = [] := by
        intro outcome
        unfold Config.ending
        cases w.followUp job outcome.result <;> simp
      simp [Config.treatAll, Config.treat, hplay, hending, ih]

theorem finished_treatAll (memory : σ) (jobs : List Job) :
    finished (w.treatAll verdict memory jobs).2 = jobs := by
  induction jobs generalizing memory with
  | nil => rfl
  | cons job jobs ih =>
      have hplay := pick_play (f := Event.ended?) verdict (by simp) (by simp) (by simp)
        (w.handler.start memory job)
      have hending : ∀ outcome, finished (w.ending verdict job outcome) = [job] := by
        intro outcome
        unfold Config.ending
        cases w.followUp job outcome.result <;> simp
      simp [Config.treatAll, Config.treat, hplay, hending, ih]

end

/-- Workers with the same name and the same handler that complete jobs alike. -/
structure Config.WorksLike {σ : Type} (w w' : Config σ) : Prop where
  handler : w'.handler = w.handler
  name : w'.name = w.name
  autoComplete : w'.autoComplete = w.autoComplete

theorem Config.WorksLike.followUp {σ : Type} {w w' : Config σ} (h : w.WorksLike w') (job : Job)
    (result : Except String Resolution) : w'.followUp job result = w.followUp job result := by
  cases result with
  | ok resolution => simp only [Config.followUp, h.autoComplete]
  | error cause =>
      have hmessage : w'.failureMessage job cause = w.failureMessage job cause := by
        unfold Config.failureMessage
        rw [h.name]
      simp only [Config.followUp, hmessage]

/-- The account is the same for workers that work alike, whatever their queues can hold. -/
theorem Config.WorksLike.treatAll {σ : Type} {w w' : Config σ} (h : w.WorksLike w')
    (verdict : Command → Verdict) (memory : σ) (jobs : List Job) :
    w'.treatAll verdict memory jobs = w.treatAll verdict memory jobs := by
  induction jobs generalizing memory with
  | nil => rfl
  | cons job jobs ih =>
      simp only [Config.treatAll, Config.treat, Config.ending, h.handler, h.followUp, ih]

/-! ### A worker that runs -/

namespace World

variable {σ : Type} (w : Config σ)

/-- With these events, the executing loop has come back to wait for the next job.  It has left a
memory and done the deeds, and nothing else of the worker has changed. -/
structure Does (x : World Scripted σ) (s : State σ) (memory : σ) (done : List Event)
    (result : World Scripted σ × List Event) : Prop where
  gateway : x.gateway.Hears result.1.gateway
  state : result.1.state = { s with memory, execute := .idle }
  deeds : deeds result.2 = done

theorem finish_does (job : Job) (memory : σ) (outcome : Outcome) (x : World Scripted σ) :
    Does x x.state memory (w.ending x.gateway.verdict job outcome)
      (x.finish w job memory outcome) := by
  unfold World.finish State.finish Config.ending
  cases w.followUp job outcome.result with
  | none => exact ⟨.refl _, rfl, by simp [Event.isForeign]⟩
  | some command =>
      refine ⟨.record _ _, rfl, ?_⟩
      simp [State.answered, Scripted.perform_eq, Event.isForeign]

/-- An activity that need not wait comes to its end, as the account says. -/
theorem proceed_does (job : Job) {activity : Activity σ} (h : activity.Unhindered) :
    ∀ x : World Scripted σ,
      Does x x.state (activity.play x.gateway.verdict).1
        ((activity.play x.gateway.verdict).2.2 ++
          w.ending x.gateway.verdict job (activity.play x.gateway.verdict).2.1)
        (proceed w job activity x) := by
  induction h with
  | done memory outcome => exact finish_does w job memory outcome
  | send command next _ ih =>
      intro x
      have hrest := ih (command.receiptFor (x.gateway.verdict command))
        { x with gateway := x.gateway.record (.command command) }
      rw [(Scripted.Hears.record x.gateway (.command command)).verdict] at hrest
      refine ⟨(Scripted.Hears.record _ _).trans hrest.gateway, hrest.state, ?_⟩
      simpa [World.proceed, Command.send, Scripted.perform_eq, Activity.play,
        Event.isForeign] using hrest.deeds
  | say remark next _ ih =>
      intro x
      have hrest := ih x
      refine ⟨hrest.gateway, hrest.state, ?_⟩
      simpa [World.proceed, Activity.play, Event.isForeign] using hrest.deeds

theorem takeUp_does (hblocks : w.handler.NeverBlocks) (job : Job) (rest : List Job)
    (x : World Scripted σ) :
    Does x (x.state.dequeued rest) (w.treat x.gateway.verdict x.state.memory job).1
      (w.treat x.gateway.verdict x.state.memory job).2 (x.takeUp w job rest) := by
  have hrest := proceed_does w job (hblocks x.state.memory job)
    { x with state := x.state.dequeued rest }
  refine ⟨hrest.gateway, hrest.state, ?_⟩
  simpa [World.takeUp, Config.treat, Event.isForeign] using hrest.deeds

end World

end Worker

end JobWorker
