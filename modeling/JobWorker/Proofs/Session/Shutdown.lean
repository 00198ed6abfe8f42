/-
Awaiting the end of a worker takes as long as the handler at work, and no longer.

A worker whose end is awaited is closed in the same step, and all of it that waits for jobs, for the
signal or for the gateway ends there.  Only a handler that waits for a permit stays (`Leaving`).
From then on the session goes on as it would without the worker, but for what the handler does when
it is let go.  In the step in which it ends, so does the worker, once its own command for the job has
been answered.

That a worker has no part any more in what is done is said by comparing the session with the same
session in which there is no worker: both show the same events, whatever is done in them (`Silent`).
-/
import JobWorker.Proofs.Session.Ending
import JobWorker.Proofs.Session.Silence
import JobWorker.Proofs.Worker.Closing
import JobWorker.Proofs.Worker.Turns

namespace JobWorker

open Worker

namespace Session

variable {σ : Type} {s : Session σ}

/-! ### Where the executing loop of a session stands -/

theorem awaited?_of_rank {permits : Nat} {e : Execute σ} (h : e.rank permits = 1) :
    e.stage.awaited? = none := by
  cases e with
  | sending job command next => cases h
  | following job command => cases h
  | _ => rfl

theorem move_awaited? {w : Config σ} {x y : World Scripted σ} {events : List Event}
    (hmove : x.move w = some (y, events)) (h : x.state.execute.stage.awaited? = none) :
    y.state.execute.stage.awaited? = none := by
  have hpoll : ∀ z : World Scripted σ, z.state.execute = x.state.execute →
      (z.poll w).1.state.execute.stage.awaited? = none := by
    intro z hz
    obtain ⟨queue, acquire, hstate, -⟩ := poll_le w z
    rw [hstate]
    exact hz ▸ h
  cases turn_of_move hmove with
  | stopExecuting => rfl
  | @takeUp job rest =>
      exact awaited?_of_rank (proceed_waits w job (w.handler.start x.state.memory job)
        { x with state := x.state.dequeued rest }).execute
  | @letGo job next => exact awaited?_of_rank (proceed_waits w job (.await next) x).execute
  | stopAcquiring => exact h
  | first => exact hpoll x rfl
  | wake => exact hpoll { x with state := { x.state with pollNow := false } } rfl

/-- The gateway of a session answers commands at once, so between two actions none waits. -/
theorem kept_awaited? :
    Kept fun (_ : Config σ) (s : State σ) => s.execute.stage.awaited? = none where
  start _ := rfl
  close w s h := by rwa [closed_close]
  settle w fuel := by
    induction fuel with
    | zero => exact fun _ h => h
    | succ fuel ih =>
        intro x h
        rw [World.settle]
        cases hmove : x.move w with
        | none => exact h
        | some moved => exact ih moved.1 (move_awaited? hmove h)
  elapse w x h := by
    unfold World.elapse
    split
    · split
      · exact h
      · obtain ⟨queue, acquire, hstate, -⟩ := poll_le w x
        rwa [hstate]
    · exact h

/-! ### The end of a handler -/

/-- What is shown in a step in which the handler of a job ends: its end, and then the command that
the worker owes for the job, with the answer. -/
def Departs (w : Config σ) (job : Job) (events : List Event) : Prop :=
  ∃ first outcome rest, events = first ++ .ended job outcome :: rest ∧
    finished first = [] ∧ finished rest = [] ∧ Owes w job outcome (commands rest) ∧
    ∀ command ∈ commands rest, ∃ verdict, .answered command verdict ∈ rest

/-- By the time the executing loop is free, every command has been answered. -/
theorem answered_of_course {w : Config σ} {a : Stage} {events : List Event}
    (h : Course w a events .free) {command : Command} (hmem : command ∈ commands events) :
    ∃ verdict, .answered command verdict ∈ events := by
  obtain ⟨event, hevent, hcommand⟩ := List.mem_filterMap.mp hmem
  obtain rfl : event = .call (.command command) := by
    unfold Event.command? at hcommand
    split at hcommand
    · cases hcommand
      rfl
    · cases hcommand
  obtain ⟨before, after, rfl⟩ := List.append_of_mem hevent
  obtain ⟨b, -, hcall⟩ := h.split
  cases hcall with
  | cons hcall hafter =>
      obtain ⟨verdict, hanswered⟩ := hafter.answered_of_free hcall.awaits rfl
      exact ⟨verdict, by simp [hanswered]⟩

/-- A closed worker that rests has ended, or its handler waits for a permit. -/
theorem stopped_or_blocked {w : Config σ} {x : World Scripted σ} (hrest : x.move w = none)
    (hclosed : x.state.closed = true) (hanswered : x.state.execute.stage.awaited? = none) :
    x.state.execute = .stopped ∨ ∃ job next, x.state.execute = .blocked job next ∧ x.permits = 0 := by
  rw [World.move, Option.or_eq_none_iff] at hrest
  cases hexecute : x.state.execute with
  | stopped => exact .inl rfl
  | blocked job next =>
      exact .inr ⟨job, next, rfl, by simpa [World.execute, hexecute] using hrest.1⟩
  | idle => simp [World.execute, hexecute, hclosed] at hrest
  | _ =>
      rw [hexecute] at hanswered
      cases hanswered

/-- A worker of which only the handler of a job is left, waiting for a permit. -/
structure Waiting (w : Config σ) (job : Job) (state : State σ) : Prop where
  closed : state.closed = true
  acquire : state.acquire = .stopped
  execute : ∃ next, state.execute = .blocked job next
  bounded : Bounded w state

/-- When such a worker runs, its handler goes on and either waits again or ends, and then the worker
ends with it.  It asks for no jobs and takes up none. -/
theorem Waiting.settle {w : Config σ} {job : Job} {x : World Scripted σ}
    (h : Waiting w job x.state) {fuel : Nat} (hfuel : x.rank ≤ fuel) :
    let settled := x.settle w fuel
    requests settled.2 = [] ∧ handed settled.2 = [] ∧
      ((Waiting w job settled.1.state ∧ settled.1.permits = 0 ∧ finished settled.2 = []) ∨
        (settled.1.state.acquire = .stopped ∧ settled.1.state.execute = .stopped ∧
          Departs w job settled.2)) := by
  obtain ⟨next, hblocked⟩ := h.execute
  obtain ⟨history, hrun⟩ := World.settle_plays w fuel x
  have hafter := aftermath h.bounded h.closed hrun
  have hcourse := run?_course h.bounded hrun
  have hacquire : (x.settle w fuel).1.state.acquire = .stopped := by
    rcases hafter.acquire with hsame | hstopped
    · rw [hsame, h.acquire]
    · exact hstopped
  have hleft := stopped_or_blocked (move_settle_eq_none (w := w) hfuel) hafter.closed
    (kept_awaited?.settle w fuel x (by rw [hblocked]; rfl))
  refine ⟨hafter.requests, hafter.handed, ?_⟩
  rcases hafter.busy job (by rw [hblocked]; rfl) with ⟨hbusy, hnone⟩ | hended
  · left
    rcases hleft with hstopped | ⟨job', next', hblocked', hpermits⟩
    · rw [hstopped] at hbusy
      cases hbusy
    · rw [hblocked'] at hbusy
      cases hbusy
      exact ⟨⟨hafter.closed, hacquire, ⟨next', hblocked'⟩, run?_bounded h.bounded hrun⟩, hpermits,
        hnone⟩
  · right
    obtain ⟨first, outcome, rest, hevents, hfirst, hrest, howes⟩ := hended
    have hidle : (x.settle w fuel).1.state.execute.stage.inProgress? = none := by
      have heq := hcourse.handed_eq
      rw [hblocked, hafter.handed, hevents] at heq
      simpa [hfirst, hrest, Execute.stage, Stage.inProgress?] using heq
    rcases hleft with hstopped | ⟨job', next', hblocked', -⟩
    · refine ⟨hacquire, hstopped, first, outcome, rest, hevents, hfirst, hrest, howes, ?_⟩
      intro command hmem
      rw [hevents, hstopped] at hcourse
      obtain ⟨a, -, hend⟩ := hcourse.split
      cases hend with
      | cons _ hlast => exact answered_of_course hlast hmem
    · rw [hblocked'] at hidle
      cases hidle

/-! ### While the end of a worker is awaited -/

/-- A session that awaits the end of a worker of which only the handler of a job is left. -/
structure Leaving (w : Config σ) (job : Job) (s : Session σ) : Prop where
  held : s.held = false
  awaited : s.awaited = .current
  worker : ∃ state, s.worker = some ⟨w, state, 0⟩ ∧ Waiting w job state

/-- A session in which the worker whose end is awaited has ended. -/
structure Left (s : Session σ) : Prop where
  held : s.held = false
  awaited : s.awaited = .current
  worker : ∃ o, s.worker = some o ∧ Gone o

theorem Leaving.rests {w : Config σ} {job : Job} (h : Leaving w job s) : s.Rests := by
  obtain ⟨state, hworker, hwaiting⟩ := h.worker
  obtain ⟨next, hblocked⟩ := hwaiting.execute
  intro o ho
  obtain rfl := Option.some.inj (hworker.symm.trans ho)
  simp [World.move, World.execute, World.acquire, world, hblocked, hwaiting.acquire]

theorem Leaving.hasEnded? {w : Config σ} {job : Job} (h : Leaving w job s) :
    s.hasEnded? = some false := by
  obtain ⟨state, hworker, hwaiting⟩ := h.worker
  obtain ⟨next, hblocked⟩ := hwaiting.execute
  simp [Session.hasEnded?, h.awaited, hworker, State.isFinished, hwaiting.acquire, hblocked]

theorem Left.gone (h : Left s) {o : Opened σ} (ho : s.worker = some o) : Gone o := by
  obtain ⟨o', ho', hgone⟩ := h.worker
  obtain rfl := Option.some.inj (ho'.symm.trans ho)
  exact hgone

theorem Left.hasEnded? (h : Left s) : s.hasEnded? = some true := by
  obtain ⟨o, ho, hgone⟩ := h.worker
  simp [Session.hasEnded?, h.awaited, ho, State.isFinished, hgone.acquire, hgone.execute]

theorem Left.silent (h : Left s) : s.Silent := silent_of_gone h.held fun _ => h.gone

/-- Once the worker has ended, it is so until another one is opened. -/
theorem Left.step (h : Left s) {a : Action σ} (ha : ¬ Opens s.env a) :
    (s.step a).1.env = s.env ∧ Left (s.step a).1 := by
  obtain ⟨o, ho, hgone⟩ := h.worker
  obtain ⟨-, henv, hheld, hawaited, permits, hworker⟩ := act_of_let_go ho h.held hgone.acquire ha
  have hgone' : Gone { o with permits } := ⟨hgone.acquire, hgone.execute⟩
  have hrests : (s.act a).1.Rests := by
    refine rests_of_gone fun o' ho' => ?_
    obtain rfl := Option.some.inj (hworker.symm.trans ho')
    exact hgone'
  rw [step_eq, settle_of_rests hrests]
  exact ⟨henv, hheld, hawaited.trans h.awaited, _, hworker, hgone'⟩

/-- While no other worker is opened, a step shows what it would without the worker, and then what the
handler does. -/
theorem Leaving.step {w : Config σ} {job : Job} (h : Leaving w job s) {a : Action σ}
    (ha : ¬ Opens s.env a) :
    (s.step a).1.env = s.env ∧ ∃ own, (s.step a).2.1 = (s.alone.step a).2.1 ++ own ∧
      requests own = [] ∧ handed own = [] ∧
      ((Leaving w job (s.step a).1 ∧ finished own = []) ∨
        (Left (s.step a).1 ∧ Departs w job own)) := by
  obtain ⟨state, hworker, hwaiting⟩ := h.worker
  obtain ⟨halone, henv, hheld, hawaited, permits, hworker'⟩ :=
    act_of_let_go hworker h.held hwaiting.acquire ha
  have halone' : s.alone.step a = ((s.act a).1.alone, (s.act a).2) := by
    rw [step_eq, halone, settle_of_rests (alone_rests _), List.append_nil]
  rw [halone', step_eq, settle_eq hworker']
  refine ⟨henv, _, rfl, ?_⟩
  have hsettle := Waiting.settle (x := (s.act a).1.world ⟨w, state, permits⟩) hwaiting
    (World.rank_le_fuel _)
  obtain ⟨hrequests, hhanded, hrest⟩ := hsettle
  refine ⟨hrequests, hhanded, ?_⟩
  rcases hrest with ⟨hwaits, hpermits, hnone⟩ | ⟨hacquire, hexecute, hdeparts⟩
  · left
    refine ⟨⟨hheld, hawaited.trans h.awaited, _, ?_, hwaits⟩, hnone⟩
    simp [hpermits]
  · right
    exact ⟨⟨hheld, hawaited.trans h.awaited, _, rfl, hacquire, hexecute⟩, hdeparts⟩

theorem Left.run (h : Left s) {actions : List (Action σ)}
    (hactions : ∀ a ∈ actions, ¬ Opens s.env a) : Left (s.run actions).1 := by
  induction actions generalizing s with
  | nil => exact h
  | cons a actions ih =>
      obtain ⟨henv, hnext⟩ := h.step (hactions a List.mem_cons_self)
      have hrest : ∀ b ∈ actions, ¬ Opens (s.step a).1.env b := by
        intro b hb
        rw [henv]
        exact hactions b (List.mem_cons_of_mem a hb)
      rw [run_cons]
      exact ih hnext hrest

theorem Leaving.run {w : Config σ} {job : Job} (h : Leaving w job s) {actions : List (Action σ)}
    (hactions : ∀ a ∈ actions, ¬ Opens s.env a) :
    Leaving w job (s.run actions).1 ∨ Left (s.run actions).1 := by
  induction actions generalizing s with
  | nil => exact .inl h
  | cons a actions ih =>
      obtain ⟨henv, own, -, -, -, hnext⟩ := h.step (hactions a List.mem_cons_self)
      have hrest : ∀ b ∈ actions, ¬ Opens (s.step a).1.env b := by
        intro b hb
        rw [henv]
        exact hactions b (List.mem_cons_of_mem a hb)
      rw [run_cons]
      rcases hnext with ⟨hleaving, -⟩ | ⟨hleft, -⟩
      · exact ih hleaving hrest
      · exact .inr (hleft.run hrest)

/-- What a step does while the end of a worker is awaited whose handler is at work on a job. -/
inductive Awaits (w : Config σ) (job : Job) (s : Session σ) (a : Action σ) : Prop
  /-- Another worker is opened.  Nothing lets the handler go any more: the end is awaited for ever,
  and nothing is heard of the worker. -/
  | replaced (hopens : Opens s.env a)
      (hended : ∀ more : List (Action σ), (∀ b ∈ more, b ≠ .shutdown) →
        (s.run (a :: more)).1.hasEnded? = some false)
      (hsilent : ∀ more, (s.run (a :: more)).2 = (s.alone.run (a :: more)).2)
  /-- The handler goes on, and the end is still awaited. -/
  | goesOn (own : List Event) (hevents : (s.step a).2.1 = (s.alone.step a).2.1 ++ own)
      (hrequests : requests own = []) (hhanded : handed own = []) (hfinished : finished own = [])
      (hended : (s.step a).1.hasEnded? = some false)
  /-- The handler ends, the worker sends the command that it owes, and that is its end. -/
  | ends (own : List Event) (hevents : (s.step a).2.1 = (s.alone.step a).2.1 ++ own)
      (hrequests : requests own = []) (hhanded : handed own = []) (hdeparts : Departs w job own)
      (hended : (s.step a).1.hasEnded? = some true) (hsilent : (s.step a).1.Silent)

/-- Unless the end of another worker is awaited, it stays as it was when the worker was replaced. -/
theorem step_former {finished : Bool} (h : s.awaited = .former finished) {a : Action σ}
    (ha : a ≠ .shutdown) : (s.step a).1.awaited = .former finished := by
  rw [step_eq, (settle_touches _).awaited]
  cases a with
  | opening options =>
      simp only [Session.act, Session.openWorker]
      split
      · exact h
      · simp [Session.adopt, (settle_touches _).awaited, (closeHeld_touches s).awaited, h]
  | close => exact (closeHeld_touches s).awaited.trans h
  | drop => exact (closeHeld_touches s).awaited.trans h
  | shutdown => exact absurd rfl ha
  | tick => exact (onWorker_touches s fun w x => x.elapse w).awaited.trans h
  | _ => exact h

/-- The end of a worker that has been replaced is not reported any more. -/
theorem hasEnded?_of_former {finished : Bool} (h : s.awaited = .former finished)
    {more : List (Action σ)} (hmore : ∀ b ∈ more, b ≠ .shutdown) :
    (s.run more).1.hasEnded? = some finished := by
  induction more generalizing s with
  | nil => simp [Session.run, Session.hasEnded?, h]
  | cons b more ih =>
      rw [run_cons]
      exact ih (step_former h (hmore b List.mem_cons_self))
        fun c hc => hmore c (List.mem_cons_of_mem b hc)

/-- A worker whose end is awaited is replaced as it is. -/
theorem step_awaited_of_opens {finished : Bool} (hrests : s.Rests) (hheld : s.held = false)
    (hawaited : s.awaited = .current) (hended : s.hasEnded? = some finished) {a : Action σ}
    (ha : Opens s.env a) : (s.step a).1.awaited = .former finished := by
  rw [step_eq, (settle_touches _).awaited]
  cases a with
  | opening options =>
      obtain ⟨notices, w, hopen⟩ := ha
      simp [Session.act, Session.openWorker, hopen, Session.closeHeld, hheld,
        settle_of_rests hrests, Session.adopt, hawaited, hended]
  | _ => exact absurd ha id

theorem Leaving.awaits {w : Config σ} {job : Job} (h : Leaving w job s) (a : Action σ) :
    Awaits w job s a := by
  by_cases ha : Opens s.env a
  · obtain ⟨hevents, halike⟩ := step_of_opens h.rests h.held ha
    have hformer := step_awaited_of_opens h.rests h.held h.awaited h.hasEnded? ha
    refine .replaced ha (fun more hmore => ?_) fun more => ?_
    · rw [run_cons]
      exact hasEnded?_of_former hformer hmore
    · rw [run_cons, run_cons, hevents, halike.run more]
  · obtain ⟨-, own, hevents, hrequests, hhanded, hrest⟩ := h.step ha
    rcases hrest with ⟨hleaving, hnone⟩ | ⟨hleft, hdeparts⟩
    · exact .goesOn own hevents hrequests hhanded hnone hleaving.hasEnded?
    · exact .ends own hevents hrequests hhanded hdeparts hleft.hasEnded? hleft.silent

/-! ### Awaiting the end of a worker -/

theorem act_manned (h : s.held = true → s.worker.isSome = true) (a : Action σ) :
    (s.act a).1.held = true → (s.act a).1.worker.isSome = true := by
  cases a with
  | opening options =>
      simp only [Session.act, Session.openWorker]
      split
      · exact h
      · exact fun _ => rfl
  | close =>
      have htouches := closeHeld_touches s
      exact fun hnext => htouches.manned.trans (h (htouches.held ▸ hnext))
  | drop => exact fun hnext => absurd hnext Bool.false_ne_true
  | shutdown =>
      simp only [Session.act]
      split
      · exact fun hnext => absurd hnext Bool.false_ne_true
      · exact h
  | release permits => exact fun hnext => (Option.isSome_map ..).trans (h hnext)
  | tick =>
      have htouches := onWorker_touches s fun w x => x.elapse w
      exact fun hnext => htouches.manned.trans (h (htouches.held ▸ hnext))
  | _ => exact h

/-- A handle is held on a worker only. -/
theorem Reachable.manned (h : s.Reachable) (hheld : s.held = true) : ∃ o, s.worker = some o := by
  obtain ⟨env, actions, rfl⟩ := h
  refine Option.isSome_iff_exists.mp ?_
  induction actions using List.reverseRecOn with
  | nil => cases hheld
  | append_singleton actions a ih =>
      rw [run_append] at hheld ⊢
      have htouches := settle_touches (((start env).run actions).1.act a).1
      exact htouches.manned.trans (act_manned ih a (htouches.held ▸ hheld))

/-- When the end of a worker is awaited, it is wound up at once. -/
theorem step_shutdown (h : s.Rests) (hheld : s.held = true) {o : Opened σ}
    (ho : s.worker = some o) :
    let state := (o.state.close o.config).1.wound
    s.step .shutdown = ({ s with
      worker := some { o with state }
      held := false
      awaited := .current }, (o.state.close o.config).2, .ended state.isFinished) := by
  intro state
  obtain ⟨hevents, hsettle⟩ := closeWorker_settle h ho
  let left : Session σ := { s with
    worker := some { o with state }
    held := false
    awaited := .current }
  have hact : s.act .shutdown =
      (left, (o.state.close o.config).2, .ended state.isFinished) := by
    simp [Session.act, hheld, hevents, hsettle, left, state, Session.hasEnded?]
  have hrests : left.Rests := by
    intro o' ho'
    cases ho'
    exact (Ending.of_rest (h o ho)).wound_rests
  rw [step_eq, hact, settle_of_rests hrests, List.append_nil]

/-- If no handler waits, that is the end of the worker. -/
theorem step_shutdown_left (h : s.Reachable) (hheld : s.held = true) {o : Opened σ}
    (ho : s.worker = some o) (hfree : ∀ job next, o.state.execute ≠ .blocked job next) :
    Left (s.step .shutdown).1 := by
  have hstopped : (o.state.close o.config).1.wound.execute = .stopped := by
    have hanswered := h.ofWorker kept_awaited? o ho
    rw [closed_close]
    cases hexecute : o.state.execute with
    | idle => simp [State.wound]
    | stopped => simp [State.wound]
    | blocked job next => exact absurd hexecute (hfree job next)
    | _ =>
        rw [hexecute] at hanswered
        cases hanswered
  rw [step_shutdown h.rests hheld ho]
  exact ⟨rfl, rfl, _, rfl, rfl, hstopped⟩

/-- Otherwise the handler is all that is left of it. -/
theorem step_shutdown_leaving (h : s.Reachable) (hheld : s.held = true) {o : Opened σ}
    (ho : s.worker = some o) {job : Job} {next : Activity σ}
    (hblocked : o.state.execute = .blocked job next) :
    Leaving o.config job (s.step .shutdown).1 := by
  obtain ⟨history, events, hreaches⟩ := h.reaches ho
  have hstuck : o.permits = 0 := (Ending.of_rest (h.rests o ho)).stuck job next (by
    rw [closed_close]
    exact hblocked)
  rw [step_shutdown h.rests hheld ho, closed_close, hstuck]
  refine ⟨rfl, rfl, _, rfl, rfl, rfl, ⟨next, by simp [State.wound, hblocked]⟩, ?_⟩
  exact hreaches.bounded.of_le le_rfl (by intro request hpending; cases hpending)

/--
**Awaiting the end of a worker takes as long as the handler at work.**  In every session that holds
a worker its end can be awaited.  The worker is closed, and that is all that is seen of it.  If no
handler waits, that is the end of the worker, even if it waits for the gateway or has jobs in its
queue.  If the handler of a job waits, the end is awaited.  Then, however long this takes, every step
shows what it would without the worker and nothing of the worker but what the handler does, until
the step in which the handler ends.  In this step the worker sends the command that it owes for the
job, it is answered, and that is the end of the worker.  No other job is started and no request is
made.  And when the end has come, nothing that is ever seen of the session is due to the worker.
-/
theorem shutdown_waits_for_the_handler (h : s.Reachable) (hheld : s.held = true) :
    ∃ o, s.worker = some o ∧ (s.step .shutdown).2.1 = (o.state.close o.config).2 ∧
      ((∀ job next, o.state.execute ≠ .blocked job next) →
        (s.step .shutdown).2.2 = .ended true ∧ (s.step .shutdown).1.Silent) ∧
      ∀ job next, o.state.execute = .blocked job next →
        (s.step .shutdown).2.2 = .ended false ∧
        ∀ actions, (∀ a ∈ actions, ¬ Opens s.env a) →
          ((s.step .shutdown).1.run actions).1.hasEnded? = some false →
            ∀ a, Awaits o.config job ((s.step .shutdown).1.run actions).1 a := by
  obtain ⟨o, ho⟩ := h.manned hheld
  have hstep := step_shutdown h.rests hheld ho
  have hanswer : (s.step .shutdown).2.2 = .ended ((s.step .shutdown).1.hasEnded?.getD true) := by
    rw [hstep]
    rfl
  refine ⟨o, ho, by rw [hstep], fun hfree => ?_, fun job next hblocked => ?_⟩
  · have hleft := step_shutdown_left h hheld ho hfree
    exact ⟨by rw [hanswer, hleft.hasEnded?]; rfl, hleft.silent⟩
  · have hleaving := step_shutdown_leaving h hheld ho hblocked
    refine ⟨by rw [hanswer, hleaving.hasEnded?]; rfl, fun actions hactions hended a => ?_⟩
    have hnone : ∀ a ∈ actions, ¬ Opens (s.step .shutdown).1.env a := by
      rw [hstep]
      exact hactions
    rcases hleaving.run hnone with hwaits | hleft
    · exact hwaits.awaits a
    · rw [hleft.hasEnded?] at hended
      cases hended

/-! ### A session to look at -/

/-- A worker whose handler waits when it is refused something. -/
def waiting : Options Unit where
  jobType := some "email"
  handler := some sampleHandler
  maxJobsActive := some 2
  timeout := some (.ofSecs 60)
  name := some "w"
  pollInterval := some (.ofMillis 100)
  fetchVariables := ["address"]
  autoComplete := true

/-- A job is at work, another one is in the queue, and an answer is pending. -/
def heldUp : List (Action Unit) :=
  [.refuseFailures (some refusal), .push (.batch [sampleJob 1, sampleJob 2, sampleJob 3]),
    .opening waiting, .hold, .tick]

/-- What is done meanwhile has nothing to do with the worker. -/
def meanwhile : List (Action Unit) :=
  [.tick, .shutdown, .send (.complete ⟨JobKey.ofInt 9, none⟩)]

theorem shutdown_waits_for_the_handler_heldUp :
    let s := ((start .unset).run heldUp).1
    let after := ((s.step .shutdown).1.run meanwhile).1
    (∃ o, s.worker = some o ∧ o.state.queue = [sampleJob 2] ∧
      o.state.acquire = .activating ⟨"email", "w", 60000, 1, ["address"]⟩) ∧
    (s.step .shutdown).2.2 = .ended false ∧
    Awaits sample (sampleJob 1) after (.release 0) ∧ Awaits sample (sampleJob 1) after (.release 1) ∧
    (after.step (.release 0)).1.hasEnded? = some false ∧
    (after.step (.release 1)).1.hasEnded? = some true := by
  intro s after
  obtain ⟨o, ho, -, -, hbusy⟩ := shutdown_waits_for_the_handler (s := s) ⟨_, _, rfl⟩ rfl
  cases ho
  obtain ⟨hended, hlater⟩ := hbusy (sampleJob 1) _ rfl
  have hawaits := hlater meanwhile (by simp [meanwhile, Opens]) rfl
  exact ⟨⟨_, rfl, rfl, rfl⟩, hended, hawaits (.release 0), hawaits (.release 1), rfl, rfl⟩

end Session

end JobWorker
