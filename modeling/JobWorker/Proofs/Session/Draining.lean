/-
A script is worked off without waiting.

A step of a session that opens a worker, or that lets the poll interval pass for a worker with
nothing to do, sets off the rounds of asking for jobs and handling them.  They end by themselves: the
step leaves a worker that rests, with all the jobs handled that the script began with, up to the
first entry that brings none.

What has been done with the jobs is their account.  So two sessions whose scripts begin with the same
jobs see the same deeds, however large the queues of the workers are and however the jobs are cut.
-/
import JobWorker.Proofs.Session.Ending
import JobWorker.Proofs.Worker.History
import JobWorker.Proofs.Worker.Rounds

namespace JobWorker

open Worker

namespace Session

variable {σ : Type} {s : Session σ}

/-! ### Before a worker is opened -/

/-- Closing a worker at rest takes nothing from the script, and no job is taken up. -/
theorem closeHeld_settle (h : s.Rests) :
    s.closeHeld.1.settle.1.gateway = s.gateway ∧
      deeds (s.closeHeld.2 ++ s.closeHeld.1.settle.2) = [] := by
  unfold Session.closeHeld
  split
  · cases ho : s.worker with
    | none => simp [Session.closeWorker, Session.onWorker, ho, settle_of_rests h]
    | some o =>
        obtain ⟨hevents, hsettle⟩ := closeWorker_settle h ho
        have hclose : deeds (o.state.close o.config).2 = [] := by
          unfold State.close
          split <;> simp [Event.isForeign]
        rw [hevents, hsettle]
        simp [hclose]
  · simp [settle_of_rests h]

/-! ### Steps that set a worker off -/

/-- The steps that make a worker with nothing to do ask for jobs: it is opened, or the poll interval
passes while both of its loops wait.  With them go the worker and what its handler remembers. -/
inductive Starts (s : Session σ) : Action σ → Config σ → σ → Prop
  | opening {options : Options σ} {notices : List Notice} {w : Config σ}
      (hopened : options.openIn s.env .multiThread = (notices, .ok w)) :
      Starts s (.opening options) w w.handler.fresh
  | tick {o : Opened σ} (ho : s.worker = some o) (hopen : o.state.closed = false)
      (hwait : o.state.acquire = .waiting) (hidle : o.state.execute = .idle)
      (hqueue : o.state.queue = []) : Starts s .tick o.config o.state.memory

/-- Such a step, in a session at rest, with a handler that never blocks and with a gateway that plays
fair.  Its script holds batches of jobs up to an entry that brings none. -/
structure Served (s : Session σ) (a : Action σ) (w : Config σ) (memory : σ)
    (batches : List (List Job)) (rest : List Scripted.Entry) : Prop where
  rests : s.Rests
  starts : Starts s a w memory
  unblocked : w.handler.NeverBlocks
  answers : s.gateway.holding = false
  fair : s.gateway.overGranting = false
  script : s.gateway.script = batches.map .batch ++ rest
  full : ∀ batch ∈ batches, batch ≠ []
  barren : Scripted.Barren rest

/-- The script is worked off: nothing is in the queue of the worker, and its deeds are the account of
the jobs. -/
structure WorkedOff (w : Config σ) (left : List Scripted.Entry) (done : List Event)
    (after : Session σ) (events : List Event) : Prop where
  worker : ∃ o, after.worker = some o ∧ o.config = w ∧ o.state.queue = []
  script : after.gateway.script = left
  deeds : deeds events = done

/-- A session whose worker is about to work off the script does so when it runs. -/
theorem workedOff_of_settle {o : Opened σ} (ho : s.worker = some o) {x y : World Scripted σ}
    {before events : List Event} {jobs : List Job} {left : List Scripted.Entry} (hready : Ready x)
    (hleads : Leads o.config (s.world o) y events)
    (hdrained : Drained o.config x jobs left y (before ++ events)) :
    WorkedOff o.config left (o.config.treatAll x.gateway.verdict x.state.memory jobs).2 s.settle.1
      (before ++ s.settle.2) := by
  have hy : Ready y := hdrained.ready hready
  have hrest : y.move o.config = none := hy.move_eq_none (by rw [hdrained.state])
  rw [settle_of_leads ho hleads hrest]
  refine ⟨⟨_, rfl, rfl, hy.queue⟩, ?_, hdrained.deeds⟩
  obtain ⟨calls, hcalls⟩ := hdrained.gateway
  simp only [hcalls]

/-- A worker that is opened works off the script, after the one before it has been closed. -/
theorem workedOff_of_opening {options : Options σ} {notices : List Notice} {w : Config σ}
    {batches : List (List Job)} {rest : List Scripted.Entry} {memory : σ}
    (h : Served s (.opening options) w memory batches rest)
    (hopened : options.openIn s.env .multiThread = (notices, .ok w)) :
    WorkedOff w rest.tail (w.treatAll s.gateway.verdict w.handler.fresh batches.flatten).2
      (s.step (.opening options)).1 (s.step (.opening options)).2.1 := by
  obtain ⟨hgateway, hclosing⟩ := closeHeld_settle h.rests
  let s' := s.closeHeld.1.settle.1.adopt w
  let x : World Scripted σ := ⟨s.gateway, w.start, 0⟩
  have hworld : s'.world ⟨w, w.start, 0⟩ = x := by
    simp only [world, x, ← hgateway]
    rfl
  have hready : Ready x := ⟨rfl, rfl, rfl, rfl, h.answers, h.fair⟩
  obtain ⟨y, events, hleads, hdrained⟩ :=
    drains h.unblocked h.barren batches x hready h.full h.script
  have hall : Leads w (s'.world ⟨w, w.start, 0⟩) y ((x.poll w).2 ++ events) := by
    rw [hworld]
    exact .move rfl hleads
  have hdone := workedOff_of_settle (show s'.worker = some ⟨w, w.start, 0⟩ from rfl) hready hall
    (show Drained w x _ _ y ([] ++ ((x.poll w).2 ++ events)) from hdrained)
  have hstep : s.step (.opening options) = (s'.settle.1,
      s.closeHeld.2 ++ s.closeHeld.1.settle.2 ++ Event.ofNotices notices ++ s'.settle.2,
      .opened (.ok ⟨false, w.name, w.jobType⟩)) := by
    simp [Session.step, Session.act, Session.openWorker, hopened, s']
  rw [hstep]
  refine ⟨hdone.worker, hdone.script, ?_⟩
  rw [deeds_append, deeds_append, hclosing, deeds_ofNotices]
  exact hdone.deeds

/-- A worker with nothing to do works off the script when the poll interval has passed. -/
theorem workedOff_of_tick {o : Opened σ} {batches : List (List Job)} {rest : List Scripted.Entry}
    {memory : σ} (h : Served s .tick o.config memory batches rest) (ho : s.worker = some o)
    (hopen : o.state.closed = false) (hwait : o.state.acquire = .waiting)
    (hidle : o.state.execute = .idle) (hqueue : o.state.queue = []) :
    WorkedOff o.config rest.tail
      (o.config.treatAll s.gateway.verdict o.state.memory batches.flatten).2
      (s.step .tick).1 (s.step .tick).2.1 := by
  let x := s.world o
  have hsignal : o.state.pollNow = false := by
    simpa [world, World.move, World.execute, World.acquire, hidle, hopen, hqueue, hwait]
      using h.rests o ho
  have hready : Ready x := ⟨hqueue, hsignal, hopen, hidle, h.answers, h.fair⟩
  obtain ⟨y, events, hleads, hdrained⟩ :=
    drains h.unblocked h.barren batches x hready h.full h.script
  let z := (x.poll o.config).1
  let s' : Session σ :=
    { s with gateway := z.gateway, worker := some { o with state := z.state, permits := z.permits } }
  have hdone := workedOff_of_settle
    (show s'.worker = some { o with state := z.state, permits := z.permits } from rfl)
    hready hleads hdrained
  have hstep : s.step .tick = (s'.settle.1, (x.poll o.config).2 ++ s'.settle.2, .none) := by
    have helapse : World.elapse o.config ⟨s.gateway, o.state, o.permits⟩ = x.poll o.config := by
      simp [World.elapse, x, world, hwait, hopen]
    simp [Session.step, Session.act, Session.onWorker, ho, helapse, s', z]
  rw [hstep]
  exact hdone

theorem Served.workedOff {a : Action σ} {w : Config σ} {memory : σ} {batches : List (List Job)}
    {rest : List Scripted.Entry} (h : Served s a w memory batches rest) :
    WorkedOff w rest.tail (w.treatAll s.gateway.verdict memory batches.flatten).2
      (s.step a).1 (s.step a).2.1 := by
  cases h.starts with
  | opening hopened => exact workedOff_of_opening h hopened
  | tick ho hopen hwait hidle hqueue => exact workedOff_of_tick h ho hopen hwait hidle hqueue

/--
**Draining.**  A worker that is opened, or one with nothing to do for which the poll interval passes,
is at rest again at the end of the step.  By then exactly the jobs of the batches have been handed
out and have been handled, each of them once and in order; the queue is empty, and of the rest of the
script the first entry is gone.  And all that has been done with the jobs, the commands included, is
the same in every other session in which a worker that works alike begins with the same memory and
the same jobs: its queue may hold more or fewer jobs, these may be cut into batches in another way,
another rest may follow them, and it may be the other of the two steps.
-/
theorem draining {a : Action σ} {w : Config σ} {memory : σ} {batches : List (List Job)}
    {rest : List Scripted.Entry} (h : Served s a w memory batches rest) :
    (s.step a).1.Rests ∧
    handed (s.step a).2.1 = batches.flatten ∧ finished (s.step a).2.1 = batches.flatten ∧
    (∃ o, (s.step a).1.worker = some o ∧ o.config = w ∧ o.state.queue = []) ∧
    (s.step a).1.gateway.script = rest.tail ∧
    ∀ (s' : Session σ) (a' : Action σ) (w' : Config σ) (batches' : List (List Job))
      (rest' : List Scripted.Entry), Served s' a' w' memory batches' rest' → w.WorksLike w' →
        s'.gateway.verdict = s.gateway.verdict → batches'.flatten = batches.flatten →
          deeds (s'.step a').2.1 = deeds (s.step a).2.1 ∧
          handed (s'.step a').2.1 = handed (s.step a).2.1 ∧
          commands (s'.step a').2.1 = commands (s.step a).2.1 := by
  have hdone := h.workedOff
  refine ⟨step_rests s a, ?_, ?_, hdone.worker, hdone.script, ?_⟩
  · rw [← handed_deeds, hdone.deeds, handed_treatAll]
  · rw [← finished_deeds, hdone.deeds, finished_treatAll]
  · intro s' a' w' batches' rest' h' halike hverdict hjobs
    have hdeeds : deeds (s'.step a').2.1 = deeds (s.step a).2.1 := by
      rw [h'.workedOff.deeds, hdone.deeds, hverdict, hjobs, halike.treatAll]
    refine ⟨hdeeds, ?_, ?_⟩
    · rw [← handed_deeds, hdeeds, handed_deeds]
    · rw [← commands_deeds, hdeeds, commands_deeds]

/-! ### Two sessions to look at -/

/-- A handler that fails every other job by a command of its own and leaves the others alone. -/
def tallyHandler : Handler Nat where
  fresh := 0
  start n job := .say (.tookUp job.key) <|
    if n % 2 = 0 then
      .send (.fail ⟨job.key, 0, "not today"⟩) fun
        | .ok receipt => .done (n + 1) (.returned (.resolved receipt))
        | .error _ => .done (n + 1) (.failed ["no answer"])
    else .done (n + 1) (.returned .unresolved)

theorem tallyHandler_neverBlocks : tallyHandler.NeverBlocks := by
  intro n job
  refine .say _ _ ?_
  split
  · refine .send _ _ fun answer => ?_
    cases answer with
    | ok receipt => exact .done _ _
    | error e => exact .done _ _
  · exact .done _ _

/-- A worker with such a handler. -/
def tally (maxJobs : UInt32) : Options Nat where
  jobType := some "email"
  handler := some tallyHandler
  maxJobsActive := some maxJobs
  timeout := some (.ofSecs 60)
  name := some "w"
  pollInterval := some (.ofMillis 100)
  fetchVariables := []
  autoComplete := true

/-- What it is set up with. -/
def tallying (maxJobs : UInt32) (hpos : 0 < maxJobs.toNat) : Config Nat where
  request := ⟨"email", "w", 60000, maxJobs, []⟩
  handler := tallyHandler
  pollInterval := .ofMillis 100
  autoComplete := true
  capacity_pos := hpos

/-- A session with a script, in which failures are refused. -/
def scripted (script : List Scripted.Entry) : Session Nat :=
  { start .unset with gateway := { Scripted.blank with script, failError := some refusal } }

/-- A session with a script that a worker has not found yet, as it asked before. -/
def overslept (maxJobs : UInt32) (script : List Scripted.Entry) : Session Nat :=
  let s := ((scripted []).step (.opening (tally maxJobs))).1
  { s with gateway := { s.gateway with script } }

/-- Four jobs, three of them together. -/
def threeAndOne : Session Nat :=
  scripted [.batch [sampleJob 1, sampleJob 2, sampleJob 3], .batch [sampleJob 4], .error refusal]

/-- The same four jobs, cut differently, and a fifth behind an empty batch. -/
def oneAndThree : Session Nat :=
  overslept 1 [.batch [sampleJob 1], .batch [sampleJob 2, sampleJob 3, sampleJob 4], .batch [],
    .batch [sampleJob 5]]

theorem draining_twoCuts :
    let opened := threeAndOne.step (.opening (tally 2))
    let ticked := oneAndThree.step .tick
    handed opened.2.1 = [sampleJob 1, sampleJob 2, sampleJob 3, sampleJob 4] ∧
      opened.1.Rests ∧ opened.1.gateway.script = [] ∧
      (commands opened.2.1).length = 6 ∧ commands ticked.2.1 = commands opened.2.1 := by
  have hopening : Served threeAndOne (.opening (tally 2)) (tallying 2 (by decide)) 0
      [[sampleJob 1, sampleJob 2, sampleJob 3], [sampleJob 4]] [.error refusal] :=
    { rests := by intro o ho; cases ho
      starts := .opening rfl
      unblocked := tallyHandler_neverBlocks
      answers := rfl
      fair := rfl
      script := rfl
      full := by simp
      barren := trivial }
  have htick : Served oneAndThree .tick (tallying 1 (by decide)) 0
      [[sampleJob 1], [sampleJob 2, sampleJob 3, sampleJob 4]] [.batch [], .batch [sampleJob 5]] :=
    { rests := by intro o ho; cases ho; rfl
      starts := .tick (o := ⟨tallying 1 (by decide), ⟨[], false, false, 0, .waiting, .idle⟩, 0⟩)
        rfl rfl rfl rfl rfl
      unblocked := tallyHandler_neverBlocks
      answers := rfl
      fair := rfl
      script := rfl
      full := by simp
      barren := rfl }
  obtain ⟨hrests, hhanded, -, -, hscript, hsame⟩ := draining hopening
  exact ⟨hhanded, hrests, hscript, rfl, (hsame _ _ _ _ _ htick ⟨rfl, rfl, rfl⟩ rfl rfl).2.2⟩

end Session

end JobWorker
