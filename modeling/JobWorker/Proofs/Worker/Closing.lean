/-
Closing a worker is final.

From the moment a worker is closed its two loops begin nothing any more: `Winds` lists what that
means between any two states, and it is kept by every step and so by every history.

The handler that is at work is another matter, for it is to come to its end as if nothing had
happened.  This is shown by comparing the closed worker with the same worker reopened.  The moves of
the handler are possible in the one exactly when they are in the other and bring the same events,
and all other moves of a closed worker bring none.  So what is seen of a closed worker is what the
handler at work and the worker's command for its job would have shown in an open one, and no more.
-/
import JobWorker.Proofs.Worker.Accounting

namespace JobWorker.Worker

variable {σ : Type} {w : Config σ}

/-- Whether a move belongs to the handler at work or to the worker's own command after it. -/
def Move.ofHandler : Move → Bool
  | .letGo | .verdict _ => true
  | .first | .wake | .elapse | .grant _ | .stopAcquiring | .takeUp | .stopExecuting | .close _ =>
    false

/-- The same worker, open, with both loops there to go on. -/
def State.reopened (s : State σ) : State σ :=
  { s with
    closed := false
    acquire := .waiting
    execute := match s.execute with
      | .stopped => .idle
      | execute => execute }

/-! ### Nothing is begun -/

/-- Between two states and with these events, a closed worker stays closed and begins nothing. -/
structure Winds (s s' : State σ) (events : List Event) : Prop where
  closed : s'.closed = true
  queue : s'.queue = s.queue
  requests : requests events = []
  grants : grants events = []
  handed : handed events = []
  /-- An activation that was waiting keeps waiting until the loop gives it up. -/
  acquire : s'.acquire = s.acquire ∨ s'.acquire = .stopped

theorem Winds.refl {s : State σ} (hclosed : s.closed = true) : Winds s s [] :=
  ⟨hclosed, rfl, rfl, rfl, rfl, Or.inl rfl⟩

theorem Winds.trans {s t u : State σ} {events more : List Event} (h : Winds s t events)
    (hmore : Winds t u more) : Winds s u (events ++ more) := by
  refine ⟨hmore.closed, hmore.queue.trans h.queue, ?_, ?_, ?_, ?_⟩
  · simp [h.requests, hmore.requests]
  · simp [h.grants, hmore.grants]
  · simp [h.handed, hmore.handed]
  · rcases hmore.acquire with hsame | hstopped
    · rw [hsame]
      exact h.acquire
    · exact Or.inr hstopped

theorem Stretch.winds {job : Job} {s s' : State σ} {events : List Event}
    (h : Stretch w job s s' events) (hclosed : s.closed = true) : Winds s s' events :=
  ⟨h.closed.trans hclosed, h.queue, h.requests_eq_nil, h.grants_eq_nil, h.handed_eq_nil,
    Or.inl h.acquire⟩

/-- A step of a closed worker begins nothing, and shows nothing unless it is the handler's. -/
theorem Step.winds {s s' : State σ} {m : Move} {events : List Event} (h : Step w s m s' events)
    (hclosed : s.closed = true) :
    Winds s s' events ∧ (m.ofHandler = false → s'.reopened = s.reopened ∧ events = []) := by
  cases h with
  | ask hasks hopen hroom => simp [hclosed] at hopen
  | skip hasks hopen hfull => simp [hclosed] at hopen
  | accept jobs hpending hopen => simp [hclosed] at hopen
  | refuse error hpending hopen => simp [hclosed] at hopen
  | takeUp hidle hqueue hopen h => simp [hclosed] at hopen
  | close way hopen => simp [hclosed] at hopen
  | stopAcquiring hrunning _ =>
      exact ⟨⟨hclosed, rfl, rfl, rfl, rfl, Or.inr rfl⟩, fun _ => ⟨rfl, rfl⟩⟩
  | stopExecuting hidle _ =>
      refine ⟨⟨hclosed, rfl, rfl, rfl, rfl, Or.inl rfl⟩, fun _ => ⟨?_, rfl⟩⟩
      simp [State.reopened, State.stopExecuting, hidle]
  | closeAgain way _ => exact ⟨.refl hclosed, fun _ => ⟨rfl, rfl⟩⟩
  | letGo hblocked h => exact ⟨h.winds hclosed, fun hm => by cases hm⟩
  | @reply job command next _ events verdict hsending h =>
      have hw := h.winds hclosed
      refine ⟨⟨hw.closed, hw.queue, ?_, ?_, ?_, hw.acquire⟩, fun hm => by cases hm⟩
      · simpa using hw.requests
      · simpa using hw.grants
      · simpa using hw.handed
  | settle verdict hfollowing =>
      refine ⟨⟨hclosed, rfl, ?_, ?_, ?_, Or.inl rfl⟩, fun hm => by cases hm⟩ <;> simp

/-! ### The handler goes on -/

theorem finish_reopened (w : Config σ) (job : Job) (memory : σ) (outcome : Outcome) (s : State σ) :
    s.reopened.finish w job memory outcome
      = ((s.finish w job memory outcome).1.reopened, (s.finish w job memory outcome).2) := by
  unfold State.finish
  cases w.followUp job outcome.result with
  | none => rfl
  | some command => rfl

theorem proceed_reopened (w : Config σ) (job : Job) (s : State σ) (activity : Activity σ) :
    s.reopened.proceed w job activity
      = ((s.proceed w job activity).1.reopened, (s.proceed w job activity).2) := by
  induction activity with
  | done memory outcome => exact finish_reopened w job memory outcome s
  | await next _ => rfl
  | send command next _ => rfl
  | say remark next ih => simp only [State.proceed, ih]

/-- The moves of the handler do not depend on whether the worker is closed. -/
theorem move?_reopened (w : Config σ) (s : State σ) {m : Move} (hm : m.ofHandler = true) :
    s.reopened.move? w m = (s.move? w m).map fun (s', events) => (s'.reopened, events) := by
  have hsame : s.reopened.execute = match s.execute with
      | .stopped => .idle
      | execute => execute := rfl
  cases m with
  | letGo =>
      cases hexecute : s.execute with
      | blocked job next => simp [State.move?, hsame, hexecute, proceed_reopened]
      | _ => simp [State.move?, hsame, hexecute]
  | verdict verdict =>
      cases hexecute : s.execute with
      | sending job command next =>
          simp [State.move?, hsame, hexecute, State.answered, proceed_reopened]
      | following job command =>
          simp [State.move?, hexecute, State.answered, State.reopened]
      | _ => simp [State.move?, hsame, hexecute]
  | _ => cases hm

/-- In a closed worker, a history shows what the moves of the handler show in an open one. -/
theorem run?_reopened {s₀ : State σ} (hb : Bounded w s₀) (hclosed : s₀.closed = true)
    {after : List Move} {s : State σ} {events : List Event}
    (h : s₀.run? w after = some (s, events)) :
    Winds s₀ s events ∧
      s₀.reopened.run? w (after.filter Move.ofHandler) = some (s.reopened, events) := by
  induction after generalizing s₀ events with
  | nil =>
      cases h
      exact ⟨.refl hclosed, rfl⟩
  | cons m after ih =>
      obtain ⟨t, first, rest, hm, hrest, rfl⟩ := run?_cons_eq_some_iff.mp h
      have hstep := step_of_move? hb hm
      obtain ⟨hwinds, hunseen⟩ := hstep.winds hclosed
      obtain ⟨hmore, hopen⟩ := ih (hstep.bounded hb) hwinds.closed hrest
      refine ⟨hwinds.trans hmore, ?_⟩
      cases hhandler : m.ofHandler with
      | true =>
          rw [List.filter_cons_of_pos hhandler]
          have hmove := move?_reopened w s₀ hhandler
          rw [hm] at hmove
          exact run?_cons_eq_some_iff.mpr ⟨_, _, _, hmove, hopen, rfl⟩
      | false =>
          -- any other move leaves the reopened worker as it was
          rw [List.filter_cons_of_neg (by simp [hhandler])]
          obtain ⟨hsame, rfl⟩ := hunseen hhandler
          rwa [← hsame]

/-! ### The job at work comes to its end -/

/-- If the handler of a job is in progress and no other starts, then it is in progress still, or it
has ended and the worker has sent what it owes. -/
theorem Course.in_progress {a b : Stage} {events : List Event} {job : Job} (h : Course w a events b)
    (hpaid : b.owed = []) (hhanded : handed events = []) (hbusy : a.inProgress? = some job) :
    (b.inProgress? = some job ∧ finished events = []) ∨
    ∃ before outcome rest, events = before ++ .ended job outcome :: rest ∧ finished before = [] ∧
      finished rest = [] ∧ Owes w job outcome (commands rest) := by
  have heq := h.handed_eq
  rw [hbusy, hhanded] at heq
  cases hfinished : finished events with
  | nil =>
      refine Or.inl ⟨?_, rfl⟩
      rw [hfinished] at heq
      simpa using heq.symm
  | cons other others =>
      rw [hfinished] at heq
      obtain ⟨rfl, hnil⟩ := List.cons.inj heq
      obtain ⟨rfl, -⟩ := List.append_eq_nil_iff.mp hnil.symm
      obtain ⟨before, event, rest, rfl, hbefore, hended, hrest⟩ :=
        List.filterMap_eq_cons_iff.mp hfinished
      obtain ⟨outcome, rfl⟩ : ∃ outcome, event = .ended job outcome := by
        cases event with
        | ended other outcome =>
            cases hended
            exact ⟨outcome, rfl⟩
        | _ => cases hended
      refine Or.inr ⟨before, outcome, rest, rfl, List.filterMap_eq_nil_iff.mpr hbefore, hrest, ?_⟩
      have howes := h.owes hpaid
      obtain ⟨-, hnone⟩ : handed before = [] ∧ handed rest = [] := by simpa using hhanded
      rwa [beforeNext_eq_self hnone] at howes

/-- If no handler is in progress and none starts, nothing more is sent. -/
theorem Course.not_in_progress {a b : Stage} {events : List Event} (h : Course w a events b)
    (hpaid : a.owed = []) (hpaid' : b.owed = []) (hhanded : handed events = [])
    (hidle : a.inProgress? = none) : finished events = [] ∧ commands events = [] := by
  have heq := h.handed_eq
  rw [hidle, hhanded] at heq
  refine ⟨(List.append_eq_nil_iff.mp heq.symm).1, ?_⟩
  have hcommands := h.commands_beforeNext hidle hpaid'
  rwa [beforeNext_eq_self hhanded, hpaid] at hcommands

/-! ### Closing shows once -/

theorem Step.closed {s s' : State σ} {m : Move} {events : List Event} (h : Step w s m s' events)
    (hm : ∀ way, m ≠ .close way) : s'.closed = s.closed := by
  cases h with
  | ask hasks hopen hroom => simp
  | skip hasks hopen hfull => simp
  | takeUp hidle hqueue hopen h => exact h.closed
  | letGo hblocked h => exact h.closed
  | reply verdict hsending h => exact h.closed
  | close way hopen => exact absurd rfl (hm way)
  | closeAgain way hclosed => rfl
  | _ => rfl

/-- How often it is in the log that the worker is closed. -/
def closings (w : Config σ) (events : List Event) : Nat :=
  (log events).count (.closed w.name w.jobType)

theorem closings_append (w : Config σ) (events more : List Event) :
    closings w (events ++ more) = closings w events + closings w more := by
  simp [closings]

theorem Step.closings_eq {s s' : State σ} {m : Move} {events : List Event}
    (h : Step w s m s' events) : s'.closed.toNat = s.closed.toNat + closings w events := by
  by_cases hm : ∀ way, m ≠ .close way
  · have hnone : closings w events = 0 := by
      refine List.count_eq_zero.mpr fun hmem => ?_
      have hwork := h.ofWork hm _ hmem
      cases hwork
    rw [hnone, h.closed hm]
    rfl
  · push Not at hm
    obtain ⟨way, rfl⟩ := hm
    cases h with
    | ask hasks => cases hasks
    | skip hasks => cases hasks
    | close _ hopen => simp [hopen, closings]
    | closeAgain _ hclosed => simp [closings]

/-- It is in the log once when a worker has been closed, and not before. -/
theorem Reaches.closings_eq {history : List Move} {s : State σ} {events : List Event}
    (h : Reaches w history s events) : closings w events = s.closed.toNat := by
  refine run_induction (bounded_start w)
    (motive := fun _ s events => closings w events = s.closed.toNat) rfl ?_ h
  intro history s s' events more m _ ih hstep
  rw [hstep.closings_eq, closings_append, ih]

/-! ### What is left to happen -/

/-- What happens to a worker from the state in which it has been closed. -/
structure Aftermath (w : Config σ) (s : State σ) (after : List Move) (s' : State σ)
    (events : List Event) : Prop extends Winds s s' events where
  /-- No answer to an activation is taken any more, and the loop that waits for one can end. -/
  abandoned : (∀ answer, s'.move? w (.grant answer) = none) ∧
    (s'.acquire ≠ .stopped → s'.move? w .stopAcquiring = some (s'.stopAcquiring, []))
  /-- What is seen is what the handler's moves show in an open worker. -/
  undisturbed : s.reopened.run? w (after.filter Move.ofHandler) = some (s'.reopened, events)
  /-- The handler at work can go on whenever it could in an open worker. -/
  uninterrupted : ∀ m, m.ofHandler = true →
    s'.reopened.move? w m = (s'.move? w m).map fun (t, more) => (t.reopened, more)
  /-- The job at work is at work still, or its handler has ended and it has got what it is owed. -/
  busy : ∀ job, s.execute.stage.inProgress? = some job →
    (s'.execute.stage.inProgress? = some job ∧ finished events = []) ∨
    ∃ first outcome rest, events = first ++ .ended job outcome :: rest ∧ finished first = [] ∧
      finished rest = [] ∧ Owes w job outcome (commands rest)
  /-- With no handler at work, nothing is sent for any job. -/
  idle : s.execute.stage.inProgress? = none → finished events = [] ∧ commands events = []

theorem move?_grant_of_closed {s : State σ} (hclosed : s.closed = true) (answer : Grant) :
    s.move? w (.grant answer) = none := by
  unfold State.move?
  cases s.acquire <;> simp [hclosed]

theorem move?_stopAcquiring {s : State σ} (hclosed : s.closed = true)
    (hrunning : s.acquire ≠ .stopped) :
    s.move? w .stopAcquiring = some (s.stopAcquiring, []) := by
  unfold State.move?
  cases hacquire : s.acquire with
  | stopped => exact absurd hacquire hrunning
  | _ => simp [hclosed]

theorem aftermath {s₀ : State σ} (hb : Bounded w s₀) (hclosed : s₀.closed = true)
    {after : List Move} {s : State σ} {events : List Event}
    (h : s₀.run? w after = some (s, events)) : Aftermath w s₀ after s events := by
  obtain ⟨hwinds, hopen⟩ := run?_reopened hb hclosed h
  have hcourse := run?_course hb h
  have hpaid := s.execute.owed_stage
  exact {
    toWinds := hwinds
    abandoned := ⟨move?_grant_of_closed hwinds.closed, move?_stopAcquiring hwinds.closed⟩
    undisturbed := hopen
    uninterrupted := fun m hm => move?_reopened w s hm
    busy := fun job hbusy => hcourse.in_progress hpaid hwinds.handed hbusy
    idle := fun hidle =>
      hcourse.not_in_progress s₀.execute.owed_stage hpaid hwinds.handed hidle }

/--
**Closing is final.**  A worker can be closed in every state that it reaches and in whatever way,
and closing sets the flag and does nothing else.  Whatever history follows, the worker stays closed,
makes no request, takes no answer to one, puts no job into the queue and takes none out.  The
handler at work goes on as in an open worker, and the worker completes or fails its job as it owes;
beyond that it sends nothing.  And in all that has happened by then, it is in the log just once that
the worker is closed.
-/
theorem closing_is_final {before : List Move} {s : State σ} {events : List Event}
    (h : Reaches w before s events) (way : Closing) :
    ∃ noted, s.move? w (.close way) = some ({ s with closed := true }, noted) ∧
      ∀ (after : List Move) (s' : State σ) (more : List Event),
        State.run? w { s with closed := true } after = some (s', more) →
          Aftermath w { s with closed := true } after s' more ∧
          (log (events ++ noted ++ more)).count (.closed w.name w.jobType) = 1 := by
  have hmove : ∃ noted, s.move? w (.close way) = some ({ s with closed := true }, noted) := by
    cases hclosed : s.closed with
    | true =>
        refine ⟨[], ?_⟩
        rw [State.move?, State.close, hclosed, if_pos rfl, ← hclosed]
    | false =>
        refine ⟨[.noticed (.closed w.name w.jobType)], ?_⟩
        rw [State.move?, State.close, hclosed, if_neg Bool.false_ne_true]
  obtain ⟨noted, hnoted⟩ := hmove
  refine ⟨noted, hnoted, ?_⟩
  intro after s' more hafter
  have hclose : Reaches w (before ++ [.close way]) { s with closed := true } (events ++ noted) :=
    run?_append_eq_some_iff.mpr ⟨s, events, noted, h, run?_singleton.mpr hnoted, rfl⟩
  have hall : Reaches w (before ++ [.close way] ++ after) s' (events ++ noted ++ more) :=
    run?_append_eq_some_iff.mpr ⟨_, _, more, hclose, hafter, rfl⟩
  have haftermath := aftermath hclose.bounded rfl hafter
  refine ⟨haftermath, ?_⟩
  have hcount := hall.closings_eq
  rw [haftermath.closed] at hcount
  exact hcount

/-- A job is at work, another one is in the queue, and an answer is pending. -/
def atWork : List Move :=
  [.first, .grant (.ok [sampleJob 1, sampleJob 2]), .takeUp, .verdict (.error refusal), .elapse]

/-- The handler fails, the worker sends its command, and both loops end. -/
def windingUp : List Move :=
  [.close .dropped, .letGo, .stopAcquiring, .verdict (.ok ()), .stopExecuting, .close .awaited]

theorem closing_is_final_atWork :
    ∃ s events, Reaches sample atWork s events ∧
      s.acquire = .activating (sample.request.withMaxJobs 1) ∧
      ∃ noted s' more,
        s.move? sample (.close .asked) = some ({ s with closed := true }, noted) ∧
        State.run? sample { s with closed := true } windingUp = some (s', more) ∧
        s'.queue = [sampleJob 2] ∧ finished more = [sampleJob 1] ∧
        Aftermath sample { s with closed := true } windingUp s' more ∧
        (log (events ++ noted ++ more)).count (.closed sample.name sample.jobType) = 1 := by
  refine ⟨_, _, rfl, rfl, ?_⟩
  obtain ⟨noted, hnoted, hall⟩ :=
    closing_is_final (show Reaches sample atWork _ _ from rfl) .asked
  exact ⟨noted, _, _, hnoted, rfl, rfl, rfl, hall windingUp _ _ rfl⟩

end JobWorker.Worker
