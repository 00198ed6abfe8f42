/-
Histories of a worker, one move after the other.

A history is run from its first move on, but what is known of a worker grows at the other end: what
has happened so far, and then one more move.  `run_induction` is the induction in that direction.
It hands out the move as a `Step`, which it can because the bound on the queue is kept by every
step; this is shown first.
-/
import JobWorker.Proofs.Worker.Step
import Mathlib.Data.List.Induction

namespace JobWorker.Worker

variable {σ : Type} {w : Config σ}

/-! ### The bound is kept -/

theorem Stretch.queue {job : Job} {s s' : State σ} {events : List Event}
    (h : Stretch w job s s' events) : s'.queue = s.queue := by
  cases h <;> rfl

theorem Stretch.acquire {job : Job} {s s' : State σ} {events : List Event}
    (h : Stretch w job s s' events) : s'.acquire = s.acquire := by
  cases h <;> rfl

theorem Stretch.pollNow {job : Job} {s s' : State σ} {events : List Event}
    (h : Stretch w job s s' events) : s'.pollNow = s.pollNow := by
  cases h <;> rfl

theorem Stretch.closed {job : Job} {s s' : State σ} {events : List Event}
    (h : Stretch w job s s' events) : s'.closed = s.closed := by
  cases h <;> rfl

@[simp] theorem heed_queue (s : State σ) (m : Move) : (s.heed m).queue = s.queue := by
  cases m <;> rfl

@[simp] theorem heed_closed (s : State σ) (m : Move) : (s.heed m).closed = s.closed := by
  cases m <;> rfl

@[simp] theorem heed_execute (s : State σ) (m : Move) : (s.heed m).execute = s.execute := by
  cases m <;> rfl

/-- A state whose queue has not grown and in which nothing new is asked for is as bounded. -/
theorem Bounded.of_le {s s' : State σ} (hb : Bounded w s)
    (hqueue : s'.queue.length ≤ s.queue.length)
    (hacquire : ∀ request, s'.acquire = .activating request → s.acquire = .activating request) :
    Bounded w s' := by
  refine ⟨Nat.le_trans hqueue hb.queue, ?_⟩
  intro request hpending
  have := hb.pending request (hacquire request hpending)
  omega

theorem Step.bounded {s s' : State σ} {m : Move} {events : List Event}
    (h : Step w s m s' events) (hb : Bounded w s) : Bounded w s' := by
  cases h with
  | ask hasks hopen hroom =>
      refine ⟨by simpa using hb.queue, ?_⟩
      -- the request is for the room that is left, so it makes the bound exact
      intro request hpending
      cases hpending
      simp only [heed_queue, topUp_maxJobs, State.room]
      have := hb.queue
      omega
  | skip hasks hopen hfull => exact hb.of_le (by simp) (by simp)
  | @accept request jobs hpending hopen =>
      have hlen := Activation.length_accept_le request jobs
      have hfit := hb.pending request hpending
      refine ⟨?_, by simp⟩
      simp only [List.length_append]
      omega
  | refuse error hpending hopen => exact hb.of_le (Nat.le_refl _) (by simp)
  | stopAcquiring hrunning hclosed =>
      exact hb.of_le (Nat.le_refl _) (by simp [State.stopAcquiring])
  | takeUp hidle hqueue hopen h =>
      refine hb.of_le ?_ (by simp [h.acquire, State.dequeued])
      simp [h.queue, State.dequeued, hqueue]
  | letGo hblocked h => exact hb.of_le (by simp [h.queue]) (by simp [h.acquire])
  | reply verdict hsending h => exact hb.of_le (by simp [h.queue]) (by simp [h.acquire])
  | settle verdict hfollowing => exact hb.of_le (Nat.le_refl _) (by simp)
  | stopExecuting hidle hclosed =>
      exact hb.of_le (Nat.le_refl _) (by simp [State.stopExecuting])
  | close way hopen => exact hb.of_le (Nat.le_refl _) (by simp)
  | closeAgain way hclosed => exact hb

/-! ### Runs -/

/-- A history is run by its first move and then by the rest. -/
theorem run?_cons_eq_some_iff {m : Move} {history : List Move} {s u : State σ} {all : List Event} :
    s.run? w (m :: history) = some (u, all) ↔
      ∃ t events more, s.move? w m = some (t, events) ∧ t.run? w history = some (u, more) ∧
        all = events ++ more := by
  simp only [State.run?, Option.bind_eq_bind, Option.bind_eq_some_iff, Option.pure_def,
    Option.some.injEq, Prod.exists, Prod.mk.injEq]
  constructor
  · rintro ⟨t, events, hm, u', more, hrun, rfl, rfl⟩
    exact ⟨t, events, more, hm, hrun, rfl⟩
  · rintro ⟨t, events, more, hm, hrun, rfl⟩
    exact ⟨t, events, hm, u, more, hrun, rfl, rfl⟩

/-- A history in two parts is run in two parts. -/
theorem run?_append_eq_some_iff {after : List Move} {u : State σ} :
    ∀ {before : List Move} {s : State σ} {all : List Event},
      s.run? w (before ++ after) = some (u, all) ↔
        ∃ t events more, s.run? w before = some (t, events) ∧
          t.run? w after = some (u, more) ∧ all = events ++ more := by
  intro before
  induction before with
  | nil =>
      intro s all
      constructor
      · intro h
        exact ⟨s, [], all, rfl, h, rfl⟩
      · rintro ⟨t, events, more, hnil, hafter, rfl⟩
        cases hnil
        exact hafter
  | cons m before ih =>
      intro s all
      rw [List.cons_append, run?_cons_eq_some_iff]
      constructor
      · rintro ⟨t, events, rest, hm, hrest, rfl⟩
        obtain ⟨t', events', more, hbefore, hafter, rfl⟩ := ih.mp hrest
        exact ⟨t', events ++ events', more,
          run?_cons_eq_some_iff.mpr ⟨t, events, events', hm, hbefore, rfl⟩, hafter,
          (List.append_assoc _ _ _).symm⟩
      · rintro ⟨t, _, more, hfirst, hafter, rfl⟩
        obtain ⟨t', events, events', hm, hbefore, rfl⟩ := run?_cons_eq_some_iff.mp hfirst
        exact ⟨t', events, events' ++ more, hm, ih.mpr ⟨t, events', more, hbefore, hafter, rfl⟩,
          List.append_assoc _ _ _⟩

theorem run?_singleton {s s' : State σ} {m : Move} {events : List Event} :
    s.run? w [m] = some (s', events) ↔ s.move? w m = some (s', events) := by
  rw [run?_cons_eq_some_iff]
  constructor
  · rintro ⟨t, first, rest, hm, hnil, rfl⟩
    cases hnil
    rwa [List.append_nil]
  · intro h
    exact ⟨s', events, [], h, rfl, (List.append_nil events).symm⟩

theorem run?_bounded {s₀ : State σ} (hb : Bounded w s₀) {history : List Move} {s : State σ}
    {events : List Event} (h : s₀.run? w history = some (s, events)) : Bounded w s := by
  induction history generalizing s₀ events with
  | nil => cases h; exact hb
  | cons m history ih =>
      obtain ⟨t, events', more, hm, hrun, rfl⟩ := run?_cons_eq_some_iff.mp h
      exact ih ((step_of_move? hb hm).bounded hb) hrun

/-- What holds before the first move and is kept by every step holds after every history. -/
theorem run_induction {s₀ : State σ} (hb : Bounded w s₀)
    {motive : List Move → State σ → List Event → Prop} (nil : motive [] s₀ [])
    (step : ∀ {history : List Move} {s s' : State σ} {events more : List Event} {m : Move},
      Bounded w s → motive history s events → Step w s m s' more →
        motive (history ++ [m]) s' (events ++ more)) :
    ∀ {history : List Move} {s : State σ} {events : List Event},
      s₀.run? w history = some (s, events) → motive history s events := by
  intro history
  induction history using List.reverseRecOn with
  | nil => intro s events h; cases h; exact nil
  | append_singleton history m ih =>
      intro s' all h
      obtain ⟨s, events, more, hrun, hm, rfl⟩ := run?_append_eq_some_iff.mp h
      have hbs := run?_bounded hb hrun
      exact step hbs (ih hrun) (step_of_move? hbs (run?_singleton.mp hm))

theorem Reaches.bounded {history : List Move} {s : State σ} {events : List Event}
    (h : Reaches w history s events) : Bounded w s :=
  run?_bounded (bounded_start w) h

/-! ### A worker to look at -/

/-- A handler that fails its job by a command of its own.  If that is refused, it waits and gives
up. -/
def sampleHandler : Handler Unit where
  fresh := ()
  start _ job := .say (.tookUp job.key) (.send (.fail ⟨job.key, 0, "not today"⟩) fun
    | .ok receipt => .done () (.returned (.resolved receipt))
    | .error _ => .await (.done () (.failed ["no answer", "timed out"])))

/-- A worker with such a handler and with room for two jobs. -/
def sample : Config Unit where
  request := ⟨"email", "w", 60000, 2, ["address"]⟩
  handler := sampleHandler
  pollInterval := .ofMillis 100
  autoComplete := true
  capacity_pos := by decide

/-- A job for that worker. -/
def sampleJob (n : Int) : Job := Job.sample (JobKey.ofInt n) "email" "w"

/-- An answer that refuses what is asked. -/
def refusal : GatewayError := .unavailable "down"

end JobWorker.Worker
