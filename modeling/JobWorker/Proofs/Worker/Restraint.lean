/-
A worker does not press the gateway.

Every request for jobs has a reason that it uses up: the worker has just been opened, the poll
interval has passed, or the signal was given.  The signal is given when the last job is taken off the
queue, and at no other time.  So what is due, one request for a worker that has not asked yet and one
for a signal that has been given, is a credit: a request spends it, an interval that passes or a queue
that runs empty brings in one more, and nothing else adds to it.  What becomes of a request does not
enter into this at all, and so failing activations cannot make a worker ask more often.

Of several signals that fall together only one counts, and a request for no jobs is not made; both
only waste credit.
-/
import JobWorker.Proofs.Worker.Record

namespace JobWorker.Worker

variable {σ : Type} {w : Config σ}

/-! ### One request at a time -/

/-- Whether the acquiring loop waits for an answer, or has ended and may have given one up. -/
def Acquire.isOwed : Acquire → Bool
  | .activating _ | .stopped => true
  | .starting | .waiting => false

/-- All requests have been answered but the one that waits or was given up. -/
def Outstanding (s : State σ) (events : List Event) : Prop :=
  (requests events).length ≤ (grants events).length + s.acquire.isOwed.toNat

theorem Outstanding.quiet {s s' : State σ} {events more : List Event} (h : Outstanding s events)
    (hrequests : requests more = []) (hgrants : grants more = [])
    (hacquire : s.acquire.isOwed.toNat ≤ s'.acquire.isOwed.toNat) :
    Outstanding s' (events ++ more) := by
  have hasked : requests (events ++ more) = requests events := by simp [hrequests]
  have hgranted : grants (events ++ more) = grants events := by simp [hgrants]
  unfold Outstanding at h ⊢
  rw [hasked, hgranted]
  omega

theorem Outstanding.answered {s s' : State σ} {events more : List Event} (answer : Grant)
    (h : Outstanding s events) (hrequests : requests more = []) (hgrants : grants more = [answer]) :
    Outstanding s' (events ++ more) := by
  have hle := Bool.toNat_le s.acquire.isOwed
  have hasked : requests (events ++ more) = requests events := by simp [hrequests]
  have hgranted : (grants (events ++ more)).length = (grants events).length + 1 := by
    simp [hgrants]
  unfold Outstanding at h ⊢
  rw [hasked, hgranted]
  omega

theorem Asks.isOwed_eq_false {s : State σ} {m : Move} (h : Asks s m) : s.acquire.isOwed = false := by
  cases h with
  | first hstart => simp [hstart, Acquire.isOwed]
  | wake hwait hsignal => simp [hwait, Acquire.isOwed]
  | elapse hwait => simp [hwait, Acquire.isOwed]

theorem Step.outstanding {s s' : State σ} {m : Move} {events more : List Event}
    (h : Step w s m s' more) (ho : Outstanding s events) : Outstanding s' (events ++ more) := by
  have haside := h.aside
  cases h with
  | ask hasks hopen hroom =>
      rw [Outstanding, hasks.isOwed_eq_false] at ho
      simpa [Outstanding, Acquire.isOwed] using ho
  | skip hasks hopen hfull => exact ho.quiet rfl rfl (by simp [hasks.isOwed_eq_false])
  | accept jobs hpending hopen => exact ho.answered (.ok jobs) (by simp) (by simp)
  | refuse error hpending hopen => exact ho.answered (.error error) (by simp) (by simp)
  | stopAcquiring hrunning hclosed => exact ho.quiet rfl rfl (Bool.toNat_le _)
  | takeUp hidle hqueue hopen h =>
      exact ho.quiet (by simp [h.requests_eq_nil]) (by simp [h.grants_eq_nil])
        (by simp [h.acquire, State.dequeued])
  | _ =>
      have h := haside rfl
      exact ho.quiet h.requests h.grants (by simp [h.acquire])

theorem Reaches.outstanding {history : List Move} {s : State σ} {events : List Event}
    (h : Reaches w history s events) : Outstanding s events :=
  run_induction (bounded_start w) (motive := fun _ s events => Outstanding s events)
    (Nat.zero_le _) (fun _ ih hstep => hstep.outstanding ih) h

/-! ### What brings in credit -/

/-- Whether the poll interval passes. -/
def Move.isElapse : Move → Bool
  | .elapse => true
  | _ => false

/-- Whether a move takes the last job off the queue. -/
def State.isEmptiedBy (s : State σ) : Move → Bool
  | .takeUp => s.queue.length = 1
  | _ => false

/-- How many poll intervals pass in a history, while the acquiring loop waits. -/
def elapsed (history : List Move) : Nat := history.countP Move.isElapse

/-- How often in a history a job is taken off the queue and none is left in it. -/
def emptyings (w : Config σ) : State σ → List Move → Nat
  | _, [] => 0
  | s, m :: history =>
    (s.isEmptiedBy m).toNat +
      match s.move? w m with
      | some (t, _) => emptyings w t history
      | none => 0

/-- Whether the acquiring loop has not asked for anything yet. -/
def Acquire.isStarting : Acquire → Bool
  | .starting => true
  | .activating _ | .waiting | .stopped => false

/-- The requests for jobs that a worker has reason to make at once. -/
def State.due (s : State σ) : Nat := s.pollNow.toNat + s.acquire.isStarting.toNat

/-- Going on to ask for jobs uses up what is due, unless it is the poll interval that has passed. -/
theorem Asks.due_succ_le {s : State σ} {m : Move} (h : Asks s m) :
    (s.heed m).pollNow.toNat + 1 ≤ s.due + m.isElapse.toNat := by
  cases h with
  | first hstart => simp [State.due, State.heed, hstart, Acquire.isStarting, Move.isElapse]
  | wake hwait hgiven => simp [State.due, State.heed, hgiven, Move.isElapse]
  | elapse hwait => simp [State.due, State.heed, Move.isElapse]

theorem due_eq {s s' : State σ} (hsignal : s'.pollNow = s.pollNow)
    (hacquire : s'.acquire = s.acquire) : s'.due = s.due := by
  rw [State.due, hsignal, hacquire, State.due]

theorem due_le {s s' : State σ} (hsignal : s'.pollNow = s.pollNow)
    (hacquire : s'.acquire.isStarting = false) : s'.due ≤ s.due := by
  rw [State.due, hsignal, hacquire, State.due]
  exact Nat.add_le_add_left (Nat.zero_le _) _

/-- Taking a job off the queue gives the signal if none is left. -/
theorem due_dequeued {s : State σ} {job : Job} {rest : List Job} (hqueue : s.queue = job :: rest) :
    (s.dequeued rest).due ≤ s.due + (s.isEmptiedBy .takeUp).toNat := by
  cases rest with
  | nil =>
      have hle := Bool.toNat_le (s.pollNow || true)
      simp only [State.due, State.dequeued, State.isEmptiedBy, hqueue, List.isEmpty_nil,
        List.length_singleton, decide_true, Bool.toNat_true]
      omega
  | cons next rest =>
      simp only [State.due, State.dequeued, List.isEmpty_cons, Bool.or_false]
      omega

/-- **A step spends credit when it makes a request**, and gets new credit only from the poll interval
or from a queue that it empties. -/
theorem Step.requests_le {s s' : State σ} {m : Move} {events : List Event}
    (h : Step w s m s' events) :
    (requests events).length + s'.due ≤ s.due + m.isElapse.toNat + (s.isEmptiedBy m).toNat := by
  -- most steps make no request, and then the credit must not grow
  have quiet : requests events = [] → s'.due ≤ s.due + (s.isEmptiedBy m).toNat →
      (requests events).length + s'.due ≤ s.due + m.isElapse.toNat + (s.isEmptiedBy m).toNat := by
    intro hrequests hdue
    rw [hrequests, List.length_nil]
    omega
  have haside := h.aside
  cases h with
  | ask hasks hopen hroom =>
      have hspent := hasks.due_succ_le
      have hdue : State.due { s.heed m with acquire := .activating (s.topUp w) }
          = (s.heed m).pollNow.toNat := rfl
      have hone : (requests [.call (.activate (s.topUp w))]).length = 1 := rfl
      omega
  | skip hasks hopen hfull =>
      have hspent := hasks.due_succ_le
      have hdue : State.due { s.heed m with acquire := .waiting } = (s.heed m).pollNow.toNat := rfl
      have hnone : (requests []).length = 0 := rfl
      omega
  | accept jobs hpending hopen => exact quiet (by simp) (Nat.le_add_right_of_le (due_le rfl rfl))
  | refuse error hpending hopen => exact quiet (by simp) (Nat.le_add_right_of_le (due_le rfl rfl))
  | stopAcquiring hrunning hclosed => exact quiet rfl (Nat.le_add_right_of_le (due_le rfl rfl))
  | takeUp hidle hqueue hopen h =>
      refine quiet (by simp [h.requests_eq_nil]) ?_
      rw [due_eq h.pollNow h.acquire]
      exact due_dequeued hqueue
  | _ =>
      -- the other moves are aside and leave the credit as it was
      have h := haside rfl
      exact quiet h.requests
        (Nat.le_add_right_of_le (Nat.le_of_eq (due_eq h.pollNow h.acquire)))

theorem elapsed_cons (m : Move) (history : List Move) :
    elapsed (m :: history) = m.isElapse.toNat + elapsed history := by
  cases hm : m.isElapse <;> simp [elapsed, hm, Nat.add_comm]

theorem emptyings_cons {s t : State σ} {m : Move} {events : List Event} (history : List Move)
    (hm : s.move? w m = some (t, events)) :
    emptyings w s (m :: history) = (s.isEmptiedBy m).toNat + emptyings w t history := by
  rw [emptyings, hm]

/-- What a history asks for, and what is due after it, has been due before it or has been brought in
by it. -/
theorem run?_requests_le {s₀ : State σ} (hb : Bounded w s₀) {history : List Move} {s : State σ}
    {events : List Event} (h : s₀.run? w history = some (s, events)) :
    (requests events).length + s.due ≤ s₀.due + elapsed history + emptyings w s₀ history := by
  induction history generalizing s₀ events with
  | nil =>
      cases h
      exact Nat.le_of_eq (Nat.zero_add _)
  | cons m history ih =>
      obtain ⟨t, first, rest, hm, hrest, rfl⟩ := run?_cons_eq_some_iff.mp h
      have hstep := step_of_move? hb hm
      have hfirst := hstep.requests_le
      have hafter := ih (hstep.bounded hb) hrest
      have hall : (requests (first ++ rest)).length
          = (requests first).length + (requests rest).length := by simp
      rw [elapsed_cons, emptyings_cons history hm, hall]
      omega

/-! ### A worker that takes nothing off its queue -/

theorem Step.isEmptiedBy_le {s s' : State σ} {m : Move} {events : List Event}
    (h : Step w s m s' events) : (s.isEmptiedBy m).toNat ≤ (handed events).length := by
  cases h with
  | takeUp hidle hqueue hopen h =>
      have hle := Bool.toNat_le (s.isEmptiedBy .takeUp)
      simp only [pick_cons, Event.handed?, Option.toList_some, List.length_append,
        List.length_singleton]
      omega
  | ask hasks hopen hroom => cases hasks <;> exact Nat.zero_le _
  | skip hasks hopen hfull => cases hasks <;> exact Nat.zero_le _
  | _ => exact Nat.zero_le _

theorem run?_emptyings_le {s₀ : State σ} (hb : Bounded w s₀) {history : List Move} {s : State σ}
    {events : List Event} (h : s₀.run? w history = some (s, events)) :
    emptyings w s₀ history ≤ (handed events).length := by
  induction history generalizing s₀ events with
  | nil => exact Nat.zero_le _
  | cons m history ih =>
      obtain ⟨t, first, rest, hm, hrest, rfl⟩ := run?_cons_eq_some_iff.mp h
      have hstep := step_of_move? hb hm
      have hfirst := hstep.isEmptiedBy_le
      have hafter := ih (hstep.bounded hb) hrest
      have hall : (handed (first ++ rest)).length
          = (handed first).length + (handed rest).length := by simp
      rw [emptyings_cons history hm, hall]
      omega

/-- Only a worker that has not asked yet has not made a request, and only one that has taken up a job
has been given the signal. -/
structure Founded (s : State σ) (events : List Event) : Prop where
  starting : s.acquire = .starting → requests events = []
  signal : s.pollNow = true → handed events ≠ []

theorem Founded.of_eq {s s' : State σ} {events more : List Event} (hf : Founded s events)
    (hrequests : s'.acquire = .starting → s.acquire = .starting ∧ requests more = [])
    (hsignal : s'.pollNow = true → s.pollNow = true) : Founded s' (events ++ more) := by
  refine ⟨?_, ?_⟩
  · intro hstart
    obtain ⟨hbefore, hnone⟩ := hrequests hstart
    simp [hf.starting hbefore, hnone]
  · intro hgiven
    simp [hf.signal (hsignal hgiven)]

theorem Step.founded {s s' : State σ} {m : Move} {events more : List Event}
    (h : Step w s m s' more) (hf : Founded s events) : Founded s' (events ++ more) := by
  have haside := h.aside
  cases h with
  | ask hasks hopen hroom => exact hf.of_eq (by simp) (by cases hasks <;> simp [State.heed])
  | skip hasks hopen hfull => exact hf.of_eq (by simp) (by cases hasks <;> simp [State.heed])
  | accept jobs hpending hopen => exact hf.of_eq (by simp) id
  | refuse error hpending hopen => exact hf.of_eq (by simp) id
  | stopAcquiring hrunning hclosed => exact hf.of_eq (by simp [State.stopAcquiring]) id
  | takeUp hidle hqueue hopen h =>
      refine ⟨?_, by simp⟩
      intro hstart
      rw [h.acquire] at hstart
      simp [hf.starting hstart, h.requests_eq_nil]
  | _ =>
      have h := haside rfl
      exact hf.of_eq (fun hstart => ⟨h.acquire ▸ hstart, h.requests⟩)
        (fun hgiven => h.pollNow ▸ hgiven)

theorem Reaches.founded {history : List Move} {s : State σ} {events : List Event}
    (h : Reaches w history s events) : Founded s events :=
  run_induction (bounded_start w) (motive := fun _ s events => Founded s events)
    ⟨fun _ => rfl, by simp [Config.start]⟩ (fun _ ih hstep => hstep.founded ih) h

/-- With a request made and no job taken up, nothing is due. -/
theorem Founded.due_eq_zero {s : State σ} {events : List Event} (hf : Founded s events)
    (hasked : requests events ≠ []) (hnone : handed events = []) : s.due = 0 := by
  have hsignal : s.pollNow = false := by
    cases hgiven : s.pollNow with
    | true => exact absurd hnone (hf.signal hgiven)
    | false => rfl
  have hacquire : s.acquire.isStarting = false := by
    cases hstart : s.acquire with
    | starting => exact absurd (hf.starting hstart) hasked
    | _ => rfl
  rw [State.due, hsignal, hacquire]
  rfl

/--
**Restraint.**  Of all the requests for jobs that a worker has made at most one is unanswered.  It
has made no more of them than poll intervals have passed while it waited and queues have run empty,
and one more.  And once it has asked for jobs, a worker that has never taken a job off its queue makes
no more requests than poll intervals pass, whatever the answers are.
-/
theorem restraint {history : List Move} {s : State σ} {events : List Event}
    (h : Reaches w history s events) :
    (requests events).length ≤ (grants events).length + 1 ∧
    (requests events).length ≤ 1 + elapsed history + emptyings w w.start history ∧
    ∀ (after : List Move) (s' : State σ) (more : List Event), s.run? w after = some (s', more) →
      requests events ≠ [] → handed (events ++ more) = [] →
        (requests more).length ≤ elapsed after := by
  refine ⟨?_, ?_, ?_⟩
  · have hle := Bool.toNat_le s.acquire.isOwed
    exact Nat.le_trans h.outstanding (Nat.add_le_add_left hle _)
  · have hall := run?_requests_le (bounded_start w) h
    have hdue : w.start.due = 1 := rfl
    omega
  · intro after s' more hafter hasked hnone
    simp only [pick_append, List.append_eq_nil_iff] at hnone
    have hspent := run?_requests_le h.bounded hafter
    have hdue := h.founded.due_eq_zero hasked hnone.1
    have hempty := run?_emptyings_le h.bounded hafter
    simp only [hnone.2, List.length_nil] at hempty
    omega

/-- An activation fails, the next one brings a job, and the queue runs empty; the one after that
fails as well, and so the worker waits. -/
def mostlyRefused : List Move :=
  [.first, .grant (.error refusal), .elapse, .grant (.ok [sampleJob 1]), .takeUp, .wake,
    .grant (.error refusal), .elapse]

/-- A worker that has been refused is refused again. -/
def refusedAgain : List Move := [.elapse, .grant (.error refusal), .elapse]

theorem restraint_mostlyRefused :
    (∃ s events, Reaches sample mostlyRefused s events ∧ (requests events).length = 4 ∧
      elapsed mostlyRefused = 2 ∧ emptyings sample sample.start mostlyRefused = 1 ∧
      (requests events).length ≤ (grants events).length + 1 ∧
      (requests events).length
        ≤ 1 + elapsed mostlyRefused + emptyings sample sample.start mostlyRefused) ∧
    ∃ s events s' more, Reaches sample [.first, .grant (.error refusal)] s events ∧
      s.run? sample refusedAgain = some (s', more) ∧ requests events ≠ [] ∧
      handed (events ++ more) = [] ∧ (requests more).length ≤ elapsed refusedAgain := by
  refine ⟨⟨_, _, rfl, rfl, rfl, rfl, ?_⟩, ?_⟩
  · have hall := restraint (show Reaches sample mostlyRefused _ _ from rfl)
    exact ⟨hall.1, hall.2.1⟩
  · have hall := restraint (show Reaches sample [.first, .grant (.error refusal)] _ _ from rfl)
    have hasked : requests [.call (.activate sample.request), .granted (.error refusal),
        .noticed (.activationFailed sample.name sample.jobType refusal)] ≠ [] := by simp
    exact ⟨_, _, _, _, rfl, rfl, hasked, rfl, hall.2.2 refusedAgain _ _ rfl hasked rfl⟩

end JobWorker.Worker
