/-
The queue is never too full.

The bound on the queue is an invariant of its own, kept by every step.  What it means is told here:
how much a worker holds at a time, what its requests look like, and that no job is dropped because
the queue is full.  The last is said twice, of the queue after a grant and of the log, since the
branch that drops a job shows in both.
-/
import JobWorker.Proofs.Worker.History
import JobWorker.Proofs.Worker.Record

namespace JobWorker.Worker

variable {σ : Type} {w : Config σ}

/-! ### What requests look like -/

/-- A step asks for jobs only to fill the queue. -/
theorem Step.asks_topUp {s s' : State σ} {m : Move} {events : List Event}
    {request : ActivateRequest} (h : Step w s m s' events) (hmem : request ∈ requests events) :
    request = s.topUp w ∧ s.room w ≠ 0 := by
  cases h with
  | ask hasks hopen hroom => exact ⟨by simpa using hmem, hroom⟩
  | takeUp hidle hqueue hopen h => simp [h.requests_eq_nil] at hmem
  | letGo hblocked h => simp [h.requests_eq_nil] at hmem
  | reply verdict hsending h => simp [h.requests_eq_nil] at hmem
  | _ => simp at hmem

/-- Of the jobs granted, the queue takes in as many as were asked for. -/
theorem Step.takes_granted {s s' : State σ} {m : Move} {events : List Event} {jobs : List Job}
    (h : Step w s m s' events) (hmem : .ok jobs ∈ grants events) :
    ∃ request, s.acquire = .activating request ∧
      s'.queue = s.queue ++ jobs.take request.maxJobs.toNat := by
  cases h with
  | @accept request granted hpending hopen =>
      have hsame : jobs = granted := by simpa using hmem
      exact ⟨request, hpending, by rw [hsame, Activation.accept]⟩
  | takeUp hidle hqueue hopen h => simp [h.grants_eq_nil] at hmem
  | letGo hblocked h => simp [h.grants_eq_nil] at hmem
  | reply verdict hsending h => simp [h.grants_eq_nil] at hmem
  | _ => simp at hmem

/-! ### No job is dropped -/

theorem Step.jobDropped_not_mem {s s' : State σ} {m : Move} {events : List Event}
    (h : Step w s m s' events) (key : JobKey) : .jobDropped key ∉ log events := by
  intro hmem
  cases m with
  | close way => cases h <;> simp at hmem
  | _ => exact absurd (h.ofWork (by simp) _ hmem) (by simp [Notice.ofWork])

theorem Reaches.jobDropped_not_mem {history : List Move} {s : State σ} {events : List Event}
    (h : Reaches w history s events) (key : JobKey) : .jobDropped key ∉ log events := by
  refine run_induction (bounded_start w)
    (motive := fun _ _ events => .jobDropped key ∉ log events) ?_ ?_ h
  · simp
  · intro history s s' events more m _ ih hstep
    simp only [pick_append, List.mem_append, not_or]
    exact ⟨ih, hstep.jobDropped_not_mem key⟩

/--
**Backpressure.**  Whatever has happened to a worker, its queue is within the capacity, and what it
holds altogether is at most one job more.  Whenever it asks for jobs, the request is the configured
one, but for exactly as many jobs as are missing in the queue, which is at least one.  Whenever jobs
are granted, the queue has room for all that are accepted, and takes them in; none is ever dropped
because the queue is full.
-/
theorem backpressure {history : List Move} {s : State σ} {events : List Event}
    (h : Reaches w history s events) :
    s.queue.length ≤ w.capacity ∧
    s.queue.length + s.execute.job?.toList.length ≤ w.capacity + 1 ∧
    (∀ (m : Move) (s' : State σ) (more : List Event), s.move? w m = some (s', more) →
      ∀ request ∈ requests more,
        request = { w.request with maxJobs := request.maxJobs } ∧
        request.maxJobs.toNat = w.capacity - s.queue.length ∧
        1 ≤ request.maxJobs.toNat ∧ request.maxJobs.toNat ≤ w.capacity) ∧
    (∀ (m : Move) (s' : State σ) (more : List Event), s.move? w m = some (s', more) →
      ∀ jobs, .ok jobs ∈ grants more →
        ∃ request, s.acquire = .activating request ∧
          s.queue.length + (jobs.take request.maxJobs.toNat).length ≤ w.capacity ∧
          s'.queue = s.queue ++ jobs.take request.maxJobs.toNat) ∧
    ∀ key, .jobDropped key ∉ log events := by
  have hb := h.bounded
  refine ⟨hb.queue, ?_, ?_, ?_, h.jobDropped_not_mem⟩
  · have hbusy : s.execute.job?.toList.length ≤ 1 := by
      cases s.execute.job? <;> simp
    have := hb.queue
    omega
  · intro m s' more hm request hmem
    obtain ⟨rfl, hroom⟩ := (step_of_move? hb hm).asks_topUp hmem
    rw [topUp_maxJobs]
    unfold State.room at hroom ⊢
    exact ⟨rfl, rfl, Nat.one_le_iff_ne_zero.mpr hroom, Nat.sub_le _ _⟩
  · intro m s' more hm jobs hmem
    obtain ⟨request, hpending, hqueue⟩ := (step_of_move? hb hm).takes_granted hmem
    have hfit := hb.pending request hpending
    have hlen : (jobs.take request.maxJobs.toNat).length ≤ request.maxJobs.toNat :=
      List.length_take_le _ _
    exact ⟨request, hpending, by omega, hqueue⟩

/-- Three jobs are granted where two were asked for, and one more is asked for with one at work. -/
def overgranted : List Move :=
  [.first, .grant (.ok [sampleJob 1, sampleJob 2, sampleJob 3]), .takeUp, .elapse]

theorem backpressure_overgranted :
    ∃ s events, Reaches sample overgranted s events ∧
      s.queue = [sampleJob 2] ∧ s.execute.job? = some (sampleJob 1) ∧
      s.acquire = .activating (sample.request.withMaxJobs 1) ∧
      s.queue.length ≤ sample.capacity ∧
      s.queue.length + s.execute.job?.toList.length ≤ sample.capacity + 1 ∧
      ∀ key, .jobDropped key ∉ log events := by
  refine ⟨_, _, rfl, rfl, rfl, rfl, ?_⟩
  have hall := backpressure (show Reaches sample overgranted _ _ from rfl)
  exact ⟨hall.1, hall.2.1, hall.2.2.2.2⟩

end JobWorker.Worker
