/-
The first request of a worker.

A worker asks for jobs to fill its queue, and until it has asked there are none in it.  So the first thing
that it asks for is as many jobs as the queue can hold, and that is the request it was set up with.
`FirstAsked` is what every step keeps: before that request the loop that acquires jobs stands where it
started, unless the worker is closed.
-/
import JobWorker.Proofs.Worker.History
import JobWorker.Proofs.Worker.Record

namespace JobWorker.Worker

variable {σ : Type} {w : Config σ} {s s' : State σ}

/-- With nothing in the queue, a worker makes the request that it was set up with. -/
theorem topUp_eq_request (hqueue : s.queue = []) : s.topUp w = w.request := by
  have hmax : UInt32.ofNat (s.room w) = w.request.maxJobs := by
    rw [State.room, hqueue, List.length_nil, Nat.sub_zero, Config.capacity, UInt32.ofNat_toNat]
  rw [State.topUp, hmax]
  rfl

theorem room_ne_zero (hqueue : s.queue = []) : s.room w ≠ 0 := by
  have := w.capacity_pos
  rw [State.room, hqueue, List.length_nil, Nat.sub_zero]
  unfold Config.capacity
  omega

/-- Either a worker has asked, and at first for what it was set up with, or it has no jobs and is yet to
ask unless it is closed. -/
inductive FirstAsked (w : Config σ) (s : State σ) (events : List Event) : Prop
  | notYet (hnone : requests events = []) (hqueue : s.queue = [])
      (hacquire : s.acquire = .starting ∨ s.acquire = .stopped ∧ s.closed = true)
  | asked {rest : List ActivateRequest} (hfirst : requests events = w.request :: rest)

variable {m : Move} {events more : List Event}

theorem requests_append_of_nil (hnone : requests events = []) :
    requests (events ++ more) = requests more := by
  simp only [pick_append, show pick Event.request? events = [] from hnone, List.nil_append]

/-- The first request stays the first, whatever happens. -/
theorem firstAsked_append {rest : List ActivateRequest} (hfirst : requests events = w.request :: rest) :
    FirstAsked w s (events ++ more) :=
  .asked ((pick_append events more).trans (congrArg (· ++ requests more) hfirst))

/-- What asks for nothing and leaves the loop that acquires jobs alone keeps this. -/
theorem FirstAsked.stay (h : FirstAsked w s events) (hmore : requests more = [])
    (hqueue : s'.queue = s.queue) (hacquire : s'.acquire = s.acquire)
    (hclosed : s.closed = true → s'.closed = true) : FirstAsked w s' (events ++ more) := by
  cases h with
  | asked hfirst => exact firstAsked_append hfirst
  | notYet hnone hnothing hstart =>
      refine .notYet ((requests_append_of_nil hnone).trans hmore) (hqueue.trans hnothing) ?_
      rw [hacquire]
      exact hstart.imp id (And.imp id hclosed)

theorem Step.firstAsked (h : Step w s m s' more) (hs : FirstAsked w s events) :
    FirstAsked w s' (events ++ more) := by
  cases hs with
  | asked hfirst => exact firstAsked_append hfirst
  | notYet hnone hqueue hacquire =>
      have hs : FirstAsked w s events := .notYet hnone hqueue hacquire
      -- Without jobs in the queue, all that can happen is asking, being closed and stopping.
      cases h with
      | ask hasks hopen hroom =>
          have hmore : requests [.call (.activate (s.topUp w))] = [w.request] := by
            rw [topUp_eq_request hqueue]
            rfl
          exact .asked ((requests_append_of_nil hnone).trans hmore)
      | skip hasks hopen hfull => exact absurd hfull (room_ne_zero hqueue)
      | accept jobs hpending hopen => simp [hpending] at hacquire
      | refuse error hpending hopen => simp [hpending] at hacquire
      | stopAcquiring hrunning hclosed =>
          exact .notYet ((requests_append_of_nil hnone).trans rfl) hqueue (.inr ⟨rfl, hclosed⟩)
      | takeUp hidle hjobs hopen h =>
          rw [hqueue] at hjobs
          cases hjobs
      | letGo hblocked h =>
          exact hs.stay h.requests_eq_nil h.queue h.acquire fun hclosed => h.closed.trans hclosed
      | reply verdict hsending h =>
          exact hs.stay h.requests_eq_nil h.queue h.acquire fun hclosed => h.closed.trans hclosed
      | settle verdict hfollowing => exact hs.stay (by simp) rfl rfl id
      | stopExecuting hidle hclosed => exact hs.stay rfl rfl rfl id
      | close way hopen => exact hs.stay rfl rfl rfl fun _ => rfl
      | closeAgain way hclosed => exact hs.stay rfl rfl rfl id

theorem Reaches.firstAsked {history : List Move} (h : Reaches w history s events) :
    FirstAsked w s events := by
  refine run_induction (bounded_start w) (motive := fun _ s events => FirstAsked w s events) ?_ ?_ h
  · exact .notYet rfl rfl (.inl rfl)
  · intro history s s' events more m _ hs hstep
    exact hstep.firstAsked hs

/-- A worker that is open and has not asked yet can ask at any time. -/
theorem FirstAsked.move?_first (h : FirstAsked w s events) (hnone : requests events = [])
    (hopen : s.closed = false) :
    ∃ s', s.move? w .first = some (s', [.call (.activate w.request)]) := by
  cases h with
  | asked hfirst =>
      rw [hnone] at hfirst
      cases hfirst
  | notYet _ hqueue hacquire =>
      have hstart : s.acquire = .starting := by simpa [hopen] using hacquire
      refine ⟨{ s with acquire := .activating w.request }, ?_⟩
      simp [State.move?, hstart, hopen, State.poll, room_ne_zero hqueue, topUp_eq_request hqueue]

end JobWorker.Worker
