/-
A worker comes to rest by itself.

Without time passing, a worker has only so much to do.  Each move takes a job off the queue, or asks
for jobs because of a signal, or lets a handler go on, or begins or ends a loop.  The signal is given
at most once for each job that is taken up, which is why a job counts twice in `rank`.  Jobs that are
granted leave the script when they enter the queue and cost nothing there.  So every move lowers the
rank, whatever the handler does and however the gateway answers; a worker that may make as many moves
as its rank says is at rest at the end.
-/
import JobWorker.Session
import JobWorker.Proofs.Worker.Deeds
import JobWorker.Proofs.Worker.Turn

namespace JobWorker.Worker

variable {σ : Type} {w : Config σ}

/-! ### What is left to do -/

/-- How many moves the acquiring loop can make without a signal. -/
def Acquire.rank : Acquire → Nat
  | .starting => 2
  | .activating _ | .waiting => 1
  | .stopped => 0

/-- How many moves the executing loop can make without a job, with so many permits. -/
def Execute.rank (permits : Nat) : Execute σ → Nat
  | .blocked .. => 1 + min permits 1
  | .idle => 1
  | .sending .. | .following .. | .stopped => 0

/-- How many moves a worker can make at most before it rests. -/
def World.rank (x : World Scripted σ) : Nat :=
  2 * (x.gateway.pending.length + x.state.queue.length) + x.state.pollNow.toNat +
    x.state.acquire.rank + x.state.execute.rank x.permits

theorem World.rank_le_fuel (x : World Scripted σ) : x.rank ≤ Session.fuel x := by
  have hsignal : x.state.pollNow.toNat ≤ 1 := x.state.pollNow.toNat_le
  have hacquire : x.state.acquire.rank ≤ 2 := by
    cases x.state.acquire <;> simp [Acquire.rank]
  have hexecute : x.state.execute.rank x.permits ≤ 2 := by
    cases x.state.execute with
    | blocked job next =>
        simp only [Execute.rank]
        omega
    | _ => simp [Execute.rank]
  unfold World.rank Session.fuel
  omega

/-! ### Handling jobs -/

/-- The executing loop has been carried on as far as it goes: it waits for a job, or for a permit
that is not there.  Nothing else of the worker has changed. -/
structure Waits (x y : World Scripted σ) : Prop where
  gateway : x.gateway.Hears y.gateway
  state : ∃ memory execute, y.state = { x.state with memory, execute }
  execute : y.state.execute.rank y.permits = 1

theorem finish_waits (w : Config σ) (job : Job) (memory : σ) (outcome : Outcome)
    (x : World Scripted σ) : Waits x (x.finish w job memory outcome).1 := by
  unfold World.finish State.finish
  cases w.followUp job outcome.result with
  | none => exact ⟨.refl _, ⟨_, _, rfl⟩, rfl⟩
  | some command => exact ⟨.record _ _, ⟨_, _, rfl⟩, rfl⟩

theorem proceed_waits (w : Config σ) (job : Job) (activity : Activity σ) :
    ∀ x : World Scripted σ, Waits x (World.proceed w job activity x).1 := by
  induction activity with
  | done memory outcome => exact finish_waits w job memory outcome
  | await next ih =>
      rintro ⟨gateway, s, permits⟩
      cases permits with
      | zero => exact ⟨.refl _, ⟨_, _, rfl⟩, rfl⟩
      | succ permits =>
          have h := ih ⟨gateway, s, permits⟩
          exact ⟨h.gateway, h.state, h.execute⟩
  | send command next ih =>
      intro x
      have h := ih (command.receiptFor (x.gateway.verdict command))
        { x with gateway := x.gateway.record (.command command) }
      exact ⟨(Scripted.Hears.record _ _).trans h.gateway, h.state, h.execute⟩
  | say remark next ih => exact ih

/-! ### Asking for jobs -/

section

variable {x : World Scripted σ}

theorem poll_of_full (hfull : x.state.room w = 0) :
    x.poll w = ({ x with state := { x.state with acquire := .waiting } }, []) := by
  simp [World.poll, State.poll, hfull]

theorem poll_of_holding (hroom : x.state.room w ≠ 0) (hholding : x.gateway.holding = true) :
    x.poll w = ({ x with
      gateway := x.gateway.record (.activate (x.state.topUp w))
      state := { x.state with acquire := .activating (x.state.topUp w) } },
      [.call (.activate (x.state.topUp w))]) := by
  simp [World.poll, State.poll, hroom, Scripted.activate_of_holding hholding]

theorem poll_of_answering (hroom : x.state.room w ≠ 0) (hholding : x.gateway.holding = false) :
    x.poll w =
      let request := x.state.topUp w
      let granted := Scripted.grant x.gateway.overGranting request.maxJobs x.gateway.script
      let received :=
        State.receive w request granted.2 { x.state with acquire := .activating request }
      ({ x with
          gateway := { x.gateway.record (.activate request) with script := granted.1 }
          state := received.1 },
        .call (.activate request) :: received.2) := by
  simp [World.poll, State.poll, hroom, Scripted.activate_of_answering hholding]

end

/-- No more jobs enter the queue than are offered. -/
theorem enqueueAll_le (jobs : List Job) (s : State σ) :
    ∃ queue, (s.enqueueAll w jobs).1 = { s with queue } ∧
      queue.length ≤ s.queue.length + jobs.length := by
  induction jobs generalizing s with
  | nil => exact ⟨s.queue, rfl, Nat.le_refl _⟩
  | cons job jobs ih =>
      rw [State.enqueueAll, State.enqueue, List.length_cons]
      by_cases hfull : s.room w = 0
      · rw [if_pos hfull]
        obtain ⟨queue, hqueue, hlen⟩ := ih s
        exact ⟨queue, hqueue, by omega⟩
      · rw [if_neg hfull]
        obtain ⟨queue, hqueue, hlen⟩ := ih { s with queue := s.queue ++ [job] }
        rw [List.length_append, List.length_singleton] at hlen
        exact ⟨queue, hqueue, by omega⟩

theorem receive_le (request : ActivateRequest) (answer : Grant) (s : State σ) :
    ∃ queue, (s.receive w request answer).1 = { s with queue, acquire := .waiting } ∧
      queue.length ≤ s.queue.length + (answer.toOption.getD []).length := by
  cases answer with
  | error e => exact ⟨s.queue, rfl, Nat.le_add_right _ _⟩
  | ok jobs =>
      obtain ⟨queue, hqueue, hlen⟩ := enqueueAll_le (w := w) (Activation.accept request jobs)
        { s with acquire := .waiting }
      have haccept : (Activation.accept request jobs).length ≤ jobs.length :=
        List.length_take_le' _ _
      exact ⟨queue, hqueue, Nat.le_trans hlen (Nat.add_le_add_left haccept _)⟩

/-- What enters the queue has left the script. -/
theorem poll_le (w : Config σ) (x : World Scripted σ) :
    ∃ queue acquire, (x.poll w).1.state = { x.state with queue, acquire } ∧ acquire.rank = 1 ∧
      (x.poll w).1.permits = x.permits ∧
      (x.poll w).1.gateway.pending.length + queue.length
        ≤ x.gateway.pending.length + x.state.queue.length := by
  by_cases hfull : x.state.room w = 0
  · rw [poll_of_full hfull]
    exact ⟨x.state.queue, .waiting, rfl, rfl, rfl, Nat.le_refl _⟩
  · cases hholding : x.gateway.holding with
    | true =>
        rw [poll_of_holding hfull hholding]
        exact ⟨x.state.queue, .activating (x.state.topUp w), rfl, rfl, rfl, Nat.le_refl _⟩
    | false =>
        rw [poll_of_answering hfull hholding]
        obtain ⟨queue, hqueue, hlen⟩ := receive_le (w := w) (x.state.topUp w)
          (Scripted.grant x.gateway.overGranting (x.state.topUp w).maxJobs x.gateway.script).2
          { x.state with acquire := .activating (x.state.topUp w) }
        have hsplit := congrArg List.length (Scripted.take_append_pending x.gateway.overGranting
          (x.state.topUp w).maxJobs x.gateway.script)
        rw [List.length_append] at hsplit
        refine ⟨queue, .waiting, hqueue, rfl, rfl, ?_⟩
        simp only [Scripted.pending] at hlen ⊢
        omega

/-! ### Every move counts -/

/-- Asking for jobs takes no rank. -/
theorem rank_poll_le (x : World Scripted σ) :
    (x.poll w).1.rank + x.state.acquire.rank ≤ x.rank + 1 := by
  obtain ⟨queue, acquire, hstate, hrank, hpermits, hlen⟩ := poll_le w x
  simp only [World.rank, hstate, hrank, hpermits]
  omega

theorem Waits.rank_eq {x y : World Scripted σ} (h : Waits x y) :
    y.rank + x.state.execute.rank x.permits = x.rank + 1 := by
  obtain ⟨memory, execute, hstate⟩ := h.state
  have hexecute : execute.rank y.permits = 1 := by simpa [hstate] using h.execute
  simp only [World.rank, h.gateway.pending, hstate, hexecute]
  omega

/-- Every move lowers the rank. -/
theorem rank_move_lt {x y : World Scripted σ} {events : List Event}
    (h : x.move w = some (y, events)) : y.rank < x.rank := by
  cases turn_of_move h with
  | stopExecuting hidle _ => simp [World.rank, hidle, State.stopExecuting, Execute.rank]
  | @takeUp job rest hidle _ hqueue =>
      have hwaits := (proceed_waits w job (w.handler.start x.state.memory job)
        { x with state := x.state.dequeued rest }).rank_eq
      -- the signal may be given, but the job is gone, and it counts twice
      have hsignal : (x.state.pollNow || rest.isEmpty).toNat ≤ 1 := Bool.toNat_le _
      simp only [World.takeUp, World.rank, State.dequeued, hidle, hqueue, Execute.rank,
        List.length_cons] at hwaits ⊢
      omega
  | @letGo job next hblocked hpermits =>
      have hwaits := (proceed_waits w job (.await next) x).rank_eq
      simp only [hblocked, Execute.rank] at hwaits
      omega
  | stopAcquiring hrunning _ =>
      cases hacquire : x.state.acquire with
      | stopped => exact absurd hacquire hrunning
      | _ => simp [World.rank, hacquire, State.stopAcquiring, Acquire.rank]
  | first hstart _ =>
      have hpoll := rank_poll_le (w := w) x
      simp only [hstart, Acquire.rank] at hpoll
      omega
  | wake hwait _ hsignal =>
      have hpoll := rank_poll_le (w := w) { x with state := { x.state with pollNow := false } }
      simp only [World.rank, hwait, hsignal, Acquire.rank, Bool.toNat_false, Bool.toNat_true]
        at hpoll ⊢
      omega

/-- **A worker comes to rest** if it may make as many moves as its rank says. -/
theorem move_settle_eq_none {fuel : Nat} {x : World Scripted σ} (hfuel : x.rank ≤ fuel) :
    (x.settle w fuel).1.move w = none := by
  induction fuel generalizing x with
  | zero =>
      cases hmove : x.move w with
      | none => exact hmove
      | some moved =>
          have hlt := rank_move_lt hmove
          omega
  | succ fuel ih =>
      rw [World.settle]
      cases hmove : x.move w with
      | none => exact hmove
      | some moved =>
          have hlt := rank_move_lt hmove
          exact ih (by omega)

/-! ### Moves one after the other -/

/-- Some moves lead from one world to another and show these events. -/
inductive Leads (w : Config σ) : World Scripted σ → World Scripted σ → List Event → Prop
  | stay (x : World Scripted σ) : Leads w x x []
  | move {x y z : World Scripted σ} {events more : List Event}
      (hmove : x.move w = some (y, events)) (hrest : Leads w y z more) :
      Leads w x z (events ++ more)

theorem Leads.trans {x y z : World Scripted σ} {events more : List Event}
    (h : Leads w x y events) (hmore : Leads w y z more) : Leads w x z (events ++ more) := by
  induction h with
  | stay => exact hmore
  | move hmove _ ih =>
      rw [List.append_assoc]
      exact .move hmove (ih hmore)

/-- A worker settles where some moves lead to rest. -/
theorem Leads.settle {x y : World Scripted σ} {events : List Event} (h : Leads w x y events)
    (hrest : y.move w = none) {fuel : Nat} (hfuel : x.rank ≤ fuel) :
    x.settle w fuel = (y, events) := by
  induction h generalizing fuel with
  | stay x =>
      cases fuel with
      | zero => rfl
      | succ fuel => simp [World.settle, hrest]
  | move hmove _ ih =>
      have hlt := rank_move_lt hmove
      obtain ⟨fuel, rfl⟩ : ∃ m, fuel = m + 1 := ⟨fuel - 1, by omega⟩
      have hsettle := ih hrest (show _ ≤ fuel by omega)
      simp [World.settle, hmove, hsettle]

end JobWorker.Worker
