/-
The worker that runs plays by the moves.

In a history the acts of the loops, the gateway and the clock come in any order.  A worker that runs
on its own takes them in one fixed order and asks its gateway for the answers.  Every turn that it
takes is a history all the same, with the same states and the same events.  So the worker of a
session is always in a state that some history leads to, and what is shown of all histories is shown
of it.
-/
import JobWorker.Proofs.Session.Run
import JobWorker.Proofs.Worker.History
import JobWorker.Proofs.Worker.Turn

namespace JobWorker

namespace Worker

variable {γ σ : Type} [Gateway γ] {w : Config σ}

/-- Some history leads from one state to another and shows these events. -/
def Plays (w : Config σ) (s s' : State σ) (events : List Event) : Prop :=
  ∃ history, s.run? w history = some (s', events)

theorem Plays.refl (w : Config σ) (s : State σ) : Plays w s s [] := ⟨[], rfl⟩

theorem Plays.single {s s' : State σ} {m : Move} {events : List Event}
    (h : s.move? w m = some (s', events)) : Plays w s s' events :=
  ⟨[m], run?_singleton.mpr h⟩

theorem Plays.trans {s t u : State σ} {events more : List Event} (h : Plays w s t events)
    (hmore : Plays w t u more) : Plays w s u (events ++ more) := by
  obtain ⟨before, hbefore⟩ := h
  obtain ⟨after, hafter⟩ := hmore
  exact ⟨before ++ after, run?_append_eq_some_iff.mpr ⟨t, events, more, hbefore, hafter, rfl⟩⟩

/-! ### From the first point where a handler waits to the last -/

/-- It does not matter where the executing loop stood, for the handler moves it on. -/
theorem proceed_execute (w : Config σ) (job : Job) (s : State σ) (execute : Execute σ)
    (activity : Activity σ) :
    State.proceed w job { s with execute } activity = s.proceed w job activity := by
  induction activity with
  | done memory outcome =>
      rw [State.proceed, State.finish, State.proceed, State.finish]
  | await next _ => rfl
  | send command next _ => rfl
  | say remark next ih => simp only [State.proceed, ih]

theorem move?_following {s : State σ} {job : Job} {command : Command}
    (hfollowing : s.execute = .following job command) (verdict : Verdict) :
    s.move? w (.verdict verdict) = some (s.answered w verdict) := by
  simp [State.move?, hfollowing]

theorem World.finish_plays (w : Config σ) (job : Job) (memory : σ) (outcome : Outcome)
    (x : World γ σ) :
    ∃ more, Plays w (x.state.finish w job memory outcome).1 (x.finish w job memory outcome).1.state
        more ∧
      (x.finish w job memory outcome).2 = (x.state.finish w job memory outcome).2 ++ more := by
  unfold World.finish
  simp only
  split
  · rename_i job' command hfollowing
    exact ⟨_, Plays.single (move?_following hfollowing _), rfl⟩
  · exact ⟨[], Plays.refl w _, (List.append_nil _).symm⟩

/-- What the worker that runs does with a job begins with the stretch to the first point where the
handler waits, and the rest is a history from there. -/
theorem World.proceed_plays (w : Config σ) (job : Job) (activity : Activity σ) :
    ∀ x : World γ σ,
      ∃ more, Plays w (x.state.proceed w job activity).1 (World.proceed w job activity x).1.state
          more ∧
        (World.proceed w job activity x).2 = (x.state.proceed w job activity).2 ++ more := by
  induction activity with
  | done memory outcome => exact World.finish_plays w job memory outcome
  | await next ih =>
      rintro ⟨gateway, s, permits⟩
      cases permits with
      | zero => exact ⟨[], Plays.refl w _, rfl⟩
      | succ permits =>
          -- a permit is at hand, so the handler waits only to be let go at once
          obtain ⟨more, hplays, hevents⟩ := ih ⟨gateway, s, permits⟩
          have hmove : State.move? w { s with execute := .blocked job next } .letGo
              = some (s.proceed w job next) := by
            simp only [State.move?]
            rw [proceed_execute]
          exact ⟨_, (Plays.single hmove).trans hplays, hevents⟩
  | send command next ih =>
      rintro ⟨gateway, s, permits⟩
      let verdict := (Gateway.perform gateway command).2
      let answer := command.receiptFor verdict
      obtain ⟨more, hplays, hevents⟩ := ih answer ⟨(Gateway.perform gateway command).1, s, permits⟩
      have hmove : State.move? w { s with execute := .sending job command next } (.verdict verdict)
          = some ((s.proceed w job (next answer)).1,
              .answered command verdict :: (s.proceed w job (next answer)).2) := by
        simp only [State.move?, State.answered]
        rw [proceed_execute]
      refine ⟨_, (Plays.single hmove).trans hplays, ?_⟩
      simp [World.proceed, Command.send, State.proceed, hevents, answer, verdict]
  | say remark next ih =>
      intro x
      obtain ⟨more, hplays, hevents⟩ := ih x
      refine ⟨more, hplays, ?_⟩
      simp only [World.proceed, State.proceed, hevents, List.cons_append]

/-! ### One turn -/

section

variable {x : World γ σ}

theorem World.takeUp_plays {job : Job} {rest : List Job} (hidle : x.state.execute = .idle)
    (hqueue : x.state.queue = job :: rest) (hopen : x.state.closed = false) :
    Plays w x.state (x.takeUp w job rest).1.state (x.takeUp w job rest).2 := by
  obtain ⟨more, hplays, hevents⟩ := World.proceed_plays w job (w.handler.start x.state.memory job)
    { x with state := x.state.dequeued rest }
  have hmove : x.state.move? w .takeUp = some (x.state.takeUp w job rest) := by
    simp [State.move?, hidle, hqueue, hopen]
  unfold World.takeUp
  simp only
  rw [hevents]
  exact (Plays.single hmove).trans hplays

/-- A request that is made in some move is answered in the next, if it is answered. -/
theorem World.poll_plays {s : State σ} {m : Move} (hopen : x.state.closed = false)
    (hmove : s.move? w m = some (x.state.poll w)) :
    Plays w s (x.poll w).1.state (x.poll w).2 := by
  have hsame : (x.state.poll w).1.closed = false := by
    unfold State.poll
    split <;> exact hopen
  cases hresult : x.state.poll w with
  | mk t events =>
      rw [hresult] at hmove hsame
      simp only [World.poll, hresult]
      split
      · rename_i request hpending
        split
        · rename_i gateway answer _
          refine (Plays.single hmove).trans (.single (m := .grant answer) ?_)
          have htaken : t.closed = false := hsame
          simp [State.move?, hpending, htaken]
        · exact .single hmove
      · exact .single hmove

theorem World.move_plays {x' : World γ σ} {events : List Event}
    (h : x.move w = some (x', events)) : Plays w x.state x'.state events := by
  cases turn_of_move h with
  | stopExecuting hidle hclosed =>
      exact .single (m := .stopExecuting) (by simp [State.move?, hidle, hclosed])
  | takeUp hidle hopen hqueue => exact World.takeUp_plays hidle hqueue hopen
  | @letGo job next hblocked _ =>
      obtain ⟨more, hplays, hevents⟩ := World.proceed_plays w job (.await next) x
      rw [State.proceed, ← hblocked] at hplays
      rw [hevents]
      exact hplays
  | stopAcquiring hrunning hclosed =>
      refine .single (m := .stopAcquiring) ?_
      cases hacquire : x.state.acquire with
      | stopped => exact absurd hacquire hrunning
      | _ => simp [State.move?, hacquire, hclosed]
  | first hstart hopen =>
      exact World.poll_plays (m := .first) hopen (by simp [State.move?, hstart, hopen])
  | wake hwait hopen hsignal =>
      exact World.poll_plays (m := .wake)
        (x := { x with state := { x.state with pollNow := false } }) hopen
        (by simp [State.move?, hwait, hopen, hsignal])

end

/-! ### Many turns -/

theorem World.settle_plays (w : Config σ) :
    ∀ (fuel : Nat) (x : World γ σ),
      Plays w x.state (x.settle w fuel).1.state (x.settle w fuel).2 := by
  intro fuel
  induction fuel with
  | zero => intro x; exact .refl w x.state
  | succ fuel ih =>
      intro x
      unfold World.settle
      split
      · exact .refl w x.state
      · rename_i x' events hmove
        exact (World.move_plays hmove).trans (ih x')

theorem World.elapse_plays (w : Config σ) (x : World γ σ) :
    Plays w x.state (x.elapse w).1.state (x.elapse w).2 := by
  unfold World.elapse
  split
  · rename_i hwait
    split
    · exact .refl w x.state
    · rename_i hopen
      exact World.poll_plays (m := .elapse) (by simpa using hopen)
        (by simp [State.move?, hwait, hopen])
  · exact .refl w x.state

end Worker

/-! ### Sessions -/

namespace Session

open Worker

variable {σ : Type} {s : Session σ}

theorem kept_reaches :
    Kept fun (w : Config σ) (s : State σ) => ∃ history events, Reaches w history s events := by
  have hplays : ∀ {w : Config σ} {s s' : State σ} {more : List Event}, Plays w s s' more →
      (∃ history events, Reaches w history s events) →
        ∃ history events, Reaches w history s' events := by
    rintro w s s' more ⟨after, hafter⟩ ⟨before, events, hbefore⟩
    exact ⟨before ++ after, events ++ more,
      run?_append_eq_some_iff.mpr ⟨s, events, more, hbefore, hafter, rfl⟩⟩
  exact {
    start := fun w => ⟨[], [], rfl⟩
    close := fun w s => hplays (.single (m := .close .asked) rfl)
    settle := fun w fuel x => hplays (World.settle_plays w fuel x)
    elapse := fun w x => hplays (World.elapse_plays w x) }

/-- **Every session keeps its worker among the states that histories lead to**, whatever is done in
it and in whatever order. -/
theorem Reachable.reaches (h : s.Reachable) {o : Opened σ} (ho : s.worker = some o) :
    ∃ history events, Worker.Reaches o.config history o.state events :=
  h.ofWorker kept_reaches o ho

end Session

end JobWorker
