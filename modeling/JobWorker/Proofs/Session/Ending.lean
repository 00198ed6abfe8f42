/-
A worker that is closed comes to its end.

Closing a worker at rest leaves it with little to do: a loop that waits for jobs, for the signal or
for an answer ends, and a handler that waits for a permit keeps waiting, with the loop around it.  So
the state that such a worker settles in can be written down at once (`wound`).  Nothing is shown on
the way there, and the gateway is left alone.
-/
import JobWorker.Proofs.Session.Rest

namespace JobWorker

namespace Worker

variable {σ : Type} {w : Config σ}

/-- The state in which all has ended that a closed worker can end. -/
def State.wound (s : State σ) : State σ :=
  { s with
    acquire := .stopped
    execute := match s.execute with
      | .idle => .stopped
      | execute => execute }

/-- A worker that can only end: it is closed, and no handler that waits can go on. -/
structure Ending (x : World Scripted σ) : Prop where
  closed : x.state.closed = true
  stuck : ∀ job next, x.state.execute = .blocked job next → x.permits = 0

theorem closed_close (w : Config σ) (s : State σ) : (s.close w).1 = { s with closed := true } := by
  unfold State.close
  split
  · rename_i hclosed
    rw [← hclosed]
  · rfl

/-- A worker at rest is such a worker once it has been closed. -/
theorem Ending.of_rest {x : World Scripted σ} (h : x.move w = none) :
    Ending { x with state := (x.state.close w).1 } := by
  rw [World.move, Option.or_eq_none_iff] at h
  rw [closed_close]
  refine ⟨rfl, fun job next hblocked => ?_⟩
  simpa [World.execute, show x.state.execute = .blocked job next from hblocked] using h.1

/-- It ends the loop that executes jobs, if that waits for one. -/
theorem Ending.leads_execute {x : World Scripted σ} (h : Ending x) :
    Leads w x { x with state := { x.state with execute := x.state.wound.execute } } [] := by
  cases hexecute : x.state.execute with
  | idle =>
      have hmove : x.move w = some ({ x with state := x.state.stopExecuting }, []) := by
        simp [World.move, World.execute, hexecute, h.closed]
      simpa [State.wound, hexecute, State.stopExecuting] using Leads.move hmove (.stay _)
  | _ =>
      have hsame : x.state.wound.execute = x.state.execute := by simp [State.wound, hexecute]
      rw [hsame]
      exact .stay x

/-- Then it ends the other loop. -/
theorem Ending.leads_acquire {x : World Scripted σ} (h : Ending x)
    (hexecute : x.state.execute ≠ .idle) :
    Leads w x { x with state := { x.state with acquire := .stopped } } [] := by
  have hstill : x.execute w = none := by
    unfold World.execute
    split
    · rename_i hidle
      exact absurd hidle hexecute
    · rename_i job next hblocked
      rw [if_pos (h.stuck job next hblocked)]
    · rfl
  by_cases hstopped : x.state.acquire = .stopped
  · have hsame : { x with state := { x.state with acquire := .stopped } } = x := by
      rw [← hstopped]
    rw [hsame]
    exact .stay x
  · have hmove : x.move w = some ({ x with state := x.state.stopAcquiring }, []) := by
      rw [World.move, hstill]
      cases hacquire : x.state.acquire with
      | stopped => exact absurd hacquire hstopped
      | _ => simp [World.acquire, hacquire, h.closed]
    exact Leads.move hmove (.stay _)

theorem State.wound_execute_ne_idle (s : State σ) : s.wound.execute ≠ .idle := by
  unfold State.wound
  cases s.execute <;> simp

theorem Ending.leads {x : World Scripted σ} (h : Ending x) :
    Leads w x { x with state := x.state.wound } [] := by
  have hfirst := h.leads_execute (w := w)
  have hending : Ending { x with state := { x.state with execute := x.state.wound.execute } } := by
    refine ⟨h.closed, fun job next hblocked => h.stuck job next ?_⟩
    revert hblocked
    cases hexecute : x.state.execute <;> simp [State.wound, hexecute]
  have hsecond := hending.leads_acquire (w := w) x.state.wound_execute_ne_idle
  exact hfirst.trans hsecond

theorem Ending.wound_rests {x : World Scripted σ} (h : Ending x) :
    World.move w { x with state := x.state.wound } = none := by
  have hexecute : World.execute w { x with state := x.state.wound } = none := by
    cases he : x.state.execute with
    | blocked job next => simp [World.execute, State.wound, he, h.stuck job next he]
    | _ => simp [World.execute, State.wound, he]
  rw [World.move, hexecute]
  simp [World.acquire, State.wound]

end Worker

namespace Session

open Worker

variable {σ : Type} {s : Session σ}

/-- Closing the worker of a session at rest winds it up, and shows nothing but that it is closed. -/
theorem closeWorker_settle (h : s.Rests) {o : Opened σ} (ho : s.worker = some o) :
    s.closeWorker.2 = (o.state.close o.config).2 ∧
      s.closeWorker.1.settle =
        ({ s with worker := some { o with state := (o.state.close o.config).1.wound } }, []) := by
  let closed : Opened σ := { o with state := (o.state.close o.config).1 }
  have hclose : s.closeWorker = ({ s with worker := some closed }, (o.state.close o.config).2) := by
    simp [Session.closeWorker, Session.onWorker, ho, closed]
  have hending : Ending (s.world closed) := .of_rest (h o ho)
  rw [hclose]
  exact ⟨rfl, settle_of_leads (s := { s with worker := some closed }) rfl hending.leads
    hending.wound_rests⟩

end Session

end JobWorker
