/-
A session is at rest after every step.

A session lets its worker make a number of moves that is fixed before the first of them is made.  The
number is large enough: it is at least the rank of the worker, whatever has been done in the session,
and a worker that may make so many moves comes to rest.
-/
import JobWorker.Proofs.Session.Run
import JobWorker.Proofs.Worker.Settling

namespace JobWorker.Session

open Worker

variable {σ : Type} {s : Session σ}

/-- A worker of the session together with the gateway. -/
def world (s : Session σ) (o : Opened σ) : World Scripted σ := ⟨s.gateway, o.state, o.permits⟩

/-- Nothing can run without time passing. -/
def Rests (s : Session σ) : Prop := ∀ o, s.worker = some o → (s.world o).move o.config = none

theorem settle_eq {o : Opened σ} (ho : s.worker = some o) :
    s.settle =
      let settled := (s.world o).settle o.config (fuel (s.world o))
      ({ s with
          gateway := settled.1.gateway
          worker := some { o with state := settled.1.state, permits := settled.1.permits } },
        settled.2) := by
  simp [Session.settle, Session.onWorker, ho, world]

theorem settle_rests (s : Session σ) : s.settle.1.Rests := by
  intro o' ho'
  cases ho : s.worker with
  | none => simp [Session.settle, Session.onWorker, ho] at ho'
  | some o =>
      rw [settle_eq ho] at ho' ⊢
      cases ho'
      exact move_settle_eq_none (World.rank_le_fuel (s.world o))

/-- **Every step ends at rest**, whatever the action and whatever the state of the session. -/
theorem step_rests (s : Session σ) (a : Action σ) : (s.step a).1.Rests := settle_rests (s.act a).1

/-- A session is at rest whenever something can be done in it. -/
theorem Reachable.rests (h : s.Reachable) : s.Rests := by
  obtain ⟨env, actions, rfl⟩ := h
  induction actions using List.reverseRecOn with
  | nil =>
      intro o ho
      cases ho
  | append_singleton actions a _ =>
      rw [run_append]
      exact step_rests _ a

/-- If some moves lead the worker to rest, a session that runs it comes there. -/
theorem settle_of_leads {o : Opened σ} (ho : s.worker = some o) {y : World Scripted σ}
    {events : List Event} (h : Leads o.config (s.world o) y events)
    (hrest : y.move o.config = none) :
    s.settle = ({ s with
      gateway := y.gateway
      worker := some { o with state := y.state, permits := y.permits } }, events) := by
  rw [settle_eq ho, h.settle hrest (World.rank_le_fuel (s.world o))]

theorem settle_of_rests (h : s.Rests) : s.settle = (s, []) := by
  cases ho : s.worker with
  | none => simp [Session.settle, Session.onWorker, ho]
  | some o =>
      rw [settle_of_leads ho (.stay _) (h o ho)]
      cases s
      cases ho
      rfl

end JobWorker.Session
