/-
Sessions, one action after the other.

An action reaches the worker of a session in a few ways only: a worker is opened, it is closed, it
runs until it rests, or the poll interval passes for it.  So a property of workers that is kept by
these holds of the workers of every session, whatever is done in it.  `Kept` lists the four, and the
cases of the many actions are gone through once, here.
-/
import JobWorker.Session

namespace JobWorker.Session

open Worker

variable {σ : Type} {s : Session σ}

/-- What a session comes to by some actions, and what happens on the way. -/
def run (s : Session σ) : List (Action σ) → Session σ × List Event
  | [] => (s, [])
  | a :: actions =>
    let (s, events, _) := s.step a
    let (s, more) := s.run actions
    (s, events ++ more)

theorem step_eq (s : Session σ) (a : Action σ) :
    s.step a = ((s.act a).1.settle.1, (s.act a).2.1 ++ (s.act a).1.settle.2, (s.act a).2.2) := rfl

theorem run_cons (s : Session σ) (a : Action σ) (actions : List (Action σ)) :
    s.run (a :: actions) =
      (((s.step a).1.run actions).1, (s.step a).2.1 ++ ((s.step a).1.run actions).2) := rfl

theorem run_append (s : Session σ) (actions more : List (Action σ)) :
    s.run (actions ++ more) =
      (((s.run actions).1.run more).1, (s.run actions).2 ++ ((s.run actions).1.run more).2) := by
  induction actions generalizing s with
  | nil => rfl
  | cons a actions ih => simp only [List.cons_append, run_cons, ih, List.append_assoc]

/-- What is done with the worker of a session leaves everything else but the gateway as it is. -/
structure Touches (s s' : Session σ) : Prop where
  env : s'.env = s.env
  held : s'.held = s.held
  awaited : s'.awaited = s.awaited
  manned : s'.worker.isSome = s.worker.isSome

theorem onWorker_touches (s : Session σ)
    (f : Config σ → World Scripted σ → World Scripted σ × List Event) :
    Touches s (s.onWorker f).1 := by
  unfold Session.onWorker
  split
  · exact ⟨rfl, rfl, rfl, rfl⟩
  · rename_i o ho
    exact ⟨rfl, rfl, rfl, by rw [ho]; rfl⟩

theorem settle_touches (s : Session σ) : Touches s s.settle.1 := onWorker_touches s _

theorem closeHeld_touches (s : Session σ) : Touches s s.closeHeld.1 := by
  unfold Session.closeHeld
  split
  · exact onWorker_touches s _
  · exact ⟨rfl, rfl, rfl, rfl⟩

/-- A session in which some actions have been taken from the beginning. -/
def Reachable (s : Session σ) : Prop := ∃ env actions, s = ((Session.start env).run actions).1

/-! ### Properties of the worker -/

/-- Something holds of the worker of a session, if there is one. -/
def OfWorker (P : Config σ → State σ → Prop) (s : Session σ) : Prop :=
  ∀ o, s.worker = some o → P o.config o.state

/-- A property that holds of a new worker and is kept by whatever is done with one. -/
structure Kept (P : Config σ → State σ → Prop) : Prop where
  start : ∀ w : Config σ, P w w.start
  close : ∀ (w : Config σ) (s : State σ), P w s → P w (s.close w).1
  settle : ∀ (w : Config σ) (fuel : Nat) (x : World Scripted σ),
    P w x.state → P w (x.settle w fuel).1.state
  elapse : ∀ (w : Config σ) (x : World Scripted σ), P w x.state → P w (x.elapse w).1.state

namespace OfWorker

variable {P : Config σ → State σ → Prop}

theorem of_worker {s' : Session σ} (h : OfWorker P s) (hworker : s'.worker = s.worker) :
    OfWorker P s' := by
  intro o ho
  exact h o (hworker ▸ ho)

theorem onWorker (h : OfWorker P s)
    {f : Config σ → World Scripted σ → World Scripted σ × List Event}
    (hf : ∀ w x, P w x.state → P w (f w x).1.state) : OfWorker P (s.onWorker f).1 := by
  unfold Session.onWorker
  split
  · exact h
  · rename_i o ho
    rintro o' ho'
    cases ho'
    exact hf o.config _ (h o ho)

theorem settle (hP : Kept P) (h : OfWorker P s) : OfWorker P s.settle.1 :=
  h.onWorker fun w x => hP.settle w _ x

theorem closeWorker (hP : Kept P) (h : OfWorker P s) : OfWorker P s.closeWorker.1 :=
  h.onWorker fun w x => hP.close w x.state

theorem closeHeld (hP : Kept P) (h : OfWorker P s) : OfWorker P s.closeHeld.1 := by
  unfold Session.closeHeld
  split
  · exact h.closeWorker hP
  · exact h

theorem adopt (hP : Kept P) (s : Session σ) (w : Config σ) : OfWorker P (s.adopt w) := by
  intro o ho
  cases ho
  exact hP.start w

theorem act (hP : Kept P) (h : OfWorker P s) (a : Action σ) : OfWorker P (s.act a).1 := by
  cases a with
  | opening options =>
      simp only [Session.act, Session.openWorker]
      split
      · exact h
      · exact adopt hP _ _
  | close => exact h.closeHeld hP
  | drop => exact (h.closeHeld hP).of_worker rfl
  | shutdown =>
      simp only [Session.act]
      split
      · exact ((h.closeWorker hP).settle hP).of_worker rfl
      · exact h
  | release permits =>
      intro o ho
      simp only [Session.act, Option.map_eq_some_iff] at ho
      obtain ⟨o', ho', rfl⟩ := ho
      exact h o' ho'
  | tick => exact h.onWorker hP.elapse
  | _ => exact h.of_worker rfl

theorem step (hP : Kept P) (h : OfWorker P s) (a : Action σ) : OfWorker P (s.step a).1 :=
  (h.act hP a).settle hP

theorem run (hP : Kept P) (h : OfWorker P s) (actions : List (Action σ)) :
    OfWorker P (s.run actions).1 := by
  induction actions generalizing s with
  | nil => exact h
  | cons a actions ih => exact ih (h.step hP a)

end OfWorker

/-- **What is kept by everything that is done with a worker** holds of the worker of every session. -/
theorem Reachable.ofWorker {P : Config σ → State σ → Prop} (hP : Kept P) (h : s.Reachable) :
    OfWorker P s := by
  obtain ⟨env, actions, rfl⟩ := h
  exact OfWorker.run hP (by intro o ho; cases ho) actions

end JobWorker.Session
