/-
Sessions without their worker.

Whether a worker has any part in what is seen is found out by taking it away: the same things are
done in the session and in the session without the worker, and the events are compared (`Silent`).
A worker that nobody holds and that asks for no jobs is out of reach of most actions, so both sessions
do the same in them (`act_of_let_go`).  If nothing is left of it either, nothing is seen of it any
more, even when another worker takes its place (`silent_of_gone`).
-/
import JobWorker.Proofs.Session.Rest

namespace JobWorker.Session

open Worker

variable {σ : Type} {s : Session σ}

/-! ### A session without its worker -/

/-- The same session, in which there is no worker. -/
def alone (s : Session σ) : Session σ := { s with worker := none }

/-- Whatever is done in the session, nothing that is seen is due to the worker. -/
def Silent (s : Session σ) : Prop := ∀ actions, (s.run actions).2 = (s.alone.run actions).2

/-- An action by which a worker is opened. -/
def Opens (env : Environment) : Action σ → Prop
  | .opening options => ∃ notices w, options.openIn env .multiThread = (notices, .ok w)
  | _ => False

/-- To a worker that nobody holds and that asks for no jobs, an action that opens no worker does
nothing but give it permits. -/
theorem act_of_let_go {o : Opened σ} (ho : s.worker = some o) (hheld : s.held = false)
    (hleft : o.state.acquire = .stopped) {a : Action σ} (ha : ¬ Opens s.env a) :
    s.alone.act a = ((s.act a).1.alone, (s.act a).2) ∧
      (s.act a).1.env = s.env ∧ (s.act a).1.held = false ∧ (s.act a).1.awaited = s.awaited ∧
      ∃ permits, (s.act a).1.worker = some { o with permits } := by
  obtain ⟨env, gateway, worker, held, awaited⟩ := s
  obtain rfl : worker = some o := ho
  obtain rfl : held = false := hheld
  cases a with
  | release permits => exact ⟨rfl, rfl, rfl, rfl, o.permits + permits, rfl⟩
  | tick =>
      have helapse : World.elapse o.config ⟨gateway, o.state, o.permits⟩ =
          (⟨gateway, o.state, o.permits⟩, []) := by
        simp [World.elapse, hleft]
      refine ⟨?_, ?_, ?_, ?_, o.permits, ?_⟩ <;>
        simp [Session.act, Session.onWorker, alone, helapse]
  | opening options =>
      have hrefused : ∃ notices e, options.openIn env .multiThread = (notices, .error e) := by
        cases hopen : options.openIn env .multiThread with
        | mk notices result =>
            cases result with
            | error e => exact ⟨notices, e, rfl⟩
            | ok w => exact absurd ⟨notices, w, hopen⟩ ha
      obtain ⟨notices, e, hrefused⟩ := hrefused
      refine ⟨?_, ?_, ?_, ?_, o.permits, ?_⟩ <;>
        simp [Session.act, Session.openWorker, alone, hrefused]
  | _ => exact ⟨rfl, rfl, rfl, rfl, o.permits, rfl⟩

/-! ### What is seen of a worker that has ended -/

/-- A worker of which nothing is left. -/
structure Gone (o : Opened σ) : Prop where
  acquire : o.state.acquire = .stopped
  execute : o.state.execute = .stopped

/-- Two sessions in which the same can be seen.  Whose end is awaited makes no difference, nor does
a worker that nobody holds and of which nothing is left. -/
inductive Alike : Session σ → Session σ → Prop
  | same (s : Session σ) (awaited : Awaited) : Alike { s with awaited } s
  | gone (s : Session σ) (awaited : Awaited) (hheld : s.held = false)
      (hgone : ∀ o, s.worker = some o → Gone o) : Alike s { s.alone with awaited }

theorem Alike.awaited {t : Session σ} (h : Alike s t) (awaited : Awaited) :
    Alike s { t with awaited } := by
  cases h with
  | same _ former => exact .same { t with awaited } former
  | gone _ _ hheld hgone => exact .gone s awaited hheld hgone

theorem onWorker_awaited (s : Session σ) (awaited : Awaited)
    (f : Config σ → World Scripted σ → World Scripted σ × List Event) :
    Session.onWorker { s with awaited } f =
      ({ (s.onWorker f).1 with awaited }, (s.onWorker f).2) := by
  obtain ⟨env, gateway, worker, held, former⟩ := s
  cases worker <;> rfl

theorem closeHeld_awaited (s : Session σ) (awaited : Awaited) :
    Session.closeHeld { s with awaited } = ({ s.closeHeld.1 with awaited }, s.closeHeld.2) := by
  unfold Session.closeHeld Session.closeWorker
  split
  · exact onWorker_awaited s awaited _
  · rfl

theorem settle_awaited (s : Session σ) (awaited : Awaited) :
    Session.settle { s with awaited } = ({ s.settle.1 with awaited }, s.settle.2) :=
  onWorker_awaited s awaited _

theorem act_awaited (s : Session σ) (awaited : Awaited) (a : Action σ) :
    (Session.act { s with awaited } a).2.1 = (s.act a).2.1 ∧
      ∃ awaited', (Session.act { s with awaited } a).1 = { (s.act a).1 with awaited := awaited' } := by
  cases a with
  | opening options =>
      simp only [Session.act, Session.openWorker]
      split
      · exact ⟨rfl, awaited, rfl⟩
      · rw [closeHeld_awaited, settle_awaited]
        exact ⟨rfl, _, rfl⟩
  | close =>
      simp only [Session.act, closeHeld_awaited]
      exact ⟨trivial, awaited, rfl⟩
  | drop =>
      simp only [Session.act, closeHeld_awaited]
      exact ⟨trivial, awaited, rfl⟩
  | shutdown =>
      simp only [Session.act, Session.closeWorker, onWorker_awaited, settle_awaited]
      split
      · exact ⟨rfl, .current, rfl⟩
      · exact ⟨rfl, awaited, rfl⟩
  | tick =>
      simp only [Session.act, onWorker_awaited]
      exact ⟨trivial, awaited, rfl⟩
  | _ => exact ⟨rfl, awaited, rfl⟩

theorem step_awaited (s : Session σ) (awaited : Awaited) (a : Action σ) :
    (Session.step { s with awaited } a).2.1 = (s.step a).2.1 ∧
      ∃ awaited', (Session.step { s with awaited } a).1 =
        { (s.step a).1 with awaited := awaited' } := by
  obtain ⟨hevents, awaited', hact⟩ := act_awaited s awaited a
  simp only [Session.step, hact, hevents, settle_awaited]
  exact ⟨trivial, awaited', rfl⟩

theorem alone_rests (s : Session σ) : s.alone.Rests := by
  intro o ho
  cases ho

/-- Opening a worker leaves nothing to be seen of one that nobody holds and that rests. -/
theorem step_of_opens (hrests : s.Rests) (hheld : s.held = false) {a : Action σ}
    (ha : Opens s.env a) :
    (s.step a).2.1 = (s.alone.step a).2.1 ∧ Alike (s.step a).1 (s.alone.step a).1 := by
  cases a with
  | opening options =>
      obtain ⟨notices, w, hopen⟩ := ha
      have hact : ∀ t : Session σ, t.Rests → t.held = false → t.env = s.env →
          t.act (.opening options) = (t.adopt w, Event.ofNotices notices,
            .opened (.ok ⟨false, w.name, w.jobType⟩)) := by
        intro t ht htheld htenv
        simp [Session.act, Session.openWorker, htenv, hopen, Session.closeHeld, htheld,
          settle_of_rests ht]
      have hadopt : s.adopt w = { s.alone.adopt w with awaited := (s.adopt w).awaited } := rfl
      rw [Session.step, Session.step, hact s hrests hheld rfl, hact s.alone s.alone_rests hheld rfl,
        hadopt]
      simp only [settle_awaited]
      exact ⟨trivial, .same _ _⟩
  | _ => exact absurd ha id

theorem rests_of_gone (h : ∀ o, s.worker = some o → Gone o) : s.Rests := by
  intro o ho
  have hgone := h o ho
  simp [World.move, World.execute, World.acquire, world, hgone.execute, hgone.acquire]

/-- With and without a worker that nobody holds and of which nothing is left, a step shows the
same. -/
theorem step_of_gone (hheld : s.held = false) (hgone : ∀ o, s.worker = some o → Gone o)
    (a : Action σ) :
    (s.step a).2.1 = (s.alone.step a).2.1 ∧ Alike (s.step a).1 (s.alone.step a).1 := by
  by_cases ha : Opens s.env a
  · exact step_of_opens (rests_of_gone hgone) hheld ha
  · cases ho : s.worker with
    | none =>
        have hsame : s.alone = s := by
          rw [alone, ← ho]
        rw [hsame]
        exact ⟨rfl, .same (s.step a).1 _⟩
    | some o =>
        obtain ⟨halone, -, hheld', -, permits, hworker⟩ :=
          act_of_let_go ho hheld (hgone o ho).acquire ha
        have hgone' : ∀ o', (s.act a).1.worker = some o' → Gone o' := by
          intro o' ho'
          rw [hworker] at ho'
          cases ho'
          exact ⟨(hgone o ho).acquire, (hgone o ho).execute⟩
        rw [step_eq, step_eq, halone, settle_of_rests (rests_of_gone hgone'),
          settle_of_rests (alone_rests _)]
        exact ⟨rfl, .gone (s.act a).1 _ hheld' hgone'⟩

theorem Alike.step {t : Session σ} (h : Alike s t) (a : Action σ) :
    (s.step a).2.1 = (t.step a).2.1 ∧ Alike (s.step a).1 (t.step a).1 := by
  cases h with
  | same _ awaited =>
      obtain ⟨hevents, awaited', hstep⟩ := step_awaited t awaited a
      rw [hstep]
      exact ⟨hevents, .same _ _⟩
  | gone _ awaited hheld hgone =>
      obtain ⟨hevents, hnext⟩ := step_of_gone hheld hgone a
      obtain ⟨hevents', awaited', hstep⟩ := step_awaited s.alone awaited a
      rw [hstep, hevents', hevents]
      exact ⟨rfl, hnext.awaited awaited'⟩

theorem Alike.run {t : Session σ} (h : Alike s t) (actions : List (Action σ)) :
    (s.run actions).2 = (t.run actions).2 := by
  induction actions generalizing s t with
  | nil => rfl
  | cons a actions ih =>
      obtain ⟨hevents, hnext⟩ := h.step a
      rw [run_cons, run_cons, hevents, ih hnext]

theorem silent_of_gone (hheld : s.held = false) (hgone : ∀ o, s.worker = some o → Gone o) :
    s.Silent :=
  (Alike.gone s s.awaited hheld hgone).run

end JobWorker.Session
