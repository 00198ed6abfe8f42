/-
Computations that can fail.

Such a computation is a row of steps, and it succeeds only if every step does.  Read backwards, a
success says what each step has come to.
-/
import Mathlib.Data.List.Forall2
import Mathlib.Data.List.Induction

namespace JobWorker

variable {ε α β : Type}

theorem bind_eq_ok_iff {x : Except ε α} {f : α → Except ε β} {b : β} :
    x >>= f = .ok b ↔ ∃ a, x = .ok a ∧ f a = .ok b := by
  cases x with
  | error e => simp [bind, Except.bind]
  | ok a => simp [bind, Except.bind]

theorem bind_eq_error_iff {x : Except ε α} {f : α → Except ε β} {e : ε} :
    x >>= f = .error e ↔ x = .error e ∨ ∃ a, x = .ok a ∧ f a = .error e := by
  cases x with
  | error e => simp [bind, Except.bind]
  | ok a => simp [bind, Except.bind]

theorem map_eq_ok_iff {x : Except ε α} {f : α → β} {b : β} :
    x.map f = .ok b ↔ ∃ a, x = .ok a ∧ f a = b := by
  cases x <;> simp [Except.map]

/-- A computation that comes to nothing fails. -/
theorem exists_error_of_ne {x : Except ε α} (h : ∀ a, x ≠ .ok a) : ∃ e, x = .error e := by
  cases x with
  | error e => exact ⟨e, rfl⟩
  | ok a => exact absurd rfl (h a)

/-- To say errors in other words is to do so at each step. -/
theorem mapError_bind {ε' : Type} (f : ε → ε') (x : Except ε α) (g : α → Except ε β) :
    (x >>= g).mapError f = x.mapError f >>= fun a => (g a).mapError f := by
  cases x <;> rfl

theorem mapM_eq_ok_iff {f : α → Except ε β} {xs : List α} {ys : List β} :
    xs.mapM f = .ok ys ↔ List.Forall₂ (fun x y => f x = .ok y) xs ys := by
  induction xs generalizing ys with
  | nil => simp [List.forall₂_nil_left_iff, pure, Except.pure, eq_comm]
  | cons x xs ih =>
      simp only [List.mapM_cons, bind_eq_ok_iff, List.forall₂_cons_left_iff, ih]
      constructor
      · rintro ⟨y, hy, ys, hys, h⟩
        cases h
        exact ⟨y, ys, hy, hys, rfl⟩
      · rintro ⟨y, ys, hy, hys, rfl⟩
        exact ⟨y, hy, ys, hys, rfl⟩

/-- A row of steps that do not depend on each other succeeds if each of them does. -/
theorem mapM_isOk_iff {f : α → Except ε β} {xs : List α} :
    (∃ ys, xs.mapM f = .ok ys) ↔ ∀ x ∈ xs, ∃ y, f x = .ok y := by
  simp only [mapM_eq_ok_iff]
  induction xs with
  | nil => simp
  | cons x xs ih =>
      rw [List.forall_mem_cons, ← ih]
      constructor
      · rintro ⟨_, _ | ⟨hy, hys⟩⟩
        exact ⟨⟨_, hy⟩, _, hys⟩
      · rintro ⟨⟨y, hy⟩, ys, hys⟩
        exact ⟨y :: ys, .cons hy hys⟩

/-- A row of steps fails as the first step does that fails. -/
theorem mapM_eq_error_iff {f : α → Except ε β} {xs : List α} {e : ε} :
    xs.mapM f = .error e ↔ ∃ before x after, xs = before ++ x :: after ∧
      (∀ y ∈ before, ∃ z, f y = .ok z) ∧ f x = .error e := by
  induction xs with
  | nil => simp [pure, Except.pure]
  | cons x xs ih =>
      rw [List.mapM_cons, bind_eq_error_iff]
      constructor
      · rintro (hx | ⟨y, hy, hmore⟩)
        · exact ⟨[], x, xs, rfl, by simp, hx⟩
        · rcases bind_eq_error_iff.1 hmore with hxs | ⟨ys, -, hpure⟩
          · obtain ⟨before, x', after, rfl, hbefore, hx'⟩ := ih.1 hxs
            exact ⟨x :: before, x', after, rfl, List.forall_mem_cons.2 ⟨⟨y, hy⟩, hbefore⟩, hx'⟩
          · cases hpure
      · rintro ⟨before, x', after, heq, hbefore, hx'⟩
        cases before with
        | nil =>
          cases heq
          exact .inl hx'
        | cons x'' before =>
          cases heq
          obtain ⟨⟨y, hy⟩, hbefore⟩ := List.forall_mem_cons.1 hbefore
          exact .inr ⟨y, hy, bind_eq_error_iff.2 (.inl (ih.2 ⟨before, x', after, rfl, hbefore, hx'⟩))⟩

/-! ### Rows of acts that may be impossible -/

theorem foldlM_cons_eq_some_iff {act? : β → α → Option β} {b b' : β} {a : α} {acts : List α} :
    (a :: acts).foldlM act? b = some b' ↔ ∃ c, act? b a = some c ∧ acts.foldlM act? c = some b' := by
  rw [List.foldlM_cons, Option.bind_eq_bind, Option.bind_eq_some_iff]

/-- What holds before the first act and is kept by every act holds after every row of acts. -/
theorem foldlM_induction {act? : β → α → Option β} {b : β} {motive : List α → β → Prop}
    (nil : motive [] b)
    (step : ∀ {acts : List α} {c c' : β} {a : α}, motive acts c → act? c a = some c' →
      motive (acts ++ [a]) c') :
    ∀ {acts : List α} {c : β}, acts.foldlM act? b = some c → motive acts c := by
  intro acts
  induction acts using List.reverseRecOn with
  | nil =>
      intro c h
      cases h
      exact nil
  | append_singleton acts a ih =>
      intro c' h
      rw [List.foldlM_append, Option.bind_eq_bind, Option.bind_eq_some_iff] at h
      obtain ⟨c, hacts, hlast⟩ := h
      obtain ⟨c'', ha, hnil⟩ := foldlM_cons_eq_some_iff.1 hlast
      cases hnil
      exact step (ih hacts) ha

end JobWorker
