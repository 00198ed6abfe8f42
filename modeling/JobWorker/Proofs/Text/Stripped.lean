/-
What is left of a text without the blanks around it.

Trimming computes this from both ends.  Here it is said of the text alone: there are blanks in front of
it and behind it, and what stands between them neither begins nor ends with one.  That determines what
stands between them, so it is the same as trimming.
-/
import JobWorker.Text.Blank
import Mathlib.Data.List.Basic
import Mathlib.Data.List.TakeWhile

namespace JobWorker.Text

/-- A text, and what it is without the blanks around it. -/
inductive Stripped : List Char → List Char → Prop
  | around {before core after : List Char} : (∀ c ∈ before, isBlank c = true) →
      (∀ c ∈ core.head?, isBlank c = false) → (∀ c ∈ core.getLast?, isBlank c = false) →
      (∀ c ∈ after, isBlank c = true) → Stripped (before ++ core ++ after) core

variable {text core : List Char}

section Scanning

variable {p : Char → Bool} {front rest : List Char}

/-- Exactly the front is taken, if no more than that has the property. -/
theorem takeWhile_append_of_head (hfront : ∀ c ∈ front, p c = true)
    (hrest : ∀ c ∈ rest.head?, p c = false) : (front ++ rest).takeWhile p = front := by
  rw [List.takeWhile_append_of_pos hfront]
  cases rest with
  | nil => simp
  | cons c rest => simp [hrest c rfl]

/-- Exactly the front is dropped, if no more than that has the property. -/
theorem dropWhile_append_of_head (hfront : ∀ c ∈ front, p c = true)
    (hrest : ∀ c ∈ rest.head?, p c = false) : (front ++ rest).dropWhile p = rest := by
  rw [List.dropWhile_append_of_pos hfront]
  cases rest with
  | nil => rfl
  | cons c rest => exact List.dropWhile_cons_of_neg (by simp [hrest c rfl])

end Scanning

theorem Stripped.trim (h : Stripped text core) : trim text = core := by
  obtain ⟨hbefore, hfirst, hlast, hafter⟩ := h
  next before after =>
  by_cases hcore : core = []
  · subst hcore
    rw [List.append_nil]
    exact trim_eq_nil_iff.2 (List.forall_mem_append.2 ⟨hbefore, hafter⟩)
  have hstart : trimStart (before ++ core ++ after) = core ++ after := by
    rw [trimStart, List.append_assoc]
    refine dropWhile_append_of_head hbefore ?_
    rwa [List.head?_append_of_ne_nil _ hcore]
  have hend : (after.reverse ++ core.reverse).dropWhile isBlank = core.reverse := by
    refine dropWhile_append_of_head (fun c hc => hafter c (List.mem_reverse.1 hc)) ?_
    rwa [List.head?_reverse]
  rw [Text.trim, hstart, trimEnd, List.reverse_append, hend, List.reverse_reverse]

/-- What is left of a text begins with no blank. -/
theorem isBlank_of_mem_head_trimStart (text : List Char) :
    ∀ c ∈ (trimStart text).head?, isBlank c = false := by
  intro c hc
  cases hstart : trimStart text with
  | nil =>
    rw [hstart] at hc
    cases hc
  | cons d rest =>
    rw [hstart] at hc
    obtain rfl := Option.some.inj hc
    exact isBlank_of_trimStart_eq_cons hstart

theorem stripped_trim (text : List Char) : Stripped text (trim text) := by
  have hstart : text = text.takeWhile isBlank ++ trimStart text :=
    (List.takeWhile_append_dropWhile).symm
  have hend : trimStart text = trim text ++ ((trimStart text).reverse.takeWhile isBlank).reverse := by
    rw [Text.trim, trimEnd, ← List.reverse_append, List.takeWhile_append_dropWhile,
      List.reverse_reverse]
  have hfirst : ∀ c ∈ (trim text).head?, isBlank c = false := by
    intro c hc
    refine isBlank_of_mem_head_trimStart text c ?_
    rw [hend]
    exact List.mem_head?_append_of_mem_head? hc
  have hlast : ∀ c ∈ (trim text).getLast?, isBlank c = false := by
    rw [Text.trim, trimEnd, List.getLast?_reverse]
    exact isBlank_of_mem_head_trimStart (trimStart text).reverse
  have hsplit : text = text.takeWhile isBlank ++ trim text ++
      ((trimStart text).reverse.takeWhile isBlank).reverse := by
    rw [List.append_assoc, ← hend]
    exact hstart
  have hblank : ∀ c ∈ text.takeWhile isBlank, isBlank c = true := fun c => List.mem_takeWhile_imp
  have hblank' : ∀ c ∈ ((trimStart text).reverse.takeWhile isBlank).reverse, isBlank c = true :=
    fun c hc => List.mem_takeWhile_imp (List.mem_reverse.1 hc)
  have h := Stripped.around hblank hfirst hlast hblank'
  rwa [← hsplit] at h

end JobWorker.Text
