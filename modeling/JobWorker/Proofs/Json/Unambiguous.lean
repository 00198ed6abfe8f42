/-
A text of the grammar has its parts in one way only.

Two values that begin two equal texts are the same if each is followed by something that ends a part:
whoever skips the one has skipped the other, because skipping looks at the text alone.  From there the
parts of brackets are the same one by one, white space included, for all of it belongs to some part.
-/
import JobWorker.Proofs.Json.Members

namespace JobWorker.Json

variable {strays : Bool} {a b r r' rest rest' : List Char}

/-- A text that begins with what ends a part. -/
def Delimited (text : List Char) : Prop := ∃ ch more, text = ch :: more ∧ (ch = ',' ∨ ch = ']' ∨ ch = '\x7d')

theorem Delimited.ends (h : Delimited r) : Ends r := by
  obtain ⟨ch, more, rfl, hch⟩ := h
  intro d hd
  obtain rfl := Option.mem_some_iff.1 hd
  exact .inr hch

theorem Delimited.dropWhile (h : Delimited r) : r.dropWhile isSpace = r := by
  obtain ⟨ch, more, rfl, rfl | rfl | rfl⟩ := h <;> rfl

theorem delimited_furtherParts {closing : Char} (h : closing = ']' ∨ closing = '\x7d')
    (parts : List (List Char)) : Delimited (furtherParts closing parts ++ rest) := by
  cases parts with
  | nil => exact ⟨closing, rest, rfl, .inr h⟩
  | cons part parts => exact ⟨',', _, rfl, .inl rfl⟩

/-- Parts of one kind are cut off from a text in one way only. -/
def CutsOff (P : List Char → Prop) : Prop :=
  ∀ {a b r r' : List Char}, P a → P b → Delimited r → Delimited r' → a ++ r = b ++ r' → a = b

/-- Values are cut off in one way, for skipping goes to the end of them. -/
theorem cutsOff_wellFormed : CutsOff (WellFormed strays) := by
  intro a b r r' ha hb hr hr' heq
  obtain ⟨c, hc⟩ : ∃ c : Cursor, c.Before strays (a ++ r) := ⟨⟨a ++ r, Place.start, strays⟩, rfl, rfl⟩
  obtain ⟨c₁, hskip, hc₁⟩ := Cursor.skipValue_of_wellFormed ha c r hr.ends hc
  rw [heq] at hc
  obtain ⟨c₂, hskip', hc₂⟩ := Cursor.skipValue_of_wellFormed hb c r' hr'.ends hc
  obtain rfl : c₁ = c₂ := by simpa [hskip] using hskip'
  have hrest : r = r' := by rw [← hr.dropWhile, ← hc₁.rest, hc₂.rest, hr'.dropWhile]
  subst hrest
  exact List.append_cancel_right heq

/-- A name is cut off by its colon. -/
theorem name_inj (ha : Padded (IsQuoted strays) a) (hb : Padded (IsQuoted strays) b)
    (h : memberText a r = memberText b r') : a = b ∧ r = r' := by
  obtain ⟨c, hc⟩ : ∃ c : Cursor, c.Before strays (memberText a r) :=
    ⟨⟨memberText a r, Place.start, strays⟩, rfl, rfl⟩
  obtain ⟨c₁, hskip, hc₁⟩ := Cursor.skipName_of_before ha hc
  rw [h] at hc
  obtain ⟨c₂, hskip', hc₂⟩ := Cursor.skipName_of_before hb hc
  obtain rfl : c₁ = c₂ := by simpa [hskip] using hskip'
  obtain rfl : r = r' := by rw [← hc₁.rest, hc₂.rest]
  exact ⟨List.append_cancel_right h, rfl⟩

/-- A part of an object: a name, a colon and a value. -/
def IsMember (strays : Bool) (text : List Char) : Prop :=
  ∃ name value, Padded (IsQuoted strays) name ∧ WellFormed strays value ∧ text = memberText name value

theorem cutsOff_member : CutsOff (IsMember strays) := by
  rintro _ _ r r' ⟨name, value, hname, hvalue, rfl⟩ ⟨name', value', hname', hvalue', rfl⟩ hr hr' heq
  have htext : memberText name (value ++ r) = memberText name' (value' ++ r') := by
    simpa [memberText] using heq
  obtain ⟨rfl, hrest⟩ := name_inj hname hname' htext
  rw [cutsOff_wellFormed hvalue hvalue' hr hr' hrest]

/-! ### Brackets -/

section Brackets

variable {P : List Char → Prop} {closing : Char}

theorem furtherParts_inj (hP : CutsOff P) (hclosing : closing = ']' ∨ closing = '\x7d')
    {parts parts' : List (List Char)} (h : ∀ part ∈ parts, P part) (h' : ∀ part ∈ parts', P part)
    (heq : furtherParts closing parts ++ rest = furtherParts closing parts' ++ rest') :
    parts = parts' ∧ rest = rest' := by
  have hne : closing ≠ ',' := by rcases hclosing with rfl | rfl <;> decide
  induction parts generalizing parts' with
  | nil =>
    cases parts' with
    | nil => exact ⟨rfl, by simpa [furtherParts] using heq⟩
    | cons part' parts' =>
      have := congrArg List.head? heq
      simp [furtherParts, hne] at this
  | cons part parts ih =>
    cases parts' with
    | nil =>
      have := congrArg List.head? heq
      simp [furtherParts, Ne.symm hne] at this
    | cons part' parts' =>
      obtain ⟨hpart, hparts⟩ := List.forall_mem_cons.1 h
      obtain ⟨hpart', hparts'⟩ := List.forall_mem_cons.1 h'
      have heq' : part ++ (furtherParts closing parts ++ rest) =
          part' ++ (furtherParts closing parts' ++ rest') := by
        simpa [furtherParts] using heq
      obtain rfl := hP hpart hpart' (delimited_furtherParts hclosing parts)
        (delimited_furtherParts hclosing parts') heq'
      obtain ⟨rfl, rfl⟩ := ih hparts hparts' (List.append_cancel_left heq')
      exact ⟨rfl, rfl⟩

/-- White space before a closing bracket is no part. -/
theorem not_closing_of_opens {part blank : List Char} (hpart : Opens (· ≠ closing) part)
    (hblank : Padding blank) (hspace : isSpace closing = false)
    (heq : part ++ r = blank ++ closing :: r') : False := by
  obtain ⟨ch, more, hdrop, hne⟩ := hpart.append r
  rw [heq, List.dropWhile_append_of_pos hblank] at hdrop
  simp only [hspace, Bool.false_eq_true, not_false_eq_true, List.dropWhile_cons_of_neg,
    List.cons.injEq] at hdrop
  exact hne hdrop.1.symm

/-- Brackets have their parts in one way only. -/
theorem enclosed_inj (hP : CutsOff P) (hopens : ∀ {part}, P part → Opens (· ≠ closing) part)
    (hclosing : closing = ']' ∨ closing = '\x7d') {opening : Char} {blank blank' : List Char}
    {parts parts' : List (List Char)} (hblank : Padding blank) (hblank' : Padding blank')
    (h : ∀ part ∈ parts, P part) (h' : ∀ part ∈ parts', P part)
    (heq : enclosed opening closing blank parts ++ rest =
      enclosed opening closing blank' parts' ++ rest') : parts = parts' ∧ rest = rest' := by
  have hspace : isSpace closing = false := by rcases hclosing with rfl | rfl <;> decide
  cases parts with
  | nil =>
    cases parts' with
    | nil =>
      have heq' : blank ++ closing :: rest = blank' ++ closing :: rest' := by
        simpa [enclosed] using heq
      have hdrop := congrArg (List.dropWhile isSpace) heq'
      rw [List.dropWhile_append_of_pos hblank, List.dropWhile_append_of_pos hblank'] at hdrop
      exact ⟨rfl, by simpa [hspace] using hdrop⟩
    | cons part' parts' =>
      have heq' : part' ++ (furtherParts closing parts' ++ rest') = blank ++ closing :: rest := by
        simpa [enclosed] using heq.symm
      exact (not_closing_of_opens (hopens (h' part' (by simp))) hblank hspace heq').elim
  | cons part parts =>
    cases parts' with
    | nil =>
      have heq' : part ++ (furtherParts closing parts ++ rest) = blank' ++ closing :: rest' := by
        simpa [enclosed] using heq
      exact (not_closing_of_opens (hopens (h part (by simp))) hblank' hspace heq').elim
    | cons part' parts' =>
      refine furtherParts_inj hP hclosing h h' ?_
      simpa [enclosed, furtherParts] using heq

end Brackets

end JobWorker.Json
