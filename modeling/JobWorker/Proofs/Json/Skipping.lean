/-
What is well formed can be skipped.

Skipping follows the text with fuel for its depth, and again for its items and members.  The first
is enough because every bracket is a character of the text, the second because every comma is.
-/
import JobWorker.Json.Skip
import JobWorker.Proofs.Json.Numbers

namespace JobWorker.Json

variable {c : Cursor} {strays : Bool} {text rest : List Char} {item : Cursor → Except Error Cursor}

/-! ### Strings and names -/

namespace StringLiteral

theorem skipEscape_of_short {letter : Char} (h : (shortEscape? letter).isSome = true)
    (hc : c.At strays (letter :: text)) : skipEscape c = .ok c.next := by
  have hu : letter ≠ 'u' := by
    rintro rfl
    cases h
  simp [skipEscape, hc.rest, hu, h]

theorem skipEscape_of_code {a b x y : Char} (h : (hexDigits? a b x y).isSome = true)
    (hc : c.At strays ('u' :: a :: b :: x :: y :: text)) :
    ∃ c', skipEscape c = .ok c' ∧ c'.At strays text := by
  obtain ⟨n, hn⟩ := Option.isSome_iff_exists.1 h
  obtain ⟨c', hread, hc'⟩ := readHex_of_at hn hc.next
  exact ⟨c', by simp [skipEscape, hc.rest, hread, Except.map], hc'⟩

theorem skipChars_of_quotable {body : List Char} (h : Quotable strays body) :
    ∀ (fuel : Nat) (c : Cursor), body.length < fuel → c.At strays (body ++ '"' :: rest) →
      ∃ c', skipChars fuel c = .ok c' ∧ c'.At strays rest := by
  induction h with
  | nil =>
    intro fuel c hfuel hc
    obtain ⟨fuel, rfl⟩ := Nat.exists_eq_succ_of_ne_zero (Nat.ne_zero_of_lt hfuel)
    exact ⟨c.next, by simp [skipChars, hc.rest], hc.next⟩
  | plain hquote hslash hcontrol _ ih =>
    intro fuel c hfuel hc
    obtain ⟨fuel, rfl⟩ := Nat.exists_eq_succ_of_ne_zero (Nat.ne_zero_of_lt hfuel)
    obtain ⟨c', hskip, hc'⟩ := ih fuel _ (by simpa using hfuel) hc.next
    exact ⟨c', by simp [skipChars, hc.rest, hquote, hslash, Nat.not_lt.2 hcontrol, hskip], hc'⟩
  | stray hstrays _ ih =>
    intro fuel c hfuel hc
    obtain ⟨fuel, rfl⟩ := Nat.exists_eq_succ_of_ne_zero (Nat.ne_zero_of_lt hfuel)
    obtain ⟨c', hskip, hc'⟩ := ih fuel _ (by simpa using hfuel) hc.next
    exact ⟨c', by simp [skipChars, hc.rest, hc.strays, hstrays, strayMark, hskip], hc'⟩
  | short hletter _ ih =>
    intro fuel c hfuel hc
    obtain ⟨fuel, rfl⟩ := Nat.exists_eq_succ_of_ne_zero (Nat.ne_zero_of_lt hfuel)
    have hescape := skipEscape_of_short hletter hc.next
    obtain ⟨c', hskip, hc'⟩ := ih fuel _ (by simp at hfuel; omega) hc.next.next
    exact ⟨c', by simp [skipChars, hc.rest, hescape, hskip, bind, Except.bind], hc'⟩
  | code hdigits _ ih =>
    intro fuel c hfuel hc
    obtain ⟨fuel, rfl⟩ := Nat.exists_eq_succ_of_ne_zero (Nat.ne_zero_of_lt hfuel)
    obtain ⟨c₁, hescape, hc₁⟩ := skipEscape_of_code hdigits hc.next
    obtain ⟨c', hskip, hc'⟩ := ih fuel _ (by simp at hfuel; omega) hc₁
    exact ⟨c', by simp [skipChars, hc.rest, hescape, hskip, bind, Except.bind], hc'⟩

theorem skip_of_quotable {body : List Char} (h : Quotable strays body) (hc : c.At strays (body ++ '"' :: rest)) :
    ∃ c', skip c = .ok c' ∧ c'.At strays rest := by
  refine skipChars_of_quotable h _ c ?_ hc
  rw [hc.rest]
  simp only [List.length_append, List.length_cons]
  omega

end StringLiteral

theorem opens_of_isQuoted {name : List Char} (h : Padded (IsQuoted strays) name) :
    Opens (· = '"') name := by
  refine h.opens ?_
  rintro _ ⟨body, -, rfl⟩
  exact exists_quoted_cons body

namespace Cursor

theorem colon_of_before (hc : c.Before strays (':' :: text)) : ∃ c', c.colon = .ok c' ∧ c'.At strays text := by
  obtain ⟨c₁, hskip, hc₁⟩ := hc.skip (by decide)
  exact ⟨c₁.next, by simp [colon, hskip, hc₁.rest], hc₁.next⟩

theorem skipName_of_before {name : List Char} (h : Padded (IsQuoted strays) name)
    (hc : c.Before strays (memberText name text)) : ∃ c', c.skipName = .ok c' ∧ c'.At strays text := by
  obtain ⟨hbefore, ⟨body, hbody, rfl⟩, hafter⟩ := h
  rw [memberText, List.append_assoc, List.append_assoc, before_padding hbefore] at hc
  obtain ⟨c₁, hskip, hc₁⟩ := hc.skip (by decide)
  obtain ⟨c₂, hread, hc₂⟩ := StringLiteral.skip_of_quotable hbody (by simpa using hc₁.next)
  obtain ⟨c', hcolon, hc'⟩ := colon_of_before ((before_padding hafter).1 hc₂.before)
  refine ⟨c', ?_, hc'⟩
  simp [skipName, hskip, hc₁.rest, hread, hcolon, bind, Except.bind]

/-! ### Arrays and objects -/

/-- A step that moves behind a text, wherever the text stands. -/
def Passes (strays : Bool) (step : Cursor → Except Error Cursor) (text : List Char) : Prop :=
  ∀ (c : Cursor) (rest : List Char), Ends rest → c.Before strays (text ++ rest) →
    ∃ c', step c = .ok c' ∧ c'.Before strays rest

theorem skipItems_of_before {items : List (List Char)} (h : ∀ text ∈ items, Passes strays item text) :
    ∀ (fuel : Nat) (c : Cursor), items.length < fuel →
      c.Before strays (furtherParts ']' items ++ rest) →
        ∃ c', skipItems item fuel c = .ok c' ∧ c'.Before strays rest := by
  induction items with
  | nil =>
    intro fuel c hfuel hc
    obtain ⟨fuel, rfl⟩ := Nat.exists_eq_succ_of_ne_zero (Nat.ne_zero_of_lt hfuel)
    obtain ⟨c₁, hskip, hc₁⟩ := hc.skip (by decide)
    exact ⟨c₁.next, by simp [skipItems, hskip, hc₁.rest], hc₁.next.before⟩
  | cons text items ih =>
    intro fuel c hfuel hc
    obtain ⟨fuel, rfl⟩ := Nat.exists_eq_succ_of_ne_zero (Nat.ne_zero_of_lt hfuel)
    obtain ⟨c₁, hskip, hc₁⟩ := hc.skip (by decide)
    obtain ⟨c₂, hitem, hc₂⟩ := h text (by simp) _ _ (ends_furtherParts (.inl rfl) items)
      (by simpa using hc₁.next.before)
    obtain ⟨c', hitems, hc'⟩ := ih (fun text ht => h text (by simp [ht])) fuel c₂
      (by simpa using hfuel) hc₂
    exact ⟨c', by simp [skipItems, hskip, hc₁.rest, hitem, hitems, bind, Except.bind], hc'⟩

theorem skipArray_of_at {blank : List Char} {items : List (List Char)} (hblank : Padding blank)
    (hopens : ∀ text ∈ items, Opens (· ≠ ']') text) (h : ∀ text ∈ items, Passes strays item text)
    (hc : c.At strays (enclosed '[' ']' blank items ++ rest)) :
    ∃ c', skipArray item c.next = .ok c' ∧ c'.Before strays rest := by
  cases items with
  | nil =>
    have hnext : c.next.At strays (blank ++ ']' :: rest) := by simpa [enclosed] using hc.next
    obtain ⟨c₁, hskip, hc₁⟩ := ((before_padding hblank).1 hnext.before).skip (by decide)
    exact ⟨c₁.next, by simp [skipArray, hskip, hc₁.rest], hc₁.next.before⟩
  | cons text items =>
    have hnext : c.next.At strays (text ++ (furtherParts ']' items ++ rest)) := by
      simpa [enclosed] using hc.next
    obtain ⟨c₁, ch, more, hskip, hch, hne, hc₁⟩ := (hopens text (by simp)).skip hnext.before
    obtain ⟨c₂, hitem, hc₂⟩ := h text (by simp) _ _ (ends_furtherParts (.inl rfl) items) hc₁
    obtain ⟨c', hitems, hc'⟩ := skipItems_of_before (fun text ht => h text (by simp [ht]))
      (c₂.rest.length + 1) c₂ (hc₂.fuel_parts (by decide)) hc₂
    refine ⟨c', ?_, hc'⟩
    simp [skipArray, hskip, hch, hne, hitem, hitems, bind, Except.bind]

theorem skipMembers_of_before {members : List (List Char × List Char)}
    (hnames : ∀ m ∈ members, Padded (IsQuoted strays) m.1) (h : ∀ m ∈ members, Passes strays item m.2) :
    ∀ (fuel : Nat) (c : Cursor), members.length < fuel →
      c.Before strays (furtherParts '\x7d' (members.map fun m => memberText m.1 m.2) ++ rest) →
        ∃ c', skipMembers item fuel c = .ok c' ∧ c'.Before strays rest := by
  induction members with
  | nil =>
    intro fuel c hfuel hc
    obtain ⟨fuel, rfl⟩ := Nat.exists_eq_succ_of_ne_zero (Nat.ne_zero_of_lt hfuel)
    obtain ⟨c₁, hskip, hc₁⟩ := hc.skip (by decide)
    exact ⟨c₁.next, by simp [skipMembers, hskip, hc₁.rest], hc₁.next.before⟩
  | cons m members ih =>
    intro fuel c hfuel hc
    obtain ⟨fuel, rfl⟩ := Nat.exists_eq_succ_of_ne_zero (Nat.ne_zero_of_lt hfuel)
    obtain ⟨c₁, hskip, hc₁⟩ := hc.skip (by decide)
    obtain ⟨c₂, hname, hc₂⟩ := skipName_of_before (hnames m (by simp))
      (by simpa [memberText] using hc₁.next.before)
    obtain ⟨c₃, hitem, hc₃⟩ := h m (by simp) _ _ (ends_furtherParts (.inr rfl) _) hc₂.before
    obtain ⟨c', hmembers, hc'⟩ := ih (fun m hm => hnames m (by simp [hm]))
      (fun m hm => h m (by simp [hm])) fuel c₃ (by simpa using hfuel) hc₃
    refine ⟨c', ?_, hc'⟩
    simp [skipMembers, hskip, hc₁.rest, hname, hitem, hmembers, bind, Except.bind]

theorem skipObject_of_at {blank : List Char} {members : List (List Char × List Char)}
    (hblank : Padding blank) (hnames : ∀ m ∈ members, Padded (IsQuoted strays) m.1)
    (h : ∀ m ∈ members, Passes strays item m.2)
    (hc : c.At strays (enclosed '\x7b' '\x7d' blank (members.map fun m => memberText m.1 m.2) ++ rest)) :
    ∃ c', skipObject item c.next = .ok c' ∧ c'.Before strays rest := by
  cases members with
  | nil =>
    have hnext : c.next.At strays (blank ++ '\x7d' :: rest) := by simpa [enclosed] using hc.next
    obtain ⟨c₁, hskip, hc₁⟩ := ((before_padding hblank).1 hnext.before).skip (by decide)
    exact ⟨c₁.next, by simp [skipObject, hskip, hc₁.rest], hc₁.next.before⟩
  | cons m members =>
    have hnext : c.next.At strays (memberText m.1 m.2 ++
        (furtherParts '\x7d' (members.map fun m => memberText m.1 m.2) ++ rest)) := by
      simpa [enclosed] using hc.next
    obtain ⟨c₁, ch, more, hskip, hch, rfl, hc₁⟩ :=
      ((opens_of_isQuoted (hnames m (by simp))).append _).skip hnext.before
    obtain ⟨c₂, hname, hc₂⟩ := skipName_of_before (hnames m (by simp))
      (by simpa [memberText] using hc₁)
    obtain ⟨c₃, hitem, hc₃⟩ := h m (by simp) _ _ (ends_furtherParts (.inr rfl) _) hc₂.before
    obtain ⟨c', hmembers, hc'⟩ := skipMembers_of_before (fun m hm => hnames m (by simp [hm]))
      (fun m hm => h m (by simp [hm])) (c₃.rest.length + 1) c₃
      (by simpa using hc₃.fuel_parts (by decide)) hc₃
    refine ⟨c', ?_, hc'⟩
    simp [skipObject, hskip, hch, hname, hitem, hmembers, bind, Except.bind]

end Cursor

/-! ### Any value -/

/-- A well-formed value begins with something that closes no array. -/
theorem WellFormed.opens (h : WellFormed strays text) : Opens (· ≠ ']') text := by
  induction h with
  | padded hbefore _ _ ih => exact ih.around hbefore _
  | nullWord | trueWord | falseWord => exact opens_cons (by decide) (by decide)
  | number h =>
    obtain ⟨ch, more, rfl, hch⟩ := h.exists_cons
    exact opens_cons (number_char hch).1 (number_char hch).2.1
  | string h =>
    obtain ⟨body, -, rfl⟩ := h
    exact opens_cons (by decide : isSpace '"' = false) (by decide)
  | @array blank items _ _ _ =>
    cases items <;> exact opens_cons (by decide : isSpace '[' = false) (by decide)
  | @object blank members _ _ _ _ =>
    cases members <;> exact opens_cons (by decide : isSpace '\x7b' = false) (by decide)

namespace Cursor

theorem Passes.padded {step : Cursor → Except Error Cursor} {before after : List Char}
    (h : Passes strays step text) (hbefore : Padding before) (hafter : Padding after) :
    Passes strays step (before ++ text ++ after) := by
  intro c rest hends hc
  rw [List.append_assoc, List.append_assoc, before_padding hbefore] at hc
  obtain ⟨c', hstep, hc'⟩ := h c _ (hends.padding hafter) hc
  exact ⟨c', hstep, (before_padding hafter).1 hc'⟩

/-- What begins like a number is skipped as one. -/
theorem skipNested_number {fuel : Nat} {ch : Char} {more : List Char} {c₁ : Cursor}
    (hch : ch = '-' ∨ ch.isDigit = true) (hskip : c.skipSpace = c₁) (hrest : c₁.rest = ch :: more) :
    skipNested (fuel + 1) c = (Literal.read .invalidNumber c₁).map Prod.snd := by
  obtain ⟨-, -, hquote, harray, hobject, hnull, htrue, hfalse⟩ := number_char hch
  have hnumber : (ch = '-' || ch.isDigit) = true := by simpa using hch
  simp [skipNested, hskip, hrest, hnumber]

/-- Fuel for the length of brackets is more than what stands between them needs. -/
theorem fuel_of_part {opening closing : Char} {blank part value : List Char}
    {parts : List (List Char)} {fuel : Nat} (hopening : isSpace opening = false)
    (hpart : part ∈ parts) (hle : value.length ≤ part.length)
    (hfuel : ((enclosed opening closing blank parts).dropWhile isSpace).length ≤ fuel) :
    ∃ less, fuel = less + 1 ∧ (value.dropWhile isSpace).length ≤ less := by
  obtain ⟨more, heq⟩ := exists_enclosed_cons opening closing blank parts
  have hlt := length_enclosed_lt opening closing blank hpart
  have hdrop := (List.dropWhile_sublist isSpace (l := value)).length_le
  rw [heq, List.dropWhile_cons_of_neg (by simp [hopening])] at hfuel
  rw [heq] at hlt
  exact ⟨fuel - 1, by omega, by omega⟩

/-- With fuel for its length, a well-formed value is skipped. -/
theorem skipNested_of_wellFormed (h : WellFormed strays text) :
    ∀ fuel, (text.dropWhile isSpace).length ≤ fuel → Passes strays (skipNested (fuel + 1)) text := by
  induction h with
  | @padded before text after hbefore h hafter ih =>
    intro fuel hfuel
    refine Passes.padded (ih fuel ?_) hbefore hafter
    rw [List.append_assoc, List.dropWhile_append_of_pos hbefore, List.dropWhile_append] at hfuel
    obtain ⟨ch, more, heq, -⟩ := h.opens
    simp [heq] at hfuel ⊢
    omega
  | nullWord | trueWord | falseWord =>
    intro fuel _ c rest _ hc
    obtain ⟨c₁, hskip, hc₁⟩ := hc.skip (by decide)
    obtain ⟨c', hword, hc'⟩ := hc₁.next.word _
    exact ⟨c', by simpa [skipNested, hskip, hc₁.rest] using hword, hc'.before⟩
  | number h =>
    intro fuel _ c rest hends hc
    obtain ⟨ch, more, rfl, hch⟩ := h.exists_cons
    obtain ⟨c₁, hskip, hc₁⟩ := hc.skip (number_char hch).1
    obtain ⟨l, hl⟩ := h.exists_spelled
    obtain ⟨c', hread, hc'⟩ := Literal.read_of_spelled .invalidNumber hl hends hc₁
    refine ⟨c', ?_, hc'.before⟩
    rw [skipNested_number hch hskip hc₁.rest, hread]
    rfl
  | string h =>
    intro fuel _ c rest _ hc
    obtain ⟨body, hbody, rfl⟩ := h
    obtain ⟨c₁, hskip, hc₁⟩ := hc.skip (by decide)
    obtain ⟨c', hread, hc'⟩ := StringLiteral.skip_of_quotable hbody (by simpa using hc₁.next)
    exact ⟨c', by simp [skipNested, hskip, hc₁.rest, hread], hc'.before⟩
  | @array blank items hblank h ih =>
    intro fuel hfuel c rest _ hc
    have hitems : ∀ item ∈ items, Passes strays (skipNested fuel) item := by
      intro item hitem
      obtain ⟨less, rfl, hless⟩ := fuel_of_part (by decide) hitem (Nat.le_refl _) hfuel
      exact ih item hitem less hless
    obtain ⟨more, heq⟩ := exists_enclosed_cons '[' ']' blank items
    rw [heq] at hc
    obtain ⟨c₁, hskip, hc₁⟩ := hc.skip (by decide)
    obtain ⟨c', hread, hc'⟩ := skipArray_of_at hblank (fun item hitem => (h item hitem).opens)
      hitems (by rwa [heq])
    exact ⟨c', by simp [skipNested, hskip, hc₁.rest, hread], hc'⟩
  | @object blank members hblank hnames h ih =>
    intro fuel hfuel c rest _ hc
    have hitems : ∀ m ∈ members, Passes strays (skipNested fuel) m.2 := by
      intro m hm
      have hpart := List.mem_map_of_mem (f := fun m => memberText m.1 m.2) hm
      have hle : m.2.length ≤ (memberText m.1 m.2).length := by
        simp [memberText]
        omega
      obtain ⟨less, rfl, hless⟩ := fuel_of_part (by decide) hpart hle hfuel
      exact ih m hm less hless
    obtain ⟨more, heq⟩ := exists_enclosed_cons '\x7b' '\x7d' blank
      (members.map fun m => memberText m.1 m.2)
    rw [heq] at hc
    obtain ⟨c₁, hskip, hc₁⟩ := hc.skip (by decide)
    obtain ⟨c', hread, hc'⟩ := skipObject_of_at hblank hnames hitems (by rwa [heq])
    exact ⟨c', by simp [skipNested, hskip, hc₁.rest, hread], hc'⟩

/-- A well-formed value is skipped, wherever it stands. -/
theorem skipValue_of_wellFormed (h : WellFormed strays text) : Passes strays skipValue text := by
  intro c rest hends hc
  refine skipNested_of_wellFormed h c.rest.length ?_ c _ hends hc
  obtain ⟨ch, more, heq, -⟩ := h.opens
  have hle := hc.length_le
  rw [List.dropWhile_append, heq] at hle
  rw [heq]
  simp at hle ⊢
  omega

end Cursor

end JobWorker.Json
