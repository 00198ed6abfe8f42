/-
Readers accept the forms of what they read.

That a reader accepts a form says that it reads each of the form's texts, wherever one stands and as
long as the levels that are left are enough for how deep the form nests.  Forms are put together
from forms as readers from readers, and the lemmas here follow them; a document as a whole is the
case in which nothing follows.
-/
import JobWorker.Json.Reader
import JobWorker.Proofs.Json.Numbers

namespace JobWorker.Json

variable {α : Type} {strays : Bool} {reader : Reader α} {depth : Nat} {form : Form α}

/-- A reader takes every text of a form, nested at most `depth` levels, as the value it stands for.
No text of the form is taken for the end of an array. -/
structure Accepts (strays : Bool) (reader : Reader α) (depth : Nat) (form : Form α) : Prop where
  opens : ∀ {x : α} {text : List Char}, form x text → Opens (· ≠ ']') text
  reads : ∀ {x : α} {text : List Char}, form x text →
    ∀ {levels : Nat} {c : Cursor} {rest : List Char}, depth ≤ levels → Ends rest →
      c.Before strays (text ++ rest) → ∃ c', reader levels c = .ok (x, c') ∧ c'.Before strays rest

namespace Accepts

/-- Deeper levels do no harm. -/
theorem mono (h : Accepts strays reader depth form) {deeper : Nat} (hle : depth ≤ deeper) :
    Accepts strays reader deeper form where
  opens := h.opens
  reads hform _ _ _ hlevels := h.reads hform (hle.trans hlevels)

/-- A reader that accepts either of two forms. -/
theorem either {other : Form α} (h : Accepts strays reader depth form) (h' : Accepts strays reader depth other) :
    Accepts strays reader depth fun x text => form x text ∨ other x text where
  opens hform := hform.elim h.opens h'.opens
  reads hform _ _ _ hlevels hends hc :=
    hform.elim (fun hform => h.reads hform hlevels hends hc)
      fun hform => h'.reads hform hlevels hends hc

/-- A reader that accepts texts without white space around them accepts them with it. -/
theorem padded {core : Form α}
    (hcore : ∀ {x : α} {inner : List Char}, core x inner →
      ∃ ch more, inner = ch :: more ∧ isSpace ch = false ∧ ch ≠ ']')
    (h : ∀ {x : α} {inner : List Char}, core x inner →
      ∀ {levels : Nat} {c c₁ : Cursor} {rest : List Char}, depth ≤ levels → Ends rest →
        c.skipSpace = c₁ → c₁.At strays (inner ++ rest) →
          ∃ c', reader levels c = .ok (x, c') ∧ c'.Before strays rest) :
    Accepts strays reader depth fun x => Padded (core x) where
  opens h := h.opens fun _ => hcore
  reads := by
    rintro x _ ⟨hbefore, hinner, hafter⟩ levels c rest hlevels hends hc
    rw [List.append_assoc, List.append_assoc, Cursor.before_padding hbefore] at hc
    obtain ⟨ch, more, rfl, hspace, -⟩ := hcore hinner
    obtain ⟨c₁, hskip, hc₁⟩ := hc.skip hspace
    obtain ⟨c', hread, hc'⟩ := h hinner hlevels (hends.padding hafter) hskip hc₁
    exact ⟨c', hread, (Cursor.before_padding hafter).1 hc'⟩

/-- What is left of a document is read as its value. -/
theorem readAll (h : Accepts strays reader depth form) (hdepth : depth ≤ deepest) {x : α} {c : Cursor}
    (hc : c.strays = strays) (hform : form x c.rest) : readAll reader c = .ok x := by
  obtain ⟨c', hread, hc'⟩ := h.reads hform hdepth ends_nil (c := c) ⟨by rw [List.append_nil], hc⟩
  have hend : c'.skipSpace.rest = [] := by
    rw [Cursor.rest_skipSpace, hc'.rest]
    rfl
  simp only [Json.readAll, hread, bind, Except.bind, pure, Except.pure]
  rw [if_pos hend]

/-- A document is read as its value. -/
theorem parse (h : Accepts false reader depth form) (hdepth : depth ≤ deepest) {x : α} {text : String}
    (hform : form x text.toList) : parse reader text = .ok x :=
  h.readAll hdepth rfl hform

/-- A text stands for one value only. -/
theorem unique (h : Accepts strays reader depth form) {x y : α} {text : List Char} (hx : form x text)
    (hy : form y text) : x = y := by
  obtain ⟨c, hc⟩ : ∃ c : Cursor, c.Before strays (text ++ []) :=
    ⟨⟨text, Place.start, strays⟩, by rw [List.append_nil], rfl⟩
  obtain ⟨c₁, hread, -⟩ := h.reads hx (Nat.le_refl _) ends_nil hc
  obtain ⟨c₂, hread', -⟩ := h.reads hy (Nat.le_refl _) ends_nil hc
  rw [hread] at hread'
  exact (Prod.mk.inj (Except.ok.inj hread')).1

end Accepts

/-! ### Strings and integers -/

theorem readString_accepts : Accepts strays readString 0 stringForm := by
  refine .padded ?_ ?_
  · rintro s _ ⟨body, -, rfl⟩
    exact ⟨'"', _, rfl, by decide, by decide⟩
  · rintro s _ ⟨body, hbody, rfl⟩ levels c c₁ rest - - hskip hc₁
    obtain ⟨c', hread, hc'⟩ := StringLiteral.read_of_spells hbody (by simpa using hc₁.next)
    exact ⟨c', by simp [readString, hskip, hc₁.rest, quoted, hread], hc'.before⟩

/-- A text is that of one string only. -/
theorem stringForm_inj {s s' : String} {text : List Char} (h : stringForm s text)
    (h' : stringForm s' text) : s = s' :=
  (@readString_accepts false).unique h h'

/-- What a reader of integers does before a number. -/
theorem readInt_of_at {kind : String} {least greatest n : Int} (hword : FitsWord n)
    (hrange : least ≤ n ∧ n ≤ greatest) (levels : Nat) {c c₁ : Cursor} {rest : List Char}
    (hends : Ends rest) (hskip : c.skipSpace = c₁) (hc₁ : c₁.At strays (Decimal.intText n ++ rest)) :
    ∃ c', readInt kind least greatest levels c = .ok (n, c') ∧ c'.At strays rest := by
  obtain ⟨c', hread, hc'⟩ := readNumber_of_at hword hends hc₁
  obtain ⟨ch, more, htext, hch⟩ := (isNumber_intText n).exists_cons
  refine ⟨c', ?_, hc'⟩
  have hrest : c₁.rest = ch :: (more ++ rest) := by simpa [htext] using hc₁.rest
  have hnumber : (ch = '-' || ch.isDigit) = true := by simpa using hch
  simp [readInt, hskip, hrest, hnumber, hread, hrange, bind, Except.bind, pure, Except.pure]

/-- A reader that makes its values of the integers in a range accepts the texts of those. -/
theorem accepts_of_readInt {kind : String} {least greatest : Int} (build : Int → α)
    {number : α → Int} (hword : ∀ x, FitsWord (number x))
    (hrange : ∀ x, least ≤ number x ∧ number x ≤ greatest) (hbuild : ∀ x, build (number x) = x)
    (hreader : ∀ levels c, reader levels c =
      (readInt kind least greatest levels c).map fun (n, c) => (build n, c)) :
    Accepts strays reader 0 fun x => intForm (number x) := by
  refine .padded ?_ ?_
  · rintro x _ rfl
    obtain ⟨ch, more, htext, hch⟩ := (isNumber_intText (number x)).exists_cons
    exact ⟨ch, more, htext, (number_char hch).1, (number_char hch).2.1⟩
  · rintro x _ rfl levels c c₁ rest - hends hskip hc₁
    obtain ⟨c', hread, hc'⟩ :=
      readInt_of_at (hword x) (hrange x) levels hends hskip hc₁
    refine ⟨c', ?_, hc'.before⟩
    rw [hreader, hread]
    simp [Except.map, hbuild]

theorem readInt32_accepts : Accepts strays readInt32 0 fun x => intForm x.toInt := by
  have hbounds : ∀ x : Int32, Decimal.leastInt32 ≤ x.toInt ∧ x.toInt ≤ Decimal.greatestInt32 :=
    fun x => ⟨x.le_toInt, Int.le_of_lt_add_one x.toInt_lt⟩
  refine accepts_of_readInt Int32.ofInt (fun x => ?_) hbounds Int32.ofInt_toInt fun levels c => rfl
  obtain ⟨hleast, hgreatest⟩ := hbounds x
  constructor
  · exact Int.le_trans (by decide) hleast
  · exact Int.le_trans hgreatest (by decide)

theorem readInt64_accepts : Accepts strays readInt64 0 fun x => intForm x.toInt := by
  have hbounds : ∀ x : Int64, Decimal.leastInt64 ≤ x.toInt ∧ x.toInt ≤ Decimal.greatestInt64 :=
    fun x => ⟨x.le_toInt, Int.le_of_lt_add_one x.toInt_lt⟩
  refine accepts_of_readInt Int64.ofInt (fun x => ?_) hbounds Int64.ofInt_toInt fun levels c => rfl
  exact ⟨(hbounds x).1, Int.le_trans (hbounds x).2 (by decide)⟩

theorem readUInt32_accepts : Accepts strays readUInt32 0 fun x => intForm x.toNat := by
  have hbounds : ∀ x : UInt32, (0 : Int) ≤ x.toNat ∧ (x.toNat : Int) ≤ Decimal.greatestUInt32 := by
    intro x
    have := x.toNat_lt
    rw [Decimal.greatestUInt32]
    omega
  refine accepts_of_readInt (fun n => UInt32.ofNat n.toNat) (fun x => ?_) hbounds (fun x => ?_)
    fun levels c => rfl
  · obtain ⟨hleast, hgreatest⟩ := hbounds x
    exact ⟨Int.le_trans (by decide) hleast, Int.le_trans hgreatest (by decide)⟩
  · simp

theorem readUInt64_accepts : Accepts strays readUInt64 0 fun x => intForm x.toNat := by
  have hbounds : ∀ x : UInt64, (0 : Int) ≤ x.toNat ∧ (x.toNat : Int) ≤ Decimal.greatestUInt64 := by
    intro x
    have := x.toNat_lt
    rw [Decimal.greatestUInt64]
    omega
  refine accepts_of_readInt (fun n => UInt64.ofNat n.toNat) (fun x => ?_) hbounds (fun x => ?_)
    fun levels c => rfl
  · exact ⟨Int.le_trans (by decide) (hbounds x).1, (hbounds x).2⟩
  · simp

/-! ### Optional values -/

theorem readOption_accepts (h : Accepts strays reader depth form)
    (hnull : ∀ {x : α} {text : List Char}, form x text → Opens (· ≠ 'n') text) :
    Accepts strays (readOption reader) depth (optionForm form) where
  opens := by
    intro x text hform
    cases x with
    | none =>
      refine Padded.opens hform ?_
      rintro _ rfl
      exact ⟨'n', _, rfl, by decide, by decide⟩
    | some x => exact h.opens hform
  reads := by
    intro x text hform levels c rest hlevels hends hc
    cases x with
    | none =>
      obtain ⟨hbefore, rfl, hafter⟩ := hform
      rw [List.append_assoc, List.append_assoc, Cursor.before_padding hbefore] at hc
      obtain ⟨c₁, hskip, hc₁⟩ := hc.skip (by decide)
      obtain ⟨c', hword, hc'⟩ := hc₁.next.word ['u', 'l', 'l']
      refine ⟨c', ?_, (Cursor.before_padding hafter).1 hc'.before⟩
      simp [readOption, hskip, hc₁.rest, hword, bind, Except.bind, pure, Except.pure]
    | some x =>
      obtain ⟨c', hread, hc'⟩ := h.reads hform hlevels hends hc
      obtain ⟨c₁, ch, more, hskip, hch, hne, -⟩ := (hnull hform).skip hc
      refine ⟨c', ?_, hc'⟩
      simp [readOption, hskip, hch, hne, hread, bind, Except.bind, pure, Except.pure]

/-! ### Lists -/

namespace Cursor

variable {c : Cursor} {text rest : List Char}

theorem nextItem_closing (first : Bool) (hc : c.Before strays (']' :: rest)) :
    ∃ c', c.nextItem first = .ok (false, c') ∧ c'.At strays (']' :: rest) := by
  obtain ⟨c', hskip, hc'⟩ := hc.skip (by decide)
  exact ⟨c', by simp [nextItem, hskip, hc'.rest], hc'⟩

theorem nextItem_first (hopens : Opens (· ≠ ']') text) (hc : c.Before strays (text ++ rest)) :
    ∃ c', c.nextItem true = .ok (true, c') ∧ c'.Before strays (text ++ rest) := by
  obtain ⟨c', ch, more, hskip, hch, hne, hc'⟩ := hopens.skip hc
  exact ⟨c', by simp [nextItem, hskip, hch, hne], hc'⟩

theorem nextItem_further (hopens : Opens (· ≠ ']') text) (hc : c.Before strays (',' :: (text ++ rest))) :
    ∃ c', c.nextItem false = .ok (true, c') ∧ c'.Before strays (text ++ rest) := by
  obtain ⟨c₁, hskip, hc₁⟩ := hc.skip (by decide)
  obtain ⟨c', ch, more, hskip', hch, hne, hc'⟩ := hopens.skip hc₁.next.before
  exact ⟨c', by simp [nextItem, hskip, hc₁.rest, hskip', hch, hne], hc'⟩

end Cursor

section Items

variable {item : Cursor → Except Error (α × Cursor)} {rest : List Char}

/-- A reader of items takes a text as an item, wherever the text stands. -/
def Takes (strays : Bool) (item : Cursor → Except Error (α × Cursor)) (x : α) (text : List Char) : Prop :=
  ∀ (c : Cursor) (rest : List Char), Ends rest → c.Before strays (text ++ rest) →
    ∃ c', item c = .ok (x, c') ∧ c'.Before strays rest

theorem readItems_further {xs : List α} {texts : List (List Char)}
    (h : List.Forall₂ (fun x text => Opens (· ≠ ']') text ∧ Takes strays item x text) xs texts) :
    ∀ (fuel : Nat) (c : Cursor), texts.length < fuel → c.Before strays (furtherParts ']' texts ++ rest) →
      ∃ c', readItems item fuel false c = .ok (xs, c') ∧ c'.At strays rest := by
  induction h with
  | nil =>
    intro fuel c hfuel hc
    obtain ⟨fuel, rfl⟩ := Nat.exists_eq_succ_of_ne_zero (Nat.ne_zero_of_lt hfuel)
    obtain ⟨c₁, hnext, hc₁⟩ := Cursor.nextItem_closing false hc
    exact ⟨c₁.next, by simp [readItems, hnext, bind, Except.bind, pure, Except.pure], hc₁.next⟩
  | @cons x text xs texts hx _ ih =>
    intro fuel c hfuel hc
    obtain ⟨fuel, rfl⟩ := Nat.exists_eq_succ_of_ne_zero (Nat.ne_zero_of_lt hfuel)
    obtain ⟨hopens, htakes⟩ := hx
    obtain ⟨c₁, hnext, hc₁⟩ := Cursor.nextItem_further hopens (by simpa [furtherParts] using hc)
    obtain ⟨c₂, hitem, hc₂⟩ := htakes c₁ _ (ends_furtherParts (.inl rfl) texts) hc₁
    obtain ⟨c', hitems, hc'⟩ := ih fuel c₂ (by simpa using hfuel) hc₂
    refine ⟨c', ?_, hc'⟩
    simp [readItems, hnext, hitem, hitems, bind, Except.bind, pure, Except.pure]

/-- The items of an array are read behind its opening bracket. -/
theorem readItems_of_at {xs : List α} {texts : List (List Char)} {blank : List Char}
    {c : Cursor} (hblank : Padding blank)
    (h : List.Forall₂ (fun x text => Opens (· ≠ ']') text ∧ Takes strays item x text) xs texts)
    (hc : c.At strays (enclosed '[' ']' blank texts ++ rest)) :
    ∃ c', readItems item (c.rest.length + 1) true c.next = .ok (xs, c') ∧ c'.At strays rest := by
  cases h with
  | nil =>
    have hnext : c.next.At strays (blank ++ ']' :: rest) := by simpa [enclosed] using hc.next
    obtain ⟨c₁, hend, hc₁⟩ :=
      Cursor.nextItem_closing true ((Cursor.before_padding hblank).1 hnext.before)
    exact ⟨c₁.next, by simp [readItems, hend, bind, Except.bind, pure, Except.pure], hc₁.next⟩
  | @cons x text xs texts hx hxs =>
    obtain ⟨hopens, htakes⟩ := hx
    have hnext : c.next.At strays (text ++ (furtherParts ']' texts ++ rest)) := by
      simpa [enclosed] using hc.next
    obtain ⟨c₁, hfirst, hc₁⟩ := Cursor.nextItem_first hopens hnext.before
    obtain ⟨c₂, hitem, hc₂⟩ := htakes c₁ _ (ends_furtherParts (.inl rfl) texts) hc₁
    have hfuel : texts.length < c.rest.length := by
      have := length_furtherParts ']' texts
      rw [hc.rest]
      simp [enclosed]
      omega
    obtain ⟨c', hitems, hc'⟩ := readItems_further hxs _ c₂ hfuel hc₂
    refine ⟨c', ?_, hc'⟩
    simp [readItems, hfirst, hitem, hitems, bind, Except.bind, pure, Except.pure]

end Items

theorem readList_accepts (h : Accepts strays reader depth form) :
    Accepts strays (readList reader) (depth + 1) (listForm form) := by
  refine .padded ?_ ?_
  · rintro xs _ ⟨blank, texts, -, -, rfl⟩
    obtain ⟨more, heq⟩ := exists_enclosed_cons '[' ']' blank texts
    exact ⟨'[', more, heq, by decide, by decide⟩
  · rintro xs _ ⟨blank, texts, hblank, htexts, rfl⟩ levels c c₁ rest hlevels - hskip hc₁
    obtain ⟨levels, rfl⟩ := Nat.exists_eq_succ_of_ne_zero (Nat.ne_zero_of_lt hlevels)
    have hitems : List.Forall₂
        (fun x text => Opens (· ≠ ']') text ∧ Takes strays (reader levels) x text) xs texts := by
      refine htexts.imp fun x text hform => ⟨h.opens hform, fun c rest hends hc => ?_⟩
      exact h.reads hform (Nat.le_of_succ_le_succ hlevels) hends hc
    obtain ⟨c', hread, hc'⟩ := readItems_of_at hblank hitems hc₁
    obtain ⟨more, heq⟩ := exists_enclosed_cons '[' ']' blank texts
    refine ⟨c', ?_, hc'.before⟩
    rw [heq] at hc₁
    simp only [readList, hskip]
    rw [hc₁.rest] at hread ⊢
    exact hread

end JobWorker.Json
