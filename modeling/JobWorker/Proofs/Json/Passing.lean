/-
What a reader has passed is of the kind that it reads.

The other direction to reading: here a reader has succeeded, and the text between where it stood
before and where it stands now is shown to belong to the grammar.  So nothing but JSON is ever read,
and the answer is what the text stands for.  The lemmas follow the readers, one each, for the tokens
and for values that are skipped.
-/
import JobWorker.Json.Skip
import JobWorker.Proofs.Except
import JobWorker.Proofs.Json.Grammar

namespace JobWorker.Json

variable {α : Type} {c c' c'' : Cursor} {ch : Char} {text more : List Char} {ended : Cause}

/-! ### Where a cursor has come to -/

namespace Cursor

@[simp] theorem fail_eq_ok_iff {cause : Cause} {x : α} : c.fail cause = .ok x ↔ False := by
  simp [fail]

@[simp] theorem failPast_eq_ok_iff {bytes : Nat} {cause : Cause} {x : α} :
    c.failPast bytes cause = .ok x ↔ False := by
  simp [failPast]

@[simp] theorem failAt_eq_ok_iff {cause : Cause} {x : α} : c.failAt cause = .ok x ↔ False := by
  simp [failAt]

/-- The cursor has passed a text. -/
structure Passed (c : Cursor) (text : List Char) (c' : Cursor) : Prop where
  rest : c.rest = text ++ c'.rest
  strays : c'.strays = c.strays

theorem Passed.refl (c : Cursor) : c.Passed [] c := ⟨rfl, rfl⟩

theorem Passed.trans (h : c.Passed text c') (h' : c'.Passed more c'') :
    c.Passed (text ++ more) c'' :=
  ⟨by rw [h.rest, h'.rest, List.append_assoc], h'.strays.trans h.strays⟩

theorem passed_next (h : c.rest = ch :: more) : c.Passed [ch] c.next := ⟨by simp [h], by simp⟩

theorem Passed.cons (h : c.rest = ch :: more) (h' : c.next.Passed text c') :
    c.Passed (ch :: text) c' :=
  (passed_next h).trans h'

theorem passed_drop (h : c.rest = text ++ more) : c.Passed text (c.drop text.length) :=
  ⟨by simp [h], by simp⟩

theorem passed_skipSpace (c : Cursor) : ∃ blank, Padding blank ∧ c.Passed blank c.skipSpace := by
  refine ⟨c.rest.takeWhile isSpace, fun ch hch => ?_, ?_, by simp⟩
  · simpa using List.all_eq_true.1 (List.all_takeWhile (p := isSpace) (l := c.rest)) ch hch
  · rw [rest_skipSpace, List.takeWhile_append_dropWhile]

/-- A word that has been read to its end has been passed. -/
theorem passed_word {word : List Char} (h : Cursor.word word c = .ok c') : c.Passed word c' := by
  induction word generalizing c with
  | nil =>
    cases h
    exact .refl _
  | cons w word ih =>
    unfold Cursor.word at h
    split at h
    · cases h
    · next hrest =>
      split at h
      · next heq =>
        subst heq
        exact (ih h).cons hrest
      · cases h

end Cursor

/-! ### Strings -/

namespace StringLiteral

/-- A text that spells something may stand between quotes. -/
theorem quotable_of_spells {chars body : List Char} (strays : Bool) (h : Spells chars body) :
    Quotable strays body := by
  induction h with
  | nil => exact .nil
  | plain hquote hslash hcontrol _ ih => exact .plain hquote hslash hcontrol ih
  | short hletter _ ih => exact .short (by simp [hletter]) ih
  | code hdigits _ _ _ ih => exact .code (by simp [hdigits]) ih
  | pair hdigits _ hdigits' _ _ ih => exact .code (by simp [hdigits]) (.code (by simp [hdigits']) ih)

theorem passed_readHex {n : Nat} (h : readHex c = .ok (n, c')) :
    ∃ a b x y, hexDigits? a b x y = some n ∧ c.Passed [a, b, x, y] c' := by
  unfold readHex at h
  split at h
  · next a b x y more hrest =>
    split at h
    · next hdigits =>
      cases h
      have hpassed : c.Passed [a, b, x, y] (c.drop [a, b, x, y].length) := Cursor.passed_drop hrest
      exact ⟨a, b, x, y, hdigits, hpassed⟩
    · simp at h
  · simp at h

theorem passed_expectEscape (h : expectEscape ch c = .ok c') : c.Passed [ch] c' := by
  unfold expectEscape at h
  split at h
  · simp at h
  · next hrest =>
    split at h
    · next heq =>
      subst heq
      cases h
      exact Cursor.passed_next hrest
    · simp at h

/-- A text that may stand before any other between the quotes, and stands for a character there. -/
def Escapes (meant : Char) (text : List Char) : Prop :=
  ∀ chars body, Spells chars body → Spells (meant :: chars) (text ++ body)

theorem passed_readCodePoint {meant : Char} (h : readCodePoint c = .ok (meant, c')) :
    ∃ text, Escapes meant ('\\' :: 'u' :: text) ∧ c.Passed text c' := by
  obtain ⟨⟨n, c₁⟩, hhex, h⟩ := bind_eq_ok_iff.1 h
  obtain ⟨a, b, x, y, hdigits, hc₁⟩ := passed_readHex hhex
  simp only at h
  split at h
  · simp at h
  next htrailing =>
  rw [Bool.not_eq_true] at htrailing
  split at h
  · next hleading =>
    obtain ⟨c₂, hslash, h⟩ := bind_eq_ok_iff.1 h
    obtain ⟨c₃, hletter, h⟩ := bind_eq_ok_iff.1 h
    obtain ⟨⟨n', c₄⟩, hhex', h⟩ := bind_eq_ok_iff.1 h
    obtain ⟨a', b', x', y', hdigits', hc₄⟩ := passed_readHex hhex'
    simp only at h
    split at h
    · next htrailing' =>
      obtain ⟨rfl, rfl⟩ := Prod.mk.inj (Except.ok.inj h)
      have hpassed := hc₁.trans ((passed_expectEscape hslash).trans
        ((passed_expectEscape hletter).trans hc₄))
      exact ⟨[a, b, x, y, '\\', 'u', a', b', x', y'],
        fun chars body hbody => .pair hdigits hleading hdigits' htrailing' hbody, hpassed⟩
    · simp at h
  · next hleading =>
    rw [Bool.not_eq_true] at hleading
    cases h
    exact ⟨[a, b, x, y], fun chars body hbody => .code hdigits hleading htrailing hbody, hc₁⟩

theorem passed_readEscape {meant : Char} (h : readEscape c = .ok (meant, c')) :
    ∃ text, Escapes meant ('\\' :: text) ∧ c.Passed text c' := by
  unfold readEscape at h
  split at h
  · simp at h
  next letter more hrest =>
  split at h
  · next hu =>
    subst hu
    obtain ⟨text, hescapes, hc'⟩ := passed_readCodePoint h
    exact ⟨_, hescapes, hc'.cons hrest⟩
  · split at h
    · next hshort =>
      cases h
      exact ⟨[letter], fun chars body hbody => .short hshort hbody, Cursor.passed_next hrest⟩
    · simp at h

theorem passed_readChars {fuel : Nat} {chars : List Char} (h : readChars fuel c = .ok (chars, c')) :
    ∃ body, Spells chars body ∧ c.Passed (body ++ ['"']) c' := by
  induction fuel generalizing c chars with
  | zero => simp [readChars] at h
  | succ fuel ih =>
    unfold readChars at h
    split at h
    · simp at h
    next ch more hrest =>
    split at h
    · next hquote =>
      subst hquote
      cases h
      exact ⟨[], .nil, Cursor.passed_next hrest⟩
    next hquote =>
    split at h
    · next hslash =>
      subst hslash
      obtain ⟨⟨meant, c₁⟩, hescape, h⟩ := bind_eq_ok_iff.1 h
      obtain ⟨⟨chars, c₂⟩, hchars, h⟩ := bind_eq_ok_iff.1 h
      cases h
      obtain ⟨text, hescapes, hc₁⟩ := passed_readEscape hescape
      obtain ⟨body, hbody, hc₂⟩ := ih hchars
      refine ⟨_, hescapes _ _ hbody, ?_⟩
      simpa using (hc₁.cons hrest).trans hc₂
    next hslash =>
    split at h
    · simp at h
    split at h
    · simp at h
    next hcontrol =>
    obtain ⟨⟨chars, c₁⟩, hchars, h⟩ := bind_eq_ok_iff.1 h
    cases h
    obtain ⟨body, hbody, hc₁⟩ := ih hchars
    exact ⟨_, .plain hquote hslash (Nat.le_of_not_lt hcontrol) hbody, hc₁.cons hrest⟩

/-- A string that has been read is spelled by what stands before its closing quote. -/
theorem passed_read {s : String} (h : read c = .ok (s, c')) :
    ∃ body, Spells s.toList body ∧ c.Passed (body ++ ['"']) c' := by
  obtain ⟨⟨chars, c₁⟩, hchars, h⟩ := bind_eq_ok_iff.1 h
  cases h
  obtain ⟨body, hbody, hc₁⟩ := passed_readChars hchars
  exact ⟨body, by simpa using hbody, hc₁⟩

theorem passed_skipEscape (h : skipEscape c = .ok c') :
    ∃ text, (∀ body, Quotable c.strays body → Quotable c.strays ('\\' :: text ++ body)) ∧
      c.Passed text c' := by
  unfold skipEscape at h
  split at h
  · simp at h
  next letter more hrest =>
  split at h
  · next hu =>
    subst hu
    obtain ⟨⟨n, c₁⟩, hhex, rfl⟩ := map_eq_ok_iff.1 h
    obtain ⟨a, b, x, y, hdigits, hc₁⟩ := passed_readHex hhex
    exact ⟨['u', a, b, x, y], fun body hbody => .code (by simp [hdigits]) hbody, hc₁.cons hrest⟩
  · split at h
    · next hshort =>
      cases h
      exact ⟨[letter], fun body hbody => .short hshort hbody, Cursor.passed_next hrest⟩
    · simp at h

theorem passed_skipChars {fuel : Nat} (h : skipChars fuel c = .ok c') :
    ∃ body, Quotable c.strays body ∧ c.Passed (body ++ ['"']) c' := by
  induction fuel generalizing c with
  | zero => simp [skipChars] at h
  | succ fuel ih =>
    unfold skipChars at h
    split at h
    · simp at h
    next ch more hrest =>
    split at h
    · next hquote =>
      subst hquote
      cases h
      exact ⟨[], .nil, Cursor.passed_next hrest⟩
    next hquote =>
    split at h
    · next hslash =>
      subst hslash
      obtain ⟨c₁, hescape, h⟩ := bind_eq_ok_iff.1 h
      obtain ⟨text, hescapes, hc₁⟩ := passed_skipEscape hescape
      obtain ⟨body, hbody, hc'⟩ := ih h
      have hpassed := (hc₁.cons hrest).trans hc'
      rw [hc₁.strays, Cursor.strays_next] at hbody
      rw [Cursor.strays_next] at hescapes
      exact ⟨_, hescapes body hbody, by simpa using hpassed⟩
    next hslash =>
    split at h
    · next hstray =>
      simp only [Bool.and_eq_true, decide_eq_true_eq] at hstray
      obtain ⟨hstrays, rfl⟩ := hstray
      obtain ⟨body, hbody, hc'⟩ := ih h
      rw [Cursor.strays_next] at hbody
      exact ⟨_, .stray hstrays hbody, hc'.cons hrest⟩
    split at h
    · simp at h
    next hcontrol =>
    obtain ⟨body, hbody, hc'⟩ := ih h
    rw [Cursor.strays_next] at hbody
    exact ⟨_, .plain hquote hslash (Nat.le_of_not_lt hcontrol) hbody, hc'.cons hrest⟩

theorem passed_skip (h : skip c = .ok c') :
    ∃ body, Quotable c.strays body ∧ c.Passed (body ++ ['"']) c' :=
  passed_skipChars h

end StringLiteral

/-! ### Numbers -/

/-- Digits that have been taken from the beginning of a text. -/
theorem passed_leadingDigits {digits : List Char} (h : leadingDigits c.rest = digits)
    (hne : digits ≠ []) : IsDigits digits ∧ c.Passed digits (c.drop digits.length) := by
  subst h
  refine ⟨⟨hne, fun ch hch => ?_⟩, ?_⟩
  · exact List.all_eq_true.1 List.all_takeWhile ch hch
  · exact Cursor.passed_drop (List.takeWhile_append_dropWhile (p := Char.isDigit)).symm

namespace Literal

theorem passed_readWhole {whole : List Char} (h : readWhole ended c = .ok (whole, c')) :
    IsWhole whole ∧ c.Passed whole c' := by
  unfold readWhole at h
  split at h
  · simp at h
  · next hrest =>
    split at h
    · simp at h
    · cases h
      exact ⟨⟨⟨by simp, List.all_eq_true.mp rfl⟩, fun _ => rfl⟩, Cursor.passed_next hrest⟩
  · next ch more hzero hrest =>
    split at h
    · next hdigit =>
      have hlead : leadingDigits (ch :: more) = ch :: leadingDigits more := by
        simp [leadingDigits, hdigit]
      cases h
      rw [← hrest]
      obtain ⟨hdigits, hpassed⟩ := passed_leadingDigits (c := c) rfl (by simp [hrest, hlead])
      refine ⟨⟨hdigits, fun hhead => ?_⟩, hpassed⟩
      rw [hrest, hlead, List.head?_cons, Option.some.injEq] at hhead
      exact absurd hhead hzero
    · simp at h

theorem passed_readFraction {fraction : Option (List Char)}
    (h : readFraction ended c = .ok (fraction, c')) :
    ∃ text, FractionText fraction text ∧ c.Passed text c' := by
  unfold readFraction at h
  split at h
  · next more hrest =>
    split at h
    · simp at h
    · next hne =>
      cases h
      have hnext : c.next.rest = more := by simp [hrest]
      obtain ⟨hdigits, hpassed⟩ := passed_leadingDigits (c := c.next) (by rw [hnext]) hne
      exact ⟨_, .digits hdigits, hpassed.cons hrest⟩
  · cases h
    exact ⟨[], .none, .refl c⟩

theorem passed_readSign (c : Cursor) :
    ∃ text, SignText (readSign c).1 text ∧ c.Passed text (readSign c).2 := by
  unfold readSign
  split
  · next hrest => exact ⟨_, .plus, Cursor.passed_next hrest⟩
  · next hrest => exact ⟨_, .minus, Cursor.passed_next hrest⟩
  · exact ⟨_, .none, .refl c⟩

theorem passed_readPower {power : Option Power} (h : readPower ended c = .ok (power, c')) :
    ∃ text, PowerText power text ∧ c.Passed text c' := by
  unfold readPower at h
  split at h
  · cases h
    exact ⟨[], .none, .refl c⟩
  next ch more hrest =>
  split at h
  · next hmark =>
    obtain ⟨sign, hsign, hc₁⟩ := passed_readSign c.next
    simp only at h
    split at h
    · simp at h
    · next hne =>
      cases h
      obtain ⟨hdigits, hpassed⟩ := passed_leadingDigits (c := (readSign c.next).2) rfl hne
      refine ⟨_, .digits (by simpa using hmark) hsign hdigits, ?_⟩
      exact (hc₁.trans hpassed).cons hrest
  · cases h
    exact ⟨[], .none, .refl c⟩

/-- A literal that has been read is what has been passed. -/
theorem passed_read {l : Literal} (h : read ended c = .ok (l, c')) :
    ∃ text, l.Spelled text ∧ c.Passed text c' := by
  obtain ⟨⟨whole, c₁⟩, hwhole, h⟩ := bind_eq_ok_iff.1 h
  obtain ⟨⟨fraction, c₂⟩, hfraction, h⟩ := bind_eq_ok_iff.1 h
  obtain ⟨⟨power, c₃⟩, hpower, h⟩ := bind_eq_ok_iff.1 h
  cases h
  obtain ⟨hwhole, hc₁⟩ := passed_readWhole hwhole
  obtain ⟨_, hfraction, hc₂⟩ := passed_readFraction hfraction
  obtain ⟨_, hpower, hc₃⟩ := passed_readPower hpower
  refine ⟨_, .parts hwhole hfraction hpower, ?_⟩
  have hbehind := (hc₁.trans hc₂).trans hc₃
  by_cases hminus : c.rest.head? = some '-'
  · obtain ⟨more, hrest⟩ := List.head?_eq_some_iff.1 hminus
    rw [if_pos hminus] at hbehind
    simpa [hminus] using hbehind.cons hrest
  · rw [if_neg hminus] at hbehind
    simpa [hminus] using hbehind

end Literal

theorem passed_readNumber {n : Number} (h : readNumber c = .ok (n, c')) :
    ∃ text, NumberText n text ∧ c.Passed text c' := by
  obtain ⟨⟨l, c₁⟩, hread, h⟩ := bind_eq_ok_iff.1 h
  obtain ⟨text, hspelled, hc₁⟩ := Literal.passed_read hread
  simp only at h
  split at h
  · next heval =>
    cases h
    exact ⟨text, ⟨l, hspelled, heval⟩, hc₁⟩
  · cases h

/-! ### Values that are skipped -/

namespace Cursor

variable {strays : Bool} {item : Cursor → Except Error Cursor}

theorem passed_colon (h : c.colon = .ok c') : ∃ blank, Padding blank ∧ c.Passed (blank ++ [':']) c' := by
  obtain ⟨blank, hblank, hskip⟩ := passed_skipSpace c
  unfold colon at h
  simp only at h
  split at h
  · simp at h
  next ch more hrest =>
  split at h
  · next hcolon =>
    subst hcolon
    cases h
    exact ⟨blank, hblank, hskip.trans (passed_next hrest)⟩
  · simp at h

theorem passed_skipName (h : c.skipName = .ok c') :
    ∃ name, Padded (IsQuoted c.strays) name ∧ c.Passed (name ++ [':']) c' := by
  obtain ⟨before, hbefore, hskip⟩ := passed_skipSpace c
  unfold skipName at h
  simp only at h
  split at h
  · simp at h
  next ch more hrest =>
  split at h
  · next hquote =>
    subst hquote
    obtain ⟨c₁, hname, h⟩ := bind_eq_ok_iff.1 h
    obtain ⟨body, hbody, hc₁⟩ := StringLiteral.passed_skip hname
    obtain ⟨after, hafter, hcolon⟩ := passed_colon h
    rw [strays_next, hskip.strays] at hbody
    refine ⟨_, .around hbefore ⟨body, hbody, rfl⟩ hafter, ?_⟩
    simpa [quoted] using hskip.trans ((hc₁.cons hrest).trans hcolon)
  · simp at h

/-- A step that only ever passes well-formed values. -/
def StaysIn (strays : Bool) (item : Cursor → Except Error Cursor) : Prop :=
  ∀ {c c' : Cursor}, c.strays = strays → item c = .ok c' →
    ∃ text, WellFormed strays text ∧ c.Passed text c'

theorem passed_skipItems (hitem : StaysIn strays item) {fuel : Nat} (hc : c.strays = strays)
    (h : skipItems item fuel c = .ok c') :
    ∃ blank items, Padding blank ∧ (∀ text ∈ items, WellFormed strays text) ∧
      c.Passed (blank ++ furtherParts ']' items) c' := by
  induction fuel generalizing c with
  | zero => simp [skipItems] at h
  | succ fuel ih =>
    obtain ⟨blank, hblank, hskip⟩ := passed_skipSpace c
    unfold skipItems at h
    simp only at h
    split at h
    · simp at h
    next ch more hrest =>
    split at h
    · next hcomma =>
      subst hcomma
      obtain ⟨c₁, hfirst, h⟩ := bind_eq_ok_iff.1 h
      obtain ⟨text, htext, hc₁⟩ := hitem (by simp [hc]) hfirst
      obtain ⟨after, items, hafter, hitems, hc'⟩ := ih (by simp [hc₁.strays, hc]) h
      refine ⟨blank, (text ++ after) :: items, hblank, ?_, ?_⟩
      · rw [List.forall_mem_cons]
        exact ⟨.padded padding_nil htext hafter, hitems⟩
      · simpa [furtherParts] using hskip.trans ((hc₁.cons hrest).trans hc')
    next hcomma =>
    split at h
    · next hclosing =>
      subst hclosing
      cases h
      exact ⟨blank, [], hblank, List.forall_mem_nil _, hskip.trans (passed_next hrest)⟩
    · simp at h

theorem passed_skipArray (hitem : StaysIn strays item) (hc : c.strays = strays)
    (h : skipArray item c = .ok c') :
    ∃ text, WellFormed strays ('[' :: text) ∧ c.Passed text c' := by
  obtain ⟨blank, hblank, hskip⟩ := passed_skipSpace c
  unfold skipArray at h
  simp only at h
  split at h
  · simp at h
  next ch more hrest =>
  split at h
  · next hclosing =>
    subst hclosing
    cases h
    exact ⟨_, .array hblank (List.forall_mem_nil _), hskip.trans (passed_next hrest)⟩
  · obtain ⟨c₁, hfirst, h⟩ := bind_eq_ok_iff.1 h
    obtain ⟨text, htext, hc₁⟩ := hitem (by simp [hc]) hfirst
    obtain ⟨after, items, hafter, hitems, hc'⟩ := passed_skipItems hitem (by simp [hc₁.strays, hc]) h
    refine ⟨(blank ++ text ++ after) ++ furtherParts ']' items,
      @WellFormed.array _ [] ((blank ++ text ++ after) :: items) padding_nil ?_,
      by simpa using hskip.trans (hc₁.trans hc')⟩
    rw [List.forall_mem_cons]
    exact ⟨.padded hblank htext hafter, hitems⟩

/-- Members that may be skipped, with white space before and behind. -/
structure Skippable (strays : Bool) (members : List (List Char × List Char)) : Prop where
  names : ∀ m ∈ members, Padded (IsQuoted strays) m.1
  values : ∀ m ∈ members, WellFormed strays m.2

theorem Skippable.cons {name value : List Char} {members : List (List Char × List Char)}
    (hname : Padded (IsQuoted strays) name) (hvalue : WellFormed strays value)
    (h : Skippable strays members) : Skippable strays ((name, value) :: members) where
  names := List.forall_mem_cons.2 ⟨hname, h.names⟩
  values := List.forall_mem_cons.2 ⟨hvalue, h.values⟩

/-- One member is passed. -/
theorem passed_member (hitem : StaysIn strays item) (hc : c.strays = strays) {c₁ : Cursor}
    (hname : c.skipName = .ok c₁) (hvalue : item c₁ = .ok c') :
    ∃ name value, Padded (IsQuoted strays) name ∧ WellFormed strays value ∧
      c.Passed (memberText name value) c' := by
  obtain ⟨name, hname, hc₁⟩ := passed_skipName hname
  obtain ⟨value, hvalue, hc'⟩ := hitem (hc₁.strays.trans hc) hvalue
  exact ⟨name, value, hc ▸ hname, hvalue, by simpa [memberText] using hc₁.trans hc'⟩

theorem passed_skipMembers (hitem : StaysIn strays item) {fuel : Nat} (hc : c.strays = strays)
    (h : skipMembers item fuel c = .ok c') :
    ∃ blank members, Padding blank ∧ Skippable strays members ∧
      c.Passed (blank ++ furtherParts '\x7d' (members.map fun m => memberText m.1 m.2)) c' := by
  induction fuel generalizing c with
  | zero => simp [skipMembers] at h
  | succ fuel ih =>
    obtain ⟨blank, hblank, hskip⟩ := passed_skipSpace c
    unfold skipMembers at h
    simp only at h
    split at h
    · simp at h
    next ch more hrest =>
    split at h
    · next hcomma =>
      subst hcomma
      obtain ⟨c₁, hname, h⟩ := bind_eq_ok_iff.1 h
      obtain ⟨c₂, hvalue, h⟩ := bind_eq_ok_iff.1 h
      obtain ⟨name, value, hname, hvalue, hc₂⟩ := passed_member hitem (by simp [hc]) hname hvalue
      obtain ⟨after, members, hafter, hmembers, hc'⟩ := ih (by simp [hc₂.strays, hc]) h
      refine ⟨blank, (name, value ++ after) :: members, hblank,
        hmembers.cons hname (.padded padding_nil hvalue hafter), ?_⟩
      simpa [furtherParts, memberText] using hskip.trans ((hc₂.cons hrest).trans hc')
    next hcomma =>
    split at h
    · next hclosing =>
      subst hclosing
      cases h
      exact ⟨blank, [], hblank, ⟨List.forall_mem_nil _, List.forall_mem_nil _⟩,
        hskip.trans (passed_next hrest)⟩
    · simp at h

theorem passed_skipObject (hitem : StaysIn strays item) (hc : c.strays = strays)
    (h : skipObject item c = .ok c') :
    ∃ text, WellFormed strays ('\x7b' :: text) ∧ c.Passed text c' := by
  obtain ⟨blank, hblank, hskip⟩ := passed_skipSpace c
  unfold skipObject at h
  simp only at h
  split at h
  · simp at h
  next ch more hrest =>
  split at h
  · next hclosing =>
    subst hclosing
    cases h
    exact ⟨_, @WellFormed.object _ blank [] hblank (List.forall_mem_nil _) (List.forall_mem_nil _),
      hskip.trans (passed_next hrest)⟩
  · obtain ⟨c₁, hname, h⟩ := bind_eq_ok_iff.1 h
    obtain ⟨c₂, hvalue, h⟩ := bind_eq_ok_iff.1 h
    obtain ⟨name, value, hname, hvalue, hc₂⟩ := passed_member hitem (by simp [hc]) hname hvalue
    obtain ⟨after, members, hafter, hmembers, hc'⟩ :=
      passed_skipMembers hitem (by simp [hc₂.strays, hc]) h
    have hall := hmembers.cons (hname.padded hblank padding_nil) (.padded padding_nil hvalue hafter)
    refine ⟨_, @WellFormed.object _ [] _ padding_nil hall.names hall.values, ?_⟩
    simpa [memberText] using hskip.trans (hc₂.trans hc')

/-- A value that has been skipped is well formed. -/
theorem passed_skipNested {fuel : Nat} (hc : c.strays = strays) (h : skipNested fuel c = .ok c') :
    ∃ text, WellFormed strays text ∧ c.Passed text c' := by
  induction fuel generalizing c c' with
  | zero => simp [skipNested] at h
  | succ fuel ih =>
    obtain ⟨blank, hblank, hskip⟩ := passed_skipSpace c
    -- it is enough to look at what stands behind the white space
    suffices ∃ text, WellFormed strays text ∧ c.skipSpace.Passed text c' by
      obtain ⟨text, htext, hc'⟩ := this
      exact ⟨blank ++ text ++ [], .padded hblank htext padding_nil, by simpa using hskip.trans hc'⟩
    have hstrays : c.skipSpace.next.strays = strays := by simp [hc]
    unfold skipNested at h
    simp only at h
    split at h
    · simp at h
    · next hrest => exact ⟨_, .nullWord, (passed_word h).cons hrest⟩
    · next hrest => exact ⟨_, .trueWord, (passed_word h).cons hrest⟩
    · next hrest => exact ⟨_, .falseWord, (passed_word h).cons hrest⟩
    · next hrest =>
      obtain ⟨body, hbody, hc'⟩ := StringLiteral.passed_skip h
      rw [hstrays] at hbody
      exact ⟨_, .string ⟨body, hbody, rfl⟩, hc'.cons hrest⟩
    · next hrest =>
      obtain ⟨text, htext, hc'⟩ := passed_skipArray ih hstrays h
      exact ⟨_, htext, hc'.cons hrest⟩
    · next hrest =>
      obtain ⟨text, htext, hc'⟩ := passed_skipObject ih hstrays h
      exact ⟨_, htext, hc'.cons hrest⟩
    · split at h
      · obtain ⟨⟨l, c₁⟩, hread, rfl⟩ := map_eq_ok_iff.1 h
        obtain ⟨text, hspelled, hc₁⟩ := Literal.passed_read hread
        exact ⟨text, .number hspelled.isNumber, hc₁⟩
      · simp at h

/-- A value that has been skipped is well formed. -/
theorem passed_skipValue (hc : c.strays = strays) (h : c.skipValue = .ok c') :
    ∃ text, WellFormed strays text ∧ c.Passed text c' :=
  passed_skipNested hc h

end Cursor

end JobWorker.Json
