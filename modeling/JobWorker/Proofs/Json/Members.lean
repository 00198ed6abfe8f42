/-
The members of an object are taken in the order in which they stand.

What is taken into the state is left to whoever reads the object; here it is only said that a step
takes a member, wherever the member stands.  The steps make up a fold, and the fold is what reading
all members of an object comes to.
-/
import JobWorker.Json.Sequence
import JobWorker.Proofs.Json.Skipping

namespace JobWorker.Json

/-- A member of an object as it stands in a text. -/
structure Member where
  name : String
  /-- The text of the name. -/
  spelling : List Char
  value : List Char

/-- The text of a member. -/
def Member.text (m : Member) : List Char := memberText m.spelling m.value

namespace Cursor

variable {c : Cursor} {strays : Bool} {name : String} {spelling text rest : List Char}

/-- Where a member stands, its name is found behind the white space. -/
theorem memberName_of_before (h : stringForm name spelling)
    (hc : c.Before strays (memberText spelling text)) :
    ∃ c₁ more c', c.skipSpace = c₁ ∧ c₁.rest = '"' :: more ∧
      c₁.memberName = .ok (some name, c') ∧ c'.Before strays (':' :: text) := by
  obtain ⟨hbefore, ⟨body, hbody, rfl⟩, hafter⟩ := h
  rw [memberText, List.append_assoc, List.append_assoc, before_padding hbefore] at hc
  obtain ⟨c₁, hskip, hc₁⟩ := hc.skip (by decide)
  obtain ⟨c', hread, hc'⟩ := StringLiteral.read_of_spells hbody (by simpa using hc₁.next)
  refine ⟨c₁, _, c', hskip, hc₁.rest, ?_, (before_padding hafter).1 hc'.before⟩
  simp [memberName, hc₁.rest, hread, bind, Except.bind, pure, Except.pure]

theorem nextMember_closing (first : Bool) (hc : c.Before strays ('\x7d' :: rest)) :
    ∃ c', c.nextMember first = .ok (none, c') ∧ c'.At strays ('\x7d' :: rest) := by
  obtain ⟨c', hskip, hc'⟩ := hc.skip (by decide)
  exact ⟨c', by simp [nextMember, hskip, hc'.rest], hc'⟩

theorem nextMember_first (h : stringForm name spelling) (hc : c.Before strays (memberText spelling text)) :
    ∃ c', c.nextMember true = .ok (some name, c') ∧ c'.Before strays (':' :: text) := by
  obtain ⟨c₁, more, c', hskip, hrest, hname, hc'⟩ := memberName_of_before h hc
  exact ⟨c', by simp [nextMember, hskip, hrest, hname], hc'⟩

theorem nextMember_further (h : stringForm name spelling)
    (hc : c.Before strays (',' :: memberText spelling text)) :
    ∃ c', c.nextMember false = .ok (some name, c') ∧ c'.Before strays (':' :: text) := by
  obtain ⟨c₁, hskip, hc₁⟩ := hc.skip (by decide)
  obtain ⟨c₂, more, c', hskip', hrest, hname, hc'⟩ := memberName_of_before h hc₁.next.before
  exact ⟨c', by simp [nextMember, hskip, hc₁.rest, hskip', hrest, hname], hc'⟩

end Cursor

/-! ### Folds -/

section Folds

variable {σ : Type} {strays : Bool} {member : σ → String → Cursor → Except Error (σ × Cursor)}
  {c : Cursor} {rest : List Char}

/-- A step takes a member into the state, wherever the member stands. -/
def TakesMember (strays : Bool) (member : σ → String → Cursor → Except Error (σ × Cursor))
    (state : σ) (m : Member) (state' : σ) : Prop :=
  ∀ (c : Cursor) (rest : List Char), Ends rest → c.Before strays (':' :: (m.value ++ rest)) →
    ∃ c', member state m.name c = .ok (state', c') ∧ c'.Before strays rest

/-- Steps that take some members one after the other. -/
inductive Folds (strays : Bool) (member : σ → String → Cursor → Except Error (σ × Cursor)) :
    σ → List Member → σ → Prop
  | nil {state : σ} : Folds strays member state [] state
  | cons {state state₁ state' : σ} {m : Member} {members : List Member} :
      stringForm m.name m.spelling → TakesMember strays member state m state₁ →
      Folds strays member state₁ members state' → Folds strays member state (m :: members) state'

theorem foldMembers_further {state state' : σ} {members : List Member}
    (h : Folds strays member state members state') :
    ∀ (fuel : Nat) (c : Cursor), members.length < fuel →
      c.Before strays (furtherParts '\x7d' (members.map Member.text) ++ rest) →
      ∃ c', foldMembers member fuel false state c = .ok (state', c') ∧
        c'.At strays ('\x7d' :: rest) := by
  induction h with
  | nil =>
    intro fuel c hfuel hc
    obtain ⟨fuel, rfl⟩ := Nat.exists_eq_succ_of_ne_zero (Nat.ne_zero_of_lt hfuel)
    obtain ⟨c', hnext, hc'⟩ := Cursor.nextMember_closing false hc
    exact ⟨c', by simp [foldMembers, hnext, bind, Except.bind, pure, Except.pure], hc'⟩
  | @cons _ _ _ m members hspelled hstep _ ih =>
    intro fuel c hfuel hc
    obtain ⟨fuel, rfl⟩ := Nat.exists_eq_succ_of_ne_zero (Nat.ne_zero_of_lt hfuel)
    obtain ⟨c₁, hnext, hc₁⟩ := Cursor.nextMember_further hspelled
      (by simpa [furtherParts, Member.text, memberText] using hc)
    obtain ⟨c₂, htake, hc₂⟩ :=
      hstep c₁ _ (ends_furtherParts (.inr rfl) (members.map Member.text)) hc₁
    obtain ⟨c', hfold, hc'⟩ := ih fuel c₂ (by simpa using hfuel) hc₂
    exact ⟨c', by simp [foldMembers, hnext, htake, hfold, bind, Except.bind], hc'⟩

/-- The members of an object are taken behind its opening bracket. -/
theorem foldMembers_of_at {blank : List Char} {state state' : σ} {members : List Member}
    (hblank : Padding blank) (h : Folds strays member state members state')
    (hc : c.At strays (enclosed '\x7b' '\x7d' blank (members.map Member.text) ++ rest)) :
    ∃ c', foldMembers member (c.next.rest.length + 1) true state c.next = .ok (state', c') ∧
      c'.At strays ('\x7d' :: rest) := by
  cases h with
  | nil =>
    have hnext : c.next.At strays (blank ++ '\x7d' :: rest) := by simpa [enclosed] using hc.next
    obtain ⟨c', hend, hc'⟩ :=
      Cursor.nextMember_closing true ((Cursor.before_padding hblank).1 hnext.before)
    exact ⟨c', by simp [foldMembers, hend, bind, Except.bind, pure, Except.pure], hc'⟩
  | @cons _ _ _ m members hspelled hstep hmore =>
    have hnext : c.next.At strays (memberText m.spelling
        (m.value ++ (furtherParts '\x7d' (members.map Member.text) ++ rest))) := by
      simpa [enclosed, Member.text, memberText] using hc.next
    obtain ⟨c₁, hfirst, hc₁⟩ := Cursor.nextMember_first hspelled hnext.before
    obtain ⟨c₂, htake, hc₂⟩ :=
      hstep c₁ _ (ends_furtherParts (.inr rfl) (members.map Member.text)) hc₁
    have hfuel : members.length < c.next.rest.length := by
      have := length_furtherParts '\x7d' (members.map Member.text)
      rw [List.length_map] at this
      rw [hnext.rest]
      simp [memberText]
      omega
    obtain ⟨c', hfold, hc'⟩ := foldMembers_further hmore c.next.rest.length c₂ hfuel hc₂
    refine ⟨c', ?_, hc'⟩
    simp [-Cursor.rest_next, foldMembers, hfirst, htake, hfold, bind, Except.bind]

end Folds

end JobWorker.Json
