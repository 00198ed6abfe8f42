/-
Readers yield only what the texts that they pass stand for.

Accepting says that a reader takes every text of a form; yielding says that it takes no other.  White
space around a part belongs to the part in the grammar, while a reader leaves what stands behind a
value to whoever reads on; so a form that is yielded has to bear white space around its texts.
-/
import JobWorker.Proofs.Json.Numbers
import JobWorker.Proofs.Json.Passing
import JobWorker.Proofs.Json.Values

namespace JobWorker.Json

variable {α : Type} {strays : Bool} {levels : Nat} {c c' : Cursor}

/-- A reader passes only texts of a form, and yields what they stand for. -/
structure Yields (strays : Bool) (read : Cursor → Except Error (α × Cursor)) (form : Form α) : Prop where
  /-- White space around a text makes no difference. -/
  padded : ∀ {x : α} {text before after : List Char}, form x text → Padding before → Padding after →
    form x (before ++ text ++ after)
  passed : ∀ {c c' : Cursor} {x : α}, c.strays = strays → read c = .ok (x, c') →
    ∃ text, form x text ∧ c.Passed text c'

namespace Yields

variable {read : Cursor → Except Error (α × Cursor)}

/-- It is enough to look at what stands behind the white space. -/
theorem of_core {core : Form α}
    (h : ∀ {c c' : Cursor} {x : α}, c.strays = strays → read c = .ok (x, c') →
      ∃ inner, core x inner ∧ c.skipSpace.Passed inner c') :
    Yields strays read fun x => Padded (core x) where
  padded h := h.padded
  passed {c _ _} hc hread := by
    obtain ⟨inner, hinner, hc'⟩ := h hc hread
    obtain ⟨blank, hblank, hskip⟩ := c.passed_skipSpace
    exact ⟨_, .around hblank hinner padding_nil, by simpa using hskip.trans hc'⟩

/-- A document that has been read is a text of its value. -/
theorem readAll {reader : Reader α} {form : Form α} (h : Yields strays (reader deepest) form)
    {x : α} (hc : c.strays = strays) (hread : readAll reader c = .ok x) : form x c.rest := by
  obtain ⟨⟨y, c₁⟩, hvalue, hend⟩ := bind_eq_ok_iff.1 hread
  obtain ⟨text, htext, hc₁⟩ := h.passed hc hvalue
  obtain ⟨blank, hblank, hskip⟩ := c₁.passed_skipSpace
  simp only at hend
  split at hend
  · next hnil =>
    cases hend
    rw [(hc₁.trans hskip).rest, hnil]
    simpa using h.padded htext padding_nil hblank
  · simp at hend

/-- A reader that yields a form and accepts it reads a document exactly if it is a text of the
value. -/
theorem readAll_iff {reader : Reader α} {form : Form α} (h : Yields strays (reader deepest) form)
    (haccepts : Accepts strays reader deepest form) {x : α} (hc : c.strays = strays) :
    Json.readAll reader c = .ok x ↔ form x c.rest :=
  ⟨h.readAll hc, haccepts.readAll (Nat.le_refl _) hc⟩

end Yields

/-! ### Strings and integers -/

@[simp] theorem refuse_eq_ok_iff {expected : String} {x : α} : refuse expected c = .ok x ↔ False := by
  simp only [refuse, bind_eq_ok_iff, iff_false]
  rintro ⟨⟨found, c₁⟩, -, h⟩
  simp at h

theorem readString_yields (levels : Nat) : Yields strays (readString levels) stringForm := by
  refine .of_core fun {c c' s} _ h => ?_
  unfold readString at h
  simp only at h
  split at h
  · next hrest =>
    obtain ⟨body, hbody, hc'⟩ := StringLiteral.passed_read h
    exact ⟨_, ⟨body, hbody, rfl⟩, hc'.cons hrest⟩
  · simp at h

/-- A number in a range that has been read is written as it is always written. -/
theorem passed_readInt {kind : String} {least greatest n : Int}
    (h : readInt kind least greatest levels c = .ok (n, c')) :
    (least ≤ n ∧ n ≤ greatest) ∧ c.skipSpace.Passed (Decimal.intText n) c' := by
  unfold readInt at h
  simp only at h
  split at h
  · simp at h
  split at h
  · obtain ⟨⟨number, c₁⟩, hread, h⟩ := bind_eq_ok_iff.1 h
    obtain ⟨text, htext, hc₁⟩ := passed_readNumber hread
    cases number with
    | integer n =>
      obtain ⟨rfl, -⟩ := numberText_integer.1 htext
      simp only at h
      split at h
      · next hrange =>
        cases h
        exact ⟨hrange, hc₁⟩
      · simp at h
    | float x => simp at h
  · simp at h

/-- A reader that makes its values of the integers in a range yields the texts of those. -/
theorem yields_of_readInt {read : Cursor → Except Error (α × Cursor)} {kind : String}
    {least greatest : Int} (build : Int → α) {number : α → Int}
    (hbuild : ∀ n, least ≤ n → n ≤ greatest → number (build n) = n)
    (hread : ∀ c, read c = (readInt kind least greatest levels c).map fun (n, c) => (build n, c)) :
    Yields strays read fun x => intForm (number x) := by
  refine .of_core fun {c c' x} _ h => ?_
  rw [hread] at h
  obtain ⟨⟨n, c₁⟩, hint, heq⟩ := map_eq_ok_iff.1 h
  cases heq
  obtain ⟨⟨hleast, hgreatest⟩, hc'⟩ := passed_readInt hint
  exact ⟨_, by rw [hbuild n hleast hgreatest], hc'⟩

theorem readInt32_yields (levels : Nat) :
    Yields strays (readInt32 levels) fun x => intForm x.toInt := by
  refine yields_of_readInt Int32.ofInt (fun n hleast hgreatest => ?_) fun c => rfl
  rw [Decimal.leastInt32] at hleast
  rw [Decimal.greatestInt32] at hgreatest
  rw [Int32.toInt_ofInt]
  apply Int.bmod_eq_of_le <;> simp [Int32.size] <;> omega

theorem readInt64_yields (levels : Nat) :
    Yields strays (readInt64 levels) fun x => intForm x.toInt := by
  refine yields_of_readInt Int64.ofInt (fun n hleast hgreatest => ?_) fun c => rfl
  rw [Decimal.leastInt64] at hleast
  rw [Decimal.greatestInt64] at hgreatest
  rw [Int64.toInt_ofInt]
  apply Int.bmod_eq_of_le <;> simp [Int64.size] <;> omega

/-! ### Optional values and lists -/

theorem optionForm_padded {form : Form α}
    (h : ∀ {x : α} {text before after : List Char}, form x text → Padding before → Padding after →
      form x (before ++ text ++ after)) {x : Option α} {text before after : List Char}
    (hx : optionForm form x text) (hbefore : Padding before) (hafter : Padding after) :
    optionForm form x (before ++ text ++ after) := by
  cases x with
  | none => exact Padded.padded hx hbefore hafter
  | some x => exact h hx hbefore hafter

theorem readOption_yields {reader : Reader α} {form : Form α}
    (h : Yields strays (reader levels) form) :
    Yields strays (readOption reader levels) (optionForm form) where
  padded := optionForm_padded h.padded
  passed {c c' x} hc hread := by
    unfold readOption at hread
    split at hread
    · next hrest =>
      obtain ⟨c₁, hword, hread⟩ := bind_eq_ok_iff.1 hread
      cases hread
      obtain ⟨blank, hblank, hskip⟩ := c.passed_skipSpace
      exact ⟨_, .around hblank rfl padding_nil,
        by simpa using hskip.trans ((Cursor.passed_word hword).cons hrest)⟩
    · obtain ⟨⟨y, c₁⟩, hvalue, hread⟩ := bind_eq_ok_iff.1 hread
      cases hread
      exact h.passed hc hvalue

section Items

variable {item : Cursor → Except Error (α × Cursor)} {form : Form α}

/-- Where the next item of an array begins, white space has been passed, and a comma if it is not the
first; or the array is at its end. -/
theorem passed_nextItem {first more : Bool} (h : c.nextItem first = .ok (more, c')) :
    ∃ blank, Padding blank ∧
      ((more = false ∧ c.Passed blank c' ∧ ∃ tail, c'.rest = ']' :: tail) ∨
        (more = true ∧ first = true ∧ c.Passed blank c') ∨
        (more = true ∧ first = false ∧
          ∃ after, Padding after ∧ c.Passed (blank ++ ',' :: after) c')) := by
  obtain ⟨blank, hblank, hskip⟩ := c.passed_skipSpace
  refine ⟨blank, hblank, ?_⟩
  unfold Cursor.nextItem at h
  simp only at h
  split at h
  · simp at h
  next ch tail hrest =>
  split at h
  · next hclosing =>
    subst hclosing
    cases h
    exact .inl ⟨rfl, hskip, _, hrest⟩
  split at h
  · next hfirst =>
    cases h
    exact .inr (.inl ⟨rfl, hfirst, hskip⟩)
  next hfirst =>
  split at h
  · next hcomma =>
    subst hcomma
    split at h
    · simp at h
    · split at h
      · simp at h
      · cases h
        obtain ⟨after, hafter, hskip'⟩ := c.skipSpace.next.passed_skipSpace
        exact .inr (.inr ⟨rfl, by simpa using hfirst, after, hafter,
          hskip.trans (hskip'.cons hrest)⟩)
  · simp at h

theorem passed_readItems_further (hitem : Yields strays item form) {fuel : Nat} {xs : List α}
    (hc : c.strays = strays) (h : readItems item fuel false c = .ok (xs, c')) :
    ∃ blank texts, Padding blank ∧ List.Forall₂ form xs texts ∧
      c.Passed (blank ++ furtherParts ']' texts) c' := by
  induction fuel generalizing c xs with
  | zero => simp [readItems] at h
  | succ fuel ih =>
    obtain ⟨⟨more, c₁⟩, hnext, h⟩ := bind_eq_ok_iff.1 h
    obtain ⟨blank, hblank, hend | ⟨-, hfirst, -⟩ | ⟨rfl, -, after, hafter, hc₁⟩⟩ :=
      passed_nextItem hnext
    · obtain ⟨rfl, hc₁, tail, hrest⟩ := hend
      cases h
      exact ⟨blank, [], hblank, .nil, hc₁.trans (Cursor.passed_next hrest)⟩
    · cases hfirst
    · simp only [if_true] at h
      obtain ⟨⟨x, c₂⟩, hx, h⟩ := bind_eq_ok_iff.1 h
      obtain ⟨⟨xs, c₃⟩, hxs, h⟩ := bind_eq_ok_iff.1 h
      cases h
      have hstrays := hc₁.strays.trans hc
      obtain ⟨text, htext, hc₂⟩ := hitem.passed hstrays hx
      obtain ⟨blank', texts, hblank', htexts, hc₃⟩ := ih (hc₂.strays.trans hstrays) hxs
      refine ⟨blank, (after ++ text ++ blank') :: texts, hblank,
        .cons (hitem.padded htext hafter hblank') htexts, ?_⟩
      simpa [furtherParts] using hc₁.trans (hc₂.trans hc₃)

/-- The items of an array that has been read are what its texts stand for. -/
theorem passed_readItems (hitem : Yields strays item form) {fuel : Nat} {xs : List α}
    (hc : c.strays = strays) (h : readItems item fuel true c = .ok (xs, c')) :
    ∃ blank texts text, Padding blank ∧ List.Forall₂ form xs texts ∧
      '[' :: text = enclosed '[' ']' blank texts ∧ c.Passed text c' := by
  cases fuel with
  | zero => simp [readItems] at h
  | succ fuel =>
    obtain ⟨⟨more, c₁⟩, hnext, h⟩ := bind_eq_ok_iff.1 h
    obtain ⟨blank, hblank, hend | ⟨rfl, -, hc₁⟩ | ⟨-, hfirst, -⟩⟩ := passed_nextItem hnext
    · obtain ⟨rfl, hc₁, tail, hrest⟩ := hend
      cases h
      exact ⟨blank, [], _, hblank, .nil, rfl, hc₁.trans (Cursor.passed_next hrest)⟩
    · simp only [if_true] at h
      obtain ⟨⟨x, c₂⟩, hx, h⟩ := bind_eq_ok_iff.1 h
      obtain ⟨⟨xs, c₃⟩, hxs, h⟩ := bind_eq_ok_iff.1 h
      cases h
      have hstrays := hc₁.strays.trans hc
      obtain ⟨text, htext, hc₂⟩ := hitem.passed hstrays hx
      obtain ⟨blank', texts, hblank', htexts, hc₃⟩ :=
        passed_readItems_further hitem (hc₂.strays.trans hstrays) hxs
      refine ⟨[], (blank ++ text ++ blank') :: texts, _, padding_nil,
        .cons (hitem.padded htext hblank hblank') htexts, rfl, ?_⟩
      simpa using hc₁.trans (hc₂.trans hc₃)
    · cases hfirst

end Items

theorem readList_yields {reader : Reader α} {form : Form α}
    (h : Yields strays (reader levels) form) :
    Yields strays (readList reader (levels + 1)) (listForm form) := by
  refine .of_core fun {c c' xs} hc hread => ?_
  unfold readList at hread
  simp only at hread
  split at hread
  · next hrest =>
    obtain ⟨blank, texts, text, hblank, htexts, htext, hc'⟩ :=
      passed_readItems h (by simp [hc]) hread
    exact ⟨_, ⟨blank, texts, hblank, htexts, htext⟩, hc'.cons hrest⟩
  · simp at hread

/-! ### Members -/

theorem passed_memberName {name? : Option String} (h : c.memberName = .ok (name?, c')) :
    ∃ name body, name? = some name ∧ Spells name.toList body ∧ c.Passed (quoted body) c' := by
  unfold Cursor.memberName at h
  split at h
  · next hrest =>
    obtain ⟨⟨name, c₁⟩, hread, h⟩ := bind_eq_ok_iff.1 h
    cases h
    obtain ⟨body, hbody, hc₁⟩ := StringLiteral.passed_read hread
    exact ⟨name, body, rfl, hbody, hc₁.cons hrest⟩
  · simp at h

/-- Where the next member of an object begins, its name has been passed; or the object is at its
end. -/
theorem passed_nextMember {first : Bool} {name? : Option String}
    (h : c.nextMember first = .ok (name?, c')) : ∃ blank, Padding blank ∧
      ((name? = none ∧ c.Passed blank c' ∧ ∃ tail, c'.rest = '\x7d' :: tail) ∨
        ∃ name body before, name? = some name ∧ Spells name.toList body ∧ Padding before ∧
          c.Passed (blank ++ (if first then [] else [',']) ++ before ++ quoted body) c') := by
  obtain ⟨blank, hblank, hskip⟩ := c.passed_skipSpace
  refine ⟨blank, hblank, ?_⟩
  unfold Cursor.nextMember at h
  simp only at h
  split at h
  · simp at h
  next ch tail hrest =>
  split at h
  · next hclosing =>
    subst hclosing
    cases h
    exact .inl ⟨rfl, hskip, _, hrest⟩
  split at h
  · next hfirst =>
    obtain ⟨name, body, rfl, hbody, hc'⟩ := passed_memberName h
    exact .inr ⟨name, body, [], rfl, hbody, padding_nil, by simpa [hfirst] using hskip.trans hc'⟩
  next hfirst =>
  split at h
  · next hcomma =>
    subst hcomma
    split at h
    · simp at h
    · split at h
      · simp at h
      · obtain ⟨name, body, rfl, hbody, hc'⟩ := passed_memberName h
        obtain ⟨before, hbefore, hskip'⟩ := c.skipSpace.next.passed_skipSpace
        exact .inr ⟨name, body, before, rfl, hbody, hbefore,
          by simpa [hfirst] using hskip.trans ((hskip'.trans hc').cons hrest)⟩
  · simp at h

section Members

variable {σ : Type} {member : σ → String → Cursor → Except Error (σ × Cursor)}
  {Step : σ → String → List Char → σ → Prop}

/-- A step takes a member in one of the ways that are told of it, by name and value. -/
structure YieldsMember (strays : Bool) (member : σ → String → Cursor → Except Error (σ × Cursor))
    (Step : σ → String → List Char → σ → Prop) : Prop where
  padded : ∀ {state state' : σ} {name : String} {text before after : List Char},
    Step state name text state' → Padding before → Padding after →
      Step state name (before ++ text ++ after) state'
  passed : ∀ {c c' : Cursor} {state state' : σ} {name : String}, c.strays = strays →
    member state name c = .ok (state', c') → ∃ blank text, Padding blank ∧
      Step state name text state' ∧ c.Passed (blank ++ ':' :: text) c'

/-- Members that have been taken one after the other. -/
inductive Steps (Step : σ → String → List Char → σ → Prop) : σ → List Member → σ → Prop
  | nil {state : σ} : Steps Step state [] state
  | cons {state state₁ state' : σ} {m : Member} {members : List Member} :
      stringForm m.name m.spelling → Step state m.name m.value state₁ →
      Steps Step state₁ members state' → Steps Step state (m :: members) state'

theorem passed_foldMembers_further (hmember : YieldsMember strays member Step) {fuel : Nat}
    {state state' : σ} (hc : c.strays = strays)
    (h : foldMembers member fuel false state c = .ok (state', c')) :
    ∃ blank members, Padding blank ∧ Steps Step state members state' ∧
      c.Passed (blank ++ furtherParts '\x7d' (members.map Member.text)) c'.next := by
  induction fuel generalizing c state with
  | zero => simp [foldMembers] at h
  | succ fuel ih =>
    obtain ⟨⟨name?, c₁⟩, hnext, h⟩ := bind_eq_ok_iff.1 h
    obtain ⟨blank, hblank, hend | ⟨name, body, before, rfl, hbody, hbefore, hc₁⟩⟩ :=
      passed_nextMember hnext
    · obtain ⟨rfl, hc₁, tail, hrest⟩ := hend
      cases h
      exact ⟨blank, [], hblank, .nil, hc₁.trans (Cursor.passed_next hrest)⟩
    · obtain ⟨⟨state₁, c₂⟩, htake, h⟩ := bind_eq_ok_iff.1 h
      have hstrays := hc₁.strays.trans hc
      obtain ⟨after, text, hafter, hstep, hc₂⟩ := hmember.passed hstrays htake
      obtain ⟨blank', members, hblank', hsteps, hc₃⟩ := ih (hc₂.strays.trans hstrays) h
      refine ⟨blank, ⟨name, before ++ quoted body ++ after, [] ++ text ++ blank'⟩ :: members, hblank,
        .cons (.around hbefore ⟨body, hbody, rfl⟩ hafter) (hmember.padded hstep padding_nil hblank')
          hsteps, ?_⟩
      simpa [furtherParts, Member.text, memberText] using hc₁.trans (hc₂.trans hc₃)

/-- The members of an object that has been read are taken in the order in which they stand. -/
theorem passed_foldMembers (hmember : YieldsMember strays member Step) {fuel : Nat}
    {state state' : σ} (hc : c.strays = strays)
    (h : foldMembers member fuel true state c = .ok (state', c')) :
    ∃ blank members text, Padding blank ∧ Steps Step state members state' ∧
      '\x7b' :: text = enclosed '\x7b' '\x7d' blank (members.map Member.text) ∧
      c.Passed text c'.next := by
  cases fuel with
  | zero => simp [foldMembers] at h
  | succ fuel =>
    obtain ⟨⟨name?, c₁⟩, hnext, h⟩ := bind_eq_ok_iff.1 h
    obtain ⟨blank, hblank, hend | ⟨name, body, before, rfl, hbody, hbefore, hc₁⟩⟩ :=
      passed_nextMember hnext
    · obtain ⟨rfl, hc₁, tail, hrest⟩ := hend
      cases h
      exact ⟨blank, [], _, hblank, .nil, rfl, hc₁.trans (Cursor.passed_next hrest)⟩
    · obtain ⟨⟨state₁, c₂⟩, htake, h⟩ := bind_eq_ok_iff.1 h
      have hstrays := hc₁.strays.trans hc
      obtain ⟨after, text, hafter, hstep, hc₂⟩ := hmember.passed hstrays htake
      obtain ⟨blank', members, hblank', hsteps, hc₃⟩ :=
        passed_foldMembers_further hmember (hc₂.strays.trans hstrays) h
      refine ⟨[], ⟨name, (blank ++ before) ++ quoted body ++ after, [] ++ text ++ blank'⟩ :: members, _,
        padding_nil, .cons (.around (hblank.append hbefore) ⟨body, hbody, rfl⟩ hafter)
          (hmember.padded hstep padding_nil hblank') hsteps, rfl, ?_⟩
      simpa [Member.text, memberText] using hc₁.trans (hc₂.trans hc₃)

end Members

/-! ### Any value -/

section Values

variable {value : Cursor → Except Error (Value × Cursor)} {form : Form Value}

/-- A member with a value of a form is added to those that are kept. -/
def Inserts (form : Form Value) (kept : Members) (name : String) (text : List Char)
    (kept' : Members) : Prop :=
  ∃ v, form v text ∧ kept' = Members.insert name v kept

theorem readMember_yields (h : Yields strays value form) :
    YieldsMember strays (readMember value) (Inserts form) where
  padded := by
    rintro kept _ name text before after ⟨v, htext, rfl⟩ hbefore hafter
    exact ⟨v, h.padded htext hbefore hafter, rfl⟩
  passed {c c' kept kept' name} hc hread := by
    obtain ⟨c₁, hcolon, hread⟩ := bind_eq_ok_iff.1 hread
    obtain ⟨⟨v, c₂⟩, hvalue, hread⟩ := bind_eq_ok_iff.1 hread
    cases hread
    obtain ⟨blank, hblank, hc₁⟩ := Cursor.passed_colon hcolon
    obtain ⟨text, htext, hc₂⟩ := h.passed (hc₁.strays.trans hc) hvalue
    exact ⟨blank, text, hblank, ⟨v, htext, rfl⟩, by simpa using hc₁.trans hc₂⟩

/-- Members that have been added one after the other are those of the text. -/
theorem given_of_steps {members : List Member} {kept kept' : Members}
    (h : Steps (Inserts form) kept members kept') :
    ∃ given : List (String × Value), List.Forall₂ (memberForm form) given (members.map Member.text) ∧
      kept' = given.foldl (fun kept m => Members.insert m.1 m.2 kept) kept := by
  induction h with
  | nil => exact ⟨[], .nil, rfl⟩
  | @cons _ _ _ m members hspelled hstep _ ih =>
    obtain ⟨v, htext, rfl⟩ := hstep
    obtain ⟨given, hgiven, rfl⟩ := ih
    exact ⟨(m.name, v) :: given, .cons ⟨_, _, hspelled, htext, rfl⟩ hgiven, rfl⟩

theorem passed_readObject (h : Yields strays value form) {members : Members}
    (hc : c.strays = strays) (hread : readObject value c = .ok (members, c')) :
    ∃ blank given texts text, Padding blank ∧ List.Forall₂ (memberForm form) given texts ∧
      members = Members.ofList given ∧ '\x7b' :: text = enclosed '\x7b' '\x7d' blank texts ∧
      c.Passed text c' := by
  obtain ⟨⟨kept, c₁⟩, hfold, hread⟩ := bind_eq_ok_iff.1 hread
  cases hread
  obtain ⟨blank, members, text, hblank, hsteps, htext, hc₁⟩ :=
    passed_foldMembers (readMember_yields h) hc hfold
  obtain ⟨given, hgiven, hkept⟩ := given_of_steps hsteps
  exact ⟨blank, given, _, text, hblank, hgiven, hkept, htext, hc₁⟩

end Values

theorem readMembers_yields
    (h : Yields strays (readValue levels) (valueForm NumberText levels)) :
    Yields strays (readMembers (levels + 1)) (mapForm (valueForm NumberText levels)) := by
  refine .of_core fun {c c' members} hc hread => ?_
  unfold readMembers at hread
  simp only at hread
  split at hread
  · next hrest =>
    obtain ⟨blank, given, texts, text, hblank, hgiven, hmembers, htext, hc'⟩ :=
      passed_readObject h (by simp [hc]) hread
    exact ⟨_, ⟨blank, given, texts, hblank, hgiven, hmembers, htext⟩, hc'.cons hrest⟩
  · simp at hread

/-- If what nests one level less is yielded, then a value is. -/
theorem readValue_yields_of (h : ∀ deeper, levels = deeper + 1 →
    Yields strays (readValue deeper) (valueForm NumberText deeper)) :
    Yields strays (readValue levels) (valueForm NumberText levels) := by
  refine .of_core fun {c c' v} hc hread => ?_
  have hword : ∀ {ch : Char} {word tail : List Char} {v v' : Value}, c.skipSpace.rest = ch :: tail →
      (do return (v', ← c.skipSpace.next.word word)) = .ok (v, c') →
      v = v' ∧ c.skipSpace.Passed (ch :: word) c' := by
    intro ch word tail v v' hrest hread
    obtain ⟨c₁, hword, hread⟩ := bind_eq_ok_iff.1 hread
    cases hread
    exact ⟨rfl, (Cursor.passed_word hword).cons hrest⟩
  unfold readValue at hread
  simp only at hread
  split at hread
  · simp at hread
  · next hrest =>
    obtain ⟨rfl, hc'⟩ := hword hrest hread
    exact ⟨_, valueText_null.2 rfl, hc'⟩
  · next hrest =>
    obtain ⟨rfl, hc'⟩ := hword hrest hread
    exact ⟨_, valueText_true.2 rfl, hc'⟩
  · next hrest =>
    obtain ⟨rfl, hc'⟩ := hword hrest hread
    exact ⟨_, valueText_false.2 rfl, hc'⟩
  · next hrest =>
    obtain ⟨⟨s, c₁⟩, hstring, hread⟩ := bind_eq_ok_iff.1 hread
    cases hread
    obtain ⟨body, hbody, hc'⟩ := StringLiteral.passed_read hstring
    exact ⟨_, valueText_string.2 ⟨body, hbody, rfl⟩, hc'.cons hrest⟩
  · next hrest =>
    split at hread
    · simp at hread
    · next deeper =>
      obtain ⟨⟨items, c₁⟩, hitems, hread⟩ := bind_eq_ok_iff.1 hread
      cases hread
      obtain ⟨blank, texts, text, hblank, htexts, htext, hc'⟩ :=
        passed_readItems (h deeper rfl) (by simp [hc]) hitems
      exact ⟨_, ⟨blank, texts, hblank, htexts, htext⟩, hc'.cons hrest⟩
  · next hrest =>
    split at hread
    · simp at hread
    · next deeper =>
      obtain ⟨⟨members, c₁⟩, hobject, hread⟩ := bind_eq_ok_iff.1 hread
      cases hread
      obtain ⟨blank, given, texts, text, hblank, hgiven, hmembers, htext, hc'⟩ :=
        passed_readObject (h deeper rfl) (by simp [hc]) hobject
      exact ⟨_, ⟨blank, given, texts, hblank, hgiven, hmembers, htext⟩, hc'.cons hrest⟩
  · split at hread
    · obtain ⟨⟨n, c₁⟩, hnumber, hread⟩ := bind_eq_ok_iff.1 hread
      cases hread
      obtain ⟨text, htext, hc'⟩ := passed_readNumber hnumber
      exact ⟨text, valueText_number.2 htext, hc'⟩
    · simp at hread

/-- A value that has been read is what the passed text stands for. -/
theorem readValue_yields (levels : Nat) :
    Yields strays (readValue levels) (valueForm NumberText levels) := by
  induction levels with
  | zero => exact readValue_yields_of fun _ h => by cases h
  | succ levels ih =>
    refine readValue_yields_of fun deeper h => ?_
    cases h
    exact ih

end JobWorker.Json
