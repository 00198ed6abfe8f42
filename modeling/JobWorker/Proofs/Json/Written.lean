/-
A value is written as one of its texts.

What has been read from some text has its members in the order of their names, each name once, and so
taking the members of its own text one by one gives the same members again.  Whether a number is
written as a text of it depends on what its texts are; that is left open here.
-/
import JobWorker.Proofs.Json.Values

namespace JobWorker.Json

variable {num num' : Form Number} {levels : Nat} {v : Value} {text : List Char}

/-! ### The order of members -/

namespace Members

/-- Members in the order of their names, each name once. -/
def Sorted (members : Members) : Prop := members.Pairwise fun m m' => m.1 < m'.1

theorem mem_of_mem_insert {name : String} {value : Value} {members : Members} {m : String × Value}
    (h : m ∈ insert name value members) : m = (name, value) ∨ m ∈ members := by
  induction members with
  | nil => simpa [insert] using h
  | cons first rest ih =>
    obtain ⟨other, old⟩ := first
    unfold insert at h
    split at h
    · exact (List.mem_cons.1 h).imp_right fun h => by simp [h]
    · split at h
      · exact List.mem_cons.1 h
      · rcases List.mem_cons.1 h with rfl | h
        · exact .inr (by simp)
        · exact (ih h).imp_right fun h => by simp [h]

theorem sorted_insert (name : String) (value : Value) {members : Members} (h : Sorted members) :
    Sorted (insert name value members) := by
  induction members with
  | nil => simp [insert, Sorted]
  | cons first rest ih =>
    obtain ⟨other, old⟩ := first
    obtain ⟨hfirst, hrest⟩ := List.pairwise_cons.1 h
    unfold insert
    split
    · next heq =>
      subst heq
      exact List.pairwise_cons.2 ⟨hfirst, hrest⟩
    · next hne =>
      split
      · next hlt =>
        refine List.pairwise_cons.2 ⟨fun m hm => ?_, h⟩
        rcases List.mem_cons.1 hm with rfl | hm
        · exact hlt
        · exact String.lt_trans hlt (hfirst m hm)
      · next hnot =>
        refine List.pairwise_cons.2 ⟨fun m hm => ?_, ih hrest⟩
        rcases mem_of_mem_insert hm with rfl | hm
        · by_contra hle
          exact hne (String.le_antisymm (String.not_lt.1 hle) (String.not_lt.1 hnot))
        · exact hfirst m hm

/-- A name behind all others is added at the end. -/
theorem insert_of_lt {name : String} {value : Value} {members : Members}
    (h : ∀ m ∈ members, m.1 < name) : insert name value members = members ++ [(name, value)] := by
  induction members with
  | nil => rfl
  | cons first rest ih =>
    obtain ⟨other, old⟩ := first
    obtain ⟨hfirst, hrest⟩ := List.forall_mem_cons.1 h
    have hne : name ≠ other := by
      rintro rfl
      exact String.lt_irrefl _ hfirst
    have hnot : ¬ name < other := fun hlt => String.lt_irrefl _ (String.lt_trans hlt hfirst)
    simp [insert, hne, hnot, ih hrest]

theorem foldl_insert_of_sorted {kept given : Members} (h : Sorted (kept ++ given)) :
    given.foldl (fun kept m => insert m.1 m.2 kept) kept = kept ++ given := by
  induction given generalizing kept with
  | nil => simp
  | cons m given ih =>
    have hlt : ∀ m' ∈ kept, m'.1 < m.1 := fun m' hm' =>
      (List.pairwise_append.1 h).2.2 m' hm' m (by simp)
    rw [List.foldl_cons, insert_of_lt hlt, ih (by simpa using h)]
    simp

/-- Members in order are left as they are. -/
theorem ofList_of_sorted {members : Members} (h : Sorted members) : ofList members = members := by
  simpa [ofList] using @foldl_insert_of_sorted [] members h

theorem sorted_foldl_insert {kept given : Members} (h : Sorted kept) :
    Sorted (given.foldl (fun kept m => insert m.1 m.2 kept) kept) := by
  induction given generalizing kept with
  | nil => exact h
  | cons m given ih => exact ih (sorted_insert m.1 m.2 h)

theorem sorted_ofList (given : Members) : Sorted (ofList given) := sorted_foldl_insert .nil

theorem mem_of_mem_foldl_insert {kept given : Members} {m : String × Value}
    (h : m ∈ given.foldl (fun kept m => insert m.1 m.2 kept) kept) : m ∈ kept ∨ m ∈ given := by
  induction given generalizing kept with
  | nil => exact .inl h
  | cons first given ih =>
    rcases ih h with h | h
    · rcases mem_of_mem_insert h with rfl | h
      · exact .inr (by simp)
      · exact .inl h
    · exact .inr (by simp [h])

/-- What is left of some members was among them. -/
theorem mem_of_mem_ofList {given : Members} {m : String × Value} (h : m ∈ ofList given) : m ∈ given :=
  (mem_of_mem_foldl_insert h).resolve_left (by simp)

/-- Of members whose order has been settled the last of each name counts, and it is the only one. -/
theorem ofList_ofList (given : Members) : ofList (ofList given) = ofList given :=
  ofList_of_sorted (sorted_ofList given)

end Members

/-! ### Values and the numbers in them -/

/-- All numbers in a value have a property. -/
inductive Value.Numbers (P : Number → Prop) : Value → Prop
  | null : Numbers P .null
  | bool {b : Bool} : Numbers P (.bool b)
  | number {n : Number} : P n → Numbers P (.number n)
  | string {s : String} : Numbers P (.string s)
  | array {items : List Value} : (∀ v ∈ items, Numbers P v) → Numbers P (.array items)
  | object {members : Members} : (∀ m ∈ members, Numbers P m.2) → Numbers P (.object members)

/-- What holds of all numbers holds of those in a value. -/
theorem Value.numbers_of_forall {P : Number → Prop} (hP : ∀ n, P n) : ∀ v : Value, v.Numbers P
  | .null => .null
  | .bool _ => .bool
  | .number n => .number (hP n)
  | .string _ => .string
  | .array items => .array fun v _ => numbers_of_forall hP v
  | .object members => .object fun m _ => numbers_of_forall hP m.2
termination_by v => sizeOf v
decreasing_by
  · decreasing_tactic
  · next hm =>
    have hsize := List.sizeOf_lt_of_mem hm
    have hpair : sizeOf m.2 < sizeOf m := by
      cases m
      simp only [Prod.mk.sizeOf_spec]
      omega
    simp only [Value.object.sizeOf_spec]
    omega

/-! ### Written values -/

theorem forall₂_chars {form : Form Value} {items : List Value}
    (h : ∀ v ∈ items, form v v.chars) : List.Forall₂ form items (items.map Value.chars) := by
  rw [List.forall₂_map_right_iff, List.forall₂_same]
  exact h

theorem forall₂_memberForm_chars {form : Form Value} {members : Members}
    (h : ∀ m ∈ members, form m.2 m.2.chars) :
    List.Forall₂ (memberForm form) members
      (members.map fun m => memberText (StringLiteral.write m.1) m.2.chars) := by
  rw [List.forall₂_map_right_iff, List.forall₂_same]
  exact fun m hm => ⟨_, _, stringForm_write m.1, h m hm, rfl⟩

/-- A value that has some text stands for its written text, if numbers do. -/
theorem valueForm_chars {P : Number → Prop}
    (hnum : ∀ {n : Number} {text : List Char}, P n → num n text → num' n n.text)
    (h : valueForm num levels v text) (hv : v.Numbers P) : valueForm num' levels v v.chars := by
  refine .of_core ?_
  induction levels using Nat.strong_induction_on generalizing v text with
  | _ levels ih =>
  obtain ⟨-, hinner, -⟩ := h
  next before inner after =>
  cases hv with
  | null => exact valueText_null.2 rfl
  | @bool b => cases b <;> simp [Value.chars]
  | number hn => exact valueText_number.2 (hnum hn (valueText_number.1 hinner))
  | @string s => exact valueText_string.2 ⟨_, StringLiteral.spells_write s.toList, rfl⟩
  | @array items hitems =>
    obtain ⟨deeper, rfl, blank, texts, hblank, htexts, -⟩ := valueText_array.1 hinner
    refine valueText_array.2 ⟨deeper, rfl, [], _, padding_nil, forall₂_chars fun v hv => ?_,
      chars_array items⟩
    obtain ⟨text, -, htext⟩ := exists_mem_of_forall₂ htexts hv
    exact .of_core (ih deeper (Nat.lt_succ_self _) htext (hitems v hv))
  | @object members hmembers =>
    obtain ⟨deeper, rfl, blank, given, texts, hblank, hgiven, rfl, -⟩ := valueText_object.1 hinner
    refine valueText_object.2 ⟨deeper, rfl, [], _, _, padding_nil,
      forall₂_memberForm_chars fun m hm => ?_, (Members.ofList_ofList given).symm, chars_object _⟩
    obtain ⟨_, -, _, text, -, htext, -⟩ := exists_mem_of_forall₂ hgiven (Members.mem_of_mem_ofList hm)
    exact .of_core (ih deeper (Nat.lt_succ_self _) htext (hmembers m hm))

/-- A text that nests at most some levels nests at most more. -/
theorem valueForm_mono {more : Nat} (hmore : levels ≤ more) (h : valueForm num levels v text) :
    valueForm num more v text := by
  refine Padded.imp h fun inner hinner => ?_
  clear h
  induction levels using Nat.strong_induction_on generalizing more v inner with
  | _ levels ih =>
  have hdeeper : ∀ {deeper : Nat}, levels = deeper + 1 → ∃ further, more = further + 1 ∧
      ∀ {v : Value} {text : List Char}, valueForm num deeper v text → valueForm num further v text := by
    rintro deeper rfl
    obtain ⟨further, rfl⟩ := Nat.exists_eq_succ_of_ne_zero (Nat.ne_zero_of_lt hmore)
    exact ⟨further, rfl, fun h => h.imp fun inner hinner =>
      ih deeper (Nat.lt_succ_self _) (Nat.le_of_succ_le_succ hmore) inner hinner⟩
  cases v with
  | null => exact valueText_null.2 (valueText_null.1 hinner)
  | bool b => cases b <;> simpa using hinner
  | number n => exact valueText_number.2 (valueText_number.1 hinner)
  | string s => exact valueText_string.2 (valueText_string.1 hinner)
  | array items =>
    obtain ⟨deeper, heq, blank, texts, hblank, htexts, rfl⟩ := valueText_array.1 hinner
    obtain ⟨further, rfl, hmono⟩ := hdeeper heq
    exact valueText_array.2 ⟨further, rfl, blank, texts, hblank, htexts.imp fun _ _ => hmono, rfl⟩
  | object members =>
    obtain ⟨deeper, heq, blank, given, texts, hblank, hgiven, hmembers, rfl⟩ := valueText_object.1 hinner
    obtain ⟨further, rfl, hmono⟩ := hdeeper heq
    refine valueText_object.2 ⟨further, rfl, blank, given, texts, hblank, hgiven.imp ?_, hmembers, rfl⟩
    rintro _ _ ⟨spelling, value, hspelled, hvalue, rfl⟩
    exact ⟨spelling, value, hspelled, hmono hvalue, rfl⟩

end JobWorker.Json
