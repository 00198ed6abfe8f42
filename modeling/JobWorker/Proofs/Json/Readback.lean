/-
What was written can be read back.

The reader here is any reader of JSON: it goes as deep as the text does, and it rounds every number once.
A text that is written for a value stands for that value and for no other, and the text of an object shows
its members in the order in which they were given.
-/
import JobWorker.Proofs.Json.Determined
import JobWorker.Proofs.Json.Floats
import JobWorker.Proofs.Json.Written

namespace JobWorker.Json

variable {text : List Char} {v w : Value} {members members' : Members} {levels : Nat}

/-- A text stands for a value, for a reader who goes as deep as need be and rounds numbers once. -/
def StandsFor (text : List Char) (v : Value) : Prop := ∃ levels, valueForm NearestText levels v text

theorem StandsFor.wellFormed (h : StandsFor text v) : WellFormed false text := by
  obtain ⟨levels, h⟩ := h
  exact wellFormed_of_valueForm NearestText.isNumber h

/-- A text stands for one value. -/
theorem StandsFor.unique (h : StandsFor text v) (h' : StandsFor text w) : v = w := by
  obtain ⟨levels, h⟩ := h
  obtain ⟨levels', h'⟩ := h'
  exact valueForm_unique NearestText.isNumber nearestText_leftUnique
    (valueForm_mono (Nat.le_max_left levels levels') h) (valueForm_mono (Nat.le_max_right levels levels') h')

/-- A text is that of an object with just these members, each under its name and in this order, and
whoever reads it reads this object. -/
structure Says (text : List Char) (members : Members) : Prop where
  wellFormed : WellFormed false text
  shows : ∃ parts : List Member, ObjectText parts text ∧ (∀ part ∈ parts, part.Good false) ∧
    List.Forall₂ (fun m (part : Member) => part.name = m.1 ∧ StandsFor part.value m.2) members parts
  value : ∀ v, StandsFor text v ↔ v = .object (Members.ofList members)

/-- A text says one thing. -/
theorem Says.unique (h : Says text members) (h' : Says text members') : members = members' := by
  obtain ⟨parts, htext, hgood, hshown⟩ := h.shows
  obtain ⟨parts', htext', hgood', hshown'⟩ := h'.shows
  obtain rfl := objectText_inj htext htext' hgood hgood'
  refine List.left_unique_forall₂' (fun m m' part hm hm' => ?_) hshown hshown'
  exact Prod.ext (hm.1.symm.trans hm'.1) (hm.2.unique hm'.2)

/-! ### Written values -/

/-- A value whose text stands for it. -/
def Value.Lossless (v : Value) : Prop := StandsFor v.chars v

theorem lossless_string (s : String) : (Value.string s).Lossless :=
  ⟨0, by rw [valueForm_string]; exact stringForm_write s⟩

theorem lossless_int {n : Int} (h : FitsWord n) : (Value.int n).Lossless :=
  ⟨0, .of_core (valueText_number.2 ⟨rfl, h⟩)⟩

/-- Values of which each nests at most some levels nest at most some levels together. -/
theorem exists_levels {values : List Value} (h : ∀ v ∈ values, v.Lossless) :
    ∃ levels, ∀ v ∈ values, valueForm NearestText levels v v.chars := by
  induction values with
  | nil => exact ⟨0, by simp⟩
  | cons v values ih =>
    obtain ⟨hv, hvalues⟩ := List.forall_mem_cons.1 h
    obtain ⟨levels, hlevels⟩ := ih hvalues
    obtain ⟨levels', hv⟩ := hv
    refine ⟨max levels levels', List.forall_mem_cons.2 ⟨valueForm_mono (Nat.le_max_right _ _) hv, ?_⟩⟩
    exact fun v hv => valueForm_mono (Nat.le_max_left _ _) (hlevels v hv)

theorem lossless_array {items : List Value} (h : ∀ v ∈ items, v.Lossless) : (Value.array items).Lossless := by
  obtain ⟨levels, hlevels⟩ := exists_levels h
  exact ⟨levels + 1, .of_core (valueText_array.2
    ⟨levels, rfl, [], _, padding_nil, forall₂_chars hlevels, chars_array items⟩)⟩

/-- **What was read once is written without loss**, floating-point numbers included. -/
theorem lossless_of_valueForm (h : valueForm NumberText levels v text) : v.Lossless :=
  ⟨levels, valueForm_chars (fun _ hn => nearestText_of_numberText hn) h
    (Value.numbers_of_forall (P := fun _ => True) (fun _ => trivial) v)⟩

/-- The text of an object says its members. -/
theorem says_of_lossless (h : ∀ m ∈ members, m.2.Lossless) :
    Says (Value.object members).chars members := by
  obtain ⟨levels, hlevels⟩ := @exists_levels (members.map Prod.snd) (List.forall_mem_map.2 h)
  have hobject : StandsFor (Value.object members).chars (.object (Members.ofList members)) := by
    refine ⟨levels + 1, .of_core (valueText_object.2
      ⟨levels, rfl, [], members, _, padding_nil, ?_, rfl, chars_object members⟩)⟩
    exact forall₂_memberForm_chars (List.forall_mem_map.1 hlevels)
  refine ⟨hobject.wellFormed, ?_, fun v => ⟨fun hv => hv.unique hobject, fun heq => heq ▸ hobject⟩⟩
  refine ⟨members.map fun m => ⟨m.1, StringLiteral.write m.1, m.2.chars⟩, ?_, ?_, ?_⟩
  · refine .of_core ⟨[], padding_nil, ?_⟩
    rw [chars_object, List.map_map]
    rfl
  · rw [List.forall_mem_map]
    exact fun m hm => ⟨stringForm_write m.1, (h m hm).wellFormed⟩
  · rw [List.forall₂_map_right_iff, List.forall₂_same]
    exact fun m hm => ⟨rfl, h m hm⟩

end JobWorker.Json
