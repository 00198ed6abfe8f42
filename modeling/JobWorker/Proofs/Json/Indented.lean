/-
Indented texts stand for what compact ones stand for.

An indented text has the parts of the compact one, each of them on a line of its own.  What is between
the lines is white space, and white space belongs to the parts: there is a new line before each part and
one behind the last.  So an array and an object stand for the same things in either layout, if their
parts do.
-/
import JobWorker.Proofs.Json.Records

namespace JobWorker.Json

variable {α : Type} {depth : Nat} {closing : Char}

theorem padding_newLine (depth : Nat) : Padding (newLine depth) := by
  intro c hc
  rcases List.mem_cons.1 hc with rfl | hc
  · rfl
  · rw [List.eq_of_mem_replicate hc]
    rfl

/-! ### Lines -/

/-- The white space behind a part that some parts follow: a line ends there if there are none. -/
def lineEnd (depth : Nat) (parts : List (List Char)) : List Char := if parts = [] then newLine depth else []

/-- The parts between brackets, each on a line of its own. -/
def partLines (depth : Nat) : List (List Char) → List (List Char)
  | [] => []
  | part :: parts => (newLine (depth + 1) ++ part ++ lineEnd depth parts) :: partLines depth parts

/-- The text behind a part on a line of its own. -/
def furtherLines (closing : Char) (depth : Nat) : List (List Char) → List Char
  | [] => newLine depth ++ [closing]
  | part :: parts => ',' :: newLine (depth + 1) ++ part ++ furtherLines closing depth parts

theorem furtherLines_eq (parts : List (List Char)) :
    furtherLines closing depth parts = lineEnd depth parts ++ furtherParts closing (partLines depth parts) := by
  induction parts with
  | nil => rfl
  | cons part parts ih => simp [furtherLines, furtherParts, partLines, lineEnd, ih]

theorem padding_lineEnd (depth : Nat) (parts : List (List Char)) : Padding (lineEnd depth parts) := by
  unfold lineEnd
  split
  · exact padding_newLine depth
  · exact padding_nil

/-! ### Brackets -/

theorem indented_array (items : List Value) : (Value.array items).indented depth =
    enclosed '[' ']' [] (partLines depth (items.map fun item => item.indented (depth + 1))) := by
  have htail : ∀ items : List Value, tailIndented depth items =
      furtherLines ']' depth (items.map fun item => item.indented (depth + 1)) := by
    intro items
    induction items with
    | nil => rfl
    | cons item items ih => simp [tailIndented, furtherLines, ih]
  cases items with
  | nil => rfl
  | cons item items => simp [Value.indented, enclosed, partLines, htail, furtherLines_eq]

theorem indented_object (members : List (String × Value)) : (Value.object members).indented depth =
    enclosed '\x7b' '\x7d' [] (partLines depth
      (members.map fun m => memberText (StringLiteral.write m.1) (' ' :: m.2.indented (depth + 1)))) := by
  have htail : ∀ members : List (String × Value), memberIndented depth members =
      furtherLines '\x7d' depth (members.map fun m =>
        memberText (StringLiteral.write m.1) (' ' :: m.2.indented (depth + 1))) := by
    intro members
    induction members with
    | nil => rfl
    | cons m members ih => simp [memberIndented, furtherLines, memberText, ih]
  cases members with
  | nil => rfl
  | cons m members => simp [Value.indented, enclosed, partLines, memberText, htail, furtherLines_eq]

/-! ### Forms -/

/-- White space around a text makes no difference to what it stands for. -/
structure Roomy (form : Form α) : Prop where
  padded : ∀ {x : α} {text before after : List Char}, form x text → Padding before → Padding after →
    form x (before ++ text ++ after)

/-- On its line each part stands for the same. -/
theorem Roomy.partLines {form : Form α} (h : Roomy form) {xs : List α} {parts : List (List Char)}
    (hparts : List.Forall₂ form xs parts) : List.Forall₂ form xs (partLines depth parts) := by
  induction hparts with
  | nil => exact .nil
  | cons hpart _ ih => exact .cons (h.padded hpart (padding_newLine (depth + 1)) (padding_lineEnd depth _)) ih

/-- An indented array stands for the values that its items stand for. -/
theorem listForm_indented {form : Form α} (hroomy : Roomy form) {json : α → Value}
    (hjson : ∀ x, form x ((json x).indented (depth + 1))) (xs : List α) :
    listForm form xs ((Value.array (xs.map json)).indented depth) := by
  refine .of_core ⟨[], _, padding_nil, hroomy.partLines ?_, indented_array (xs.map json)⟩
  rw [List.map_map, List.forall₂_map_right_iff, List.forall₂_same]
  exact fun x _ => hjson x

namespace Shape

variable {ι : Type} {S : Shape ι} {strays : Bool} {form : (i : ι) → Form (S.Holds i)} {r : S.Record}

/-- The texts of members that give a field the value that a record has there. -/
def memberForm (form : (i : ι) → Form (S.Holds i)) (r : S.Record) : Form ι := fun i text =>
  ∃ m, S.Carries form r i m ∧ text = m.text

theorem roomy_memberForm (hroomy : ∀ i, Roomy (form i)) : Roomy (S.memberForm form r) := by
  constructor
  rintro i _ before after ⟨m, hm, rfl⟩ hbefore hafter
  refine ⟨⟨m.name, before ++ m.spelling, m.value ++ after⟩, ⟨hm.name, ?_, ?_⟩, ?_⟩
  · have hspelled : stringForm m.name (before ++ m.spelling ++ []) := hm.spelled.padded hbefore padding_nil
    rwa [List.append_nil] at hspelled
  · exact (hroomy i).padded hm.value padding_nil hafter
  · simp [Member.text, memberText]

/-- Texts of members are those of members. -/
theorem exists_carries {fields : List ι} {texts : List (List Char)}
    (h : List.Forall₂ (S.memberForm form r) fields texts) :
    ∃ members, List.Forall₂ (S.Carries form r) fields members ∧ texts = members.map Member.text := by
  induction h with
  | nil => exact ⟨[], .nil, rfl⟩
  | cons hm _ ih =>
    obtain ⟨m, hm, rfl⟩ := hm
    obtain ⟨members, hmembers, rfl⟩ := ih
    exact ⟨m :: members, .cons hm hmembers, rfl⟩

/-- Writing some of the fields on lines of their own gives an object for the record, if the others may
be left out. -/
theorem objectForm_indented (hname : Function.Injective S.name) (hroomy : ∀ i, Roomy (form i))
    {json : (i : ι) → S.Holds i → Value} (hjson : ∀ i x, form i x ((json i x).indented (depth + 1)))
    {fields : List ι} (hnodup : fields.Nodup) (hall : ∀ i, i ∈ fields ∨ S.absent i = some (r i)) :
    S.objectForm strays form r
      ((Value.object (fields.map fun i => (S.name i, json i (r i)))).indented depth) := by
  have hwritten : List.Forall₂ (S.memberForm form r) fields
      (fields.map fun i => memberText (StringLiteral.write (S.name i))
        (' ' :: (json i (r i)).indented (depth + 1))) := by
    rw [List.forall₂_map_right_iff, List.forall₂_same]
    intro i _
    have hblank : Padding [' '] := List.forall_mem_singleton.2 rfl
    exact ⟨⟨S.name i, _, _⟩, ⟨rfl, stringForm_write (S.name i),
      by simpa using (hroomy i).padded (hjson i (r i)) hblank padding_nil⟩, rfl⟩
  have hlines : List.Forall₂ (S.memberForm form r) fields (partLines depth _) :=
    (roomy_memberForm hroomy).partLines hwritten
  obtain ⟨members, hmembers, htexts⟩ := exists_carries hlines
  refine .of_core ⟨[], members, padding_nil, ?_, ?_⟩
  · exact gives_of_carries hname hmembers hnodup hall (List.forall_mem_nil _) (by simp)
  · rw [indented_object, List.map_map, ← htexts]
    rfl

end Shape

end JobWorker.Json
