/-
The documents of a job, read as objects and read as values.

The variables of a job are a text.  One reader takes it for the text of an object and another for that of
any value, and the two are of one mind: a text that is not blank is an object to the first exactly if it
is that object to the second.  Which texts those are is a matter of the grammar alone.  Everything else
is refused by the first: texts that are no JSON, values of other kinds, texts with something behind the
value, brackets below the deepest level and numbers out of range, wherever they stand.

Where the readers differ is a blank text.  Blank means white space of any kind there, of which JSON knows
only some; no text of a value is blank either way, so nothing is lost by looking for blanks first.
-/
import JobWorker.Proofs.Json.Within
import JobWorker.Proofs.Rest.Surviving

namespace JobWorker

open Json

variable {α : Type} {strays : Bool} {text : List Char} {document : String}

/-! ### Blank texts -/

/-- A text of a value shows something. -/
theorem Json.WellFormed.exists_not_isBlank (h : WellFormed strays text) :
    ∃ c ∈ text, Text.isBlank c = false := by
  induction h with
  | padded _ _ _ ih =>
    obtain ⟨c, hc, hblank⟩ := ih
    exact ⟨c, by simp [hc], hblank⟩
  | nullWord => exact ⟨'n', by simp, by decide⟩
  | trueWord => exact ⟨'t', by simp, by decide⟩
  | falseWord => exact ⟨'f', by simp, by decide⟩
  | number hnumber =>
    obtain ⟨c, more, rfl, hc⟩ := hnumber.exists_cons
    refine ⟨c, List.mem_cons_self, ?_⟩
    rcases hc with rfl | hdigit
    · decide
    · exact Text.isBlank_of_isDigit hdigit
  | string hquoted =>
    obtain ⟨body, -, rfl⟩ := hquoted
    exact ⟨'"', List.mem_cons_self, by decide⟩
  | @array blank items =>
    obtain ⟨more, heq⟩ := exists_enclosed_cons '[' ']' blank items
    exact ⟨'[', by simp [heq], by decide⟩
  | @object blank members =>
    obtain ⟨more, heq⟩ :=
      exists_enclosed_cons '\x7b' '\x7d' blank (members.map fun m => memberText m.1 m.2)
    exact ⟨'\x7b', by simp [heq], by decide⟩

theorem Json.WellFormed.not_isBlankText (h : WellFormed strays document.toList) :
    Text.isBlankText document = false := by
  obtain ⟨c, hc, hblank⟩ := h.exists_not_isBlank
  exact List.all_eq_false.2 ⟨c, hc, by simp [hblank]⟩

/-- A reader that takes nothing but texts of values takes no blank text. -/
theorem not_parse_of_isBlankText {reader : Reader α} {form : Form α}
    (hreader : Yields false (reader deepest) form)
    (hform : ∀ {x text}, form x text → WellFormed false text)
    (hblank : Text.isBlankText document = true) (x : α) : parse reader document ≠ .ok x := by
  intro hread
  have htext : form x document.toList := hreader.readAll rfl hread
  rw [(hform htext).not_isBlankText] at hblank
  cases hblank

/-! ### What the readers take -/

/-- A document is read as a value exactly if it is a text of it. -/
theorem parse_readValue_eq_ok_iff {v : Value} :
    parse readValue document = .ok v ↔ valueForm NumberText deepest v document.toList :=
  (readValue_yields deepest).readAll_iff (readValue_accepts deepest) rfl

/-- A document is read as an object exactly if it is a text of it. -/
theorem parse_readMembers_eq_ok_iff {members : Members} :
    parse readMembers document = .ok members ↔
      valueForm NumberText deepest (.object members) document.toList :=
  (readMembers_yields (readValue_yields (deepest - 1))).readAll_iff
    (readMembers_accepts (readValue_accepts (deepest - 1))) rfl

/-! ### What the readers refuse -/

/-- The ways in which a text fails to be that of an object. -/
inductive Unfit : List Char → Prop
  | malformed {text : List Char} : ¬ WellFormed false text → Unfit text
  | otherKind {v : Value} {text : List Char} : valueForm NumberText deepest v text →
      (∀ members, v ≠ .object members) → Unfit text
  | trailing {text rest : List Char} : WellFormed false text → ¬ Padding rest → Unfit (text ++ rest)
  | tooDeep {part text : List Char} {n : Nat} : Within part n text → deepest ≤ n →
      Opens (fun c => c = '[' ∨ c = '\x7b') part → Unfit text
  | outOfRange {part text : List Char} {n unread : Nat} {l : Literal} : Within part n text →
      Padded l.Spelled part → l.evaluate = .tooLarge unread → Unfit text

/-- What fails to be an object in one of these ways is no object. -/
theorem Unfit.not_valueForm (h : Unfit text) (members : Members) :
    ¬ valueForm NumberText deepest (.object members) text := by
  cases h with
  | malformed hmalformed =>
    exact fun hobject => hmalformed (wellFormed_of_valueForm NumberText.isNumber hobject)
  | otherKind hv hkind => exact fun hobject => hkind members (valueForm_inj hv hobject)
  | trailing htext hrest => exact not_valueForm_append NumberText.isNumber htext hrest
  | tooDeep hwithin hdeep hopens => exact hwithin.not_valueForm_of_deep NumberText.isNumber hopens hdeep
  | outOfRange hwithin hspelled hlarge => exact hwithin.not_valueForm_of_tooLarge hspelled hlarge

/-! ### The two readers of a document -/

/-- How a document comes out as an object and how as a value of the caller's kind. -/
structure ReadAlike (document : String) (asObject : Except Error Members)
    (readAs : {α : Type} → Reader α → Except Error α) : Prop where
  /-- A text that is not blank is an object exactly if it is the same object as a value, -/
  agree : Text.isBlankText document = false → ∀ members,
    asObject = .ok members ↔ readAs readValue = .ok (.object members)
  /-- and that is so exactly if it stands for the object. -/
  stands : Text.isBlankText document = false → ∀ members,
    asObject = .ok members ↔ valueForm NumberText deepest (.object members) document.toList
  /-- Everything else is refused. -/
  refused : Text.isBlankText document = false → Unfit document.toList →
    ∃ error, asObject = .error error
  /-- A blank text is the empty object, -/
  blank : Text.isBlankText document = true → asObject = .ok []
  /-- but it is no value, -/
  noValue : Text.isBlankText document = true → ∃ error, readAs readValue = .error error
  /-- nor anything else that has texts of values. -/
  nothing : Text.isBlankText document = true → ∀ {α : Type} {reader : Reader α} {form : Form α},
    Yields false (reader deepest) form → (∀ {x text}, form x text → WellFormed false text) →
      ∃ error, readAs reader = .error error

theorem parseObject_of_not_blank (h : Text.isBlankText document = false) :
    parseObject document = parse readMembers document := by
  rw [parseObject, h, if_neg Bool.false_ne_true]

/-- **An object and a value are read alike**, whatever the document. -/
theorem readAlike (document : String) :
    ReadAlike document (parseObject document) fun reader => parse reader document where
  agree h members := by
    rw [parseObject_of_not_blank h, parse_readMembers_eq_ok_iff, parse_readValue_eq_ok_iff]
  stands h members := by
    rw [parseObject_of_not_blank h, parse_readMembers_eq_ok_iff]
  refused h hunfit := by
    refine exists_error_of_ne fun members hread => hunfit.not_valueForm members ?_
    rwa [parseObject_of_not_blank h, parse_readMembers_eq_ok_iff] at hread
  blank h := by rw [parseObject, if_pos h]
  noValue h := exists_error_of_ne
    (not_parse_of_isBlankText (readValue_yields deepest) (wellFormed_of_valueForm NumberText.isNumber) h)
  nothing h _ _ _ hreader hform := exists_error_of_ne (not_parse_of_isBlankText hreader hform h)

/-- **The two readers of a job's documents agree**: those of its variables, and those of its custom
headers. -/
theorem Job.documents_readAlike (job : Job) :
    ReadAlike job.variablesText job.variablesMap (fun reader => job.variablesAs reader) ∧
      ReadAlike job.customHeadersText job.customHeadersMap fun reader =>
        parse reader job.customHeadersText :=
  ⟨readAlike job.variablesText, readAlike job.customHeadersText⟩

end JobWorker
