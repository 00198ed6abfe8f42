/-
Which bodies are answers, and which jobs they grant.

The texts of an answer are put together as the shapes of answers and of jobs are.  The reader accepts
all of them and yields nothing else, so that a body decodes to some jobs exactly if it is a text of an
answer that grants them.
-/
import JobWorker.Proofs.Documents
import JobWorker.Proofs.Json.Parts
import JobWorker.Rest.Activated

namespace JobWorker

open Json

namespace JobKey

variable {strays : Bool} {levels : Nat}

theorem form_padded {key : JobKey} {text before after : List Char} (h : form key text)
    (hbefore : Padding before) (hafter : Padding after) : form key (before ++ text ++ after) :=
  h.imp (fun h => Padded.padded h hbefore hafter) fun h => Padded.padded h hbefore hafter

theorem wellFormed_of_form {key : JobKey} {text : List Char} (h : form key text) :
    WellFormed strays text := by
  rcases h with h | h
  · exact wellFormed_of_intForm h
  · refine Padded.wellFormed h ?_
    rintro _ ⟨s, body, -, hbody, rfl⟩
    exact .string ⟨body, StringLiteral.quotable_of_spells strays hbody, rfl⟩

/-- A key that has been read is what the passed text stands for. -/
theorem read_yields (levels : Nat) : Yields strays (read levels) form where
  padded := form_padded
  passed {c c' key} _ hread := by
    obtain ⟨blank, hblank, hskip⟩ := c.passed_skipSpace
    unfold read at hread
    simp only at hread
    split at hread
    · next hrest =>
      obtain ⟨⟨s, c₁⟩, hstring, hread⟩ := bind_eq_ok_iff.1 hread
      obtain ⟨body, hbody, hc₁⟩ := StringLiteral.passed_read hstring
      simp only at hread
      split at hread
      · next hkey =>
        cases hread
        exact ⟨_, .inr (.around hblank ⟨s, body, hkey, hbody, rfl⟩ padding_nil),
          by simpa [quoted] using hskip.trans (hc₁.cons hrest)⟩
      · simp at hread
    · split at hread <;> simp at hread
    · split at hread <;> simp at hread
    · split at hread
      · obtain ⟨⟨n, c₁⟩, hnumber, hread⟩ := bind_eq_ok_iff.1 hread
        obtain ⟨text, htext, hc₁⟩ := passed_readNumber hnumber
        cases n with
        | float x => simp at hread
        | integer n =>
          obtain ⟨rfl, -⟩ := numberText_integer.1 htext
          simp only at hread
          split at hread
          · next hrange =>
            cases hread
            refine ⟨_, .inl (.around hblank rfl padding_nil), ?_⟩
            rw [toInt_ofInt hrange]
            simpa using hskip.trans hc₁
          · simp at hread
      · simp at hread
    · simp at hread

/-- A key is never null. -/
theorem form_opens {key : JobKey} {text : List Char} (h : form key text) : Opens (· ≠ 'n') text := by
  rcases h with h | h
  · refine Padded.opens h ?_
    rintro _ rfl
    obtain ⟨ch, more, heq, hch⟩ := (isNumber_intText key.toInt).exists_cons
    exact ⟨ch, more, heq, (number_char hch).1, (number_char hch).2.2.2.2.2.1⟩
  · refine Padded.opens h ?_
    rintro _ ⟨s, body, -, -, rfl⟩
    exact ⟨'"', _, rfl, by decide, by decide⟩

end JobKey

namespace Rest

variable {strays : Bool}

/-- How deep the variables of a job may nest: a job stands in a list in an answer. -/
def variablesDepth : Nat := deepest - 3

/-- The texts of the fields of a job. -/
def jobForm : (i : JobField) → Form (jobShape.Holds i)
  | .key => JobKey.form
  | .type | .worker | .processId | .elementId => stringForm
  | .retries | .processVersion => fun x : Int32 => intForm x.toInt
  | .deadline => fun x : Int64 => intForm x.toInt
  | .variablesValue | .customHeadersValue => valueForm NumberText variablesDepth
  | .processKey | .elementInstanceKey | .processInstanceKey => optionForm JobKey.form

/-- The texts of a job, by its fields. -/
def recordForm (strays : Bool) : Form jobShape.Record := jobShape.textForm strays jobForm

/-- The texts of the jobs of an answer. -/
def jobsForm (strays : Bool) : (i : AnswerField) → Form (answerShape.Holds i)
  | .jobs => listForm fun job text => ∃ r, recordForm strays r text ∧ jobOfRecord r = job

/-- The texts of an answer that grants some jobs. -/
def answerForm (strays : Bool) : Form (List Job) := fun jobs text =>
  ∃ r, answerShape.textForm strays (jobsForm strays) r text ∧ r .jobs = jobs

theorem jobShape_name_injective : Function.Injective jobShape.name := by
  intro i j h
  cases i <;> cases j <;> first | rfl | exact absurd h (by decide)

theorem answerShape_name_injective : Function.Injective answerShape.name := by
  rintro ⟨⟩ ⟨⟩ _
  rfl

theorem jobForm_accepts (i : JobField) :
    Accepts strays (jobShape.read i) variablesDepth (jobForm i) := by
  cases i with
  | key => exact JobKey.read_accepts.mono (by decide)
  | type | worker | processId | elementId => exact readString_accepts.mono (by decide)
  | retries | processVersion => exact readInt32_accepts.mono (by decide)
  | deadline => exact readInt64_accepts.mono (by decide)
  | variablesValue | customHeadersValue => exact readValue_accepts variablesDepth
  | processKey | elementInstanceKey | processInstanceKey =>
    exact readOption_accepts (JobKey.read_accepts.mono (by decide)) JobKey.form_opens

theorem jobForm_yields (i : JobField) : Yields strays (jobShape.read i variablesDepth) (jobForm i) := by
  cases i with
  | key => exact JobKey.read_yields variablesDepth
  | type | worker | processId | elementId => exact readString_yields variablesDepth
  | retries | processVersion => exact readInt32_yields variablesDepth
  | deadline => exact readInt64_yields variablesDepth
  | variablesValue | customHeadersValue => exact readValue_yields variablesDepth
  | processKey | elementInstanceKey | processInstanceKey =>
    exact readOption_yields (JobKey.read_yields variablesDepth)

theorem wellFormed_of_jobForm (i : JobField) {x : jobShape.Holds i} {text : List Char}
    (h : jobForm i x text) : WellFormed strays text := by
  cases i with
  | key => exact JobKey.wellFormed_of_form h
  | type | worker | processId | elementId => exact wellFormed_of_stringForm h
  | retries | processVersion | deadline => exact wellFormed_of_intForm h
  | variablesValue | customHeadersValue => exact wellFormed_of_valueForm NumberText.isNumber h
  | processKey | elementInstanceKey | processInstanceKey =>
    exact wellFormed_of_optionForm JobKey.wellFormed_of_form h

theorem recordForm_accepts :
    Accepts strays jobShape.readRecord (variablesDepth + 1) (recordForm strays) :=
  Shape.readRecord_accepts_text jobShape_name_injective jobForm_accepts

theorem recordForm_yields :
    Yields strays (jobShape.readRecord (variablesDepth + 1)) (recordForm strays) :=
  Shape.readRecord_yields jobShape_name_injective (by decide) jobForm_yields

theorem jobsForm_accepts (i : AnswerField) :
    Accepts strays (answerShape.read i) (variablesDepth + 2) (jobsForm strays i) := by
  cases i
  exact readList_accepts (Shape.readAs_accepts_made recordForm_accepts)

theorem jobsForm_yields (i : AnswerField) :
    Yields strays (answerShape.read i (variablesDepth + 2)) (jobsForm strays i) := by
  cases i
  exact readList_yields (Shape.readAs_yields jobOfRecord recordForm_yields)

theorem answerForm_accepts : Accepts strays readJobs deepest (answerForm strays) :=
  Shape.readAs_accepts_made (Shape.readRecord_accepts_text answerShape_name_injective jobsForm_accepts)

theorem answerForm_yields : Yields strays (readJobs deepest) (answerForm strays) :=
  Shape.readAs_yields _
    (Shape.readRecord_yields answerShape_name_injective (by decide) jobsForm_yields)

/-- A body decodes to some jobs exactly if it is a text of an answer that grants them. -/
theorem decodeJobs_eq_ok_iff {body : List UInt8} {jobs : List Job} :
    decodeJobs body = .ok jobs ↔ answerForm (bodyCursor body).strays jobs (bodyCursor body).rest :=
  answerForm_yields.readAll_iff answerForm_accepts rfl

end Rest

end JobWorker
