/-
What is written of jobs and requests is read back.

Jobs, their headers and the three requests are records, and so one statement about records serves
them all.  A `Codec` says how a kind of value stands in documents: how it is taken apart into fields
and put together again, which texts stand for each field and which of them is written.  With it come
the objects that stand for a value (members in any order, names and strings spelled in any way,
well-formed members of other names, white space, a default left out or written down) and the arrays.

Every such text is read as the value, and what is written of a value is such a text.  So a document
that has been read and written once stays as it is.
-/
import JobWorker.Job.Document
import JobWorker.Proofs.Json.Records
import JobWorker.Request.Document

namespace JobWorker

open Json

/-- Reads a text and writes down again what it stands for. -/
def rewrite {α : Type} (read : Reader α) (toJson : α → Value) (text : String) :
    Except Error String :=
  (parse read text).map fun x => (toJson x).text

/-- Reading and writing fit together, for a kind of value and the texts that stand for its values. -/
structure Faithful {α : Type} (read : Reader α) (toJson : α → Value) (object array : Form α) :
    Prop where
  /-- What is written of a value is read back as it. -/
  written : ∀ x, parse read (toJson x).text = .ok x
  /-- So is every object that stands for the value. -/
  object : ∀ x text, object x text.toList → parse read text = .ok x
  /-- So is every array that stands for the value. -/
  array : ∀ x text, array x text.toList → parse read text = .ok x
  /-- Once a text has been read and written again, that changes it no more. -/
  rewritten : ∀ text, (rewrite read toJson text).bind (rewrite read toJson) = rewrite read toJson text

/-- How a kind of value stands in documents, as a record of a shape. -/
structure Codec (ι α : Type) where
  shape : Shape ι
  /-- The value with given values of the fields. -/
  build : shape.Record → α
  /-- The values of the fields. -/
  record : α → shape.Record
  /-- The texts of each field. -/
  form : (i : ι) → Form (shape.Holds i)
  /-- What is written of each field. -/
  json : (i : ι) → shape.Holds i → Value
  /-- The fields that are written, in order. -/
  written : α → List ι
  /-- How deep the fields nest. -/
  depth : Nat
  depth_lt : depth < deepest
  build_record : ∀ x, build (record x) = x
  name_injective : Function.Injective shape.name
  form_accepts : ∀ i, Accepts false (shape.read i) depth (form i)
  form_json : ∀ i x, form i x (json i x).chars
  written_nodup : ∀ x, (written x).Nodup
  /-- A field that is not written has the value that it has when it is left out. -/
  written_all : ∀ x i, i ∈ written x ∨ shape.absent i = some (record x i)

namespace Codec

variable {ι α : Type} (C : Codec ι α)

/-- What is written of a value. -/
def toJson (x : α) : Value :=
  .object ((C.written x).map fun i => (C.shape.name i, C.json i (C.record x i)))

/-- The objects that stand for a value. -/
def objectForm : Form α := fun x => C.shape.objectForm false C.form (C.record x)

/-- The arrays that stand for a value. -/
def arrayForm : Form α := fun x => C.shape.arrayForm C.form (C.record x)

/-- The texts of a value. -/
def recordForm : Form α := fun x => C.shape.recordForm false C.form (C.record x)

/-- The members that are written of a value, in any order and among any others, make up an object for
it. -/
theorem gives_of_perm (x : α) (others : List Member) {members : List Member}
    (hothers : ∀ m ∈ others,
      stringForm m.name m.spelling ∧ WellFormed false m.value ∧ ∀ i, C.shape.name i ≠ m.name)
    (hperm : members.Perm
      ((C.written x).map (Shape.writtenMember C.json (C.record x)) ++ others)) :
    C.shape.Gives false C.form (C.record x) members :=
  Shape.gives_of_perm C.name_injective C.form_json (C.written_nodup x) (C.written_all x) hothers hperm

theorem objectForm_toJson (x : α) : C.objectForm x (C.toJson x).chars :=
  Shape.objectForm_written C.name_injective C.form_json (C.written x) (C.written_nodup x)
    (C.written_all x)

theorem read_accepts [DecidableEq ι] :
    Accepts false (C.shape.readAs C.build) (C.depth + 1) C.recordForm :=
  Shape.readAs_accepts (Shape.readRecord_accepts C.name_injective C.form_accepts) C.build_record

/-- A kind of value that stands in documents as a record is read as it is written. -/
theorem faithful [DecidableEq ι] :
    Faithful (C.shape.readAs C.build) C.toJson C.objectForm C.arrayForm := by
  have hread : ∀ x text, C.recordForm x text.toList →
      parse (C.shape.readAs C.build) text = .ok x :=
    fun x text htext => C.read_accepts.parse C.depth_lt htext
  have hback : ∀ x, parse (C.shape.readAs C.build) (C.toJson x).text = .ok x := by
    intro x
    refine hread x _ (.inl ?_)
    rw [Value.text, String.toList_ofList]
    exact C.objectForm_toJson x
  refine ⟨hback, fun x text h => hread x text (.inl h), fun x text h => hread x text (.inr h), ?_⟩
  intro text
  cases hparse : parse (C.shape.readAs C.build) text with
  | error e => simp [rewrite, hparse, Except.map, Except.bind]
  | ok x => simp [rewrite, hparse, hback, Except.map, Except.bind]

end Codec

/-! ### Keys -/

namespace JobKey

variable {strays : Bool}

/-- The texts of a key: the number, or a string of its digits. -/
def form : Form JobKey := fun key text =>
  intForm key.toInt text ∨
    Padded (fun inner => ∃ s body, ofText? s = some key ∧ Spells s.toList body ∧
      inner = quoted body) text

theorem fitsWord (key : JobKey) : FitsWord key.toInt := by
  obtain ⟨hleast, hgreatest⟩ := inRange_iff.1 (inRange_toInt key)
  exact ⟨hleast, Int.le_trans hgreatest (by decide)⟩

theorem read_accepts_number : Accepts strays read 0 fun key => intForm key.toInt := by
  refine .padded ?_ ?_
  · rintro key _ rfl
    obtain ⟨ch, more, htext, hch⟩ := (isNumber_intText key.toInt).exists_cons
    exact ⟨ch, more, htext, (number_char hch).1, (number_char hch).2.1⟩
  · rintro key _ rfl levels c c₁ rest - hends hskip hc₁
    obtain ⟨c', hread, hc'⟩ := readNumber_of_at key.fitsWord hends hc₁
    obtain ⟨ch, more, htext, hch⟩ := (isNumber_intText key.toInt).exists_cons
    obtain ⟨-, -, hquote, harray, hobject, -, -, -⟩ := number_char hch
    have hrest : c₁.rest = ch :: (more ++ rest) := by simpa [htext] using hc₁.rest
    have hnumber : (ch = '-' || ch.isDigit) = true := by simpa using hch
    refine ⟨c', ?_, hc'.before⟩
    simp [read, hskip, hrest, hnumber, hread, inRange_toInt, ofInt_toInt, bind, Except.bind, pure,
      Except.pure]

theorem read_accepts_string : Accepts strays read 0 fun key => Padded fun inner =>
    ∃ s body, ofText? s = some key ∧ Spells s.toList body ∧ inner = quoted body := by
  refine .padded ?_ ?_
  · rintro key _ ⟨s, body, -, -, rfl⟩
    exact ⟨'"', _, rfl, by decide, by decide⟩
  · rintro key _ ⟨s, body, hkey, hbody, rfl⟩ levels c c₁ rest - - hskip hc₁
    obtain ⟨c', hread, hc'⟩ := StringLiteral.read_of_spells hbody (by simpa using hc₁.next)
    refine ⟨c', ?_, hc'.before⟩
    simp [read, hskip, hc₁.rest, quoted, hread, hkey, bind, Except.bind, pure, Except.pure]

theorem read_accepts : Accepts strays read 0 form := read_accepts_number.either read_accepts_string

theorem form_toJson (key : JobKey) : form key key.toJson.chars := .inl (.of_core rfl)

end JobKey

/-! ### Jobs -/

/-- Headers in documents. -/
def Headers.codec : Codec Headers.Field Headers where
  shape := Headers.shape
  build := Headers.ofRecord
  record h
    | .processId => h.processId
    | .elementId => h.elementId
    | .elementInstanceKey => h.elementInstanceKey
    | .processVersion => h.processVersion
    | .processKey => h.processKey
    | .processInstanceKey => h.processInstanceKey
  form
    | .processId | .elementId => stringForm
    | .processVersion => fun x : Int32 => intForm x.toInt
    | .elementInstanceKey | .processKey | .processInstanceKey => fun x : Int64 => intForm x.toInt
  json
    | .processId | .elementId => Value.string
    | .processVersion => fun x : Int32 => .int x.toInt
    | .elementInstanceKey | .processKey | .processInstanceKey => fun x : Int64 => .int x.toInt
  written _ := Headers.shape.fields
  depth := 0
  depth_lt := by decide
  build_record _ := rfl
  name_injective i j h := by
    cases i <;> cases j <;> first | rfl | exact absurd h (by decide)
  form_accepts i := by
    cases i with
    | processId | elementId => exact readString_accepts
    | processVersion => exact readInt32_accepts
    | elementInstanceKey | processKey | processInstanceKey => exact readInt64_accepts
  form_json i x := by
    cases i with
    | processId | elementId => exact stringForm_write x
    | processVersion | elementInstanceKey | processKey | processInstanceKey => exact .of_core rfl
  written_nodup _ := by decide
  written_all _ i := .inl (Headers.shape.complete i)

/-- Jobs in documents. -/
def Job.codec : Codec Job.Field Job where
  shape := Job.shape
  build := Job.ofRecord
  record job
    | .key => job.key
    | .type => job.type
    | .worker => job.worker
    | .retries => job.retries
    | .deadline => job.deadline
    | .variablesText => job.variablesText
    | .customHeadersText => job.customHeadersText
    | .headers => job.headers
  form
    | .key => JobKey.form
    | .type | .worker | .variablesText | .customHeadersText => stringForm
    | .retries => fun x : Int32 => intForm x.toInt
    | .deadline => fun x : Int64 => intForm x.toInt
    | .headers => Headers.codec.recordForm
  json
    | .key => JobKey.toJson
    | .type | .worker | .variablesText | .customHeadersText => Value.string
    | .retries => fun x : Int32 => .int x.toInt
    | .deadline => fun x : Int64 => .int x.toInt
    | .headers => Headers.toJson
  written _ := Job.shape.fields
  depth := 1
  depth_lt := by decide
  build_record _ := rfl
  name_injective i j h := by
    cases i <;> cases j <;> first | rfl | exact absurd h (by decide)
  form_accepts i := by
    cases i with
    | key => exact JobKey.read_accepts.mono (by decide)
    | type | worker | variablesText | customHeadersText => exact readString_accepts.mono (by decide)
    | retries => exact readInt32_accepts.mono (by decide)
    | deadline => exact readInt64_accepts.mono (by decide)
    | headers => exact Headers.codec.read_accepts
  form_json i x := by
    cases i with
    | key => exact JobKey.form_toJson x
    | type | worker | variablesText | customHeadersText => exact stringForm_write x
    | retries | deadline => exact .of_core rfl
    | headers => exact .inl (Headers.codec.objectForm_toJson x)
  written_nodup _ := by decide
  written_all _ i := .inl (Job.shape.complete i)

/-! ### Requests -/

/-- Requests for jobs in documents; no names of variables are left out. -/
def ActivateRequest.codec : Codec ActivateRequest.Field ActivateRequest where
  shape := ActivateRequest.shape
  build := ActivateRequest.ofRecord
  record r
    | .jobType => r.jobType
    | .worker => r.worker
    | .timeoutMs => r.timeoutMs
    | .maxJobs => r.maxJobs
    | .fetchVariables => r.fetchVariables
  form
    | .jobType | .worker => stringForm
    | .timeoutMs => fun x : UInt64 => intForm x.toNat
    | .maxJobs => fun x : UInt32 => intForm x.toNat
    | .fetchVariables => listForm stringForm
  json
    | .jobType | .worker => Value.string
    | .timeoutMs => fun x : UInt64 => .int x.toNat
    | .maxJobs => fun x : UInt32 => .int x.toNat
    | .fetchVariables => fun names : List String => .array (names.map .string)
  written r := [.jobType, .worker, .timeoutMs, .maxJobs] ++
    if r.fetchVariables = [] then [] else [.fetchVariables]
  depth := 1
  depth_lt := by decide
  build_record _ := rfl
  name_injective i j h := by
    cases i <;> cases j <;> first | rfl | exact absurd h (by decide)
  form_accepts i := by
    cases i with
    | jobType | worker => exact readString_accepts.mono (by decide)
    | timeoutMs => exact readUInt64_accepts.mono (by decide)
    | maxJobs => exact readUInt32_accepts.mono (by decide)
    | fetchVariables => exact readList_accepts readString_accepts
  form_json i x := by
    cases i with
    | jobType | worker => exact stringForm_write x
    | timeoutMs | maxJobs => exact .of_core rfl
    | fetchVariables => exact listForm_written stringForm_write x
  written_nodup r := by
    split <;> decide
  written_all r i := by
    cases i with
    | fetchVariables =>
      by_cases h : r.fetchVariables = []
      · exact .inr (congrArg some h.symm)
      · exact .inl (by simp [h])
    | jobType | worker | timeoutMs | maxJobs => exact .inl (by simp)

/-- Requests to complete a job in documents; absent variables are left out. -/
def CompleteRequest.codec : Codec CompleteRequest.Field CompleteRequest where
  shape := CompleteRequest.shape
  build := CompleteRequest.ofRecord
  record r
    | .key => r.key
    | .variablesText => r.variablesText
  form
    | .key => JobKey.form
    | .variablesText => optionForm stringForm
  json
    | .key => JobKey.toJson
    | .variablesText => fun text : Option String => (text.map Value.string).getD .null
  written r := .key :: r.variablesText.toList.map fun _ => .variablesText
  depth := 0
  depth_lt := by decide
  build_record _ := rfl
  name_injective i j h := by
    cases i <;> cases j <;> first | rfl | exact absurd h (by decide)
  form_accepts i := by
    cases i with
    | key => exact JobKey.read_accepts
    | variablesText =>
      refine readOption_accepts readString_accepts fun h => ?_
      obtain ⟨ch, more, heq, rfl⟩ := stringForm_opens h
      exact ⟨'"', more, heq, by decide⟩
  form_json i x := by
    cases i with
    | key => exact JobKey.form_toJson x
    | variablesText =>
      cases x with
      | none => exact Padded.of_core rfl
      | some text => exact stringForm_write text
  written_nodup r := by
    cases r.variablesText <;> simp
  written_all r i := by
    cases i with
    | key => exact .inl (by simp)
    | variablesText =>
      cases h : r.variablesText with
      | none => exact .inr rfl
      | some text => exact .inl (by simp)

/-- Requests to fail a job in documents. -/
def FailRequest.codec : Codec FailRequest.Field FailRequest where
  shape := FailRequest.shape
  build := FailRequest.ofRecord
  record r
    | .key => r.key
    | .retries => r.retries
    | .errorMessage => r.errorMessage
  form
    | .key => JobKey.form
    | .retries => fun x : Int32 => intForm x.toInt
    | .errorMessage => stringForm
  json
    | .key => JobKey.toJson
    | .retries => fun x : Int32 => .int x.toInt
    | .errorMessage => Value.string
  written _ := FailRequest.shape.fields
  depth := 0
  depth_lt := by decide
  build_record _ := rfl
  name_injective i j h := by
    cases i <;> cases j <;> first | rfl | exact absurd h (by decide)
  form_accepts i := by
    cases i with
    | key => exact JobKey.read_accepts
    | retries => exact readInt32_accepts
    | errorMessage => exact readString_accepts
  form_json i x := by
    cases i with
    | key => exact JobKey.form_toJson x
    | retries => exact .of_core rfl
    | errorMessage => exact stringForm_write x
  written_nodup _ := by decide
  written_all _ i := .inl (FailRequest.shape.complete i)

theorem ActivateRequest.codec_toJson (r : ActivateRequest) : codec.toJson r = r.toJson := by
  by_cases h : r.fetchVariables = []
  · simp [toJson, Codec.toJson, codec, shape, h]
  · simp [toJson, Codec.toJson, codec, shape, h]

theorem CompleteRequest.codec_toJson (r : CompleteRequest) : codec.toJson r = r.toJson := by
  obtain ⟨key, text⟩ := r
  cases text <;> rfl

/-- Jobs, headers and requests are written as they are read. -/
theorem documents_are_faithful :
    Faithful Job.read Job.toJson Job.codec.objectForm Job.codec.arrayForm ∧
      Faithful Headers.read Headers.toJson Headers.codec.objectForm Headers.codec.arrayForm ∧
      Faithful ActivateRequest.read ActivateRequest.toJson ActivateRequest.codec.objectForm
        ActivateRequest.codec.arrayForm ∧
      Faithful CompleteRequest.read CompleteRequest.toJson CompleteRequest.codec.objectForm
        CompleteRequest.codec.arrayForm ∧
      Faithful FailRequest.read FailRequest.toJson FailRequest.codec.objectForm
        FailRequest.codec.arrayForm := by
  have hactivate : ActivateRequest.toJson = ActivateRequest.codec.toJson :=
    funext fun r => (ActivateRequest.codec_toJson r).symm
  have hcomplete : CompleteRequest.toJson = CompleteRequest.codec.toJson :=
    funext fun r => (CompleteRequest.codec_toJson r).symm
  rw [hactivate, hcomplete]
  exact ⟨Job.codec.faithful, Headers.codec.faithful, ActivateRequest.codec.faithful,
    CompleteRequest.codec.faithful, FailRequest.codec.faithful⟩

/-- A failure whose members stand in the opposite order, behind one that belongs to nothing and holds
a number beyond all limits. -/
theorem documents_are_faithful_reversed :
    parse FailRequest.read
        "\x7b\"note\":1e999,\"error_message\":\"late\",\"retries\":-2,\"job_key\":7\x7d" =
      .ok ⟨JobKey.ofInt 7, -2, "late"⟩ := by
  have hdigits : IsDigits ['9', '9', '9'] := ⟨by decide, List.all_eq_true.mp rfl⟩
  have hpower : IsPower ['e', '9', '9', '9'] := .digits (.inl rfl) List.mem_cons_self hdigits
  have hwhole : IsWhole ['1'] := ⟨⟨by decide, List.all_eq_true.mp rfl⟩, by decide⟩
  have hnumber : IsNumber ['1', 'e', '9', '9', '9'] := .parts List.mem_cons_self hwhole .none hpower
  have hgives := FailRequest.codec.gives_of_perm ⟨JobKey.ofInt 7, -2, "late"⟩
    [⟨"note", StringLiteral.write "note", ['1', 'e', '9', '9', '9']⟩]
    (by
      rw [List.forall_mem_singleton]
      refine ⟨stringForm_write "note", .number hnumber, fun i => ?_⟩
      cases i <;> decide)
    (List.reverse_perm _)
  exact documents_are_faithful.2.2.2.2.object _ _
    (.of_core ⟨[], _, padding_nil, hgives, by decide⟩)

end JobWorker
