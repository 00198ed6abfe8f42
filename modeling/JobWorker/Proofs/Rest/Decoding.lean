/-
Jobs come out of an answer whole, and as they were meant.

An answer lists its jobs in an array.  Either all of them are granted, one for each item and in the
order of the items, or none is.  How an answer is worded makes no difference to the jobs: the order of
the members, members of other names, whether a key is a number or a text of its digits, and whether a
field carries its default or is missing.

The variables and the headers of a job are kept as they are worded, and so nothing is said about
changes inside them.
-/
import JobWorker.Proofs.Json.Determined
import JobWorker.Proofs.Json.Restating
import JobWorker.Proofs.Rest.Answers
import JobWorker.Rest.Stub

namespace JobWorker.Rest

open Json

variable {strays : Bool} {text value : List Char}

/-! ### What may be worded in another way -/

/-- The texts of a key: its number, or a string of the digits with blanks around them. -/
inductive KeyText (n : Int) : List Char → Prop
  | number {text : List Char} : intForm n text → KeyText n text
  | digits {s : String} {before after text : List Char} : (∀ c ∈ before, Text.isBlank c = true) →
      (∀ c ∈ after, Text.isBlank c = true) → s.toList = before ++ Decimal.intText n ++ after →
      stringForm s text → KeyText n text

/-- The texts of a field of a job that may take each other's place: two texts of one key. -/
def sameInJob : JobField → List Char → List Char → Prop
  | .key | .processKey | .elementInstanceKey | .processInstanceKey => fun value value' =>
    ∃ n, KeyText n value ∧ KeyText n value'
  | .type | .worker | .retries | .deadline | .variablesValue | .customHeadersValue | .processId
  | .processVersion | .elementId => fun _ _ => False

/-- The texts that a field of a job need not carry. -/
def defaultInJob : JobField → List Char → Prop
  | .key | .type => fun _ => False
  | .worker | .processId | .elementId => stringForm ""
  | .retries | .deadline | .processVersion => intForm 0
  | .variablesValue | .customHeadersValue => Padded (· = ['n', 'u', 'l', 'l'])
  | .processKey | .elementInstanceKey | .processInstanceKey => fun text =>
    Padded (· = ['n', 'u', 'l', 'l']) text ∨ KeyText 0 text

/-- Two items of an array of jobs say the same. -/
def SameJob (strays : Bool) : List Char → List Char → Prop :=
  jobShape.SaysTheSame strays sameInJob defaultInJob

/-- The texts of the jobs that may take each other's place: arrays of items that say the same. -/
def sameInAnswer (strays : Bool) : AnswerField → List Char → List Char → Prop
  | .jobs => fun value value' => ∃ items items', ArrayText items value ∧ ArrayText items' value' ∧
    List.Forall₂ (SameJob strays) items items'

/-- The texts that the jobs need not be given as: the empty array. -/
def defaultInAnswer : AnswerField → List Char → Prop
  | .jobs => ArrayText []

/-- Two answers say the same. -/
def SameAnswer (strays : Bool) : List Char → List Char → Prop :=
  answerShape.SaysTheSame strays (sameInAnswer strays) defaultInAnswer

/-- Two bodies say the same.  Stray bytes are in both or in none. -/
def SameBody (body body' : List UInt8) : Prop :=
  (bodyCursor body).strays = (bodyCursor body').strays ∧
    SameAnswer (bodyCursor body).strays (bodyCursor body).rest (bodyCursor body').rest

/-! ### Keys -/

theorem isSpace_of_mem_intText {n : Int} {c : Char} (h : c ∈ Decimal.intText n) : isSpace c = false :=
  (number_char (Decimal.eq_minus_or_isDigit_of_mem_intText h)).1

theorem isBlank_of_mem_intText {n : Int} {c : Char} (h : c ∈ Decimal.intText n) :
    Text.isBlank c = false := by
  rcases Decimal.eq_minus_or_isDigit_of_mem_intText h with rfl | hdigit
  · decide
  · exact Text.isBlank_of_isDigit hdigit

theorem intForm_inj {n m : Int} (h : intForm n text) (h' : intForm m text) : n = m := by
  refine Decimal.intText_inj ?_
  rw [← filter_of_padded h fun _ => isSpace_of_mem_intText,
    filter_of_padded h' fun _ => isSpace_of_mem_intText]

theorem intForm_opens {n : Int} (h : intForm n text) : Opens (fun c => c ≠ '"' ∧ c ≠ 'n') text := by
  refine Padded.opens h ?_
  rintro _ rfl
  obtain ⟨ch, more, heq, hch⟩ := (isNumber_intText n).exists_cons
  exact ⟨ch, more, heq, (number_char hch).1, (number_char hch).2.2.1, (number_char hch).2.2.2.2.2.1⟩

theorem null_opens (h : Padded (· = ['n', 'u', 'l', 'l']) text) : Opens (· = 'n') text := by
  refine Padded.opens h ?_
  rintro _ rfl
  exact ⟨'n', _, rfl, by decide, rfl⟩

/-- No text is a number and a string. -/
theorem not_stringForm_of_intForm {n : Int} {s : String} (h : intForm n text)
    (h' : stringForm s text) : False := by
  obtain ⟨_, hne, rfl⟩ := (intForm_opens h).exists_both (stringForm_opens h')
  exact hne.1 rfl

/-- No text is a key and null. -/
theorem not_null_of_form {key : JobKey} (h : JobKey.form key text) :
    ¬ Padded (· = ['n', 'u', 'l', 'l']) text := by
  intro hnull
  obtain ⟨_, hne, rfl⟩ := (JobKey.form_opens h).exists_both (null_opens hnull)
  exact hne rfl

theorem KeyText.not_null {n : Int} (h : KeyText n text) : ¬ Padded (· = ['n', 'u', 'l', 'l']) text := by
  intro hnull
  cases h with
  | number h =>
    obtain ⟨_, hne, rfl⟩ := (intForm_opens h).exists_both (null_opens hnull)
    exact hne.2 rfl
  | digits _ _ _ h =>
    obtain ⟨_, rfl, heq⟩ := (stringForm_opens h).exists_both (null_opens hnull)
    exact absurd heq (by decide)

theorem form_iff_of_stringForm {key : JobKey} {s : String} (h : stringForm s text) :
    JobKey.form key text ↔ JobKey.ofText? s = some key := by
  constructor
  · rintro (hnumber | hdigits)
    · exact (not_stringForm_of_intForm hnumber h).elim
    · obtain ⟨hbefore, ⟨s', body, hkey, hbody, rfl⟩, hafter⟩ := hdigits
      obtain rfl : s = s' := stringForm_inj h (.around hbefore ⟨body, hbody, rfl⟩ hafter)
      exact hkey
  · intro hkey
    exact .inr (h.imp fun _ ⟨body, hbody, heq⟩ => ⟨s, body, hkey, hbody, heq⟩)

theorem ofText?_eq_some_iff {key : JobKey} {s : String} {n : Int} {before after : List Char}
    (hbefore : ∀ c ∈ before, Text.isBlank c = true) (hafter : ∀ c ∈ after, Text.isBlank c = true)
    (hs : s.toList = before ++ Decimal.intText n ++ after) :
    JobKey.ofText? s = some key ↔ key.toInt = n := by
  have htrim := Text.trim_append_append hbefore (fun _ => isBlank_of_mem_intText (n := n)) hafter
  simp only [JobKey.ofText?, hs, htrim, Decimal.int?_intText]
  constructor
  · intro h
    split at h
    · next hrange =>
      cases h
      exact JobKey.toInt_ofInt hrange
    · cases h
  · rintro rfl
    simp [JobKey.inRange_toInt, JobKey.ofInt_toInt]

/-- A text of a number as a key stands for the key with that number, and for nothing else. -/
theorem KeyText.form_iff {n : Int} {key : JobKey} (h : KeyText n text) :
    JobKey.form key text ↔ key.toInt = n := by
  cases h with
  | number h =>
    constructor
    · rintro (hnumber | hdigits)
      · exact intForm_inj hnumber h
      · obtain ⟨hbefore, ⟨s, body, -, hbody, rfl⟩, hafter⟩ := hdigits
        exact (not_stringForm_of_intForm h (s := s) (.around hbefore ⟨body, hbody, rfl⟩ hafter)).elim
    · rintro rfl
      exact .inl h
  | digits hbefore hafter hs h =>
    rw [form_iff_of_stringForm h, ofText?_eq_some_iff hbefore hafter hs]

theorem KeyText.form_iff_form {n : Int} {value' : List Char} (h : KeyText n value)
    (h' : KeyText n value') (key : JobKey) : JobKey.form key value ↔ JobKey.form key value' := by
  rw [h.form_iff, h'.form_iff]

theorem KeyText.optionForm_iff {n : Int} {value' : List Char} (h : KeyText n value)
    (h' : KeyText n value') (key : Option JobKey) :
    optionForm JobKey.form key value ↔ optionForm JobKey.form key value' := by
  cases key with
  | none => exact iff_of_false h.not_null h'.not_null
  | some key => exact h.form_iff_form h' key

/-! ### Jobs -/

theorem keyOrZero_none : keyOrZero none = 0 := rfl

/-- Where a key may be left out, it is as good as none. -/
theorem keyOrZero_of_default {key : Option JobKey}
    (h : Padded (· = ['n', 'u', 'l', 'l']) text ∨ KeyText 0 text)
    (hkey : optionForm JobKey.form key text) : keyOrZero key = 0 := by
  cases key with
  | none => rfl
  | some key =>
    rcases h with hnull | hzero
    · exact (not_null_of_form hkey hnull).elim
    · have hkey : key.value.toInt = 0 := hzero.form_iff.1 hkey
      exact Int64.toInt_inj.1 hkey

theorem exists_key_of_default (h : Padded (· = ['n', 'u', 'l', 'l']) text ∨ KeyText 0 text) :
    ∃ key, optionForm JobKey.form key text := by
  rcases h with hnull | hzero
  · exact ⟨none, hnull⟩
  · exact ⟨some (JobKey.ofInt 0), hzero.form_iff.2 (by decide)⟩

theorem int32_eq_zero {x : Int32} (hzero : intForm 0 text) (h : intForm x.toInt text) : x = 0 :=
  Int32.toInt_inj.1 (intForm_inj h hzero)

theorem int64_eq_zero {x : Int64} (hzero : intForm 0 text) (h : intForm x.toInt text) : x = 0 :=
  Int64.toInt_inj.1 (intForm_inj h hzero)

theorem value_eq_null {v : Value} (hnull : Padded (· = ['n', 'u', 'l', 'l']) text)
    (h : valueForm NumberText variablesDepth v text) : v = .null :=
  valueForm_inj h
    (hnull.imp fun _ => valueText_null.2)

/-- Another wording of a job makes no difference to the job. -/
theorem job_harmless : jobShape.Harmless jobForm jobOfRecord sameInJob defaultInJob where
  switch {i value value'} h x := by
    cases i with
    | key =>
      obtain ⟨n, h, h'⟩ := h
      exact h.form_iff_form h' x
    | processKey | elementInstanceKey | processInstanceKey =>
      obtain ⟨n, h, h'⟩ := h
      exact h.optionForm_iff h' x
    | type | worker | retries | deadline | variablesValue | customHeadersValue | processId
    | processVersion | elementId => exact h.elim
  leaveOut {i value} h := by
    cases i with
    | key | type => exact h.elim
    | worker | processId | elementId =>
      exact ⟨"", rfl, ⟨"", h⟩, fun x hx r => by rw [stringForm_inj hx h]⟩
    | retries | processVersion =>
      exact ⟨(0 : Int32), rfl, ⟨(0 : Int32), h⟩, fun x hx r => by rw [int32_eq_zero h hx]⟩
    | deadline => exact ⟨(0 : Int64), rfl, ⟨(0 : Int64), h⟩, fun x hx r => by rw [int64_eq_zero h hx]⟩
    | variablesValue | customHeadersValue =>
      exact ⟨Value.null, rfl, ⟨Value.null, h.imp fun _ => valueText_null.2⟩,
        fun x hx r => by rw [value_eq_null h hx]⟩
    | processKey | elementInstanceKey | processInstanceKey =>
      refine ⟨none, rfl, exists_key_of_default h, fun x hx r => ?_⟩
      have hzero := keyOrZero_of_default h hx
      simp [jobOfRecord, Shape.Record.put, hzero, keyOrZero_none]

/-- The jobs that an item of an array of jobs stands for. -/
def JobText (strays : Bool) : Form Job := fun job text => ∃ r, recordForm strays r text ∧ jobOfRecord r = job

theorem SameJob.jobText_iff {text' : List Char} (h : SameJob strays text text') (job : Job) :
    JobText strays job text ↔ JobText strays job text' :=
  Shape.SaysTheSame.made_iff jobShape_name_injective job_harmless wellFormed_of_jobForm h job

theorem wellFormed_of_jobText {job : Job} (h : JobText strays job text) : WellFormed strays text := by
  obtain ⟨r, htext, -⟩ := h
  exact Shape.wellFormed_of_textForm wellFormed_of_jobForm htext

/-! ### Answers -/

theorem forall₂_jobText_iff {items items' : List (List Char)}
    (h : List.Forall₂ (SameJob strays) items items') (jobs : List Job) :
    List.Forall₂ (JobText strays) jobs items ↔ List.Forall₂ (JobText strays) jobs items' := by
  induction h generalizing jobs with
  | nil => exact Iff.rfl
  | cons hsame _ ih => cases jobs <;> simp [hsame.jobText_iff, ih]

/-- An array stands for some jobs if its items stand for them one by one. -/
theorem jobsForm_iff {items : List (List Char)} (h : ArrayText items value)
    (hitems : ∀ item ∈ items, WellFormed strays item) (jobs : List Job) :
    jobsForm strays .jobs jobs value ↔ List.Forall₂ (JobText strays) jobs items := by
  refine listForm_iff.trans ⟨?_, fun hjobs => ⟨items, hjobs, h⟩⟩
  rintro ⟨given, hgiven, htext⟩
  rwa [arrayText_inj h htext hitems (forall_mem_of_forall₂ hgiven wellFormed_of_jobText)]

/-- Another wording of an answer makes no difference to its jobs. -/
theorem answer_harmless : answerShape.Harmless (jobsForm strays) (fun r => r .jobs)
    (sameInAnswer strays) defaultInAnswer where
  switch {i value value'} h jobs := by
    cases i
    obtain ⟨items, items', htext, htext', hsame⟩ := h
    have hitems : ∀ item ∈ items, WellFormed strays item :=
      forall_mem_of_forall₂ hsame.flip fun h => h.wellFormed.1
    have hitems' : ∀ item ∈ items', WellFormed strays item :=
      forall_mem_of_forall₂ hsame fun h => h.wellFormed.2
    exact (jobsForm_iff htext hitems jobs).trans
      ((forall₂_jobText_iff hsame jobs).trans (jobsForm_iff htext' hitems' jobs).symm)
  leaveOut {i value} h := by
    cases i
    have hjobs : ∀ jobs : List Job, jobsForm strays .jobs jobs value ↔ jobs = [] := fun jobs =>
      (jobsForm_iff h (by simp) jobs).trans List.forall₂_nil_right_iff
    exact ⟨[], rfl, ⟨[], (hjobs []).2 rfl⟩, fun jobs hx r => by rw [(hjobs jobs).1 hx]⟩

theorem wellFormed_of_jobsForm (i : AnswerField) {jobs : answerShape.Holds i} {text : List Char}
    (h : jobsForm strays i jobs text) : WellFormed strays text := by
  cases i
  obtain ⟨items, hitems, htext⟩ := listForm_iff.1 h
  exact wellFormed_of_arrayText htext (forall_mem_of_forall₂ hitems wellFormed_of_jobText)

/-- Answers that say the same grant the same jobs. -/
theorem SameAnswer.answerForm_iff {text' : List Char} (h : SameAnswer strays text text')
    (jobs : List Job) : answerForm strays jobs text ↔ answerForm strays jobs text' :=
  Shape.SaysTheSame.made_iff answerShape_name_injective answer_harmless wellFormed_of_jobsForm h jobs

/-! ### The items of an answer -/

/-- The items of the array of jobs of an answer; there are none if the array is missing. -/
inductive AnswerItems (strays : Bool) : List (List Char) → List Char → Prop
  | listed {value text : List Char} {items : List (List Char)} :
      answerShape.Shows strays .jobs (some value) text → ArrayText items value →
      (∀ item ∈ items, WellFormed strays item) → AnswerItems strays items text
  | missing {text : List Char} : answerShape.Shows strays .jobs none text → AnswerItems strays [] text

/-- An answer has items, and grants one job for each of them. -/
theorem items_of_answerForm {jobs : List Job} (h : answerForm strays jobs text) :
    (∃ items, AnswerItems strays items text) ∧
      ∀ items, AnswerItems strays items text → List.Forall₂ (JobText strays) jobs items := by
  obtain ⟨r, htext, rfl⟩ := h
  constructor
  · obtain ⟨value?, hshows⟩ := Shape.exists_shows wellFormed_of_jobsForm htext .jobs
    obtain ⟨hvalue, -⟩ := Shape.form_of_shows wellFormed_of_jobsForm htext hshows
    cases value? with
    | none => exact ⟨[], .missing hshows⟩
    | some value =>
      obtain ⟨items, hitems, harray⟩ := listForm_iff.1 (hvalue value rfl)
      exact ⟨items, .listed hshows harray (forall_mem_of_forall₂ hitems wellFormed_of_jobText)⟩
  · rintro items (⟨hshows, harray, hitems⟩ | hmissing)
    · obtain ⟨hvalue, -⟩ := Shape.form_of_shows wellFormed_of_jobsForm htext hshows
      exact (jobsForm_iff harray hitems _).1 (hvalue _ rfl)
    · obtain ⟨-, habsent⟩ := Shape.form_of_shows wellFormed_of_jobsForm htext hmissing
      rw [← Option.some.inj (habsent rfl)]
      exact .nil

/-! ### What a gateway hands on -/

variable {ν : Type} [Network ν]

/-- A request for jobs is answered with success, by a reply with a body. -/
def Remote.Hears (g : Remote ν) (request : ActivateRequest) (body : List UInt8) : Prop :=
  ∃ p reply, g.endpoint.activation request = .ok p ∧ (Network.exchange g.network p).2 = some reply ∧
    reply.isSuccess = true ∧ reply.body = body

/-- What a gateway hands on is what the body decodes to. -/
theorem Remote.Hears.activate {g : Remote ν} {request : ActivateRequest} {body : List UInt8}
    (h : g.Hears request body) : (Gateway.activate g request).2 = some (granted body) := by
  obtain ⟨p, reply, hpost, hreply, hsuccess, rfl⟩ := h
  have hreceived : received p (Network.exchange g.network p).2 = .ok reply.body := by
    rw [hreply, received, if_pos hsuccess]
  simp only [Gateway.activate, Remote.exchange, hpost, hreceived]
  rfl

theorem granted_eq_ok_iff {body : List UInt8} {jobs : List Job} :
    granted body = .ok jobs ↔ answerForm (bodyCursor body).strays jobs (bodyCursor body).rest := by
  rw [← decodeJobs_eq_ok_iff, granted]
  cases decodeJobs body <;> simp

/-- **Decoding.**  A successful answer is refused as a whole, or it grants one job for each item of its
array of jobs, in the order of the items.  Answers that say the same grant the same jobs. -/
theorem decoding_is_whole_and_stable {g g' : Remote ν} {request request' : ActivateRequest}
    {body body' : List UInt8} (h : g.Hears request body) (h' : g'.Hears request' body') :
    ((∃ error, (Gateway.activate g request).2 = some (.error error)) ∨
      ∃ jobs, (Gateway.activate g request).2 = some (.ok jobs) ∧
        (∃ items, AnswerItems (bodyCursor body).strays items (bodyCursor body).rest) ∧
        ∀ items, AnswerItems (bodyCursor body).strays items (bodyCursor body).rest →
          List.Forall₂ (JobText (bodyCursor body).strays) jobs items) ∧
    (SameBody body body' → ∀ jobs, (Gateway.activate g request).2 = some (.ok jobs) ↔
      (Gateway.activate g' request').2 = some (.ok jobs)) := by
  rw [h.activate, h'.activate]
  constructor
  · cases hgrant : granted body with
    | error error => exact .inl ⟨error, rfl⟩
    | ok jobs => exact .inr ⟨jobs, rfl, items_of_answerForm (granted_eq_ok_iff.1 hgrant)⟩
  · rintro ⟨hstrays, hsame⟩ jobs
    rw [Option.some_inj, Option.some_inj, granted_eq_ok_iff, granted_eq_ok_iff, ← hstrays,
      hsame.answerForm_iff]

/-! ### An answer worded in two ways -/

/-- A gateway on this computer that answers a request for jobs with a body. -/
def answering (body : List UInt8) : Remote Stub :=
  ⟨Endpoint.ofAddress "http://[::1]", ⟨true, [some ⟨200, body⟩], [], []⟩⟩

/-- A member under a name that is written without any need. -/
def writtenMember (name : String) (value : List Char) : Member := ⟨name, StringLiteral.write name, value⟩

/-- An object without white space. -/
def compactObject (members : List Member) : List Char :=
  enclosed '\x7b' '\x7d' [] (members.map Member.text)

/-- The one member of an answer with a single job, by the members of the job. -/
def oneJob (members : List Member) : Member :=
  writtenMember "jobs" (enclosed '[' ']' [] [compactObject members])

/-- An answer with a single job. -/
def oneJobAnswer (members : List Member) : List Char := compactObject [oneJob members]

/-- An answer with a single job as a body. -/
def oneJobBody (members : List Member) : List UInt8 := (String.ofList (oneJobAnswer members)).toUTF8.toList

theorem objectText_compact (members : List Member) : ObjectText members (compactObject members) :=
  .of_core ⟨[], padding_nil, rfl⟩

theorem arrayText_compact (items : List (List Char)) : ArrayText items (enclosed '[' ']' [] items) :=
  .of_core ⟨[], padding_nil, rfl⟩

theorem good_oneJob {members : List Member} (h : ∀ m ∈ members, m.Good strays) :
    ∀ m ∈ [oneJob members], m.Good strays := by
  intro m hm
  obtain rfl := List.mem_singleton.1 hm
  refine ⟨stringForm_write _, wellFormed_of_arrayText (arrayText_compact [_]) fun item hitem => ?_⟩
  obtain rfl := List.mem_singleton.1 hitem
  exact wellFormed_of_objectText (objectText_compact members) h

/-- The only item of an answer with a single job. -/
theorem answerItems_oneJob {members : List Member} (h : ∀ m ∈ members, m.Good strays) :
    AnswerItems strays [compactObject members] (oneJobAnswer members) := by
  refine .listed (.object (objectText_compact _) (good_oneJob h) rfl) (arrayText_compact _) ?_
  simpa using wellFormed_of_objectText (objectText_compact members) h

/-- The members of a job with a key. -/
def keyedJob (key : List Char) : List Member :=
  [writtenMember "jobKey" key, writtenMember "type" (StringLiteral.write "a")]

theorem keyText_write (n : Int) : KeyText n (StringLiteral.write (String.ofList (Decimal.intText n))) :=
  @KeyText.digits n _ [] [] _ (by simp) (by simp) (by simp) (stringForm_write _)

theorem KeyText.wellFormed {n : Int} (h : KeyText n text) : WellFormed strays text := by
  cases h with
  | number hnumber => exact wellFormed_of_intForm hnumber
  | digits _ _ _ hdigits => exact wellFormed_of_stringForm hdigits

theorem good_keyedJob {n : Int} {key : List Char} (h : KeyText n key) :
    ∀ m ∈ keyedJob key, m.Good strays := by
  intro m hm
  simp only [keyedJob, List.mem_cons, List.not_mem_nil, or_false] at hm
  rcases hm with rfl | rfl
  · exact ⟨stringForm_write _, h.wellFormed⟩
  · exact ⟨stringForm_write _, wellFormed_of_stringForm (stringForm_write _)⟩

/-- A key may be a number in one answer and a text in the other. -/
theorem sameAnswer_keyedJob {n : Int} {key key' : List Char} (h : KeyText n key)
    (h' : KeyText n key') :
    SameAnswer strays (oneJobAnswer (keyedJob key)) (oneJobAnswer (keyedJob key')) := by
  have hsame : sameInJob .key key key' := ⟨n, h, h'⟩
  have hjob : SameJob strays _ _ := .object (objectText_compact (keyedJob key)) (good_keyedJob h)
    (objectText_compact (keyedJob key')) (good_keyedJob h') (.rel _ _ (.switch rfl hsame))
  have hjobs : sameInAnswer strays .jobs _ _ :=
    ⟨_, _, arrayText_compact [_], arrayText_compact [_], .cons hjob .nil⟩
  exact .object (objectText_compact [_]) (good_oneJob (good_keyedJob h)) (objectText_compact [_])
    (good_oneJob (good_keyedJob h')) (.rel _ _ (.switch rfl hjobs))

/-- The job that such an answer grants. -/
def keyed : Job := { Job.blank with key := ⟨7⟩, type := "a", worker := "", retries := 0 }

/-- The same job is granted whether its key comes as a number or as a text. -/
theorem decoding_of_a_key_as_a_text :
    (Gateway.activate (answering (oneJobBody (keyedJob ['7']))) ⟨"a", "w", 1, 1, []⟩).2 =
        some (.ok [keyed]) ∧
      (Gateway.activate (answering (oneJobBody (keyedJob ['"', '7', '"']))) ⟨"a", "w", 1, 1, []⟩).2 =
        some (.ok [keyed]) := by
  have hstrays : (bodyCursor (oneJobBody (keyedJob ['7']))).strays = false := by decide +kernel
  have hstrays' : (bodyCursor (oneJobBody (keyedJob ['"', '7', '"']))).strays = false := by decide +kernel
  have hrest : (bodyCursor (oneJobBody (keyedJob ['7']))).rest =
      oneJobAnswer (keyedJob (Decimal.intText 7)) := by decide +kernel
  have hrest' : (bodyCursor (oneJobBody (keyedJob ['"', '7', '"']))).rest =
      oneJobAnswer (keyedJob (StringLiteral.write (String.ofList (Decimal.intText 7)))) := by
    decide +kernel
  have hhears : (answering (oneJobBody (keyedJob ['7']))).Hears ⟨"a", "w", 1, 1, []⟩
      (oneJobBody (keyedJob ['7'])) := ⟨_, _, rfl, rfl, rfl, rfl⟩
  have hsame : SameBody (oneJobBody (keyedJob ['7'])) (oneJobBody (keyedJob ['"', '7', '"'])) := by
    refine ⟨hstrays.trans hstrays'.symm, ?_⟩
    rw [hrest, hrest']
    exact sameAnswer_keyedJob (.number (.of_core rfl)) (keyText_write 7)
  have hfirst := hhears.activate.trans (congrArg some (by decide +kernel :
    granted (oneJobBody (keyedJob ['7'])) = .ok [keyed]))
  exact ⟨hfirst, ((decoding_is_whole_and_stable hhears ⟨_, _, rfl, rfl, rfl, rfl⟩).2 hsame [keyed]).1 hfirst⟩

end JobWorker.Rest
