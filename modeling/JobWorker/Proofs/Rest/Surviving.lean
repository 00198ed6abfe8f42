/-
Documents survive the way through a worker.

The variables of a job come as a value or as the text of one, are kept as a text, are read from that
text when somebody asks for them, and may be handed on as the variables of the completed job.  An object
whose numbers are integers is the same object at every stop.  What is missing or null is the empty
object.

A text may repeat a name, and then the last value of the name counts; from the first reading on every
object has each name once and in order, and writing it changes nothing any more.
-/
import JobWorker.Job.Variables
import JobWorker.Proofs.Json.Written
import JobWorker.Proofs.Rest.Decoding
import JobWorker.Proofs.Rest.Posting

namespace JobWorker.Rest

open Json

variable {strays : Bool} {text : List Char} {members : Members}

/-- All numbers in a value are integers. -/
def Integral : Value → Prop := Value.Numbers fun n => ∃ k, n = .integer k

/-- An item of the array of jobs carries an object in a field: as a value, as a string that holds a
text of it, or, if the object is empty, as null or not at all. -/
inductive Carries (strays : Bool) (i : JobField) (members : Members) (item : List Char) : Prop
  | value {text : List Char} : jobShape.Shows strays i (some text) item →
      valueForm NumberText variablesDepth (.object members) text → Carries strays i members item
  | document {s : String} {text : List Char} : jobShape.Shows strays i (some text) item →
      stringForm s text → valueForm NumberText deepest (.object members) s.toList →
      Carries strays i members item
  | null {text : List Char} : jobShape.Shows strays i (some text) item →
      Padded (· = ['n', 'u', 'l', 'l']) text → members = [] → Carries strays i members item
  | missing : jobShape.Shows strays i none item → members = [] → Carries strays i members item

/-- To complete a job with a document is to post an object as its variables.  The body stands for that
and for nothing else. -/
structure Posts (e : Endpoint) (key : JobKey) (document : String) (members : Members) : Prop where
  command : e.command (.complete ⟨key, some document⟩) =
    e.post (completionPath key) (completionBody (some (.object members)))
  body : ∀ {p : Post}, e.command (.complete ⟨key, some document⟩) = .ok p →
    ∀ v, valueForm NumberText (deepest + 1) v p.body.toList ↔ v = .object [("variables", .object members)]

/-! ### Texts of objects -/

theorem valueForm_empty (levels : Nat) :
    valueForm NumberText (levels + 1) (.object []) ['\x7b', '\x7d'] :=
  .of_core ⟨[], [], [], padding_nil, .nil, rfl, rfl⟩

theorem valueForm_chars_of_integral {levels : Nat} {v : Value}
    (h : valueForm NumberText levels v text) (hv : Integral v) :
    valueForm NumberText levels v v.chars := by
  refine valueForm_chars ?_ h hv
  rintro _ text ⟨n, rfl⟩ htext
  obtain ⟨-, hfits⟩ := numberText_integer.1 htext
  exact numberText_integer.2 ⟨rfl, hfits⟩

theorem bracket_mem_of_valueForm {levels : Nat} (h : valueForm NumberText levels (.object members) text) :
    '\x7b' ∈ text := by
  obtain ⟨-, hinner, -⟩ := h
  obtain ⟨_, -, blank, _, texts, -, -, -, rfl⟩ := valueText_object.1 hinner
  obtain ⟨more, heq⟩ := exists_enclosed_cons '\x7b' '\x7d' blank texts
  simp [heq]

/-- A text of an object is not blank. -/
theorem not_isBlankText_of_valueForm {levels : Nat} {s : String}
    (h : valueForm NumberText levels (.object members) s.toList) : Text.isBlankText s = false := by
  rw [← Bool.not_eq_true]
  intro hblank
  have := List.all_eq_true.1 hblank '\x7b' (bracket_mem_of_valueForm h)
  exact absurd this (by decide)

/-! ### Reading a document and posting it -/

/-- A text of an object is read as that object. -/
theorem parseObject_of_valueForm {s : String}
    (h : valueForm NumberText deepest (.object members) s.toList) : parseObject s = .ok members := by
  rw [parseObject, not_isBlankText_of_valueForm h]
  exact (readMembers_accepts (readValue_accepts (deepest - 1))).parse (by decide) h

theorem variablesValue_of_valueForm {s : String}
    (h : valueForm NumberText deepest (.object members) s.toList) :
    variablesValue (some s) = .ok (some (.object members)) := by
  simp only [variablesValue, not_isBlankText_of_valueForm h]
  rw [if_neg Bool.false_ne_true, (readValue_accepts deepest).parse (Nat.le_refl _) h]
  rfl

theorem completionBody_form (h : valueForm NumberText deepest (.object members) text)
    (hint : Integral (.object members)) :
    valueForm NumberText (deepest + 1) (.object [("variables", .object members)])
      (completionBody (some (.object members))).chars := by
  refine .of_core (valueText_object.2 ⟨deepest, rfl, [], [("variables", .object members)], _,
    padding_nil, ?_, rfl, chars_object _⟩)
  exact forall₂_memberForm_chars (by simpa using valueForm_chars_of_integral h hint)

/-- A text of an object is posted as that object. -/
theorem posts_of_valueForm {s : String} (e : Endpoint) (key : JobKey)
    (h : valueForm NumberText deepest (.object members) s.toList)
    (hint : Integral (.object members)) : Posts e key s members := by
  have hcommand : e.command (.complete ⟨key, some s⟩) =
      e.post (completionPath key) (completionBody (some (.object members))) := by
    simp only [Endpoint.command, variablesValue_of_valueForm h]
  refine ⟨hcommand, fun {p} hpost v => ?_⟩
  have hbody : p.body = (completionBody (some (.object members))).text := by
    rw [hcommand] at hpost
    exact Endpoint.body_of_post hpost
  rw [hbody, Value.text, String.toList_ofList]
  constructor
  · intro hv
    exact valueForm_inj hv (completionBody_form h hint)
  · rintro rfl
    exact completionBody_form h hint

/-! ### From an item to the texts of the job -/

/-- What is kept of a value that an item carries is a text of the object. -/
theorem documentText_of_carries {i : JobField} {item : List Char} {r : jobShape.Record} {v : Value}
    (hi : ∀ {text}, jobForm i (r i) text → valueForm NumberText variablesDepth v text)
    (habsent : jobShape.absent i = some (r i) → v = .null)
    (hrecord : recordForm strays r item) (hcarries : Carries strays i members item)
    (hint : Integral (.object members)) :
    valueForm NumberText deepest (.object members) (documentText v).toList := by
  have hempty : members = [] → v = .null →
      valueForm NumberText deepest (.object members) (documentText v).toList := by
    rintro rfl rfl
    exact valueForm_empty (deepest - 1)
  cases hcarries with
  | value hshows htext =>
    obtain ⟨hvalue, -⟩ := Shape.form_of_shows wellFormed_of_jobForm hrecord hshows
    obtain rfl := valueForm_inj (hi (hvalue _ rfl)) htext
    have hkept : (documentText (.object members)).toList = (Value.object members).chars :=
      String.toList_ofList
    rw [hkept]
    exact valueForm_mono (by decide) (valueForm_chars_of_integral htext hint)
  | @document s _ hshows hstring htext =>
    obtain ⟨hvalue, -⟩ := Shape.form_of_shows wellFormed_of_jobForm hrecord hshows
    obtain rfl : v = .string s := valueForm_inj (hi (hvalue _ rfl)) (by rwa [valueForm_string])
    exact htext
  | null hshows hnull hmembers =>
    obtain ⟨hvalue, -⟩ := Shape.form_of_shows wellFormed_of_jobForm hrecord hshows
    exact hempty hmembers (valueForm_inj (hi (hvalue _ rfl)) (hnull.imp fun _ => valueText_null.2))
  | missing hshows hmembers =>
    obtain ⟨-, hmissing⟩ := Shape.form_of_shows wellFormed_of_jobForm hrecord hshows
    exact hempty hmembers (habsent (hmissing rfl))

/-- The texts that are kept of an object that an item carries are texts of the object. -/
theorem documents_of_jobText {job : Job} {item : List Char} (h : JobText strays job item)
    (hint : Integral (.object members)) :
    (Carries strays .variablesValue members item →
      valueForm NumberText deepest (.object members) job.variablesText.toList) ∧
    (Carries strays .customHeadersValue members item →
      valueForm NumberText deepest (.object members) job.customHeadersText.toList) := by
  obtain ⟨r, hrecord, rfl⟩ := h
  have hvariables := @documentText_of_carries strays members .variablesValue item r
    (r .variablesValue) (fun h => h) (fun h => (Option.some.inj h).symm) hrecord
  have hheaders := @documentText_of_carries strays members .customHeadersValue item r
    (r .customHeadersValue) (fun h => h) (fun h => (Option.some.inj h).symm) hrecord
  exact ⟨fun hcarries => hvariables hcarries hint, fun hcarries => hheaders hcarries hint⟩

/-- **Documents survive.**  If an answer gives the variables of a job as an object of integers, then the
variables are read as that object, and to hand them on is to post that object; and so for the headers. -/
theorem documents_survive {ν : Type} [Network ν] {g : Remote ν} {request : ActivateRequest}
    {body : List UInt8} {jobs : List Job} {items : List (List Char)} {k : Nat} {job : Job}
    {item : List Char} (h : g.Hears request body)
    (hjobs : (Gateway.activate g request).2 = some (.ok jobs))
    (hitems : AnswerItems (bodyCursor body).strays items (bodyCursor body).rest)
    (hjob : jobs[k]? = some job) (hitem : items[k]? = some item)
    (hint : Integral (.object members)) (e : Endpoint) :
    (Carries (bodyCursor body).strays .variablesValue members item →
      job.variablesMap = .ok members ∧ Posts e job.key job.variablesText members) ∧
    (Carries (bodyCursor body).strays .customHeadersValue members item →
      job.customHeadersMap = .ok members ∧ Posts e job.key job.customHeadersText members) := by
  rw [h.activate, Option.some_inj, granted_eq_ok_iff] at hjobs
  have htext : JobText (bodyCursor body).strays job item := by
    obtain ⟨hlt, rfl⟩ := List.getElem?_eq_some_iff.1 hjob
    obtain ⟨hlt', rfl⟩ := List.getElem?_eq_some_iff.1 hitem
    exact ((items_of_answerForm hjobs).2 items hitems).get hlt hlt'
  obtain ⟨hvariables, hheaders⟩ := documents_of_jobText htext hint
  exact ⟨fun hcarries => ⟨parseObject_of_valueForm (hvariables hcarries),
      posts_of_valueForm e job.key (hvariables hcarries) hint⟩,
    fun hcarries => ⟨parseObject_of_valueForm (hheaders hcarries),
      posts_of_valueForm e job.key (hheaders hcarries) hint⟩⟩

/-! ### A job with documents -/

/-- The object of the documents below. -/
def oneMember : Members := [("n", .int 1)]

/-- A text of the object that gives its only name twice. -/
def twiceNamed : String := "\x7b\"n\": 2,\"n\":1\x7d"

/-- The members of a job whose variables are a value and whose headers are a string. -/
def documentedJob : List Member :=
  keyedJob ['7'] ++ [writtenMember "variables" (Value.object oneMember).chars,
    writtenMember "customHeaders" (StringLiteral.write twiceNamed)]

/-- The job that an answer with these members grants. -/
def documented : Job :=
  { Job.blank with
    key := ⟨7⟩
    type := "a"
    worker := ""
    retries := 0
    variablesText := (Value.object oneMember).text
    customHeadersText := twiceNamed }

theorem fitsWord_of_natAbs_le {n : Int} (h : n.natAbs ≤ 9223372036854775807) : FitsWord n := by
  simp only [FitsWord, Decimal.leastInt64, Decimal.greatestUInt64]
  omega

theorem integral_oneMember : Integral (.object oneMember) :=
  .object (by simpa [oneMember] using .number ⟨1, rfl⟩)

theorem memberForm_int {levels : Nat} {name : String} {n : Int} (h : FitsWord n) :
    memberForm (valueForm NumberText levels) (name, .int n)
      (memberText (StringLiteral.write name) (Decimal.intText n)) :=
  ⟨_, _, stringForm_write name, .of_core (valueText_number.2 (numberText_integer.2 ⟨rfl, h⟩)), rfl⟩

theorem valueForm_oneMember (levels : Nat) :
    valueForm NumberText (levels + 1) (.object oneMember) (Value.object oneMember).chars :=
  .of_core ⟨[], oneMember, _, padding_nil, .cons (memberForm_int (fitsWord_of_natAbs_le (by decide))) .nil, rfl, rfl⟩

theorem valueForm_twiceNamed (levels : Nat) :
    valueForm NumberText (levels + 1) (.object oneMember) twiceNamed.toList := by
  have htwo : valueForm NumberText levels (.int 2) [' ', '2'] :=
    @Padded.around _ [' '] ['2'] [] (by simp [Padding, isSpace])
      (valueText_number.2 (numberText_integer.2 ⟨by decide, fitsWord_of_natAbs_le (by decide)⟩)) padding_nil
  refine .of_core ⟨[], [("n", .int 2), ("n", .int 1)], _, padding_nil,
    .cons ⟨_, _, stringForm_write "n", htwo, rfl⟩
      (.cons (memberForm_int (fitsWord_of_natAbs_le (by decide))) .nil), ?_, by decide⟩
  simp [Members.ofList, Members.insert, oneMember]

theorem good_documentedJob : ∀ m ∈ documentedJob, m.Good strays := by
  refine List.forall_mem_append.2 ⟨good_keyedJob (.number (n := 7) (.of_core rfl)), ?_⟩
  intro m hm
  simp only [List.mem_cons, List.not_mem_nil, or_false] at hm
  rcases hm with rfl | rfl
  · exact ⟨stringForm_write _, wellFormed_of_valueForm NumberText.isNumber (valueForm_oneMember 1)⟩
  · exact ⟨stringForm_write _, wellFormed_of_stringForm (stringForm_write _)⟩

/-- The variables come as a value, the headers as a string that repeats a name. -/
theorem documents_survive_once :
    (documented.variablesMap = .ok oneMember ∧
      Posts (Endpoint.ofAddress "http://[::1]") documented.key documented.variablesText oneMember) ∧
    (documented.customHeadersMap = .ok oneMember ∧
      Posts (Endpoint.ofAddress "http://[::1]") documented.key documented.customHeadersText oneMember) := by
  have hhears : (answering (oneJobBody documentedJob)).Hears ⟨"a", "w", 1, 1, []⟩ (oneJobBody documentedJob) :=
    ⟨_, _, rfl, rfl, rfl, rfl⟩
  have hjobs : (Gateway.activate (answering (oneJobBody documentedJob)) ⟨"a", "w", 1, 1, []⟩).2 =
      some (.ok [documented]) := hhears.activate.trans (congrArg some (by decide +kernel))
  have hrest : (bodyCursor (oneJobBody documentedJob)).rest = oneJobAnswer documentedJob := by decide +kernel
  have hitems : AnswerItems (bodyCursor (oneJobBody documentedJob)).strays [compactObject documentedJob]
      (bodyCursor (oneJobBody documentedJob)).rest := by
    rw [hrest]
    exact answerItems_oneJob good_documentedJob
  have hshows : ∀ {i : JobField} {value? : Option (List Char)},
      value? = (documentedJob.find? fun m => m.name = jobShape.name i).map Member.value →
      jobShape.Shows (bodyCursor (oneJobBody documentedJob)).strays i value? (compactObject documentedJob) :=
    .object (objectText_compact _) good_documentedJob
  obtain ⟨hvariables, hheaders⟩ := documents_survive (k := 0) hhears hjobs hitems rfl rfl
    integral_oneMember (Endpoint.ofAddress "http://[::1]")
  exact ⟨hvariables (.value (hshows rfl) (valueForm_oneMember _)),
    hheaders (.document (hshows rfl) (stringForm_write _) (valueForm_twiceNamed _))⟩

end JobWorker.Rest
