/-
Keys alone and in records.

A key is read from the texts that spell it, and a record that holds a key reads it from the same texts:
whatever the record looks like, what stands at the place of the key decides, and nothing else depends on
it.  Keys are written as numbers, so that a key that has been written is read back as itself.
-/
import JobWorker.Proofs.JobKey.Spelling
import JobWorker.Proofs.Json.Swapping

namespace JobWorker

open Json

/-! ### Records that are read from their texts and from no others -/

namespace Json.Shape

variable {ι α : Type} {S : Shape ι} {levels : Nat} {form : (i : ι) → Form (S.Holds i)}

/-- The fields of a kind of record are read from the texts of a form, and from no others. -/
structure Exact (S : Shape ι) (levels : Nat) (form : (i : ι) → Form (S.Holds i)) : Prop where
  name_injective : Function.Injective S.name
  nodup : S.fields.Nodup
  accepts : ∀ i, Accepts false (S.read i) levels (form i)
  yields : ∀ i, Yields false (S.read i levels) (form i)
  wellFormed : ∀ i {x : S.Holds i} {text : List Char}, form i x text → WellFormed false text

/-- The texts of what is made of a record. -/
def madeForm (S : Shape ι) (form : (i : ι) → Form (S.Holds i)) (build : S.Record → α) : Form α :=
  fun x text => ∃ r, S.textForm false form r text ∧ build r = x

namespace Exact

variable (h : S.Exact levels form) {build : S.Record → α}

include h

theorem wellFormed_of_made {x : α} {text : List Char} (hx : S.madeForm form build x text) :
    WellFormed false text := by
  obtain ⟨r, hr, -⟩ := hx
  exact wellFormed_of_textForm h.wellFormed hr

variable [DecidableEq ι]

theorem record_accepts : Accepts false S.readRecord (levels + 1) (S.textForm false form) :=
  readRecord_accepts_text h.name_injective h.accepts

theorem made_accepts : Accepts false (S.readAs build) (levels + 1) (S.madeForm form build) :=
  readAs_accepts_made h.record_accepts

theorem made_yields : Yields false (S.readAs build (levels + 1)) (S.madeForm form build) :=
  readAs_yields build (readRecord_yields h.name_injective h.nodup h.yields)

/-- Documents are read from the texts of the records, and from no others. -/
theorem parse_eq_ok_iff (hlevels : levels + 1 = deepest) {x : α} {text : String} :
    parse (S.readAs build) text = .ok x ↔ S.madeForm form build x text.toList := by
  have haccepts : Accepts false (S.readAs build) deepest (S.madeForm form build) :=
    hlevels ▸ h.made_accepts
  have hyields : Yields false (S.readAs build deepest) (S.madeForm form build) :=
    hlevels ▸ h.made_yields
  exact hyields.readAll_iff haccepts rfl

end Exact

end Json.Shape

/-! ### Records with a key -/

/-- How a record holds a key. -/
structure CarriesKey {ι α : Type} (S : Shape ι) (i : ι) (read : Reader α) (toJson : α → Value)
    (key : α → JobKey) (withKey : α → JobKey → α) : Prop where
  /-- A text that is read spells the key at its place, and any other value may be put there. -/
  placed : ∀ {text : String} {x : α}, parse read text = .ok x → ∃ value,
    JobKey.Spelled (key x).toInt value ∧ ∀ value', WellFormed false value' →
      ∃ text', S.Swaps false i value value' text.toList text'
  /-- With another value there, the record has the key that the value spells, and is the same
  otherwise. -/
  swapped : ∀ {text text' : String} {value value' : List Char} {x : α}, parse read text = .ok x →
    S.Swaps false i value value' text.toList text'.toList →
    ∀ y, parse read text' = .ok y ↔ ∃ k : JobKey, JobKey.Spelled k.toInt value' ∧ y = withKey x k
  /-- So the decimal text of a key is read in every rendering. -/
  rendered : ∀ {text text' : String} {value value' : List Char} {x : α}, parse read text = .ok x →
    S.Swaps false i value value' text.toList text'.toList →
    ∀ k : JobKey, Rest.KeyText k.toInt value' → parse read text' = .ok (withKey x k)
  /-- If the value spells no key, nothing is read. -/
  refused : ∀ {text text' : String} {value value' : List Char} {x : α}, parse read text = .ok x →
    S.Swaps false i value value' text.toList text'.toList →
    (∀ k : JobKey, ¬ JobKey.Spelled k.toInt value') → ∃ e, parse read text' = .error e
  /-- The key is written in decimal digits at its place. -/
  written : ∀ x value', WellFormed false value' →
    ∃ text', S.Swaps false i (Decimal.intText (key x).toInt) value' (toJson x).text.toList text'
  /-- What is written is read back. -/
  readback : ∀ x, parse read (toJson x).text = .ok x

namespace Codec

variable {ι α : Type} {C : Codec ι α} {levels : Nat}
  {form : (i : ι) → Form (C.shape.Holds i)} {i : ι} {key : α → JobKey} {withKey : α → JobKey → α}

/-- What is written of a value has a place for every field that is written. -/
theorem exists_swaps_of_written (hexact : C.shape.Exact levels form)
    (hforms : ∀ j {x text}, C.form j x text → form j x text) {x : α} (hi : i ∈ C.written x)
    {value' : List Char} (hvalue' : WellFormed false value') :
    ∃ text', C.shape.Swaps false i (C.json i (C.record x i)).chars value' (C.toJson x).chars text' := by
  have hgives := C.gives_of_perm x [] (by simp) (List.Perm.refl _)
  have hgood : ∀ m ∈ (C.written x).map (Shape.writtenMember C.json (C.record x)) ++ [], m.Good false :=
    hgives.toOffers.good fun j _ _ h => hexact.wellFormed j (hforms j h)
  have htext : ObjectText ((C.written x).map (Shape.writtenMember C.json (C.record x)))
      (C.toJson x).chars := by
    refine .of_core ⟨[], padding_nil, ?_⟩
    rw [toJson, chars_object, List.map_map, List.map_map]
    rfl
  rw [List.append_nil] at hgood
  exact Shape.exists_swaps_of_member htext hgood (List.mem_map_of_mem hi) rfl hvalue'

/-- A field that holds a key, in the records and in what is made of them. -/
structure KeyField [DecidableEq ι] (C : Codec ι α) (levels : Nat)
    (form : (i : ι) → Form (C.shape.Holds i)) (i : ι) (key : α → JobKey) (withKey : α → JobKey → α) where
  exact_form : C.shape.Exact levels form
  form_of_form : ∀ j {x text}, C.form j x text → form j x text
  record_build : ∀ r, C.record (C.build r) = r
  /-- A key as the value of the field. -/
  slot : JobKey → C.shape.Holds i
  slot_surjective : Function.Surjective slot
  form_slot : ∀ {k text}, form i (slot k) text ↔ JobKey.form k text
  json_slot : ∀ k, C.json i (slot k) = k.toJson
  required : C.shape.absent i = none
  written : ∀ x, i ∈ C.written x
  record_eq : ∀ x, C.record x i = slot (key x)
  build_put : ∀ x k, C.build ((C.record x).put i (slot k)) = withKey x k

namespace KeyField

variable [DecidableEq ι] (K : C.KeyField levels form i key withKey)

include K

theorem form_iff {x : α} {text : List Char} :
    form i (C.record x i) text ↔ JobKey.Spelled (key x).toInt text := by
  rw [K.record_eq, K.form_slot, JobKey.form_iff]

theorem made_iff {x : α} {text : List Char} :
    C.shape.madeForm form C.build x text ↔ C.shape.textForm false form (C.record x) text := by
  constructor
  · rintro ⟨r, hr, rfl⟩
    rwa [K.record_build]
  · intro hr
    exact ⟨C.record x, hr, C.build_record x⟩

/-- **A field that holds a key carries it.** -/
theorem carriesKey (hlevels : levels + 1 = deepest) :
    CarriesKey C.shape i (C.shape.readAs C.build) C.toJson key withKey := by
  have hparse : ∀ {text : String} {x : α}, parse (C.shape.readAs C.build) text = .ok x ↔
      C.shape.textForm false form (C.record x) text.toList := fun {text x} =>
    (K.exact_form.parse_eq_ok_iff hlevels).trans K.made_iff
  have hswapped : ∀ {text text' : String} {value value' : List Char} {x : α},
      parse (C.shape.readAs C.build) text = .ok x →
      C.shape.Swaps false i value value' text.toList text'.toList →
      ∀ y, parse (C.shape.readAs C.build) text' = .ok y ↔
        ∃ k : JobKey, JobKey.Spelled k.toInt value' ∧ y = withKey x k := by
    intro text text' value value' x hx hswaps y
    rw [hparse, hswaps.textForm_iff K.exact_form.name_injective K.exact_form.nodup
      K.exact_form.wellFormed K.exact_form.record_accepts.unique (hparse.1 hx)]
    constructor
    · rintro ⟨v, hv, hy⟩
      obtain ⟨k, rfl⟩ := K.slot_surjective v
      refine ⟨k, JobKey.form_iff.1 (K.form_slot.1 hv), ?_⟩
      rw [← K.build_put, ← hy, C.build_record]
    · rintro ⟨k, hk, rfl⟩
      refine ⟨K.slot k, K.form_slot.2 (JobKey.form_iff.2 hk), ?_⟩
      rw [← K.build_put, K.record_build]
  refine ⟨fun {text x} hx => ?_, hswapped,
    fun hx hswaps k hk => (hswapped hx hswaps _).2 ⟨k, JobKey.spelled_of_keyText hk, rfl⟩,
    fun {text text' value value' x} hx hswaps hnone => ?_, fun x value' hvalue' => ?_,
    C.faithful.written⟩
  · obtain ⟨value, hvalue, hany⟩ :=
      Shape.exists_swaps K.exact_form.wellFormed (hparse.1 hx) K.required
    exact ⟨value, K.form_iff.1 hvalue, hany⟩
  · cases hparse' : parse (C.shape.readAs C.build) text' with
    | error e => exact ⟨e, rfl⟩
    | ok y =>
      obtain ⟨k, hk, -⟩ := (hswapped hx hswaps y).1 hparse'
      exact absurd hk (hnone k)
  · have h := exists_swaps_of_written K.exact_form K.form_of_form (K.written x) hvalue'
    rw [K.record_eq, K.json_slot] at h
    rw [Value.text, String.toList_ofList]
    exact h

end KeyField

end Codec

/-! ### Jobs and requests -/

namespace Headers

theorem exact_form : shape.Exact (deepest - 2) codec.form where
  name_injective := codec.name_injective
  nodup := by decide
  accepts i := (codec.form_accepts i).mono (Nat.zero_le _)
  yields i := by
    cases i with
    | processId | elementId => exact readString_yields (deepest - 2)
    | processVersion => exact readInt32_yields (deepest - 2)
    | elementInstanceKey | processKey | processInstanceKey => exact readInt64_yields (deepest - 2)
  wellFormed i x text h := by
    cases i with
    | processId | elementId => exact wellFormed_of_stringForm h
    | processVersion | elementInstanceKey | processKey | processInstanceKey =>
      exact wellFormed_of_intForm h

end Headers

namespace Job

/-- The texts of the fields of a job. -/
def fieldForm : (i : Field) → Form (shape.Holds i)
  | .key => JobKey.form
  | .type | .worker | .variablesText | .customHeadersText => stringForm
  | .retries => fun x : Int32 => intForm x.toInt
  | .deadline => fun x : Int64 => intForm x.toInt
  | .headers => Headers.shape.madeForm Headers.codec.form Headers.ofRecord

theorem exact_form : shape.Exact (deepest - 1) fieldForm where
  name_injective := codec.name_injective
  nodup := by decide
  accepts i := by
    cases i with
    | headers => exact Headers.exact_form.made_accepts
    | key | type | worker | retries | deadline | variablesText | customHeadersText =>
      exact (codec.form_accepts _).mono (by decide)
  yields i := by
    cases i with
    | key => exact JobKey.read_yields (deepest - 1)
    | type | worker | variablesText | customHeadersText => exact readString_yields (deepest - 1)
    | retries => exact readInt32_yields (deepest - 1)
    | deadline => exact readInt64_yields (deepest - 1)
    | headers => exact Headers.exact_form.made_yields
  wellFormed i x text h := by
    cases i with
    | key => exact JobKey.wellFormed_of_form h
    | type | worker | variablesText | customHeadersText => exact wellFormed_of_stringForm h
    | retries | deadline => exact wellFormed_of_intForm h
    | headers => exact Headers.exact_form.wellFormed_of_made h

/-- The key of a job. -/
def keyField : codec.KeyField (deepest - 1) fieldForm .key Job.key fun job k => { job with key := k } where
  exact_form := exact_form
  form_of_form i x text h := by
    cases i with
    | headers => exact ⟨Headers.codec.record x, h.imp_right Shape.tupleForm_of_arrayForm, rfl⟩
    | key | type | worker | retries | deadline | variablesText | customHeadersText => exact h
  record_build r := by
    funext i
    cases i <;> rfl
  slot := id
  slot_surjective := Function.surjective_id
  form_slot := Iff.rfl
  json_slot _ := rfl
  required := rfl
  written _ := List.mem_cons_self
  record_eq _ := rfl
  build_put _ _ := rfl

end Job

namespace CompleteRequest

theorem exact_form : shape.Exact (deepest - 1) codec.form where
  name_injective := codec.name_injective
  nodup := by decide
  accepts i := (codec.form_accepts i).mono (Nat.zero_le _)
  yields i := by
    cases i with
    | key => exact JobKey.read_yields (deepest - 1)
    | variablesText => exact readOption_yields (readString_yields (deepest - 1))
  wellFormed i x text h := by
    cases i with
    | key => exact JobKey.wellFormed_of_form h
    | variablesText => exact wellFormed_of_optionForm wellFormed_of_stringForm h

/-- The key of a request to complete a job. -/
def keyField : codec.KeyField (deepest - 1) codec.form .key CompleteRequest.key
    fun r k => { r with key := k } where
  exact_form := exact_form
  form_of_form _ _ _ := id
  record_build r := by
    funext i
    cases i <;> rfl
  slot := id
  slot_surjective := Function.surjective_id
  form_slot := Iff.rfl
  json_slot _ := rfl
  required := rfl
  written _ := List.mem_cons_self
  record_eq _ := rfl
  build_put _ _ := rfl

end CompleteRequest

namespace FailRequest

theorem exact_form : shape.Exact (deepest - 1) codec.form where
  name_injective := codec.name_injective
  nodup := by decide
  accepts i := (codec.form_accepts i).mono (Nat.zero_le _)
  yields i := by
    cases i with
    | key => exact JobKey.read_yields (deepest - 1)
    | retries => exact readInt32_yields (deepest - 1)
    | errorMessage => exact readString_yields (deepest - 1)
  wellFormed i x text h := by
    cases i with
    | key => exact JobKey.wellFormed_of_form h
    | retries => exact wellFormed_of_intForm h
    | errorMessage => exact wellFormed_of_stringForm h

/-- The key of a request to fail a job. -/
def keyField : codec.KeyField (deepest - 1) codec.form .key FailRequest.key
    fun r k => { r with key := k } where
  exact_form := exact_form
  form_of_form _ _ _ := id
  record_build r := by
    funext i
    cases i <;> rfl
  slot := id
  slot_surjective := Function.surjective_id
  form_slot := Iff.rfl
  json_slot _ := rfl
  required := rfl
  written _ := List.mem_cons_self
  record_eq _ := rfl
  build_put _ _ := rfl

end FailRequest

namespace JobKey

/--
**Keys.**  A text is read as an integer of 64 bits exactly if it is the literal of the integer, or a
string with its digits, maybe behind a sign and with blanks around them.  Anything else is an error.
So the decimal text of a key is read in every rendering; it is what is printed, and what is printed is
read back.  The same holds where a job or a request holds a key.
-/
theorem keys_are_read_exactly :
    (∀ (text : String) (n : Int), (∃ key, parse read text = .ok key ∧ key.toInt = n) ↔
      Spelled n text.toList ∧ Decimal.leastInt64 ≤ n ∧ n ≤ Decimal.greatestInt64) ∧
    (∀ text : String, (∀ n, Decimal.leastInt64 ≤ n → n ≤ Decimal.greatestInt64 →
        ¬ Spelled n text.toList) → ∃ e, parse read text = .error e) ∧
    (∀ (key : JobKey) (text : String), Rest.KeyText key.toInt text.toList → parse read text = .ok key) ∧
    (∀ key : JobKey, key.text = String.ofList (Decimal.intText key.toInt) ∧
      key.toJson.text = key.text ∧ parse read key.text = .ok key) ∧
    CarriesKey Job.shape .key Job.read Job.toJson Job.key (fun job k => { job with key := k }) ∧
    CarriesKey CompleteRequest.shape .key CompleteRequest.read CompleteRequest.toJson
      CompleteRequest.key (fun r k => { r with key := k }) ∧
    CarriesKey FailRequest.shape .key FailRequest.read FailRequest.toJson
      FailRequest.key (fun r k => { r with key := k }) := by
  have hread : ∀ (text : String) (n : Int), (∃ key, parse read text = .ok key ∧ key.toInt = n) ↔
      Spelled n text.toList ∧ Decimal.leastInt64 ≤ n ∧ n ≤ Decimal.greatestInt64 := by
    intro text n
    constructor
    · rintro ⟨key, hkey, rfl⟩
      exact ⟨parse_eq_ok_iff.1 hkey, inRange_iff.1 (inRange_toInt key)⟩
    · rintro ⟨hspelled, hrange⟩
      have hn : (ofInt n).toInt = n := toInt_ofInt (inRange_iff.2 hrange)
      exact ⟨ofInt n, parse_eq_ok_iff.2 (hn.symm ▸ hspelled), hn⟩
  have hcomplete : CompleteRequest.toJson = CompleteRequest.codec.toJson :=
    funext fun r => (CompleteRequest.codec_toJson r).symm
  refine ⟨hread, fun text hnone => ?_, fun key text htext => parse_eq_ok_iff.2 (spelled_of_keyText htext),
    fun key => ⟨rfl, rfl, ?_⟩, Job.keyField.carriesKey rfl,
    hcomplete ▸ CompleteRequest.keyField.carriesKey rfl, FailRequest.keyField.carriesKey rfl⟩
  · cases hparse : parse read text with
    | error e => exact ⟨e, rfl⟩
    | ok key =>
      obtain ⟨hspelled, hleast, hgreatest⟩ := (hread text key.toInt).1 ⟨key, hparse, rfl⟩
      exact absurd hspelled (hnone _ hleast hgreatest)
  · refine parse_eq_ok_iff.2 (spelled_of_keyText (.number ?_))
    rw [text, String.toList_ofList]
    exact .of_core rfl

/-- A string with a plus sign, leading zeros and blanks, one of which is escaped. -/
def sevenPadded : List Char :=
  quoted ['\\', 'u', '2', '0', '0', '3', '+', '0', '0', '7', ' ']

theorem spelled_sevenPadded : Spelled 7 sevenPadded := by
  have hbody : Spells ['\u2003', '+', '0', '0', '7', ' ']
      ['\\', 'u', '2', '0', '0', '3', '+', '0', '0', '7', ' '] := by
    refine .code (n := 0x2003) (by decide) (by decide) (by decide) ?_
    repeat' refine .plain (by decide) (by decide) (by decide) ?_
    exact .nil
  have htext : stringForm (String.ofList ['\u2003', '+', '0', '0', '7', ' ']) sevenPadded :=
    .of_core ⟨_, by rwa [String.toList_ofList], rfl⟩
  refine .string htext (Text.stripped_trim _) ?_
  rw [String.toList_ofList]
  have hdigits : IsDigits ['0', '0', '7'] := ⟨by decide, List.all_eq_true.mp rfl⟩
  exact .plus hdigits

/-- The key of a failure is exchanged for such a string. -/
theorem keys_are_read_exactly_exchanged :
    parse FailRequest.read "[-1,3,\"late\"]" = .ok ⟨⟨-1⟩, 3, "late"⟩ ∧
      parse FailRequest.read "[\"\\u2003+007 \",3,\"late\"]" = .ok ⟨⟨7⟩, 3, "late"⟩ := by
  obtain ⟨-, -, -, -, -, -, hfail⟩ := keys_are_read_exactly
  have hread : parse FailRequest.read "[-1,3,\"late\"]" = .ok ⟨⟨-1⟩, 3, "late"⟩ := by decide
  have hswaps : FailRequest.shape.Swaps false .key ['-', '1'] sevenPadded
      "[-1,3,\"late\"]".toList "[\"\\u2003+007 \",3,\"late\"]".toList := by
    have htext : ArrayText ([] ++ ['-', '1'] :: [Decimal.intText 3, StringLiteral.write "late"])
        "[-1,3,\"late\"]".toList := .of_core ⟨[], padding_nil, by decide⟩
    have htext' : ArrayText ([] ++ sevenPadded :: [Decimal.intText 3, StringLiteral.write "late"])
        "[\"\\u2003+007 \",3,\"late\"]".toList := .of_core ⟨[], padding_nil, by decide⟩
    have hform : form ⟨7⟩ sevenPadded := form_iff.2 spelled_sevenPadded
    refine .array ?_ rfl ?_ (wellFormed_of_form hform) htext htext'
    · simp only [List.nil_append, List.forall_mem_cons]
      exact ⟨wellFormed_of_intForm (.of_core rfl), wellFormed_of_stringForm (stringForm_write _), by simp⟩
    · exact wellFormed_of_intForm (n := -1) (.of_core (by decide))
  exact ⟨hread, (hfail.swapped hread hswaps _).2 ⟨⟨7⟩, spelled_sevenPadded, rfl⟩⟩

end JobKey

end JobWorker
