/-
Requests lose nothing on their way into a text.

What is posted is the text of an object with one member for each thing that the request says, and whoever
reads the text finds just these members.  Strings may hold any characters, numbers are those of their
words, and the variables of a completed job are the value of their document, floating-point numbers
included.  Where it is posted to tells the job: the key is a segment of the address, and what is appended
to the address of the gateway is never lost.
-/
import JobWorker.Proofs.Except
import JobWorker.Proofs.Json.Readback
import JobWorker.Proofs.Rest.Posting
import JobWorker.Proofs.Url.Endings

namespace JobWorker.Rest

open Json

/-! ### Slashes at the end of an address -/

/-- Slashes in a row. -/
def slashes (n : Nat) : String := String.ofList (List.replicate n '/')

namespace Endpoint

/-- However many slashes an address ends in, the gateway is the same. -/
theorem ofAddress_slashes (address : String) (n : Nat) :
    ofAddress (address ++ slashes n) = ofAddress address := by
  rw [ofAddress, ofAddress, trimSlashes, trimSlashes, slashes, String.toList_append, String.toList_ofList,
    List.reverse_append, List.reverse_replicate, List.dropWhile_append_of_pos]
  exact fun c hc => decide_eq_true (List.eq_of_mem_replicate hc)

/-- An address is its base and the slashes behind it, and the base ends in none. -/
theorem exists_base (address : String) : ∃ n, address = (ofAddress address).base ++ slashes n ∧
    (ofAddress address).base.toList.getLast? ≠ some '/' := by
  have hend : address.toList.rtakeWhile (· = '/') =
      List.replicate (address.toList.rtakeWhile (· = '/')).length '/' :=
    List.eq_replicate_of_mem fun c hc => by simpa using List.mem_rtakeWhile_imp hc
  have hslashes := @List.rdropWhile_append_rtakeWhile _ (· = '/') address.toList
  rw [hend] at hslashes
  have hbase : (ofAddress address).base.toList = address.toList.rdropWhile (· = '/') :=
    String.toList_ofList
  refine ⟨(address.toList.rtakeWhile (· = '/')).length, ?_, ?_⟩
  · rw [← String.toList_inj, String.toList_append, hbase, slashes, String.toList_ofList, hslashes]
  · rw [hbase]
    intro hlast
    obtain ⟨hne, hslash⟩ := List.mem_getLast?_eq_getLast hlast
    exact List.rdropWhile_last_not _ _ hne (decide_eq_true hslash.symm)

/-! ### Bodies -/

/-- A request goes to a path, whenever requests can go there at all, and says the members of an object. -/
structure Sends (e : Endpoint) (path : String) (members : Members) (request : Except GatewayError Post) :
    Prop where
  made : (∃ p, request = .ok p) ↔ ∃ address, e.Reaches path address
  place : ∀ {p}, request = .ok p → ∃ address, e.Reaches path address ∧ p.url = address.withoutLogin
  body : ∀ {p}, request = .ok p → Says p.body.toList members

/-- What is posted says its members, if their values are written without loss. -/
theorem sends_of_lossless (e : Endpoint) (path : String) {members : Members}
    (h : ∀ m ∈ members, m.2.Lossless) : e.Sends path members (e.post path (.object members)) := by
  refine ⟨⟨?_, ?_⟩, ?_, ?_⟩
  · rintro ⟨p, hp⟩
    obtain ⟨address, haddress, -⟩ := post_eq_ok_iff.1 hp
    exact ⟨address, haddress⟩
  · rintro ⟨address, haddress⟩
    exact ⟨_, post_eq_ok_iff.2 ⟨address, haddress, rfl⟩⟩
  · intro p hp
    obtain ⟨address, haddress, rfl⟩ := post_eq_ok_iff.1 hp
    exact ⟨address, haddress, rfl⟩
  · intro p hp
    rw [body_of_post hp, Value.text, String.toList_ofList]
    exact says_of_lossless h

variable {e : Endpoint} {p p' : Post} {c c' : Command}

/-- The numbers of a request fit a word. -/
theorem fitsWord_of_toNat {n : Nat} (h : n < 2 ^ 64) : FitsWord n := by
  rw [FitsWord, Decimal.leastInt64, Decimal.greatestUInt64]
  omega

theorem fitsWord_of_toInt {n : Int} (hleast : -2 ^ 63 ≤ n) (hmost : n < 2 ^ 63) : FitsWord n := by
  rw [FitsWord, Decimal.leastInt64, Decimal.greatestUInt64]
  omega

theorem activation_sends (r : ActivateRequest) : e.Sends "/v2/jobs/activation"
    ([("type", .string r.jobType), ("worker", .string r.worker), ("timeout", .int r.timeoutMs.toNat),
      ("maxJobsToActivate", .int r.maxJobs.toNat)] ++
      (if r.fetchVariables = [] then [] else [("fetchVariable", .array (r.fetchVariables.map .string))]) ++
      [("requestTimeout", .int e.requestTimeout.toInt)]) (e.activation r) := by
  refine sends_of_lossless e _ ?_
  have hnames : (Value.array (r.fetchVariables.map .string)).Lossless :=
    lossless_array (List.forall_mem_map.2 fun s _ => lossless_string s)
  refine List.forall_mem_append.2 ⟨List.forall_mem_append.2 ⟨?_, ?_⟩, ?_⟩
  · simp only [List.forall_mem_cons]
    refine ⟨lossless_string _, lossless_string _, lossless_int (fitsWord_of_toNat r.timeoutMs.toNat_lt),
      lossless_int (fitsWord_of_toNat (r.maxJobs.toNat_lt.trans (by decide))), by simp⟩
  · split
    · simp
    · simpa using hnames
  · simpa using lossless_int (fitsWord_of_toInt e.requestTimeout.le_toInt e.requestTimeout.toInt_lt)

theorem failure_sends (r : FailRequest) :
    e.Sends ("/v2/jobs/" ++ String.ofList (Decimal.intText r.key.toInt) ++ "/failure")
      [("retries", .int r.retries.toInt), ("errorMessage", .string r.errorMessage)]
      (e.command (.fail r)) := by
  refine sends_of_lossless e _ ?_
  simp only [List.forall_mem_cons]
  have hleast := r.retries.le_toInt
  have hmost := r.retries.toInt_lt
  exact ⟨lossless_int (fitsWord_of_toInt (by omega) (by omega)), lossless_string _, by simp⟩

theorem completion_sends {key : JobKey} {text : String} {v : Value} (hblank : Text.isBlankText text = false)
    (hv : parse readValue text = .ok v) :
    e.Sends ("/v2/jobs/" ++ String.ofList (Decimal.intText key.toInt) ++ "/completion")
      [("variables", v)] (e.command (.complete ⟨key, some text⟩)) := by
  have hcommand : e.command (.complete ⟨key, some text⟩) =
      e.post (completionPath key) (.object [("variables", v)]) := by
    simp only [command, variablesValue, hblank, hv]
    rfl
  rw [hcommand]
  refine sends_of_lossless e _ ?_
  have hlossless : v.Lossless := lossless_of_valueForm ((readValue_yields deepest).readAll rfl hv)
  simpa using hlossless

theorem blank_sends {key : JobKey} {document : Option String}
    (hblank : ∀ text ∈ document, Text.isBlankText text = true) :
    e.Sends ("/v2/jobs/" ++ String.ofList (Decimal.intText key.toInt) ++ "/completion") []
      (e.command (.complete ⟨key, document⟩)) := by
  have hcommand : e.command (.complete ⟨key, document⟩) = e.post (completionPath key) (.object []) := by
    cases document with
    | none => rfl
    | some text =>
      simp only [command, variablesValue, hblank text rfl]
      rfl
  rw [hcommand]
  exact sends_of_lossless e _ (by simp)

/-- A request for jobs is found in its body. -/
theorem activation_inj {r r' : ActivateRequest} (h : e.activation r = .ok p)
    (h' : e.activation r' = .ok p') (hbody : p.body = p'.body) : r = r' := by
  have hsays' := (activation_sends r').body h'
  rw [← hbody] at hsays'
  have hmembers := ((activation_sends r).body h).unique hsays'
  obtain ⟨jobType, worker, timeoutMs, maxJobs, fetchVariables⟩ := r
  obtain ⟨jobType', worker', timeoutMs', maxJobs', fetchVariables'⟩ := r'
  have hstrings : Function.Injective (List.map Value.string) :=
    List.map_injective_iff.2 fun _ _ => Value.string.inj
  cases fetchVariables with
  | nil =>
    cases fetchVariables' with
    | nil => simpa [Value.int, UInt64.toNat_inj, UInt32.toNat_inj] using hmembers
    | cons name' names' => simp at hmembers
  | cons name names =>
    cases fetchVariables' with
    | nil => simp at hmembers
    | cons name' names' =>
      simpa [Value.int, UInt64.toNat_inj, UInt32.toNat_inj, hstrings.eq_iff] using hmembers

/-! ### Addresses -/

open Url in
theorem isSegment_intText (n : Int) : IsSegment (Decimal.intText n) := by
  refine ⟨?_, fun c hc => ?_⟩
  · obtain ⟨ch, more, htext, -⟩ := (isNumber_intText n).exists_cons
    exact htext ▸ List.cons_ne_nil ch more
  · rcases Decimal.eq_minus_or_isDigit_of_mem_intText hc with rfl | hdigit
    · decide
    · simp [isPlain, Char.isAlphanum, hdigit]

open Url in
/-- Behind a path with a key and a verb, the address ends in the two. -/
theorem exists_ending {path : String} {body : Value} {key verb : List Char} (hkey : IsSegment key)
    (hverb : IsSegment verb) (hpath : path.toList = "/v2/jobs".toList ++ twoSegments key verb)
    (h : e.post path body = .ok p) : ∃ front, p.url.text.toList = front ++ twoSegments key verb := by
  obtain ⟨address, haddress, rfl⟩ := post_eq_ok_iff.1 h
  have htext : IsPlainPath "2/jobs".toList := by simp [IsPlainPath, isPlain]
  obtain ⟨front, hfront⟩ := exists_behindAuthority hkey hverb htext
    (by rw [String.toList_append, hpath]; rfl) haddress.read (isWeb_withoutLogin address ▸ haddress.web)
  obtain ⟨before, hbefore⟩ := text_eq address.withoutLogin
  rw [behindAuthority_withoutLogin, hfront] at hbefore
  exact ⟨before ++ front, by rw [hbefore, List.append_assoc]⟩

open Url in
/-- The address of a command ends in the key of the job and in what is done with it. -/
theorem exists_ending_of_command (h : e.command c = .ok p) : ∃ front verb, IsSegment verb ∧
    p.url.text.toList = front ++ twoSegments (Decimal.intText c.key.toInt) verb := by
  have hkey := isSegment_intText c.key.toInt
  cases c with
  | complete r =>
    simp only [command] at h
    split at h
    · cases h
    · have hverb : IsSegment "completion".toList := ⟨by decide, by simp [isPlain]⟩
      obtain ⟨front, hfront⟩ :=
        exists_ending hkey hverb (by simp [completionPath, JobKey.text, twoSegments, Command.key]) h
      exact ⟨front, _, hverb, hfront⟩
  | fail r =>
    have hverb : IsSegment "failure".toList := ⟨by decide, by simp [isPlain]⟩
    obtain ⟨front, hfront⟩ :=
      exists_ending hkey hverb (by simp [failurePath, JobKey.text, twoSegments, Command.key]) h
    exact ⟨front, _, hverb, hfront⟩

/-- Commands for different jobs go to different addresses. -/
theorem url_text_ne (h : e.command c = .ok p) (h' : e.command c' = .ok p') (hne : c.key ≠ c'.key) :
    p.url.text ≠ p'.url.text := by
  intro heq
  obtain ⟨front, verb, hverb, htext⟩ := exists_ending_of_command h
  obtain ⟨front', verb', hverb', htext'⟩ := exists_ending_of_command h'
  rw [heq, htext'] at htext
  obtain ⟨hkeys, -⟩ := Url.twoSegments_inj (isSegment_intText _) hverb' (isSegment_intText _) hverb htext
  have hvalue : c.key.value = c'.key.value := Int64.toInt_inj.1 (Decimal.intText_inj hkeys).symm
  exact hne (congrArg JobKey.mk hvalue)

/-- The report of a failure is found in its address and its body. -/
theorem failure_inj {r r' : FailRequest} (h : e.command (.fail r) = .ok p)
    (h' : e.command (.fail r') = .ok p) : r = r' := by
  have hkey : r.key = r'.key := by
    by_contra hne
    exact url_text_ne h h' hne rfl
  have hmembers := ((failure_sends r).body h).unique ((failure_sends r').body h')
  obtain ⟨key, retries, errorMessage⟩ := r
  obtain ⟨key', retries', errorMessage'⟩ := r'
  simpa [Value.int, Int32.toInt_inj] using And.intro hkey hmembers

end Endpoint

/-! ### Every request -/

/-- What a gateway at an address posts, and where to. -/
structure LosesNothing (address : String) (e : Endpoint) : Prop where
  /-- Only slashes are taken from the address, and all of them at its end. -/
  base : ∃ n, address = e.base ++ slashes n ∧ e.base.toList.getLast? ≠ some '/'
  /-- More slashes make no difference. -/
  same : ∀ n, Endpoint.ofAddress (address ++ slashes n) = Endpoint.ofAddress address
  activation : ∀ r : ActivateRequest, e.Sends "/v2/jobs/activation"
    ([("type", .string r.jobType), ("worker", .string r.worker), ("timeout", .int r.timeoutMs.toNat),
      ("maxJobsToActivate", .int r.maxJobs.toNat)] ++
      (if r.fetchVariables = [] then [] else [("fetchVariable", .array (r.fetchVariables.map .string))]) ++
      [("requestTimeout", .int e.requestTimeout.toInt)]) (e.activation r)
  failure : ∀ r : FailRequest,
    e.Sends ("/v2/jobs/" ++ String.ofList (Decimal.intText r.key.toInt) ++ "/failure")
      [("retries", .int r.retries.toInt), ("errorMessage", .string r.errorMessage)] (e.command (.fail r))
  /-- The variables are the value of their document. -/
  completion : ∀ (key : JobKey) {text : String} {v : Value}, Text.isBlankText text = false →
    parse readValue text = .ok v →
    e.Sends ("/v2/jobs/" ++ String.ofList (Decimal.intText key.toInt) ++ "/completion")
      [("variables", v)] (e.command (.complete ⟨key, some text⟩))
  /-- No document and a blank one are no variables. -/
  blank : ∀ (key : JobKey) {document : Option String},
    (∀ text ∈ document, Text.isBlankText text = true) →
    e.Sends ("/v2/jobs/" ++ String.ofList (Decimal.intText key.toInt) ++ "/completion") []
      (e.command (.complete ⟨key, document⟩))
  /-- Nothing is posted for a document that is none. -/
  refused : ∀ (key : JobKey) {text : String} {error : Json.Error}, Text.isBlankText text = false →
    parse readValue text = .error error → ∀ {ν : Type} [Network ν] (network : ν),
    Gateway.perform (⟨e, network⟩ : Remote ν) (.complete ⟨key, some text⟩) = (⟨e, network⟩,
      .error (.invalidRequest ("variables are not valid JSON: " ++ error.message)))
  /-- What is posted is all that the network gets to see. -/
  posted : ∀ {ν : Type} [Network ν] (network : ν) {p : Post},
    (∀ {r}, e.activation r = .ok p →
      (Gateway.activate (⟨e, network⟩ : Remote ν) r).1 = ⟨e, (Network.exchange network p).1⟩) ∧
    (∀ {c}, e.command c = .ok p →
      (Gateway.perform (⟨e, network⟩ : Remote ν) c).1 = ⟨e, (Network.exchange network p).1⟩)
  /-- A request for jobs is found in its body, and the report of a failure in the whole request. -/
  found : ∀ {r r' : ActivateRequest} {p p' : Post}, e.activation r = .ok p → e.activation r' = .ok p' →
    p.body = p'.body → r = r'
  heard : ∀ {r r' : FailRequest} {p : Post}, e.command (.fail r) = .ok p → e.command (.fail r') = .ok p →
    r = r'
  /-- Different jobs have different addresses. -/
  apart : ∀ {c c' : Command} {p p' : Post}, e.command c = .ok p → e.command c' = .ok p' →
    c.key ≠ c'.key → p.url.text ≠ p'.url.text

/-- **Encoding requests loses nothing.** -/
theorem encoding_loses_nothing (address : String) (token : Option String) (requestTimeout : Int64) :
    LosesNothing address { Endpoint.ofAddress address with token, requestTimeout } where
  base := Endpoint.exists_base address
  same := Endpoint.ofAddress_slashes address
  activation := Endpoint.activation_sends
  failure := Endpoint.failure_sends
  completion := fun _ => Endpoint.completion_sends
  blank := fun _ => Endpoint.blank_sends
  refused := by
    intro key text error hblank herror ν _ network
    have hcommand : ∀ e : Endpoint, e.command (.complete ⟨key, some text⟩) =
        .error (.invalidRequest ("variables are not valid JSON: " ++ error.message)) := by
      intro e
      simp only [Endpoint.command, variablesValue, hblank, herror]
      rfl
    simp only [Gateway.perform, hcommand]
    rfl
  posted := by
    intro ν _ network p
    refine ⟨fun h => ?_, fun h => ?_⟩
    · simp only [Gateway.activate, h]
      rfl
    · simp only [Gateway.perform, h]
      rfl
  found := Endpoint.activation_inj
  heard := Endpoint.failure_inj
  apart := Endpoint.url_text_ne

/-- A gateway on this computer. -/
def nearby : Endpoint := { Endpoint.ofAddress "http://[::1]:8088//" with token := none, requestTimeout := -1 }

/-- A job that failed, with a message that has to be escaped. -/
def fullDisk : FailRequest := ⟨⟨-7⟩, 2, "disk \"full\""⟩

/-- A document with white space and a fraction. -/
def shareDocument : String := " \x7b \"share\" : 1.50e0 \x7d "

/-- What is posted for a negative key, and for a document that could be worded more briefly. -/
theorem encoding_loses_nothing_nearby :
    (∃ p, nearby.command (.fail fullDisk) = .ok p ∧
      p.url.text = "http://[::1]:8088/v2/jobs/" ++ "-7/failure" ∧
      p.body = "\x7b\"retries\":2,\"errorMessage\":\"disk \\\"full\\\"\"\x7d" ∧
      Says p.body.toList [("retries", .int 2), ("errorMessage", .string "disk \"full\"")]) ∧
    ∃ p v, nearby.command (.complete ⟨⟨12⟩, some shareDocument⟩) = .ok p ∧ parse readValue shareDocument = .ok v ∧
      p.url.text = "http://[::1]:8088/v2/jobs/12/completion" ∧
      p.body = "\x7b\"variables\":\x7b\"share\":1.5\x7d\x7d" ∧ Says p.body.toList [("variables", v)] := by
  have h : LosesNothing "http://[::1]:8088//" nearby := encoding_loses_nothing _ none (-1)
  have hfailed : (nearby.command (.fail fullDisk)).map (fun p => (p.url.text, p.body)) =
      .ok ("http://[::1]:8088/v2/jobs/" ++ "-7/failure",
        "\x7b\"retries\":2,\"errorMessage\":\"disk \\\"full\\\"\"\x7d") := by decide +kernel
  have hcompleted : (nearby.command (.complete ⟨⟨12⟩, some shareDocument⟩)).map (fun p => (p.url.text, p.body)) =
      .ok ("http://[::1]:8088/v2/jobs/12/completion",
        "\x7b\"variables\":\x7b\"share\":1.5\x7d\x7d") := by decide +kernel
  obtain ⟨p, hp, hfields⟩ := map_eq_ok_iff.1 hfailed
  obtain ⟨p', hp', hfields'⟩ := map_eq_ok_iff.1 hcompleted
  obtain ⟨v, hv⟩ : ∃ v, parse readValue shareDocument = .ok v := by
    have hok : (parse readValue shareDocument).isOk = true := by decide +kernel
    cases hparse : parse readValue shareDocument with
    | ok v => exact ⟨v, rfl⟩
    | error error => simp [hparse, Except.isOk, Except.toBool] at hok
  refine ⟨⟨p, hp, congrArg Prod.fst hfields, congrArg Prod.snd hfields, (h.failure fullDisk).body hp⟩,
    p', v, hp', hv, congrArg Prod.fst hfields', congrArg Prod.snd hfields',
    (h.completion ⟨12⟩ (by decide +kernel) hv).body hp'⟩

end JobWorker.Rest
