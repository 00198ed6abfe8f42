/-
What a single activation prints.

The jobs that were activated are printed as one document, an array with an item for each of them, on
lines and with indentation.  How a text is laid out makes no difference to what it stands for, as long
as that is so for the fields of a job; this goes from the fields to the headers, from the headers to the
jobs and from the jobs to their array.  So what is printed is read back as the jobs that were asked for:
those of the answer in its order, and the first of them if there are too many.
-/
import JobWorker.Proofs.Cli.Verdicts
import JobWorker.Proofs.Json.Indented
import JobWorker.Proofs.Rest.Decoding

namespace JobWorker

open Json

/-! ### Records on lines -/

/-- A kind of value whose fields stand for the same however they are laid out. -/
structure Codec.Spacious {ι α : Type} (C : Codec ι α) : Prop where
  roomy : ∀ i, Roomy (C.form i)
  json_indented : ∀ depth i x, C.form i x ((C.json i x).indented depth)
  wellFormed : ∀ i {x text}, C.form i x text → WellFormed false text

theorem Codec.roomy_recordForm {ι α : Type} (C : Codec ι α) : Roomy C.recordForm where
  padded hx hbefore hafter :=
    hx.imp (fun hx => Padded.padded hx hbefore hafter) fun hx => Padded.padded hx hbefore hafter

namespace Codec.Spacious

variable {ι α : Type} {C : Codec ι α} (h : C.Spacious)

include h

theorem objectForm_indented (depth : Nat) (x : α) : C.objectForm x ((C.toJson x).indented depth) :=
  Shape.objectForm_indented C.name_injective h.roomy (h.json_indented (depth + 1)) (C.written_nodup x)
    (C.written_all x)

theorem wellFormed_of_recordForm {x : α} {text : List Char} (hx : C.recordForm x text) :
    WellFormed false text :=
  Shape.wellFormed_of_textForm h.wellFormed (hx.imp_right Shape.tupleForm_of_arrayForm)

theorem listForm_pretty (xs : List α) :
    listForm C.recordForm xs ((Value.array (xs.map C.toJson)).pretty ++ "\n").toList := by
  have hform : listForm C.recordForm xs ((Value.array (xs.map C.toJson)).indented 0) :=
    listForm_indented C.roomy_recordForm (fun x => .inl (h.objectForm_indented 1 x)) xs
  have hline : Padding ['\n'] := List.forall_mem_singleton.2 rfl
  rw [String.toList_append, Value.pretty, String.toList_ofList]
  exact Padded.padded hform padding_nil hline

end Codec.Spacious

theorem Headers.spacious : Headers.codec.Spacious where
  roomy i := by
    cases i <;> exact ⟨Padded.padded⟩
  json_indented depth i x := by
    cases i with
    | processId | elementId => exact stringForm_write x
    | elementInstanceKey | processVersion | processKey | processInstanceKey => exact .of_core rfl
  wellFormed i x text hx := by
    cases i with
    | processId | elementId => exact wellFormed_of_stringForm hx
    | elementInstanceKey | processVersion | processKey | processInstanceKey =>
      exact wellFormed_of_intForm hx

theorem Job.spacious : Job.codec.Spacious where
  roomy i := by
    cases i with
    | key => exact ⟨JobKey.form_padded⟩
    | type | worker | variablesText | customHeadersText | retries | deadline => exact ⟨Padded.padded⟩
    | headers => exact Headers.codec.roomy_recordForm
  json_indented depth i x := by
    cases i with
    | key => exact .inl (.of_core rfl)
    | type | worker | variablesText | customHeadersText => exact stringForm_write x
    | retries | deadline => exact .of_core rfl
    | headers => exact .inl (Headers.spacious.objectForm_indented depth x)
  wellFormed i x text hx := by
    cases i with
    | key => exact JobKey.wellFormed_of_form hx
    | type | worker | variablesText | customHeadersText => exact wellFormed_of_stringForm hx
    | retries | deadline => exact wellFormed_of_intForm hx
    | headers => exact Headers.spacious.wellFormed_of_recordForm hx

namespace Cli

open Rest

/-! ### What is printed -/

/-- The program has come to its end and has printed some jobs as one document. -/
structure Exit.Prints (exit : Exit) (jobs : List Job) : Prop where
  code : exit.code = 0
  error : exit.error = none
  document : WellFormed false exit.stdout.toList
  /-- The document is read as the jobs, with all that belongs to them. -/
  readback : parse (readList Job.read) exit.stdout = .ok jobs

theorem prints_success (jobs : List Job) :
    (Exit.success ((Job.listToJson jobs).pretty ++ "\n")).Prints jobs := by
  have hform := Job.spacious.listForm_pretty jobs
  refine ⟨rfl, rfl, ?_, ?_⟩
  · obtain ⟨items, hitems, htext⟩ := listForm_iff.1 hform
    exact wellFormed_of_arrayText htext
      (forall_mem_of_forall₂ hitems Job.spacious.wellFormed_of_recordForm)
  · exact (readList_accepts Job.codec.read_accepts).parse (by decide) hform

/-! ### What is asked for -/

/-- A command line that asks for at most some jobs, once. -/
structure AsksFor (n : UInt32) (arguments : List String) (items : List Item) : Prop where
  read : read arguments = .ok (.run .activate items)
  valid : ValidSettings .activate items
  limit : limit? items = some n

/-- The words that ask for some jobs of a type. -/
def asking (jobType : String) (n : UInt32) : List String :=
  [Subcommand.activate.name, Flag.jobType.joined jobType,
    Flag.limit.joined (String.ofList (Nat.toDigits 10 n.toNat))]

/-- Any number of jobs of any type can be asked for, but not none. -/
theorem asksFor_asking {jobType : String} {n : UInt32} (hjobType : Text.isBlankText jobType = false)
    (hn : 1 ≤ n.toNat) : AsksFor n (asking jobType n) [.jobType jobType, .limit n] where
  read := by
    have hread : Flag.limit.read (String.ofList (Nat.toDigits 10 n.toNat)) = .ok (.limit n) := by
      rw [Flag.read, Flag.readCount_toDigits]
      rfl
    rw [asking, read_name_cons, readFlags_joined rfl (Taken.flag_of_read rfl rfl rfl rfl),
      readFlags_joined rfl (Taken.flag_of_read rfl rfl rfl hread)]
    rfl
  valid := ⟨⟨jobType, rfl, hjobType⟩, ⟨n, rfl, hn⟩, nofun⟩
  limit := rfl

variable {ν : Type} [Network ν] {n : UInt32} {arguments : List String} {items : List Item}

/-- **A single activation prints what was activated.**  In every environment, a command line that asks
for at most `n` jobs makes a request for them.  If the answer to it decodes to some jobs, then the first
`n` of them are printed, or all of them if there are fewer. -/
theorem activated_jobs_are_printed (h : AsksFor n arguments items) (env : Environment) (network : ν) :
    ∃ request, ((activationOptions items).request env).2 = .ok request ∧ request.maxJobs = n ∧
      ∀ body jobs, Remote.Hears ⟨endpoint items env, network⟩ request body →
        decodeJobs body = .ok jobs →
        ∃ exit after, run arguments env network = .exited exit after ∧
          exit.Prints (jobs.take (min n.toNat jobs.length)) := by
  obtain ⟨request, hrequest⟩ := (@Activation.Options.request_isOk_iff _ env).mpr h.valid
  have hmaxJobs : request.maxJobs = n := by
    have hrequest : (activationOptions items).request env = (_, .ok request) := Prod.ext rfl hrequest
    obtain ⟨-, jobType, limit, -, hlimit, rfl⟩ := Activation.request_eq_ok hrequest
    exact Option.some.inj (hlimit.symm.trans h.limit)
  refine ⟨request, hrequest, hmaxJobs, fun body jobs hheard hjobs => ?_⟩
  have hactivate : Gateway.activate (⟨endpoint items env, network⟩ : Remote ν) request =
      ((Gateway.activate (⟨endpoint items env, network⟩ : Remote ν) request).1, some (.ok jobs)) :=
    Prod.ext rfl (by rw [hheard.activate, granted, hjobs])
  obtain ⟨events, hsend⟩ := send_of_activate h.valid hrequest hactivate
  refine ⟨.success ((Job.listToJson (jobs.take n.toNat)).pretty ++ "\n"),
    (Gateway.activate (⟨endpoint items env, network⟩ : Remote ν) request).1.network, ?_, ?_⟩
  · simp only [run, h.read, activate, hrequest, outcome_of_send hsend, Activation.conclude,
      Activation.accept, hmaxJobs]
  · rw [List.take_eq_take_min]
    exact prints_success _

/-- A reply that grants two jobs. -/
def twoJobsBody : List UInt8 :=
  (String.ofList (compactObject [writtenMember "jobs" (enclosed '[' ']' []
    [compactObject (keyedJob ['7']), compactObject (keyedJob ['8'])])])).toUTF8.toList

/-- An environment that names a gateway on this computer. -/
def homeward : Environment where
  bytes?
    | .gatewayAddress => some "http://[::1]".toUTF8.toList
    | _ => none

/-- One job is asked for and two are granted. -/
theorem activated_jobs_are_printed_first :
    ∃ exit after, run (asking "a" 1) homeward (answering twoJobsBody).network = .exited exit after ∧
      exit.Prints [keyed] := by
  obtain ⟨request, hrequest, -, hprints⟩ := activated_jobs_are_printed
    (@asksFor_asking "a" 1 (by decide) (by decide)) homeward (answering twoJobsBody).network
  have hasked : ((activationOptions [.jobType "a", .limit 1]).request homeward).2 =
      .ok ⟨"a", "default", 300000, 1, []⟩ := by rfl
  obtain rfl := Except.ok.inj (hrequest.symm.trans hasked)
  have hendpoint : endpoint [.jobType "a", .limit 1] homeward = Endpoint.ofAddress "http://[::1]" := by
    decide +kernel
  rw [hendpoint] at hprints
  exact hprints twoJobsBody [keyed, { keyed with key := ⟨8⟩ }] ⟨_, _, rfl, rfl, rfl, rfl⟩
    (by decide +kernel)

end Cli

end JobWorker
