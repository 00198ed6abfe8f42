/-
Many callers at one gateway with a script.

What an act does is the same whatever calls the gateway has recorded.  So two desks that differ in that
alone go on alike: the same acts are possible at both, and lead to the same answers.  This is why a
request that is kept waiting can be left out of everything that is done afterwards.

A gateway that is called by one caller at a time is a desk at which nobody comes in between.
-/
import JobWorker.Gateway.Scripted.Desk
import JobWorker.Proofs.Except
import JobWorker.Proofs.Gateway.Answers

namespace JobWorker.Scripted

namespace Desk

/-- What an act adds to the script. -/
def Act.pushed? : Act → Option Entry
  | .push entry => some entry
  | _ => none

/-- The call that is made by an act. -/
def Act.call? : Act → Option Call
  | .ask request => some (.activate request)
  | .perform command => some (.command command)
  | _ => none

/-- What has been added to the script. -/
def pushed (acts : List Act) : List Entry := acts.filterMap Act.pushed?

variable {d d' e : Desk} {acts : List Act} {a : Act}

theorem run?_cons_eq_some_iff :
    d.run? (a :: acts) = some e ↔ ∃ d', d.act? a = some d' ∧ d'.run? acts = some e :=
  foldlM_cons_eq_some_iff

theorem run?_append_eq_some_iff {more : List Act} :
    d.run? (acts ++ more) = some e ↔ ∃ d', d.run? acts = some d' ∧ d'.run? more = some e := by
  rw [run?, List.foldlM_append, Option.bind_eq_bind, Option.bind_eq_some_iff]
  rfl

theorem answer_eq (d : Desk) (k : Nat) (request : ActivateRequest) :
    d.answer k request =
      { gateway := { d.gateway with
          script := (grant d.gateway.overGranting request.maxJobs d.gateway.script).1 }
        waiting := d.waiting.eraseIdx k
        events := d.events ++
          [.granted (grant d.gateway.overGranting request.maxJobs d.gateway.script).2] } := rfl

/-! ### The record of calls decides nothing -/

/-- The second desk differs from the first in the calls recorded and in what has happened so far, and
in nothing else. -/
structure Alike (d e : Desk) : Prop where
  gateway : d.gateway.Hears e.gateway
  waiting : e.waiting = d.waiting

theorem Alike.refl (d : Desk) : Alike d d := ⟨.refl _, rfl⟩

theorem Alike.exists_calls (h : Alike d e) (hevents : d.events = e.events) :
    ∃ calls, e = { d with gateway := { d.gateway with calls } } := by
  obtain ⟨⟨calls, hgateway⟩, hwaiting⟩ := h
  obtain ⟨gateway, waiting, events⟩ := e
  cases hgateway
  cases hwaiting
  cases hevents
  exact ⟨calls, rfl⟩

/-- What is done at a desk can be done at every desk like it, and shows the same. -/
theorem Alike.act (h : Alike d e) (hact : d.act? a = some d') :
    ∃ e' more, e.act? a = some e' ∧ Alike d' e' ∧
      d'.events = d.events ++ more ∧ e'.events = e.events ++ more := by
  obtain ⟨⟨calls, hgateway⟩, hwaiting⟩ := h
  obtain ⟨gateway, waiting, events⟩ := e
  cases hgateway
  cases hwaiting
  cases a with
  | answer k =>
      simp only [act?, Option.map_eq_some_iff] at hact
      obtain ⟨request, hrequest, rfl⟩ := hact
      have hsame : act? ⟨{ d.gateway with calls }, d.waiting, events⟩ (.answer k) =
          some (answer ⟨{ d.gateway with calls }, d.waiting, events⟩ k request) := by
        rw [act?, hrequest, Option.map_some]
      exact ⟨_, [.granted (grant d.gateway.overGranting request.maxJobs d.gateway.script).2], hsame,
        ⟨⟨calls, rfl⟩, rfl⟩, rfl, rfl⟩
  | ask request =>
      cases hact
      exact ⟨_, _, rfl, ⟨⟨_, rfl⟩, rfl⟩, rfl, rfl⟩
  | perform command =>
      cases hact
      exact ⟨_, _, rfl, ⟨⟨_, rfl⟩, rfl⟩, rfl, rfl⟩
  | _ =>
      cases hact
      exact ⟨_, [], rfl, ⟨⟨calls, rfl⟩, rfl⟩, (List.append_nil _).symm, (List.append_nil _).symm⟩

theorem Alike.run (h : Alike d e) (hrun : d.run? acts = some d') :
    ∃ e' more, e.run? acts = some e' ∧ Alike d' e' ∧
      d'.events = d.events ++ more ∧ e'.events = e.events ++ more := by
  induction acts generalizing d e with
  | nil =>
      cases hrun
      exact ⟨e, [], rfl, h, (List.append_nil _).symm, (List.append_nil _).symm⟩
  | cons a acts ih =>
      obtain ⟨d₁, hact, hacts⟩ := run?_cons_eq_some_iff.1 hrun
      obtain ⟨e₁, first, hact', h₁, hd₁, he₁⟩ := h.act hact
      obtain ⟨e', more, hacts', h', hd', he'⟩ := ih h₁ hacts
      refine ⟨e', first ++ more, run?_cons_eq_some_iff.2 ⟨e₁, hact', hacts'⟩, h', ?_, ?_⟩
      · rw [hd', hd₁, List.append_assoc]
      · rw [he', he₁, List.append_assoc]

/-- A request that is kept waiting leaves behind the record of the call, and no more. -/
theorem alike_ask_of_holding (h : d.gateway.holding = true) (request : ActivateRequest) :
    Alike (d.ask request) d :=
  ⟨⟨d.gateway.calls, rfl⟩, by rw [ask, if_pos h]⟩

/-! ### One caller at a time -/

/-- A request that is made of the gateway is written down and, unless requests are kept waiting,
answered before anybody else has a turn. -/
theorem exists_run?_activate (d : Desk) (request : ActivateRequest) :
    ∃ acts, pushed acts = [] ∧ d.run? acts = some
      { d with
        gateway := (Gateway.activate d.gateway request).1
        events := d.events ++ .call (.activate request) ::
          (Gateway.activate d.gateway request).2.toList.map .granted } := by
  by_cases h : d.gateway.holding = true
  · refine ⟨[.ask request], rfl, ?_⟩
    refine run?_cons_eq_some_iff.2 ⟨d.ask request, rfl, ?_⟩
    rw [activate_of_holding h, ask, if_pos h]
    rfl
  · have h : d.gateway.holding = false := by simpa using h
    refine ⟨[.ask request, .answer d.waiting.length], rfl, ?_⟩
    refine run?_cons_eq_some_iff.2 ⟨d.ask request, rfl, run?_cons_eq_some_iff.2
      ⟨(d.ask request).answer d.waiting.length request, ?_, ?_⟩⟩
    · simp [act?, ask, h]
    · rw [activate_of_answering h]
      show some ((d.ask request).answer d.waiting.length request) = some _
      simp [answer, ask, h, record, List.eraseIdx_append_of_length_le]

end Desk

end JobWorker.Scripted
