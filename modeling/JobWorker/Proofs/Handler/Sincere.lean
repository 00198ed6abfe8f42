/-
Handlers that hand back only receipts they were given.

An activity is a program: it says things, sends commands and goes on according to the answers.
`Shows` is what can be seen of it from the beginning to the end.  Each command is one call with one
answer, and the handler gets a receipt for the command when it is accepted and an error when it is
not.

Nobody but the gateway can give out a receipt, and so a handler can hand back only what it was given,
now or for an earlier job.  `Sincere` says this of a handler, whatever its commands are answered and
whatever jobs it has had.  Handlers that follow plans are sincere: the receipts they remember are
receipts they were given.
-/
import JobWorker.Handler.Plan
import JobWorker.Proofs.Worker.Record

namespace JobWorker

/-! ### What is seen of an activity -/

/-- What is seen of an activity from its beginning to its end, what it leaves in memory, and how it
ends. -/
inductive Activity.Shows {σ : Type} : Activity σ → List Event → σ → Outcome → Prop
  | done (memory : σ) (outcome : Outcome) : Shows (.done memory outcome) [] memory outcome
  | await {next : Activity σ} {events : List Event} {memory : σ} {outcome : Outcome}
      (h : next.Shows events memory outcome) : Shows (.await next) events memory outcome
  | say {next : Activity σ} {events : List Event} {memory : σ} {outcome : Outcome} (remark : Remark)
      (h : next.Shows events memory outcome) :
      Shows (.say remark next) (.said remark :: events) memory outcome
  | accepted {next : Except GatewayError Receipt → Activity σ} {events : List Event} {memory : σ}
      {outcome : Outcome} (command : Command)
      (h : (next (.ok ⟨command.key, command.kind⟩)).Shows events memory outcome) :
      Shows (.send command next)
        (.call (.command command) :: .answered command (.ok ()) :: events) memory outcome
  | refused {next : Except GatewayError Receipt → Activity σ} {events : List Event} {memory : σ}
      {outcome : Outcome} (command : Command) (error : GatewayError)
      (h : (next (.error error)).Shows events memory outcome) :
      Shows (.send command next)
        (.call (.command command) :: .answered command (.error error) :: events) memory outcome

/-- Whatever a command is answered, the handler goes on with what it gets for the answer. -/
theorem Activity.Shows.send {σ : Type} {next : Except GatewayError Receipt → Activity σ}
    {events : List Event} {memory : σ} {outcome : Outcome} (command : Command) (verdict : Verdict)
    (h : (next (command.receiptFor verdict)).Shows events memory outcome) :
    (Activity.send command next).Shows
      (.call (.command command) :: .answered command verdict :: events) memory outcome := by
  cases verdict with
  | ok _ => exact .accepted command h
  | error e => exact .refused command e h

/-! ### Receipts that are given out -/

/-- The receipt that comes with an answer. -/
@[simp] def Event.receipt? : Event → Option Receipt
  | .answered command (.ok _) => some ⟨command.key, command.kind⟩
  | _ => none

/-- The receipts that are given out, in order. -/
abbrev Worker.receipts : List Event → List Receipt := Worker.pick Event.receipt?

open Worker

namespace Handler

variable {σ : Type}

/-- What a handler can remember after invocations that have shown these events. -/
inductive Recalls (handler : Handler σ) : List Event → σ → Prop
  | fresh : Recalls handler [] handler.fresh
  | after {earlier events : List Event} {memory memory' : σ} {outcome : Outcome} (job : Job)
      (hbefore : Recalls handler earlier memory)
      (h : (handler.start memory job).Shows events memory' outcome) :
      Recalls handler (earlier ++ events) memory'

/-- A handler that hands back only receipts it was given, for this job or for an earlier one. -/
def Sincere (handler : Handler σ) : Prop :=
  ∀ (earlier : List Event) (memory : σ) (job : Job) (events : List Event) (memory' : σ)
    (receipt : Receipt), handler.Recalls earlier memory →
      (handler.start memory job).Shows events memory' (.returned (.resolved receipt)) →
        receipt ∈ receipts (earlier ++ events)

end Handler

/-! ### Plans -/

namespace Plan

/-- A plan whose commands have been sent either fails, or goes on with the receipts that it had and
some of those it was given. -/
theorem shows_of_sendAll {job : Job} {failed : String → Activity Memory}
    {next : List Receipt → Activity Memory} {outcome : Outcome} {memory : Memory} :
    ∀ {commands : List PlannedCommand} {held : List Receipt} {events : List Event},
      (sendAll job failed next commands held).Shows events memory outcome →
        (∃ message rest, (failed message).Shows rest memory outcome) ∨
        ∃ given rest, (∀ receipt ∈ given, receipt ∈ held ∨ receipt ∈ receipts events) ∧
          (next given).Shows rest memory outcome := by
  intro commands
  induction commands with
  | nil => exact fun {held} {events} h => Or.inr ⟨held, events, fun receipt => Or.inl, h⟩
  | cons c commands ih =>
      intro held events h
      rw [sendAll] at h
      cases hcommand : c.command job with
      | error e =>
          rw [hcommand] at h
          simp only at h
          split at h
          · exact ih h
          · exact Or.inl ⟨_, events, h⟩
      | ok command =>
          rw [hcommand] at h
          cases h with
          | accepted _ h =>
              rcases ih h with hfailed | ⟨given, rest, hgiven, hnext⟩
              · exact Or.inl hfailed
              · refine Or.inr ⟨given, rest, fun receipt hmem => ?_, hnext⟩
                rcases hgiven receipt hmem with hheld | hnew
                · rcases List.mem_cons.mp hheld with rfl | hheld
                  · exact Or.inr (by simp)
                  · exact Or.inl hheld
                · exact Or.inr (by simp [hnew])
          | refused _ error h =>
              simp only at h
              split at h
              · rcases ih h with hfailed | ⟨given, rest, hgiven, hnext⟩
                · exact Or.inl hfailed
                · refine Or.inr ⟨given, rest, fun receipt hmem => ?_, hnext⟩
                  rcases hgiven receipt hmem with hheld | hnew
                  · exact Or.inl hheld
                  · exact Or.inr (by simpa using hnew)
              · exact Or.inl ⟨_, _, h⟩

/-- A plan hands back a receipt of its commands, or the one that is remembered. -/
theorem mem_of_conclude {plan : Plan} {job : Job} {given : List Receipt} {saved : Option Receipt}
    {receipt : Receipt} (h : plan.conclude job given saved = .returned (.resolved receipt)) :
    receipt ∈ given ∨ saved = some receipt := by
  unfold conclude at h
  simp only at h
  split at h
  · cases h
  · cases h
  · cases h
  · split at h
    · rename_i hreceipt
      cases h
      cases hchoice : plan.choice with
      | first => exact Or.inl (List.mem_of_getLast? (by rwa [hchoice] at hreceipt))
      | last => exact Or.inl (List.mem_of_head? (by rwa [hchoice] at hreceipt))
      | saved => exact Or.inr (by rwa [hchoice] at hreceipt)
      | none =>
          rw [hchoice] at hreceipt
          cases hreceipt
    · cases h

/-- What is left of a plan when it need not wait any more. -/
def work (plan : Plan) (memory : Memory) (job : Job) : Activity Memory :=
  sendAll job
    (fun message => .done memory (.failed [message]))
    (fun given =>
      let memory := if plan.saves then { memory with saved := given.head? } else memory
      .done memory (plan.conclude job given memory.saved))
    plan.commands []

theorem carryOut_eq (plan : Plan) (memory : Memory) (job : Job) :
    plan.carryOut memory job = .say (if plan.showsJob then .tookUpShown job else .tookUp job.key)
      (if plan.blocks then .await (.say (.released job.key) (plan.work memory job))
        else plan.work memory job) := rfl

/-- Before that, a plan only says things and waits. -/
theorem work_of_carryOut {plan : Plan} {memory memory' : Memory} {job : Job} {events : List Event}
    {outcome : Outcome} (h : (plan.carryOut memory job).Shows events memory' outcome) :
    ∃ shown, receipts shown = receipts events ∧ (plan.work memory job).Shows shown memory' outcome := by
  rw [carryOut_eq] at h
  cases h with
  | say remark h =>
      split at h
      · cases h with
        | await h =>
            cases h with
            | say remark h => exact ⟨_, by simp, h⟩
      · exact ⟨_, by simp, h⟩

/-- Whatever receipt a plan remembers or hands back, it was remembered before or has been given. -/
theorem known_of_carryOut {plan : Plan} {memory memory' : Memory} {job : Job} {events : List Event}
    {outcome : Outcome} (h : (plan.carryOut memory job).Shows events memory' outcome)
    {receipt : Receipt}
    (hkept : memory'.saved = some receipt ∨ outcome = .returned (.resolved receipt)) :
    memory.saved = some receipt ∨ receipt ∈ receipts events := by
  obtain ⟨shown, hsame, hshown⟩ := work_of_carryOut h
  rcases shows_of_sendAll hshown with ⟨message, rest, hfailed⟩ | ⟨given, rest, hgiven, hnext⟩
  · cases hfailed
    exact Or.inl (by simpa using hkept)
  · have hmem : receipt ∈ given → memory.saved = some receipt ∨ receipt ∈ receipts events := by
      intro hmem
      rcases hgiven receipt hmem with hnone | hnew
      · cases hnone
      · exact Or.inr (hsame ▸ hnew)
    -- what is saved is the last receipt or what was saved before
    have hsaved : (if plan.saves then { memory with saved := given.head? } else memory).saved
        = some receipt → receipt ∈ given ∨ memory.saved = some receipt := by
      cases plan.saves with
      | true => exact fun hhead => Or.inl (List.mem_of_head? hhead)
      | false => exact Or.inr
    cases hnext
    rcases hkept with hkept | hback
    · exact (hsaved hkept).elim hmem Or.inl
    · exact (mem_of_conclude hback).elim hmem fun hback => (hsaved hback).elim hmem Or.inl

end Plan

/-- **Handlers that follow plans are sincere.** -/
theorem Plans.sincere (plans : Plans) : plans.handler.Sincere := by
  have hsaved : ∀ {earlier : List Event} {memory : Plan.Memory} {receipt : Receipt},
      plans.handler.Recalls earlier memory → memory.saved = some receipt →
        receipt ∈ receipts earlier := by
    intro earlier memory receipt hrecalls
    induction hrecalls with
    | fresh => exact fun hnone => by cases hnone
    | after job _ h ih =>
        intro hkept
        rw [receipts, pick_append, List.mem_append]
        exact (Plan.known_of_carryOut h (Or.inl hkept)).imp_left ih
  intro earlier memory job events memory' receipt hrecalls h
  rw [receipts, pick_append, List.mem_append]
  exact (Plan.known_of_carryOut h (Or.inr rfl)).imp_left (hsaved hrecalls)

end JobWorker
