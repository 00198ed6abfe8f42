/-
How often handlers wait.

A handler may wait to be let go, and how often it does can depend on whatever it has been told.  Here
it is asked of handlers that it depends on the jobs alone, on the one at hand and on those before it.
`Waits` says of an activity how often it waits, whatever its commands are answered; `WaitsAs` says of
a handler that it keeps to a rule, whatever it remembers of the jobs before.  What such a handler
sends, remembers and hands back is not restricted at all.

Handlers that follow plans are of this kind: a plan says beforehand whether it waits, and plans are
chosen by the keys of the jobs.
-/
import JobWorker.Proofs.Handler.Sincere

namespace JobWorker

/-! ### Activities and handlers -/

section

variable {σ σ' : Type}

/-- An activity that waits so many times, whatever its commands are answered. -/
inductive Activity.Waits : Activity σ → Nat → Prop
  | done (memory : σ) (outcome : Outcome) : Waits (.done memory outcome) 0
  | await {next : Activity σ} {n : Nat} (h : next.Waits n) : Waits (.await next) (n + 1)
  | send (command : Command) {next : Except GatewayError Receipt → Activity σ} {n : Nat}
      (h : ∀ answer, (next answer).Waits n) : Waits (.send command next) n
  | say (remark : Remark) {next : Activity σ} {n : Nat} (h : next.Waits n) :
      Waits (.say remark next) n

/-- An activity that can leave this memory, for some answers to its commands. -/
def Activity.Leaves (activity : Activity σ) (memory : σ) : Prop :=
  ∃ events outcome, activity.Shows events memory outcome

namespace Activity.Leaves

variable {memory : σ}

theorem await {next : Activity σ} (h : next.Leaves memory) : (Activity.await next).Leaves memory := by
  obtain ⟨events, outcome, hshown⟩ := h
  exact ⟨events, outcome, .await hshown⟩

theorem say (remark : Remark) {next : Activity σ} (h : next.Leaves memory) :
    (Activity.say remark next).Leaves memory := by
  obtain ⟨events, outcome, hshown⟩ := h
  exact ⟨_, outcome, .say remark hshown⟩

theorem send (command : Command) (verdict : Verdict) {next : Except GatewayError Receipt → Activity σ}
    (h : (next (command.receiptFor verdict)).Leaves memory) :
    (Activity.send command next).Leaves memory := by
  obtain ⟨events, outcome, hshown⟩ := h
  exact ⟨_, outcome, hshown.send command verdict⟩

end Activity.Leaves

namespace Handler

/-- What a handler can remember after these jobs. -/
inductive Remembers (handler : Handler σ) : List Job → σ → Prop
  | fresh : Remembers handler [] handler.fresh
  | after {jobs : List Job} {memory memory' : σ} (job : Job) (hbefore : Remembers handler jobs memory)
      (h : (handler.start memory job).Leaves memory') : Remembers handler (jobs ++ [job]) memory'

/-- A handler that waits so many times with a job after other jobs. -/
def WaitsAs (handler : Handler σ) (waits : List Job → Job → Nat) : Prop :=
  ∀ (jobs : List Job) (memory : σ) (job : Job), handler.Remembers jobs memory →
    (handler.start memory job).Waits (waits jobs job)

/-- Two handlers that wait with the same jobs, and as often. -/
def WaitsLike (handler : Handler σ) (handler' : Handler σ') : Prop :=
  ∃ waits, handler.WaitsAs waits ∧ handler'.WaitsAs waits

end Handler

end

/-! ### Plans -/

namespace Plan

/-- Sending commands is no reason to wait. -/
theorem sendAll_waits {job : Job} {failed : String → Activity Memory}
    {next : List Receipt → Activity Memory} (hfailed : ∀ message, (failed message).Waits 0)
    (hnext : ∀ receipts, (next receipts).Waits 0) (commands : List PlannedCommand)
    (receipts : List Receipt) : (sendAll job failed next commands receipts).Waits 0 := by
  induction commands generalizing receipts with
  | nil => exact hnext receipts
  | cons c commands ih =>
      rw [sendAll]
      cases c.command job with
      | error e =>
          simp only
          split
          · exact ih receipts
          · exact hfailed e.message
      | ok command =>
          refine .send command fun answer => ?_
          cases answer with
          | ok receipt => exact ih (receipt :: receipts)
          | error e =>
              simp only
              split
              · exact ih receipts
              · exact hfailed e.message

/-- A plan that blocks waits once, and another one never. -/
theorem carryOut_waits (plan : Plan) (memory : Memory) (job : Job) :
    (plan.carryOut memory job).Waits plan.blocks.toNat := by
  have hwork : (plan.work memory job).Waits 0 :=
    sendAll_waits (fun _ => .done _ _) (fun _ => .done _ _) plan.commands []
  rw [carryOut_eq]
  refine .say _ ?_
  cases plan.blocks with
  | false => exact hwork
  | true => exact .await (.say _ hwork)

/-- A plan does not forget which keys it has seen, and sees none. -/
theorem seen_of_carryOut {plan : Plan} {memory memory' : Memory} {job : Job}
    (h : (plan.carryOut memory job).Leaves memory') : memory'.seen = memory.seen := by
  obtain ⟨events, outcome, h⟩ := h
  obtain ⟨shown, -, hshown⟩ := work_of_carryOut h
  rcases shows_of_sendAll hshown with ⟨message, rest, hfailed⟩ | ⟨given, rest, -, hnext⟩
  · cases hfailed
    rfl
  · cases hnext
    cases plan.saves <;> rfl

end Plan

namespace Plans

/-- How often plans wait with a job after other jobs. -/
def waits (plans : Plans) (jobs : List Job) (job : Job) : Nat :=
  (plans.plan job.key ((jobs.map Job.key).count job.key)).blocks.toNat

theorem seen_of_remembers {plans : Plans} {jobs : List Job} {memory : Plan.Memory}
    (h : plans.handler.Remembers jobs memory) : memory.seen = (jobs.map Job.key).reverse := by
  induction h with
  | fresh => rfl
  | after job _ h ih => simp [Plan.seen_of_carryOut h, ih]

/-- **Handlers that follow plans wait as the plans say**, whatever their commands are answered. -/
theorem waitsAs (plans : Plans) : plans.handler.WaitsAs plans.waits := by
  intro jobs memory job h
  have hcount : memory.count job.key = (jobs.map Job.key).count job.key := by
    rw [Plan.Memory.count, seen_of_remembers h, List.count_reverse]
  rw [waits, ← hcount]
  exact (plans.plan job.key (memory.count job.key)).carryOut_waits _ job

end Plans

end JobWorker
