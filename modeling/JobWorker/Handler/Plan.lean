/-
Handlers that follow a plan.

A plan says for one job what is done, in a fixed order: the job is taken up, commands are sent, and
the handler fails, breaks off or hands back a receipt.  Plans are chosen by the key of the job and by
how often that key was seen.
-/
import JobWorker.Handler
import JobWorker.Job.Variables
import JobWorker.Request.Variables

namespace JobWorker

namespace Plan

/-- What a planned command does. -/
inductive Deed where
  | complete (given : Variables)
  | fail (retries : Int32) (errorMessage : String)
  deriving Repr

/-- A command in a plan. -/
structure PlannedCommand where
  deed : Deed
  /-- The job that it is for, if it is not the job at hand. -/
  key : Option JobKey
  /-- Whether the handler goes on after an error. -/
  ignoresError : Bool
  deriving Repr

/-- How a plan can break off. -/
inductive Panic where
  | withText (text : String)
  | withoutText
  deriving DecidableEq, Repr

/-- The text that is left when a plan breaks off. -/
def Panic.text? : Panic → Option String
  | .withText text => some text
  | .withoutText => none

/-- Which receipt a plan hands back. -/
inductive Choice where
  | first
  | last
  | saved
  | none
  deriving DecidableEq, Repr

end Plan

/-- What is done with one job. -/
structure Plan where
  /-- Whether all of the job is shown when it is taken up. -/
  showsJob : Bool
  /-- Whether the handler waits before it sends commands. -/
  blocks : Bool
  commands : List Plan.PlannedCommand
  /-- Whether the last receipt is remembered. -/
  saves : Bool
  /-- Whether the variables of the job are read. -/
  parsesVariables : Bool
  /-- The causes of the failure that the plan ends with. -/
  failure : Option (List String)
  panic : Option Plan.Panic
  choice : Plan.Choice
  deriving Repr

/-- Plans for all jobs. -/
structure Plans where
  standard : Plan
  /-- The plans for the jobs with some keys: the first for the first job, and so on. -/
  byKey : List (JobKey × List Plan)
  deriving Repr

namespace Plan

/-- The plan in which nothing is done. -/
def blank : Plan := ⟨false, false, [], false, false, none, none, .none⟩

/-- What is remembered from one job to the next. -/
structure Memory where
  /-- The keys of the jobs so far. -/
  seen : List JobKey
  saved : Option Receipt
  deriving DecidableEq, Repr

/-- How often a key was seen. -/
def Memory.count (memory : Memory) (key : JobKey) : Nat := memory.seen.count key

/-- The request that a planned command makes. -/
def PlannedCommand.command (c : PlannedCommand) (job : Job) : Except Json.Error Command :=
  let key := c.key.getD job.key
  match c.deed with
  | .complete given => (CompleteRequest.make key given).map .complete
  | .fail retries errorMessage => .ok (.fail ⟨key, retries, errorMessage⟩)

/-- Sends commands one after the other and goes on with the receipts, the last one first. -/
def sendAll {σ : Type} (job : Job) (failed : String → Activity σ)
    (next : List Receipt → Activity σ) : List PlannedCommand → List Receipt → Activity σ
  | [], receipts => next receipts
  | c :: commands, receipts =>
    match c.command job with
    | .error e => if c.ignoresError then sendAll job failed next commands receipts else failed e.message
    | .ok command =>
      .send command fun
        | .ok receipt => sendAll job failed next commands (receipt :: receipts)
        | .error e =>
          if c.ignoresError then sendAll job failed next commands receipts else failed e.message

/-- The receipt that is handed back, of those received, the last one first. -/
def Choice.receipt? (receipts : List Receipt) (saved : Option Receipt) : Choice → Option Receipt
  | .first => receipts.getLast?
  | .last => receipts.head?
  | .saved => saved
  | .none => Option.none

/-- How a plan ends. -/
def conclude (plan : Plan) (job : Job) (receipts : List Receipt) (saved : Option Receipt) : Outcome :=
  let misread := if plan.parsesVariables then
      match job.variablesMap with
      | .ok _ => none
      | .error e => some e.message
    else none
  match misread, plan.failure, plan.panic with
  | some message, _, _ => .failed [message]
  | none, some causes, _ => .failed causes
  | none, none, some panic => .panicked panic.text?
  | none, none, none =>
    match plan.choice.receipt? receipts saved with
    | some receipt => .returned (.resolved receipt)
    | none => .returned .unresolved

/-- Carries out a plan. -/
def carryOut (plan : Plan) (memory : Memory) (job : Job) : Activity Memory :=
  let commands := sendAll job
    (fun message => .done memory (.failed [message]))
    (fun receipts =>
      let memory := if plan.saves then { memory with saved := receipts.head? } else memory
      .done memory (plan.conclude job receipts memory.saved))
    plan.commands []
  .say (if plan.showsJob then .tookUpShown job else .tookUp job.key) <|
    if plan.blocks then .await (.say (.released job.key) commands) else commands

end Plan

namespace Plans

/-- The plan for a job whose key was seen `n` times before. -/
def plan (plans : Plans) (key : JobKey) (n : Nat) : Plan :=
  match plans.byKey.lookup key with
  | some (p :: ps) => ((p :: ps)[n]?).getD ((p :: ps).getLast (by simp))
  | some [] | none => plans.standard

/-- The handler that follows plans. -/
def handler (plans : Plans) : Handler Plan.Memory where
  fresh := ⟨[], none⟩
  start memory job :=
    (plans.plan job.key (memory.count job.key)).carryOut
      { memory with seen := job.key :: memory.seen } job

end Plans

end JobWorker
