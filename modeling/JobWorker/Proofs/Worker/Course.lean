/-
The course of a job, read off the events.

The executing loop is busy with one job at a time, and what happens to that job follows a fixed
course: it is handed to the handler, the handler sends commands one after the other and ends, and
then the worker may send one command of its own.  `Advance` is this course as a relation between
stages, one constructor for each kind of event; `Course` strings its steps together.  The acquiring
loop and the log write their events in between, which leave the stage as it is.

A stage is not part of a state, but each position of the executing loop stands for one.  It is what is
left of a conduct when nobody asks what the handler has still to do.  So the events of every history
run a course to the stage of the state it leads to; what follows from that is about lists of events
alone, and no longer about a worker.
-/
import JobWorker.Proofs.Worker.Conduct
import Mathlib.Data.List.TakeWhile

namespace JobWorker.Worker

variable {σ : Type} {w : Config σ}

/-- How far the executing loop has come with a job. -/
inductive Stage where
  /-- There is no job at work. -/
  | free
  /-- The handler of a job is at work. -/
  | running (job : Job)
  /-- The handler of a job waits for the answer to a command. -/
  | asking (job : Job) (command : Command)
  /-- The handler of a job has ended, and the worker has to send a command. -/
  | owing (job : Job) (command : Command)
  /-- The worker waits for the answer to its own command. -/
  | settling (job : Job) (command : Command)

/-- The stage that a position of the executing loop stands for. -/
def Execute.stage : Execute σ → Stage
  | .idle | .stopped => .free
  | .blocked job _ => .running job
  | .sending job command _ => .asking job command
  | .following job command => .settling job command

/-- The job whose handler is in progress. -/
def Stage.inProgress? : Stage → Option Job
  | .running job | .asking job _ => some job
  | .free | .owing .. | .settling .. => none

/-- The command that waits for its answer. -/
def Stage.awaited? : Stage → Option Command
  | .asking _ command | .settling _ command => some command
  | .free | .running _ | .owing .. => none

/-- The command that the worker has to send. -/
def Stage.owed : Stage → List Command
  | .owing _ command => [command]
  | .free | .running _ | .asking .. | .settling .. => []

theorem Execute.owed_stage (e : Execute σ) : e.stage.owed = [] := by
  cases e <;> rfl

/-- The events up to the next start of a handler. -/
def beforeNext (events : List Event) : List Event :=
  events.takeWhile fun event => event.handed?.isNone

/-- With no start among them, these are all events. -/
theorem beforeNext_eq_self {events : List Event} (h : handed events = []) :
    beforeNext events = events := by
  unfold beforeNext
  rw [List.takeWhile_eq_self_iff]
  intro event hmem
  rw [List.filterMap_eq_nil_iff.mp h event hmem]
  rfl

/-- What an event makes of a stage. -/
inductive Advance (w : Config σ) : Stage → Event → Stage → Prop
  | start (job : Job) : Advance w .free (.started job) (.running job)
  | say (job : Job) (remark : Remark) : Advance w (.running job) (.said remark) (.running job)
  | ask (job : Job) (command : Command) :
      Advance w (.running job) (.call (.command command)) (.asking job command)
  | reply (job : Job) (command : Command) (verdict : Verdict) :
      Advance w (.asking job command) (.answered command verdict) (.running job)
  | finish (job : Job) (outcome : Outcome) (hnone : w.followUp job outcome.result = none) :
      Advance w (.running job) (.ended job outcome) .free
  | owe (job : Job) (outcome : Outcome) (command : Command)
      (hsome : w.followUp job outcome.result = some command) :
      Advance w (.running job) (.ended job outcome) (.owing job command)
  | follow (job : Job) (command : Command) :
      Advance w (.owing job command) (.call (.command command)) (.settling job command)
  | settle (job : Job) (command : Command) (verdict : Verdict) :
      Advance w (.settling job command) (.answered command verdict) .free
  | other (stage : Stage) (event : Event) (hforeign : event.isForeign = true) :
      Advance w stage event stage

/-- What a list of events makes of a stage. -/
inductive Course (w : Config σ) : Stage → List Event → Stage → Prop
  | nil (a : Stage) : Course w a [] a
  | cons {a b c : Stage} {event : Event} {events : List Event} (h : Advance w a event b)
      (hrest : Course w b events c) : Course w a (event :: events) c

namespace Course

theorem split {c : Stage} {more : List Event} :
    ∀ {events : List Event} {a : Stage}, Course w a (events ++ more) c →
      ∃ b, Course w a events b ∧ Course w b more c := by
  intro events
  induction events with
  | nil => intro a h; exact ⟨a, .nil a, h⟩
  | cons event events ih =>
      intro a h
      cases h with
      | cons h hrest =>
          obtain ⟨b, hfirst, hsecond⟩ := ih hrest
          exact ⟨b, .cons h hfirst, hsecond⟩

end Course

/-! ### Histories run a course -/

/-- The stage that goes with where the executing loop stands. -/
def Post.stage : Post σ → Stage
  | .free _ => .free
  | .acting _ job _ => .running job
  | .asking _ job command _ => .asking job command
  | .owing _ job command => .owing job command
  | .settling _ job command => .settling job command

theorem stage_post (s : State σ) : s.post.stage = s.execute.stage := by
  unfold State.post
  cases s.execute <;> rfl

theorem Act.advance {p q : Post σ} {event : Event} (h : Act w p event q) :
    Advance w p.stage event q.stage := by
  cases h with
  | start memory job => exact .start job
  | say memory job remark next => exact .say job remark
  | ask memory job command next => exact .ask job command
  | reply memory job command next verdict => exact .reply job command verdict
  | finish memory memory' job outcome hnone => exact .finish job outcome hnone
  | owe memory memory' job outcome command hsome => exact .owe job outcome command hsome
  | follow memory job command => exact .follow job command
  | settle memory job command verdict => exact .settle job command verdict
  | other post event hforeign => exact .other _ event hforeign

/-- A conduct runs a course: what the handler has still to do is forgotten. -/
theorem Conduct.course {p q : Post σ} {events : List Event} (h : Conduct w p events q) :
    Course w p.stage events q.stage := by
  induction h with
  | nil p => exact .nil _
  | await _ ih => exact ih
  | cons h _ ih => exact .cons h.advance ih

/-- **The events of a history run a course**, from the stage of the state that it starts in to the
stage of the state that it leads to. -/
theorem run?_course {s₀ : State σ} (hb : Bounded w s₀) {history : List Move} {s : State σ}
    {events : List Event} (h : s₀.run? w history = some (s, events)) :
    Course w s₀.execute.stage events s.execute.stage := by
  rw [← stage_post, ← stage_post]
  exact (run?_conduct hb h).course

theorem Reaches.course {history : List Move} {s : State σ} {events : List Event}
    (h : Reaches w history s events) : Course w .free events s.execute.stage :=
  run?_course (bounded_start w) h

/-! ### What a course looks like -/

namespace Course

variable {a b c : Stage} {events : List Event}

/-- The handlers that have started are those that have ended, and the one in progress. -/
theorem handed_eq (h : Course w a events b) :
    a.inProgress?.toList ++ handed events = finished events ++ b.inProgress?.toList := by
  induction h with
  | nil a => simp
  | @cons a b c event events h _ ih =>
      cases h with
      | other _ _ hforeign =>
          obtain ⟨hhanded, hended, -⟩ := event.unread_of_isForeign hforeign
          simpa only [pick_cons, hhanded, hended, Option.toList_none, List.nil_append] using ih
      | _ => simp_all [Stage.inProgress?]

/-- By the time the loop is free again, a command that waited for its answer has got it. -/
theorem answered_of_free (h : Course w a events b) {command : Command}
    (hwaiting : a.awaited? = some command) (hfree : b = .free) :
    ∃ verdict, .answered command verdict ∈ events := by
  induction h with
  | nil a =>
      rw [hfree] at hwaiting
      cases hwaiting
  | @cons a b c event events h hrest ih =>
      cases h with
      | reply job command' verdict =>
          cases hwaiting
          exact ⟨verdict, List.mem_cons_self⟩
      | settle job command' verdict =>
          cases hwaiting
          exact ⟨verdict, List.mem_cons_self⟩
      | other _ _ hforeign =>
          obtain ⟨verdict, hmem⟩ := ih hwaiting hfree
          exact ⟨verdict, List.mem_cons_of_mem _ hmem⟩
      | _ => cases hwaiting

/-- While a command waits for its answer, nothing but events of the other loop and of the log has
come after its call. -/
theorem asked (h : Course w a events b) {command : Command} (hwaiting : b.awaited? = some command) :
    (a.awaited? = some command ∧ ∀ event ∈ events, event.isForeign = true) ∨
    ∃ before between, events = before ++ .call (.command command) :: between ∧
      ∀ event ∈ between, event.isForeign = true := by
  induction h with
  | nil a => exact Or.inl ⟨hwaiting, by simp⟩
  | @cons a b c event events h _ ih =>
      rcases ih hwaiting with ⟨hasked, hforeign⟩ | ⟨before, between, rfl, hforeign⟩
      · cases h with
        | ask job command' =>
            cases hasked
            exact Or.inr ⟨[], events, rfl, hforeign⟩
        | follow job command' =>
            cases hasked
            exact Or.inr ⟨[], events, rfl, hforeign⟩
        | other _ _ hevent => exact Or.inl ⟨hasked, by simpa [hevent] using hforeign⟩
        | _ => cases hasked
      · exact Or.inr ⟨event :: before, between, rfl, hforeign⟩

/-- With no handler in progress, the only command before the next one starts is the one that is
owed, and it is sent before the course comes to rest. -/
theorem commands_beforeNext (h : Course w a events b) (hidle : a.inProgress? = none)
    (hpaid : b.owed = []) : commands (beforeNext events) = a.owed := by
  induction h with
  | nil a => exact hpaid.symm
  | @cons a b c event events h _ ih =>
      cases h with
      | start job => rfl
      | follow job command =>
          exact congrArg (command :: ·) (ih rfl hpaid)
      | settle job command verdict => exact ih rfl hpaid
      | other _ _ hforeign =>
          obtain ⟨hhanded, -, hcommand⟩ := event.unread_of_isForeign hforeign
          rw [beforeNext, List.takeWhile_cons_of_pos (by rw [hhanded]; rfl), commands, pick_cons,
            hcommand]
          exact ih hidle hpaid
      | _ => cases hidle

end Course

end JobWorker.Worker
