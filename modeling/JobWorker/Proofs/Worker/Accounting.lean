/-
What a worker does about a job when its handler has ended.

A job is completed or failed by the worker, or left alone, according to how the handler ended and to
whether jobs are completed automatically.  `Owes` is the rule, written down once more as a table.
That it holds of every handler in every history follows from the course of jobs: the worker's own
command is the only one between the end of a handler and the start of the next, and it has been
answered by then.

The answer itself goes to the log and nowhere else; this is no matter of courses, but of the single
move that takes it.
-/
import JobWorker.Proofs.Worker.Course

namespace JobWorker.Worker

variable {σ : Type} {w : Config σ}

/-- What a job is failed with. -/
def failureText (worker jobType cause : String) : String :=
  "Job worker '" ++ worker ++ "' tried to handle job of type '" ++ jobType ++
    "', but exception occurred '" ++ cause ++ "'"

/-- What the worker has to do about a job, by the way in which the handler ended. -/
inductive Owes (w : Config σ) (job : Job) : Outcome → List Command → Prop
  | failed (causes : List String) (retries : Int32)
      (hretries : retries.toInt = max (job.retries.toInt - 1) 0) :
      Owes w job (.failed causes)
        [.fail ⟨job.key, retries,
          failureText w.request.worker job.type (": ".intercalate causes)⟩]
  | panicked (text : Option String) (retries : Int32)
      (hretries : retries.toInt = max (job.retries.toInt - 1) 0) :
      Owes w job (.panicked text)
        [.fail ⟨job.key, retries, failureText w.request.worker job.type
          ("handler panicked: " ++ text.getD "unknown panic payload")⟩]
  | resolved (receipt : Receipt) (hkey : receipt.key = job.key) :
      Owes w job (.returned (.resolved receipt)) []
  | foreign (receipt : Receipt) (hkey : receipt.key ≠ job.key) :
      Owes w job (.returned (.resolved receipt))
        (if w.autoComplete then [.complete ⟨job.key, none⟩] else [])
  | unresolved :
      Owes w job (.returned .unresolved)
        (if w.autoComplete then [.complete ⟨job.key, none⟩] else [])

/-- One retry fewer, but never fewer than none. -/
theorem toInt_retriesLeft (job : Job) :
    job.retriesLeft.toInt = max (job.retries.toInt - 1) 0 := by
  unfold Job.retriesLeft
  have hlow := job.retries.le_toInt
  have hhigh := job.retries.toInt_lt
  split
  · rename_i hpos
    have hpos : 0 < job.retries.toInt := Int32.lt_iff_toInt_lt.mp hpos
    have hrange : (job.retries.toInt - 1).bmod (2 ^ 32) = job.retries.toInt - 1 :=
      Int.bmod_eq_of_le (by omega) (by omega)
    rw [Int32.toInt_sub, show (1 : Int32).toInt = 1 from rfl, hrange]
    omega
  · rename_i hneg
    have hneg : ¬ 0 < job.retries.toInt := fun hpos => hneg (Int32.lt_iff_toInt_lt.mpr hpos)
    rw [show (0 : Int32).toInt = 0 from rfl]
    omega

/-- A job that is not resolved is completed, if jobs are completed automatically. -/
theorem followUp_of_unresolved (w : Config σ) (job : Job) {resolution : Resolution}
    (h : resolution.resolves job.key = false) :
    (w.followUp job (.ok resolution)).toList
      = if w.autoComplete then [.complete ⟨job.key, none⟩] else [] := by
  simp only [Config.followUp, h]
  cases w.autoComplete <;> rfl

theorem owes_followUp (w : Config σ) (job : Job) (outcome : Outcome) :
    Owes w job outcome (w.followUp job outcome.result).toList := by
  cases outcome with
  | failed causes => exact .failed causes job.retriesLeft (toInt_retriesLeft job)
  | panicked text => exact .panicked text job.retriesLeft (toInt_retriesLeft job)
  | returned resolution =>
      cases resolution with
      | resolved receipt =>
          by_cases hkey : receipt.key = job.key
          · have hnone : w.followUp job (.ok (.resolved receipt)) = none := by
              simp [Config.followUp, Resolution.resolves, hkey]
            rw [Outcome.result, hnone]
            exact .resolved receipt hkey
          · rw [Outcome.result, followUp_of_unresolved w job (by simp [Resolution.resolves, hkey])]
            exact .foreign receipt hkey
      | unresolved =>
          rw [Outcome.result, followUp_of_unresolved w job rfl]
          exact .unresolved

/-! ### From the end of a handler to the next start -/

/-- The stage after the end of a handler is the one in which the worker owes its own command. -/
theorem Advance.owed {a b : Stage} {job : Job} {outcome : Outcome}
    (h : Advance w a (.ended job outcome) b) :
    b.inProgress? = none ∧ b.owed = (w.followUp job outcome.result).toList := by
  cases h with
  | finish _ _ hnone => exact ⟨rfl, by rw [hnone]; rfl⟩
  | owe _ _ command hsome => exact ⟨rfl, by rw [hsome]; rfl⟩
  | other _ _ hforeign => cases hforeign

/-- Only a handler that is in progress can end. -/
theorem Course.inProgress_of_ended {a b : Stage} {job : Job} {outcome : Outcome}
    {after : List Event} (h : Course w a (.ended job outcome :: after) b) :
    a.inProgress? = some job := by
  cases h with
  | cons hend _ =>
      cases hend with
      | finish => rfl
      | owe => rfl
      | other _ _ hforeign => cases hforeign

/-- The commands up to the next start of a handler are those that the worker owes. -/
theorem Course.owes {a b : Stage} {before after : List Event} {job : Job} {outcome : Outcome}
    (h : Course w a (before ++ .ended job outcome :: after) b) (hpaid : b.owed = []) :
    Owes w job outcome (commands (beforeNext after)) := by
  obtain ⟨c, -, hrest⟩ := h.split
  cases hrest with
  | cons hend hafter =>
      obtain ⟨hidle, howed⟩ := hend.owed
      rw [hafter.commands_beforeNext hidle hpaid, howed]
      exact owes_followUp w job outcome

theorem Advance.awaits {a b : Stage} {command : Command}
    (h : Advance w a (.call (.command command)) b) : b.awaited? = some command := by
  cases h with
  | ask => rfl
  | follow => rfl
  | other _ _ hforeign => cases hforeign

theorem Advance.free_of_started {a b : Stage} {job : Job} (h : Advance w a (.started job) b) :
    a = .free := by
  cases h with
  | start => rfl
  | other _ _ hforeign => cases hforeign

/-- The answer to the worker's own command decides nothing but what is written to the log. -/
theorem run?_verdict {s t : State σ} {job : Job} {command : Command}
    (hfollowing : s.execute = .following job command) (verdict verdict' : Verdict)
    {after : List Move} {more : List Event}
    (h : s.run? w (.verdict verdict :: after) = some (t, more)) :
    ∃ rest,
      more = .answered command verdict ::
        (Event.ofNotices (w.remarksOnVerdict command verdict) ++ rest) ∧
      s.run? w (.verdict verdict' :: after) = some (t, .answered command verdict' ::
        (Event.ofNotices (w.remarksOnVerdict command verdict') ++ rest)) := by
  have hmove : ∀ v : Verdict, s.move? w (.verdict v) = some ({ s with execute := .idle },
      .answered command v :: Event.ofNotices (w.remarksOnVerdict command v)) := by
    intro v
    simp [State.move?, hfollowing, State.answered]
  obtain ⟨t', events, rest, hfirst, hrest, rfl⟩ := run?_cons_eq_some_iff.mp h
  rw [hmove] at hfirst
  cases hfirst
  exact ⟨rest, rfl, run?_cons_eq_some_iff.mpr ⟨_, _, rest, hmove verdict', hrest, rfl⟩⟩

/--
**Accounting.**  At every point of a history, at most one handler is in progress, and it is the last
that has started.  When the handler of a job ends, the commands up to the next start of a handler
are exactly those that the worker owes.  No handler starts while a command waits for its answer.
And the answer to the worker's own command makes no difference to anything that follows: with any
other answer the rest of the history is possible as well, leads to the same state and brings the
same events, after another entry in the log.
-/
theorem accounting {history : List Move} {s : State σ} {events : List Event}
    (h : Reaches w history s events) :
    (∀ seen, seen <+: events →
      ∃ inProgress : Option Job, handed seen = finished seen ++ inProgress.toList) ∧
    (∀ before job outcome after, events = before ++ .ended job outcome :: after →
      handed before = finished before ++ [job] ∧
      Owes w job outcome (commands (beforeNext after))) ∧
    (∀ before command between job after,
      events = before ++ .call (.command command) :: (between ++ .started job :: after) →
        ∃ verdict, .answered command verdict ∈ between) ∧
    (∀ job command, s.execute = .following job command →
      ∀ (verdict verdict' : Verdict) (after : List Move) (t : State σ) (more : List Event),
        s.run? w (.verdict verdict :: after) = some (t, more) →
          ∃ rest,
            more = .answered command verdict ::
              (Event.ofNotices (w.remarksOnVerdict command verdict) ++ rest) ∧
            s.run? w (.verdict verdict' :: after) = some (t, .answered command verdict' ::
              (Event.ofNotices (w.remarksOnVerdict command verdict') ++ rest))) := by
  have hcourse := h.course
  refine ⟨?_, ?_, ?_, fun job command hfollowing verdict verdict' after t more =>
    run?_verdict hfollowing verdict verdict'⟩
  · rintro seen ⟨rest, rfl⟩
    obtain ⟨stage, hseen, -⟩ := hcourse.split
    exact ⟨stage.inProgress?, by simpa [Stage.inProgress?] using hseen.handed_eq⟩
  · rintro before job outcome after rfl
    refine ⟨?_, hcourse.owes s.execute.owed_stage⟩
    obtain ⟨a, hbefore, hend⟩ := hcourse.split
    have hhanded := hbefore.handed_eq
    rw [hend.inProgress_of_ended] at hhanded
    exact hhanded
  · rintro before command between job after rfl
    obtain ⟨a, -, hcall⟩ := hcourse.split
    cases hcall with
    | @cons _ b _ _ _ hcall hbetween =>
        obtain ⟨c, hbetween, hstart⟩ := hbetween.split
        cases hstart with
        | cons hstart _ => exact hbetween.answered_of_free hcall.awaits hstart.free_of_started

/-- The command of a handler is refused, the handler fails, and so does the command of the worker;
the next handler gets its command through. -/
def allRefused : List Move :=
  [.first, .grant (.ok [sampleJob 1, sampleJob 2]), .takeUp, .verdict (.error refusal), .letGo,
    .verdict (.error refusal), .takeUp, .verdict (.ok ())]

theorem accounting_allRefused :
    ∃ s events, Reaches sample allRefused s events ∧
      finished events = [sampleJob 1, sampleJob 2] ∧ (commands events).length = 3 ∧
      ∀ before job outcome after, events = before ++ .ended job outcome :: after →
        handed before = finished before ++ [job] ∧
        Owes sample job outcome (commands (beforeNext after)) := by
  refine ⟨_, _, rfl, rfl, rfl, ?_⟩
  exact (accounting (show Reaches sample allRefused _ _ from rfl)).2.1

end JobWorker.Worker
