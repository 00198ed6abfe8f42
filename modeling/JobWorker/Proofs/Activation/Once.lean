/-
Asking for jobs once, and giving up.

The script of a gateway is touched when an answer is taken from it, and whoever takes the answer has it
at the same look.  So a caller that ends without an answer has taken none.  What the others see is then
the same as if that caller had never been there; only the record of calls tells.
-/
import JobWorker.Activation.Attempt
import JobWorker.Proofs.Activation.Looks
import JobWorker.Proofs.Gateway.Conservation

namespace JobWorker.Activation

open Worker (requests commands grants)

/-! ### Among other callers -/

open Scripted

/-- An activation that has got no answer. -/
inductive Stage.Unheard : Stage → Prop
  | fresh : Unheard .fresh
  | asked : Unheard .asked
  | cancelled : Unheard (.ended (.error .cancelled))

theorem Stage.unheard_of_look {request : ActivateRequest} {stage : Stage} {l : Look}
    (h : (stage.look request l).1.Unheard) : stage.Unheard := by
  cases stage with
  | fresh => exact .fresh
  | asked => exact .asked
  | ended result => exact h

theorem Stage.not_unheard_of_answer (request : ActivateRequest) (answer : Grant) :
    ¬ (asked.look request ⟨false, some answer⟩).1.Unheard := by
  rw [look_asked_of_not_cancelled rfl]
  intro h
  cases answer <;> cases h

/-- A look that calls the gateway has not got the answer yet. -/
theorem Stage.look_of_calls {request : ActivateRequest} {stage : Stage} {cancelled : Bool}
    (h : stage.calls request cancelled = true) :
    (stage.look request ⟨cancelled, none⟩).1 = .asked := by
  cases stage with
  | fresh =>
      obtain ⟨hmax, hopen⟩ : request.maxJobs ≠ 0 ∧ cancelled = false := by simpa [calls] using h
      rw [look_fresh hmax hopen, look_asked_of_idle ⟨hopen, rfl⟩]
  | asked => cases h
  | ended result => cases h

namespace Attempt

/-- What the others do in a turn. -/
def Turn.act? : Turn → Option Desk.Act
  | .others act => some act
  | .look _ | .collect => none

/-- What the others do. -/
def others (turns : List Turn) : List Desk.Act := turns.filterMap Turn.act?

theorem others_append (turns more : List Turn) : others (turns ++ more) = others turns ++ others more :=
  List.filterMap_append

/-- The desk is as the others have made it, but for the record of calls. -/
def Untouched (d : Desk) (turns : List Turn) (x : Attempt) : Prop :=
  ∃ e, d.run? (others turns) = some e ∧ x.desk.Alike e ∧ x.desk.events = e.events

/-- What is kept: whoever waits for an answer has called, and whoever has got none has touched
nothing. -/
structure Kept (d : Desk) (turns : List Turn) (x : Attempt) : Prop where
  looking : x.looking = true → x.stage = .asked
  untouched : x.stage.Unheard → Untouched d turns x

variable {d : Desk} {request : ActivateRequest} {turns : List Turn} {x x' : Attempt}

theorem turn?_look_eq_some_iff {cancelled : Bool} :
    x.turn? request (.look cancelled) = some x' ↔ x.looking = false ∧ x.look request cancelled = x' := by
  simp [turn?]

theorem turn?_collect_eq_some_iff :
    x.turn? request .collect = some x' ↔ x.looking = true ∧ x.collect request = x' := by
  simp [turn?]

theorem kept_start (d : Desk) : Kept d [] (start d) :=
  ⟨fun h => absurd h Bool.false_ne_true, fun _ => ⟨d, rfl, .refl d, rfl⟩⟩

theorem Untouched.others {act : Desk.Act} {desk : Desk} (h : Untouched d turns x)
    (hact : x.desk.act? act = some desk) :
    Untouched d (turns ++ [.others act]) { x with desk } := by
  obtain ⟨e, hrun, halike, hevents⟩ := h
  obtain ⟨e', more, hact', halike', hmore, hmore'⟩ := halike.act hact
  refine ⟨e', ?_, halike', ?_⟩
  · rw [others_append]
    exact Desk.run?_append_eq_some_iff.2 ⟨e, hrun, Desk.run?_cons_eq_some_iff.2 ⟨e', hact', rfl⟩⟩
  · rw [hmore, hmore', hevents]

theorem untouched_look (h : Untouched d turns x) (cancelled : Bool) :
    Untouched d (turns ++ [.look cancelled]) (x.look request cancelled) := by
  obtain ⟨e, hrun, ⟨hgateway, hwaiting⟩, hevents⟩ := h
  refine ⟨e, ?_, ?_, ?_⟩
  · rw [others_append, show others [.look cancelled] = [] from rfl, List.append_nil, hrun]
  · unfold look
    obtain ⟨calls, hcalls⟩ := hgateway
    split
    · exact ⟨⟨calls, hcalls⟩, hwaiting⟩
    · exact ⟨⟨calls, hcalls⟩, hwaiting⟩
  · unfold look
    split <;> exact hevents

theorem Kept.turn {turn : Turn} (h : Kept d turns x) (hturn : x.turn? request turn = some x') :
    Kept d (turns ++ [turn]) x' := by
  cases turn with
  | others act =>
      obtain ⟨desk, hact, rfl⟩ := Option.map_eq_some_iff.1 hturn
      exact ⟨h.looking, fun hunheard => (h.untouched hunheard).others hact⟩
  | look cancelled =>
      obtain ⟨hlooking, rfl⟩ := turn?_look_eq_some_iff.1 hturn
      refine ⟨?_, fun hunheard => untouched_look (h.untouched ?_) cancelled⟩
      · unfold look
        split
        · next hcalls => exact fun _ => Stage.look_of_calls hcalls
        · exact fun hlooking' => absurd hlooking' (by simp [hlooking])
      · unfold look at hunheard
        split at hunheard <;> exact Stage.unheard_of_look hunheard
  | collect =>
      obtain ⟨hlooking, rfl⟩ := turn?_collect_eq_some_iff.1 hturn
      refine ⟨fun hnot => absurd hnot Bool.false_ne_true, fun hunheard => ?_⟩
      -- The answer that is taken ends the activation.
      rw [collect, h.looking hlooking] at hunheard
      exact absurd hunheard (Stage.not_unheard_of_answer request _)

theorem kept_of_run (h : (start d).run? request turns = some x) : Kept d turns x :=
  foldlM_induction (motive := Kept d) (kept_start d) (fun hkept hturn => hkept.turn hturn) h

/-- A caller that is alone and gives up at a known moment gets what it gets without any turns. -/
theorem exists_run?_run (d : Desk) (request : ActivateRequest) (cancellation : Cancellation) :
    ∃ turns x, (start d).run? request turns = some x ∧ others turns = [] ∧
      x.desk.gateway = (run request cancellation d.gateway).1 ∧
      x.stage.result? = (run request cancellation d.gateway).2.2 := by
  by_cases hdone : request.maxJobs = 0 ∨ cancellation = .before
  · refine ⟨[.look (cancellation = .before)], _, rfl, rfl, ?_⟩
    by_cases hmax : request.maxJobs = 0
    · simp [start, look, Stage.look, Stage.calls, run, hmax, Stage.result?]
    · have hbefore := hdone.resolve_left hmax
      simp [start, look, Stage.look, Stage.calls, run, hmax, hbefore, Stage.result?]
  · obtain ⟨hmax, hbefore⟩ := not_or.1 hdone
    by_cases hholding : d.gateway.holding = true
    · have hanswer := activate_of_holding hholding request
      by_cases hpending : cancellation = .pending
      · refine ⟨[.look false, .look true], ((start d).look request false).look request true,
          ?_, rfl, ?_⟩
        · simp [run?, turn?, start, look, Stage.look, Stage.calls, Stage.hear, hmax, hholding]
        · simp [start, look, Stage.look, Stage.calls, Stage.hear, run, hmax, hanswer, hpending,
            Stage.result?]
      · refine ⟨[.look false], _, rfl, rfl, ?_⟩
        simp [start, look, Stage.look, Stage.calls, Stage.hear, run, hmax, hanswer, hbefore, hpending,
          Stage.result?]
    · have hanswer := activate_of_answering (by simpa using hholding) request
      refine ⟨[.look false, .collect], ((start d).look request false).collect request, ?_, rfl, ?_⟩
      · simp [run?, turn?, start, look, Stage.look, Stage.calls, Stage.hear, hmax, hholding]
      · simp [start, look, collect, Stage.look, Stage.calls, Stage.hear, run, hmax, hanswer, hbefore,
          Stage.result?, Scripted.record]

end Attempt

/-- What is known of a single activation. -/
structure Single (request : ActivateRequest) : Prop where
  /-- Nobody is asked for no jobs, whether or not the caller has given up. -/
  noneWanted : request.maxJobs = 0 → ∀ (l : Look) (looks : List Look),
    Stage.fresh.follow request (l :: looks) = (.ended (.ok []), [])
  /-- A caller that has given up beforehand asks nobody, though an answer might be there. -/
  givenUp : request.maxJobs ≠ 0 → ∀ (answer : Option Grant) (looks : List Look),
    Stage.fresh.follow request (⟨true, answer⟩ :: looks) = (.ended (.error .cancelled), [])
  /-- Every other caller makes this request once, and the first look that sees anything decides. -/
  asked : request.maxJobs ≠ 0 → ∀ (answer : Option Grant) (looks : List Look),
    requests (Stage.fresh.follow request (⟨false, answer⟩ :: looks)).2 = [request] ∧
    commands (Stage.fresh.follow request (⟨false, answer⟩ :: looks)).2 = [] ∧
    ∀ r, (Stage.fresh.follow request (⟨false, answer⟩ :: looks)).1.result? = r ↔
      Comes request (⟨false, answer⟩ :: looks) r
  /-- A gateway that is asked at a known moment is asked in this way. -/
  run : ∀ {γ : Type} [Gateway γ] (cancellation : Cancellation) (g : γ),
    Activation.run request cancellation g =
      (if request.maxJobs = 0 ∨ cancellation = .before then g else (Gateway.activate g request).1,
        (Stage.fresh.follow request (cancellation.looks (Gateway.activate g request).2)).2,
        (Stage.fresh.follow request
          (cancellation.looks (Gateway.activate g request).2)).1.result?)
  /-- Whatever other callers do meanwhile, a caller that ends as cancelled leaves the desk as they
  would have made it alone, but for the record of calls. -/
  untouched : ∀ {d : Desk} {turns : List Attempt.Turn} {x : Attempt},
    (Attempt.start d).run? request turns = some x → x.stage = .ended (.error .cancelled) →
      ∃ calls, d.run? (Attempt.others turns) =
        some { x.desk with gateway := { x.desk.gateway with calls } }
  /-- So no job is lost to it: all that were pushed are granted to others or still there. -/
  lossless : ∀ {acts : List Desk.Act} {d : Desk} {turns : List Attempt.Turn} {x : Attempt},
    Desk.blank.run? acts = some d → (Attempt.start d).run? request turns = some x →
      x.stage = .ended (.error .cancelled) →
        (grants x.desk.events).flatMap granted ++ x.desk.gateway.pending =
          (Desk.pushed (acts ++ Attempt.others turns)).flatMap Entry.jobs
  /-- A caller that is alone at the desk is one that gives up at a known moment. -/
  alone : ∀ (d : Desk) (cancellation : Cancellation),
    ∃ turns x, (Attempt.start d).run? request turns = some x ∧ Attempt.others turns = [] ∧
      x.desk.gateway = (Activation.run request cancellation d.gateway).1 ∧
      x.stage.result? = (Activation.run request cancellation d.gateway).2.2

/--
**One activation.**  An activation for no jobs is over at the first look and brings none.  Any other
ends as cancelled without a call if its caller has given up before, and makes one call if not.  It then
comes to the error of the gateway, to the first of the granted jobs, as many as were asked for, or to a
cancellation, as the first look has it at which there is anything to be seen.  At a gateway with a script
a cancelled activation has taken nothing.
-/
theorem single_activation (request : ActivateRequest) : Single request := by
  have huntouched : ∀ {d : Desk} {turns : List Attempt.Turn} {x : Attempt},
      (Attempt.start d).run? request turns = some x → x.stage = .ended (.error .cancelled) →
        Attempt.Untouched d turns x := by
    intro d turns x hrun hstage
    refine (Attempt.kept_of_run hrun).untouched ?_
    rw [hstage]
    exact .cancelled
  refine ⟨?_, ?_, ?_, run_eq request, ?_, ?_, fun d => Attempt.exists_run?_run d request⟩
  · intro hmax l looks
    rw [Stage.follow_cons, Stage.look, if_pos hmax, Stage.follow_ended, List.append_nil]
  · intro hmax answer looks
    rw [Stage.follow_cons, Stage.look, if_neg hmax, if_pos rfl, Stage.follow_ended, List.append_nil]
  · intro hmax answer looks
    obtain ⟨hrequests, hcommands⟩ := Stage.not_called_of_asked request (⟨false, answer⟩ :: looks)
    rw [Stage.follow_fresh hmax rfl]
    refine ⟨?_, ?_, fun r => Stage.result?_follow_asked⟩
    · exact congrArg (request :: ·) hrequests
    · exact hcommands
  · intro d turns x hrun hstage
    obtain ⟨e, hothers, halike, hevents⟩ := huntouched hrun hstage
    obtain ⟨calls, rfl⟩ := halike.exists_calls hevents
    exact ⟨calls, hothers⟩
  · intro acts d turns x hacts hrun hstage
    obtain ⟨e, hothers, ⟨hgateway, -⟩, hevents⟩ := huntouched hrun hstage
    have hjobs := (Desk.kept_of_run (Desk.run?_append_eq_some_iff.2 ⟨d, hacts, hothers⟩)).jobs
    rwa [hgateway.pending, ← hevents] at hjobs

/-- A caller looks, a batch is pushed, and then the caller gives up. -/
def impatience : List Attempt.Turn :=
  [.look false, .others (.push (.batch [Worker.sampleJob 3])), .look true]

theorem single_activation_impatience :
    ∃ d x, Desk.blank.run? [.push (.batch [Worker.sampleJob 1, Worker.sampleJob 2]), .hold] = some d ∧
      (Attempt.start d).run? ⟨"email", "w", 1, 2, []⟩ impatience = some x ∧
      x.stage = .ended (.error .cancelled) ∧ x.desk.gateway.calls.length = 1 ∧
      x.desk.gateway.pending.length = 3 ∧
      ∃ calls, d.run? (Attempt.others impatience) =
        some { x.desk with gateway := { x.desk.gateway with calls } } :=
  ⟨_, _, rfl, rfl, rfl, rfl, rfl, (single_activation ⟨"email", "w", 1, 2, []⟩).untouched rfl rfl⟩

end JobWorker.Activation
