/-
Looking at an activation again and again.

A caller who has been told to wait looks at its activation from time to time.  Looks at which there is
nothing to be seen leave it as it is, and the first look at which there is anything ends it.  So all
depends on that one look: `Comes` says what it makes of what it sees, and nothing behind it counts.

A caller that gives up at a known moment is a short row of such looks.
-/
import JobWorker.Activation.Looks
import JobWorker.Proofs.Worker.Record

namespace JobWorker.Activation

open Worker (requests commands)

/-! ### Looking again and again -/

/-- There is nothing to be seen. -/
def Look.Idle (l : Look) : Prop := l.cancelled = false ∧ l.answer = none

/-- What an activation comes to once its gateway has been called. -/
inductive Comes (request : ActivateRequest) (looks : List Look) : Option Result → Prop
  | waiting (hidle : ∀ l ∈ looks, l.Idle) : Comes request looks none
  /-- The caller has given up, and it does not matter whether there is an answer as well. -/
  | cancelled {idle rest : List Look} {answer : Option Grant} (hidle : ∀ l ∈ idle, l.Idle)
      (hlooks : looks = idle ++ ⟨true, answer⟩ :: rest) :
      Comes request looks (some (.error .cancelled))
  | refused {idle rest : List Look} {e : GatewayError} (hidle : ∀ l ∈ idle, l.Idle)
      (hlooks : looks = idle ++ ⟨false, some (.error e)⟩ :: rest) :
      Comes request looks (some (.error (.gateway e)))
  | granted {idle rest : List Look} {jobs : List Job} (hidle : ∀ l ∈ idle, l.Idle)
      (hlooks : looks = idle ++ ⟨false, some (.ok jobs)⟩ :: rest) :
      Comes request looks (some (.ok (jobs.take (min request.maxJobs.toNat jobs.length))))

theorem accept_eq (request : ActivateRequest) (jobs : List Job) :
    accept request jobs = jobs.take (min request.maxJobs.toNat jobs.length) :=
  List.take_eq_take_min

namespace Stage

variable {request : ActivateRequest} {stage : Stage} {l : Look} {looks idle rest : List Look}

theorem follow_cons (request : ActivateRequest) (stage : Stage) (l : Look) (looks : List Look) :
    stage.follow request (l :: looks) =
      (((stage.look request l).1.follow request looks).1,
        (stage.look request l).2 ++ ((stage.look request l).1.follow request looks).2) := rfl

/-- What has ended stays as it is. -/
theorem follow_ended (request : ActivateRequest) (result : Result) (looks : List Look) :
    (ended result).follow request looks = (ended result, []) := by
  induction looks with
  | nil => rfl
  | cons l looks ih =>
      rw [follow_cons]
      show (((ended result).follow request looks).1, [] ++ ((ended result).follow request looks).2) = _
      rw [ih]
      rfl

theorem look_asked_of_cancelled (hcancelled : l.cancelled = true) :
    asked.look request l = (ended (.error .cancelled), []) :=
  if_pos hcancelled

theorem look_asked_of_not_cancelled (hopen : l.cancelled = false) :
    asked.look request l = hear request l.answer := by
  rw [look, if_neg (by simp [hopen])]

theorem look_asked_of_idle (h : l.Idle) : asked.look request l = (asked, []) := by
  rw [look_asked_of_not_cancelled h.1, h.2]
  rfl

/-- The look that calls the gateway goes on as any other look does. -/
theorem look_fresh (hmax : request.maxJobs ≠ 0) (hopen : l.cancelled = false) :
    fresh.look request l =
      ((asked.look request l).1, .call (.activate request) :: (asked.look request l).2) := by
  rw [look_asked_of_not_cancelled hopen, look, if_neg hmax, if_neg (by simp [hopen])]

theorem follow_fresh (hmax : request.maxJobs ≠ 0) (hopen : l.cancelled = false)
    (looks : List Look) :
    fresh.follow request (l :: looks) =
      ((asked.follow request (l :: looks)).1,
        .call (.activate request) :: (asked.follow request (l :: looks)).2) := by
  rw [follow_cons, look_fresh hmax hopen, follow_cons, List.cons_append]

/-- Looks at which there is nothing to be seen make no difference. -/
theorem follow_asked_of_idle (hidle : ∀ l ∈ idle, l.Idle) :
    asked.follow request (idle ++ rest) = asked.follow request rest := by
  induction idle with
  | nil => rfl
  | cons l idle ih =>
      obtain ⟨hl, hidle⟩ := List.forall_mem_cons.1 hidle
      rw [List.cons_append, follow_cons, look_asked_of_idle hl, ih hidle]
      rfl

/-- The first look at which there is anything to be seen decides. -/
theorem follow_asked_of_seen (hidle : ∀ l ∈ idle, l.Idle) {result : Result} {events : List Event}
    (hseen : asked.look request l = (ended result, events)) :
    asked.follow request (idle ++ l :: rest) = (ended result, events) := by
  rw [follow_asked_of_idle hidle, follow_cons, hseen, follow_ended, List.append_nil]

theorem follow_asked_of_comes {r : Option Result} (h : Comes request looks r) :
    (asked.follow request looks).1.result? = r := by
  cases h with
  | waiting hidle =>
      rw [← List.append_nil looks, follow_asked_of_idle hidle]
      rfl
  | cancelled hidle hlooks =>
      rw [hlooks, follow_asked_of_seen hidle (look_asked_of_cancelled rfl)]
      rfl
  | refused hidle hlooks =>
      rw [hlooks, follow_asked_of_seen hidle (look_asked_of_not_cancelled rfl)]
      rfl
  | @granted idle rest jobs hidle hlooks =>
      rw [hlooks, follow_asked_of_seen hidle (look_asked_of_not_cancelled rfl), ← accept_eq]
      rfl

/-- A look at which there is nothing to be seen can come first. -/
theorem comes_cons_of_idle {r : Option Result} (hl : l.Idle) (h : Comes request looks r) :
    Comes request (l :: looks) r := by
  cases h with
  | waiting hidle => exact .waiting (List.forall_mem_cons.2 ⟨hl, hidle⟩)
  | cancelled hidle hlooks =>
      exact .cancelled (List.forall_mem_cons.2 ⟨hl, hidle⟩) (congrArg (l :: ·) hlooks)
  | refused hidle hlooks =>
      exact .refused (List.forall_mem_cons.2 ⟨hl, hidle⟩) (congrArg (l :: ·) hlooks)
  | granted hidle hlooks =>
      exact .granted (List.forall_mem_cons.2 ⟨hl, hidle⟩) (congrArg (l :: ·) hlooks)

/-- Every row of looks comes to something. -/
theorem exists_comes (request : ActivateRequest) (looks : List Look) : ∃ r, Comes request looks r := by
  induction looks with
  | nil => exact ⟨none, .waiting (by simp)⟩
  | cons l looks ih =>
      have hnone : ∀ l ∈ ([] : List Look), l.Idle := by simp
      match l with
      | ⟨true, answer⟩ => exact ⟨_, .cancelled hnone rfl⟩
      | ⟨false, some (.error e)⟩ => exact ⟨_, .refused hnone rfl⟩
      | ⟨false, some (.ok jobs)⟩ => exact ⟨_, .granted hnone rfl⟩
      | ⟨false, none⟩ =>
          obtain ⟨r, hr⟩ := ih
          exact ⟨r, comes_cons_of_idle ⟨rfl, rfl⟩ hr⟩

theorem result?_follow_asked {r : Option Result} :
    (asked.follow request looks).1.result? = r ↔ Comes request looks r := by
  constructor
  · intro h
    obtain ⟨r', hr'⟩ := exists_comes request looks
    rwa [← h, follow_asked_of_comes hr']
  · exact follow_asked_of_comes

/-- A gateway that has been called is not called again. -/
theorem not_called_of_asked (request : ActivateRequest) (looks : List Look) :
    requests (asked.follow request looks).2 = [] ∧ commands (asked.follow request looks).2 = [] := by
  induction looks with
  | nil => exact ⟨rfl, rfl⟩
  | cons l looks ih =>
      rw [follow_cons]
      by_cases hcancelled : l.cancelled = true
      · rw [look_asked_of_cancelled hcancelled, follow_ended]
        exact ⟨rfl, rfl⟩
      · rw [look_asked_of_not_cancelled (by simpa using hcancelled)]
        cases l.answer with
        | none => exact ih
        | some answer =>
            rw [hear, follow_ended, List.append_nil]
            cases answer <;> simp [conclude]

end Stage

/-! ### Callers that give up at a known moment -/

/-- What a caller sees that gives up before it looks, after its first look, or never. -/
def Cancellation.looks (answer : Option Grant) : Cancellation → List Look
  | .never => [⟨false, answer⟩]
  | .before => [⟨true, answer⟩]
  | .pending => [⟨false, answer⟩, ⟨true, answer⟩]

/-- Such an activation is what its looks come to, at a gateway that is called at most once. -/
theorem run_eq {γ : Type} [Gateway γ] (request : ActivateRequest) (cancellation : Cancellation)
    (g : γ) :
    run request cancellation g =
      (if request.maxJobs = 0 ∨ cancellation = .before then g else (Gateway.activate g request).1,
        (Stage.fresh.follow request (cancellation.looks (Gateway.activate g request).2)).2,
        (Stage.fresh.follow request
          (cancellation.looks (Gateway.activate g request).2)).1.result?) := by
  by_cases hmax : request.maxJobs = 0
  · cases cancellation <;>
      simp [run, hmax, Cancellation.looks, Stage.follow, Stage.look, Stage.result?]
  · rcases hactivate : Gateway.activate g request with ⟨g', _ | answer⟩ <;>
      cases cancellation <;>
        simp [run, hmax, hactivate, Cancellation.looks, Stage.follow, Stage.look, Stage.hear,
          Stage.result?]

end JobWorker.Activation
