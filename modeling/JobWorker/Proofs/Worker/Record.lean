/-
Reading what has happened off the events.

A reader picks one kind of event out of a list and keeps the order.  Statements about whole
histories are equations between such readings, so all that is needed of a step is what each reader
finds in its events.  Most readers pass over what a handler says and does between two points where
it waits; `Stretch.pick_eq_nil` says so for all of them at once.

About half of the moves do not concern the queue.  `Aside` says what these have in common, so that an
invariant of the acquiring loop has one case for them and not six.
-/
import JobWorker.Proofs.Worker.History

namespace JobWorker

namespace Event

/-- The request for jobs that is made. -/
@[simp] def request? : Event → Option ActivateRequest
  | .call (.activate request) => some request
  | _ => none

/-- The answer to a request for jobs. -/
@[simp] def grant? : Event → Option Grant
  | .granted answer => some answer
  | _ => none

/-- The job that is handed to the handler. -/
@[simp] def handed? : Event → Option Job
  | .started job => some job
  | _ => none

/-- The job whose handler has ended. -/
@[simp] def ended? : Event → Option Job
  | .ended job _ => some job
  | _ => none

/-- The command that is sent. -/
@[simp] def command? : Event → Option Command
  | .call (.command command) => some command
  | _ => none

/-- What is written to the log. -/
@[simp] def notice? : Event → Option Notice
  | .noticed notice => some notice
  | _ => none

/-- Whether an event is none of the executing loop. -/
def isForeign : Event → Bool
  | .call (.activate _) | .granted _ | .noticed _ => true
  | .call (.command _) | .answered .. | .started _ | .ended .. | .said _ => false

theorem unread_of_isForeign (e : Event) (h : e.isForeign = true) :
    e.handed? = none ∧ e.ended? = none ∧ e.command? = none := by
  unfold isForeign at h
  split at h <;> simp_all

end Event

/-- Whether a notice is about an activation or about a job, and not about the worker itself, its
settings or a queue that is full. -/
def Notice.ofWork : Notice → Bool
  | .activationFailed .. | .surplusDropped .. | .foreignReceipt .. | .autoCompletionFailed ..
  | .handlerFailed .. | .failingFailed .. => true
  | .opened .. | .closed .. | .jobDropped _ | .zeroDuration .. | .invalidDuration .. => false

namespace Worker

/-- What a reader finds in a list of events. -/
def pick {α : Type} (f : Event → Option α) (events : List Event) : List α := events.filterMap f

/-- The requests for jobs that are made, in order. -/
abbrev requests : List Event → List ActivateRequest := pick Event.request?

/-- The answers to requests for jobs, in order. -/
abbrev grants : List Event → List Grant := pick Event.grant?

/-- The jobs that are handed to the handler, in order. -/
abbrev handed : List Event → List Job := pick Event.handed?

/-- The jobs whose handlers have ended, in order. -/
abbrev finished : List Event → List Job := pick Event.ended?

/-- The commands that are sent, in order. -/
abbrev commands : List Event → List Command := pick Event.command?

/-- What is written to the log. -/
abbrev log : List Event → List Notice := pick Event.notice?

section

variable {α : Type} {f : Event → Option α}

@[simp] theorem pick_nil : pick f [] = [] := rfl

@[simp] theorem pick_cons (e : Event) (events : List Event) :
    pick f (e :: events) = (f e).toList ++ pick f events := by
  unfold pick
  cases h : f e with
  | none => simp [h]
  | some a => simp [h]

@[simp] theorem pick_append (events more : List Event) :
    pick f (events ++ more) = pick f events ++ pick f more :=
  List.filterMap_append

@[simp] theorem pick_map {β : Type} (g : β → Event) (l : List β) :
    pick f (l.map g) = l.filterMap fun b => f (g b) :=
  List.filterMap_map

@[simp] theorem pick_ofNotices (notices : List Notice) :
    pick f (Event.ofNotices notices) = notices.filterMap fun notice => f (.noticed notice) :=
  pick_map _ notices

/-- A reader loses nothing when events are left out in which it finds nothing. -/
theorem pick_filter {p : Event → Bool} (hskip : ∀ e, p e = false → f e = none)
    (events : List Event) : pick f (events.filter p) = pick f events := by
  induction events with
  | nil => rfl
  | cons e events ih =>
      cases he : p e with
      | true => simp [he, ih]
      | false => simp [he, hskip e he, ih]

/-- A reader of nothing that handlers do finds nothing between two points where one waits. -/
theorem Stretch.pick_eq_nil {σ : Type} {w : Config σ} {job : Job} {s s' : State σ}
    {events : List Event} (h : Stretch w job s s' events)
    (hsaid : ∀ remark, f (.said remark) = none) (hnoticed : ∀ notice, f (.noticed notice) = none)
    (hended : ∀ job outcome, f (.ended job outcome) = none)
    (hcall : ∀ command, f (.call (.command command)) = none) : pick f events = [] := by
  cases h with
  | blocked remarks next => simp [hsaid]
  | sending remarks command next => simp [hsaid, hcall]
  | settled remarks memory outcome hnone => simp [hsaid, hnoticed, hended]
  | following remarks memory outcome command hsome => simp [hsaid, hnoticed, hended, hcall]

end

/-! ### What is read between two points where a handler waits -/

section

variable {σ : Type} {w : Config σ} {job : Job} {s s' : State σ} {events : List Event}

theorem Stretch.requests_eq_nil (h : Stretch w job s s' events) : requests events = [] :=
  h.pick_eq_nil (by simp) (by simp) (by simp) (by simp)

theorem Stretch.grants_eq_nil (h : Stretch w job s s' events) : grants events = [] :=
  h.pick_eq_nil (by simp) (by simp) (by simp) (by simp)

theorem Stretch.handed_eq_nil (h : Stretch w job s s' events) : handed events = [] :=
  h.pick_eq_nil (by simp) (by simp) (by simp) (by simp)

/-- Only when its handler ends is something written about a job. -/
theorem Stretch.log_eq (h : Stretch w job s s' events) :
    log events = [] ∨ ∃ outcome : Outcome, log events = w.remarksOn job outcome.result := by
  cases h with
  | blocked remarks next => exact Or.inl (by simp)
  | sending remarks command next => exact Or.inl (by simp)
  | settled remarks memory outcome hnone => exact Or.inr ⟨outcome, by simp⟩
  | following remarks memory outcome command hsome => exact Or.inr ⟨outcome, by simp⟩

end

/-! ### Moves aside -/

/-- Whether a move is none of the acquiring loop and takes no job off the queue. -/
def Move.isAside : Move → Bool
  | .letGo | .verdict _ | .stopExecuting | .close _ => true
  | .first | .wake | .elapse | .grant _ | .stopAcquiring | .takeUp => false

/-- Jobs are neither asked for nor granted nor handed out, and what the acquiring loop looks at stays
as it was. -/
structure Aside {σ : Type} (s s' : State σ) (events : List Event) : Prop where
  queue : s'.queue = s.queue
  pollNow : s'.pollNow = s.pollNow
  acquire : s'.acquire = s.acquire
  requests : requests events = []
  grants : grants events = []
  handed : handed events = []

section

variable {σ : Type} {w : Config σ} {s s' : State σ} {events : List Event}

theorem Stretch.aside {job : Job} (h : Stretch w job s s' events) : Aside s s' events :=
  ⟨h.queue, h.pollNow, h.acquire, h.requests_eq_nil, h.grants_eq_nil, h.handed_eq_nil⟩

/-- An answer to a command is read by none of the three readers. -/
theorem Aside.answered (h : Aside s s' events) (command : Command) (verdict : Verdict) :
    Aside s s' (.answered command verdict :: events) :=
  ⟨h.queue, h.pollNow, h.acquire, by simp [h.requests], by simp [h.grants], by simp [h.handed]⟩

theorem Step.aside {m : Move} (h : Step w s m s' events) (hm : m.isAside = true) :
    Aside s s' events := by
  cases h with
  | ask hasks hopen hroom => cases hasks <;> cases hm
  | skip hasks hopen hfull => cases hasks <;> cases hm
  | accept jobs hpending hopen => cases hm
  | refuse error hpending hopen => cases hm
  | stopAcquiring hrunning hclosed => cases hm
  | takeUp hidle hqueue hopen h => cases hm
  | letGo hblocked h => exact h.aside
  | reply verdict hsending h => exact h.aside.answered _ verdict
  | settle verdict hfollowing => exact ⟨rfl, rfl, rfl, by simp, by simp, by simp⟩
  | stopExecuting hidle hclosed => exact ⟨rfl, rfl, rfl, rfl, rfl, rfl⟩
  | close way hopen => exact ⟨rfl, rfl, rfl, rfl, rfl, rfl⟩
  | closeAgain way hclosed => exact ⟨rfl, rfl, rfl, rfl, rfl, rfl⟩

end

/-! ### What is written while a worker works -/

section

variable {σ : Type} {w : Config σ}

theorem ofWork_remarksOn (job : Job) (result : Except String Resolution) :
    ∀ notice ∈ w.remarksOn job result, notice.ofWork = true := by
  unfold Config.remarksOn
  split
  · split <;> simp [Notice.ofWork]
  · simp
  · simp [Notice.ofWork]

theorem ofWork_remarksOnVerdict (command : Command) (verdict : Verdict) :
    ∀ notice ∈ w.remarksOnVerdict command verdict, notice.ofWork = true := by
  unfold Config.remarksOnVerdict
  split
  · simp
  · cases command <;> simp [Notice.ofWork]

theorem ofWork_surplusNotices (request : ActivateRequest) (jobs : List Job) :
    ∀ notice ∈ Activation.surplusNotices request jobs, notice.ofWork = true := by
  unfold Activation.surplusNotices
  split <;> simp [Notice.ofWork]

theorem Stretch.ofWork {job : Job} {s s' : State σ} {events : List Event}
    (h : Stretch w job s s' events) : ∀ notice ∈ log events, notice.ofWork = true := by
  rcases h.log_eq with hlog | ⟨outcome, hlog⟩
  · simp [hlog]
  · rw [hlog]
    exact ofWork_remarksOn job outcome.result

/-- Apart from being closed, a worker writes only about its work. -/
theorem Step.ofWork {s s' : State σ} {m : Move} {events : List Event}
    (h : Step w s m s' events) (hm : ∀ way, m ≠ .close way) :
    ∀ notice ∈ log events, notice.ofWork = true := by
  cases h with
  | ask hasks hopen hroom => simp
  | skip hasks hopen hfull => simp
  | @accept request jobs hpending hopen => simpa using ofWork_surplusNotices request jobs
  | refuse error hpending hopen => simp [Notice.ofWork]
  | stopAcquiring hrunning hclosed => simp
  | takeUp hidle hqueue hopen h => simpa using h.ofWork
  | letGo hblocked h => exact h.ofWork
  | reply verdict hsending h => simpa using h.ofWork
  | @settle job command verdict hfollowing => simpa using ofWork_remarksOnVerdict command verdict
  | stopExecuting hidle hclosed => simp
  | close way hopen => exact absurd rfl (hm way)
  | closeAgain way hclosed => exact absurd rfl (hm way)

end

end Worker

end JobWorker
