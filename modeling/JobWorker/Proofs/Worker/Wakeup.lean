/-
No signal is lost.

The executing loop gives the signal when it has taken the last job, and the acquiring loop may stand
anywhere at that moment: it may wait, it may be asking for jobs, or it may have passed over a request
because the queue was full.  The signal is remembered but not counted.

What carries the argument is the case in which the queue is empty and the signal is not given.  Then
nothing has been taken off the queue since the last request, for that would have given the signal and
only a new request takes it away again.  So the queue was empty at that request too, which was
therefore for as many jobs as the queue can hold; and if it has been answered, the answer brought
nothing.  This is kept by every step, and a worker that has come to rest is in that very case.
-/
import JobWorker.Proofs.Worker.Record

namespace JobWorker.Worker

variable {σ : Type} {w : Config σ}

/-! ### Rest -/

/-- Whether a move waits neither for the poll interval, nor for an answer to a request for jobs, nor
for somebody to let a handler go or to close the worker.  A command is answered in time. -/
def Move.isPrompt : Move → Bool
  | .first | .wake | .stopAcquiring | .takeUp | .verdict _ | .stopExecuting => true
  | .elapse | .grant _ | .letGo | .close _ => false

/-- Nothing can happen in a worker unless time passes. -/
def Quiescent (w : Config σ) (s : State σ) : Prop :=
  ∀ m : Move, m.isPrompt = true → s.move? w m = none

/-- The loops of an open worker have not ended. -/
structure Running (s : State σ) : Prop where
  acquire : s.closed = false → s.acquire ≠ .stopped
  execute : s.closed = false → s.execute ≠ .stopped

theorem running_start (w : Config σ) : Running w.start :=
  ⟨by simp [Config.start], by simp [Config.start]⟩

theorem Stretch.not_stopped {job : Job} {s s' : State σ} {events : List Event}
    (h : Stretch w job s s' events) : s'.execute ≠ .stopped := by
  cases h <;> simp

theorem Step.running {s s' : State σ} {m : Move} {events : List Event} (h : Step w s m s' events)
    (hr : Running s) : Running s' := by
  cases h with
  | ask hasks hopen hroom => exact ⟨by simp, by simpa using hr.execute⟩
  | skip hasks hopen hfull => exact ⟨by simp, by simpa using hr.execute⟩
  | accept jobs hpending hopen => exact ⟨by simp, hr.execute⟩
  | refuse error hpending hopen => exact ⟨by simp, hr.execute⟩
  | stopAcquiring hrunning hclosed => exact ⟨by simp [State.stopAcquiring, hclosed], hr.execute⟩
  | takeUp hidle hqueue hopen h =>
      refine ⟨?_, fun _ => h.not_stopped⟩
      rw [h.acquire, h.closed]
      exact hr.acquire
  | letGo hblocked h =>
      refine ⟨?_, fun _ => h.not_stopped⟩
      rw [h.acquire, h.closed]
      exact hr.acquire
  | reply verdict hsending h =>
      refine ⟨?_, fun _ => h.not_stopped⟩
      rw [h.acquire, h.closed]
      exact hr.acquire
  | settle verdict hfollowing => exact ⟨hr.acquire, by simp⟩
  | stopExecuting hidle hclosed => exact ⟨hr.acquire, by simp [State.stopExecuting, hclosed]⟩
  | close way hopen => exact ⟨by simp, by simp⟩
  | closeAgain way hclosed => exact hr

theorem Reaches.running {history : List Move} {s : State σ} {events : List Event}
    (h : Reaches w history s events) : Running s :=
  run_induction (bounded_start w) (motive := fun _ s _ => Running s) (running_start w)
    (fun _ ih hstep => hstep.running ih) h

/-- An open worker at rest waits for the poll interval with an empty queue and without a signal, if
no handler waits and no answer to a request for jobs is awaited. -/
theorem Quiescent.waiting {s : State σ} (hquiet : Quiescent w s) (hr : Running s)
    (hopen : s.closed = false) (hfree : ∀ job next, s.execute ≠ .blocked job next)
    (hanswered : ∀ request, s.acquire ≠ .activating request) :
    s.acquire = .waiting ∧ s.execute = .idle ∧ s.queue = [] ∧ s.pollNow = false := by
  have hacquire : s.acquire = .waiting := by
    cases hacquire : s.acquire with
    | starting => simpa [State.move?, hacquire, hopen] using hquiet .first rfl
    | activating request => exact absurd hacquire (hanswered request)
    | waiting => rfl
    | stopped => exact absurd hacquire (hr.acquire hopen)
  have hexecute : s.execute = .idle := by
    cases hexecute : s.execute with
    | idle => rfl
    | blocked job next => exact absurd hexecute (hfree job next)
    | sending job command next =>
        simpa [State.move?, hexecute] using hquiet (.verdict (.ok ())) rfl
    | following job command =>
        simpa [State.move?, hexecute] using hquiet (.verdict (.ok ())) rfl
    | stopped => exact absurd hexecute (hr.execute hopen)
  refine ⟨hacquire, hexecute, ?_, ?_⟩
  · cases hqueue : s.queue with
    | nil => rfl
    | cons job rest => simpa [State.move?, hexecute, hqueue, hopen] using hquiet .takeUp rfl
  · simpa [State.move?, hacquire, hopen] using hquiet .wake rfl

/-! ### The last request -/

/-- The last request for jobs is for as many as the queue can hold, no job has been taken off the
queue since, and it has been answered like this. -/
def LastAsked (w : Config σ) (events : List Event) (answers : List Grant) : Prop :=
  ∃ before request after, events = before ++ .call (.activate request) :: after ∧
    request.maxJobs.toNat = w.capacity ∧ requests after = [] ∧ handed after = [] ∧
    grants after = answers

/-- An answer that brings no jobs. -/
def Fruitless (answer : Grant) : Prop := answer = .ok [] ∨ ∃ error, answer = .error error

/-- Events without requests and starts leave the last request where it was. -/
theorem LastAsked.append {events more : List Event} {answers new : List Grant}
    (h : LastAsked w events answers) (hrequests : requests more = []) (hhanded : handed more = [])
    (hgrants : grants more = new) : LastAsked w (events ++ more) (answers ++ new) := by
  obtain ⟨before, request, after, rfl, hfull, hnone, hkept, rfl⟩ := h
  exact ⟨before, request, after ++ more, by simp, hfull, by simp [hnone, hrequests],
    by simp [hkept, hhanded], by simp [hgrants]⟩

theorem LastAsked.quiet {events more : List Event} {answers : List Grant}
    (h : LastAsked w events answers) (hrequests : requests more = []) (hhanded : handed more = [])
    (hgrants : grants more = []) : LastAsked w (events ++ more) answers := by
  simpa using h.append hrequests hhanded hgrants

/-- What is known of the last request when the queue is empty and the signal is not given, by where
the acquiring loop stands. -/
def Heeded (w : Config σ) (events : List Event) : Acquire → Prop
  | .starting | .stopped => True
  | .activating request => request.maxJobs.toNat = w.capacity ∧ LastAsked w events []
  | .waiting => ∃ answer, LastAsked w events [answer] ∧ Fruitless answer

theorem Heeded.quiet {events more : List Event} {acquire : Acquire}
    (h : Heeded w events acquire) (hrequests : requests more = []) (hhanded : handed more = [])
    (hgrants : grants more = []) : Heeded w (events ++ more) acquire := by
  cases acquire with
  | starting => trivial
  | activating request => exact ⟨h.1, h.2.quiet hrequests hhanded hgrants⟩
  | waiting =>
      obtain ⟨answer, hlast, hvain⟩ := h
      exact ⟨answer, hlast.quiet hrequests hhanded hgrants, hvain⟩
  | stopped => trivial

/-- A worker with an empty queue has asked for jobs since it took the last one, or the signal to ask
is given. -/
def Awake (w : Config σ) (s : State σ) (events : List Event) : Prop :=
  s.queue = [] → s.pollNow = false → Heeded w events s.acquire

theorem Step.awake {s s' : State σ} {m : Move} {events more : List Event}
    (h : Step w s m s' more) (ha : Awake w s events) : Awake w s' (events ++ more) := by
  intro hqueue hsignal
  have haside := h.aside
  cases h with
  | ask hasks hopen hroom =>
      have hfull : (s.topUp w).maxJobs.toNat = w.capacity :=
        topUp_of_queue_eq_nil (by simpa using hqueue)
      exact ⟨hfull, events, s.topUp w, [], by simp, hfull, rfl, rfl, rfl⟩
  | skip hasks hopen hroom =>
      -- a request is passed over only when the queue is full, and so it is not empty
      have hempty : s.queue = [] := by simpa using hqueue
      rw [State.room, hempty] at hroom
      exact absurd hroom (Nat.ne_of_gt w.capacity_pos)
  | @accept request jobs hpending hopen =>
      obtain ⟨hempty, hnone⟩ := List.append_eq_nil_iff.mp hqueue
      have hheeded := ha hempty hsignal
      rw [hpending] at hheeded
      obtain ⟨hfull, hlast⟩ := hheeded
      -- the request was for some jobs, so none is accepted only if none is granted
      have hjobs : jobs = [] := by
        rcases List.take_eq_nil_iff.mp hnone with hzero | hjobs
        · exact absurd (hfull.symm.trans hzero) (Nat.ne_of_gt w.capacity_pos)
        · exact hjobs
      subst hjobs
      exact ⟨.ok [], hlast.append (by simp) (by simp) (by simp), Or.inl rfl⟩
  | @refuse request error hpending hopen =>
      have hheeded := ha hqueue hsignal
      rw [hpending] at hheeded
      exact ⟨.error error, hheeded.2.append (by simp) (by simp) (by simp), Or.inr ⟨error, rfl⟩⟩
  | stopAcquiring hrunning hclosed => trivial
  | @takeUp job rest _ _ hidle hjobs hopen h =>
      -- the last job gives the signal, and after any other there is one left
      have hlast : rest = [] := h.queue.symm.trans hqueue
      have hgiven : (s.pollNow || rest.isEmpty) = false := h.pollNow.symm.trans hsignal
      simp [hlast] at hgiven
  | _ =>
      -- all other moves are aside: the worker stays in the same case, or outside of it
      have h := haside rfl
      rw [h.queue] at hqueue
      rw [h.pollNow] at hsignal
      rw [h.acquire]
      exact (ha hqueue hsignal).quiet h.requests h.handed h.grants

theorem Reaches.awake {history : List Move} {s : State σ} {events : List Event}
    (h : Reaches w history s events) : Awake w s events :=
  run_induction (bounded_start w) (motive := fun _ s events => Awake w s events)
    (fun _ _ => trivial) (fun _ ih hstep => hstep.awake ih) h

/--
**No signal is lost.**  When an open worker has come to rest, with no handler that waits and no
answer to a request for jobs awaited, its queue is empty and the signal has been followed.  The last
thing that it asked the gateway for was as many jobs as the queue can hold, it asked after the last
job was taken off the queue, and it got an error or no jobs.
-/
theorem no_signal_is_lost {history : List Move} {s : State σ} {events : List Event}
    (h : Reaches w history s events) (hopen : s.closed = false) (hquiet : Quiescent w s)
    (hfree : ∀ job next, s.execute ≠ .blocked job next)
    (hanswered : ∀ request, s.acquire ≠ .activating request) :
    s.queue = [] ∧ s.pollNow = false ∧
    ∃ before request after answer, events = before ++ .call (.activate request) :: after ∧
      requests after = [] ∧ handed after = [] ∧ request.maxJobs.toNat = w.capacity ∧
      grants after = [answer] ∧ (answer = .ok [] ∨ ∃ error, answer = .error error) := by
  obtain ⟨hwait, -, hqueue, hsignal⟩ := hquiet.waiting h.running hopen hfree hanswered
  have hheeded := h.awake hqueue hsignal
  rw [hwait] at hheeded
  obtain ⟨answer, ⟨before, request, after, heq, hfull, hnone, hkept, hgrants⟩, hvain⟩ := hheeded
  exact ⟨hqueue, hsignal, before, request, after, answer, heq, hnone, hkept, hfull, hgrants, hvain⟩

/-- The poll interval passes while the queue is full, and the signal is given during the request that
follows. -/
def signalledWhileAsking : List Move :=
  [.first, .grant (.ok [sampleJob 1, sampleJob 2]), .elapse, .takeUp, .elapse, .verdict (.ok ()),
    .takeUp, .verdict (.ok ()), .grant (.ok []), .wake, .grant (.error refusal)]

theorem no_signal_is_lost_whileAsking :
    ∃ s events, Reaches sample signalledWhileAsking s events ∧ s.closed = false ∧
      Quiescent sample s ∧ handed events = [sampleJob 1, sampleJob 2] ∧
      s.queue = [] ∧ s.pollNow = false ∧
      ∃ before request after answer, events = before ++ .call (.activate request) :: after ∧
        requests after = [] ∧ handed after = [] ∧ request.maxJobs.toNat = sample.capacity ∧
        grants after = [answer] ∧ (answer = .ok [] ∨ ∃ error, answer = .error error) := by
  have hquiet : Quiescent sample ⟨[], false, false, (), .waiting, .idle⟩ := by
    intro m hm
    cases m with
    | elapse | grant _ | letGo | close _ => cases hm
    | _ => rfl
  refine ⟨⟨[], false, false, (), .waiting, .idle⟩, _, rfl, rfl, hquiet, rfl, ?_⟩
  exact no_signal_is_lost (show Reaches sample signalledWhileAsking _ _ from rfl) rfl hquiet
    (by simp) (by simp)

end JobWorker.Worker
