/-
Every job that is accepted is handed out, once and in order.

A job is on its way from the answer that grants it to the handler, and all that time it is in the
queue.  So the jobs that were handed out, followed by the queue, are at every moment the jobs that
were accepted: an answer adds to the end of both lists, taking up a job moves the border between the
first two, and nothing else touches any of them.

Which jobs an answer brings depends on the request that it answers.  A worker never asks again
before it has been answered, so the first answer belongs to the first request, the second to the
second, and so on; `Paired` is the invariant behind this.
-/
import JobWorker.Proofs.Worker.History
import JobWorker.Proofs.Worker.Record

namespace JobWorker.Worker

variable {σ : Type} {w : Config σ}

/-- The jobs that are accepted of an answer: the first ones, as many as were asked for. -/
def acceptedOf : ActivateRequest × Grant → List Job
  | (request, .ok jobs) => jobs.take (min jobs.length request.maxJobs.toNat)
  | (_, .error _) => []

/-- The jobs that are accepted, in the order of the requests. -/
def accepted (events : List Event) : List Job :=
  ((requests events).zip (grants events)).flatMap acceptedOf

/-- The request that waits for its answer. -/
def Acquire.request? : Acquire → Option ActivateRequest
  | .activating request => some request
  | .starting | .waiting | .stopped => none

/-! ### Requests and their answers -/

/-- Every answer is to a request; and as long as the loop runs that acquires jobs, all requests are
answered but the one that waits. -/
structure Paired (s : State σ) (events : List Event) : Prop where
  le : (grants events).length ≤ (requests events).length
  waiting : s.acquire ≠ .stopped → ∃ answered : List ActivateRequest,
    answered.length = (grants events).length ∧
      requests events = answered ++ s.acquire.request?.toList

theorem paired_start (w : Config σ) : Paired w.start [] :=
  ⟨Nat.le_refl _, fun _ => ⟨[], rfl, rfl⟩⟩

/-- Events without requests and answers keep the pairing, and nothing more is accepted. -/
theorem Paired.quiet {s s' : State σ} {events more : List Event} (hp : Paired s events)
    (hrequests : requests more = []) (hgrants : grants more = [])
    (hacquire : s'.acquire ≠ .stopped →
      s.acquire ≠ .stopped ∧ s'.acquire.request? = s.acquire.request?) :
    Paired s' (events ++ more) ∧ accepted (events ++ more) = accepted events := by
  refine ⟨⟨by simpa [hrequests, hgrants] using hp.le, ?_⟩, by simp [accepted, hrequests, hgrants]⟩
  intro hrunning
  obtain ⟨hbefore, hsame⟩ := hacquire hrunning
  obtain ⟨answered, hlen, heq⟩ := hp.waiting hbefore
  exact ⟨answered, by simpa [hgrants] using hlen, by simpa [hrequests, hsame] using heq⟩

/-- Requests beyond the answers are not paired. -/
theorem zip_of_length_eq {answered : List ActivateRequest} {answers : List Grant}
    (h : answered.length = answers.length) (pending : List ActivateRequest) :
    (answered ++ pending).zip answers = answered.zip answers := by
  have hzip : (answered ++ pending).zip (answers ++ []) = answered.zip answers ++ pending.zip [] :=
    List.zip_append h
  rwa [List.append_nil, List.zip_nil_right, List.append_nil] at hzip

theorem Paired.ask {s s' : State σ} {events : List Event} (hp : Paired s events)
    {request : ActivateRequest} (hrunning : s.acquire ≠ .stopped)
    (hfree : s.acquire.request? = none) (hacquire : s'.acquire = .activating request) :
    Paired s' (events ++ [.call (.activate request)]) ∧
      accepted (events ++ [.call (.activate request)]) = accepted events := by
  obtain ⟨answered, hlen, heq⟩ := hp.waiting hrunning
  rw [hfree, Option.toList_none, List.append_nil] at heq
  have hzip : (requests events ++ [request]).zip (grants events)
      = (requests events).zip (grants events) :=
    zip_of_length_eq (heq ▸ hlen) [request]
  refine ⟨⟨by simpa using Nat.le_succ_of_le hp.le, ?_⟩, by simp [accepted, hzip]⟩
  · intro _
    exact ⟨answered, by simpa using hlen, by simp [hacquire, Acquire.request?, heq]⟩

theorem Paired.grant {s s' : State σ} {events more : List Event} (hp : Paired s events)
    {request : ActivateRequest} (answer : Grant) (hpending : s.acquire = .activating request)
    (hacquire : s'.acquire = .waiting) (hrequests : requests more = [])
    (hgrants : grants more = [answer]) :
    Paired s' (events ++ more) ∧
      accepted (events ++ more) = accepted events ++ acceptedOf (request, answer) := by
  obtain ⟨answered, hlen, heq⟩ := hp.waiting (by simp [hpending])
  rw [hpending, Acquire.request?, Option.toList_some] at heq
  have hlonger : (answered ++ [request]).zip (grants events ++ [answer])
      = answered.zip (grants events) ++ [(request, answer)] := List.zip_append hlen
  have hshorter := zip_of_length_eq hlen [request]
  refine ⟨⟨?_, ?_⟩, by simp [accepted, hrequests, hgrants, heq, hlonger, hshorter]⟩
  · simp [hrequests, hgrants, heq, hlen]
  · intro _
    exact ⟨answered ++ [request], by simp [hgrants, hlen],
      by simp [hrequests, hacquire, Acquire.request?, heq]⟩

/-! ### From the answer to the handler -/

/-- The jobs handed out, the one at work at the end, and the queue behind them. -/
structure Delivered (s : State σ) (events : List Event) : Prop extends Paired s events where
  jobs : handed events ++ s.queue = accepted events
  busy : ∀ job, s.execute.job? = some job → (handed events).getLast? = some job

theorem delivered_start (w : Config σ) : Delivered w.start [] :=
  ⟨paired_start w, rfl, by intro job h; simp [Config.start, Execute.job?] at h⟩

/-- Handing nothing out keeps the order, if the queue grows by what is accepted. -/
theorem Delivered.of_queue {s s' : State σ} {events more : List Event} (new : List Job)
    (hd : Delivered s events)
    (hp : Paired s' (events ++ more) ∧ accepted (events ++ more) = accepted events ++ new)
    (hhanded : handed more = []) (hqueue : s'.queue = s.queue ++ new)
    (hbusy : ∀ job, s'.execute.job? = some job → s.execute.job? = some job) :
    Delivered s' (events ++ more) := by
  refine ⟨hp.1, ?_, ?_⟩
  · rw [hp.2, ← hd.jobs, hqueue]
    simp [hhanded]
  · intro job h
    simpa [hhanded] using hd.busy job (hbusy job h)

/-- Nothing that is read here changes in events without requests, answers and starts. -/
theorem Delivered.quiet {s s' : State σ} {events more : List Event} (hd : Delivered s events)
    (hrequests : requests more = []) (hgrants : grants more = []) (hhanded : handed more = [])
    (hqueue : s'.queue = s.queue)
    (hacquire : s'.acquire ≠ .stopped →
      s.acquire ≠ .stopped ∧ s'.acquire.request? = s.acquire.request?)
    (hbusy : ∀ job, s'.execute.job? = some job → s.execute.job? = some job) :
    Delivered s' (events ++ more) := by
  obtain ⟨hp, haccepted⟩ := hd.toPaired.quiet hrequests hgrants hacquire
  exact hd.of_queue [] ⟨hp, by simpa using haccepted⟩ hhanded (by simpa using hqueue) hbusy

theorem Asks.running {s : State σ} {m : Move} (h : Asks s m) :
    s.acquire ≠ .stopped ∧ s.acquire.request? = none := by
  cases h with
  | first hstart => simp [hstart, Acquire.request?]
  | wake hwait hsignal => simp [hwait, Acquire.request?]
  | elapse hwait => simp [hwait, Acquire.request?]

/-- After a stretch the executing loop is busy with the job of the stretch, or with none. -/
theorem Stretch.job? {job : Job} {s s' : State σ} {events : List Event}
    (h : Stretch w job s s' events) {other : Job} (hbusy : s'.execute.job? = some other) :
    other = job := by
  cases h <;> simp_all [Execute.job?]

theorem acceptedOf_ok (request : ActivateRequest) (jobs : List Job) :
    acceptedOf (request, .ok jobs) = Activation.accept request jobs := by
  rw [acceptedOf, Activation.accept, Nat.min_comm]
  exact List.take_eq_take_min.symm

theorem Step.delivered {s s' : State σ} {m : Move} {events more : List Event}
    (h : Step w s m s' more) (hd : Delivered s events) : Delivered s' (events ++ more) := by
  have hp := hd.toPaired
  cases h with
  | ask hasks hopen hroom =>
      obtain ⟨hrunning, hfree⟩ := hasks.running
      exact hd.of_queue [] (by simpa using hp.ask hrunning hfree rfl) (by simp) (by simp) (by simp)
  | skip hasks hopen hfull =>
      obtain ⟨hrunning, hfree⟩ := hasks.running
      exact hd.quiet (by simp) (by simp) (by simp) (by simp) (fun _ => ⟨hrunning, hfree.symm⟩)
        (by simp)
  | @accept request jobs hpending hopen =>
      refine hd.of_queue (acceptedOf (request, .ok jobs))
        (hp.grant (.ok jobs) hpending rfl (by simp) (by simp)) (by simp) ?_ (by simp)
      rw [acceptedOf_ok]
  | @refuse request error hpending hopen =>
      exact hd.of_queue [] (hp.grant (.error error) hpending rfl (by simp) (by simp)) (by simp)
        (by simp) (by simp)
  | stopAcquiring hrunning hclosed =>
      exact hd.quiet rfl rfl rfl rfl (fun hc => absurd rfl hc) (by simp [State.stopAcquiring])
  | @takeUp job rest _ events' hidle hqueue hopen h =>
      have hquiet : Paired s' (events ++ .started job :: events') ∧
          accepted (events ++ .started job :: events') = accepted events :=
        hp.quiet (by simp [h.requests_eq_nil]) (by simp [h.grants_eq_nil])
          (by simp [h.acquire, State.dequeued])
      refine ⟨hquiet.1, ?_, ?_⟩
      · rw [hquiet.2, ← hd.jobs]
        simp [h.handed_eq_nil, h.queue, State.dequeued, hqueue]
      · intro other hbusy
        rw [h.job? hbusy]
        simp [h.handed_eq_nil]
  | letGo hblocked h =>
      refine hd.quiet h.requests_eq_nil h.grants_eq_nil h.handed_eq_nil h.queue
        (by simp [h.acquire]) ?_
      intro other hbusy
      rw [h.job? hbusy, hblocked, Execute.job?]
  | reply verdict hsending h =>
      refine hd.quiet (by simp [h.requests_eq_nil]) (by simp [h.grants_eq_nil])
        (by simp [h.handed_eq_nil]) h.queue (by simp [h.acquire]) ?_
      intro other hbusy
      rw [h.job? hbusy, hsending, Execute.job?]
  | settle verdict hfollowing =>
      exact hd.quiet (by simp) (by simp) (by simp) rfl (by simp) (by simp [Execute.job?])
  | stopExecuting hidle hclosed =>
      exact hd.quiet rfl rfl rfl rfl (by simp [State.stopExecuting])
        (by simp [State.stopExecuting, Execute.job?])
  | close way hopen => exact hd.quiet rfl rfl rfl rfl (by simp) (by simp)
  | closeAgain way hclosed => simpa using hd

theorem Reaches.delivered {history : List Move} {s : State σ} {events : List Event}
    (h : Reaches w history s events) : Delivered s events :=
  run_induction (bounded_start w) (motive := fun _ s events => Delivered s events)
    (delivered_start w) (fun _ ih hstep => hstep.delivered ih) h

/--
**Delivery.**  The jobs that were handed to the handler, with the one at work at their end, followed
by those in the queue, are the jobs that were accepted, each of them once and as it was granted, in
the order of the requests and, within an answer, in the order of the answer.  The pairing leaves out
no answer, and what was handed out is always a first part of what was accepted, whatever becomes of
the queue.
-/
theorem delivery {history : List Move} {s : State σ} {events : List Event}
    (h : Reaches w history s events) :
    handed events ++ s.queue = accepted events ∧
    (∀ job, s.execute.job? = some job → (handed events).getLast? = some job) ∧
    (grants events).length ≤ (requests events).length ∧
    handed events <+: accepted events := by
  have hd := h.delivered
  exact ⟨hd.jobs, hd.busy, hd.le, hd.jobs ▸ List.prefix_append _ _⟩

/-- An answer with an error, one with too many jobs, and one to a request for a single job. -/
def twiceGranted : List Move :=
  [.first, .grant (.error refusal), .elapse,
    .grant (.ok [sampleJob 1, sampleJob 2, sampleJob 3]), .takeUp, .elapse,
    .grant (.ok [sampleJob 4, sampleJob 5]), .verdict (.ok ()), .takeUp, .close .dropped]

theorem delivery_twiceGranted :
    ∃ s events, Reaches sample twiceGranted s events ∧
      handed events = [sampleJob 1, sampleJob 2] ∧ s.queue = [sampleJob 4] ∧
      handed events ++ s.queue = accepted events ∧ handed events <+: accepted events := by
  refine ⟨_, _, rfl, rfl, rfl, ?_⟩
  have hall := delivery (show Reaches sample twiceGranted _ _ from rfl)
  exact ⟨hall.1, hall.2.2.2⟩

end JobWorker.Worker
