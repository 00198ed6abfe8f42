/-
Workers that dispatch alike.

What a worker asks for and which jobs it takes up hangs on the script of the gateway, the queue, the
signal, the flag and the permits, and on how often handlers wait.  All of this but the last is the
front of a worker (`World.front`).  It leaves out what the handlers remember and have said, the calls
that the gateway has recorded, and what it refuses.

Two workers with the same request and with handlers that wait alike are followed side by side
(`Lockstep`).  Their fronts are the same, and their executing loops stand alike: the handler of the
same job waits for the same number of permits.  Then each makes a move when the other does, they are
in lockstep afterwards, and both moves dispatch the same (`Lockstep.move`).  Since the fronts say how
many moves a session lets them make, they come to rest together.
-/
import JobWorker.Proofs.Handler.Waiting
import JobWorker.Proofs.Worker.Settling

namespace JobWorker

/-- Whether an event is a request for jobs, the answer to one or the start of a handler. -/
def Event.isDispatch : Event → Bool
  | .call (.activate _) | .granted _ | .started _ => true
  | .call (.command _) | .answered .. | .ended .. | .said _ | .noticed _ => false

theorem Event.unread_of_not_isDispatch (e : Event) (h : e.isDispatch = false) :
    e.request? = none ∧ e.grant? = none ∧ e.handed? = none := by
  unfold isDispatch at h
  split at h <;> simp_all

/-- What there is to be granted, and how. -/
structure Scripted.Supply where
  script : List Scripted.Entry
  holding : Bool
  overGranting : Bool

/-- The part of a gateway that answers requests for jobs. -/
def Scripted.supply (g : Scripted) : Scripted.Supply := ⟨g.script, g.holding, g.overGranting⟩

namespace Worker

/-- Requests for jobs, their answers and the starts of handlers, in order. -/
def dispatches (events : List Event) : List Event := events.filter Event.isDispatch

@[simp] theorem dispatches_nil : dispatches [] = [] := rfl

@[simp] theorem dispatches_append (events more : List Event) :
    dispatches (events ++ more) = dispatches events ++ dispatches more :=
  List.filter_append ..

@[simp] theorem dispatches_cons (e : Event) (events : List Event) :
    dispatches (e :: events) = if e.isDispatch then e :: dispatches events else dispatches events :=
  List.filter_cons

@[simp] theorem dispatches_ofNotices (notices : List Notice) :
    dispatches (Event.ofNotices notices) = [] := by
  simp [dispatches, Event.ofNotices, Event.isDispatch]

theorem requests_dispatches (events : List Event) : requests (dispatches events) = requests events :=
  pick_filter (fun e he => (e.unread_of_not_isDispatch he).1) events

theorem grants_dispatches (events : List Event) : grants (dispatches events) = grants events :=
  pick_filter (fun e he => (e.unread_of_not_isDispatch he).2.1) events

theorem handed_dispatches (events : List Event) : handed (dispatches events) = handed events :=
  pick_filter (fun e he => (e.unread_of_not_isDispatch he).2.2) events

/-- What depends on neither handlers nor the answers to commands. -/
structure Front where
  supply : Scripted.Supply
  permits : Nat
  queue : List Job
  pollNow : Bool
  closed : Bool
  acquire : Acquire

def World.front {σ : Type} (x : World Scripted σ) : Front :=
  ⟨x.gateway.supply, x.permits, x.state.queue, x.state.pollNow, x.state.closed, x.state.acquire⟩

/-- Where the executing loop stands, but for what the handler will do. -/
inductive Standing where
  | idle
  /-- The handler of a job waits, and needs so many permits to come to its end. -/
  | waiting (job : Job) (left : Nat)
  | stopped

variable {σ σ' : Type}

/-- The executing loop stands like this, when handlers have been started with these jobs. -/
inductive Stands (handler : Handler σ) (jobs : List Job) (s : State σ) : Standing → Prop
  | idle (hexecute : s.execute = .idle) (hmemory : handler.Remembers jobs s.memory) :
      Stands handler jobs s .idle
  | waiting {job : Job} {next : Activity σ} {left : Nat} (hexecute : s.execute = .blocked job next)
      (hwaits : (Activity.await next).Waits left)
      (hleaves : ∀ memory, (Activity.await next).Leaves memory → handler.Remembers jobs memory) :
      Stands handler jobs s (.waiting job left)
  | stopped (hexecute : s.execute = .stopped) : Stands handler jobs s .stopped

theorem Stands.congr {handler : Handler σ} {jobs : List Job} {s s' : State σ} {standing : Standing}
    (h : Stands handler jobs s standing) (hexecute : s'.execute = s.execute)
    (hmemory : s'.memory = s.memory) : Stands handler jobs s' standing := by
  cases h with
  | idle hidle hremembers => exact .idle (hexecute.trans hidle) (hmemory ▸ hremembers)
  | waiting hblocked hwaits hleaves => exact .waiting (hexecute.trans hblocked) hwaits hleaves
  | stopped hstopped => exact .stopped (hexecute.trans hstopped)

/-! ### Handling a job -/

/-- A handler that may wait so many times has been carried on as far as it goes: it has ended, or
the permits are used up. -/
structure Carried (w : Config σ) (jobs : List Job) (job : Job) (n : Nat) (x : World Scripted σ)
    (result : World Scripted σ × List Event) : Prop where
  front : result.1.front = { x.front with permits := x.permits - n }
  dispatches : dispatches result.2 = []
  stands : Stands w.handler jobs result.1.state
    (if n ≤ x.permits then .idle else .waiting job (n - x.permits))

theorem finish_carried {w : Config σ} {jobs : List Job} (job : Job) {memory : σ} (outcome : Outcome)
    (hmemory : w.handler.Remembers jobs memory) (x : World Scripted σ) :
    Carried w jobs job 0 x (x.finish w job memory outcome) := by
  unfold World.finish State.finish
  cases w.followUp job outcome.result with
  | none => exact ⟨rfl, by simp [Event.isDispatch], .idle rfl hmemory⟩
  | some command =>
      exact ⟨rfl, by simp [Event.isDispatch, State.answered], .idle rfl hmemory⟩

theorem proceed_carried {w : Config σ} {jobs : List Job} (job : Job) {activity : Activity σ}
    {n : Nat} (h : activity.Waits n)
    (hleaves : ∀ memory, activity.Leaves memory → w.handler.Remembers jobs memory) :
    ∀ x : World Scripted σ, Carried w jobs job n x (World.proceed w job activity x) := by
  induction h with
  | done memory outcome => exact finish_carried job outcome (hleaves memory ⟨[], outcome, .done ..⟩)
  | await hwaits ih =>
      rintro ⟨gateway, s, permits⟩
      cases permits with
      | zero =>
          exact ⟨by simp [World.proceed, World.front], rfl, .waiting rfl (.await hwaits) hleaves⟩
      | succ permits =>
          have hrest := ih (fun memory h => hleaves memory h.await) ⟨gateway, s, permits⟩
          refine ⟨?_, hrest.dispatches, ?_⟩
          · rw [World.proceed, hrest.front]
            simp [World.front]
          · simpa [World.proceed] using hrest.stands
  | send command hwaits ih =>
      intro x
      have hrest := ih (command.receiptFor (x.gateway.verdict command))
        (fun memory h => hleaves memory (h.send command _))
        { x with gateway := x.gateway.record (.command command) }
      refine ⟨hrest.front, ?_, hrest.stands⟩
      simpa [World.proceed, Command.send, Scripted.perform_eq, Event.isDispatch]
        using hrest.dispatches
  | say remark hwaits ih =>
      intro x
      have hrest := ih (fun memory h => hleaves memory (h.say remark)) x
      refine ⟨hrest.front, ?_, hrest.stands⟩
      simpa [World.proceed, Event.isDispatch] using hrest.dispatches

/-! ### Asking for jobs -/

/-- Configurations that differ in the handler and in the completion of jobs only, with handlers that
wait alike. -/
structure Config.AsksLike (w : Config σ) (w' : Config σ') : Prop where
  request : w'.request = w.request
  waits : w.handler.WaitsLike w'.handler
  pollInterval : w'.pollInterval = w.pollInterval

section

variable {w : Config σ} {w' : Config σ'}

theorem enqueueAll_alike (hrequest : w'.request = w.request) (jobs : List Job) (s : State σ)
    (s' : State σ') (hqueue : s'.queue = s.queue) :
    (s'.enqueueAll w' jobs).1.queue = (s.enqueueAll w jobs).1.queue ∧
      (s'.enqueueAll w' jobs).2 = (s.enqueueAll w jobs).2 := by
  induction jobs generalizing s s' with
  | nil => exact ⟨hqueue, rfl⟩
  | cons job jobs ih =>
      have hroom : s'.room w' = s.room w := by
        simp only [State.room, Config.capacity, hrequest, hqueue]
      simp only [State.enqueueAll, State.enqueue, hroom]
      split
      · obtain ⟨hsame, hevents⟩ := ih s s' hqueue
        exact ⟨hsame, by rw [hevents]⟩
      · exact ih { s with queue := s.queue ++ [job] } { s' with queue := s'.queue ++ [job] }
          (by rw [hqueue])

theorem receive_alike (hrequest : w'.request = w.request) (request : ActivateRequest)
    (answer : Grant) (s : State σ) (s' : State σ') (hqueue : s'.queue = s.queue) :
    (s'.receive w' request answer).1.queue = (s.receive w request answer).1.queue ∧
      (s'.receive w' request answer).2 = (s.receive w request answer).2 := by
  cases answer with
  | ok jobs =>
      obtain ⟨hsame, hevents⟩ := enqueueAll_alike hrequest (Activation.accept request jobs)
        { s with acquire := .waiting } { s' with acquire := .waiting } hqueue
      exact ⟨hsame, by simp only [State.receive, hevents]⟩
  | error e => exact ⟨hqueue, by simp only [State.receive, Config.name, Config.jobType, hrequest]⟩

/-- How a request for jobs is answered hangs on the supply alone. -/
theorem activate_alike {g g' : Scripted} (h : g'.supply = g.supply) (request : ActivateRequest) :
    (Gateway.activate g' request).1.supply = (Gateway.activate g request).1.supply ∧
      (Gateway.activate g' request).2 = (Gateway.activate g request).2 := by
  obtain ⟨script, calls, holding, overGranting, completeError, failError⟩ := g
  obtain ⟨script', calls', holding', overGranting', completeError', failError'⟩ := g'
  obtain ⟨rfl, rfl, rfl⟩ := Scripted.Supply.mk.inj h
  cases hholding : holding' with
  | true => exact ⟨rfl, rfl⟩
  | false => exact ⟨rfl, rfl⟩

theorem poll_alike (hrequest : w'.request = w.request) {x : World Scripted σ}
    {y : World Scripted σ'} (h : y.front = x.front) :
    (y.poll w').1.front = (x.poll w).1.front ∧ (y.poll w').2 = (x.poll w).2 := by
  have hqueue : y.state.queue = x.state.queue := congrArg Front.queue h
  have hroom : y.state.room w' = x.state.room w := by
    simp only [State.room, Config.capacity, hrequest, hqueue]
  have htopUp : y.state.topUp w' = x.state.topUp w := by simp only [State.topUp, hroom, hrequest]
  by_cases hfull : x.state.room w = 0
  · rw [poll_of_full hfull, poll_of_full (hroom.trans hfull)]
    exact ⟨congrArg (fun front : Front => { front with acquire := .waiting }) h, rfl⟩
  · have hfull' : y.state.room w' ≠ 0 := hroom.trans_ne hfull
    have hholds : y.gateway.holding = x.gateway.holding := congrArg (·.supply.holding) h
    cases hholding : x.gateway.holding with
    | true =>
        rw [poll_of_holding hfull hholding, poll_of_holding hfull' (hholds.trans hholding), htopUp]
        exact ⟨congrArg (fun front : Front => { front with
          acquire := .activating (x.state.topUp w) }) h, rfl⟩
    | false =>
        rw [poll_of_answering hfull hholding, poll_of_answering hfull' (hholds.trans hholding),
          htopUp, show y.gateway.overGranting = x.gateway.overGranting from
            congrArg (·.supply.overGranting) h,
          show y.gateway.script = x.gateway.script from congrArg (·.supply.script) h]
        let request := x.state.topUp w
        let granted := Scripted.grant x.gateway.overGranting request.maxJobs x.gateway.script
        let s : State σ := { x.state with acquire := .activating request }
        let s' : State σ' := { y.state with acquire := .activating request }
        obtain ⟨queue, hstate, -⟩ := receive_le (w := w) request granted.2 s
        obtain ⟨queue', hstate', -⟩ := receive_le (w := w') request granted.2 s'
        obtain ⟨hsame, hevents⟩ := receive_alike hrequest request granted.2 s s' hqueue
        obtain rfl : queue' = queue := by simpa only [hstate, hstate'] using hsame
        simp only [request, granted, s, s'] at hstate hstate' hevents
        simp only [hstate, hstate', hevents]
        exact ⟨congrArg (fun front : Front => { front with
          supply := { front.supply with script := granted.1 }
          queue := queue'
          acquire := .waiting }) h, trivial⟩

/-! ### Side by side -/

/-- Two workers with the same front, whose executing loops stand alike. -/
structure Lockstep (w : Config σ) (w' : Config σ') (x : World Scripted σ) (y : World Scripted σ') :
    Prop where
  front : y.front = x.front
  stands : ∃ jobs standing, Stands w.handler jobs x.state standing ∧
    Stands w'.handler jobs y.state standing

/-- Two workers that are in lockstep and have dispatched the same. -/
structure Together (w : Config σ) (w' : Config σ') (r : World Scripted σ × List Event)
    (r' : World Scripted σ' × List Event) : Prop where
  lockstep : Lockstep w w' r.1 r'.1
  dispatches : dispatches r'.2 = dispatches r.2

/-- Nothing but the fronts changes as long as nothing is done with a job. -/
theorem Lockstep.congr {x x₂ : World Scripted σ} {y y₂ : World Scripted σ'} (h : Lockstep w w' x y)
    (hexecute : x₂.state.execute = x.state.execute) (hmemory : x₂.state.memory = x.state.memory)
    (hexecute' : y₂.state.execute = y.state.execute) (hmemory' : y₂.state.memory = y.state.memory)
    (hfront : y₂.front = x₂.front) : Lockstep w w' x₂ y₂ := by
  obtain ⟨jobs, standing, hstands, hstands'⟩ := h.stands
  exact ⟨hfront, jobs, standing, hstands.congr hexecute hmemory, hstands'.congr hexecute' hmemory'⟩

theorem Lockstep.poll (hw : w.AsksLike w') {x : World Scripted σ} {y : World Scripted σ'}
    (h : Lockstep w w' x y) : Together w w' (x.poll w) (y.poll w') := by
  obtain ⟨hfront, hevents⟩ := poll_alike hw.request h.front
  obtain ⟨queue, acquire, hstate, -⟩ := poll_le w x
  obtain ⟨queue', acquire', hstate', -⟩ := poll_le w' y
  exact ⟨h.congr (by rw [hstate]) (by rw [hstate]) (by rw [hstate']) (by rw [hstate']) hfront,
    by rw [hevents]⟩

/-- Handlers that wait alike end together, or they wait together for as many permits as are missing. -/
theorem Carried.together {jobs : List Job} {job : Job} {n : Nat} {x : World Scripted σ}
    {y : World Scripted σ'} {r : World Scripted σ × List Event}
    {r' : World Scripted σ' × List Event} (h : Carried w jobs job n x r)
    (h' : Carried w' jobs job n y r') (hfront : y.front = x.front) : Together w w' r r' := by
  have hpermits : y.permits = x.permits := congrArg Front.permits hfront
  refine ⟨⟨?_, jobs, _, h.stands, hpermits ▸ h'.stands⟩, h'.dispatches.trans h.dispatches.symm⟩
  rw [h.front, h'.front, hfront, hpermits]

theorem Together.takeUp (hw : w.AsksLike w') {x : World Scripted σ} {y : World Scripted σ'}
    (hfront : y.front = x.front) {jobs : List Job}
    (hmemory : w.handler.Remembers jobs x.state.memory)
    (hmemory' : w'.handler.Remembers jobs y.state.memory) (job : Job) (rest : List Job) :
    Together w w' (x.takeUp w job rest) (y.takeUp w' job rest) := by
  obtain ⟨waits, hwaits, hwaits'⟩ := hw.waits
  have hcarried := proceed_carried job (hwaits jobs _ job hmemory)
    (fun _ => .after job hmemory) { x with state := x.state.dequeued rest }
  have hcarried' := proceed_carried job (hwaits' jobs _ job hmemory')
    (fun _ => .after job hmemory') { y with state := y.state.dequeued rest }
  have hrest := hcarried.together hcarried' (congrArg (fun front : Front => { front with
    queue := rest
    pollNow := front.pollNow || rest.isEmpty }) hfront)
  refine ⟨hrest.lockstep, ?_⟩
  have hevents := hrest.dispatches
  simp only [World.takeUp, dispatches_cons, Event.isDispatch, hevents]

/-- The executing loops move together. -/
theorem Lockstep.execute (hw : w.AsksLike w') {x : World Scripted σ} {y : World Scripted σ'}
    (h : Lockstep w w' x y) : Option.Rel (Together w w') (x.execute w) (y.execute w') := by
  obtain ⟨jobs, standing, hstands, hstands'⟩ := h.stands
  have hclosed : y.state.closed = x.state.closed := congrArg Front.closed h.front
  have hqueue : y.state.queue = x.state.queue := congrArg Front.queue h.front
  have hpermits : y.permits = x.permits := congrArg Front.permits h.front
  cases hstands with
  | stopped hexecute =>
      cases hstands' with
      | stopped hexecute' =>
          simp only [World.execute, hexecute, hexecute']
          exact .none
  | waiting hexecute hwaits hleaves =>
      cases hstands' with
      | waiting hexecute' hwaits' hleaves' =>
          simp only [World.execute, hexecute, hexecute', hpermits]
          split
          · exact .none
          · exact .some ((proceed_carried _ hwaits hleaves x).together
              (proceed_carried _ hwaits' hleaves' y) h.front)
  | idle hexecute hmemory =>
      cases hstands' with
      | idle hexecute' hmemory' =>
          simp only [World.execute, hexecute, hexecute', hclosed, hqueue]
          split
          · exact .some ⟨⟨h.front, jobs, .stopped, .stopped rfl, .stopped rfl⟩, rfl⟩
          · cases x.state.queue with
            | nil => exact .none
            | cons job rest => exact .some (.takeUp hw h.front hmemory hmemory' job rest)

/-- The acquiring loops move together. -/
theorem Lockstep.acquire (hw : w.AsksLike w') {x : World Scripted σ} {y : World Scripted σ'}
    (h : Lockstep w w' x y) : Option.Rel (Together w w') (x.acquire w) (y.acquire w') := by
  have hclosed : y.state.closed = x.state.closed := congrArg Front.closed h.front
  have hsignal : y.state.pollNow = x.state.pollNow := congrArg Front.pollNow h.front
  have hacquire : y.state.acquire = x.state.acquire := congrArg Front.acquire h.front
  have hstops : Lockstep w w' { x with state := x.state.stopAcquiring }
      { y with state := y.state.stopAcquiring } :=
    h.congr rfl rfl rfl rfl
      (congrArg (fun front : Front => { front with acquire := .stopped }) h.front)
  have hheeds : Lockstep w w' { x with state := { x.state with pollNow := false } }
      { y with state := { y.state with pollNow := false } } :=
    h.congr rfl rfl rfl rfl (congrArg (fun front : Front => { front with pollNow := false }) h.front)
  unfold World.acquire
  rw [hacquire]
  cases x.state.acquire with
  | stopped => exact .none
  | starting =>
      simp only [hclosed]
      split
      · exact .some ⟨hstops, rfl⟩
      · exact .some (h.poll hw)
  | activating request =>
      simp only [hclosed]
      split
      · exact .some ⟨hstops, rfl⟩
      · exact .none
  | waiting =>
      simp only [hclosed, hsignal]
      split
      · exact .some ⟨hstops, rfl⟩
      · split
        · exact .some (by simpa only [hclosed] using hheeds.poll hw)
        · exact .none

/-- **Workers in lockstep move together**, and dispatch the same in every move. -/
theorem Lockstep.move (hw : w.AsksLike w') {x : World Scripted σ} {y : World Scripted σ'}
    (h : Lockstep w w' x y) : Option.Rel (Together w w') (x.move w) (y.move w') := by
  have hexecute := h.execute hw
  unfold World.move
  cases hx : x.execute w with
  | none =>
      cases hy : y.execute w' with
      | none => exact h.acquire hw
      | some _ =>
          rw [hx, hy] at hexecute
          cases hexecute
  | some _ =>
      cases hy : y.execute w' with
      | none =>
          rw [hx, hy] at hexecute
          cases hexecute
      | some _ =>
          rw [hx, hy] at hexecute
          exact hexecute

theorem Lockstep.settle (hw : w.AsksLike w') (fuel : Nat) {x : World Scripted σ}
    {y : World Scripted σ'} (h : Lockstep w w' x y) :
    Together w w' (x.settle w fuel) (y.settle w' fuel) := by
  induction fuel generalizing x y with
  | zero => exact ⟨h, rfl⟩
  | succ fuel ih =>
      have hmove := h.move hw
      simp only [World.settle]
      cases hx : x.move w with
      | none =>
          cases hy : y.move w' with
          | none => exact ⟨h, rfl⟩
          | some _ =>
              rw [hx, hy] at hmove
              cases hmove
      | some r =>
          cases hy : y.move w' with
          | none =>
              rw [hx, hy] at hmove
              cases hmove
          | some r' =>
              rw [hx, hy] at hmove
              obtain ⟨htogether⟩ := hmove
              have hrest := ih htogether.lockstep
              refine ⟨hrest.lockstep, ?_⟩
              simp only [dispatches_append, htogether.dispatches, hrest.dispatches]

theorem Lockstep.elapse (hw : w.AsksLike w') {x : World Scripted σ} {y : World Scripted σ'}
    (h : Lockstep w w' x y) : Together w w' (x.elapse w) (y.elapse w') := by
  have hclosed : y.state.closed = x.state.closed := congrArg Front.closed h.front
  have hacquire : y.state.acquire = x.state.acquire := congrArg Front.acquire h.front
  unfold World.elapse
  rw [hacquire]
  cases x.state.acquire with
  | waiting =>
      simp only [hclosed]
      split
      · exact ⟨h, rfl⟩
      · exact h.poll hw
  | _ => exact ⟨h, rfl⟩

end

end Worker

end JobWorker
