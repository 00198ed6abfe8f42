/-
What becomes of jobs decides nothing about the jobs that are asked for and handed out.

Two sessions are compared in which the same is done, but for what handlers and commands come to.  The
workers may be opened with other handlers and may complete jobs or not, commands may be refused in one
session and not in the other, and the caller may send other commands (`Mirrored`).  Only how often
handlers wait has to be the same.  Then the sessions stay abreast: their gateways have the same to
grant, and their workers are in lockstep.  So requests for jobs, their answers and the starts of
handlers are the same in both, in the same order.
-/
import JobWorker.Proofs.Session.Ending
import JobWorker.Proofs.Settings.Accepted
import JobWorker.Proofs.Worker.Lockstep

namespace JobWorker

variable {σ σ' : Type}

/-! ### Options -/

namespace Worker

/-- Options that differ in the handler and in the completion of jobs only.  Handlers that are given
wait alike. -/
structure Options.AsksLike (o : Options σ) (o' : Options σ') : Prop where
  jobType : o'.jobType = o.jobType
  handler : Option.Rel Handler.WaitsLike o.handler o'.handler
  maxJobsActive : o'.maxJobsActive = o.maxJobsActive
  timeout : o'.timeout = o.timeout
  name : o'.name = o.name
  pollInterval : o'.pollInterval = o.pollInterval
  fetchVariables : o'.fetchVariables = o.fetchVariables

/-- The same error twice, or two results that are alike. -/
inductive SameUpTo {ε α β : Type} (R : α → β → Prop) : Except ε α → Except ε β → Prop
  | error (e : ε) : SameUpTo R (.error e) (.error e)
  | ok {a : α} {b : β} (h : R a b) : SameUpTo R (.ok a) (.ok b)

theorem SameUpTo.refl {ε α : Type} (x : Except ε α) : SameUpTo Eq x x := by
  cases x with
  | error e => exact .error e
  | ok a => exact .ok rfl

theorem SameUpTo.bind {ε α β α' β' : Type} {R : α → β → Prop} {R' : α' → β' → Prop}
    {x : Except ε α} {y : Except ε β} {f : α → Except ε α'} {g : β → Except ε β'}
    (h : SameUpTo R x y) (hnext : ∀ a b, R a b → SameUpTo R' (f a) (g b)) :
    SameUpTo R' (x >>= f) (y >>= g) := by
  cases h with
  | error e => exact .error e
  | ok hsame => exact hnext _ _ hsame

theorem required_alike {setting : Setting} {α β : Type} {R : α → β → Prop} {value? : Option α}
    {value'? : Option β} (h : Option.Rel R value? value'?) :
    SameUpTo R (setting.required value?) (setting.required value'?) := by
  cases h with
  | none => exact .error _
  | some hsame => exact .ok hsame

/-- Options that have been checked and differ in the handler only. -/
structure Options.Given.AsksLike (g : Options.Given σ) (g' : Options.Given σ') : Prop where
  jobType : g'.jobType = g.jobType
  handler : g.handler.WaitsLike g'.handler
  maxJobs : g'.maxJobs = g.maxJobs
  timeout : g'.timeout = g.timeout

namespace Options.AsksLike

variable {o : Options σ} {o' : Options σ'}

theorem given (h : o.AsksLike o') : SameUpTo Given.AsksLike o.given o'.given := by
  simp only [Options.given, h.jobType, h.maxJobsActive, h.timeout]
  refine (SameUpTo.refl _).bind fun jobType _ hjobType => ?_
  refine (required_alike h.handler).bind fun handler handler' hwaits => ?_
  refine (SameUpTo.refl _).bind fun maxJobs _ hmaxJobs => ?_
  refine (SameUpTo.refl _).bind fun timeout _ htimeout => ?_
  subst htimeout
  refine (SameUpTo.refl _).bind fun timeout _ htimeout => ?_
  exact .ok ⟨hjobType.symm, hwaits, hmaxJobs.symm, htimeout.symm⟩

theorem config (h : o.AsksLike o') (env : Environment) :
    (o'.config env).1 = (o.config env).1 ∧
      SameUpTo Config.AsksLike (o.config env).2 (o'.config env).2 := by
  have hgiven := h.given
  simp only [Options.config, h.pollInterval, h.name, h.fetchVariables]
  generalize o.given = result at hgiven
  generalize o'.given = result' at hgiven
  cases hgiven with
  | error e => exact ⟨rfl, .error e⟩
  | @ok g g' hsame =>
      refine ⟨rfl, (SameUpTo.refl _).bind fun pollInterval _ hinterval => .ok ?_⟩
      exact ⟨by simp only [hsame.jobType, hsame.maxJobs, hsame.timeout], hsame.handler,
        hinterval.symm⟩

/-- They are refused with the same error, or the workers are set up alike. -/
theorem openIn (h : o.AsksLike o') (env : Environment) (runtime : Runtime) :
    (o'.openIn env runtime).1 = (o.openIn env runtime).1 ∧
      SameUpTo Config.AsksLike (o.openIn env runtime).2 (o'.openIn env runtime).2 := by
  obtain ⟨hnotices, hconfig⟩ := h.config env
  have hchecked : SameUpTo Config.AsksLike
      ((o.config env).2.bind fun w => runtime.check.map fun _ => w)
      ((o'.config env).2.bind fun w => runtime.check.map fun _ => w) := by
    refine hconfig.bind fun w w' hsame => ?_
    cases runtime.check with
    | error e => exact .error e
    | ok _ => exact .ok hsame
  simp only [Options.openIn, hnotices]
  generalize ((o.config env).2.bind fun w => runtime.check.map fun _ => w) = result at hchecked
  generalize ((o'.config env).2.bind fun w => runtime.check.map fun _ => w) = result' at hchecked
  cases hchecked with
  | error e => exact ⟨rfl, .error e⟩
  | ok hsame =>
      refine ⟨?_, .ok hsame⟩
      simp only [Config.name, Config.jobType, hsame.request, hsame.pollInterval]

end Options.AsksLike

end Worker

namespace Session

open Worker

/-! ### Sessions side by side -/

/-- Two workers, opened in two sessions, that are in lockstep. -/
structure Opened.InStep (g g' : Scripted) (o : Opened σ) (o' : Opened σ') : Prop where
  config : o.config.AsksLike o'.config
  lockstep : Lockstep o.config o'.config ⟨g, o.state, o.permits⟩ ⟨g', o'.state, o'.permits⟩

/-- Two sessions with as much to grant, whose workers are in lockstep. -/
structure Abreast (s : Session σ) (t : Session σ') : Prop where
  env : t.env = s.env
  supply : t.gateway.supply = s.gateway.supply
  held : t.held = s.held
  worker : Option.Rel (Opened.InStep s.gateway t.gateway) s.worker t.worker

/-- Two sessions that are abreast and have dispatched the same. -/
structure Even (r : Session σ × List Event) (r' : Session σ' × List Event) : Prop where
  abreast : Abreast r.1 r'.1
  dispatches : dispatches r'.2 = dispatches r.2

/-- What is done one after the other. -/
theorem Even.andThen {r q : Session σ × List Event} {r' q' : Session σ' × List Event}
    (h : Even r r') (hnext : Even q q') : Even (q.1, r.2 ++ q.2) (q'.1, r'.2 ++ q'.2) :=
  ⟨hnext.abreast, by simp only [dispatches_append, h.dispatches, hnext.dispatches]⟩

variable {s : Session σ} {t : Session σ'}

/-- Whatever the caller does with the gateways, they can only grant the same afterwards. -/
theorem Abreast.withGateway (h : Abreast s t) {g g' : Scripted} (hsupply : g'.supply = g.supply) :
    Abreast { s with gateway := g } { t with gateway := g' } := by
  obtain ⟨env, gateway, worker, held, awaited⟩ := s
  obtain ⟨env', gateway', worker', held', awaited'⟩ := t
  obtain ⟨rfl, -, rfl, hworker⟩ := h
  refine ⟨rfl, hsupply, rfl, ?_⟩
  cases hworker with
  | none => exact .none
  | @some o o' hsame =>
      refine .some ⟨hsame.config, hsame.lockstep.congr rfl rfl rfl rfl ?_⟩
      change { World.front ⟨gateway', o'.state, o'.permits⟩ with supply := g'.supply } =
        { World.front ⟨gateway, o.state, o.permits⟩ with supply := g.supply }
      rw [hsame.lockstep.front, hsupply]

/-- Who holds the workers and whose end is awaited is nothing to them. -/
theorem Abreast.withHandle (h : Abreast s t) {held : Bool} {awaited awaited' : Awaited} :
    Abreast { s with held, awaited } { t with held, awaited := awaited' } :=
  ⟨h.env, h.supply, rfl, h.worker⟩

/-- What keeps workers in lockstep keeps sessions abreast. -/
theorem Abreast.onWorker (h : Abreast s t)
    {f : Config σ → World Scripted σ → World Scripted σ × List Event}
    {f' : Config σ' → World Scripted σ' → World Scripted σ' × List Event}
    (hf : ∀ w w' x y, w.AsksLike w' → Lockstep w w' x y → Together w w' (f w x) (f' w' y)) :
    Even (s.onWorker f) (t.onWorker f') := by
  obtain ⟨env, gateway, worker, held, awaited⟩ := s
  obtain ⟨env', gateway', worker', held', awaited'⟩ := t
  obtain ⟨rfl, hsupply, rfl, hworker⟩ := h
  cases hworker with
  | none => exact ⟨⟨rfl, hsupply, rfl, .none⟩, rfl⟩
  | some hsame =>
      have htogether := hf _ _ _ _ hsame.config hsame.lockstep
      exact ⟨⟨rfl, congrArg Front.supply htogether.lockstep.front, rfl,
        .some ⟨hsame.config, htogether.lockstep⟩⟩, htogether.dispatches⟩

theorem Abreast.settle (h : Abreast s t) : Even s.settle t.settle := by
  refine h.onWorker fun w w' x y hw hlockstep => ?_
  have hfuel : fuel y = fuel x := by
    simp only [fuel, Scripted.pending,
      show y.gateway.script = x.gateway.script from congrArg (·.supply.script) hlockstep.front,
      show y.state.queue = x.state.queue from congrArg (·.queue) hlockstep.front]
  rw [hfuel]
  exact hlockstep.settle hw (fuel x)

theorem Abreast.closeWorker (h : Abreast s t) : Even s.closeWorker t.closeWorker := by
  refine h.onWorker fun w w' x y hw hlockstep => ?_
  have hclosings : ∀ {σ : Type} (w : Config σ) (s : State σ), dispatches (s.close w).2 = [] := by
    intro σ w s
    unfold State.close
    split <;> simp [Event.isDispatch]
  refine ⟨?_, (hclosings w' _).trans (hclosings w _).symm⟩
  simp only [closed_close]
  exact hlockstep.congr rfl rfl rfl rfl
    (congrArg (fun front : Front => { front with closed := true }) hlockstep.front)

theorem Abreast.closeHeld (h : Abreast s t) : Even s.closeHeld t.closeHeld := by
  unfold Session.closeHeld
  rw [h.held]
  split
  · exact h.closeWorker
  · exact ⟨h, rfl⟩

theorem Abreast.adopt (h : Abreast s t) {w : Config σ} {w' : Config σ'} (hw : w.AsksLike w') :
    Abreast (s.adopt w) (t.adopt w') := by
  refine ⟨h.env, h.supply, rfl, .some ⟨hw, ?_, [], .idle, .idle rfl .fresh, .idle rfl .fresh⟩⟩
  exact congrArg (fun supply => (⟨supply, 0, [], false, false, .starting⟩ : Front)) h.supply

/-! ### Actions -/

/-- The same action twice, or two by which workers are opened that ask alike. -/
inductive Mirrors : Action σ → Action σ' → Prop
  | push (entry : Scripted.Entry) : Mirrors (.push entry) (.push entry)
  | hold : Mirrors .hold .hold
  | overGrant : Mirrors .overGrant .overGrant
  | request (request : ActivateRequest) : Mirrors (.request request) (.request request)
  | activate (request : ActivateRequest) (cancellation : Activation.Cancellation) :
      Mirrors (.activate request cancellation) (.activate request cancellation)
  | activateWith (options : Activation.Options) :
      Mirrors (.activateWith options) (.activateWith options)
  | opening {options : Options σ} {options' : Options σ'} (h : options.AsksLike options') :
      Mirrors (.opening options) (.opening options')
  | close : Mirrors .close .close
  | drop : Mirrors .drop .drop
  | shutdown : Mirrors .shutdown .shutdown
  | release (permits : Nat) : Mirrors (.release permits) (.release permits)
  | tick : Mirrors .tick .tick

/-- An action of a caller that only tells how commands are answered, sends one itself, drafts a
request or looks. -/
inductive Aside : Action σ → Prop
  | refuseCompletions (error : Option GatewayError) : Aside (.refuseCompletions error)
  | refuseFailures (error : Option GatewayError) : Aside (.refuseFailures error)
  | send (command : Command) : Aside (.send command)
  | draft (options : Activation.Options) : Aside (.draft options)
  | look : Aside .look

/-- Asking once is answered alike. -/
theorem run_alike {g g' : Scripted} (h : g'.supply = g.supply) (request : ActivateRequest)
    (cancellation : Activation.Cancellation) :
    (Activation.run request cancellation g').1.supply =
        (Activation.run request cancellation g).1.supply ∧
      (Activation.run request cancellation g').2.1 = (Activation.run request cancellation g).2.1 := by
  obtain ⟨hsupply, hanswer⟩ := activate_alike h request
  unfold Activation.run
  split
  · exact ⟨h, rfl⟩
  · split
    · exact ⟨h, rfl⟩
    · cases hasked : Gateway.activate g request with
      | mk _ answer =>
          cases hasked' : Gateway.activate g' request with
          | mk _ answer' =>
              rw [hasked, hasked'] at hsupply hanswer
              obtain rfl : answer' = answer := hanswer
              cases answer' <;> exact ⟨hsupply, rfl⟩

theorem send_alike {g g' : Scripted} (h : g'.supply = g.supply) {env env' : Environment}
    (henv : env' = env) (options : Activation.Options) :
    (options.send env' g').1.supply = (options.send env g).1.supply ∧
      (options.send env' g').2.1 = (options.send env g).2.1 := by
  subst henv
  unfold Activation.Options.send
  split
  · exact ⟨h, rfl⟩
  · rename_i notices request _
    obtain ⟨hsupply, hevents⟩ := run_alike h request .never
    exact ⟨hsupply, congrArg (Event.ofNotices notices ++ ·) hevents⟩

theorem Abreast.openWorker (h : Abreast s t) {options : Options σ} {options' : Options σ'}
    (hoptions : options.AsksLike options') :
    Even ((s.openWorker options).1, (s.openWorker options).2.1)
      ((t.openWorker options').1, (t.openWorker options').2.1) := by
  obtain ⟨hnotices, hopened⟩ := hoptions.openIn s.env .multiThread
  have hclose := h.closeHeld
  have hsettle := hclose.abreast.settle
  unfold Session.openWorker
  rw [h.env]
  cases hopen : options.openIn s.env .multiThread with
  | mk notices result =>
      cases hopen' : options'.openIn s.env .multiThread with
      | mk notices' result' =>
          rw [hopen, hopen'] at hnotices hopened
          obtain rfl : notices' = notices := hnotices
          cases hopened with
          | error e => exact ⟨h, rfl⟩
          | ok hw =>
              have hadopt : Even (_, Event.ofNotices notices') (_, Event.ofNotices notices') :=
                ⟨hsettle.abreast.adopt hw, rfl⟩
              exact (hclose.andThen hsettle).andThen hadopt

theorem Abreast.shutdown (h : Abreast s t) :
    Even ((s.act .shutdown).1, (s.act .shutdown).2.1) ((t.act .shutdown).1, (t.act .shutdown).2.1) := by
  have hclose := h.closeWorker
  have hsettle := hclose.abreast.settle
  simp only [Session.act, h.held]
  split
  · exact ⟨hsettle.abreast.withHandle, (hclose.andThen hsettle).dispatches⟩
  · exact ⟨h, rfl⟩

theorem Abreast.release (h : Abreast s t) (permits : Nat) :
    Abreast (s.act (.release permits)).1 (t.act (.release permits)).1 := by
  obtain ⟨env, gateway, worker, held, awaited⟩ := s
  obtain ⟨env', gateway', worker', held', awaited'⟩ := t
  obtain ⟨rfl, hsupply, rfl, hworker⟩ := h
  refine ⟨rfl, hsupply, rfl, ?_⟩
  cases hworker with
  | none => exact .none
  | some hsame =>
      exact .some ⟨hsame.config, hsame.lockstep.congr rfl rfl rfl rfl (congrArg
        (fun front : Front => { front with permits := front.permits + permits }) hsame.lockstep.front)⟩

/-- The same actions keep sessions abreast. -/
theorem Abreast.act (h : Abreast s t) {a : Action σ} {b : Action σ'} (hab : Mirrors a b) :
    Even ((s.act a).1, (s.act a).2.1) ((t.act b).1, (t.act b).2.1) := by
  cases hab with
  | push entry =>
      exact ⟨h.withGateway (congrArg (fun supply : Scripted.Supply =>
        { supply with script := supply.script ++ [entry] }) h.supply), rfl⟩
  | hold =>
      exact ⟨h.withGateway (congrArg (fun supply : Scripted.Supply =>
        { supply with holding := true }) h.supply), rfl⟩
  | overGrant =>
      exact ⟨h.withGateway (congrArg (fun supply : Scripted.Supply =>
        { supply with overGranting := true }) h.supply), rfl⟩
  | request request =>
      obtain ⟨hsupply, hanswer⟩ := activate_alike h.supply request
      refine ⟨h.withGateway hsupply, ?_⟩
      simp only [Session.act, hanswer]
  | activate request cancellation =>
      obtain ⟨hsupply, hevents⟩ := run_alike h.supply request cancellation
      exact ⟨h.withGateway hsupply, congrArg dispatches hevents⟩
  | activateWith options =>
      obtain ⟨hsupply, hevents⟩ := send_alike h.supply h.env options
      exact ⟨h.withGateway hsupply, congrArg dispatches hevents⟩
  | opening hoptions => exact h.openWorker hoptions
  | close => exact ⟨h.closeHeld.abreast, h.closeHeld.dispatches⟩
  | drop => exact ⟨h.closeHeld.abreast.withHandle, h.closeHeld.dispatches⟩
  | shutdown => exact h.shutdown
  | release permits => exact ⟨h.release permits, rfl⟩
  | tick =>
      have htick := h.onWorker fun w w' x y hw hlockstep => hlockstep.elapse hw
      exact ⟨htick.abreast, htick.dispatches⟩

/-- An aside dispatches nothing and leaves what there is to be granted. -/
theorem act_of_aside {a : Action σ} (ha : Aside a) :
    dispatches (s.act a).2.1 = [] ∧
      ∃ g, (s.act a).1 = { s with gateway := g } ∧ g.supply = s.gateway.supply := by
  cases ha with
  | refuseCompletions error => exact ⟨rfl, _, rfl, rfl⟩
  | refuseFailures error => exact ⟨rfl, _, rfl, rfl⟩
  | send command => exact ⟨rfl, _, rfl, rfl⟩
  | draft options => exact ⟨dispatches_ofNotices _, _, rfl, rfl⟩
  | look => exact ⟨rfl, _, rfl, rfl⟩

/-! ### Steps and runs -/

theorem Abreast.step (h : Abreast s t) {a : Action σ} {b : Action σ'} (hab : Mirrors a b) :
    Even ((s.step a).1, (s.step a).2.1) ((t.step b).1, (t.step b).2.1) := by
  have hact := h.act hab
  exact hact.andThen hact.abreast.settle

/-- While one session takes an aside, the other may stay where it is, at rest. -/
theorem Abreast.aside_left (h : Abreast s t) (ht : t.Rests) {a : Action σ} (ha : Aside a) :
    Even ((s.step a).1, (s.step a).2.1) (t, []) := by
  obtain ⟨hnone, g, hact, hsupply⟩ := act_of_aside (s := s) ha
  have hmoved : Even ((s.act a).1, (s.act a).2.1) (t, []) := by
    rw [hact]
    exact ⟨h.withGateway (h.supply.trans hsupply.symm), hnone.symm⟩
  have hstep := hmoved.andThen hmoved.abreast.settle
  rwa [settle_of_rests ht] at hstep

theorem Abreast.aside_right (h : Abreast s t) (hs : s.Rests) {b : Action σ'} (hb : Aside b) :
    Even (s, []) ((t.step b).1, (t.step b).2.1) := by
  obtain ⟨hnone, g, hact, hsupply⟩ := act_of_aside (s := t) hb
  have hmoved : Even (s, []) ((t.act b).1, (t.act b).2.1) := by
    rw [hact]
    exact ⟨h.withGateway (hsupply.trans h.supply), hnone⟩
  have hstep := hmoved.andThen hmoved.abreast.settle
  rwa [settle_of_rests hs] at hstep

/-- In both sessions the same is done, but for asides. -/
inductive Mirrored : List (Action σ) → List (Action σ') → Prop
  | nil : Mirrored [] []
  | both {a : Action σ} {b : Action σ'} {actions : List (Action σ)} {actions' : List (Action σ')}
      (hab : Mirrors a b) (hrest : Mirrored actions actions') :
      Mirrored (a :: actions) (b :: actions')
  | left {a : Action σ} {actions : List (Action σ)} {actions' : List (Action σ')} (ha : Aside a)
      (hrest : Mirrored actions actions') : Mirrored (a :: actions) actions'
  | right {b : Action σ'} {actions : List (Action σ)} {actions' : List (Action σ')} (hb : Aside b)
      (hrest : Mirrored actions actions') : Mirrored actions (b :: actions')

theorem Abreast.run {actions : List (Action σ)} {actions' : List (Action σ')}
    (hactions : Mirrored actions actions') (h : Abreast s t) (hs : s.Rests) (ht : t.Rests) :
    Even (s.run actions) (t.run actions') := by
  induction hactions generalizing s t with
  | nil => exact ⟨h, rfl⟩
  | both hab _ ih =>
      have hstep := h.step hab
      exact hstep.andThen (ih hstep.abreast (step_rests s _) (step_rests t _))
  | left ha _ ih =>
      have hstep := h.aside_left ht ha
      exact hstep.andThen (ih hstep.abreast (step_rests s _) ht)
  | right hb _ ih =>
      have hstep := h.aside_right hs hb
      exact hstep.andThen (ih hstep.abreast hs (step_rests t _))

/--
**Outcomes decide nothing.**  The same is done in two sessions, but for asides at any time: commands
are refused, or refused no more, and the caller sends commands.  Workers are opened with other
handlers and complete jobs or not; the handlers wait with the same jobs and as often, and whatever
else they do, send, remember and hand back is up to them.  Then the same requests for jobs are made in
both sessions, the same jobs are granted, and handlers are started with the same jobs, all in the same
order.
-/
theorem outcomes_decide_nothing (env : Environment) {actions : List (Action σ)}
    {actions' : List (Action σ')} (h : Mirrored actions actions') :
    let events := ((start env).run actions).2
    let events' := ((start env).run actions').2
    dispatches events' = dispatches events ∧ requests events' = requests events ∧
      grants events' = grants events ∧ handed events' = handed events := by
  have hstart : Abreast (start env : Session σ) (start env : Session σ') :=
    ⟨rfl, rfl, rfl, .none⟩
  have hsame := (hstart.run h (by rintro o ⟨⟩) (by rintro o ⟨⟩)).dispatches
  refine ⟨hsame, ?_, ?_, ?_⟩
  · rw [← requests_dispatches, hsame, requests_dispatches]
  · rw [← grants_dispatches, hsame, grants_dispatches]
  · rw [← handed_dispatches, hsame, handed_dispatches]

/-! ### Two sessions to look at -/

/-- Nothing is done with jobs, but the second one waits. -/
def idlePlans : Plans where
  standard := Plan.blank
  byKey := [(JobKey.ofInt 2, [{ Plan.blank with blocks := true }])]

/-- The second job waits, and then its handler breaks off; the others fail by commands for another
job. -/
def busyPlans : Plans where
  standard := { Plan.blank with
    commands := [⟨.fail 0 "not mine", some (JobKey.ofInt 7), true⟩]
    choice := .last }
  byKey := [(JobKey.ofInt 2, [{ Plan.blank with
    blocks := true
    panic := some (.withText "out of order") }])]

theorem busyPlans_waits : busyPlans.waits = idlePlans.waits := by
  funext jobs job
  unfold Plans.waits
  generalize (jobs.map Job.key).count job.key = n
  cases hkey : job.key == JobKey.ofInt 2 <;> cases n <;>
    simp [Plans.plan, busyPlans, idlePlans, List.lookup_cons, hkey, Plan.blank]

/-- A worker with plans. -/
def planned (plans : Plans) (autoComplete : Bool) : Options Plan.Memory where
  jobType := some "email"
  handler := some plans.handler
  maxJobsActive := some 2
  timeout := some (.ofSecs 60)
  name := some "w"
  pollInterval := some (.ofMillis 100)
  fetchVariables := []
  autoComplete

/-- All goes well. -/
def smooth : List (Action Plan.Memory) :=
  [.push (.batch [sampleJob 1, sampleJob 2, sampleJob 3]), .opening (planned idlePlans true),
    .release 1, .tick, .shutdown]

/-- Nothing goes well. -/
def rough : List (Action Plan.Memory) :=
  [.refuseFailures (some refusal), .push (.batch [sampleJob 1, sampleJob 2, sampleJob 3]),
    .opening (planned busyPlans false), .refuseFailures none, .release 1,
    .send (.complete ⟨JobKey.ofInt 9, none⟩), .tick, .shutdown]

theorem outcomes_decide_nothing_rough :
    let events := ((start .unset).run smooth).2
    let events' := ((start .unset).run rough).2
    dispatches events' = dispatches events ∧
      handed events' = [sampleJob 1, sampleJob 2, sampleJob 3] ∧
      (requests events').map (·.maxJobs) = [2, 2, 2, 2] ∧
      (commands events).map Command.key = [1, 2, 3].map JobKey.ofInt ∧
      (commands events').map Command.key = [7, 2, 7, 9].map JobKey.ofInt := by
  have hopening : (planned idlePlans true).AsksLike (planned busyPlans false) :=
    ⟨rfl, .some ⟨_, idlePlans.waitsAs, busyPlans_waits ▸ busyPlans.waitsAs⟩, rfl, rfl, rfl, rfl, rfl⟩
  have hmirrored : Mirrored smooth rough :=
    .right (.refuseFailures _) <| .both (.push _) <| .both (.opening hopening) <|
      .right (.refuseFailures _) <| .both (.release 1) <| .right (.send _) <| .both .tick <|
      .both .shutdown .nil
  obtain ⟨hsame, -, -, hhanded⟩ := outcomes_decide_nothing .unset hmirrored
  exact ⟨hsame, hhanded.trans rfl, rfl, rfl, rfl⟩

end Session

end JobWorker
