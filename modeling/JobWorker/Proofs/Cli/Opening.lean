/-
Opening workers is all or nothing.

Whether settings are valid does not depend on when they are looked at, so what has been checked for all
workers is not refused when they are opened.  `Known` says what is known of opening at each stage, and
one act keeps it: before the last settings have been checked no worker is open and nothing has been
asked of a gateway, and after that no settings are refused any more.  Between one worker and the next
those that are open may do what they like.

The program makes one step of all this.  It reports the same error, or serves with the same workers.
-/
import JobWorker.Cli.Opening
import JobWorker.Proofs.Cli.Verdicts

namespace JobWorker.Cli

open Worker

/-! ### Settings for several workers -/

namespace WorkerArguments

variable {a : WorkerArguments} {env : Environment} {runtime : Runtime}

/-- The error for the first type of jobs whose settings are invalid. -/
inductive FirstInvalid (a : WorkerArguments) (env : Environment) : ConfigError → Prop
  | first {before after : List String} {jobType : String} {e : ConfigError} :
      a.jobTypes = before ++ jobType :: after → (∀ t ∈ before, (a.options t).Valid) →
      ((a.options jobType).validate env).2 = .error e → FirstInvalid a env e

/-- The worker for jobs of a type, if it can be opened. -/
def worker (a : WorkerArguments) (env : Environment) (runtime : Runtime) (jobType : String) :
    Except ConfigError (Config Unit) :=
  ((a.options jobType).openIn env runtime).2

/-- Settings that are refused are invalid. -/
theorem not_valid_of_validate {o : Options Unit} {e : ConfigError} (h : (o.validate env).2 = .error e) :
    ¬ o.Valid := by
  intro hvalid
  obtain ⟨done, hdone⟩ := (@Options.validate_isOk_iff _ o env).2 hvalid
  rw [h] at hdone
  cases hdone

/-- Workers are refused with the error for the first type whose settings are invalid. -/
theorem openAll_eq_error_iff {e : ConfigError} : a.openAll env = .error e ↔ FirstInvalid a env e := by
  have hchecked : (a.jobTypes.map a.options).mapM (fun o => (o.validate env).2) = .error e ↔
      FirstInvalid a env e := by
    rw [List.mapM_map, mapM_eq_error_iff]
    constructor
    · rintro ⟨before, jobType, after, hsplit, hbefore, he⟩
      exact .first hsplit (fun t ht => Options.validate_isOk_iff.1 (hbefore t ht)) he
    · rintro ⟨hsplit, hbefore, he⟩
      exact ⟨_, _, _, hsplit, fun t ht => Options.validate_isOk_iff.2 (hbefore t ht), he⟩
  constructor
  · intro h
    rcases bind_eq_error_iff.1 h with hfirst | ⟨checks, hchecks, -⟩
    · exact hchecked.1 hfirst
    -- All settings have been checked, and so all workers can be opened.
    · have hvalid : ∀ t ∈ a.jobTypes, (a.options t).Valid := by
        have hall := mapM_isOk_iff.1 ⟨checks, hchecks⟩
        exact fun t ht => Options.validate_isOk_iff.1 (hall _ (List.mem_map_of_mem ht))
      obtain ⟨workers, hworkers⟩ := (@openAll_isOk_iff a env).2 hvalid
      rw [h] at hworkers
      cases hworkers
  · intro h
    exact bind_eq_error_iff.2 (.inl (hchecked.2 h))

theorem FirstInvalid.unique {e e' : ConfigError} (h : FirstInvalid a env e) (h' : FirstInvalid a env e') :
    e = e' := by
  have heq := openAll_eq_error_iff.2 h
  rw [openAll_eq_error_iff.2 h'] at heq
  cases heq
  rfl

/-- One of the types has invalid settings, so there is a first one. -/
theorem exists_firstInvalid (h : ¬ ∀ t ∈ a.jobTypes, (a.options t).Valid) (env : Environment) :
    ∃ e, FirstInvalid a env e := by
  cases hopened : a.openAll env with
  | ok workers => exact absurd (openAll_isOk_iff.1 ⟨workers, hopened⟩) h
  | error e => exact ⟨e, openAll_eq_error_iff.1 hopened⟩

theorem FirstInvalid.not_valid {e : ConfigError} (h : FirstInvalid a env e) :
    ¬ ∀ t ∈ a.jobTypes, (a.options t).Valid := by
  obtain ⟨hsplit, -, he⟩ := h
  intro hvalid
  exact not_valid_of_validate he (hvalid _ (by simp [hsplit]))

theorem mapM_worker_of_openAll {workers : List (Config Unit)} (h : a.openAll env = .ok workers) :
    a.jobTypes.mapM (a.worker env .multiThread) = .ok workers := by
  obtain ⟨checks, -, h⟩ := bind_eq_ok_iff.1 h
  rw [List.mapM_map] at h
  exact h

/-! ### What workers are opened with -/

/-- A worker has the type of jobs that it was opened for, and is set up as the flags say. -/
structure OpenedFor (a : WorkerArguments) (env : Environment) (jobType : String) (w : Config Unit) :
    Prop where
  jobType_eq : w.jobType = jobType
  name_eq : w.name = a.name.getD env.workerName
  capacity_eq : w.capacity = a.maxJobs.toNat
  timeoutMs_eq : w.request.timeoutMs = a.timeout.millisWord
  pollInterval_eq : w.pollInterval = a.pollInterval.getD env.pollInterval.1
  fetchVariables_eq : w.request.fetchVariables = a.fetchVariables
  autoComplete_eq : w.autoComplete = a.autoComplete
  handler_eq : w.handler = printing

theorem openedFor_of_worker {jobType : String} {w : Config Unit}
    (h : a.worker env runtime jobType = .ok w) : OpenedFor a env jobType w := by
  obtain ⟨hconfig, -⟩ := Options.openIn_eq_ok_iff.1 h
  obtain ⟨hhandler, hautoComplete, hinterval⟩ := Options.parts_of_config hconfig
  obtain ⟨g, hgiven, hrequest⟩ := Options.request_of_config (Prod.ext rfl hconfig)
  obtain ⟨⟨hjobType, -⟩, -, hmaxJobs, htimeout, -⟩ := Options.given_eq_ok_iff.1 hgiven
  have hjobType : jobType = g.jobType := Option.some.inj hjobType
  have hmaxJobs : a.maxJobs = g.maxJobs.val := Option.some.inj hmaxJobs
  have htimeout : a.timeout = g.timeout := Option.some.inj htimeout
  refine
    { jobType_eq := ?_
      name_eq := ?_
      capacity_eq := ?_
      timeoutMs_eq := ?_
      pollInterval_eq := ?_
      fetchVariables_eq := ?_
      autoComplete_eq := hautoComplete
      handler_eq := (Option.some.inj hhandler).symm }
  · rw [Config.jobType, hrequest, hjobType]
    rfl
  · rw [Config.name, hrequest]
    rfl
  · rw [Config.capacity, hrequest, hmaxJobs]
  · rw [hrequest, htimeout]
    rfl
  · rw [hinterval]
    cases hgivenInterval : a.pollInterval with
    | none => simp [options, hgivenInterval, Activation.givenOr]
    | some d => simp [options, hgivenInterval, Activation.givenOr]
  · rw [hrequest]
    rfl

/-- Opening all workers makes one for each type, in order. -/
theorem forall₂_openedFor {workers : List (Config Unit)}
    (h : a.jobTypes.mapM (a.worker env runtime) = .ok workers) :
    List.Forall₂ (OpenedFor a env) a.jobTypes workers :=
  (mapM_eq_ok_iff.1 h).imp fun _ _ => openedFor_of_worker

end WorkerArguments

/-! ### Nothing is asked while settings are checked -/

/-- No gateway is called, and no worker is said to be open. -/
structure Quiet (events : List Event) : Prop where
  call : ∀ call, Event.call call ∉ events
  opened : ∀ name jobType capacity pollInterval,
    Event.noticed (.opened name jobType capacity pollInterval) ∉ events

theorem quiet_nil : Quiet [] := ⟨by simp, by simp⟩

theorem Quiet.append {events more : List Event} (h : Quiet events) (h' : Quiet more) :
    Quiet (events ++ more) where
  call call hmem := (List.mem_append.1 hmem).elim (h.call call) (h'.call call)
  opened name jobType capacity pollInterval hmem :=
    (List.mem_append.1 hmem).elim (h.opened name jobType capacity pollInterval)
      (h'.opened name jobType capacity pollInterval)

/-- Looking at settings only writes of the environment. -/
theorem quiet_config (o : Options Unit) (env : Environment) :
    Quiet (Event.ofNotices (o.config env).1) := by
  refine ⟨by simp [Event.ofNotices], fun name jobType capacity pollInterval hmem => ?_⟩
  obtain ⟨notice, hnotice, heq⟩ := List.mem_map.1 hmem
  have hsettings := o.ofSettings_config env notice hnotice
  rw [Event.noticed.inj heq] at hsettings
  cases hsettings

namespace Opening

variable {a : WorkerArguments} {env : Environment} {runtime : Runtime} {o o' : Opening}
  {events more : List Event}

/-! ### What happens next -/

section Proceed

variable {workers : List (Config Unit × State Unit)} {left : List String} {jobType : String}
  {notices : List Notice}

/-- Settings that are valid have been checked. -/
theorem proceed?_of_validate (h : (a.options jobType).validate env = (notices, .ok ())) :
    proceed? a env runtime ⟨workers, .checking (jobType :: left)⟩ =
      some (⟨workers, .checking left⟩, Event.ofNotices notices) := by
  simp only [proceed?, h]

/-- Settings that are not valid put an end to it. -/
theorem proceed?_of_not_validate {e : ConfigError}
    (h : (a.options jobType).validate env = (notices, .error e)) :
    proceed? a env runtime ⟨workers, .checking (jobType :: left)⟩ =
      some (⟨workers, .refused e⟩, Event.ofNotices notices) := by
  simp only [proceed?, h]

/-- One more worker is open. -/
theorem proceed?_of_openIn {w : Config Unit}
    (h : (a.options jobType).openIn env runtime = (notices, .ok w)) :
    proceed? a env runtime ⟨workers, .opening (jobType :: left)⟩ =
      some (⟨workers ++ [(w, w.start)], .opening left⟩, Event.ofNotices notices) := by
  simp only [proceed?, h]

/-- A worker cannot be opened. -/
theorem proceed?_of_not_openIn {e : ConfigError}
    (h : (a.options jobType).openIn env runtime = (notices, .error e)) :
    proceed? a env runtime ⟨workers, .opening (jobType :: left)⟩ =
      some (⟨(letGo ⟨workers, .opening (jobType :: left)⟩).1, .refused e⟩,
        Event.ofNotices notices ++ (letGo ⟨workers, .opening (jobType :: left)⟩).2) := by
  simp only [proceed?, h]

end Proceed

/-! ### What is known -/

/-- What is known at each stage. -/
inductive Known (a : WorkerArguments) (env : Environment) (runtime : Runtime) :
    Opening → List Event → Prop
  | checking {before left : List String} {events : List Event} : a.jobTypes = before ++ left →
      (∀ t ∈ before, (a.options t).Valid) → Quiet events →
      Known a env runtime ⟨[], .checking left⟩ events
  | opening {before left : List String} {workers : List (Config Unit × State Unit)}
      {events : List Event} : a.jobTypes = before ++ left → (∀ t ∈ a.jobTypes, (a.options t).Valid) →
      before.mapM (a.worker env runtime) = .ok (workers.map Prod.fst) →
      (workers = [] → Quiet events) → Known a env runtime ⟨workers, .opening left⟩ events
  | opened {workers : List (Config Unit × State Unit)} {events : List Event} :
      (∀ t ∈ a.jobTypes, (a.options t).Valid) →
      a.jobTypes.mapM (a.worker env runtime) = .ok (workers.map Prod.fst) →
      Known a env runtime ⟨workers, .opened⟩ events
  | refused {e : ConfigError} {events : List Event} : a.FirstInvalid env e → Quiet events →
      Known a env runtime ⟨[], .refused e⟩ events
  | unsupported {e : ConfigError} {events : List Event} : (∀ t ∈ a.jobTypes, (a.options t).Valid) →
      runtime.check = .error e → Quiet events → Known a env runtime ⟨[], .refused e⟩ events

theorem known_start : Known a env runtime (start a) [] :=
  .checking (List.nil_append _).symm (List.forall_mem_nil _) quiet_nil

/-- A move of a worker leaves alone which workers are open. -/
theorem Known.work {k : Nat} {m : Move} (h : Known a env runtime o events)
    (hstep : o.work? k m = some (o', more)) : Known a env runtime o' (events ++ more) := by
  simp only [work?, Option.bind_eq_bind, Option.bind_eq_some_iff, Option.pure_def,
    Option.some.injEq, Prod.mk.injEq] at hstep
  obtain ⟨⟨w, s⟩, hworker, ⟨s', events'⟩, -, rfl, rfl⟩ := hstep
  have hsame : (o.workers.set k (w, s')).map Prod.fst = o.workers.map Prod.fst := by
    have hw : (o.workers.map Prod.fst)[k]? = some w := by
      rw [List.getElem?_map, hworker]
      rfl
    obtain ⟨hlt, hw⟩ := List.getElem?_eq_some_iff.1 hw
    rw [List.map_set, ← hw]
    exact List.set_getElem_self hlt
  cases h with
  | checking | refused | unsupported => cases hworker
  | opening hsplit hvalid hworkers _ =>
    refine .opening hsplit hvalid (hsame ▸ hworkers) fun hnil => ?_
    rw [(List.set_eq_nil_iff _ _).1 hnil] at hworker
    cases hworker
  | opened hvalid hworkers => exact .opened hvalid (hsame ▸ hworkers)

/-- Checking the settings for one more worker. -/
theorem Known.check {jobType : String} {left : List String}
    (h : Known a env runtime ⟨[], .checking (jobType :: left)⟩ events)
    (hstep : proceed? a env runtime ⟨[], .checking (jobType :: left)⟩ = some (o', more)) :
    Known a env runtime o' (events ++ more) := by
  cases h with
  | @checking before _ _ hsplit hbefore hquiet =>
    have hquiet' : Quiet (events ++ Event.ofNotices ((a.options jobType).validate env).1) :=
      hquiet.append (quiet_config (a.options jobType) env)
    cases hvalidate : (a.options jobType).validate env with
    | mk notices result =>
      rw [hvalidate] at hquiet'
      cases result with
      | ok =>
        rw [proceed?_of_validate hvalidate] at hstep
        cases hstep
        have hvalid : (a.options jobType).Valid := Options.validate_isOk_iff.1 ⟨(), by rw [hvalidate]⟩
        have hsplit : a.jobTypes = (before ++ [jobType]) ++ left := by
          rw [hsplit, List.append_assoc, List.singleton_append]
        exact .checking hsplit
          (List.forall_mem_append.2 ⟨hbefore, List.forall_mem_singleton.2 hvalid⟩) hquiet'
      | error e =>
        rw [proceed?_of_not_validate hvalidate] at hstep
        cases hstep
        have he : ((a.options jobType).validate env).2 = .error e := by rw [hvalidate]
        exact .refused (.first hsplit hbefore he) hquiet'

/-- With valid settings, a worker is refused for the runtime only. -/
theorem check_of_openIn {jobType : String} {notices : List Notice} {e : ConfigError}
    (hvalid : (a.options jobType).Valid)
    (hopen : (a.options jobType).openIn env runtime = (notices, .error e)) :
    runtime.check = .error e ∧ Quiet (Event.ofNotices notices) := by
  obtain ⟨w, hconfig⟩ := (@Options.config_isOk_iff _ _ env).2 hvalid
  cases hcheck : runtime.check with
  | ok =>
    have hok := Options.openIn_eq_ok_iff.2 ⟨hconfig, hcheck⟩
    rw [hopen] at hok
    cases hok
  | error e' =>
    simp only [Options.openIn, hconfig, hcheck, Except.bind, Except.map, Prod.mk.injEq,
      Except.error.injEq] at hopen
    obtain ⟨rfl, rfl⟩ := hopen
    exact ⟨rfl, quiet_config _ env⟩

/-- Had a worker been opened before, the runtime would have allowed it. -/
theorem workers_eq_nil {e : ConfigError} (hcheck : runtime.check = .error e) {before : List String}
    {workers : List (Config Unit × State Unit)}
    (hworkers : before.mapM (a.worker env runtime) = .ok (workers.map Prod.fst)) : workers = [] := by
  have hnone : before = [] := by
    rw [List.eq_nil_iff_forall_not_mem]
    intro t ht
    obtain ⟨w, hw⟩ := mapM_isOk_iff.1 ⟨_, hworkers⟩ t ht
    have hok := (Options.openIn_eq_ok_iff.1 hw).2
    rw [hcheck] at hok
    cases hok
  rw [hnone, List.mapM_nil] at hworkers
  cases workers with
  | nil => rfl
  | cons worker workers => cases hworkers

/-- Opening one more worker; it can only be refused for the runtime, and then it is the first. -/
theorem Known.openNext {jobType : String} {left : List String}
    {workers : List (Config Unit × State Unit)}
    (h : Known a env runtime ⟨workers, .opening (jobType :: left)⟩ events)
    (hstep : proceed? a env runtime ⟨workers, .opening (jobType :: left)⟩ = some (o', more)) :
    Known a env runtime o' (events ++ more) := by
  cases h with
  | @opening before _ _ _ hsplit hvalid hworkers hquiet =>
    cases hopen : (a.options jobType).openIn env runtime with
    | mk notices result =>
      cases result with
      | ok w =>
        rw [proceed?_of_openIn hopen] at hstep
        cases hstep
        have hworker : a.worker env runtime jobType = .ok w := by rw [WorkerArguments.worker, hopen]
        have hsplit : a.jobTypes = (before ++ [jobType]) ++ left := by
          rw [hsplit, List.append_assoc, List.singleton_append]
        refine .opening hsplit hvalid ?_ (by simp)
        rw [List.mapM_append, hworkers, List.mapM_cons, hworker]
        simp [bind, Except.bind, pure, Except.pure]
      | error e =>
        rw [proceed?_of_not_openIn hopen] at hstep
        cases hstep
        obtain ⟨hcheck, hnotices⟩ := check_of_openIn (hvalid _ (by simp [hsplit])) hopen
        obtain rfl : workers = [] := workers_eq_nil hcheck hworkers
        exact .unsupported hvalid hcheck ((hquiet rfl).append (hnotices.append quiet_nil))

/-- **One act keeps what is known.** -/
theorem Known.act {act : Act} (h : Known a env runtime o events)
    (hstep : o.act? a env runtime act = some (o', more)) :
    Known a env runtime o' (events ++ more) := by
  cases act with
  | work k m => exact h.work hstep
  | proceed =>
    cases h with
    | @checking before left _ hsplit hbefore hquiet =>
      cases left with
      | cons jobType left => exact (Known.checking hsplit hbefore hquiet).check hstep
      | nil =>
        cases hstep
        rw [List.append_nil] at hsplit
        refine .opening (List.nil_append _).symm ?_ rfl fun _ => hquiet.append quiet_nil
        rwa [hsplit]
    | @opening before left workers _ hsplit hvalid hworkers hquiet =>
      cases left with
      | cons jobType left => exact (Known.opening hsplit hvalid hworkers hquiet).openNext hstep
      | nil =>
        cases hstep
        rw [List.append_nil] at hsplit
        exact .opened hvalid (hsplit ▸ hworkers)
    | opened | refused | unsupported => cases hstep

/-- Acts are done one by one. -/
theorem run?_cons_eq_some_iff {act : Act} {acts : List Act} {all : List Event} :
    o.run? a env runtime (act :: acts) = some (o', all) ↔
      ∃ t events more, o.act? a env runtime act = some (t, events) ∧
        t.run? a env runtime acts = some (o', more) ∧ all = events ++ more := by
  simp only [run?, Option.bind_eq_bind, Option.bind_eq_some_iff, Option.pure_def,
    Option.some.injEq, Prod.exists, Prod.mk.injEq]
  constructor
  · rintro ⟨t, events, hact, o₁, more, hrun, rfl, rfl⟩
    exact ⟨t, events, more, hact, hrun, rfl⟩
  · rintro ⟨t, events, more, hact, hrun, rfl⟩
    exact ⟨t, events, hact, o', more, hrun, rfl, rfl⟩

/-- What is known holds after any acts. -/
theorem Known.run {acts : List Act} (h : Known a env runtime o events)
    (hrun : o.run? a env runtime acts = some (o', more)) : Known a env runtime o' (events ++ more) := by
  induction acts generalizing o events more with
  | nil =>
    cases hrun
    rwa [List.append_nil]
  | cons act acts ih =>
    obtain ⟨t, first, rest, hact, hrest, rfl⟩ := run?_cons_eq_some_iff.mp hrun
    rw [← List.append_assoc]
    exact ih (h.act hact) hrest

theorem known_of_run {acts : List Act} (h : (start a).run? a env runtime acts = some (o, events)) :
    Known a env runtime o events :=
  known_start.run h

/-! ### Opening can come to its end -/

/-- Some acts lead from one state to another. -/
def Leads (a : WorkerArguments) (env : Environment) (runtime : Runtime) (o o' : Opening) : Prop :=
  ∃ acts events, o.run? a env runtime acts = some (o', events)

theorem Leads.refl (o : Opening) : Leads a env runtime o o := ⟨[], [], rfl⟩

theorem run?_append {acts acts' : List Act} {o'' : Opening}
    (h : o.run? a env runtime acts = some (o', events))
    (h' : o'.run? a env runtime acts' = some (o'', more)) :
    o.run? a env runtime (acts ++ acts') = some (o'', events ++ more) := by
  induction acts generalizing o events with
  | nil =>
    cases h
    exact h'
  | cons act acts ih =>
    obtain ⟨t, first, rest, hact, hrest, rfl⟩ := run?_cons_eq_some_iff.mp h
    rw [List.append_assoc]
    exact run?_cons_eq_some_iff.mpr ⟨t, first, rest ++ more, hact, ih hrest, rfl⟩

theorem Leads.trans {o'' : Opening} (h : Leads a env runtime o o') (h' : Leads a env runtime o' o'') :
    Leads a env runtime o o'' := by
  obtain ⟨acts, events, hrun⟩ := h
  obtain ⟨acts', more, hrun'⟩ := h'
  exact ⟨acts ++ acts', events ++ more, run?_append hrun hrun'⟩

/-- One more act in front. -/
theorem Leads.proceed {o'' : Opening} (hstep : o.proceed? a env runtime = some (o', events))
    (h : Leads a env runtime o' o'') : Leads a env runtime o o'' :=
  .trans ⟨[.proceed], events, by simp [run?, act?, hstep]⟩ h

variable {workers : List (Config Unit × State Unit)} {left : List String}

/-- Valid settings are checked to the last. -/
theorem leads_checked (hvalid : ∀ t ∈ left, (a.options t).Valid) :
    Leads a env runtime ⟨workers, .checking left⟩ ⟨workers, .opening a.jobTypes⟩ := by
  induction left with
  | nil => exact .proceed rfl (.refl _)
  | cons jobType left ih =>
    obtain ⟨hjobType, hleft⟩ := List.forall_mem_cons.1 hvalid
    obtain ⟨⟨⟩, hdone⟩ := (@Options.validate_isOk_iff _ _ env).2 hjobType
    exact .proceed (proceed?_of_validate (Prod.ext rfl hdone)) (ih hleft)

/-- Invalid settings are found. -/
theorem leads_refused (hinvalid : ¬ ∀ t ∈ left, (a.options t).Valid) :
    ∃ e, Leads a env runtime ⟨workers, .checking left⟩ ⟨workers, .refused e⟩ := by
  induction left with
  | nil => exact absurd (List.forall_mem_nil _) hinvalid
  | cons jobType left ih =>
    cases hvalidate : (a.options jobType).validate env with
    | mk notices result =>
      cases result with
      | error e => exact ⟨e, .proceed (proceed?_of_not_validate hvalidate) (.refl _)⟩
      | ok =>
        have hjobType : (a.options jobType).Valid := Options.validate_isOk_iff.1 ⟨(), by rw [hvalidate]⟩
        have hleft : ¬ ∀ t ∈ left, (a.options t).Valid := fun h =>
          hinvalid (List.forall_mem_cons.2 ⟨hjobType, h⟩)
        obtain ⟨e, he⟩ := ih hleft
        exact ⟨e, .proceed (proceed?_of_validate hvalidate) he⟩

/-- Workers that can be opened are opened, one behind the other. -/
theorem leads_opened {opened : List (Config Unit)}
    (h : left.mapM (a.worker env runtime) = .ok opened) :
    Leads a env runtime ⟨workers, .opening left⟩
      ⟨workers ++ opened.map fun w => (w, w.start), .opened⟩ := by
  induction left generalizing workers opened with
  | nil =>
    obtain rfl : [] = opened := Except.ok.inj h
    rw [List.map_nil, List.append_nil]
    exact .proceed rfl (.refl _)
  | cons jobType left ih =>
    rw [List.mapM_cons] at h
    obtain ⟨w, hw, h⟩ := bind_eq_ok_iff.1 h
    obtain ⟨opened, hopened, h⟩ := bind_eq_ok_iff.1 h
    cases h
    have hmore : Leads a env runtime ⟨workers ++ [(w, w.start)], .opening left⟩
        ⟨workers ++ [(w, w.start)] ++ opened.map fun w => (w, w.start), .opened⟩ := ih hopened
    rw [List.append_assoc] at hmore
    exact .proceed (proceed?_of_openIn (Prod.ext rfl hw)) hmore

end Opening

/-! ### All or nothing -/

/-- What is known of opening workers with invalid settings, whatever is done on the way. -/
structure OpensNothing (a : WorkerArguments) (env : Environment) (e : ConfigError) : Prop where
  /-- No worker is open at any time, no gateway is called, and no other error is reported. -/
  nothing : ∀ {runtime acts o events}, (Opening.start a).run? a env runtime acts = some (o, events) →
    o.workers = [] ∧ Quiet events ∧ o.stage ≠ .opened ∧ ∀ e', o.stage = .refused e' → e' = e
  /-- It can always come to its end. -/
  ends : ∀ {runtime acts o events}, (Opening.start a).run? a env runtime acts = some (o, events) →
    Opening.Leads a env runtime o ⟨[], .refused e⟩
  /-- The program exits with the error before anything goes over the network. -/
  exits : ∀ {ν : Type} [Rest.Network ν] {arguments : List String} {items : List Item} (network : ν),
    read arguments = .ok (.run .worker items) → workerArguments items = .ok a →
    run arguments env network = .exited (.failure 2 e.message) network

/-- What is known of opening workers with valid settings, in a runtime with several threads. -/
structure OpensAll (a : WorkerArguments) (env : Environment) (workers : List (Config Unit)) : Prop where
  /-- There is one worker for each type, in order, set up as the flags say. -/
  each : List.Forall₂ (WorkerArguments.OpenedFor a env) a.jobTypes workers
  /-- The workers that are open at any time are the first of these, and all of them in the end. -/
  opens : ∀ {acts o events}, (Opening.start a).run? a env .multiThread acts = some (o, events) →
    o.workers.map Prod.fst <+: workers ∧ (∀ e, o.stage ≠ .refused e) ∧
      (o.stage = .opened → o.workers.map Prod.fst = workers)
  /-- It can always come to its end. -/
  ends : ∀ {acts o events}, (Opening.start a).run? a env .multiThread acts = some (o, events) →
    ∃ o', Opening.Leads a env .multiThread o o' ∧ o'.stage = .opened
  /-- The program serves with these workers. -/
  serves : ∀ {ν : Type} [Rest.Network ν] {arguments : List String} {items : List Item} (network : ν),
    read arguments = .ok (.run .worker items) → workerArguments items = .ok a →
    run arguments env network = .serving (.start ⟨endpoint items env, network⟩ workers)

theorem opensNothing_of_firstInvalid {a : WorkerArguments} {env : Environment} {e : ConfigError}
    (h : a.FirstInvalid env e) : OpensNothing a env e where
  nothing := by
    intro runtime acts o events hrun
    cases Opening.known_of_run hrun with
    | checking _ _ hquiet => exact ⟨rfl, hquiet, by simp, by simp⟩
    | opening _ hvalid _ _ | opened hvalid _ | unsupported hvalid _ _ => exact absurd hvalid h.not_valid
    | refused h' hquiet =>
      refine ⟨rfl, hquiet, by simp, fun e' he' => ?_⟩
      cases he'
      exact h'.unique h
  ends := by
    intro runtime acts o events hrun
    cases Opening.known_of_run hrun with
    | opening _ hvalid _ _ | opened hvalid _ | unsupported hvalid _ _ => exact absurd hvalid h.not_valid
    | refused h' hquiet =>
      rw [h'.unique h]
      exact .refl _
    | @checking before left _ hsplit hbefore hquiet =>
      have hleft : ¬ ∀ t ∈ left, (a.options t).Valid := by
        intro hleft
        refine h.not_valid ?_
        rw [hsplit]
        exact List.forall_mem_append.2 ⟨hbefore, hleft⟩
      obtain ⟨e', acts', more, hrun'⟩ :
          ∃ e', Opening.Leads a env runtime ⟨[], .checking left⟩ ⟨[], .refused e'⟩ :=
        Opening.leads_refused hleft
      -- Whatever is reported is the error for the first type.
      have hend := (Opening.Known.checking hsplit hbefore hquiet).run hrun'
      cases hend with
      | refused h' _ =>
        rw [← h'.unique h]
        exact ⟨acts', more, hrun'⟩
      | unsupported hvalid _ _ => exact absurd hvalid h.not_valid
  exits := by
    intro ν _ arguments items network hread ha
    simp only [run, hread, serve, ha, WorkerArguments.openAll_eq_error_iff.2 h]
    rfl

/-- Where a row of steps succeeds, so do the first of them and the others. -/
theorem exists_append_of_mapM {α β ε : Type} {f : α → Except ε β} {xs xs' : List α} {ys ys' : List β}
    (h : (xs ++ xs').mapM f = .ok ys') (hxs : xs.mapM f = .ok ys) :
    ∃ more, xs'.mapM f = .ok more ∧ ys' = ys ++ more := by
  rw [List.mapM_append, hxs] at h
  obtain ⟨ys'', hys, h⟩ := bind_eq_ok_iff.1 h
  cases hys
  obtain ⟨more, hmore, h⟩ := bind_eq_ok_iff.1 h
  cases h
  exact ⟨more, hmore, rfl⟩

theorem opensAll_of_openAll {a : WorkerArguments} {env : Environment} {workers : List (Config Unit)}
    (h : a.openAll env = .ok workers) : OpensAll a env workers where
  each := WorkerArguments.forall₂_openedFor (WorkerArguments.mapM_worker_of_openAll h)
  opens := by
    intro acts o events hrun
    have hall := WorkerArguments.mapM_worker_of_openAll h
    cases Opening.known_of_run hrun with
    | checking => exact ⟨List.nil_prefix, by simp, by simp⟩
    | opening hsplit _ hworkers _ =>
      rw [hsplit] at hall
      obtain ⟨more, -, rfl⟩ := exists_append_of_mapM hall hworkers
      exact ⟨List.prefix_append _ _, by simp, by simp⟩
    | opened _ hworkers =>
      rw [hall] at hworkers
      obtain rfl := Except.ok.inj hworkers
      exact ⟨List.prefix_refl _, by simp, fun _ => rfl⟩
    | refused h' _ => exact absurd (openAll_isOk_iff.1 ⟨workers, h⟩) h'.not_valid
    | unsupported _ hcheck _ => cases hcheck
  ends := by
    intro acts o events hrun
    have hall := WorkerArguments.mapM_worker_of_openAll h
    have hvalid := openAll_isOk_iff.1 ⟨workers, h⟩
    cases Opening.known_of_run hrun with
    | @checking before left _ hsplit _ _ =>
      have hleft : ∀ t ∈ left, (a.options t).Valid := fun t ht => hvalid t (by simp [hsplit, ht])
      exact ⟨_, (Opening.leads_checked hleft).trans (Opening.leads_opened hall), rfl⟩
    | opening hsplit _ hworkers _ =>
      rw [hsplit] at hall
      obtain ⟨more, hmore, -⟩ := exists_append_of_mapM hall hworkers
      exact ⟨_, Opening.leads_opened hmore, rfl⟩
    | opened => exact ⟨_, .refl _, rfl⟩
    | refused h' _ => exact absurd hvalid h'.not_valid
    | unsupported _ hcheck _ => cases hcheck
  serves := by
    intro ν _ arguments items network hread ha
    simp only [run, hread, serve, ha, h]

/--
**All or nothing.**  If the settings for any of the types are invalid, then in every runtime no worker is
opened and no gateway is called, whatever is done on the way.  What is reported is the error for the first
of these types, and the program exits with code 2.  Otherwise, in a runtime with several threads, one
worker is opened for each type, in order and with the same settings, and the program serves with these
workers.
-/
theorem opening_is_all_or_nothing (a : WorkerArguments) (env : Environment) :
    ((∃ t ∈ a.jobTypes, ¬ (a.options t).Valid) → ∃ e, a.FirstInvalid env e ∧ OpensNothing a env e) ∧
    ((∀ t ∈ a.jobTypes, (a.options t).Valid) → ∃ workers, OpensAll a env workers) := by
  constructor
  · rintro ⟨t, ht, hinvalid⟩
    obtain ⟨e, he⟩ := WorkerArguments.exists_firstInvalid (fun hvalid => hinvalid (hvalid t ht)) env
    exact ⟨e, he, opensNothing_of_firstInvalid he⟩
  · intro hvalid
    obtain ⟨workers, hworkers⟩ := (@openAll_isOk_iff a env).2 hvalid
    exact ⟨workers, opensAll_of_openAll hworkers⟩

/-- Workers for jobs of some types, with the same flags otherwise. -/
def sampleArguments (jobTypes : List String) : WorkerArguments where
  jobTypes
  maxJobs := 2
  timeout := .ofSecs 1
  pollInterval := none
  name := some "cli"
  fetchVariables := ["a"]
  autoComplete := true

/-- A blank type behind another one keeps all workers from being opened, and a type may be repeated. -/
theorem opening_is_all_or_nothing_blank :
    OpensNothing (sampleArguments ["foo", " ", ""]) .unset (.invalid .jobType .empty) ∧
      ∃ workers, OpensAll (sampleArguments ["foo", "bar", "foo"]) .unset workers ∧
        workers.map Config.jobType = ["foo", "bar", "foo"] := by
  have hvalid : ∀ jobTypes t, Text.isBlankText t = false →
      ((sampleArguments jobTypes).options t).Valid := fun jobTypes t ht =>
    ⟨⟨t, rfl, ht⟩, ⟨printing, rfl⟩, ⟨2, rfl, by decide⟩, ⟨.ofSecs 1, rfl, by decide⟩,
      fun h => by cases h⟩
  constructor
  · have hblank : (((sampleArguments ["foo", " ", ""]).options " ").validate .unset).2 =
        .error (.invalid .jobType .empty) := rfl
    obtain ⟨hnothing, -⟩ := opening_is_all_or_nothing (sampleArguments ["foo", " ", ""]) .unset
    obtain ⟨e, he, h⟩ := hnothing ⟨" ", by decide, WorkerArguments.not_valid_of_validate hblank⟩
    have hsplit : (sampleArguments ["foo", " ", ""]).jobTypes = ["foo"] ++ " " :: [""] := rfl
    have hfoo : ∀ t ∈ ["foo"], ((sampleArguments ["foo", " ", ""]).options t).Valid :=
      List.forall_mem_singleton.2 (hvalid _ "foo" (by decide))
    have hfirst := WorkerArguments.FirstInvalid.first hsplit hfoo hblank
    rwa [he.unique hfirst] at h
  · obtain ⟨-, hall⟩ := opening_is_all_or_nothing (sampleArguments ["foo", "bar", "foo"]) .unset
    have htypes : ∀ t ∈ ["foo", "bar", "foo"], Text.isBlankText t = false := by decide
    obtain ⟨workers, hworkers⟩ := hall fun t ht => hvalid _ t (htypes t ht)
    refine ⟨workers, hworkers, ?_⟩
    have hsame : List.Forall₂ (fun w t => w.jobType = t) workers ["foo", "bar", "foo"] :=
      hworkers.each.flip.imp fun w t h => h.jobType_eq
    rw [← List.forall₂_map_left_iff, List.forall₂_eq_eq_eq] at hsame
    exact hsame

end JobWorker.Cli
