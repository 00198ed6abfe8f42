/-
Opening a worker checks before it starts anything.

An opening that fails has written to the log, perhaps, and that is all.  The lines it writes are about the
environment.  So whoever leaves out all checks and all openings that fail sees the same workers do the
same: each act does to a crew what the members of the crew decide, and the log decides nothing.
-/
import JobWorker.Proofs.Session.Rest
import JobWorker.Proofs.Settings.Faults
import JobWorker.Proofs.Settings.Validity
import JobWorker.Worker.Crew
import JobWorker.Worker.Wish

namespace JobWorker

open Worker

/-- Whether an event is more than a notice about the environment. -/
def Event.counts : Event → Bool
  | .noticed notice => !notice.ofSettings
  | _ => true

theorem filter_counts_ofNotices {notices : List Notice}
    (h : ∀ notice ∈ notices, notice.ofSettings = true) :
    (Event.ofNotices notices).filter Event.counts = [] := by
  rw [List.filter_eq_nil_iff]
  intro event hmem
  obtain ⟨notice, hnotice, rfl⟩ := List.mem_map.1 hmem
  simp [Event.counts, h notice hnotice]

namespace Worker.Crew

variable {σ α β : Type} {o : Options σ} {env : Environment} {runtime : Runtime} {c c' d : Crew σ}
  {a : Act σ} {acts : List (Act σ)}

/-! ### What is done to a crew -/

/-- The crew, when something has been written to the log. -/
def noting (c : Crew σ) (notices : List Notice) : Crew σ :=
  { c with events := c.events ++ Event.ofNotices notices }

theorem noting_noting (c : Crew σ) (notices more : List Notice) :
    (c.noting notices).noting more = c.noting (notices ++ more) := by
  simp [noting, Event.ofNotices]

theorem run_bind_of_ok {x : Doing σ α} {f : α → Doing σ β} {a : α} (h : x.run c = (.ok a, c')) :
    (x >>= f).run c = (f a).run c' := by
  have h : StateT.run (ExceptT.run x) c = (.ok a, c') := h
  show StateT.run (ExceptT.run (x >>= f)) c = _
  rw [ExceptT.run_bind, StateT.run_bind, h]
  rfl

theorem run_bind_of_error {x : Doing σ α} {f : α → Doing σ β} {e : ConfigError}
    (h : x.run c = (.error e, c')) : (x >>= f).run c = (.error e, c') := by
  have h : StateT.run (ExceptT.run x) c = (.error e, c') := h
  show StateT.run (ExceptT.run (x >>= f)) c = _
  rw [ExceptT.run_bind, StateT.run_bind, h]
  rfl

theorem run_write (notices : List Notice) (c : Crew σ) :
    (write notices : Doing σ Unit).run c = (.ok (), c.noting notices) := rfl

theorem run_check (o : Options σ) (env : Environment) (c : Crew σ) :
    (check o env).run c = ((o.config env).2, c.noting (o.config env).1) := by
  unfold check
  rw [run_bind_of_ok (run_write _ c)]
  rfl

/-- Checking options writes to the log, and that is all. -/
theorem run_validate (o : Options σ) (env : Environment) (c : Crew σ) :
    (Crew.validate o env).run c = ((o.validate env).2, c.noting (o.config env).1) := by
  have hcheck := run_check o env c
  unfold Crew.validate Options.validate
  rcases hconfig : o.config env with ⟨notices, e | w⟩
  · rw [hconfig] at hcheck
    rw [run_bind_of_error hcheck]
    rfl
  · rw [hconfig] at hcheck
    rw [run_bind_of_ok hcheck]
    rfl

/-- An opening that fails writes of the environment, and that is all. -/
theorem run_openWorker_of_error {e : ConfigError} (h : (o.openIn env runtime).2 = .error e)
    (c : Crew σ) :
    (openWorker o env runtime).run c = (.error e, c.noting (o.config env).1) := by
  have hcheck := run_check o env c
  unfold Options.openIn at h
  unfold Crew.openWorker
  rcases hconfig : o.config env with ⟨notices, e' | w⟩
  · rw [hconfig] at h hcheck
    cases h
    rw [run_bind_of_error hcheck]
  · rw [hconfig] at h hcheck
    rw [run_bind_of_ok hcheck]
    cases hruntime : runtime.check with
    | error e' =>
        rw [hruntime] at h
        cases h
        rfl
    | ok done =>
        rw [hruntime] at h
        cases h

/-- An opening that succeeds starts one worker. -/
theorem run_openWorker_of_ok {w : Config σ} (h : (o.openIn env runtime).2 = .ok w) (c : Crew σ) :
    (openWorker o env runtime).run c =
      (.ok w, { c.noting (o.openIn env runtime).1 with members := c.members ++ [(w, w.start)] }) := by
  have hcheck := run_check o env c
  obtain ⟨hconfig, hruntime⟩ := Options.openIn_eq_ok_iff.1 h
  have hnotices : (o.openIn env runtime).1 =
      (o.config env).1 ++ [.opened w.name w.jobType w.request.maxJobs w.pollInterval] := by
    simp [Options.openIn, hconfig, hruntime, Except.bind, Except.map]
  rw [hconfig] at hcheck
  unfold Crew.openWorker
  rw [run_bind_of_ok hcheck, hruntime, hnotices, ← noting_noting]
  rfl

/-- Whether an act is a move, or an opening that succeeds. -/
def Act.counts (env : Environment) : Act σ → Bool
  | .validate _ => false
  | .opening o runtime => (o.openIn env runtime).2.isOk
  | .work .. => true

/-- There are the same workers, and the same has happened but for what was written about the
environment. -/
structure Alike (c d : Crew σ) : Prop where
  members : c.members = d.members
  events : c.events.filter Event.counts = d.events.filter Event.counts

theorem Alike.refl (c : Crew σ) : Alike c c := ⟨rfl, rfl⟩

theorem Alike.trans {d' : Crew σ} (h : Alike c d) (h' : Alike d d') : Alike c d' :=
  ⟨h.members.trans h'.members, h.events.trans h'.events⟩

theorem Alike.append {members : List (Config σ × State σ)} (h : Alike c d) (more : List Event) :
    Alike ⟨members, c.events ++ more⟩ ⟨members, d.events ++ more⟩ :=
  ⟨rfl, by rw [List.filter_append, h.events, List.filter_append]⟩

theorem alike_noting (o : Options σ) (env : Environment) (c : Crew σ) :
    Alike (c.noting (o.config env).1) c := by
  refine ⟨rfl, ?_⟩
  rw [noting, List.filter_append, filter_counts_ofNotices (o.ofSettings_config env), List.append_nil]

/-- An act that does not count does nothing that counts. -/
theorem alike_of_not_counts (hcounts : a.counts env = false) (hact : c.act? env a = some c') :
    Alike c' c := by
  cases a with
  | validate o =>
      rw [act?, run_validate] at hact
      cases hact
      exact alike_noting o env c
  | opening o runtime =>
      cases hopen : (o.openIn env runtime).2 with
      | error e =>
          rw [act?, run_openWorker_of_error hopen] at hact
          cases hact
          exact alike_noting o env c
      | ok w =>
          rw [Act.counts, hopen] at hcounts
          cases hcounts
  | work k m => cases hcounts

/-- What is done to a crew can be done to every crew like it, and leads to crews that are alike. -/
theorem Alike.act (h : Alike c d) (hcounts : a.counts env = true) (hact : c.act? env a = some c') :
    ∃ d', d.act? env a = some d' ∧ Alike c' d' := by
  cases a with
  | validate o => cases hcounts
  | opening o runtime =>
      cases hopen : (o.openIn env runtime).2 with
      | error e =>
          rw [Act.counts, hopen] at hcounts
          cases hcounts
      | ok w =>
          rw [act?, run_openWorker_of_ok hopen] at hact
          cases hact
          refine ⟨_, by rw [act?, run_openWorker_of_ok hopen], ?_⟩
          rw [h.members]
          exact h.append _
  | work k m =>
      simp only [act?, Option.bind_eq_bind, Option.bind_eq_some_iff] at hact
      obtain ⟨⟨w, s⟩, hmember, ⟨s', more⟩, hmove, hc⟩ := hact
      cases hc
      refine ⟨⟨d.members.set k (w, s'), d.events ++ more⟩, ?_, ?_⟩
      · rw [act?, ← h.members, hmember]
        simp [hmove]
      · rw [h.members]
        exact h.append more

theorem run?_cons_eq_some_iff :
    c.run? env (a :: acts) = some c' ↔ ∃ c₁, c.act? env a = some c₁ ∧ c₁.run? env acts = some c' :=
  foldlM_cons_eq_some_iff

theorem Alike.run (h : Alike c d) (hrun : c.run? env acts = some c') :
    ∃ d', d.run? env (acts.filter (Act.counts env)) = some d' ∧ Alike c' d' := by
  induction acts generalizing c d with
  | nil =>
      cases hrun
      exact ⟨d, rfl, h⟩
  | cons a acts ih =>
      obtain ⟨c₁, hact, hacts⟩ := run?_cons_eq_some_iff.1 hrun
      by_cases hcounts : a.counts env = true
      · rw [List.filter_cons_of_pos hcounts]
        obtain ⟨d₁, hact', h₁⟩ := h.act hcounts hact
        obtain ⟨d', hacts', h'⟩ := ih h₁ hacts
        exact ⟨d', run?_cons_eq_some_iff.2 ⟨d₁, hact', hacts'⟩, h'⟩
      · rw [List.filter_cons_of_neg hcounts]
        have hleft := alike_of_not_counts (by simpa using hcounts) hact
        exact ih (hleft.trans h) hacts

/-- A crew in which no worker was opened has none, and nothing was asked of a gateway. -/
theorem nothing_of_not_opened (hrun : empty.run? env acts = some c)
    (hfails : ∀ o runtime, .opening o runtime ∈ acts → ∃ e, (o.openIn env runtime).2 = .error e) :
    c.members = [] ∧ requests c.events = [] ∧ commands c.events = [] := by
  obtain ⟨d, hleft, hmembers, hevents⟩ := (Alike.refl empty).run hrun
  -- What is left of the acts are moves, and there is nobody to make one.
  have hd : d = empty := by
    cases hacts : acts.filter (Act.counts env) with
    | nil =>
        rw [hacts] at hleft
        cases hleft
        rfl
    | cons a more =>
        rw [hacts] at hleft
        obtain ⟨ha, hcounts⟩ := List.mem_filter.1 (hacts ▸ List.mem_cons_self : a ∈ acts.filter _)
        obtain ⟨c₁, hact, -⟩ := run?_cons_eq_some_iff.1 hleft
        cases a with
        | validate o => cases hcounts
        | opening o runtime =>
            obtain ⟨e, he⟩ := hfails o runtime ha
            rw [Act.counts, he] at hcounts
            cases hcounts
        | work k m => cases hact
  have hcalls : c.events.filter Event.counts = [] := by rw [hevents, hd]; rfl
  have hskip : ∀ e : Event, e.counts = false → e.request? = none ∧ e.command? = none := by
    intro e he
    cases e with
    | noticed notice => exact ⟨rfl, rfl⟩
    | _ => cases he
  refine ⟨by rw [hmembers, hd]; rfl, ?_, ?_⟩
  · rw [requests, ← pick_filter fun e he => (hskip e he).1, hcalls]
    rfl
  · rw [commands, ← pick_filter fun e he => (hskip e he).2, hcalls]
    rfl

end Worker.Crew

/-! ### Openings that fail in a session -/

/-- An opening that fails leaves a session at rest as it was. -/
theorem Session.step_of_not_openIn {σ : Type} {s : Session σ} {o : Options σ} {e : ConfigError}
    (hrests : s.Rests) (h : (o.openIn s.env .multiThread).2 = .error e) :
    s.step (.opening o) =
      (s, Event.ofNotices (o.openIn s.env .multiThread).1, .opened (.error e)) := by
  rcases hopen : o.openIn s.env .multiThread with ⟨notices, result⟩
  rw [hopen] at h
  have hact : s.act (.opening o) = (s, Event.ofNotices notices, .opened (.error e)) := by
    rw [act, Session.openWorker, hopen, show result = .error e from h]
  rw [step, hact]
  simp only [settle_of_rests hrests, List.append_nil]

/-! ### What settings decide -/

namespace Worker.Options

variable {σ : Type}

/-- What is asked of the settings of a worker. -/
structure Sound (o : Options σ) (env : Environment) : Prop where
  jobType : ∃ text, o.jobType = some text ∧ ∃ c ∈ text.toList, Text.isBlank c = false
  handler : o.handler ≠ none
  maxJobsActive : ∃ n, o.maxJobsActive = some n ∧ 0 < n.toNat
  timeout : ∃ d, o.timeout = some d ∧ d ≠ .zero
  pollInterval : (Activation.givenOr o.pollInterval env.pollInterval).1 ≠ .zero

theorem valid_iff_sound (o : Options σ) (env : Environment) : o.Valid ↔ o.Sound env := by
  have hblank : ∀ text, Text.isBlankText text = false ↔ ∃ c ∈ text.toList, Text.isBlank c = false := by
    intro text
    simp [Text.isBlankText]
  constructor
  · rintro ⟨⟨text, htext, hsome⟩, ⟨handler, hhandler⟩, hmax, htimeout, hpoll⟩
    exact ⟨⟨text, htext, (hblank text).1 hsome⟩, by simp [hhandler], hmax, htimeout,
      (Activation.givenOr_ne_zero_iff env.pollInterval_ne_zero).2 hpoll⟩
  · rintro ⟨⟨text, htext, hsome⟩, hhandler, hmax, htimeout, hpoll⟩
    exact ⟨⟨text, htext, (hblank text).2 hsome⟩, Option.ne_none_iff_exists'.1 hhandler, hmax, htimeout,
      (Activation.givenOr_ne_zero_iff env.pollInterval_ne_zero).1 hpoll⟩

theorem validate_eq_ok_iff {o : Options σ} {env : Environment} :
    (o.validate env).2 = .ok () ↔ ∃ w, (o.config env).2 = .ok w := by
  simp [validate, map_eq_ok_iff]

theorem validate_eq_error_iff {o : Options σ} {env : Environment} {e : ConfigError} :
    (o.validate env).2 = .error e ↔ (o.config env).2 = .error e := by
  rcases hconfig : o.config env with ⟨notices, e' | w⟩ <;> simp [validate, hconfig, Except.map]

theorem openIn_eq_error_iff {o : Options σ} {env : Environment} {runtime : Runtime} {e : ConfigError} :
    (o.openIn env runtime).2 = .error e ↔
      (o.config env).2 = .error e ∨ (∃ w, (o.config env).2 = .ok w) ∧ runtime.check = .error e := by
  rcases hconfig : o.config env with ⟨notices, e' | w⟩
  · simp [openIn, hconfig, Except.bind]
  · cases hcheck : runtime.check <;> simp [openIn, hconfig, hcheck, Except.bind, Except.map]

/-- No setting is refused because of the runtime. -/
theorem not_runtime_of_first {o : Options σ} {env : Environment} {settings : List Setting}
    {e : ConfigError} (h : First (o.Fault env) settings e) :
    e ≠ .noRuntime ∧ e ≠ .currentThreadRuntime := by
  induction h with
  | here hfault => cases hfault <;> simp
  | later _ _ ih => exact ih

/-- What is known of the settings of workers in an environment. -/
structure Decisive (σ : Type) (env : Environment) : Prop where
  accepted : ∀ o : Options σ, (o.validate env).2 = .ok () ↔ o.Sound env
  refused : ∀ (o : Options σ) (e : ConfigError),
    (o.validate env).2 = .error e ↔ First (o.Fault env) order e
  /-- An opening fails as the check does, or else for the runtime. -/
  opened : ∀ (o : Options σ) (runtime : Runtime) (e : ConfigError),
    (o.openIn env runtime).2 = .error e ↔
      (o.validate env).2 = .error e ∨ (o.validate env).2 = .ok () ∧ runtime.check = .error e
  runtime : ∀ (o : Options σ) (runtime : Runtime) (e : ConfigError),
    (o.openIn env runtime).2 = .error e → e = .noRuntime ∨ e = .currentThreadRuntime →
      (o.validate env).2 = .ok ()
  /-- Step by step, checks and openings come to this, and do no more than this. -/
  validating : ∀ (o : Options σ) (c : Crew σ),
    (Crew.validate o env).run c = ((o.validate env).2, c.noting (o.config env).1)
  failing : ∀ (o : Options σ) (runtime : Runtime) (e : ConfigError),
    (o.openIn env runtime).2 = .error e → ∀ c : Crew σ,
      (Crew.openWorker o env runtime).run c = (.error e, c.noting (o.config env).1)
  succeeding : ∀ (o : Options σ) (runtime : Runtime) (w : Config σ),
    (o.openIn env runtime).2 = .ok w → ∀ c : Crew σ,
      (Crew.openWorker o env runtime).run c =
        (.ok w, { c.noting (o.openIn env runtime).1 with members := c.members ++ [(w, w.start)] })
  notices : ∀ o : Options σ, ∀ notice ∈ (o.config env).1, notice.ofSettings = true
  /-- Checks and openings that fail can be left out of everything that is done. -/
  leftOut : ∀ (acts : List (Crew.Act σ)) (c c' : Crew σ), c.run? env acts = some c' →
    ∃ d, c.run? env (acts.filter (Crew.Act.counts env)) = some d ∧ Crew.Alike c' d
  /-- As long as every opening fails there are no workers, and no gateway is called. -/
  nothing : ∀ (acts : List (Crew.Act σ)) (c : Crew σ), Crew.empty.run? env acts = some c →
    (∀ o runtime, .opening o runtime ∈ acts → ∃ e, (o.openIn env runtime).2 = .error e) →
      c.members = [] ∧ requests c.events = [] ∧ commands c.events = []
  /-- The worker of a session goes on as if nobody had tried to open another. -/
  session : ∀ (s : Session σ), s.Reachable → s.env = env → ∀ (o : Options σ) (e : ConfigError),
    (o.openIn env .multiThread).2 = .error e →
      s.step (.opening o) =
        (s, Event.ofNotices (o.openIn env .multiThread).1, .opened (.error e))

/--
**Settings decide.**  Options are accepted if each of the settings is sound, and refused with a fault of
the first setting that has one otherwise.  An opening is refused with the same error, and when there is
none, because of the runtime.  An opening that fails writes of the environment and does nothing else:
it starts no worker, and nothing is asked of a gateway then or later that would not be asked without it.
-/
theorem settings_decide (σ : Type) (env : Environment) : Decisive σ env := by
  have hopened : ∀ (o : Options σ) (runtime : Runtime) (e : ConfigError),
      (o.openIn env runtime).2 = .error e ↔
        (o.validate env).2 = .error e ∨ (o.validate env).2 = .ok () ∧ runtime.check = .error e := by
    intro o runtime e
    rw [openIn_eq_error_iff, validate_eq_error_iff, validate_eq_ok_iff]
  have hrefused : ∀ (o : Options σ) (e : ConfigError),
      (o.validate env).2 = .error e ↔ First (o.Fault env) order e := by
    intro o e
    rw [validate_eq_error_iff]
    exact failsAs_config o env e
  exact
    { accepted := fun o => by rw [validate_eq_ok_iff, config_isOk_iff, valid_iff_sound]
      refused := hrefused
      opened := hopened
      runtime := by
        intro o runtime e hfails hruntime
        rcases (hopened o runtime e).1 hfails with hinvalid | ⟨hvalid, -⟩
        · obtain ⟨hnone, hcurrent⟩ := not_runtime_of_first ((hrefused o e).1 hinvalid)
          exact absurd hruntime (not_or.2 ⟨hnone, hcurrent⟩)
        · exact hvalid
      validating := fun o c => Crew.run_validate o env c
      failing := fun o runtime e hfails c => Crew.run_openWorker_of_error hfails c
      succeeding := fun o runtime w hopens c => Crew.run_openWorker_of_ok hopens c
      notices := fun o => o.ofSettings_config env
      leftOut := fun acts c c' hrun => (Crew.Alike.refl c).run hrun
      nothing := fun acts c hrun hfails => Crew.nothing_of_not_opened hrun hfails
      session := by
        rintro s hreachable rfl o e hfails
        exact Session.step_of_not_openIn hreachable.rests hfails }

/-- Options whose type is blank, with no handler and no room for jobs. -/
def hollow : Options Unit := ofWishes [.maxJobsActive 0, .jobType "\u3000 "]

/-- The type is looked at first.  Without a runtime it is the same, and a worker that is there already
is not disturbed. -/
theorem settings_decide_hollow :
    (hollow.validate .unset).2 = .error (.invalid .jobType .empty) ∧
      (hollow.openIn .unset .none).2 = .error (.invalid .jobType .empty) ∧
      ((Crew.openWorker hollow .unset .none).run ⟨[(sample, sample.start)], []⟩).2 =
        ⟨[(sample, sample.start)], []⟩ := by
  have hdecide := settings_decide Unit .unset
  have hinvalid : (hollow.validate .unset).2 = .error (.invalid .jobType .empty) :=
    (hdecide.refused _ _).2 (.here (.blankJobType rfl (List.all_eq_true.1 rfl)))
  have hfails : (hollow.openIn .unset .none).2 = .error (.invalid .jobType .empty) :=
    (hdecide.opened _ _ _).2 (.inl hinvalid)
  refine ⟨hinvalid, hfails, ?_⟩
  rw [hdecide.failing _ _ _ hfails]
  rfl

end Worker.Options

end JobWorker
