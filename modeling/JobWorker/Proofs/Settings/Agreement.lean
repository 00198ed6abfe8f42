/-
A worker and a single activation that are set up alike ask alike.

Most of what can be said about a worker can be said about a single activation, in other words.  Saying it
keeps the two sets of options alike.  The checks of the one are then the checks of the other, setting by
setting and in the same order; a worker looks at its handler and at its poll interval besides.

What the checks let through is the same request.  The worker makes it first of all (`firstAsked`), and the
activation makes it once.
-/
import JobWorker.Proofs.Activation.Looks
import JobWorker.Proofs.Settings.Refused
import JobWorker.Proofs.Worker.FirstRequest

namespace JobWorker

open Worker

/-! ### Saying the same in other words -/

/-- The setting of a single activation that stands for a setting of a worker, and the other way round. -/
def Setting.counterpart : Setting → Setting
  | .maxJobsActive => .limit
  | .limit => .maxJobsActive
  | setting => setting

/-- The same error about the setting that stands for it. -/
def ConfigError.counterpart : ConfigError → ConfigError
  | .missing setting => .missing setting.counterpart
  | .invalid setting flaw => .invalid setting.counterpart flaw
  | e => e

theorem Setting.counterpart_counterpart (setting : Setting) :
    setting.counterpart.counterpart = setting := by
  cases setting <;> rfl

theorem ConfigError.counterpart_counterpart (e : ConfigError) : e.counterpart.counterpart = e := by
  cases e <;> simp [counterpart, Setting.counterpart_counterpart]

theorem ConfigError.counterpart_inj {e e' : ConfigError} : e.counterpart = e'.counterpart ↔ e = e' := by
  constructor
  · intro h
    rw [← e.counterpart_counterpart, h, counterpart_counterpart]
  · exact congrArg counterpart

namespace Worker.Wish

variable {σ : Type}

/-- What is said of a worker, said of a single activation. -/
def once? : Wish σ → Option Activation.Wish
  | .jobType text => some (.jobType text)
  | .maxJobsActive n => some (.limit n)
  | .timeout d => some (.timeout d)
  | .timeoutMs ms => some (.timeout (.ofMillis ms))
  | .name text => some (.workerName text)
  | .fetchVariables names => some (.fetchVariables names)
  | .handler _ | .pollInterval _ | .autoCompletion => none

/-- The names of variables that are said. -/
def names? : Wish σ → Option (List String)
  | .fetchVariables names => some names
  | _ => none

end Worker.Wish

namespace Worker.Options

variable {σ : Type} {o : Options σ} {a : Activation.Options} {env : Environment}

/-- A worker and a single activation are set up alike. -/
structure Mirrors (o : Options σ) (a : Activation.Options) : Prop where
  jobType : a.jobType = o.jobType
  limit : a.limit = o.maxJobsActive
  timeout : a.timeout = o.timeout
  workerName : a.workerName = o.name
  fetchVariables : a.fetchVariables = o.fetchVariables

theorem mirrors_blank : Mirrors (blank : Options σ) .blank := ⟨rfl, rfl, rfl, rfl, rfl⟩

theorem Mirrors.add (h : Mirrors o a) (wish : Wish σ) :
    Mirrors (o.add wish) (wish.once?.elim a a.add) := by
  obtain ⟨hjobType, hlimit, htimeout, hname, hfetch⟩ := h
  cases wish with
  | jobType text => exact ⟨rfl, hlimit, htimeout, hname, hfetch⟩
  | maxJobsActive n => exact ⟨hjobType, rfl, htimeout, hname, hfetch⟩
  | timeout d => exact ⟨hjobType, hlimit, rfl, hname, hfetch⟩
  | timeoutMs ms => exact ⟨hjobType, hlimit, rfl, hname, hfetch⟩
  | name text => exact ⟨hjobType, hlimit, htimeout, rfl, hfetch⟩
  | fetchVariables names => exact ⟨hjobType, hlimit, htimeout, hname, congrArg (· ++ names) hfetch⟩
  | _ => exact ⟨hjobType, hlimit, htimeout, hname, hfetch⟩

theorem Mirrors.foldl (h : Mirrors o a) (wishes : List (Wish σ)) :
    Mirrors (wishes.foldl Options.add o) ((wishes.filterMap Wish.once?).foldl Activation.Options.add a) := by
  induction wishes generalizing o a with
  | nil => exact h
  | cons wish wishes ih =>
      have hadd := ih (h.add wish)
      rw [List.foldl_cons, List.filterMap_cons]
      cases honce : wish.once? <;> rw [honce] at hadd <;> exact hadd

theorem mirrors_ofWishes (wishes : List (Wish σ)) :
    Mirrors (ofWishes wishes) (.ofWishes (wishes.filterMap Wish.once?)) :=
  mirrors_blank.foldl wishes

/-- The names of variables add up. -/
theorem fetchVariables_foldl (o : Options σ) (wishes : List (Wish σ)) :
    (wishes.foldl add o).fetchVariables =
      o.fetchVariables ++ (wishes.filterMap Wish.names?).flatten := by
  induction wishes generalizing o with
  | nil => exact (List.append_nil _).symm
  | cons wish wishes ih =>
      rw [List.foldl_cons, ih, List.filterMap_cons]
      cases wish with
      | fetchVariables names => exact List.append_assoc ..
      | _ => rfl

/-! ### The same checks -/

theorem mapError_requiredText (setting : Setting) (text? : Option String) :
    (setting.requiredText text?).mapError ConfigError.counterpart =
      setting.counterpart.requiredText text? := by
  rw [Setting.requiredText, Setting.requiredText, mapError_bind]
  cases text? with
  | none => rfl
  | some text =>
      show Except.mapError _ (if _ then _ else _) = if _ then _ else _
      split <;> rfl

theorem mapError_requiredCount (setting : Setting) (count? : Option UInt32) :
    (setting.requiredCount count?).mapError ConfigError.counterpart =
      setting.counterpart.requiredCount count? := by
  rw [Setting.requiredCount, Setting.requiredCount, mapError_bind]
  cases count? with
  | none => rfl
  | some n =>
      show Except.mapError _ (dite _ _ _) = dite _ _ _
      split <;> rfl

theorem mapError_nonZero (setting : Setting) (d : Duration) :
    (setting.nonZero d).mapError ConfigError.counterpart = setting.counterpart.nonZero d := by
  rw [Setting.nonZero, Setting.nonZero]
  split <;> rfl

/-- The settings of a single activation are looked at in a row, too. -/
theorem request_snd_eq (a : Activation.Options) (env : Environment) :
    (a.request env).2 = do
      let jobType ← Setting.jobType.requiredText a.jobType
      let limit ← Setting.limit.requiredCount a.limit
      let timeout ← Setting.timeout.nonZero (Activation.givenOr a.timeout env.jobTimeout).1
      return { ActivateRequest.lease jobType (a.workerName.getD env.workerName) timeout with
        maxJobs := limit.val
        fetchVariables := a.fetchVariables } := by
  unfold Activation.Options.request
  cases Setting.jobType.requiredText a.jobType with
  | error e => rfl
  | ok jobType =>
      cases Setting.limit.requiredCount a.limit with
      | error e => rfl
      | ok limit => rfl

/-- A worker that has all that a single activation has no use for is checked as one. -/
theorem Mirrors.request_eq (h : Mirrors o a) {handler : Handler σ} {timeout : Duration}
    (hhandler : o.handler = some handler) (htimeout : o.timeout = some timeout)
    (hinterval : o.pollInterval ≠ some .zero) :
    (a.request env).2 =
      Config.request <$> (o.config env).2.mapError ConfigError.counterpart := by
  have hnonZero :
      Setting.pollInterval.nonZero (Activation.givenOr o.pollInterval env.pollInterval).1 = .ok _ :=
    Setting.nonZero_eq_ok_iff.2
      ⟨rfl, (Activation.givenOr_ne_zero_iff env.pollInterval_ne_zero).2 hinterval⟩
  rw [request_snd_eq, config_snd_eq, hnonZero, h.jobType, h.limit, h.timeout, h.workerName,
    h.fetchVariables, hhandler, htimeout]
  simp only [mapError_bind, map_bind, mapError_requiredText, mapError_requiredCount,
    mapError_nonZero, Setting.required, Setting.counterpart]
  rfl

end Worker.Options

/-! ### Agreement -/

/-- A single activation for some jobs makes its request and no other. -/
theorem Activation.requests_run_eq {γ : Type} [Gateway γ] {request : ActivateRequest}
    (hmax : request.maxJobs ≠ 0) (g : γ) : requests (run request .never g).2.1 = [request] := by
  rw [run_eq, Cancellation.looks, Stage.follow_fresh hmax rfl]
  exact congrArg (request :: ·) (Stage.not_called_of_asked request _).1

theorem Activation.requests_send_eq {γ : Type} [Gateway γ] {o : Activation.Options} {env : Environment}
    {r : ActivateRequest} (h : (o.request env).2 = .ok r) (g : γ) :
    requests (o.send env g).2.1 = [r] := by
  have hmax : r.maxJobs ≠ 0 := by
    obtain ⟨n, hn, hpos⟩ := (Activation.Options.request_isOk_iff.1 ⟨r, h⟩).limit
    obtain ⟨-, jobType, limit, -, hlimit, rfl⟩ := request_eq_ok (Prod.ext rfl h)
    rw [hlimit] at hn
    cases hn
    intro hzero
    simp [show n = 0 from hzero] at hpos
  have hrequest : o.request env = ((o.request env).1, .ok r) := Prod.ext rfl h
  rw [Options.send, hrequest]
  simpa using requests_run_eq hmax g

namespace Worker.Options

variable {σ : Type}

/-- A runtime with several threads refuses nobody. -/
theorem openIn_multiThread (o : Options σ) (env : Environment) :
    (o.openIn env .multiThread).2 = (o.config env).2 := by
  rcases hconfig : o.config env with ⟨notices, e | w⟩ <;>
    simp [openIn, hconfig, Runtime.check, Except.bind, Except.map]

/-- The options of a single activation of which the same is said as of a worker. -/
def once (wishes : List (Wish σ)) : Activation.Options := .ofWishes (wishes.filterMap Wish.once?)

/-- What a worker and a single activation have in common of which the same is said. -/
structure Agreement (wishes : List (Wish σ)) (env : Environment) : Prop where
  accepted : (∃ w, ((ofWishes wishes).openIn env .multiThread).2 = .ok w) ↔
    ∃ r, ((once wishes).request env).2 = .ok r
  /-- They are refused for the settings that stand for each other. -/
  refused : ∀ e, ((ofWishes wishes).openIn env .multiThread).2 = .error e ↔
    ((once wishes).request env).2 = .error e.counterpart
  /-- What the request says of the count and of the variables. -/
  content : ∀ r, ((once wishes).request env).2 = .ok r →
    (ofWishes wishes).maxJobsActive = some r.maxJobs ∧
    r.fetchVariables = (wishes.filterMap Wish.names?).flatten
  /-- Whatever happens to the worker, the first request that it makes is this one. -/
  first : ∀ w r, ((ofWishes wishes).openIn env .multiThread).2 = .ok w →
    ((once wishes).request env).2 = .ok r →
      ∀ (history : List Move) (s : State σ) (events : List Event), Reaches w history s events →
        requests events = [] ∨ ∃ rest, requests events = r :: rest
  /-- As long as it is open it can make it. -/
  ready : ∀ w r, ((ofWishes wishes).openIn env .multiThread).2 = .ok w →
    ((once wishes).request env).2 = .ok r →
      ∀ (history : List Move) (s : State σ) (events : List Event), Reaches w history s events →
        requests events = [] → s.closed = false →
          ∃ s', s.move? w .first = some (s', [.call (.activate r)])
  /-- The single activation makes this request and no other. -/
  once : ∀ r, ((once wishes).request env).2 = .ok r →
    ∀ {γ : Type} [Gateway γ] (g : γ), requests ((once wishes).send env g).2.1 = [r]

/--
**Agreement.**  Of a worker and of a single activation the same is said, in any order, and whatever else
has to be said of a worker.  Then the options of both are accepted, or those of both are refused for the
settings that stand for each other.  If they are accepted, the first request of the worker is the request
of the activation: for as many jobs as were said, with the names of variables of all wishes in order.
-/
theorem worker_agrees_with_activation {wishes : List (Wish σ)} (env : Environment)
    (hhandler : (ofWishes wishes).handler ≠ none)
    (hinterval : (ofWishes wishes).pollInterval ≠ some .zero)
    (htimeout : (ofWishes wishes).timeout ≠ none) : Agreement wishes env := by
  obtain ⟨handler, hhandler⟩ := Option.ne_none_iff_exists'.1 hhandler
  obtain ⟨timeout, htimeout⟩ := Option.ne_none_iff_exists'.1 htimeout
  have hmirrors : Mirrors (ofWishes wishes) (once wishes) := mirrors_ofWishes wishes
  have hrequest : ((once wishes).request env).2 =
      Config.request <$> ((ofWishes wishes).config env).2.mapError ConfigError.counterpart :=
    hmirrors.request_eq hhandler htimeout hinterval
  have hsame : ∀ w r, ((ofWishes wishes).openIn env .multiThread).2 = .ok w →
      ((once wishes).request env).2 = .ok r → r = w.request := by
    intro w r hw hr
    rw [openIn_multiThread] at hw
    rw [hrequest, hw] at hr
    exact (Except.ok.inj hr).symm
  refine ⟨?_, ?_, ?_, ?_, ?_, fun r hr γ _ g => Activation.requests_send_eq hr g⟩
  · rw [openIn_multiThread, hrequest]
    cases ((ofWishes wishes).config env).2 <;> simp [Except.mapError, Functor.map, Except.map]
  · intro e
    rw [openIn_multiThread, hrequest]
    cases ((ofWishes wishes).config env).2 <;>
      simp [Except.mapError, Functor.map, Except.map, ConfigError.counterpart_inj]
  · intro r hr
    obtain ⟨-, jobType, limit, -, hlimit, rfl⟩ := Activation.request_eq_ok (Prod.ext rfl hr)
    refine ⟨hmirrors.limit.symm.trans hlimit, ?_⟩
    exact hmirrors.fetchVariables.trans (fetchVariables_foldl blank wishes)
  · intro w r hw hr history s events hreaches
    rw [hsame w r hw hr]
    cases hreaches.firstAsked with
    | notYet hnone _ _ => exact .inl hnone
    | asked hfirst => exact .inr ⟨_, hfirst⟩
  · intro w r hw hr history s events hreaches hnone hopen
    rw [hsame w r hw hr]
    exact hreaches.firstAsked.move?_first hnone hopen

/-- What is said of a worker for some jobs, with two wishes for variables. -/
def plain (n : UInt32) : List (Wish Unit) :=
  [.fetchVariables ["address"], .timeoutMs 1500, .handler sampleHandler, .maxJobsActive n,
    .jobType "email", .autoCompletion, .fetchVariables ["name", "age"]]

theorem worker_agrees_with_activation_plain :
    (∃ w r, ((ofWishes (plain 2)).openIn .unset .multiThread).2 = .ok w ∧
      ((once (plain 2)).request .unset).2 = .ok r ∧ r.timeoutMs = 1500 ∧ r.worker = "default" ∧
      r.fetchVariables = ["address", "name", "age"] ∧
      ∃ s', w.start.move? w .first = some (s', [.call (.activate r)])) ∧
    ((once (plain 0)).request .unset).2 = .error (.invalid .limit .zero) := by
  have hagree : ∀ n, Agreement (plain n) .unset := fun n =>
    worker_agrees_with_activation .unset (Option.some_ne_none sampleHandler)
      (Option.some_ne_none Duration.zero).symm (Option.some_ne_none (Duration.ofMillis 1500))
  refine ⟨⟨_, _, rfl, rfl, rfl, rfl, ((hagree 2).content _ rfl).2, ?_⟩, ?_⟩
  · exact (hagree 2).ready _ _ rfl rfl [] _ [] rfl rfl rfl
  · exact ((hagree 0).refused (.invalid .maxJobsActive .zero)).1 rfl

end Worker.Options

end JobWorker
