/-
Which settings are valid.

What is valid is said here of what a caller gives, without a word about the order of the checks.  The
checks accept exactly that.  The environment has no part in it: what it says is only taken when it is
valid itself, and there is a valid default for everything else.
-/
import JobWorker.Proofs.Settings.Accepted

namespace JobWorker

/-! ### The environment -/

/-- A duration that is taken from the environment lasts some time if its default does. -/
theorem Environment.duration_ne_zero (env : Environment) (v : Variable) {default : Duration}
    (hdefault : default ≠ .zero) : (env.duration v default).1 ≠ .zero := by
  unfold duration
  split
  · exact hdefault
  · split
    · split
      · exact hdefault
      · rename_i hpos
        exact fun hzero => hpos (Duration.isZero_iff.mpr hzero)
    · exact hdefault

theorem Environment.jobTimeout_ne_zero (env : Environment) : env.jobTimeout.1 ≠ .zero :=
  env.duration_ne_zero .jobTimeout (by decide)

theorem Environment.pollInterval_ne_zero (env : Environment) : env.pollInterval.1 ≠ .zero :=
  env.duration_ne_zero .pollInterval (by decide)

/-- With such an environment, a duration is refused only if it is given as zero. -/
theorem Activation.givenOr_ne_zero_iff {given : Option Duration}
    {fromEnvironment : Duration × List Notice} (henv : fromEnvironment.1 ≠ .zero) :
    (givenOr given fromEnvironment).1 ≠ .zero ↔ given ≠ some .zero := by
  cases given <;> simp [givenOr, henv]

/-- Whether a notice is about a setting of the environment that was passed over. -/
def Notice.ofSettings : Notice → Bool
  | .zeroDuration .. | .invalidDuration .. => true
  | _ => false

/-! ### Single activations -/

namespace Activation.Options

/-- What a caller must say about a single activation. -/
structure Valid (o : Options) : Prop where
  jobType : ∃ text, o.jobType = some text ∧ Text.isBlankText text = false
  limit : ∃ n, o.limit = some n ∧ 0 < n.toNat
  timeout : o.timeout ≠ some .zero

theorem request_isOk_iff {o : Options} {env : Environment} :
    (∃ request, (o.request env).2 = .ok request) ↔ o.Valid := by
  constructor
  · rintro ⟨request, h⟩
    have h : o.request env = ((o.request env).1, .ok request) := Prod.ext rfl h
    unfold Options.request at h
    simp only at h
    split at h
    · cases (Prod.mk.inj h).2
    · rename_i jobType limit hcounted
      simp only [bind_eq_ok_iff, Setting.requiredText_eq_ok_iff,
        Setting.requiredCount_eq_ok_iff] at hcounted
      obtain ⟨_, hjobType, count, hlimit, -⟩ := hcounted
      obtain ⟨_, htimeout, -⟩ := bind_eq_ok_iff.mp (Prod.mk.inj h).2
      exact ⟨⟨_, hjobType⟩, ⟨_, hlimit, count.property⟩,
        (givenOr_ne_zero_iff env.jobTimeout_ne_zero).mp
          (by obtain ⟨rfl, hpos⟩ := Setting.nonZero_eq_ok_iff.mp htimeout; exact hpos)⟩
  · rintro ⟨⟨text, hjobType⟩, ⟨n, hlimit, hpos⟩, htimeout⟩
    have htext : Setting.jobType.requiredText o.jobType = .ok text :=
      Setting.requiredText_eq_ok_iff.mpr hjobType
    have hcount : Setting.limit.requiredCount o.limit = .ok ⟨n, hpos⟩ :=
      Setting.requiredCount_eq_ok_iff.mpr hlimit
    have hlease : Setting.timeout.nonZero (givenOr o.timeout env.jobTimeout).1 = .ok _ :=
      Setting.nonZero_eq_ok_iff.mpr
        ⟨rfl, (givenOr_ne_zero_iff env.jobTimeout_ne_zero).mpr htimeout⟩
    exact ⟨_, by simp [Options.request, htext, hcount, hlease, bind, Except.bind]; rfl⟩

end Activation.Options

/-! ### Workers -/

namespace Worker.Options

variable {σ : Type}

/-- What a caller must say about a worker. -/
structure Valid (o : Options σ) : Prop where
  jobType : ∃ text, o.jobType = some text ∧ Text.isBlankText text = false
  handler : ∃ h, o.handler = some h
  maxJobsActive : ∃ n, o.maxJobsActive = some n ∧ 0 < n.toNat
  timeout : ∃ d, o.timeout = some d ∧ d ≠ .zero
  pollInterval : o.pollInterval ≠ some .zero

theorem config_isOk_iff {o : Options σ} {env : Environment} :
    (∃ w, (o.config env).2 = .ok w) ↔ o.Valid := by
  unfold config
  constructor
  · rintro ⟨w, h⟩
    split at h
    · cases h
    · rename_i g hgiven
      obtain ⟨hjobType, hhandler, hmaxJobs, htimeout, hpos⟩ := given_eq_ok_iff.mp hgiven
      obtain ⟨_, hinterval, -⟩ := bind_eq_ok_iff.mp h
      obtain ⟨rfl, hsome⟩ := Setting.nonZero_eq_ok_iff.mp hinterval
      exact ⟨⟨_, hjobType⟩, ⟨_, hhandler⟩, ⟨_, hmaxJobs, g.maxJobs.property⟩,
        ⟨_, htimeout, hpos⟩, (Activation.givenOr_ne_zero_iff env.pollInterval_ne_zero).mp hsome⟩
  · rintro ⟨⟨text, hjobType⟩, ⟨handler, hhandler⟩, ⟨n, hmaxJobs, hn⟩, ⟨d, htimeout, hd⟩,
      hinterval⟩
    have hgiven : o.given = .ok ⟨text, handler, ⟨n, hn⟩, d⟩ :=
      given_eq_ok_iff.mpr ⟨hjobType, hhandler, hmaxJobs, htimeout, hd⟩
    have hinterval :
        Setting.pollInterval.nonZero (Activation.givenOr o.pollInterval env.pollInterval).1 = .ok _ :=
      Setting.nonZero_eq_ok_iff.mpr
        ⟨rfl, (Activation.givenOr_ne_zero_iff env.pollInterval_ne_zero).mpr hinterval⟩
    exact ⟨_, by simp only [hgiven]; exact bind_eq_ok_iff.mpr ⟨_, hinterval, rfl⟩⟩

/-- The options are checked for the same as when the worker is opened. -/
theorem validate_isOk_iff {o : Options σ} {env : Environment} :
    (∃ done, (o.validate env).2 = .ok done) ↔ o.Valid := by
  rw [← @config_isOk_iff σ o env]
  simp only [validate, map_eq_ok_iff]
  exact ⟨fun ⟨_, w, hw, _⟩ => ⟨w, hw⟩, fun ⟨w, hw⟩ => ⟨(), w, hw, trivial⟩⟩

/-- A worker is opened with what its options stand for, if the runtime allows it. -/
theorem openIn_eq_ok_iff {o : Options σ} {env : Environment} {runtime : Runtime} {w : Config σ} :
    (o.openIn env runtime).2 = .ok w ↔ (o.config env).2 = .ok w ∧ runtime.check = .ok () := by
  cases hconfig : (o.config env).2 with
  | error e => simp [openIn, hconfig, Except.bind]
  | ok w' =>
    cases hcheck : runtime.check with
    | error e => simp [openIn, hconfig, hcheck, Except.bind, Except.map]
    | ok => simp [openIn, hconfig, hcheck, Except.bind, Except.map]

/-- In a runtime with several threads, a worker can be opened if its options are valid. -/
theorem openIn_isOk_iff {o : Options σ} {env : Environment} :
    (∃ w, (o.openIn env .multiThread).2 = .ok w) ↔ o.Valid := by
  rw [← @config_isOk_iff σ o env]
  cases hconfig : (o.config env).2 with
  | error e => simp [openIn, hconfig, Except.bind]
  | ok w => simp [openIn, hconfig, Except.bind, Runtime.check, Except.map]

/-- Looking at settings only writes of the environment. -/
theorem ofSettings_config (o : Options σ) (env : Environment) :
    ∀ notice ∈ (o.config env).1, notice.ofSettings = true := by
  have henv : ∀ notice ∈ env.pollInterval.2, notice.ofSettings = true := by
    unfold Environment.pollInterval Environment.duration
    split
    · simp
    · split
      · split <;> simp [Notice.ofSettings]
      · simp [Notice.ofSettings]
  unfold config
  split
  · simp
  · cases o.pollInterval with
    | none => exact henv
    | some d => exact fun notice h => absurd h List.not_mem_nil

end Worker.Options

end JobWorker
