/-
What is known of settings that have been accepted.

The checks are made one after the other, and the first that fails decides.  So whatever comes out has
passed all of them: each lemma here reads off a result what was given and what holds of it.
-/
import JobWorker.Proofs.Except
import JobWorker.Worker.Config

namespace JobWorker

namespace Setting

variable {setting : Setting}

theorem required_eq_ok_iff {α : Type} {value? : Option α} {value : α} :
    setting.required value? = .ok value ↔ value? = some value := by
  cases value? <;> simp [required]

theorem requiredText_eq_ok_iff {text? : Option String} {text : String} :
    setting.requiredText text? = .ok text ↔ text? = some text ∧ Text.isBlankText text = false := by
  simp only [requiredText, bind_eq_ok_iff, required_eq_ok_iff]
  constructor
  · rintro ⟨t, rfl, h⟩
    split at h
    · cases h
    · rename_i hblank
      cases h
      exact ⟨rfl, by simpa using hblank⟩
  · rintro ⟨rfl, h⟩
    exact ⟨text, rfl, by simp [h]⟩

theorem requiredCount_eq_ok_iff {count? : Option UInt32} {count : { n : UInt32 // 0 < n.toNat }} :
    setting.requiredCount count? = .ok count ↔ count? = some count.val := by
  simp only [requiredCount, bind_eq_ok_iff, required_eq_ok_iff]
  constructor
  · rintro ⟨n, rfl, h⟩
    split at h
    · cases h
      rfl
    · cases h
  · rintro rfl
    exact ⟨count.val, rfl, dif_pos count.property⟩

theorem nonZero_eq_ok_iff {d d' : Duration} :
    setting.nonZero d = .ok d' ↔ d = d' ∧ d ≠ .zero := by
  unfold nonZero
  split
  · rename_i hzero
    simp [Duration.isZero_iff.mp hzero]
  · rename_i hpos
    have hpos : d ≠ .zero := fun hzero => hpos (Duration.isZero_iff.mpr hzero)
    simp [hpos]

end Setting

/-! ### Workers -/

namespace Worker.Options

variable {σ : Type} {o : Options σ}

theorem given_eq_ok_iff {g : Given σ} :
    o.given = .ok g ↔
      (o.jobType = some g.jobType ∧ Text.isBlankText g.jobType = false) ∧
      o.handler = some g.handler ∧ o.maxJobsActive = some g.maxJobs.val ∧
      o.timeout = some g.timeout ∧ g.timeout ≠ .zero := by
  simp only [given, bind_eq_ok_iff, Setting.requiredText_eq_ok_iff, Setting.required_eq_ok_iff,
    Setting.requiredCount_eq_ok_iff, Setting.nonZero_eq_ok_iff]
  constructor
  · rintro ⟨jobType, hjobType, handler, hhandler, maxJobs, hmaxJobs, timeout, htimeout, _,
      ⟨rfl, hpos⟩, h⟩
    cases h
    exact ⟨hjobType, hhandler, hmaxJobs, htimeout, hpos⟩
  · rintro ⟨hjobType, hhandler, hmaxJobs, htimeout, hpos⟩
    exact ⟨_, hjobType, _, hhandler, _, hmaxJobs, _, htimeout, _, ⟨rfl, hpos⟩, rfl⟩

/-- The request of a worker is made of the options. -/
theorem request_of_config {env : Environment} {notices : List Notice} {w : Config σ}
    (h : o.config env = (notices, .ok w)) :
    ∃ g, o.given = .ok g ∧
      w.request = { ActivateRequest.lease g.jobType (o.name.getD env.workerName) g.timeout with
        maxJobs := g.maxJobs.val
        fetchVariables := o.fetchVariables } := by
  unfold config at h
  split at h
  · cases h
  · rename_i g hgiven
    obtain ⟨-, hw⟩ := Prod.mk.inj h
    obtain ⟨pollInterval, -, hw⟩ := bind_eq_ok_iff.mp hw
    cases hw
    exact ⟨g, hgiven, rfl⟩

/-- What else a worker is set up with is given too, or taken from the environment. -/
theorem parts_of_config {env : Environment} {w : Config σ} (h : (o.config env).2 = .ok w) :
    o.handler = some w.handler ∧ w.autoComplete = o.autoComplete ∧
      w.pollInterval = (Activation.givenOr o.pollInterval env.pollInterval).1 := by
  unfold config at h
  split at h
  · cases h
  · rename_i g hgiven
    obtain ⟨pollInterval, hinterval, hw⟩ := bind_eq_ok_iff.mp h
    obtain ⟨rfl, -⟩ := Setting.nonZero_eq_ok_iff.mp hinterval
    obtain ⟨-, hhandler, -⟩ := given_eq_ok_iff.mp hgiven
    cases hw
    exact ⟨hhandler, rfl, rfl⟩

end Worker.Options

/-! ### Single activations -/

namespace Activation

/-- The length of the lease: the one that is given, or else that of the environment. -/
def Options.lease (o : Options) (env : Environment) : Duration := (givenOr o.timeout env.jobTimeout).1

theorem request_eq_ok {o : Options} {env : Environment} {notices : List Notice}
    {request : ActivateRequest} (h : o.request env = (notices, .ok request)) :
    o.lease env ≠ .zero ∧ ∃ jobType limit, o.jobType = some jobType ∧ o.limit = some limit ∧
      request = { ActivateRequest.lease jobType (o.workerName.getD env.workerName) (o.lease env) with
        maxJobs := limit
        fetchVariables := o.fetchVariables } := by
  unfold Options.request at h
  simp only at h
  split at h
  · cases h
  · rename_i jobType limit hcounted
    simp only [bind_eq_ok_iff, Setting.requiredText_eq_ok_iff,
      Setting.requiredCount_eq_ok_iff] at hcounted
    obtain ⟨_, ⟨hjobType, -⟩, count, hlimit, hpair⟩ := hcounted
    cases hpair
    obtain ⟨-, hrequest⟩ := Prod.mk.inj h
    obtain ⟨_, htimeout, hrequest⟩ := bind_eq_ok_iff.mp hrequest
    obtain ⟨rfl, hpos⟩ := Setting.nonZero_eq_ok_iff.mp htimeout
    cases hrequest
    exact ⟨hpos, _, _, hjobType, hlimit, rfl⟩

end Activation

end JobWorker
