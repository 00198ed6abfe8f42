/-
What is wrong with the settings of a worker.

The settings are looked at one after the other, in a fixed order, and each can be wrong in its own ways.
The error that is reported is a fault of the first setting that has one.  `First` says this of any
checks, and checks in a row fail with the first fault of their parts (`FailsAs.bind`).
-/
import JobWorker.Proofs.Settings.Accepted

namespace JobWorker

/-! ### Checks that fail -/

namespace Setting

variable {setting : Setting} {e : ConfigError}

theorem required_eq_error_iff {α : Type} {value? : Option α} :
    setting.required value? = .error e ↔ value? = none ∧ e = .missing setting := by
  cases value? <;> simp [required, eq_comm]

theorem requiredText_eq_error_iff {text? : Option String} :
    setting.requiredText text? = .error e ↔
      text? = none ∧ e = .missing setting ∨
      ∃ text, text? = some text ∧ Text.isBlankText text = true ∧ e = .invalid setting .empty := by
  simp only [requiredText, bind_eq_error_iff, required_eq_error_iff, required_eq_ok_iff]
  refine or_congr_right (exists_congr fun text => and_congr_right fun _ => ?_)
  by_cases hblank : Text.isBlankText text = true
  · simp [hblank, eq_comm]
  · simp [hblank]

theorem requiredCount_eq_error_iff {count? : Option UInt32} :
    setting.requiredCount count? = .error e ↔
      count? = none ∧ e = .missing setting ∨ count? = some 0 ∧ e = .invalid setting .zero := by
  simp only [requiredCount, bind_eq_error_iff, required_eq_error_iff, required_eq_ok_iff]
  refine or_congr_right ⟨?_, ?_⟩
  · rintro ⟨n, hn, h⟩
    split at h
    · cases h
    · rename_i hzero
      cases h
      have hn0 : n = 0 := UInt32.toNat_inj.1 (by simpa using hzero)
      exact ⟨by rw [hn, hn0], rfl⟩
  · rintro ⟨hzero, rfl⟩
    exact ⟨0, hzero, rfl⟩

theorem nonZero_eq_error_iff {d : Duration} :
    setting.nonZero d = .error e ↔ d = .zero ∧ e = .invalid setting .zero := by
  unfold nonZero
  by_cases hzero : d = .zero
  · simp [hzero, Duration.isZero, eq_comm]
  · simp [hzero, Duration.isZero]

end Setting

namespace Worker

/-! ### The first fault -/

/-- The second is a fault of the first setting that has a fault. -/
inductive First {α β : Type} (fault : α → β → Prop) : List α → β → Prop
  | here {a : α} {rest : List α} {b : β} : fault a b → First fault (a :: rest) b
  | later {a : α} {rest : List α} {b : β} : (∀ b, ¬ fault a b) → First fault rest b →
      First fault (a :: rest) b

section

variable {α β : Type} {fault : α → β → Prop} {a : α} {rest : List α} {b : β}

theorem first_cons_iff :
    First fault (a :: rest) b ↔ fault a b ∨ (∀ b, ¬ fault a b) ∧ First fault rest b := by
  constructor
  · intro h
    cases h with
    | here h => exact .inl h
    | later hnone h => exact .inr ⟨hnone, h⟩
  · rintro (h | ⟨hnone, h⟩)
    · exact .here h
    · exact .later hnone h

theorem not_first_nil : ¬ First fault [] b := fun h => by cases h

end

/-- A computation fails with just these errors. -/
def FailsAs {ε α : Type} (x : Except ε α) (p : ε → Prop) : Prop := ∀ e, x = .error e ↔ p e

/-- A check of one setting, and then checks of others. -/
theorem FailsAs.bind {α β : Type} {x : Except ConfigError α} {f : α → Except ConfigError β}
    {fault : Setting → ConfigError → Prop} {setting : Setting} {rest : List Setting}
    (hx : FailsAs x (fault setting)) (hf : ∀ a, x = .ok a → FailsAs (f a) (First fault rest)) :
    FailsAs (x >>= f) (First fault (setting :: rest)) := by
  intro e
  rw [bind_eq_error_iff, first_cons_iff, hx e]
  refine or_congr_right ⟨?_, ?_⟩
  · rintro ⟨a, hok, h⟩
    have hnone : ∀ e, ¬ fault setting e := by
      intro e hfault
      rw [(hx e).2 hfault] at hok
      cases hok
    exact ⟨hnone, (hf a hok e).1 h⟩
  · rintro ⟨hnone, h⟩
    cases hx' : x with
    | error e' => exact absurd ((hx e').1 hx') (hnone e')
    | ok a => exact ⟨a, rfl, (hf a hx' e).2 h⟩

namespace Options

variable {σ : Type} {o : Options σ} {env : Environment}

/-- What can be wrong with each setting, and the error that says so. -/
inductive Fault (o : Options σ) (env : Environment) : Setting → ConfigError → Prop
  | noJobType (h : o.jobType = none) : Fault o env .jobType (.missing .jobType)
  | blankJobType {text : String} (h : o.jobType = some text)
      (hblank : ∀ c ∈ text.toList, Text.isBlank c = true) :
      Fault o env .jobType (.invalid .jobType .empty)
  | noHandler (h : o.handler = none) : Fault o env .handler (.missing .handler)
  | noMaxJobsActive (h : o.maxJobsActive = none) :
      Fault o env .maxJobsActive (.missing .maxJobsActive)
  | zeroMaxJobsActive (h : o.maxJobsActive = some 0) :
      Fault o env .maxJobsActive (.invalid .maxJobsActive .zero)
  | noTimeout (h : o.timeout = none) : Fault o env .timeout (.missing .timeout)
  | zeroTimeout (h : o.timeout = some .zero) : Fault o env .timeout (.invalid .timeout .zero)
  | zeroPollInterval (h : (Activation.givenOr o.pollInterval env.pollInterval).1 = .zero) :
      Fault o env .pollInterval (.invalid .pollInterval .zero)

/-- The order in which the settings are looked at. -/
def order : List Setting := [.jobType, .handler, .maxJobsActive, .timeout, .pollInterval]

theorem failsAs_jobType : FailsAs (Setting.jobType.requiredText o.jobType) (o.Fault env .jobType) := by
  intro e
  rw [Setting.requiredText_eq_error_iff]
  constructor
  · rintro (⟨h, rfl⟩ | ⟨text, h, hblank, rfl⟩)
    · exact .noJobType h
    · exact .blankJobType h (List.all_eq_true.1 hblank)
  · intro h
    cases h with
    | noJobType h => exact .inl ⟨h, rfl⟩
    | blankJobType h hblank => exact .inr ⟨_, h, List.all_eq_true.2 hblank, rfl⟩

theorem failsAs_handler : FailsAs (Setting.handler.required o.handler) (o.Fault env .handler) := by
  intro e
  rw [Setting.required_eq_error_iff]
  constructor
  · rintro ⟨h, rfl⟩
    exact .noHandler h
  · intro h
    cases h with
    | noHandler h => exact ⟨h, rfl⟩

theorem failsAs_maxJobsActive :
    FailsAs (Setting.maxJobsActive.requiredCount o.maxJobsActive) (o.Fault env .maxJobsActive) := by
  intro e
  rw [Setting.requiredCount_eq_error_iff]
  constructor
  · rintro (⟨h, rfl⟩ | ⟨h, rfl⟩)
    · exact .noMaxJobsActive h
    · exact .zeroMaxJobsActive h
  · intro h
    cases h with
    | noMaxJobsActive h => exact .inl ⟨h, rfl⟩
    | zeroMaxJobsActive h => exact .inr ⟨h, rfl⟩

theorem failsAs_timeout :
    FailsAs (Setting.timeout.required o.timeout >>= Setting.timeout.nonZero)
      (o.Fault env .timeout) := by
  intro e
  simp only [bind_eq_error_iff, Setting.required_eq_error_iff, Setting.required_eq_ok_iff,
    Setting.nonZero_eq_error_iff]
  constructor
  · rintro (⟨h, rfl⟩ | ⟨d, h, rfl, rfl⟩)
    · exact .noTimeout h
    · exact .zeroTimeout h
  · intro h
    cases h with
    | noTimeout h => exact .inl ⟨h, rfl⟩
    | zeroTimeout h => exact .inr ⟨_, h, rfl, rfl⟩

theorem failsAs_pollInterval :
    FailsAs (Setting.pollInterval.nonZero (Activation.givenOr o.pollInterval env.pollInterval).1)
      (o.Fault env .pollInterval) := by
  intro e
  rw [Setting.nonZero_eq_error_iff]
  constructor
  · rintro ⟨h, rfl⟩
    exact .zeroPollInterval h
  · intro h
    cases h with
    | zeroPollInterval h => exact ⟨h, rfl⟩

/-- The settings are looked at in a row. -/
theorem config_snd_eq (o : Options σ) (env : Environment) :
    (o.config env).2 = do
      let jobType ← Setting.jobType.requiredText o.jobType
      let handler ← Setting.handler.required o.handler
      let maxJobs ← Setting.maxJobsActive.requiredCount o.maxJobsActive
      let timeout ← Setting.timeout.required o.timeout >>= Setting.timeout.nonZero
      let pollInterval ←
        Setting.pollInterval.nonZero (Activation.givenOr o.pollInterval env.pollInterval).1
      return {
        request := { ActivateRequest.lease jobType (o.name.getD env.workerName) timeout with
          maxJobs := maxJobs.val
          fetchVariables := o.fetchVariables }
        handler
        pollInterval
        autoComplete := o.autoComplete
        capacity_pos := maxJobs.property } := by
  have hgiven : (o.config env).2 = o.given >>= fun g => do
      let pollInterval ←
        Setting.pollInterval.nonZero (Activation.givenOr o.pollInterval env.pollInterval).1
      return {
        request := { ActivateRequest.lease g.jobType (o.name.getD env.workerName) g.timeout with
          maxJobs := g.maxJobs.val
          fetchVariables := o.fetchVariables }
        handler := g.handler
        pollInterval
        autoComplete := o.autoComplete
        capacity_pos := g.maxJobs.property } := by
    unfold config
    cases o.given <;> rfl
  rw [hgiven, given]
  simp only [bind_assoc, pure_bind]

/-- Making a configuration fails with the first fault of the settings. -/
theorem failsAs_config (o : Options σ) (env : Environment) :
    FailsAs (o.config env).2 (First (o.Fault env) order) := by
  rw [config_snd_eq]
  refine failsAs_jobType.bind fun jobType _ => failsAs_handler.bind fun handler _ =>
    failsAs_maxJobsActive.bind fun maxJobs _ => failsAs_timeout.bind fun timeout _ =>
      failsAs_pollInterval.bind fun pollInterval _ => ?_
  intro e
  constructor
  · intro h
    cases h
  · exact fun h => absurd h not_first_nil

end Options

end Worker

end JobWorker
