/-
No environment can make a default invalid.

A variable may be unset, hold a text, or hold bytes that encode none.  Whatever it is, the settings that
are taken from it are valid: a duration is the one that the text says unless that is zero, a name and an
address show something, a token is not empty.  What is passed over is told in one warning if it can be
read at all.

The checks of a caller's options look at these settings again.  They find nothing wrong with them, so
whether options are accepted, and why they are not, is the same in every environment as where no
variable is set.
-/
import JobWorker.Proofs.Settings.Agreement
import JobWorker.Proofs.Text.Utf8

namespace JobWorker

namespace Environment

variable {env : Environment} {v : Variable} {text : String} {default : Duration}

/-! ### What a variable holds -/

/-- What a variable says: nothing if it is unset or its bytes encode no text, and a text otherwise. -/
inductive Says (env : Environment) (v : Variable) : Option String → Prop
  | unset : env.bytes? v = none → Says env v none
  | text {text : String} : env.bytes? v = some (Text.Utf8.encode text) → Says env v (some text)
  | noText {bytes : List UInt8} : env.bytes? v = some bytes → (∀ text, bytes ≠ Text.Utf8.encode text) →
      Says env v none

theorem says_text? (env : Environment) (v : Variable) : env.Says v (env.text? v) := by
  cases hbytes : env.bytes? v with
  | none =>
    rw [text?, hbytes]
    exact .unset hbytes
  | some bytes =>
    rw [text?, hbytes, Option.bind_some]
    cases htext : Text.Utf8.text? bytes with
    | none =>
      refine .noText hbytes ?_
      rintro text rfl
      rw [Text.Utf8.text?_eq_some_iff.2 rfl] at htext
      cases htext
    | some text => exact .text (by rw [hbytes, Text.Utf8.text?_eq_some_iff.1 htext])

/-- A variable says one thing, and it is what is read. -/
theorem says_iff {said : Option String} : env.Says v said ↔ env.text? v = said := by
  refine ⟨fun h => ?_, fun h => h ▸ says_text? env v⟩
  rw [text?]
  cases h with
  | unset h => rw [h, Option.bind_none]
  | text h => rw [h, Option.bind_some, Text.Utf8.text?_eq_some_iff]
  | noText h hnone =>
    rw [h, Option.bind_some, Option.eq_none_iff_forall_ne_some]
    exact fun text htext => hnone text (Text.Utf8.text?_eq_some_iff.1 htext)

/-! ### Durations -/

/-- A text that is a duration, and one that lasts. -/
def Lasts (text : String) (d : Duration) : Prop := Duration.read text = .ok d ∧ d ≠ .zero

/-- A duration as it has to be taken from a variable, and what has to be said about it. -/
structure Taken (env : Environment) (v : Variable) (default : Duration)
    (taken : Duration × List Notice) : Prop where
  lasts : taken.1 ≠ .zero
  /-- A duration that lasts is taken as it is, -/
  given : ∀ {text d}, env.Says v (some text) → Lasts text d → taken.1 = d
  /-- and otherwise there is the default. -/
  default : (¬ ∃ text d, env.Says v (some text) ∧ Lasts text d) → taken.1 = default
  /-- A text that is no such duration is told of in one warning, -/
  warned : ∀ {text}, env.Says v (some text) → (¬ ∃ d, Lasts text d) →
    ∃ notice, taken.2 = [notice] ∧ notice.level = .warn ∧ ("var", v.name) ∈ notice.fields ∧
      ("value", text) ∈ notice.fields
  /-- and nothing else is. -/
  silent : (¬ ∃ text, env.Says v (some text) ∧ ¬ ∃ d, Lasts text d) → taken.2 = []

theorem duration_of_none (h : env.text? v = none) : env.duration v default = (default, []) := by
  rw [duration, h]

theorem duration_of_lasts {d : Duration} (h : env.text? v = some text) (hlasts : Lasts text d) :
    env.duration v default = (d, []) := by
  obtain ⟨hread, hpos⟩ := hlasts
  simp only [duration, h, hread]
  rw [if_neg fun hzero => hpos (Duration.isZero_iff.1 hzero)]

theorem duration_of_not_lasts (h : env.text? v = some text) (hnot : ¬ ∃ d, Lasts text d) :
    ∃ notice, env.duration v default = (default, [notice]) ∧ notice.level = .warn ∧
      ("var", v.name) ∈ notice.fields ∧ ("value", text) ∈ notice.fields := by
  cases hread : Duration.read text with
  | error e =>
    refine ⟨.invalidDuration v.name text e, ?_, rfl, by simp [Notice.fields], by simp [Notice.fields]⟩
    simp only [duration, h, hread]
  | ok d =>
    have hzero : d.isZero = true := by
      rw [Duration.isZero_iff]
      by_contra hpos
      exact hnot ⟨d, hread, hpos⟩
    refine ⟨.zeroDuration v.name text, ?_, rfl, by simp [Notice.fields], by simp [Notice.fields]⟩
    simp only [duration, h, hread, hzero, if_true]

/-- A duration is taken from a variable as it has to be. -/
theorem taken_duration (env : Environment) (v : Variable) (hdefault : default ≠ .zero) :
    Taken env v default (env.duration v default) where
  lasts := env.duration_ne_zero v hdefault
  given hsaid hlasts := by rw [duration_of_lasts (says_iff.1 hsaid) hlasts]
  default hnot := by
    cases htext : env.text? v with
    | none => rw [duration_of_none htext]
    | some text =>
      obtain ⟨notice, hduration, -⟩ := duration_of_not_lasts htext
        fun ⟨d, hlasts⟩ => hnot ⟨text, d, says_iff.2 htext, hlasts⟩
      rw [hduration]
  warned hsaid hnot := by
    obtain ⟨notice, hduration, hnotice⟩ := duration_of_not_lasts (says_iff.1 hsaid) hnot
    exact ⟨notice, by rw [hduration], hnotice⟩
  silent hnot := by
    cases htext : env.text? v with
    | none => rw [duration_of_none htext]
    | some text =>
      by_cases hlasts : ∃ d, Lasts text d
      · obtain ⟨d, hlasts⟩ := hlasts
        rw [duration_of_lasts htext hlasts]
      · exact absurd ⟨text, says_iff.2 htext, hlasts⟩ hnot

/-! ### Names, addresses and tokens -/

/-- A text in which something can be seen. -/
def Shows (text : String) : Prop := ∃ c ∈ text.toList, Text.isBlank c = false

theorem shows_iff : Shows text ↔ Text.isBlankText text = false := by
  simp [Shows, Text.isBlankText]

theorem shows_of_nonBlank? (h : env.nonBlank? v = some text) : Shows text := by
  obtain ⟨-, hblank⟩ := Option.filter_eq_some_iff.1 h
  exact shows_iff.2 (by simpa using hblank)

theorem shows_getD (v : Variable) {fallback : String} (h : Shows fallback) :
    Shows ((env.nonBlank? v).getD fallback) := by
  cases htext : env.nonBlank? v with
  | none => exact h
  | some text => exact shows_of_nonBlank? htext

theorem shows_workerName (env : Environment) : Shows env.workerName :=
  shows_getD .workerName (shows_iff.2 (by decide))

theorem shows_gatewayAddress (env : Environment) : Shows env.gatewayAddress :=
  shows_getD .gatewayAddress (shows_iff.2 (by decide))

theorem ne_empty_of_authToken (h : env.authToken = some text) : text ≠ "" := by
  obtain ⟨-, hne⟩ := Option.filter_eq_some_iff.1 h
  simpa using hne

end Environment

/-! ### Options that are checked in an environment -/

/-- Two computations that succeed and fail alike, whatever they come to. -/
def SameVerdict {ε α : Type} (x y : Except ε α) : Prop := (x.map fun _ => ()) = y.map fun _ => ()

section

variable {ε α : Type} {x y : Except ε α}

theorem SameVerdict.isOk_iff (h : SameVerdict x y) : (∃ a, x = .ok a) ↔ ∃ a, y = .ok a := by
  cases x <;> cases y <;> simp_all [SameVerdict, Except.map]

theorem SameVerdict.error_iff (h : SameVerdict x y) {e : ε} : x = .error e ↔ y = .error e := by
  cases x <;> cases y <;> simp_all [SameVerdict, Except.map]

theorem sameVerdict_bind {β : Type} {z : Except ε β} {f g : β → Except ε α}
    (h : ∀ b, z = .ok b → SameVerdict (f b) (g b)) : SameVerdict (z >>= f) (z >>= g) := by
  cases z with
  | error e => rfl
  | ok b => exact h b rfl

/-- What comes after alike computations has to be alike as well. -/
theorem sameVerdict_andThen {β : Type} {f : α → Except ε β} (h : SameVerdict x y)
    (hf : ∀ a b, SameVerdict (f a) (f b)) : SameVerdict (x >>= f) (y >>= f) := by
  cases x with
  | error e => rw [h.error_iff.1 rfl]; rfl
  | ok a =>
    obtain ⟨b, rfl⟩ := h.isOk_iff.1 ⟨a, rfl⟩
    exact hf a b

end

/-- A duration is checked alike in every environment, for what is taken from one lasts. -/
theorem sameVerdict_nonZero {α : Type} {setting : Setting} (given : Option Duration)
    {fromEnv fromEnv' : Duration × List Notice} (h : fromEnv.1 ≠ .zero) (h' : fromEnv'.1 ≠ .zero)
    (f f' : Duration → α) :
    SameVerdict (setting.nonZero (Activation.givenOr given fromEnv).1 >>= fun d => pure (f d))
      (setting.nonZero (Activation.givenOr given fromEnv').1 >>= fun d => pure (f' d)) := by
  cases given with
  | none =>
    have hok : ∀ {d : Duration}, d ≠ .zero → setting.nonZero d = .ok d :=
      fun hd => Setting.nonZero_eq_ok_iff.2 ⟨rfl, hd⟩
    simp only [Activation.givenOr, hok h, hok h']
    rfl
  | some d =>
    simp only [Activation.givenOr]
    exact sameVerdict_bind fun _ _ => rfl

/-- What a worker may be opened with does not depend on the environment. -/
theorem sameVerdict_config {σ : Type} (o : Worker.Options σ) (env env' : Environment) :
    SameVerdict (o.config env).2 (o.config env').2 := by
  rw [Worker.Options.config_snd_eq, Worker.Options.config_snd_eq]
  refine sameVerdict_bind fun jobType _ => sameVerdict_bind fun handler _ =>
    sameVerdict_bind fun maxJobs _ => sameVerdict_bind fun timeout _ => ?_
  exact sameVerdict_nonZero o.pollInterval env.pollInterval_ne_zero env'.pollInterval_ne_zero _ _

/-- Nor does it in any runtime. -/
theorem sameVerdict_openIn {σ : Type} (o : Worker.Options σ) (runtime : Worker.Runtime)
    (env env' : Environment) : SameVerdict (o.openIn env runtime).2 (o.openIn env' runtime).2 := by
  have hopen : ∀ env : Environment, (o.openIn env runtime).2 =
      (o.config env).2 >>= fun w => runtime.check >>= fun _ => pure w := by
    intro env
    unfold Worker.Options.openIn
    obtain ⟨notices, config⟩ := o.config env
    cases config with
    | error e => rfl
    | ok w => cases runtime <;> rfl
  rw [hopen env, hopen env']
  exact sameVerdict_andThen (sameVerdict_config o env env') fun _ _ => sameVerdict_bind fun _ _ => rfl

/-- What jobs may be asked for once does not depend on it either. -/
theorem sameVerdict_request (o : Activation.Options) (env env' : Environment) :
    SameVerdict (o.request env).2 (o.request env').2 := by
  rw [Worker.Options.request_snd_eq, Worker.Options.request_snd_eq]
  refine sameVerdict_bind fun jobType _ => sameVerdict_bind fun limit _ => ?_
  exact sameVerdict_nonZero o.timeout env.jobTimeout_ne_zero env'.jobTimeout_ne_zero _ _

/-! ### The environment does no harm -/

/-- What an environment can do. -/
structure Harmless (env : Environment) : Prop where
  pollInterval : env.Taken .pollInterval (.ofMillis 100) env.pollInterval
  jobTimeout : env.Taken .jobTimeout (.ofSecs 300) env.jobTimeout
  workerName : Environment.Shows env.workerName
  gatewayAddress : Environment.Shows env.gatewayAddress
  authToken : ∀ {token}, env.authToken = some token → token ≠ ""
  /-- A worker is accepted, checked and refused as where no variable is set, -/
  worker : ∀ {σ : Type} (o : Worker.Options σ) (runtime : Worker.Runtime),
    ((∃ w, (o.openIn env runtime).2 = .ok w) ↔ ∃ w, (o.openIn .unset runtime).2 = .ok w) ∧
      (∀ e, (o.openIn env runtime).2 = .error e ↔ (o.openIn .unset runtime).2 = .error e) ∧
      (o.validate env).2 = (o.validate .unset).2
  /-- and what it is not given is taken from the environment. -/
  workerTakes : ∀ {σ : Type} {o : Worker.Options σ} {w : Worker.Config σ}, (o.config env).2 = .ok w →
    (o.pollInterval = none → w.pollInterval = env.pollInterval.1) ∧
      (o.name = none → w.name = env.workerName)
  /-- A single activation is accepted and refused as where no variable is set, -/
  once : ∀ o : Activation.Options,
    ((∃ r, (o.request env).2 = .ok r) ↔ ∃ r, (o.request .unset).2 = .ok r) ∧
      ∀ e, (o.request env).2 = .error e ↔ (o.request .unset).2 = .error e
  /-- and what it is not given is taken from the environment, too. -/
  onceTakes : ∀ {o : Activation.Options} {r : ActivateRequest}, (o.request env).2 = .ok r →
    (o.timeout = none → r.timeoutMs = env.jobTimeout.1.millisWord) ∧
      (o.workerName = none → r.worker = env.workerName)

/-- **No environment can make a default invalid.** -/
theorem environments_are_harmless (env : Environment) : Harmless env where
  pollInterval := env.taken_duration .pollInterval (by decide)
  jobTimeout := env.taken_duration .jobTimeout (by decide)
  workerName := env.shows_workerName
  gatewayAddress := env.shows_gatewayAddress
  authToken := Environment.ne_empty_of_authToken
  worker o runtime :=
    have h := sameVerdict_openIn o runtime env .unset
    ⟨h.isOk_iff, fun _ => h.error_iff, sameVerdict_config o env .unset⟩
  workerTakes {σ o w} h := by
    obtain ⟨-, -, hinterval⟩ := Worker.Options.parts_of_config h
    obtain ⟨g, -, hrequest⟩ := Worker.Options.request_of_config (Prod.ext rfl h)
    refine ⟨fun hnone => ?_, fun hnone => ?_⟩
    · rw [hinterval, hnone]
      rfl
    · rw [Worker.Config.name, hrequest, hnone]
      rfl
  once o :=
    have h := sameVerdict_request o env .unset
    ⟨h.isOk_iff, fun _ => h.error_iff⟩
  onceTakes {o r} h := by
    obtain ⟨-, jobType, limit, -, -, rfl⟩ := Activation.request_eq_ok (Prod.ext rfl h)
    refine ⟨fun hnone => ?_, fun hnone => ?_⟩
    · rw [Activation.Options.lease, hnone]
      rfl
    · rw [hnone]
      rfl

end JobWorker
