/-
Processes end when they are told to.

Nothing that the workers of a process do ends it, and whatever the gateway answers: `Faithful` says
what is known of a process after any acts, and one act keeps it.  The other way round, no worker can
keep a process from its end: the handler at work comes to its end if the gateway answers, both loops
of a closed worker can end then, and so one worker after the other.

The workers that run on their own are such a process.  All that they do is to make moves, in an order
of their own and with answers that they ask for.
-/
import JobWorker.Cli.Process
import JobWorker.Proofs.Worker.Turns

namespace JobWorker

/-! ### A closed worker can end -/

namespace Worker

variable {σ : Type} {w : Config σ}

/-- A handler can be brought to its end from every point where it goes on. -/
theorem proceed_plays_idle (w : Config σ) (job : Job) (activity : Activity σ) :
    ∀ s : State σ, ∃ s' events, Plays w (s.proceed w job activity).1 s' events ∧
      s'.execute = .idle ∧ s'.closed = s.closed := by
  induction activity with
  | done memory outcome =>
      intro s
      rw [State.proceed, State.finish]
      cases w.followUp job outcome.result with
      | none => exact ⟨_, _, .refl w _, rfl, rfl⟩
      | some command =>
          have hfollowing : State.execute { s with memory, execute := .following job command }
              = .following job command := rfl
          exact ⟨_, _, .single (move?_following hfollowing (.ok ())), rfl, rfl⟩
  | await next ih =>
      intro s
      obtain ⟨s', events, hplays, hidle, hclosed⟩ := ih s
      have hmove : State.move? w { s with execute := .blocked job next } .letGo
          = some (s.proceed w job next) := by
        simp only [State.move?]
        rw [proceed_execute]
      exact ⟨s', _, (Plays.single hmove).trans hplays, hidle, hclosed⟩
  | send command next ih =>
      intro s
      obtain ⟨s', events, hplays, hidle, hclosed⟩ := ih (command.receiptFor (.ok ())) s
      have hmove : State.move? w { s with execute := .sending job command next } (.verdict (.ok ()))
          = some ((s.proceed w job (next (command.receiptFor (.ok ())))).1,
              .answered command (.ok ()) ::
                (s.proceed w job (next (command.receiptFor (.ok ())))).2) := by
        simp only [State.move?, State.answered]
        rw [proceed_execute]
      exact ⟨s', _, (Plays.single hmove).trans hplays, hidle, hclosed⟩
  | say remark next ih => exact ih

/-- The loop that executes jobs can end in a closed worker. -/
theorem plays_stopExecuting {s : State σ} (hclosed : s.closed = true) :
    ∃ s' events, Plays w s s' events ∧ s'.execute = .stopped ∧ s'.closed = true := by
  have hidle : ∀ {t : State σ}, t.execute = .idle → t.closed = true →
      Plays w t t.stopExecuting [] := fun hidle hclosed =>
    .single (m := .stopExecuting) (by simp [State.move?, hidle, hclosed])
  have hwaiting : ∀ {t : State σ} {events : List Event}, Plays w s t events →
      (∃ t' more, Plays w t t' more ∧ t'.execute = .idle ∧ t'.closed = true) →
        ∃ s' events, Plays w s s' events ∧ s'.execute = .stopped ∧ s'.closed = true := by
    rintro t events hplays ⟨t', more, hmore, hidle', hclosed'⟩
    exact ⟨_, _, (hplays.trans hmore).trans (hidle hidle' hclosed'), rfl, hclosed'⟩
  cases hexecute : s.execute with
  | idle => exact ⟨_, _, hidle hexecute hclosed, rfl, hclosed⟩
  | stopped => exact ⟨s, _, .refl w s, hexecute, hclosed⟩
  | blocked job next =>
      obtain ⟨t', more, hmore, hidle', hclosed'⟩ := proceed_plays_idle w job next s
      exact hwaiting (.single (m := .letGo) (by simp [State.move?, hexecute]; rfl))
        ⟨t', more, hmore, hidle', hclosed'.trans hclosed⟩
  | sending job command next =>
      obtain ⟨t', more, hmore, hidle', hclosed'⟩ :=
        proceed_plays_idle w job (next (command.receiptFor (.ok ()))) s
      exact hwaiting (.single (m := .verdict (.ok ()))
          (by simp [State.move?, hexecute, State.answered]; rfl))
        ⟨t', more, hmore, hidle', hclosed'.trans hclosed⟩
  | following job command =>
      exact hwaiting (.single (move?_following hexecute (.ok ())))
        ⟨_, _, .refl w _, by simp [hexecute], by simp [hexecute, hclosed]⟩

/-- **A closed worker can end**, wherever its loops stand. -/
theorem plays_isFinished {s : State σ} (hclosed : s.closed = true) :
    ∃ s' events, Plays w s s' events ∧ s'.closed = true ∧ s'.isFinished = true := by
  obtain ⟨t, events, hplays, hexecute, hclosed⟩ := plays_stopExecuting (w := w) hclosed
  cases hacquire : t.acquire with
  | stopped => exact ⟨t, events, hplays, hclosed, by simp [State.isFinished, hacquire, hexecute]⟩
  | _ =>
      exact ⟨t.stopAcquiring, _,
        hplays.trans (.single (m := .stopAcquiring) (by simp [State.move?, hacquire, hclosed]; rfl)),
        hclosed, by simp [State.isFinished, State.stopAcquiring, hexecute]⟩

end Worker

namespace Cli

open Worker

/-! ### What the acts of a process do -/

/-- Everything that an act can do to a process. -/
inductive Does (p : Process) : Act → Process → Prop
  | work {k : Nat} {m : Move} {w : Config Unit} {s s' : State Unit} {events : List Event}
      (hrunning : p.isOver = false) (hworker : p.workers[k]? = some (w, s))
      (hmove : s.move? w m = some (s', events)) :
      Does p (.work k m)
        { p with workers := p.workers.set k (w, s'), printed := p.printed ++ Cli.printed events }
  | stop (hserving : p.phase = .serving) : Does p .signal { p with phase := .stopping 0 }
  | stopAgain {ended : Nat} (hstopping : p.phase = .stopping ended) : Does p .signal p
  | close {ended : Nat} {w : Config Unit} {s : State Unit} (hstopping : p.phase = .stopping ended)
      (hworker : p.workers[ended]? = some (w, s)) (hopen : s.closed = false) :
      Does p .advance { p with workers := p.workers.set ended (w, (s.close w).1) }
  | ended {ended : Nat} {w : Config Unit} {s : State Unit} (hstopping : p.phase = .stopping ended)
      (hworker : p.workers[ended]? = some (w, s)) (hclosed : s.closed = true)
      (hfinished : s.isFinished = true) :
      Does p .advance { p with phase := .stopping (ended + 1) }
  | exit {ended : Nat} (hstopping : p.phase = .stopping ended)
      (hnone : p.workers[ended]? = none) :
      Does p .advance { p with phase := .exited (.stopped p.printed) }

namespace Process

theorem act?_eq_some_iff {p p' : Process} {a : Act} : p.act? a = some p' ↔ Does p a p' := by
  constructor
  · intro h
    cases a with
    | work k m =>
        simp only [act?] at h
        split at h
        · cases h
        · rename_i hrunning
          simp only [work?, Option.bind_eq_bind, Option.bind_eq_some_iff, Option.pure_def,
            Option.some.injEq] at h
          obtain ⟨⟨w, s⟩, hworker, ⟨s', events⟩, hmove, rfl⟩ := h
          exact .work (by simpa using hrunning) hworker hmove
    | signal =>
        simp only [act?] at h
        split at h
        · rename_i hserving
          cases h
          exact .stop hserving
        · rename_i ended hstopping
          cases h
          exact .stopAgain hstopping
        · cases h
    | advance =>
        simp only [act?] at h
        split at h
        · rename_i ended hstopping
          unfold advance? at h
          split at h
          · rename_i hnone
            cases h
            exact .exit hstopping hnone
          · rename_i w s hworker
            split at h
            · rename_i hopen
              cases h
              exact .close hstopping hworker (by simpa using hopen)
            · rename_i hclosed
              split at h
              · rename_i hfinished
                cases h
                exact .ended hstopping hworker (by simpa using hclosed) hfinished
              · cases h
        · cases h
  · intro h
    cases h with
    | work hrunning hworker hmove => simp [act?, work?, hrunning, hworker, hmove]
    | stop hserving => simp [act?, hserving]
    | stopAgain hstopping => simp [act?, hstopping]
    | close hstopping hworker hopen => simp [act?, advance?, hstopping, hworker, hopen]
    | ended hstopping hworker hclosed hfinished =>
        simp [act?, advance?, hstopping, hworker, hclosed, hfinished]
    | exit hstopping hnone => simp [act?, advance?, hstopping, hnone]

theorem run?_append {p : Process} {before after : List Act} :
    p.run? (before ++ after) = (p.run? before).bind fun p => p.run? after := by
  induction before generalizing p with
  | nil => rfl
  | cons a before ih =>
      simp only [List.cons_append, run?, Option.bind_eq_bind, Option.bind_assoc, ih]

theorem run?_singleton {p : Process} {a : Act} : p.run? [a] = p.act? a := by
  simp [run?]

/-! ### Only a signal ends a process -/

/-- What is known of a process after some acts. -/
structure Faithful (acts : List Act) (p : Process) : Prop where
  /-- It stops only if it was told to. -/
  serving : Act.signal ∉ acts → p.phase = .serving
  /-- When it exits, it has succeeded. -/
  exited : ∀ exit, p.phase = .exited exit → exit = .stopped p.printed

theorem Does.faithful {acts : List Act} {p p' : Process} {a : Act} (h : Does p a p')
    (hp : p.Faithful acts) : p'.Faithful (acts ++ [a]) := by
  have hserving : Act.signal ∉ acts ++ [a] → p.phase = .serving := fun hnot =>
    hp.serving fun hmem => hnot (List.mem_append_left _ hmem)
  cases h with
  | work hrunning hworker hmove =>
      refine ⟨hserving, fun exit hexit => ?_⟩
      simp only [isOver, show p.phase = .exited exit from hexit] at hrunning
      cases hrunning
  | stop _ => exact ⟨fun hnot => absurd (by simp) hnot, fun exit hexit => by cases hexit⟩
  | stopAgain _ => exact ⟨fun hnot => absurd (by simp) hnot, hp.exited⟩
  | close hstopping _ _ =>
      refine ⟨hserving, fun exit hexit => ?_⟩
      rw [show p.phase = .exited exit from hexit] at hstopping
      cases hstopping
  | ended hstopping _ _ _ =>
      refine ⟨fun hnot => ?_, fun exit hexit => by cases hexit⟩
      rw [hserving hnot] at hstopping
      cases hstopping
  | exit hstopping _ =>
      refine ⟨fun hnot => ?_, fun exit hexit => by cases hexit; rfl⟩
      rw [hserving hnot] at hstopping
      cases hstopping

/-- **Only a signal ends a process**, and it ends with success. -/
theorem faithful_of_run? {workers : List (Config Unit)} :
    ∀ {acts : List Act} {p : Process}, (start workers).run? acts = some p → p.Faithful acts := by
  intro acts
  induction acts using List.reverseRecOn with
  | nil =>
      intro p h
      cases h
      exact ⟨fun _ => rfl, fun exit hexit => by cases hexit⟩
  | append_singleton acts a ih =>
      intro p h
      rw [run?_append, Option.bind_eq_some_iff] at h
      obtain ⟨before, hbefore, hact⟩ := h
      rw [run?_singleton, act?_eq_some_iff] at hact
      exact Does.faithful hact (ih hbefore)

/-! ### A signal can end a process -/

/-- Some acts lead from one process to another. -/
def Leads (p p' : Process) : Prop := ∃ acts, p.run? acts = some p'

theorem Leads.refl (p : Process) : p.Leads p := ⟨[], rfl⟩

theorem Leads.trans {p q r : Process} (h : p.Leads q) (hmore : q.Leads r) : p.Leads r := by
  obtain ⟨before, hbefore⟩ := h
  obtain ⟨after, hafter⟩ := hmore
  exact ⟨before ++ after, by simp [run?_append, hbefore, hafter]⟩

theorem Leads.single {p p' : Process} {a : Act} (h : Does p a p') : p.Leads p' :=
  ⟨[a], by rw [run?_singleton, act?_eq_some_iff]; exact h⟩

/-- The workers `before` and `after` one that a process runs. -/
theorem Leads.of_plays {w : Config Unit} {s s' : State Unit} {events : List Event}
    (h : Plays w s s' events) (before after : List (Config Unit × State Unit)) {phase : Phase}
    (hrunning : ∀ exit, phase ≠ .exited exit) (out : List String) :
    Leads ⟨before ++ (w, s) :: after, phase, out⟩
      ⟨before ++ (w, s') :: after, phase, out ++ Cli.printed events⟩ := by
  obtain ⟨history, hrun⟩ := h
  induction history generalizing s events out with
  | nil =>
      cases hrun
      simpa [Cli.printed] using Leads.refl _
  | cons m history ih =>
      obtain ⟨t, events', more, hmove, hrest, rfl⟩ := run?_cons_eq_some_iff.mp hrun
      have hact : Does ⟨before ++ (w, s) :: after, phase, out⟩ (.work before.length m) _ :=
        .work (by cases phase <;> simp_all [isOver]) (by simp) hmove
      have hfirst : Leads ⟨before ++ (w, s) :: after, phase, out⟩
          ⟨before ++ (w, t) :: after, phase, out ++ Cli.printed events'⟩ := by
        simpa using Leads.single hact
      simpa [Cli.printed] using hfirst.trans (ih _ hrest)

/-- When some workers have ended, the others can end one after the other. -/
theorem leads_exited_of_stopping :
    ∀ (after before : List (Config Unit × State Unit)) (out : List String),
      ∃ p' exit, Leads ⟨before ++ after, .stopping before.length, out⟩ p' ∧
        p'.phase = .exited exit := by
  intro after
  induction after with
  | nil => intro before out; exact ⟨_, _, .single (.exit rfl (by simp)), rfl⟩
  | cons worker after ih =>
      obtain ⟨w, s⟩ := worker
      intro before out
      have hrunning : ∀ exit, Phase.stopping before.length ≠ .exited exit := by simp
      -- a worker that is closed ends, and then it is the turn of the next
      have hnext : ∀ {t : State Unit}, t.closed = true →
          ∃ p' exit, Leads ⟨before ++ (w, t) :: after, .stopping before.length, out⟩ p' ∧
            p'.phase = .exited exit := by
        intro t hclosed
        obtain ⟨t', events, hplays, hclosed', hfinished⟩ := plays_isFinished (w := w) hclosed
        have hended : Does ⟨before ++ (w, t') :: after, .stopping before.length,
            out ++ Cli.printed events⟩ .advance _ :=
          .ended (w := w) (s := t') rfl (by simp) hclosed' hfinished
        obtain ⟨p', exit, hleads, hexit⟩ := ih (before ++ [(w, t')]) (out ++ Cli.printed events)
        refine ⟨p', exit, (Leads.of_plays hplays before after hrunning out).trans
          ((Leads.single hended).trans ?_), hexit⟩
        simpa using hleads
      cases hopen : s.closed with
      | true => exact hnext hopen
      | false =>
          have hclose : Does ⟨before ++ (w, s) :: after, .stopping before.length, out⟩ .advance _ :=
            .close (w := w) (s := s) rfl (by simp) hopen
          obtain ⟨p', exit, hleads, hexit⟩ :=
            hnext (t := (s.close w).1) (by simp [State.close, hopen])
          refine ⟨p', exit, (Leads.single hclose).trans ?_, hexit⟩
          simpa using hleads

/-- A process that was told to stop can go on to its end. -/
theorem leads_exited (workers : List (Config Unit × State Unit)) (ended : Nat) (out : List String) :
    ∃ p' exit, Leads ⟨workers, .stopping ended, out⟩ p' ∧ p'.phase = .exited exit := by
  by_cases hended : ended ≤ workers.length
  · have h := leads_exited_of_stopping (workers.drop ended) (workers.take ended) out
    simpa [Nat.min_eq_left hended] using h
  · have hnone : workers[ended]? = none := List.getElem?_eq_none (by omega)
    exact ⟨_, _, .single (.exit rfl hnone), rfl⟩

/-- **A signal can end a process at any time**, however its workers stand. -/
theorem exits_of_signal {p : Process} (hrunning : p.isOver = false) :
    ∃ acts p' exit, p.run? (.signal :: acts) = some p' ∧ p'.phase = .exited exit := by
  have hsignal : ∃ q ended, Does p .signal q ∧ q.phase = .stopping ended := by
    cases hphase : p.phase with
    | serving => exact ⟨_, _, .stop hphase, rfl⟩
    | stopping ended => exact ⟨_, _, .stopAgain hphase, hphase⟩
    | exited exit => simp [isOver, hphase] at hrunning
  obtain ⟨⟨workers, phase, out⟩, ended, hdoes, rfl⟩ := hsignal
  obtain ⟨p', exit, ⟨acts, hrun⟩, hexit⟩ := leads_exited workers ended out
  exact ⟨acts, p', exit, by simp [run?, act?_eq_some_iff.mpr hdoes, hrun], hexit⟩

end Process

/-! ### The workers that run on their own -/

namespace Service

variable {ν : Type}

/-- What each worker does on its own, it does in a process. -/
theorem each_leads
    {f : Config Unit → World (Rest.Remote ν) Unit → World (Rest.Remote ν) Unit × List Event}
    (hf : ∀ w x, Plays w x.state (f w x).1.state (f w x).2) {phase : Phase}
    (hrunning : ∀ exit, phase ≠ .exited exit) :
    ∀ (after before : List (Config Unit × State Unit)) (remote : Rest.Remote ν)
      (out : List String),
      Process.Leads ⟨before ++ after, phase, out⟩
        ⟨before ++ (each f remote after).2.1, phase,
          out ++ Cli.printed (each f remote after).2.2⟩ := by
  intro after
  induction after with
  | nil => intro before remote out; simpa [each, Cli.printed] using Process.Leads.refl _
  | cons worker after ih =>
      obtain ⟨w, s⟩ := worker
      intro before remote out
      have hfirst := Process.Leads.of_plays (hf w ⟨remote, s, 0⟩) before after hrunning out
      have hrest := ih (before ++ [(w, (f w ⟨remote, s, 0⟩).1.state)])
        (f w ⟨remote, s, 0⟩).1.gateway (out ++ Cli.printed (f w ⟨remote, s, 0⟩).2)
      refine hfirst.trans ?_
      simpa [each, Cli.printed] using hrest

variable [Rest.Network ν]

/-- What the workers do to the point where they rest. -/
theorem advance_leads (fuel : Nat)
    {f : Config Unit → World (Rest.Remote ν) Unit → World (Rest.Remote ν) Unit × List Event}
    (hf : ∀ w x, Plays w x.state (f w x).1.state (f w x).2) (s : Service ν) {phase : Phase}
    (hrunning : ∀ exit, phase ≠ .exited exit) (out : List String) :
    Process.Leads ⟨s.workers, phase, out⟩
      ⟨(s.advance fuel f).1.workers, phase, out ++ Cli.printed (s.advance fuel f).2⟩ :=
  each_leads (fun w x => (hf w x).trans (World.settle_plays w fuel (f w x).1)) hrunning s.workers []
    s.remote out

/-- What the workers do until the program is told to stop: they rest, and poll intervals pass. -/
inductive Serves : Service ν → List Event → Service ν → Prop
  | nothing (s : Service ν) : Serves s [] s
  | settle {s t : Service ν} {events : List Event} (fuel : Nat) (h : Serves s events t) :
      Serves s (events ++ (t.settle fuel).2) (t.settle fuel).1
  | elapse {s t : Service ν} {events : List Event} (fuel : Nat) (h : Serves s events t) :
      Serves s (events ++ (t.elapse fuel).2) (t.elapse fuel).1

theorem Serves.leads {s t : Service ν} {events : List Event} (h : Serves s events t) :
    Process.Leads ⟨s.workers, .serving, []⟩ ⟨t.workers, .serving, Cli.printed events⟩ := by
  have hprinted : ∀ events more, Cli.printed (events ++ more)
      = Cli.printed events ++ Cli.printed more := fun _ _ => List.filterMap_append
  induction h with
  | nothing => exact .refl _
  | @settle t events fuel _ ih =>
      rw [hprinted]
      exact ih.trans (advance_leads fuel (fun w x => .refl w x.state) t (by simp) _)
  | @elapse t events fuel _ ih =>
      rw [hprinted]
      exact ih.trans (advance_leads fuel (fun w x => World.elapse_plays w x) t (by simp) _)

/-- When all workers have come to their end, the process exits with what has been printed. -/
theorem leads_exited_of_finished :
    ∀ (after before : List (Config Unit × State Unit)) (out : List String),
      (∀ worker ∈ after, worker.2.closed = true ∧ worker.2.isFinished = true) →
        Process.Leads ⟨before ++ after, .stopping before.length, out⟩
          ⟨before ++ after, .exited (.stopped out), out⟩ := by
  intro after
  induction after with
  | nil => intro before out _; exact .single (.exit rfl (by simp))
  | cons worker after ih =>
      obtain ⟨w, s⟩ := worker
      intro before out hfinished
      obtain ⟨hclosed, hthis⟩ := hfinished (w, s) List.mem_cons_self
      have hended : Does ⟨before ++ (w, s) :: after, .stopping before.length, out⟩ .advance _ :=
        .ended (w := w) (s := s) rfl (by simp) hclosed hthis
      have hrest := ih (before ++ [(w, s)]) out fun worker hmem =>
        hfinished worker (List.mem_cons_of_mem _ hmem)
      refine (Process.Leads.single hended).trans ?_
      simpa using hrest

/-- A signal makes the workers come to their end, and with them the process. -/
theorem shutdown_leads (fuel : Nat) (s : Service ν) (out : List String)
    (hfinished : ∀ worker ∈ (s.shutdown fuel).1.workers,
      worker.2.closed = true ∧ worker.2.isFinished = true) :
    Process.Leads ⟨s.workers, .serving, out⟩
      ⟨(s.shutdown fuel).1.workers,
        .exited (.stopped (out ++ Cli.printed (s.shutdown fuel).2)),
        out ++ Cli.printed (s.shutdown fuel).2⟩ := by
  have hsignal : Process.Leads ⟨s.workers, .serving, out⟩ ⟨s.workers, .stopping 0, out⟩ :=
    .single (.stop rfl)
  have hclosing : Process.Leads ⟨s.workers, .stopping 0, out⟩
      ⟨(s.shutdown fuel).1.workers, .stopping 0, out ++ Cli.printed (s.shutdown fuel).2⟩ :=
    advance_leads fuel (fun w x => .single (m := .close .asked) rfl) s (by simp) out
  exact (hsignal.trans hclosing).trans (leads_exited_of_finished _ [] _ hfinished)

end Service

end Cli

end JobWorker
