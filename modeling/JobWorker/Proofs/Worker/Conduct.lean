/-
What a handler does with a job, told by the events.

An activity is a program: it says things, sends commands and goes on according to the answers.
In a history the events of the handler stand among those of the other loop and of the log.  `Conduct`
goes through the events one by one and keeps for the handler at work what it has still to do.  The
main statement is that the events of every history are such a conduct.  From it follows what each
invocation has shown by the time it ends.
-/
import JobWorker.Proofs.Handler.Sincere
import JobWorker.Proofs.Worker.Deeds
import JobWorker.Proofs.Worker.History

namespace JobWorker

namespace Worker

variable {σ : Type} {w : Config σ}

/-! ### The executing loop from event to event -/

/-- Where the executing loop stands: with what it remembers, and with what the handler of a job has
still to do. -/
inductive Post (σ : Type) where
  /-- There is no job at work. -/
  | free (memory : σ)
  /-- The handler of a job is at work and has this to do. -/
  | acting (memory : σ) (job : Job) (rest : Activity σ)
  /-- The handler of a job waits for the answer to a command. -/
  | asking (memory : σ) (job : Job) (command : Command)
      (next : Except GatewayError Receipt → Activity σ)
  /-- The handler of a job has ended, and the worker has to send a command. -/
  | owing (memory : σ) (job : Job) (command : Command)
  /-- The worker waits for the answer to its own command. -/
  | settling (memory : σ) (job : Job) (command : Command)

/-- Where the executing loop stands in a state. -/
def State.post (s : State σ) : Post σ :=
  match s.execute with
  | .idle | .stopped => .free s.memory
  | .blocked job next => .acting s.memory job next
  | .sending job command next => .asking s.memory job command next
  | .following job command => .settling s.memory job command

/-- What an event is to the executing loop. -/
inductive Act (w : Config σ) : Post σ → Event → Post σ → Prop
  | start (memory : σ) (job : Job) :
      Act w (.free memory) (.started job) (.acting memory job (w.handler.start memory job))
  | say (memory : σ) (job : Job) (remark : Remark) (next : Activity σ) :
      Act w (.acting memory job (.say remark next)) (.said remark) (.acting memory job next)
  | ask (memory : σ) (job : Job) (command : Command)
      (next : Except GatewayError Receipt → Activity σ) :
      Act w (.acting memory job (.send command next)) (.call (.command command))
        (.asking memory job command next)
  | reply (memory : σ) (job : Job) (command : Command)
      (next : Except GatewayError Receipt → Activity σ) (verdict : Verdict) :
      Act w (.asking memory job command next) (.answered command verdict)
        (.acting memory job (next (command.receiptFor verdict)))
  | finish (memory memory' : σ) (job : Job) (outcome : Outcome)
      (hnone : w.followUp job outcome.result = none) :
      Act w (.acting memory job (.done memory' outcome)) (.ended job outcome) (.free memory')
  | owe (memory memory' : σ) (job : Job) (outcome : Outcome) (command : Command)
      (hsome : w.followUp job outcome.result = some command) :
      Act w (.acting memory job (.done memory' outcome)) (.ended job outcome)
        (.owing memory' job command)
  | follow (memory : σ) (job : Job) (command : Command) :
      Act w (.owing memory job command) (.call (.command command)) (.settling memory job command)
  | settle (memory : σ) (job : Job) (command : Command) (verdict : Verdict) :
      Act w (.settling memory job command) (.answered command verdict) (.free memory)
  | other (post : Post σ) (event : Event) (hforeign : event.isForeign = true) :
      Act w post event post

/-- What a list of events is to the executing loop.  That a handler waits until it is let go is not
seen. -/
inductive Conduct (w : Config σ) : Post σ → List Event → Post σ → Prop
  | nil (p : Post σ) : Conduct w p [] p
  | await {memory : σ} {job : Job} {next : Activity σ} {events : List Event} {q : Post σ}
      (h : Conduct w (.acting memory job next) events q) :
      Conduct w (.acting memory job (.await next)) events q
  | cons {p q r : Post σ} {event : Event} {events : List Event} (h : Act w p event q)
      (hrest : Conduct w q events r) : Conduct w p (event :: events) r

namespace Conduct

theorem single {p q : Post σ} {event : Event} (h : Act w p event q) : Conduct w p [event] q :=
  .cons h (.nil q)

theorem append {p q r : Post σ} {events more : List Event} (h : Conduct w p events q)
    (hmore : Conduct w q more r) : Conduct w p (events ++ more) r := by
  induction h with
  | nil p => exact hmore
  | await _ ih => exact .await (ih hmore)
  | cons h _ ih => exact .cons h (ih hmore)

theorem split {p r : Post σ} {events more : List Event} (h : Conduct w p (events ++ more) r) :
    ∃ q, Conduct w p events q ∧ Conduct w q more r := by
  generalize hall : events ++ more = all at h
  induction h generalizing events with
  | nil p =>
      obtain ⟨rfl, rfl⟩ := List.append_eq_nil_iff.mp hall
      exact ⟨p, .nil p, .nil p⟩
  | await _ ih =>
      obtain ⟨q, hfirst, hsecond⟩ := ih hall
      exact ⟨q, .await hfirst, hsecond⟩
  | @cons p _ _ event rest h hrest ih =>
      cases events with
      | nil => exact ⟨p, .nil p, by rw [List.nil_append] at hall; exact hall ▸ .cons h hrest⟩
      | cons first events =>
          obtain ⟨rfl, hsame⟩ := List.cons.inj hall
          obtain ⟨q, hfirst, hsecond⟩ := ih hsame
          exact ⟨q, .cons h hfirst, hsecond⟩

theorem foreign (post : Post σ) {events : List Event}
    (h : ∀ event ∈ events, event.isForeign = true) : Conduct w post events post := by
  induction events with
  | nil => exact .nil post
  | cons event events ih =>
      exact .cons (.other post event (h event List.mem_cons_self))
        (ih fun e he => h e (List.mem_cons_of_mem event he))

theorem notices (post : Post σ) (notices : List Notice) :
    Conduct w post (Event.ofNotices notices) post :=
  foreign post (by simp [Event.ofNotices, Event.isForeign])

end Conduct

/-! ### Histories are conducts -/

/-- Following an activity to where it waits is its conduct up to there. -/
theorem conduct_proceed (w : Config σ) (job : Job) (s : State σ) (activity : Activity σ) :
    Conduct w (.acting s.memory job activity) (s.proceed w job activity).2
      (s.proceed w job activity).1.post := by
  induction activity with
  | done memory outcome =>
      rw [State.proceed, State.finish]
      cases hfollow : w.followUp job outcome.result with
      | none => exact .cons (.finish _ _ job outcome hfollow) (.notices _ _)
      | some command =>
          exact .cons (.owe _ _ job outcome command hfollow)
            ((Conduct.notices _ _).append (.single (.follow memory job command)))
  | await next _ => exact .await (.nil _)
  | send command next _ => exact .single (.ask _ job command next)
  | say remark next ih => exact .cons (.say _ job remark next) ih

@[simp] theorem heed_memory (s : State σ) (m : Move) : (s.heed m).memory = s.memory := by
  cases m <;> rfl

/-- Whether a move can carry the handler of a job on. -/
def Move.isConduct : Move → Bool
  | .takeUp | .letGo | .verdict _ => true
  | .first | .wake | .elapse | .grant _ | .stopAcquiring | .stopExecuting | .close _ => false

/-- All other moves leave the executing loop where it stands. -/
theorem Step.conduct_of_isConduct_eq_false {s s' : State σ} {m : Move} {events : List Event}
    (h : Step w s m s' events) (hm : m.isConduct = false) :
    Conduct w s.post events s'.post := by
  cases h with
  | ask hasks hopen hroom =>
      simpa [State.post] using Conduct.foreign s.post (by simp [Event.isForeign])
  | skip hasks hopen hfull =>
      simpa [State.post] using Conduct.nil (w := w) s.post
  | accept jobs hpending hopen => exact .cons (.other _ _ rfl) (.notices _ _)
  | refuse error hpending hopen => exact .foreign _ (by simp [Event.isForeign])
  | stopAcquiring hrunning hclosed => exact .nil _
  | stopExecuting hidle hclosed =>
      simpa [State.post, State.stopExecuting, hidle] using Conduct.nil (w := w) s.post
  | close way hopen => exact .single (.other _ _ rfl)
  | closeAgain way hclosed => exact .nil _
  | takeUp | letGo | reply | settle => cases hm

theorem conduct_of_move? {s s' : State σ} {m : Move} {events : List Event} (hb : Bounded w s)
    (h : s.move? w m = some (s', events)) : Conduct w s.post events s'.post := by
  cases hm : m.isConduct with
  | false => exact (step_of_move? hb h).conduct_of_isConduct_eq_false hm
  | true =>
      cases m with
      | takeUp =>
          simp only [State.move?] at h
          split at h
          · rename_i job rest hidle hqueue
            split at h
            · cases h
            · cases h
              have hpost : s.post = .free s.memory := by simp [State.post, hidle]
              rw [hpost]
              exact .cons (.start s.memory job) (conduct_proceed w job (s.dequeued rest) _)
          · cases h
      | letGo =>
          simp only [State.move?] at h
          split at h
          · rename_i job next hblocked
            have hpost : s.post = .acting s.memory job next := by simp [State.post, hblocked]
            have hconduct := conduct_proceed w job s next
            rwa [Option.some.inj h, ← hpost] at hconduct
          · cases h
      | verdict verdict =>
          simp only [State.move?] at h
          split at h
          · rename_i job command next hsending
            have hpost : s.post = .asking s.memory job command next := by
              simp [State.post, hsending]
            simp only [State.answered, hsending] at h
            cases h
            rw [hpost]
            exact .cons (.reply s.memory job command next verdict) (conduct_proceed w job s _)
          · rename_i job command hfollowing
            have hpost : s.post = .settling s.memory job command := by
              simp [State.post, hfollowing]
            simp only [State.answered, hfollowing] at h
            cases h
            rw [hpost]
            exact .cons (.settle s.memory job command verdict) (.notices _ _)
          · cases h
      | _ => cases hm

/-- **The events of a history are a conduct** of the executing loop, from where it stands at first to
where it stands in the end. -/
theorem run?_conduct {s₀ : State σ} (hb : Bounded w s₀) {history : List Move} {s : State σ}
    {events : List Event} (h : s₀.run? w history = some (s, events)) :
    Conduct w s₀.post events s.post := by
  induction history generalizing s₀ events with
  | nil =>
      cases h
      exact .nil _
  | cons m history ih =>
      obtain ⟨t, first, rest, hm, hrest, rfl⟩ := run?_cons_eq_some_iff.mp h
      exact (conduct_of_move? hb hm).append (ih ((step_of_move? hb hm).bounded hb) hrest)

theorem Reaches.conduct {history : List Move} {s : State σ} {events : List Event}
    (h : Reaches w history s events) : Conduct w (.free w.handler.fresh) events s.post :=
  run?_conduct (bounded_start w) h

end Worker

end JobWorker
