/-
Receipts are sound.

A receipt is not made but received: the only way to one is a command that the gateway accepts.  So a
handler that hands back nothing but receipts it was given, now or for an earlier job, hands back
receipts of commands that are in the record with their acceptance.  `Sincere` says that a handler is
like that, whatever its commands are answered.

The argument follows the conduct of the executing loop.  What a handler remembers has come about in
invocations whose events are all on record (`Remembers`), and while a handler is at work, whatever
its rest will show makes the whole of the invocation complete (`Underway`).  When it ends, its rest
shows nothing more, and so the invocation has shown just what is on record since its start.
-/
import JobWorker.Proofs.Worker.Accounting

namespace JobWorker

namespace Worker

variable {σ : Type} {w : Config σ}

/-- A command was sent and was accepted in answer to that very call. -/
def Accepted (command : Command) (events : List Event) : Prop :=
  ∃ before between after,
    events = before ++ .call (.command command) ::
      (between ++ .answered command (.ok ()) :: after) ∧
    ∀ event ∈ between, event.isForeign = true

/-! ### What is on record of the handler -/

/-- What the handler remembers has come about in invocations that are on record. -/
def Remembers (w : Config σ) (events : List Event) (memory : σ) : Prop :=
  ∃ earlier, earlier.Sublist events ∧ w.handler.Recalls earlier memory

theorem Remembers.append {events : List Event} {memory : σ} (h : Remembers w events memory)
    (more : List Event) : Remembers w (events ++ more) memory := by
  obtain ⟨earlier, hsub, hrecalls⟩ := h
  exact ⟨earlier, hsub.trans (List.sublist_append_left events more), hrecalls⟩

/-- A handler is at work on a job since its start is on record: whatever its rest will show, the
invocation shows as well, after what it has shown so far. -/
def Underway (w : Config σ) (events : List Event) (memory : σ) (job : Job)
    (rest : List Event → σ → Outcome → Prop) : Prop :=
  ∃ before between, events = before ++ .started job :: between ∧
    handed between = [] ∧ finished between = [] ∧ Remembers w before memory ∧
    ∀ (more : List Event) (memory' : σ) (outcome : Outcome), rest more memory' outcome →
      (w.handler.start memory job).Shows (deeds between ++ more) memory' outcome

theorem pick_concat_eq_nil {α : Type} {f : Event → Option α} {events : List Event} {event : Event}
    (h : pick f events = []) (hevent : f event = none) : pick f (events ++ [event]) = [] := by
  simp [h, hevent]

/-- One more event leaves a handler at work, if it is neither a start nor an end. -/
theorem Underway.step {events : List Event} {memory : σ} {job : Job}
    {rest rest' : List Event → σ → Outcome → Prop} (h : Underway w events memory job rest)
    (event : Event) (hhanded : event.handed? = none) (hended : event.ended? = none)
    (hrest : ∀ more memory' outcome, rest' more memory' outcome →
      rest (deeds [event] ++ more) memory' outcome) :
    Underway w (events ++ [event]) memory job rest' := by
  obtain ⟨before, between, rfl, hnone, hdone, hremembers, hshows⟩ := h
  refine ⟨before, between ++ [event], by simp, pick_concat_eq_nil hnone hhanded,
    pick_concat_eq_nil hdone hended, hremembers, ?_⟩
  intro more memory' outcome hmore
  rw [deeds_append, List.append_assoc]
  exact hshows _ memory' outcome (hrest more memory' outcome hmore)

/-- What is on record by where the executing loop stands. -/
def OnRecord (w : Config σ) (events : List Event) : Post σ → Prop
  | .free memory | .owing memory .. | .settling memory .. => Remembers w events memory
  | .acting memory job rest => Underway w events memory job rest.Shows
  | .asking memory job command next =>
      Underway w events memory job fun more =>
        (Activity.send command next).Shows (.call (.command command) :: more)

/-- The handler has ended, and its invocation has shown what is on record since its start. -/
def Ended (w : Config σ) (events : List Event) (job : Job) (outcome : Outcome) : Prop :=
  ∃ before between memory memory', events = before ++ .started job :: between ∧
    handed between = [] ∧ finished between = [] ∧ Remembers w before memory ∧
    (w.handler.start memory job).Shows (deeds between) memory' outcome

theorem Underway.ended {events : List Event} {memory memory' : σ} {job : Job} {outcome : Outcome}
    (h : Underway w events memory job (Activity.done memory' outcome).Shows) :
    Remembers w events memory' ∧ Ended w events job outcome := by
  obtain ⟨before, between, rfl, hnone, hdone, ⟨earlier, hsub, hrecalls⟩, hshows⟩ := h
  have hall := hshows [] memory' outcome (.done memory' outcome)
  rw [List.append_nil] at hall
  have hbetween : (deeds between).Sublist (.started job :: between) :=
    List.filter_sublist.trans (List.sublist_cons_self _ _)
  exact ⟨⟨_, hsub.append hbetween, hrecalls.after job hall⟩,
    before, between, memory, memory', rfl, hnone, hdone, ⟨earlier, hsub, hrecalls⟩, hall⟩

/-- Going on from where a handler waits, it has as much to do as before. -/
theorem OnRecord.await {events : List Event} {memory : σ} {job : Job} {next : Activity σ}
    (h : OnRecord w events (.acting memory job (.await next))) :
    OnRecord w events (.acting memory job next) := by
  obtain ⟨before, between, heq, hnone, hdone, hremembers, hshows⟩ := h
  exact ⟨before, between, heq, hnone, hdone, hremembers,
    fun more memory' outcome hmore => hshows more memory' outcome (.await hmore)⟩

theorem OnRecord.act {events : List Event} {p q : Post σ} {event : Event}
    (h : OnRecord w events p) (hact : Act w p event q) : OnRecord w (events ++ [event]) q := by
  cases hact with
  | start memory job =>
      exact ⟨events, [], rfl, rfl, rfl, h, fun more memory' outcome hmore => hmore⟩
  | say memory job remark next =>
      exact Underway.step h _ rfl rfl fun more memory' outcome hmore => .say remark hmore
  | ask memory job command next =>
      exact Underway.step h _ rfl rfl fun more memory' outcome hmore => hmore
  | reply memory job command next verdict =>
      exact Underway.step h _ rfl rfl fun more memory' outcome hmore => .send command verdict hmore
  | finish memory memory' job outcome hnone => exact (Underway.ended h).1.append _
  | owe memory memory' job outcome command hsome => exact (Underway.ended h).1.append _
  | follow memory job command => exact Remembers.append h _
  | settle memory job command verdict => exact Remembers.append h _
  | other post event hforeign =>
      obtain ⟨hhanded, hended, -⟩ := event.unread_of_isForeign hforeign
      have hnone : deeds [event] = [] := by simp [hforeign]
      cases p with
      | free memory => exact Remembers.append h _
      | owing memory job command => exact Remembers.append h _
      | settling memory job command => exact Remembers.append h _
      | acting memory job rest =>
          exact Underway.step h event hhanded hended fun more memory' outcome hmore => by
            rwa [hnone, List.nil_append]
      | asking memory job command next =>
          exact Underway.step h event hhanded hended fun more memory' outcome hmore => by
            rwa [hnone, List.nil_append]

theorem Conduct.onRecord {p q : Post σ} {events more : List Event} (h : Conduct w p more q)
    (hrecord : OnRecord w events p) : OnRecord w (events ++ more) q := by
  induction h generalizing events with
  | nil p => rwa [List.append_nil]
  | await _ ih => exact ih hrecord.await
  | @cons _ _ _ event rest hact _ ih =>
      have hall := ih (hrecord.act hact)
      rwa [List.append_assoc, List.singleton_append] at hall

/-- When a handler ends, its invocation has shown what is on record since its start. -/
theorem Conduct.ended {p q : Post σ} {events after : List Event} {job : Job} {outcome : Outcome}
    (h : Conduct w p (.ended job outcome :: after) q) (hrecord : OnRecord w events p) :
    Ended w events job outcome := by
  generalize hall : Event.ended job outcome :: after = all at h
  induction h with
  | nil p => cases hall
  | await _ ih => exact ih hrecord.await hall
  | cons hact _ _ =>
      cases hall
      cases hact with
      | finish memory memory' _ _ hnone => exact (Underway.ended hrecord).2
      | owe memory memory' _ _ command hsome => exact (Underway.ended hrecord).2
      | other _ _ hforeign => cases hforeign

theorem onRecord_fresh (w : Config σ) : OnRecord w [] (.free w.handler.fresh) :=
  ⟨[], .slnil, .fresh⟩

/-- What the handler at work has shown so far is on record as well. -/
theorem Reaches.onRecord {history : List Move} {s : State σ} {events : List Event}
    (h : Reaches w history s events) : OnRecord w events s.post :=
  h.conduct.onRecord (onRecord_fresh w)

theorem Reaches.ended {history : List Move} {s : State σ} {before after : List Event} {job : Job}
    {outcome : Outcome} (h : Reaches w history s (before ++ .ended job outcome :: after)) :
    Ended w before job outcome := by
  obtain ⟨p, hbefore, hend⟩ := h.conduct.split
  exact hend.ended (hbefore.onRecord (onRecord_fresh w))

/-! ### What a receipt stands for -/

/-- An answer with a receipt is the answer to the call that was made for it. -/
theorem Reaches.accepted_of_append {history : List Move} {s : State σ} {events more : List Event}
    {receipt : Receipt} (h : Reaches w history s (events ++ more))
    (hmem : receipt ∈ receipts events) :
    ∃ command, receipt = ⟨command.key, command.kind⟩ ∧ Accepted command events := by
  obtain ⟨event, hevent, hreceipt⟩ := List.mem_filterMap.mp hmem
  obtain ⟨command, rfl, rfl⟩ :
      ∃ command, event = .answered command (.ok ()) ∧ ⟨command.key, command.kind⟩ = receipt := by
    unfold Event.receipt? at hreceipt
    split at hreceipt
    · exact ⟨_, rfl, Option.some.inj hreceipt⟩
    · cases hreceipt
  obtain ⟨first, rest, rfl⟩ := List.append_of_mem hevent
  obtain ⟨_, hevents, -⟩ := h.course.split
  obtain ⟨stage, hfirst, hrest⟩ := hevents.split
  have hawaited : stage.awaited? = some command := by
    cases hrest with
    | cons hadvance _ =>
        cases hadvance with
        | reply => rfl
        | settle => rfl
        | other _ _ hforeign => cases hforeign
  rcases hfirst.asked hawaited with ⟨hnone, -⟩ | ⟨before, between, rfl, hforeign⟩
  · cases hnone
  · exact ⟨command, rfl, before, between, rest, by simp, hforeign⟩

/-- A receipt that a sincere handler hands back stands for a command that was accepted before. -/
theorem Reaches.accepted_of_returned (hsincere : w.handler.Sincere) {history : List Move}
    {s : State σ} {before after : List Event} {job : Job} {receipt : Receipt}
    (h : Reaches w history s (before ++ .ended job (.returned (.resolved receipt)) :: after)) :
    ∃ command, receipt = ⟨command.key, command.kind⟩ ∧ Accepted command before := by
  obtain ⟨first, between, memory, memory', rfl, -, -, ⟨earlier, hsub, hrecalls⟩, hshows⟩ := h.ended
  have hgiven := hsincere earlier memory job (deeds between) memory' receipt hrecalls hshows
  have hrecord : (earlier ++ deeds between).Sublist (first ++ .started job :: between) :=
    hsub.append (List.filter_sublist.trans (List.sublist_cons_self _ _))
  exact h.accepted_of_append ((hrecord.filterMap Event.receipt?).subset hgiven)

/-- Sending a command is one call, and brings a receipt for it exactly when it is accepted. -/
theorem send_spec {γ : Type} [Gateway γ] (g : γ) (command : Command) :
    (command.send g).1 = (Gateway.perform g command).1 ∧
    commands (command.send g).2.1 = [command] ∧
    (∀ receipt, (command.send g).2.2 = .ok receipt ↔
      (Gateway.perform g command).2 = .ok () ∧ receipt = ⟨command.key, command.kind⟩) ∧
    ∀ error, (command.send g).2.2 = .error error ↔ (Gateway.perform g command).2 = .error error := by
  refine ⟨rfl, rfl, ?_, ?_⟩
  all_goals
    intro answer
    simp only [Command.send, Command.receiptFor, Command.receipt]
    cases (Gateway.perform g command).2 with
    | ok _ => simp [Except.map, eq_comm]
    | error e => simp [Except.map]

/--
**Receipts are sound.**  Whoever sends a command to whatever gateway makes one call with the request
as it was built, and gets a receipt with the key and the kind of the command exactly when the gateway
accepts it.  So it is for handlers as well, in every history: what an invocation has shown when it
ends is its activity, each command with its one call and its one answer, and the handler that is still
at work has shown the beginning of its own.  A handler that hands back only receipts it was given
hands back receipts of accepted commands.  And whenever an invocation counts as resolved, so that the
worker sends nothing for the job, a command for that very job has been sent and accepted before.
-/
theorem receipts_are_sound (hsincere : w.handler.Sincere) {history : List Move} {s : State σ}
    {events : List Event} (h : Reaches w history s events) :
    (∀ {γ : Type} [Gateway γ] (g : γ) (command : Command),
      (command.send g).1 = (Gateway.perform g command).1 ∧
      commands (command.send g).2.1 = [command] ∧
      (∀ receipt, (command.send g).2.2 = .ok receipt ↔
        (Gateway.perform g command).2 = .ok () ∧ receipt = ⟨command.key, command.kind⟩) ∧
      ∀ error, (command.send g).2.2 = .error error ↔
        (Gateway.perform g command).2 = .error error) ∧
    (∀ before job outcome after, events = before ++ .ended job outcome :: after →
      Ended w before job outcome) ∧
    OnRecord w events s.post ∧
    (∀ before job receipt after,
      events = before ++ .ended job (.returned (.resolved receipt)) :: after →
        ∃ command, receipt = ⟨command.key, command.kind⟩ ∧ Accepted command before) ∧
    ∀ before job resolution after,
      events = before ++ .ended job (.returned resolution) :: after →
        resolution.resolves job.key = true →
          commands (beforeNext after) = [] ∧
          ∃ command, command.key = job.key ∧ Accepted command before := by
  refine ⟨send_spec, ?_, h.onRecord, ?_, ?_⟩
  · rintro before job outcome after rfl
    exact h.ended
  · rintro before job receipt after rfl
    exact h.accepted_of_returned hsincere
  · rintro before job resolution after rfl hresolves
    cases resolution with
    | unresolved => cases hresolves
    | resolved receipt =>
        have hkey : receipt.key = job.key := by simpa [Resolution.resolves] using hresolves
        obtain ⟨command, rfl, haccepted⟩ := h.accepted_of_returned hsincere
        refine ⟨?_, command, hkey, haccepted⟩
        -- of the ways in which the worker can owe something, only one fits
        have howes := h.course.owes s.execute.owed_stage
        generalize commands (beforeNext after) = owed at howes ⊢
        cases howes with
        | resolved _ _ => rfl
        | foreign _ hforeign => exact absurd hkey hforeign

/-- Plans for two jobs.  The first fails its own job, which is refused, and completes the second; the
receipt for this is handed back for both jobs. -/
def crossed : Plans where
  standard := Plan.blank
  byKey :=
    [(JobKey.ofInt 1, [{ Plan.blank with
        commands := [⟨.fail 2 "later", none, true⟩, ⟨.complete .unset, some (JobKey.ofInt 2), false⟩]
        saves := true
        choice := .last }]),
      (JobKey.ofInt 2, [{ Plan.blank with choice := .saved }])]

/-- A worker that follows these plans. -/
def crossing : Config Plan.Memory where
  request := sample.request
  handler := crossed.handler
  pollInterval := sample.pollInterval
  autoComplete := true
  capacity_pos := sample.capacity_pos

/-- Both jobs are handled; only the first command and the worker's own are refused. -/
def crossings : List Move :=
  [.first, .grant (.ok [sampleJob 1, sampleJob 2]), .takeUp, .verdict (.error refusal),
    .verdict (.ok ()), .verdict (.error refusal), .takeUp]

theorem receipts_are_sound_crossed :
    ∃ s events, crossing.handler.Sincere ∧ Reaches crossing crossings s events ∧
      finished events = [sampleJob 1, sampleJob 2] ∧
      ∀ before job resolution after,
        events = before ++ .ended job (.returned resolution) :: after →
          resolution.resolves job.key = true →
            commands (beforeNext after) = [] ∧
            ∃ command, command.key = job.key ∧ Accepted command before := by
  refine ⟨_, _, crossed.sincere, rfl, rfl, ?_⟩
  exact (receipts_are_sound crossed.sincere
    (show Reaches crossing crossings _ _ from rfl)).2.2.2.2

end Worker

end JobWorker
