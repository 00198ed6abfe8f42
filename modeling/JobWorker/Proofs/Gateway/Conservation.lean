/-
A script is handed out in order, and nothing of it is lost.

A script is made of items, the jobs of its batches and its errors.  Whatever the callers do and in
whatever order, the items that have been handed out, followed by the items that are still in the script,
are the items that were pushed: an answer moves the border between the first two, pushing adds to the
end, and nothing else touches any of them.  So an item is known by its place among those pushed, and what
becomes of an error among jobs can be read off that place.
-/
import JobWorker.Proofs.Gateway.Desk
import JobWorker.Proofs.Worker.Record

namespace JobWorker.Scripted

open Worker

/-! ### What scripts are made of -/

/-- What is handed out at once, or after what was there before. -/
inductive Item where
  | job (job : Job)
  | error (e : GatewayError)

/-- The job that an item is. -/
def Item.job? : Item → Option Job
  | .job j => some j
  | .error _ => none

/-- What an answer hands out. -/
def itemsOf : Grant → List Item
  | .ok jobs => jobs.map .job
  | .error e => [.error e]

/-- The jobs that an answer grants. -/
def granted : Grant → List Job
  | .ok jobs => jobs
  | .error _ => []

/-- The answer that takes all of an entry. -/
def Entry.whole : Entry → Grant
  | .batch jobs => .ok jobs
  | .error e => .error e

/-- What a script is made of. -/
def items (script : List Entry) : List Item := script.flatMap fun entry => itemsOf entry.whole

/-- What answers have handed out, in order. -/
def handedOut (events : List Event) : List Item := (grants events).flatMap itemsOf

@[simp] theorem items_cons (entry : Entry) (script : List Entry) :
    items (entry :: script) = itemsOf entry.whole ++ items script := rfl

@[simp] theorem items_append (script script' : List Entry) :
    items (script ++ script') = items script ++ items script' :=
  List.flatMap_append

@[simp] theorem handedOut_append (events more : List Event) :
    handedOut (events ++ more) = handedOut events ++ handedOut more := by
  simp only [handedOut, pick_append, List.flatMap_append]

theorem handedOut_granted (answer : Grant) : handedOut [.granted answer] = itemsOf answer := by
  simp [handedOut]

theorem filterMap_itemsOf (answer : Grant) : (itemsOf answer).filterMap Item.job? = granted answer := by
  cases answer with
  | error e => rfl
  | ok jobs =>
      have hjob : (fun job => Item.job? (.job job)) = some := rfl
      rw [itemsOf, List.filterMap_map, Function.comp_def, hjob, List.filterMap_some, granted]

theorem filterMap_items (script : List Entry) :
    (items script).filterMap Item.job? = script.flatMap Entry.jobs := by
  rw [items, List.filterMap_flatMap]
  congr 1
  funext entry
  rw [filterMap_itemsOf]
  cases entry <;> rfl

theorem filterMap_handedOut (events : List Event) :
    (handedOut events).filterMap Item.job? = (grants events).flatMap granted := by
  rw [handedOut, List.filterMap_flatMap]
  congr 1
  funext answer
  exact filterMap_itemsOf answer

/-- An answer that hands out an error is this error and nothing else. -/
theorem eq_error_of_itemsOf {answer : Grant} {e : GatewayError} {before after : List Item}
    (h : itemsOf answer = before ++ .error e :: after) :
    before = [] ∧ answer = .error e ∧ after = [] := by
  cases answer with
  | ok jobs =>
      have hmem : Item.error e ∈ jobs.map Item.job := by
        rw [show jobs.map Item.job = before ++ .error e :: after from h]
        simp
      simp at hmem
  | error e' =>
      have h : [Item.error e'] = before ++ .error e :: after := h
      cases before with
      | nil =>
          obtain ⟨he, hafter⟩ := List.cons.inj h
          exact ⟨rfl, congrArg _ (Item.error.inj he), hafter.symm⟩
      | cons item before =>
          obtain ⟨-, hnil⟩ := List.cons.inj h
          exact absurd hnil.symm (by simp)

/-- What is handed out by some answers is an error where one of the answers is. -/
theorem exists_error_of_flatMap {e : GatewayError} :
    ∀ {answers : List Grant} {before after : List Item},
      answers.flatMap itemsOf = before ++ .error e :: after →
        ∃ first last, answers = first ++ .error e :: last ∧
          first.flatMap itemsOf = before ∧ last.flatMap itemsOf = after := by
  intro answers
  induction answers with
  | nil =>
      intro before after h
      cases before <;> cases h
  | cons answer answers ih =>
      intro before after h
      rw [List.flatMap_cons] at h
      -- The error is in this answer, or in one of those behind it.
      rcases List.append_eq_append_iff.1 h with ⟨rest, hbefore, hrest⟩ | ⟨rest, hanswer, hrest⟩
      · obtain ⟨first, last, rfl, rfl, rfl⟩ := ih hrest
        exact ⟨answer :: first, last, rfl, by rw [hbefore, List.flatMap_cons], rfl⟩
      · cases rest with
        | nil =>
            rw [List.append_nil] at hanswer
            obtain ⟨first, last, rfl, hfirst, rfl⟩ := @ih [] after hrest.symm
            refine ⟨answer :: first, last, rfl, ?_, rfl⟩
            rw [List.flatMap_cons, hfirst, List.append_nil, hanswer]
        | cons item rest =>
            obtain ⟨rfl, rfl⟩ := List.cons.inj hrest
            obtain ⟨rfl, rfl, rfl⟩ := eq_error_of_itemsOf hanswer
            exact ⟨[], answers, rfl, rfl, rfl⟩

theorem exists_error_of_items {e : GatewayError} {script : List Entry} {before after : List Item}
    (h : items script = before ++ .error e :: after) :
    ∃ first last, script = first ++ .error e :: last ∧ items first = before ∧ items last = after := by
  have h : (script.map Entry.whole).flatMap itemsOf = before ++ .error e :: after := by
    rw [List.flatMap_map]
    exact h
  obtain ⟨first, last, hsplit, rfl, rfl⟩ := exists_error_of_flatMap h
  obtain ⟨first, tail, rfl, rfl, htail⟩ := List.map_eq_append_iff.1 hsplit
  obtain ⟨entry, last, rfl, hentry, rfl⟩ := List.map_eq_cons_iff.1 htail
  have hentry : entry = .error e := by
    cases entry with
    | batch jobs => cases hentry
    | error e' =>
        cases hentry
        rfl
  refine ⟨first, last, by rw [hentry], ?_, ?_⟩
  · rw [List.flatMap_map, items]
  · rw [List.flatMap_map, items]

theorem exists_error_of_handedOut {e : GatewayError} {events : List Event} {before after : List Item}
    (h : handedOut events = before ++ .error e :: after) :
    ∃ first last, events = first ++ .granted (.error e) :: last ∧
      handedOut first = before ∧ handedOut last = after := by
  obtain ⟨early, late, hsplit, rfl, rfl⟩ := exists_error_of_flatMap h
  obtain ⟨first, tail, rfl, rfl, htail⟩ := List.filterMap_eq_append_iff.1 hsplit
  obtain ⟨skipped, event, last, rfl, hskipped, hevent, rfl⟩ := List.filterMap_eq_cons_iff.1 htail
  have hevent : event = .granted (.error e) := by
    unfold Event.grant? at hevent
    split at hevent
    · cases hevent
      rfl
    · cases hevent
  have hnone : grants skipped = [] := List.filterMap_eq_nil_iff.2 hskipped
  refine ⟨first ++ skipped, last, ?_, ?_, rfl⟩
  · rw [hevent, List.append_assoc]
  · rw [handedOut_append, handedOut, handedOut, hnone, List.flatMap_nil, List.append_nil]
    rfl

/-! ### What one answer takes -/

/-- What can be taken from the front of a script to answer a request. -/
inductive Takes (g : Scripted) (request : ActivateRequest) : Grant → List Entry → Prop
  | nothing (hempty : g.script = []) : Takes g request (.ok []) []
  | error {e : GatewayError} {rest : List Entry} (hscript : g.script = .error e :: rest) :
      Takes g request (.error e) rest
  /-- Jobs come from one batch: all of it, or as many as were asked for. -/
  | jobs {taken left : List Job} {rest : List Entry} (hscript : g.script = .batch (taken ++ left) :: rest)
      (hover : g.overGranting = true → left = [])
      (hfair : g.overGranting = false →
        taken.length = min (taken ++ left).length request.maxJobs.toNat) :
      Takes g request (.ok taken) (if left = [] then rest else .batch left :: rest)

theorem takes_grant (g : Scripted) (request : ActivateRequest) :
    Takes g request (grant g.overGranting request.maxJobs g.script).2
      (grant g.overGranting request.maxJobs g.script).1 := by
  cases hscript : g.script with
  | nil => exact .nothing hscript
  | cons entry rest =>
      cases entry with
      | error e => exact .error hscript
      | batch jobs =>
          have hsplit : jobs.take (share g.overGranting request.maxJobs jobs) ++
              jobs.drop (share g.overGranting request.maxJobs jobs) = jobs := List.take_append_drop ..
          refine .jobs (by rw [hsplit]; exact hscript) ?_ ?_
          · intro hover
            rw [share, if_pos hover, List.drop_length]
          · intro hfair
            have hshare : share g.overGranting request.maxJobs jobs =
                min jobs.length request.maxJobs.toNat := by
              rw [share, if_neg (by simp [hfair])]
            rw [hsplit, hshare, List.length_take]
            omega

/-- What is taken and what is left make up the script. -/
theorem Takes.items_eq {g : Scripted} {request : ActivateRequest} {answer : Grant} {script : List Entry}
    (h : Takes g request answer script) : items g.script = itemsOf answer ++ items script := by
  cases h with
  | nothing hempty =>
      rw [hempty]
      rfl
  | error hscript =>
      rw [hscript]
      rfl
  | @jobs taken left rest hscript _ _ =>
      rw [hscript, items_cons, Entry.whole, itemsOf, List.map_append, List.append_assoc]
      by_cases hleft : left = []
      · rw [if_pos hleft, hleft]
        rfl
      · rw [if_neg hleft]
        rfl

/-! ### What is kept -/

namespace Desk

theorem pushed_append (acts more : List Act) : pushed (acts ++ more) = pushed acts ++ pushed more :=
  List.filterMap_append

theorem pushed_cons_push (entry : Entry) (acts : List Act) :
    pushed (.push entry :: acts) = entry :: pushed acts := rfl

/-- What has been pushed is handed out or still there, and every call is on record. -/
structure Kept (acts : List Act) (d : Desk) : Prop where
  items : handedOut d.events ++ items d.gateway.script = Scripted.items (pushed acts)
  calls : d.gateway.calls = acts.filterMap Act.call?

theorem kept_blank : Kept [] blank := ⟨rfl, rfl⟩

/-- An act that is no answer hands nothing out, and adds to the script what it pushes. -/
theorem Kept.quiet {acts : List Act} {d d' : Desk} {a : Act} (h : Kept acts d)
    (hevents : handedOut d'.events = handedOut d.events)
    (hscript : d'.gateway.script = d.gateway.script ++ a.pushed?.toList)
    (hcalls : d'.gateway.calls = d.gateway.calls ++ a.call?.toList) : Kept (acts ++ [a]) d' := by
  refine ⟨?_, ?_⟩
  · rw [hevents, hscript, items_append, ← List.append_assoc, h.items, pushed_append, items_append]
    cases a <;> rfl
  · rw [hcalls, h.calls, List.filterMap_append]
    cases a <;> rfl

theorem Kept.act {acts : List Act} {d d' : Desk} {a : Act} (h : Kept acts d)
    (hact : d.act? a = some d') : Kept (acts ++ [a]) d' := by
  cases a with
  | answer k =>
      simp only [act?, Option.map_eq_some_iff] at hact
      obtain ⟨request, -, rfl⟩ := hact
      have htakes := (takes_grant d.gateway request).items_eq
      refine ⟨?_, ?_⟩
      · rw [answer_eq, handedOut_append, List.append_assoc, handedOut_granted, ← htakes, h.items,
          pushed_append]
        exact (congrArg Scripted.items (List.append_nil _)).symm
      · rw [answer_eq, h.calls, List.filterMap_append]
        exact (List.append_nil _).symm
  | push entry =>
      cases hact
      exact h.quiet rfl rfl (List.append_nil _).symm
  | ask request =>
      cases hact
      exact h.quiet (by simp [ask, handedOut]) (List.append_nil _).symm rfl
  | perform command =>
      cases hact
      exact h.quiet (by simp [perform, handedOut]) (List.append_nil _).symm rfl
  | _ =>
      cases hact
      exact h.quiet rfl (List.append_nil _).symm (List.append_nil _).symm

/-- Leaving the errors out, the jobs that were pushed have been granted or are still there. -/
theorem Kept.jobs {acts : List Act} {d : Desk} (h : Kept acts d) :
    (grants d.events).flatMap granted ++ d.gateway.pending = (pushed acts).flatMap Entry.jobs := by
  have hjobs := congrArg (List.filterMap Item.job?) h.items
  rwa [List.filterMap_append, filterMap_handedOut, filterMap_items, filterMap_items] at hjobs

theorem kept_of_run {acts : List Act} {d : Desk} (h : blank.run? acts = some d) : Kept acts d :=
  foldlM_induction (motive := Kept) kept_blank (fun hkept hact => hkept.act hact) h

/-! ### Errors among jobs -/

/-- Where an error is that was pushed between other entries.  Either it waits in the script and nothing
behind it has been touched, or it was the answer to one request, when just what was pushed before it had
been handed out. -/
inductive Placed (before after : List Entry) (e : GatewayError) (d : Desk) : Prop
  | waiting {first last : List Entry} (hscript : d.gateway.script = first ++ .error e :: last)
      (hbefore : items before = handedOut d.events ++ items first)
      (hafter : items last = items after)
  | returned {events more : List Event} (hevents : d.events = events ++ .granted (.error e) :: more)
      (hbefore : handedOut events = items before)
      (hafter : items after = handedOut more ++ items d.gateway.script)

theorem Kept.placed {acts before after : List Act} {e : GatewayError} {d : Desk} (h : Kept acts d)
    (hacts : acts = before ++ .push (.error e) :: after) : Placed (pushed before) (pushed after) e d := by
  have hitems : handedOut d.events ++ Scripted.items d.gateway.script =
      Scripted.items (pushed before) ++ .error e :: Scripted.items (pushed after) := by
    rw [h.items, hacts, pushed_append, pushed_cons_push, items_append]
    rfl
  rcases List.append_eq_append_iff.1 hitems with ⟨rest, hbefore, hrest⟩ | ⟨rest, hout, hrest⟩
  · obtain ⟨first, last, hscript, rfl, hlast⟩ := exists_error_of_items hrest
    exact .waiting hscript hbefore hlast
  · cases rest with
    | nil =>
        rw [List.append_nil] at hout
        have hrest : Scripted.items d.gateway.script =
            [] ++ .error e :: Scripted.items (pushed after) := hrest.symm
        obtain ⟨first, last, hscript, hfirst, hlast⟩ := exists_error_of_items hrest
        exact .waiting hscript (by rw [hfirst, List.append_nil, hout]) hlast
    | cons item rest =>
        obtain ⟨rfl, hafter⟩ := List.cons.inj hrest
        obtain ⟨events, more, hevents, hfirst, rfl⟩ := exists_error_of_handedOut hout
        exact .returned hevents hfirst hafter

/-- What is known of a desk at which some acts have been done. -/
structure Conserved (acts : List Act) (d : Desk) : Prop where
  /-- What has been handed out and what is still in the script, errors as well, is what was pushed. -/
  all : handedOut d.events ++ items d.gateway.script = items (pushed acts)
  /-- The jobs that have been granted and those still in the script are those that were pushed. -/
  jobs : (grants d.events).flatMap granted ++ d.gateway.pending = (pushed acts).flatMap Entry.jobs
  /-- An answer takes what it may from the first entry of the script, and nothing else. -/
  takes : ∀ {k : Nat} {d' : Desk}, d.act? (.answer k) = some d' →
    ∃ request answer, d.waiting[k]? = some request ∧
      d'.events = d.events ++ [.granted answer] ∧ Takes d.gateway request answer d'.gateway.script
  /-- Every error that was pushed is in its place. -/
  errors : ∀ {before after : List Act} {e : GatewayError}, acts = before ++ .push (.error e) :: after →
    Placed (pushed before) (pushed after) e d
  /-- A request that is kept waiting makes no difference but to the record of calls. -/
  held : d.gateway.holding = true → ∀ {request : ActivateRequest} {more : List Act} {d₁ : Desk},
    d.run? (.ask request :: more) = some d₁ →
      ∃ d₂ events, d.run? more = some d₂ ∧
        d₁.gateway = { d₂.gateway with calls := d₁.gateway.calls } ∧ d₁.waiting = d₂.waiting ∧
        d₁.events = d.events ++ .call (.activate request) :: events ∧ d₂.events = d.events ++ events
  /-- The record holds the calls that were made, and no others. -/
  calls : d.gateway.calls = acts.filterMap Act.call?
  /-- To ask the gateway and get its answer at once is a row of such acts. -/
  atOnce : ∀ request, ∃ more, pushed more = [] ∧ d.run? more = some
    { d with
      gateway := (Gateway.activate d.gateway request).1
      events := d.events ++ .call (.activate request) ::
        (Gateway.activate d.gateway request).2.toList.map .granted }

/--
**Conservation.**  Any number of callers may ask for jobs, complete and fail jobs, and the script may be
added to and the gateway set up anew in between, in any order.  At every point, the jobs granted so far
and then the jobs of the script are the jobs pushed so far, in order.  An answer takes jobs from one
batch, no more than were asked for unless whole batches are granted.  An error is returned once, after all
that was pushed before it and before all that was pushed after it.  A request that is kept waiting leaves
only the record of the call, and the record is that of all calls.
-/
theorem scripts_are_conserved {acts : List Act} {d : Desk} (h : blank.run? acts = some d) :
    Conserved acts d := by
  have hkept := kept_of_run h
  refine ⟨hkept.items, hkept.jobs, ?_, hkept.placed, ?_, hkept.calls, d.exists_run?_activate⟩
  · intro k d' hact
    simp only [act?, Option.map_eq_some_iff] at hact
    obtain ⟨request, hrequest, rfl⟩ := hact
    exact ⟨request, _, hrequest, rfl, takes_grant d.gateway request⟩
  · intro hholding request more d₁ hrun
    obtain ⟨asked, hask, hmore⟩ := run?_cons_eq_some_iff.1 hrun
    cases hask
    obtain ⟨d₂, events, hrun₂, ⟨⟨calls, hgateway⟩, hwaiting⟩, hd₁, hd₂⟩ :=
      (alike_ask_of_holding hholding request).run hmore
    refine ⟨d₂, events, hrun₂, ?_, hwaiting.symm, ?_, hd₂⟩
    · rw [hgateway]
    · rw [hd₁, ask, List.append_assoc]
      rfl

/-- Two callers are answered in the other order, one is refused, one gets more than it asked for, and one
is kept waiting. -/
def crowd : List Act :=
  [.push (.batch [sampleJob 1, sampleJob 2, sampleJob 3]), .push (.error Worker.refusal),
    .push (.batch [sampleJob 4, sampleJob 5]), .ask ⟨"email", "w", 1, 2, []⟩,
    .ask ⟨"email", "v", 1, 1, []⟩, .answer 1, .answer 0, .ask ⟨"email", "w", 1, 2, []⟩, .answer 0,
    .overGrant, .ask ⟨"email", "v", 1, 0, []⟩, .push (.batch [sampleJob 6]), .answer 0, .hold,
    .ask ⟨"email", "w", 1, 1, []⟩]

theorem scripts_are_conserved_crowd :
    ∃ d, blank.run? crowd = some d ∧
      grants d.events = [.ok [sampleJob 1], .ok [sampleJob 2, sampleJob 3],
        .error Worker.refusal, .ok [sampleJob 4, sampleJob 5]] ∧
      d.gateway.pending = [sampleJob 6] ∧ d.waiting = [] ∧ d.gateway.calls.length = 5 ∧
      Conserved crowd d :=
  ⟨_, rfl, rfl, rfl, rfl, rfl, scripts_are_conserved rfl⟩

end Desk

end JobWorker.Scripted
