/-
From one request for jobs to the next, until the script holds nothing more.

When a worker asks for jobs with nothing in its queue, it is granted the first part of the jobs at
hand.  It takes them up one after the other, and with the last of them it gives itself the signal to
ask again.  So it comes back to asking with nothing in its queue.  Every request but the last brings
at least one job, and the induction is on the jobs that are left in the script.

How they are cut into batches and how many of them a request may bring shows only in the order of the
moves.  What is done with them is the account of `treatAll`, which knows neither.
-/
import JobWorker.Proofs.Worker.Settling

namespace JobWorker

namespace Scripted

/-! ### Scripts -/

/-- A script from which the next request takes no job. -/
def Barren : List Entry → Prop
  | [] | .error _ :: _ => True
  | .batch jobs :: _ => jobs = []

/-- The jobs that a request brings, and the script that it leaves. -/
def fetch (maxJobs : UInt32) (script : List Entry) : List Job × List Entry :=
  ((grant false maxJobs script).2.toOption.getD [], (grant false maxJobs script).1)

theorem length_fetch_le (maxJobs : UInt32) (script : List Entry) :
    (fetch maxJobs script).1.length ≤ maxJobs.toNat := by
  match script with
  | [] => exact Nat.zero_le _
  | .error e :: script => exact Nat.zero_le _
  | .batch jobs :: script =>
      simp only [fetch, grant, share, Except.toOption, Option.getD_some, List.length_take,
        Bool.false_eq_true, if_false]
      omega

theorem fetch_of_barren {rest : List Entry} (h : Barren rest) (maxJobs : UInt32) :
    fetch maxJobs rest = ([], rest.tail) := by
  match rest with
  | [] => rfl
  | .error e :: rest => rfl
  | .batch jobs :: rest =>
      cases h
      simp [fetch, grant, Except.toOption]

/-- A request for at least one job takes some jobs off the front of the batches. -/
theorem fetch_batches {maxJobs : UInt32} (hpos : 0 < maxJobs.toNat) {batch : List Job}
    {batches : List (List Job)} (hfull : ∀ b ∈ batch :: batches, b ≠ []) (rest : List Entry) :
    ∃ (taken : List Job) (left : List (List Job)),
      fetch maxJobs ((batch :: batches).map .batch ++ rest) = (taken, left.map .batch ++ rest) ∧
      taken ≠ [] ∧ (∀ b ∈ left, b ≠ []) ∧ taken ++ left.flatten = (batch :: batches).flatten := by
  have hbatch : batch ≠ [] := hfull batch List.mem_cons_self
  have hothers : ∀ b ∈ batches, b ≠ [] := fun b hb => hfull b (List.mem_cons_of_mem _ hb)
  let n := min batch.length maxJobs.toNat
  by_cases hdrop : batch.drop n = []
  · have htake := List.take_append_drop n batch
    rw [hdrop, List.append_nil] at htake
    exact ⟨batch, batches, by simp [fetch, grant, share, hdrop, htake, Except.toOption, n],
      hbatch, hothers, rfl⟩
  · refine ⟨batch.take n, batch.drop n :: batches, ?_, ?_, ?_, ?_⟩
    · simp [fetch, grant, share, hdrop, Except.toOption, n]
    · have hlen : 0 < batch.length := List.length_pos_iff.mpr hbatch
      rw [← List.length_pos_iff, List.length_take]
      omega
    · intro b hb
      rcases List.mem_cons.mp hb with rfl | hb
      · exact hdrop
      · exact hothers b hb
    · rw [List.flatten_cons, ← List.append_assoc, List.take_append_drop, List.flatten_cons]

end Scripted

namespace Worker

variable {σ : Type} {w : Config σ}

/-! ### Asking with an empty queue -/

/-- A worker with nothing to do that may ask for jobs, and a gateway that plays fair. -/
structure Ready (x : World Scripted σ) : Prop where
  queue : x.state.queue = []
  pollNow : x.state.pollNow = false
  closed : x.state.closed = false
  execute : x.state.execute = .idle
  answers : x.gateway.holding = false
  fair : x.gateway.overGranting = false

/-- What is granted to a worker with nothing in its queue goes into the queue, all of it. -/
theorem receive_granted {s : State σ} {request : ActivateRequest} (answer : Grant)
    (hqueue : s.queue = []) (hrequest : request.maxJobs.toNat = w.capacity)
    (hfit : (answer.toOption.getD []).length ≤ w.capacity) :
    (s.receive w request answer).1
        = { s with queue := answer.toOption.getD [], acquire := .waiting } ∧
      deeds (s.receive w request answer).2 = [] := by
  cases answer with
  | error e => simp [State.receive, Except.toOption, hqueue, Event.isForeign]
  | ok jobs =>
      simp only [Except.toOption, Option.getD_some] at hfit ⊢
      have haccept : Activation.accept request jobs = jobs :=
        List.take_of_length_le (hrequest ▸ hfit)
      simp only [State.receive, haccept]
      rw [enqueueAll_of_le jobs { s with acquire := .waiting } (by simpa [hqueue] using hfit)]
      simp [hqueue, Event.isForeign]

/-- The request of a worker with nothing in its queue brings what the script holds for it, and leaves
the rest of the worker alone. -/
theorem poll_ready {x : World Scripted σ} (h : Ready x) :
    Scripted.Hears { x.gateway with script := (Scripted.fetch w.request.maxJobs x.gateway.script).2 }
        (x.poll w).1.gateway ∧
      (x.poll w).1.state = { x.state with
        queue := (Scripted.fetch w.request.maxJobs x.gateway.script).1
        acquire := .waiting } ∧
      deeds (x.poll w).2 = [] := by
  have hfull : (x.state.topUp w).maxJobs.toNat = w.capacity := topUp_of_queue_eq_nil h.queue
  have hmax : (x.state.topUp w).maxJobs = w.request.maxJobs := UInt32.toNat_inj.mp hfull
  have hroom : x.state.room w ≠ 0 := by
    rw [State.room, h.queue, List.length_nil, Nat.sub_zero]
    exact Nat.pos_iff_ne_zero.mp w.capacity_pos
  have hgrant := receive_granted (w := w)
    (s := { x.state with acquire := .activating (x.state.topUp w) })
    (Scripted.grant false w.request.maxJobs x.gateway.script).2 h.queue hfull
    (Scripted.length_fetch_le w.request.maxJobs x.gateway.script)
  have hgranted : Scripted.grant x.gateway.overGranting (x.state.topUp w).maxJobs x.gateway.script
      = Scripted.grant false w.request.maxJobs x.gateway.script := by
    rw [h.fair, hmax]
  simp only [poll_of_answering hroom h.answers, hgranted]
  exact ⟨⟨_, rfl⟩, hgrant.1, by simpa [Event.isForeign] using hgrant.2⟩

/-! ### Working off the queue -/

/-- The jobs in the queue are taken up one after the other, and the last one gives the signal. -/
theorem leads_of_queue (hblocks : w.handler.NeverBlocks) :
    ∀ (jobs : List Job) (x : World Scripted σ), x.state.queue = jobs → x.state.closed = false →
      x.state.execute = .idle → ∃ y events, Leads w x y events ∧
        x.gateway.Hears y.gateway ∧
        y.state = { x.state with
          queue := []
          pollNow := x.state.pollNow || !jobs.isEmpty
          memory := (w.treatAll x.gateway.verdict x.state.memory jobs).1 } ∧
        deeds events = (w.treatAll x.gateway.verdict x.state.memory jobs).2 := by
  intro jobs
  induction jobs with
  | nil =>
      rintro ⟨gateway, ⟨queue, pollNow, closed, memory, acquire, execute⟩, permits⟩ hqueue _ _
      cases hqueue
      exact ⟨_, [], .stay _, .refl _, by simp [Config.treatAll], rfl⟩
  | cons job rest ih =>
      intro x hqueue hopen hidle
      have hdoes := World.takeUp_does w hblocks job rest x
      have hmove : x.move w = some (x.takeUp w job rest) := by
        simp [World.move, World.execute, hidle, hopen, hqueue]
      cases htake : x.takeUp w job rest with
      | mk x' first =>
          rw [htake] at hdoes hmove
          have hstate : x'.state = { x.state.dequeued rest with
            memory := (w.treat x.gateway.verdict x.state.memory job).1, execute := .idle } :=
            hdoes.state
          obtain ⟨y, events, hleads, hhears, hy, hdeeds⟩ := ih x' (by rw [hstate]; rfl)
            (by rw [hstate]; exact hopen) (by rw [hstate])
          rw [hdoes.gateway.verdict, hstate] at hy hdeeds
          refine ⟨y, first ++ events, .move hmove hleads, hdoes.gateway.trans hhears, ?_, ?_⟩
          · have hsignal : (x.state.pollNow || rest.isEmpty || !rest.isEmpty) = true := by
              cases rest.isEmpty <;> simp
            simp [hy, State.dequeued, Config.treatAll, hidle, hsignal]
          · rw [deeds_append, hdoes.deeds, hdeeds]
            rfl

/-! ### Working off the script -/

/-- The worker has handled jobs and is back where it was, and only `left` is in the script. -/
structure Drained (w : Config σ) (x : World Scripted σ) (jobs : List Job)
    (left : List Scripted.Entry) (y : World Scripted σ) (events : List Event) : Prop where
  gateway : Scripted.Hears { x.gateway with script := left } y.gateway
  state : y.state = { x.state with
    memory := (w.treatAll x.gateway.verdict x.state.memory jobs).1
    acquire := .waiting }
  deeds : deeds events = (w.treatAll x.gateway.verdict x.state.memory jobs).2

theorem Drained.trans {x y z : World Scripted σ} {jobs more : List Job}
    {left left' : List Scripted.Entry} {events events' : List Event}
    (h : Drained w x jobs left y events) (hmore : Drained w y more left' z events') :
    Drained w x (jobs ++ more) left' z (events ++ events') := by
  have hverdict : y.gateway.verdict = x.gateway.verdict := h.gateway.verdict
  refine ⟨?_, ?_, ?_⟩
  · obtain ⟨calls, hcalls⟩ := h.gateway
    obtain ⟨calls', hcalls'⟩ := hmore.gateway
    exact ⟨calls', by rw [hcalls', hcalls]⟩
  · rw [hmore.state, h.state, hverdict, treatAll_append]
  · rw [deeds_append, h.deeds, hmore.deeds, hverdict, h.state, treatAll_append]

theorem Drained.ready {x y : World Scripted σ} {jobs : List Job} {left : List Scripted.Entry}
    {events : List Event} (h : Drained w x jobs left y events) (hx : Ready x) : Ready y := by
  obtain ⟨calls, hcalls⟩ := h.gateway
  exact
    { queue := by rw [h.state]; exact hx.queue
      pollNow := by rw [h.state]; exact hx.pollNow
      closed := by rw [h.state]; exact hx.closed
      execute := by rw [h.state]; exact hx.execute
      answers := by rw [hcalls]; exact hx.answers
      fair := by rw [hcalls]; exact hx.fair }

/-- A worker that has nothing to do and waits is at rest. -/
theorem Ready.move_eq_none {x : World Scripted σ} (h : Ready x)
    (hwait : x.state.acquire = .waiting) : x.move w = none := by
  simp [World.move, World.execute, World.acquire, h.execute, h.closed, h.queue, h.pollNow, hwait]

theorem move_of_signal {x : World Scripted σ} (hsignal : x.state.pollNow = true)
    (hqueue : x.state.queue = []) (hopen : x.state.closed = false)
    (hidle : x.state.execute = .idle) (hwait : x.state.acquire = .waiting) :
    x.move w = some (World.poll w { x with state := { x.state with pollNow := false } }) := by
  simp [World.move, World.execute, World.acquire, hidle, hopen, hqueue, hwait, hsignal]

/-- From one request that brings jobs to the next. -/
theorem drained_of_batches (hblocks : w.handler.NeverBlocks) {x : World Scripted σ} (h : Ready x)
    {batch : List Job} {batches : List (List Job)} (hfull : ∀ b ∈ batch :: batches, b ≠ [])
    {rest : List Scripted.Entry}
    (hscript : x.gateway.script = (batch :: batches).map .batch ++ rest) :
    ∃ (taken : List Job) (left : List (List Job)) (y z : World Scripted σ) (events : List Event),
      taken ≠ [] ∧ (∀ b ∈ left, b ≠ []) ∧ taken ++ left.flatten = (batch :: batches).flatten ∧
      Leads w (x.poll w).1 y events ∧ y.move w = some (z.poll w) ∧
      Drained w x taken (left.map .batch ++ rest) z ((x.poll w).2 ++ events) := by
  obtain ⟨hgateway, hstate, hdeeds⟩ := poll_ready (w := w) h
  obtain ⟨taken, left, hfetch, htaken, hleft, hflat⟩ :=
    Scripted.fetch_batches w.capacity_pos hfull rest
  rw [hscript, hfetch] at hgateway hstate
  obtain ⟨y, events, hleads, hhears, hy, hdone⟩ := leads_of_queue hblocks taken (x.poll w).1
    (by rw [hstate]) (by rw [hstate]; exact h.closed) (by rw [hstate]; exact h.execute)
  rw [hgateway.verdict, hstate] at hy hdone
  refine ⟨taken, left, y, { y with state := { y.state with pollNow := false } }, events, htaken,
    hleft, hflat, hleads, ?_, hgateway.trans hhears, ?_, ?_⟩
  · -- the last job that was taken up has given the signal
    have hsignal : y.state.pollNow = true := by simp [hy, htaken]
    exact move_of_signal hsignal (by rw [hy]) (by rw [hy]; exact h.closed)
      (by rw [hy]; exact h.execute) (by rw [hy])
  · simp only [hy, h.queue, h.pollNow]
    rfl
  · rw [deeds_append, hdeeds, hdone]
    rfl

/-- From one request to the next there are fewer jobs in the script, so a worker that is ready asks
until the script holds nothing for it. -/
theorem drains (hblocks : w.handler.NeverBlocks) {rest : List Scripted.Entry}
    (hbarren : Scripted.Barren rest) (batches : List (List Job)) (x : World Scripted σ)
    (h : Ready x) (hfull : ∀ b ∈ batches, b ≠ [])
    (hscript : x.gateway.script = batches.map .batch ++ rest) :
    ∃ y events, Leads w (x.poll w).1 y events ∧
      Drained w x batches.flatten rest.tail y ((x.poll w).2 ++ events) := by
  induction hlen : batches.flatten.length using Nat.strongRecOn generalizing batches x with
  | ind len ih =>
    cases batches with
    | nil =>
        obtain ⟨hgateway, hstate, hdeeds⟩ := poll_ready (w := w) h
        rw [hscript, List.map_nil, List.nil_append, Scripted.fetch_of_barren hbarren]
          at hgateway hstate
        refine ⟨(x.poll w).1, [], .stay _, hgateway, ?_, ?_⟩
        · rw [hstate, ← h.queue]
          rfl
        · simpa [Config.treatAll] using hdeeds
    | cons batch batches =>
        obtain ⟨taken, left, y, z, first, htaken, hleft, hflat, hleads, hwake, hround⟩ :=
          drained_of_batches hblocks h hfull hscript
        have hpos : 0 < taken.length := List.length_pos_iff.mpr htaken
        have hsum : taken.length + left.flatten.length = len := by
          rw [← hlen, ← hflat, List.length_append]
        obtain ⟨calls, hcalls⟩ := hround.gateway
        obtain ⟨u, events, hmore, hdrained⟩ := ih left.flatten.length (by omega) left z
          (hround.ready h) hleft (by rw [hcalls]) rfl
        refine ⟨u, _, hleads.trans (.move hwake hmore), ?_⟩
        rw [← hflat, ← List.append_assoc]
        exact hround.trans hdrained

end Worker

end JobWorker
