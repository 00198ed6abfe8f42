/-
What the program ends with.

The code of an exit says who is to blame.  It is 2 when the command line or the settings are at
fault, and then nothing has gone over the network.  It is 1 when the one activation that was asked for
has failed.  Workers never give the program a reason to end: what ends it is a signal, and then the
code is 0.
-/
import JobWorker.Proofs.Cli.Reading
import JobWorker.Proofs.Cli.Stopping
import JobWorker.Proofs.Settings.Validity
import JobWorker.Rest.Stub

namespace JobWorker.Cli

open Worker

/-! ### Command lines -/

/-- No help makes the program run. -/
theorem readTopic_ne_run (s : Subcommand) (items : List Item) (words : List String) :
    readTopic words ≠ .ok (.run s items) := by
  intro h
  unfold readTopic at h
  split at h
  · cases h
  · split at h
    · cases h
    · cases h
    · split at h <;> cases h
    · split at h <;> cases h

/-- What is run was read behind its subcommand. -/
theorem readFlags_of_read {s : Subcommand} {items : List Item} {arguments : List String}
    (h : read arguments = .ok (.run s items)) :
    ∃ words, readFlags s .nothing words = .ok (.run s items) := by
  unfold read at h
  split at h
  · cases h
  · rename_i argument rest
    split at h
    · split at h <;> cases h
    · cases h
    · cases h
    · cases h
    · cases h
    · cases h
    · cases h
    · cases h
    · cases h
    · split at h
      · rename_i s' _
        obtain ⟨rfl, -⟩ := finish_of_readFlags_eq_run h
        exact ⟨rest, h⟩
      · split at h
        · exact absurd h (readTopic_ne_run s items rest)
        · cases h

/-- Behind its name, the words of a subcommand are read. -/
theorem read_name_cons (s : Subcommand) (words : List String) :
    read (s.name :: words) = readFlags s .nothing words := by
  cases s <;> rfl

/-- What the items of a flag say is found where there are any. -/
theorem findSome?_of_flag {β : Type} {f : Flag} {value? : Item → Option β}
    (hvalue : ∀ item : Item, item.flag = f → ∃ b, value? item = some b) {items : List Item}
    (h : ∃ item ∈ items, item.flag = f) : ∃ b, items.findSome? value? = some b := by
  obtain ⟨item, hmem, hflag⟩ := h
  obtain ⟨b, hb⟩ := hvalue item hflag
  exact Option.isSome_iff_exists.mp
    (List.findSome?_isSome_iff.mpr ⟨item, hmem, by simp [hb]⟩)

theorem maxJobs?_of_flag {items : List Item} (h : ∃ item ∈ items, item.flag = .maxJobs) :
    ∃ n, maxJobs? items = some n := by
  refine findSome?_of_flag (fun item hitem => ?_) h
  cases item with
  | maxJobs n => exact ⟨n, rfl⟩
  | _ => cases hitem

theorem timeout?_of_flag {items : List Item} (h : ∃ item ∈ items, item.flag = .timeout) :
    ∃ d, timeout? items = some d := by
  refine findSome?_of_flag (fun item hitem => ?_) h
  cases item with
  | timeout d => exact ⟨d, rfl⟩
  | _ => cases hitem

/-- The arguments for workers are there when the command line has been read. -/
theorem workerArguments_of_read {items : List Item} {arguments : List String}
    (h : read arguments = .ok (.run .worker items)) :
    ∃ a, workerArguments items = .ok a ∧ a.jobTypes = jobTypes items := by
  obtain ⟨words, hread⟩ := readFlags_of_read h
  obtain ⟨maxJobs, hmaxJobs⟩ := maxJobs?_of_flag (flag_mem_of_readFlags hread (by decide))
  obtain ⟨timeout, htimeout⟩ := timeout?_of_flag (flag_mem_of_readFlags hread (by decide))
  unfold workerArguments
  rw [hmaxJobs, htimeout]
  exact ⟨_, rfl, rfl⟩

/-! ### Settings -/

/-- Whether the settings are valid that the items of a subcommand make. -/
def ValidSettings : Subcommand → List Item → Prop
  | .worker, items =>
    ∃ a, workerArguments items = .ok a ∧ ∀ jobType ∈ a.jobTypes, (a.options jobType).Valid
  | .activate, items => (activationOptions items).Valid

/-- Workers can be opened if the settings are valid for each of them, and then there is one for each
job type. -/
theorem openAll_isOk_iff {a : WorkerArguments} {env : Environment} :
    (∃ workers, a.openAll env = .ok workers) ↔
      ∀ jobType ∈ a.jobTypes, (a.options jobType).Valid := by
  have hchecked : (∃ checks, (a.jobTypes.map a.options).mapM (fun o => (o.validate env).2)
      = .ok checks) ↔ ∀ jobType ∈ a.jobTypes, (a.options jobType).Valid := by
    simp only [mapM_isOk_iff, Options.validate_isOk_iff, List.forall_mem_map]
  have hopened : (∃ workers, (a.jobTypes.map a.options).mapM (fun o => (o.openIn env .multiThread).2)
      = .ok workers) ↔ ∀ jobType ∈ a.jobTypes, (a.options jobType).Valid := by
    simp only [mapM_isOk_iff, Options.openIn_isOk_iff, List.forall_mem_map]
  simp only [WorkerArguments.openAll, bind_eq_ok_iff]
  constructor
  · rintro ⟨_, checks, hchecks, -⟩
    exact hchecked.mp ⟨checks, hchecks⟩
  · intro hvalid
    obtain ⟨checks, hchecks⟩ := hchecked.mpr hvalid
    obtain ⟨workers, hworkers⟩ := hopened.mpr hvalid
    exact ⟨workers, checks, hchecks, hworkers⟩

theorem jobType_of_openIn {o : Options Unit} {env : Environment} {w : Config Unit}
    (h : (o.openIn env .multiThread).2 = .ok w) : o.jobType = some w.jobType := by
  cases hconfig : o.config env with
  | mk notices config =>
      cases config with
      | error e => simp [Options.openIn, hconfig, Except.bind] at h
      | ok w' =>
          have hsame : w' = w := by
            simpa [Options.openIn, hconfig, Except.bind, Runtime.check, Except.map] using h
          subst hsame
          obtain ⟨g, hgiven, hrequest⟩ := Options.request_of_config hconfig
          obtain ⟨⟨hjobType, -⟩, -⟩ := Options.given_eq_ok_iff.mp hgiven
          rw [hjobType, Config.jobType, hrequest]
          rfl

theorem jobTypes_of_openAll {a : WorkerArguments} {env : Environment}
    {workers : List (Config Unit)} (h : a.openAll env = .ok workers) :
    workers.map Config.jobType = a.jobTypes := by
  obtain ⟨checks, -, h⟩ := bind_eq_ok_iff.mp h
  have hopened := mapM_eq_ok_iff.mp h
  rw [List.forall₂_map_left_iff] at hopened
  have hsame : List.Forall₂ (fun jobType w => jobType = w.jobType) a.jobTypes workers :=
    hopened.imp fun jobType w hw => Option.some.inj (jobType_of_openIn hw)
  have hmapped := List.forall₂_map_right_iff.mpr hsame
  rw [List.forall₂_eq_eq_eq] at hmapped
  exact hmapped.symm

/-! ### Exit codes -/

/-- A command line that makes no sense, or whose settings do not. -/
inductive Misuse (arguments : List String) : Prop
  | unread {e : UsageError} (h : read arguments = .error e)
  | nothing (h : read arguments = .ok .nothing)
  | settings {s : Subcommand} {items : List Item} (h : read arguments = .ok (.run s items))
      (hinvalid : ¬ ValidSettings s items)

variable {ν : Type} [Rest.Network ν] {arguments : List String} {items : List Item}

/-- A misuse is found out before anything goes over the network. -/
theorem run_of_misuse (h : Misuse arguments) (env : Environment) (network : ν) :
    ∃ exit, run arguments env network = .exited exit network ∧ exit.code = Exit.misuse := by
  cases h with
  | unread h => exact ⟨_, by simp only [run, h]; rfl, rfl⟩
  | nothing h => exact ⟨_, by simp only [run, h]; rfl, rfl⟩
  | @settings s items h hinvalid =>
      cases s with
      | activate =>
          have hrefused : ¬ ∃ request, ((activationOptions items).request env).2 = .ok request :=
            fun hrequest => hinvalid (Activation.Options.request_isOk_iff.mp hrequest)
          cases hrequest : ((activationOptions items).request env).2 with
          | error e => exact ⟨_, by simp only [run, h, activate, hrequest]; rfl, rfl⟩
          | ok request => exact absurd ⟨request, hrequest⟩ hrefused
      | worker =>
          obtain ⟨a, ha, -⟩ := workerArguments_of_read h
          have hrefused : ¬ ∃ workers, a.openAll env = .ok workers :=
            fun hopened => hinvalid ⟨a, ha, openAll_isOk_iff.mp hopened⟩
          cases hopened : a.openAll env with
          | error e => exact ⟨_, by simp only [run, h, serve, ha, hopened]; rfl, rfl⟩
          | ok workers => exact absurd ⟨workers, hopened⟩ hrefused

/-- What a single activation makes of the answer of the gateway. -/
theorem send_of_activate {γ : Type} [Gateway γ] {o : Activation.Options} {env : Environment}
    {g g' : γ} {request : ActivateRequest} {answer : Grant} (hvalid : o.Valid)
    (hrequest : (o.request env).2 = .ok request)
    (hactivate : Gateway.activate g request = (g', some answer)) :
    ∃ events, o.send env g = (g', events, some (Activation.conclude request answer).2) := by
  have hrequest : o.request env = ((o.request env).1, .ok request) := Prod.ext rfl hrequest
  have hpos : request.maxJobs ≠ 0 := by
    obtain ⟨-, jobType, limit, -, hlimit, rfl⟩ := Activation.request_eq_ok hrequest
    obtain ⟨n, hn, hpos⟩ := hvalid.limit
    rw [hlimit] at hn
    cases hn
    rintro rfl
    simp at hpos
  unfold Activation.Options.send
  rw [hrequest]
  exact ⟨_, by simp only [Activation.run, if_neg hpos, reduceCtorEq, if_false, hactivate]; rfl⟩

/-- The network after one attempt to ask for jobs: either no request could be made, or just this one
went over it. -/
inductive Attempted (g : Rest.Remote ν) (request : ActivateRequest) : ν → Prop
  | unmade {e : GatewayError} (h : g.endpoint.activation request = .error e) :
      Attempted g request g.network
  | made {p : Rest.Post} (h : g.endpoint.activation request = .ok p) :
      Attempted g request (Rest.Network.exchange g.network p).1

/-- A gateway on the network always answers, and it takes one attempt. -/
theorem activate_attempts (g : Rest.Remote ν) (request : ActivateRequest) :
    ∃ g' answer, Gateway.activate g request = (g', some answer) ∧
      Attempted g request g'.network := by
  refine ⟨_, _, rfl, ?_⟩
  cases h : g.endpoint.activation request with
  | error e => simpa [h, Rest.Remote.exchange] using Attempted.unmade h
  | ok p => simpa [h, Rest.Remote.exchange] using Attempted.made h

/-- With valid settings, the gateway is asked once, and its answer decides. -/
theorem run_activate (h : read arguments = .ok (.run .activate items))
    (hvalid : ValidSettings .activate items) (env : Environment) (network : ν) :
    ∃ request remote answer exit, ((activationOptions items).request env).2 = .ok request ∧
      Gateway.activate (⟨endpoint items env, network⟩ : Rest.Remote ν) request
        = (remote, some answer) ∧
      Attempted ⟨endpoint items env, network⟩ request remote.network ∧
      run arguments env network = .exited exit remote.network ∧
      exit.code = match answer with
        | .ok _ => 0
        | .error _ => 1 := by
  obtain ⟨request, hrequest⟩ := (@Activation.Options.request_isOk_iff _ env).mpr hvalid
  obtain ⟨remote, answer, hactivate, hattempted⟩ :=
    activate_attempts ⟨endpoint items env, network⟩ request
  obtain ⟨events, hsend⟩ := send_of_activate hvalid hrequest hactivate
  simp only [run, h, activate, hrequest, outcome_of_send hsend]
  cases answer with
  | ok jobs => exact ⟨request, remote, _, _, rfl, hactivate, hattempted, rfl, rfl⟩
  | error e => exact ⟨request, remote, _, _, rfl, hactivate, hattempted, rfl, rfl⟩

/-- With valid settings, workers are opened for all job types. -/
theorem run_worker (h : read arguments = .ok (.run .worker items))
    (hvalid : ValidSettings .worker items) (env : Environment) (network : ν) :
    ∃ workers : List (Config Unit), workers.map Config.jobType = jobTypes items ∧
      run arguments env network = .serving (.start ⟨endpoint items env, network⟩ workers) := by
  obtain ⟨a, ha, hvalid⟩ := hvalid
  obtain ⟨a', ha', htypes⟩ := workerArguments_of_read h
  cases ha.symm.trans ha'
  obtain ⟨workers, hworkers⟩ := (@openAll_isOk_iff _ env).mpr hvalid
  exact ⟨workers, (jobTypes_of_openAll hworkers).trans htypes,
    by simp only [run, h, serve, ha, hworkers]⟩

/-- Only a misuse has its code. -/
theorem misuse_of_run {env : Environment} {network after : ν} {exit : Exit}
    (h : run arguments env network = .exited exit after) (hcode : exit.code = Exit.misuse) :
    Misuse arguments := by
  cases hread : read arguments with
  | error e => exact .unread hread
  | ok line =>
      cases line with
      | nothing => exact .nothing hread
      | version => simp only [run, hread] at h; cases h; cases hcode
      | help topic => simp only [run, hread] at h; cases h; cases hcode
      | run s items =>
          refine .settings hread fun hvalid => ?_
          cases s with
          | activate =>
              obtain ⟨_, remote, answer, exit', -, -, -, hrun, hexit⟩ :=
                run_activate hread hvalid env network
              rw [hrun] at h
              cases h
              rw [hcode] at hexit
              cases answer <;> cases hexit
          | worker =>
              obtain ⟨workers, -, hrun⟩ := run_worker hread hvalid env network
              rw [hrun] at h
              cases h

/-- A duration that makes no sense is a misuse, unless help was asked for before it. -/
theorem misuse_of_duration {s : Subcommand} {f : Flag} (hf : f = .timeout ∨ f = .pollInterval)
    {value : String} {e : Duration.ReadError} (hvalue : Duration.read value = .error e)
    {given before : List String} (hgiven : Gives f value given)
    (hbefore : ∀ word ∈ before, (Word.of word).asksForHelp = false) (after : List String) :
    Misuse (s.name :: (before ++ (given ++ after))) := by
  have hrefused : f.Refuses value := by
    rcases hf with rfl | rfl
    · exact ⟨e.message, by simp [Flag.read, Flag.readDuration, hvalue, Except.mapError, Except.map]⟩
    · exact ⟨e.message, by simp [Flag.read, Flag.readDuration, hvalue, Except.mapError, Except.map]⟩
  obtain ⟨e, herror⟩ := readFlags_refuses hrefused hgiven after before .nothing hbefore
  exact .unread ((read_name_cons s _).trans herror)

/-! ### All command lines -/

/-- How the program ends that has asked once for jobs, and what the answer was. -/
structure AsksOnce (arguments : List String) (items : List Item) (env : Environment) (network : ν)
    (request : ActivateRequest) (remote : Rest.Remote ν) (answer : Grant) (exit : Exit) : Prop where
  asked : ((activationOptions items).request env).2 = .ok request
  answered : Gateway.activate (⟨endpoint items env, network⟩ : Rest.Remote ν) request =
    (remote, some answer)
  /-- Nothing else has gone over the network. -/
  attempted : Attempted ⟨endpoint items env, network⟩ request remote.network
  exits : run arguments env network = .exited exit remote.network
  failed_iff : exit.code = 1 ↔ ∃ e, answer = .error e
  succeeded_iff : exit.code = 0 ↔ ∃ jobs, answer = .ok jobs

/-- How the program goes on that has opened workers. -/
structure GoesOn (arguments : List String) (items : List Item) (env : Environment) (network : ν)
    (workers : List (Config Unit)) : Prop where
  /-- There is one worker for each job type. -/
  types : workers.map Config.jobType = jobTypes items
  serves : run arguments env network = .serving (.start ⟨endpoint items env, network⟩ workers)
  /-- Whatever the workers do and the gateway answers, the process waits for a signal. -/
  serving : ∀ acts p, (Process.start workers).run? acts = some p →
    Act.signal ∉ acts → p.phase = .serving
  /-- There is one code for it to exit with. -/
  code : ∀ acts p, (Process.start workers).run? acts = some p →
    ∀ exit, p.phase = .exited exit → exit.code = 0
  /-- Once it is told to stop, it can come to its end. -/
  ends : ∀ acts p, (Process.start workers).run? acts = some p → p.isOver = false →
    ∃ more p' exit, p.run? (.signal :: more) = some p' ∧ p'.phase = .exited exit
  /-- What the workers do on their own is among what a process can do, -/
  served : ∀ events (t : Service ν),
    Service.Serves (.start ⟨endpoint items env, network⟩ workers) events t →
      (Process.start workers).Leads ⟨t.workers, .serving, printed events⟩
  /-- and so is their shutdown, when it closes all of them and each comes to its end. -/
  stopped : ∀ events (t : Service ν),
    Service.Serves (.start ⟨endpoint items env, network⟩ workers) events t →
      ∀ fuel, (∀ worker ∈ (t.shutdown fuel).1.workers,
          worker.2.closed = true ∧ worker.2.isFinished = true) →
        ∃ out, (Process.start workers).Leads
          ⟨(t.shutdown fuel).1.workers, .exited (.stopped out), out⟩

/-- What is known of the ends of the program. -/
structure ExitCodes (arguments : List String) (env : Environment) (network : ν) : Prop where
  /-- The program exits with 2 only when it is misused, -/
  misuse : ∀ exit after, run arguments env network = .exited exit after → exit.code = 2 →
    Misuse arguments
  /-- and then always, with the network as it was. -/
  misused : Misuse arguments → ∃ exit, run arguments env network = .exited exit network ∧ exit.code = 2
  /-- A duration that cannot be read is a misuse. -/
  duration : ∀ (s : Subcommand) (f : Flag) (value : String) (e : Duration.ReadError)
    (before given after : List String), f = .timeout ∨ f = .pollInterval →
      Duration.read value = .error e → Gives f value given →
      (∀ word ∈ before, (Word.of word).asksForHelp = false) →
      arguments = s.name :: (before ++ (given ++ after)) → Misuse arguments
  /-- A single activation asks the gateway once, and the answer decides. -/
  activation : ∀ items, read arguments = .ok (.run .activate items) → ValidSettings .activate items →
    ∃ request remote answer exit,
      AsksOnce arguments items env network request remote answer exit
  /-- Workers are opened, and only a signal ends the program. -/
  workers : ∀ items, read arguments = .ok (.run .worker items) → ValidSettings .worker items →
    ∃ workers, GoesOn arguments items env network workers

/-- With valid settings, workers are opened, and the process serves until it is told to stop. -/
theorem exists_goesOn (h : read arguments = .ok (.run .worker items))
    (hvalid : ValidSettings .worker items) (env : Environment) (network : ν) :
    ∃ workers, GoesOn arguments items env network workers := by
  obtain ⟨workers, htypes, hrun⟩ := run_worker h hvalid env network
  refine ⟨workers, htypes, hrun, ?_, ?_, ?_, ?_, ?_⟩
  · intro acts p hacts
    exact (Process.faithful_of_run? hacts).serving
  · intro acts p hacts exit hexit
    rw [(Process.faithful_of_run? hacts).exited exit hexit]
    rfl
  · intro acts p _
    exact Process.exits_of_signal
  · intro events t ht
    exact ht.leads
  · intro events t ht fuel hfinished
    exact ⟨_, ht.leads.trans (Service.shutdown_leads fuel t _ hfinished)⟩

/-- **Exit codes**, for every command line, every environment and every network. -/
theorem exit_codes (arguments : List String) (env : Environment) (network : ν) :
    ExitCodes arguments env network where
  misuse _ _ h hcode := misuse_of_run h hcode
  misused h := run_of_misuse h env network
  duration := by
    rintro s f value e before given after hf hvalue hgiven hbefore rfl
    exact misuse_of_duration hf hvalue hgiven hbefore after
  activation items h hvalid := by
    obtain ⟨request, remote, answer, exit, hrequest, hactivate, hattempted, hrun, hcode⟩ :=
      run_activate h hvalid env network
    refine ⟨request, remote, answer, exit, hrequest, hactivate, hattempted, hrun, ?_, ?_⟩
    · cases answer <;> simp [hcode]
    · cases answer <;> simp [hcode]
  workers items h hvalid := exists_goesOn h hvalid env network

/-- A network on which nothing can be reached. -/
def deadNetwork : Rest.Stub := ⟨false, [], [], []⟩

/-- Asking for no jobs is a misuse, and so is a duration that makes no sense; asking for three jobs
and opening a worker is none. -/
theorem exit_codes_fourWays :
    (∃ exit, run ["activate", "--type", "foo", "--limit", "0"] .unset deadNetwork
      = .exited exit deadNetwork ∧ exit.code = 2) ∧
    (∃ exit, run ["activate", "--type", "foo", "--limit", "3", "--timeout=soon"] .unset deadNetwork
      = .exited exit deadNetwork ∧ exit.code = 2) ∧
    (∃ exit after, run ["activate", "--type", "foo", "--limit", "3"] .unset deadNetwork
      = .exited exit after ∧ (exit.code = 0 ∨ exit.code = 1)) ∧
    ∃ service, run ["worker", "--type", "foo", "--max-jobs", "5", "--timeout", "30s"] .unset
      deadNetwork = .serving service := by
  refine ⟨?_, ?_, ?_, ?_⟩
  · have hzero : ¬ ValidSettings .activate [.jobType "foo", .limit 0] := by
      rintro ⟨-, ⟨n, hn, hpos⟩, -⟩
      cases hn
      exact absurd hpos (by decide)
    have hcodes := exit_codes ["activate", "--type", "foo", "--limit", "0"] .unset deadNetwork
    exact hcodes.misused (.settings rfl hzero)
  · have hcodes :=
      exit_codes ["activate", "--type", "foo", "--limit", "3", "--timeout=soon"] .unset deadNetwork
    exact hcodes.misused (hcodes.duration .activate .timeout "soon" _
      ["--type", "foo", "--limit", "3"] _ [] (.inl rfl) rfl (.joined rfl) (by decide) rfl)
  · have hcodes := exit_codes ["activate", "--type", "foo", "--limit", "3"] .unset deadNetwork
    obtain ⟨_, _, answer, exit, honce⟩ := hcodes.activation _ rfl
      ⟨⟨"foo", rfl, by decide⟩, ⟨3, rfl, by decide⟩, by decide⟩
    refine ⟨exit, _, honce.exits, ?_⟩
    cases answer with
    | ok jobs => exact .inl (honce.succeeded_iff.mpr ⟨jobs, rfl⟩)
    | error e => exact .inr (honce.failed_iff.mpr ⟨e, rfl⟩)
  · have hcodes := exit_codes ["worker", "--type", "foo", "--max-jobs", "5", "--timeout", "30s"] .unset
      deadNetwork
    obtain ⟨_, hworkers⟩ := hcodes.workers _ rfl ⟨_, rfl, by
      intro jobType hmem
      cases List.mem_singleton.mp hmem
      exact ⟨⟨"foo", rfl, by decide⟩, ⟨_, rfl⟩, ⟨5, rfl, by decide⟩, ⟨.ofSecs 30, rfl, by decide⟩,
        by decide⟩⟩
    exact ⟨_, hworkers.serves⟩

end JobWorker.Cli
