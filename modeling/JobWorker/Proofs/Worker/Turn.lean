/-
One turn of a worker that runs.

A worker that runs makes one move at a time, that of the executing loop if it can make one.  `Turn`
lists what such a move can be and when it is made, so that whatever is shown of all moves of a running
worker has one case for each of them.
-/
import JobWorker.Worker.Schedule

namespace JobWorker.Worker

variable {γ σ : Type} [Gateway γ] {w : Config σ}

/-- What a worker that runs can do in one move. -/
inductive Turn (w : Config σ) (x : World γ σ) : World γ σ → List Event → Prop
  | stopExecuting (hidle : x.state.execute = .idle) (hclosed : x.state.closed = true) :
      Turn w x { x with state := x.state.stopExecuting } []
  | takeUp {job : Job} {rest : List Job} (hidle : x.state.execute = .idle)
      (hopen : x.state.closed = false) (hqueue : x.state.queue = job :: rest) :
      Turn w x (x.takeUp w job rest).1 (x.takeUp w job rest).2
  | letGo {job : Job} {next : Activity σ} (hblocked : x.state.execute = .blocked job next)
      (hpermits : x.permits ≠ 0) :
      Turn w x (World.proceed w job (.await next) x).1 (World.proceed w job (.await next) x).2
  | stopAcquiring (hrunning : x.state.acquire ≠ .stopped) (hclosed : x.state.closed = true) :
      Turn w x { x with state := x.state.stopAcquiring } []
  | first (hstart : x.state.acquire = .starting) (hopen : x.state.closed = false) :
      Turn w x (x.poll w).1 (x.poll w).2
  | wake (hwait : x.state.acquire = .waiting) (hopen : x.state.closed = false)
      (hsignal : x.state.pollNow = true) :
      Turn w x (World.poll w { x with state := { x.state with pollNow := false } }).1
        (World.poll w { x with state := { x.state with pollNow := false } }).2

theorem turn_of_execute {x y : World γ σ} {events : List Event}
    (h : x.execute w = some (y, events)) : Turn w x y events := by
  unfold World.execute at h
  split at h
  · rename_i hidle
    split at h
    · rename_i hclosed
      cases h
      exact .stopExecuting hidle hclosed
    · rename_i hopen
      split at h
      · cases h
      · rename_i job rest hqueue
        have hturn := Turn.takeUp (w := w) hidle (by simpa using hopen) hqueue
        rwa [Option.some.inj h] at hturn
  · rename_i job next hblocked
    split at h
    · cases h
    · rename_i hpermits
      have hturn := Turn.letGo (w := w) hblocked hpermits
      rwa [Option.some.inj h] at hturn
  · cases h

theorem turn_of_acquire {x y : World γ σ} {events : List Event}
    (h : x.acquire w = some (y, events)) : Turn w x y events := by
  unfold World.acquire at h
  split at h
  · cases h
  · rename_i hstart
    split at h
    · rename_i hclosed
      cases h
      exact .stopAcquiring (by simp [hstart]) hclosed
    · rename_i hopen
      have hturn := Turn.first (w := w) hstart (by simpa using hopen)
      rwa [Option.some.inj h] at hturn
  · rename_i request hasked
    split at h
    · rename_i hclosed
      cases h
      exact .stopAcquiring (by simp [hasked]) hclosed
    · cases h
  · rename_i hwait
    split at h
    · rename_i hclosed
      cases h
      exact .stopAcquiring (by simp [hwait]) hclosed
    · rename_i hopen
      split at h
      · rename_i hsignal
        have hturn := Turn.wake (w := w) hwait (by simpa using hopen) hsignal
        rwa [Option.some.inj h] at hturn
      · cases h

/-- **A move is a turn.** -/
theorem turn_of_move {x y : World γ σ} {events : List Event} (h : x.move w = some (y, events)) :
    Turn w x y events := by
  rw [World.move, Option.or_eq_some_iff] at h
  rcases h with hexecute | ⟨-, hacquire⟩
  · exact turn_of_execute hexecute
  · exact turn_of_acquire hacquire

end JobWorker.Worker
