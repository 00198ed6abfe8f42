/-
Options put together one wish at a time.

Whoever sets up a worker or a single activation says one thing after the other, in any order.  What is
said again replaces what was said before, only the names of variables add up.
-/
import JobWorker.Worker.Config

namespace JobWorker

namespace Activation

/-- One thing to say about a single activation. -/
inductive Wish where
  | jobType (text : String)
  | limit (n : UInt32)
  | timeout (d : Duration)
  | workerName (text : String)
  | fetchVariables (names : List String)
  deriving DecidableEq, Repr

namespace Options

/-- Nothing has been said. -/
def blank : Options := ⟨none, none, none, none, []⟩

/-- The options with one more wish. -/
def add (o : Options) : Wish → Options
  | .jobType text => { o with jobType := some text }
  | .limit n => { o with limit := some n }
  | .timeout d => { o with timeout := some d }
  | .workerName text => { o with workerName := some text }
  | .fetchVariables names => { o with fetchVariables := o.fetchVariables ++ names }

/-- The options that some wishes come to. -/
def ofWishes (wishes : List Wish) : Options := wishes.foldl add blank

end Options

end Activation

namespace Worker

/-- One thing to say about a worker. -/
inductive Wish (σ : Type) where
  | jobType (text : String)
  | handler (handler : Handler σ)
  | maxJobsActive (n : UInt32)
  | timeout (d : Duration)
  | timeoutMs (ms : UInt64)
  | name (text : String)
  | pollInterval (d : Duration)
  | fetchVariables (names : List String)
  | autoCompletion

namespace Options

variable {σ : Type}

/-- Nothing has been said. -/
def blank : Options σ := ⟨none, none, none, none, none, none, [], false⟩

/-- The options with one more wish. -/
def add (o : Options σ) : Wish σ → Options σ
  | .jobType text => { o with jobType := some text }
  | .handler handler => { o with handler := some handler }
  | .maxJobsActive n => { o with maxJobsActive := some n }
  | .timeout d => { o with timeout := some d }
  | .timeoutMs ms => { o with timeout := some (.ofMillis ms) }
  | .name text => { o with name := some text }
  | .pollInterval d => { o with pollInterval := some d }
  | .fetchVariables names => { o with fetchVariables := o.fetchVariables ++ names }
  | .autoCompletion => { o with autoComplete := true }

/-- The options that some wishes come to. -/
def ofWishes (wishes : List (Wish σ)) : Options σ := wishes.foldl add blank

end Options

end Worker

end JobWorker
