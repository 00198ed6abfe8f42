/-
A service on the network that replies as it was told.

Requests for jobs and commands have a list of replies each; when a list has run out, no jobs are
granted and every command is accepted.  A service that cannot be reached replies to nothing, and no
request comes to it.
-/
import JobWorker.Rest

namespace JobWorker.Rest

/-- A service that replies as it was told; a reply that is none stands for a broken connection. -/
structure Stub where
  reachable : Bool
  activations : List (Option Reply)
  commands : List (Option Reply)
  /-- The requests so far, in order. -/
  posts : List Post
  deriving DecidableEq, Repr

namespace Stub

/-- The reply that grants no jobs. -/
def noJobs : Reply := ⟨200, "\x7b\"jobs\":[]\x7d".toUTF8.toList⟩

/-- The reply that accepts a command. -/
def accepted : Reply := ⟨204, []⟩

/-- Whether a request asks for jobs. -/
def asksForJobs (p : Post) : Bool := activationPath.toList.isSuffixOf p.url.path

instance : Network Stub where
  exchange stub p :=
    if !stub.reachable then (stub, none)
    else
      let stub := { stub with posts := stub.posts ++ [p] }
      if asksForJobs p then
        match stub.activations with
        | reply :: activations => ({ stub with activations }, reply)
        | [] => (stub, some noJobs)
      else
        match stub.commands with
        | reply :: commands => ({ stub with commands }, reply)
        | [] => (stub, some accepted)

/-- The requests for jobs among the requests. -/
def activationPosts (stub : Stub) : List Post := stub.posts.filter asksForJobs

/-- The commands among the requests. -/
def commandPosts (stub : Stub) : List Post := stub.posts.filter fun p => !asksForJobs p

end Stub

end JobWorker.Rest
