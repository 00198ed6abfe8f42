/-
How a gateway with a script answers.

A command is taken or refused, and the script has no part in it.  A request for jobs is kept waiting, or
it is answered from the front of the script.  So a call changes the script only if it is a request that
is answered; all others leave nothing behind but the record of the call, and `Hears` says so.
-/
import JobWorker.Gateway.Scripted

namespace JobWorker

namespace Scripted

/-- How a command is answered. -/
def verdict (g : Scripted) (command : Command) : Verdict :=
  match g.refusal command with
  | some e => .error e
  | none => .ok ()

theorem perform_eq (g : Scripted) (command : Command) :
    Gateway.perform g command = (g.record (.command command), g.verdict command) := rfl

theorem activate_of_holding {g : Scripted} (h : g.holding = true) (request : ActivateRequest) :
    Gateway.activate g request = (g.record (.activate request), none) := by
  simp [Gateway.activate, record, h]

theorem activate_of_answering {g : Scripted} (h : g.holding = false) (request : ActivateRequest) :
    Gateway.activate g request =
      ({ g.record (.activate request) with
          script := (grant g.overGranting request.maxJobs g.script).1 },
        some (grant g.overGranting request.maxJobs g.script).2) := by
  simp [Gateway.activate, record, h]

/-- The second gateway is the first one after some calls that took nothing from the script. -/
def Hears (g g' : Scripted) : Prop := ∃ calls, g' = { g with calls }

theorem Hears.refl (g : Scripted) : g.Hears g := ⟨g.calls, rfl⟩

theorem Hears.record (g : Scripted) (call : Call) : g.Hears (g.record call) := ⟨_, rfl⟩

theorem Hears.trans {g g' g'' : Scripted} (h : g.Hears g') (h' : g'.Hears g'') : g.Hears g'' := by
  obtain ⟨calls, rfl⟩ := h
  obtain ⟨calls', rfl⟩ := h'
  exact ⟨calls', rfl⟩

theorem Hears.pending {g g' : Scripted} (h : g.Hears g') : g'.pending = g.pending := by
  obtain ⟨calls, rfl⟩ := h
  rfl

theorem Hears.verdict {g g' : Scripted} (h : g.Hears g') : g'.verdict = g.verdict := by
  obtain ⟨calls, rfl⟩ := h
  rfl

end Scripted

end JobWorker
