/-
The program on the command line.

Arguments, environment and output are connected to the program here.  No connections are made: every
gateway is out of reach.
-/
import JobWorker.Cli.Program

namespace JobWorker.Main

/-- A network without connections. -/
structure Offline where

instance : Rest.Network Offline where
  exchange network _ := (network, none)

/-- The environment of the process. -/
def processEnvironment : IO Environment := do
  let values ← Variable.all.mapM fun v => do
    return (v, (← IO.getEnv v.name).map fun text => text.toUTF8.toList)
  return ⟨fun v => (values.lookup v).join⟩

/-- Prints the lines of the handlers. -/
def printLines (events : List Event) : IO Unit :=
  (Cli.printed events).forM fun text => IO.println text

/-- How many moves the workers make before the output is looked at. -/
def movesAtOnce : Nat := 100000

/-- Runs workers for ever. -/
partial def serveForever (service : Cli.Service Offline) : IO Unit := do
  let pauses := service.workers.map fun (w, _) => w.pollInterval.millis
  IO.sleep (UInt32.ofNat (min (pauses.foldl min 60000) 60000))
  let (service, events) := service.elapse movesAtOnce
  printLines events
  serveForever service

end JobWorker.Main

open JobWorker JobWorker.Main in
/-- Runs the program with the arguments and the environment of the process. -/
def main (arguments : List String) : IO UInt32 := do
  let env ← processEnvironment
  match Cli.run arguments env (Offline.mk) with
  | .exited exit _ =>
    IO.print exit.stdout
    match exit.error with
    | some message => IO.eprintln ("error: " ++ message)
    | none => pure ()
    return UInt32.ofNat exit.code
  | .serving service =>
    let (service, events) := service.settle movesAtOnce
    printLines events
    serveForever service
    return 0
