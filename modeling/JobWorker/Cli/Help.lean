/-
Help texts.

Help about a subcommand lists its flags with what they are for; help about the program lists the
subcommands.
-/
import JobWorker.Cli.Syntax

namespace JobWorker.Cli

/-- The version of the program. -/
def version : String := "0.2.0+oracle"

/-- What a subcommand does. -/
def Subcommand.about : Subcommand → String
  | .worker => "Open job workers and log every job they receive"
  | .activate => "Activate jobs once and print them as JSON"

/-- What a flag of a subcommand is for. -/
def Subcommand.explain (s : Subcommand) : Flag → String
  | .jobType =>
    match s with
    | .worker => "Job type to handle; repeat to open one worker per type"
    | .activate => "Job type to activate"
  | .maxJobs => "Most jobs held by each worker at once"
  | .limit => "Maximum number of jobs to activate"
  | .timeout =>
    match s with
    | .worker => "Lease timeout for activated jobs (e.g. \"30s\", \"5m\")"
    | .activate => "Lease timeout [default: $ZB_JOB_TIMEOUT or 5m]"
  | .pollInterval => "Delay between activation attempts [default: $ZB_POLL_INTERVAL or 100ms]"
  | .name => "Worker name reported to the broker [default: $ZB_WORKER_NAME or \"default\"]"
  | .fetchVariable =>
    match s with
    | .worker => "Only fetch these variables with each job"
    | .activate => "Only fetch these variables"
  | .autoComplete => "Complete every job after logging it"
  | .gateway => "Gateway REST address [default: $ZB_GATEWAY_ADDRESS or http://127.0.0.1:8080]"

/-- Rows of two columns, the first one as wide as its longest entry. -/
def columns (rows : List (String × String)) : List String :=
  let width := (rows.map fun row => row.1.length).foldl max 0
  rows.map fun (left, right) =>
    "  " ++ left ++ String.ofList (List.replicate (width - left.length) ' ') ++ "  " ++ right

/-- The row that explains the flag for help. -/
def helpRow : String × String := ("-h, --help", "Print help")

/-- Lines as a text. -/
def lines (texts : List String) : String := String.join (texts.map (· ++ "\n"))

/-- How a subcommand is used. -/
def Subcommand.usage (s : Subcommand) : String :=
  "Usage: zb " ++ s.name ++ " [OPTIONS]" ++ String.join (s.required.map fun f => " " ++ f.shown)

/-- The help about a topic. -/
def Topic.text : Topic → String
  | .program =>
    lines <|
      ["Activate and handle workflow jobs", "", "Usage: zb <COMMAND>", "", "Commands:"] ++
      columns
        [(Subcommand.worker.name, Subcommand.worker.about),
         (Subcommand.activate.name, Subcommand.activate.about),
         ("help", "Print this message or the help of the given subcommand(s)")] ++
      ["", "Options:"] ++ columns [helpRow, ("-V, --version", "Print version")]
  | .subcommand s =>
    lines <|
      [s.about, "", s.usage, "", "Options:"] ++
      columns ((s.flags.map fun f => ("    " ++ f.shown, s.explain f)) ++ [helpRow])
  | .help =>
    lines <|
      ["Print this message or the help of the given subcommand(s)", "", "Usage: zb help [COMMAND]...", "",
       "Arguments:"] ++
      columns [("[COMMAND]...", "Print help for the subcommand(s)")]

end JobWorker.Cli
