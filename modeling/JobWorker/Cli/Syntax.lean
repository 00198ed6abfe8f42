/-
Command lines.

The first word that is no flag names a subcommand, and what follows belongs to it.  A flag is given its
value with an equals sign or as the next word; a word that begins with a dash is never a value.  A
value that stands in a word of its own is only looked at when the flag is over, with the next known
flag or at the end, so that a word that makes no sense is reported before a value that makes none.

Arguments are texts here.  One whose bytes encode no text is a misuse of the program too, with the same
code (`Exit.misuse`), but it lies outside of what is described here.
-/
import JobWorker.Cli.Flag
import JobWorker.Text.Terminal

namespace JobWorker.Cli

open Text.Terminal (styled)

/-- The subcommands that do something. -/
inductive Subcommand where
  | worker
  | activate
  deriving DecidableEq, Repr

namespace Subcommand

/-- The name of a subcommand. -/
def name : Subcommand → String
  | .worker => "worker"
  | .activate => "activate"

/-- The subcommand with a name. -/
def ofName? (name : String) : Option Subcommand :=
  if name = "worker" then some .worker else if name = "activate" then some .activate else none

/-- The flags of a subcommand. -/
def flags : Subcommand → List Flag
  | .worker =>
    [.jobType, .maxJobs, .timeout, .pollInterval, .name, .fetchVariable, .autoComplete, .gateway]
  | .activate => [.jobType, .limit, .timeout, .name, .fetchVariable, .gateway]

/-- The flags that must be given. -/
def required : Subcommand → List Flag
  | .worker => [.jobType, .maxJobs, .timeout]
  | .activate => [.jobType, .limit]

/-- The flags that may be given more than once. -/
def repeatable : Subcommand → List Flag
  | .worker => [.jobType, .fetchVariable]
  | .activate => [.fetchVariable]

/-- The flag with a name. -/
def flag? (s : Subcommand) (long : String) : Option Flag := s.flags.find? fun f => f.long = long

end Subcommand

/-- What can be wrong with a command line. -/
inductive UsageError where
  | unknownSubcommand (word : String)
  | unexpectedArgument (word : String)
  | unexpectedValue (value shown : String)
  | valueRequired (flag : Flag)
  | repeated (flag : Flag)
  | invalidValue (value : String) (flag : Flag) (reason : String)
  | missing (flags : List Flag)
  deriving DecidableEq, Repr

/-- Where a fault of the command line sends people. -/
def seeHelp : String := "\n\nFor more information, try '" ++ styled "--help" ++ "'.\n"

/-- The wording of a fault up to where it becomes advice, in the styles of a terminal. -/
def UsageError.styledText : UsageError → String
  | .unknownSubcommand word => "unrecognized subcommand '" ++ styled word ++ "'"
  | .unexpectedArgument word => "unexpected argument '" ++ styled word ++ "' found"
  | .unexpectedValue value shown =>
    "unexpected value '" ++ styled value ++ "' for '" ++ styled shown ++ "' found; no more were expected"
  | .valueRequired flag => "a value is required for '" ++ styled flag.shown ++ "' but none was supplied"
  | .repeated flag => "the argument '" ++ styled flag.shown ++ "' cannot be used multiple times"
  | .invalidValue value flag reason =>
    "invalid value '" ++ styled value ++ "' for '" ++ styled flag.shown ++ "': " ++ reason ++ seeHelp
  | .missing _ => "the following required arguments were not provided:"

/-- The first line of the wording of a fault. -/
def UsageError.message (e : UsageError) : String :=
  String.ofList ((Text.Terminal.plain e.styledText.toList).takeWhile (· ≠ '\n'))

/-- What help can be asked about. -/
inductive Topic where
  | program
  | subcommand (s : Subcommand)
  | help
  deriving DecidableEq, Repr

/-- What a command line comes to. -/
inductive CommandLine where
  /-- Nothing was said. -/
  | nothing
  | version
  | help (topic : Topic)
  | run (s : Subcommand) (items : List Item)
  deriving DecidableEq, Repr

/-! ### Words -/

/-- What kind of word an argument is. -/
inductive Word where
  /-- Two dashes. -/
  | separator
  | long (name : String) (value : Option String)
  | short (letters : List Char)
  | plain (text : String)
  deriving DecidableEq, Repr

/-- The text before the first equals sign and the text behind it. -/
def cutEquals : List Char → List Char × Option (List Char)
  | [] => ([], none)
  | '=' :: rest => ([], some rest)
  | c :: rest =>
    let (name, value) := cutEquals rest
    (c :: name, value)

/-- Which kind of word an argument is. -/
def Word.of (argument : String) : Word :=
  match argument.toList with
  | ['-', '-'] => .separator
  | '-' :: '-' :: rest =>
    let (name, value) := cutEquals rest
    .long (String.ofList name) (value.map String.ofList)
  | '-' :: c :: rest => .short (c :: rest)
  | _ => .plain argument

/-! ### The flags of a subcommand -/

/-- How far reading has come: what was taken in, and the flag whose value may still be to come. -/
structure Taken where
  items : List Item
  pending : Option (Flag × Option String)
  deriving DecidableEq, Repr

namespace Taken

/-- Nothing was taken in. -/
def nothing : Taken := ⟨[], none⟩

/-- Takes in a flag with a value. -/
def add (s : Subcommand) (t : Taken) (f : Flag) (value : String) : Except UsageError Taken :=
  if (t.items.any fun item => item.flag = f) ∧ f ∉ s.repeatable then .error (.repeated f)
  else match f.read value with
    | .ok item => .ok { t with items := t.items ++ [item] }
    | .error reason => .error (.invalidValue value f reason)

/-- Takes in the flag whose value may still be to come. -/
def settle (s : Subcommand) (t : Taken) : Except UsageError Taken :=
  match t.pending with
  | none => .ok t
  | some (f, none) => .error (.valueRequired f)
  | some (f, some value) => { t with pending := none }.add s f value

/-- Takes in a flag. -/
def flag (s : Subcommand) (t : Taken) (f : Flag) (value : Option String) :
    Except UsageError Taken :=
  match f.valueName?, value with
  | none, some value => .error (.unexpectedValue value f.shown)
  | none, none => do (← t.settle s).add s f ""
  | some _, some value => do (← t.settle s).add s f value
  | some _, none => do return { (← t.settle s) with pending := some (f, none) }

/-- Takes in a word that is no flag: the value that is still to come. -/
def plain (t : Taken) (word : String) : Except UsageError Taken :=
  match t.pending with
  | some (f, none) => .ok { t with pending := some (f, some word) }
  | _ => .error (.unexpectedArgument word)

/-- Ends reading: all flags that must be given have to be there. -/
def finish (s : Subcommand) (t : Taken) : Except UsageError (List Item) := do
  let t ← t.settle s
  match s.required.filter fun f => !(t.items.any fun item => item.flag = f) with
  | [] => return t.items
  | missing => throw (.missing missing)

end Taken

/-- Reads the words behind a subcommand. -/
def readFlags (s : Subcommand) : Taken → List String → Except UsageError CommandLine
  | t, [] => (t.finish s).map (.run s)
  | t, argument :: rest =>
    match Word.of argument with
    | .separator =>
      match rest with
      | [] => (t.finish s).map (.run s)
      | word :: _ => .error (.unexpectedArgument word)
    | .long "help" none => (t.settle s).map fun _ => .help (.subcommand s)
    | .long "help" (some value) => .error (.unexpectedValue value "--help")
    | .long name value =>
      match s.flag? name with
      | some f => do readFlags s (← t.flag s f value) rest
      | none => .error (.unexpectedArgument ("--" ++ name))
    | .short ('h' :: _) => (t.settle s).map fun _ => .help (.subcommand s)
    | .short letters => .error (.unexpectedArgument (String.ofList ('-' :: letters.take 1)))
    | .plain word => do readFlags s (← t.plain word) rest

/-! ### The program -/

/-- Reads the words behind `help`. -/
def readTopic : List String → Except UsageError CommandLine
  | [] => .ok (.help .program)
  | word :: rest =>
    match Subcommand.ofName? word, rest with
    | some s, [] => .ok (.help (.subcommand s))
    | some _, next :: _ => .error (.unknownSubcommand next)
    | none, [] => if word = "help" then .ok (.help .help) else .error (.unknownSubcommand word)
    | none, next :: _ =>
      if word = "help" then .error (.unknownSubcommand next) else .error (.unknownSubcommand word)

/-- Whether a word names a subcommand. -/
def isSubcommand (word : String) : Bool := (Subcommand.ofName? word).isSome || word = "help"

/-- Reads the arguments of the program. -/
def read : List String → Except UsageError CommandLine
  | [] => .ok .nothing
  | argument :: rest =>
    match Word.of argument with
    | .separator =>
      match rest with
      | [] => .ok .nothing
      | word :: _ =>
        .error (if isSubcommand word then .unexpectedArgument word else .unknownSubcommand word)
    | .long "help" none | .short ('h' :: _) => .ok (.help .program)
    | .long "version" none | .short ('V' :: _) => .ok .version
    | .long "help" (some value) => .error (.unexpectedValue value "--help")
    | .long "version" (some value) => .error (.unexpectedValue value "--version")
    | .long name _ => .error (.unexpectedArgument ("--" ++ name))
    | .short letters => .error (.unexpectedArgument (String.ofList ('-' :: letters.take 1)))
    | .plain word =>
      match Subcommand.ofName? word with
      | some s => readFlags s .nothing rest
      | none => if word = "help" then readTopic rest else .error (.unknownSubcommand word)

end JobWorker.Cli
