/-
The flags of the command line.

A flag is written with two dashes.  All flags but one take a value, and some may be given repeatedly.
The value of a flag is read when the flag is taken in, so that a value that makes no sense is a fault
of the command line.
-/
import JobWorker.Decimal.Word
import JobWorker.Duration.Reading

namespace JobWorker.Cli

/-- The flags. -/
inductive Flag where
  | jobType
  | maxJobs
  | limit
  | timeout
  | pollInterval
  | name
  | fetchVariable
  | autoComplete
  | gateway
  deriving DecidableEq, Repr

/-- A flag with its value. -/
inductive Item where
  | jobType (text : String)
  | maxJobs (n : UInt32)
  | limit (n : UInt32)
  | timeout (d : Duration)
  | pollInterval (d : Duration)
  | name (text : String)
  | fetchVariable (text : String)
  | autoComplete
  | gateway (text : String)
  deriving DecidableEq, Repr

/-- The flag of an item. -/
def Item.flag : Item → Flag
  | .jobType _ => .jobType
  | .maxJobs _ => .maxJobs
  | .limit _ => .limit
  | .timeout _ => .timeout
  | .pollInterval _ => .pollInterval
  | .name _ => .name
  | .fetchVariable _ => .fetchVariable
  | .autoComplete => .autoComplete
  | .gateway _ => .gateway

namespace Flag

/-- The name of a flag, without the dashes. -/
def long : Flag → String
  | .jobType => "type"
  | .maxJobs => "max-jobs"
  | .limit => "limit"
  | .timeout => "timeout"
  | .pollInterval => "poll-interval"
  | .name => "name"
  | .fetchVariable => "fetch-variable"
  | .autoComplete => "auto-complete"
  | .gateway => "gateway"

/-- How the value of a flag is called, if it takes one. -/
def valueName? : Flag → Option String
  | .jobType => some "TYPE"
  | .maxJobs => some "MAX_JOBS"
  | .limit => some "LIMIT"
  | .timeout => some "TIMEOUT"
  | .pollInterval => some "POLL_INTERVAL"
  | .name | .fetchVariable => some "NAME"
  | .autoComplete => none
  | .gateway => some "ADDRESS"

/-- A flag as it is shown to people. -/
def shown (f : Flag) : String :=
  "--" ++ f.long ++ (f.valueName?.map fun name => " <" ++ name ++ ">").getD ""

/-- The number of 32 bits that a text denotes, or what is wrong with it. -/
def readCount (text : String) : Except String UInt32 :=
  match Decimal.readWord text.toList with
  | .error fault => .error fault.message
  | .ok n =>
    if 0 ≤ n ∧ n ≤ Decimal.greatestUInt32 then .ok (UInt32.ofNat n.toNat)
    else .error (s!"{n} is not in 0..=" ++ "4294967295")

/-- The duration that a text denotes, or what is wrong with it. -/
def readDuration (text : String) : Except String Duration :=
  (Duration.read text).mapError Duration.ReadError.message

/-- The item that a flag makes with a value, or what is wrong with the value. -/
def read (text : String) : Flag → Except String Item
  | .jobType => .ok (.jobType text)
  | .maxJobs => (readCount text).map .maxJobs
  | .limit => (readCount text).map .limit
  | .timeout => (readDuration text).map .timeout
  | .pollInterval => (readDuration text).map .pollInterval
  | .name => .ok (.name text)
  | .fetchVariable => .ok (.fetchVariable text)
  | .autoComplete => .ok .autoComplete
  | .gateway => .ok (.gateway text)

end Flag

end JobWorker.Cli
