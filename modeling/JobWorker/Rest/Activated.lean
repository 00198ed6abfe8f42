/-
What a gateway on the network answers to a request for jobs.

Of a job only the key and the type have to be there.  Keys may be texts of digits.  Variables and
headers may be values or the texts of documents; they are kept as texts, and null is kept as the
empty object.
-/
import JobWorker.Job
import JobWorker.Json.Printer
import JobWorker.Json.Shape
import JobWorker.Text.Utf8

namespace JobWorker.Rest

open Json

/-- The text of a document: a string is one already. -/
def documentText : Value → String
  | .null => "\x7b\x7d"
  | .string text => text
  | v => v.text

/-- The fields of a job in an answer. -/
inductive JobField where
  | key
  | type
  | worker
  | retries
  | deadline
  | variablesValue
  | customHeadersValue
  | processId
  | processVersion
  | processKey
  | elementId
  | elementInstanceKey
  | processInstanceKey
  deriving DecidableEq, Repr

/-- The fields of a job in an answer, by name. -/
def jobShape : Shape JobField where
  title := "struct WireJob"
  fields :=
    [.key, .type, .worker, .retries, .deadline, .variablesValue, .customHeadersValue, .processId,
     .processVersion, .processKey, .elementId, .elementInstanceKey, .processInstanceKey]
  name
    | .key => "jobKey"
    | .type => "type"
    | .worker => "worker"
    | .retries => "retries"
    | .deadline => "deadline"
    | .variablesValue => "variables"
    | .customHeadersValue => "customHeaders"
    | .processId => "processDefinitionId"
    | .processVersion => "processDefinitionVersion"
    | .processKey => "processDefinitionKey"
    | .elementId => "elementId"
    | .elementInstanceKey => "elementInstanceKey"
    | .processInstanceKey => "processInstanceKey"
  Holds
    | .key => JobKey
    | .type | .worker | .processId | .elementId => String
    | .retries | .processVersion => Int32
    | .deadline => Int64
    | .variablesValue | .customHeadersValue => Value
    | .processKey | .elementInstanceKey | .processInstanceKey => Option JobKey
  read
    | .key => JobKey.read
    | .type | .worker | .processId | .elementId => readString
    | .retries | .processVersion => readInt32
    | .deadline => readInt64
    | .variablesValue | .customHeadersValue => readValue
    | .processKey | .elementInstanceKey | .processInstanceKey => readOption JobKey.read
  absent
    | .key | .type => none
    | .worker | .processId | .elementId => some ""
    | .retries | .processVersion => some (0 : Int32)
    | .deadline => some (0 : Int64)
    | .variablesValue | .customHeadersValue => some Value.null
    | .processKey | .elementInstanceKey | .processInstanceKey => some none
  complete i := by cases i <;> decide

/-- The number of a key, or zero. -/
def keyOrZero (key : Option JobKey) : Int64 := (key.map JobKey.value).getD 0

/-- The job with given values of the fields. -/
def jobOfRecord (r : jobShape.Record) : Job :=
  { key := r .key
    type := r .type
    worker := r .worker
    retries := r .retries
    deadline := r .deadline
    variablesText := documentText (r .variablesValue)
    customHeadersText := documentText (r .customHeadersValue)
    headers :=
      { processId := r .processId
        elementId := r .elementId
        elementInstanceKey := keyOrZero (r .elementInstanceKey)
        processVersion := r .processVersion
        processKey := keyOrZero (r .processKey)
        processInstanceKey := keyOrZero (r .processInstanceKey) } }

/-- The one field of an answer. -/
inductive AnswerField where
  | jobs
  deriving DecidableEq, Repr

/-- The field of an answer, by name. -/
def answerShape : Shape AnswerField where
  title := "struct ActivationResponse"
  fields := [.jobs]
  name | .jobs => "jobs"
  Holds | .jobs => List Job
  read | .jobs => readList (jobShape.readAs jobOfRecord)
  absent | .jobs => some []
  complete i := by cases i; decide

/-- Reads the jobs of an answer. -/
def readJobs : Reader (List Job) := answerShape.readAs fun r => r .jobs

/-- The cursor at the beginning of a body, whose bytes need not be a text. -/
def bodyCursor (body : List UInt8) : Cursor :=
  match Text.Utf8.text? body with
  | some text => Cursor.ofChars text.toList
  | none => Cursor.ofPieces (Text.Utf8.pieces body)

/-- The jobs in a body. -/
def decodeJobs (body : List UInt8) : Except Error (List Job) := readAll readJobs (bodyCursor body)

end JobWorker.Rest
