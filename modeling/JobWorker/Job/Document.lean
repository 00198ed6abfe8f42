/-
Jobs as JSON documents.

A job is written with its fields in a fixed order.  It is read from an object in any order, from
an array in that order, and with its key as a number or a text.
-/
import JobWorker.Job
import JobWorker.Json.Shape

namespace JobWorker

open Json

namespace Headers

/-- The fields of headers. -/
inductive Field where
  | processId
  | elementId
  | elementInstanceKey
  | processVersion
  | processKey
  | processInstanceKey
  deriving DecidableEq, Repr

/-- The fields of headers in a document. -/
def shape : Shape Field where
  title := "struct JobHeaders"
  fields := [.processId, .elementId, .elementInstanceKey, .processVersion, .processKey, .processInstanceKey]
  name
    | .processId => "bpmn_process_id"
    | .elementId => "element_id"
    | .elementInstanceKey => "element_instance_key"
    | .processVersion => "process_definition_version"
    | .processKey => "process_definition_key"
    | .processInstanceKey => "process_instance_key"
  Holds
    | .processId | .elementId => String
    | .processVersion => Int32
    | .elementInstanceKey | .processKey | .processInstanceKey => Int64
  read
    | .processId | .elementId => readString
    | .processVersion => readInt32
    | .elementInstanceKey | .processKey | .processInstanceKey => readInt64
  absent _ := none
  complete i := by cases i <;> decide

/-- The headers with given values of the fields. -/
def ofRecord (r : shape.Record) : Headers :=
  ⟨r .processId, r .elementId, r .elementInstanceKey, r .processVersion, r .processKey,
    r .processInstanceKey⟩

/-- Reads headers. -/
def read : Reader Headers := shape.readAs ofRecord

/-- Headers as a JSON document. -/
def toJson (h : Headers) : Value :=
  .object
    [("bpmn_process_id", .string h.processId),
     ("element_id", .string h.elementId),
     ("element_instance_key", .int h.elementInstanceKey.toInt),
     ("process_definition_version", .int h.processVersion.toInt),
     ("process_definition_key", .int h.processKey.toInt),
     ("process_instance_key", .int h.processInstanceKey.toInt)]

end Headers

namespace Job

/-- The fields of a job. -/
inductive Field where
  | key
  | type
  | worker
  | retries
  | deadline
  | variablesText
  | customHeadersText
  | headers
  deriving DecidableEq, Repr

/-- The fields of a job in a document. -/
def shape : Shape Field where
  title := "struct Job"
  fields := [.key, .type, .worker, .retries, .deadline, .variablesText, .customHeadersText, .headers]
  name
    | .key => "key"
    | .type => "type"
    | .worker => "worker"
    | .retries => "retries"
    | .deadline => "deadline"
    | .variablesText => "variables"
    | .customHeadersText => "custom_headers"
    | .headers => "headers"
  Holds
    | .key => JobKey
    | .type | .worker | .variablesText | .customHeadersText => String
    | .retries => Int32
    | .deadline => Int64
    | .headers => Headers
  read
    | .key => JobKey.read
    | .type | .worker | .variablesText | .customHeadersText => readString
    | .retries => readInt32
    | .deadline => readInt64
    | .headers => Headers.read
  absent _ := none
  complete i := by cases i <;> decide

/-- The job with given values of the fields. -/
def ofRecord (r : shape.Record) : Job :=
  ⟨r .key, r .type, r .worker, r .retries, r .deadline, r .variablesText, r .customHeadersText, r .headers⟩

/-- Reads a job. -/
def read : Reader Job := shape.readAs ofRecord

/-- A job as a JSON document. -/
def toJson (job : Job) : Value :=
  .object
    [("key", job.key.toJson),
     ("type", .string job.type),
     ("worker", .string job.worker),
     ("retries", .int job.retries.toInt),
     ("deadline", .int job.deadline.toInt),
     ("variables", .string job.variablesText),
     ("custom_headers", .string job.customHeadersText),
     ("headers", job.headers.toJson)]

/-- Jobs as a JSON document. -/
def listToJson (jobs : List Job) : Value := .array (jobs.map toJson)

end Job

end JobWorker
