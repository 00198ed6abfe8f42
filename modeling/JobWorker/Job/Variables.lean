/-
The variables and the custom headers of a job.

Both are texts of JSON documents.  They are read as objects, where a blank text counts as the empty
object, or as any kind of value the caller asks for, where it does not.
-/
import JobWorker.Job
import JobWorker.Json.Reader

namespace JobWorker

open Json

/-- Reads a text as a JSON object; a blank text is the empty object. -/
def parseObject (text : String) : Except Error Members :=
  if Text.isBlankText text then .ok [] else parse readMembers text

namespace Job

/-- The variables of a job as an object. -/
def variablesMap (job : Job) : Except Error Members := parseObject job.variablesText

/-- The custom headers of a job as an object. -/
def customHeadersMap (job : Job) : Except Error Members := parseObject job.customHeadersText

/-- The variables of a job as a value of the caller's kind. -/
def variablesAs {α : Type} (reader : Reader α) (job : Job) : Except Error α :=
  parse reader job.variablesText

end Job

end JobWorker
