/-
The variables that a completed job hands over.

They are given as the text of a document, which is passed on as it is, or as a value, which is
written as a document.  A value that no document can hold is refused when the request is made.
-/
import JobWorker.Json.Printer
import JobWorker.Request

namespace JobWorker

/-- What variables can be given as. -/
inductive Variables where
  | unset
  | document (text : String)
  | value (v : Json.Value)
  /-- A map whose names are lists. -/
  | listNamed
  deriving Repr

/-- The text of the document of variables. -/
def Variables.text : Variables → Except Json.Error (Option String)
  | .unset => .ok none
  | .document text => .ok (some text)
  | .value v => .ok (some v.text)
  | .listNamed => .error ⟨.nameNotString, none⟩

/-- The request to complete a job with variables. -/
def CompleteRequest.make (key : JobKey) (given : Variables) :
    Except Json.Error CompleteRequest :=
  given.text.map fun text => ⟨key, text⟩

end JobWorker
