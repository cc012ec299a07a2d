import FenceCheck.Report.Schema

/-!
Reports and their text: the blocks that failed, each with its document, its content and the message of
the checker. A report is written only if it is as its schema demands.
-/
namespace FenceCheck.Report
open FenceCheck.Text

/-- A block that failed: the text of the path of its document, its content, and what the checker said. -/
structure Entry where
  file : List CodePoint
  content : List CodePoint
  message : List CodePoint
  deriving DecidableEq

/-- The entry of a block of characters. -/
def Entry.ofBlock (file : Path) (content : String) (message : List CodePoint) : Entry :=
  ⟨codePoints file.text, codePoints content, message⟩

/-- An entry as an object. -/
def Entry.toJson (e : Entry) : Json :=
  .object [(codePoints "file", .string e.file), (codePoints "content", .string e.content),
    (codePoints "message", .string e.message)]

/-- A report as a list of objects. -/
def toJson (report : List Entry) : Json :=
  .array (report.map Entry.toJson)

/-- The text of a report. -/
def serialize (report : List Entry) (validator : Validator := installed) : Outcome (List CodePoint) := do
  let payload := toJson report
  checkSchema schemaName payload validator
  return payload.renderArtifact

end FenceCheck.Report
