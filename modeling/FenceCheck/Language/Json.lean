import FenceCheck.Checker

/-!
The checker of JSON samples. A text that is no JSON text is told by line and column; integers of too
many digits and too deep a nesting are faults.
-/
namespace FenceCheck.Language

def checkJson : Checker := fun source =>
  match Json.read source with
  | .ok _ => .answered .null
  | .error (.fault cause place) =>
    .answered (.text ("line " ++ toString place.line ++ " column " ++ toString place.column ++ ": "
      ++ cause.message))
  | .error e => .met (.notJson e)

end FenceCheck.Language
