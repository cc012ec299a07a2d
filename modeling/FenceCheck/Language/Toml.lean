import FenceCheck.Checker

/-!
The checker of TOML samples. A text that is no TOML document is told with its place; integers of too
many digits and too deep a nesting are faults.
-/
namespace FenceCheck.Language

def tomlFault : Toml.ReadError → Fault
  | .fault cause place => .raised ⟨"TOMLDecodeError", rfl⟩ (Toml.faultMessage cause place)
  | .longInteger n => .longNumeral n
  | .tooDeep => .raised .recursionError "maximum recursion depth exceeded"

def checkToml : Checker := fun source =>
  match Toml.read source.toList with
  | .ok _ => .answered .null
  | .error (.fault cause place) => .answered (.text (Toml.faultMessage cause place))
  | .error e => .met (tomlFault e)

end FenceCheck.Language
