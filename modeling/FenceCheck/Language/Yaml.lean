import FenceCheck.Checker
import FenceCheck.Yaml.Stream

/-!
The checker of YAML samples. Problems are told by line and column, characters that no stream may hold by
their number and offset; an escape that names no code point is a fault.
-/
namespace FenceCheck.Language
open FenceCheck.Text

def hexAtLeastFour (n : Nat) : String :=
  String.ofList (if n < 0x10000 then hexFixed 4 n else hexFixed (if n < 0x100000 then 5 else 6) n)

def yamlReply : Yaml.Stop → Reply
  | .problem p m =>
    .answered (.text ("line " ++ toString (m.line + 1) ++ " column " ++ toString (m.column + 1) ++ ": "
      ++ p.message))
  | .unacceptable c offset =>
    .answered (.text ("unacceptable character #x" ++ hexAtLeastFour c.toNat
      ++ ": special characters are not allowed\n  in \"<unicode string>\", position " ++ toString offset))
  | .beyondUnicode => .met (.raised .valueError "chr() arg not in range(0x110000)")
  | .beyondWords => .met (.raised .overflowError "Python int too large to convert to C int")
  | .longNumeral n => .met (.longNumeral n)

def checkYaml : Checker := fun source =>
  match Yaml.read source with
  | .ok () => .answered .null
  | .error stop => yamlReply stop

end FenceCheck.Language
