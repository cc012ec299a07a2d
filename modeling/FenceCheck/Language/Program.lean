import FenceCheck.Checker
import FenceCheck.Program.Reader

/-!
The checker of program samples. What is wrong is told with its line; a sample with a NUL character is no
program text at all.
-/
namespace FenceCheck.Language

def checkProgram : Checker := fun source =>
  if source.toList.contains '\x00' then
    .met (.raised .valueError "source code string cannot contain null bytes")
  else
    .ofComplaint ((Program.trouble? source.toList).map fun t =>
      "line " ++ toString t.line ++ ": " ++ t.message)

end FenceCheck.Language
