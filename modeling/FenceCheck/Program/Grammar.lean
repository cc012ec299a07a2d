import FenceCheck.Program.Grammar.Mistake
import FenceCheck.Program.Grammar.Pattern
import FenceCheck.Program.Grammar.Target

/-!
The whole grammar: the alternatives of every rule, in the order they are tried in.
-/
namespace FenceCheck.Program
open Grammar

def Rule.alternatives : Rule → List Alternative
  | .mistake m => mistakeRules m
  | r =>
    expressionRules r ++ targetRules r ++ statementRules r ++ definitionRules r ++ blockRules r
      ++ patternRules r

end FenceCheck.Program
