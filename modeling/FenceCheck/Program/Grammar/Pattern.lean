import FenceCheck.Program.Peg

/-!
The grammar of `match` statements and their patterns.
-/
namespace FenceCheck.Program.Grammar

def isImaginary (n : Node) : Bool :=
  n.text.toList.getLast?.any fun c => c = 'j' || c = 'J'

/-- A literal: a signed number, a complex number, a text or a constant. -/
def literals : List Alternative := [
  ⟨[ref .signedNumber, .notAhead (.either ["+", "-"])], plain⟩,
  ⟨[ref .complexNumber], plain⟩,
  ⟨[ref .strings], plain⟩,
  ⟨["None"], plain⟩,
  ⟨["True"], plain⟩,
  ⟨["False"], plain⟩]

def notLonger : Peg := .notAhead (.either [".", "(", "="])

def classWith (parts : List Peg) : Alternative :=
  ⟨ref .nameOrAttr :: "(" :: parts ++ [Peg.opt ",", Peg.token ")"], plain⟩

/-- The rules of `match` statements. -/
def patternRules : Rule → List Alternative
  | .matchStatement => [
      ⟨[.soft "match", ref .subject, ":", lineEnd, .kind .indent, .several (ref .caseBlock), .kind .dedent],
        plain⟩,
      ⟨[bad .matchStatement], pick 0⟩]
  | .subject => [
      ⟨[ref .starNamedExpression, ",", .opt (ref .starNamedExpressions)], plain⟩,
      ⟨[ref .namedExpression], plain⟩]
  | .caseBlock => [
      ⟨[bad .caseBlock], pick 0⟩,
      ⟨[.soft "case", ref .patterns, .opt (ref .guard), ":", ref .block], plain⟩]
  | .guard => [⟨["if", ref .namedExpression], plain⟩]
  | .patterns => [⟨[ref .openSequence], plain⟩, ⟨[ref .pattern], pick 0⟩]
  | .pattern => [⟨[ref .asPattern], pick 0⟩, ⟨[ref .orPattern], pick 0⟩]
  | .asPattern => [
      ⟨[ref .orPattern, "as", ref .captureTarget], plain⟩,
      ⟨[bad .asPattern], pick 0⟩]
  | .orPattern => [⟨[.separated "|" (ref .closedPattern)], plain⟩]
  | .closedPattern =>
      [.literalPattern, .capturePattern, .wildcardPattern, .valuePattern, .groupPattern, .sequencePattern,
        .mappingPattern, .classPattern].map fun (r : Rule) => ⟨[ref r], pick 0⟩
  | .literalPattern => literals
  | .literalExpression => literals
  | .complexNumber => [
      ⟨[ref .signedReal, "+", ref .imaginaryNumber], plain⟩,
      ⟨[ref .signedReal, "-", ref .imaginaryNumber], plain⟩]
  | .signedNumber => [⟨[.kind .number], plain⟩, ⟨["-", .kind .number], plain⟩]
  | .signedReal => [⟨[ref .realNumber], plain⟩, ⟨["-", ref .realNumber], plain⟩]
  | .realNumber => [
      ⟨[.kind .number], fun m =>
        if isImaginary (m.get 0) then .complain (some (m.get 0).line) "real number required in complex literal"
        else .value (m.get 0)⟩]
  | .imaginaryNumber => [
      ⟨[.kind .number], fun m =>
        if isImaginary (m.get 0) then .value (m.get 0)
        else .complain (some (m.get 0).line) "imaginary number required in complex literal"⟩]
  | .capturePattern => [⟨[ref .captureTarget], pick 0⟩]
  | .captureTarget => [⟨[.notAhead (.soft "_"), aName, notLonger], pick 1⟩]
  | .wildcardPattern => [⟨[.soft "_"], plain⟩]
  | .valuePattern => [⟨[ref .attr, notLonger], plain⟩]
  | .attr => [⟨[ref .nameOrAttr, ".", aName], plain⟩]
  | .nameOrAttr => [⟨[ref .attr], pick 0⟩, ⟨[aName], pick 0⟩]
  | .groupPattern => [⟨["(", ref .pattern, ")"], pick 1⟩]
  | .sequencePattern => [
      ⟨["[", .opt (ref .maybeSequence), "]"], plain⟩,
      ⟨["(", .opt (ref .openSequence), ")"], plain⟩]
  | .openSequence => [⟨[ref .maybeStarPattern, ",", .opt (ref .maybeSequence)], plain⟩]
  | .maybeSequence => [⟨[.separated "," (ref .maybeStarPattern), .opt ","], plain⟩]
  | .maybeStarPattern => [⟨[ref .starPattern], pick 0⟩, ⟨[ref .pattern], pick 0⟩]
  | .starPattern => [⟨["*", ref .captureTarget], plain⟩, ⟨["*", ref .wildcardPattern], plain⟩]
  | .mappingPattern => [
      ⟨["\x7b", "\x7d"], plain⟩,
      ⟨["\x7b", ref .doubleStarPattern, .opt ",", "\x7d"], plain⟩,
      ⟨["\x7b", ref .itemPatterns, ",", ref .doubleStarPattern, .opt ",", "\x7d"], plain⟩,
      ⟨["\x7b", ref .itemPatterns, .opt ",", "\x7d"], plain⟩]
  | .itemPatterns => [⟨[.separated "," (ref .keyValuePattern)], plain⟩]
  | .keyValuePattern => [⟨[.either [ref .literalExpression, ref .attr], ":", ref .pattern], plain⟩]
  | .doubleStarPattern => [⟨["**", ref .captureTarget], plain⟩]
  | .classPattern => [
      ⟨[ref .nameOrAttr, "(", ")"], plain⟩,
      classWith [ref .positionalPatterns],
      classWith [ref .keywordPatterns],
      classWith [ref .positionalPatterns, ",", ref .keywordPatterns],
      ⟨[bad .classPattern], pick 0⟩]
  | .positionalPatterns => [⟨[.separated "," (ref .pattern)], pick 0⟩]
  | .keywordPatterns => [⟨[.separated "," (ref .keywordPattern)], plain⟩]
  | .keywordPattern => [⟨[aName, "=", ref .pattern], plain⟩]
  | _ => []

end FenceCheck.Program.Grammar
