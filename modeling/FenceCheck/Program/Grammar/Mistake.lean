import FenceCheck.Program.Grammar.Expression
import FenceCheck.Program.Grammar.Statement

/-!
The grammar of known mistakes. Each rule matches something that is not allowed, and tells what is wrong
with it; where it does not complain, it does not match.
-/
namespace FenceCheck.Program.Grammar

def exceptWhen (condition : Matched → Bool) (action : Action) : Action := fun m =>
  if condition m then .reject else action m

def bareComprehension : Action := fun m =>
  match (m.get 0).parts with
  | _ :: second :: rest =>
    .complain (some ((second :: rest).getLastD second).line) "Generator expression must be parenthesized"
  | _ => .reject

def lateArgument : Action := fun m =>
  .complain none
    (if (m.get 0).kind = .arguments true then "positional argument follows keyword argument unpacking"
      else "positional argument follows keyword argument")

def meantComparison : String := "invalid syntax. Maybe you meant '==' or ':=' instead of '='?"

def meantEquality : Action :=
  complainAt 1 fun m =>
    "cannot assign to " ++ (m.get 1).describe ++ " here. Maybe you meant '==' instead of '='?"

def formerCall : Action :=
  exceptWhen (fun m => !isFormerCommand (m.get 0)) <| complainAt 0 fun m =>
    let name := (m.get 0).text
    "Missing parentheses in call to '" ++ name ++ "'. Did you mean " ++ name ++ "(...)?"

def missingComma : Action :=
  exceptWhen (fun m => isFormerCommand (m.get 1) || m.depth = 0)
    (blame 1 "invalid syntax. Perhaps you forgot a comma?")

def opening (brackets : List String) : Peg := .either (brackets.map .token)

/-- Items of a `with` statement as they are first read. -/
def roughItems (r : Rule) : Peg :=
  .separated "," (.inOrder 0 [ref r, .opt (.inOrder 1 ["as", ref .starTarget])])

def mayBeAsync : Peg := .opt "async"

def slashed (plainRule defaultRule : Rule) : Peg := .either [ref plainRule, ref defaultRule]

/-- Mistakes in the list of parameters, which ends with `closing`; parameters in parentheses are
told with `parenthesized`. -/
def parameterMistakes (plainOne maybeOne plainSlash defaultSlash : Rule) (helper : Mistake)
    (inParens : Peg) (parenthesized : String) : List Alternative := [
  ⟨[.many (ref plainOne), bad helper, ref plainOne], blame 2 "non-default argument follows default argument"⟩,
  ⟨[.many (ref plainOne), "(", inParens, .opt ",", ")"], blame 1 parenthesized⟩,
  ⟨["/", ","], blame 0 "at least one argument must precede /"⟩,
  ⟨[slashed plainSlash defaultSlash, .many (ref maybeOne), "/"], blame 2 "/ may appear only once"⟩,
  ⟨[.opt (slashed plainSlash defaultSlash), .many (ref maybeOne), "*", .either [",", ref plainOne],
    .many (ref maybeOne), "/"], blame 5 "/ must be ahead of *"⟩,
  ⟨[.several (ref maybeOne), "/", "*"], blame 2 "expected comma between / and *"⟩]

def secondStar (plainOne maybeOne : Rule) : Alternative :=
  ⟨["*", .either [ref plainOne, ","], .many (ref maybeOne), "*", .either [ref plainOne, ","]],
    blame 3 "* argument may appear only once"⟩

def afterKeywords (one : Rule) : List Alternative := [
  ⟨["**", ref one, "="], blame 2 "var-keyword argument cannot have default value"⟩,
  ⟨["**", ref one, ",", ref one], blame 3 "arguments cannot follow var-keyword argument"⟩,
  ⟨["**", ref one, ",", opening ["*", "**", "/"]], blame 3 "arguments cannot follow var-keyword argument"⟩]

def noColon (parts : List Peg) : Alternative := ⟨parts ++ [lineEnd], blameHere "expected ':'"⟩

/-- A statement whose header no block follows; its first word is the part `i`. -/
def headerOnly (parts : List Peg) (i : Nat) (statement : String) : Alternative :=
  ⟨parts ++ Peg.token ":" :: noBlock, missingBlock statement i⟩

def pairMistakes : List Alternative := [
  ⟨[ref .expression, ":", "*", ref .bitwiseOr], blame 2 "cannot use a starred expression in a dictionary value"⟩,
  ⟨[ref .expression, ":", .ahead (.either ["\x7d", ","])],
    blame 1 "expression expected after dictionary key and ':'"⟩]

/-- A clause for some kinds of errors, up to its colon. -/
def exceptHeader (star : List Peg) : List Peg := Peg.token "except" :: star ++ [ref .expression, boundName]

def expressionMistakes : Mistake → List Alternative
  | .arguments => [
      ⟨[ref .args, ",", "*"], blame 0 "iterable argument unpacking follows keyword argument unpacking"⟩,
      ⟨[ref .expression, ref .forClauses, ",",
        .opt (.choice [(0, [ref .args]), (0, [ref .expression, ref .forClauses])])],
        blame 0 "Generator expression must be parenthesized"⟩,
      ⟨[aName, "=", ref .expression, ref .forClauses], blame 0 meantComparison⟩,
      ⟨[ref .args, ref .forClauses], bareComprehension⟩,
      ⟨[ref .args, ",", ref .expression, ref .forClauses], blame 2 "Generator expression must be parenthesized"⟩,
      ⟨[ref .args, ",", ref .args], lateArgument⟩]
  | .keywordArgument => [
      ⟨[opening ["True", "False", "None"], "="], complainAt 0 fun m => "cannot assign to " ++ (m.get 0).text⟩,
      ⟨[aName, "=", ref .expression, ref .forClauses], blame 0 meantComparison⟩,
      ⟨[.notAhead (.inOrder 0 [aName, "="]), ref .expression, "="],
        blame 1 "expression cannot contain assignment, perhaps you meant \"==\"?"⟩]
  | .formerCommand => [⟨[aName, .notAhead "(", ref .starExpressions], formerCall⟩]
  | .expression => [
      ⟨[.notAhead (.choice [(0, [aName, .kind .text]), (0, [.anySoft])]), ref .disjunction, ref .expressionOnly],
        missingComma⟩,
      ⟨[ref .disjunction, "if", ref .disjunction, .notAhead (.either ["else", ":"])],
        blame 0 "expected 'else' after 'if' expression"⟩]
  | .namedExpression => [
      ⟨[ref .expression, ":=", ref .expression],
        complainAt 0 fun m => "cannot use assignment expressions with " ++ (m.get 0).describe⟩,
      ⟨[aName, "=", ref .bitwiseOr, .notAhead (.either ["=", ":="])], blame 0 meantComparison⟩,
      ⟨[.notAhead (.either [ref .list, ref .tuple, ref .generator, "True", "None", "False"]),
        ref .bitwiseOr, "=", ref .bitwiseOr, .notAhead (.either ["=", ":="])], meantEquality⟩]
  | .comprehension => [
      ⟨[opening ["[", "(", "\x7b"], ref .starred, ref .forClauses],
        blame 1 "iterable unpacking cannot be used in comprehension"⟩,
      ⟨[opening ["[", "\x7b"], ref .starNamedExpression, ",", ref .starNamedExpressions, ref .forClauses],
        blame 1 "did you forget parentheses around the comprehension target?"⟩,
      ⟨[opening ["[", "\x7b"], ref .starNamedExpression, ",", ref .forClauses],
        blame 1 "did you forget parentheses around the comprehension target?"⟩]
  | .dictComprehension => [
      ⟨["\x7b", "**", ref .bitwiseOr, ref .forClauses, "\x7d"],
        blame 1 "dict unpacking cannot be used in dict comprehension"⟩]
  | .lambdaParameters =>
      parameterMistakes .lambdaPlain .lambdaMaybe .lambdaSlashPlain .lambdaSlashDefault .lambdaParametersHelper
        (.separated "," (ref .lambdaParameter)) "Lambda expression parameters cannot be parenthesized"
  | .lambdaParametersHelper => [
      ⟨[ref .lambdaSlashDefault], pick 0⟩,
      ⟨[.several (ref .lambdaDefault)], plain⟩]
  | .lambdaStarred => [
      ⟨["*", .choice [(0, [":"]), (0, [",", .either [":", "**"]])]],
        blameHere "named arguments must follow bare *"⟩,
      ⟨["*", ref .lambdaParameter, "="], blame 2 "var-positional argument cannot have default value"⟩,
      secondStar .lambdaPlain .lambdaMaybe]
  | .lambdaKeywords => afterKeywords .lambdaParameter
  | .group => [
      ⟨["(", ref .starred, ")"], blame 1 "cannot use starred expression here"⟩,
      ⟨["(", "**", ref .expression, ")"], blame 1 "cannot use double starred expression here"⟩]
  | .pairs =>
      ⟨[.separated "," (ref .starredPair), ",", bad .pair], plain⟩ :: pairMistakes
  | .pair =>
      ⟨[ref .expression, .notAhead ":"], blame 0 "':' expected after dictionary key"⟩ :: pairMistakes
  | _ => []

def statementMistakes : Mistake → List Alternative
  | .assignment => [
      ⟨[bad .annotated, ":", ref .expression],
        complainAt 0 fun m => "only single target (not " ++ (m.get 0).describe ++ ") can be annotated"⟩,
      ⟨[ref .starNamedExpression, ",", .many (ref .starNamedExpressions), ":", ref .expression],
        blame 0 "only single target (not tuple) can be annotated"⟩,
      ⟨[ref .expression, ":", ref .expression], blame 0 "illegal target for annotation"⟩,
      ⟨[.many assignedTargets, ref .starExpressions, "="], blameTarget .assign 1⟩,
      ⟨[.many assignedTargets, ref .yieldExpression, "="], blame 1 "assignment to yield expression not possible"⟩,
      ⟨[ref .starExpressions, ref .augmented, assignedValue], complainAt 0 fun m =>
        "'" ++ (m.get 0).describe ++ "' is an illegal expression for augmented assignment"⟩]
  | .annotated => [
      ⟨[ref .list], pick 0⟩,
      ⟨[ref .tuple], pick 0⟩,
      ⟨["(", bad .annotated, ")"], pick 1⟩]
  | .delete => [⟨["del", ref .starExpressions], blameTarget .delete 1⟩]
  | .parameters =>
      parameterMistakes .parameterPlain .parameterMaybe .slashPlain .slashDefault .parametersHelper
        (.several (ref .parameterPlain)) "Function parameters cannot be parenthesized"
  | .parametersHelper => [
      ⟨[ref .slashDefault], pick 0⟩,
      ⟨[.several (ref .parameterDefault)], plain⟩]
  | .default => [
      ⟨["=", .ahead (.either [")", ","])], blame 0 "expected default value expression"⟩]
  | .starredParameters => [
      ⟨["*", .choice [(0, [")"]), (0, [",", .either [")", "**"]])]],
        blame 0 "named arguments must follow bare *"⟩,
      ⟨["*", ref .parameter, "="], blame 2 "var-positional argument cannot have default value"⟩,
      secondStar .parameterPlain .parameterMaybe]
  | .keywordParameters => afterKeywords .parameter
  | .importTargets => [
      ⟨[ref .importNames, ",", lineEnd],
        blameHere "trailing comma not allowed without surrounding parentheses"⟩]
  | .asPattern => [
      ⟨[ref .orPattern, "as", .soft "_"], blame 2 "cannot use '_' as a target"⟩,
      ⟨[ref .orPattern, "as", .notAhead aName, ref .expression], blame 3 "invalid pattern target"⟩]
  | .classPattern => [
      ⟨[ref .nameOrAttr, "(", bad .classArguments], blame 2 "positional patterns follow keyword patterns"⟩]
  | .classArguments => [
      ⟨[.opt (.inOrder 0 [ref .positionalPatterns, ","]), ref .keywordPatterns, ",", ref .positionalPatterns],
        fun m => .value ((m.collect [3]).headD (m.get 3))⟩]
  | _ => []

def blockMistakes : Mistake → List Alternative
  | .block => [⟨noBlock, blameHere "expected an indented block"⟩]
  | .withItem => [
      ⟨[ref .expression, "as", ref .expression, .ahead (.either [",", ")", ":"])], blameTarget .assign 2⟩]
  | .forTarget => [⟨[mayBeAsync, "for", ref .starExpressions], blameTarget .loop 2⟩]
  | .withStatement => [
      noColon [mayBeAsync, "with", roughItems .expression],
      noColon [mayBeAsync, "with", "(", roughItems .expressions, .opt ",", ")"]]
  | .withIndent => [
      headerOnly [mayBeAsync, "with", roughItems .expression] 1 "'with' statement",
      headerOnly [mayBeAsync, "with", "(", roughItems .expressions, .opt ",", ")"] 1 "'with' statement"]
  | .tryStatement => [
      headerOnly ["try"] 0 "'try' statement",
      ⟨["try", ":", ref .block, .notAhead (.either ["except", "finally"])],
        blameHere "expected 'except' or 'finally' block"⟩,
      ⟨["try", ":", .many (ref .block), .several (ref .exceptBlock), "except", "*", ref .expression, boundName, ":"],
        blame 4 "cannot have both 'except' and 'except*' on the same 'try'"⟩,
      ⟨["try", ":", .many (ref .block), .several (ref .exceptStarBlock), "except",
        .opt (.inOrder 0 [ref .expression, boundName]), ":"],
        blame 4 "cannot have both 'except' and 'except*' on the same 'try'"⟩]
  | .exceptStatement => [
      ⟨["except", .opt "*", ref .expression, ",", ref .expressions, boundName, ":"],
        blame 2 "multiple exception types must be parenthesized"⟩,
      noColon ["except", .opt "*", ref .expression, boundName],
      noColon ["except"],
      ⟨["except", "*", .either [lineEnd, ":"]], blameHere "expected one or more exception types"⟩]
  | .finallyStatement => [headerOnly ["finally"] 0 "'finally' statement"]
  | .exceptIndent => [
      headerOnly (exceptHeader []) 0 "'except' statement",
      headerOnly ["except"] 0 "'except' statement"]
  | .exceptStarIndent => [headerOnly (exceptHeader ["*"]) 0 "'except*' statement"]
  | .matchStatement => [
      noColon [.soft "match", ref .subject],
      headerOnly [.soft "match", ref .subject] 0 "'match' statement"]
  | .caseBlock => [
      noColon [.soft "case", ref .patterns, .opt (ref .guard)],
      headerOnly [.soft "case", ref .patterns, .opt (ref .guard)] 0 "'case' statement"]
  | .ifStatement => [
      noColon ["if", ref .namedExpression],
      headerOnly ["if", ref .namedExpression] 0 "'if' statement"]
  | .elifStatement => [
      noColon ["elif", ref .namedExpression],
      headerOnly ["elif", ref .namedExpression] 0 "'elif' statement"]
  | .elseStatement => [headerOnly ["else"] 0 "'else' statement"]
  | .whileStatement => [
      noColon ["while", ref .namedExpression],
      headerOnly ["while", ref .namedExpression] 0 "'while' statement"]
  | .forStatement => [
      noColon [mayBeAsync, "for", ref .starTargets, "in", ref .starExpressions],
      headerOnly [mayBeAsync, "for", ref .starTargets, "in", ref .starExpressions] 1 "'for' statement"]
  | .function => [
      headerOnly [mayBeAsync, "def", aName, "(", .opt (ref .parameters), ")",
        .opt (.inOrder 1 ["->", ref .expression])] 1 "function definition"]
  | .classDefinition => [
      noColon ["class", aName, .opt (.inOrder 0 ["(", .opt (ref .arguments), ")"])],
      headerOnly ["class", aName, .opt (.inOrder 0 ["(", .opt (ref .arguments), ")"])] 0 "class definition"]
  | _ => []

def mistakeRules (m : Mistake) : List Alternative :=
  expressionMistakes m ++ statementMistakes m ++ blockMistakes m

end FenceCheck.Program.Grammar
