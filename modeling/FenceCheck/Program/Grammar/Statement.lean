import FenceCheck.Program.Peg

/-!
The grammar of statements, simple ones and those with blocks, of functions and classes, and of the
parameters of functions.
-/
namespace FenceCheck.Program.Grammar

def begunBy (words : List String) (r : Rule) : Alternative :=
  ⟨[.ahead (.either (words.map .token)), ref r], pick 1⟩

def augmentedOperators : List String :=
  ["+=", "-=", "*=", "@=", "/=", "%=", "&=", "|=", "^=", "<<=", ">>=", "**=", "//="]

def assignedTargets : Peg := .inOrder 0 [ref .starTargets, "="]

def assignedValue : Peg := .either [ref .yieldExpression, ref .starExpressions]

def annotatedValue : Peg := .opt (.inOrder 1 ["=", ref .annotatedRight])

def boundName : Peg := .opt (.inOrder 1 ["as", aName])

/-- Parts of a parameter list; parameters are followed by `,` or `)`. -/
def parameterEnd (parts : List Peg) : List Alternative := [
  ⟨parts ++ [Peg.token ","], pick 0⟩,
  ⟨parts ++ [Peg.ahead ")"], pick 0⟩]

/-- The same alternatives, also after `async`. -/
def alsoAsync (alternatives : List Alternative) : List Alternative :=
  alternatives ++ alternatives.map fun a => { a with parts := "async" :: a.parts }

def statementRules : Rule → List Alternative
  | .file => [⟨[.opt (ref .statements), .kind .finish], plain⟩]
  | .statements => [⟨[.several (ref .statement)], plain⟩]
  | .statement => [⟨[ref .compoundStatement], plain⟩, ⟨[ref .simpleStatements], plain⟩]
  | .simpleStatements => [
      ⟨[ref .simpleStatement, .notAhead ";", lineEnd], plain⟩,
      ⟨[.separated ";" (ref .simpleStatement), .opt ";", lineEnd], plain⟩]
  | .simpleStatement => [
      ⟨[ref .assignment], plain⟩,
      ⟨[ref .starExpressions], plain⟩,
      begunBy ["return"] .returnStatement,
      begunBy ["import", "from"] .importStatement,
      begunBy ["raise"] .raiseStatement,
      ⟨["pass"], plain⟩,
      begunBy ["del"] .deleteStatement,
      begunBy ["yield"] .yieldStatement,
      begunBy ["assert"] .assertStatement,
      ⟨["break"], plain⟩,
      ⟨["continue"], plain⟩,
      begunBy ["global"] .globalStatement,
      begunBy ["nonlocal"] .nonlocalStatement]
  | .compoundStatement => [
      begunBy ["def", "@", "async"] .function,
      begunBy ["if"] .ifStatement,
      begunBy ["class", "@"] .classDefinition,
      begunBy ["with", "async"] .withStatement,
      begunBy ["for", "async"] .forStatement,
      begunBy ["try"] .tryStatement,
      begunBy ["while"] .whileStatement,
      ⟨[ref .matchStatement], plain⟩]
  | .assignment => [
      ⟨[aName, ":", ref .expression, annotatedValue], plain⟩,
      ⟨[.choice [(1, ["(", ref .singleTarget, ")"]), (0, [ref .singlePartTarget])], ":", ref .expression,
        annotatedValue], plain⟩,
      ⟨[.several assignedTargets, assignedValue, .notAhead "="], plain⟩,
      ⟨[ref .singleTarget, ref .augmented, .cut, assignedValue], plain⟩,
      ⟨[bad .assignment], pick 0⟩]
  | .annotatedRight => [⟨[assignedValue], pick 0⟩]
  | .augmented => augmentedOperators.map fun s => ⟨[.token s], plain⟩
  | .returnStatement => [⟨["return", .opt (ref .starExpressions)], plain⟩]
  | .raiseStatement => [
      ⟨["raise", ref .expression, .opt (.inOrder 1 ["from", ref .expression])], plain⟩,
      ⟨["raise"], plain⟩]
  | .globalStatement => [⟨["global", .separated "," aName], plain⟩]
  | .nonlocalStatement => [⟨["nonlocal", .separated "," aName], plain⟩]
  | .deleteStatement => [
      ⟨["del", ref .deleteTargets, .ahead (.either [";", lineEnd])], plain⟩,
      ⟨[bad .delete], pick 0⟩]
  | .yieldStatement => [⟨[ref .yieldExpression], plain⟩]
  | .assertStatement => [
      ⟨["assert", ref .expression, .opt (.inOrder 1 [",", ref .expression])], plain⟩]
  | .importStatement => [⟨[ref .importName], plain⟩, ⟨[ref .importFrom], plain⟩]
  | .importName => [⟨["import", ref .dottedNames], plain⟩]
  | .importFrom => [
      ⟨["from", .many (.either [".", "..."]), ref .dottedName, "import", ref .importTargets], plain⟩,
      ⟨["from", .several (.either [".", "..."]), "import", ref .importTargets], plain⟩]
  | .importTargets => [
      ⟨["(", ref .importNames, .opt ",", ")"], plain⟩,
      ⟨[ref .importNames, .notAhead ","], plain⟩,
      ⟨["*"], plain⟩,
      ⟨[bad .importTargets], pick 0⟩]
  | .importNames => [⟨[.separated "," (ref .importAs)], plain⟩]
  | .importAs => [⟨[aName, boundName], plain⟩]
  | .dottedNames => [⟨[.separated "," (ref .dottedAs)], plain⟩]
  | .dottedAs => [⟨[ref .dottedName, boundName], plain⟩]
  | .dottedName => [⟨[ref .dottedName, ".", aName], plain⟩, ⟨[aName], plain⟩]
  | _ => []

def definitionRules : Rule → List Alternative
  | .decorators => [⟨[.several (.inOrder 1 ["@", ref .namedExpression, lineEnd])], plain⟩]
  | .classDefinition => [⟨[ref .decorators, ref .plainClass], plain⟩, ⟨[ref .plainClass], plain⟩]
  | .plainClass => [
      ⟨[bad .classDefinition], pick 0⟩,
      ⟨["class", aName, .opt (.inOrder 1 ["(", .opt (ref .arguments), ")"]), ":", ref .block], plain⟩]
  | .function => [⟨[ref .decorators, ref .plainFunction], plain⟩, ⟨[ref .plainFunction], plain⟩]
  | .plainFunction =>
      ⟨[bad .function], pick 0⟩ :: alsoAsync [
        ⟨["def", aName, .forced "(", .opt (ref .parameters), ")", .opt (.inOrder 1 ["->", ref .expression]),
          .forced ":", ref .block], plain⟩]
  | .parameters => [⟨[bad .parameters], pick 0⟩, ⟨[ref .parameterList], plain⟩]
  | .parameterList => [
      ⟨[ref .slashPlain, .many (ref .parameterPlain), .many (ref .parameterDefault),
        .opt (ref .starredParameters)], plain⟩,
      ⟨[ref .slashDefault, .many (ref .parameterDefault), .opt (ref .starredParameters)], plain⟩,
      ⟨[.several (ref .parameterPlain), .many (ref .parameterDefault), .opt (ref .starredParameters)], plain⟩,
      ⟨[.several (ref .parameterDefault), .opt (ref .starredParameters)], plain⟩,
      ⟨[ref .starredParameters], plain⟩]
  | .slashPlain => parameterEnd [.several (ref .parameterPlain), "/"]
  | .slashDefault => parameterEnd [.many (ref .parameterPlain), .several (ref .parameterDefault), "/"]
  | .starredParameters => [
      ⟨[bad .starredParameters], pick 0⟩,
      ⟨["*", ref .parameterPlain, .many (ref .parameterMaybe), .opt (ref .keywordParameters)], plain⟩,
      ⟨["*", ref .parameterStarred, .many (ref .parameterMaybe), .opt (ref .keywordParameters)], plain⟩,
      ⟨["*", ",", .several (ref .parameterMaybe), .opt (ref .keywordParameters)], plain⟩,
      ⟨[ref .keywordParameters], plain⟩]
  | .keywordParameters => [⟨[bad .keywordParameters], pick 0⟩, ⟨["**", ref .parameterPlain], plain⟩]
  | .parameterPlain => parameterEnd [ref .parameter]
  | .parameterStarred => parameterEnd [ref .parameterStarAnnotated]
  | .parameterDefault => parameterEnd [ref .parameter, ref .default]
  | .parameterMaybe => parameterEnd [ref .parameter, .opt (ref .default)]
  | .parameter => [⟨[aName, .opt (ref .typing)], pick 0⟩]
  | .parameterStarAnnotated => [⟨[aName, ref .starTyping], pick 0⟩]
  | .typing => [⟨[":", ref .expression], plain⟩]
  | .starTyping => [⟨[":", ref .starExpression], plain⟩]
  | .default => [⟨["=", ref .expression], plain⟩, ⟨[bad .default], pick 0⟩]
  | _ => []

def blockRules : Rule → List Alternative
  | .block => [
      ⟨[lineEnd, .kind .indent, ref .statements, .kind .dedent], plain⟩,
      ⟨[ref .simpleStatements], plain⟩,
      ⟨[bad .block], pick 0⟩]
  | .ifStatement => [
      ⟨[bad .ifStatement], pick 0⟩,
      ⟨["if", ref .namedExpression, ":", ref .block, ref .elifStatement], plain⟩,
      ⟨["if", ref .namedExpression, ":", ref .block, .opt (ref .elseBlock)], plain⟩]
  | .elifStatement => [
      ⟨[bad .elifStatement], pick 0⟩,
      ⟨["elif", ref .namedExpression, ":", ref .block, ref .elifStatement], plain⟩,
      ⟨["elif", ref .namedExpression, ":", ref .block, .opt (ref .elseBlock)], plain⟩]
  | .elseBlock => [⟨[bad .elseStatement], pick 0⟩, ⟨["else", .forced ":", ref .block], plain⟩]
  | .whileStatement => [
      ⟨[bad .whileStatement], pick 0⟩,
      ⟨["while", ref .namedExpression, ":", ref .block, .opt (ref .elseBlock)], plain⟩]
  | .forStatement =>
      ⟨[bad .forStatement], pick 0⟩ :: alsoAsync [
        ⟨["for", ref .starTargets, "in", .cut, ref .starExpressions, ":", ref .block, .opt (ref .elseBlock)],
          plain⟩]
      ++ [⟨[bad .forTarget], pick 0⟩]
  | .withStatement =>
      ⟨[bad .withIndent], pick 0⟩ :: alsoAsync [
        ⟨["with", "(", .separated "," (ref .withItem), .opt ",", ")", ":", ref .block], plain⟩,
        ⟨["with", .separated "," (ref .withItem), ":", ref .block], plain⟩]
      ++ [⟨[bad .withStatement], pick 0⟩]
  | .withItem => [
      ⟨[ref .expression, "as", ref .starTarget, .ahead (.either [",", ")", ":"])], plain⟩,
      ⟨[bad .withItem], pick 0⟩,
      ⟨[ref .expression], plain⟩]
  | .tryStatement => [
      ⟨[bad .tryStatement], pick 0⟩,
      ⟨["try", .forced ":", ref .block, ref .finallyBlock], plain⟩,
      ⟨["try", .forced ":", ref .block, .several (ref .exceptBlock), .opt (ref .elseBlock),
        .opt (ref .finallyBlock)], plain⟩,
      ⟨["try", .forced ":", ref .block, .several (ref .exceptStarBlock), .opt (ref .elseBlock),
        .opt (ref .finallyBlock)], plain⟩]
  | .exceptBlock => [
      ⟨[bad .exceptIndent], pick 0⟩,
      ⟨["except", ref .expression, boundName, ":", ref .block], plain⟩,
      ⟨["except", ":", ref .block], plain⟩,
      ⟨[bad .exceptStatement], pick 0⟩]
  | .exceptStarBlock => [
      ⟨[bad .exceptStarIndent], pick 0⟩,
      ⟨["except", "*", ref .expression, boundName, ":", ref .block], plain⟩,
      ⟨[bad .exceptStatement], pick 0⟩]
  | .finallyBlock => [⟨[bad .finallyStatement], pick 0⟩, ⟨["finally", .forced ":", ref .block], plain⟩]
  | _ => []

end FenceCheck.Program.Grammar
