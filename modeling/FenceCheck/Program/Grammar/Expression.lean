import FenceCheck.Program.Peg

/-!
The grammar of expressions: from tuples without brackets down to atoms, with functions without names,
displays, comprehensions and the arguments of calls.
-/
namespace FenceCheck.Program.Grammar

/-- A binary operation, which begins with the rule it belongs to. -/
def binary (left : Rule) (operator : String) (right : Rule) : Alternative :=
  ⟨[ref left, operator, ref right], make .operation [0, 2]⟩

def only (r : Rule) : Alternative := ⟨[ref r], pick 0⟩

/-- A tuple of several parts, a tuple of one, or one part. -/
def tupleOf (r : Rule) : List Alternative := [
  ⟨[ref r, .several (.inOrder 1 [",", ref r]), .opt ","], make .tuple [0, 1]⟩,
  ⟨[ref r, ","], make .tuple [0]⟩,
  only r]

def compared (operators : List String) (text : String) : Alternative :=
  ⟨operators.map Peg.token ++ [ref .bitwiseOr], word .token text⟩

/-- Parts of a parameter list of a function without a name; parameters are followed by `,` or `:`. -/
def lambdaEnd (parts : List Peg) : List Alternative := [
  ⟨parts ++ [Peg.token ","], pick 0⟩,
  ⟨parts ++ [Peg.ahead ":"], pick 0⟩]

/-- The value of the arguments of a call: those without names, and whether a mapping is unpacked. -/
def argumentsOf (plainOnes named : List Node) : List Node × Bool :=
  (plainOnes ++ named.filter (·.kind = .starred), named.any (·.kind = .unpacking))

/-- Arguments of a call; those of the second kind may have names. -/
def callArguments (plainPart : Option Nat) (namedPart : Nat) : Action := fun m =>
  let (parts, unpacked) :=
    argumentsOf ((plainPart.map fun i => m.collect [i]).getD []) (m.collect [namedPart])
  .value (.mk (.arguments unpacked) m.line "" parts)

/-- An argument that is not named: no assignment may follow. -/
def plainArgument : Peg :=
  .choice [
    (0, [ref .starred]),
    (0, [.choice [(0, [ref .assignmentExpression]), (0, [ref .expression, .notAhead ":="])], .notAhead "="])]

/-- A node of a comparison: whether it tests membership, as the first operator says. -/
def comparisonNode : Action := fun m =>
  let first := (m.collect [1]).head?.map (·.text)
  .value (.mk (if first = some "in" then .membership else .comparison) m.line "" [m.get 0])

/-- A comparison in a choice of conditions after `for`. -/
def conditions : Peg := .many (.inOrder 1 ["if", ref .disjunction])

def expressionRules : Rule → List Alternative
  | .expressions => tupleOf .expression
  | .expression => [
      ⟨[bad .expression], pick 0⟩,
      ⟨[bad .formerCommand], pick 0⟩,
      ⟨[ref .disjunction, "if", ref .disjunction, "else", ref .expression], make .conditional []⟩,
      only .disjunction,
      only .lambda]
  | .expressionOnly => [
      ⟨[ref .disjunction, "if", ref .disjunction, "else", ref .expression], make .conditional []⟩,
      only .disjunction,
      only .lambda]
  | .yieldExpression => [
      ⟨["yield", "from", ref .expression], make .yielded []⟩,
      ⟨["yield", .opt (ref .starExpressions)], make .yielded []⟩]
  | .starExpressions => tupleOf .starExpression
  | .starExpression => [⟨["*", ref .bitwiseOr], make .starred [1]⟩, only .expression]
  | .starNamedExpressions => [⟨[.separated "," (ref .starNamedExpression), .opt ","], pick 0⟩]
  | .starNamedExpression => [⟨["*", ref .bitwiseOr], make .starred [1]⟩, only .namedExpression]
  | .assignmentExpression => [⟨[aName, ":=", .cut, ref .expression], make .assigned []⟩]
  | .namedExpression => [
      only .assignmentExpression,
      ⟨[bad .namedExpression], pick 0⟩,
      ⟨[ref .expression, .notAhead ":="], pick 0⟩]
  | .disjunction => [
      ⟨[ref .conjunction, .several (.inOrder 1 ["or", ref .conjunction])], make .operation []⟩,
      only .conjunction]
  | .conjunction => [
      ⟨[ref .inversion, .several (.inOrder 1 ["and", ref .inversion])], make .operation []⟩,
      only .inversion]
  | .inversion => [⟨["not", ref .inversion], make .operation []⟩, only .comparison]
  | .comparison => [⟨[ref .bitwiseOr, .several (ref .comparisonPair)], comparisonNode⟩, only .bitwiseOr]
  | .comparisonPair => [
      compared ["=="] "", compared ["!="] "", compared ["<="] "", compared ["<"] "", compared [">="] "",
      compared [">"] "", compared ["not", "in"] "", compared ["in"] "in", compared ["is", "not"] "",
      compared ["is"] ""]
  | .bitwiseOr => [binary .bitwiseOr "|" .bitwiseXor, only .bitwiseXor]
  | .bitwiseXor => [binary .bitwiseXor "^" .bitwiseAnd, only .bitwiseAnd]
  | .bitwiseAnd => [binary .bitwiseAnd "&" .shift, only .shift]
  | .shift => [binary .shift "<<" .sum, binary .shift ">>" .sum, only .sum]
  | .sum => [binary .sum "+" .term, binary .sum "-" .term, only .term]
  | .term => [
      binary .term "*" .factor, binary .term "/" .factor, binary .term "//" .factor,
      binary .term "%" .factor, binary .term "@" .factor, only .factor]
  | .factor => [
      ⟨["+", ref .factor], make .operation []⟩,
      ⟨["-", ref .factor], make .operation []⟩,
      ⟨["~", ref .factor], make .operation []⟩,
      only .power]
  | .power => [⟨[ref .awaitPrimary, "**", ref .factor], make .operation []⟩, only .awaitPrimary]
  | .awaitPrimary => [⟨["await", ref .primary], make .awaited []⟩, only .primary]
  | .primary => [
      ⟨[ref .primary, ".", aName], make .attribute []⟩,
      ⟨[ref .primary, ref .generator], make .call []⟩,
      ⟨[ref .primary, "(", .opt (ref .arguments), ")"], make .call []⟩,
      ⟨[ref .primary, "[", ref .slices, "]"], make .subscript []⟩,
      only .atom]
  | .slices => [
      ⟨[ref .slice, .notAhead ","], pick 0⟩,
      ⟨[.separated "," (.either [ref .slice, ref .starred]), .opt ","], make .tuple [0]⟩]
  | .slice => [
      ⟨[.opt (ref .expression), ":", .opt (ref .expression),
        .opt (.inOrder 1 [":", .opt (ref .expression)])], plain⟩,
      only .namedExpression]
  | .atom => [
      ⟨[aName], pick 0⟩,
      ⟨["True"], word .constant "True"⟩,
      ⟨["False"], word .constant "False"⟩,
      ⟨["None"], word .constant "None"⟩,
      ⟨[.ahead (.kind .text), ref .strings], pick 1⟩,
      ⟨[.kind .number], word .literal ""⟩,
      ⟨[.ahead "(", .either [ref .tuple, ref .group, ref .generator]], pick 1⟩,
      ⟨[.ahead "[", .either [ref .list, ref .listComprehension]], pick 1⟩,
      ⟨[.ahead "\x7b", .either [ref .dict, ref .set, ref .dictComprehension, ref .setComprehension]], pick 1⟩,
      ⟨["..."], word .constant "ellipsis"⟩]
  | .group => [
      ⟨["(", .either [ref .yieldExpression, ref .namedExpression], ")"], pick 1⟩,
      ⟨[bad .group], pick 0⟩]
  | .lambda => [⟨["lambda", .opt (ref .lambdaParameters), ":", ref .expression], make .lambda []⟩]
  | .lambdaParameters => [⟨[bad .lambdaParameters], pick 0⟩, only .lambdaParameterList]
  | .lambdaParameterList => [
      ⟨[ref .lambdaSlashPlain, .many (ref .lambdaPlain), .many (ref .lambdaDefault), .opt (ref .lambdaStarred)],
        plain⟩,
      ⟨[ref .lambdaSlashDefault, .many (ref .lambdaDefault), .opt (ref .lambdaStarred)], plain⟩,
      ⟨[.several (ref .lambdaPlain), .many (ref .lambdaDefault), .opt (ref .lambdaStarred)], plain⟩,
      ⟨[.several (ref .lambdaDefault), .opt (ref .lambdaStarred)], plain⟩,
      only .lambdaStarred]
  | .lambdaSlashPlain => lambdaEnd [.several (ref .lambdaPlain), "/"]
  | .lambdaSlashDefault => lambdaEnd [.many (ref .lambdaPlain), .several (ref .lambdaDefault), "/"]
  | .lambdaStarred => [
      ⟨[bad .lambdaStarred], pick 0⟩,
      ⟨["*", ref .lambdaPlain, .many (ref .lambdaMaybe), .opt (ref .lambdaKeywords)], plain⟩,
      ⟨["*", ",", .several (ref .lambdaMaybe), .opt (ref .lambdaKeywords)], plain⟩,
      only .lambdaKeywords]
  | .lambdaKeywords => [⟨[bad .lambdaKeywords], pick 0⟩, ⟨["**", ref .lambdaPlain], plain⟩]
  | .lambdaPlain => lambdaEnd [ref .lambdaParameter]
  | .lambdaDefault => lambdaEnd [ref .lambdaParameter, ref .default]
  | .lambdaMaybe => lambdaEnd [ref .lambdaParameter, .opt (ref .default)]
  | .lambdaParameter => [⟨[aName], pick 0⟩]
  | .strings => [⟨[.several (.kind .text)], fun m => .texts (m.collect [0])⟩]
  | .list => [⟨["[", .opt (ref .starNamedExpressions), "]"], make .list [1]⟩]
  | .tuple => [
      ⟨["(", .opt (ref .tupleItems), ")"], make .tuple [1]⟩]
  | .tupleItems => [
      ⟨[ref .starNamedExpression, ",", .opt (ref .starNamedExpressions)], make .group [0, 2]⟩]
  | .set => [⟨["\x7b", ref .starNamedExpressions, "\x7d"], make .set []⟩]
  | .dict => [
      ⟨["\x7b", .opt (ref .pairs), "\x7d"], make .dict []⟩,
      ⟨["\x7b", bad .pairs, "\x7d"], make .dict []⟩]
  | .pairs => [⟨[.separated "," (ref .starredPair), .opt ","], plain⟩]
  | .starredPair => [⟨["**", ref .bitwiseOr], plain⟩, only .pair]
  | .pair => [⟨[ref .expression, ":", ref .expression], plain⟩]
  | .forClauses => [⟨[.several (ref .forClause)], pick 0⟩]
  | .forClause => [
      ⟨["async", "for", ref .starTargets, "in", .cut, ref .disjunction, conditions], plain⟩,
      ⟨["for", ref .starTargets, "in", .cut, ref .disjunction, conditions], plain⟩,
      ⟨[bad .forTarget], pick 0⟩]
  | .listComprehension => [
      ⟨["[", ref .namedExpression, ref .forClauses, "]"], make .listComprehension []⟩,
      ⟨[bad .comprehension], pick 0⟩]
  | .setComprehension => [
      ⟨["\x7b", ref .namedExpression, ref .forClauses, "\x7d"], make .setComprehension []⟩,
      ⟨[bad .comprehension], pick 0⟩]
  | .generator => [
      ⟨["(", .choice [(0, [ref .assignmentExpression]), (0, [ref .expression, .notAhead ":="])],
        ref .forClauses, ")"], make .generator []⟩,
      ⟨[bad .comprehension], pick 0⟩]
  | .dictComprehension => [
      ⟨["\x7b", ref .pair, ref .forClauses, "\x7d"], make .dictComprehension []⟩,
      ⟨[bad .dictComprehension], pick 0⟩]
  | .arguments => [
      ⟨[ref .args, .opt ",", .ahead ")"], pick 0⟩,
      ⟨[bad .arguments], pick 0⟩]
  | .args => [
      ⟨[.separated "," plainArgument, .opt (.inOrder 1 [",", ref .keywords])], callArguments (some 0) 1⟩,
      ⟨[ref .keywords], callArguments none 0⟩]
  | .keywords => [
      ⟨[.separated "," (ref .keywordOrStarred), ",", .separated "," (ref .keywordOrDoubleStarred)],
        make .group [0, 2]⟩,
      ⟨[.separated "," (ref .keywordOrStarred)], pick 0⟩,
      ⟨[.separated "," (ref .keywordOrDoubleStarred)], pick 0⟩]
  | .starred => [⟨["*", ref .expression], make .starred [1]⟩]
  | .keywordOrStarred => [
      ⟨[bad .keywordArgument], pick 0⟩,
      ⟨[aName, "=", ref .expression], plain⟩,
      only .starred]
  | .keywordOrDoubleStarred => [
      ⟨[bad .keywordArgument], pick 0⟩,
      ⟨[aName, "=", ref .expression], plain⟩,
      ⟨["**", ref .expression], make .unpacking []⟩]
  | _ => []

end FenceCheck.Program.Grammar
