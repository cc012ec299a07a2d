import FenceCheck.Program.Node

/-!
Grammar rules as data. An alternative of a rule is a sequence of expressions that are matched in order,
and an action on what they matched; the first alternative that matches decides. Rules of mistakes match
what is wrong in a known way, and complain about it.
-/
namespace FenceCheck.Program

inductive Mistake where
  | arguments | keywordArgument | formerCommand | expression | namedExpression | assignment
  | annotated | delete | block | comprehension | dictComprehension | parameters | default
  | starredParameters | keywordParameters | parametersHelper | lambdaParameters | lambdaParametersHelper
  | lambdaStarred | lambdaKeywords | withItem | forTarget | group | importTargets | withStatement
  | withIndent | tryStatement | exceptStatement | finallyStatement | exceptIndent | exceptStarIndent
  | matchStatement | caseBlock | asPattern | classPattern | classArguments | ifStatement | elifStatement
  | elseStatement | whileStatement | forStatement | function | classDefinition | pairs | pair
  deriving DecidableEq, Repr, Hashable

inductive Rule where
  | mistake (m : Mistake)
  | file | statements | statement | simpleStatements | simpleStatement | compoundStatement
  | assignment | annotatedRight | augmented | returnStatement | raiseStatement | globalStatement
  | nonlocalStatement | deleteStatement | yieldStatement | assertStatement | importStatement | importName
  | importFrom | importTargets | importNames | importAs | dottedNames | dottedAs | dottedName
  | block | decorators | classDefinition | plainClass | function | plainFunction
  | parameters | parameterList | slashPlain | slashDefault | starredParameters | keywordParameters
  | parameterPlain | parameterStarred | parameterDefault | parameterMaybe | parameter
  | parameterStarAnnotated | typing | starTyping | default
  | ifStatement | elifStatement | elseBlock | whileStatement | forStatement | withStatement | withItem
  | tryStatement | exceptBlock | exceptStarBlock | finallyBlock
  | matchStatement | subject | caseBlock | guard | patterns | pattern | asPattern | orPattern
  | closedPattern | literalPattern | literalExpression | complexNumber | signedNumber | signedReal
  | realNumber | imaginaryNumber | capturePattern | captureTarget | wildcardPattern | valuePattern | attr
  | nameOrAttr | groupPattern | sequencePattern | openSequence | maybeSequence | maybeStarPattern
  | starPattern | mappingPattern | itemPatterns | keyValuePattern | doubleStarPattern | classPattern
  | positionalPatterns | keywordPatterns | keywordPattern
  | expressions | expression | expressionOnly | yieldExpression | starExpressions | starExpression
  | starNamedExpressions | starNamedExpression | assignmentExpression | namedExpression | disjunction
  | conjunction | inversion | comparison | comparisonPair | bitwiseOr | bitwiseXor | bitwiseAnd | shift
  | sum | term | factor | power | awaitPrimary | primary | slices | slice | atom | group
  | lambda | lambdaParameters | lambdaParameterList | lambdaSlashPlain | lambdaSlashDefault
  | lambdaStarred | lambdaKeywords | lambdaPlain | lambdaDefault | lambdaMaybe | lambdaParameter
  | strings | list | tuple | tupleItems | set | dict | pairs | starredPair | pair | forClauses | forClause
  | listComprehension | setComprehension | generator | dictComprehension | arguments | args | keywords
  | starred | keywordOrStarred | keywordOrDoubleStarred
  | starTargets | targetList | targetTuple | starTarget | targetStarAtom | starAtom | singleTarget
  | singlePartTarget | targetPrimary | targetAhead | deleteTargets | deleteTarget | deleteAtom
  deriving DecidableEq, Repr, Hashable

/-- What a part of an alternative matches. A choice has alternatives of its own, each with the number of
the part that is its value. -/
inductive Peg where
  | rule (r : Rule)
  | token (spelling : String)
  | soft (word : String)
  | anySoft
  | kind (k : TokenKind)
  | forced (spelling : String)
  | opt (p : Peg)
  | many (p : Peg)
  | several (p : Peg)
  | separated (separator p : Peg)
  | ahead (p : Peg)
  | notAhead (p : Peg)
  | cut
  | choice (alternatives : List (Nat × List Peg))

instance : Coe String Peg := ⟨.token⟩

def ref (r : Rule) : Peg := .rule r

def bad (m : Mistake) : Peg := .rule (.mistake m)

def aName : Peg := .kind .name

def lineEnd : Peg := .kind .newline

def noBlock : List Peg := [lineEnd, .notAhead (.kind .indent)]

def Peg.either (ps : List Peg) : Peg := .choice (ps.map fun p => (0, [p]))

def Peg.inOrder (value : Nat) (ps : List Peg) : Peg := .choice [(value, ps)]

/-- What an alternative has matched: a value for each part, the line it begins in, and the number of
brackets that are open after it. -/
structure Matched where
  values : List Node
  line : Nat
  depth : Nat

inductive Reaction where
  | value (n : Node)
  /-- The rule does not match. -/
  | reject
  /-- A complaint, about a line or about the last token that was looked at. -/
  | complain (line : Option Nat) (message : String)
  /-- The value of adjacent text tokens, which have to be checked. -/
  | texts (tokens : List Node)

abbrev Action := Matched → Reaction

structure Alternative where
  parts : List Peg
  action : Action

namespace Matched

def get (m : Matched) (i : Nat) : Node := m.values.getD i default

/-- The values of parts; those of repeated parts stand side by side. -/
def collect (m : Matched) (parts : List Nat) : List Node :=
  parts.flatMap fun i =>
    match m.get i with
    | .mk .group _ _ inner => inner
    | n => [n]

end Matched

def pick (i : Nat) : Action := fun m => .value (m.get i)

def plain : Action := fun m => .value (.mk .token m.line "" [])

def make (kind : NodeKind) (parts : List Nat) : Action := fun m =>
  .value (.mk kind m.line "" (m.collect parts))

def word (kind : NodeKind) (text : String) : Action := fun m => .value (.mk kind m.line text [])

def complainAt (i : Nat) (message : Matched → String) : Action := fun m =>
  .complain (some (m.get i).line) (message m)

def blame (i : Nat) (message : String) : Action := complainAt i fun _ => message

def blameHere (message : String) : Action := fun _ => .complain none message

/-- A complaint that a block is missing after a statement, whose line is that of a part. -/
def missingBlock (statement : String) (i : Nat) : Action := fun m =>
  .complain none ("expected an indented block after " ++ statement ++ " on line "
    ++ toString (m.get i).line)

/-- A complaint about what cannot be a target in a part; without such a thing the rule does not match. -/
def blameTarget (use : TargetUse) (i : Nat) : Action := fun m =>
  match invalidTarget use (m.get i) with
  | some n =>
    .complain (some n.line)
      ((if use = .delete then "cannot delete " else "cannot assign to ") ++ n.describe)
  | none => .reject

namespace Rule

def isRemembered : Rule → Bool
  | simpleStatement | block | closedPattern | starPattern | expression | starExpression | disjunction
  | conjunction | inversion | factor | awaitPrimary | strings | arguments | starTarget | targetStarAtom
  | deleteTarget | mistake .namedExpression => true
  | _ => false

def isLeftRecursive : Rule → Bool
  | dottedName | attr | bitwiseOr | bitwiseXor | bitwiseAnd | shift | sum | term | primary
  | targetPrimary => true
  | _ => false

end Rule
end FenceCheck.Program
