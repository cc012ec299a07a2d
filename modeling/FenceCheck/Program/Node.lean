import FenceCheck.Program.Token

/-!
What the grammar builds of a program: just enough of each expression to say what it is and which of its
parts could not be assigned to.
-/
namespace FenceCheck.Program

inductive NodeKind where
  | token
  | name
  | attribute
  | subscript
  | starred
  | list
  | tuple
  | lambda
  | call
  | operation
  | comparison
  | membership
  | conditional
  | generator
  | yielded
  | awaited
  | listComprehension
  | setComprehension
  | dictComprehension
  | dict
  | set
  | formatted
  | literal
  | constant
  | assigned
  /-- The arguments of a call; `unpacked` if a mapping is unpacked among those with names. -/
  | arguments (unpacked : Bool)
  | unpacking
  | group
  deriving DecidableEq, Repr, Inhabited

/-- A node: its first line, its text if it is a token, and its parts. -/
inductive Node where
  | mk (kind : NodeKind) (line : Nat) (text : String) (parts : List Node)
  deriving Repr, Inhabited

namespace Node

def kind : Node → NodeKind
  | mk k _ _ _ => k

def line : Node → Nat
  | mk _ l _ _ => l

def text : Node → String
  | mk _ _ t _ => t

def parts : Node → List Node
  | mk _ _ _ ps => ps

def describe (n : Node) : String :=
  match n.kind with
  | .attribute => "attribute"
  | .subscript => "subscript"
  | .starred => "starred"
  | .name => "name"
  | .list => "list"
  | .tuple => "tuple"
  | .lambda => "lambda"
  | .call => "function call"
  | .operation => "expression"
  | .generator => "generator expression"
  | .yielded => "yield expression"
  | .awaited => "await expression"
  | .listComprehension => "list comprehension"
  | .setComprehension => "set comprehension"
  | .dictComprehension => "dict comprehension"
  | .dict => "dict literal"
  | .set => "set display"
  | .formatted => "f-string expression"
  | .constant => n.text
  | .literal => "literal"
  | .comparison | .membership => "comparison"
  | .conditional => "conditional expression"
  | .assigned => "named expression"
  | .token | .arguments _ | .unpacking | .group => n.text

end Node

inductive TargetUse where
  | assign
  | delete
  | loop
  deriving DecidableEq, Repr

mutual

def invalidTarget (use : TargetUse) : Node → Option Node
  | .mk kind line text parts =>
    match kind with
    | .list | .tuple => invalidAmong use parts
    | .starred => if use = .delete then some (.mk kind line text parts) else invalidFirst use parts
    | .membership => if use = .loop then invalidFirst use parts else some (.mk kind line text parts)
    | .comparison => if use = .loop then none else some (.mk kind line text parts)
    | .name | .subscript | .attribute => none
    | _ => some (.mk kind line text parts)

def invalidAmong (use : TargetUse) : List Node → Option Node
  | [] => none
  | n :: rest => (invalidTarget use n).orElse fun _ => invalidAmong use rest

def invalidFirst (use : TargetUse) : List Node → Option Node
  | [] => none
  | n :: _ => invalidTarget use n

end

def isFormerCommand (n : Node) : Bool :=
  n.kind = .name && (n.text = "print" || n.text = "exec")

end FenceCheck.Program
