/-!
Tokens of a program whose blocks are shown by indentation. Every token remembers its line and how many
brackets are open after it.
-/
namespace FenceCheck.Program

inductive TokenKind where
  | name
  | keyword
  | number
  | text
  | operator
  | newline
  | indent
  | dedent
  | finish
  deriving DecidableEq, Repr, Inhabited

/-- A token with the line it begins in and the number of brackets that are open after it. -/
structure Token where
  kind : TokenKind
  spelling : String
  line : Nat
  depth : Nat
  deriving DecidableEq, Repr, Inhabited

structure Trouble where
  line : Nat
  message : String
  deriving DecidableEq, Repr

def keywords : List String :=
  ["False", "None", "True", "and", "as", "assert", "async", "await", "break", "class", "continue", "def",
    "del", "elif", "else", "except", "finally", "for", "from", "global", "if", "import", "in", "is", "lambda",
    "nonlocal", "not", "or", "pass", "raise", "return", "try", "while", "with", "yield"]

def softKeywords : List String := ["_", "case", "match"]

def operatorsOfTwo : List String :=
  ["!=", "%=", "&=", "**", "*=", "+=", "-=", "->", "//", "/=", ":=", "<<", "<=", "<>", "==", ">=", ">>", "@=",
    "^=", "|="]

def operatorsOfThree : List String := ["**=", "//=", "<<=", ">>="]

end FenceCheck.Program
