/-!
Lines and places in a text. Files are read with every line end (a line feed, a carriage return, or
both) as one line feed; documents are then cut at line feeds alone.
-/
namespace FenceCheck.Text

def unifyLineEnds : List Char → List Char
  | [] => []
  | '\r' :: '\n' :: rest => '\n' :: unifyLineEnds rest
  | c :: rest => (if c = '\r' then '\n' else c) :: unifyLineEnds rest

/-- The pieces between line feeds; one piece more than there are line feeds. -/
def splitAtFeeds : List Char → List (List Char)
  | [] => [[]]
  | c :: rest =>
    if c = '\n' then [] :: splitAtFeeds rest
    else match splitAtFeeds rest with
      | [] => [[c]]
      | line :: more => (c :: line) :: more

def trimReturn (line : List Char) : List Char :=
  match line.getLast? with
  | some '\r' => line.dropLast
  | _ => line

def dropEmptyLast (lines : List (List Char)) : List (List Char) :=
  match lines.getLast? with
  | some [] => lines.dropLast
  | _ => lines

/-- The lines of a document: cut at line feeds only, since other separators may stand in a sample,
an empty piece after the last line feed is no line, and one carriage return ends a line as well. -/
def splitLines (text : List Char) : List (List Char) :=
  (dropEmptyLast (splitAtFeeds text)).map trimReturn

/-- A place in a text: line and column from one, and the offset from zero. -/
structure Place where
  line : Nat
  column : Nat
  offset : Nat
  deriving DecidableEq, Repr

/-- The place at `offset`, lines counted by line feeds. -/
def placeAt (text : List Char) (offset : Nat) : Place :=
  let before := text.take offset
  ⟨before.count '\n' + 1, (before.reverse.takeWhile (· ≠ '\n')).length + 1, offset⟩

end FenceCheck.Text
