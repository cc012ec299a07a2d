import FenceCheck.Path
import FenceCheck.Text.Blank
import FenceCheck.Text.Lines

/-!
Fenced code blocks of a document. A scanner with two states walks once over the lines: outside a block
it looks for a line that starts with the opening marker, inside for a bare closing fence. Blocks do not
nest, and a block that the document leaves open is dropped.
-/
namespace FenceCheck.Fence
open FenceCheck.Text

/-- Where the scanner stands between two lines. -/
inductive State where
  | outside
  | inside
  deriving DecidableEq, Repr, Inhabited

/-- What a line is to the scanner. -/
inductive Event where
  | skip
  | opening
  | content
  | closing
  deriving DecidableEq, Repr

/-- The word for a state. -/
def State.word : State → String
  | .outside => "outside"
  | .inside => "inside"

/-- The word for an event. -/
def Event.word : Event → String
  | .skip => "skip"
  | .opening => "open"
  | .content => "line"
  | .closing => "close"

/-- The state of a word. -/
def State.ofWord? (word : String) : Option State :=
  [State.outside, State.inside].find? (·.word = word)

/-- The mark of a fence. -/
def fence : List Char := "```".toList

/-- What a line starts with that opens a block of the language. -/
def openMarker (language : String) : List Char :=
  fence ++ language.toList

/-- A fence at the start of the line with nothing but blanks after it. -/
def isCloseFence (line : List Char) : Bool :=
  fence.isPrefixOf line && (line.drop fence.length).all isBlank

/-- The transition at one line. Inside a block an opening marker is content. -/
def step (marker : List Char) : State → List Char → State × Event
  | .outside, line => if marker.isPrefixOf line then (.inside, .opening) else (.outside, .skip)
  | .inside, line => if isCloseFence line then (.outside, .closing) else (.inside, .content)

/-- The states after each line, with the events. -/
def steps (marker : List Char) : State → List (List Char) → List (State × Event)
  | _, [] => []
  | s, line :: rest =>
    let r := step marker s line
    r :: steps marker r.1 rest

/-- A code block of a document: its content without surrounding blanks, and the number of the line
that opens it. -/
structure Block where
  file : Path
  content : String
  line : Nat
  deriving DecidableEq, Repr

/-- The content of a block with the given lines. -/
def contentOf (lines : List (List Char)) : String :=
  strip (String.ofList (lines.flatMap (· ++ ['\n'])))

/-- What the scanner holds: its state, the lines of the block being read in reverse, the number of the
line that opened it, and the blocks found in reverse. -/
structure Progress where
  state : State
  buffer : List (List Char)
  openedAt : Nat
  found : List Block

/-- One line with its number. Blocks without content are not kept. -/
def advance (marker : List Char) (file : Path) (p : Progress) (number : Nat) (line : List Char) :
    Progress :=
  let (state, event) := step marker p.state line
  match event with
  | .skip => { p with state }
  | .opening => { p with state, buffer := [], openedAt := number }
  | .content => { p with state, buffer := line :: p.buffer }
  | .closing =>
    let content := contentOf p.buffer.reverse
    if content = "" then { p with state }
    else { p with state, found := ⟨file, content, p.openedAt⟩ :: p.found }

/-- The lines from number `number` on. -/
def scan (marker : List Char) (file : Path) (p : Progress) (number : Nat) :
    List (List Char) → Progress
  | [] => p
  | line :: rest => scan marker file (advance marker file p number line) (number + 1) rest

/-- The blocks of the language in a document, in order. -/
def extract (text : List Char) (file : Path) (language : String) : List Block :=
  (scan (openMarker language) file ⟨.outside, [], 0, []⟩ 1 (splitLines text)).found.reverse

end FenceCheck.Fence
