/-!
Name patterns. A star stands for any run of characters, a question mark for one character, and brackets
for one character out of a set, which ranges may describe and a leading exclamation mark turns into its
complement. A bracket that is never closed stands for itself. A pattern is cut at its stars; between two
stars the first place that fits is as good as any later one, so matching never goes back.
-/
namespace FenceCheck

/-- A piece of a pattern that stands for exactly one character. -/
inductive GlobPiece where
  | exactly (c : Char)
  | any
  | oneOf (complement : Bool) (ranges : List (Char × Char))
  deriving DecidableEq, Repr

/-- The runs of pieces between the stars of a pattern: `n` stars leave `n + 1` runs. -/
structure Glob where
  first : List GlobPiece
  afterStars : List (List GlobPiece)
  deriving DecidableEq, Repr

def GlobPiece.accepts : GlobPiece → Char → Bool
  | .exactly d, c => c = d
  | .any, _ => true
  | .oneOf complement ranges, c => (ranges.any fun (low, high) => low ≤ c && c ≤ high) != complement

namespace Glob

/-- The rest of a text after a run of pieces, if the text starts with it. -/
def takeRun : List GlobPiece → List Char → Option (List Char)
  | [], s => some s
  | _ :: _, [] => none
  | p :: ps, c :: s => if p.accepts c then takeRun ps s else none

/-- The rest of a text after the first place where a run of pieces fits. -/
def findRun (ps : List GlobPiece) : List Char → Option (List Char)
  | [] => takeRun ps []
  | c :: s =>
    match takeRun ps (c :: s) with
    | some rest => some rest
    | none => findRun ps s

def endsWith (ps : List GlobPiece) (s : List Char) : Bool :=
  ps.length ≤ s.length && takeRun ps (s.drop (s.length - ps.length)) = some []

def matchesRuns : List (List GlobPiece) → List Char → Bool
  | [], s => s.isEmpty
  | [last], s => endsWith last s
  | ps :: more, s =>
    match findRun ps s with
    | some rest => matchesRuns more rest
    | none => false

def accepts (g : Glob) (s : List Char) : Bool :=
  match takeRun g.first s with
  | none => false
  | some rest => matchesRuns g.afterStars rest

/-- Cuts the inside of brackets at the hyphens that make ranges: the first one has a character before
it, and any later one at least two after the one before. -/
def rangeChunks (done : List Char) (wait : Nat) : List Char → List (List Char)
  | [] => [done.reverse]
  | c :: rest =>
    match wait with
    | 0 => if c = '-' then done.reverse :: rangeChunks [] 2 rest else rangeChunks (c :: done) 0 rest
    | wait + 1 => rangeChunks (c :: done) wait rest

def keepLastHyphen : List (List Char) → List (List Char)
  | [chunk, []] => [chunk ++ ['-']]
  | chunk :: rest => chunk :: keepLastHyphen rest
  | [] => []

/-- Drops the ranges that run backwards, the last of them first. -/
def dropEmptyRanges : List (List Char) → List (List Char)
  | [] => []
  | chunk :: rest =>
    match dropEmptyRanges rest with
    | next :: more =>
      match chunk.getLast?, next with
      | some low, high :: others =>
        if high < low then (chunk.dropLast ++ others) :: more else chunk :: next :: more
      | _, _ => chunk :: next :: more
    | [] => [chunk]

/-- The single characters and the ranges of chunks: the last character of one and the first of the next
bound a range. -/
def rangesFrom (chunk : List Char) : List (List Char) → List (Char × Char)
  | [] => chunk.map fun c => (c, c)
  | next :: rest =>
    match chunk.getLast?, next with
    | some low, high :: others =>
      (chunk.dropLast.map fun c => (c, c)) ++ (low, high) :: rangesFrom others rest
    | _, _ => (chunk.map fun c => (c, c)) ++ rangesFrom next rest

/-- The set that chunks describe. The exclamation mark is looked for after backward ranges are gone; a
hyphen that it leaves in front is a character of its own. -/
def setOfChunks : List (List Char) → GlobPiece
  | ['!'] :: next :: rest => .oneOf true (rangesFrom ('-' :: next) rest)
  | ('!' :: chunk) :: rest => .oneOf true (rangesFrom chunk rest)
  | chunk :: rest => .oneOf false (rangesFrom chunk rest)
  | [] => .oneOf false []

def setOf (inside : List Char) : GlobPiece :=
  let head := if inside.head? = some '!' then 2 else 1
  setOfChunks (dropEmptyRanges (keepLastHyphen
    (rangeChunks (inside.take head).reverse 0 (inside.drop head))))

/-- The inside of brackets and what follows them; a closing bracket at the start is part of the inside. -/
def takeBrackets (s : List Char) : Option (List Char × List Char) :=
  let (head, s) := match s with
    | '!' :: ']' :: rest => (['!', ']'], rest)
    | '!' :: rest => (['!'], rest)
    | ']' :: rest => ([']'], rest)
    | rest => ([], rest)
  match s.dropWhile (· ≠ ']') with
  | [] => none
  | _ :: after => some (head ++ s.takeWhile (· ≠ ']'), after)

def push (p : GlobPiece) (g : Glob) : Glob :=
  { g with first := p :: g.first }

/-- A star more in front; stars side by side are one. -/
def pushStar (g : Glob) : Glob :=
  if g.first = [] ∧ g.afterStars ≠ [] then g else ⟨[], g.first :: g.afterStars⟩

/-- Reads a pattern, at most `fuel` pieces of it. -/
def parseFrom : Nat → List Char → Glob
  | 0, _ => ⟨[], []⟩
  | _, [] => ⟨[], []⟩
  | fuel + 1, '*' :: rest => (parseFrom fuel rest).pushStar
  | fuel + 1, '?' :: rest => (parseFrom fuel rest).push .any
  | fuel + 1, '[' :: rest =>
    match takeBrackets rest with
    | some (inside, after) => (parseFrom fuel after).push (setOf inside)
    | none => (parseFrom fuel rest).push (.exactly '[')
  | fuel + 1, c :: rest => (parseFrom fuel rest).push (.exactly c)

def parse (pattern : String) : Glob :=
  parseFrom pattern.length pattern.toList

end Glob

def fitsPattern (pattern name : String) : Bool :=
  (Glob.parse pattern).accepts name.toList

end FenceCheck
