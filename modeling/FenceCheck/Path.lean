/-!
Paths as the program names files: an anchor and components. Empty components and single dots vanish
when a text is read as a path, while double dots stay. Components are Unicode texts; a file whose name is
none has no path here.
-/
namespace FenceCheck

/-- Where a path starts: at the working directory, at the root, or at the root with two slashes. -/
inductive Anchor where
  | relative
  | root
  | doubled
  deriving DecidableEq, Repr, Inhabited

def Anchor.text : Anchor → String
  | .relative => ""
  | .root => "/"
  | .doubled => "//"

structure Path where
  anchor : Anchor
  parts : List String
  deriving DecidableEq, Repr, Inhabited

namespace Path

def splitAtSlashes : List Char → List (List Char)
  | [] => [[]]
  | c :: rest =>
    if c = '/' then [] :: splitAtSlashes rest
    else match splitAtSlashes rest with
      | [] => [[c]]
      | piece :: more => (c :: piece) :: more

/-- The anchor of a text: exactly two slashes in front are kept apart from one or many. -/
def anchorOf : List Char → Anchor
  | '/' :: '/' :: '/' :: _ => .root
  | '/' :: '/' :: _ => .doubled
  | '/' :: _ => .root
  | _ => .relative

def componentsOf (s : List Char) : List String :=
  ((splitAtSlashes s).filter fun piece => piece ≠ [] ∧ piece ≠ ['.']).map String.ofList

def ofText (s : String) : Path :=
  ⟨anchorOf s.toList, componentsOf s.toList⟩

/-- The text of a path; the path without components is a dot. -/
def text (p : Path) : String :=
  if p.parts = [] ∧ p.anchor = .relative then "."
  else p.anchor.text ++ String.intercalate "/" p.parts

def name (p : Path) : String :=
  p.parts.getLastD ""

def parent (p : Path) : Path :=
  { p with parts := p.parts.dropLast }

/-- The path `q` seen from `p`. -/
def join (p q : Path) : Path :=
  match q.anchor with
  | .relative => { p with parts := p.parts ++ q.parts }
  | _ => q

def child (p : Path) (component : String) : Path :=
  { p with parts := p.parts ++ [component] }

/-- The last dot of a name and what follows it, unless the dot is the first or the last character. -/
def suffixOf (name : List Char) : List Char :=
  let after := name.reverse.takeWhile (· ≠ '.')
  let before := name.reverse.dropWhile (· ≠ '.')
  if after = [] ∨ before.length ≤ 1 then [] else '.' :: after.reverse

def suffix (p : Path) : String :=
  String.ofList (suffixOf p.name.toList)

/-- Whether the text of the path holds a NUL character, which no file name can. -/
def hasNul (p : Path) : Bool :=
  p.parts.any fun c => c.toList.contains '\x00'

/-- The components with the anchor as the first of them, as paths are compared. -/
def sortKey (p : Path) : List String :=
  match p.anchor with
  | .relative => p.parts
  | a => a.text :: p.parts

end Path
end FenceCheck
