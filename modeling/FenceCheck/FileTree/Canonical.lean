import FenceCheck.FileTree.Lookup

/-!
Canonical paths: absolute, and free of links and double dots. Components that lead nowhere are kept as
they are. A link that leads back to itself is kept as well, with all that follows it; if the result
still leads round in a circle, the path has no canonical form. That a link is met again is told by the
text of the path to it, which is relative as long as the path and the targets of its links are.
-/
namespace FenceCheck.FileTree

/-- The components without double dots, each of which takes away the one before. -/
def collapse (parts : List String) : Location :=
  parts.foldl (fun done name => if name = ".." then done.dropLast else done ++ [name]) []

/-- How the text of a path begins: at the root, or at the working directory after some double dots. -/
inductive Outset where
  | root
  | above (dots : Nat)
  deriving DecidableEq, Repr

/-- A place by the text of a path to it that goes through no links. -/
structure Named where
  outset : Outset
  place : Location
  deriving DecidableEq, Repr

namespace Named

/-- Where a path starts. -/
def start (cwd : Location) (p : Path) : Named where
  outset :=
    match p.anchor with
    | .relative => .above 0
    | _ => .root
  place := startOf cwd p

/-- The place above. Where no component is left to take away, a double dot is put in front. -/
def up (cwd : Location) (here : Named) : Named where
  outset :=
    match here.outset with
    | .root => .root
    | .above dots =>
      if here.place.length ≤ cwd.length - dots then .above (dots + 1) else .above dots
  place := here.place.dropLast

def down (here : Named) (names : List String) : Named :=
  { here with place := here.place ++ names }

/-- Where the target of a link starts. -/
def toward (here : Named) (target : String) : Named where
  outset :=
    match Path.anchorOf target.toList with
    | .relative => here.outset
    | _ => .root
  place := targetStart here.place target

end Named

/-- Resolves the components `rest` from the place `here`, within the targets of the links `opened`, of
which at most `depth` more are opened. The flag tells whether all was resolved. -/
def settle (t : FileTree) (cwd : Location) (depth : Nat) (opened : List Named) (here : Named)
    (rest : List String) : Bool × Named :=
  match rest with
  | [] => (true, here)
  | name :: rest =>
    if name = "." then settle t cwd depth opened here rest
    else if name = ".." then settle t cwd depth opened (here.up cwd) rest
    else
      let next := here.down [name]
      match t.get? next.place with
      | some (.link target) =>
        match depth with
        | 0 => (false, next.down rest)
        | depth + 1 =>
          if next ∈ opened then (false, next.down rest)
          else
            match settle t cwd depth (next :: opened) (here.toward target) (targetParts target) with
            | (true, there) => settle t cwd (depth + 1) opened there rest
            | (false, there) => (false, there.down rest)
      | _ => settle t cwd depth opened next rest
termination_by (depth, rest.length)

/-- How many links can be open at a time, unless they climb above the root: each for every text of a path
to it. -/
def openLimit (t : FileTree) (cwd : Location) : Nat :=
  t.entries.length * (cwd.length + 2)

def canonical (t : FileTree) (cwd : Location) (p : Path) : Except Fault Path :=
  if p.hasNul then .error .nulInName
  else
    let found := t.settle cwd (t.openLimit cwd + 1) [] (.start cwd p) p.parts
    let result : Path := ⟨.root, collapse found.2.place⟩
    match t.spot [] true result with
    | .error .loop => .error (.linkLoop result.text)
    | _ => .ok result

end FenceCheck.FileTree
