import FenceCheck.FileTree.Basic
import FenceCheck.Failure

/-!
How a path leads to a place in a file tree. The walk takes one component after another, leaves a
directory by a double dot, and goes on at the target of a link; a link at the very end is followed or
not, as the caller wishes. At most forty links are followed.
-/
namespace FenceCheck

/-- Where a path leads: to a node, or to a free place in a directory. -/
inductive Spot where
  | taken (at_ : Location)
  | vacant (at_ : Location)
  deriving DecidableEq, Repr

def Spot.location : Spot → Location
  | .taken l => l
  | .vacant l => l

namespace FileTree

def linkLimit : Nat := 40

def nameLimit : Nat := 255

def pathLimit : Nat := 4095

/-- The components of a link's target. A slash at its end asks for a directory, which a single dot
stands for. -/
def targetParts (target : String) : List String :=
  let parts := Path.componentsOf target.toList
  if target.endsWith "/" || target.endsWith "/." then parts ++ ["."] else parts

/-- Where a link leads from: the root for an absolute target, else the link's directory. -/
def targetStart (directory : Location) (target : String) : Location :=
  match Path.anchorOf target.toList with
  | .relative => directory
  | _ => []

/-- Walks the components `rest` from the place `here`. -/
def walk (t : FileTree) (follow : Bool) (links : Nat) (here : Location) (rest : List String) :
    Except Refusal Spot :=
  match rest with
  | [] => .ok (.taken here)
  | name :: rest =>
    if !t.isDirectoryAt here then .error .notDirectory
    else if name = "." then walk t follow links here rest
    else if name = ".." then walk t follow links here.dropLast rest
    else if nameLimit < name.utf8ByteSize then .error .nameTooLong
    else
      let next := here ++ [name]
      match t.get? next with
      | none => if rest = [] then .ok (.vacant next) else .error .notFound
      | some (.link target) =>
        if rest = [] ∧ !follow then .ok (.taken next)
        else match links with
          | 0 => .error .loop
          | links + 1 =>
            if target = "" then .error .notFound
            else walk t follow links (targetStart here target) (targetParts target ++ rest)
      | some _ => walk t follow links next rest
termination_by (links, rest.length)

def startOf (cwd : Location) (p : Path) : Location :=
  match p.anchor with
  | .relative => cwd
  | _ => []

def spot (t : FileTree) (cwd : Location) (follow : Bool) (p : Path) : Except Refusal Spot :=
  if pathLimit < p.text.utf8ByteSize then .error .nameTooLong
  else t.walk follow linkLimit (startOf cwd p) p.parts

/-- The place of the node that a path leads to, links followed. -/
def find (t : FileTree) (cwd : Location) (p : Path) : Except Refusal Location := do
  match ← t.spot cwd true p with
  | .taken l => return l
  | .vacant _ => throw .notFound

end FileTree
end FenceCheck
