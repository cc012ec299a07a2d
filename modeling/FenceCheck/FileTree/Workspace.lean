import FenceCheck.FileTree.Lookup
import FenceCheck.Text.Lines

/-!
A file tree together with a working directory, and the operations on it. Each changes one node or is
refused and changes nothing; a refusal names the path it was given.
-/
namespace FenceCheck
open FenceCheck.Text

/-- The permissions that a new node does not get, unless a run is told otherwise. -/
def usualMask : Nat := 0o022

/-- The permissions `mode` without those of a mask. -/
def masked (umask mode : Nat) : Nat :=
  mode - (mode &&& umask)

/-- A file tree and the place from which relative paths start. -/
structure Workspace where
  tree : FileTree
  cwd : Location
  deriving DecidableEq, Repr

namespace Workspace

def refused (p : Path) (refusal : Refusal) : Fault :=
  .system ⟨refusal, p.text, none⟩

def spot (w : Workspace) (follow : Bool) (p : Path) : Except Fault Spot :=
  if p.hasNul then .error .nulInName
  else (w.tree.spot w.cwd follow p).mapError (refused p)

def find (w : Workspace) (p : Path) : Except Fault Location :=
  if p.hasNul then .error .nulInName
  else (w.tree.find w.cwd p).mapError (refused p)

def node (w : Workspace) (p : Path) : Except Fault Node := do
  match w.tree.get? (← w.find p) with
  | some n => return n
  | none => throw (refused p .notFound)

def meansAbsent : Refusal → Bool
  | .notFound | .notDirectory | .loop => true
  | _ => false

def isKind (w : Workspace) (kind : Node → Bool) (p : Path) : Except Fault Bool :=
  match w.node p with
  | .ok n => .ok (kind n)
  | .error (.system e) => if meansAbsent e.refusal then .ok false else .error (.system e)
  | .error .nulInName => .ok false
  | .error f => .error f

def isFile (w : Workspace) (p : Path) : Except Fault Bool :=
  w.isKind (fun | .file _ _ => true | _ => false) p

def isDirectory (w : Workspace) (p : Path) : Except Fault Bool :=
  w.isKind (fun | .directory _ => true | _ => false) p

def readBytes (w : Workspace) (p : Path) : Except Fault (List UInt8) := do
  match ← w.node p with
  | .file _ bytes => return bytes
  | _ => throw (refused p .isDirectory)

/-- The text of the file that a path leads to, with unified line ends. -/
def readText (w : Workspace) (p : Path) : Except Fault (List Char) := do
  let bytes ← w.readBytes p
  let text ← (Utf8.decode bytes).mapError .notText
  return unifyLineEnds text

/-- The workspace with `node` at a location. -/
def put (w : Workspace) (at_ : Location) (node : Node) : Workspace :=
  { w with tree := w.tree.put at_ node }

def makeDirectory (w : Workspace) (p : Path) (umask : Nat := usualMask) :
    Except Fault Workspace := do
  match ← w.spot false p with
  | .taken _ => throw (refused p .exists)
  | .vacant l => return w.put l (.directory (masked umask 0o777))

/-- Makes an empty file where nothing is yet, and tells the place. -/
def createFile (w : Workspace) (p : Path) (mode : Nat) : Except Fault (Workspace × Location) := do
  match ← w.spot false p with
  | .taken _ => throw (refused p .exists)
  | .vacant l => return (w.put l (.file mode []), l)

/-- Gives the file at a place new bytes, as one does who has it open and needs no path to it. -/
def fill (w : Workspace) (at_ : Location) (bytes : List UInt8) : Workspace :=
  match w.tree.get? at_ with
  | some (.file mode _) => w.put at_ (.file mode bytes)
  | _ => w

/-- Gives the file that a path leads to new bytes, and makes it if it is not there. -/
def writeBytes (w : Workspace) (p : Path) (bytes : List UInt8) : Except Fault Workspace := do
  match ← w.spot true p with
  | .vacant l => return w.put l (.file 0o644 bytes)
  | .taken l =>
    match w.tree.get? l with
    | some (.file mode _) => return w.put l (.file mode bytes)
    | _ => throw (refused p .isDirectory)

def setMode (w : Workspace) (p : Path) (mode : Nat) : Except Fault Workspace := do
  let l ← w.find p
  match w.tree.get? l with
  | some (.file _ bytes) => return w.put l (.file mode bytes)
  | some (.directory _) => return w.put l (.directory mode)
  | _ => throw (refused p .notFound)

def makeLink (w : Workspace) (p : Path) (target : String) : Except Fault Workspace := do
  let fault (r : Refusal) : Fault := .system ⟨r, target, some p.text⟩
  if p.hasNul then throw .nulInName
  if target = "" then throw (fault .notFound)
  match ← (w.tree.spot w.cwd false p).mapError fault with
  | .taken _ => throw (fault .exists)
  | .vacant l => return w.put l (.link target)

def unlink (w : Workspace) (p : Path) : Except Fault Workspace := do
  match ← w.spot false p with
  | .vacant _ => throw (refused p .notFound)
  | .taken l =>
    if w.tree.isDirectoryAt l then throw (refused p .isDirectory)
    else return { w with tree := w.tree.erase l }

def removeAll (w : Workspace) (p : Path) : Except Fault Workspace := do
  match ← w.spot false p with
  | .vacant _ => throw (refused p .notFound)
  | .taken l => return { w with tree := w.tree.prune l }

/-- Whether the last component of a path names an entry of a directory. -/
def namesEntry (p : Path) : Bool :=
  match p.parts.getLast? with
  | some name => name ≠ ".."
  | none => false

/-- Moves a file over whatever stands at the path `q`, unless that is a directory. -/
def rename (w : Workspace) (p q : Path) : Except Fault Workspace := do
  let fault (r : Refusal) : Fault := .system ⟨r, p.text, some q.text⟩
  if p.hasNul || q.hasNul then throw .nulInName
  match (w.tree.spot w.cwd false p, w.tree.spot w.cwd false q) with
  | (.error r, _) | (_, .error r) => throw (fault r)
  | (.ok source, .ok target) =>
    if !namesEntry q then throw (fault .busy)
    else match w.tree.get? source.location with
      | none => throw (fault .notFound)
      | some node =>
        if w.tree.isDirectoryAt target.location then throw (fault .isDirectory)
        else if source.location = target.location then return w
        else return { w with tree := (w.tree.erase source.location).put target.location node }

/-- Makes a directory and the directories it stands in; one that is there already is fine. -/
def makeDirectories (w : Workspace) (p : Path) (umask : Nat := usualMask) :
    Workspace × Except Fault Unit :=
  let orPresent (w : Workspace) (f : Fault) : Workspace × Except Fault Unit :=
    match w.isDirectory p with
    | .ok true => (w, .ok ())
    | .ok false => (w, .error f)
    | .error g => (w, .error g)
  match w.makeDirectory p umask with
  | .ok w => (w, .ok ())
  | .error (.system e) =>
    if e.refusal ≠ .notFound then orPresent w (.system e)
    else if _h : p.parts = [] then (w, .error (.system e))
    else
      match makeDirectories w p.parent umask with
      | (w, .error f) => (w, .error f)
      | (w, .ok ()) =>
        match w.makeDirectory p umask with
        | .ok w => (w, .ok ())
        | .error (.system e) =>
          if e.refusal = .notFound then (w, .error (.system e)) else orPresent w (.system e)
        | .error f => (w, .error f)
  | .error f => (w, .error f)
termination_by p.parts.length
decreasing_by
  simp only [Path.parent, List.length_dropLast]
  have := List.length_pos_iff.mpr _h
  omega

end Workspace
end FenceCheck
