import FenceCheck.Report.Writing

/-!
Reports that are written to files at the same time. Whoever is chosen makes its next step, which is one
operation on the files, or is refused it by the operating system, or stops for good. What is not one
operation can be left half done: the directories above a report, and the text of a fresh file.
-/
namespace FenceCheck.Report

/-- What may happen to the `i`-th writing. -/
inductive Act (ι : Type) where
  /-- It makes its next step. -/
  | advance (i : ι)
  /-- Of the directories above the report, it makes the one with so many components. -/
  | ascend (i : ι) (depth : Nat)
  /-- So many bytes of the text reach the fresh file. -/
  | spill (i : ι) (count : Nat)
  /-- The operating system refuses its next step. -/
  | refuse (i : ι) (e : SystemError)
  /-- It stops for good. -/
  | crash (i : ι)

/-- The writing to which something happens. -/
def Act.subject {ι : Type} : Act ι → ι
  | .advance i | .ascend i _ | .spill i _ | .refuse i _ | .crash i => i

/-- The files and all writings, with those that put their report in place, the latest first. -/
structure Scene (ι : Type) where
  workspace : Workspace
  stage : ι → Stage
  crashed : ι → Bool
  renamed : List ι

namespace Scene
variable {ι : Type} [DecidableEq ι]

/-- Nothing has happened yet. -/
def opening (ι : Type) (w : Workspace) : Scene ι :=
  ⟨w, fun _ => .start, fun _ => false, []⟩

/-- The scene with another workspace and another stage of one writing. -/
def move (s : Scene ι) (i : ι) (w : Workspace) (stage : Stage) : Scene ι :=
  { s with workspace := w, stage := fun j => if j = i then stage else s.stage j }

/-- The writings that put their report in place, after a step between two stages. -/
def record (i : ι) (renamed : List ι) : Stage → Stage → List ι
  | .ready _, .done => i :: renamed
  | _, _ => renamed

/-- What becomes of the scene by an act of a writing that goes on. -/
def perform (jobs : ι → Writing) (s : Scene ι) : Act ι → Scene ι
  | .advance i =>
    let next := (jobs i).advance s.workspace (s.stage i)
    { s.move i next.1 next.2 with renamed := record i s.renamed (s.stage i) next.2 }
  | .ascend i depth =>
    match s.stage i with
    | .start =>
      let directory := (jobs i).out.parent
      match s.workspace.makeDirectory { directory with parts := directory.parts.take depth } with
      | .ok w => { s with workspace := w }
      | .error _ => s
    | _ => s
  | .spill i count =>
    match s.stage i with
    | .created t =>
      match (jobs i).encoded with
      | .ok bytes => { s with workspace := s.workspace.fill t.place (bytes.take count) }
      | .error _ => s
    | _ => s
  | .refuse i e => s.move i s.workspace ((s.stage i).meet (.system e))
  | .crash i => { s with crashed := fun j => if j = i then true else s.crashed j }

/-- What becomes of the scene by an act; of writings that crashed nothing comes any more. -/
def act (jobs : ι → Writing) (s : Scene ι) (a : Act ι) : Scene ι :=
  if s.crashed a.subject then s else s.perform jobs a

/-- The scene after acts. -/
def after (jobs : ι → Writing) (s : Scene ι) (acts : List (Act ι)) : Scene ι :=
  acts.foldl (act jobs) s

end Scene
end FenceCheck.Report
