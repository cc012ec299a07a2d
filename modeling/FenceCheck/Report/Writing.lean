import FenceCheck.FileTree.Canonical
import FenceCheck.Report.Collection

/-!
Writing a report. The text goes into a fresh file beside the report, which takes the report's place in
one step, so that a reader sees the old report or the new one. Each stage is one operation on the file
tree. After a refusal by the operating system the fresh file is removed again; after any other fault,
which is that the text cannot be encoded, it stays.
-/
namespace FenceCheck.Report
open FenceCheck.Text

/-- A report on its way to a file. -/
structure Writing where
  out : Path
  text : List CodePoint
  /-- Names to try for the fresh file. -/
  tokens : List String

/-- The bytes of the text, if it can be encoded. -/
def Writing.encoded (job : Writing) : Except Fault (List UInt8) :=
  (Utf8.encodePoints job.text).mapError .notEncoded

/-- The fresh file of a writing: its name, and the place where it was made. -/
structure Temporary where
  path : Path
  place : Location

/-- How far a writing is. -/
inductive Stage where
  | start
  | prepared
  | created (t : Temporary)
  | written (t : Temporary)
  | ready (t : Temporary)
  | cleaning (t : Temporary) (f : Fault)
  | done
  | failed (f : Fault)
  /-- It has failed, and its fresh file was left behind. -/
  | abandoned (t : Temporary) (f : Fault)

/-- The stage after a fault. Where a fresh file is there, it has to be removed first, but that is seen to
only after refusals. -/
def Stage.meet (f : Fault) : Stage → Stage
  | .start | .prepared => .failed f
  | .created t | .written t | .ready t => if f.isRefusal then .cleaning t f else .abandoned t f
  | s => s

/-- Permissions of a report that was not there before. -/
def freshMode (umask : Nat := usualMask) : Nat :=
  masked umask 0o666

/-- Permissions of a file that only its owner may read. -/
def privateMode : Nat := 0o600

/-- The absolute path without double dots, as the text of a path alone suggests it. -/
def absolute (w : Workspace) (p : Path) : Path :=
  match p.anchor with
  | .relative => ⟨.root, FileTree.collapse (w.cwd ++ p.parts)⟩
  | a => ⟨a, FileTree.collapse p.parts⟩

namespace Writing

/-- The fresh file beside the report. -/
def temporary (job : Writing) (w : Workspace) (token : String) : Path :=
  (absolute w job.out.parent).child ("." ++ job.out.name ++ "." ++ token ++ ".tmp")

/-- Makes the fresh file under the first name that is free. -/
def create (job : Writing) (w : Workspace) : List String → Workspace × Stage
  | [] => (w, .failed .noFreshName)
  | token :: more =>
    let p := job.temporary w token
    match w.createFile p privateMode with
    | .ok (w, place) => (w, .created ⟨p, place⟩)
    | .error (.system e) =>
      if e.refusal = .exists then create job w more else (w, .failed (.system e))
    | .error f => (w, .failed f)

/-- The permissions that the report keeps, or gets if it is not there yet. -/
def mode (job : Writing) (w : Workspace) (umask : Nat := usualMask) : Except Fault Nat :=
  match w.node job.out with
  | .ok (.file mode _) => .ok mode
  | .ok (.directory mode) => .ok mode
  | .ok (.link _) => .ok (freshMode umask)
  | .error (.system e) =>
    if e.refusal = .notFound then .ok (freshMode umask) else .error (.system e)
  | .error f => .error f

/-- The stage after an operation: the next one, or that after its fault. -/
def proceed (w : Workspace) (now next : Stage) : Except Fault Workspace → Workspace × Stage
  | .ok w => (w, next)
  | .error f => (w, now.meet f)

/-- The next stage. -/
def advance (job : Writing) (w : Workspace) (s : Stage) (umask : Nat := usualMask) :
    Workspace × Stage :=
  match s with
  | .start =>
    match w.makeDirectories job.out.parent umask with
    | (w, .ok ()) => (w, .prepared)
    | (w, .error f) => (w, .failed f)
  | .prepared => create job w job.tokens
  | .created t =>
    match job.encoded with
    | .ok bytes => (w.fill t.place bytes, .written t)
    | .error f => (w, (Stage.created t).meet f)
  | .written t => proceed w (.written t) (.ready t) (job.mode w umask >>= w.setMode t.path)
  | .ready t => proceed w (.ready t) .done (w.rename t.path job.out)
  | .cleaning t f => proceed w (.failed f) (.failed f) (w.unlink t.path)
  | .done => (w, .done)
  | .failed f => (w, .failed f)
  | .abandoned t f => (w, .abandoned t f)

/-- The stage after `n` more. -/
def advanceBy (job : Writing) (n : Nat) (w : Workspace) (s : Stage) (umask : Nat := usualMask) :
    Workspace × Stage :=
  match n with
  | 0 => (w, s)
  | n + 1 =>
    let (w, s) := job.advance w s umask
    job.advanceBy n w s umask

/-- All stages of a writing. -/
def run (job : Writing) (w : Workspace) (umask : Nat := usualMask) :
    Workspace × Except Fault Unit :=
  match job.advanceBy 6 w .start umask with
  | (w, .failed f) => (w, .error f)
  | (w, .abandoned _ f) => (w, .error f)
  | (w, _) => (w, .ok ())

end Writing

/-- Refusals of the operating system are told as a report that could not be written. -/
def writeFailure (out : Path) (f : Fault) : Failure :=
  if f.isRefusal then .run (.write ("cannot write report " ++ out.text ++ ": " ++ f.message))
  else .fault f

/-- The writing of a report, if the report is as its schema demands. -/
def Writing.ofReport (report : List Entry) (out : Path) (tokens : List String) :
    Outcome Writing := do
  return ⟨out, ← serialize report, tokens⟩

/-- Writes a report; one that is not as its schema demands is not written at all. -/
def writeReport (w : Workspace) (tokens : List String) (report : List Entry) (out : Path)
    (umask : Nat := usualMask) : Workspace × Outcome Path :=
  match Writing.ofReport report out tokens with
  | .error e => (w, .error e)
  | .ok job =>
    match job.run w umask with
    | (w, .ok ()) => (w, .ok out)
    | (w, .error f) => (w, .error (writeFailure out f))

/-- A report was written. -/
def writtenEvent (out : Path) (s : Summary) : Log.Event :=
  event .info "written" [("path", .text out.text), ("documents", .nat s.documents),
    ("skipped", .nat s.skipped), ("blocks", .nat s.blocks), ("failures", .nat s.report.length)]

/-- Collects a report and writes it. -/
def scan (w : Workspace) (tokens : List String) (plan : Plan) (paths : List Path) (out : Path)
    (umask : Nat := usualMask) : Workspace × Trace Summary :=
  let collected := collect w plan paths
  match collected.outcome with
  | .error e => (w, ⟨collected.events, .error e⟩)
  | .ok summary =>
    match writeReport w tokens summary.report out umask with
    | (w, .error e) => (w, ⟨collected.events, .error e⟩)
    | (w, .ok _) => (w, ⟨collected.events ++ [writtenEvent out summary], .ok summary⟩)

/-- Collects a report, writes it, and answers the report alone. -/
def run (w : Workspace) (tokens : List String) (plan : Plan) (paths : List Path) (out : Path)
    (umask : Nat := usualMask) : Workspace × Trace (List Entry) :=
  let (w, scanned) := scan w tokens plan paths out umask
  (w, do return (← scanned).report)

end FenceCheck.Report
