import FenceCheck.Checker
import FenceCheck.Fence.Scanner
import FenceCheck.FileTree.Workspace
import FenceCheck.Report.Entry
import FenceCheck.Trace

/-!
From documents to a report. Documents are read in order, and their blocks are judged in order; with
several workers all blocks are judged after the last document was read, without several each document's
blocks before the next is read. Either way the report has the same order.
-/
namespace FenceCheck.Report
open FenceCheck.Text

/-- A document with its text. -/
structure Document where
  path : Path
  text : List Char

/-- Reads a document. -/
def Document.read (w : Workspace) (p : Path) : Except Fault Document := do
  return ⟨p, ← w.readText p⟩

/-- What happens when a document cannot be read. -/
inductive ReadPolicy where
  | abort
  | skip
  deriving DecidableEq, Repr

/-- The word for a policy. -/
def ReadPolicy.word : ReadPolicy → String
  | .abort => "abort"
  | .skip => "skip"

/-- The words for the policies. -/
def ReadPolicy.words : List String := [ReadPolicy.abort.word, ReadPolicy.skip.word]

/-- How documents are collected. -/
structure Plan where
  language : String
  check : Checker
  jobs : Int := 1
  policy : ReadPolicy := .abort

/-- What a collection comes to. -/
structure Summary where
  report : List Entry := []
  documents : Nat := 0
  skipped : Nat := 0
  blocks : Nat := 0
  deriving DecidableEq

/-- An event of this part of the program. -/
def event (level : Log.Level) (action : String) (fields : List (String × Json)) : Log.Event :=
  ⟨level, "report", action, fields⟩

/-- A document was left out. -/
def skipEvent (p : Path) (f : Fault) : Log.Event :=
  event .warn "skip-unreadable" [("path", .text p.text), ("error", .text f.message)]

/-- A document was read. -/
def readEvent (d : Document) : Log.Event :=
  event .debug "read" [("path", .text d.path.text), ("chars", .nat d.text.length)]

/-- The blocks of a document were found. -/
def extractEvent (d : Document) (blocks : List Fence.Block) : Log.Event :=
  event .debug "extract" [("path", .text d.path.text), ("blocks", .nat blocks.length)]

/-- A block failed. -/
def failureEvent (b : Fence.Block) (message : List CodePoint) : Log.Event :=
  event .debug "syntax-error"
    [("path", .text b.file.text), ("line", .nat b.line), ("message", .string message)]

/-- Whether a fault makes a document unreadable: the file system refuses, or the bytes are no text. -/
def isUnreadable : Fault → Bool
  | .system _ | .notText _ => true
  | _ => false

/-- Reads a document, or leaves it out if the policy says so. -/
def readDocument (w : Workspace) (policy : ReadPolicy) (p : Path) : Trace (Option Document) :=
  match Document.read w p with
  | .ok d => do
    Trace.log (readEvent d)
    return some d
  | .error f =>
    if !isUnreadable f then Trace.fail (.fault f)
    else match policy with
      | .skip => do
        Trace.log (skipEvent p f)
        return none
      | .abort => Trace.fail (.run (.read ("cannot read document " ++ p.text ++ ": " ++ f.message)))

/-- The blocks of a document in the language of the plan. -/
def findBlocks (plan : Plan) (d : Document) : Trace (List Fence.Block) := do
  let blocks := Fence.extract d.text d.path plan.language
  Trace.log (extractEvent d blocks)
  return blocks

/-- The blocks with their verdicts, in order. -/
def verdicts (check : Checker) : List Fence.Block → Outcome (List (Fence.Block × Verdict))
  | [] => .ok []
  | b :: rest => do
    let verdict ← validate check b.content
    return (b, verdict) :: (← verdicts check rest)

/-- The blocks that failed, with the messages. -/
def failures (judged : List (Fence.Block × Verdict)) : List (Fence.Block × List CodePoint) :=
  judged.filterMap fun
    | (b, .failed message) => some (b, message)
    | (_, .ok) => none

/-- Makes an entry of each block that failed. -/
def enter : Outcome (List (Fence.Block × Verdict)) → Trace (List Entry)
  | .error e => Trace.fail e
  | .ok judged => do
    let failed := failures judged
    Trace.logAll (failed.map fun (b, message) => failureEvent b message)
    return failed.map fun (b, message) => .ofBlock b.file b.content message

/-- Judges blocks, and makes an entry of each that fails. -/
def judge (check : Checker) (blocks : List Fence.Block) : Trace (List Entry) :=
  enter (verdicts check blocks)

/-- Reads and judges one document after another. -/
def collectEach (w : Workspace) (plan : Plan) (done : Summary) : List Path → Trace Summary
  | [] => return done
  | p :: rest => do
    match ← readDocument w plan.policy p with
    | none => collectEach w plan { done with skipped := done.skipped + 1 } rest
    | some d =>
      let blocks ← findBlocks plan d
      let entries ← judge plan.check blocks
      collectEach w plan { done with
        report := done.report ++ entries
        documents := done.documents + 1
        blocks := done.blocks + blocks.length } rest

/-- Reads all documents: how many there are, and their blocks. -/
def gather (w : Workspace) (plan : Plan) : List Path → Trace (Nat × List Fence.Block)
  | [] => return (0, [])
  | p :: rest => do
    match ← readDocument w plan.policy p with
    | none => gather w plan rest
    | some d =>
      let blocks ← findBlocks plan d
      let (documents, more) ← gather w plan rest
      return (documents + 1, blocks ++ more)

/-- Reads all documents and judges all blocks then, in the way that `judgeAll` does. -/
def collectBatch (w : Workspace) (plan : Plan)
    (judgeAll : List Fence.Block → Outcome (List (Fence.Block × Verdict)))
    (paths : List Path) : Trace Summary := do
  let (documents, blocks) ← gather w plan paths
  let entries ← enter (judgeAll blocks)
  return ⟨entries, documents, paths.length - documents, blocks.length⟩

/-- The report on documents. -/
def collect (w : Workspace) (plan : Plan) (paths : List Path) : Trace Summary :=
  if 1 < plan.jobs then collectBatch w plan (verdicts plan.check) paths
  else collectEach w plan {} paths

end FenceCheck.Report
