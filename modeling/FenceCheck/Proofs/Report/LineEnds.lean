import FenceCheck.Proofs.FileTree.Alike
import FenceCheck.Proofs.Report.Collection
import FenceCheck.Proofs.Text.LineEnds

/-! Documents with either line ends. A file that is saved with a carriage return before each line feed is
read as the same text, and a collection sees nothing of a file but its text. -/
namespace FenceCheck
open FenceCheck.Text

/-- A node as it is, or a text saved anew with a carriage return before each line feed. -/
inductive Node.Resaved : Node → Node → Prop where
  | same (n : Node) : Resaved n n
  | returns {mode : Nat} {text : List Char} : FeedsAlone text →
      Resaved (.file mode (Utf8.encode text)) (.file mode (Utf8.encode (withReturns text)))

namespace Workspace
variable {v w : Workspace} {p : Path}

/-- Workspaces of which the second has some of the texts saved anew. -/
structure Resaved (w v : Workspace) : Prop where
  cwd : w.cwd = v.cwd
  nodes : ∀ l, Option.Rel Node.Resaved (w.tree.get? l) (v.tree.get? l)

/-- All else is as it was, so paths lead where they led. -/
theorem Resaved.alike (resaved : w.Resaved v) : w.Alike v where
  cwd := resaved.cwd
  tree l := by
    have nodes := resaved.nodes l
    generalize w.tree.get? l = before at nodes ⊢
    generalize v.tree.get? l = after at nodes ⊢
    cases nodes with
    | none => rfl
    | some node => cases node <;> rfl

/-- It is enough that entry by entry the nodes are as they were or saved anew. -/
theorem Resaved.of_entries (cwd : w.cwd = v.cwd)
    (entries : List.Forall₂ (fun e e' => e.1 = e'.1 ∧ Node.Resaved e.2 e'.2) w.tree.entries v.tree.entries) :
    w.Resaved v := by
  refine ⟨cwd, fun l => ?_⟩
  rw [FileTree.get?, FileTree.get?]
  split
  · exact .some (.same _)
  · -- by the entries, on which alone the lookups hang
    generalize w.tree.entries = before at entries
    generalize v.tree.entries = after at entries
    induction entries with
    | nil => exact .none
    | @cons e e' _ _ first _ ih =>
      obtain ⟨key, n⟩ := e
      obtain ⟨key', n'⟩ := e'
      obtain ⟨rfl, node⟩ := first
      rw [List.lookup_cons, List.lookup_cons]
      cases l == key with
      | true => exact .some node
      | false => exact ih

theorem readText_of_node {mode : Nat} {bytes : List UInt8} (there : w.node p = .ok (.file mode bytes)) :
    w.readText p = ((Utf8.decode bytes).mapError .notText).map unifyLineEnds := by
  simp only [readText, readBytes, there, ok_bind, pure_eq]
  cases Utf8.decode bytes <;> rfl

theorem readText_of_same (same : v.node p = w.node p) : v.readText p = w.readText p := by
  simp only [readText, readBytes, same]

/-- A path leads to the same node, or to a text and the text saved anew. -/
theorem Resaved.node_cases (resaved : w.Resaved v) (p : Path) : v.node p = w.node p ∨
    ∃ mode text, FeedsAlone text ∧ w.node p = .ok (.file mode (Utf8.encode text)) ∧
      v.node p = .ok (.file mode (Utf8.encode (withReturns text))) := by
  simp only [node, resaved.alike.find_eq]
  cases v.find p with
  | error f => exact .inl rfl
  | ok l =>
    have nodes := resaved.nodes l
    simp only [ok_bind]
    generalize w.tree.get? l = before at nodes ⊢
    generalize v.tree.get? l = after at nodes ⊢
    cases nodes with
    | none => exact .inl rfl
    | some node =>
      cases node with
      | same n => exact .inl rfl
      | returns alone => exact .inr ⟨_, _, alone, rfl, rfl⟩

/-- A text that is saved anew is read as it was. -/
theorem Resaved.readText_eq (resaved : w.Resaved v) (p : Path) : v.readText p = w.readText p := by
  rcases resaved.node_cases p with same | ⟨mode, text, alone, before, after⟩
  · exact readText_of_same same
  · rw [readText_of_node before, readText_of_node after, Utf8.decode_encode, Utf8.decode_encode]
    exact congrArg Except.ok alone.unifyLineEnds_withReturns

end Workspace

namespace Report
variable {v w : Workspace} {plan : Plan} {paths : List Path}

theorem readDocument_congr {p : Path} (same : v.readText p = w.readText p) (policy : ReadPolicy) :
    readDocument v policy p = readDocument w policy p := by
  simp only [readDocument, Document.read, same]

theorem collectEach_of_texts (same : ∀ p ∈ paths, v.readText p = w.readText p) (done : Summary) :
    collectEach v plan done paths = collectEach w plan done paths := by
  induction paths generalizing done with
  | nil => rfl
  | cons p rest ih =>
    obtain ⟨first, later⟩ := List.forall_mem_cons.mp same
    simp only [collectEach, readDocument_congr first, ih later]

theorem gather_of_texts (same : ∀ p ∈ paths, v.readText p = w.readText p) :
    gather v plan paths = gather w plan paths := by
  induction paths with
  | nil => rfl
  | cons p rest ih =>
    obtain ⟨first, later⟩ := List.forall_mem_cons.mp same
    simp only [gather, readDocument_congr first, ih later]

/-- A collection is the same, with all that it logs, where its documents hold the same texts. -/
theorem collect_of_documents (plan : Plan) (same : ∀ p ∈ paths, v.readText p = w.readText p) :
    collect v plan paths = collect w plan paths := by
  simp only [collect, collectBatch, gather_of_texts same, collectEach_of_texts same]

theorem collect_of_texts (same : ∀ p, v.readText p = w.readText p) (plan : Plan) (paths : List Path) :
    collect v plan paths = collect w plan paths :=
  collect_of_documents plan fun p _ => same p

/-- Whether line ends are unified before a text is cut into lines or carriage returns are taken away
after, the lines are the same and so are the blocks, in a text that has carriage returns before line feeds
only. So the blocks of a text stay the same if it gets a carriage return before each line feed, and so does
all that a collection comes to and logs if documents are saved anew in that way. -/
theorem line_ends_agree {text : List Char} (paired : Paired text) :
    splitLines text = splitLines (unifyLineEnds text) ∧
    (∀ file language, Fence.extract text file language =
      Fence.extract (unifyLineEnds text) file language) ∧
    (∀ lines, FeedsAlone lines → ∀ file language, Fence.extract (withReturns lines) file language =
      Fence.extract lines file language) ∧
    ∀ w v : Workspace, w.Resaved v → ∀ plan paths, collect v plan paths = collect w plan paths := by
  refine ⟨paired.splitLines_unifyLineEnds.symm, ?_, ?_, ?_⟩
  · intro file language
    rw [Fence.extract, Fence.extract, paired.splitLines_unifyLineEnds]
  · intro lines alone file language
    rw [Fence.extract, Fence.extract, alone.splitLines_withReturns]
  · intro w v resaved plan paths
    exact collect_of_texts resaved.readText_eq plan paths

/-- A document with one block, as text and as a file. -/
theorem line_ends_agree_shelf :
    let text := "```py\nx\n```\n".toList
    let a : Path := ⟨.relative, ["a.md"]⟩
    let resaved : Workspace := {
      tree := ⟨[(["a.md"], .file 0o644 (Utf8.encode (withReturns text))), (["b.md"], .file 0o644 [0xff])]⟩
      cwd := [] }
    Paired (withReturns text) ∧ Fence.extract (withReturns text) a "py" = [⟨a, "x", 1⟩] ∧
      Fence.extract (unifyLineEnds (withReturns text)) a "py" = [⟨a, "x", 1⟩] ∧
      FeedsAlone text ∧ shelf.Resaved resaved ∧
      ∀ plan, collect resaved plan [a] = collect shelf plan [a] := by
  intro text a resaved
  have paired : Paired (withReturns text) := by decide
  have alone : FeedsAlone text := by decide
  have saved : shelf.Resaved resaved :=
    .of_entries rfl (.cons ⟨rfl, .returns alone⟩ (.cons ⟨rfl, .same _⟩ .nil))
  obtain ⟨_, unified, returns, files⟩ := line_ends_agree paired
  have same := (returns text alone a "py").trans extract_shelf
  exact ⟨paired, same, (unified a "py").symm.trans same, alone, saved, fun plan => files _ _ saved plan [a]⟩

end Report
end FenceCheck
