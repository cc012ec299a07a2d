import Mathlib
import FenceCheck.Proofs.FileTree.Refusals
import FenceCheck.Proofs.Fence.Reading
import FenceCheck.Proofs.Report.Collection

/-! Every path that a collection is given is accounted for: it is a document that was read and whose
blocks were judged, or it was left out and announced, or it ended the collection. Paths without a NUL
character meet no other fault than that of the file system or of the decoder. -/
namespace FenceCheck

namespace Report
open Trace FenceCheck.Text

theorem isUnreadable_of_readText {w : Workspace} {p : Path} {f : Fault} (named : p.hasNul = false)
    (failed : w.readText p = .error f) : isUnreadable f = true := by
  simp only [Workspace.readText] at failed
  cases read : w.readBytes p with
  | error g =>
    obtain rfl : g = f := by simpa [read] using failed
    obtain ⟨r, rfl⟩ := Workspace.readBytes_error named read
    rfl
  | ok bytes =>
    cases text : Text.Utf8.decode bytes with
    | error e =>
      obtain rfl : .notText e = f := by simpa [read, text] using failed
      rfl
    | ok cs => simp [read, text] at failed

/-- The documents that can be read: their bytes are there, and they are text. -/
def readable (w : Workspace) (paths : List Path) : List Document :=
  paths.filterMap fun p =>
    match w.readText p with
    | .ok text => some ⟨p, text⟩
    | .error _ => none

/-- The paths that cannot be opened or read, or whose bytes are no text, each with the reason. -/
def unreadable (w : Workspace) (paths : List Path) : List (Path × Fault) :=
  paths.filterMap fun p =>
    match w.readText p with
    | .ok _ => none
    | .error f => some (p, f)

theorem length_readable_add_unreadable (w : Workspace) (paths : List Path) :
    (readable w paths).length + (unreadable w paths).length = paths.length := by
  induction paths with
  | nil => rfl
  | cons p rest ih =>
    simp only [readable, unreadable, List.filterMap_cons, List.length_cons] at ih ⊢
    cases w.readText p with
    | ok text => simp only [List.length_cons]; omega
    | error f => simp only [List.length_cons]; omega

section Reading
variable {w : Workspace} {p : Path}

theorem readDocument_of_text {text : List Char} (read : w.readText p = .ok text)
    (policy : ReadPolicy) :
    readDocument w policy p = ⟨[readEvent ⟨p, text⟩], .ok (some ⟨p, text⟩)⟩ := by
  simp only [readDocument, Document.read, read]
  rfl

theorem readDocument_skip {f : Fault} (failed : w.readText p = .error f)
    (named : p.hasNul = false) : readDocument w .skip p = ⟨[skipEvent p f], .ok none⟩ := by
  simp only [readDocument, Document.read, failed, error_bind, isUnreadable_of_readText named failed]
  rfl

theorem readDocument_abort {f : Fault} (failed : w.readText p = .error f)
    (named : p.hasNul = false) : readDocument w .abort p =
      Trace.fail (.run (.read ("cannot read document " ++ p.text ++ ": " ++ f.message))) := by
  simp only [readDocument, Document.read, failed, error_bind, isUnreadable_of_readText named failed]
  rfl

end Reading

theorem reads_skip {w : Workspace} {paths : List Path} (named : ∀ p ∈ paths, p.hasNul = false) :
    reads w .skip paths = .ok (readable w paths) := by
  induction paths with
  | nil => rfl
  | cons p rest ih =>
    have later := ih fun q member => named q (by simp [member])
    cases read : w.readText p with
    | ok text => simp [reads, readDocument_of_text read, later, readable, read]
    | error f =>
      simp [reads, readDocument_skip read (named p (by simp)), later, readable, read]

/-- The events that tell of a document that was left out. -/
def skips (events : List Log.Event) : List Log.Event :=
  events.filter (·.action = "skip-unreadable")

/-- The announcements of the paths that are unreadable. -/
def announcements (w : Workspace) (paths : List Path) : List Log.Event :=
  (unreadable w paths).map fun (p, f) => skipEvent p f

theorem skips_append (a b : List Log.Event) : skips (a ++ b) = skips a ++ skips b :=
  List.filter_append ..

theorem skips_skipEvent (p : Path) (f : Fault) (more : List Log.Event) :
    skips (skipEvent p f :: more) = skipEvent p f :: skips more := by
  simp [skips, skipEvent, event]

theorem skips_readEvent (d : Document) (more : List Log.Event) :
    skips (readEvent d :: more) = skips more := by
  simp [skips, readEvent, event]

theorem skips_extractEvent (d : Document) (blocks : List Fence.Block) (more : List Log.Event) :
    skips (extractEvent d blocks :: more) = skips more := by
  simp [skips, extractEvent, event]

theorem skips_enter (r : Outcome (List (Fence.Block × Verdict))) :
    skips (enter r).events = [] := by
  cases r with
  | error i => rfl
  | ok judged =>
    apply List.filter_eq_nil_iff.mpr
    intro e member
    rw [enter, events_bind_ok (outcome_logAll _)] at member
    simp only [events_logAll, events_pure, List.append_nil, List.mem_map] at member
    obtain ⟨⟨b, message⟩, _, rfl⟩ := member
    simp [failureEvent, event]

theorem findBlocks_eq (plan : Plan) (d : Document) : findBlocks plan d =
    ⟨[extractEvent d (d.blocks plan.language)], .ok (d.blocks plan.language)⟩ := rfl

theorem announcements_of_text {w : Workspace} {p : Path} {text : List Char}
    (read : w.readText p = .ok text) (rest : List Path) :
    announcements w (p :: rest) = announcements w rest := by
  simp [announcements, unreadable, read]

theorem announcements_of_fault {w : Workspace} {p : Path} {f : Fault}
    (failed : w.readText p = .error f) (rest : List Path) :
    announcements w (p :: rest) = skipEvent p f :: announcements w rest := by
  simp [announcements, unreadable, failed]

section Announcing
variable {w : Workspace} {plan : Plan} {paths : List Path}

theorem gather_reaches (skipping : plan.policy = .skip) (named : ∀ p ∈ paths, p.hasNul = false) :
    ∃ gathered, (gather w plan paths).outcome = .ok gathered := by
  rw [gather_outcome, skipping, reads_skip named]
  exact ⟨_, rfl⟩

theorem skips_gather (skipping : plan.policy = .skip) (named : ∀ p ∈ paths, p.hasNul = false) :
    skips (gather w plan paths).events = announcements w paths := by
  induction paths with
  | nil => rfl
  | cons p rest ih =>
    have later := ih fun q member => named q (by simp [member])
    rw [gather, skipping]
    cases read : w.readText p with
    | error f =>
      rw [readDocument_skip read (named p (by simp)), announcements_of_fault read, mk_bind]
      simp only [List.singleton_append, skips_skipEvent, later]
    | ok text =>
      obtain ⟨gathered, reached⟩ : ∃ gathered, (gather w plan rest).outcome = .ok gathered :=
        gather_reaches skipping fun q member => named q (by simp [member])
      rw [readDocument_of_text read, announcements_of_text read, mk_bind]
      simp only [findBlocks_eq, mk_bind, events_bind_ok reached, events_pure, List.singleton_append,
        List.append_nil, skips_readEvent, skips_extractEvent, later]

theorem skips_collectEach (settles : plan.check.Settles) (skipping : plan.policy = .skip)
    (named : ∀ p ∈ paths, p.hasNul = false) (done : Summary) :
    skips (collectEach w plan done paths).events = announcements w paths := by
  induction paths generalizing done with
  | nil => rfl
  | cons p rest ih =>
    have later := ih fun q member => named q (by simp [member])
    rw [collectEach, skipping]
    cases read : w.readText p with
    | error f =>
      rw [readDocument_skip read (named p (by simp)), announcements_of_fault read, mk_bind]
      simp only [List.singleton_append, skips_skipEvent, later]
    | ok text =>
      have judged (blocks : List Fence.Block) :
          (enter (verdicts plan.check blocks)).outcome = .ok (complaints plan.check blocks) := by
        rw [verdicts_of_settles settles, outcome_enter_ok, entriesOf_complaints]
      rw [readDocument_of_text read, announcements_of_text read, mk_bind]
      simp only [findBlocks_eq, judge, mk_bind, events_bind_ok (judged _), List.singleton_append,
        skips_readEvent, skips_extractEvent, skips_append, skips_enter, List.nil_append, later]

theorem skips_collectBatch (skipping : plan.policy = .skip)
    (named : ∀ p ∈ paths, p.hasNul = false)
    (judgeAll : List Fence.Block → Outcome (List (Fence.Block × Verdict))) :
    skips (collectBatch w plan judgeAll paths).events = announcements w paths := by
  obtain ⟨⟨documents, blocks⟩, reached⟩ : ∃ gathered, (gather w plan paths).outcome = .ok gathered :=
    gather_reaches skipping named
  rw [collectBatch, events_bind_ok reached, skips_append, skips_gather skipping named]
  dsimp only
  cases judged : judgeAll blocks with
  | error i => rw [events_bind_error (outcome_enter_error i), skips_enter, List.append_nil]
  | ok verdicts =>
    rw [events_bind_ok (outcome_enter_ok verdicts), events_pure, List.append_nil, skips_enter,
      List.append_nil]

theorem skips_collect (settles : plan.check.Settles) (skipping : plan.policy = .skip)
    (named : ∀ p ∈ paths, p.hasNul = false) :
    skips (collect w plan paths).events = announcements w paths := by
  by_cases several : 1 < plan.jobs
  · rw [collect, if_pos several]
    exact skips_collectBatch skipping named _
  · rw [collect, if_neg several]
    exact skips_collectEach settles skipping named _

end Announcing

/-- Warnings are written whatever the context, and whether there is one or not. -/
theorem announcements_enabled (w : Workspace) (paths : List Path) (ctx : Option RunContext) :
    (announcements w paths).filter (·.isEnabled ctx) = announcements w paths := by
  apply List.filter_eq_self.mpr
  intro e member
  obtain ⟨⟨p, f⟩, _, rfl⟩ := List.mem_map.mp member
  cases ctx <;> rfl

theorem readText_shelf : shelf.readText ⟨.relative, ["a.md"]⟩ = .ok "```py\nx\n```\n".toList := by cbv

end Report
end FenceCheck
