import FenceCheck.Proofs.Log.Records
import FenceCheck.Proofs.Report.Documents
import FenceCheck.Report.Writing

/-! What a scan tells of itself. Documents are announced as they are read, and complaints as they are
made; with one job the complaints about a document stand before the next document, with several behind all
documents. The events of one kind come in the same order either way, so what they add up to is what the
scan answers. -/
namespace FenceCheck

namespace Report
open Trace Log

/-- What is told of a path: what was found there, or why it was left out. -/
def opened (w : Workspace) (language : String) (p : Path) : List Event :=
  match w.readText p with
  | .ok text => [readEvent ⟨p, text⟩, extractEvent ⟨p, text⟩ (Document.blocks language ⟨p, text⟩)]
  | .error f => [skipEvent p f]

/-- What is told of the blocks of which the checker complains. -/
def objections (check : Checker) (blocks : List Fence.Block) : List Event :=
  blocks.filterMap fun b => (check b.content).complaint?.map (failureEvent b)

/-- The blocks at a path, none if it cannot be read. -/
def blocksAt (w : Workspace) (language : String) (p : Path) : List Fence.Block :=
  match w.readText p with
  | .ok text => Document.blocks language ⟨p, text⟩
  | .error _ => []

section Collecting
variable {w : Workspace} {plan : Plan} {p : Path} {paths : List Path}

theorem readDocument_cases (w : Workspace) (policy : ReadPolicy) (p : Path) :
    (∃ text, w.readText p = .ok text ∧
      readDocument w policy p = ⟨[readEvent ⟨p, text⟩], .ok (some ⟨p, text⟩)⟩) ∨
    (∃ f, w.readText p = .error f ∧ readDocument w policy p = ⟨[skipEvent p f], .ok none⟩) ∨
    ∃ e, (readDocument w policy p).outcome = .error e := by
  cases read : w.readText p with
  | ok text => exact .inl ⟨text, rfl, readDocument_of_text read policy⟩
  | error f =>
    refine .inr ?_
    simp only [readDocument, Document.read, read, error_bind]
    split
    · exact .inr ⟨_, rfl⟩
    · cases policy with
      | skip => exact .inl ⟨f, rfl, rfl⟩
      | abort => exact .inr ⟨_, rfl⟩

theorem reads_eq_ok {policy : ReadPolicy} {documents : List Document}
    (read : reads w policy paths = .ok documents) : documents = readable w paths := by
  induction paths generalizing documents with
  | nil => exact (Except.ok.inj read).symm
  | cons p rest ih =>
    rcases readDocument_cases w policy p with ⟨text, there, said⟩ | ⟨f, there, said⟩ | ⟨e, said⟩ <;>
      rcases reads_cons_cases read with ⟨first, read⟩ | ⟨d, more, first, later, rfl⟩ <;>
      simp only [said, reduceCtorEq, Except.ok.injEq, Option.some.injEq] at first
    · subst first
      simp [readable, there, ih later]
    · simpa [readable, there] using ih read

theorem verdicts_eq_ok {check : Checker} {blocks : List Fence.Block}
    {judged : List (Fence.Block × Verdict)} (ran : verdicts check blocks = .ok judged) :
    judged = blocks.map fun b => (b, .ofComplaint (check b.content).complaint?) := by
  induction blocks generalizing judged with
  | nil => exact (Except.ok.inj ran).symm
  | cons b rest ih =>
    obtain ⟨v, more, first, later, rfl⟩ := exists_of_verdicts_cons ran
    rw [List.map_cons, ← ih later, ← eq_ofComplaint_of_validate first]

theorem enter_ok (judged : List (Fence.Block × Verdict)) : enter (.ok judged) =
    ⟨(failures judged).map fun (b, message) => failureEvent b message, .ok (entriesOf judged)⟩ := by
  rw [← List.append_nil ((failures judged).map _)]
  rfl

theorem failures_complaints (check : Checker) (blocks : List Fence.Block) :
    failures (blocks.map fun b => (b, .ofComplaint (check b.content).complaint?)) =
      blocks.filterMap fun b => (check b.content).complaint?.map (b, ·) := by
  rw [failures, List.filterMap_map]
  congr 1
  funext b
  cases reply : (check b.content).complaint? <;> simp [reply, Verdict.ofComplaint]

/-- Judging blocks tells of the complaints and enters them, unless one gets no verdict. -/
theorem judge_cases (check : Checker) (blocks : List Fence.Block) :
    judge check blocks = ⟨objections check blocks, .ok (complaints check blocks)⟩ ∨
      ∃ e, (judge check blocks).outcome = .error e := by
  cases ran : verdicts check blocks with
  | error e => exact .inr ⟨_, by rw [judge, ran, outcome_enter_error]⟩
  | ok judged =>
    refine .inl ?_
    obtain rfl := verdicts_eq_ok ran
    have told : (failures (blocks.map fun b => (b, .ofComplaint (check b.content).complaint?))).map
        (fun (b, message) => failureEvent b message) = objections check blocks := by
      rw [failures_complaints, objections, List.map_filterMap]
      congr 1
      funext b
      cases (check b.content).complaint? <;> rfl
    rw [judge, ran, enter_ok, told, entriesOf_complaints]

/-- With one job, what is told of a path is followed by the objections to its blocks. -/
theorem collectEach_events {done s : Summary} (reached : (collectEach w plan done paths).outcome = .ok s) :
    (collectEach w plan done paths).events = paths.flatMap fun p =>
      opened w plan.language p ++ objections plan.check (blocksAt w plan.language p) := by
  induction paths generalizing done with
  | nil => rfl
  | cons p rest ih =>
    rw [collectEach] at reached ⊢
    rcases readDocument_cases w plan.policy p with ⟨text, there, first⟩ | ⟨f, there, first⟩ | ⟨e, first⟩
    · rw [first] at reached ⊢
      simp only [mk_bind, findBlocks_eq] at reached ⊢
      rcases judge_cases plan.check (Document.blocks plan.language ⟨p, text⟩) with judged | ⟨e, judged⟩
      · rw [judged] at reached ⊢
        simp only [mk_bind] at reached ⊢
        rw [ih reached, List.flatMap_cons, opened, blocksAt, there]
        simp
      · simp [judged] at reached
    · rw [first] at reached ⊢
      simp only [mk_bind] at reached ⊢
      rw [ih reached, List.flatMap_cons, opened, blocksAt, there]
      rfl
    · simp [first] at reached

theorem gather_events {gathered : Nat × List Fence.Block}
    (reached : (gather w plan paths).outcome = .ok gathered) :
    (gather w plan paths).events = paths.flatMap (opened w plan.language) ∧
      gathered.2 = paths.flatMap (blocksAt w plan.language) := by
  induction paths generalizing gathered with
  | nil => exact ⟨rfl, congrArg Prod.snd (Except.ok.inj reached).symm⟩
  | cons p rest ih =>
    rw [gather] at reached ⊢
    rcases readDocument_cases w plan.policy p with ⟨text, there, first⟩ | ⟨f, there, first⟩ | ⟨e, first⟩
    · rw [first] at reached ⊢
      simp only [mk_bind, findBlocks_eq] at reached ⊢
      cases later : (gather w plan rest).outcome with
      | error e => simp [later] at reached
      | ok more =>
        obtain ⟨events, blocks⟩ := ih later
        obtain rfl : (more.1 + 1, Document.blocks plan.language ⟨p, text⟩ ++ more.2) = gathered := by
          simpa [later] using reached
        rw [events_bind_ok later, events, blocks, List.flatMap_cons, List.flatMap_cons, opened, blocksAt,
          there]
        simp
    · rw [first] at reached ⊢
      simp only [mk_bind] at reached ⊢
      obtain ⟨events, blocks⟩ := ih reached
      rw [events, blocks, List.flatMap_cons, List.flatMap_cons, opened, blocksAt, there]
      exact ⟨rfl, rfl⟩
    · simp [first] at reached

theorem blocks_readable (w : Workspace) (language : String) (paths : List Path) :
    (readable w paths).flatMap (Document.blocks language) = paths.flatMap (blocksAt w language) := by
  induction paths with
  | nil => rfl
  | cons p rest ih =>
    cases read : w.readText p with
    | ok text =>
      have here : readable w (p :: rest) = ⟨p, text⟩ :: readable w rest := by
        simp [readable, read]
      rw [here, List.flatMap_cons, List.flatMap_cons, ih, blocksAt, read]
    | error f =>
      have here : readable w (p :: rest) = readable w rest := by
        simp [readable, read]
      rw [here, List.flatMap_cons, ih, blocksAt, read]
      rfl

/-- What a collection that comes to an end answers. -/
theorem summary_of_collect {s : Summary} (reached : (collect w plan paths).outcome = .ok s) :
    s = { report := complaints plan.check (paths.flatMap (blocksAt w plan.language))
          documents := (readable w paths).length
          skipped := (unreadable w paths).length
          blocks := (paths.flatMap (blocksAt w plan.language)).length } := by
  cases read : reads w plan.policy paths with
  | error e =>
    obtain ⟨⟨_, failed⟩, _⟩ := collect_of_failure read
    simp [failed] at reached
  | ok documents =>
    obtain rfl := reads_eq_ok read
    have left : paths.length - (readable w paths).length = (unreadable w paths).length := by
      have := length_readable_add_unreadable w paths
      omega
    rw [collect_of_reads read, blocks_readable] at reached
    cases ran : verdicts plan.check (paths.flatMap (blocksAt w plan.language)) with
    | error e => simp [ran] at reached
    | ok judged =>
      obtain rfl := verdicts_eq_ok ran
      simp only [ran, Except.ok.injEq] at reached
      subst reached
      simp [Summary.extend, entriesOf_complaints, left]

end Collecting

/-- What is told when all documents are read before all blocks are judged. -/
def told (w : Workspace) (plan : Plan) (paths : List Path) : List Event :=
  paths.flatMap (opened w plan.language) ++
    objections plan.check (paths.flatMap (blocksAt w plan.language))

/-- The events of an action. -/
def under (action : String) (events : List Event) : List Event :=
  events.filter (·.action = action)

section Order
variable {w : Workspace} {plan : Plan} {paths : List Path}

theorem under_opened (w : Workspace) (language : String) (paths : List Path) :
    under "read" (paths.flatMap (opened w language)) = (readable w paths).map readEvent ∧
    under "extract" (paths.flatMap (opened w language)) =
      (readable w paths).map (fun d => extractEvent d (d.blocks language)) ∧
    under "skip-unreadable" (paths.flatMap (opened w language)) = announcements w paths ∧
    under "syntax-error" (paths.flatMap (opened w language)) = [] := by
  induction paths with
  | nil => exact ⟨rfl, rfl, rfl, rfl⟩
  | cons p rest ih =>
    simp only [under] at ih ⊢
    cases read : w.readText p with
    | ok text =>
      rw [announcements_of_text read]
      simp [opened, readable, read, ih, readEvent, extractEvent, event]
    | error f =>
      rw [announcements_of_fault read]
      simp [opened, readable, read, ih, skipEvent, event]

theorem under_objections (action : String) (check : Checker) (blocks : List Fence.Block) :
    under action (objections check blocks) =
      if action = "syntax-error" then objections check blocks else [] := by
  have kind : ∀ e ∈ objections check blocks, e.action = "syntax-error" := by
    intro e member
    obtain ⟨b, _, told⟩ := List.mem_filterMap.mp member
    obtain ⟨message, _, rfl⟩ := Option.map_eq_some_iff.mp told
    rfl
  split
  · rename_i same
    exact List.filter_eq_self.mpr fun e member => by simp [kind e member, same]
  · rename_i other
    exact List.filter_eq_nil_iff.mpr fun e member => by simp [kind e member, Ne.symm other]

theorem under_append (action : String) (first later : List Event) :
    under action (first ++ later) = under action first ++ under action later :=
  List.filter_append ..

theorem objections_append (check : Checker) (first later : List Fence.Block) :
    objections check (first ++ later) = objections check first ++ objections check later :=
  List.filterMap_append ..

/-- Objections that stand between the documents are, kind by kind, where they would be behind them. -/
theorem under_each (action : String) (w : Workspace) (plan : Plan) (paths : List Path) :
    under action (paths.flatMap fun p =>
      opened w plan.language p ++ objections plan.check (blocksAt w plan.language p)) =
    under action (told w plan paths) := by
  induction paths with
  | nil => rfl
  | cons p rest ih =>
    simp only [told, List.flatMap_cons, objections_append, under_append] at ih ⊢
    by_cases error : action = "syntax-error"
    · obtain ⟨_, _, _, none_⟩ := under_opened w plan.language rest
      subst error
      simp [ih, none_]
    · have none_ (blocks : List Fence.Block) : under action (objections plan.check blocks) = [] := by
        rw [under_objections, if_neg error]
      simp [ih, none_]

theorem told_perm (w : Workspace) (plan : Plan) (paths : List Path) :
    (paths.flatMap fun p =>
      opened w plan.language p ++ objections plan.check (blocksAt w plan.language p)).Perm
    (told w plan paths) := by
  have apart : objections plan.check (paths.flatMap (blocksAt w plan.language)) =
      paths.flatMap fun p => objections plan.check (blocksAt w plan.language p) :=
    List.filterMap_flatMap ..
  rw [told, apart]
  exact (List.flatMap_append_perm ..).symm

/-- Whatever the number of jobs, the same events are told, and those of one kind in the same order. -/
theorem collect_told {s : Summary} (reached : (collect w plan paths).outcome = .ok s) :
    (collect w plan paths).events.Perm (told w plan paths) ∧
      ∀ action, under action (collect w plan paths).events = under action (told w plan paths) := by
  by_cases several : 1 < plan.jobs
  · have whole : (collect w plan paths).events = told w plan paths := by
      rw [collect, if_pos several] at reached ⊢
      cases gathering : (gather w plan paths).outcome with
      | error e => simp [collectBatch, gathering] at reached
      | ok gathered =>
        obtain ⟨events, blocks⟩ := gather_events gathering
        rw [collectBatch, events_bind_ok gathering, events]
        simp only [collectBatch, outcome_bind, gathering, ok_bind, blocks] at reached ⊢
        rcases judge_cases plan.check (paths.flatMap (blocksAt w plan.language)) with judged | ⟨e, judged⟩
        · rw [← judge, judged, mk_bind, events_pure, List.append_nil, told]
        · rw [judge] at judged
          simp [judged] at reached
    exact ⟨.of_eq whole, fun action => by rw [whole]⟩
  · rw [collect, if_neg several] at reached ⊢
    rw [collectEach_events reached]
    exact ⟨told_perm w plan paths, fun action => under_each action w plan paths⟩

end Order

end Report
end FenceCheck
