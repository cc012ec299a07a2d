import FenceCheck.Proofs.Discovery.Documents
import FenceCheck.Proofs.Report.Conformity

/-! When paths have documents at all, and what becomes of one that cannot be read. It is a document itself
or gives way to one before it that is led to the same place; and where that one can be read, the path was
to a place by its canonical form alone and leads nowhere itself. -/
namespace FenceCheck.Discovery
open FenceCheck.Text FenceCheck.Report
variable {w : Workspace} {exclude : List String} {seen paths all kept : List Path} {p q : Path}

/-- A path whose kind can be told, as that of all that lies below it can, and that can be resolved. -/
structure Traceable (w : Workspace) (p : Path) : Prop where
  followable : Followable w p
  resolved : ∃ c, w.tree.canonical w.cwd p = .ok c

theorem resolved_of_keepNew {both : List Path × List Path} (looped : keepNew w seen all = .ok both) :
    ∀ p ∈ all, ∃ c, w.tree.canonical w.cwd p = .ok c := by
  induction all generalizing seen both with
  | nil => simp
  | cons p rest ih =>
    rw [keepNew] at looped
    obtain ⟨c, told, looped⟩ := exists_of_bind looped
    refine List.forall_mem_cons.mpr ⟨⟨c, told⟩, ?_⟩
    split at looped
    · exact ih looped
    · obtain ⟨_, later, _⟩ := exists_of_bind looped
      exact ih later

theorem resolved_of_documentsFrom (homed : w.Homed)
    (done : documentsFrom w exclude seen paths = .ok kept) :
    ∀ p ∈ paths, ∃ c, w.tree.canonical w.cwd p = .ok c := by
  induction paths generalizing seen kept with
  | nil => simp
  | cons p paths ih =>
    obtain ⟨part, _, _, expanded, looped, others⟩ := steps_of_documentsFrom done
    refine List.forall_mem_cons.mpr ⟨?_, ih others⟩
    obtain ⟨b, kind, expanded⟩ := exists_of_bind expanded
    cases b with
    | true =>
      obtain ⟨d, found, _⟩ := isDirectory_true_iff.mp kind
      exact ⟨_, Workspace.canonical_of_find homed found⟩
    | false =>
      obtain rfl : [p] = part := Except.ok.inj expanded
      exact resolved_of_keepNew looped p (List.mem_singleton_self p)

/-- Paths have documents exactly where each can be traced. -/
theorem exists_documents_iff_traceable (homed : w.Homed) (paths : List Path) (exclude : List String) :
    (∃ kept, documents w paths exclude = .ok kept) ↔ ∀ p ∈ paths, Traceable w p := by
  constructor
  · rintro ⟨kept, done⟩
    have resolved := resolved_of_documentsFrom homed done
    have followable := (exists_documents_iff homed resolved exclude).mp ⟨kept, done⟩
    exact fun p member => ⟨followable p member, resolved p member⟩
  · intro traceable
    apply (exists_documents_iff homed (fun p member => (traceable p member).resolved) exclude).mpr
    exact fun p member => (traceable p member).followable

/-- The documents are the first paths to their places, each of which can be told. -/
theorem exists_expansion (homed : w.Homed) (done : documents w paths exclude = .ok kept) :
    ∃ all, Expansion w exclude paths all ∧ kept = firsts w all ∧
      ∀ p ∈ all, ∃ c, w.tree.canonical w.cwd p = .ok c := by
  obtain ⟨all, expansion⟩ := exists_expansion_of_documents done
  have resolved := expansion.resolved homed (resolved_of_documentsFrom homed done)
  have given := documents_eq expansion resolved
  exact ⟨all, expansion, Except.ok.inj (done.symm.trans given), resolved⟩

theorem Expansion.mem_of_other (expansion : Expansion w exclude paths all) (member : q ∈ paths)
    (noDirectory : w.isDirectory q = .ok false) : q ∈ all := by
  induction expansion with
  | nil => contradiction
  | directory isDirectory _ _ ih =>
    rcases List.mem_cons.mp member with rfl | later
    · simp [isDirectory] at noDirectory
    · exact List.mem_append_right _ (ih later)
  | other _ _ ih =>
    rcases List.mem_cons.mp member with rfl | later
    · exact List.mem_cons_self
    · exact List.mem_cons_of_mem _ (ih later)

/-- Only the text of a single component without a name is empty. -/
theorem parts_of_text_empty (nothing : p.text = "") : p.parts = [""] := by
  rw [Path.text] at nothing
  split at nothing
  · simp at nothing
  · rename_i some_
    obtain ⟨anchored, joined⟩ := String.append_eq_empty_iff.mp nothing
    cases parts : p.parts with
    | nil =>
      cases anchor : p.anchor with
      | relative => exact absurd ⟨parts, anchor⟩ some_
      | _ => simp [anchor, Anchor.text] at anchored
    | cons c rest =>
      cases rest with
      | nil => simpa [parts] using joined
      | cons d rest =>
        have lengths := congrArg String.length joined
        simp [parts, String.intercalate_cons_cons] at lengths

theorem text_ne_empty_of_suffix (suffix : p.suffix ≠ "") : p.text ≠ "" := by
  intro nothing
  have name : p.name = "" := by
    rw [Path.name, parts_of_text_empty nothing]
    rfl
  rw [Path.suffix, name] at suffix
  exact suffix (by decide)

/-- Every path of an expansion has a text, if the given paths have: a Markdown file has a name. -/
theorem Expansion.text_ne_empty (formed : w.tree.WellFormed) (expansion : Expansion w exclude paths all)
    (given : ∀ p ∈ paths, p.text ≠ "") : ∀ q ∈ all, q.text ≠ "" := by
  induction expansion with
  | nil => simp
  | @directory p paths files more isDirectory listed _ ih =>
    obtain ⟨_, others⟩ := List.forall_mem_cons.mp given
    refine List.forall_mem_append.mpr ⟨?_, ih others⟩
    intro q member
    obtain ⟨d, found, inside⟩ := isDirectory_true_iff.mp isDirectory
    obtain ⟨files', listed', listing⟩ : ∃ files, markdownFiles w p exclude = .ok files ∧
        Listing w p exclude d files :=
      exists_listing formed found inside fun r lies =>
        not_tooLong_of_listed formed found inside listed lies
    obtain rfl := Except.ok.inj (listed.symm.trans listed')
    obtain ⟨r, _, _, wanted⟩ := (listing.complete q).mp member
    apply text_ne_empty_of_suffix
    intro none_
    rcases wanted.markdown with markdown | markdown
    · rw [none_] at markdown
      exact absurd markdown (by decide)
    · rw [none_] at markdown
      exact absurd markdown (by decide)
  | other _ _ ih =>
    obtain ⟨first, others⟩ := List.forall_mem_cons.mp given
    exact List.forall_mem_cons.mpr ⟨first, ih others⟩

theorem mem_unreadable_iff {f : Fault} :
    (p, f) ∈ unreadable w paths ↔ p ∈ paths ∧ w.readText p = .error f := by
  simp only [unreadable, List.mem_filterMap]
  constructor
  · rintro ⟨q, member, found⟩
    cases read : w.readText q with
    | ok text => simp [read] at found
    | error g =>
      obtain ⟨rfl, rfl⟩ : q = p ∧ g = f := by simpa [read] using found
      exact ⟨member, read⟩
  · rintro ⟨member, failed⟩
    exact ⟨p, member, by simp [failed]⟩

/-- Paths that lead to one place are read alike. -/
theorem readText_of_find {l : Location} {text : List Char} (first : w.find p = .ok l)
    (second : w.find q = .ok l) (read : w.readText p = .ok text) : w.readText q = .ok text := by
  simp only [Workspace.readText, Workspace.readBytes, Workspace.node, first, second, ok_bind] at read ⊢
  cases there : w.tree.get? l with
  | none => simp [there] at read
  | some n =>
    cases n with
    | file mode bytes => simpa [there] using read
    | _ => simp [there] at read

/-- A path that leads nowhere, while a document that can be read has its canonical form. -/
def Shadowed (w : Workspace) (documents : List Path) (q : Path) : Prop :=
  (∃ f, w.find q = .error f) ∧ ∃ d ∈ documents, place w d = place w q ∧ ∃ text, w.readText d = .ok text

theorem eq_of_place_eq (first : p ∈ firsts w all) (second : q ∈ firsts w all)
    (same : place w p = place w q) : p = q := by
  have distinct : ((firsts w all).map (place w)).Nodup := List.pairwise_map.mpr (pairwise_firsts w all)
  exact List.inj_on_of_nodup_map distinct first second same

/-- A path that cannot be read has a document that cannot be read, unless it is shadowed. -/
theorem exists_unreadable_iff (homed : w.Homed) (member : q ∈ all) {f : Fault}
    (failed : w.readText q = .error f) :
    (∃ d g, (d, g) ∈ unreadable w (firsts w all) ∧ place w d = place w q) ↔
      ¬ Shadowed w (firsts w all) q := by
  have leads {p : Path} {l : Location} (found : w.find p = .ok l) : place w p = some ⟨.root, l⟩ :=
    place_eq_some.mpr (Workspace.canonical_of_find homed found)
  constructor
  · rintro ⟨d, g, listed, same⟩ ⟨_, d', member', same', text, read⟩
    obtain ⟨first, unread⟩ := mem_unreadable_iff.mp listed
    obtain rfl := eq_of_place_eq first member' (same.trans same'.symm)
    rw [unread] at read
    contradiction
  · intro clear
    obtain ⟨d, first, same⟩ := exists_first (w := w) member
    cases read : w.readText d with
    | error g => exact ⟨d, g, mem_unreadable_iff.mpr ⟨first, read⟩, same⟩
    | ok text =>
      -- a document that can be read stands somewhere, and `q` would be read alike if it led there
      exfalso
      cases found : w.find q with
      | error g => exact clear ⟨⟨g, found⟩, d, first, same, text, read⟩
      | ok l =>
        cases found' : w.find d with
        | error g => simp [Workspace.readText, Workspace.readBytes, Workspace.node, found'] at read
        | ok l' =>
          rw [leads found, leads found'] at same
          obtain rfl : l' = l := by simpa using same
          rw [readText_of_find found' found read] at failed
          contradiction

end FenceCheck.Discovery
