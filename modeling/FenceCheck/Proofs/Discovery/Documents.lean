import FenceCheck.Proofs.Discovery.Listing
import FenceCheck.Proofs.FileTree.Canonical
import Mathlib.Data.List.Induction

/-! Which documents a list of paths stands for. What its paths stand for is put one after another, and
of the paths that lead to one place the first is kept; what is kept stands for itself. -/
namespace FenceCheck.Discovery

section Firsts
variable {w : Workspace} {p q : Path} {all : List Path}

/-- The place that a path leads to, where that can be told. -/
def place (w : Workspace) (p : Path) : Option Path :=
  (w.tree.canonical w.cwd p).toOption

/-- The paths whose place is that of no path before them. -/
def firsts (w : Workspace) (all : List Path) : List Path :=
  (all.zipIdx.filter fun e => (all.take e.2).all fun q => place w q ≠ place w e.1).map Prod.fst

theorem place_eq_some {c : Path} : place w p = some c ↔ w.tree.canonical w.cwd p = .ok c := by
  rw [place]
  cases w.tree.canonical w.cwd p <;> simp [Except.toOption]

/-- A path more at the end changes nothing about those before it. -/
theorem firsts_concat (w : Workspace) (all : List Path) (p : Path) : firsts w (all ++ [p]) =
    firsts w all ++ if ∃ q ∈ all, place w q = place w p then [] else [p] := by
  have before : (all.zipIdx.filter fun e => ((all ++ [p]).take e.2).all fun q =>
      place w q ≠ place w e.1) =
      all.zipIdx.filter fun e => (all.take e.2).all fun q => place w q ≠ place w e.1 := by
    apply List.filter_congr
    intro e listed
    have inside : e.2 < all.length := by
      simpa using (List.mem_zipIdx listed).2.1
    rw [List.take_append_of_le_length (Nat.le_of_lt inside)]
  rw [firsts, List.zipIdx_append, List.filter_append, List.map_append, before, ← firsts]
  congr 1
  by_cases met : ∃ q ∈ all, place w q = place w p
  · rw [if_pos met]
    obtain ⟨q, member, same⟩ := met
    simp only [List.zipIdx_singleton, Nat.zero_add, List.map_eq_nil_iff]
    rw [List.filter_cons_of_neg]
    · rfl
    · simpa using ⟨q, member, same⟩
  · rw [if_neg met]
    simp only [List.zipIdx_singleton, Nat.zero_add]
    rw [List.filter_cons_of_pos]
    · rfl
    · simpa using met

theorem mem_of_mem_firsts (member : p ∈ firsts w all) : p ∈ all := by
  rw [firsts] at member
  obtain ⟨e, listed, rfl⟩ := List.mem_map.mp member
  exact List.fst_mem_of_mem_zipIdx (List.mem_filter.mp listed).1

/-- Whatever a path leads to, one that is kept leads there too. -/
theorem exists_first (member : p ∈ all) : ∃ q ∈ firsts w all, place w q = place w p := by
  induction all using List.reverseRecOn generalizing p with
  | nil => contradiction
  | append_singleton all last ih =>
    rw [firsts_concat]
    rcases List.mem_append.mp member with old | new
    · obtain ⟨q, kept, same⟩ := ih old
      exact ⟨q, List.mem_append_left _ kept, same⟩
    · obtain rfl := List.mem_singleton.mp new
      split
      · rename_i met
        obtain ⟨q, before, same⟩ := met
        obtain ⟨r, kept, same'⟩ := ih before
        exact ⟨r, List.mem_append_left _ kept, same'.trans same⟩
      · exact ⟨p, List.mem_append_right _ (List.mem_singleton.mpr rfl), rfl⟩

theorem pairwise_firsts (w : Workspace) (all : List Path) :
    (firsts w all).Pairwise fun p q => place w p ≠ place w q := by
  induction all using List.reverseRecOn with
  | nil => exact .nil
  | append_singleton all p ih =>
    rw [firsts_concat]
    split
    · rwa [List.append_nil]
    · rename_i fresh
      apply List.pairwise_append.mpr
      refine ⟨ih, List.pairwise_singleton _ _, ?_⟩
      intro q kept r last same
      rw [List.mem_singleton.mp last] at same
      exact fresh ⟨q, mem_of_mem_firsts kept, same⟩

theorem firsts_eq_self (distinct : all.Pairwise fun p q => place w p ≠ place w q) :
    firsts w all = all := by
  induction all using List.reverseRecOn with
  | nil => rfl
  | append_singleton all p ih =>
    obtain ⟨before, _, last⟩ := List.pairwise_append.mp distinct
    rw [firsts_concat, ih before, if_neg]
    rintro ⟨q, member, same⟩
    exact last q member p (List.mem_singleton.mpr rfl) same

end Firsts

section Loop
variable {w : Workspace} {exclude : List String} {seen paths all done : List Path} {p : Path}

/-- What paths stand for, one after another: a directory for its files, any other path for itself. -/
inductive Expansion (w : Workspace) (exclude : List String) : List Path → List Path → Prop where
  | nil : Expansion w exclude [] []
  | directory {p paths files more} : w.isDirectory p = .ok true →
      markdownFiles w p exclude = .ok files → Expansion w exclude paths more →
      Expansion w exclude (p :: paths) (files ++ more)
  | other {p paths more} : w.isDirectory p = .ok false → Expansion w exclude paths more →
      Expansion w exclude (p :: paths) (p :: more)

/-- The places `seen` are those of the paths that are done. -/
def Seen (w : Workspace) (done seen : List Path) : Prop :=
  ∀ c, c ∈ seen ↔ ∃ q ∈ done, place w q = some c

theorem Seen.step (seenDone : Seen w done seen) {c : Path} (leads : place w p = some c) :
    Seen w (done ++ [p]) (c :: seen) := by
  intro c'
  simp only [List.mem_cons, seenDone c', List.mem_append, List.not_mem_nil, or_false, or_and_right,
    exists_or, exists_eq_left, leads, Option.some.injEq]
  rw [or_comm, eq_comm]

theorem Seen.skip (seenDone : Seen w done seen) {c : Path} (leads : place w p = some c)
    (met : c ∈ seen) : Seen w (done ++ [p]) seen := by
  intro c'
  rw [← seenDone.step leads c', List.mem_cons]
  exact ⟨.inr, fun either => either.elim (fun same => same ▸ met) id⟩

/-- One path after another, the loop keeps those that come first. -/
theorem keepNew_eq (seenDone : Seen w done seen)
    (resolved : ∀ p ∈ all, ∃ c, w.tree.canonical w.cwd p = .ok c) :
    ∃ kept seen', keepNew w seen all = .ok (kept, seen') ∧
      firsts w (done ++ all) = firsts w done ++ kept ∧ Seen w (done ++ all) seen' := by
  induction all generalizing done seen with
  | nil => exact ⟨[], seen, rfl, by simp, by rwa [List.append_nil]⟩
  | cons p rest ih =>
    obtain ⟨⟨c, told⟩, resolved⟩ := List.forall_mem_cons.mp resolved
    have leads := place_eq_some.mpr told
    have split : done ++ p :: rest = done ++ [p] ++ rest := by simp
    have met : c ∈ seen ↔ ∃ q ∈ done, place w q = place w p := by rw [leads, seenDone c]
    rw [keepNew, told, ok_bind, split]
    by_cases old : c ∈ seen
    · obtain ⟨kept, seen', looped, first, after⟩ := ih (seenDone.skip leads old) resolved
      rw [firsts_concat, if_pos (met.mp old), List.append_nil] at first
      refine ⟨kept, seen', ?_, first, after⟩
      rw [if_pos (by simpa using old), looped]
    · obtain ⟨kept, seen', looped, first, after⟩ := ih (seenDone.step leads) resolved
      rw [firsts_concat, if_neg (mt met.mpr old)] at first
      refine ⟨p :: kept, seen', ?_, first.trans (List.append_assoc _ _ _), after⟩
      rw [if_neg (by simpa using old), looped]
      rfl

/-- What the first path stands for is kept before what the others stand for. -/
theorem documentsFrom_cons {part more : List Path} (expanded : expand w exclude p = .ok part)
    (seenDone : Seen w done seen) (resolved : ∀ p ∈ part, ∃ c, w.tree.canonical w.cwd p = .ok c)
    (others : ∀ done seen, Seen w done seen → ∃ kept,
      documentsFrom w exclude seen paths = .ok kept ∧ firsts w (done ++ more) = firsts w done ++ kept) :
    ∃ kept, documentsFrom w exclude seen (p :: paths) = .ok kept ∧
      firsts w (done ++ (part ++ more)) = firsts w done ++ kept := by
  obtain ⟨kept, seen', looped, first, after⟩ := keepNew_eq seenDone resolved
  obtain ⟨kept', looped', first'⟩ := others _ _ after
  refine ⟨kept ++ kept', ?_, ?_⟩
  · rw [documentsFrom, expanded, ok_bind, looped, ok_bind]
    dsimp only
    rw [looped']
    rfl
  · rw [← List.append_assoc, first', first, List.append_assoc]

theorem documentsFrom_eq (expansion : Expansion w exclude paths all) (seenDone : Seen w done seen)
    (resolved : ∀ p ∈ all, ∃ c, w.tree.canonical w.cwd p = .ok c) :
    ∃ kept, documentsFrom w exclude seen paths = .ok kept ∧
      firsts w (done ++ all) = firsts w done ++ kept := by
  induction expansion generalizing done seen with
  | nil => exact ⟨[], rfl, by simp⟩
  | directory isDirectory listed _ ih =>
    obtain ⟨resolved, others⟩ := List.forall_mem_append.mp resolved
    apply documentsFrom_cons _ seenDone resolved
    · intro done seen seenDone
      exact ih seenDone others
    · rw [expand, isDirectory, ok_bind, if_pos rfl, listed]
  | @other p paths more noDirectory _ ih =>
    obtain ⟨resolved, others⟩ := List.forall_mem_cons.mp resolved
    have expanded : expand w exclude p = .ok [p] := by
      rw [expand, noDirectory, ok_bind]
      rfl
    apply documentsFrom_cons expanded seenDone (List.forall_mem_singleton.mpr resolved)
    intro done seen seenDone
    exact ih seenDone others

/-- The documents are the first paths to their places in all that the given paths stand for. -/
theorem documents_eq (expansion : Expansion w exclude paths all)
    (resolved : ∀ p ∈ all, ∃ c, w.tree.canonical w.cwd p = .ok c) :
    documents w paths exclude = .ok (firsts w all) := by
  have start : Seen w [] [] := by simp [Seen]
  obtain ⟨kept, looped, first⟩ := documentsFrom_eq expansion start resolved
  rw [documents, looped]
  exact congrArg _ first.symm

theorem Expansion.of_expand {part more : List Path} (expanded : expand w exclude p = .ok part)
    (expansion : Expansion w exclude paths more) :
    Expansion w exclude (p :: paths) (part ++ more) := by
  obtain ⟨b, kind, expanded⟩ := exists_of_bind expanded
  cases b with
  | true => exact .directory kind expanded expansion
  | false =>
    rw [← Except.ok.inj expanded]
    exact .other kind expansion

/-- Where the loop goes through, so did each of its steps. -/
theorem steps_of_documentsFrom {kept : List Path}
    (done : documentsFrom w exclude seen (p :: paths) = .ok kept) :
    ∃ part both more, expand w exclude p = .ok part ∧ keepNew w seen part = .ok both ∧
      documentsFrom w exclude both.2 paths = .ok more := by
  rw [documentsFrom] at done
  obtain ⟨part, expanded, done⟩ := exists_of_bind done
  obtain ⟨both, looped, done⟩ := exists_of_bind done
  obtain ⟨more, others, _⟩ := exists_of_bind done
  exact ⟨part, both, more, expanded, looped, others⟩

theorem exists_expansion_of_documents {kept : List Path}
    (done : documentsFrom w exclude seen paths = .ok kept) :
    ∃ all, Expansion w exclude paths all := by
  induction paths generalizing seen kept with
  | nil => exact ⟨[], .nil⟩
  | cons p paths ih =>
    obtain ⟨part, _, _, expanded, _, others⟩ := steps_of_documentsFrom done
    obtain ⟨more, expansion⟩ := ih others
    exact ⟨part ++ more, .of_expand expanded expansion⟩

end Loop

section Documents
variable {w : Workspace} {exclude : List String} {paths all files : List Path} {p q root : Path}

/-- A path that can be asked for its kind, as can be all that lies below it. -/
structure Followable (w : Workspace) (p : Path) : Prop where
  itself : ¬ w.TooLong p
  below : ∀ d, w.find p = .ok d → w.tree.isDirectoryAt d = true →
    ∀ r, Lies w.tree d r → ¬ w.TooLong (p.join ⟨.relative, r⟩)

theorem isDirectory_true_iff : w.isDirectory p = .ok true ↔
    ∃ d, w.find p = .ok d ∧ w.tree.isDirectoryAt d = true := by
  rw [Workspace.isDirectory, Workspace.isKind_true_iff]
  apply exists_congr
  intro d
  rw [FileTree.isDirectoryAt_iff]
  constructor
  · rintro ⟨n, found, there, kind⟩
    cases n with
    | directory mode => exact ⟨found, mode, there⟩
    | _ => contradiction
  · rintro ⟨found, mode, there⟩
    exact ⟨_, found, there, rfl⟩

/-- Where there is a file there is no directory. -/
theorem find_of_isFile (file : w.isFile p = .ok true) :
    ∃ l, w.find p = .ok l ∧ w.isDirectory p = .ok false := by
  obtain ⟨l, n, found, there, kind⟩ := Workspace.isKind_true_iff.mp file
  refine ⟨l, found, ?_⟩
  rw [Workspace.isDirectory, Workspace.isKind_of_find found, there]
  cases n with
  | file mode bytes => rfl
  | _ => contradiction

theorem isFile_of_listed (formed : w.tree.WellFormed) (isDirectory : w.isDirectory p = .ok true)
    (listed : markdownFiles w p exclude = .ok files) (member : q ∈ files) :
    w.isFile q = .ok true := by
  obtain ⟨d, found, inside⟩ := isDirectory_true_iff.mp isDirectory
  obtain ⟨files', listed', listing⟩ : ∃ files, markdownFiles w p exclude = .ok files ∧
      Listing w p exclude d files :=
    exists_listing formed found inside fun r lies =>
      not_tooLong_of_listed formed found inside listed lies
  obtain rfl := Except.ok.inj (listed.symm.trans listed')
  obtain ⟨r, _, _, wanted⟩ := (listing.complete q).mp member
  exact wanted.file

theorem Expansion.noDirectory (formed : w.tree.WellFormed)
    (expansion : Expansion w exclude paths all) : ∀ q ∈ all, w.isDirectory q = .ok false := by
  induction expansion with
  | nil => simp
  | directory isDirectory listed _ ih =>
    refine List.forall_mem_append.mpr ⟨?_, ?_⟩
    · intro q member
      obtain ⟨l, _, other⟩ := find_of_isFile (isFile_of_listed formed isDirectory listed member)
      exact other
    · exact ih
  | other noDirectory _ ih => exact List.forall_mem_cons.mpr ⟨noDirectory, ih⟩

theorem Expansion.resolved (homed : w.Homed) (expansion : Expansion w exclude paths all)
    (resolved : ∀ p ∈ paths, ∃ c, w.tree.canonical w.cwd p = .ok c) :
    ∀ q ∈ all, ∃ c, w.tree.canonical w.cwd q = .ok c := by
  induction expansion with
  | nil => simp
  | directory isDirectory listed _ ih =>
    refine List.forall_mem_append.mpr ⟨?_, ?_⟩
    · intro q member
      obtain ⟨l, found, _⟩ :=
        find_of_isFile (isFile_of_listed homed.formed isDirectory listed member)
      exact ⟨_, Workspace.canonical_of_find homed found⟩
    · exact ih (List.forall_mem_cons.mp resolved).2
  | other _ _ ih =>
    obtain ⟨first, others⟩ := List.forall_mem_cons.mp resolved
    exact List.forall_mem_cons.mpr ⟨first, ih others⟩

/-- Paths none of which leads to a directory stand for themselves. -/
theorem Expansion.self (exclude : List String) (plain : ∀ q ∈ all, w.isDirectory q = .ok false) :
    Expansion w exclude all all := by
  induction all with
  | nil => exact .nil
  | cons p rest ih =>
    obtain ⟨first, others⟩ := List.forall_mem_cons.mp plain
    exact .other first (ih others)

theorem followable_of_listed (formed : w.tree.WellFormed) (isDirectory : w.isDirectory p = .ok true)
    (listed : markdownFiles w p exclude = .ok files) : Followable w p where
  itself := Workspace.exists_isKind_iff.mp ⟨_, isDirectory⟩
  below _ found inside _ lies := not_tooLong_of_listed formed found inside listed lies

theorem followable_of_other (noDirectory : w.isDirectory p = .ok false) : Followable w p where
  itself := Workspace.exists_isKind_iff.mp ⟨_, noDirectory⟩
  below d found inside := by
    have isDirectory := isDirectory_true_iff.mpr ⟨d, found, inside⟩
    exact absurd (noDirectory.symm.trans isDirectory) (by simp)

theorem exists_expansion_iff (formed : w.tree.WellFormed) (exclude : List String) :
    (∃ all, Expansion w exclude paths all) ↔ ∀ p ∈ paths, Followable w p := by
  constructor
  · rintro ⟨all, expansion⟩
    induction expansion with
    | nil => simp
    | directory isDirectory listed _ ih =>
      exact List.forall_mem_cons.mpr ⟨followable_of_listed formed isDirectory listed, ih⟩
    | other noDirectory _ ih =>
      exact List.forall_mem_cons.mpr ⟨followable_of_other noDirectory, ih⟩
  · intro followable
    induction paths with
    | nil => exact ⟨[], .nil⟩
    | cons p paths ih =>
      obtain ⟨first, others⟩ := List.forall_mem_cons.mp followable
      obtain ⟨more, expansion⟩ := ih others
      obtain ⟨b, kind⟩ : ∃ b, w.isDirectory p = .ok b := Workspace.exists_isKind_iff.mpr first.itself
      cases b with
      | false => exact ⟨_, .other kind expansion⟩
      | true =>
        obtain ⟨d, found, inside⟩ := isDirectory_true_iff.mp kind
        obtain ⟨files, listed, _⟩ : ∃ files, markdownFiles w p exclude = .ok files ∧
            Listing w p exclude d files :=
          exists_listing formed found inside (first.below d found inside)
        exact ⟨_, .directory kind listed expansion⟩

/-- Paths that can be resolved have documents exactly where they can be followed. -/
theorem exists_documents_iff (homed : w.Homed)
    (resolved : ∀ p ∈ paths, ∃ c, w.tree.canonical w.cwd p = .ok c) (exclude : List String) :
    (∃ kept, documents w paths exclude = .ok kept) ↔ ∀ p ∈ paths, Followable w p := by
  rw [← exists_expansion_iff homed.formed exclude]
  constructor
  · rintro ⟨kept, done⟩
    exact exists_expansion_of_documents done
  · rintro ⟨all, expansion⟩
    exact ⟨_, documents_eq expansion (expansion.resolved homed resolved)⟩

/-- Paths that can be resolved have their documents, which are the first paths to their places in all that
the paths stand for and of which no two lead to one place, each place being led to, and which are their
own documents, if and only if the paths can be followed. -/
theorem documents_firsts_iff (homed : w.Homed)
    (resolved : ∀ p ∈ paths, ∃ c, w.tree.canonical w.cwd p = .ok c) (exclude : List String) :
    (∃ all, Expansion w exclude paths all ∧ documents w paths exclude = .ok (firsts w all) ∧
      (firsts w all).Pairwise (fun p q => ∀ l, w.find p = .ok l → w.find q ≠ .ok l) ∧
      (∀ p ∈ all, ∃ q ∈ firsts w all, w.tree.canonical w.cwd q = w.tree.canonical w.cwd p) ∧
      ∀ exclude', documents w (firsts w all) exclude' = .ok (firsts w all)) ↔
    ∀ p ∈ paths, Followable w p := by
  rw [← exists_expansion_iff homed.formed exclude]
  apply exists_congr
  intro all
  refine ⟨And.left, ?_⟩
  intro expansion
  have told := expansion.resolved homed resolved
  refine ⟨expansion, documents_eq expansion told, ?_, ?_, ?_⟩
  · apply (pairwise_firsts w all).imp
    intro p q differ l first second
    have leads (p : Path) (found : w.find p = .ok l) : place w p = some ⟨.root, l⟩ :=
      place_eq_some.mpr (Workspace.canonical_of_find homed found)
    exact differ ((leads p first).trans (leads q second).symm)
  · intro p member
    obtain ⟨q, kept, same⟩ := exists_first (w := w) member
    obtain ⟨c, leads⟩ := told p member
    have leads' : place w q = some c := same.trans (place_eq_some.mpr leads)
    exact ⟨q, kept, (place_eq_some.mp leads').trans leads.symm⟩
  · intro exclude'
    have plain : ∀ q ∈ firsts w all, w.isDirectory q = .ok false := fun q kept =>
      expansion.noDirectory homed.formed q (mem_of_mem_firsts kept)
    have again := documents_eq (Expansion.self exclude' plain) fun q kept =>
      told q (mem_of_mem_firsts kept)
    rwa [firsts_eq_self (pairwise_firsts w all)] at again

end Documents

section Instances
open FenceCheck.FileTree

theorem homed_shelf (target : String) : (shelf target).Homed where
  formed := formed_shelf target
  inside := rfl
  named := by simp [shelf]

/-- A document and the directory that holds it have the same documents as either of them. -/
theorem documents_firsts_iff_shelf :
    let w := shelf "a.md"
    let paths := [docs.join ⟨.relative, ["a.md"]⟩, docs]
    w.Homed ∧ (∀ p ∈ paths, ∃ c, w.tree.canonical w.cwd p = .ok c) ∧
      ∃ all, Expansion w [] paths all ∧ documents w paths [] = .ok (firsts w all) ∧
        ∀ exclude, documents w (firsts w all) exclude = .ok (firsts w all) := by
  intro w paths
  have homed := homed_shelf "a.md"
  have resolved : ∀ p ∈ paths, ∃ c, w.tree.canonical w.cwd p = .ok c :=
    List.forall_mem_cons.mpr ⟨⟨_, Workspace.canonical_of_find homed (find_document "a.md")⟩,
      List.forall_mem_singleton.mpr ⟨_, Workspace.canonical_of_find homed (find_docs "a.md")⟩⟩
  have document : Followable w (docs.join ⟨.relative, ["a.md"]⟩) := by
    constructor
    · rw [Workspace.TooLong, find_document]
      simp
    · intro d found inside
      obtain rfl := Except.ok.inj ((find_document "a.md").symm.trans found)
      contradiction
  have directory : Followable w docs := by
    constructor
    · rw [Workspace.TooLong, find_docs]
      simp
    · intro d found inside r lies
      obtain rfl := Except.ok.inj ((find_docs "a.md").symm.trans found)
      exact short_shelf lies
  have followable : ∀ p ∈ paths, Followable w p :=
    List.forall_mem_cons.mpr ⟨document, List.forall_mem_singleton.mpr directory⟩
  obtain ⟨all, expansion, given, _, _, again⟩ :=
    (documents_firsts_iff homed resolved []).mpr followable
  exact ⟨homed, resolved, all, expansion, given, again⟩

/-- A path that leads nowhere, and whose name is too long, can be resolved but is not kept. -/
theorem long_path_not_kept :
    let w : Workspace := ⟨.empty, []⟩
    let p : Path := ⟨.relative, [longName]⟩
    w.Homed ∧ w.tree.canonical w.cwd p = .ok ⟨.root, [longName]⟩ ∧
      documents w [p] [] = .error (Workspace.refused p .nameTooLong) := by
  intro w p
  have homed : w.Homed := ⟨⟨by decide, by decide, by decide⟩, rfl, by decide⟩
  have named : ¬ p.hasNul = true := by simp [p, Path.hasNul, mem_longName]
  have walked : w.tree.walk true linkLimit [] [longName] = .error .nameTooLong :=
    walk_longName rfl true linkLimit []
  refine ⟨homed, ?_, ?_⟩
  · have notDot : longName ≠ "." := by decide +kernel
    have notDots : longName ≠ ".." := by decide +kernel
    have settled : w.tree.settle w.cwd (w.tree.openLimit w.cwd + 1) [] (.start w.cwd p) p.parts =
        (true, ⟨.above 0, [longName]⟩) := by
      change w.tree.settle [] 1 [] ⟨.above 0, []⟩ [longName] = _
      rw [settle, if_neg notDot, if_neg notDots]
      change settle _ [] 1 [] ⟨.above 0, [longName]⟩ [] = _
      rw [settle]
    have collapsed : collapse [longName] = [longName] :=
      collapse_of_named (List.forall_mem_singleton.mpr ⟨notDot, notDots⟩)
    have spotted : w.tree.spot [] true ⟨.root, [longName]⟩ = .error .nameTooLong := by
      have short : ¬ pathLimit < (Path.mk .root [longName]).text.utf8ByteSize := by decide +kernel
      rw [spot, if_neg short]
      exact walked
    simp only [canonical, if_neg named, settled, collapsed, spotted]
  · have long : w.TooLong p :=
      Workspace.tooLong_of_walk (by simpa using named) (by decide +kernel) walked
    have refused : w.isDirectory p = .error (Workspace.refused p .nameTooLong) :=
      Workspace.isKind_of_tooLong long
    rw [documents, documentsFrom, expand, refused]
    rfl

end Instances
end FenceCheck.Discovery
