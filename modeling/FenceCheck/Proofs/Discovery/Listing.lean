import FenceCheck.Proofs.Discovery.Names
import FenceCheck.Proofs.FileTree.Kinds

/-! Which Markdown files a directory stands for. They are told by their names from the directory on, in
strict order, and they are all that lie below it without being left out, unless something below it cannot
be asked for its kind. -/
namespace FenceCheck.Discovery
open FenceCheck.Text

section Filter
variable {ε α : Type} {f : α → Except ε Bool} {keeps : α → Bool} {names kept done : List α}

theorem filterAuxM_of_ok (answers : ∀ x ∈ names, f x = .ok (keeps x)) (done : List α) :
    names.filterAuxM f done = .ok ((names.filter keeps).reverse ++ done) := by
  induction names generalizing done with
  | nil => rfl
  | cons x rest ih =>
    obtain ⟨first, others⟩ := List.forall_mem_cons.mp answers
    rw [List.filterAuxM, first, ok_bind, ih others]
    cases keep : keeps x <;> simp [keep]

/-- Where every question is answered, a filter keeps what is answered by yes. -/
theorem filterM_of_ok (answers : ∀ x ∈ names, f x = .ok (keeps x)) :
    names.filterM f = .ok (names.filter keeps) := by
  rw [List.filterM, filterAuxM_of_ok answers]
  simp

theorem answers_of_filterAuxM (filtered : names.filterAuxM f done = .ok kept) :
    ∀ x ∈ names, ∃ b, f x = .ok b := by
  induction names generalizing done with
  | nil => simp
  | cons x rest ih =>
    rw [List.filterAuxM] at filtered
    obtain ⟨b, first, filtered⟩ := exists_of_bind filtered
    exact List.forall_mem_cons.mpr ⟨⟨b, first⟩, ih filtered⟩

theorem answers_of_filterM (filtered : names.filterM f = .ok kept) :
    ∀ x ∈ names, ∃ b, f x = .ok b := by
  rw [List.filterM] at filtered
  obtain ⟨all, whole, _⟩ := exists_of_bind filtered
  exact answers_of_filterAuxM whole

end Filter

section Listing
variable {w v : Workspace} {root p q : Path} {d : Location} {r s : List String} {exclude : List String}

/-- A path to a Markdown file by the names `r` that lead to it from a directory, none of which is that of
a tool directory, and that fits no pattern, as a whole or by its last name. -/
structure Wanted (w : Workspace) (exclude : List String) (r : List String) (q : Path) : Prop where
  file : w.isFile q = .ok true
  markdown : lower q.suffix = ".md" ∨ lower q.suffix = ".markdown"
  noTool : ∀ name ∈ r, name ∉ toolDirectories
  noPattern : ∀ pattern ∈ exclude, fitsPattern pattern (String.intercalate "/" r) = false ∧
    fitsPattern pattern (r.getLastD "") = false

/-- The Markdown files below a directory at `d`, each once and in the order of paths. -/
structure Listing (w : Workspace) (root : Path) (exclude : List String) (d : Location)
    (files : List Path) : Prop where
  ordered : files.Pairwise fun p q => p.sortKey < q.sortKey
  complete : ∀ q, q ∈ files ↔
    ∃ r, Lies w.tree d r ∧ q = root.join ⟨.relative, r⟩ ∧ Wanted w exclude r q

theorem sortKey_join_lt (root : Path) (lower : r < s) :
    (root.join ⟨.relative, r⟩).sortKey < (root.join ⟨.relative, s⟩).sortKey := by
  have parts : root.parts ++ r < root.parts ++ s := List.append_left_lt lower
  cases anchor : root.anchor with
  | relative => simpa [Path.join, Path.sortKey, anchor] using parts
  | root => simpa [Path.join, Path.sortKey, anchor] using parts
  | doubled => simpa [Path.join, Path.sortKey, anchor] using parts

theorem name_join (root : Path) (some_ : r ≠ []) :
    (root.join ⟨.relative, r⟩).name = r.getLastD "" := by
  change (root.parts ++ r).getLastD "" = _
  rw [List.getLastD_eq_getLast?, List.getLastD_eq_getLast?, List.getLast?_append_of_ne_nil _ some_]

theorem wanted_iff (some_ : r ≠ []) : Wanted w exclude r (root.join ⟨.relative, r⟩) ↔
    w.isFile (root.join ⟨.relative, r⟩) = .ok true ∧
      (isMarkdown ⟨.relative, r⟩ && !isExcluded exclude ⟨.relative, r⟩) = true := by
  have suffix : (root.join ⟨.relative, r⟩).suffix = (Path.mk .relative r).suffix := by
    rw [Path.suffix, Path.suffix, name_join root some_]
    rfl
  have text : (Path.mk .relative r).text = String.intercalate "/" r := by
    simp [Path.text, some_, Anchor.text]
  have markdown : isMarkdown ⟨.relative, r⟩ = true ↔
      lower (root.join ⟨.relative, r⟩).suffix = ".md" ∨
        lower (root.join ⟨.relative, r⟩).suffix = ".markdown" := by
    simp [isMarkdown, markdownSuffixes, suffix]
  have excluded : isExcluded exclude ⟨.relative, r⟩ = false ↔
      (∀ name ∈ r, name ∉ toolDirectories) ∧ ∀ pattern ∈ exclude,
        fitsPattern pattern (String.intercalate "/" r) = false ∧
          fitsPattern pattern (r.getLastD "") = false := by
    simp [isExcluded, text, Path.name]
  rw [Bool.and_eq_true, Bool.not_eq_true', markdown, excluded]
  constructor
  · rintro ⟨file, markdown, noTool, noPattern⟩
    exact ⟨file, markdown, noTool, noPattern⟩
  · rintro ⟨file, markdown, noTool, noPattern⟩
    exact ⟨file, markdown, noTool, noPattern⟩

/-- The question whether a file is taken. -/
def takes (w : Workspace) (root : Path) (exclude r : List String) : Except Fault Bool := do
  let below : Path := ⟨.relative, r⟩
  return (← w.isFile (root.join below)) && isMarkdown below && !isExcluded exclude below

/-- It has an answer unless the path is too long to be followed. -/
theorem exists_takes_iff : (∃ b, takes w root exclude r = .ok b) ↔
    ¬ w.TooLong (root.join ⟨.relative, r⟩) := by
  have kind : (∃ b, w.isFile (root.join ⟨.relative, r⟩) = .ok b) ↔ _ := Workspace.exists_isKind_iff
  rw [← kind, takes]
  cases w.isFile (root.join ⟨.relative, r⟩) with
  | error f => simp
  | ok b => simp

theorem takes_true_iff (some_ : r ≠ []) : takes w root exclude r = .ok true ↔
    Wanted w exclude r (root.join ⟨.relative, r⟩) := by
  rw [wanted_iff some_, takes]
  cases w.isFile (root.join ⟨.relative, r⟩) with
  | error f => simp
  | ok b => simp [Bool.and_assoc]

theorem orderedNames_eq (found : w.find root = .ok d) (inside : w.tree.isDirectoryAt d = true) :
    orderedNames w root = .ok ((namesBelow w.tree d).mergeSort componentsLE) := by
  have directory : w.isDirectory root = .ok true := by
    obtain ⟨mode, there⟩ := FileTree.isDirectoryAt_iff.mp inside
    exact Workspace.isKind_true_iff.mpr ⟨d, _, found, there, rfl⟩
  rw [orderedNames, directory, ok_bind, if_pos rfl, found]
  rfl

theorem markdownFiles_eq (w : Workspace) (root : Path) (exclude : List String) :
    markdownFiles w root exclude = (do
      let kept ← (← orderedNames w root).filterM (takes w root exclude)
      return kept.map fun r => root.join ⟨.relative, r⟩) := rfl

/-- What the files are once each question has its answer. -/
theorem listing_of_takes (formed : w.tree.WellFormed) {keeps : List String → Bool}
    (answers : ∀ r ∈ namesBelow w.tree d, takes w root exclude r = .ok (keeps r)) :
    Listing w root exclude d ((((namesBelow w.tree d).mergeSort componentsLE).filter keeps).map
      fun r => root.join ⟨.relative, r⟩) := by
  have perm := List.mergeSort_perm (namesBelow w.tree d) componentsLE
  constructor
  · have distinct := perm.nodup_iff.mpr (nodup_namesBelow formed d)
    have strict : ((namesBelow w.tree d).mergeSort componentsLE).Pairwise (· < ·) :=
      (pairwise_mergeSort_components _).imp₂ (fun _ _ le ne => lt_of_le_of_ne le ne) distinct
    apply List.pairwise_map.mpr
    apply (strict.filter keeps).imp
    intro r s lower
    exact sortKey_join_lt root lower
  · intro q
    simp only [List.mem_map, List.mem_filter, perm.mem_iff]
    constructor
    · rintro ⟨r, ⟨member, kept⟩, rfl⟩
      have lies := (mem_namesBelow_iff formed).mp member
      refine ⟨r, lies, rfl, (takes_true_iff lies.below).mp ?_⟩
      rw [answers r member, kept]
    · rintro ⟨r, lies, rfl, wanted⟩
      have member := (mem_namesBelow_iff formed).mpr lies
      have taken := (takes_true_iff lies.below).mpr wanted
      exact ⟨r, ⟨member, Except.ok.inj ((answers r member).symm.trans taken)⟩, rfl⟩

theorem markdownFiles_congr (formed : w.tree.WellFormed) (sameCwd : v.cwd = w.cwd)
    (relisted : w.tree.entries.Perm v.tree.entries) (root : Path) (exclude : List String) :
    markdownFiles v root exclude = markdownFiles w root exclude := by
  have same := (FileTree.get?_of_perm formed relisted).symm
  have isFile (p : Path) : v.isFile p = w.isFile p := Workspace.isKind_congr sameCwd same _ p
  have isDirectory (p : Path) : v.isDirectory p = w.isDirectory p :=
    Workspace.isKind_congr sameCwd same _ p
  have names (d : Location) : (namesBelow v.tree d).mergeSort componentsLE =
      (namesBelow w.tree d).mergeSort componentsLE :=
    (mergeSort_components_congr (namesBelow_perm formed relisted d)).symm
  have takes : takes v root exclude = takes w root exclude := by
    funext r
    simp only [Discovery.takes, isFile]
  simp only [markdownFiles_eq, orderedNames, isDirectory, Workspace.find_congr sameCwd same, names,
    takes]

/-- Where files are listed, nothing below the directory is too long to be followed. -/
theorem not_tooLong_of_listed {files : List Path} (formed : w.tree.WellFormed)
    (found : w.find root = .ok d) (inside : w.tree.isDirectoryAt d = true)
    (listed : markdownFiles w root exclude = .ok files) (lies : Lies w.tree d r) :
    ¬ w.TooLong (root.join ⟨.relative, r⟩) := by
  rw [markdownFiles_eq, orderedNames_eq found inside, ok_bind] at listed
  obtain ⟨kept, filtered, _⟩ := exists_of_bind listed
  have member := (List.mergeSort_perm _ componentsLE).mem_iff.mpr
    ((mem_namesBelow_iff formed).mpr lies)
  exact exists_takes_iff.mp (answers_of_filterM filtered r member)

/-- Where nothing below a directory is too long to be followed, its files are listed. -/
theorem exists_listing (formed : w.tree.WellFormed) (found : w.find root = .ok d)
    (inside : w.tree.isDirectoryAt d = true)
    (short : ∀ r, Lies w.tree d r → ¬ w.TooLong (root.join ⟨.relative, r⟩)) :
    ∃ files, markdownFiles w root exclude = .ok files ∧ Listing w root exclude d files := by
  have answers : ∀ r ∈ namesBelow w.tree d,
      takes w root exclude r = .ok ((takes w root exclude r).toOption.getD false) := by
    intro r member
    obtain ⟨b, answered⟩ := exists_takes_iff.mpr (short r ((mem_namesBelow_iff formed).mp member))
    rw [answered]
    rfl
  have sorted : ∀ r ∈ (namesBelow w.tree d).mergeSort componentsLE,
      takes w root exclude r = .ok ((takes w root exclude r).toOption.getD false) := by
    intro r member
    exact answers r ((List.mergeSort_perm _ componentsLE).mem_iff.mp member)
  refine ⟨_, ?_, listing_of_takes formed answers⟩
  rw [markdownFiles_eq, orderedNames_eq found inside, ok_bind, filterM_of_ok sorted]
  rfl

/-- A directory has its listing if and only if nothing below it is too long to be followed, and in
whatever order the directories are listed, it has the same one. -/
theorem markdownFiles_listing_iff (formed : w.tree.WellFormed) (found : w.find root = .ok d)
    (inside : w.tree.isDirectoryAt d = true) (exclude : List String) :
    ((∃ files, markdownFiles w root exclude = .ok files ∧ Listing w root exclude d files) ↔
      ∀ r, Lies w.tree d r → ¬ w.TooLong (root.join ⟨.relative, r⟩)) ∧
    ∀ v : Workspace, v.cwd = w.cwd → w.tree.entries.Perm v.tree.entries →
      markdownFiles v root exclude = markdownFiles w root exclude := by
  constructor
  · constructor
    · rintro ⟨files, listed, _⟩ r lies
      exact not_tooLong_of_listed formed found inside listed lies
    · intro short
      exact exists_listing formed found inside short
  · intro v sameCwd relisted
    exact markdownFiles_congr formed sameCwd relisted root exclude

end Listing

section Instances
open FenceCheck.FileTree

/-- A directory with a document in it, and a link beside the document. -/
def shelf (target : String) : Workspace :=
  ⟨⟨[(["docs"], .directory 0o755), (["docs", "a.md"], .file 0o644 []),
    (["docs", "x.md"], .link target)]⟩, []⟩

def docs : Path := ⟨.relative, ["docs"]⟩

theorem formed_shelf (target : String) : (shelf target).tree.WellFormed where
  distinct := by simp [shelf]
  proper e listed := by
    simp only [shelf, List.mem_cons, List.not_mem_nil, or_false] at listed
    rcases listed with rfl | rfl | rfl <;> simp
  rooted e listed := by
    simp only [shelf, List.mem_cons, List.not_mem_nil, or_false] at listed
    rcases listed with rfl | rfl | rfl <;> rfl

theorem walk_docs (target : String) (rest : List String) :
    (shelf target).tree.walk true linkLimit [] ("docs" :: rest) =
      (shelf target).tree.walk true linkLimit ["docs"] rest := by
  have plain : Plain "docs" := by constructor <;> decide
  have there : (shelf target).tree.get? ([] ++ ["docs"]) = some (.directory 0o755) := rfl
  exact walk_down rfl plain there (by simp)

theorem walk_document (target : String) (links : Nat) :
    (shelf target).tree.walk true links ["docs"] ["a.md"] = .ok (.taken ["docs", "a.md"]) := by
  have plain : Plain "a.md" := by constructor <;> decide
  have there : (shelf target).tree.get? (["docs"] ++ ["a.md"]) = some (.file 0o644 []) := rfl
  exact (walk_down rfl plain there (by simp)).trans (walk_here ..)

theorem walk_beside (target : String) (some_ : target ≠ "") :
    (shelf target).tree.walk true linkLimit ["docs"] ["x.md"] =
      (shelf target).tree.walk true 39 (targetStart ["docs"] target) (targetParts target ++ []) := by
  have plain : Plain "x.md" := by constructor <;> decide
  have there : (shelf target).tree.get? (["docs"] ++ ["x.md"]) = some (.link target) := rfl
  rw [walk_link rfl plain there (.inr rfl), if_neg (by decide), if_neg some_]
  rfl

theorem find_docs (target : String) : (shelf target).find docs = .ok ["docs"] :=
  Workspace.find_of_walk (by decide) (by decide) ((walk_docs target []).trans (walk_here ..))

theorem find_document (target : String) :
    (shelf target).find (docs.join ⟨.relative, ["a.md"]⟩) = .ok ["docs", "a.md"] :=
  Workspace.find_of_walk (by decide) (by decide)
    ((walk_docs target ["a.md"]).trans (walk_document target linkLimit))

theorem namesBelow_shelf (target : String) :
    namesBelow (shelf target).tree ["docs"] = [["a.md"], ["x.md"]] := by cbv

theorem short_shelf {r : List String} (lies : Lies (shelf "a.md").tree ["docs"] r) :
    ¬ (shelf "a.md").TooLong (docs.join ⟨.relative, r⟩) := by
  have member := (mem_namesBelow_iff (formed_shelf "a.md")).mpr lies
  rw [namesBelow_shelf] at member
  have found : (shelf "a.md").find (docs.join ⟨.relative, r⟩) = .ok ["docs", "a.md"] := by
    simp only [List.mem_cons, List.not_mem_nil, or_false] at member
    rcases member with rfl | rfl
    · exact find_document "a.md"
    · have parts : targetParts "a.md" = ["a.md"] := by decide +kernel
      have start : targetStart ["docs"] "a.md" = ["docs"] := by decide +kernel
      have beside := (walk_docs "a.md" ["x.md"]).trans (walk_beside "a.md" (by decide))
      rw [parts, start] at beside
      exact Workspace.find_of_walk (by decide) (by decide)
        (beside.trans (walk_document "a.md" 39))
  rw [Workspace.TooLong, found]
  simp

/-- A link beside a document is part of the listing, where it leads to a document. -/
theorem markdownFiles_listing_iff_shelf :
    let w := shelf "a.md"
    w.tree.WellFormed ∧ w.find docs = .ok ["docs"] ∧ w.tree.isDirectoryAt ["docs"] = true ∧
      ∃ files, markdownFiles w docs [] = .ok files ∧ Listing w docs [] ["docs"] files := by
  intro w
  refine ⟨formed_shelf _, find_docs _, rfl, ?_⟩
  have listed := (markdownFiles_listing_iff (formed_shelf "a.md") (find_docs _) rfl []).1
  exact listed.mpr fun r lies => short_shelf lies

theorem tooLong_shelf : (shelf longName).TooLong (docs.join ⟨.relative, ["x.md"]⟩) := by
  have walked : (shelf longName).tree.walk true linkLimit [] ["docs", "x.md"] =
      .error .nameTooLong := by
    rw [walk_docs, walk_beside longName (by decide +kernel), targetParts_longName,
      targetStart_longName]
    exact walk_longName rfl true 39 []
  exact Workspace.tooLong_of_walk (by decide) (by decide) walked

/-- A link to a name that is too long leaves the document beside it without a listing. -/
theorem document_beside_long_link_unlisted :
    let w := shelf longName
    w.tree.WellFormed ∧ w.find docs = .ok ["docs"] ∧ w.tree.isDirectoryAt ["docs"] = true ∧
      Lies w.tree ["docs"] ["a.md"] ∧ Wanted w [] ["a.md"] (docs.join ⟨.relative, ["a.md"]⟩) ∧
      ∀ files, markdownFiles w docs [] ≠ .ok files := by
  intro w
  have formed := formed_shelf longName
  have lies (r : List String) (member : r ∈ [["a.md"], ["x.md"]]) : Lies w.tree ["docs"] r := by
    rwa [← mem_namesBelow_iff formed, namesBelow_shelf]
  refine ⟨formed, find_docs _, rfl, lies ["a.md"] (by simp), ?_, ?_⟩
  · have file : w.isFile (docs.join ⟨.relative, ["a.md"]⟩) = .ok true :=
      Workspace.isKind_true_iff.mpr ⟨_, _, find_document longName, rfl, rfl⟩
    exact (wanted_iff (by simp)).mpr ⟨file, by decide +kernel⟩
  · intro files listed
    have beside := lies ["x.md"] (by simp)
    exact not_tooLong_of_listed formed (find_docs _) rfl listed beside tooLong_shelf

end Instances
end FenceCheck.Discovery
