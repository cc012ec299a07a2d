import FenceCheck.Proofs.Report.Encoding
import FenceCheck.Proofs.Report.Exchange

/-! What a reader sees while reports are exchanged at one path. Until the directory of the report is
there no more happens than that directories are made, and from then on the exchange goes on in what the
workspace has come to. Main statement: at every moment a reader sees what was there before, or the whole
report that was put in place last, and in the end nothing else is left. -/
namespace FenceCheck.Report
open Workspace FenceCheck.Text
variable {ι : Type} {jobs : ι → Writing} {out : Path} {temps : Path → Prop}
variable {w v : Workspace} {s : Scene ι}

/-- A reader who follows the path after a report was put in place comes to that report. -/
theorem During.place_true (during : During jobs out temps v s) (aside : Aside v out temps) {i : ι}
    {earlier : List ι} (renamed : s.renamed = i :: earlier) : ∃ l mode bytes,
      v.place false out = some l ∧ s.workspace.place true out = some l ∧
        (jobs i).encoded = .ok bytes ∧ s.workspace.tree.get? l = some (.file mode bytes) := by
  obtain ⟨l, there, _, _, mode, bytes, coded, file⟩ := during.placed i earlier renamed
  have now := there
  rw [← during.place_eq aside (Or.inl rfl)] at now
  exact ⟨l, mode, bytes, there, place_true_of_file now file, coded, file⟩

/-- A reader sees what was there, or the whole report that was put in place last. -/
theorem During.look_eq (during : During jobs out temps v s) (arena : Arena jobs out temps v) :
    match s.renamed with
    | [] => s.workspace.look out = v.look out
    | i :: _ => ∃ mode bytes, (jobs i).encoded = .ok bytes ∧
        s.workspace.look out = some (.file mode bytes) := by
  cases renamed : s.renamed with
  | nil =>
    have same := place_congr during.cwd (during.passage_of_none renamed) true out
    rw [Workspace.look_eq, Workspace.look_eq, same]
    cases there : v.place true out with
    | none => rfl
    | some l =>
      refine during.frame l ?_ fun some_ => absurd renamed some_
      rintro ⟨i, t, holding, rfl⟩
      obtain ⟨temp, at_, free, _⟩ := during.owned i t holding
      exact arena.unclaimed _ there free _ temp at_
  | cons i earlier =>
    obtain ⟨l, mode, bytes, _, there, coded, file⟩ := during.place_true arena.aside renamed
    refine ⟨mode, bytes, coded, ?_⟩
    rw [Workspace.look_eq, there]
    exact file

/-- What holds at every moment: before the directory of the report is there, no more has happened than
that directories were made; afterwards the exchange goes on in what the workspace had come to then. -/
inductive Kept (jobs : ι → Writing) (out : Path) (temps : Path → Prop) (w : Workspace)
    (s : Scene ι) : Prop where
  | early (grown : Grown w out s.workspace)
      (idle : ∀ i, s.stage i = .start ∨ ∃ f, s.stage i = .failed f) (none_ : s.renamed = [])
  | late {u : Workspace} (grown : Grown w out u) (found : u.Reached out.anchor out.parent.parts)
      (during : During jobs out temps u s)

theorem Kept.of_grown (grown : Grown w out s.workspace) (none_ : s.renamed = [])
    (idle : ∀ i, s.stage i = .start ∨ (∃ f, s.stage i = .failed f) ∨
      s.stage i = .prepared ∧ s.workspace.Reached out.anchor out.parent.parts) :
    Kept jobs out temps w s := by
  -- what the workspace has come to when the directory is first there is where the exchange starts
  by_cases found : s.workspace.Reached out.anchor out.parent.parts
  · have empty (i : ι) : (s.stage i).temporary? = none := by
      rcases idle i with stage | ⟨f, stage⟩ | ⟨stage, _⟩ <;> rw [stage] <;> rfl
    refine .late grown found ⟨rfl, ?_, ?_, fun _ _ _ => rfl, ?_⟩
    · intro i t holding
      simp [empty] at holding
    · intro i j t u holding
      simp [empty] at holding
    · intro i earlier renamed
      simp [none_] at renamed
  · refine .early grown (fun i => ?_) none_
    rcases idle i with stage | stage | ⟨_, there⟩
    · exact Or.inl stage
    · exact Or.inr stage
    · exact absurd there found

theorem Kept.opening (rooted : w.tree.Rooted) : Kept jobs out temps w (.opening ι w) :=
  .early (.refl rooted) (fun _ => Or.inl rfl) rfl

section Acts
variable [DecidableEq ι]

theorem Kept.advance_early (arena : Arena jobs out temps w) (settled : Settled w out)
    (grown : Grown w out s.workspace)
    (idle : ∀ i, s.stage i = .start ∨ ∃ f, s.stage i = .failed f) (none_ : s.renamed = []) (i : ι) :
    Kept jobs out temps w (s.perform jobs (.advance i)) := by
  simp only [Scene.perform]
  rcases idle i with stage | ⟨f, stage⟩
  · rw [stage, record_of_not_ready i s.renamed (by simp)]
    have grown' : Grown w out (s.workspace.makeDirectories out.parent).1 :=
      grown.makeDirectories settled arena.noDot
    simp only [Writing.advance, arena.shared]
    cases made : s.workspace.makeDirectories out.parent with
    | mk u r =>
      rw [made] at grown'
      cases r with
      | ok _ =>
        refine .of_grown grown' none_ fun j => ?_
        by_cases mine : j = i
        · subst mine
          exact Or.inr (Or.inr ⟨During.move_stage_self .., makeDirectories_reached made⟩)
        · simp only [During.move_stage_of_ne s mine]
          exact (idle j).imp_right Or.inl
      | error f =>
        refine .of_grown grown' none_ fun j => ?_
        by_cases mine : j = i
        · subst mine
          exact Or.inr (Or.inl ⟨f, During.move_stage_self ..⟩)
        · simp only [During.move_stage_of_ne s mine]
          exact (idle j).imp_right Or.inl
  · rw [record_of_not_ready i s.renamed (by simp [stage]), stage]
    have same := move_self s i s.workspace
    rw [stage] at same
    simp only [Writing.advance, same]
    exact .early grown idle none_

theorem Kept.act (kept : Kept jobs out temps w s) (arena : Arena jobs out temps w)
    (settled : Settled w out) (a : Act ι) : Kept jobs out temps w (s.act jobs a) := by
  cases kept with
  | late grown found during => exact .late grown found (during.act (arena.grown grown) found a)
  | early grown idle none_ =>
    rw [Scene.act]
    split
    · exact .early grown idle none_
    · cases a with
      | advance i => exact .advance_early arena settled grown idle none_ i
      | ascend i depth =>
        simp only [Scene.perform]
        split
        · split
          · rename_i made
            rw [arena.shared] at made
            exact .early (grown.makeDirectory settled arena.noDot made) idle none_
          · exact .early grown idle none_
        · exact .early grown idle none_
      | spill i count =>
        simp only [Scene.perform]
        split
        · rename_i t stage
          rcases idle i with other | ⟨f, other⟩ <;> simp [stage] at other
        · exact .early grown idle none_
      | refuse i e =>
        refine .early grown (fun j => ?_) none_
        by_cases mine : j = i
        · subst mine
          simp only [Scene.perform, During.move_stage_self]
          rcases idle j with stage | ⟨g, stage⟩
          · exact Or.inr ⟨.system e, by rw [stage]; rfl⟩
          · exact Or.inr ⟨g, by rw [stage]; rfl⟩
        · simp only [Scene.perform, During.move_stage_of_ne s mine]
          exact idle j
      | crash i => exact .early grown idle none_

theorem Kept.after (kept : Kept jobs out temps w s) (arena : Arena jobs out temps w)
    (settled : Settled w out) (acts : List (Act ι)) :
    Kept jobs out temps w (s.after jobs acts) := by
  induction acts generalizing s with
  | nil => exact kept
  | cons a acts ih => exact ih (kept.act arena settled a)

end Acts

theorem Kept.look_eq (kept : Kept jobs out temps w s) (arena : Arena jobs out temps w) :
    match s.renamed with
    | [] => s.workspace.look out = w.look out
    | i :: _ => ∃ mode bytes, (jobs i).encoded = .ok bytes ∧
        s.workspace.look out = some (.file mode bytes) := by
  cases kept with
  | early grown idle none_ =>
    rw [none_]
    exact grown.look_eq
  | late grown found during =>
    have seen := during.look_eq (arena.grown grown)
    cases renamed : s.renamed with
    | nil =>
      rw [renamed] at seen
      exact seen.trans grown.look_eq
    | cons i earlier =>
      rw [renamed] at seen
      exact seen

/-- The names of the fresh files that writings may make. -/
def Temporaries (jobs : ι → Writing) (w : Workspace) (p : Path) : Prop :=
  ∃ i, ∃ token ∈ (jobs i).tokens, p = (jobs i).temporary w token

/-- The name of a fresh file is longer than that of the report. -/
theorem beside_temporaries (shared : ∀ i, (jobs i).out = out) (w : Workspace) :
    Beside out (Temporaries jobs w) := by
  rintro _ ⟨i, token, _, rfl⟩
  have dot : ".".length = 1 := rfl
  have dots : "..".length = 2 := rfl
  have suffix : ".tmp".length = 4 := rfl
  refine ⟨_, _, rfl, ?_, ?_, ?_⟩
  · intro same
    have lengths := congrArg String.length same
    simp only [String.length_append] at lengths
    omega
  · intro same
    have lengths := congrArg String.length same
    simp only [String.length_append] at lengths
    omega
  · intro same
    have lengths := congrArg String.length same
    simp only [String.length_append, shared] at lengths
    omega

section Acts
variable [DecidableEq ι]

/-- At the path is what was there before, as long as no report was put in place, and from then on the
whole text of the report that was put in place last. -/
def Seen (w : Workspace) (out : Path) (reports : ι → List Entry) (s : Scene ι) : Prop :=
  match s.renamed with
  | [] => s.workspace.look out = w.look out
  | i :: _ => ∃ text bytes mode, serialize (reports i) = .ok text ∧ Utf8.encodePoints text = .ok bytes ∧
      s.workspace.look out = some (.file mode bytes)

theorem ofReport_eq_ok_iff {report : List Entry} {out : Path} {tokens : List String} {job : Writing} :
    Writing.ofReport report out tokens = .ok job ↔
      ∃ text, serialize report = .ok text ∧ job = ⟨out, text, tokens⟩ := by
  rw [Writing.ofReport]
  cases serialize report with
  | error e => simp
  | ok text => simp [eq_comm]

end Acts

/-- A directory with a link to itself, and what else is there. -/
def mirror (fresh : List (Location × Node)) : Workspace :=
  ⟨⟨(["self"], .link ".") :: fresh⟩, []⟩

/-- The writing of an empty report to the link, by way of the link. -/
def mirrored (_ : Unit) : Writing :=
  ⟨⟨.relative, ["self", "self"]⟩, codePoints "[]\n", ["token"]⟩

/-- The bytes of an empty report. -/
def emptyReport : List UInt8 :=
  Utf8.encode "[]\n".toList

theorem encoded_mirrored : (mirrored ()).encoded = .ok emptyReport := rfl

/-- Its fresh file. -/
def mirrorFile : Temporary :=
  ⟨⟨.root, ["self", ".self.token.tmp"]⟩, [".self.token.tmp"]⟩

section Mirror
variable (fresh : List (Location × Node)) (mode : Nat) (bytes : List UInt8)

theorem plain_self : FileTree.Plain "self" := by constructor <;> decide

theorem plain_mirrorFile : FileTree.Plain ".self.token.tmp" := by constructor <;> decide

theorem targetParts_dot : FileTree.targetParts "." = [] := by decide +kernel

theorem walk_mirror (follow : Bool) (links : Nat) (name : String) :
    (mirror fresh).tree.walk follow (links + 1) [] ["self", name] =
      (mirror fresh).tree.walk follow links [] [name] := by
  rw [FileTree.walk_link rfl plain_self rfl (Or.inl (by simp)), if_neg (by omega),
    if_neg (by decide), targetParts_dot]
  rfl

theorem walk_mirror_end (links : Nat) :
    (mirror fresh).tree.walk true (links + 1) [] ["self"] = .ok (.taken []) := by
  rw [FileTree.walk_link rfl plain_self rfl (Or.inr rfl), if_neg (by omega),
    if_neg (by decide), targetParts_dot, List.append_nil, FileTree.walk]
  rfl

theorem spot_mirror : (mirror fresh).spot false ⟨.relative, ["self"]⟩ = .ok (.taken ["self"]) :=
  spot_eq_ok.mpr ⟨by decide, by decide, FileTree.walk_link_end rfl plain_self rfl⟩

theorem spot_mirror_true : (mirror fresh).spot true ⟨.relative, ["self"]⟩ = .ok (.taken []) :=
  spot_eq_ok.mpr ⟨by decide, by decide, walk_mirror_end fresh 39⟩

theorem spot_mirrored : (mirror fresh).spot false (mirrored ()).out = .ok (.taken ["self"]) :=
  spot_eq_ok.mpr ⟨by decide, by decide,
    (walk_mirror fresh false 39 "self").trans (FileTree.walk_link_end rfl plain_self rfl)⟩

theorem spot_mirrored_true : (mirror fresh).spot true (mirrored ()).out = .ok (.taken []) :=
  spot_eq_ok.mpr ⟨by decide, by decide,
    (walk_mirror fresh true 39 "self").trans (walk_mirror_end fresh 38)⟩

theorem spot_mirrorFile_free :
    (mirror []).spot false mirrorFile.path = .ok (.vacant mirrorFile.place) :=
  spot_eq_ok.mpr ⟨by decide, by decide,
    (walk_mirror [] false 39 ".self.token.tmp").trans
      (FileTree.walk_free rfl plain_mirrorFile rfl)⟩

theorem spot_mirrorFile (follow : Bool) :
    (mirror [(mirrorFile.place, .file mode bytes)]).spot follow mirrorFile.path =
      .ok (.taken mirrorFile.place) := by
  refine spot_eq_ok.mpr ⟨by decide, by decide, ?_⟩
  refine (walk_mirror _ follow 39 ".self.token.tmp").trans ?_
  rw [FileTree.walk_down rfl plain_mirrorFile rfl (by simp), FileTree.walk]
  rfl

theorem advance_mirror_start :
    (mirrored ()).advance (mirror []) .start = (mirror [], .prepared) := by
  have parent : (mirrored ()).out.parent = ⟨.relative, ["self"]⟩ := rfl
  rw [Writing.advance, parent, makeDirectories]
  simp [makeDirectory, spot_mirror, isDirectory, isKind, node, find_eq, spot_mirror_true, refused,
    Except.bind]

theorem advance_mirror_prepared : (mirrored ()).advance (mirror []) .prepared =
    (mirror [(mirrorFile.place, .file privateMode [])], .created mirrorFile) := by
  have name : (mirrored ()).temporary (mirror []) "token" = mirrorFile.path := by decide
  have tokens : (mirrored ()).tokens = ["token"] := rfl
  simp only [Writing.advance, tokens, Writing.create, name, createFile, spot_mirrorFile_free]
  rfl

theorem advance_mirror_written :
    (mirrored ()).advance (mirror [(mirrorFile.place, .file mode bytes)]) (.written mirrorFile) =
      (mirror [(mirrorFile.place, .file 0o755 bytes)], .ready mirrorFile) := by
  have given : (mirrored ()).mode (mirror [(mirrorFile.place, .file mode bytes)]) = .ok 0o755 := by
    simp [Writing.mode, node, find_eq, spot_mirrored_true, Except.bind]
  have there := place_eq_some.mpr ⟨_, spot_mirrorFile mode bytes true, rfl⟩
  simp only [Writing.advance, given, ok_bind, setMode_file there rfl]
  rfl

theorem advance_mirror_ready :
    (mirrored ()).advance (mirror [(mirrorFile.place, .file mode bytes)]) (.ready mirrorFile) =
      (⟨⟨[(["self"], .file mode bytes)]⟩, []⟩, .done) := by
  rw [Writing.advance, rename_eq (spot_mirrorFile mode bytes false) (spot_mirrored _)]
  rfl

/-- Once the report has replaced the link there is no way to it. -/
theorem look_mirror : (Workspace.mk ⟨[(["self"], .file mode bytes)]⟩ []).look (mirrored ()).out =
    none := by
  obtain ⟨e, failed⟩ : ∃ e, (FileTree.mk [(["self"], .file mode bytes)]).walk true
      FileTree.linkLimit ["self"] ["self"] = .error e :=
    FileTree.walk_blocked (Or.inl rfl) true FileTree.linkLimit []
  have lost : (FileTree.mk [(["self"], .file mode bytes)]).route true FileTree.linkLimit []
      ["self", "self"] = none := by
    rw [FileTree.route, FileTree.walk_down rfl plain_self rfl (by simp)]
    exact FileTree.route_of_error failed
  have missing : (Workspace.mk ⟨[(["self"], .file mode bytes)]⟩ []).place true (mirrored ()).out =
      none := by
    rw [place_eq_route, if_neg (by decide)]
    exact lost
  rw [Workspace.look_eq, missing]
  rfl

end Mirror

/-- A report, and perhaps a directory beside it. -/
def attic (made : List (Location × Node)) (mode : Nat := 0o644) : Workspace :=
  ⟨⟨(["old"], .file mode []) :: made⟩, []⟩

/-- The way to it through the directory. -/
def detour : Path :=
  ⟨.relative, ["new", "..", "old"]⟩

/-- The writing of another report in its place, by way of the directory. -/
def climbing (text : List CodePoint) (_ : Unit) : Writing :=
  ⟨detour, text, ["token"]⟩

@[simp] theorem out_climbing (text : List CodePoint) : (climbing text ()).out = detour := rfl

section Attic
variable (text : List CodePoint) (mode : Nat)

theorem plain_new : FileTree.Plain "new" := by constructor <;> decide

theorem plain_old : FileTree.Plain "old" := by constructor <;> decide

theorem spot_attic (follow : Bool) (rest : List String) (more : rest ≠ [])
    (short : ¬ FileTree.pathLimit < (Path.mk .relative ("new" :: rest)).text.utf8ByteSize)
    (named : (Path.mk .relative ("new" :: rest)).hasNul = false) :
    (attic [] mode).spot follow ⟨.relative, "new" :: rest⟩ =
      .error (refused ⟨.relative, "new" :: rest⟩ .notFound) := by
  have missing : (attic [] mode).tree.walk follow FileTree.linkLimit [] ("new" :: rest) =
      .error .notFound := (FileTree.walk_free rfl plain_new rfl).trans (if_neg more)
  have start : FileTree.startOf (attic [] mode).cwd ⟨.relative, "new" :: rest⟩ = [] := rfl
  rw [spot, if_neg (by simp [named]), FileTree.spot, if_neg short, start, missing]
  rfl

theorem spot_attic_made (follow : Bool) :
    (attic [(["new"], .directory 0o755)] mode).spot follow ⟨.relative, ["new", ".."]⟩ =
      .ok (.taken []) := by
  refine spot_eq_ok.mpr ⟨by decide, by decide, ?_⟩
  refine (FileTree.walk_down rfl plain_new rfl (by simp)).trans ?_
  rw [FileTree.walk_up rfl, FileTree.walk]
  rfl

theorem advance_attic_start : (climbing text ()).advance (attic [] mode) .start =
    (attic [(["new"], .directory 0o755)] mode, .prepared) := by
  have parent : (climbing text ()).out.parent = ⟨.relative, ["new", ".."]⟩ := rfl
  have above : (Path.mk .relative ["new", ".."]).parent = ⟨.relative, ["new"]⟩ := rfl
  have free : (attic [] mode).spot false ⟨.relative, ["new"]⟩ = .ok (.vacant ["new"]) :=
    spot_eq_ok.mpr ⟨by decide, by decide, FileTree.walk_free rfl plain_new rfl⟩
  have made : (attic [] mode).makeDirectory ⟨.relative, ["new"]⟩ =
      .ok (attic [(["new"], .directory 0o755)] mode) := by
    rw [makeDirectory, free]
    rfl
  have refused_ := spot_attic mode false [".."] (by simp) (by decide) (by decide)
  have first : (attic [] mode).makeDirectory ⟨.relative, ["new", ".."]⟩ =
      .error (refused ⟨.relative, ["new", ".."]⟩ .notFound) := by
    rw [makeDirectory, refused_]
    rfl
  have second : (attic [(["new"], .directory 0o755)] mode).makeDirectory ⟨.relative, ["new", ".."]⟩ =
      .error (refused ⟨.relative, ["new", ".."]⟩ .exists) := by
    rw [makeDirectory, spot_attic_made]
    rfl
  have there : (attic [(["new"], .directory 0o755)] mode).isDirectory ⟨.relative, ["new", ".."]⟩ =
      .ok true := by
    rw [isDirectory, isKind, node, find_eq, spot_attic_made]
    rfl
  have directories : (attic [] mode).makeDirectories ⟨.relative, ["new"]⟩ =
      (attic [(["new"], .directory 0o755)] mode, .ok ()) := by
    rw [makeDirectories, made]
  rw [Writing.advance, parent, makeDirectories, first]
  simp [refused, above, directories, second, there]

end Attic

end FenceCheck.Report
