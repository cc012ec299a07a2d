import FenceCheck.Proofs.FileTree.Workspace
import FenceCheck.Proofs.Settings.Layers
import FenceCheck.Proofs.Text.Utf8

/-! When settings are loaded, and what they are. The file is judged as a whole before the environment
is, so a value of the wrong kind is refused even where a variable takes its place; whether the values
can be used is only asked of what the layers come to. -/
namespace FenceCheck.Settings
open FenceCheck.Number

section Files
variable {w : Workspace} {directory p : Path} {asked chosen : Option Path}
variable {document table entries : Toml.Entries} {key : String}

/-- The settings file of a run: the one that is asked for, else that of the tool in the directory, else
the one that tools share, else none. -/
inductive Selects (w : Workspace) (directory : Path) : Option Path → Option Path → Prop where
  | asked (p : Path) : Selects w directory (some p) (some p)
  | own {home : Path} : w.tree.canonical w.cwd directory = .ok home →
      w.isFile (home.child "snippetctl.toml") = .ok true →
      Selects w directory none (some (home.child "snippetctl.toml"))
  | shared {home : Path} : w.tree.canonical w.cwd directory = .ok home →
      w.isFile (home.child "snippetctl.toml") = .ok false →
      w.isFile (home.child "pyproject.toml") = .ok true →
      Selects w directory none (some (home.child "pyproject.toml"))
  | neither {home : Path} : w.tree.canonical w.cwd directory = .ok home →
      w.isFile (home.child "snippetctl.toml") = .ok false →
      w.isFile (home.child "pyproject.toml") = .ok false →
      Selects w directory none none

theorem join_ownFile (home : Path) : home.join (.ofText ownFile) = home.child "snippetctl.toml" := by
  have named : Path.ofText ownFile = ⟨.relative, ["snippetctl.toml"]⟩ := by decide +kernel
  rw [named]
  rfl

theorem join_sharedFile (home : Path) :
    home.join (.ofText sharedFile) = home.child "pyproject.toml" := by
  have named : Path.ofText sharedFile = ⟨.relative, ["pyproject.toml"]⟩ := by decide +kernel
  rw [named]
  rfl

theorem chooseFile_of_selects (selects : Selects w directory asked chosen) :
    chooseFile w asked directory = .ok chosen := by
  cases selects with
  | asked p => rfl
  | own here isOwn => simp [chooseFile, findFile, here, join_ownFile, isOwn]
  | shared here noOwn isShared =>
    simp [chooseFile, findFile, here, join_ownFile, join_sharedFile, noOwn, isShared]
  | neither here noOwn noShared =>
    simp [chooseFile, findFile, here, join_ownFile, join_sharedFile, noOwn, noShared]

/-- What the settings file holds, nothing where there is none. -/
def Holds (w : Workspace) (chosen : Option Path) (document : Toml.Entries) : Prop :=
  match chosen with
  | none => document = []
  | some p => ∃ text, w.readText p = .ok text ∧ Toml.read text = .ok document

/-- The tool's own table in a document that tools share: empty if it is absent, and none if something
else stands in its place. -/
def ownTable? (document : Toml.Entries) : Option Toml.Entries :=
  match document.lookup "tool" with
  | some (.table tools) =>
    match tools.lookup "snippetctl" with
    | some (.table own) => some own
    | some _ => none
    | none => some []
  | _ => some []

/-- The table of the settings in what the file holds. -/
def tableOf (chosen : Option Path) (document : Toml.Entries) : Option Toml.Entries :=
  match chosen with
  | none => some document
  | some p => if p.name = "pyproject.toml" then ownTable? document else some document

theorem proper_of_holds (holds : Holds w chosen document) : document.Proper := by
  cases chosen with
  | none =>
    obtain rfl : document = [] := holds
    exact .nil
  | some p =>
    obtain ⟨text, _, read⟩ := holds
    exact Toml.proper_of_read read

theorem proper_ownTable? (proper : document.Proper) (found : ownTable? document = some table) :
    table.Proper := by
  simp only [ownTable?] at found
  split at found
  · rename_i tools isTable
    have inner : Toml.Entries.Proper tools := proper.lookup isTable
    split at found
    · rename_i own isOwn
      obtain rfl := Option.some.inj found
      exact inner.lookup isOwn
    · contradiction
    · obtain rfl := Option.some.inj found
      exact .nil
  · obtain rfl := Option.some.inj found
    exact .nil

theorem proper_tableOf (proper : document.Proper) (found : tableOf chosen document = some table) :
    table.Proper := by
  simp only [tableOf] at found
  split at found
  · exact Option.some.inj found ▸ proper
  · split at found
    · exact proper_ownTable? proper found
    · exact Option.some.inj found ▸ proper

theorem valueAt_sharedTable (document : Toml.Entries) :
    valueAt (.table document) sharedTable =
      match document.lookup "tool" with
      | some (.table tools) => (tools.lookup "snippetctl").getD (.table [])
      | _ => .table [] := by
  simp only [sharedTable, valueAt]
  cases document.lookup "tool" with
  | none => rfl
  | some v => cases v <;> rfl

theorem readDocument_of_holds (holds : Holds w (some p) document) :
    readDocument w p = .ok document := by
  obtain ⟨text, opened, read⟩ := holds
  simp only [readDocument, opened, read]

theorem fileValues_of_holds (holds : Holds w (some p) document) : fileValues w p =
    match tableOf (some p) document with
    | some table => .ok table
    | none => .error (invalid p.text "[tool.snippetctl] must be a table") := by
  rw [fileValues, readDocument_of_holds holds, ok_bind]
  by_cases shared : p.name = "pyproject.toml"
  · rw [if_neg (by simpa [sharedFile] using shared), valueAt_sharedTable]
    simp only [tableOf, shared, if_true, ownTable?]
    cases document.lookup "tool" with
    | none => rfl
    | some v =>
      cases v with
      | table tools =>
        dsimp only
        cases tools.lookup "snippetctl" with
        | none => rfl
        | some own => cases own <;> rfl
      | _ => rfl
  · rw [if_pos (by simpa [sharedFile] using shared)]
    simp only [tableOf, shared, if_false]
    rfl

/-- The values that a table gives, as a layer. -/
def layerOf (table : Toml.Entries) : Layer :=
  table.map fun e => (e.1, .ofToml e.2)

theorem keys_layerOf (table : Toml.Entries) : (layerOf table).map Prod.fst = table.map Prod.fst := by
  simp [layerOf]

end Files

section Variables
variable {env : Environment} {key value : String}

/-- What the variable of a key is set to, without the blanks around it, unless it is all blank. -/
def exported? (env : Environment) (key : String) : Option String :=
  (ownVariables.lookup key).bind fun name =>
    (env.get? name).bind fun value =>
      if Text.isBlankText value then none else some (Text.strip value)

theorem read_cons (env : Environment) (k name : String) (rest : List (String × String)) :
    env.read ((k, name) :: rest) =
      match (env.get? name).bind fun value =>
        if Text.isBlankText value then none else some (Text.strip value) with
      | none => env.read rest
      | some value => (k, value) :: env.read rest := by
  simp only [Environment.read, List.filterMap_cons]
  cases env.get? name with
  | none => rfl
  | some value =>
    by_cases blank : Text.isBlankText value = true
    · simp [blank]
    · simp [blank]

theorem keys_read_subset (env : Environment) (names : List (String × String)) :
    ∀ key ∈ (env.read names).map Prod.fst, key ∈ names.map Prod.fst := by
  induction names with
  | nil => simp [Environment.read]
  | cons e rest ih =>
    obtain ⟨k, name⟩ := e
    intro key member
    rw [read_cons] at member
    split at member
    · exact List.mem_cons_of_mem k (ih key member)
    · rcases List.mem_cons.mp member with rfl | later
      · exact List.mem_cons_self
      · exact List.mem_cons_of_mem k (ih key later)

theorem distinct_read (env : Environment) {names : List (String × String)}
    (distinct : (names.map Prod.fst).Nodup) : ((env.read names).map Prod.fst).Nodup := by
  induction names with
  | nil => simp [Environment.read]
  | cons e rest ih =>
    obtain ⟨k, name⟩ := e
    obtain ⟨fresh, distinct⟩ := List.nodup_cons.mp distinct
    rw [read_cons]
    split
    · exact ih distinct
    · apply List.nodup_cons.mpr
      constructor
      · intro again
        exact fresh (keys_read_subset env rest k again)
      · exact ih distinct

/-- Each key is given what its own variable is set to. -/
theorem lookup_read (env : Environment) {names : List (String × String)}
    (distinct : (names.map Prod.fst).Nodup) (key : String) :
    (env.read names).lookup key = (names.lookup key).bind fun name =>
      (env.get? name).bind fun value =>
        if Text.isBlankText value then none else some (Text.strip value) := by
  induction names with
  | nil => rfl
  | cons e rest ih =>
    obtain ⟨k, name⟩ := e
    obtain ⟨fresh, distinct⟩ := List.nodup_cons.mp distinct
    rw [read_cons, List.lookup_cons]
    by_cases here : key = k
    · subst here
      have gone : (env.read rest).lookup key = none :=
        Bindings.lookup_eq_none_iff.mpr fun again => fresh (keys_read_subset env rest key again)
      simp only [beq_self_eq_true, Option.bind_some]
      split
      · rename_i unset
        rw [gone, unset]
      · rename_i value set_
        rw [List.lookup_cons_self, set_]
    · have other : (key == k) = false := by simpa using here
      simp only [other]
      rw [← ih distinct]
      split
      · rfl
      · rw [List.lookup_cons, other]

theorem distinct_ownVariables : (ownVariables.map Prod.fst).Nodup := by decide

theorem keys_environmentLayer (env : Environment) :
    ((environmentLayer env).map Prod.fst).Nodup ∧ ∀ e ∈ environmentLayer env, e.1 ∈ keys := by
  have same : (environmentLayer env).map Prod.fst = (environmentValues env).map Prod.fst := by
    simp [environmentLayer]
  have known : ∀ key ∈ ownVariables.map Prod.fst, key ∈ keys := by decide
  constructor
  · rw [same]
    exact distinct_read env distinct_ownVariables
  · intro e listed
    apply known
    apply keys_read_subset env ownVariables
    exact same ▸ List.mem_map_of_mem listed

theorem lookup_environmentLayer (env : Environment) (key : String) :
    (environmentLayer env).lookup key = (exported? env key).map .text := by
  have layer : environmentLayer env = (environmentValues env).map fun e => (e.1, .text e.2) := rfl
  rw [layer, Bindings.lookup_map, environmentValues, lookup_read env distinct_ownVariables]
  rfl

theorem acceptable_environmentLayer_iff :
    Acceptable (environmentLayer env) ↔
      ∀ key value, exported? env key = some value → Fits key (.text value) := by
  obtain ⟨distinct, known⟩ := keys_environmentLayer env
  have listed (key : String) (v : Given) : (key, v) ∈ environmentLayer env ↔
      (exported? env key).map .text = some v := by
    rw [← lookup_environmentLayer, Bindings.lookup_eq_some_iff distinct]
  constructor
  · intro fine key value set_
    exact fine.fits (key, .text value) ((listed key _).mpr (by rw [set_]; rfl))
  · intro fits
    constructor
    · exact known
    · rintro ⟨key, v⟩ member
      obtain ⟨value, set_, rfl⟩ := Option.map_eq_some_iff.mp ((listed key v).mp member)
      exact fits key value set_

end Variables

section Loading
variable {w : Workspace} {env : Environment} {directory : Path} {asked chosen : Option Path}
variable {document table : Toml.Entries} {key : String} {s : Settings}

/-- What is given for a key: by its variable, else by the file. -/
def given? (table : Toml.Entries) (env : Environment) (key : String) : Option Given :=
  match exported? env key with
  | some value => some (.text value)
  | none => (table.lookup key).map .ofToml

/-- What file and environment come to, each field on its own. -/
def merged (table : Toml.Entries) (env : Environment) : Settings where
  language := ((given? table env "language").bind textOf?).getD "python"
  paths := ((given? table env "paths").bind textsOf?).getD ["."]
  out := ((given? table env "out").bind textOf?).getD "snippetctl-report.json"
  jobs := ((given? table env "jobs").bind wholeOf?).getD 1
  onReadError := ((given? table env "on_read_error").bind textOf?).getD "abort"
  timeout := (given? table env "timeout").bind realOf?
  exclude := ((given? table env "exclude").bind textsOf?).getD []

/-- Where a variable is set to something that can be taken, the file's value is not asked for. -/
theorem given?_bind {α : Type} (table : Toml.Entries) (key : String) (read : Given → Option α)
    (make : α → Change) (changes : ∀ v, changeOf? key v = (read v).map make)
    (fits : ∀ key value, exported? env key = some value → Fits key (.text value)) :
    (given? table env key).bind read =
      (((environmentLayer env).lookup key).bind read).or (((layerOf table).lookup key).bind read) := by
  rw [lookup_environmentLayer, layerOf, Bindings.lookup_map, given?]
  cases set_ : exported? env key with
  | none => rfl
  | some value =>
    have taken : (read (.text value)).isSome = true := by
      simpa [Fits, changes] using fits key value set_
    obtain ⟨a, taken⟩ := Option.isSome_iff_exists.mp taken
    simp [taken]

theorem getD_or {α : Type} (a b : Option α) (c : α) : (a.or b).getD c = a.getD (b.getD c) := by
  cases a <;> rfl

/-- The layers one over the other give each field what is given for its key. -/
theorem overlay_eq_merged (table : Toml.Entries)
    (fits : ∀ key value, exported? env key = some value → Fits key (.text value)) :
    overlay (overlay {} (layerOf table)) (environmentLayer env) = merged table env := by
  have language := given?_bind table "language" textOf? .language (fun _ => rfl) fits
  have paths := given?_bind table "paths" textsOf? .paths (fun _ => rfl) fits
  have out := given?_bind table "out" textOf? .out (fun _ => rfl) fits
  have jobs := given?_bind table "jobs" wholeOf? .jobs (fun _ => rfl) fits
  have policy := given?_bind table "on_read_error" textOf? .onReadError (fun _ => rfl) fits
  have timeout := given?_bind table "timeout" realOf? .timeout (fun _ => rfl) fits
  have exclude := given?_bind table "exclude" textsOf? .exclude (fun _ => rfl) fits
  simp only [merged, language, paths, out, jobs, policy, timeout, exclude, getD_or]
  simp only [overlay, Option.or_none]

/-- The table of a file makes a layer that is read if its keys are known and its values fit. -/
theorem exists_coerce_layerOf_iff (source : String) :
    (∃ changes, coerce source (layerOf table) = .ok changes) ↔
      ∀ e ∈ table, e.1 ∈ keys ∧ Fits e.1 (.ofToml e.2) := by
  rw [exists_coerce_iff]
  constructor
  · intro fine e member
    have listed : (e.1, Given.ofToml e.2) ∈ layerOf table := List.mem_map.mpr ⟨e, member, rfl⟩
    exact ⟨fine.known _ listed, fine.fits _ listed⟩
  · intro each
    constructor
    · intro e listed
      obtain ⟨e, member, rfl⟩ := List.mem_map.mp listed
      exact (each e member).1
    · intro e listed
      obtain ⟨e, member, rfl⟩ := List.mem_map.mp listed
      exact (each e member).2

/-- What is left to do once the changes of the file are known. -/
theorem finish_eq_ok_iff {source : String} {fromFile : List Change}
    (distinct : (table.map Prod.fst).Nodup)
    (coerced : coerce source (layerOf table) = .ok fromFile) :
    (do let fromEnvironment ← coerce "environment" (environmentLayer env)
        checked ((({} : Settings).applyAll fromFile).applyAll fromEnvironment)) = .ok s ↔
      (∀ key value, exported? env key = some value → Fits key (.text value)) ∧
        Usable (merged table env) ∧ s = (merged table env).normalized := by
  obtain ⟨distinctEnv, _⟩ := keys_environmentLayer env
  have fromTable : ({} : Settings).applyAll fromFile = overlay {} (layerOf table) :=
    applyAll_of_coerce (by rwa [keys_layerOf]) coerced {}
  rw [fromTable, ← acceptable_environmentLayer_iff, ← exists_coerce_iff "environment"]
  constructor
  · intro done
    obtain ⟨changes, read, done⟩ := exists_of_bind done
    rw [applyAll_of_coerce distinctEnv read, overlay_eq_merged] at done
    · obtain ⟨usable, same⟩ := checked_eq_ok_iff.mp done
      exact ⟨⟨changes, read⟩, usable, same.symm⟩
    · exact acceptable_environmentLayer_iff.mp ((exists_coerce_iff _).mp ⟨changes, read⟩)
  · rintro ⟨⟨changes, read⟩, usable, rfl⟩
    rw [read, ok_bind, applyAll_of_coerce distinctEnv read, overlay_eq_merged]
    · exact checked_eq_ok_iff.mpr ⟨usable, rfl⟩
    · exact acceptable_environmentLayer_iff.mp ((exists_coerce_iff _).mp ⟨changes, read⟩)

theorem map_eq_layerOf (table : Toml.Entries) :
    (table.map fun (key, value) => (key, Given.ofToml value)) = layerOf table :=
  rfl

/-- Settings are loaded if the file has a table for them whose keys are known, each value of the file and
of the environment can be taken on its own, and what they come to can be used; and they are what the
layers come to, field by field, with the tag of the language normalized. -/
theorem load_eq_ok_iff (selects : Selects w directory asked chosen) (holds : Holds w chosen document)
    (env : Environment) (s : Settings) :
    (load w env asked directory = .ok s ↔
      ∃ table, tableOf chosen document = some table ∧
        (∀ e ∈ table, e.1 ∈ keys ∧ Fits e.1 (.ofToml e.2)) ∧
        (∀ key value, exported? env key = some value → Fits key (.text value)) ∧
        Usable (merged table env) ∧ s = (merged table env).normalized) ∧
    (tableOf chosen document = none →
      ∃ e, load w env asked directory = .error (.run e) ∧ IsConfigError e) := by
  have proper := proper_of_holds holds
  rw [load, chooseFile_of_selects selects]
  cases chosen with
  | none =>
    obtain rfl : document = [] := holds
    have nothing : coerce "" (layerOf []) = .ok [] := rfl
    constructor
    · simp only [mapError_ok, ok_bind, pure_eq, tableOf, Option.some.injEq, exists_eq_left']
      rw [finish_eq_ok_iff (by simp) nothing]
      simp
    · intro absent
      simp [tableOf] at absent
  | some p =>
    simp only [mapError_ok, ok_bind, fileLayer, fileValues_of_holds holds]
    cases found : tableOf (some p) document with
    | none =>
      constructor
      · simp
      · intro _
        exact ⟨_, rfl, rfl, rfl⟩
    | some table =>
      have distinct := (proper_tableOf proper found).distinct
      constructor
      · simp only [ok_bind, pure_eq, map_eq_layerOf, Option.some.injEq, exists_eq_left']
        rw [← exists_coerce_layerOf_iff p.text]
        cases coerced : coerce p.text (layerOf table) with
        | error e => simp
        | ok fromFile =>
          rw [ok_bind, finish_eq_ok_iff distinct coerced]
          simp
      · intro absent
        contradiction

section Instances

/-- A tree with a settings file at its top and nothing else. -/
def configured (bytes : List UInt8) : Workspace :=
  ⟨⟨[([ownFile], .file 0o644 bytes)]⟩, []⟩

/-- The settings file at the top of a tree. -/
def topFile : Path := (Path.mk .root []).child "snippetctl.toml"

theorem node_configured (bytes : List UInt8) :
    (configured bytes).node topFile = .ok (.file 0o644 bytes) := by
  have plain : FileTree.Plain ownFile := by constructor <;> decide
  have there : (configured bytes).tree.get? [ownFile] = some (.file 0o644 bytes) := rfl
  have found : (configured bytes).spot true topFile = .ok (.taken [ownFile]) := by
    refine Workspace.spot_eq_ok.mpr ⟨by decide, by decide, ?_⟩
    refine (FileTree.walk_down rfl plain there (by simp)).trans ?_
    rw [FileTree.walk]
    rfl
  rw [Workspace.node, Workspace.find_eq, found]
  rfl

theorem selects_configured (bytes : List UInt8) :
    Selects (configured bytes) ⟨.root, []⟩ none (some topFile) := by
  have here : (configured bytes).tree.canonical [] ⟨.root, []⟩ = .ok ⟨.root, []⟩ := by cbv
  refine .own here ?_
  change (configured bytes).isFile topFile = .ok true
  rw [Workspace.isFile, Workspace.isKind, node_configured]

theorem holds_configured {text : String} {document : Toml.Entries} (plain : '\r' ∉ text.toList)
    (read : Toml.read text.toList = .ok document) :
    Holds (configured (Text.Utf8.encode text.toList)) (some topFile) document := by
  refine ⟨text.toList, ?_, read⟩
  rw [Workspace.readText, Workspace.readBytes, node_configured]
  simp [Text.Utf8.decode_encode, Text.unifyLineEnds_eq_self plain]

/-- Too few jobs of the file do not matter where the environment names others, but a value that is no
number does. -/
theorem load_eq_ok_iff_overridden :
    let env := [("SNIPPETCTL_JOBS", "2")]
    let w (text : String) := configured (Text.Utf8.encode text.toList)
    let start : Path := ⟨.root, []⟩
    Selects (w "jobs = 0") start none (some topFile) ∧
      Holds (w "jobs = 0") (some topFile) [("jobs", .int 0)] ∧
      load (w "jobs = 0") env none start = .ok { jobs := 2 } ∧
      ∀ s, load (w "jobs = []") env none start ≠ .ok s := by
  intro env w start
  have few : Holds (w "jobs = 0") (some topFile) [("jobs", .int 0)] :=
    holds_configured (by decide) rfl
  have noNumber : Holds (w "jobs = []") (some topFile) [("jobs", .array [])] :=
    holds_configured (by decide) rfl
  have set_ : environmentLayer env = [("jobs", .text "2")] := by cbv
  refine ⟨selects_configured _, few, ?_, ?_⟩
  · refine ((load_eq_ok_iff (selects_configured _) few env _).1).mpr ⟨_, rfl, ?_, ?_, ?_, ?_⟩
    · simp only [List.forall_mem_singleton]
      exact ⟨by decide, rfl⟩
    · refine acceptable_environmentLayer_iff.mp ?_
      rw [set_]
      constructor
      · simp only [List.forall_mem_singleton]
        decide
      · simp only [List.forall_mem_singleton]
        rfl
    · constructor
      · decide +kernel
      · intro x given
        cbv at given
        contradiction
      · decide +kernel
      · decide +kernel
    · rw [normalized]
      decide +kernel
  · intro s loaded
    obtain ⟨table, found, fits, _⟩ :=
      ((load_eq_ok_iff (selects_configured _) noNumber env s).1).mp loaded
    obtain rfl := Option.some.inj found
    have fits := (fits ("jobs", .array []) List.mem_cons_self).2
    contradiction

end Instances
end Loading
end FenceCheck.Settings
