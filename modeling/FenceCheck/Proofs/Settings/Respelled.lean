import FenceCheck.Proofs.Discovery.Outline
import FenceCheck.Proofs.Settings.Accepted

/-! Layers that spell the language in another way. Nothing but the tag that all layers come to is ever
looked at, without the blanks around it and in small letters; so two layers that come to one tag come to
the same settings, or are refused for the same reason. -/
namespace FenceCheck.Settings

/-- Texts that come to one tag. -/
def SameTag (s t : String) : Prop :=
  normalizeLanguage s = normalizeLanguage t

section Layers
variable {source : String} {layer layer' : Layer} {s s' : Settings}

/-- Layers that differ in how they spell the language, and in nothing else. -/
inductive RespelledLayer : Layer → Layer → Prop where
  | nil : RespelledLayer [] []
  | same (e : String × Given) {rest rest' : Layer} :
      RespelledLayer rest rest' → RespelledLayer (e :: rest) (e :: rest')
  | tag {tag tag' : String} {rest rest' : Layer} : SameTag tag tag' → RespelledLayer rest rest' →
      RespelledLayer (("language", .text tag) :: rest) (("language", .text tag') :: rest')

theorem RespelledLayer.refl (layer : Layer) : RespelledLayer layer layer := by
  induction layer with
  | nil => exact .nil
  | cons e rest ih => exact .same e ih

theorem RespelledLayer.keys (respelled : RespelledLayer layer layer') :
    layer.map Prod.fst = layer'.map Prod.fst := by
  induction respelled with
  | nil => rfl
  | same e _ ih => exact congrArg (e.1 :: ·) ih
  | tag _ _ ih => exact congrArg ("language" :: ·) ih

theorem normalized_normalized (s : Settings) : s.normalized.normalized = s.normalized := by
  simp only [normalized, normalizeLanguage_idem]

theorem checked_normalized (s : Settings) : checked s.normalized = checked s := by
  simp only [checked, normalized, normalizeLanguage_idem]

theorem Change.normalized_congr (same : s.normalized = s'.normalized) (c : Change) :
    (c.apply s).normalized = (c.apply s').normalized := by
  have apply_ (s : Settings) : (c.apply s.normalized).normalized = (c.apply s).normalized := by
    cases c <;> simp [Change.apply, normalized, normalizeLanguage_idem]
  rw [← apply_, same, apply_]

/-- What settings come to under a layer, with the tag of their language normalized. -/
def settled (source : String) (s : Settings) (layer : Layer) : Outcome Settings :=
  (coerce source layer).map fun changes => (s.applyAll changes).normalized

theorem applyAll_cons (s : Settings) (c : Change) (rest : List Change) :
    s.applyAll (c :: rest) = (c.apply s).applyAll rest := rfl

theorem readChanges_cons_map {key : String} {v : Given} {c : Change} (read : readChange source key v = .ok c)
    (rest : Layer) (s : Settings) :
    (readChanges source ((key, v) :: rest)).map (fun changes => (s.applyAll changes).normalized) =
      (readChanges source rest).map fun changes => ((c.apply s).applyAll changes).normalized := by
  rw [readChanges, read, ok_bind]
  cases readChanges source rest with
  | error e => simp only [error_bind, map_error]
  | ok more => simp only [ok_bind, pure_eq, map_ok, applyAll_cons]

theorem readChanges_respelled (same : s.normalized = s'.normalized)
    (respelled : RespelledLayer layer layer') (source : String) :
    (readChanges source layer).map (fun changes => (s.applyAll changes).normalized) =
      (readChanges source layer').map fun changes => (s'.applyAll changes).normalized := by
  induction respelled generalizing s s' with
  | nil => exact congrArg Except.ok same
  | same e _ ih =>
    obtain ⟨key, v⟩ := e
    cases read : readChange source key v with
    | error e => simp only [readChanges, read, error_bind, map_error]
    | ok c => rw [readChanges_cons_map read, readChanges_cons_map read, ih (c.normalized_congr same)]
  | @tag tag tag' _ _ sameTag _ ih =>
    have read (text : String) : readChange source "language" (.text text) = .ok (.language text) := rfl
    have first : (Change.apply s (.language tag)).normalized =
        (Change.apply s' (.language tag')).normalized := by
      rw [Change.normalized_congr same]
      simp only [Change.apply, normalized, show normalizeLanguage tag = _ from sameTag]
    rw [readChanges_cons_map (read tag), readChanges_cons_map (read tag'), ih first]

/-- Layers that differ in how they spell the language settle the same. -/
theorem settled_congr (same : s.normalized = s'.normalized) (respelled : RespelledLayer layer layer')
    (source : String) : settled source s layer = settled source s' layer' := by
  simp only [settled, coerce, respelled.keys]
  split
  · exact readChanges_respelled same respelled source
  · simp only [map_error]

theorem override_eq (s : Settings) (layer : Layer) :
    s.override layer = settled "command line" s layer >>= checked := by
  rw [override, settled]
  cases coerce "command line" layer with
  | error e => rfl
  | ok changes => simp only [ok_bind, map_ok, checked_normalized]

theorem override_respelled (respelled : RespelledLayer layer layer') (s : Settings) :
    s.override layer = s.override layer' := by
  rw [override_eq, override_eq, settled_congr rfl respelled]

end Layers

section Loading
variable {v w : Workspace} {env env' : Environment} {asked : Option Path} {directory : Path}

/-- What a settings file comes to. -/
def settledFile (w : Workspace) (p : Path) : Outcome Settings :=
  fileLayer w p >>= settled p.text {}

theorem settled_bind {α : Type} (source : String) (s : Settings) (layer : Layer)
    (next : Settings → Outcome α) : settled source s layer >>= next =
      coerce source layer >>= fun changes => next (s.applyAll changes).normalized := by
  rw [settled]
  cases coerce source layer with
  | error e => simp only [map_error, error_bind]
  | ok changes => simp only [map_ok, ok_bind]

/-- Loaded settings are settled layer by layer, and then checked. -/
theorem load_eq (w : Workspace) (env : Environment) (asked : Option Path) (directory : Path) :
    load w env asked directory =
      (chooseFile w asked directory).mapError Failure.fault >>= fun chosen =>
      chosen.elim (.ok {}) (settledFile w) >>= fun base =>
      settled "environment" base (environmentLayer env) >>= checked := by
  have settle (s : Settings) (layer : Layer) :
      settled "environment" s.normalized layer = settled "environment" s layer :=
    settled_congr s.normalized_normalized (.refl layer) _
  simp only [load]
  cases chooseFile w asked directory with
  | error f => simp only [mapError_error, error_bind]
  | ok chosen =>
    cases chosen with
    | none => simp only [mapError_ok, ok_bind, pure_eq, Option.elim_none, settled_bind,
        checked_normalized, applyAll, List.foldl_nil]
    | some p =>
      simp only [mapError_ok, ok_bind, Option.elim_some, settledFile]
      cases fileLayer w p with
      | error e => simp only [error_bind]
      | ok layer =>
        simp only [ok_bind, settled_bind p.text, settle]
        simp only [settled_bind, checked_normalized]

/-- Environments that differ in how they spell the language, and in nothing else. -/
structure RespelledEnvironment (env env' : Environment) : Prop where
  others : ∀ name, name ≠ "SNIPPETCTL_LANGUAGE" → env.get? name = env'.get? name
  tag : Option.Rel SameTag (env.get? "SNIPPETCTL_LANGUAGE") (env'.get? "SNIPPETCTL_LANGUAGE")

theorem RespelledEnvironment.refl (env : Environment) : RespelledEnvironment env env where
  others _ _ := rfl
  tag := by
    cases env.get? "SNIPPETCTL_LANGUAGE" with
    | none => exact .none
    | some tag => exact .some rfl

theorem isBlankText_iff (tag : String) : Text.isBlankText tag = true ↔ normalizeLanguage tag = "" := by
  have stripped := Text.strip_eq_empty_iff tag.toList
  rw [String.ofList_toList] at stripped
  rw [normalizeLanguage, Text.lower_eq_empty_iff, stripped, Text.isBlankText]

theorem RespelledEnvironment.layer (respelled : RespelledEnvironment env env') :
    RespelledLayer (environmentLayer env) (environmentLayer env') := by
  have apart : ∀ e ∈ ownVariables.tail, e.2 ≠ "SNIPPETCTL_LANGUAGE" := by decide
  have rest : env.read ownVariables.tail = env'.read ownVariables.tail := by
    refine List.filterMap_congr fun e member => ?_
    obtain ⟨key, name⟩ := e
    simp only [respelled.others name (apart _ member)]
  have split : ownVariables = ("language", "SNIPPETCTL_LANGUAGE") :: ownVariables.tail := rfl
  rw [environmentLayer, environmentLayer, environmentValues, environmentValues, split, read_cons,
    read_cons, rest]
  have tag := respelled.tag
  generalize env.get? "SNIPPETCTL_LANGUAGE" = value at tag
  generalize env'.get? "SNIPPETCTL_LANGUAGE" = value' at tag
  cases tag with
  | none => exact .refl _
  | @some tag tag' same =>
    have blank : Text.isBlankText tag = Text.isBlankText tag' := by
      rw [Bool.eq_iff_iff, isBlankText_iff, isBlankText_iff, show normalizeLanguage tag = _ from same]
    have stripped : SameTag (Text.strip tag) (Text.strip tag') := by
      rw [SameTag, normalizeLanguage, normalizeLanguage, Text.strip_strip, Text.strip_strip]
      exact same
    simp only [Option.bind_some, blank]
    cases Text.isBlankText tag' with
    | true => exact .refl _
    | false => exact .tag stripped (.refl _)

theorem chooseFile_of_outline (same : v.outline = w.outline) (asked : Option Path) (directory : Path) :
    chooseFile v asked directory = chooseFile w asked directory := by
  have alike := Workspace.alike_of_outline same
  have place : v.tree.canonical v.cwd directory = w.tree.canonical w.cwd directory := by
    rw [← v.tree.canonical_outline, ← w.tree.canonical_outline]
    exact congrArg (fun u : Workspace => u.tree.canonical u.cwd directory) same
  simp only [chooseFile, findFile, alike.isFile_eq, place]

/-- Settings files that differ in how they spell the language, and in nothing else. -/
def RespelledFile (v w : Workspace) (p : Path) : Prop :=
  fileLayer v p = fileLayer w p ∨
    ∃ layer layer', fileLayer v p = .ok layer ∧ fileLayer w p = .ok layer' ∧ RespelledLayer layer layer'

theorem load_respelled (same : v.outline = w.outline)
    (file : ∀ p, chooseFile v asked directory = .ok (some p) → RespelledFile v w p)
    (environment : RespelledEnvironment env env') :
    load v env asked directory = load w env' asked directory := by
  have variables_ (s : Settings) : settled "environment" s (environmentLayer env) =
      settled "environment" s (environmentLayer env') :=
    settled_congr rfl environment.layer _
  rw [load_eq, load_eq, ← chooseFile_of_outline same]
  simp only [variables_]
  cases chosen : chooseFile v asked directory with
  | error f => simp only [mapError_error, error_bind]
  | ok p? =>
    simp only [mapError_ok, ok_bind]
    cases p? with
    | none => simp only [Option.elim_none]
    | some p =>
      have read : settledFile v p = settledFile w p := by
        rcases file p chosen with equal | ⟨layer, layer', read, read', respelled⟩
        · rw [settledFile, settledFile, equal]
        · rw [settledFile, settledFile, read, read', ok_bind, ok_bind, settled_congr rfl respelled]
      simp only [Option.elim_some, read]

end Loading
end FenceCheck.Settings
