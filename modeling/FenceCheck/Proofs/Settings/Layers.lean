import FenceCheck.Proofs.Settings.Errors
import FenceCheck.Proofs.Settings.Values
import FenceCheck.Proofs.Toml.Tables

/-! What settings come to when they are loaded. A layer is taken as a whole or not at all, each key by
itself; only what all layers together come to has to be usable. -/
namespace FenceCheck.Settings
open FenceCheck.Number

section Layers
variable {source key : String} {v : Given} {c : Change} {s t : Settings} {layer rest : Layer}
variable {changes : List Change}

/-- A layer whose keys are known and whose values can be taken for them. -/
structure Acceptable (layer : Layer) : Prop where
  known : ∀ e ∈ layer, e.1 ∈ keys
  fits : ∀ e ∈ layer, Fits e.1 e.2

theorem readChanges_cons_eq_ok_iff {e : String × Given} :
    readChanges source (e :: rest) = .ok changes ↔
      ∃ c more, changeOf? e.1 e.2 = some c ∧ readChanges source rest = .ok more ∧
        c :: more = changes := by
  obtain ⟨key, v⟩ := e
  simp only [readChanges]
  constructor
  · intro done
    obtain ⟨c, first, done⟩ := exists_of_bind done
    obtain ⟨more, others, done⟩ := exists_of_bind done
    exact ⟨c, more, readChange_eq_ok_iff.mp first, others, Except.ok.inj done⟩
  · rintro ⟨c, more, first, others, rfl⟩
    rw [readChange_eq_ok_iff.mpr first, others]
    rfl

theorem exists_readChanges_iff :
    (∃ changes, readChanges source layer = .ok changes) ↔ ∀ e ∈ layer, Fits e.1 e.2 := by
  induction layer with
  | nil => simp [readChanges]
  | cons e rest ih =>
    rw [List.forall_mem_cons, ← ih]
    constructor
    · rintro ⟨changes, done⟩
      obtain ⟨c, more, first, others, _⟩ := readChanges_cons_eq_ok_iff.mp done
      exact ⟨Option.isSome_of_eq_some first, more, others⟩
    · rintro ⟨first, more, others⟩
      obtain ⟨c, first⟩ := Option.isSome_iff_exists.mp first
      exact ⟨c :: more, readChanges_cons_eq_ok_iff.mpr ⟨c, more, first, others, rfl⟩⟩

theorem coerce_eq_of_known (known : ∀ e ∈ layer, e.1 ∈ keys) :
    coerce source layer = readChanges source layer := by
  have none_ : (layer.map Prod.fst).filter (!keys.contains ·) = [] := by
    rw [List.filter_eq_nil_iff]
    intro key member
    obtain ⟨e, listed, rfl⟩ := List.mem_map.mp member
    simpa using known e listed
  rw [coerce, none_]

theorem known_of_coerce (coerced : coerce source layer = .ok changes) :
    ∀ e ∈ layer, e.1 ∈ keys := by
  rw [coerce] at coerced
  split at coerced
  · rename_i none_
    intro e listed
    have kept := List.filter_eq_nil_iff.mp none_ e.1 (List.mem_map_of_mem listed)
    simpa using kept
  · contradiction

/-- A layer is read if all of it can be taken. -/
theorem exists_coerce_iff (source : String) :
    (∃ changes, coerce source layer = .ok changes) ↔ Acceptable layer := by
  constructor
  · rintro ⟨changes, coerced⟩
    have known := known_of_coerce coerced
    rw [coerce_eq_of_known known] at coerced
    exact ⟨known, exists_readChanges_iff.mp ⟨changes, coerced⟩⟩
  · intro fine
    rw [coerce_eq_of_known fine.known]
    exact exists_readChanges_iff.mpr fine.fits

/-- Settings with what a layer gives, each field by the value of its own key. -/
def overlay (s : Settings) (layer : Layer) : Settings where
  language := ((layer.lookup "language").bind textOf?).getD s.language
  paths := ((layer.lookup "paths").bind textsOf?).getD s.paths
  out := ((layer.lookup "out").bind textOf?).getD s.out
  jobs := ((layer.lookup "jobs").bind wholeOf?).getD s.jobs
  onReadError := ((layer.lookup "on_read_error").bind textOf?).getD s.onReadError
  timeout := ((layer.lookup "timeout").bind realOf?).or s.timeout
  exclude := ((layer.lookup "exclude").bind textsOf?).getD s.exclude

/-- A change at the front of a layer is made once, since its key does not come again. -/
theorem overlay_cons (known : key ∈ keys) (makes : changeOf? key v = some c)
    (fresh : key ∉ rest.map Prod.fst) (s : Settings) :
    overlay s ((key, v) :: rest) = overlay (c.apply s) rest := by
  have gone := Bindings.lookup_eq_none_iff.mpr fresh
  simp only [keys, List.mem_cons, List.not_mem_nil, or_false] at known
  rcases known with rfl | rfl | rfl | rfl | rfl | rfl | rfl
  all_goals
    obtain ⟨x, found, rfl⟩ := Option.map_eq_some_iff.mp makes
    simp [overlay, Change.apply, List.lookup_cons, gone, found]

theorem applyAll_of_readChanges (distinct : (layer.map Prod.fst).Nodup)
    (known : ∀ e ∈ layer, e.1 ∈ keys) (read : readChanges source layer = .ok changes)
    (s : Settings) : s.applyAll changes = overlay s layer := by
  induction layer generalizing changes s with
  | nil =>
    rw [← Except.ok.inj read]
    simp [applyAll, overlay]
  | cons e rest ih =>
    obtain ⟨c, more, first, others, rfl⟩ := readChanges_cons_eq_ok_iff.mp read
    obtain ⟨fresh, distinct⟩ := List.nodup_cons.mp distinct
    obtain ⟨knownFirst, knownRest⟩ := List.forall_mem_cons.mp known
    rw [overlay_cons knownFirst first fresh, ← ih distinct knownRest others]
    rfl

theorem applyAll_of_coerce (distinct : (layer.map Prod.fst).Nodup)
    (coerced : coerce source layer = .ok changes) (s : Settings) :
    s.applyAll changes = overlay s layer := by
  have known := known_of_coerce coerced
  rw [coerce_eq_of_known known] at coerced
  exact applyAll_of_readChanges distinct known coerced s

/-- Settings that a run can use. -/
structure Usable (s : Settings) : Prop where
  jobs : 1 ≤ s.jobs
  timeout : ∀ x, s.timeout = some x → x.isNonPositive = false
  policy : s.onReadError ∈ Report.ReadPolicy.words
  language : normalizeLanguage s.language ≠ ""

/-- Settings with the tag of their language stripped and in lower case. -/
def normalized (s : Settings) : Settings :=
  { s with language := normalizeLanguage s.language }

theorem checked_eq_ok_iff : checked s = .ok t ↔ Usable s ∧ s.normalized = t := by
  simp only [checked]
  split
  · rename_i few
    constructor
    · intro done
      split at done <;> contradiction
    · rintro ⟨usable, _⟩
      exact absurd usable.jobs (by omega)
  · rename_i enough
    split
    · rename_i x elapsed
      obtain ⟨given, reached⟩ := Option.filter_eq_some_iff.mp elapsed
      constructor
      · intro done
        contradiction
      · rintro ⟨usable, _⟩
        rw [usable.timeout x given] at reached
        contradiction
    · rename_i lasting
      have timeout : ∀ x, s.timeout = some x → x.isNonPositive = false := by
        intro x given
        simpa using Option.filter_eq_none_iff.mp lasting x given
      by_cases policy : s.onReadError ∈ Report.ReadPolicy.words
      · by_cases language : normalizeLanguage s.language = ""
        · simp only [policy, language, List.contains_eq_mem, decide_true, Bool.not_true,
            Bool.false_eq_true, if_false, if_true]
          constructor
          · intro done
            contradiction
          · rintro ⟨usable, _⟩
            exact absurd language usable.language
        · simp only [policy, language, List.contains_eq_mem, decide_true, Bool.not_true,
            Bool.false_eq_true, if_false, Except.ok.injEq]
          exact ⟨fun same => ⟨⟨by omega, timeout, policy, language⟩, same⟩, And.right⟩
      · simp only [policy, List.contains_eq_mem, decide_false, Bool.not_false, if_true]
        constructor
        · intro done
          contradiction
        · rintro ⟨usable, _⟩
          exact absurd usable.policy policy

end Layers
end FenceCheck.Settings
