import FenceCheck.Proofs.Settings.Accepted

/-! Overriding more than once. A layer acts on each key by itself and settings that were checked are their
own checked form, so layers that are laid over settings one after the other do what one layer does that
has the values of all of them, the later ones winning. -/
namespace FenceCheck.Settings

/-- Values by key, where a key may be mapped to no value at all. -/
abbrev Mapping := List (String × Option Given)

namespace Mapping
variable {a b : Mapping} {key : String}

/-- The layer of the values that a mapping has. -/
def given (m : Mapping) : Layer :=
  m.filterMap fun (key, v?) => v?.map (key, ·)

/-- The values of two mappings, those of the second winning. -/
def merge (a b : Mapping) : Mapping :=
  b.filter (·.2.isSome) ++ a.filter fun e => !(b.given.map Prod.fst).contains e.1

theorem given_cons (key : String) (v? : Option Given) (rest : Mapping) :
    given ((key, v?) :: rest) = (v?.map (key, ·)).toList ++ given rest := by
  cases v? <;> rfl

theorem keys_given_sublist (m : Mapping) : (m.given.map Prod.fst).Sublist (m.map Prod.fst) := by
  induction m with
  | nil => exact .slnil
  | cons e rest ih =>
    obtain ⟨k, v?⟩ := e
    rw [given_cons]
    cases v? with
    | none => exact ih.cons k
    | some v => exact ih.cons_cons k

theorem distinct_given (distinct : (a.map Prod.fst).Nodup) : (a.given.map Prod.fst).Nodup :=
  distinct.sublist (keys_given_sublist a)

theorem given_filter_isSome (m : Mapping) : given (m.filter (·.2.isSome)) = m.given := by
  induction m with
  | nil => rfl
  | cons e rest ih =>
    obtain ⟨k, v?⟩ := e
    cases v? with
    | none => simpa [given_cons] using ih
    | some v => simpa [given_cons] using ih

theorem lookup_given_filter (p : String → Bool) (m : Mapping) (kept : p key = true) :
    (given (m.filter (p ·.1))).lookup key = m.given.lookup key := by
  induction m with
  | nil => rfl
  | cons e rest ih =>
    obtain ⟨k, v?⟩ := e
    rw [List.filter_cons]
    by_cases stays : p k = true
    · rw [if_pos stays, given_cons, given_cons, List.lookup_append, List.lookup_append, ih]
    · have other : (key == k) = false := by
        rw [beq_eq_false_iff_ne]
        rintro rfl
        exact stays kept
      rw [if_neg stays, ih, given_cons]
      cases v? with
      | none => rfl
      | some v => simp [List.lookup_cons, other]

/-- Merged mappings give what the second one gives, and else what the first one does. -/
theorem lookup_merge (a b : Mapping) (key : String) :
    (a.merge b).given.lookup key = (b.given.lookup key).or (a.given.lookup key) := by
  have split : (a.merge b).given =
      b.given ++ given (a.filter fun e => !(b.given.map Prod.fst).contains e.1) := by
    rw [merge, given, List.filterMap_append]
    exact congrArg (· ++ _) (given_filter_isSome b)
  rw [split, List.lookup_append]
  cases found : b.given.lookup key with
  | some v => rfl
  | none =>
    have kept : (!(b.given.map Prod.fst).contains key) = true := by
      simpa using Bindings.lookup_eq_none_iff.mp found
    exact lookup_given_filter (fun key => !(b.given.map Prod.fst).contains key) a kept

theorem distinct_merge (distinct : (a.map Prod.fst).Nodup) (distinct' : (b.map Prod.fst).Nodup) :
    ((a.merge b).map Prod.fst).Nodup := by
  rw [merge, List.map_append, List.nodup_append]
  refine ⟨distinct'.sublist (List.filter_sublist.map Prod.fst),
    distinct.sublist (List.filter_sublist.map Prod.fst), ?_⟩
  rintro k inB _ inA rfl
  -- what is kept of the first mapping has no value in the second
  obtain ⟨⟨k, v?⟩, listed, rfl⟩ := List.mem_map.mp inB
  obtain ⟨e, listed', same⟩ := List.mem_map.mp inA
  obtain ⟨listed, some_⟩ := List.mem_filter.mp listed
  obtain ⟨v, rfl⟩ := Option.isSome_iff_exists.mp some_
  have member : (k, v) ∈ b.given := List.mem_filterMap.mpr ⟨(k, some v), listed, rfl⟩
  have has : k ∈ b.given.map Prod.fst := List.mem_map_of_mem member
  have without := List.of_mem_filter listed'
  simp [same, has] at without

end Mapping

section Layers
variable {s t u : Settings} {a b merged : Layer}

/-- A layer that gives for each key what the layer `b` gives, and else what the layer `a` does. -/
structure Merges (a b merged : Layer) : Prop where
  distinct : (merged.map Prod.fst).Nodup
  lookup : ∀ key, merged.lookup key = (b.lookup key).or (a.lookup key)

theorem acceptable_iff (distinct : (a.map Prod.fst).Nodup) :
    Acceptable a ↔ ∀ key v, a.lookup key = some v → key ∈ keys ∧ Fits key v := by
  constructor
  · intro fine key v found
    have listed := Bindings.mem_of_lookup found
    exact ⟨fine.known _ listed, fine.fits _ listed⟩
  · intro each
    constructor
    · exact fun e listed => (each e.1 e.2 (Bindings.lookup_of_mem distinct listed)).1
    · exact fun e listed => (each e.1 e.2 (Bindings.lookup_of_mem distinct listed)).2

/-- Where the layer below can be taken, the layers together can if the one above can. -/
theorem Merges.acceptable_iff (merges : Merges a b merged) (distinct : (a.map Prod.fst).Nodup)
    (distinct' : (b.map Prod.fst).Nodup) (fine : Acceptable a) : Acceptable merged ↔ Acceptable b := by
  rw [Settings.acceptable_iff merges.distinct, Settings.acceptable_iff distinct']
  rw [Settings.acceptable_iff distinct] at fine
  constructor
  · intro each key v found
    exact each key v (by rw [merges.lookup, found, Option.some_or])
  · intro each key v found
    rw [merges.lookup] at found
    rcases Option.or_eq_some_iff.mp found with above | ⟨_, below⟩
    · exact each key v above
    · exact fine key v below

/-- What a field reads of merged layers is what it reads of the layer above, and else of the other. -/
theorem Merges.lookup_bind {α : Type} (merges : Merges a b merged) (fine : Acceptable b) (key : String)
    (read : Given → Option α) (make : α → Change) (changes : ∀ v, changeOf? key v = (read v).map make) :
    (merged.lookup key).bind read = ((b.lookup key).bind read).or ((a.lookup key).bind read) := by
  rw [merges.lookup]
  cases found : b.lookup key with
  | none => simp
  | some v =>
    have taken : (read v).isSome = true := by
      simpa [Fits, changes] using fine.fits _ (Bindings.mem_of_lookup found)
    obtain ⟨x, taken⟩ := Option.isSome_iff_exists.mp taken
    simp [taken]

/-- One layer over another is both of them at once. -/
theorem Merges.overlay_eq (merges : Merges a b merged) (fine : Acceptable b) (s : Settings) :
    overlay s merged = overlay (overlay s a) b := by
  have language := merges.lookup_bind fine "language" textOf? .language fun _ => rfl
  have paths := merges.lookup_bind fine "paths" textsOf? .paths fun _ => rfl
  have out := merges.lookup_bind fine "out" textOf? .out fun _ => rfl
  have jobs := merges.lookup_bind fine "jobs" wholeOf? .jobs fun _ => rfl
  have policy := merges.lookup_bind fine "on_read_error" textOf? .onReadError fun _ => rfl
  have timeout := merges.lookup_bind fine "timeout" realOf? .timeout fun _ => rfl
  have exclude := merges.lookup_bind fine "exclude" textsOf? .exclude fun _ => rfl
  simp only [overlay, language, paths, out, jobs, policy, timeout, exclude, getD_or, Option.or_assoc]

theorem usable_normalized_iff : Usable s.normalized ↔ Usable s := by
  refine ⟨fun usable => ?_, Usable.normalized⟩
  rw [normalized] at usable
  refine ⟨usable.jobs, usable.timeout, usable.policy, ?_⟩
  rw [← normalizeLanguage_idem]
  exact usable.language

/-- It makes no difference whether the tag below a layer was normalized before. -/
theorem normalized_overlay (s : Settings) (b : Layer) :
    (overlay s.normalized b).normalized = (overlay s b).normalized := by
  simp only [overlay, normalized]
  cases (b.lookup "language").bind textOf? with
  | none => simp only [Option.getD_none, normalizeLanguage_idem]
  | some tag => simp only [Option.getD_some]

theorem usable_overlay_normalized_iff (s : Settings) (b : Layer) :
    Usable (overlay s.normalized b) ↔ Usable (overlay s b) := by
  rw [← usable_normalized_iff, normalized_overlay, usable_normalized_iff]

/-- Overriding by a layer and then by another is overriding by both at once. -/
theorem Merges.override_iff (merges : Merges a b merged) (distinct : (a.map Prod.fst).Nodup)
    (distinct' : (b.map Prod.fst).Nodup) (done : s.override a = .ok t) (u : Settings) :
    t.override b = .ok u ↔ s.override merged = .ok u := by
  obtain ⟨fine, _, rfl⟩ := (override_eq_ok_iff distinct).mp done
  rw [override_eq_ok_iff distinct', override_eq_ok_iff merges.distinct,
    merges.acceptable_iff distinct distinct' fine, usable_overlay_normalized_iff, normalized_overlay]
  refine and_congr_right fun fine' => ?_
  rw [merges.overlay_eq fine']

/-- Settings that can be used, with a tag that is normalized, stay as they are if nothing is given. -/
theorem override_nil (usable : Usable t) (small : normalizeLanguage t.language = t.language) :
    t.override [] = .ok t := by
  have nothing : overlay t [] = t := by simp [overlay]
  rw [override_eq_ok_iff (by simp), nothing]
  refine ⟨⟨List.forall_mem_nil _, List.forall_mem_nil _⟩, usable, ?_⟩
  rw [normalized, small]

theorem override_nil_of_override (distinct : (a.map Prod.fst).Nodup) (done : s.override a = .ok t) :
    t.override [] = .ok t := by
  obtain ⟨_, usable, rfl⟩ := (override_eq_ok_iff distinct).mp done
  exact override_nil usable.normalized (normalizeLanguage_idem _)

theorem override_nil_of_load {w : Workspace} {env : Environment} {asked : Option Path} {directory : Path}
    (loaded : load w env asked directory = .ok t) : t.override [] = .ok t := by
  obtain ⟨chosen, document, selects, holds⟩ := exists_source_of_load loaded
  obtain ⟨table, _, follows⟩ := follows_of_load selects holds loaded
  exact override_nil follows.usable follows.small

theorem Merges.self (distinct : (a.map Prod.fst).Nodup) : Merges a a a :=
  ⟨distinct, fun _ => Option.or_self.symm⟩

/-- Layers that have no key in common are merged alike in either order. -/
theorem Merges.symm (merges : Merges a b merged)
    (disjoint : ∀ key ∈ a.map Prod.fst, key ∉ b.map Prod.fst) : Merges b a merged := by
  refine ⟨merges.distinct, fun key => ?_⟩
  rw [merges.lookup]
  by_cases inA : key ∈ a.map Prod.fst
  · rw [Bindings.lookup_eq_none_iff.mpr (disjoint key inA), Option.none_or, Option.or_none]
  · rw [Bindings.lookup_eq_none_iff.mpr inA, Option.none_or, Option.or_none]

end Layers

section Overrides
variable {s t : Settings} {a b : Mapping}

theorem merges_merge (distinct : (a.map Prod.fst).Nodup) (distinct' : (b.map Prod.fst).Nodup) :
    Merges a.given b.given (a.merge b).given :=
  ⟨Mapping.distinct_given (Mapping.distinct_merge distinct distinct'), Mapping.lookup_merge a b⟩

/-- Once settings were overridden by a mapping, overriding them by another succeeds just if overriding by
the two merged does, and comes to the same. So an override that is repeated changes nothing, and neither
does one that gives nothing, to settings that were loaded as well; and mappings that give no key in common
may come in either order. -/
theorem overrides_merge (distinct : (a.map Prod.fst).Nodup) (distinct' : (b.map Prod.fst).Nodup)
    (done : s.override a.given = .ok t) :
    (∀ u, t.override b.given = .ok u ↔ s.override (a.merge b).given = .ok u) ∧
    t.override a.given = .ok t ∧
    (∀ m : Mapping, (∀ e ∈ m, e.2 = none) → t.override m.given = .ok t ∧
      ∀ w env asked directory loaded, load w env asked directory = .ok loaded →
        loaded.override m.given = .ok loaded) ∧
    ((∀ key ∈ a.given.map Prod.fst, key ∉ b.given.map Prod.fst) →
      ∀ u t' u', t.override b.given = .ok u → s.override b.given = .ok t' →
        t'.override a.given = .ok u' → u = u') := by
  have distinctA := Mapping.distinct_given distinct
  have distinctB := Mapping.distinct_given distinct'
  have merges := merges_merge distinct distinct'
  refine ⟨merges.override_iff distinctA distinctB done, ?_, ?_, ?_⟩
  · exact ((Merges.self distinctA).override_iff distinctA distinctA done t).mpr done
  · intro m empty
    have nothing : m.given = [] := by
      rw [Mapping.given, List.filterMap_eq_nil_iff]
      rintro ⟨key, v?⟩ listed
      obtain rfl : v? = none := empty _ listed
      rfl
    rw [nothing]
    exact ⟨override_nil_of_override distinctA done, fun w env asked directory loaded => override_nil_of_load⟩
  · intro disjoint u t' u' second first' second'
    have one := (merges.override_iff distinctA distinctB done u).mp second
    have other := ((merges.symm disjoint).override_iff distinctB distinctA first' u').mp second'
    exact Except.ok.inj (one.symm.trans other)

/-- A language that is given twice, the second time with a number of jobs. -/
theorem overrides_merge_language :
    let a : Mapping := [("language", some (.text " SH ")), ("jobs", none)]
    let b : Mapping := [("jobs", some (.text "4")), ("language", some (.text "JSON"))]
    Settings.override {} a.given = .ok { language := "sh" } ∧
      Settings.override {} (a.merge b).given = .ok { language := "json", jobs := 4 } ∧
      Settings.override { language := "sh" } b.given = .ok { language := "json", jobs := 4 } ∧
      Settings.override { language := "sh" } a.given = .ok { language := "sh" } := by
  intro a b
  have first : Settings.override {} a.given = .ok { language := "sh" } := by
    have done : (Settings.override {} a.given).toOption = some { language := "sh" } := by decide +kernel
    exact ok_of_toOption done
  have both : Settings.override {} (a.merge b).given = .ok { language := "json", jobs := 4 } := by
    have done : (Settings.override {} (a.merge b).given).toOption =
      some { language := "json", jobs := 4 } := by decide +kernel
    exact ok_of_toOption done
  obtain ⟨second, again, _⟩ := overrides_merge (b := b) (by decide) (by decide) first
  exact ⟨first, both, (second _).mpr both, again⟩

end Overrides
end FenceCheck.Settings
