import FenceCheck.Discovery
import FenceCheck.Proofs.Bindings
import FenceCheck.Proofs.FileTree.Basic
import Mathlib.Data.List.Lex
import Mathlib.Data.List.Nodup
import Mathlib.Data.String.Basic

/-! What lies below a directory, by the names that lead there. The names that are collected are those of
all that can be reached through directories, each once, and once they are sorted it no longer matters in
which order directories are listed. -/
namespace FenceCheck.Discovery

section Order
variable {a b : List String}

/-- The order of paths is the one of lists of texts. -/
theorem componentsLE_iff : componentsLE a b = true ↔ a ≤ b := by
  rw [← not_lt]
  induction a generalizing b with
  | nil => simp [componentsLE]
  | cons x s ih =>
    cases b with
    | nil => simp [componentsLE]
    | cons y t =>
      simp only [componentsLE, Bool.or_eq_true, Bool.and_eq_true, decide_eq_true_eq, ih,
        List.cons_lt_cons_iff, not_or, not_and]
      constructor
      · rintro (lower | ⟨rfl, rest⟩)
        · exact ⟨lower.asymm, fun same => absurd (same ▸ lower) (lt_irrefl _)⟩
        · exact ⟨lt_irrefl _, fun _ => rest⟩
      · rintro ⟨notLower, rest⟩
        rcases lt_or_eq_of_le (not_lt.mp notLower) with lower | rfl
        · exact .inl lower
        · exact .inr ⟨rfl, rest rfl⟩

theorem pairwise_mergeSort_components (names : List (List String)) :
    (names.mergeSort componentsLE).Pairwise (· ≤ ·) := by
  have trans (a b c : List String) (first : componentsLE a b = true)
      (second : componentsLE b c = true) : componentsLE a c = true := by
    rw [componentsLE_iff] at first second ⊢
    exact first.trans second
  have total (a b : List String) : (componentsLE a b || componentsLE b a) = true := by
    rw [Bool.or_eq_true, componentsLE_iff, componentsLE_iff]
    exact le_total a b
  exact (List.pairwise_mergeSort trans total names).imp fun ordered => componentsLE_iff.mp ordered

/-- What is sorted does not depend on the order that it had before. -/
theorem mergeSort_components_congr {names others : List (List String)} (same : names.Perm others) :
    names.mergeSort componentsLE = others.mergeSort componentsLE := by
  have perm := (List.mergeSort_perm names componentsLE).trans
    (same.trans (List.mergeSort_perm others componentsLE).symm)
  exact perm.eq_of_pairwise (fun a b _ _ up down => le_antisymm up down)
    (pairwise_mergeSort_components names) (pairwise_mergeSort_components others)

end Order

section Names
variable {t u : FileTree} {d : Location} {r : List String} {name : String}

/-- Something lies below a directory if it is there, and only directories are on the way. -/
structure Lies (t : FileTree) (d : Location) (r : List String) : Prop where
  below : r ≠ []
  through : ∀ s, s <+: r → s ≠ [] → s ≠ r → t.isDirectoryAt (d ++ s) = true
  there : ∃ n, t.get? (d ++ r) = some n

theorem namesBelow_eq (t : FileTree) (d : Location) :
    namesBelow t d = (t.children d).flatMap fun c =>
      [c.1] :: match c.2 with
        | .directory _ => (namesBelow t (d ++ [c.1])).map (c.1 :: ·)
        | _ => [] := by
  rw [namesBelow]
  rw [List.flatMap_subtype (p := (· ∈ t.children d)) (g := fun c =>
    [c.1] :: match c.2 with
      | .directory _ => (namesBelow t (d ++ [c.1])).map (c.1 :: ·)
      | _ => []), List.unattach_attach]
  rintro ⟨name, node⟩ _
  cases node <;> rfl

theorem nil_notMem_namesBelow : [] ∉ namesBelow t d := by
  rw [namesBelow_eq, List.mem_flatMap]
  rintro ⟨⟨name, node⟩, _, member⟩
  cases node <;> simp at member

theorem mem_namesBelow_cons : name :: r ∈ namesBelow t d ↔
    ∃ n, (d ++ [name], n) ∈ t.entries ∧
      (r = [] ∨ (∃ mode, n = .directory mode) ∧ r ∈ namesBelow t (d ++ [name])) := by
  rw [namesBelow_eq, List.mem_flatMap]
  constructor
  · rintro ⟨⟨name', n⟩, listed, member⟩
    rcases List.mem_cons.mp member with same | later
    · obtain ⟨rfl, rfl⟩ := List.cons.inj same
      exact ⟨n, FileTree.mem_children.mp listed, .inl rfl⟩
    · cases n with
      | directory mode =>
        obtain ⟨rest, deeper, same⟩ := List.mem_map.mp later
        obtain ⟨rfl, rfl⟩ := List.cons.inj same
        exact ⟨_, FileTree.mem_children.mp listed, .inr ⟨⟨mode, rfl⟩, deeper⟩⟩
      | _ => contradiction
  · rintro ⟨n, listed, rfl | ⟨⟨mode, rfl⟩, deeper⟩⟩
    · exact ⟨(name, n), FileTree.mem_children.mpr listed, List.mem_cons_self⟩
    · refine ⟨(name, .directory mode), FileTree.mem_children.mpr listed, ?_⟩
      exact List.mem_cons_of_mem _ (List.mem_map_of_mem deeper)

theorem lies_singleton : Lies t d [name] ↔ ∃ n, t.get? (d ++ [name]) = some n := by
  constructor
  · intro lies
    exact lies.there
  · intro there
    refine ⟨List.cons_ne_nil _ _, ?_, there⟩
    intro s front some_ notAll
    rcases List.prefix_cons_iff.mp front with none_ | ⟨s', rfl, inner⟩
    · contradiction
    · exact absurd (congrArg (name :: ·) (List.prefix_nil.mp inner)) notAll

theorem lies_cons (more : r ≠ []) : Lies t d (name :: r) ↔
    t.isDirectoryAt (d ++ [name]) = true ∧ Lies t (d ++ [name]) r := by
  have split (s : List String) : d ++ name :: s = d ++ [name] ++ s := by simp
  constructor
  · rintro ⟨_, through, n, there⟩
    constructor
    · exact through [name] (by simp) (by simp) (by simpa using Ne.symm more)
    · refine ⟨more, ?_, n, by rw [← split, there]⟩
      intro s front _ notAll
      rw [← split]
      exact through (name :: s) (by simpa using front) (by simp) (by simpa using notAll)
  · rintro ⟨inside, _, through, n, there⟩
    refine ⟨List.cons_ne_nil _ _, ?_, n, by rw [split, there]⟩
    intro s front some_ notAll
    rcases List.prefix_cons_iff.mp front with none_ | ⟨s', rfl, inner⟩
    · contradiction
    · by_cases here : s' = []
      · rwa [here]
      · rw [split]
        exact through s' inner here (by simpa using notAll)

/-- The names that are collected are those of what lies below the directory. -/
theorem mem_namesBelow_iff (formed : t.WellFormed) : r ∈ namesBelow t d ↔ Lies t d r := by
  induction r generalizing d with
  | nil => exact iff_of_false nil_notMem_namesBelow fun lies => lies.below rfl
  | cons name r ih =>
    simp only [mem_namesBelow_cons, FileTree.mem_entries_iff formed]
    by_cases last : r = []
    · simp [last, lies_singleton]
    · simp [last, lies_cons last, ih, FileTree.isDirectoryAt_iff]

theorem nodup_children (formed : t.WellFormed) (d : Location) :
    ((t.children d).map Prod.fst).Nodup := by
  have names : (t.children d).map Prod.fst = (t.entries.map Prod.fst).filterMap fun l =>
      if l ≠ [] ∧ l.dropLast = d then some (l.getLastD "") else none := by
    rw [FileTree.children, List.map_filterMap, List.filterMap_map]
    congr 1
    funext e
    simp only [Function.comp]
    split <;> rfl
  rw [names]
  apply formed.distinct.filterMap
  intro l m name first second
  have whole (l : Location) (named : (if l ≠ [] ∧ l.dropLast = d then some (l.getLastD "")
      else none) = some name) : l = d ++ [name] := by
    split at named
    · rename_i inside
      rw [← Option.some.inj named, ← inside.2, List.getLastD_eq_getLast?,
        List.getLast?_eq_some_getLast inside.1, Option.getD_some, List.dropLast_concat_getLast]
    · contradiction
  rw [whole l first, whole m second]

/-- The names that one child of a directory adds begin with its own. -/
theorem child_of_mem {c : String × Node} {deeper : List (List String)}
    (member : r ∈ [c.1] :: match c.2 with
      | .directory _ => deeper.map (c.1 :: ·)
      | _ => []) : r.head? = some c.1 := by
  rcases List.mem_cons.mp member with rfl | later
  · rfl
  · split at later
    · obtain ⟨rest, _, rfl⟩ := List.mem_map.mp later
      rfl
    · contradiction

theorem nodup_namesBelow (formed : t.WellFormed) (d : Location) : (namesBelow t d).Nodup := by
  rw [namesBelow_eq, List.nodup_flatMap]
  constructor
  · rintro ⟨name, node⟩ listed
    cases node with
    | directory mode =>
      have deeper := nodup_namesBelow formed (d ++ [name])
      apply List.nodup_cons.mpr
      constructor
      · intro again
        obtain ⟨rest, member, same⟩ := List.mem_map.mp again
        obtain rfl := (List.cons.inj same).2
        exact nil_notMem_namesBelow member
      · exact deeper.map List.cons_injective
    | file mode bytes => exact List.nodup_singleton _
    | link target => exact List.nodup_singleton _
  · apply (List.pairwise_map.mp (nodup_children formed d)).imp
    intro a b differ r first second
    exact differ (Option.some.inj ((child_of_mem first).symm.trans (child_of_mem second)))
termination_by t.depth - d.length
decreasing_by exact FileTree.depth_of_child listed

theorem Lies.congr (same : t.get? = u.get?) (lies : Lies t d r) : Lies u d r where
  below := lies.below
  through s front some_ notAll := by
    have through := lies.through s front some_ notAll
    rwa [FileTree.isDirectoryAt_congr same] at through
  there := same ▸ lies.there

/-- The order in which nodes are listed changes nothing but the order of the names below a directory. -/
theorem namesBelow_perm (formed : t.WellFormed) (same : t.entries.Perm u.entries) (d : Location) :
    (namesBelow t d).Perm (namesBelow u d) := by
  have formed' := formed.of_perm same
  have equal := FileTree.get?_of_perm formed same
  rw [List.perm_ext_iff_of_nodup (nodup_namesBelow formed d) (nodup_namesBelow formed' d)]
  intro r
  rw [mem_namesBelow_iff formed, mem_namesBelow_iff formed']
  constructor
  · intro lies
    exact lies.congr equal
  · intro lies
    exact lies.congr equal.symm

end Names
end FenceCheck.Discovery
