import Mathlib.Data.List.Basic
import Mathlib.Data.List.Nodup

/-! Lists of keys with values, in which the first binding of a key counts. Where keys are distinct, it is
the only one. -/
namespace FenceCheck.Bindings
variable {κ α β : Type} [BEq κ]

theorem lookup_map (f : α → β) (bindings : List (κ × α)) (key : κ) :
    (bindings.map fun e => (e.1, f e.2)).lookup key = (bindings.lookup key).map f := by
  induction bindings with
  | nil => rfl
  | cons e rest ih =>
    obtain ⟨k, a⟩ := e
    simp only [List.map_cons, List.lookup_cons, ih]
    split <;> rfl

variable [LawfulBEq κ] {bindings : List (κ × α)} {key : κ} {a : α}

theorem mem_of_lookup (bound : bindings.lookup key = some a) : (key, a) ∈ bindings := by
  obtain ⟨before, after, rfl, _⟩ := List.lookup_eq_some_iff.mp bound
  simp

theorem lookup_eq_none_iff : bindings.lookup key = none ↔ key ∉ bindings.map Prod.fst := by
  rw [List.lookup_eq_none_iff]
  constructor
  · intro free member
    obtain ⟨e, listed, same⟩ := List.mem_map.mp member
    have other := free e listed
    simp [same] at other
  · intro fresh e listed
    apply bne_iff_ne.mpr
    intro same
    exact fresh (List.mem_map.mpr ⟨e, listed, same.symm⟩)

theorem lookup_of_mem (distinct : (bindings.map Prod.fst).Nodup) (member : (key, a) ∈ bindings) :
    bindings.lookup key = some a := by
  obtain ⟨before, after, rfl⟩ := List.append_of_mem member
  rw [List.map_append, List.nodup_append] at distinct
  apply List.lookup_eq_some_iff.mpr
  refine ⟨before, after, rfl, ?_⟩
  intro e listed
  apply bne_iff_ne.mpr
  intro same
  exact distinct.2.2 e.1 (List.mem_map_of_mem listed) key (by simp) same.symm

theorem lookup_eq_some_iff (distinct : (bindings.map Prod.fst).Nodup) :
    bindings.lookup key = some a ↔ (key, a) ∈ bindings :=
  ⟨mem_of_lookup, lookup_of_mem distinct⟩

end FenceCheck.Bindings
