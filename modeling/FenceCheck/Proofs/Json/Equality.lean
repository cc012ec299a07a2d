import FenceCheck.Json.Printer

/-! When JSON values are equal. Objects are mappings, so the order of their members does not matter; the
order in which the printer writes them is one among many. -/
namespace FenceCheck.Json
open FenceCheck.Text FenceCheck.Number

/-- The members of an object, each key with its value. -/
abbrev Members := List (List CodePoint × Json)

/-- Equality of values, with objects as mappings. -/
inductive Same : Json → Json → Prop where
  | null : Same .null .null
  | bool {b} : Same (.bool b) (.bool b)
  | int {n} : Same (.int n) (.int n)
  | float {x} : Same (.float x) (.float x)
  | string {s} : Same (.string s) (.string s)
  | array {items others : List Json} : items.length = others.length →
      (∀ (i : Nat) v w, items[i]? = some v → others[i]? = some w → Same v w) →
      Same (.array items) (.array others)
  | object {members others : Members} :
      (∀ k, lookup k members = none ↔ lookup k others = none) →
      (∀ k v w, lookup k members = some v → lookup k others = some w → Same v w) →
      Same (.object members) (.object others)

section Lookup
variable {members others : Members} {k : List CodePoint} {v : Json}

theorem lookup_map (f : Json → Json) (members : Members) (k : List CodePoint) :
    lookup k (members.map fun m => (m.1, f m.2)) = (lookup k members).map f := by
  induction members with
  | nil => rfl
  | cons m rest ih =>
    simp only [List.map_cons, lookup, ih]
    split <;> rfl

theorem mem_of_lookup (bound : lookup k members = some v) : (k, v) ∈ members := by
  induction members with
  | nil => contradiction
  | cons m rest ih =>
    simp only [lookup] at bound
    split at bound
    · rename_i same
      obtain rfl := Option.some.inj bound
      simp [← same]
    · simp [ih bound]

theorem lookup_eq_none_iff : lookup k members = none ↔ k ∉ members.map Prod.fst := by
  induction members with
  | nil => simp [lookup]
  | cons m rest ih =>
    by_cases same : m.1 = k
    · simp [lookup, same]
    · simp [lookup, same, ih, Ne.symm same]

theorem lookup_of_mem (distinct : (members.map Prod.fst).Nodup) (member : (k, v) ∈ members) :
    lookup k members = some v := by
  induction members with
  | nil => contradiction
  | cons m rest ih =>
    obtain ⟨fresh, distinct⟩ := List.nodup_cons.mp distinct
    rcases List.mem_cons.mp member with rfl | later
    · simp [lookup]
    · have other : m.1 ≠ k := by
        rintro rfl
        exact fresh (List.mem_map.mpr ⟨_, later, rfl⟩)
      simp [lookup, other, ih distinct later]

/-- Where keys are distinct, the order of members does not matter to a lookup. -/
theorem lookup_perm (same : members.Perm others) (distinct : (members.map Prod.fst).Nodup)
    (k : List CodePoint) : lookup k members = lookup k others := by
  cases bound : lookup k members with
  | none =>
    rw [lookup_eq_none_iff] at bound
    exact (lookup_eq_none_iff.mpr fun member => bound ((same.map Prod.fst).mem_iff.mpr member)).symm
  | some v =>
    have distinct' := ((same.map Prod.fst).nodup_iff).mp distinct
    exact (lookup_of_mem distinct' (same.mem_iff.mp (mem_of_lookup bound))).symm

end Lookup

/-- Whether a member is written before another. -/
def keyLE {α : Type} (a b : List CodePoint × α) : Bool :=
  stringLE a.1 b.1

mutual

/-- The value with the members of all objects in the order in which they are written. -/
def ordered : Json → Json
  | .array items => .array (orderedItems items)
  | .object members => .object ((orderedMembers members).mergeSort keyLE)
  | v => v

def orderedItems : List Json → List Json
  | [] => []
  | v :: rest => ordered v :: orderedItems rest

def orderedMembers : Members → Members
  | [] => []
  | (k, v) :: rest => (k, ordered v) :: orderedMembers rest

end

theorem orderedItems_eq_map (items : List Json) : orderedItems items = items.map ordered := by
  induction items with
  | nil => rfl
  | cons v rest ih => simp [orderedItems, ih]

theorem orderedMembers_eq_map (members : Members) :
    orderedMembers members = members.map fun m => (m.1, ordered m.2) := by
  induction members with
  | nil => rfl
  | cons m rest ih => simp [orderedMembers, ih]

/-- Sorting by key does not look at the values. -/
theorem mergeSort_map {α β : Type} (f : α → β) (members : List (List CodePoint × α)) :
    (members.map fun m => (m.1, f m.2)).mergeSort keyLE =
      (members.mergeSort keyLE).map fun m => (m.1, f m.2) := by
  rw [List.map_mergeSort]
  intros
  rfl

/-- A value that a text can carry: without floating-point numbers, with integers that are not too long,
characters that are no surrogates, keys that differ, and containers at most so deep. -/
inductive Legible : Nat → Json → Prop where
  | null {depth} : Legible depth .null
  | bool {depth b} : Legible depth (.bool b)
  | int {depth n} : ¬ digitLimit < (toString (Int.natAbs n)).length → Legible depth (.int n)
  | string {depth s} : (∀ p ∈ s, CodePoint.isSurrogate p = false) → Legible depth (.string s)
  | array {depth items} : (∀ v ∈ items, Legible depth v) → Legible (depth + 1) (.array items)
  | object {depth} {members : Members} : (members.map Prod.fst).Nodup →
      (∀ m ∈ members, ∀ p ∈ m.1, p.isSurrogate = false) → (∀ m ∈ members, Legible depth m.2) →
      Legible (depth + 1) (.object members)

/-- Ordering members leaves the value under each key where it is, ordered itself. -/
theorem lookup_ordered {members : Members} (distinct : (members.map Prod.fst).Nodup) (k : List CodePoint) :
    lookup k ((orderedMembers members).mergeSort keyLE) = (lookup k members).map ordered := by
  have sorted := List.mergeSort_perm members keyLE
  rw [orderedMembers_eq_map, mergeSort_map, lookup_map,
    lookup_perm sorted (((sorted.map Prod.fst).nodup_iff).mpr distinct)]

/-- A value is equal to what is written of it. -/
theorem Legible.ordered_same {depth : Nat} {v : Json} (legible : Legible depth v) :
    Same v.ordered v := by
  induction legible with
  | null => exact .null
  | bool => exact .bool
  | int => exact .int
  | string => exact .string
  | array _ ih =>
    rw [ordered, orderedItems_eq_map]
    refine .array (by simp) fun i v w there there' => ?_
    rw [List.getElem?_map, there'] at there
    obtain rfl : ordered w = v := Option.some.inj there
    exact ih w (List.mem_of_getElem? there')
  | @object depth members distinct _ _ ih =>
    rw [ordered]
    refine .object (fun k => by simp [lookup_ordered distinct]) fun k v w there there' => ?_
    rw [lookup_ordered distinct, there'] at there
    obtain rfl : ordered w = v := Option.some.inj there
    exact ih (k, w) (mem_of_lookup there')

end FenceCheck.Json
