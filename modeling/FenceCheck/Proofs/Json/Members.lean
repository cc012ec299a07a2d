import FenceCheck.Proofs.Bindings
import FenceCheck.Proofs.Json.RoundTrip

/-! What is read back of an object on one line. Under each name stands what was put there, whatever the
order in which the members were given. -/
namespace FenceCheck.Json
open FenceCheck.Text
variable {members : List (String × Json)}

theorem lookup_ofMembers (members : List (String × Json)) (key : String) :
    lookup (codePoints key) (members.map fun m => (codePoints m.1, m.2)) = members.lookup key := by
  induction members with
  | nil => rfl
  | cons m rest ih =>
    obtain ⟨name, v⟩ := m
    rw [List.map_cons, lookup, ih, List.lookup_cons]
    by_cases same : name = key
    · simp [same]
    · have other : codePoints name ≠ codePoints key := fun equal => same (codePoints_inj.mp equal)
      rw [if_neg other, beq_eq_false_iff_ne.mpr (Ne.symm same)]

/-- The object as it is written holds what was put there, itself as it is written. -/
theorem ordered_ofMembers (distinct : (members.map Prod.fst).Nodup) :
    ∃ back, (ofMembers members).ordered = .object back ∧
      ∀ key, lookup (codePoints key) back = (members.lookup key).map ordered := by
  refine ⟨_, by rw [Json.ofMembers, ordered], fun key => ?_⟩
  rw [lookup_ordered (distinct_codePoints distinct), lookup_ofMembers]

/-- What is read back of an object on one line holds what was put there. -/
theorem read_members (distinct : (members.map Prod.fst).Nodup)
    (legible : ∀ m ∈ members, Legible (depthLimit - 1) m.2) :
    ∃ back, read (ofCodePoints ((ofMembers members).render .compact)) = .ok (.object back) ∧
      ∀ key, lookup (codePoints key) back = (members.lookup key).map ordered := by
  obtain ⟨back, written, found⟩ := ordered_ofMembers distinct
  have whole : Legible depthLimit (.ofMembers members) := .ofMembers distinct legible
  exact ⟨back, written ▸ whole.read_render .compact, found⟩

end FenceCheck.Json
