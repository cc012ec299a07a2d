import FenceCheck.Json.Shown
import FenceCheck.Proofs.Json.Grammar
import FenceCheck.Proofs.Number.Digits

/-! Values within the limits for values that are written. The limits are those of reading too: what is
read from a text can be written. -/
namespace FenceCheck.Json
open FenceCheck.Text FenceCheck.Number

variable {depth : Nat} {v : Json}

section Parts
variable {items : List Json} {members : List (List CodePoint × Json)}

theorem itemObstacle?_eq_none (free : ∀ v ∈ items, obstacle? depth v = none) :
    itemObstacle? depth items = none := by
  induction items with
  | nil => rfl
  | cons first rest ih =>
    obtain ⟨here, others⟩ := List.forall_mem_cons.mp free
    exact Option.or_eq_none_iff.mpr ⟨here, ih others⟩

theorem obstacle?_of_lookup (free : memberObstacle? depth members = none) {key : List CodePoint}
    (bound : lookup key members = some v) : obstacle? depth v = none := by
  induction members with
  | nil => contradiction
  | cons first rest ih =>
    obtain ⟨here, others⟩ := Option.or_eq_none_iff.mp free
    rw [lookup] at bound
    split at bound
    · exact Option.some.inj bound ▸ here
    · exact ih others bound

theorem memberObstacle?_bind (free : memberObstacle? depth members = none)
    (fits : obstacle? depth v = none) (key : List CodePoint) :
    memberObstacle? depth (bind key v members) = none := by
  induction members with
  | nil => exact Option.or_eq_none_iff.mpr ⟨fits, rfl⟩
  | cons first rest ih =>
    obtain ⟨here, others⟩ := Option.or_eq_none_iff.mp free
    rw [bind]
    split
    · exact Option.or_eq_none_iff.mpr ⟨fits, others⟩
    · exact Option.or_eq_none_iff.mpr ⟨here, ih others⟩

end Parts

mutual

/-- What may be written at one depth may be written where there is more room. -/
theorem obstacle?_mono : ∀ {depth more : Nat} (v : Json), depth ≤ more →
    obstacle? depth v = none → obstacle? more v = none
  | _, _, .null, _, _ | _, _, .bool _, _, _ | _, _, .float _, _, _ | _, _, .string _, _, _ => by
    rw [obstacle?] <;> simp
  | _, _, .int _, _, free => by rwa [obstacle?] at free ⊢
  | depth + 1, more + 1, .array items, deeper, free =>
    itemObstacle?_mono items (Nat.le_of_succ_le_succ deeper) free
  | depth + 1, more + 1, .object members, deeper, free =>
    memberObstacle?_mono members (Nat.le_of_succ_le_succ deeper) free

theorem itemObstacle?_mono : ∀ {depth more : Nat} (items : List Json), depth ≤ more →
    itemObstacle? depth items = none → itemObstacle? more items = none
  | _, _, [], _, _ => rfl
  | _, _, v :: rest, deeper, free =>
    let ⟨here, others⟩ := Option.or_eq_none_iff.mp free
    Option.or_eq_none_iff.mpr ⟨obstacle?_mono v deeper here, itemObstacle?_mono rest deeper others⟩

theorem memberObstacle?_mono : ∀ {depth more : Nat} (members : List (List CodePoint × Json)),
    depth ≤ more → memberObstacle? depth members = none → memberObstacle? more members = none
  | _, _, [], _, _ => rfl
  | _, _, (_, v) :: rest, deeper, free =>
    let ⟨here, others⟩ := Option.or_eq_none_iff.mp free
    Option.or_eq_none_iff.mpr
      ⟨obstacle?_mono v deeper here, memberObstacle?_mono rest deeper others⟩

end

section Reading
variable {s rest : List Char}

theorem Grammar.Whole.allDigits {w : List Char} (whole : Whole w) : ∀ d ∈ w, d.isDigit = true := by
  cases whole with
  | zero => exact List.forall_mem_singleton.mpr rfl
  | digits first _ others => exact List.forall_mem_cons.mpr ⟨first, others⟩

theorem obstacle?_of_readNumber {left : Nat} {negative : Bool}
    (reads : readNumber left negative s = .ok (v, rest)) : obstacle? depth v = none := by
  unfold readNumber at reads
  split at reads
  · contradiction
  · rename_i digits after read
    obtain ⟨whole, _, _⟩ := whole_of_readWhole? read
    dsimp only at reads
    split at reads
    · split at reads
      · contradiction
      · rename_i short
        obtain ⟨rfl, _⟩ := Prod.mk.inj (Except.ok.inj reads)
        rw [obstacle?]
        exact if_pos (writable_ofDigits whole.allDigits (Nat.le_of_not_lt short) negative)
    · obtain ⟨rfl, _⟩ := Prod.mk.inj (Except.ok.inj reads)
      rw [obstacle?] <;> simp

theorem obstacle?_of_readScalar (reads : readScalar s = .ok (v, rest)) : obstacle? depth v = none := by
  unfold readScalar at reads
  split at reads
  case h_7 | h_8 => exact obstacle?_of_readNumber reads
  all_goals
    obtain ⟨rfl, _⟩ := Prod.mk.inj (Except.ok.inj reads)
    rw [obstacle?] <;> simp

/-- The reader gives only values that may be written at a depth. -/
def ReadsFree (depth : Nat) (one : List Char → Except Stop (Json × List Char)) : Prop :=
  ∀ s v rest, one s = .ok (v, rest) → obstacle? depth v = none

section Containers
variable {one : List Char → Except Stop (Json × List Char)} {fuel : Nat}

theorem obstacle?_of_readItems (free : ReadsFree depth one) {done : List Json}
    (items : ∀ v ∈ done, obstacle? depth v = none)
    (reads : readItems one done fuel s = .ok (v, rest)) : obstacle? (depth + 1) v = none := by
  induction fuel generalizing done s with
  | zero => contradiction
  | succ fuel ih =>
    obtain ⟨⟨item, after⟩, read, reads⟩ := exists_of_bind reads
    have all : ∀ v ∈ item :: done, obstacle? depth v = none :=
      List.forall_mem_cons.mpr ⟨free _ _ _ read, items⟩
    dsimp only at reads
    split at reads
    · obtain ⟨rfl, _⟩ := Prod.mk.inj (Except.ok.inj reads)
      exact itemObstacle?_eq_none fun v member => all v (List.mem_reverse.mp member)
    · exact ih all reads
    · contradiction

theorem obstacle?_of_readMembers (free : ReadsFree depth one) {done : List (List CodePoint × Json)}
    (members : memberObstacle? depth done = none)
    (reads : readMembers one done fuel s = .ok (v, rest)) : obstacle? (depth + 1) v = none := by
  induction fuel generalizing done s with
  | zero => contradiction
  | succ fuel ih =>
    unfold readMembers at reads
    split at reads
    · obtain ⟨⟨key, behind⟩, _, reads⟩ := exists_of_bind reads
      dsimp only at reads
      split at reads
      · obtain ⟨⟨member, after⟩, read, reads⟩ := exists_of_bind reads
        have bound := memberObstacle?_bind members (free _ _ _ read) key
        dsimp only at reads
        split at reads
        · obtain ⟨rfl, _⟩ := Prod.mk.inj (Except.ok.inj reads)
          exact bound
        · exact ih bound reads
        · contradiction
      · contradiction
    · contradiction

end Containers

/-- Containers are read as deep as they may be written. -/
theorem readsFree_readValue (depth : Nat) : ReadsFree depth (readValue depth) := by
  induction depth with
  | zero =>
    intro s v rest reads
    unfold readValue at reads
    split at reads
    · obtain ⟨_, _, reads⟩ := exists_of_bind reads
      obtain ⟨rfl, _⟩ := Prod.mk.inj (Except.ok.inj reads)
      rw [obstacle?] <;> simp
    · contradiction
    · contradiction
    · contradiction
    · contradiction
    · exact obstacle?_of_readScalar reads
  | succ depth ih =>
    intro s v rest reads
    unfold readValue at reads
    split at reads
    · obtain ⟨_, _, reads⟩ := exists_of_bind reads
      obtain ⟨rfl, _⟩ := Prod.mk.inj (Except.ok.inj reads)
      rw [obstacle?] <;> simp
    · contradiction
    · contradiction
    · rename_i same
      obtain rfl := Nat.succ.inj same
      split at reads
      · obtain ⟨rfl, _⟩ := Prod.mk.inj (Except.ok.inj reads)
        rfl
      · exact obstacle?_of_readItems ih (by simp) reads
    · rename_i same
      obtain rfl := Nat.succ.inj same
      split at reads
      · obtain ⟨rfl, _⟩ := Prod.mk.inj (Except.ok.inj reads)
        rfl
      · exact obstacle?_of_readMembers ih rfl reads
    · exact obstacle?_of_readScalar reads

/-- A value that is read from a text can be written. -/
theorem obstacle?_of_read {text : String} (reads : read text = .ok v) :
    obstacle? depthLimit v = none := by
  have all := ok_of_mapError reads
  unfold readAll at all
  split at all
  · contradiction
  · obtain ⟨⟨v', after⟩, value, all⟩ := exists_of_bind all
    dsimp only at all
    split at all
    · exact Except.ok.inj all ▸ readsFree_readValue depthLimit _ _ _ value
    · contradiction

end Reading

end FenceCheck.Json
