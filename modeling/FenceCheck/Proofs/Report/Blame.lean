import FenceCheck.Proofs.Report.Conformity
import FenceCheck.Proofs.Report.RoundTrip

/-! What the schema of reports complains about. Whichever of the violations is told, its place exists in
the value and is itself at fault; and each place at fault has a violation of its own. -/
namespace FenceCheck.Report
open FenceCheck.Text

/-- The part of a value to which the steps lead. -/
def part : List PlaceStep → Json → Option Json
  | [], v => some v
  | .index i :: steps, .array items => items[i]?.bind (part steps)
  | .key k :: steps, .object members => (Json.lookup (codePoints k) members).bind (part steps)
  | _ :: _, _ => none

/-- An item that has not just the members of an entry. -/
inductive Misshapen : Json → Prop
  | other {x : Json} (noObject : ∀ members, x ≠ .object members) : Misshapen x
  | extra {members : List (List CodePoint × Json)} {m : List CodePoint × Json} (there : m ∈ members)
      (unknown : m.1 ∉ entryKeys.map codePoints) : Misshapen (.object members)
  | missing {members : List (List CodePoint × Json)} {k : String} (key : k ∈ entryKeys)
      (absent : Json.lookup (codePoints k) members = none) : Misshapen (.object members)

/-- A value that is no string with something in it. -/
def Void (x : Json) : Prop :=
  ∀ s, x = .string s → s = []

/-- The places where a value is not as the schema demands, by the texts that name them: the root, an
index, or an index and a key. -/
inductive AtFault (v : Json) : String → Prop
  | root (noList : ∀ items, v ≠ .array items) : AtFault v "<root>"
  | entry {i : Nat} {x : Json} (there : part [.index i] v = some x) (misshapen : Misshapen x) :
      AtFault v (toString i)
  | member {i : Nat} {k : String} {x : Json} (key : k ∈ entryKeys)
      (there : part [.index i, .key k] v = some x) (void : Void x) :
      AtFault v (toString i ++ "/" ++ k)

/-- A failure that tells a violation, with the text of its place. -/
def Blames (v : Json) (f : Failure) : Prop :=
  ∃ bad ∈ violations v, ∃ message, f = .run ⟨"schema validation failed for " ++ schemaName ++ " at "
    ++ location bad.place ++ ": " ++ message, 15, "schema_violation"⟩

theorem extraKeys_ne_nil_iff {members : List (List CodePoint × Json)} :
    extraKeys members ≠ [] ↔ ∃ m ∈ members, m.1 ∉ entryKeys.map codePoints := by
  rw [ne_eq, extraKeys_eq_nil_iff]
  push Not
  rfl

section Violations
variable {v x : Json} {items : List Json} {place : List PlaceStep} {bad : Violation} {i : Nat}

@[simp] theorem part_array : part [.index i] (.array items) = items[i]? := by
  cases there : items[i]? <;> simp [part, there]

theorem part_array_key {k : String} : part [.index i, .key k] (.array items) =
    items[i]?.bind (part [.key k]) := by
  simp [part]

theorem mem_checkMember (found : bad ∈ checkMember place x) : bad.place = place ∧ Void x := by
  unfold checkMember at found
  split at found
  · obtain rfl := List.mem_singleton.mp found
    exact ⟨rfl, fun s same => (Json.string.inj same).symm⟩
  · contradiction
  · rename_i other
    obtain rfl := List.mem_singleton.mp found
    exact ⟨rfl, fun s same => absurd same (other s)⟩

theorem exists_mem_checkMember (place : List PlaceStep) (void : Void x) :
    ∃ bad ∈ checkMember place x, bad.place = place := by
  have some_ : checkMember place x ≠ [] := by
    rw [ne_eq, checkMember_eq_nil_iff]
    rintro ⟨s, same, some_⟩
    exact some_ (void s same)
  obtain ⟨bad, found⟩ := List.exists_mem_of_ne_nil _ some_
  exact ⟨bad, found, (mem_checkMember found).1⟩

/-- Each complaint about an item is about its shape or about one of its members. -/
theorem mem_checkEntry (found : bad ∈ checkEntry i x) :
    (bad.place = [.index i] ∧ Misshapen x) ∨
      ∃ k ∈ entryKeys, ∃ y, part [.key k] x = some y ∧ bad.place = [.index i, .key k] ∧ Void y := by
  unfold checkEntry at found
  split at found
  · rename_i members
    rcases List.mem_append.mp found with shape | typed
    · left
      rcases List.mem_append.mp shape with extra | required
      · split at extra
        · contradiction
        · rename_i some_
          obtain rfl := List.mem_singleton.mp extra
          obtain ⟨m, there, unknown⟩ := extraKeys_ne_nil_iff.mp some_
          exact ⟨rfl, .extra there unknown⟩
      · obtain ⟨k, absent, rfl⟩ := List.mem_map.mp required
        obtain ⟨key, absent⟩ := List.mem_filter.mp absent
        exact ⟨rfl, .missing key (Option.isNone_iff_eq_none.mp absent)⟩
    · right
      obtain ⟨k, key, typed⟩ := List.mem_flatMap.mp typed
      split at typed
      · rename_i y bound
        obtain ⟨place, void⟩ := mem_checkMember typed
        exact ⟨k, key, y, by simp [part, bound], place, void⟩
      · contradiction
  · rename_i other
    obtain rfl := List.mem_singleton.mp found
    exact .inl ⟨rfl, .other other⟩

theorem exists_mem_checkEntry_of_misshapen (misshapen : Misshapen x) :
    ∃ bad ∈ checkEntry i x, bad.place = [.index i] := by
  cases misshapen with
  | other noObject =>
    refine ⟨⟨[.index i], typeMessage x "object"⟩, ?_, rfl⟩
    unfold checkEntry
    split
    · exact absurd rfl (noObject _)
    · exact List.mem_singleton.mpr rfl
  | @extra members m there unknown =>
    have some_ : extraKeys members ≠ [] := extraKeys_ne_nil_iff.mpr ⟨m, there, unknown⟩
    refine ⟨⟨[.index i], .ok (extraMessage (extraKeys members))⟩, ?_, rfl⟩
    simp [checkEntry, some_]
  | @missing members k key absent =>
    refine ⟨⟨[.index i], .ok (quoted k ++ " is a required property")⟩, ?_, rfl⟩
    refine List.mem_append_left _ (List.mem_append_right _ (List.mem_map.mpr ⟨k, ?_, rfl⟩))
    exact List.mem_filter.mpr ⟨key, by simp [absent]⟩

theorem exists_mem_checkEntry_of_void {k : String} {y : Json} (key : k ∈ entryKeys)
    (there : part [.key k] x = some y) (void : Void y) :
    ∃ bad ∈ checkEntry i x, bad.place = [.index i, .key k] := by
  cases x with
  | object members =>
    have bound : Json.lookup (codePoints k) members = some y := by simpa [part] using there
    obtain ⟨bad, found, place⟩ := exists_mem_checkMember [.index i, .key k] void
    refine ⟨bad, List.mem_append_right _ (List.mem_flatMap.mpr ⟨k, key, ?_⟩), place⟩
    simpa [bound] using found
  | _ => simp [part] at there

theorem mem_checkItems_iff {n : Nat} :
    bad ∈ checkItems n items ↔ ∃ i x, items[i]? = some x ∧ bad ∈ checkEntry (n + i) x := by
  induction items generalizing n with
  | nil => simp [checkItems]
  | cons x rest ih =>
    rw [checkItems, List.mem_append, ih]
    constructor
    · rintro (found | ⟨i, y, there, found⟩)
      · exact ⟨0, x, rfl, found⟩
      · exact ⟨i + 1, y, there, by rwa [← Nat.add_assoc, Nat.add_right_comm]⟩
    · rintro ⟨i, y, there, found⟩
      cases i with
      | zero =>
        obtain rfl : x = y := Option.some.inj there
        exact .inl found
      | succ i => exact .inr ⟨i, y, there, by rwa [Nat.add_right_comm, Nat.add_assoc]⟩

theorem mem_violations_array_iff : bad ∈ violations (.array items) ↔
    ∃ i x, items[i]? = some x ∧ bad ∈ checkEntry i x := by
  simp [violations, mem_checkItems_iff]

@[simp] theorem location_index {i : Nat} : location [.index i] = toString i := by
  simp [location, PlaceStep.text]

@[simp] theorem location_key {i : Nat} {k : String} :
    location [.index i, .key k] = toString i ++ "/" ++ k := by
  simp [location, PlaceStep.text, String.intercalate_cons_cons]

theorem atFault_of_mem_violations (found : bad ∈ violations v) : AtFault v (location bad.place) := by
  cases v with
  | array items =>
    obtain ⟨i, x, there, found⟩ := mem_violations_array_iff.mp found
    rcases mem_checkEntry found with ⟨place, misshapen⟩ | ⟨k, key, y, bound, place, void⟩
    · rw [place, location_index]
      exact .entry (by simpa using there) misshapen
    · rw [place, location_key]
      exact .member key (by simp [part_array_key, there, bound]) void
  | _ =>
    obtain rfl := List.mem_singleton.mp found
    exact .root nofun

theorem exists_violation_of_atFault {l : String} (fault : AtFault v l) :
    ∃ bad ∈ violations v, location bad.place = l := by
  cases fault with
  | root noList =>
    refine ⟨⟨[], typeMessage v "array"⟩, ?_, rfl⟩
    unfold violations
    split
    · exact absurd rfl (noList _)
    · exact List.mem_singleton.mpr rfl
  | @entry i x there misshapen =>
    cases v with
    | array items =>
      obtain ⟨bad, found, place⟩ := exists_mem_checkEntry_of_misshapen (i := i) misshapen
      exact ⟨bad, mem_violations_array_iff.mpr ⟨i, x, by simpa using there, found⟩,
        by rw [place, location_index]⟩
    | _ => simp [part] at there
  | @member i k y key there void =>
    cases v with
    | array items =>
      rw [part_array_key] at there
      obtain ⟨x, inside, bound⟩ := Option.bind_eq_some_iff.mp there
      obtain ⟨bad, found, place⟩ := exists_mem_checkEntry_of_void (i := i) key bound void
      exact ⟨bad, mem_violations_array_iff.mpr ⟨i, x, inside, found⟩,
        by rw [place, location_key]⟩
    | _ => simp [part] at there

/-- The schema complains at just the places that are at fault. -/
theorem exists_violation_iff {l : String} :
    (∃ bad ∈ violations v, location bad.place = l) ↔ AtFault v l := by
  constructor
  · rintro ⟨bad, found, rfl⟩
    exact atFault_of_mem_violations found
  · exact exists_violation_of_atFault

end Violations

section Told
variable {validator : Validator} {v : Json} {report : List Entry}

theorem checkNamed_eq_ok_iff (faithful : validator.Faithful v) :
    checkNamed schemaName v validator = .ok () ↔ Conforms v := by
  rw [checkNamed_schemaName v validator]
  exact faithful.checkSchema_eq_ok_iff

theorem blames_of_checkNamed (faithful : validator.Faithful v) {f : Failure}
    (failed : checkNamed schemaName v validator = .error f) : Blames v f := by
  rw [checkNamed_schemaName v validator] at failed
  rcases faithful.checkSchema_cases schemaName with ⟨_, checked⟩ | ⟨_, bad, found, message, checked⟩
  · simp [checked] at failed
  · exact ⟨bad, found, message, Except.error.inj (failed.symm.trans checked)⟩

theorem serialize_eq_error_iff (faithful : validator.Faithful (toJson report))
    (named : ∀ e ∈ report, e.file ≠ []) :
    (∃ f, serialize report validator = .error f) ↔
      ∃ e ∈ report, e.content = [] ∨ e.message = [] := by
  have failed : (∃ f, serialize report validator = .error f) ↔ ¬ ∀ e ∈ report, e.Fit := by
    rw [← conforms_toJson_iff, ← @Validator.Faithful.checkSchema_eq_ok_iff _ _ faithful schemaName,
      serialize]
    cases checkSchema schemaName (toJson report) validator <;> simp
  rw [failed]
  constructor
  · intro unfit
    by_contra full
    push Not at full
    exact unfit fun e member => ⟨named e member, (full e member).1, (full e member).2⟩
  · rintro ⟨e, member, content | message⟩ fit
    · exact (fit e member).content content
    · exact (fit e member).message message

end Told

/-- The schema accepts just the lists of entries with nothing left empty, and a report has no text just if
the content or the message of an entry is empty. What is told of another value is a violation at a place that
is at fault, as is each violation that could have been told instead. The installed check gives up where a
violation has no words, which is beyond the limits for values that are written (`faithful_of_free`); any
check that does what checks against a schema are for tells a violation of every such value. -/
theorem checked_against_schema (v : Json) (report : List Entry) (named : ∀ e ∈ report, e.file ≠ []) :
    (checkNamed schemaName v = .ok () ↔ Conforms v) ∧
    (∀ f, checkNamed schemaName v = .error f →
      Blames v f ∨ ∃ bad ∈ violations v, ∃ unsaid, bad.fault? = some unsaid ∧ f = .fault unsaid) ∧
    ((∃ f, serialize report = .error f) ↔ ∃ e ∈ report, e.content = [] ∨ e.message = []) ∧
    (∀ l, (∃ bad ∈ violations v, location bad.place = l) ↔ AtFault v l) ∧
    ∀ validator : Validator,
      (validator.Faithful v → (checkNamed schemaName v validator = .ok () ↔ Conforms v) ∧
        ∀ f, checkNamed schemaName v validator = .error f → Blames v f) ∧
      (validator.Faithful (toJson report) → ((∃ f, serialize report validator = .error f) ↔
        ∃ e ∈ report, e.content = [] ∨ e.message = [])) := by
  refine ⟨?_, fun f failed => ?_, serialize_eq_error_iff (faithful_toJson report) named,
    fun _ => exists_violation_iff, fun validator => ⟨fun faithful => ?_, fun faithful => ?_⟩⟩
  · rw [checkNamed_schemaName]
    exact checkSchema_eq_ok_iff
  · rw [checkNamed_schemaName] at failed
    exact checkSchema_error_cases failed
  · exact ⟨checkNamed_eq_ok_iff faithful, fun _ failed => blames_of_checkNamed faithful failed⟩
  · exact serialize_eq_error_iff faithful named

/-- Told by the installed check of a list with an item that is no object and an item with an empty
message. -/
theorem checked_against_schema_items :
    let v := Json.array [.null, .ofMembers [("file", .text "a.md"), ("content", .text "x"),
      ("message", .text "")]]
    let report := [Entry.ofBlock (Path.ofText "a.md") "x" []]
    AtFault v "0" ∧ AtFault v "1/message" ∧ (∃ f, checkNamed schemaName v = .error f) ∧
      ∃ f, serialize report = .error f := by
  intro v report
  have named : ∀ e ∈ report, e.file ≠ [] := by
    intro e member
    obtain rfl := List.mem_singleton.mp member
    decide
  obtain ⟨_, _, refused, places, others⟩ := checked_against_schema v report named
  obtain ⟨accepted, _⟩ := (others installed).1 (faithful_of_free rfl)
  have item : AtFault v "0" := .entry (i := 0) (x := .null) rfl (.other nofun)
  have message : AtFault v "1/message" := .member (i := 1) (k := "message") (by decide) rfl
    fun s same => (Json.string.inj same).symm
  refine ⟨item, message, ?_, refused.mpr ⟨_, List.mem_singleton_self _, .inr rfl⟩⟩
  cases checked : checkNamed schemaName v with
  | error f => exact ⟨f, rfl⟩
  | ok u =>
    obtain ⟨bad, found, _⟩ := (places "0").mpr item
    rw [violations_eq_nil_iff.mpr (accepted.mp checked)] at found
    contradiction

end FenceCheck.Report
