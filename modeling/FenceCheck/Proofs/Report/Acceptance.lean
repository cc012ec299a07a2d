import FenceCheck.Proofs.Json.Limits
import FenceCheck.Report.Entry

/-! Which values the schema of reports accepts, and so which reports have a text. A value is accepted if
there is no violation at all. Otherwise one of them is told, if all have words; and they have, unless the
value goes beyond the limits for values that are written. -/
namespace FenceCheck

namespace Text

theorem codePoints_eq_nil {s : String} : codePoints s = [] ↔ s = "" := by
  simp [codePoints]

end Text

namespace Report
open FenceCheck.Text

/-- What the schema demands of an entry: an object with its three members and no others, all of them
non-empty strings. -/
def EntryConforms : Json → Prop
  | .object members => (∀ m ∈ members, m.1 ∈ entryKeys.map codePoints) ∧
      ∀ k ∈ entryKeys, ∃ s, Json.lookup (codePoints k) members = some (.string s) ∧ s ≠ []
  | _ => False

/-- What the schema demands of a report. -/
def Conforms : Json → Prop
  | .array items => ∀ v ∈ items, EntryConforms v
  | _ => False

theorem checkMember_eq_nil_iff {place : List PlaceStep} {v : Json} :
    checkMember place v = [] ↔ ∃ s, v = .string s ∧ s ≠ [] := by
  cases v with
  | string s => cases s <;> simp [checkMember]
  | _ => simp [checkMember]

theorem extraKeys_eq_nil_iff {members : List (List CodePoint × Json)} :
    extraKeys members = [] ↔ ∀ m ∈ members, m.1 ∈ entryKeys.map codePoints := by
  have sorted (keys : List (List CodePoint)) : keys.mergeSort Json.stringLE = [] ↔ keys = [] := by
    rw [← List.length_eq_zero_iff, List.length_mergeSort, List.length_eq_zero_iff]
  simp only [extraKeys, sorted, List.filter_eq_nil_iff, List.mem_map]
  constructor
  · intro known m member
    have := known m.1 ⟨m, member, rfl⟩
    simpa using this
  · rintro known key ⟨m, member, rfl⟩
    simpa using known m member

theorem checkEntry_eq_nil_iff {i : Nat} {v : Json} : checkEntry i v = [] ↔ EntryConforms v := by
  cases v with
  | object members =>
    simp only [checkEntry, EntryConforms, List.append_eq_nil_iff, List.map_eq_nil_iff,
      List.filter_eq_nil_iff, List.flatMap_eq_nil_iff]
    constructor
    · rintro ⟨⟨extra, required⟩, typed⟩
      have none_ : extraKeys members = [] := by simpa using extra
      refine ⟨extraKeys_eq_nil_iff.mp none_, fun k key => ?_⟩
      cases bound : Json.lookup (codePoints k) members with
      | none => exact absurd (by simp [bound]) (required k key)
      | some v =>
        have string := typed k key
        simp only [bound] at string
        obtain ⟨s, rfl, some_⟩ := checkMember_eq_nil_iff.mp string
        exact ⟨s, rfl, some_⟩
    · rintro ⟨known, bound⟩
      refine ⟨⟨by simp [extraKeys_eq_nil_iff.mpr known], fun k key => ?_⟩, fun k key => ?_⟩
      · obtain ⟨s, there, _⟩ := bound k key
        simp [there]
      · obtain ⟨s, there, some_⟩ := bound k key
        simp only [there]
        exact checkMember_eq_nil_iff.mpr ⟨s, rfl, some_⟩
  | _ => simp [checkEntry, EntryConforms]

theorem checkItems_eq_nil_iff {i : Nat} {items : List Json} :
    checkItems i items = [] ↔ ∀ v ∈ items, EntryConforms v := by
  induction items generalizing i with
  | nil => simp [checkItems]
  | cons v rest ih => simp [checkItems, checkEntry_eq_nil_iff, ih]

theorem violations_eq_nil_iff {v : Json} : violations v = [] ↔ Conforms v := by
  cases v with
  | array items => exact checkItems_eq_nil_iff
  | _ => simp [violations, Conforms]

/-- A check that does with a value what checks against a schema are for: it accepts the value if nothing
is wrong with it, and else tells one of the things that are wrong, at its place. -/
structure Validator.Faithful (validator : Validator) (v : Json) : Prop where
  accepts : violations v = [] → validator v = .accepted
  tells : violations v ≠ [] →
    ∃ bad ∈ violations v, ∃ message, validator v = .violated bad.place message

namespace Validator.Faithful
variable {validator : Validator} {v : Json}

theorem checkSchema_cases (faithful : validator.Faithful v) (name : String) :
    (Conforms v ∧ checkSchema name v validator = .ok ()) ∨
      (¬ Conforms v ∧ ∃ bad ∈ violations v, ∃ message, checkSchema name v validator =
        .error (.run (.schema ("schema validation failed for " ++ name ++ " at " ++ location bad.place
          ++ ": " ++ message)))) := by
  rw [← violations_eq_nil_iff]
  by_cases none_ : violations v = []
  · exact .inl ⟨none_, by rw [checkSchema, faithful.accepts none_]⟩
  · obtain ⟨bad, found, message, told⟩ := faithful.tells none_
    exact .inr ⟨none_, bad, found, message, by rw [checkSchema, told]⟩

theorem checkSchema_eq_ok_iff (faithful : validator.Faithful v) {name : String} :
    checkSchema name v validator = .ok () ↔ Conforms v := by
  rcases faithful.checkSchema_cases name with ⟨conforms, checked⟩ | ⟨other, _, _, _, checked⟩
  · simp [conforms, checked]
  · simp [other, checked]

end Validator.Faithful

section Installed
variable {v : Json}

theorem mem_of_violation? {bad : Violation} (told : violation? v = some bad) : bad ∈ violations v := by
  have picked (first : Violation) (rest : List Violation) :
      rest.foldl (fun a b => if a.yields b then b else a) first ∈ first :: rest := by
    induction rest generalizing first with
    | nil => simp
    | cons next rest ih =>
      rw [List.foldl_cons]
      have := ih (if first.yields next then next else first)
      grind
  unfold violation? at told
  split at told
  · contradiction
  · rename_i first rest found
    rw [found]
    exact Option.some.inj told ▸ picked first rest

theorem violation?_eq_none_iff : violation? v = none ↔ violations v = [] := by
  unfold violation?
  split <;> simp_all

/-- The check that is installed is as checks are for where all violations have words. -/
theorem faithful_installed (told : ∀ bad ∈ violations v, bad.fault? = none) :
    installed.Faithful v := by
  have spoken : (violations v).findSome? Violation.fault? = none := by simpa using told
  constructor
  · intro none_
    rw [installed, spoken, violation?_eq_none_iff.mpr none_]
  · intro some_
    obtain ⟨⟨place, message⟩, chosen⟩ : ∃ bad, violation? v = some bad := by
      rwa [← Option.ne_none_iff_exists', ne_eq, violation?_eq_none_iff]
    have found := mem_of_violation? chosen
    have words := told _ found
    cases message with
    | error f => simp [Violation.fault?] at words
    | ok message => exact ⟨_, found, message, by rw [installed, spoken, chosen]⟩

/-- It never accepts what violates the schema, not even where it cannot say why. -/
theorem checkSchema_eq_ok_iff {name : String} : checkSchema name v = .ok () ↔ Conforms v := by
  by_cases told : ∀ bad ∈ violations v, bad.fault? = none
  · exact (faithful_installed told).checkSchema_eq_ok_iff
  · obtain ⟨f, unspoken⟩ : ∃ f, (violations v).findSome? Violation.fault? = some f := by
      rw [← Option.ne_none_iff_exists']
      simpa using told
    rw [← violations_eq_nil_iff, checkSchema, installed, unspoken]
    have some_ : violations v ≠ [] := by
      intro none_
      simp [none_] at told
    simp [some_]

/-- Where it does not tell a violation, one of the violations has no words. -/
theorem checkSchema_error_cases {name : String} {f : Failure}
    (failed : checkSchema name v = .error f) :
    (∃ bad ∈ violations v, ∃ message, f = .run (.schema ("schema validation failed for " ++ name ++ " at "
      ++ location bad.place ++ ": " ++ message))) ∨
    ∃ bad ∈ violations v, ∃ unsaid, bad.fault? = some unsaid ∧ f = .fault unsaid := by
  cases spoken : (violations v).findSome? Violation.fault? with
  | none =>
    have faithful : installed.Faithful v := faithful_installed (by simpa using spoken)
    rcases faithful.checkSchema_cases name with ⟨_, checked⟩ | ⟨_, bad, found, message, checked⟩
    · simp [checked] at failed
    · exact .inl ⟨bad, found, message, Except.error.inj (failed.symm.trans checked)⟩
  | some unsaid =>
    obtain ⟨bad, found, met⟩ := List.exists_of_findSome?_eq_some spoken
    rw [checkSchema, installed, spoken] at failed
    exact .inr ⟨bad, found, unsaid, met, (Except.error.inj failed).symm⟩

end Installed

section Words
variable {v : Json} {depth : Nat} {place : List PlaceStep} {bad : Violation}

/-- A value within the limits has words for its type. -/
theorem fault?_typeMessage (free : Json.obstacle? depth v = none) (small : depth ≤ Json.depthLimit)
    (type : String) : Violation.fault? ⟨place, typeMessage v type⟩ = none := by
  rw [typeMessage, Json.literal?, Json.obstacle?_mono v small free]
  rfl

theorem fault?_checkMember (free : Json.obstacle? depth v = none) (small : depth ≤ Json.depthLimit)
    (found : bad ∈ checkMember place v) : bad.fault? = none := by
  unfold checkMember at found
  split at found
  · obtain rfl := List.mem_singleton.mp found
    rfl
  · contradiction
  · obtain rfl := List.mem_singleton.mp found
    exact fault?_typeMessage free small "string"

theorem fault?_checkEntry {i : Nat} (free : Json.obstacle? depth v = none)
    (small : depth ≤ Json.depthLimit) (found : bad ∈ checkEntry i v) : bad.fault? = none := by
  unfold checkEntry at found
  split at found
  · rename_i members
    rcases List.mem_append.mp found with shape | typed
    · rcases List.mem_append.mp shape with extra | required
      · split at extra
        · contradiction
        · obtain rfl := List.mem_singleton.mp extra
          rfl
      · obtain ⟨k, _, rfl⟩ := List.mem_map.mp required
        rfl
    · obtain ⟨k, _, typed⟩ := List.mem_flatMap.mp typed
      split at typed
      · rename_i y bound
        cases depth with
        | zero => simp [Json.obstacle?] at free
        | succ depth => exact fault?_checkMember (Json.obstacle?_of_lookup free bound) (by omega) typed
      · contradiction
  · obtain rfl := List.mem_singleton.mp found
    exact fault?_typeMessage free small "object"

theorem fault?_checkItems {i : Nat} {items : List Json} (free : Json.itemObstacle? depth items = none)
    (small : depth ≤ Json.depthLimit) (found : bad ∈ checkItems i items) : bad.fault? = none := by
  induction items generalizing i with
  | nil => simp [checkItems] at found
  | cons v rest ih =>
    obtain ⟨first, others⟩ := Option.or_eq_none_iff.mp free
    rcases List.mem_append.mp found with here | later
    · exact fault?_checkEntry first small here
    · exact ih others later

/-- Within the limits for values that are written all violations have words. -/
theorem faithful_of_free (free : Json.obstacle? Json.depthLimit v = none) : installed.Faithful v := by
  refine faithful_installed fun bad found => ?_
  cases v with
  | array items =>
    have inside : Json.itemObstacle? 989 items = none := free
    exact fault?_checkItems inside (by decide) found
  | _ =>
    obtain rfl := List.mem_singleton.mp found
    exact fault?_typeMessage free (Nat.le_refl _) "array"

end Words

/-- An entry with nothing left empty. -/
structure Entry.Fit (e : Entry) : Prop where
  file : e.file ≠ []
  content : e.content ≠ []
  message : e.message ≠ []

theorem entryConforms_toJson_iff {e : Entry} : EntryConforms e.toJson ↔ e.Fit := by
  simp only [EntryConforms, Entry.toJson, entryKeys, List.forall_mem_cons, Json.lookup, codePoints_inj]
  constructor
  · rintro ⟨_, file, content, message, _⟩
    refine ⟨?_, ?_, ?_⟩
    · simpa using file
    · simpa using content
    · simpa using message
  · rintro ⟨file, content, message⟩
    simp [file, content, message]

theorem conforms_toJson_iff {report : List Entry} :
    Conforms (toJson report) ↔ ∀ e ∈ report, e.Fit := by
  simp [Conforms, toJson, entryConforms_toJson_iff]

/-- The strings of a report have words. -/
theorem faithful_toJson (report : List Entry) : installed.Faithful (toJson report) := by
  refine faithful_of_free (Json.itemObstacle?_eq_none fun v member => ?_)
  obtain ⟨e, _, rfl⟩ := List.mem_map.mp member
  rfl

/-- A report has a text if it leaves nothing empty. -/
theorem serialize_eq_ok_iff {report : List Entry} {text : List CodePoint} :
    serialize report = .ok text ↔ (∀ e ∈ report, e.Fit) ∧ text = (toJson report).renderArtifact := by
  rw [← conforms_toJson_iff, ← @checkSchema_eq_ok_iff _ schemaName, serialize]
  cases checkSchema schemaName (toJson report) with
  | error e => simp
  | ok _ => simpa using eq_comm

/-- A report without a text violates the schema, and is told so. -/
theorem violation_of_serialize {report : List Entry} {e : Failure} (failed : serialize report = .error e) :
    ∃ e', e = .run e' ∧ e'.kind = "schema_violation" ∧ e'.code = 15 := by
  rw [serialize] at failed
  rcases (faithful_toJson report).checkSchema_cases schemaName with ⟨_, checked⟩ | ⟨_, _, _, _, checked⟩
  · simp [checked] at failed
  · rw [checked] at failed
    exact ⟨_, (Except.error.inj failed).symm, rfl, rfl⟩

end Report
end FenceCheck
