import FenceCheck.Proofs.Json.Members
import FenceCheck.Proofs.Log.Lines

/-! Logs that are written as objects, read back line by line. What a line says under a name is what its
event holds there, or what all events say; only the times are not the event's own. -/
namespace FenceCheck.Log
open FenceCheck.Text FenceCheck.Number

/-- What an object on a line of a log says under each name. -/
abbrev Record := String → Option Json

/-- A log whose lines, each ended by a feed, are objects that say what the records say. -/
inductive Tells : String → List Record → Prop where
  | nil : Tells "" []
  | line {body rest : String} {members : Json.Members} {records : List Record} :
      ¬ HasFeed body → Json.read body = .ok (.object members) → Tells rest records →
      Tells (body ++ "\n" ++ rest) ((fun name => Json.lookup (codePoints name) members) :: records)

/-- What events add to a log, each at a time of its own. -/
def written (ctx : Option RunContext) : List (Event × String) → Except Fault String
  | [] => .ok ""
  | (e, stamp) :: rest => do
    let first ← e.write ctx stamp
    return first ++ (← written ctx rest)

/-- A text that events may come to in a log, whenever each of them happens. -/
def Logged (ctx : RunContext) (events : List Event) (text : String) : Prop :=
  ∃ stamped, stamped.map Prod.fst = events ∧ written (some ctx) stamped = .ok text

/-- What every event says: when it happened, in which run and where. -/
def Event.common (e : Event) (runId stamp : String) : List (String × Json) :=
  [("ts", .text stamp), ("level", .text e.level.word), ("run_id", .text runId),
    ("component", .text e.component), ("action", .text e.action)]

/-- What an event says under each name. -/
def Event.record (e : Event) (runId stamp : String) : Record :=
  fun name => (e.common runId stamp ++ e.fields).lookup name

/-- A record without its time. -/
def Record.untimed (r : Record) : Record :=
  fun name => if name = "ts" then none else r name

/-- An event whose own fields are texts and numbers, under names that are not common ones. -/
structure Event.Flat (e : Event) : Prop where
  distinct : (["ts", "level", "run_id", "component", "action"] ++ e.fields.map Prod.fst).Nodup
  scalar : ∀ m ∈ e.fields, (∃ s, m.2 = .text s) ∨ ∃ n, m.2 = .nat n

section Events
variable {e : Event} {ctx : RunContext} {runId stamp : String}

theorem not_long_of_isWritable {n : Int} (writable : isWritable (.int n) = true) :
    ¬ digitLimit < (toString n.natAbs).length := by
  simpa [isWritable, renderInt?] using writable

theorem record_untimed (e : Event) (runId stamp other : String) :
    (e.record runId stamp).untimed = (e.record runId other).untimed := by
  funext name
  by_cases time : name = "ts"
  · simp [Record.untimed, time]
  · simp [Record.untimed, Event.record, Event.common, List.lookup_cons, time, beq_eq_false_iff_ne.mpr time]

theorem text_of_common {m : String × Json} (common : m ∈ e.common runId stamp) : ∃ s, m.2 = .text s := by
  have text : ∀ m ∈ e.common runId stamp, ∃ s, m.2 = .text s := by
    simp [Event.common]
  exact text m common

theorem body_of_objects (objects : ctx.logJson = true) (e : Event) (stamp : String) :
    e.body (some ctx) stamp = ofCodePoints ((Json.object (e.payload ctx.runId stamp)).render .compact) :=
  if_pos objects

namespace Event.Flat

theorem distinct_members (flat : e.Flat) (runId stamp : String) :
    ((e.common runId stamp ++ e.fields).map Prod.fst).Nodup := by
  rw [List.map_append]
  exact flat.distinct

theorem scalar_members (flat : e.Flat) {m : String × Json}
    (member : m ∈ e.common runId stamp ++ e.fields) : (∃ s, m.2 = .text s) ∨ ∃ n, m.2 = .nat n := by
  rcases List.mem_append.mp member with common | own
  · exact .inl (text_of_common common)
  · exact flat.scalar m own

/-- Nothing that such an event says takes the place of what all events say. -/
theorem payload_eq (flat : e.Flat) (runId stamp : String) :
    .object (e.payload runId stamp) = Json.ofMembers (e.common runId stamp ++ e.fields) := by
  have keys := Json.distinct_codePoints (flat.distinct_members runId stamp)
  rw [List.map_append] at keys
  have bound := Json.foldl_bind id keys
  rw [List.foldl_map] at bound
  rw [Json.ofMembers, List.map_append]
  exact congrArg Json.object (bound.trans (by simp))

/-- An event that has a text is read back as what it says. -/
theorem read_body (flat : e.Flat) (objects : ctx.logJson = true)
    (writable : e.fields.all (fun (_, v) => isWritable v) = true) (stamp : String) :
    ∃ members, Json.read (e.body (some ctx) stamp) = .ok (.object members) ∧
      (fun name => Json.lookup (codePoints name) members) = e.record ctx.runId stamp := by
  have legible : ∀ m ∈ e.common ctx.runId stamp ++ e.fields,
      Json.Legible (Json.depthLimit - 1) m.2 := by
    intro m member
    rcases List.mem_append.mp member with common | own
    · obtain ⟨s, same⟩ := text_of_common common
      exact same ▸ .text s
    · rcases flat.scalar m own with ⟨s, same⟩ | ⟨n, same⟩
      · exact same ▸ .text s
      · have short : isWritable m.2 = true := List.all_eq_true.mp writable m own
        rw [same] at short ⊢
        exact .int (not_long_of_isWritable short)
  obtain ⟨members, read, found⟩ := Json.read_members (flat.distinct_members _ _) legible
  refine ⟨members, ?_, ?_⟩
  · rw [body_of_objects objects, flat.payload_eq]
    exact read
  · funext name
    rw [found, Event.record]
    cases bound : (e.common ctx.runId stamp ++ e.fields).lookup name with
    | none => rfl
    | some v =>
      rcases flat.scalar_members (Bindings.mem_of_lookup bound) with ⟨s, rfl⟩ | ⟨n, rfl⟩ <;> rfl

end Event.Flat

/-- A verbose run that is not quiet writes all events. -/
theorem isEnabled_of_loud (verbose : ctx.verbose = true) (quiet : ctx.quiet = false) (e : Event) :
    e.isEnabled (some ctx) = true := by
  cases level : e.level <;> simp [Event.isEnabled, level, verbose, quiet]

theorem tells_of_written (objects : ctx.logJson = true) {stamped : List (Event × String)}
    (flat : ∀ m ∈ stamped, m.1.Flat) (enabled : ∀ m ∈ stamped, m.1.isEnabled (some ctx) = true)
    {text : String} (told : written (some ctx) stamped = .ok text) :
    Tells text (stamped.map fun m => m.1.record ctx.runId m.2) := by
  induction stamped generalizing text with
  | nil =>
    obtain rfl : "" = text := Except.ok.inj told
    exact .nil
  | cons m rest ih =>
    obtain ⟨e, stamp⟩ := m
    rw [List.forall_mem_cons] at flat enabled
    obtain ⟨line, first, told⟩ := exists_of_bind told
    obtain ⟨more, later, told⟩ := exists_of_bind told
    obtain rfl := Except.ok.inj told
    rw [write_eq_ok_iff, if_pos enabled.1] at first
    obtain ⟨writable, rfl⟩ := first
    obtain ⟨members, read, said⟩ := flat.1.read_body objects writable stamp
    have unbroken : ¬ HasFeed (e.body (some ctx) stamp) := by
      rw [body_of_objects objects]
      exact Json.feed_notMem_compact _
    rw [List.map_cons, ← said, line_eq_body]
    exact .line unbroken read (ih flat.2 enabled.2 later)

/-- Events all of whose numbers have texts come to a log. -/
theorem exists_logged (ctx : RunContext) {events : List Event}
    (writable : ∀ e ∈ events, e.fields.all (fun (_, v) => isWritable v) = true) :
    ∃ text, Logged ctx events text := by
  suffices ∃ text, written (some ctx) (events.map fun e => (e, "")) = .ok text by
    obtain ⟨text, told⟩ := this
    exact ⟨text, _, by simp [Function.comp_def], told⟩
  induction events with
  | nil => exact ⟨"", rfl⟩
  | cons e rest ih =>
    rw [List.forall_mem_cons] at writable
    obtain ⟨more, later⟩ := ih writable.2
    obtain ⟨line, first⟩ : ∃ line, e.write (some ctx) "" = .ok line := by
      rw [Event.write, if_pos writable.1]
      split <;> exact ⟨_, rfl⟩
    exact ⟨line ++ more, by simp [written, first, later]⟩

/-- Whenever they happen, events come to a log that says what they say. -/
theorem Logged.tells {events : List Event} {text : String} (logged : Logged ctx events text)
    (objects : ctx.logJson = true) (verbose : ctx.verbose = true) (quiet : ctx.quiet = false)
    (flat : ∀ e ∈ events, e.Flat) : ∃ records, Tells text records ∧
      records.map Record.untimed = events.map fun e => (e.record ctx.runId "").untimed := by
  obtain ⟨stamped, rfl, told⟩ := logged
  refine ⟨_, tells_of_written objects (fun m member => flat m.1 (List.mem_map_of_mem member))
    (fun m _ => isEnabled_of_loud verbose quiet m.1) told, ?_⟩
  rw [List.map_map, List.map_map]
  exact List.map_congr_left fun m _ => record_untimed m.1 ctx.runId m.2 ""

end Events

end FenceCheck.Log
