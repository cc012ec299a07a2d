import FenceCheck.Clock
import FenceCheck.Proofs.Bindings
import FenceCheck.Proofs.Json.OneLine
import FenceCheck.Trace

/-! How many lines a log has. As an object an event is one line whatever it tells. In plain form its words
and the texts among its values are written as they are, so it is one line just if none of them holds a line
feed; all else in it is digits or in literal form. -/
namespace FenceCheck

/-- Whether a line ends somewhere in a text. -/
def HasFeed (text : String) : Prop :=
  '\n' ∈ text.toList

instance (text : String) : Decidable (HasFeed text) := inferInstanceAs (Decidable (_ ∈ _))

@[simp] theorem hasFeed_append {s t : String} : HasFeed (s ++ t) ↔ HasFeed s ∨ HasFeed t := by
  simp [HasFeed]

theorem hasFeed_join_iff {gap : String} (smooth : ¬ HasFeed gap) {texts : List String} :
    HasFeed (String.intercalate gap texts) ↔ ∃ text ∈ texts, HasFeed text := by
  induction texts with
  | nil => simp [HasFeed]
  | cons first rest ih =>
    cases rest with
    | nil => simp
    | cons next more =>
      rw [String.intercalate_cons_cons, hasFeed_append, hasFeed_append, ih]
      simp [smooth]

/-- One line: a line feed stands at the end of the text and nowhere else. -/
def OneLine (text : String) : Prop :=
  ∃ body : String, text = body ++ "\n" ∧ ¬ HasFeed body

theorem oneLine_append_iff {body : String} : OneLine (body ++ "\n") ↔ ¬ HasFeed body := by
  constructor
  · rintro ⟨other, same, unbroken⟩
    have same : body = other := by simpa [← String.toList_inj] using same
    rwa [same]
  · exact fun unbroken => ⟨body, rfl, unbroken⟩

namespace Toml

theorem not_hasFeed_padded (width n : Nat) : ¬ HasFeed (padded width n) := by
  have digits : ¬ HasFeed (toString n) := by
    rw [HasFeed, Json.toList_toString]
    exact fun feed => absurd (Json.isDigit_toDigits feed) (by decide)
  have filler : ¬ HasFeed (String.ofList (Number.zeros (width - (toString n).length))) := by
    simp [HasFeed, Number.zeros]
  simp only [padded, hasFeed_append, not_or]
  exact ⟨filler, digits⟩

theorem not_hasFeed_offsetIso (o : Int) : ¬ HasFeed (offsetIso o) := by
  have sign : ¬ HasFeed (if o < 0 then "-" else "+") := by
    split <;> decide
  have colon : ¬ HasFeed ":" := by decide
  simp [offsetIso, not_hasFeed_padded, sign, colon]

/-- A point in time is shown by digits and marks between them. -/
theorem not_hasFeed_iso (m : DateTime) : ¬ HasFeed m.iso := by
  have fraction : ¬ HasFeed (if m.time.micro = 0 then "" else "." ++ padded 6 m.time.micro) := by
    split
    · decide
    · simpa [not_hasFeed_padded] using (by decide : ¬ HasFeed ".")
  have marks : ¬ HasFeed "-" ∧ ¬ HasFeed ":" ∧ ¬ HasFeed "T" := by decide
  simp only [DateTime.iso, Date.iso, Time.iso, hasFeed_append, not_hasFeed_padded, marks, or_false,
    false_or, not_or]
  refine ⟨fraction, ?_⟩
  split
  · decide
  · exact not_hasFeed_offsetIso _

end Toml

namespace Log

/-- The text that a value is, if it is one. -/
def text? : Json → Option String
  | .string s => some (Text.escaped s)
  | _ => none

/-- What the plain form of an event shows as it is: its words, the names of its fields, and the texts
among their values. -/
def Event.words (e : Event) (runId : String) : List String :=
  [e.level.word, runId, e.component, e.action] ++ e.fields.flatMap fun (k, v) => k :: (text? v).toList

/-- Whether events are written as objects. -/
def asObjects (ctx : Option RunContext) : Bool :=
  (ctx.map (·.logJson)).getD false

/-- The name of the run that events show. -/
def shownRun (ctx : Option RunContext) : String :=
  (ctx.map (·.runId)).getD libraryRunId

/-- An event that is written as an object, or in whose words no line ends. -/
def Unbroken (ctx : Option RunContext) (e : Event) : Prop :=
  asObjects ctx = true ∨ ∀ word ∈ e.words (shownRun ctx), ¬ HasFeed word

instance (ctx : Option RunContext) (e : Event) : Decidable (Unbroken ctx e) :=
  inferInstanceAs (Decidable (_ ∨ _))

section Events
variable {e : Event} {ctx : Option RunContext} {runId stamp : String}

theorem hasFeed_plain_iff {v : Json} : HasFeed v.plain ↔ ∃ s ∈ text? v, HasFeed s := by
  have literal (v : Json) : ¬ HasFeed v.literal := Json.feed_notMem_literal v
  cases v with
  | string s => simp [Json.plain, text?]
  | _ => simp [Json.plain, text?, literal]

/-- The fields in plain form hold a line feed if a name or a text among them does. -/
theorem hasFeed_fields_iff {fields : List (String × Json)} :
    HasFeed (String.intercalate " " ((fields.mergeSort fun a b => a.1 ≤ b.1).map
        fun (k, v) => k ++ "=" ++ v.plain)) ↔
      ∃ word ∈ fields.flatMap (fun (k, v) => k :: (text? v).toList), HasFeed word := by
  have shown (k : String) (v : Json) : HasFeed (k ++ "=" ++ v.plain) ↔
      ∃ word ∈ k :: (text? v).toList, HasFeed word := by
    have equals : ¬ HasFeed "=" := by decide
    simp [hasFeed_plain_iff, equals]
  simp only [hasFeed_join_iff (by decide : ¬ HasFeed " "), List.mem_map, List.mem_mergeSort,
    List.mem_flatMap]
  constructor
  · rintro ⟨_, ⟨m, listed, rfl⟩, feed⟩
    obtain ⟨word, here, feed⟩ := (shown m.1 m.2).mp feed
    exact ⟨word, ⟨m, listed, here⟩, feed⟩
  · rintro ⟨word, ⟨m, listed, here⟩, feed⟩
    exact ⟨_, ⟨m, listed, rfl⟩, (shown m.1 m.2).mpr ⟨word, here, feed⟩⟩

/-- A time that an event tells in the place of the stamp is the value of one of its fields. -/
theorem hasFeed_of_told (timed : ¬ HasFeed stamp)
    (feed : HasFeed (((e.fields.lookup "ts").map Json.plain).getD stamp)) :
    ∃ word ∈ e.fields.flatMap (fun (k, v) => k :: (text? v).toList), HasFeed word := by
  cases told : e.fields.lookup "ts" with
  | none => exact absurd (by simpa [told] using feed) timed
  | some v =>
    rw [told, Option.map_some, Option.getD_some, hasFeed_plain_iff] at feed
    obtain ⟨s, isText, feed⟩ := feed
    have listed := Bindings.mem_of_lookup told
    refine ⟨s, List.mem_flatMap.mpr ⟨_, listed, ?_⟩, feed⟩
    exact List.mem_cons_of_mem _ (Option.mem_toList.mpr isText)

/-- A line ends in the plain form of an event if it does in one of the words that are shown. -/
theorem hasFeed_plainForm_iff (timed : ¬ HasFeed stamp) :
    HasFeed (e.plain runId stamp) ↔ ∃ word ∈ e.words runId, HasFeed word := by
  have told := hasFeed_of_told (e := e) timed
  have names : ¬ HasFeed "ts=" ∧ ¬ HasFeed " level=" ∧ ¬ HasFeed " run_id=" ∧
      ¬ HasFeed " component=" ∧ ¬ HasFeed " action=" ∧ ¬ HasFeed " " ∧ ¬ HasFeed "" := by decide
  simp only [Event.words, List.cons_append, List.nil_append, List.mem_cons, exists_eq_or_imp]
  rw [← hasFeed_fields_iff] at told ⊢
  simp only [Event.plain]
  split
  · rename_i nothing
    rw [nothing] at told ⊢
    simp only [hasFeed_append, names, false_or, or_false, or_assoc, imp_false] at told ⊢
    simp only [told, false_or]
  · simp only [hasFeed_append, names, false_or, or_false, or_assoc] at told ⊢
    exact or_iff_right_of_imp fun feed => by simp only [told feed, or_true]

/-- What stands before the end of an event's line. -/
def Event.body (e : Event) (ctx : Option RunContext) (stamp : String) : String :=
  if asObjects ctx then
    Text.ofCodePoints ((Json.object (e.payload (shownRun ctx) stamp)).render .compact)
  else e.plain (shownRun ctx) stamp

theorem line_eq_body : e.line ctx stamp = e.body ctx stamp ++ "\n" := rfl

theorem hasFeed_body_iff (timed : ¬ HasFeed stamp) : HasFeed (e.body ctx stamp) ↔ ¬ Unbroken ctx e := by
  rw [Event.body, Unbroken]
  split
  · rename_i objects
    exact iff_of_false (Json.feed_notMem_compact _) (by simp [objects])
  · rename_i plain
    rw [hasFeed_plainForm_iff timed]
    simp [plain]

/-- The line of an event is one line just if the event is unbroken. -/
theorem oneLine_line_iff (timed : ¬ HasFeed stamp) : OneLine (e.line ctx stamp) ↔ Unbroken ctx e := by
  rw [line_eq_body, oneLine_append_iff, hasFeed_body_iff timed, not_not]

/-- An event that is enabled and has a text adds its line, any other adds nothing. -/
theorem write_eq_ok_iff {text : String} : e.write ctx stamp = .ok text ↔
    if e.isEnabled ctx then e.fields.all (fun (_, v) => isWritable v) = true ∧ text = e.line ctx stamp
    else text = "" := by
  rw [Event.write]
  cases e.isEnabled ctx with
  | false => simp [eq_comm]
  | true =>
    cases e.fields.all fun (_, v) => isWritable v with
    | false => simp
    | true => simp [eq_comm]

end Events

section Logs
variable {ctx : Option RunContext} {stamp : String} {e : Event} {events : List Event}

/-- How often a line ends in a text. -/
def feeds (text : String) : Nat :=
  text.toList.count '\n'

theorem feeds_append (s t : String) : feeds (s ++ t) = feeds s + feeds t := by
  simp [feeds]

theorem feeds_line : feeds (e.line ctx stamp) = feeds (e.body ctx stamp) + 1 := by
  rw [line_eq_body, feeds_append]
  rfl

theorem feeds_body_eq_zero_iff (timed : ¬ HasFeed stamp) :
    feeds (e.body ctx stamp) = 0 ↔ Unbroken ctx e := by
  rw [feeds, List.count_eq_zero, ← not_iff_not, not_not]
  exact hasFeed_body_iff timed

theorem text_cons : text ctx stamp (e :: events) =
    (if e.isEnabled ctx then e.line ctx stamp else "") ++ text ctx stamp events := by
  rw [← String.toList_inj]
  cases enabled : e.isEnabled ctx <;> simp [text, enabled]

theorem length_enabled_cons : ((e :: events).filter (·.isEnabled ctx)).length =
    (if e.isEnabled ctx then 1 else 0) + (events.filter (·.isEnabled ctx)).length := by
  cases enabled : e.isEnabled ctx with
  | false => simp [enabled]
  | true => simp [enabled, Nat.add_comm]

/-- A log has a line for each enabled event at least. -/
theorem length_le_feeds_text (events : List Event) :
    (events.filter (·.isEnabled ctx)).length ≤ feeds (text ctx stamp events) := by
  induction events with
  | nil => simp
  | cons e events ih =>
    rw [text_cons, feeds_append, length_enabled_cons]
    split
    · rw [feeds_line]
      omega
    · exact Nat.add_le_add (Nat.zero_le _) ih

/-- A log has just as many lines as enabled events if these are all unbroken. -/
theorem feeds_text_eq_iff (timed : ¬ HasFeed stamp) (events : List Event) :
    feeds (text ctx stamp events) = (events.filter (·.isEnabled ctx)).length ↔
      ∀ e ∈ events, e.isEnabled ctx = true → Unbroken ctx e := by
  induction events with
  | nil => simp [text, feeds]
  | cons e events ih =>
    have least : (events.filter (·.isEnabled ctx)).length ≤ feeds (text ctx stamp events) :=
      length_le_feeds_text events
    have body : feeds (e.body ctx stamp) = 0 ↔ Unbroken ctx e := feeds_body_eq_zero_iff timed
    rw [text_cons, feeds_append, List.forall_mem_cons, ← ih, length_enabled_cons]
    split
    · rename_i enabled
      simp only [enabled, forall_const, ← body, feeds_line]
      omega
    · rename_i disabled
      have nothing : feeds "" = 0 := rfl
      simp [disabled, nothing]

/-- What an event adds to a log is nothing or one line just if the event is unbroken, as long as it is to
be written and can be. A log has as many lines as enabled events just if all of these are unbroken: always
where they are objects, and in plain form where no line ends in the name of the run, in the words of an
event, in the names of its fields or in their texts. -/
theorem events_on_one_line (ctx : Option RunContext) (m : Toml.DateTime) (e : Event)
    (events : List Event) :
    ((∀ text, e.write ctx (Clock.stamp m) = .ok text → text = "" ∨ OneLine text) ↔
      (e.isEnabled ctx = true → e.fields.all (fun (_, v) => isWritable v) = true → Unbroken ctx e)) ∧
    (feeds (text ctx (Clock.stamp m) events) = (events.filter (·.isEnabled ctx)).length ↔
      ∀ e ∈ events, e.isEnabled ctx = true → Unbroken ctx e) := by
  have timed : ¬ HasFeed (Clock.stamp m) := Toml.not_hasFeed_iso m
  refine ⟨?_, feeds_text_eq_iff timed events⟩
  simp only [write_eq_ok_iff, ← oneLine_line_iff timed]
  cases e.isEnabled ctx with
  | false => simp
  | true =>
    have some_ : e.line ctx (Clock.stamp m) ≠ "" := by simp [line_eq_body]
    simp [some_]

/-- A complaint of two lines breaks the line of its event where events are in plain form. -/
theorem long_complaint_breaks_line :
    let ctx : RunContext := ⟨"r", true, false, false⟩
    let e : Event := ⟨.debug, "report", "syntax-error", [("message", .text "a\nb")]⟩
    let stamp := Clock.stamp (Clock.momentOf 0)
    ∃ text, e.write (some ctx) stamp = .ok text ∧ ¬ (text = "" ∨ OneLine text) := by
  intro ctx e stamp
  have timed : ¬ HasFeed stamp := Toml.not_hasFeed_iso _
  have broken : ¬ Unbroken (some ctx) e := by decide +kernel
  refine ⟨e.line (some ctx) stamp, rfl, ?_⟩
  rw [oneLine_line_iff timed]
  simp [line_eq_body, broken]

end Logs
end Log
end FenceCheck
