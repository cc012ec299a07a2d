import FenceCheck.Json.Literal
import FenceCheck.Proofs.Json.Styles

/-! Values on one line. The compact text of a value is printable ASCII whatever the value holds, since
everything else is escaped; the literal form may hold other characters, but no line feed. -/
namespace FenceCheck.Json
open FenceCheck.Text FenceCheck.Number

section Numbers
variable {ds : List Char}

theorem printable_of_isDigit {c : Char} (digit : c.isDigit = true) : Printable c :=
  digit_of_marks printable_of_marks digit

theorem printable_zeros (n : Nat) : ∀ c ∈ zeros n, Printable c := by
  intro c member
  obtain rfl := List.eq_of_mem_replicate member
  decide

theorem printable_positional (digits : ∀ c ∈ ds, Printable c) (lead : Int) :
    ∀ c ∈ positional ds lead, Printable c := by
  have zero : Printable '0' := by decide
  have point : Printable '.' := by decide
  rw [positional]
  split
  · simp only [List.forall_mem_cons, List.forall_mem_append]
    exact ⟨zero, point, printable_zeros _, digits⟩
  · have whole : ∀ c ∈ ds.take (lead.toNat + 1), Printable c :=
      fun c member => digits c (List.mem_of_mem_take member)
    have after : ∀ c ∈ ds.drop (lead.toNat + 1), Printable c :=
      fun c member => digits c (List.mem_of_mem_drop member)
    simp only [List.forall_mem_cons, List.forall_mem_append]
    refine ⟨⟨whole, printable_zeros _⟩, point, ?_⟩
    split
    · exact List.forall_mem_singleton.mpr zero
    · exact after

theorem printable_scientific (digits : ∀ c ∈ ds, Printable c) (lead : Int) :
    ∀ c ∈ scientific ds lead, Printable c := by
  have power : ∀ c ∈ Nat.toDigits 10 lead.natAbs, Printable c :=
    fun c member => printable_of_isDigit (isDigit_toDigits member)
  have sign : Printable (if lead < 0 then '-' else '+') := by
    split <;> decide
  simp only [scientific, List.forall_mem_cons, List.forall_mem_append]
  refine ⟨⟨fun c member => digits c (List.mem_of_mem_take member), ?_⟩, by decide, sign,
    printable_zeros _, power⟩
  split
  · simp
  · refine List.forall_mem_cons.mpr ⟨by decide, ?_⟩
    exact fun c member => digits c (List.mem_of_mem_drop member)

theorem printable_leading (d : Binary64.Decimal) : ∀ c ∈ d.leading.1, Printable c := by
  simp only [Binary64.Decimal.leading]
  split
  · exact List.forall_mem_singleton.mpr (by decide)
  · intro c member
    have kept := (List.dropWhile_sublist _).subset (List.mem_reverse.mp member)
    exact printable_of_isDigit (isDigit_toDigits (List.mem_reverse.mp kept))

/-- A floating-point number is written in printable characters. -/
theorem printable_float (x : Binary64) : ∀ c ∈ x.render.toList, Printable c := by
  rw [Binary64.render]
  split
  · exact printable_of_all (by decide)
  · split <;> exact printable_of_all (by decide)
  · rename_i negative m e _
    have digits := printable_leading (Binary64.shortest m e)
    generalize whole : (if m = 0 then _ else _ : List Char) = body
    have printable : ∀ c ∈ body, Printable c := by
      rw [← whole]
      split
      · exact printable_of_all (by decide)
      · split
        rename_i ds lead shortest
        rw [shortest] at digits
        split
        · exact printable_positional digits lead
        · exact printable_scientific digits lead
    rw [String.toList_ofList]
    split
    · exact List.forall_mem_cons.mpr ⟨by decide, printable⟩
    · exact printable

theorem printable_renderFloat (x : Binary64) : ∀ c ∈ (renderFloat x).toList, Printable c := by
  rw [renderFloat]
  split
  · exact printable_of_all (by decide)
  · split <;> exact printable_of_all (by decide)
  · exact printable_float x

theorem printable_renderInt (n : Int) : ∀ c ∈ (renderInt n).toList, Printable c := by
  have digits : ∀ c ∈ (toString n.natAbs).toList, Printable c := by
    intro c member
    rw [toList_toString] at member
    exact printable_of_isDigit (isDigit_toDigits member)
  rw [renderInt]
  split
  · rw [String.toList_append, List.forall_mem_append]
    exact ⟨printable_of_all (by decide), digits⟩
  · exact digits

end Numbers

theorem printable_renderString (s : List CodePoint) : ∀ c ∈ chars (renderString true s), Printable c := by
  have mark : Printable '"' := by decide
  simp only [renderString, chars_cons, chars_append, chars_nil, CodePoint.toChar_ofChar,
    List.forall_mem_cons, List.forall_mem_append]
  refine ⟨mark, ?_, mark, by simp⟩
  intro c member
  simp only [chars, List.map_flatMap, List.mem_flatMap] at member
  obtain ⟨p, _, inside⟩ := member
  exact printable_of_escape_ascii p c inside

theorem printable_enclose (level : Nat) {opening closing : Char} (opens : Printable opening)
    (closes : Printable closing) {texts : List (List CodePoint)}
    (inner : ∀ t ∈ texts, ∀ c ∈ chars t, Printable c) :
    ∀ c ∈ chars (enclose .compact level opening closing texts), Printable c :=
  enclose_of_marks printable_of_marks (fun spread => absurd spread (by decide)) level opens closes inner

mutual

/-- Whatever a value holds, its text on one line is printable. -/
theorem printable_renderAt (level : Nat) : ∀ v : Json, ∀ c ∈ chars (renderAt .compact level v), Printable c
  | .null => by
    rw [renderAt, chars_points]
    exact printable_of_all (by decide)
  | .bool b => by
    rw [renderAt, chars_points]
    cases b <;> exact printable_of_all (by decide)
  | .int n => by
    rw [renderAt, chars_points]
    exact printable_renderInt n
  | .float x => by
    rw [renderAt, chars_points]
    exact printable_renderFloat x
  | .string s => printable_renderString s
  | .array items => by
    rw [renderAt]
    exact printable_enclose level (by decide) (by decide) (printable_renderItems (level + 1) items)
  | .object members => by
    rw [renderAt]
    refine printable_enclose level (by decide) (by decide) ?_
    intro t member
    obtain ⟨m, sorted, rfl⟩ := List.mem_map.mp member
    simp only [chars_append, chars_points, List.forall_mem_append]
    refine ⟨⟨printable_renderString m.1, printable_of_all (by decide)⟩, ?_⟩
    exact printable_renderMembers (level + 1) members m (List.mem_mergeSort.mp sorted)

theorem printable_renderItems (level : Nat) : ∀ items : List Json,
    ∀ t ∈ renderItems .compact level items, ∀ c ∈ chars t, Printable c
  | [] => by simp [renderItems]
  | v :: rest => by
    rw [renderItems, List.forall_mem_cons]
    exact ⟨printable_renderAt level v, printable_renderItems level rest⟩

theorem printable_renderMembers (level : Nat) : ∀ members : Members,
    ∀ m ∈ renderMembers .compact level members, ∀ c ∈ chars m.2, Printable c
  | [] => by simp [renderMembers]
  | (_, v) :: rest => by
    rw [renderMembers, List.forall_mem_cons]
    exact ⟨printable_renderAt level v, printable_renderMembers level rest⟩

end

/-- The one-line text of a value has no line feed in it. -/
theorem feed_notMem_compact (v : Json) : '\n' ∉ (ofCodePoints (v.render .compact)).toList := by
  intro feed
  rw [ofCodePoints, String.toList_ofList] at feed
  exact (printable_renderAt 0 v _ feed).ne_feed rfl

section Literals

theorem mem_intercalate {α : Type} {a : α} {gap : List α} {parts : List (List α)}
    (member : a ∈ gap.intercalate parts) : a ∈ gap ∨ ∃ part ∈ parts, a ∈ part := by
  induction parts with
  | nil => simp at member
  | cons part rest ih =>
    cases rest with
    | nil => exact .inr ⟨part, by simp, by simpa using member⟩
    | cons next more =>
      rw [List.intercalate_cons_cons, List.mem_append, List.mem_append] at member
      rcases member with (here | between) | later
      · exact .inr ⟨part, by simp, here⟩
      · exact .inl between
      · exact (ih later).imp id fun ⟨other, there, inside⟩ => ⟨other, List.mem_cons_of_mem _ there, inside⟩

theorem feed_notMem_intercalate {parts : List String} (unbroken : ∀ part ∈ parts, '\n' ∉ part.toList) :
    '\n' ∉ (String.intercalate ", " parts).toList := by
  rw [String.toList_intercalate]
  intro feed
  rcases mem_intercalate feed with gap | ⟨part, there, inside⟩
  · exact absurd gap (by decide)
  · obtain ⟨text, member, rfl⟩ := List.mem_map.mp there
    exact unbroken text member inside

theorem toChar_eq_feed_iff (p : CodePoint) : p.toChar = '\n' ↔ p.val = 0x0A := by
  constructor
  · intro feed
    by_cases scalar : p.isSurrogate = false
    · rw [← CodePoint.toNat_toChar scalar, feed]
      rfl
    · have surrogate : ¬ p.val.isValidChar := by
        simp only [CodePoint.isSurrogate, Bool.and_eq_false_iff, decide_eq_false_iff_not] at scalar
        simp only [Nat.isValidChar]
        omega
      rw [CodePoint.toChar, Char.ofNat, dif_neg surrogate] at feed
      exact absurd feed (by decide)
  · intro feed
    rw [CodePoint.toChar, feed]

theorem feed_notMem_numbered (p : CodePoint) : '\n' ∉ numbered p := by
  have hex (width n : Nat) : '\n' ∉ hexFixed width n := by
    intro feed
    obtain ⟨i, same⟩ := mem_hexFixed feed
    have digits : ∀ i : Fin 16, '\n' ≠ hexDigit i := by decide
    exact digits i same
  unfold numbered
  split_ifs <;> simp [hex]

/-- Quoted texts show a line feed by its letter. -/
theorem feed_notMem_quotedPoint {mark : Char} (other : mark ≠ '\n') (p : CodePoint) :
    '\n' ∉ quotedPoint mark p := by
  unfold quotedPoint
  split_ifs with isMark backslash feed line tab printable
  · simpa [eq_comm] using other
  · decide
  · decide
  · decide
  · decide
  · rw [List.mem_singleton, eq_comm, toChar_eq_feed_iff]
    exact feed
  · exact feed_notMem_numbered p

theorem feed_notMem_quotedPoints (ps : List CodePoint) : '\n' ∉ (quotedPoints ps).toList := by
  have other : quoteMark ps ≠ '\n' := by
    rw [quoteMark]
    split <;> decide
  simp only [quotedPoints, String.toList_ofList, List.mem_cons, List.mem_append, List.mem_flatMap,
    List.not_mem_nil, or_false, not_or, not_exists, not_and]
  exact ⟨other.symm, fun p _ => feed_notMem_quotedPoint other p, other.symm⟩

mutual

/-- Whatever a value holds, its literal form is on one line. -/
theorem feed_notMem_literal : ∀ v : Json, '\n' ∉ (literal v).toList
  | .null => by decide
  | .bool b => by cases b <;> decide
  | .int n => by
    rw [literal]
    exact fun feed => (printable_renderInt n _ feed).ne_feed rfl
  | .float x => by
    rw [literal]
    exact fun feed => (printable_float x _ feed).ne_feed rfl
  | .string s => by
    rw [literal]
    exact feed_notMem_quotedPoints s
  | .array items => by
    have inner := feed_notMem_intercalate (feed_notMem_literalItems items)
    simpa [literal] using inner
  | .object members => by
    have inner := feed_notMem_intercalate (feed_notMem_literalMembers members)
    simpa [literal] using inner

theorem feed_notMem_literalItems : ∀ items : List Json, ∀ text ∈ literalItems items, '\n' ∉ text.toList
  | [] => by simp [literalItems]
  | v :: rest => by
    rw [literalItems, List.forall_mem_cons]
    exact ⟨feed_notMem_literal v, feed_notMem_literalItems rest⟩

theorem feed_notMem_literalMembers : ∀ members : Members,
    ∀ text ∈ literalMembers members, '\n' ∉ text.toList
  | [] => by simp [literalMembers]
  | (k, v) :: rest => by
    rw [literalMembers, List.forall_mem_cons]
    refine ⟨?_, feed_notMem_literalMembers rest⟩
    simp [feed_notMem_quotedPoints, feed_notMem_literal]

end

end Literals
end FenceCheck.Json
