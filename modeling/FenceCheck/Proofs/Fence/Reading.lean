import FenceCheck.Fence.Scanner
import FenceCheck.Proofs.Text.Blank
import Mathlib.Data.Nat.Find

/-! Blocks read by searching for pairs of lines rather than by walking with a state. The search knows
no buffer: a pair is the first opening line and the first closing fence behind it, and a block is what
stands strictly between them. Main statement: the scanner finds exactly the blocks of these pairs. -/
namespace FenceCheck.Fence
open FenceCheck.Text

/-- The line starts with the marker. -/
def Opens (marker line : List Char) : Prop := marker <+: line

/-- A bare closing fence: the mark at the start of the line, and only blanks behind it. -/
def Closes (line : List Char) : Prop :=
  ∃ tail, line = fence ++ tail ∧ ∀ c ∈ tail, isBlank c = true

/-- Line `n`, counted from zero, is the first from `start` on with a property. -/
structure FirstFrom (p : List Char → Prop) (lines : List (List Char)) (start n : Nat) : Prop where
  after : start ≤ n
  holds : ∃ line, lines[n]? = some line ∧ p line
  least : ∀ k line, start ≤ k → k < n → lines[k]? = some line → ¬ p line

/-- An opening line and the line that closes it, counted from zero. -/
structure Span where
  opening : Nat
  closing : Nat
  deriving DecidableEq, Repr

/-- The pairs of lines from `start` on: each time the first opening line and the first closing fence
behind it, as long as there are both. -/
inductive Paired (marker : List Char) (lines : List (List Char)) : Nat → List Span → Prop where
  | stop : (¬ ∃ o c, FirstFrom (Opens marker) lines start o ∧ FirstFrom Closes lines (o + 1) c) →
      Paired marker lines start []
  | pair : FirstFrom (Opens marker) lines start o → FirstFrom Closes lines (o + 1) c →
      Paired marker lines (c + 1) rest → Paired marker lines start (⟨o, c⟩ :: rest)

/-- The lines strictly between the two of a pair. -/
def Span.between (s : Span) (lines : List (List Char)) : List (List Char) :=
  (lines.take s.closing).drop (s.opening + 1)

/-- The block of a pair, unless its content is empty. -/
def Span.block? (file : Path) (lines : List (List Char)) (s : Span) : Option Block :=
  let content := strip (String.ofList (List.intercalate ['\n'] (s.between lines)))
  if content = "" then none else some ⟨file, content, s.opening + 1⟩

theorem isPrefixOf_iff_opens (marker line : List Char) :
    marker.isPrefixOf line = true ↔ Opens marker line :=
  List.isPrefixOf_iff_prefix

theorem isCloseFence_iff_closes (line : List Char) : isCloseFence line = true ↔ Closes line := by
  simp only [isCloseFence, Bool.and_eq_true, List.isPrefixOf_iff_prefix, List.all_eq_true]
  constructor
  · rintro ⟨⟨tail, rfl⟩, blank⟩
    exact ⟨tail, rfl, by simpa using blank⟩
  · rintro ⟨tail, rfl, blank⟩
    exact ⟨⟨tail, rfl⟩, by simpa using blank⟩

theorem opens_fence_append_iff (language : String) (tail : List Char) :
    Opens (openMarker language) (fence ++ tail) ↔ language.toList <+: tail :=
  List.prefix_append_right_inj fence

theorem closes_fence : Closes fence :=
  ⟨[], (List.append_nil fence).symm, by simp⟩

instance (marker : List Char) : DecidablePred (Opens marker) := fun line =>
  decidable_of_iff _ (isPrefixOf_iff_opens marker line)

instance : DecidablePred Closes := fun line =>
  decidable_of_iff _ (isCloseFence_iff_closes line)

/-- The block of the lines between two fences, unless its content is empty. -/
def blockOf? (file : Path) (body : List (List Char)) (line : Nat) : Option Block :=
  let content := strip (String.ofList (List.intercalate ['\n'] body))
  if content = "" then none else some ⟨file, content, line⟩

theorem blockOf?_eq_some_iff {file : Path} {body : List (List Char)} {line : Nat} {b : Block} :
    blockOf? file body line = some b ↔
      b.content ≠ "" ∧ b = ⟨file, strip (String.ofList (List.intercalate ['\n'] body)), line⟩ := by
  rw [blockOf?]
  constructor
  · intro found
    split at found
    · contradiction
    · rename_i some_
      obtain rfl := Option.some.inj found
      exact ⟨some_, rfl⟩
  · rintro ⟨some_, rfl⟩
    exact if_neg some_

section Search
variable {p : List Char → Prop} {lines : List (List Char)}

theorem FirstFrom.unique (hm : FirstFrom p lines start m) (hn : FirstFrom p lines start n) :
    m = n := by
  obtain ⟨line, atM, pm⟩ := hm.holds
  obtain ⟨line', atN, pn⟩ := hn.holds
  rcases Nat.lt_trichotomy m n with less | same | more
  · exact absurd pm (hn.least m line hm.after less atM)
  · exact same
  · exact absurd pn (hm.least n line' hn.after more atN)

theorem FirstFrom.lt_length (h : FirstFrom p lines start n) : n < lines.length := by
  obtain ⟨line, at_, _⟩ := h.holds
  exact (List.getElem?_eq_some_iff.mp at_).1

/-- The lines from `start` on fall into those before the first with the property, that one, and the
lines behind it. -/
theorem FirstFrom.split (h : FirstFrom p lines start n) :
    ∃ line, p line ∧ (∀ l ∈ (lines.take n).drop start, ¬ p l) ∧
      lines.drop start = (lines.take n).drop start ++ line :: lines.drop (n + 1) := by
  obtain ⟨line, at_, holds⟩ := h.holds
  obtain ⟨bound, rfl⟩ := List.getElem?_eq_some_iff.mp at_
  refine ⟨lines[n], holds, ?_, ?_⟩
  · intro l member
    obtain ⟨k, hk, rfl⟩ := List.mem_iff_getElem.mp member
    simp only [List.length_drop, List.length_take] at hk
    refine h.least (start + k) _ (by omega) (by omega) ?_
    simp only [List.getElem_drop, List.getElem_take]
    exact List.getElem?_eq_getElem _
  · have whole : lines.drop start = ((lines.take n) ++ lines.drop n).drop start := by
      rw [List.take_append_drop]
    rw [whole, List.drop_append_of_le_length (by simp; have := h.after; omega),
      List.drop_eq_getElem_cons bound]

theorem exists_first (h : ∃ n line, start ≤ n ∧ lines[n]? = some line ∧ p line) :
    ∃ n, FirstFrom p lines start n := by
  classical
  obtain ⟨line, after, at_, holds⟩ := Nat.find_spec h
  refine ⟨Nat.find h, after, ⟨line, at_, holds⟩, ?_⟩
  intro k l before less atK pk
  exact Nat.find_min h less ⟨l, before, atK, pk⟩

/-- Where no line from `start` on is the first with the property, none has it. -/
theorem none_of_no_first (h : ¬ ∃ n, FirstFrom p lines start n) :
    ∀ l ∈ lines.drop start, ¬ p l := by
  intro l member holds
  obtain ⟨k, hk, rfl⟩ := List.mem_iff_getElem.mp member
  apply h
  apply exists_first
  refine ⟨start + k, _, by omega, ?_, holds⟩
  rw [List.getElem_drop]
  exact List.getElem?_eq_getElem _

end Search

theorem Paired.unique (first : Paired marker lines start spans)
    (second : Paired marker lines start others) : spans = others := by
  induction first generalizing others with
  | stop none =>
    cases second with
    | stop => rfl
    | pair opening closing _ => exact absurd ⟨_, _, opening, closing⟩ none
  | pair opening closing _ ih =>
    cases second with
    | stop none => exact absurd ⟨_, _, opening, closing⟩ none
    | pair opening' closing' rest' =>
      obtain rfl := opening.unique opening'
      obtain rfl := closing.unique closing'
      rw [ih rest']

theorem exists_paired (marker : List Char) (lines : List (List Char)) (start : Nat) :
    ∃ spans, Paired marker lines start spans := by
  by_cases found : ∃ o c, FirstFrom (Opens marker) lines start o ∧ FirstFrom Closes lines (o + 1) c
  · obtain ⟨o, c, opening, closing⟩ := found
    have progress : start ≤ c ∧ c < lines.length :=
      ⟨by have := opening.after; have := closing.after; omega, closing.lt_length⟩
    obtain ⟨rest, paired⟩ := exists_paired marker lines (c + 1)
    exact ⟨_, .pair opening closing paired⟩
  · exact ⟨[], .stop found⟩
termination_by lines.length - start

/-- Pairs come one behind another, and none reaches into the next. -/
theorem Paired.ordered (paired : Paired marker lines start spans) :
    (∀ s ∈ spans, start ≤ s.opening ∧ s.opening < s.closing ∧ s.closing < lines.length) ∧
      spans.Pairwise fun s t => s.closing < t.opening := by
  induction paired with
  | stop => simp
  | @pair start o c rest opening closing _ ih =>
    have afterStart := opening.after
    have afterOpening := closing.after
    have bound := closing.lt_length
    refine ⟨?_, List.pairwise_cons.mpr ⟨?_, ih.2⟩⟩
    · intro s member
      rcases List.mem_cons.mp member with rfl | member
      · exact ⟨afterStart, by dsimp only; omega, bound⟩
      · have := ih.1 s member
        omega
    · intro t member
      have := (ih.1 t member).1
      dsimp only
      omega

section Scan
variable {marker : List Char} {file : Path} {p : Progress} {xs : List (List Char)}

theorem scan_append (p : Progress) (number : Nat) (xs ys : List (List Char)) :
    scan marker file p number (xs ++ ys) =
      scan marker file (scan marker file p number xs) (number + xs.length) ys := by
  induction xs generalizing p number with
  | nil => rfl
  | cons line xs ih =>
    simp only [List.cons_append, scan, ih, List.length_cons]
    congr 1
    omega

theorem advance_skip (outside : p.state = .outside) (quiet : ¬ Opens marker line) (number : Nat) :
    advance marker file p number line = p := by
  have closed : marker.isPrefixOf line = false := by
    rwa [Bool.eq_false_iff, ne_eq, isPrefixOf_iff_opens]
  obtain ⟨state, buffer, openedAt, found⟩ := p
  subst outside
  simp [advance, step, closed]

theorem advance_content (inside : p.state = .inside) (content : ¬ Closes line) (number : Nat) :
    advance marker file p number line = { p with buffer := line :: p.buffer } := by
  have opened : isCloseFence line = false := by
    rwa [Bool.eq_false_iff, ne_eq, isCloseFence_iff_closes]
  obtain ⟨state, buffer, openedAt, found⟩ := p
  subst inside
  simp [advance, step, opened]

theorem scan_skip (outside : p.state = .outside) (number : Nat)
    (quiet : ∀ l ∈ xs, ¬ Opens marker l) : scan marker file p number xs = p := by
  induction xs generalizing number with
  | nil => rfl
  | cons line xs ih =>
    rw [List.forall_mem_cons] at quiet
    rw [scan, advance_skip outside quiet.1]
    exact ih (number + 1) quiet.2

theorem scan_content (inside : p.state = .inside) (number : Nat)
    (content : ∀ l ∈ xs, ¬ Closes l) :
    scan marker file p number xs = { p with buffer := xs.reverse ++ p.buffer } := by
  induction xs generalizing p number with
  | nil => rfl
  | cons line xs ih =>
    rw [List.forall_mem_cons] at content
    rw [scan, advance_content inside content.1, ih (by exact inside) _ content.2]
    simp

theorem advance_opening (outside : p.state = .outside) (opens : Opens marker line) (number : Nat) :
    advance marker file p number line =
      { p with state := .inside, buffer := [], openedAt := number } := by
  simp [advance, step, outside, (isPrefixOf_iff_opens marker line).mpr opens]

theorem advance_closing (inside : p.state = .inside) (closes : Closes line) (number : Nat) :
    advance marker file p number line = { p with
      state := .outside
      found := if contentOf p.buffer.reverse = "" then p.found
        else ⟨file, contentOf p.buffer.reverse, p.openedAt⟩ :: p.found } := by
  simp only [advance, step, inside, (isCloseFence_iff_closes line).mpr closes, if_true]
  split <;> rfl

/-- A line feed behind each line, or only between lines: trimmed, the content is the same. -/
theorem contentOf_eq (lines : List (List Char)) :
    contentOf lines = strip (String.ofList (List.intercalate ['\n'] lines)) := by
  rcases List.eq_nil_or_concat lines with rfl | ⟨front, last, rfl⟩
  · rfl
  · have joined : (front ++ [last]).flatMap (· ++ ['\n']) =
        List.intercalate ['\n'] (front ++ [last]) ++ ['\n'] := by
      induction front with
      | nil => simp
      | cons line front ih =>
        rw [List.cons_append, List.flatMap_cons, ih,
          List.intercalate_cons_of_ne_nil (by simp)]
        simp
    rw [contentOf, List.concat_eq_append, joined]
    exact strip_append_blank _ _ (by simp [isBlank_lineFeed])

/-- Lines that open nothing, and behind them a block with its fences. -/
theorem scan_fenced (before body : List (List Char)) {opener closer : List Char}
    (outside : p.state = .outside) (number : Nat) (quiet : ∀ l ∈ before, ¬ Opens marker l)
    (opens : Opens marker opener) (content : ∀ l ∈ body, ¬ Closes l) (closes : Closes closer) :
    scan marker file p number (before ++ opener :: (body ++ [closer])) =
      ⟨.outside, body.reverse, number + before.length,
        (blockOf? file body (number + before.length)).toList ++ p.found⟩ := by
  rw [scan_append, scan_skip outside _ quiet, scan, advance_opening outside opens, scan_append,
    scan_content rfl _ content, scan, advance_closing rfl closes, scan, blockOf?]
  simp only [List.append_nil, List.reverse_reverse, contentOf_eq]
  split <;> rfl

/-- From an opening line on, what the search calls the next pair is one round of the scanner. -/
theorem scan_pair (opening : FirstFrom (Opens marker) lines start o)
    (closing : FirstFrom Closes lines (o + 1) c) (outside : p.state = .outside) :
    scan marker file p (start + 1) (lines.drop start) =
      scan marker file ⟨.outside, (Span.between ⟨o, c⟩ lines).reverse, o + 1,
        (Span.block? file lines ⟨o, c⟩).toList ++ p.found⟩ (c + 1 + 1) (lines.drop (c + 1)) := by
  obtain ⟨opener, opens, quiet, toOpener⟩ := opening.split
  obtain ⟨closer, closes, inside, toCloser⟩ := closing.split
  have beforeLength : start + 1 + ((lines.take o).drop start).length = o + 1 := by
    have := opening.after
    have := opening.lt_length
    simp only [List.length_drop, List.length_take]
    omega
  have insideLength : ((lines.take c).drop (o + 1)).length = c - (o + 1) := by
    have := closing.lt_length
    simp only [List.length_drop, List.length_take]
    omega
  have round : lines.drop start = ((lines.take o).drop start ++
      opener :: ((lines.take c).drop (o + 1) ++ [closer])) ++ lines.drop (c + 1) := by
    rw [toOpener, toCloser]
    simp
  have length : start + 1 + ((lines.take o).drop start ++
      opener :: ((lines.take c).drop (o + 1) ++ [closer])).length = c + 1 + 1 := by
    have := closing.after
    simp only [List.length_append, List.length_cons, insideLength, List.length_nil]
    omega
  rw [round, scan_append, length, scan_fenced _ _ outside _ quiet opens inside closes, beforeLength]
  rfl

theorem scan_paired (paired : Paired marker lines start spans) (outside : p.state = .outside) :
    (scan marker file p (start + 1) (lines.drop start)).found =
      (spans.filterMap (Span.block? file lines)).reverse ++ p.found := by
  induction paired generalizing p with
  | @stop start none =>
    by_cases found : ∃ o, FirstFrom (Opens marker) lines start o
    · obtain ⟨o, opening⟩ := found
      obtain ⟨opener, opens, before, toOpener⟩ := opening.split
      have open_ : ∀ l ∈ lines.drop (o + 1), ¬ Closes l :=
        none_of_no_first fun ⟨c, closing⟩ => none ⟨o, c, opening, closing⟩
      rw [toOpener, scan_append, scan_skip outside _ before, scan, advance_opening outside opens,
        scan_content rfl _ open_]
      rfl
    · rw [scan_skip outside _ (none_of_no_first found)]
      rfl
  | @pair start o c rest opening closing _ ih =>
    rw [scan_pair opening closing outside, ih rfl, List.filterMap_cons]
    cases Span.block? file lines ⟨o, c⟩ <;> simp

end Scan

/-- The lines at which blocks open are those of their pairs, so they increase as the pairs do. -/
theorem lines_increase {spans : List Span} (file : Path) (lines : List (List Char))
    (ordered : spans.Pairwise fun s t => s.closing < t.opening)
    (proper : ∀ s ∈ spans, s.opening < s.closing) :
    ((spans.filterMap (Span.block? file lines)).map Block.line).Pairwise (· < ·) := by
  induction spans with
  | nil => simp
  | cons s rest ih =>
    obtain ⟨first, tail⟩ := List.pairwise_cons.mp ordered
    have shape (t : Span) (b : Block) (found : t.block? file lines = some b) :
        b.line = t.opening + 1 := by
      rw [(blockOf?_eq_some_iff.mp found).2]
    have later := ih tail (fun t member => proper t (by simp [member]))
    cases block : s.block? file lines with
    | none => simpa [block] using later
    | some b =>
      simp only [List.filterMap_cons, block, List.map_cons, List.pairwise_cons]
      refine ⟨?_, later⟩
      intro n member
      obtain ⟨b', inRest, rfl⟩ := List.mem_map.mp member
      obtain ⟨t, inSpans, found⟩ := List.mem_filterMap.mp inRest
      have := first t inSpans
      have := proper s (by simp)
      rw [shape s b block, shape t b' found]
      omega

theorem extract_of_paired {text : List Char} {language : String} {spans : List Span}
    (paired : Paired (openMarker language) (splitLines text) 0 spans) (file : Path) :
    extract text file language = spans.filterMap (Span.block? file (splitLines text)) := by
  have scanned := @scan_paired _ file ⟨.outside, [], 0, []⟩ _ _ _ paired rfl
  rw [List.drop_zero, List.append_nil] at scanned
  rw [extract, scanned, List.reverse_reverse]

theorem exists_span_of_mem_extract {text : List Char} {file : Path} {language : String} {b : Block}
    (member : b ∈ extract text file language) :
    ∃ spans, Paired (openMarker language) (splitLines text) 0 spans ∧ ∃ s ∈ spans,
      blockOf? file (s.between (splitLines text)) (s.opening + 1) = some b := by
  obtain ⟨spans, paired⟩ := exists_paired (openMarker language) (splitLines text) 0
  rw [extract_of_paired paired] at member
  exact ⟨spans, paired, List.mem_filterMap.mp member⟩

theorem file_of_mem_extract {text : List Char} {file : Path} {language : String} {b : Block}
    (member : b ∈ extract text file language) : b.file = file := by
  obtain ⟨_, _, s, _, found⟩ := exists_span_of_mem_extract member
  rw [(blockOf?_eq_some_iff.mp found).2]

/-- The scanner finds the blocks of the pairs that the search meets, no others, and in their order.
The pairs are unique, follow one another without overlap, and open at increasing lines. -/
theorem extract_eq_search (text : List Char) (file : Path) (language : String) :
    ∃ spans : List Span,
      (∀ others, Paired (openMarker language) (splitLines text) 0 others ↔ others = spans) ∧
      extract text file language = spans.filterMap (Span.block? file (splitLines text)) ∧
      (∀ s ∈ spans, s.opening < s.closing ∧ s.closing < (splitLines text).length) ∧
      spans.Pairwise (fun s t => s.closing < t.opening) ∧
      ((extract text file language).map Block.line).Pairwise (· < ·) := by
  obtain ⟨spans, paired⟩ := exists_paired (openMarker language) (splitLines text) 0
  obtain ⟨proper, ordered⟩ := paired.ordered
  have found := extract_of_paired paired file
  refine ⟨spans, ?_, found, fun s member => (proper s member).2, ordered, ?_⟩
  · intro others
    exact ⟨fun paired' => paired'.unique paired, fun same => same ▸ paired⟩
  · rw [found]
    exact lines_increase file _ ordered fun s member => (proper s member).2.1

end FenceCheck.Fence
