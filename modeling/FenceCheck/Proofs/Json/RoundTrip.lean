import FenceCheck.Failure
import FenceCheck.Proofs.Json.Equality
import FenceCheck.Proofs.Json.Strings

/-! What is read of a printed value: the value itself, with the members of its objects in the order in
which they were written. A reader only looks one character beyond a value, and that is never one that a
number could go on with. -/
namespace FenceCheck.Json
open FenceCheck.Text FenceCheck.Number

/-- No number goes on in this rest of a text. -/
def Ends (rest : List Char) : Prop :=
  ∀ c ∈ rest.head?, c.isDigit = false ∧ c ≠ '.' ∧ c ≠ 'e' ∧ c ≠ 'E'

/-- A character with which a printed value can begin. -/
structure Opens (c : Char) : Prop where
  dark : isSpace c = false
  noList : c ≠ ']'
  noObject : c ≠ '}'
  noMark : c ≠ '\uFEFF'

theorem Ends.nil : Ends [] := by
  simp [Ends]

theorem Ends.space {c : Char} (blank : isSpace c = true) (rest : List Char) : Ends (c :: rest) := by
  simp only [isSpace, Bool.or_eq_true, decide_eq_true_eq, or_assoc] at blank
  rcases blank with rfl | rfl | rfl | rfl <;> simp [Ends]

theorem skipSpace_cons {c : Char} (dark : isSpace c = false) (rest : List Char) :
    skipSpace (c :: rest) = c :: rest := by
  simp [skipSpace, dark]

theorem skipSpace_append {gap : List Char} (blank : ∀ c ∈ gap, isSpace c = true) (rest : List Char) :
    skipSpace (gap ++ rest) = skipSpace rest := by
  induction gap with
  | nil => rfl
  | cons c gap ih =>
    have first := blank c List.mem_cons_self
    simp only [skipSpace, List.cons_append, List.dropWhile_cons, first, if_true]
    exact ih fun d member => blank d (List.mem_cons_of_mem c member)

theorem isSpace_newLine (depth : Nat) : ∀ c ∈ chars (newLine depth), isSpace c = true := by
  intro c member
  simp only [newLine, chars_points, List.mem_cons, List.mem_replicate] at member
  rcases member with rfl | ⟨_, rfl⟩ <;> rfl

section Numbers

theorem ofDigits_toDigits (n : Nat) : ofDigits (Nat.toDigits 10 n) = n := by
  have same : ofDigits (Nat.toDigits 10 n) = Nat.ofDigitChars 10 (Nat.toDigits 10 n) 0 := by
    simp only [ofDigits, Nat.ofDigitChars, Nat.mul_comm 10]
    rfl
  rw [same, Nat.ofDigitChars_toDigits (by decide) (by decide)]

theorem toDigits_head (n : Nat) (some_ : n ≠ 0) :
    ∃ c rest, Nat.toDigits 10 n = c :: rest ∧ c ≠ '0' := by
  induction n using Nat.strongRecOn with
  | ind n ih =>
    by_cases single : n < 10
    · refine ⟨n.digitChar, [], Nat.toDigits_of_lt_base single, ?_⟩
      have all : ∀ i : Fin 10, i.val ≠ 0 → Nat.digitChar i.val ≠ '0' := by decide
      exact all ⟨n, single⟩ some_
    · obtain ⟨c, rest, digits, other⟩ := ih (n / 10) (by omega) (by omega)
      refine ⟨c, rest ++ [(n % 10).digitChar], ?_, other⟩
      rw [Nat.toDigits_of_base_le (by decide) (by omega), digits]
      rfl

theorem isDigit_toDigits {n : Nat} {c : Char} (member : c ∈ Nat.toDigits 10 n) : c.isDigit = true :=
  Nat.isDigit_of_mem_toDigits (by decide) (by decide) member

theorem exists_toDigits_cons (n : Nat) :
    ∃ c ds, Nat.toDigits 10 n = c :: ds ∧ c.isDigit = true := by
  obtain ⟨c, ds, digits⟩ := List.exists_cons_of_ne_nil (Nat.toDigits_ne_nil (n := n) (b := 10))
  exact ⟨c, ds, digits, isDigit_toDigits (digits ▸ List.mem_cons_self)⟩

theorem takeDigits_append {ds rest : List Char} (digits : ∀ c ∈ ds, c.isDigit = true)
    (other : ∀ c ∈ rest.head?, c.isDigit = false) : takeDigits (ds ++ rest) = (ds, rest) := by
  have stops : rest.takeWhile Char.isDigit = [] ∧ rest.dropWhile Char.isDigit = rest := by
    cases rest with
    | nil => exact ⟨rfl, rfl⟩
    | cons c rest => simp [other c (by simp)]
  rw [takeDigits, List.takeWhile_append_of_pos digits, List.dropWhile_append_of_pos digits, stops.1,
    stops.2, List.append_nil]

theorem readFraction_none {rest : List Char} (noPoint : ∀ c ∈ rest.head?, c ≠ '.') :
    readFraction rest = ([], rest) := by
  cases rest with
  | nil => rfl
  | cons c rest =>
    have noPoint := noPoint c (by simp)
    simp only [readFraction]
    split
    · rename_i same
      exact absurd (List.cons.inj same).1 noPoint
    · rfl

theorem readExponent_none {rest : List Char} (noMark : ∀ c ∈ rest.head?, c ≠ 'e' ∧ c ≠ 'E') :
    readExponent rest = (none, rest) := by
  cases rest with
  | nil => rfl
  | cons c rest => simp [readExponent, noMark c (by simp)]

theorem readWhole?_toDigits (n : Nat) {rest : List Char} (ends : Ends rest) :
    readWhole? (Nat.toDigits 10 n ++ rest) = some (Nat.toDigits 10 n, rest) := by
  by_cases zero : n = 0
  · subst zero
    rfl
  · obtain ⟨c, ds, digits, other⟩ := toDigits_head n zero
    have all : ∀ d ∈ c :: ds, d.isDigit = true := fun d member => isDigit_toDigits (digits ▸ member)
    have later : ∀ d ∈ ds, d.isDigit = true := fun d member => all d (List.mem_cons_of_mem c member)
    rw [digits, List.cons_append, readWhole?, if_neg other, if_pos (all c List.mem_cons_self),
      takeDigits_append later fun c member => (ends c member).1]

theorem readNumber_toDigits (left : Nat) (negative : Bool) {n : Nat} {rest : List Char}
    (ends : Ends rest) (short : ¬ digitLimit < (Nat.toDigits 10 n).length) :
    readNumber left negative (Nat.toDigits 10 n ++ rest) =
      .ok (.int (if negative then -(n : Int) else n), rest) := by
  have fraction := readFraction_none fun c member => (ends c member).2.1
  have exponent := readExponent_none fun c member => (ends c member).2.2
  simp [readNumber, readWhole?_toDigits n ends, fraction, exponent, short, ofDigits_toDigits]

theorem toList_toString (n : Nat) : (toString n).toList = Nat.toDigits 10 n := by
  rw [Nat.toString_eq_ofList_toDigits, String.toList_ofList]

theorem readValue_scalar (depth : Nat) {c : Char} (notString : c ≠ '"') (notArray : c ≠ '[')
    (notObject : c ≠ '{') (rest : List Char) :
    readValue depth (c :: rest) = readScalar (c :: rest) := by
  cases depth <;> simp [readValue, notString, notArray, notObject]

theorem ne_of_isDigit {c : Char} (digit : c.isDigit = true) (d : Char) (other : d.isDigit = false) :
    c ≠ d := by
  rintro rfl
  rw [digit] at other
  contradiction

/-- Digits are no word. -/
theorem readScalar_digit {c : Char} (digit : c.isDigit = true) (rest : List Char) :
    readScalar (c :: rest) = readNumber (c :: rest).length false (c :: rest) := by
  have apart := ne_of_isDigit digit
  simp [readScalar, apart 'n' rfl, apart 't' rfl, apart 'f' rfl, apart 'N' rfl, apart 'I' rfl,
    apart '-' rfl]

/-- A minus sign that is not that of an infinite number. -/
theorem readScalar_minus {c : Char} (notWord : c ≠ 'I') (rest : List Char) :
    readScalar ('-' :: c :: rest) = readNumber ('-' :: c :: rest).length true (c :: rest) := by
  simp [readScalar, notWord]

theorem readValue_int (depth : Nat) {n : Int} {rest : List Char} (ends : Ends rest)
    (short : ¬ digitLimit < (toString n.natAbs).length) :
    readValue depth ((renderInt n).toList ++ rest) = .ok (.int n, rest) := by
  rw [← String.length_toList, toList_toString] at short
  obtain ⟨c, ds, digits, digit⟩ := exists_toDigits_cons n.natAbs
  have apart := ne_of_isDigit digit
  rw [renderInt]
  split
  · have sign : "-".toList = ['-'] := rfl
    have value : -(n.natAbs : Int) = n := by omega
    rw [String.toList_append, toList_toString, sign, List.cons_append, List.nil_append,
      List.cons_append, readValue_scalar depth (by decide) (by decide) (by decide), digits,
      List.cons_append, readScalar_minus (apart 'I' rfl), ← List.cons_append, ← digits,
      readNumber_toDigits _ true ends short, if_pos rfl, value]
  · have value : (n.natAbs : Int) = n := by omega
    rw [toList_toString, digits, List.cons_append, readValue_scalar depth (apart '"' rfl)
      (apart '[' rfl) (apart '{' rfl), readScalar_digit digit, ← List.cons_append, ← digits,
      readNumber_toDigits _ false ends short, if_neg (by decide), value]

end Numbers

section Containers
variable {one : List Char → Except Stop (Json × List Char)} {gap finish : List Char}
variable (blankGap : ∀ c ∈ gap, isSpace c = true) (blankFinish : ∀ c ∈ finish, isSpace c = true)

/-- What follows the first of several texts in a container: the others, each after a comma, and the
closing bracket. -/
def following (gap finish : List Char) (closing : Char) (texts : List (List Char))
    (after : List Char) : List Char :=
  texts.flatMap (fun t => ',' :: (gap ++ t)) ++ (finish ++ closing :: after)

theorem following_cons (closing : Char) (t : List Char) (texts : List (List Char))
    (after : List Char) : following gap finish closing (t :: texts) after =
      ',' :: (gap ++ (t ++ following gap finish closing texts after)) := by
  simp [following]

/-- A container that is not empty is written as its first text and what follows it. -/
theorem chars_enclose (layout : Layout) (level : Nat) (opening closing : Char)
    (first : List CodePoint) (more : List (List CodePoint)) : ∃ start gap finish,
      (∀ c ∈ start, isSpace c = true) ∧ (∀ c ∈ gap, isSpace c = true) ∧
      (∀ c ∈ finish, isSpace c = true) ∧
      ∀ after, chars (enclose layout level opening closing (first :: more)) ++ after =
        opening :: (start ++ (chars first ++ following gap finish closing (more.map chars) after)) := by
  cases spread : layout.spread with
  | true =>
    refine ⟨_, _, _, isSpace_newLine (level + 1), isSpace_newLine (level + 1),
      isSpace_newLine level, fun after => ?_⟩
    simp [enclose, spread, following, chars, List.map_flatMap, List.flatMap_map]
  | false =>
    have space : ∀ c ∈ [' '], isSpace c = true := List.forall_mem_singleton.mpr rfl
    refine ⟨[], [' '], [], by simp, space, by simp, fun after => ?_⟩
    simp [enclose, spread, following, points, chars, List.map_flatMap, List.flatMap_map]

include blankFinish in
theorem Ends.following {closing : Char} (bracket : closing = ']' ∨ closing = '}')
    (texts : List (List Char)) (after : List Char) :
    Ends (following gap finish closing texts after) := by
  cases texts with
  | cons t texts =>
    rw [following_cons]
    simp [Ends]
  | nil =>
    cases finish with
    | cons c finish => exact .space (blankFinish c List.mem_cons_self) _
    | nil => rcases bracket with rfl | rfl <;> simp [Ends, Json.following]

include blankFinish in
theorem skipSpace_closing {closing : Char} (dark : isSpace closing = false) (after : List Char) :
    skipSpace (Json.following gap finish closing [] after) = closing :: after := by
  rw [Json.following, List.flatMap_nil, List.nil_append, skipSpace_append blankFinish,
    skipSpace_cons dark]

section Steps
variable {s rest after : List Char} {v : Json}

theorem readItems_last {done : List Json} (reads : one s = .ok (v, rest))
    (closes : skipSpace rest = ']' :: after) (fuel : Nat) :
    readItems one done (fuel + 1) s = .ok (.array (v :: done).reverse, after) := by
  simp [readItems, reads, closes]

theorem readItems_next {done : List Json} (reads : one s = .ok (v, rest))
    (goes : skipSpace rest = ',' :: after) (fuel : Nat) :
    readItems one done (fuel + 1) s = readItems one (v :: done) fuel (skipSpace after) := by
  simp [readItems, reads, goes]

variable {done : Members} {key : List CodePoint} {quotedKey afterKey afterColon : List Char}
variable (names : readString (quotedKey.length + 1) [] quotedKey = .ok (key, afterKey))
variable (colon : skipSpace afterKey = ':' :: afterColon)
include names colon

theorem readMembers_last (reads : one (skipSpace afterColon) = .ok (v, rest))
    (closes : skipSpace rest = '}' :: after) (fuel : Nat) :
    readMembers one done (fuel + 1) ('"' :: quotedKey) = .ok (.object (bind key v done), after) := by
  simp [readMembers, names, colon, reads, closes]

theorem readMembers_next (reads : one (skipSpace afterColon) = .ok (v, rest))
    (goes : skipSpace rest = ',' :: after) (fuel : Nat) :
    readMembers one done (fuel + 1) ('"' :: quotedKey) =
      readMembers one (bind key v done) fuel (skipSpace after) := by
  simp [readMembers, names, colon, reads, goes]

end Steps

include blankGap blankFinish

/-- Where each text is read as its value, all are read one after the other. -/
theorem readItems_texts (text : Json → List Char) (value : Json → Json) {first : Json}
    {more : List Json} (opens : ∀ v ∈ more, ∃ c t, text v = c :: t ∧ isSpace c = false)
    (reads : ∀ v ∈ first :: more, ∀ rest, Ends rest → one (text v ++ rest) = .ok (value v, rest))
    (done : List Json) {fuel : Nat} (enough : more.length < fuel) (after : List Char) :
    readItems one done fuel (text first ++ Json.following gap finish ']' (more.map text) after) =
      .ok (.array (done.reverse ++ (first :: more).map value), after) := by
  have ends (texts : List (List Char)) : Ends (Json.following gap finish ']' texts after) :=
    .following blankFinish (Or.inl rfl) texts after
  -- on the texts behind the first one: `done` holds what was read before it
  induction more generalizing first done fuel with
  | nil =>
    obtain ⟨fuel, rfl⟩ := Nat.exists_eq_succ_of_ne_zero (Nat.ne_zero_of_lt enough)
    have reads' := reads first (by simp) _ (ends [])
    rw [List.map_nil, readItems_last reads' (skipSpace_closing blankFinish rfl after)]
    simp
  | cons v more ih =>
    obtain ⟨fuel, rfl⟩ := Nat.exists_eq_succ_of_ne_zero (Nat.ne_zero_of_lt enough)
    obtain ⟨c, t, begins, dark⟩ := opens v List.mem_cons_self
    have reads' := reads first (by simp) _ (ends ((v :: more).map text))
    rw [List.map_cons, following_cons] at reads' ⊢
    rw [readItems_next reads' (skipSpace_cons rfl _), skipSpace_append blankGap, begins,
      List.cons_append, skipSpace_cons dark, ← List.cons_append, ← begins,
      ih (fun w member => opens w (List.mem_cons_of_mem v member))
        (fun w member => reads w (List.mem_cons_of_mem first member)) (value first :: done)
        (by simpa using enough)]
    simp

/-- What a member is written as. -/
def memberText (ascii : Bool) (text : Json → List Char) (m : List CodePoint × Json) : List Char :=
  '"' :: (chars (m.1.flatMap (escape ascii)) ++ '"' :: ':' :: ' ' :: text m.2)

theorem readMembers_texts (ascii : Bool) (text : Json → List Char) (value : Json → Json)
    {first : List CodePoint × Json} {more : Members}
    (scalar : ∀ m ∈ first :: more, ∀ p ∈ m.1, p.isSurrogate = false)
    (opens : ∀ m ∈ first :: more, ∃ c t, text m.2 = c :: t ∧ isSpace c = false)
    (reads : ∀ m ∈ first :: more, ∀ rest, Ends rest →
      one (text m.2 ++ rest) = .ok (value m.2, rest))
    (done : Members) {fuel : Nat} (enough : more.length < fuel) (after : List Char) :
    readMembers one done fuel (memberText ascii text first ++
        Json.following gap finish '}' (more.map (memberText ascii text)) after) =
      .ok (.object ((first :: more).foldl (fun done m => bind m.1 (value m.2) done) done), after) := by
  have ends (texts : List (List Char)) : Ends (Json.following gap finish '}' texts after) :=
    .following blankFinish (Or.inr rfl) texts after
  have split (m : List CodePoint × Json) (rest : List Char) : memberText ascii text m ++ rest =
      '"' :: (chars (m.1.flatMap (escape ascii)) ++ '"' :: ':' :: ' ' :: (text m.2 ++ rest)) := by
    simp [memberText]
  have value' (m) (member : m ∈ first :: more) (rest : List Char) (ends : Ends rest) :
      one (skipSpace (' ' :: (text m.2 ++ rest))) = .ok (value m.2, rest) := by
    obtain ⟨c, t, begins, dark⟩ := opens m member
    have blank : ∀ c ∈ [' '], isSpace c = true := List.forall_mem_singleton.mpr rfl
    have skipped := skipSpace_append blank (text m.2 ++ rest)
    rw [← reads m member rest ends, ← List.singleton_append, skipped, begins, List.cons_append,
      skipSpace_cons dark]
  induction more generalizing first done fuel with
  | nil =>
    obtain ⟨fuel, rfl⟩ := Nat.exists_eq_succ_of_ne_zero (Nat.ne_zero_of_lt enough)
    have names (opened : Nat) := readString_render opened [] ascii (scalar first List.mem_cons_self)
    rw [split, List.map_nil, readMembers_last (names ..) (skipSpace_cons rfl _)
      (value' first (by simp) _ (ends [])) (skipSpace_closing blankFinish rfl after)]
    rfl
  | cons m more ih =>
    obtain ⟨fuel, rfl⟩ := Nat.exists_eq_succ_of_ne_zero (Nat.ne_zero_of_lt enough)
    have names (opened : Nat) := readString_render opened [] ascii (scalar first List.mem_cons_self)
    have reads' := value' first (by simp) _ (ends ((m :: more).map (memberText ascii text)))
    rw [List.map_cons, following_cons] at reads' ⊢
    rw [split, readMembers_next (names ..) (skipSpace_cons rfl _) reads' (skipSpace_cons rfl _),
      skipSpace_append blankGap, split, skipSpace_cons rfl, ← split,
      ih (fun w member => scalar w (List.mem_cons_of_mem first member))
        (fun w member => opens w (List.mem_cons_of_mem first member))
        (fun w member => reads w (List.mem_cons_of_mem first member)) _ (by simpa using enough)
        (fun w member => value' w (List.mem_cons_of_mem first member))]
    rfl

end Containers

section Values
variable {depth : Nat} {v : Json}

theorem renderItems_eq_map (layout : Layout) (level : Nat) (items : List Json) :
    renderItems layout level items = items.map (renderAt layout level) := by
  induction items with
  | nil => rfl
  | cons v rest ih => simp [renderItems, ih]

theorem renderMembers_eq_map (layout : Layout) (level : Nat) (members : Members) :
    renderMembers layout level members = members.map fun m => (m.1, renderAt layout level m.2) := by
  induction members with
  | nil => rfl
  | cons m rest ih => simp [renderMembers, ih]

/-- An object is written by its members in order. -/
theorem renderAt_object (layout : Layout) (level : Nat) (members : Members) :
    renderAt layout level (.object members) = enclose layout level '{' '}'
      ((members.mergeSort keyLE).map fun m =>
        renderString layout.ascii m.1 ++ points [':', ' '] ++ renderAt layout (level + 1) m.2) := by
  have sorted : sortByKey (renderMembers layout (level + 1) members) =
      (members.mergeSort keyLE).map fun m => (m.1, renderAt layout (level + 1) m.2) := by
    rw [renderMembers_eq_map, ← mergeSort_map]
    rfl
  rw [renderAt, sorted, List.map_map]
  rfl

theorem chars_enclose_head (layout : Layout) (level : Nat) (opening closing : Char)
    (texts : List (List CodePoint)) :
    ∃ t, chars (enclose layout level opening closing texts) = opening :: t := by
  cases texts with
  | nil => exact ⟨[closing], by simp [enclose]⟩
  | cons first more => exact ⟨_, by simp [enclose]; rfl⟩

/-- How a value begins. -/
theorem Legible.opens (legible : Legible depth v) (layout : Layout) (level : Nat) :
    ∃ c t, chars (renderAt layout level v) = c :: t ∧ Opens c := by
  cases legible with
  | null => exact ⟨'n', _, chars_points _, by constructor <;> decide⟩
  | @bool _ b =>
    cases b with
    | true => exact ⟨'t', _, chars_points _, by constructor <;> decide⟩
    | false => exact ⟨'f', _, chars_points _, by constructor <;> decide⟩
  | @int _ n _ =>
    rw [renderAt, chars_points, renderInt]
    split
    · refine ⟨'-', (toString n.natAbs).toList, ?_, by constructor <;> decide⟩
      rw [String.toList_append]
      rfl
    · obtain ⟨c, t, digits, digit⟩ := exists_toDigits_cons n.natAbs
      have apart := ne_of_isDigit digit
      rw [toList_toString, digits]
      refine ⟨c, t, rfl, ?_, apart ']' rfl, apart '}' rfl, apart '\uFEFF' rfl⟩
      simp [isSpace, apart ' ' rfl, apart '\t' rfl, apart '\n' rfl, apart '\r' rfl]
  | string => exact ⟨'"', _, rfl, by constructor <;> decide⟩
  | array =>
    obtain ⟨t, begins⟩ := chars_enclose_head layout level '[' ']' (renderItems layout (level + 1) _)
    exact ⟨'[', t, begins, by constructor <;> decide⟩
  | object =>
    rw [renderAt_object]
    obtain ⟨t, begins⟩ := chars_enclose_head layout level '{' '}' _
    exact ⟨'{', t, begins, by constructor <;> decide⟩

theorem readValue_string (depth : Nat) (ascii : Bool) {s : List CodePoint}
    (scalar : ∀ p ∈ s, p.isSurrogate = false) (rest : List Char) :
    readValue depth (chars (renderString ascii s) ++ rest) = .ok (.string s, rest) := by
  have split : chars (renderString ascii s) ++ rest =
      '"' :: (chars (s.flatMap (escape ascii)) ++ '"' :: rest) := by
    simp [renderString]
  rw [split]
  cases depth <;> simp [readValue, readString_render _ _ ascii scalar]

/-- A list that does not end at once is read item by item. -/
theorem readValue_array (depth : Nat) {c : Char} {rest inner : List Char}
    (begins : skipSpace rest = c :: inner) (some_ : c ≠ ']') :
    readValue (depth + 1) ('[' :: rest) =
      readItems (readValue depth) [] ((c :: inner).length + 1) (c :: inner) := by
  simp [readValue, begins, some_]

theorem readValue_object (depth : Nat) {c : Char} {rest inner : List Char}
    (begins : skipSpace rest = c :: inner) (some_ : c ≠ '}') :
    readValue (depth + 1) ('{' :: rest) =
      readMembers (readValue depth) [] ((c :: inner).length + 1) (c :: inner) := by
  simp [readValue, begins, some_]

theorem bind_of_fresh {k : List CodePoint} {done : Members} (fresh : k ∉ done.map Prod.fst) (v : Json) :
    bind k v done = done ++ [(k, v)] := by
  induction done with
  | nil => rfl
  | cons m done ih =>
    obtain ⟨other, later⟩ : k ≠ m.1 ∧ k ∉ done.map Prod.fst := by simpa using fresh
    rw [bind, if_neg other.symm, ih later]
    rfl

/-- Members with keys of their own are bound one behind the other. -/
theorem foldl_bind (f : Json → Json) {members done : Members}
    (distinct : ((done ++ members).map Prod.fst).Nodup) :
    members.foldl (fun done m => bind m.1 (f m.2) done) done =
      done ++ members.map fun m => (m.1, f m.2) := by
  induction members generalizing done with
  | nil => simp
  | cons m members ih =>
    have fresh : m.1 ∉ done.map Prod.fst := by
      rw [List.map_append, List.map_cons, List.nodup_append] at distinct
      exact fun member => distinct.2.2 _ member _ List.mem_cons_self rfl
    rw [List.foldl_cons, bind_of_fresh fresh, ih (by simpa using distinct)]
    simp

/-- Each text of a container takes a character more. -/
theorem length_lt_of_following (t gap finish : List Char) (closing : Char)
    (texts : List (List Char)) (after : List Char) :
    texts.length < (t ++ following gap finish closing texts after).length + 1 := by
  suffices texts.length ≤ (following gap finish closing texts after).length by
    rw [List.length_append]
    omega
  induction texts with
  | nil => simp
  | cons t texts ih =>
    rw [following_cons]
    simp only [List.length_cons, List.length_append]
    omega

section Contents
variable (layout : Layout) (level : Nat) (text : Json → List CodePoint) (value : Json → Json)

/-- Where each item is read from its text, so is the list. -/
theorem readValue_items {items : List Json}
    (opens : ∀ w ∈ items, ∃ c t, chars (text w) = c :: t ∧ Opens c)
    (reads : ∀ w ∈ items, ∀ rest, Ends rest →
      readValue depth (chars (text w) ++ rest) = .ok (value w, rest)) (rest : List Char) :
    readValue (depth + 1) (chars (enclose layout level '[' ']' (items.map text)) ++ rest) =
      .ok (.array (items.map value), rest) := by
  cases items with
  | nil =>
    have closes : skipSpace (']' :: rest) = ']' :: rest := skipSpace_cons rfl rest
    simp [enclose, readValue, closes]
  | cons first more =>
    obtain ⟨start, gap, finish, blankStart, blankGap, blankFinish, split⟩ :=
      chars_enclose layout level '[' ']' (text first) (more.map text)
    obtain ⟨c, t, begins, opening⟩ := opens first List.mem_cons_self
    have mapped : (more.map text).map chars = more.map fun w => chars (text w) := by simp
    have enough := length_lt_of_following (chars (text first)) gap finish ']'
      (more.map fun w => chars (text w)) rest
    rw [List.length_map] at enough
    have inner : skipSpace (start ++ (chars (text first) ++
        following gap finish ']' (more.map fun w => chars (text w)) rest)) =
        c :: (t ++ following gap finish ']' (more.map fun w => chars (text w)) rest) := by
      rw [skipSpace_append blankStart, begins, List.cons_append, skipSpace_cons opening.dark]
    rw [List.map_cons, split, mapped, readValue_array depth inner opening.noList, ← List.cons_append,
      ← begins]
    refine readItems_texts blankGap blankFinish (fun w => chars (text w)) value (fun w member => ?_)
      reads [] enough rest
    obtain ⟨c, t, begins, opening⟩ := opens w (List.mem_cons_of_mem first member)
    exact ⟨c, t, begins, opening.dark⟩

/-- Where each value is read from its text, so is the object. -/
theorem readValue_members {members : Members} (distinct : (members.map Prod.fst).Nodup)
    (scalar : ∀ m ∈ members, ∀ p ∈ m.1, p.isSurrogate = false)
    (opens : ∀ m ∈ members, ∃ c t, chars (text m.2) = c :: t ∧ Opens c)
    (reads : ∀ m ∈ members, ∀ rest, Ends rest →
      readValue depth (chars (text m.2) ++ rest) = .ok (value m.2, rest)) (rest : List Char) :
    readValue (depth + 1) (chars (enclose layout level '{' '}' (members.map fun m =>
        renderString layout.ascii m.1 ++ points [':', ' '] ++ text m.2)) ++ rest) =
      .ok (.object (members.map fun m => (m.1, value m.2)), rest) := by
  have written (m : List CodePoint × Json) :
      chars (renderString layout.ascii m.1 ++ points [':', ' '] ++ text m.2) =
        memberText layout.ascii (fun w => chars (text w)) m := by
    simp [renderString, memberText]
  cases members with
  | nil =>
    have closes : skipSpace ('}' :: rest) = '}' :: rest := skipSpace_cons rfl rest
    simp [enclose, readValue, closes]
  | cons first more =>
    obtain ⟨start, gap, finish, blankStart, blankGap, blankFinish, split⟩ :=
      chars_enclose layout level '{' '}'
        (renderString layout.ascii first.1 ++ points [':', ' '] ++ text first.2)
        (more.map fun m => renderString layout.ascii m.1 ++ points [':', ' '] ++ text m.2)
    have mapped : (more.map fun m => renderString layout.ascii m.1 ++ points [':', ' '] ++ text m.2).map
        chars = more.map (memberText layout.ascii fun w => chars (text w)) := by
      simp only [List.map_map]
      exact List.map_congr_left fun m _ => written m
    have enough := length_lt_of_following (memberText layout.ascii (fun w => chars (text w)) first)
      gap finish '}' (more.map (memberText layout.ascii fun w => chars (text w))) rest
    rw [List.length_map] at enough
    have inner (after : List Char) : skipSpace (start ++
        (memberText layout.ascii (fun w => chars (text w)) first ++ after)) =
        memberText layout.ascii (fun w => chars (text w)) first ++ after := by
      rw [skipSpace_append blankStart]
      exact skipSpace_cons rfl _
    rw [List.map_cons, split, mapped, written, readValue_object depth (inner _) (by decide)]
    refine (readMembers_texts blankGap blankFinish layout.ascii (fun w => chars (text w)) value scalar
      (fun m member => ?_) reads [] enough rest).trans ?_
    · obtain ⟨c, t, begins, opening⟩ := opens m member
      exact ⟨c, t, begins, opening.dark⟩
    · rw [foldl_bind value (by simpa using distinct), List.nil_append]

end Contents

/-- What is written of a value is read as that value, whatever follows that ends a number. -/
theorem Legible.readValue_render (legible : Legible depth v) (layout : Layout) (level : Nat)
    {rest : List Char} (ends : Ends rest) :
    readValue depth (chars (renderAt layout level v) ++ rest) = .ok (v.ordered, rest) := by
  -- the reader may go as deep as the value is legible, so the depth goes down with each container
  induction legible generalizing level rest with
  | null =>
    rw [renderAt, chars_points]
    exact readValue_scalar _ (by decide) (by decide) (by decide) _
  | @bool _ b =>
    rw [renderAt, chars_points]
    cases b with
    | true => exact readValue_scalar _ (by decide) (by decide) (by decide) _
    | false => exact readValue_scalar _ (by decide) (by decide) (by decide) _
  | int short =>
    rw [renderAt, chars_points]
    exact readValue_int _ ends short
  | string scalar => exact readValue_string _ layout.ascii scalar rest
  | array legible ih =>
    rw [renderAt, renderItems_eq_map, ordered, orderedItems_eq_map]
    exact readValue_items layout level _ _ (fun w member => (legible w member).opens layout (level + 1))
      (fun w member rest ends => ih w member (level + 1) ends) rest
  | @object depth members distinct scalar legible ih =>
    have sorted := List.mergeSort_perm members keyLE
    rw [renderAt_object, ordered, orderedMembers_eq_map, mergeSort_map]
    refine readValue_members layout level _ _ ((sorted.map Prod.fst).nodup_iff.mpr distinct)
      (fun m member => scalar m (sorted.mem_iff.mp member))
      (fun m member => (legible m (sorted.mem_iff.mp member)).opens layout (level + 1))
      (fun m member rest ends => ih m (sorted.mem_iff.mp member) (level + 1) ends) rest

theorem Legible.readAll_render (legible : Legible depthLimit v) (layout : Layout)
    (finish : List Char) (blank : ∀ c ∈ finish, isSpace c = true) :
    readAll (chars (render layout v) ++ finish) = .ok v.ordered := by
  have ends : Ends finish := by
    cases finish with
    | nil => exact .nil
    | cons c finish => exact .space (blank c List.mem_cons_self) finish
  have closes : skipSpace finish = [] := by
    simpa [skipSpace] using skipSpace_append blank []
  have reads := legible.readValue_render layout 0 ends
  obtain ⟨c, t, begins, opening⟩ := legible.opens layout 0
  rw [begins, List.cons_append] at reads
  rw [render, begins, List.cons_append, readAll]
  · rw [skipSpace_cons opening.dark, reads, ok_bind]
    simp [closes]
  · rintro rest same
    exact opening.noMark (List.cons.inj same).1

/-- The text of a value is read as that value. -/
theorem Legible.read_render (legible : Legible depthLimit v) (layout : Layout) :
    read (ofCodePoints (render layout v)) = .ok v.ordered := by
  have whole := legible.readAll_render layout [] (by simp)
  rw [List.append_nil] at whole
  simp only [read, ofCodePoints, String.toList_ofList]
  rw [show (render layout v).map CodePoint.toChar = chars (render layout v) from rfl, whole]
  rfl

theorem toList_renderArtifact (v : Json) : (ofCodePoints v.renderArtifact).toList =
    chars (renderAt .artifact 0 v) ++ ['\n'] := by
  rw [ofCodePoints, String.toList_ofList, renderArtifact, points]
  simp [chars, render]

theorem Legible.read_renderArtifact (legible : Legible depthLimit v) :
    read (ofCodePoints v.renderArtifact) = .ok v.ordered := by
  have whole := legible.readAll_render .artifact ['\n'] (List.forall_mem_singleton.mpr rfl)
  rw [read, toList_renderArtifact, ← render, whole]
  rfl

/-- The characters that the printer writes beside those of strings and line feeds. -/
def marks : List Char :=
  "\"-0123456789[]\x7b\x7d,: aeflnrstu".toList

section Characters
variable {Q : Char → Prop} (fine : ∀ c ∈ marks, Q c) {layout : Layout}
variable (feeds : layout.spread = true → Q '\n')
include fine

theorem forall_of_marks {text : List Char} (marked : text.all marks.contains = true) :
    ∀ c ∈ text, Q c := by
  intro c member
  exact fine c (List.contains_iff_mem.mp (List.all_eq_true.mp marked c member))

theorem digit_of_marks {c : Char} (digit : c.isDigit = true) : Q c := by
  have all : ∀ n : Fin 10, Char.ofNat (48 + n) ∈ marks := by decide
  have bounds : 48 ≤ c.toNat ∧ c.toNat ≤ 57 := by
    simp only [Char.isDigit, Bool.and_eq_true, decide_eq_true_eq, ge_iff_le,
      UInt32.le_iff_toNat_le] at digit
    exact digit
  have same : Char.ofNat (48 + (c.toNat - 48)) = c := by
    rw [Nat.add_sub_cancel' bounds.1, Char.ofNat_toNat]
  rw [← same]
  exact fine _ (all ⟨c.toNat - 48, by omega⟩)

include feeds

theorem enclose_of_marks (level : Nat) {opening closing : Char} (opens : Q opening) (closes : Q closing)
    {texts : List (List CodePoint)} (inner : ∀ t ∈ texts, ∀ c ∈ chars t, Q c) :
    ∀ c ∈ chars (enclose layout level opening closing texts), Q c := by
  have line (spread : layout.spread = true) (depth : Nat) : ∀ c ∈ chars (newLine depth), Q c := by
    intro c member
    simp only [newLine, chars_points, List.mem_cons, List.mem_replicate] at member
    rcases member with rfl | ⟨_, rfl⟩
    · exact feeds spread
    · exact fine ' ' (by decide)
  have chars_flatMap (f : List CodePoint → List CodePoint) (more : List (List CodePoint)) :
      chars (more.flatMap f) = more.flatMap fun t => chars (f t) := by
    simp [chars, List.map_flatMap]
  have comma : Q ',' := fine ',' (by decide)
  have space : Q ' ' := fine ' ' (by decide)
  cases texts with
  | nil => simp [enclose, opens, closes]
  | cons first more =>
    obtain ⟨head, tail⟩ := List.forall_mem_cons.mp inner
    have spacing (spread : Bool) (same : layout.spread = spread) (depth : Nat) :
        ∀ c ∈ chars (if spread then newLine depth else []), Q c := by
      cases spread with
      | true => exact line same depth
      | false => simp
    simp only [enclose, chars_cons, chars_append, chars_flatMap, CodePoint.toChar_ofChar,
      List.forall_mem_cons, List.forall_mem_append, List.mem_flatMap, forall_exists_index, and_imp]
    refine ⟨opens, ⟨⟨⟨spacing _ rfl _, head⟩, ?_⟩, spacing _ rfl _⟩, closes, by simp⟩
    intro c t member inside
    -- what stands before a text is a comma with a new line, or a comma with a space
    rcases List.mem_append.mp inside with separator | text
    · cases spread : layout.spread with
      | true =>
        simp only [spread, if_true, chars_cons, CodePoint.toChar_ofChar, List.mem_cons] at separator
        rcases separator with rfl | fed
        · exact comma
        · exact line spread _ c fed
      | false =>
        simp only [spread, Bool.false_eq_true, if_false, chars_points, List.mem_cons,
          List.not_mem_nil, or_false] at separator
        rcases separator with rfl | rfl
        · exact comma
        · exact space
    · exact tail t member c text

variable (escapes : ∀ p, CodePoint.isSurrogate p = false → ∀ c ∈ chars (escape layout.ascii p), Q c)
include escapes

omit feeds in
theorem renderString_of_marks {s : List CodePoint} (scalar : ∀ p ∈ s, p.isSurrogate = false) :
    ∀ c ∈ chars (renderString layout.ascii s), Q c := by
  intro c member
  simp only [renderString, chars_cons, chars_append, CodePoint.toChar_ofChar, chars_nil,
    List.mem_cons, List.mem_append, List.not_mem_nil, or_false] at member
  rcases member with rfl | inside | rfl
  · exact fine '"' (by decide)
  · simp only [chars, List.map_flatMap, List.mem_flatMap] at inside
    obtain ⟨p, member, inside⟩ := inside
    exact escapes p (scalar p member) c inside
  · exact fine '"' (by decide)

/-- What is true of the printer's own characters and of all escapes is true of a whole text. -/
theorem Legible.forall_render (legible : Legible depth v) (level : Nat) :
    ∀ c ∈ chars (renderAt layout level v), Q c := by
  induction legible generalizing level with
  | null =>
    rw [renderAt, chars_points]
    exact forall_of_marks fine (by decide)
  | @bool _ b =>
    rw [renderAt, chars_points]
    cases b with
    | true => exact forall_of_marks fine (by decide)
    | false => exact forall_of_marks fine (by decide)
  | @int _ n _ =>
    have digits (c : Char) (member : c ∈ (toString n.natAbs).toList) : Q c := by
      rw [toList_toString] at member
      exact digit_of_marks fine (isDigit_toDigits member)
    rw [renderAt, chars_points, renderInt]
    intro c member
    split at member
    · rcases List.mem_append.mp (String.toList_append ▸ member) with sign | digit
      · obtain rfl := List.mem_singleton.mp sign
        exact fine '-' (by decide)
      · exact digits c digit
    · exact digits c member
  | string scalar => exact renderString_of_marks fine escapes scalar
  | array legible ih =>
    rw [renderAt, renderItems_eq_map]
    refine enclose_of_marks fine feeds level (fine '[' (by decide)) (fine ']' (by decide)) ?_
    intro t member
    obtain ⟨w, inside, rfl⟩ := List.mem_map.mp member
    exact ih w inside (level + 1)
  | @object depth members distinct scalar legible ih =>
    have sorted := List.mergeSort_perm members keyLE
    rw [renderAt_object]
    refine enclose_of_marks fine feeds level (fine '\x7b' (by decide)) (fine '\x7d' (by decide)) ?_
    intro t member
    obtain ⟨m, inside, rfl⟩ := List.mem_map.mp member
    rw [sorted.mem_iff] at inside
    simp only [chars_append, chars_points, List.forall_mem_append]
    refine ⟨⟨renderString_of_marks fine escapes (scalar m inside), ?_⟩, ih m inside (level + 1)⟩
    exact forall_of_marks fine (by decide)

end Characters

theorem distinct_codePoints {members : List (String × Json)} (distinct : (members.map Prod.fst).Nodup) :
    ((members.map fun m => (codePoints m.1, m.2)).map Prod.fst).Nodup := by
  have injective : Function.Injective codePoints := fun _ _ => codePoints_inj.mp
  simpa [Function.comp_def] using distinct.map injective

theorem Legible.ofMembers {members : List (String × Json)} (distinct : (members.map Prod.fst).Nodup)
    (legible : ∀ m ∈ members, Legible depth m.2) : Legible (depth + 1) (.ofMembers members) := by
  refine .object (distinct_codePoints distinct) ?_ ?_
  · intro m member
    obtain ⟨m, _, rfl⟩ := List.mem_map.mp member
    exact isSurrogate_of_mem_codePoints m.1
  · intro m member
    obtain ⟨m, inside, rfl⟩ := List.mem_map.mp member
    exact legible m inside

theorem Legible.text (s : String) : Legible depth (.text s) :=
  .string (isSurrogate_of_mem_codePoints s)

/-- Files hold no carriage returns. -/
theorem Legible.no_return (legible : Legible depth v) :
    '\r' ∉ (ofCodePoints v.renderArtifact).toList := by
  have fine : ∀ c ∈ marks, c ≠ '\r' := by
    have unmarked : '\r' ∉ marks := by decide
    rintro c member rfl
    exact unmarked member
  have escapes (p : CodePoint) (scalar : p.isSurrogate = false) :
      ∀ c ∈ chars (escape Layout.artifact.ascii p), c ≠ '\r' := by
    rintro c member rfl
    exact absurd (printable_of_escape _ scalar member) (by decide)
  have printed := legible.forall_render fine (fun _ => by decide) escapes 0
  intro member
  rw [toList_renderArtifact] at member
  rcases List.mem_append.mp member with inside | last
  · exact printed _ inside rfl
  · simp at last

end Values

end FenceCheck.Json
