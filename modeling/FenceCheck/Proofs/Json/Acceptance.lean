import FenceCheck.Proofs.Json.Grammar

/-! Which texts are read as JSON values. A text of the grammar is read unless it goes beyond a limit; what is
read is of the grammar; and where reading stops, the fault lies inside the text, or the limit is passed at a
place where a value is awaited. Main statement: within the limits the texts that are read are those of the
grammar with the three words for numbers that are not finite. -/
namespace FenceCheck.Json
open FenceCheck.Text FenceCheck.Number

namespace Grammar

def opening : Container → Char
  | .array => '['
  | .object => '{'

def closing : Container → Char
  | .array => ']'
  | .object => '}'

/-- What stands before a value in a container: whitespace, and in an object the key. -/
inductive Lead : Container → List Char → Prop where
  | item {w} : Blank w → Lead .array w
  | key {w k w₁ w₂} : Blank w → Quoted k → Blank w₁ → Blank w₂ →
      Lead .object (w ++ (k ++ (w₁ ++ ':' :: w₂)))

inductive Part where
  | value
  | entries (c : Container)

/-- The texts of values, and of what stands between the brackets of a container that is not empty. -/
inductive Derives (words : List (List Char)) : Part → List Char → Prop where
  | word {t} : t ∈ words → Derives words .value t
  | number {t} : Numeric t → Derives words .value t
  | string {t} : Quoted t → Derives words .value t
  | empty {c w} : Blank w → Derives words .value (opening c :: (w ++ [closing c]))
  | filled {c t} : Derives words (.entries c) t → Derives words .value (opening c :: (t ++ [closing c]))
  | last {c p v w} : Lead c p → Derives words .value v → Blank w →
      Derives words (.entries c) (p ++ (v ++ w))
  | next {c p v w t} : Lead c p → Derives words .value v → Blank w → Derives words (.entries c) t →
      Derives words (.entries c) (p ++ (v ++ (w ++ ',' :: t)))

/-- A value with whitespace around it. -/
inductive IsText (words : List (List Char)) : List Char → Prop where
  | around {w v w'} : Blank w → Derives words .value v → Blank w' → IsText words (w ++ (v ++ w'))

/-- The words that are JSON values. -/
def literals : List (List Char) :=
  [['n', 'u', 'l', 'l'], ['t', 'r', 'u', 'e'], ['f', 'a', 'l', 's', 'e']]

/-- The words for the numbers that JSON does not have. -/
def nonFinite : List (List Char) :=
  [['N', 'a', 'N'], ['I', 'n', 'f', 'i', 'n', 'i', 't', 'y'],
    ['-', 'I', 'n', 'f', 'i', 'n', 'i', 't', 'y']]

/-- The words that the reader takes. -/
def known : List (List Char) :=
  literals ++ nonFinite

/-- Behind the bracket of a container, or behind a comma in it, a value is awaited with `r` left. -/
inductive Within (c : Container) : List Char → List Char → Prop where
  | here {p r} : Lead c p → Within c (p ++ r) r
  | later {p v w s r} : Lead c p → Derives known .value v → Blank w → Within c s r →
      Within c (p ++ (v ++ (w ++ ',' :: s))) r

/-- At the end of some beginning of the text that can still become a JSON text, inside so many containers, a
value is awaited with `r` left. -/
inductive Awaits : Nat → List Char → List Char → Prop where
  | here {w r} : Blank w → Awaits 0 (w ++ r) r
  | inside {c n w s s' r} : Blank w → Within c s s' → Awaits n s' r →
      Awaits (n + 1) (w ++ opening c :: s) r

/-- No container opens inside as many as the limit has, and no integer has more digits than may be read. -/
structure Bounded (s : List Char) : Prop where
  nesting : ∀ n c r, Awaits n s (opening c :: r) → n < depthLimit
  integers : ∀ n k r, Awaits n s r → BeginsInteger k r → k ≤ digitLimit

end Grammar

open Grammar

section Completeness
variable {c : Container} {p v w t rest : List Char}

theorem skipSpace_lead {x : Char} (blank : Blank w) (dark : isSpace x = false) (rest : List Char) :
    skipSpace (w ++ x :: rest) = x :: rest := by
  rw [skipSpace_append blank, skipSpace_cons dark]

theorem isSpace_closing (c : Container) : isSpace (closing c) = false := by
  cases c <;> rfl

theorem Grammar.Whole.digit (whole : Whole w) : ∃ x t, w = x :: t ∧ x.isDigit = true := by
  cases whole with
  | zero => exact ⟨'0', [], rfl, rfl⟩
  | digits digit => exact ⟨_, _, rfl, digit⟩

theorem opens_of_isDigit {x : Char} (digit : x.isDigit = true) : Opens x := by
  have apart := ne_of_isDigit digit
  refine ⟨?_, apart ']' rfl, apart '}' rfl, apart '\uFEFF' rfl⟩
  simp [isSpace, apart ' ' rfl, apart '\t' rfl, apart '\n' rfl, apart '\r' rfl]

/-- How a value begins that is no word. -/
theorem Grammar.Derives.front {words : List (List Char)} (value : Derives words .value v) :
    v ∈ words ∨ ∃ x t, v = x :: t ∧ (x ∈ ['-', '"', '[', '\x7b'] ∨ x.isDigit = true) := by
  cases value with
  | word member => exact Or.inl member
  | number numeric =>
    obtain ⟨sign, whole, _, _⟩ := numeric
    rcases sign with rfl | rfl
    · obtain ⟨x, t, rfl, digit⟩ := whole.digit
      exact Or.inr ⟨x, _, rfl, Or.inr digit⟩
    · exact Or.inr ⟨'-', _, rfl, Or.inl (by decide)⟩
  | string quoted =>
    obtain ⟨_⟩ := quoted
    exact Or.inr ⟨'"', _, rfl, Or.inl (by decide)⟩
  | @empty c => exact Or.inr ⟨opening c, _, rfl, Or.inl (by cases c <;> decide)⟩
  | @filled c => exact Or.inr ⟨opening c, _, rfl, Or.inl (by cases c <;> decide)⟩

theorem Grammar.Derives.opens (value : Derives known .value v) : ∃ x t, v = x :: t ∧ Opens x := by
  rcases value.front with member | ⟨x, t, rfl, mark | digit⟩
  · simp only [known, literals, nonFinite, List.cons_append, List.nil_append, List.mem_cons,
      List.not_mem_nil, or_false] at member
    rcases member with rfl | rfl | rfl | rfl | rfl | rfl <;> exact ⟨_, _, rfl, by constructor <;> decide⟩
  · simp only [List.mem_cons, List.not_mem_nil, or_false] at mark
    rcases mark with rfl | rfl | rfl | rfl <;> exact ⟨_, t, rfl, by constructor <;> decide⟩
  · exact ⟨x, t, rfl, opens_of_isDigit digit⟩

theorem readValue_known (member : t ∈ known) (depth : Nat) (rest : List Char) :
    ∃ value, readValue depth (t ++ rest) = .ok (value, rest) := by
  simp only [known, literals, nonFinite, List.cons_append, List.nil_append, List.mem_cons,
    List.not_mem_nil, or_false] at member
  rcases member with rfl | rfl | rfl | rfl | rfl | rfl <;>
    exact ⟨_, by rw [List.cons_append, readValue_scalar depth (by decide) (by decide) (by decide)]; rfl⟩

theorem readValue_numeric (numeric : Numeric t) (depth : Nat) (ends : Ends rest) :
    Passes (readValue depth (t ++ rest)) rest := by
  obtain ⟨sign, whole, fraction, exponent⟩ := numeric
  obtain ⟨x, t, rfl, digit⟩ := whole.digit
  have apart := ne_of_isDigit digit
  have passes (left : Nat) (negative : Bool) :=
    readNumber_passes left negative whole fraction exponent ends
  rcases sign with rfl | rfl
  · simp only [List.nil_append, List.cons_append, List.append_assoc] at passes ⊢
    rw [readValue_scalar depth (apart '"' rfl) (apart '[' rfl) (apart '{' rfl), readScalar_digit digit]
    exact passes _ _
  · simp only [List.nil_append, List.cons_append, List.append_assoc] at passes ⊢
    rw [readValue_scalar depth (by decide) (by decide) (by decide), readScalar_minus (apart 'I' rfl)]
    exact passes _ _

theorem Passes.limit {outcome : Except Stop (Json × List Char)} {stop : Stop}
    (stops : outcome = .error stop) (limit : stop.AtLimit) : Passes outcome rest :=
  Or.inr ⟨stop, stops, limit⟩

/-- Reading the entries of a container, whatever was read before them. -/
def PassesEntries (one : List Char → Except Stop (Json × List Char)) (fuel : Nat) (s rest : List Char) :
    Container → Prop
  | .array => ∀ done, Passes (readItems one done fuel s) rest
  | .object => ∀ done, Passes (readMembers one done fuel s) rest

/-- What follows an entry: the end of its container, or further entries. -/
inductive Continues (one : List Char → Except Stop (Json × List Char)) (fuel : Nat) (c : Container)
    (tail rest : List Char) : Prop where
  | ends : skipSpace tail = closing c :: rest → Continues one fuel c tail rest
  | goes {after} : skipSpace tail = ',' :: after → PassesEntries one fuel (skipSpace after) rest c →
      Continues one fuel c tail rest

variable {one : List Char → Except Stop (Json × List Char)} {fuel : Nat} {tail : List Char}

/-- Behind a lead stands no closing bracket, and an entry is read if its value is. -/
theorem passesEntries_lead (lead : Lead c p) {x : Char} (opens : Opens x)
    (value : Passes (one (x :: v ++ tail)) tail) (more : Continues one fuel c tail rest) :
    (∃ y inner, skipSpace (p ++ (x :: v ++ tail)) = y :: inner ∧ y ≠ closing c) ∧
      PassesEntries one (fuel + 1) (skipSpace (p ++ (x :: v ++ tail))) rest c := by
  cases lead with
  | item blank =>
    rw [List.cons_append] at value ⊢
    rw [skipSpace_lead blank opens.dark]
    refine ⟨⟨x, _, rfl, opens.noList⟩, fun done => ?_⟩
    rcases value with ⟨value, read⟩ | ⟨stop, stops, limit⟩
    · rcases more with closes | ⟨goes, later⟩
      · exact Or.inl ⟨_, readItems_last read closes fuel⟩
      · rw [readItems_next read goes]
        exact later _
    · exact .limit (by rw [readItems, stops]; rfl) limit
  | @key w k w₁ w₂ blank quoted blank₁ blank₂ =>
    obtain ⟨inside⟩ := quoted
    rename_i body
    have front : w ++ ('"' :: (body ++ ['"']) ++ (w₁ ++ ':' :: w₂)) ++ (x :: v ++ tail) =
        w ++ '"' :: (body ++ '"' :: (w₁ ++ ':' :: (w₂ ++ (x :: (v ++ tail))))) := by simp
    rw [front, skipSpace_lead blank (by decide)]
    refine ⟨⟨'"', _, rfl, by decide⟩, fun done => ?_⟩
    obtain ⟨key, named⟩ := inside.reads ((body ++ '"' :: (w₁ ++ ':' :: (w₂ ++ (x :: (v ++ tail))))).length + 1)
      [] (w₁ ++ ':' :: (w₂ ++ (x :: (v ++ tail))))
    have colon := skipSpace_lead (x := ':') blank₁ (by decide) (w₂ ++ (x :: (v ++ tail)))
    have behind := skipSpace_lead blank₂ opens.dark (v ++ tail)
    rcases value with ⟨value, read⟩ | ⟨stop, stops, limit⟩
    · rw [List.cons_append, ← behind] at read
      rcases more with closes | ⟨goes, later⟩
      · exact Or.inl ⟨_, readMembers_last named colon read closes fuel⟩
      · rw [readMembers_next named colon read goes]
        exact later _
    · rw [List.cons_append, ← behind] at stops
      refine .limit ?_ limit
      rw [readMembers]
      simp only [List.length_cons, named, ok_bind, colon, stops]
      rfl

theorem Ends.blank_append {x : Char} (blank : Blank w) (ends : Ends (x :: rest)) :
    Ends (w ++ x :: rest) := by
  cases w with
  | nil => exact ends
  | cons y w => exact .space (blank y List.mem_cons_self) _

theorem ends_closing (c : Container) (rest : List Char) : Ends (closing c :: rest) := by
  cases c <;> simp [Ends, closing]

theorem length_le_skipSpace {x : Char} (dark : isSpace x = false) (front rest : List Char) :
    (x :: rest).length ≤ (skipSpace (front ++ x :: rest)).length := by
  induction front with
  | nil => rw [List.nil_append, skipSpace_cons dark]
  | cons y front ih =>
    rw [List.cons_append, skipSpace, List.dropWhile_cons]
    split
    · exact ih
    · simp only [List.length_cons, List.length_append]
      omega

theorem length_skipSpace_le (s : List Char) : (skipSpace s).length ≤ s.length :=
  List.length_dropWhile_le isSpace s

theorem readValue_empty (c : Container) (blank : Blank w) (depth : Nat) (rest : List Char) :
    Passes (readValue depth (opening c :: (w ++ closing c :: rest))) rest := by
  have skipped := skipSpace_lead blank (isSpace_closing c) rest
  cases depth with
  | zero => cases c <;> exact .limit rfl trivial
  | succ depth => cases c <;> exact Or.inl ⟨_, by simp [readValue, opening, skipped]; rfl⟩

theorem readValue_filled (depth : Nat) {y : Char} {s inner : List Char} (begins : skipSpace s = y :: inner)
    (some_ : y ≠ closing c)
    (passes : PassesEntries (readValue (depth - 1)) ((y :: inner).length + 1) (y :: inner) rest c) :
    Passes (readValue depth (opening c :: s)) rest := by
  cases depth with
  | zero => cases c <;> exact .limit rfl trivial
  | succ depth =>
    cases c with
    | array =>
      rw [opening, readValue_array depth begins some_]
      exact passes []
    | object =>
      rw [opening, readValue_object depth begins some_]
      exact passes []

/-- What is said of reading a piece of the grammar: it is read with what stands behind it left. -/
def Readable : Part → List Char → Prop
  | .value, t => ∀ depth rest, Ends rest → Passes (readValue depth (t ++ rest)) rest
  | .entries c, t => ∀ depth fuel rest, (skipSpace (t ++ closing c :: rest)).length ≤ fuel →
    (∃ y inner, skipSpace (t ++ closing c :: rest) = y :: inner ∧ y ≠ closing c) ∧
      PassesEntries (readValue depth) (fuel + 1) (skipSpace (t ++ closing c :: rest)) rest c

theorem Grammar.Derives.readable {part : Part} (derives : Derives known part t) : Readable part t := by
  induction derives with
  | word member => exact fun depth rest _ => Or.inl (readValue_known member depth rest)
  | number numeric => exact fun depth rest ends => readValue_numeric numeric depth ends
  | @string t quoted =>
    intro depth rest _
    obtain ⟨inside⟩ := quoted
    rename_i body
    obtain ⟨value, read⟩ := inside.reads ((body ++ '"' :: rest).length + 1) [] rest
    have front : '"' :: (body ++ ['"']) ++ rest = '"' :: (body ++ '"' :: rest) := by simp
    rw [front]
    exact Or.inl ⟨.string value, by cases depth <;> simp only [readValue, List.length_cons, read] <;> rfl⟩
  | @empty c w blank =>
    intro depth rest _
    have front : opening c :: (w ++ [closing c]) ++ rest = opening c :: (w ++ closing c :: rest) := by simp
    rw [front]
    exact readValue_empty c blank depth rest
  | @filled c t _ ih =>
    intro depth rest _
    have front : opening c :: (t ++ [closing c]) ++ rest = opening c :: (t ++ closing c :: rest) := by simp
    rw [front]
    obtain ⟨⟨y, inner, begins, some_⟩, passes⟩ := ih (depth - 1) _ rest (Nat.le_refl _)
    rw [begins] at passes
    exact readValue_filled depth begins some_ passes
  | @last c p v w lead value blank ih =>
    intro depth fuel rest _
    obtain ⟨x, v, rfl, opens⟩ := value.opens
    have ends := Ends.blank_append blank (ends_closing c rest)
    have closes := skipSpace_lead blank (isSpace_closing c) rest
    have more : Continues (readValue depth) fuel c (w ++ closing c :: rest) rest := .ends closes
    simpa only [List.append_assoc] using passesEntries_lead lead opens (ih depth _ ends) more
  | @next c p v w t lead value blank _ ih later =>
    intro depth fuel rest enough
    obtain ⟨x, v, rfl, opens⟩ := value.opens
    have ends : Ends (w ++ ',' :: (t ++ closing c :: rest)) := .blank_append blank (by simp [Ends])
    have goes := skipSpace_lead (x := ',') blank rfl (t ++ closing c :: rest)
    have front : p ++ (x :: v ++ (w ++ ',' :: t)) ++ closing c :: rest =
        p ++ (x :: v ++ (w ++ ',' :: (t ++ closing c :: rest))) := by simp
    rw [front] at enough ⊢
    have shorter : (skipSpace (t ++ closing c :: rest)).length < fuel := by
      have long := length_le_skipSpace opens.dark p (v ++ (w ++ ',' :: (t ++ closing c :: rest)))
      have short := length_skipSpace_le (t ++ closing c :: rest)
      simp only [List.cons_append, List.length_cons, List.length_append] at long short enough ⊢
      omega
    obtain ⟨fuel, rfl⟩ := Nat.exists_eq_succ_of_ne_zero (Nat.ne_zero_of_lt shorter)
    obtain ⟨_, passes⟩ := later depth fuel rest (Nat.lt_succ_iff.mp shorter)
    exact passesEntries_lead lead opens (ih depth _ ends) (.goes goes passes)

end Completeness

section Soundness
variable {c : Container} {s rest : List Char} {depth : Nat}

/-- What a stop tells about a text of this length, where `awaits` are the places at which a value is
awaited. -/
inductive Grounded (awaits : Nat → List Char → Prop) (depth length : Nat) : Stop → Prop where
  | fault {cause left} : left ≤ length → Grounded awaits depth length (.fault cause left)
  | longInteger {n k r} : awaits n r → BeginsInteger k r → digitLimit < k →
      Grounded awaits depth length (.longInteger k)
  | tooDeep {c r} : awaits depth (opening c :: r) → Grounded awaits depth length (.tooDeep c)

theorem Grounded.mono {awaits awaits' : Nat → List Char → Prop} {length length' j : Nat} {stop : Stop}
    (more : ∀ n r, awaits n r → awaits' (n + j) r) (longer : length ≤ length')
    (grounded : Grounded awaits depth length stop) : Grounded awaits' (depth + j) length' stop := by
  cases grounded with
  | fault inside => exact .fault (Nat.le_trans inside longer)
  | longInteger there begins long => exact .longInteger (more _ _ there) begins long
  | tooDeep there => exact .tooDeep (more _ _ there)

/-- What reading a value at the front of the text tells about the text. -/
inductive Accounted (depth : Nat) (s : List Char) : Except Stop (Json × List Char) → Prop where
  | read {v t rest} : Derives known .value t → s = t ++ rest → Accounted depth s (.ok (v, rest))
  | stopped {stop} : Grounded (Awaits · s ·) depth s.length stop → Accounted depth s (.error stop)

/-- What reading the entries of a container tells about the text behind its bracket. -/
inductive AccountedEntries (c : Container) (depth : Nat) (s : List Char) :
    Except Stop (Json × List Char) → Prop where
  | read {v t rest} : Derives known (.entries c) t → s = t ++ closing c :: rest →
      AccountedEntries c depth s (.ok (v, rest))
  | stopped {stop} : Grounded (fun n r => ∃ s', Within c s s' ∧ Awaits n s' r) depth s.length stop →
      AccountedEntries c depth s (.error stop)

theorem exists_skipSpace (s : List Char) : ∃ w, Blank w ∧ s = w ++ skipSpace s :=
  ⟨s.takeWhile isSpace, fun _ member => List.mem_takeWhile_imp member, List.takeWhile_append_dropWhile.symm⟩

theorem accounted_readNumber (sign : List Char) {negative : Bool} (signed : Maybe (· = ['-']) sign) :
    Accounted depth (sign ++ s) (readNumber (sign ++ s).length negative s) := by
  cases outcome : readNumber (sign ++ s).length negative s with
  | ok result =>
    obtain ⟨v, rest⟩ := result
    obtain ⟨w, f, e, whole, fraction, exponent, rfl⟩ := parts_of_readNumber outcome
    exact .read (.number (.parts signed whole fraction exponent)) (by simp)
  | error stop =>
    rcases integer_of_readNumber outcome with rfl | ⟨w, rest, rfl, long, whole, finished, rfl⟩
    · exact .stopped (.fault (Nat.le_refl _))
    · exact .stopped (.longInteger (Awaits.here (w := []) nofun) (.front signed whole finished) long)

theorem accounted_readScalar (s : List Char) : Accounted depth s (readScalar s) := by
  have word {t : List Char} (member : t ∈ known) (v : Json) (rest : List Char) :
      Accounted depth (t ++ rest) (.ok (v, rest)) := .read (.word member) rfl
  unfold readScalar
  split
  · exact word (t := ['n', 'u', 'l', 'l']) (by decide) _ _
  · exact word (t := ['t', 'r', 'u', 'e']) (by decide) _ _
  · exact word (t := ['f', 'a', 'l', 's', 'e']) (by decide) _ _
  · exact word (t := ['N', 'a', 'N']) (by decide) _ _
  · exact word (t := ['I', 'n', 'f', 'i', 'n', 'i', 't', 'y']) (by decide) _ _
  · exact word (t := ['-', 'I', 'n', 'f', 'i', 'n', 'i', 't', 'y']) (by decide) _ _
  · exact accounted_readNumber ['-'] (.inr rfl)
  · exact accounted_readNumber [] (.inl rfl)

variable {p v w : List Char} {outcome : Except Stop (Json × List Char)} {stop : Stop}

theorem accountedEntries_lead (lead : Lead c p) (stopped : Grounded (Awaits · s ·) depth s.length stop) :
    AccountedEntries c depth (p ++ s) (.error stop) :=
  .stopped (stopped.mono (j := 0) (fun _ _ there => ⟨s, .here lead, there⟩) (by simp))

theorem accountedEntries_next (lead : Lead c p) (value : Derives known .value v) (blank : Blank w)
    (later : AccountedEntries c depth s outcome) :
    AccountedEntries c depth (p ++ (v ++ (w ++ ',' :: s))) outcome := by
  cases later with
  | read entries same =>
    subst same
    exact .read (.next lead value blank entries) (by simp)
  | stopped grounded =>
    refine .stopped (grounded.mono (j := 0) ?_ (by simp; omega))
    rintro n r ⟨s', within, there⟩
    exact ⟨s', .later lead value blank within, there⟩

theorem accountedEntries_fault {cause : Cause} {left : Nat} (inside : left ≤ s.length) :
    AccountedEntries c depth s (.error (.fault cause left)) :=
  .stopped (.fault inside)

/-- What the text behind an entry comes to: its container ends, further entries follow a comma, or there is
a fault. -/
inductive AccountedBehind (c : Container) (depth : Nat) (rest : List Char) :
    Except Stop (Json × List Char) → Prop where
  | ends {v after} : skipSpace rest = closing c :: after → AccountedBehind c depth rest (.ok (v, after))
  | goes {after outcome} : skipSpace rest = ',' :: after → AccountedEntries c depth after outcome →
      AccountedBehind c depth rest outcome
  | fault {cause left} : left ≤ rest.length →
      AccountedBehind c depth rest (.error (.fault cause left))

variable {one : List Char → Except Stop (Json × List Char)} (each : ∀ s, Accounted depth s (one s))
include each

/-- The entry at the front is told by its value, and by what stands behind that. -/
theorem accountedEntries_entry (lead : Lead c p) {next : Json × List Char → Except Stop (Json × List Char)}
    (behind : ∀ v rest, AccountedBehind c depth rest (next (v, rest))) :
    AccountedEntries c depth (p ++ s) (one s >>= next) := by
  have value := each s
  cases first : one s with
  | error stop =>
    rw [first] at value
    cases value with
    | stopped grounded => exact accountedEntries_lead lead grounded
  | ok result =>
    obtain ⟨v, rest⟩ := result
    rw [first] at value
    obtain ⟨derives, rfl⟩ := value
    obtain ⟨w, blank, split_⟩ := exists_skipSpace rest
    have told := behind v rest
    rw [ok_bind]
    generalize next (v, rest) = outcome at told ⊢
    cases told with
    | ends closes =>
      rw [closes] at split_
      subst split_
      exact .read (.last lead derives blank) (by simp)
    | goes comma later =>
      rw [comma] at split_
      subst split_
      exact accountedEntries_next lead derives blank later
    | fault inside => exact accountedEntries_fault (by simp; omega)

theorem accounted_readItems (fuel : Nat) (done : List Json) (s : List Char) :
    AccountedEntries .array depth s (readItems one done fuel (skipSpace s)) := by
  induction fuel generalizing s done with
  | zero => exact accountedEntries_fault (length_skipSpace_le s)
  | succ fuel ih =>
    obtain ⟨gap, blank, split_⟩ := exists_skipSpace s
    generalize skipSpace s = inner at split_ ⊢
    subst split_
    rw [readItems]
    refine accountedEntries_entry each (.item blank) fun v rest => ?_
    dsimp only
    split
    · rename_i after closes
      exact .ends closes
    · rename_i after comma
      exact .goes comma (ih _ after)
    · exact .fault (length_skipSpace_le rest)

theorem accounted_readMembers (fuel : Nat) (done : List (List CodePoint × Json)) (s : List Char) :
    AccountedEntries .object depth s (readMembers one done fuel (skipSpace s)) := by
  induction fuel generalizing s done with
  | zero => exact accountedEntries_fault (length_skipSpace_le s)
  | succ fuel ih =>
    obtain ⟨gap, blank, split_⟩ := exists_skipSpace s
    generalize skipSpace s = inner at split_ ⊢
    subst split_
    rw [readMembers.eq_def]
    dsimp only
    split
    · rename_i quotedKey
      cases named : readString ('"' :: quotedKey).length [] quotedKey with
      | error stop =>
        obtain ⟨cause, left, rfl, inside⟩ := fault_of_readString named (by simp)
        exact accountedEntries_fault (by simp at inside ⊢; omega)
      | ok result =>
        obtain ⟨key, rest⟩ := result
        obtain ⟨body, inside, rfl⟩ := readString_inside named
        obtain ⟨w₁, blank₁, split₁⟩ := exists_skipSpace rest
        simp only [ok_bind]
        split
        · rename_i afterColon colon
          rw [colon] at split₁
          subst split₁
          obtain ⟨w₂, blank₂, split₂⟩ := exists_skipSpace afterColon
          generalize skipSpace afterColon = inner at split₂ ⊢
          subst split₂
          have front : gap ++ '"' :: (body ++ '"' :: (w₁ ++ ':' :: (w₂ ++ inner))) =
              gap ++ ('"' :: (body ++ ['"']) ++ (w₁ ++ ':' :: w₂)) ++ inner := by simp
          rw [front]
          refine accountedEntries_entry each (.key blank (.marks inside) blank₁ blank₂) fun v rest => ?_
          dsimp only
          split
          · rename_i after closes
            exact .ends closes
          · rename_i after comma
            exact .goes comma (ih _ after)
          · exact .fault (length_skipSpace_le rest)
        · have short := length_skipSpace_le rest
          exact accountedEntries_fault (by simp; omega)
    · exact accountedEntries_fault (by simp)

omit each

theorem accounted_string (quoted : List Char) : Accounted depth ('"' :: quoted)
    ((readString ('"' :: quoted).length [] quoted).map fun r => (.string r.1, r.2)) := by
  cases named : readString ('"' :: quoted).length [] quoted with
  | error stop =>
    obtain ⟨cause, left, rfl, inside⟩ := fault_of_readString named (by simp)
    exact .stopped (.fault inside)
  | ok result =>
    obtain ⟨v, rest⟩ := result
    obtain ⟨body, inside, rfl⟩ := readString_inside named
    exact .read (.string (.marks inside)) (by simp)

/-- What is told of the entries of a container is told of the container. -/
theorem accounted_container (entries : AccountedEntries c depth s outcome) :
    Accounted (depth + 1) (opening c :: s) outcome := by
  cases entries with
  | read entries same =>
    subst same
    exact .read (.filled entries) (by simp)
  | stopped grounded =>
    refine .stopped (grounded.mono ?_ (by simp))
    rintro n r ⟨s', within, there⟩
    exact Awaits.inside (w := []) nofun within there

theorem accounted_empty (after : List Char) (closes : skipSpace s = closing c :: after) (v : Json) :
    Accounted depth (opening c :: s) (.ok (v, after)) := by
  obtain ⟨w, blank, split_⟩ := exists_skipSpace s
  rw [closes] at split_
  subst split_
  exact .read (.empty (c := c) blank) (by simp)

theorem accounted_readValue (depth : Nat) (s : List Char) : Accounted depth s (readValue depth s) := by
  induction depth generalizing s with
  | zero =>
    unfold readValue
    split
    · exact accounted_string _
    · exact .stopped (.tooDeep (c := .array) (Awaits.here (w := []) nofun))
    · exact .stopped (.tooDeep (c := .object) (Awaits.here (w := []) nofun))
    · rename_i impossible _
      contradiction
    · contradiction
    · exact accounted_readScalar _
  | succ depth ih =>
    unfold readValue
    split
    · exact accounted_string _
    · contradiction
    · contradiction
    · rename_i s same
      obtain rfl := Nat.succ.inj same
      split
      · rename_i after closes
        exact accounted_empty (c := .array) after closes _
      · exact accounted_container (accounted_readItems ih _ [] s)
    · rename_i s same
      obtain rfl := Nat.succ.inj same
      split
      · rename_i after closes
        exact accounted_empty (c := .object) after closes _
      · exact accounted_container (accounted_readMembers ih _ [] s)
    · exact accounted_readScalar _

end Soundness

section Texts
variable {s t : List Char} {part : Part}

theorem Grammar.Awaits.blank_append {w r : List Char} {n : Nat} (blank : Blank w) (there : Awaits n s r) :
    Awaits n (w ++ s) r := by
  have both {w' : List Char} (blank' : Blank w') : Blank (w ++ w') :=
    List.forall_mem_append.mpr ⟨blank, blank'⟩
  cases there with
  | here blank' =>
    rw [← List.append_assoc]
    exact .here (both blank')
  | inside blank' within there =>
    rw [← List.append_assoc]
    exact .inside (both blank') within there

theorem isText_of_readAll {v : Json} (read : readAll s = .ok v) : IsText known s := by
  unfold readAll at read
  split at read
  · contradiction
  · obtain ⟨⟨v, rest⟩, value, read⟩ := exists_of_bind read
    have accounted := accounted_readValue depthLimit (skipSpace s)
    rw [value] at accounted
    obtain ⟨derives, same⟩ := accounted
    obtain ⟨w, blank, split_⟩ := exists_skipSpace s
    obtain ⟨w', blank', split'⟩ := exists_skipSpace rest
    dsimp only at read
    split at read
    · rename_i ends
      rw [ends, List.append_nil] at split'
      subst split'
      rw [split_, same]
      exact .around blank derives blank'
    · contradiction

theorem grounded_of_readAll {stop : Stop} (stops : readAll s = .error stop) :
    Grounded (Awaits · s ·) depthLimit s.length stop := by
  unfold readAll at stops
  split at stops
  · obtain rfl := Except.error.inj stops
    exact .fault (Nat.le_refl _)
  · obtain ⟨w, blank, split_⟩ := exists_skipSpace s
    have shorter := length_skipSpace_le s
    have accounted := accounted_readValue depthLimit (skipSpace s)
    cases value : readValue depthLimit (skipSpace s) with
    | error stop' =>
      rw [value] at stops accounted
      obtain rfl := Except.error.inj stops
      cases accounted with
      | stopped grounded =>
        refine grounded.mono (j := 0) (fun n r there => ?_) shorter
        rw [split_]
        exact there.blank_append blank
    | ok result =>
      obtain ⟨v, rest⟩ := result
      rw [value] at stops accounted
      obtain ⟨_, same⟩ := accounted
      simp only [ok_bind] at stops
      split at stops
      · contradiction
      · obtain rfl := Except.error.inj stops
        have short := length_skipSpace_le rest
        have whole := congrArg List.length same
        rw [List.length_append] at whole
        exact .fault (by omega)

theorem Grammar.IsText.readAll (text : IsText known s) :
    (∃ v, readAll s = .ok v) ∨ ∃ stop, readAll s = .error stop ∧ stop.AtLimit := by
  obtain ⟨blank, value, blank'⟩ := text
  rename_i w v w'
  obtain ⟨x, v, rfl, opens⟩ := value.opens
  have noMark : ∀ rest, w ++ (x :: v ++ w') ≠ '\uFEFF' :: rest := by
    intro rest same
    cases w with
    | nil => exact opens.noMark (List.cons.inj same).1
    | cons y w =>
      have dark : isSpace '\uFEFF' = false := by decide
      rw [← (List.cons.inj same).1, blank y List.mem_cons_self] at dark
      contradiction
  have ends : Ends w' := by
    cases w' with
    | nil => exact .nil
    | cons y w' => exact .space (blank' y List.mem_cons_self) w'
  have finish : skipSpace w' = [] := by
    have skipped := skipSpace_append blank' []
    rwa [List.append_nil] at skipped
  have skipped := skipSpace_lead blank opens.dark (v ++ w')
  rw [← List.cons_append] at skipped
  have outcome := value.readable depthLimit w' ends
  rw [Json.readAll.eq_def]
  split
  · rename_i rest same
    exact absurd same (noMark rest)
  · rw [skipped]
    rcases outcome with ⟨value, read⟩ | ⟨stop, stops, limit⟩
    · exact Or.inl ⟨value, by simp only [read, ok_bind, finish]⟩
    · exact Or.inr ⟨stop, by rw [stops]; rfl, limit⟩

theorem Grammar.Bounded.fault_of_readAll (bounded : Bounded s) {stop : Stop}
    (stops : Json.readAll s = .error stop) : ∃ cause left, stop = .fault cause left ∧ left ≤ s.length := by
  cases grounded_of_readAll stops with
  | fault inside => exact ⟨_, _, rfl, inside⟩
  | longInteger there begins long => exact absurd (bounded.integers _ _ _ there begins) (by omega)
  | tooDeep there => exact absurd (bounded.nesting _ _ _ there) (Nat.lt_irrefl _)

/-- Within the limits the texts that are read are those of the grammar with the words that are known. -/
theorem readAll_iff (bounded : Bounded s) : (∃ v, Json.readAll s = .ok v) ↔ IsText known s := by
  constructor
  · rintro ⟨v, read⟩
    exact isText_of_readAll read
  · intro text
    refine text.readAll.resolve_right ?_
    rintro ⟨stop, stops, limit⟩
    obtain ⟨cause, left, rfl, _⟩ := bounded.fault_of_readAll stops
    exact limit

theorem Grammar.Derives.mono {words words' : List (List Char)} (more : words ⊆ words')
    (derives : Derives words part t) : Derives words' part t := by
  induction derives with
  | word member => exact .word (more member)
  | number numeric => exact .number numeric
  | string quoted => exact .string quoted
  | empty blank => exact .empty blank
  | filled _ ih => exact .filled ih
  | last lead _ blank ih => exact .last lead ih blank
  | next lead _ blank _ ih later => exact .next lead ih blank later

theorem Grammar.IsText.mono {words words' : List (List Char)} (more : words ⊆ words')
    (text : IsText words s) : IsText words' s := by
  obtain ⟨blank, value, blank'⟩ := text
  exact .around blank (value.mono more) blank'

/-- Somewhere in the text one of the words for numbers that are not finite stands for a value. -/
def Grammar.NamesNonFinite (s : List Char) : Prop :=
  ∃ n r word, word ∈ nonFinite ∧ Awaits n s (word ++ r)

/-- What is said of a piece of the grammar with all words that are known. -/
def LiteralOrNamed : Part → List Char → Prop
  | .value, t => ∀ rest, Derives literals .value t ∨ NamesNonFinite (t ++ rest)
  | .entries c, t => ∀ rest, Derives literals (.entries c) t ∨
    ∃ s', Within c (t ++ closing c :: rest) s' ∧ NamesNonFinite s'

theorem Grammar.Derives.literal_or_named (derives : Derives known part t) : LiteralOrNamed part t := by
  induction derives with
  | @word t member =>
    intro rest
    rcases List.mem_append.mp member with literal | other
    · exact Or.inl (.word literal)
    · exact Or.inr ⟨0, rest, t, other, .here (w := []) nofun⟩
  | number numeric => exact fun _ => Or.inl (.number numeric)
  | string quoted => exact fun _ => Or.inl (.string quoted)
  | empty blank => exact fun _ => Or.inl (.empty blank)
  | @filled c t _ ih =>
    intro rest
    rcases ih rest with literal | ⟨s', within, n, r, word, other, there⟩
    · exact Or.inl (.filled literal)
    · refine Or.inr ⟨n + 1, r, word, other, ?_⟩
      have front : opening c :: (t ++ [closing c]) ++ rest = opening c :: (t ++ closing c :: rest) := by
        simp
      rw [front]
      exact .inside (w := []) nofun within there
  | @last c p v w lead _ blank ih =>
    intro rest
    rcases ih (w ++ closing c :: rest) with literal | named
    · exact Or.inl (.last lead literal blank)
    · refine Or.inr ⟨_, ?_, named⟩
      simp only [List.append_assoc]
      exact .here lead
  | @next c p v w t lead value blank _ ih later =>
    intro rest
    have front : p ++ (v ++ (w ++ ',' :: t)) ++ closing c :: rest =
        p ++ (v ++ (w ++ ',' :: (t ++ closing c :: rest))) := by simp
    rw [front]
    rcases ih (w ++ ',' :: (t ++ closing c :: rest)) with literal | named
    · rcases later rest with literal' | ⟨s', within, named⟩
      · exact Or.inl (.next lead literal blank literal')
      · exact Or.inr ⟨s', .later lead value blank within, named⟩
    · exact Or.inr ⟨_, .here lead, named⟩

/-- Where no such word stands for a value, the words that are known make no difference. -/
theorem Grammar.isText_literals_iff (finite : ¬ NamesNonFinite s) :
    IsText literals s ↔ IsText known s := by
  refine ⟨.mono (List.subset_append_left _ _), fun text => ?_⟩
  obtain ⟨blank, value, blank'⟩ := text
  rename_i w v w'
  rcases value.literal_or_named w' with literal | ⟨n, r, word, other, there⟩
  · exact .around blank literal blank'
  · exact absurd ⟨n, r, word, other, there.blank_append blank⟩ finite

section Bounds
variable {r : List Char} {n : Nat}

theorem Grammar.Within.suffix {c : Container} (within : Within c s r) : r <:+ s := by
  induction within with
  | here => exact List.suffix_append _ _
  | @later p v w _ _ _ _ _ _ ih => exact ih.trans ⟨p ++ (v ++ (w ++ [','])), by simp⟩

/-- What is left where a value is awaited has the brackets that are open before it. -/
theorem Grammar.Awaits.suffix (there : Awaits n s r) : r <:+ s ∧ n + r.length ≤ s.length := by
  induction there with
  | here => exact ⟨List.suffix_append _ _, by simp⟩
  | @inside c n w s s' r _ within _ ih =>
    have behind : s <:+ w ++ opening c :: s := ⟨w ++ [opening c], by simp⟩
    have shorter := within.suffix.length_le
    refine ⟨(ih.1.trans within.suffix).trans behind, ?_⟩
    simp only [List.length_append, List.length_cons]
    omega

theorem Grammar.BeginsInteger.length_le {k : Nat} (begins : BeginsInteger k r) : k ≤ r.length := by
  cases begins
  simp only [List.length_append]
  omega

/-- A text that is no longer than the limit of nesting is within the limits. -/
theorem Grammar.Bounded.of_length (short : s.length ≤ depthLimit) : Bounded s where
  nesting n c r there := by
    have := there.suffix.2
    simp only [List.length_cons] at this
    omega
  integers n k r there begins := by
    have := there.suffix.2
    have := begins.length_le
    simp only [depthLimit, digitLimit] at *
    omega

theorem Grammar.finite_of_not_infix (apart : ∀ word ∈ nonFinite, ¬ word <:+: s) : ¬ NamesNonFinite s := by
  rintro ⟨n, r, word, other, there⟩
  exact apart word other ((List.prefix_append word r).isInfix.trans there.suffix.1.isInfix)

end Bounds
end Texts
end FenceCheck.Json
