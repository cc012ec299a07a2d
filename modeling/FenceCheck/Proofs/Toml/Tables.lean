import Mathlib
import FenceCheck.Proofs.Bindings
import FenceCheck.Proofs.Number.Digits
import FenceCheck.Toml.Reader

/-! What is read of a TOML document: tables that hold each key once, at every depth, and negative
integers that can be written again. The reader has no other way to change a table than to bind a key
that is free, or to put a changed value in the place of an old one. -/
namespace FenceCheck.Toml
open FenceCheck.Number FenceCheck.Text

/-- A value as a document can hold it. -/
inductive Proper : Toml → Prop where
  | string (s : String) : Proper (.string s)
  | int {n : Int} : 0 ≤ n ∨ Writable n → Proper (.int n)
  | float (x : Binary64) : Proper (.float x)
  | bool (b : Bool) : Proper (.bool b)
  | date (d : Date) : Proper (.date d)
  | time (t : Time) : Proper (.time t)
  | dateTime (m : DateTime) : Proper (.dateTime m)
  | array {items : List Toml} : (∀ v ∈ items, Proper v) → Proper (.array items)
  | table {entries : List (String × Toml)} : (entries.map Prod.fst).Nodup →
      (∀ e ∈ entries, Proper e.2) → Proper (.table entries)

/-- The entries of a table as a document can hold it. -/
def Entries.Proper (entries : Entries) : Prop :=
  Toml.Proper (.table entries)

namespace Entries
variable {entries out : Entries} {key : String} {v : Toml}

theorem Proper.distinct (proper : entries.Proper) : (entries.map Prod.fst).Nodup := by
  cases proper with
  | table distinct fields => exact distinct

theorem Proper.field (proper : entries.Proper) {e : String × Toml} (member : e ∈ entries) :
    Toml.Proper e.2 := by
  cases proper with
  | table distinct fields => exact fields e member

theorem Proper.nil : Proper [] :=
  .table .nil (by simp)

theorem Proper.cons {rest : Entries} (fine : Toml.Proper v) (fresh : key ∉ rest.map Prod.fst)
    (proper : rest.Proper) : Proper ((key, v) :: rest) := by
  apply Toml.Proper.table
  · exact List.nodup_cons.mpr ⟨fresh, proper.distinct⟩
  · intro e member
    rcases List.mem_cons.mp member with rfl | later
    · exact fine
    · exact proper.field later

theorem Proper.tail {e : String × Toml} {rest : Entries} (proper : Proper (e :: rest)) :
    rest.Proper :=
  .table (List.nodup_cons.mp proper.distinct).2 fun _ member =>
    proper.field (List.mem_cons_of_mem e member)

theorem Proper.lookup (proper : entries.Proper) (found : entries.lookup key = some v) :
    Toml.Proper v :=
  proper.field (Bindings.mem_of_lookup found)

theorem mem_keys_put {k : String} (member : k ∈ (entries.put key v).map Prod.fst) :
    k = key ∨ k ∈ entries.map Prod.fst := by
  induction entries with
  | nil => exact Or.inl (by simpa [put] using member)
  | cons e rest ih =>
    obtain ⟨k', v'⟩ := e
    simp only [put] at member
    split at member
    · exact Or.inr (by simpa using member)
    · rcases List.mem_cons.mp member with rfl | later
      · exact Or.inr List.mem_cons_self
      · exact (ih later).imp_right fun old => List.mem_cons_of_mem k' old

theorem Proper.put (proper : entries.Proper) (fine : Toml.Proper v) : (entries.put key v).Proper := by
  induction entries with
  | nil => exact .cons fine (by simp) .nil
  | cons e rest ih =>
    obtain ⟨k, old⟩ := e
    have fresh := (List.nodup_cons.mp proper.distinct).1
    simp only [Entries.put]
    split
    · exact .cons fine fresh proper.tail
    · rename_i other
      apply Proper.cons
      · exact proper.field (e := (k, old)) List.mem_cons_self
      · intro again
        exact (mem_keys_put again).elim other fresh
      · exact ih proper.tail

/-- A key that is bound nowhere can be bound at the end. -/
theorem Proper.concat (proper : entries.Proper) (free : entries.lookup key = none)
    (fine : Toml.Proper v) : Proper (entries ++ [(key, v)]) := by
  have fresh := Bindings.lookup_eq_none_iff.mp free
  apply Toml.Proper.table
  · rw [List.map_append, List.map_singleton, ← List.concat_eq_append]
    exact List.Nodup.concat fresh proper.distinct
  · intro e member
    rcases List.mem_append.mp member with old | new
    · exact proper.field old
    · rw [List.mem_singleton.mp new]
      exact fine

/-- A change of entries that keeps them as a document can hold them. -/
def Keeps (change : Entries → Option Entries) : Prop :=
  ∀ entries out, change entries = some out → entries.Proper → out.Proper

theorem keeps_bindNew (name : String) (fine : Toml.Proper v) : Keeps (bindNew name v) := by
  intro entries out bound proper
  simp only [bindNew] at bound
  split at bound
  · contradiction
  · rename_i free
    rw [← Option.some.inj bound]
    exact proper.concat (Option.not_isSome_iff_eq_none.mp free) fine

theorem keeps_some : Keeps some := by
  intro entries out same proper
  exact Option.some.inj same ▸ proper

theorem keeps_appendTable (name : String) : Keeps (appendTable name) := by
  intro entries out appended proper
  have empty : Toml.Proper (.table []) := Proper.nil
  simp only [appendTable] at appended
  split at appended
  · rename_i free
    rw [← Option.some.inj appended]
    exact proper.concat free (.array (by simpa using empty))
  · rename_i items found
    rw [← Option.some.inj appended]
    cases proper.lookup found with
    | array each =>
      refine proper.put (.array fun v member => ?_)
      rcases List.mem_append.mp member with old | new
      · exact each v old
      · exact List.mem_singleton.mp new ▸ empty
  · contradiction

/-- What keeps the table at the end of a way keeps the table at its start. -/
theorem keeps_within (lists : Bool) {change : Entries → Option Entries} (keeps : Keeps change)
    (key : Key) : Keeps (within lists change key) := by
  induction key with
  | nil => exact keeps
  | cons k rest ih =>
    intro entries out changed proper
    simp only [within] at changed
    split at changed
    · obtain ⟨inner, made, rfl⟩ : ∃ inner, within lists change rest [] = some inner ∧
          entries.put k (.table inner) = out := by simpa [Option.bind_eq_some_iff] using changed
      exact proper.put (ih _ _ made .nil)
    · rename_i table found
      obtain ⟨inner, made, rfl⟩ : ∃ inner, within lists change rest table = some inner ∧
          entries.put k (.table inner) = out := by simpa [Option.bind_eq_some_iff] using changed
      exact proper.put (ih _ _ made (proper.lookup found))
    · rename_i items found
      cases proper.lookup found with
      | array each =>
        split at changed
        · rename_i _ table last
          obtain ⟨inner, made, rfl⟩ : ∃ inner, within true change rest table = some inner ∧
              entries.put k (.array (items.dropLast ++ [.table inner])) = out := by
            simpa [Option.bind_eq_some_iff] using changed
          refine proper.put (.array fun v member => ?_)
          rcases List.mem_append.mp member with old | new
          · exact each v (List.dropLast_subset items old)
          · rw [List.mem_singleton.mp new]
            exact ih _ _ made (each _ (List.mem_of_getLast? last))
        · contradiction
    · contradiction

end Entries

/-- What a reader gives, if it gives anything, is of some kind. -/
def Yields {α : Type} (kind : α → Prop) (r : Except Stop α) : Prop :=
  ∀ a, r = .ok a → kind a

namespace Yields
variable {α β : Type} {kind : α → Prop} {kind' : β → Prop}

theorem ok {a : α} (fine : kind a) : Yields kind (.ok a) := by
  intro b same
  exact Except.ok.inj same ▸ fine

theorem error (e : Stop) : Yields kind (.error e) := by
  intro a same
  contradiction

theorem stopAt (cause : Cause) (s : List Char) : Yields kind (stopAt cause s) :=
  .error _

theorem bind {r : Except Stop α} {f : α → Except Stop β} (first : Yields kind r)
    (next : ∀ a, kind a → Yields kind' (f a)) : Yields kind' (r >>= f) := by
  cases r with
  | error e => exact .error e
  | ok a => exact next a (first a rfl)

/-- Nothing need be known of what comes first. -/
theorem after {r : Except Stop α} {f : α → Except Stop β} (next : ∀ a, Yields kind' (f a)) :
    Yields kind' (r >>= f) := by
  cases r with
  | error e => exact .error e
  | ok a => exact next a

end Yields

/-- A reader of values. -/
def ReadsProper (one : List Char → Except Stop (Toml × List Char)) : Prop :=
  ∀ s, Yields (fun r => Proper r.1) (one s)

theorem proper_readMarked? {s rest : List Char} {v : Toml} (read : readMarked? s = some (v, rest)) :
    Proper v := by
  simp only [readMarked?] at read
  split at read
  · obtain ⟨⟨ds, after⟩, _, same⟩ := Option.map_eq_some_iff.mp read
    obtain ⟨rfl, _⟩ := Prod.mk.inj same
    exact .int (Or.inl (Int.natCast_nonneg _))
  · obtain ⟨⟨ds, after⟩, _, same⟩ := Option.map_eq_some_iff.mp read
    obtain ⟨rfl, _⟩ := Prod.mk.inj same
    exact .int (Or.inl (Int.natCast_nonneg _))
  · obtain ⟨⟨ds, after⟩, _, same⟩ := Option.map_eq_some_iff.mp read
    obtain ⟨rfl, _⟩ := Prod.mk.inj same
    exact .int (Or.inl (Int.natCast_nonneg _))
  · contradiction

/-- What is taken of grouped digits are digits. -/
theorem digits_takeGrouped (digit : Char → Bool) (s : List Char) :
    ∀ d ∈ (takeGrouped digit s).1, digit d = true := by
  fun_induction takeGrouped digit s with
  | case1 => simp
  | case2 d rest isDigit ds after taken ih =>
    intro c member
    rcases List.mem_cons.mp member with rfl | later
    · exact isDigit
    · exact ih c (by simpa [taken] using later)
  | case3 => simp
  | case4 c rest _ isDigit ds after taken ih =>
    intro d member
    rcases List.mem_cons.mp member with rfl | later
    · exact isDigit
    · exact ih d (by simpa [taken] using later)
  | case5 => simp

theorem digits_readGrouped? {digit : Char → Bool} {s ds after : List Char}
    (read : readGrouped? digit s = some (ds, after)) : ∀ d ∈ ds, digit d = true := by
  cases s with
  | nil => contradiction
  | cons c rest =>
    simp only [readGrouped?] at read
    split at read
    · rename_i isDigit
      obtain ⟨rfl, _⟩ := Prod.mk.inj (Option.some.inj read)
      intro d member
      rcases List.mem_cons.mp member with rfl | later
      · exact isDigit
      · exact digits_takeGrouped digit rest d later
    · contradiction

theorem digits_readWhole? {s ds after : List Char} (read : readWhole? s = some (ds, after)) :
    ∀ d ∈ ds, d.isDigit = true := by
  simp only [readWhole?] at read
  split at read
  · obtain ⟨rfl, _⟩ := Prod.mk.inj (Option.some.inj read)
    simp
  · exact digits_readGrouped? read

theorem proper_readNumber? {s : List Char} {r : Except Stop (Toml × List Char)}
    (read : readNumber? s = some r) : Yields (fun r => Proper r.1) r := by
  simp only [readNumber?] at read
  split at read
  · rename_i found marked
    rw [← Option.some.inj read]
    exact .ok (proper_readMarked? marked)
  · split at read
    · contradiction
    · rename_i ds _ whole
      split at read
      · split at read
        · rw [← Option.some.inj read]
          exact .error _
        · rename_i short
          rw [← Option.some.inj read]
          exact .ok (.int (Or.inr
            (writable_ofDigits (digits_readWhole? whole) (Nat.le_of_not_lt short) _)))
      · rw [← Option.some.inj read]
        exact .ok (.float _)

theorem proper_readMoment? {s : List Char} {r : Except Stop (Toml × List Char)}
    (read : readMoment? s = some r) : Yields (fun r => Proper r.1) r := by
  simp only [readMoment?, Option.bind_eq_bind, Option.bind_eq_some_iff] at read
  obtain ⟨⟨day, rest⟩, _, read⟩ := read
  dsimp only at read
  split at read
  · rw [← Option.some.inj read]
    exact .stopAt _ _
  · split at read
    · rw [← Option.some.inj read]
      exact .ok (.date day)
    · split at read
      · rw [← Option.some.inj read]
        exact .ok (.dateTime _)
      · rw [← Option.some.inj read]
        exact .ok (.dateTime _)

theorem proper_readWord? {s rest : List Char} {v : Toml} (read : readWord? s = some (v, rest)) :
    Proper v := by
  simp only [readWord?] at read
  split at read
  · obtain ⟨rfl, _⟩ := Prod.mk.inj (Option.some.inj read)
    exact .float _
  · obtain ⟨rfl, _⟩ := Prod.mk.inj (Option.some.inj read)
    exact .float _
  · contradiction

theorem yields_text (r : Except Stop (List Char × List Char)) : Yields (fun r => Proper r.1) (do
    let (cs, rest) ← r
    return (Toml.string (String.ofList cs), rest)) :=
  .after fun _ => .ok (.string _)

theorem readsProper_readScalar : ReadsProper readScalar := by
  intro s
  simp only [readScalar]
  split
  · exact yields_text _
  · exact yields_text _
  · exact yields_text _
  · exact yields_text _
  · exact .ok (.bool true)
  · exact .ok (.bool false)
  · split
    · rename_i moment
      exact proper_readMoment? moment
    · split
      · exact .ok (.time _)
      · split
        · rename_i number
          exact proper_readNumber? number
        · split
          · rename_i word
            exact .ok (proper_readWord? word)
          · exact .stopAt _ _

theorem yields_readPair {one : List Char → Except Stop (Toml × List Char)}
    (reads : ReadsProper one) (s : List Char) :
    Yields (fun r => Proper r.1.2) (readPair one s) := by
  refine .after ?_
  rintro ⟨key, rest⟩
  dsimp only
  split
  · exact (reads _).bind fun r fine => .ok fine
  · exact .stopAt _ _

theorem yields_readItems {one : List Char → Except Stop (Toml × List Char)}
    (reads : ReadsProper one) (fuel : Nat) (done : List Toml) (fine : ∀ v ∈ done, Proper v)
    (s : List Char) : Yields (fun r => Proper r.1) (readItems one done fuel s) := by
  induction fuel generalizing done s with
  | zero => exact .stopAt _ _
  | succ fuel ih =>
    simp only [readItems]
    refine (reads s).bind ?_
    rintro ⟨v, rest⟩ fineV
    have all : ∀ u ∈ v :: done, Proper u := by
      intro u member
      rcases List.mem_cons.mp member with rfl | earlier
      · exact fineV
      · exact fine u earlier
    have listed : Proper (.array (v :: done).reverse) :=
      .array fun u member => all u (List.mem_reverse.mp member)
    refine .after ?_
    intro after
    split
    · exact .ok listed
    · refine .after ?_
      intro after
      split
      · exact .ok listed
      · exact ih (v :: done) all _
    · exact .stopAt _ _

theorem yields_readEntries {one : List Char → Except Stop (Toml × List Char)}
    (reads : ReadsProper one) (fuel : Nat) (done : Entries) (fine : done.Proper) (marks : Marks)
    (s : List Char) : Yields (fun r => Proper r.1) (readEntries one done marks fuel s) := by
  induction fuel generalizing done marks s with
  | zero => exact .stopAt _ _
  | succ fuel ih =>
    simp only [readEntries]
    refine (yields_readPair reads s).bind ?_
    rintro ⟨⟨key, v⟩, rest⟩ fineV
    dsimp only
    split
    · exact .stopAt _ _
    · split
      · exact .stopAt _ _
      · split
        · exact .stopAt _ _
        · rename_i bound
          have proper := Entries.keeps_within false (Entries.keeps_bindNew _ fineV) _ _ _ bound fine
          split
          · exact .ok proper
          · exact ih _ proper _ _
          · exact .stopAt _ _

/-- Whatever value is read can be held by a document. -/
theorem readsProper_readValue (depth : Nat) : ReadsProper (readValue depth) := by
  induction depth with
  | zero =>
    intro s
    unfold readValue
    split
    · exact .error _
    · exact .error _
    · contradiction
    · contradiction
    · exact readsProper_readScalar _
  | succ depth ih =>
    intro s
    unfold readValue
    split
    · contradiction
    · contradiction
    · rename_i same
      obtain rfl := Nat.succ.inj same
      refine .after ?_
      intro inner
      split
      · exact .ok (.array (by simp))
      · exact yields_readItems ih _ [] (by simp) _
    · rename_i same
      obtain rfl := Nat.succ.inj same
      split
      · exact .ok Entries.Proper.nil
      · exact yields_readEntries ih _ [] .nil _ _
    · exact readsProper_readScalar _

/-- The root of a document that a statement leads to. -/
def ProperRoot (r : Document × List Char) : Prop :=
  r.1.root.Proper

theorem yields_readAssignment {doc : Document} (proper : doc.root.Proper) (s : List Char) :
    Yields ProperRoot (readAssignment doc s) := by
  refine (yields_readPair (readsProper_readValue depthLimit) s).bind ?_
  rintro ⟨⟨key, v⟩, rest⟩ fine
  dsimp only
  split
  · exact .stopAt _ _
  · split
    · exact .stopAt _ _
    · split
      · exact .stopAt _ _
      · rename_i bound
        exact .ok (Entries.keeps_within true (Entries.keeps_bindNew _ fine) _ _ _ bound proper)

theorem yields_readTableHeader {doc : Document} (proper : doc.root.Proper) (s : List Char) :
    Yields ProperRoot (readTableHeader doc s) := by
  refine .after ?_
  rintro ⟨key, rest⟩
  dsimp only
  split
  · exact .stopAt _ _
  · split
    · exact .stopAt _ _
    · rename_i made
      split
      · exact .ok (Entries.keeps_within true Entries.keeps_some _ _ _ made proper)
      · exact .stopAt _ _

theorem yields_readListHeader {doc : Document} (proper : doc.root.Proper) (s : List Char) :
    Yields ProperRoot (readListHeader doc s) := by
  refine .after ?_
  rintro ⟨key, rest⟩
  dsimp only
  split
  · exact .stopAt _ _
  · split
    · exact .stopAt _ _
    · rename_i made
      split
      · exact .ok (Entries.keeps_within true (Entries.keeps_appendTable _) _ _ _ made proper)
      · exact .stopAt _ _

/-- A statement keeps the root table one that a document can hold. -/
theorem yields_readStatement {doc : Document} (proper : doc.root.Proper) (s : List Char) :
    Yields ProperRoot (readStatement doc s) := by
  simp only [readStatement]
  split
  · apply yields_readListHeader
    exact proper
  · apply yields_readTableHeader
    exact proper
  · exact .ok proper
  · split
    · exact yields_readAssignment proper _
    · exact .stopAt _ _
  · exact .ok proper

theorem yields_readStatements (fuel : Nat) {doc : Document} (proper : doc.root.Proper)
    (s : List Char) : Yields (fun doc => doc.root.Proper) (readStatements doc fuel s) := by
  induction fuel generalizing doc s with
  | zero => exact .ok proper
  | succ fuel ih =>
    simp only [readStatements]
    split
    · exact .ok proper
    · exact ih proper _
    · refine (yields_readStatement proper _).bind ?_
      rintro ⟨doc, rest⟩ proper
      refine .after ?_
      intro after
      split
      · exact .ok proper
      · exact ih proper _
      · exact .stopAt _ _

/-- The root table of a document holds each key once, and so does every table in it. -/
theorem proper_of_read {source : List Char} {entries : Entries} (done : read source = .ok entries) :
    entries.Proper := by
  simp only [read] at done
  split at done
  · rename_i doc finished
    rw [← Except.ok.inj done]
    exact yields_readStatements _ .nil _ doc finished
  · contradiction

end FenceCheck.Toml
