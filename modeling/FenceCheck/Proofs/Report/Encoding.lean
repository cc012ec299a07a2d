import FenceCheck.Proofs.Json.RoundTrip
import FenceCheck.Proofs.Report.Acceptance
import FenceCheck.Proofs.Text.Codec

/-! Which reports can be encoded. The printer writes a surrogate that it finds in a string as it stands and
puts in none of its own, so what counts is whether a string of the report holds one. None does that is made
of characters. -/
namespace FenceCheck
open FenceCheck.Text

theorem Text.CodePoint.toChar_of_isSurrogate {p : CodePoint} (surrogate : p.isSurrogate = true) :
    p.toChar = '\x00' := by
  simp only [isSurrogate, Bool.and_eq_true, decide_eq_true_eq] at surrogate
  have invalid : ¬ p.val.isValidChar := by
    simp only [Nat.isValidChar]
    omega
  rw [toChar, Char.ofNat, dif_neg invalid]
  rfl

namespace Json
variable {depth level : Nat} {layout : Layout} {v : Json} {p : CodePoint}

/-- The printer writes visible characters, blanks and line feeds of a legible value, and so no surrogate. -/
theorem Legible.scalar_renderAt (legible : Legible depth v) (layout : Layout) (level : Nat) :
    ∀ p ∈ renderAt layout level v, p.isSurrogate = false := by
  have marked : ∀ c ∈ marks, c ≠ '\x00' := by
    have unmarked : '\x00' ∉ marks := by decide
    rintro c member rfl
    exact unmarked member
  have escapes (p : CodePoint) (scalar : p.isSurrogate = false) :
      ∀ c ∈ chars (escape layout.ascii p), c ≠ '\x00' := by
    rintro c member rfl
    exact absurd (printable_of_escape _ scalar member) (by decide)
  have shown := legible.forall_render marked (fun _ => by decide) escapes level
  intro p member
  by_contra surrogate
  refine shown p.toChar (List.mem_map_of_mem member) (CodePoint.toChar_of_isSurrogate ?_)
  simpa using surrogate

theorem mem_enclose {opening closing : Char} {texts : List (List CodePoint)} {text : List CodePoint}
    (member : text ∈ texts) (inside : p ∈ text) : p ∈ enclose layout level opening closing texts := by
  cases texts with
  | nil => contradiction
  | cons first rest =>
    rcases List.mem_cons.mp member with rfl | later
    · simp [enclose, inside]
    · have behind : p ∈ rest.flatMap fun t =>
          (if layout.spread then .ofChar ',' :: newLine (level + 1) else points [',', ' ']) ++ t :=
        List.mem_flatMap.mpr ⟨text, later, List.mem_append_right _ inside⟩
      simp [enclose, behind]

theorem mem_renderString {s : List CodePoint} (surrogate : p.isSurrogate = true) (inside : p ∈ s) :
    p ∈ renderString false s := by
  simp only [CodePoint.isSurrogate, Bool.and_eq_true, decide_eq_true_eq] at surrogate
  have itself : escape false p = [p] := by
    simp only [escape, Bool.false_eq_true, false_and, or_false]
    repeat rw [if_neg (by omega)]
  refine List.mem_cons_of_mem _ (List.mem_append_left _ (List.mem_flatMap.mpr ⟨p, inside, ?_⟩))
  simp [itself]

/-- A surrogate in a member of an object is in the text of the object. -/
theorem mem_renderAt_object {members : Members} {k s : List CodePoint} (surrogate : p.isSurrogate = true)
    (bound : (k, .string s) ∈ members) (inside : p ∈ s) :
    p ∈ renderAt .artifact level (.object members) := by
  rw [renderAt_object]
  have sorted := (List.mergeSort_perm members keyLE).mem_iff.mpr bound
  refine mem_enclose (List.mem_map_of_mem sorted) (List.mem_append_right _ ?_)
  rw [renderAt]
  exact mem_renderString surrogate inside

end Json

namespace Report
open Json

/-- An entry whose strings are made of characters. -/
structure Entry.Scalar (e : Entry) : Prop where
  file : ∀ p ∈ e.file, p.isSurrogate = false
  content : ∀ p ∈ e.content, p.isSurrogate = false
  message : ∀ p ∈ e.message, p.isSurrogate = false

theorem Entry.Scalar.ofBlock (file : Path) (content : String) {message : List CodePoint}
    (scalar : ∀ p ∈ message, p.isSurrogate = false) : (Entry.ofBlock file content message).Scalar :=
  ⟨isSurrogate_of_mem_codePoints _, isSurrogate_of_mem_codePoints _, scalar⟩

variable {report : List Entry} {text : List CodePoint} {bytes : List UInt8}

theorem legible_toJson (scalar : ∀ e ∈ report, e.Scalar) : (toJson report).Legible depthLimit := by
  refine Legible.array fun v member => ?_
  obtain ⟨e, inside, rfl⟩ := List.mem_map.mp member
  obtain ⟨file, content, message⟩ := scalar e inside
  refine .object (by simp [codePoints_inj]) ?_ ?_
  · simp only [List.forall_mem_cons]
    exact ⟨isSurrogate_of_mem_codePoints _, isSurrogate_of_mem_codePoints _,
      isSurrogate_of_mem_codePoints _, by simp⟩
  · simp only [List.forall_mem_cons]
    exact ⟨.string file, .string content, .string message, by simp⟩

/-- A surrogate in an entry is in the text of the report. -/
theorem mem_renderArtifact {e : Entry} (member : e ∈ report) {p : CodePoint}
    (surrogate : p.isSurrogate = true) (inside : p ∈ e.file ∨ p ∈ e.content ∨ p ∈ e.message) :
    p ∈ (toJson report).renderArtifact := by
  have entry : p ∈ renderAt .artifact 1 e.toJson := by
    rcases inside with file | content | message
    · exact mem_renderAt_object surrogate List.mem_cons_self file
    · exact mem_renderAt_object surrogate (.tail _ List.mem_cons_self) content
    · exact mem_renderAt_object surrogate (.tail _ (.tail _ List.mem_cons_self)) message
  refine List.mem_append_left _ ?_
  rw [render, toJson, renderAt, renderItems_eq_map]
  exact mem_enclose (List.mem_map_of_mem (List.mem_map_of_mem member)) entry

theorem encodable_iff :
    (∃ bytes, Utf8.encodePoints (toJson report).renderArtifact = .ok bytes) ↔ ∀ e ∈ report, e.Scalar := by
  simp only [Utf8.encodePoints_eq_ok_iff, exists_and_left, exists_eq, and_true]
  constructor
  · intro scalar e member
    have fine {p : CodePoint} (inside : p ∈ e.file ∨ p ∈ e.content ∨ p ∈ e.message) :
        p.isSurrogate = false := by
      by_contra surrogate
      have there := mem_renderArtifact member (by simpa using surrogate) inside
      exact surrogate (scalar p there)
    exact ⟨fun p inside => fine (.inl inside), fun p inside => fine (.inr (.inl inside)),
      fun p inside => fine (.inr (.inr inside))⟩
  · intro scalar p member
    rcases List.mem_append.mp member with inside | last
    · exact (legible_toJson scalar).scalar_renderAt .artifact 0 p inside
    · obtain rfl := List.mem_singleton.mp last
      decide

/-- A report of characters with nothing left empty has a text with an encoding. -/
theorem exists_encoded (fit : ∀ e ∈ report, e.Fit) (scalar : ∀ e ∈ report, e.Scalar) :
    ∃ text bytes, serialize report = .ok text ∧ Utf8.encodePoints text = .ok bytes := by
  obtain ⟨bytes, coded⟩ := encodable_iff.mpr scalar
  exact ⟨_, bytes, serialize_eq_ok_iff.mpr ⟨fit, rfl⟩, coded⟩

/-- A complaint about a sample with both line ends, quotes and a character beyond the first plane. -/
def specimen (message : String) : Entry :=
  .ofBlock ⟨.relative, ["a.md"]⟩ "\"x\r\n\x5c𝄞\"" (codePoints message)

theorem fit_specimen {message : String} (some_ : message ≠ "") : (specimen message).Fit where
  file := codePoints_eq_nil.not.mpr (by decide)
  content := codePoints_eq_nil.not.mpr (by decide)
  message := codePoints_eq_nil.not.mpr some_

theorem scalar_specimen (message : String) : (specimen message).Scalar :=
  .ofBlock _ _ (isSurrogate_of_mem_codePoints message)

/-- A report with entries that differ in their messages alone. -/
def specimens : List Entry :=
  [specimen "bad", specimen "worse"]

theorem exists_encoded_specimens :
    ∃ text bytes, serialize specimens = .ok text ∧ Utf8.encodePoints text = .ok bytes := by
  refine exists_encoded (fun e member => ?_) (fun e member => ?_)
  · rcases List.mem_pair.mp member with rfl | rfl
    · exact fit_specimen (by decide)
    · exact fit_specimen (by decide)
  · rcases List.mem_pair.mp member with rfl | rfl
    · exact scalar_specimen _
    · exact scalar_specimen _

end Report
end FenceCheck
