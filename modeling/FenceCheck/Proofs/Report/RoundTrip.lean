import FenceCheck.Proofs.Json.RoundTrip
import FenceCheck.Proofs.Report.Effect
import FenceCheck.Proofs.Text.Utf8
import FenceCheck.Report.Contract

/-! A report that was written is read back. The text is printable but for line feeds, so reading it with
unified line ends changes nothing; and the schema looks at members by their names, so it accepts what is
read, in whatever order the members were written. -/
namespace FenceCheck

namespace Workspace
variable {w : Workspace} {p : Path}

theorem node_eq_ok_iff {n : Node} : w.node p = .ok n ↔ w.look p = some n := by
  rw [look]
  cases w.node p <;> simp [Except.toOption]

/-- Whoever opens a path to a text reads the text. -/
theorem readText_eq {mode : Nat} {text : List Char}
    (found : w.look p = some (.file mode (Text.Utf8.encode text))) (none_ : '\r' ∉ text) :
    w.readText p = .ok text := by
  rw [readText, readBytes, node_eq_ok_iff.mpr found]
  simp [Text.Utf8.decode_encode, Text.unifyLineEnds_eq_self none_]

/-- Where no path leads there is no text. -/
theorem readText_ne_ok (lost : w.look p = none) (text : List Char) : w.readText p ≠ .ok text := by
  rw [look] at lost
  intro read
  cases found : w.node p with
  | ok n => simp [found, Except.toOption] at lost
  | error f => simp [readText, readBytes, found] at read

end Workspace

namespace Report
open Workspace FenceCheck.Text

theorem EntryConforms.of_same {v w : Json} (conforms : EntryConforms w) (same : Json.Same v w) :
    EntryConforms v := by
  cases same with
  | @object members others bound values =>
    obtain ⟨known, strings⟩ := conforms
    refine ⟨fun m member => ?_, fun k key => ?_⟩
    · have there : Json.lookup m.1 others ≠ none := by
        rw [ne_eq, ← bound, Json.lookup_eq_none_iff, not_not]
        exact List.mem_map.mpr ⟨m, member, rfl⟩
      obtain ⟨v, found⟩ := Option.ne_none_iff_exists'.mp there
      exact known (m.1, v) (Json.mem_of_lookup found)
    · obtain ⟨s, found, some_⟩ := strings k key
      have there : Json.lookup (codePoints k) members ≠ none := by simp [bound, found]
      obtain ⟨v, found'⟩ := Option.ne_none_iff_exists'.mp there
      cases values _ v _ found' found
      exact ⟨s, found', some_⟩
  | _ => exact conforms

theorem Conforms.of_same {v w : Json} (conforms : Conforms w) (same : Json.Same v w) :
    Conforms v := by
  cases same with
  | @array items others lengths values =>
    intro v member
    obtain ⟨i, there⟩ := List.mem_iff_getElem?.mp member
    have inside : i < others.length := by
      rw [← lengths]
      exact (List.getElem?_eq_some_iff.mp there).1
    have there' := List.getElem?_eq_getElem inside
    exact (conforms _ (List.getElem_mem inside)).of_same (values i _ _ there there')
  | _ => exact conforms

section Written
variable {report : List Entry} {text : List CodePoint} {bytes : List UInt8}

theorem legible_of_encoded (serialized : serialize report = .ok text)
    (coded : Utf8.encodePoints text = .ok bytes) : (toJson report).Legible Json.depthLimit := by
  obtain ⟨_, rfl⟩ := serialize_eq_ok_iff.mp serialized
  exact legible_toJson (encodable_iff.mp ⟨bytes, coded⟩)

/-- A text without an encoding is not written. -/
theorem run_of_uncoded {job : Writing} {f : Fault} (uncoded : job.encoded = .error f) (w : Workspace)
    (umask : Nat) : ∃ u f', job.run w umask = (u, .error f') := by
  obtain ⟨e, _, rfl⟩ := eq_notEncoded_of_encoded uncoded
  rw [Writing.run, Writing.advanceBy, Writing.advance]
  cases w.makeDirectories job.out.parent umask with
  | mk v made =>
    cases made with
    | error f => exact ⟨v, f, by simp⟩
    | ok _ =>
      dsimp only
      rw [Writing.advanceBy, Writing.advance]
      rcases create_cases job v job.tokens with ⟨f, failed⟩ | ⟨token, _, u, place, _, created⟩
      · exact ⟨v, f, by simp [failed]⟩
      · simp only [created]
        rw [Writing.advanceBy, Writing.advance, uncoded]
        exact ⟨u, .notEncoded e, by simp [Stage.meet, Fault.isRefusal]⟩

/-- A report that was written has no surrogates in it. -/
theorem scalar_of_written {w u : Workspace} {tokens : List String} {out p : Path} {umask : Nat}
    (written : writeReport w tokens report out umask = (u, .ok p)) : ∀ e ∈ report, e.Scalar := by
  rw [writeReport] at written
  cases given : Writing.ofReport report out tokens with
  | error e => simp [given] at written
  | ok job =>
    obtain ⟨text, serialized, rfl⟩ := ofReport_eq_ok_iff.mp given
    obtain ⟨_, rfl⟩ := serialize_eq_ok_iff.mp serialized
    refine encodable_iff.mp ?_
    cases coded : Writing.encoded ⟨out, (toJson report).renderArtifact, tokens⟩ with
    | ok bytes => exact ⟨bytes, ok_of_mapError coded⟩
    | error f =>
      obtain ⟨v, f', ran⟩ := run_of_uncoded coded w umask
      simp [given, ran] at written

theorem read_serialize (serialized : serialize report = .ok text)
    (coded : Utf8.encodePoints text = .ok bytes) :
    ∃ value, Json.read (ofCodePoints text) = .ok value ∧ value.Same (toJson report) := by
  have legible := legible_of_encoded serialized coded
  obtain ⟨_, rfl⟩ := serialize_eq_ok_iff.mp serialized
  exact ⟨_, legible.read_renderArtifact, legible.ordered_same⟩

end Written

/-- The schema of reports is among those that are installed. -/
theorem checkNamed_schemaName (v : Json) (validator : Validator := installed) :
    checkNamed schemaName v validator = checkSchema schemaName v validator := by
  have path : schemaFile schemaName = ⟨.relative, ["snippetctl.report.v1.schema.json"]⟩ := by decide
  have plain : FileTree.Plain "snippetctl.report.v1.schema.json" := by constructor <;> decide
  have there : installation.place true (schemaFile schemaName) =
      some (schemaDirectory ++ ["snippetctl.report.v1.schema.json"]) := by
    rw [path]
    refine place_eq_some.mpr ⟨.taken _, spot_eq_ok.mpr ⟨by decide, by decide, ?_⟩, rfl⟩
    refine (FileTree.walk_down rfl plain rfl (by simp)).trans ?_
    rw [FileTree.walk]
    rfl
  have found : installation.node (schemaFile schemaName) = .ok (.file 0o644 []) := by
    rw [node_eq_ok_iff, look_eq, there]
    rfl
  have installed : installation.isFile (schemaFile schemaName) = .ok true := by
    rw [isFile, isKind, found]
  rw [checkNamed, installed]

/-- Whoever opens a path to the text of a report reads the report, and it passes the check. -/
theorem readText_of_serialize {u : Workspace} {out : Path} {report : List Entry} {text : List CodePoint}
    {bytes : List UInt8} {mode : Nat} (serialized : serialize report = .ok text)
    (coded : Utf8.encodePoints text = .ok bytes) (found : u.look out = some (.file mode bytes)) :
    u.readText out = .ok (chars text) ∧ (∃ value, Json.read (ofCodePoints text) = .ok value ∧
      value.Same (toJson report)) ∧ checkFile u schemaName out = .ok () := by
  obtain ⟨_, rfl⟩ := Utf8.encodePoints_eq_ok_iff.mp coded
  have noReturn : '\r' ∉ chars text := by
    have legible := legible_of_encoded serialized coded
    obtain ⟨_, rfl⟩ := serialize_eq_ok_iff.mp serialized
    simpa [ofCodePoints, chars] using legible.no_return
  have read := readText_eq found noReturn
  obtain ⟨value, parsed, same⟩ := read_serialize serialized coded
  refine ⟨read, ⟨value, parsed, same⟩, ?_⟩
  have conforms : Conforms value :=
    (conforms_toJson_iff.mpr (serialize_eq_ok_iff.mp serialized).1).of_same same
  rw [ofCodePoints] at parsed
  simp only [checkFile, read, chars, parsed]
  rw [checkNamed_schemaName]
  exact checkSchema_eq_ok_iff.mpr conforms

/-- A report that was written is what is read at its path, to the character, and it passes the check
against its schema; as long as no link was replaced that was on the way there. -/
theorem written_report_read_back (w : Workspace) (tokens : List String) (report : List Entry)
    (text : String) (umask : Nat) (path : Path) :
    let out := Path.ofText text
    let v := (w.makeDirectories out.parent umask).1
    let u := (writeReport w tokens report out umask).1
    Clear v out → (writeReport w tokens report out umask).2 = .ok path →
    path = out ∧ ∃ content value, u.readText out = .ok content ∧
      Json.read (String.ofList content) = .ok value ∧ value.Same (toJson report) ∧
      checkFile u schemaName out = .ok () := by
  intro out v u clear done
  rcases writeReport_cases w tokens report (dot_not_mem_ofText text) umask with
    ⟨e, _, given⟩ | ⟨written, serialized, ⟨u', f, _, _, given⟩ | ⟨u', t, e, _, _, given⟩ |
      ⟨u', l, mode, bytes, placed, given⟩⟩
  · simp [out, given] at done
  · simp [out, given] at done
  · simp [out, given] at done
  · obtain rfl : out = path := by simpa [out, given] using done
    have after : u = u' := congrArg Prod.fst given
    obtain ⟨read, ⟨value, parsed, same⟩, checked⟩ :=
      readText_of_serialize serialized (ok_of_mapError placed.coded) (placed.look_eq clear).2
    rw [after]
    exact ⟨rfl, chars written, value, read, parsed, same, checked⟩

/-- A path is clear where there is no link at all. -/
theorem clear_of_no_link {w : Workspace} (noLink : ∀ l target, w.tree.get? l ≠ some (.link target))
    (out : Path) : Clear w out :=
  fun l target _ link => absurd link (noLink l target)

/-- The way to the report in the attic is clear once its directory is there. -/
theorem clear_attic : Clear ((attic []).makeDirectories (Path.ofText "new/../old").parent).1
    (Path.ofText "new/../old") := by
  refine clear_of_no_link (fun l target link => ?_) _
  rcases (makeDirectories_paved (attic []) (Path.ofText "new/../old").parent usualMask).kept l with
    same | ⟨_, made, _⟩
  · have there : (attic []).tree.get? l = some (.link target) := same.symm.trans link
    simp only [attic, FileTree.get?, List.lookup_cons] at there
    split at there
    · simp at there
    · split at there <;> simp at there
  · have both := made.symm.trans link
    simp at both

theorem written_report_read_back_attic :
    let out := Path.ofText "new/../old"
    let v := ((attic []).makeDirectories out.parent).1
    let u := (writeReport (attic []) ["token"] specimens out).1
    Clear v out ∧ (writeReport (attic []) ["token"] specimens out).2 = .ok out ∧
      ∃ content value, u.readText out = .ok content ∧
        Json.read (String.ofList content) = .ok value ∧ value.Same (toJson specimens) ∧
        checkFile u schemaName out = .ok () := by
  intro out v u
  obtain ⟨text, bytes, serialized, coded⟩ := exists_encoded_specimens
  have done : (writeReport (attic []) ["token"] specimens out).2 = .ok out :=
    congrArg Prod.snd (writeReport_attic 0o644 serialized coded)
  exact ⟨clear_attic, done, (written_report_read_back _ _ _ _ _ _ clear_attic done).2⟩

/-- A report that replaced a link on its way cannot be read at its path. -/
theorem written_report_lost :
    let out := Path.ofText "self/self"
    let u := (writeReport (mirror []) ["token"] [] out).1
    (writeReport (mirror []) ["token"] [] out).2 = .ok out ∧
      (∀ content, u.readText out ≠ .ok content) ∧ checkFile u schemaName out ≠ .ok () := by
  intro out u
  have given := writeReport_mirror
  have lost : u.look out = none := by
    rw [show u = _ from congrArg Prod.fst given]
    exact look_mirror 0o755 emptyReport
  have unread := readText_ne_ok lost
  refine ⟨congrArg Prod.snd given, unread, ?_⟩
  cases read : u.readText out with
  | ok content => exact absurd read (unread content)
  | error f => cases f <;> simp [checkFile, read]

end Report
end FenceCheck
