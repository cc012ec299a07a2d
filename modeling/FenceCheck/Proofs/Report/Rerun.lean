import FenceCheck.Proofs.FileTree.Entries
import FenceCheck.Proofs.Report.Documents
import FenceCheck.Proofs.Report.RoundTrip

/-! A run that succeeded can be made again, and nothing changes any more. What the first run left differs
from what it found in the report alone, so each document is read as before; and the report stands in a
directory that is there, at a place that takes a file, next to which a fresh file could be made. -/
namespace FenceCheck.Report
open Workspace FenceCheck.Text

/-- A token as it is drawn for the name of a fresh file: eight small letters, digits or low lines. -/
structure Drawn (token : String) : Prop where
  size : token.utf8ByteSize = 8
  letters : ∀ c ∈ token.toList, c.isLower = true ∨ c.isDigit = true ∨ c = '_'

/-- No file has the name that the fresh file gets by a token. -/
def Unused (w : Workspace) (out : Path) (token : String) : Prop :=
  ∀ l, w.place false (Writing.temporary ⟨out, [], []⟩ w token) = some l → w.tree.get? l = none

section Names
variable {w : Workspace} {job : Writing} {token other : String} {s : Spot}

theorem Drawn.noNul (drawn : Drawn token) : token.toList.contains '\x00' = false := by
  have letter : ¬ ('\x00'.isLower = true ∨ '\x00'.isDigit = true ∨ '\x00' = '_') := by decide
  simpa using fun member => letter (drawn.letters _ member)

/-- The path of a fresh file with its name in front of the token and behind it. -/
theorem exists_temporary (job : Writing) (w : Workspace) : ∃ front : String,
    ∀ token, job.temporary w token = (absolute w job.out.parent).child (front ++ token ++ ".tmp") ∧
      front ++ token ++ ".tmp" ≠ "." ∧ front ++ token ++ ".tmp" ≠ ".." := by
  refine ⟨"." ++ job.out.name ++ ".", fun token => ⟨rfl, ?_, ?_⟩⟩
  · intro same
    have lengths := congrArg String.length same
    have suffix : ".tmp".length = 4 := rfl
    have dot : ".".length = 1 := rfl
    simp only [String.length_append] at lengths
    omega
  · intro same
    have lengths := congrArg String.length same
    have suffix : ".tmp".length = 4 := rfl
    have dots : "..".length = 2 := rfl
    simp only [String.length_append] at lengths
    omega

/-- Where a fresh file has a place by one token it has a place by each. -/
theorem spot_temporary (drawn : Drawn token) (drawn' : Drawn other)
    (found : w.spot false (job.temporary w token) = .ok s) :
    ∃ s', w.spot false (job.temporary w other) = .ok s' := by
  obtain ⟨front, named⟩ := exists_temporary job w
  obtain ⟨path, notDot, notDots⟩ := named token
  obtain ⟨path', notDot', notDots'⟩ := named other
  obtain ⟨clean, short, walked⟩ := spot_eq_ok.mp found
  rw [path] at clean short walked
  rw [path']
  -- the two names are of the same size, so neither they nor their paths are too long
  have sizes : (front ++ other ++ ".tmp").utf8ByteSize = (front ++ token ++ ".tmp").utf8ByteSize := by
    simp only [String.utf8ByteSize_append, drawn.size, drawn'.size]
  obtain ⟨start, text⟩ := (absolute w job.out.parent).exists_text_child
  have plain : FileTree.Plain (front ++ other ++ ".tmp") := by
    obtain ⟨_, _, _, _, plain, _⟩ := FileTree.walk_last notDot notDots walked
    exact ⟨notDot', notDots', by rw [sizes]; exact plain.short⟩
  obtain ⟨s', walked'⟩ := FileTree.walk_sibling notDot notDots plain walked
  refine ⟨s', spot_eq_ok.mpr ⟨?_, ?_, walked'⟩⟩
  · simp only [Path.hasNul_child, String.toList_append, List.contains_append,
      Bool.or_eq_false_iff] at clean ⊢
    exact ⟨clean.1, ⟨clean.2.1.1, drawn'.noNul⟩, clean.2.2⟩
  · rw [text, String.utf8ByteSize_append, sizes, ← String.utf8ByteSize_append, ← text]
    exact short

theorem vacant_of_unused (unused : Unused w job.out token)
    (found : w.spot false (job.temporary w token) = .ok s) : s = .vacant s.location := by
  obtain ⟨front, named⟩ := exists_temporary job w
  obtain ⟨path, notDot, notDots⟩ := named token
  have free := unused s.location (place_eq_some.mpr ⟨s, found, rfl⟩)
  obtain ⟨_, _, walked⟩ := spot_eq_ok.mp found
  rw [path] at walked
  have vacant := FileTree.walk_free_entry notDot notDots walked free false
  exact Except.ok.inj (walked.symm.trans vacant)

end Names

section Writing
variable {w v u : Workspace} {job : Writing} {umask mode : Nat} {out : Path} {l : Location}
variable {t : Temporary} {bytes : List UInt8}

/-- Where each name has a place and one of the places is free, a fresh file is made. -/
theorem create_of_unused {tokens : List String}
    (fits : ∀ token ∈ tokens, ∃ s, w.spot false (job.temporary w token) = .ok s)
    (unused : ∃ token ∈ tokens, Unused w job.out token) :
    ∃ v t, job.create w tokens = (v, .created t) := by
  induction tokens with
  | nil => simp at unused
  | cons token more ih =>
    obtain ⟨s, found⟩ := fits token List.mem_cons_self
    cases s with
    | vacant l =>
      simp only [Writing.create, createFile, found, ok_bind]
      exact ⟨_, _, rfl⟩
    | taken l =>
      have present : w.createFile (job.temporary w token) privateMode =
          .error (refused (job.temporary w token) .exists) := by
        simp [createFile, found]
      simp only [Writing.create, present, refused, if_true]
      refine ih (fun other member => fits other (List.mem_cons_of_mem token member)) ?_
      obtain ⟨other, member, free⟩ := unused
      rcases List.mem_cons.mp member with rfl | later
      · have vacant := vacant_of_unused free found
        contradiction
      · exact ⟨other, later, free⟩

/-- A path to an entry where a file is or could be. -/
structure Open (w : Workspace) (out : Path) (l : Location) : Prop where
  there : w.place false out = some l
  entry : namesEntry out = true
  noDot : "." ∉ out.parts
  closed : w.tree.passage l = .closed

theorem Open.vacant (open_ : Open w out l) (free : w.tree.get? l = none) (follow : Bool) :
    w.spot follow out = .ok (.vacant l) := by
  obtain ⟨s, found, rfl⟩ := place_eq_some.mp open_.there
  obtain ⟨clean, short, walked⟩ := spot_eq_ok.mp found
  have entry := open_.entry
  simp only [namesEntry] at entry
  cases named : out.parts.getLast? with
  | none => simp [named] at entry
  | some name =>
    obtain ⟨front, split⟩ := List.getLast?_eq_some_iff.mp named
    have notDots : name ≠ ".." := by simpa [named] using entry
    have notDot : name ≠ "." := by
      rintro rfl
      exact open_.noDot (by simp [split])
    refine spot_eq_ok.mpr ⟨clean, short, ?_⟩
    rw [split] at walked ⊢
    exact FileTree.walk_free_entry notDot notDots walked free follow

/-- The permissions of a report that is or could be there can be told. -/
theorem Open.exists_mode (open_ : Open w job.out l) : ∃ mode, job.mode w umask = .ok mode := by
  rcases FileTree.passage_closed.mp open_.closed with free | ⟨mode, bytes, file⟩
  · refine ⟨freshMode umask, ?_⟩
    simp [Writing.mode, node, find_eq, open_.vacant free, Except.bind, refused]
  · refine ⟨mode, ?_⟩
    have found := find_of_place (place_true_of_file open_.there file) file
    simp [Writing.mode, node, found, file]

/-- A fresh file beside the report leaves the report's path open. -/
theorem Holding.opens (holding : Holding job v t mode bytes u) (open_ : Open v job.out l) :
    Open u job.out l ∧ t.place ≠ l := by
  have beside := @beside_temporaries Unit (fun _ => job) job.out (fun _ => rfl) v
  have other : t.place ≠ l := by
    rintro rfl
    exact beside.apart open_.noDot open_.entry open_.there t.path holding.temp holding.there
  refine ⟨⟨?_, open_.entry, open_.noDot, ?_⟩, other⟩
  · rw [holding.place_eq, open_.there]
  · rw [← open_.closed, FileTree.passage, FileTree.passage, holding.held.elsewhere l other.symm]

theorem Holding.rename (holding : Holding job v t mode bytes u) (open_ : Open v job.out l) :
    ∃ u', u.rename t.path job.out = .ok u' := by
  obtain ⟨opens, other⟩ := holding.opens open_
  have source := spot_of_place (holding.place_temporary false) holding.held.here
  obtain ⟨s, target, rfl⟩ := place_eq_some.mp opens.there
  have file : u.tree.get? (Spot.taken t.place).location = some (.file mode bytes) := holding.held.here
  have outside : u.tree.isDirectoryAt s.location = false := by
    rw [← Bool.not_eq_true, ← FileTree.passage_directory, opens.closed]
    simp
  rw [rename_eq source target, file]
  simp [opens.entry, outside]

/-- In a directory that is there, the writing of a text with an encoding to an open path is done as soon as
a fresh file can be made. -/
theorem done_of_open (directory : v.isDirectory job.out.parent = .ok true) (open_ : Open v job.out l)
    (coded : job.encoded = .ok bytes)
    (fits : ∀ token ∈ job.tokens, ∃ s, v.spot false (job.temporary v token) = .ok s)
    (unused : ∃ token ∈ job.tokens, Unused v job.out token) :
    ∃ u, job.advanceBy 6 v .start umask = (u, .done) := by
  obtain ⟨v', t', created'⟩ := create_of_unused fits unused
  rcases create_cases job v job.tokens with ⟨f, failed⟩ | ⟨token, member, u, place, made, created⟩
  · simp [created'] at failed
  obtain ⟨there, free, rfl⟩ := createFile_ok made
  have empty := (Patched.refl v place).put (FileTree.ne_root free) (.file privateMode [])
  have holding : Holding job v ⟨job.temporary v token, place⟩ privateMode []
      (v.put place (.file privateMode [])) := ⟨⟨(), token, member, rfl⟩, there, free, empty⟩
  have written := holding.rewrite privateMode bytes
  obtain ⟨mode, given⟩ : ∃ mode, job.mode _ umask = .ok mode := (written.opens open_).1.exists_mode
  have ready := written.rewrite mode bytes
  obtain ⟨u', renamed⟩ := ready.rename open_
  refine ⟨u', ?_⟩
  simp only [Writing.advanceBy, Writing.advance, makeDirectories_of_directory directory, created, coded,
    fill_file holding.held.here, given, ok_bind,
    setMode_file (written.place_temporary true) written.held.here, renamed, Writing.proceed]

/-- A writing that is done made a fresh file by one of its tokens, in the directories that it made. -/
theorem exists_token_of_done (done : job.advanceBy 6 w .start umask = (u, .done)) :
    ∃ token ∈ job.tokens, ∃ s, (w.makeDirectories job.out.parent umask).1.spot false
      (job.temporary (w.makeDirectories job.out.parent umask).1 token) = .ok s := by
  rw [Writing.advanceBy, Writing.advance] at done
  cases made : w.makeDirectories job.out.parent umask with
  | mk v r =>
    rw [made] at done
    cases r with
    | error f =>
      simp at done
    | ok _ =>
      dsimp only at done ⊢
      rw [Writing.advanceBy, Writing.advance] at done
      rcases create_cases job v job.tokens with ⟨f, refused⟩ | ⟨token, member, _, place, made, _⟩
      · rw [refused] at done
        simp at done
      · obtain ⟨there, _⟩ := createFile_ok made
        obtain ⟨s, found, _⟩ := place_eq_some.mp there
        exact ⟨token, member, s, found⟩

/-- A report was written if its writing is done. -/
theorem writeReport_eq_ok_iff {tokens : List String} {report : List Entry} {p : Path}
    (noDot : "." ∉ out.parts) : writeReport w tokens report out umask = (u, .ok p) ↔
      p = out ∧ ∃ text, serialize report = .ok text ∧
        Writing.advanceBy ⟨out, text, tokens⟩ 6 w .start umask = (u, .done) := by
  simp only [writeReport, Writing.ofReport]
  cases serialized : serialize report with
  | error e => simp
  | ok text =>
    have closing := closing_of_run ⟨out, text, tokens⟩ w noDot umask
    simp only [ok_bind, pure_eq, Writing.run, Except.ok.injEq, exists_eq_left']
    cases closed : Writing.advanceBy ⟨out, text, tokens⟩ 6 w .start umask with
    | mk v s =>
      rw [closed] at closing
      cases closing with
      | failed cwd same => simp
      | abandoned coded holding => simp
      | done placed =>
        simp only [Prod.mk.injEq, Except.ok.injEq, and_true]
        constructor
        · rintro ⟨rfl, rfl⟩
          exact ⟨rfl, rfl⟩
        · rintro ⟨rfl, rfl⟩
          exact ⟨rfl, rfl⟩

namespace Placed
variable {job' : Writing} {mode' : Nat} {bytes' : List UInt8} {u' : Workspace} {m : Location} {p : Path}
variable (placed : Placed job umask w l mode bytes u) (closed : w.tree.passage l = .closed)
include placed closed

/-- A path to another place than that of the report shows what it showed. -/
theorem look_of_other (other : w.place true p ≠ some l) : u.look p = w.look p :=
  placed.patched.look_eq closed.symm other

theorem opens (noDot : "." ∉ job.out.parts) : Open u job.out l := by
  refine ⟨?_, placed.entry, noDot, FileTree.passage_closed.mpr (Or.inr ⟨_, _, placed.patched.here⟩)⟩
  rw [placed.patched.place_eq closed.symm, placed.there]

/-- What was a directory is one still, since no directory stood at the report's place. -/
theorem isDirectory (directory : w.isDirectory p = .ok true) : u.isDirectory p = .ok true := by
  obtain ⟨n, shown, inside⟩ := isKind_true_iff_look.mp directory
  refine isKind_true_iff_look.mpr ⟨n, ?_, inside⟩
  rw [placed.look_of_other closed, shown]
  intro here
  rw [Workspace.look_eq, here, Option.bind_some] at shown
  rcases FileTree.passage_closed.mp closed with free | ⟨mode, bytes, file⟩
  · rw [free] at shown
    contradiction
  · obtain rfl := Option.some.inj (file.symm.trans shown)
    contradiction

/-- The report does not have the name of a fresh file, so names that were not taken are not taken now. -/
theorem unused {token : String} (noDot : "." ∉ job.out.parts) (unused : Unused w job.out token) :
    Unused u job.out token := by
  intro m there
  rw [placed.patched.place_eq closed.symm, temporary_congr _ placed.patched.cwd] at there
  have beside := @beside_temporaries Unit (fun _ => ⟨job.out, [], [token]⟩) job.out (fun _ => rfl) w
  have other : m ≠ l := by
    rintro rfl
    exact beside.apart noDot placed.entry placed.there _ ⟨(), token, List.mem_singleton_self _, rfl⟩ there
  rw [placed.patched.elsewhere m other]
  exact unused m there

/-- A report that is put in the place of an equal one changes nothing, for it keeps the permissions. -/
theorem same_again (placed' : Placed job' umask u m mode' bytes' u') (sameOut : job'.out = job.out)
    (sameText : job'.text = job.text) (noDot : "." ∉ job.out.parts) :
    u'.cwd = u.cwd ∧ ∀ m, u'.tree.get? m = u.tree.get? m := by
  have coded' := placed'.coded
  rw [Writing.encoded, sameText, ← Writing.encoded, placed.coded] at coded'
  obtain rfl := Except.ok.inj coded'
  have opens := placed.opens closed noDot
  have there := placed'.there
  rw [sameOut, opens.there] at there
  obtain rfl := Option.some.inj there
  have followed := place_true_of_file opens.there placed.patched.here
  have shown : u.look job'.out = some (.file mode bytes) := by
    rw [sameOut, Workspace.look_eq, followed]
    exact placed.patched.here
  have kept : mode' = mode := by
    refine (placed'.kept ?_).trans (congrArg (permissions umask) shown)
    intro m there free
    rw [sameOut, followed] at there
    obtain rfl := Option.some.inj there
    rw [placed.patched.here] at free
    contradiction
  have restored : Patched u l (u.tree.get? l) u' := by
    rw [placed.patched.here, ← kept]
    exact placed'.patched
  exact ⟨restored.cwd, restored.get?_eq⟩

end Placed

/-- A report that was written in a directory that was there stands in its place, and the fresh file had
a place by one of the tokens. -/
theorem placed_of_done (noDot : "." ∉ job.out.parts)
    (directory : w.isDirectory job.out.parent = .ok true)
    (done : job.advanceBy 6 w .start umask = (u, .done)) :
    (∃ l mode bytes, Placed job umask w l mode bytes u) ∧
      ∃ token ∈ job.tokens, ∃ s, w.spot false (job.temporary w token) = .ok s := by
  have token := exists_token_of_done done
  have closing := closing_of_run job w noDot umask
  rw [makeDirectories_of_directory directory] at token closing
  rw [done] at closing
  cases closing with
  | done placed => exact ⟨⟨_, _, _, placed⟩, token⟩

/-- A report that was written can be written again, and nothing changes any more. -/
theorem writeReport_again {tokens tokens' : List String} {report : List Entry}
    (noDot : "." ∉ out.parts) (written : writeReport w tokens report out umask = (u, .ok out))
    (directory : w.isDirectory out.parent = .ok true) (there : w.place false out = some l)
    (closed : w.tree.passage l = .closed) (drawn : ∀ token ∈ tokens ++ tokens', Drawn token)
    (unused : ∃ token ∈ tokens', Unused w out token) :
    (∀ p, w.place true p ≠ some l → u.look p = w.look p) ∧
      ∃ u', writeReport u tokens' report out umask = (u', .ok out) ∧ u'.cwd = u.cwd ∧
        ∀ m, u'.tree.get? m = u.tree.get? m := by
  obtain ⟨_, content, serialized, done⟩ := (writeReport_eq_ok_iff noDot).mp written
  obtain ⟨⟨l', mode, bytes, placed⟩, token, member, s, found⟩ := placed_of_done noDot directory done
  obtain rfl : l' = l := Option.some.inj (placed.there.symm.trans there)
  refine ⟨fun p => placed.look_of_other closed, ?_⟩
  let job : Writing := ⟨out, content, tokens'⟩
  have fits : ∀ other ∈ tokens', ∃ s, u.spot false (job.temporary u other) = .ok s := by
    intro other member'
    have at_ := place_eq_some.mpr ⟨s, found, rfl⟩
    rw [← placed.patched.place_eq closed.symm, temporary_congr _ placed.patched.cwd.symm] at at_
    obtain ⟨s', found', _⟩ := place_eq_some.mp at_
    exact spot_temporary (drawn token (by simp [member])) (drawn other (by simp [member'])) found'
  have unused' : ∃ other ∈ tokens', Unused u out other := by
    obtain ⟨other, member', unused⟩ := unused
    exact ⟨other, member', placed.unused closed noDot unused⟩
  have directory' := placed.isDirectory closed directory
  obtain ⟨u', done'⟩ : ∃ u', job.advanceBy 6 u .start umask = (u', .done) :=
    done_of_open directory' (placed.opens closed noDot) placed.coded fits unused'
  obtain ⟨⟨m, mode', _, placed'⟩, _⟩ := placed_of_done noDot directory' done'
  refine ⟨u', (writeReport_eq_ok_iff noDot).mpr ⟨rfl, content, serialized, done'⟩, ?_⟩
  exact placed.same_again closed placed' rfl rfl noDot

end Writing

section Reading
variable {w v u : Workspace} {plan : Plan} {paths : List Path} {p : Path}

/-- What a path shows decides whether a text is read. -/
theorem readText_congr (same : u.look p = w.look p) {text : List Char} (read : w.readText p = .ok text) :
    u.readText p = .ok text := by
  cases found : w.node p with
  | error f => simp [readText, readBytes, found] at read
  | ok n =>
    have found' : u.node p = .ok n := by
      rw [node_eq_ok_iff, same, ← node_eq_ok_iff, found]
    simpa [readText, readBytes, found, found'] using read

/-- Where all paths show what they showed, documents are read as they were. -/
theorem reads_congr (same : ∀ p ∈ paths, u.look p = w.look p) {policy : ReadPolicy}
    {documents : List Document} (read : reads w policy paths = .ok documents) :
    reads u policy paths = .ok documents := by
  induction paths generalizing documents with
  | nil => exact read
  | cons p rest ih =>
    have later := fun documents => @ih (fun q member => same q (List.mem_cons_of_mem p member)) documents
    have same := same p List.mem_cons_self
    cases text : w.readText p with
    | ok text' =>
      have text' := readText_congr same text
      simp only [reads, readDocument_of_text text, readDocument_of_text text'] at read ⊢
      cases others : reads w policy rest with
      | error e => simp [others] at read
      | ok more => rwa [later more others, ← others]
    | error f =>
      have named : p.hasNul = false := by
        cases clean : p.hasNul with
        | false => rfl
        | true =>
          have refused : readDocument w policy p = Trace.fail (.fault .nulInName) := by
            simp [readDocument, Document.read, readText, readBytes, node, find, clean, isUnreadable]
          simp [reads, refused] at read
      cases policy with
      | abort => simp [reads, readDocument_abort text named] at read
      | skip =>
        obtain ⟨f', text'⟩ : ∃ f', u.readText p = .error f' := by
          cases text' : u.readText p with
          | error f' => exact ⟨f', rfl⟩
          | ok _ =>
            rw [readText_congr same.symm text'] at text
            contradiction
        simp only [reads, readDocument_skip text named, readDocument_skip text' named] at read ⊢
        exact later documents read

/-- A collection that succeeded comes to the same where all paths show what they showed. -/
theorem collect_congr (same : ∀ p ∈ paths, u.look p = w.look p) {s : Summary}
    (collected : (collect w plan paths).outcome = .ok s) : (collect u plan paths).outcome = .ok s := by
  cases read : reads w plan.policy paths with
  | error e =>
    obtain ⟨e', failed⟩ := (collect_of_failure read).1
    rw [failed] at collected
    contradiction
  | ok documents => rwa [collect_of_reads (reads_congr same read), ← collect_of_reads read]

end Reading

theorem path_of_writeReport {w v : Workspace} {tokens : List String} {report : List Entry}
    {out p : Path} {umask : Nat} (written : writeReport w tokens report out umask = (v, .ok p)) :
    p = out := by
  unfold writeReport at written
  split at written
  · simp at written
  · split at written
    · simpa using (congrArg Prod.snd written).symm
    · simp at written

section Runs
variable {w v : Workspace} {tokens : List String} {plan : Plan} {paths : List Path} {out : Path}
variable {umask : Nat}

theorem run_of_written {s : Summary} (collected : (collect w plan paths).outcome = .ok s) {p : Path}
    (written : writeReport w tokens s.report out umask = (v, .ok p)) :
    (run w tokens plan paths out umask).1 = v ∧
      (run w tokens plan paths out umask).2.outcome = .ok s.report := by
  simp [run, scan, collected, written]

theorem written_of_run {report : List Entry}
    (succeeded : (run w tokens plan paths out umask).2.outcome = .ok report) :
    ∃ s, (collect w plan paths).outcome = .ok s ∧ s.report = report ∧
      writeReport w tokens report out umask = ((run w tokens plan paths out umask).1, .ok out) := by
  simp only [run, Trace.outcome_bind, Trace.outcome_pure] at succeeded ⊢
  rcases scan_cases w tokens plan paths out umask with
    ⟨e, _, scanned⟩ | ⟨s, collected, ⟨v, e, _, scanned⟩ | ⟨v, p, written, scanned⟩⟩
  · simp [scanned] at succeeded
  · simp [scanned] at succeeded
  · obtain rfl := path_of_writeReport written
    obtain rfl : s.report = report := by simpa [scanned] using succeeded
    exact ⟨s, collected, rfl, by rw [scanned, written]⟩

end Runs

/-- A run that succeeded, with its report in a directory that was there and at a place where nothing or a
file was, to which no document's path leads, can be made again at once: it succeeds with the same report,
and each file, directory and link is as the first run left it. What either run draws anew are the names of
its fresh files; the second run needs one that is not taken. -/
theorem run_again (w : Workspace) (plan : Plan) (paths : List Path) (text : String) (umask : Nat)
    (tokens tokens' : List String) (report : List Entry) (l : Location) :
    let out := Path.ofText text
    let first := run w tokens plan paths out umask
    let second := run first.1 tokens' plan paths out umask
    first.2.outcome = .ok report →
    w.isDirectory out.parent = .ok true → w.place false out = some l →
    (w.tree.get? l = none ∨ ∃ mode bytes, w.tree.get? l = some (.file mode bytes)) →
    (∀ p ∈ paths, w.place true p ≠ some l) →
    (∀ token ∈ tokens ++ tokens', Drawn token) → (∃ token ∈ tokens', Unused w out token) →
    second.2.outcome = .ok report ∧ second.1.cwd = first.1.cwd ∧
      ∀ m, second.1.tree.get? m = first.1.tree.get? m := by
  intro out first second succeeded directory there kind apart drawn unused
  obtain ⟨s, collected, rfl, written⟩ := written_of_run succeeded
  obtain ⟨look, u, written', sameCwd, same⟩ := writeReport_again (dot_not_mem_ofText text) written
    directory there (FileTree.passage_closed.mpr kind) drawn unused
  have collected' := collect_congr (fun p inside => look p (apart p inside)) collected
  obtain ⟨after, outcome⟩ := run_of_written collected' written'
  refine ⟨outcome, ?_⟩
  rw [show second.1 = u from after]
  exact ⟨sameCwd, same⟩

section Instance

section Top
variable {w : Workspace} (top : w.cwd = [])
include top

/-- A report in the directory at the top. -/
theorem open_top (free : w.tree.get? ["report.json"] = none) :
    Open w (Path.ofText "report.json") ["report.json"] := by
  have path : Path.ofText "report.json" = ⟨.relative, ["report.json"]⟩ := by decide
  have plain : FileTree.Plain "report.json" := by constructor <;> decide
  have vacant : w.spot false ⟨.relative, ["report.json"]⟩ = .ok (.vacant ["report.json"]) := by
    refine spot_eq_ok.mpr ⟨by decide, by decide, ?_⟩
    rw [top]
    exact FileTree.walk_free rfl plain free
  refine ⟨?_, by decide, dot_not_mem_ofText _, FileTree.passage_closed.mpr (Or.inl free)⟩
  rw [path]
  exact place_eq_some.mpr ⟨_, vacant, rfl⟩

theorem isDirectory_top : w.isDirectory (Path.ofText "report.json").parent = .ok true := by
  have path : (Path.ofText "report.json").parent = ⟨.relative, []⟩ := by decide
  have here : w.spot true ⟨.relative, []⟩ = .ok (.taken []) := by
    refine spot_eq_ok.mpr ⟨by decide, by decide, ?_⟩
    rw [top]
    exact FileTree.walk_here _ _ _ _
  refine isKind_true_iff_look.mpr ⟨.directory 0o755, ?_, rfl⟩
  rw [path, Workspace.look_eq, place, here]
  rfl

variable {token name : String}
variable (named : Writing.temporary ⟨Path.ofText "report.json", [], []⟩ ⟨⟨[]⟩, []⟩ token = ⟨.root, [name]⟩)
variable (plain : FileTree.Plain name) (clean : (Path.mk .root [name]).hasNul = false)
variable (short : ¬ FileTree.pathLimit < (Path.mk .root [name]).text.utf8ByteSize)
variable (fresh : w.tree.get? [name] = none)
include named plain clean short fresh

/-- The fresh file beside it. -/
theorem spot_temporary_top (job : Writing) (out : job.out = Path.ofText "report.json") :
    w.spot false (job.temporary w token) = .ok (.vacant [name]) := by
  have path : job.temporary w token = ⟨.root, [name]⟩ := by
    rw [← named, temporary_congr (v := ⟨⟨[]⟩, []⟩) job top, Writing.temporary, Writing.temporary, out]
  rw [path]
  exact spot_eq_ok.mpr ⟨clean, short, FileTree.walk_free rfl plain fresh⟩

theorem unused_top : Unused w (Path.ofText "report.json") token := by
  intro l there
  obtain ⟨s, found, rfl⟩ := place_eq_some.mp there
  rw [spot_temporary_top top named plain clean short fresh _ rfl] at found
  obtain rfl := Except.ok.inj found
  exact fresh

/-- A report of characters with nothing left empty can be written there. -/
theorem writeReport_top (free : w.tree.get? ["report.json"] = none) {report : List Entry}
    (fit : ∀ e ∈ report, e.Fit) (scalar : ∀ e ∈ report, e.Scalar) :
    ∃ u, writeReport w [token] report (Path.ofText "report.json") =
      (u, .ok (Path.ofText "report.json")) := by
  obtain ⟨content, bytes, serialized, coded⟩ := exists_encoded fit scalar
  let job : Writing := ⟨Path.ofText "report.json", content, [token]⟩
  have coded' : job.encoded = .ok bytes := by
    rw [Writing.encoded, coded, mapError_ok]
  have spotted := spot_temporary_top top named plain clean short fresh job rfl
  obtain ⟨u, done⟩ : ∃ u, job.advanceBy 6 w .start = (u, .done) := by
    refine done_of_open (isDirectory_top top) (open_top top free) coded' ?_
      ⟨_, List.mem_singleton_self _, unused_top top named plain clean short fresh⟩
    exact List.forall_mem_singleton.mpr ⟨_, spotted⟩
  exact ⟨u, (writeReport_eq_ok_iff (dot_not_mem_ofText _)).mpr ⟨rfl, content, serialized, done⟩⟩

end Top

theorem place_shelf : shelf.place true (Path.ofText "a.md") = some ["a.md"] := by
  have path : Path.ofText "a.md" = ⟨.relative, ["a.md"]⟩ := by decide
  have plain : FileTree.Plain "a.md" := by constructor <;> decide
  rw [path]
  refine place_eq_some.mpr ⟨.taken ["a.md"], spot_eq_ok.mpr ⟨by decide, by decide, ?_⟩, rfl⟩
  exact (FileTree.walk_down rfl plain rfl (by simp)).trans (FileTree.walk_here _ _ _ _)

theorem plain_fresh_shelf : FileTree.Plain ".report.json.abcdefgh.tmp" := by constructor <;> decide

theorem unused_shelf : Unused shelf (Path.ofText "report.json") "abcdefgh" :=
  unused_top rfl (by decide) plain_fresh_shelf (by decide) (by decide) rfl

theorem drawn_shelf : ∀ token ∈ ["abcdefgh"], Drawn token := by
  have letters : ("abcdefgh".toList.all Char.isLower) = true := by decide
  rw [List.forall_mem_singleton]
  exact ⟨by decide, fun c member => Or.inl (List.all_eq_true.mp letters c member)⟩

theorem collect_shelf :
    (collect shelf { language := "py", check := objector.check, jobs := 2 } [Path.ofText "a.md"]).outcome =
      .ok { report := [.ofBlock (Path.ofText "a.md") "x" (codePoints "bad x")], documents := 1, blocks := 1 } := by
  have path : Path.ofText "a.md" = ⟨.relative, ["a.md"]⟩ := by decide
  have text := readText_shelf
  have block := extract_shelf
  rw [path, @collect_of_settles shelf _ (objector.settles objector_steady)]
  generalize "```py\nx\n```\n".toList = words at text block
  simp [reads, readDocument_of_text text, Document.blocks, block, complaints, complaint_objector]

theorem writeReport_shelf : ∃ u, writeReport shelf ["abcdefgh"]
    [.ofBlock (Path.ofText "a.md") "x" (codePoints "bad x")] (Path.ofText "report.json") =
      (u, .ok (Path.ofText "report.json")) := by
  have fit : ∀ e ∈ [Entry.ofBlock (Path.ofText "a.md") "x" (codePoints "bad x")], e.Fit := by
    rw [List.forall_mem_singleton]
    constructor <;> decide
  exact writeReport_top rfl (by decide) plain_fresh_shelf (by decide) (by decide) rfl rfl fit
    (List.forall_mem_singleton.mpr (.ofBlock _ _ (isSurrogate_of_mem_codePoints _)))

/-- Two jobs, a document with a block that fails, and a report that was not there. -/
theorem run_again_shelf :
    let plan : Plan := { language := "py", check := objector.check, jobs := 2 }
    let out := Path.ofText "report.json"
    let first := run shelf ["abcdefgh"] plan [Path.ofText "a.md"] out
    let second := run first.1 ["abcdefgh"] plan [Path.ofText "a.md"] out
    let report := [Entry.ofBlock (Path.ofText "a.md") "x" (codePoints "bad x")]
    first.2.outcome = .ok report ∧ second.2.outcome = .ok report ∧
      ∀ m, second.1.tree.get? m = first.1.tree.get? m := by
  intro plan out first second report
  obtain ⟨u, written⟩ := writeReport_shelf
  have succeeded : first.2.outcome = .ok report := (run_of_written collect_shelf written).2
  have apart : ∀ p ∈ [Path.ofText "a.md"], shelf.place true p ≠ some ["report.json"] := by
    rw [List.forall_mem_singleton, place_shelf]
    decide
  obtain ⟨outcome, _, same⟩ := run_again shelf plan [Path.ofText "a.md"] "report.json" usualMask
    ["abcdefgh"] ["abcdefgh"] report ["report.json"] succeeded (isDirectory_top rfl) (open_top rfl rfl).there
    (Or.inl rfl) apart (by simpa using drawn_shelf) ⟨_, List.mem_singleton_self _, unused_shelf⟩
  exact ⟨succeeded, outcome, same⟩

end Instance

end FenceCheck.Report
