import FenceCheck.Proofs.Settings.Loading

/-! Which settings are answered: taken, or refused as an error of the configuration. A value that is out
of place is answered in nearly every case; the few others are named here, and so are the files that no
value can be read from. -/
namespace FenceCheck.Settings
open FenceCheck.Number

/-- A computation that gives its result, or an error of the configuration. -/
def Answered {α : Type} (r : Outcome α) : Prop :=
  (∃ a, r = .ok a) ∨ ∃ e, r = .error (.run e) ∧ IsConfigError e

section Answers
variable {α β : Type} {r : Outcome α} {source key wanted : String} {v : Given}

theorem Answered.ok (a : α) : Answered (.ok a) :=
  .inl ⟨a, rfl⟩

theorem Answered.invalid (source message : String) :
    Answered (.error (invalid source message) : Outcome α) :=
  .inr ⟨_, rfl, rfl, rfl⟩

theorem not_answered_fault (f : Fault) : ¬ Answered (.error (.fault f) : Outcome α) := by
  rintro (⟨a, done⟩ | ⟨e, failed, _⟩)
  · contradiction
  · simp at failed

/-- One computation after another is answered if both are. -/
theorem answered_bind_iff {f : α → Outcome β} :
    Answered (r >>= f) ↔ Answered r ∧ ∀ a, r = .ok a → Answered (f a) := by
  cases r with
  | ok a =>
    constructor
    · intro answered
      constructor
      · exact .ok a
      · intro b same
        rwa [← Except.ok.inj same]
    · rintro ⟨_, next⟩
      exact next a rfl
  | error e =>
    constructor
    · rintro (⟨b, done⟩ | ⟨e', failed, isConfig⟩)
      · contradiction
      · obtain rfl : e = .run e' := by simpa using failed
        exact ⟨.inr ⟨e', rfl, isConfig⟩, by simp⟩
    · rintro ⟨⟨a, done⟩ | ⟨e', failed, isConfig⟩, _⟩
      · contradiction
      · obtain rfl : e = .run e' := by simpa using failed
        exact .inr ⟨e', rfl, isConfig⟩

theorem answered_map_iff {f : α → β} : Answered (do return f (← r)) ↔ Answered r := by
  rw [answered_bind_iff]
  apply and_iff_left
  intro a _
  exact .ok (f a)

theorem answered_unfit_iff : Answered (.error (unfit source key wanted v) : Outcome α) ↔
    ∃ literal, v.literal? = some literal := by
  rw [unfit]
  split
  · rename_i literal written
    exact ⟨fun _ => ⟨literal, written⟩, fun _ => .invalid _ _⟩
  · rename_i unwritten
    simp [unwritten, not_answered_fault]

/-- A value that cannot be taken for a key, and whose refusal is no error of the configuration: an
infinite number of jobs, a time limit beyond the floating-point numbers, and what has no literal form to
be told by. -/
def Untold (key : String) : Given → Prop
  | .real x => key = "jobs" ∧ ∃ negative, x.form = .infinite negative
  | .whole n => key = "timeout" ∧ Binary64.ofInt? n = none
  | .other none => key = "jobs" ∨ key = "timeout"
  | _ => False

theorem not_untold_of_ne (jobs : key ≠ "jobs") (timeout : key ≠ "timeout") : ¬ Untold key v := by
  unfold Untold
  split
  · exact fun untold => jobs untold.1
  · exact fun untold => timeout untold.1
  · exact fun untold => untold.elim jobs timeout
  · exact id

theorem answered_readText : Answered (readText source key v) := by
  cases v with
  | text s => exact .ok s
  | _ => exact .invalid _ _

theorem answered_readTexts : Answered (readTexts source key v) := by
  cases v with
  | text s => exact .ok [s]
  | texts items => exact .ok items
  | _ => exact .invalid _ _

theorem answered_other_iff {literal : Option String} (number : key = "jobs" ∨ key = "timeout") :
    Answered (.error (unfit source key wanted (.other literal)) : Outcome α) ↔
      ¬ Untold key (.other literal) := by
  rw [answered_unfit_iff]
  cases literal with
  | none => exact iff_of_false (by simp [Given.literal?]) (not_not_intro number)
  | some literal => exact iff_of_true ⟨literal, rfl⟩ id

/-- A text is a number, or is told as it stands. -/
theorem answered_number (found : Option α) {s : String} : Answered
    (found.elim (.error (unfit source key wanted (.text s))) .ok) := by
  cases found with
  | none => exact answered_unfit_iff.mpr ⟨_, rfl⟩
  | some a => exact .ok a

theorem answered_readWhole_iff : Answered (readWhole source "jobs" v) ↔ ¬ Untold "jobs" v := by
  cases v with
  | text s => exact iff_of_true (answered_number _) id
  | whole n => exact iff_of_true (.ok n) (by simp [Untold])
  | flag b => exact iff_of_true (.ok _) id
  | texts items => exact iff_of_true (answered_unfit_iff.mpr ⟨_, rfl⟩) id
  | other literal => exact answered_other_iff (.inl rfl)
  | real x =>
    simp only [readWhole, Untold, true_and]
    split
    · rename_i isNan
      simpa [isNan] using answered_unfit_iff.mpr ⟨_, rfl⟩
    · rename_i isInfinite
      simp [isInfinite, not_answered_fault]
    · rename_i finite
      simpa [finite, Binary64.truncate] using Answered.ok _

theorem answered_ofInt_iff (n : Int) : Answered
    ((Binary64.ofInt? n).elim (.error (.fault .hugeInteger)) .ok : Outcome Binary64) ↔
      ¬ Binary64.ofInt? n = none := by
  cases Binary64.ofInt? n with
  | none => simp [not_answered_fault]
  | some x => simpa using Answered.ok x

theorem answered_readReal_iff : Answered (readReal source "timeout" v) ↔ ¬ Untold "timeout" v := by
  cases v with
  | text s => exact iff_of_true (answered_number _) id
  | real x => exact iff_of_true (.ok x) (by simp [Untold])
  | texts items => exact iff_of_true (answered_unfit_iff.mpr ⟨_, rfl⟩) id
  | other literal => exact answered_other_iff (.inr rfl)
  | whole n =>
    simp only [Untold, true_and]
    exact answered_ofInt_iff n
  | flag b =>
    have small : Binary64.ofInt? (if b then 1 else 0) ≠ none := by
      cases b <;> decide +kernel
    exact iff_of_true ((answered_ofInt_iff _).mpr small) id

/-- A value is answered unless it is one of the few. -/
theorem answered_readChange_iff : Answered (readChange source key v) ↔ ¬ Untold key v := by
  by_cases jobs : key = "jobs"
  · subst jobs
    exact answered_map_iff.trans answered_readWhole_iff
  · by_cases timeout : key = "timeout"
    · subst timeout
      exact answered_map_iff.trans answered_readReal_iff
    · have answered : Answered (readChange source key v) := by
        unfold readChange
        split
        · exact answered_map_iff.mpr answered_readTexts
        · exact answered_map_iff.mpr answered_readTexts
        · contradiction
        · contradiction
        · exact answered_map_iff.mpr answered_readText
        · exact answered_map_iff.mpr answered_readText
        · exact answered_map_iff.mpr answered_readText
      exact ⟨fun _ => not_untold_of_ne jobs timeout, fun _ => answered⟩

end Answers

section Layers
variable {source : String} {s : Settings} {layer rest : Layer}

/-- A layer that is read up to a value whose refusal is no error of the configuration. -/
inductive Breaks : Layer → Prop where
  | here {key v rest} : Untold key v → Breaks ((key, v) :: rest)
  | later {key v rest} : Fits key v → Breaks rest → Breaks ((key, v) :: rest)

theorem exists_readChange_iff {key : String} {v : Given} :
    (∃ c, readChange source key v = .ok c) ↔ Fits key v := by
  simp only [readChange_eq_ok_iff, Fits, Option.isSome_iff_exists]

theorem answered_readChanges_iff : Answered (readChanges source layer) ↔ ¬ Breaks layer := by
  induction layer with
  | nil => exact iff_of_true (.ok []) (fun breaks => nomatch breaks)
  | cons e rest ih =>
    obtain ⟨key, v⟩ := e
    simp only [readChanges, answered_bind_iff, answered_readChange_iff, ih]
    constructor
    · rintro ⟨told, others⟩ (untold | ⟨fits, breaks⟩)
      · exact told untold
      · obtain ⟨c, taken⟩ := exists_readChange_iff.mpr fits
        exact (others c taken).1 breaks
    · intro whole
      constructor
      · intro untold
        exact whole (.here untold)
      · intro c taken
        constructor
        · intro breaks
          exact whole (.later (exists_readChange_iff.mp ⟨c, taken⟩) breaks)
        · intro more _
          exact .ok (c :: more)

/-- A layer is answered where a key is not known, and else if it does not break. -/
theorem answered_coerce_iff :
    Answered (coerce source layer) ↔ ¬ ((∀ e ∈ layer, e.1 ∈ keys) ∧ Breaks layer) := by
  by_cases known : ∀ e ∈ layer, e.1 ∈ keys
  · rw [coerce_eq_of_known known, answered_readChanges_iff]
    constructor
    · intro whole both
      exact whole both.2
    · intro whole breaks
      exact whole ⟨known, breaks⟩
  · refine iff_of_true ?_ fun both => known both.1
    rw [coerce]
    split
    · rename_i none_
      refine absurd (fun e listed => ?_) known
      simpa using List.filter_eq_nil_iff.mp none_ e.1 (List.mem_map_of_mem listed)
    · exact .invalid _ _

/-- Too few jobs are told by their number. -/
theorem answered_checked_iff : Answered (checked s) ↔ ¬ (s.jobs < 1 ∧ ¬ Writable s.jobs) := by
  have policy : Answered (α := Settings) (
      if !Report.ReadPolicy.words.contains s.onReadError then
        .error (invalid "settings" ("`on_read_error` must be one of " ++
          String.intercalate ", " Report.ReadPolicy.words))
      else if normalizeLanguage s.language = "" then
        .error (invalid "settings" "`language` must not be empty")
      else .ok { s with language := normalizeLanguage s.language }) := by
    split
    · exact .invalid _ _
    · split
      · exact .invalid _ _
      · exact .ok _
  simp only [checked]
  split
  · rename_i few
    split
    · rename_i jobs written
      refine iff_of_true (.invalid _ _) fun both => both.2 ?_
      rw [Writable, written]
      rfl
    · rename_i unwritten
      exact iff_of_false (not_answered_fault _) (not_not_intro ⟨few, by simp [Writable, unwritten]⟩)
  · rename_i enough
    refine iff_of_true ?_ fun both => enough both.1
    split
    · exact .invalid _ _
    · exact policy

/-- Values given for settings are answered unless their layer breaks, or a number of jobs is too small
and cannot be written. -/
theorem answered_override_iff (distinct : (layer.map Prod.fst).Nodup) (s : Settings) :
    Answered (s.override layer) ↔ ¬ ((∀ e ∈ layer, e.1 ∈ keys) ∧ Breaks layer) ∧
      (Acceptable layer → ¬ ((overlay s layer).jobs < 1 ∧ ¬ Writable (overlay s layer).jobs)) := by
  rw [override, answered_bind_iff, answered_coerce_iff]
  apply and_congr_right
  intro _
  constructor
  · intro each fine
    obtain ⟨changes, coerced⟩ := (exists_coerce_iff "command line").mpr fine
    have answered := each changes coerced
    rwa [applyAll_of_coerce distinct coerced, answered_checked_iff] at answered
  · intro fine changes coerced
    rw [applyAll_of_coerce distinct coerced, answered_checked_iff]
    exact fine ((exists_coerce_iff "command line").mp ⟨changes, coerced⟩)

/-- A number that can be written if it is below one. -/
def Tellable (n : Int) : Prop :=
  0 ≤ n ∨ Writable n

theorem answered_checked_of_tellable (tellable : Tellable s.jobs) : Answered (checked s) := by
  rw [answered_checked_iff]
  rintro ⟨few, unwritten⟩
  rcases tellable with notNegative | written
  · obtain zero : s.jobs = 0 := by omega
    exact unwritten (by rw [zero, Writable]; decide)
  · exact unwritten written

theorem tellable_wholeOf? {v : Toml} (proper : v.Proper) {n : Int}
    (whole : wholeOf? (.ofToml v) = some n) : Tellable n := by
  cases proper with
  | string t => exact .inr (writable_readInt? whole)
  | int told =>
    rw [← Option.some.inj whole]
    exact told
  | float x => exact .inr (Binary64.writable_truncate whole)
  | bool b =>
    rw [← Option.some.inj whole]
    exact .inl (by cases b <;> decide)
  | array _ =>
    simp only [Given.ofToml] at whole
    split at whole <;> contradiction
  | _ => contradiction

theorem tellable_overlay (old : Tellable s.jobs)
    (each : ∀ e ∈ layer, ∀ n, wholeOf? e.2 = some n → Tellable n) :
    Tellable (overlay s layer).jobs := by
  simp only [overlay]
  cases given : (layer.lookup "jobs").bind wholeOf? with
  | none => exact old
  | some n =>
    obtain ⟨v, found, whole⟩ := Option.bind_eq_some_iff.mp given
    exact each _ (Bindings.mem_of_lookup found) n whole

end Layers

section Files
variable {w : Workspace} {env : Environment} {directory p : Path} {asked : Option Path}
variable {bytes : List UInt8} {document table : Toml.Entries}

theorem not_breaks_environmentLayer (env : Environment) : ¬ Breaks (environmentLayer env) := by
  have texts : ∀ layer : List (String × String),
      ¬ Breaks (layer.map fun e => (e.1, Given.text e.2)) := by
    intro layer
    induction layer with
    | nil => exact fun breaks => nomatch breaks
    | cons e rest ih =>
      rintro (untold | ⟨_, breaks⟩)
      · exact untold
      · exact ih breaks
  exact texts (environmentValues env)

/-- What comes after the file is answered if the file's changes can be told. -/
theorem answered_finish {fromFile : List Change}
    (tellable : Tellable (({} : Settings).applyAll fromFile).jobs) :
    Answered (do
      let fromEnvironment ← coerce "environment" (environmentLayer env)
      checked ((({} : Settings).applyAll fromFile).applyAll fromEnvironment)) := by
  rw [answered_bind_iff, answered_coerce_iff]
  constructor
  · intro both
    exact not_breaks_environmentLayer env both.2
  · intro changes coerced
    rw [applyAll_of_coerce (keys_environmentLayer env).1 coerced]
    apply answered_checked_of_tellable
    apply tellable_overlay tellable
    intro e listed n whole
    obtain ⟨e, _, rfl⟩ := List.mem_map.mp listed
    exact .inr (writable_readInt? whole)

/-- Whether a settings file is lost: its bytes are no text, its text is refused other than by a fault
of the notation, or its values break. -/
def Lost (p : Path) (bytes : List UInt8) : Prop :=
  match Text.Utf8.decode bytes with
  | .error _ => True
  | .ok text =>
    match Toml.read (Text.unifyLineEnds text) with
    | .error (.fault _ _) => False
    | .error (.longInteger _) => True
    | .error .tooDeep => True
    | .ok document => ∃ table, tableOf (some p) document = some table ∧
        (∀ e ∈ layerOf table, e.1 ∈ keys) ∧ Breaks (layerOf table)

/-- What the values of a file come to can be told. -/
theorem tellable_of_coerce {fromFile : List Change} {source : String} (proper : table.Proper)
    (coerced : coerce source (layerOf table) = .ok fromFile) :
    Tellable (({} : Settings).applyAll fromFile).jobs := by
  have distinct : ((layerOf table).map Prod.fst).Nodup := by
    rw [keys_layerOf]
    exact proper.distinct
  rw [applyAll_of_coerce distinct coerced]
  apply tellable_overlay (.inl (by decide))
  intro e listed n whole
  obtain ⟨e, member, rfl⟩ := List.mem_map.mp listed
  exact tellable_wholeOf? (proper.field member) whole

/-- What is loaded without a file is answered. -/
theorem answered_load_none (chosen : chooseFile w asked directory = .ok none) :
    Answered (load w env asked directory) := by
  rw [load, chosen]
  exact answered_finish (.inl (by decide))

theorem load_of_chosen (chosen : chooseFile w asked directory = .ok (some p)) :
    load w env asked directory = (do
      let fromFile ← coerce p.text (layerOf (← fileValues w p))
      let fromEnvironment ← coerce "environment" (environmentLayer env)
      checked ((({} : Settings).applyAll fromFile).applyAll fromEnvironment)) := by
  rw [load, chosen]
  simp only [mapError_ok, ok_bind, fileLayer]
  cases fileValues w p <;> rfl

/-- What a file that was opened is read as. -/
theorem readDocument_eq (opened : w.readBytes p = .ok bytes) : readDocument w p =
    match Text.Utf8.decode bytes with
    | .error e => .error (.fault (.notText e))
    | .ok text =>
      match Toml.read (Text.unifyLineEnds text) with
      | .ok entries => .ok entries
      | .error (.fault cause place) => .error (invalid p.text (Toml.faultMessage cause place))
      | .error e => .error (.fault (Language.tomlFault e)) := by
  cases decoded : Text.Utf8.decode bytes with
  | error e =>
    simp only [readDocument, Workspace.readText, opened, ok_bind, decoded, mapError_error, error_bind]
  | ok text =>
    have told : w.readText p = .ok (Text.unifyLineEnds text) := by
      simp only [Workspace.readText, opened, ok_bind, decoded, mapError_ok, pure_eq]
    cases read : Toml.read (Text.unifyLineEnds text) with
    | ok entries => simp only [readDocument, told, read]
    | error e => cases e <;> simp only [readDocument, told, read]

/-- The settings of a file that was opened are answered unless the file is lost. -/
theorem answered_load_iff (chosen : chooseFile w asked directory = .ok (some p))
    (opened : w.readBytes p = .ok bytes) :
    Answered (load w env asked directory) ↔ ¬ Lost p bytes := by
  have document := readDocument_eq opened
  rw [load_of_chosen chosen, Lost]
  cases decoded : Text.Utf8.decode bytes with
  | error e =>
    rw [fileValues, document, decoded]
    exact iff_of_false (not_answered_fault _) (not_not_intro trivial)
  | ok text =>
    dsimp only
    cases read : Toml.read (Text.unifyLineEnds text) with
    | error e =>
      rw [fileValues, document, decoded]
      simp only [read]
      cases e with
      | fault cause place => exact iff_of_true (.invalid _ _) id
      | longInteger digits => exact iff_of_false (not_answered_fault _) (not_not_intro trivial)
      | tooDeep => exact iff_of_false (not_answered_fault _) (not_not_intro trivial)
    | ok entries =>
      have holds : Holds w (some p) entries := by
        refine ⟨_, ?_, read⟩
        simp [Workspace.readText, opened, decoded]
      rw [fileValues_of_holds holds]
      dsimp only
      cases found : tableOf (some p) entries with
      | none => exact iff_of_true (.invalid _ _) (by simp)
      | some table =>
        have proper := proper_tableOf (proper_of_holds holds) found
        simp only [ok_bind, Option.some.injEq, exists_eq_left']
        rw [answered_bind_iff, answered_coerce_iff]
        apply and_iff_left
        intro fromFile coerced
        exact answered_finish (tellable_of_coerce proper coerced)

/-- Which settings are answered: all that are loaded without a file, those of a file that is not lost,
whatever the environment holds, and those given one by one unless they break or name too few jobs by a
number that cannot be written. -/
theorem settings_answered_iff (w : Workspace) (env : Environment) (asked : Option Path)
    (directory : Path) (s : Settings) {layer : Layer} (distinct : (layer.map Prod.fst).Nodup) :
    (chooseFile w asked directory = .ok none → Answered (load w env asked directory)) ∧
    (∀ p bytes, chooseFile w asked directory = .ok (some p) → w.readBytes p = .ok bytes →
      (Answered (load w env asked directory) ↔ ¬ Lost p bytes)) ∧
    (Answered (s.override layer) ↔ ¬ ((∀ e ∈ layer, e.1 ∈ keys) ∧ Breaks layer) ∧
      (Acceptable layer → ¬ ((overlay s layer).jobs < 1 ∧ ¬ Writable (overlay s layer).jobs))) := by
  refine ⟨answered_load_none, ?_, answered_override_iff distinct s⟩
  intro p bytes chosen opened
  exact answered_load_iff chosen opened

theorem chooseFile_configured (bytes : List UInt8) :
    chooseFile (configured bytes) none ⟨.root, []⟩ = .ok (some topFile) :=
  chooseFile_of_selects (selects_configured bytes)

theorem readBytes_configured (bytes : List UInt8) :
    (configured bytes).readBytes topFile = .ok bytes := by
  rw [Workspace.readBytes, node_configured]
  rfl

/-- Too few jobs are answered wherever they are given, an infinite number of them is not. -/
theorem settings_answered_iff_jobs :
    let start : Path := ⟨.root, []⟩
    let w := configured (Text.Utf8.encode "jobs = 0".toList)
    let s : Settings := {}
    Answered (load w [] none start) ∧ Answered (s.override [("jobs", .whole 0)]) ∧
      ¬ Answered (s.override [("jobs", .real (.infinity false))]) := by
  intro start w s
  have one : (([("jobs", .whole 0)] : Layer).map Prod.fst).Nodup := by simp
  have breaksNot : ¬ Breaks [("jobs", .whole 0)] := by
    rintro (untold | ⟨_, nothing⟩)
    · exact absurd untold.1 (by decide)
    · cases nothing
  refine ⟨?_, ?_, ?_⟩
  · have choice := (settings_answered_iff w [] none start s one).2.1
    refine (choice topFile _ (chooseFile_configured _) (readBytes_configured _)).mpr ?_
    have read : Toml.read (Text.unifyLineEnds "jobs = 0".toList) = .ok [("jobs", .int 0)] := rfl
    rw [Lost, Text.Utf8.decode_encode]
    dsimp only
    rw [read]
    rintro ⟨table, found, _, breaks⟩
    obtain rfl := Option.some.inj found
    exact breaksNot breaks
  · have choice := (settings_answered_iff w [] none start s one).2.2
    refine choice.mpr ⟨fun both => breaksNot both.2, ?_⟩
    rintro _ ⟨_, unwritten⟩
    exact unwritten (writable_iff.mpr (by decide +kernel))
  · intro answered
    have whole := ((settings_answered_iff w [] none start s (by simp)).2.2.mp answered).1
    refine whole ⟨by simp [keys], .here ⟨rfl, false, by decide +kernel⟩⟩

/-- A file of one byte that is no text ends neither in settings nor in an error of the configuration. -/
theorem undecoded_settings_unanswered :
    let w := configured [0xff]
    w.readBytes topFile = .ok [0xff] ∧
      load w [] none ⟨.root, []⟩ = .error (.fault (.notText ⟨0xff, 0, 1, .invalidStart⟩)) ∧
      ¬ Answered (load w [] none ⟨.root, []⟩) := by
  intro w
  have failed : load w [] none ⟨.root, []⟩ = .error (.fault (.notText ⟨0xff, 0, 1, .invalidStart⟩)) := by
    have undecoded : Text.Utf8.decode [0xff] = .error ⟨0xff, 0, 1, .invalidStart⟩ := by cbv
    rw [load_of_chosen (chooseFile_configured _), fileValues, readDocument, Workspace.readText,
      readBytes_configured, ok_bind, undecoded]
    rfl
  refine ⟨readBytes_configured _, failed, ?_⟩
  rw [failed]
  exact not_answered_fault _

end Files
end FenceCheck.Settings
