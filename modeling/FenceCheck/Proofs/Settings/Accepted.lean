import FenceCheck.Proofs.Number.Value
import FenceCheck.Proofs.Settings.Answers
import FenceCheck.Proofs.Text.Lowercase

/-! What settings are that were accepted, from a file and the environment and then layer over layer. A
value is followed from the last layer that gives it; all that is lost on the way is the fraction of a
number of jobs. -/
namespace FenceCheck.Settings
open FenceCheck.Number

section Worth
variable {v : Given} {n : Int}

/-- The number that a value stands for: the number itself, zero or one for a flag, and for a text what it
writes. -/
def Given.Denotes : Given → ℚ → Prop
  | .whole n, q => q = n
  | .flag b, q => q = if b then 1 else 0
  | .text s, q => ∃ n : Int, Numeral s.toList n ∧ q = n
  | .real x, q => x.value? = some q
  | _, _ => False

/-- What is taken for an integer is the number that was given, up to its fraction. -/
theorem denotes_of_wholeOf? (taken : wholeOf? v = some n) :
    ∃ q, v.Denotes q ∧ n = Binary64.towardZero q := by
  cases v with
  | whole m =>
    obtain rfl := Option.some.inj taken
    exact ⟨m, rfl, (Binary64.towardZero_intCast m).symm⟩
  | flag b =>
    rw [← Option.some.inj taken]
    refine ⟨((if b then 1 else 0 : Int) : ℚ), ?_, (Binary64.towardZero_intCast _).symm⟩
    simp [Given.Denotes]
  | text s => exact ⟨n, ⟨n, numeral_of_readInt? taken, rfl⟩, (Binary64.towardZero_intCast n).symm⟩
  | real x =>
    rw [wholeOf?, Binary64.truncate_eq] at taken
    obtain ⟨q, value, rfl⟩ := Option.map_eq_some_iff.mp taken
    exact ⟨q, value, rfl⟩
  | texts items => contradiction
  | other literal => contradiction

/-- It is that number itself where that is an integer. -/
theorem denotes_wholeOf?_iff (taken : wholeOf? v = some n) :
    v.Denotes n ↔ ∃ k : Int, v.Denotes k := by
  constructor
  · exact fun denotes => ⟨n, denotes⟩
  · rintro ⟨k, denotes⟩
    cases v with
    | real x =>
      have value : x.value? = some (k : ℚ) := denotes
      rw [wholeOf?, Binary64.truncate_eq, value, Option.map_some, Binary64.towardZero_intCast] at taken
      rwa [← Option.some.inj taken]
    | text s => exact ⟨n, numeral_of_readInt? taken, rfl⟩
    | whole m => rw [← Option.some.inj taken]; rfl
    | flag b => rw [← Option.some.inj taken]; cases b <;> rfl
    | texts items => contradiction
    | other literal => contradiction

end Worth

section Overriding
variable {s t : Settings} {layer : Layer} {layers : List Layer}
variable {given : String → Option Given}

/-- Layers laid over settings, one after the other. -/
def overrideAll (s : Settings) (layers : List Layer) : Outcome Settings :=
  layers.foldlM override s

/-- What the last of some layers that gives a key gives for it, else what was given before. -/
def lastGiven (given : String → Option Given) (layers : List Layer) (key : String) : Option Given :=
  layers.foldl (fun found layer => (layer.lookup key).or found) (given key)

theorem normalizeLanguage_idem (tag : String) :
    normalizeLanguage (normalizeLanguage tag) = normalizeLanguage tag := by
  rw [normalizeLanguage, normalizeLanguage, Text.strip_lower, Text.lower_lower]

theorem override_eq_ok_iff (distinct : (layer.map Prod.fst).Nodup) : s.override layer = .ok t ↔
    Acceptable layer ∧ Usable (overlay s layer) ∧ (overlay s layer).normalized = t := by
  rw [override, ← exists_coerce_iff "command line"]
  constructor
  · intro done
    obtain ⟨changes, read, done⟩ := exists_of_bind done
    rw [applyAll_of_coerce distinct read] at done
    exact ⟨⟨changes, read⟩, checked_eq_ok_iff.mp done⟩
  · rintro ⟨⟨changes, read⟩, usable⟩
    rw [read, ok_bind, applyAll_of_coerce distinct read]
    exact checked_eq_ok_iff.mpr usable

/-- Settings that can be used and that come to what is given. -/
structure Follows (given : String → Option Given) (s : Settings) : Prop where
  fits : ∀ key v, given key = some v → Fits key v
  jobs : s.jobs = ((given "jobs").bind wholeOf?).getD 1
  timeout : s.timeout = (given "timeout").bind realOf?
  usable : Usable s
  small : normalizeLanguage s.language = s.language

theorem Usable.normalized (usable : Usable s) : Usable s.normalized := by
  rw [Settings.normalized]
  refine ⟨usable.jobs, usable.timeout, usable.policy, ?_⟩
  rw [normalizeLanguage_idem]
  exact usable.language

/-- One layer more. -/
theorem Follows.override (follows : Follows given s) (distinct : (layer.map Prod.fst).Nodup)
    (done : s.override layer = .ok t) :
    Follows (fun key => (layer.lookup key).or (given key)) t := by
  obtain ⟨fine, usable, rfl⟩ := (override_eq_ok_iff distinct).mp done
  have fits (key : String) (v : Given) (here : layer.lookup key = some v) : Fits key v :=
    fine.fits (key, v) (Bindings.mem_of_lookup here)
  refine ⟨?_, ?_, ?_, usable.normalized, normalizeLanguage_idem _⟩
  · intro key v found
    rcases Option.or_eq_some_iff.mp found with here | ⟨_, before⟩
    · exact fits key v here
    · exact follows.fits key v before
  · change ((layer.lookup "jobs").bind wholeOf?).getD s.jobs = _
    cases here : layer.lookup "jobs" with
    | none => simpa using follows.jobs
    | some v =>
      obtain ⟨n, taken⟩ := Option.isSome_iff_exists.mp (fits "jobs" v here)
      obtain ⟨n, taken, _⟩ := Option.map_eq_some_iff.mp taken
      simp [taken]
  · change ((layer.lookup "timeout").bind realOf?).or s.timeout = _
    cases here : layer.lookup "timeout" with
    | none => simpa using follows.timeout
    | some v =>
      obtain ⟨x, taken⟩ := Option.isSome_iff_exists.mp (fits "timeout" v here)
      obtain ⟨x, taken, _⟩ := Option.map_eq_some_iff.mp taken
      simp [taken]

/-- However many layers are laid over settings, these follow the last that gives a key. -/
theorem Follows.overrideAll (follows : Follows given s)
    (distinct : ∀ layer ∈ layers, (layer.map Prod.fst).Nodup)
    (done : s.overrideAll layers = .ok t) : Follows (lastGiven given layers) t := by
  induction layers generalizing s given with
  | nil =>
    obtain rfl := Except.ok.inj done
    exact follows
  | cons layer rest ih =>
    obtain ⟨here, later⟩ := List.forall_mem_cons.mp distinct
    rw [Settings.overrideAll, List.foldlM_cons] at done
    obtain ⟨next, first, done⟩ := exists_of_bind done
    exact ih (follows.override here first) later done

end Overriding

section Accepted
variable {w : Workspace} {env : Environment} {directory : Path} {asked chosen : Option Path}
variable {document table : Toml.Entries} {s s₀ : Settings} {layers : List Layer}

theorem selects_of_chooseFile (found : chooseFile w asked directory = .ok chosen) :
    Selects w directory asked chosen := by
  cases asked with
  | some p =>
    obtain rfl := Except.ok.inj found
    exact .asked p
  | none =>
    rw [chooseFile] at found
    obtain ⟨home, here, found⟩ := exists_of_bind found
    simp only [findFile, join_ownFile, join_sharedFile] at found
    obtain ⟨isOwn, own, found⟩ := exists_of_bind found
    cases isOwn with
    | true =>
      obtain rfl := Except.ok.inj found
      exact .own here own
    | false =>
      rw [if_neg Bool.false_ne_true] at found
      obtain ⟨isShared, shared, found⟩ := exists_of_bind found
      cases isShared with
      | true =>
        obtain rfl := Except.ok.inj found
        exact .shared here own shared
      | false =>
        obtain rfl := Except.ok.inj found
        exact .neither here own shared

theorem holds_of_fileValues {p : Path} (read : fileValues w p = .ok table) :
    ∃ document, Holds w (some p) document := by
  obtain ⟨document, done, _⟩ := exists_of_bind read
  refine ⟨document, ?_⟩
  rw [readDocument] at done
  split at done
  · contradiction
  · contradiction
  · rename_i text opened
    split at done
    · rename_i entries parsed
      obtain rfl := Except.ok.inj done
      exact ⟨text, opened, parsed⟩
    · contradiction
    · contradiction

/-- Settings that were loaded have a file that was read, or none. -/
theorem exists_source_of_load (loaded : load w env asked directory = .ok s) :
    ∃ chosen document, Selects w directory asked chosen ∧ Holds w chosen document := by
  obtain ⟨chosen, found, _⟩ := exists_of_bind loaded
  replace found := ok_of_mapError found
  have selects := selects_of_chooseFile found
  cases chosen with
  | none => exact ⟨none, [], selects, rfl⟩
  | some p =>
    rw [load_of_chosen found] at loaded
    obtain ⟨table, read, _⟩ := exists_of_bind loaded
    obtain ⟨document, holds⟩ := holds_of_fileValues read
    exact ⟨some p, document, selects, holds⟩

theorem follows_of_load (selects : Selects w directory asked chosen)
    (holds : Holds w chosen document) (loaded : load w env asked directory = .ok s) :
    ∃ table, tableOf chosen document = some table ∧ Follows (given? table env) s := by
  obtain ⟨table, found, fits, fitsEnv, usable, rfl⟩ := (load_eq_ok_iff selects holds env s).1.mp loaded
  refine ⟨table, found, ?_, rfl, rfl, usable.normalized, normalizeLanguage_idem _⟩
  intro key v given
  rw [given?] at given
  split at given
  · rename_i value set_
    obtain rfl := Option.some.inj given
    exact fitsEnv key value set_
  · obtain ⟨value, listed, rfl⟩ := Option.map_eq_some_iff.mp given
    exact (fits _ (Bindings.mem_of_lookup listed)).2

/-- Accepted settings, whatever file, environment and layers they come from. There is at least one job;
the number of jobs is the one that was given last exactly if that was an integer, and else loses its
fraction. A time limit is above zero unless it is no number at all. -/
theorem accepted_settings (loaded : load w env asked directory = .ok s₀)
    (distinct : ∀ layer ∈ layers, (layer.map Prod.fst).Nodup)
    (overridden : s₀.overrideAll layers = .ok s) :
    ∃ chosen document table, Selects w directory asked chosen ∧ Holds w chosen document ∧
      tableOf chosen document = some table ∧
      let given := lastGiven (given? table env) layers
      (1 ≤ s.jobs ∧ (given "jobs" = none → s.jobs = 1) ∧
        ∀ v, given "jobs" = some v → (∃ q, v.Denotes q ∧ s.jobs = Binary64.towardZero q) ∧
          (v.Denotes s.jobs ↔ ∃ n : Int, v.Denotes n)) ∧
      (s.timeout = (given "timeout").bind realOf? ∧
        ∀ x, s.timeout = some x → (x.Positive ↔ x.form ≠ .nan)) ∧
      s.onReadError ∈ ["abort", "skip"] ∧
      s.language ≠ "" ∧ Text.lower (Text.strip s.language) = s.language := by
  obtain ⟨chosen, document, selects, holds⟩ := exists_source_of_load loaded
  obtain ⟨table, found, before⟩ := follows_of_load selects holds loaded
  have follows := before.overrideAll distinct overridden
  refine ⟨chosen, document, table, selects, holds, found, ⟨follows.usable.jobs, ?_, ?_⟩,
    ⟨follows.timeout, ?_⟩, follows.usable.policy, ?_, follows.small⟩
  · intro absent
    simp [follows.jobs, absent]
  · intro v given
    obtain ⟨c, change⟩ := Option.isSome_iff_exists.mp (follows.fits "jobs" v given)
    obtain ⟨n, taken, _⟩ := Option.map_eq_some_iff.mp change
    have jobs : s.jobs = n := by simp [follows.jobs, given, taken]
    rw [jobs]
    exact ⟨denotes_of_wholeOf? taken, denotes_wholeOf?_iff taken⟩
  · intro x limit
    have lasting := Binary64.isNonPositive_eq_false_iff.mp (follows.usable.timeout x limit)
    constructor
    · intro positive isNan
      rcases positive with isInfinite | ⟨q, value, _⟩
      · rw [isNan] at isInfinite
        contradiction
      · simp [Binary64.value?, isNan] at value
    · exact lasting.resolve_left
  · rw [← follows.small]
    exact follows.usable.language

theorem ok_of_toOption {α : Type} {r : Outcome α} {a : α} (done : r.toOption = some a) : r = .ok a := by
  cases r with
  | error e => contradiction
  | ok b =>
    obtain rfl := Option.some.inj done
    rfl

/-- The settings of a file at the top of a tree, where no variable is set. -/
theorem load_configured (table : Toml.Entries) {text : String} (plain : '\r' ∉ text.toList)
    (read : Toml.read text.toList = .ok table)
    (done : (({} : Settings).override (layerOf table)).toOption = some s) :
    load (configured (Text.Utf8.encode text.toList)) [] none ⟨.root, []⟩ = .ok s := by
  have holds : Holds (configured (Text.Utf8.encode text.toList)) (some topFile) table :=
    holds_configured plain read
  have distinct : ((layerOf table).map Prod.fst).Nodup := by
    rw [keys_layerOf]
    exact (proper_of_holds holds).distinct
  have unset : ∀ key value, exported? [] key = some value → Fits key (.text value) := by
    intro key value set_
    simp [exported?, Environment.get?] at set_
  have same : overlay {} (layerOf table) = merged table [] := overlay_eq_merged table unset
  obtain ⟨fine, usable, rfl⟩ := (override_eq_ok_iff distinct).mp (ok_of_toOption done)
  rw [same] at usable ⊢
  refine (load_eq_ok_iff (selects_configured _) holds [] _).1.mpr
    ⟨table, rfl, ?_, unset, usable, rfl⟩
  exact (exists_coerce_layerOf_iff "").mp ((exists_coerce_iff "").mpr fine)

/-- The jobs of the last layer that names some; the layer after it gives a time limit only. -/
theorem accepted_settings_overridden :
    let w := configured (Text.Utf8.encode "jobs = 2".toList)
    let start : Path := ⟨.root, []⟩
    let layers : List Layer := [[("jobs", .text " 4 ")], [("timeout", .whole 3)]]
    let three : Binary64 := ⟨0x4008000000000000⟩
    load w [] none start = .ok { jobs := 2 } ∧
      Settings.overrideAll { jobs := 2 } layers = .ok { jobs := 4, timeout := some three } ∧
      three.Positive := by
  intro w start layers three
  have loaded : load w [] none start = .ok { jobs := 2 } :=
    load_configured [("jobs", .int 2)] (by decide) rfl (by decide +kernel)
  have overridden : Settings.overrideAll { jobs := 2 } layers =
      .ok { jobs := 4, timeout := some three } := by
    have done : (Settings.overrideAll { jobs := 2 } layers).toOption =
      some { jobs := 4, timeout := some three } := by decide +kernel
    exact ok_of_toOption done
  obtain ⟨chosen, document, table, _, _, _, _, ⟨_, limit⟩, _⟩ :=
    accepted_settings loaded (by decide) overridden
  exact ⟨loaded, overridden, (limit three rfl).mpr (by decide)⟩

/-- A number of jobs loses its fraction without a word, and what is no number passes for a time limit. -/
theorem fraction_of_jobs_lost :
    let w := configured (Text.Utf8.encode "jobs = 2.7\ntimeout = nan".toList)
    let start : Path := ⟨.root, []⟩
    let jobs : Binary64 := ⟨0x400599999999999a⟩
    let table : Toml.Entries := [("jobs", .float jobs), ("timeout", .float .nan)]
    Selects w start none (some topFile) ∧ Holds w (some topFile) table ∧
      tableOf (some topFile) table = some table ∧ given? table [] "jobs" = some (.real jobs) ∧
      load w [] none start = .ok { jobs := 2, timeout := some .nan } ∧
      ¬ (Given.real jobs).Denotes 2 ∧ ¬ Binary64.nan.Positive := by
  intro w start jobs table
  have holds : Holds w (some topFile) table := holds_configured (by decide) rfl
  refine ⟨selects_configured _, holds, rfl, rfl, ?_, ?_, ?_⟩
  · exact load_configured table (by decide) rfl (by decide +kernel)
  · have form : jobs.form = .finite false 6079859496950170 (-51) := by decide +kernel
    simp only [Given.Denotes, Binary64.value?, form]
    norm_num
  · rintro (isInfinite | ⟨q, value, _⟩)
    · exact absurd isInfinite (by decide +kernel)
    · have isNan : Binary64.nan.form = .nan := by decide +kernel
      simp [Binary64.value?, isNan] at value

end Accepted
end FenceCheck.Settings
