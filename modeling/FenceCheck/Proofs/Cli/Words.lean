import FenceCheck.Cli.Arguments
import FenceCheck.Proofs.Bindings

/-! Which words of a command line are switches. They are found among the words that were read, without
regard to what they do; what a reader does with them is told by them alone, and no word of a command
line is lost: each is a switch, the value of one, the command, an operand, or one of those left over. -/
namespace FenceCheck.Cli

/-- A switch that takes effect, with the word it stands in and the value it takes. -/
structure Taken where
  word : String
  switch : Switch
  value : Value
  deriving DecidableEq

def jsonSwitch : Switch := plain "--json"

def formatSwitch : Switch := valued "--format"

/-- The switches among words that were read, each with its value, as far as values go. -/
def switchesAmong (switches : List Switch) (words : List (String × Reading)) : List Taken :=
  match words with
  | [] => []
  | (word, .switch s spelled attached) :: rest =>
    match _h : takeValue switches s spelled attached rest with
    | .error _ => []
    | .ok (v, left) => ⟨word, s, v⟩ :: switchesAmong switches left
  | _ :: rest => switchesAmong switches rest
termination_by words.length
decreasing_by
  · have := takeValue_length _h
    simp only [List.length_cons]
    omega
  · simp

section Readings
variable {switches : List Switch} {word spelled : String} {s : Switch} {attached : Option String}
variable {v : Value} {readings rest left : List (String × Reading)} {words : List String}

/-- How words are read: one by one up to a double hyphen, and all that follow it are operands. -/
inductive Reads (switches : List Switch) : List String → List (String × Reading) → Prop where
  | nil : Reads switches [] []
  | separator (rest : List String) :
      Reads switches ("--" :: rest) (("--", .separator) :: rest.map (·, .operand))
  | word {word : String} {reading : Reading} {rest : List String} {readings : List (String × Reading)} :
      readWord switches word = .ok reading → Reads switches rest readings →
      Reads switches (word :: rest) ((word, reading) :: readings)

theorem reads_of_readWords (read : readWords switches words = .ok readings) :
    Reads switches words readings := by
  induction words generalizing readings with
  | nil =>
    obtain rfl := Except.ok.inj read
    exact .nil
  | cons word rest ih =>
    rw [readWords] at read
    split at read
    · rename_i isSeparator
      subst isSeparator
      obtain rfl := Except.ok.inj read
      exact .separator rest
    · obtain ⟨reading, first, read⟩ := exists_of_bind read
      obtain ⟨more, others, read⟩ := exists_of_bind read
      obtain rfl := Except.ok.inj read
      exact .word first (ih others)

theorem Reads.words_eq (reads : Reads switches words readings) : readings.map Prod.fst = words := by
  induction reads with
  | nil => rfl
  | separator rest => simp [Function.comp_def]
  | word _ _ ih => rw [List.map_cons, ih]

theorem readWords_cons {reading : Reading} {rest : List String} (plain : word ≠ "--")
    (read : readWord switches word = .ok reading) (others : readWords switches rest = .ok readings) :
    readWords switches (word :: rest) = .ok ((word, reading) :: readings) := by
  rw [readWords, if_neg plain, read, others]
  rfl

theorem ne_separator (plain : word.toList.head? ≠ some '-') : word ≠ "--" := by
  rintro rfl
  exact plain (by decide)

theorem readWord_operand (plain : word.toList.head? ≠ some '-') (switches : List Switch) :
    readWord switches word = .ok .operand := by
  rw [readWord, if_pos plain]

theorem readWords_operand (plain : word.toList.head? ≠ some '-') (switches : List Switch) :
    readWords switches [word] = .ok [(word, .operand)] :=
  readWords_cons (ne_separator plain) (readWord_operand plain switches) rfl

/-- Switches of a scan that say nothing before the command. -/
theorem unknown_ahead : ∀ word ∈ ["--on-read-error", "--out", "--language"],
    readWord programSwitches word = .ok .unknown := by
  decide +kernel

/-- The words after `scan` are the words of the scan, where nothing is wrong with them ahead of it. -/
theorem parsed_scan {a : ScanArguments} (ahead : readWords programSwitches words = .ok readings)
    (read : scanPart.readAll {} words = .ok (a, [])) :
    readArguments ("scan" :: words) = .ok ⟨{}, .scan a⟩ := by
  have all : readWords programSwitches ("scan" :: words) = .ok (("scan", .operand) :: readings) :=
    readWords_cons (by decide) rfl ahead
  rw [readArguments, all]
  simp [readProgram, readCommand, (reads_of_readWords ahead).words_eq, read]

theorem switchesAmong_switch (taken : takeValue switches s spelled attached rest = .ok (v, left)) :
    switchesAmong switches ((word, .switch s spelled attached) :: rest) =
      ⟨word, s, v⟩ :: switchesAmong switches left := by
  rw [switchesAmong]
  split
  · rename_i failed
    simp [taken] at failed
  · rename_i taken'
    obtain ⟨rfl, rfl⟩ := Prod.mk.inj (Except.ok.inj (taken.symm.trans taken'))
    rfl

theorem switchesAmong_other {reading : Reading}
    (other : ∀ s spelled attached, reading ≠ .switch s spelled attached) :
    switchesAmong switches ((word, reading) :: rest) = switchesAmong switches rest := by
  cases reading with
  | switch s spelled attached => exact absurd rfl (other s spelled attached)
  | _ => simp [switchesAmong]

theorem mem_of_spellings {name : String} (listed : (name, s) ∈ spellings switches) : s ∈ switches := by
  obtain ⟨s', member, named⟩ := List.mem_flatMap.mp listed
  obtain ⟨_, _, same⟩ := List.mem_map.mp named
  exact (Prod.mk.inj same).2 ▸ member

theorem mem_of_candidates {cs : List Char} {c : Candidate} (candidate : c ∈ candidates switches cs) :
    c.switch ∈ switches := by
  unfold candidates at candidate
  split at candidate
  · obtain ⟨⟨name, s⟩, listed, fits⟩ := List.mem_filterMap.mp candidate
    obtain ⟨_, fits⟩ := Option.ite_none_right_eq_some.mp fits
    exact Option.some.inj fits ▸ mem_of_spellings listed
  · obtain ⟨⟨name, s⟩, listed, fits⟩ := List.mem_filterMap.mp candidate
    dsimp only at fits
    split_ifs at fits
    · exact Option.some.inj fits ▸ mem_of_spellings listed
    · exact Option.some.inj fits ▸ mem_of_spellings listed

/-- A word that is read as a switch is read as one of those that there are. -/
theorem mem_of_readWord (read : readWord switches word = .ok (.switch s spelled attached)) :
    s ∈ switches := by
  simp only [readWord] at read
  split at read
  · simp at read
  · split at read
    · rename_i s' found
      obtain ⟨rfl, _⟩ := Reading.switch.inj (Except.ok.inj read)
      exact mem_of_spellings (Bindings.mem_of_lookup found)
    · split at read
      · simp at read
      · split at read
        · rename_i s' v found
          obtain ⟨rfl, _⟩ := Reading.switch.inj (Except.ok.inj read)
          obtain ⟨_, _, attaching⟩ := Option.bind_eq_some_iff.mp found
          obtain ⟨_, named, same⟩ := Option.map_eq_some_iff.mp attaching
          obtain ⟨rfl, _⟩ := Prod.mk.inj same
          exact mem_of_spellings (Bindings.mem_of_lookup named)
        · split at read
          · rename_i c only
            obtain ⟨rfl, _⟩ := Reading.switch.inj (Except.ok.inj read)
            exact mem_of_candidates (by rw [only]; exact List.mem_singleton_self c)
          · split at read <;> simp at read
          · contradiction

/-- The JSON switch, spelled out, is read as itself. -/
theorem readWord_json (listed : (spellings switches).lookup "--json" = some jsonSwitch) :
    readWord switches "--json" = .ok (.switch jsonSwitch "--json" none) := by
  simp [readWord, listed]

/-- Whether a word that stands alone is read as a switch. -/
def IsSwitch (switches : List Switch) (word : String) : Prop :=
  ∃ s spelled attached, readWord switches word = .ok (.switch s spelled attached)

theorem not_isSwitch_of_operand (read : readWord switches word = .ok .operand) :
    ¬ IsSwitch switches word := by
  rintro ⟨s, spelled, attached, isSwitch⟩
  simp [read] at isSwitch

theorem takeValue_cases (taken : takeValue switches s spelled attached rest = .ok (v, left)) :
    left = rest ∨ ∃ word, rest = (word, .operand) :: left := by
  unfold takeValue at taken
  split at taken
  · exact .inl (Prod.mk.inj (Except.ok.inj taken)).2.symm
  · split at taken
    · rename_i word rest
      obtain ⟨_, rfl⟩ := Prod.mk.inj (Except.ok.inj taken)
      exact .inr ⟨word, rfl⟩
    · contradiction
  · exact .inl (Prod.mk.inj (Except.ok.inj taken)).2.symm
  · split at taken
    · contradiction
    · obtain ⟨_, _, taken⟩ := exists_of_bind taken
      exact .inl (Prod.mk.inj (Except.ok.inj taken)).2.symm

/-- What is left after the value of a switch is read in the same way, and no switch is taken for a
value. -/
theorem Reads.takeValue (reads : Reads switches words rest)
    (taken : takeValue switches s spelled attached rest = .ok (v, left)) :
    ∃ words', Reads switches words' left ∧
      ∀ word, IsSwitch switches word → (word ∈ words ↔ word ∈ words') := by
  rcases takeValue_cases taken with rfl | ⟨value, rfl⟩
  · exact ⟨words, reads, fun _ _ => Iff.rfl⟩
  · cases reads with
    | word read others =>
      refine ⟨_, others, fun word isSwitch => ?_⟩
      have other : word ≠ value := by
        rintro rfl
        exact not_isSwitch_of_operand read isSwitch
      simp [other]

theorem takeOperands_map (words : List String) :
    takeOperands (words.map (·, .operand)) = (words, []) := by
  induction words with
  | nil => rfl
  | cons word rest ih => rw [List.map_cons, takeOperands, ih]

theorem takeOperands_cons {reading : Reading} (unknown : reading ≠ .unknown)
    (other : ∀ s spelled attached, reading ≠ .switch s spelled attached) :
    takeOperands ((word, reading) :: rest) = (word :: (takeOperands rest).1, (takeOperands rest).2) := by
  cases reading with
  | switch s spelled attached => exact absurd rfl (other s spelled attached)
  | unknown => contradiction
  | _ => rfl

/-- Operands are passed over on the way to the next switch. -/
theorem switchesAmong_takeOperands (switches : List Switch) (readings : List (String × Reading)) :
    switchesAmong switches (takeOperands readings).2 = switchesAmong switches readings := by
  fun_induction takeOperands readings with
  | case1 word rest more left split ih =>
    rw [split] at ih
    rw [ih, switchesAmong_other (by simp)]
  | case2 word rest more left split ih =>
    rw [split] at ih
    rw [ih, switchesAmong_other (by simp)]
  | case3 => rfl

theorem Reads.takeOperands (reads : Reads switches words readings) :
    ∃ words', Reads switches words' (takeOperands readings).2 ∧
      words = (Cli.takeOperands readings).1 ++ words' := by
  induction reads with
  | nil => exact ⟨[], .nil, rfl⟩
  | separator rest =>
    refine ⟨[], ?_, ?_⟩ <;> simp [Cli.takeOperands, takeOperands_map, Reads.nil]
  | @word word reading rest readings read others ih =>
    obtain ⟨words', left, whole⟩ := ih
    by_cases operand : reading = .operand
    · subst operand
      exact ⟨words', left, by rw [Cli.takeOperands, whole]; rfl⟩
    · by_cases separator : reading = .separator
      · subst separator
        exact ⟨words', left, by rw [Cli.takeOperands, whole]; rfl⟩
      · have stays : Cli.takeOperands ((word, reading) :: readings) = ([], (word, reading) :: readings) := by
          cases reading with
          | operand => contradiction
          | separator => contradiction
          | _ => rfl
        rw [stays]
        exact ⟨_, .word read others, rfl⟩

theorem mem_switchesAmong {t : Taken} (reads : Reads switches words readings)
    (among : t ∈ switchesAmong switches readings) : t.switch ∈ switches := by
  fun_induction switchesAmong switches readings generalizing words with
  | case1 => contradiction
  | case2 => contradiction
  | case3 word s spelled attached rest v left takes ih =>
    cases reads with
    | word read others =>
      obtain ⟨words', reads', _⟩ := others.takeValue takes
      rcases List.mem_cons.mp among with rfl | later
      · exact mem_of_readWord read
      · exact ih reads' later
  | case4 e rest noSwitch ih =>
    cases reads with
    | separator rest =>
      rw [← switchesAmong_takeOperands, takeOperands_map] at among
      simp [switchesAmong] at among
    | word read others => exact ih others among

end Readings

section Parts
variable {σ : Type} {part : Part σ} {json : σ → Bool} {operands : σ → List String}
variable {p q : Progress σ} {words : List String} {readings : List (String × Reading)}

/-- A part of the command line that knows the JSON switch, whose flag is set by that switch only, and
whose operands are those it is given. -/
structure Faithful (part : Part σ) (json : σ → Bool) (operands : σ → List String) : Prop where
  listed : (spellings part.switches).lookup "--json" = some jsonSwitch
  flag : ∀ {a s v a'}, s ∈ part.switches → s ≠ helpSwitch → part.apply a s v = .ok a' →
    json a' = (json a || s = jsonSwitch) ∧ operands a' = operands a
  takes : ∀ {take}, part.takeOperands = some take →
    ∀ a words, json (take a words) = json a ∧ operands (take a words) = words

/-- The flag is set by the switches among the words. -/
theorem Faithful.read (faithful : Faithful part json operands) (reads : Reads part.switches words readings)
    (done : part.read p readings = .ok q) : json q.state =
      (json p.state || (switchesAmong part.switches readings).any (·.switch = jsonSwitch)) := by
  fun_induction Part.read part p readings generalizing words with
  | case1 p =>
    obtain rfl := Except.ok.inj done
    simp [switchesAmong]
  | case2 p word rest ih =>
    cases reads with
    | word _ others =>
      rw [switchesAmong_other (by simp)]
      exact ih others done
  | case3 => contradiction
  | case4 => contradiction
  | case5 => contradiction
  | case6 p word s spelled attached rest v left taken other state applied ih =>
    cases reads with
    | word read others =>
      have flagged := (faithful.flag (mem_of_readWord read) other applied).1
      obtain ⟨words', reads, _⟩ := others.takeValue taken
      rw [switchesAmong_switch taken, ih reads done, flagged, List.any_cons, Bool.or_assoc]
  | case7 p word reading rest noUnknown noSwitch run take untaken takes =>
    rename_i ih
    obtain ⟨words', others, _⟩ := reads.takeOperands
    have together := @takeOperands_cons word rest reading noUnknown noSwitch
    rw [together] at others
    rw [ih others done, (faithful.takes takes _ _).1, switchesAmong_other noSwitch,
      switchesAmong_takeOperands]
  | case8 p word reading rest noUnknown noSwitch run takesNone =>
    rename_i ih
    obtain ⟨words', others, _⟩ := reads.takeOperands
    have together := @takeOperands_cons word rest reading noUnknown noSwitch
    rw [together] at others
    rw [ih others done, switchesAmong_other noSwitch, switchesAmong_takeOperands]

/-- A word that would be a switch where it stands alone is one, or is left among the operands or the words
that are not known. -/
theorem Faithful.mem_words_iff {w : String} (faithful : Faithful part json operands)
    (reads : Reads part.switches words readings)
    (fresh : p.operandsTaken = false → operands p.state = [])
    (done : part.read p readings = .ok q) (isSwitch : IsSwitch part.switches w) (apart : w ≠ "--") :
    (w ∈ operands p.state ∨ w ∈ p.extras) ∨ w ∈ words ↔
      (w ∈ operands q.state ∨ w ∈ q.extras) ∨ ∃ t ∈ switchesAmong part.switches readings, t.word = w := by
  fun_induction Part.read part p readings generalizing words with
  | case1 p =>
    obtain rfl := Except.ok.inj done
    cases reads
    simp [switchesAmong]
  | case2 p word rest ih =>
    cases reads with
    | word read others =>
      rw [switchesAmong_other (by simp), ← ih others fresh done]
      simp only [List.mem_append, List.mem_cons, List.not_mem_nil, or_false, or_assoc]
  | case3 => contradiction
  | case4 => contradiction
  | case5 => contradiction
  | case6 p word s spelled attached rest v left taken other state applied ih =>
    cases reads with
    | word read others =>
      have same := (faithful.flag (mem_of_readWord read) other applied).2
      obtain ⟨words', reads, passed⟩ := others.takeValue taken
      have kept := ih reads (fun untaken => by rw [same, fresh untaken]) done
      rw [same] at kept
      rw [switchesAmong_switch taken]
      rw [List.mem_cons, passed w isSwitch, eq_comm]
      simp only [List.mem_cons, exists_eq_or_imp]
      exact (or_left_comm.trans (or_congr_right kept)).trans or_left_comm
  | case7 p word reading rest noUnknown noSwitch run take untaken takes =>
    rename_i ih
    obtain ⟨words', others, rfl⟩ := reads.takeOperands
    have together := @takeOperands_cons word rest reading noUnknown noSwitch
    rw [together] at others ⊢
    have kept := ih others (by simp) done
    rw [switchesAmong_takeOperands, (faithful.takes takes _ _).2] at kept
    rw [switchesAmong_other noSwitch, ← kept, fresh untaken, List.mem_erase_of_ne apart]
    simp only [List.mem_append, List.not_mem_nil, false_or]
    exact or_left_comm.trans or_assoc.symm
  | case8 p word reading rest noUnknown noSwitch run takesNone =>
    rename_i ih
    obtain ⟨words', others, rfl⟩ := reads.takeOperands
    have together := @takeOperands_cons word rest reading noUnknown noSwitch
    rw [together] at others ⊢
    have kept := ih others fresh done
    rw [switchesAmong_takeOperands] at kept
    rw [switchesAmong_other noSwitch, ← kept]
    simp only [run, List.mem_append, or_assoc]

/-- A change that depends on a value, and leaves flag and operands alone. -/
theorem kept_of_bind {ε α : Type} {r : Except ε α} {change : α → ScanArguments} {a a' : ScanArguments}
    (done : (r >>= fun x => .ok (change x)) = .ok a')
    (keeps : ∀ x, (change x).json = a.json ∧ (change x).paths = a.paths) :
    a'.json = (a.json || false) ∧ a'.paths = a.paths := by
  obtain ⟨x, _, done⟩ := exists_of_bind done
  obtain rfl := Except.ok.inj done
  rw [Bool.or_false]
  exact keeps x

theorem faithful_scanPart : Faithful scanPart (·.json) (·.paths) where
  listed := by decide
  flag := by
    intro a s v a' listed noHelp applied
    simp only [scanPart, scanSwitches, List.mem_cons, List.not_mem_nil, or_false] at listed
    rcases listed with rfl | rfl | rfl | rfl | rfl | rfl | rfl | rfl
    · contradiction
    · obtain rfl := Except.ok.inj applied
      exact ⟨(Bool.or_false _).symm, rfl⟩
    · obtain rfl := Except.ok.inj applied
      exact ⟨(Bool.or_false _).symm, rfl⟩
    · change (readValue _ "int" _ v >>= fun given => .ok { a with jobs := some given }) = .ok a' at applied
      exact kept_of_bind applied fun _ => ⟨rfl, rfl⟩
    · change (checkChoice _ _ v >>= fun _ => .ok { a with onReadError := some v.asGiven }) = .ok a'
        at applied
      exact kept_of_bind applied fun _ => ⟨rfl, rfl⟩
    · change (readValue _ "float" _ v >>= fun given => .ok { a with timeout := some given }) = .ok a'
        at applied
      exact kept_of_bind applied fun _ => ⟨rfl, rfl⟩
    · obtain rfl := Except.ok.inj applied
      exact ⟨(Bool.or_false _).symm, rfl⟩
    · obtain rfl := Except.ok.inj applied
      exact ⟨(Bool.or_true _).symm, rfl⟩
  takes := by
    intro take takes a words
    obtain rfl := Option.some.inj takes
    exact ⟨rfl, rfl⟩

theorem faithful_validatePart : Faithful validatePart (·.json) (fun _ => []) where
  listed := by decide
  flag := by
    intro a s v a' listed noHelp applied
    simp only [validatePart, validateSwitches, List.mem_cons, List.not_mem_nil, or_false] at listed
    rcases listed with rfl | rfl | rfl
    · contradiction
    · obtain rfl := Except.ok.inj applied
      exact ⟨(Bool.or_false _).symm, rfl⟩
    · obtain rfl := Except.ok.inj applied
      exact ⟨(Bool.or_true _).symm, rfl⟩
  takes := by simp [validatePart]

theorem faithful_plainPart (name usage : String) :
    Faithful (plainPart name usage) id (fun _ => []) where
  listed := rfl
  flag := by
    intro a s v a' listed noHelp applied
    simp only [plainPart, plainSwitches, List.mem_cons, List.not_mem_nil, or_false] at listed
    rcases listed with rfl | rfl
    · contradiction
    · obtain rfl := Except.ok.inj applied
      exact ⟨(Bool.or_true _).symm, rfl⟩
  takes := by simp [plainPart]

/-- The switches among the words of a command. -/
def commandSwitches (switches : List Switch) (words : List String) : List Taken :=
  match readWords switches words with
  | .ok readings => switchesAmong switches readings
  | .error _ => []

theorem mem_commandSwitches {switches : List Switch} {t : Taken}
    (among : t ∈ commandSwitches switches words) : t.switch ∈ switches := by
  unfold commandSwitches at among
  split at among
  · rename_i readings read
    exact mem_switchesAmong (reads_of_readWords read) among
  · contradiction

theorem Faithful.readAll (faithful : Faithful part json operands) {start a : σ} {extras : List String}
    (fresh : operands start = []) (done : part.readAll start words = .ok (a, extras)) :
    json a = (json start || (commandSwitches part.switches words).any (·.switch = jsonSwitch)) ∧
      ∀ w, IsSwitch part.switches w → w ≠ "--" →
        (w ∈ words ↔ (w ∈ operands a ∨ w ∈ extras) ∨
          ∃ t ∈ commandSwitches part.switches words, t.word = w) := by
  rw [Part.readAll] at done
  obtain ⟨readings, read, done⟩ := exists_of_bind done
  replace read := ok_of_mapError read
  obtain ⟨q, finished, done⟩ := exists_of_bind done
  obtain ⟨rfl, rfl⟩ := Prod.mk.inj (Except.ok.inj done)
  have reads := reads_of_readWords read
  simp only [commandSwitches, read]
  refine ⟨faithful.read reads finished, fun w isSwitch apart => ?_⟩
  rw [← faithful.mem_words_iff reads (fun _ => fresh) finished isSwitch apart, fresh]
  simp

end Parts
end FenceCheck.Cli
