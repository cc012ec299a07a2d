import FenceCheck.Proofs.Cli.Words

/-! What is recognised of a whole command line: the switches before the command and those of the command.
The flags and the format that are read off a command line are those of the recognised switches. -/
namespace FenceCheck.Cli
variable {g : Globals} {s : Switch} {v : Value} {words extras left : List String}
variable {readings : List (String × Reading)} {i : Invocation} {name : String} {c : Command}

def Command.asksJson : Command → Bool
  | .scan a => a.json
  | .languages json => json
  | .validateReport json _ => json
  | .version json => json

/-- What a command takes beside its switches. -/
def Command.operands : Command → List String
  | .scan a => a.paths
  | _ => []

/-- The switches that a command has. -/
def switchesOf (name : String) : List Switch :=
  match name with
  | "scan" => scanSwitches
  | "validate-report" => validateSwitches
  | _ => plainSwitches

/-- The command that is made of what a faithful part has read. -/
theorem Faithful.command {σ : Type} {part : Part σ} {json : σ → Bool} {operands : σ → List String}
    (faithful : Faithful part json operands) {start : σ} (fresh : operands start = [])
    (unflagged : json start = false) {next : σ × List String → Except Exit (Command × List String)}
    (makes : ∀ a more, next (a, more) = .ok (c, extras) →
      c.asksJson = json a ∧ c.operands = operands a ∧ extras = more)
    (done : (part.readAll start words >>= next) = .ok (c, extras)) :
    c.asksJson = (commandSwitches part.switches words).any (·.switch = jsonSwitch) ∧
      ∀ w, IsSwitch part.switches w → w ≠ "--" →
        (w ∈ words ↔ (w ∈ c.operands ∨ w ∈ extras) ∨
          ∃ t ∈ commandSwitches part.switches words, t.word = w) := by
  obtain ⟨⟨a, more⟩, all, done⟩ := exists_of_bind done
  obtain ⟨flag, operands, rfl⟩ := makes a more done
  obtain ⟨flagged, places⟩ := faithful.readAll fresh all
  rw [flag, operands, flagged, unflagged, Bool.false_or]
  exact ⟨rfl, places⟩

theorem readCommand_spec (done : readCommand name words = .ok (c, extras)) : name ∈ commandWords ∧
    c.asksJson = (commandSwitches (switchesOf name) words).any (·.switch = jsonSwitch) ∧
    ∀ w, IsSwitch (switchesOf name) w → w ≠ "--" →
      (w ∈ words ↔ (w ∈ c.operands ∨ w ∈ extras) ∨
        ∃ t ∈ commandSwitches (switchesOf name) words, t.word = w) := by
  unfold readCommand at done
  split at done
  · refine ⟨by decide, faithful_scanPart.command rfl rfl ?_ done⟩
    rintro a more ⟨⟩
    exact ⟨rfl, rfl, rfl⟩
  · refine ⟨by decide, (faithful_plainPart _ _).command rfl rfl ?_ done⟩
    rintro json more ⟨⟩
    exact ⟨rfl, rfl, rfl⟩
  · refine ⟨by decide, faithful_validatePart.command rfl rfl ?_ done⟩
    intro a more made
    dsimp only at made
    split at made
    · obtain ⟨⟩ := made
      exact ⟨rfl, rfl, rfl⟩
    · contradiction
  · refine ⟨by decide, (faithful_plainPart _ _).command rfl rfl ?_ done⟩
    rintro json more ⟨⟩
    exact ⟨rfl, rfl, rfl⟩
  · contradiction

/-- The switches before the command, and the command with the words that are its own. -/
def leading (words : List (String × Reading)) : List Taken × List String :=
  match words with
  | [] => ([], [])
  | (_, .unknown) :: rest => leading rest
  | (word, .switch s spelled attached) :: rest =>
    match _h : takeValue programSwitches s spelled attached rest with
    | .error _ => ([], [])
    | .ok (v, left) => (⟨word, s, v⟩ :: (leading left).1, (leading left).2)
  | (word, _) :: rest => ([], word :: rest.map Prod.fst)
termination_by words.length
decreasing_by
  · simp
  · have := takeValue_length _h
    simp only [List.length_cons]
    omega

/-- The switches of a command line: those before the command, and those of the command. -/
def recognised (argv : List String) : List Taken :=
  match readWords programSwitches argv with
  | .error _ => []
  | .ok readings =>
    match leading readings with
    | (taken, []) => taken
    | (taken, name :: words) => taken ++ commandSwitches (switchesOf name) words

/-- The value that a switch is given last. -/
def lastValue (s : Switch) : List Taken → Option Value
  | [] => none
  | t :: rest => (lastValue s rest).or (if t.switch = s then some t.value else none)

theorem checkChoice_eq_ok_iff {choices : List String} {u : Unit} : checkChoice s choices v = .ok u ↔
    v = .nothing ∨ ∃ choice ∈ choices, v = .given choice := by
  cases v with
  | nothing => simp [checkChoice]
  | given text => by_cases listed : text ∈ choices <;> simp [checkChoice, listed]

theorem ok_of_ite {ε α : Type} {refused : Prop} [Decidable refused] {e : ε} {a b : α}
    (done : (if refused then .error e else .ok a : Except ε α) = .ok b) : a = b := by
  split at done
  · contradiction
  · exact Except.ok.inj done

/-- What a switch of the program does to the two settings of the format. -/
theorem applyGlobal_spec {g' : Globals} (listed : s ∈ programSwitches)
    (applied : applyGlobal g s v = .ok g') :
    g'.json = (g.json || s = jsonSwitch) ∧
      g'.format = (if s = formatSwitch then v.text? else g.format) ∧
      (s = formatSwitch → v = .nothing ∨ v = .given "text" ∨ v = .given "json") := by
  have keeps (json : g'.json = g.json) (format : g'.format = g.format) (notJson : s ≠ jsonSwitch)
      (notFormat : s ≠ formatSwitch) : g'.json = (g.json || s = jsonSwitch) ∧
        g'.format = (if s = formatSwitch then v.text? else g.format) ∧
        (s = formatSwitch → v = .nothing ∨ v = .given "text" ∨ v = .given "json") := by
    simp [json, format, notJson, notFormat]
  simp only [programSwitches, List.mem_cons, List.not_mem_nil, or_false] at listed
  rcases listed with rfl | rfl | rfl | rfl | rfl | rfl | rfl | rfl | rfl
  · contradiction
  · contradiction
  · obtain rfl := Except.ok.inj applied
    exact ⟨(Bool.or_true _).symm, rfl, fun same => absurd same (by decide)⟩
  · change ((checkChoice formatSwitch ["text", "json"] v).mapError program.refuse >>=
      fun _ => .ok { g with format := v.text? }) = .ok g' at applied
    obtain ⟨u, checked, applied⟩ := exists_of_bind applied
    obtain rfl := Except.ok.inj applied
    have chosen := checkChoice_eq_ok_iff.mp (ok_of_mapError checked)
    exact ⟨(Bool.or_false _).symm, rfl, fun _ => by simpa using chosen⟩
  · obtain rfl := Except.ok.inj applied
    exact keeps rfl rfl (by decide) (by decide)
  · obtain rfl := Except.ok.inj applied
    exact keeps rfl rfl (by decide) (by decide)
  · obtain rfl := Except.ok.inj applied
    exact keeps rfl rfl (by decide) (by decide)
  · obtain rfl := ok_of_ite applied
    exact keeps rfl rfl (by decide) (by decide)
  · obtain rfl := ok_of_ite applied
    exact keeps rfl rfl (by decide) (by decide)

section Leading
variable {word spelled : String} {attached : Option String} {rest more : List (String × Reading)}

theorem leading_unknown : leading ((word, .unknown) :: rest) = leading rest := by
  rw [leading]

theorem leading_switch (taken : takeValue programSwitches s spelled attached rest = .ok (v, more)) :
    leading ((word, .switch s spelled attached) :: rest) =
      (⟨word, s, v⟩ :: (leading more).1, (leading more).2) := by
  rw [leading]
  split
  · rename_i failed
    simp [taken] at failed
  · rename_i taken'
    obtain ⟨rfl, rfl⟩ := Prod.mk.inj (Except.ok.inj (taken.symm.trans taken'))
    rfl

theorem leading_command {reading : Reading} (unknown : reading ≠ .unknown)
    (other : ∀ s spelled attached, reading ≠ .switch s spelled attached) :
    leading ((word, reading) :: rest) = ([], word :: rest.map Prod.fst) := by
  cases reading with
  | switch s spelled attached => exact absurd rfl (other s spelled attached)
  | unknown => contradiction
  | _ => simp [leading]

end Leading

/-- What the switches before the command say of the format, and where the words of the command line are. -/
structure Preface (g : Globals) (words : List String) (i : Invocation) (taken : List Taken) (name : String)
    (rest : List String) : Prop where
  json : i.globals.json = (g.json || taken.any (·.switch = jsonSwitch))
  format : i.globals.format = ((lastValue formatSwitch taken).map Value.text?).getD g.format
  choices : ∀ t ∈ taken, t.switch = formatSwitch →
    t.value = .nothing ∨ t.value = .given "text" ∨ t.value = .given "json"
  places : ∀ w, IsSwitch programSwitches w → (w ∈ words ↔ w ∈ name :: rest ∨ ∃ t ∈ taken, t.word = w)

theorem Preface.switch {g' : Globals} {words' : List String} {taken : List Taken} {rest : List String}
    {word : String} (preface : Preface g' words' i taken name rest) (listed : s ∈ programSwitches)
    (applied : applyGlobal g s v = .ok g')
    (places : ∀ w, IsSwitch programSwitches w → (w ∈ words ↔ w ∈ words')) :
    Preface g (word :: words) i (⟨word, s, v⟩ :: taken) name rest := by
  obtain ⟨json, format, choice⟩ := applyGlobal_spec listed applied
  constructor
  · rw [preface.json, json, List.any_cons, Bool.or_assoc]
  · rw [preface.format, format, lastValue]
    cases lastValue formatSwitch taken with
    | some v => rfl
    | none => by_cases named : s = formatSwitch <;> simp [named]
  · exact List.forall_mem_cons.mpr ⟨choice, preface.choices⟩
  · intro w isSwitch
    rw [List.mem_cons, places w isSwitch, preface.places w isSwitch, eq_comm]
    simp only [List.mem_cons, exists_eq_or_imp]
    exact or_left_comm

theorem readProgram_spec (reads : Reads programSwitches words readings)
    (done : readProgram g extras readings = .ok (i, left)) :
    ∃ taken name rest more, leading readings = (taken, name :: rest) ∧
      readCommand name rest = .ok (i.command, more) ∧ (left = [] → more = []) ∧
      Preface g words i taken name rest := by
  fun_induction readProgram g extras readings generalizing words with
  | case1 => contradiction
  | case2 g extras word rest ih =>
    cases reads with
    | word read others =>
      obtain ⟨taken, name, rest', more, led, command, none_, preface⟩ := ih others done
      refine ⟨taken, name, rest', more, by rw [leading_unknown, led], command, none_,
        preface.json, preface.format, preface.choices, ?_⟩
      intro w isSwitch
      have other : w ≠ word := by
        rintro rfl
        obtain ⟨s, spelled, attached, isSwitch⟩ := isSwitch
        simp [read] at isSwitch
      rw [List.mem_cons, or_iff_right other, preface.places w isSwitch]
  | case3 => contradiction
  | case4 => contradiction
  | case5 g extras word s spelled attached rest v remaining takes g' applied ih =>
    cases reads with
    | word read others =>
      obtain ⟨words', reads', passed⟩ := others.takeValue takes
      obtain ⟨taken, name, rest', more, led, command, none_, preface⟩ := ih reads' done
      refine ⟨⟨word, s, v⟩ :: taken, name, rest', more, ?_, command, none_,
        preface.switch (mem_of_readWord read) applied passed⟩
      rw [leading_switch takes, led]
  | case6 => contradiction
  | case7 g extras word reading rest noUnknown noSwitch =>
    obtain ⟨⟨c, more⟩, command, done⟩ := exists_of_bind done
    obtain ⟨rfl, rfl⟩ := Prod.mk.inj (Except.ok.inj done)
    refine ⟨[], word, rest.map Prod.fst, more, leading_command noUnknown noSwitch, command, ?_,
      (Bool.or_false _).symm, rfl, by simp, ?_⟩
    · simp
    · intro w _
      rw [← reads.words_eq]
      simp

theorem lastValue_eq_none {taken : List Taken} (none_ : ∀ t ∈ taken, t.switch ≠ s) :
    lastValue s taken = none := by
  induction taken with
  | nil => rfl
  | cons t rest ih =>
    obtain ⟨here, later⟩ := List.forall_mem_cons.mp none_
    rw [lastValue, ih later, if_neg here]
    rfl

theorem lastValue_append (s : Switch) (before after : List Taken) :
    lastValue s (before ++ after) = (lastValue s after).or (lastValue s before) := by
  induction before with
  | nil => simp [lastValue]
  | cons t rest ih => rw [List.cons_append, lastValue, ih, lastValue, Option.or_assoc]

theorem exists_of_lastValue {taken : List Taken} (last : lastValue s taken = some v) :
    ∃ t ∈ taken, t.switch = s ∧ t.value = v := by
  induction taken with
  | nil => contradiction
  | cons t rest ih =>
    rcases Option.or_eq_some_iff.mp last with later | ⟨_, here⟩
    · obtain ⟨t', member, found⟩ := ih later
      exact ⟨t', List.mem_cons_of_mem t member, found⟩
    · obtain ⟨same, here⟩ := Option.ite_none_right_eq_some.mp here
      exact ⟨t, List.mem_cons_self, same, Option.some.inj here⟩

theorem listed_switchesOf (name : String) :
    (spellings (switchesOf name)).lookup "--json" = some jsonSwitch ∧
      formatSwitch ∉ switchesOf name := by
  unfold switchesOf
  split <;> decide

theorem isSwitch_json {switches : List Switch}
    (listed : (spellings switches).lookup "--json" = some jsonSwitch) : IsSwitch switches "--json" :=
  ⟨jsonSwitch, "--json", none, readWord_json listed⟩

/-- What is recognised of a command line that is read: the flags tell whether there is a JSON switch, the
format is that of the last switch that names one, and the word `--json` is such a switch or an operand. -/
theorem readArguments_spec {argv : List String} (parsed : readArguments argv = .ok i) :
    ((∃ t ∈ recognised argv, t.switch = jsonSwitch) ↔
      i.globals.json = true ∨ i.command.asksJson = true) ∧
    i.globals.format = (lastValue formatSwitch (recognised argv)).bind Value.text? ∧
    (∀ v, lastValue formatSwitch (recognised argv) = some v →
      v = .nothing ∨ v = .given "text" ∨ v = .given "json") ∧
    ("--json" ∈ argv ↔ (∃ t ∈ recognised argv, t.word = "--json") ∨ "--json" ∈ i.command.operands) := by
  rw [readArguments] at parsed
  obtain ⟨readings, read, parsed⟩ := exists_of_bind parsed
  replace read := ok_of_mapError read
  obtain ⟨⟨i', left⟩, all, parsed⟩ := exists_of_bind parsed
  dsimp only at parsed
  split at parsed
  · rename_i nothing
    obtain rfl := Except.ok.inj parsed
    obtain ⟨taken, name, words, more, led, command, none_, preface⟩ :=
      readProgram_spec (reads_of_readWords read) all
    obtain rfl := none_ nothing
    obtain ⟨known, flag, places⟩ := readCommand_spec command
    obtain ⟨listed, noFormat⟩ := listed_switchesOf name
    have whole : recognised argv = taken ++ commandSwitches (switchesOf name) words := by
      rw [recognised, read]
      simp only [led]
    have unnamed : lastValue formatSwitch (commandSwitches (switchesOf name) words) = none := by
      refine lastValue_eq_none fun t among same => noFormat ?_
      exact same ▸ mem_commandSwitches among
    rw [whole, lastValue_append, unnamed, Option.none_or]
    refine ⟨?_, ?_, ?_, ?_⟩
    · simp [preface.json, flag, or_and_right, exists_or]
    · rw [preface.format]
      cases lastValue formatSwitch taken <;> rfl
    · intro v last
      obtain ⟨t, member, same, rfl⟩ := exists_of_lastValue last
      exact preface.choices t member same
    · have other : "--json" ≠ name := by
        rintro rfl
        exact absurd known (by decide)
      rw [preface.places _ (isSwitch_json (by decide)), List.mem_cons, or_iff_right other,
        places _ (isSwitch_json listed) (by decide)]
      simp only [List.not_mem_nil, or_false, List.mem_append, or_and_right, exists_or]
      exact or_comm.trans ((or_congr_right or_comm).trans or_assoc.symm)
  · contradiction

end FenceCheck.Cli
