import FenceCheck.Text.Digit
import FenceCheck.Text.Quoted

/-!
How the words of a command line are read. A word is a switch, possibly with a value attached to it, or
an operand; a switch may be shortened as long as it stays the only one that fits. All words are
classified before any of them takes effect. Then the switches take effect in order, each with its value,
while the words between them are operands.
-/
namespace FenceCheck.Cli
open FenceCheck.Text

structure Switch where
  names : List String
  takesValue : Bool
  deriving DecidableEq, Repr

def Switch.label (s : Switch) : String := String.intercalate "/" s.names

/-- What a word of the command line is. -/
inductive Reading where
  | operand
  | separator
  /-- A switch as it was spelled, with the value attached to it. -/
  | switch (s : Switch) (spelled : String) (attached : Option String)
  | unknown
  deriving DecidableEq, Repr

/-- A switch among others that a word may stand for. -/
structure Candidate where
  switch : Switch
  spelled : String
  attached : Option String
  deriving DecidableEq, Repr

def spellings (switches : List Switch) : List (String × Switch) :=
  switches.flatMap fun s => s.names.map fun name => (name, s)

def cutAtEquals (word : List Char) : List Char × Option (List Char) :=
  match word.dropWhile (· ≠ '=') with
  | [] => (word, none)
  | _ :: value => (word.takeWhile (· ≠ '='), some value)

/-- What a word that spells no switch out may stand for. Before a value, a word with two hyphens may be
shortened; a word with one hyphen is a switch of one letter with its value attached. -/
def candidates (switches : List Switch) (word : List Char) : List Candidate :=
  match word with
  | '-' :: '-' :: _ =>
    let (start, value) := cutAtEquals word
    (spellings switches).filterMap fun (name, s) =>
      if start.isPrefixOf name.toList then some ⟨s, name, value.map String.ofList⟩ else none
  | _ =>
    (spellings switches).filterMap fun (name, s) =>
      if name.toList = word.take 2 then some ⟨s, name, some (String.ofList (word.drop 2))⟩
      else if word.isPrefixOf name.toList then some ⟨s, name, none⟩
      else none

/-- Whether digits of any script follow, and perhaps one line feed. -/
def isDigits (s : List Char) : Bool :=
  match s.dropWhile fun c => (digitValue? c).isSome with
  | [] | ['\n'] => (s.head?.bind digitValue?).isSome
  | _ => false

def isNegativeNumber : List Char → Bool
  | '-' :: rest =>
    isDigits rest
      || match rest.dropWhile fun c => (digitValue? c).isSome with
        | '.' :: fraction => isDigits fraction
        | _ => false
  | _ => false

/-- What a word is; an error if it may stand for several switches. -/
def readWord (switches : List Switch) (word : String) : Except String Reading :=
  let cs := word.toList
  if cs.head? ≠ some '-' then .ok .operand
  else match (spellings switches).lookup word with
    | some s => .ok (.switch s word none)
    | none =>
      if cs.length = 1 then .ok .operand
      else
        let (start, value) := cutAtEquals cs
        match value.bind fun v => ((spellings switches).lookup (String.ofList start)).map (·, v) with
        | some (s, v) => .ok (.switch s (String.ofList start) (some (String.ofList v)))
        | none =>
          match candidates switches cs with
          | [c] => .ok (.switch c.switch c.spelled c.attached)
          | [] =>
            if isNegativeNumber cs || cs.contains ' ' then .ok .operand else .ok .unknown
          | several =>
            .error ("ambiguous option: " ++ word ++ " could match "
              ++ String.intercalate ", " (several.map (·.spelled)))

/-- What the words are. All words after a double hyphen are operands. -/
def readWords (switches : List Switch) : List String → Except String (List (String × Reading))
  | [] => .ok []
  | word :: rest =>
    if word = "--" then .ok ((word, .separator) :: rest.map (·, .operand))
    else do
      let reading ← readWord switches word
      return (word, reading) :: (← readWords switches rest)

/-- A value of a switch. An attached double hyphen is taken away, which leaves no value at all. -/
inductive Value where
  | nothing
  | given (s : String)
  deriving DecidableEq, Repr

def switchFault (s : Switch) (message : String) : String :=
  "argument " ++ s.label ++ ": " ++ message

/-- Switches of one letter that are written in one word after another one. Only such that take no value
can stand there. -/
def checkCluster (switches : List Switch) (s : Switch) : List Char → Except String Unit
  | [] => .ok ()
  | c :: rest =>
    match (spellings switches).lookup (String.ofList ['-', c]) with
    | some next => checkCluster switches next rest
    | none => .error (switchFault s ("ignored explicit argument " ++ quoted (String.ofList (c :: rest))))

/-- The value of a switch, and the words that are left after it. -/
def takeValue (switches : List Switch) (s : Switch) (spelled : String) (attached : Option String)
    (rest : List (String × Reading)) : Except String (Value × List (String × Reading)) :=
  match attached, s.takesValue with
  | some v, true => .ok (if v = "--" then .nothing else .given v, rest)
  | none, true =>
    match rest with
    | (word, .operand) :: rest => .ok (.given word, rest)
    | _ => .error (switchFault s "expected one argument")
  | none, false => .ok (.nothing, rest)
  | some v, false =>
    if spelled.startsWith "--" || v = "" then
      .error (switchFault s ("ignored explicit argument " ++ quoted v))
    else do
      checkCluster switches s v.toList
      return (.nothing, rest)

theorem takeValue_length {switches s spelled attached rest value left}
    (h : takeValue switches s spelled attached rest = .ok (value, left)) :
    left.length ≤ rest.length := by
  unfold takeValue at h
  split at h
  · cases h; exact Nat.le_refl _
  · split at h
    · cases h; exact Nat.le_succ _
    · cases h
  · cases h; exact Nat.le_refl _
  · split at h
    · cases h
    · cases hc : checkCluster switches s ‹String›.toList with
      | error e => simp only [hc, bind, Except.bind, reduceCtorEq] at h
      | ok u =>
        simp only [hc, bind, Except.bind, pure, Except.pure, Except.ok.injEq, Prod.mk.injEq] at h
        exact Nat.le_of_eq (congrArg List.length h.2.symm)

/-- The operands that stand together at the start of the words, and the words after them. -/
def takeOperands : List (String × Reading) → List String × List (String × Reading)
  | (word, .operand) :: rest =>
    let (more, left) := takeOperands rest
    (word :: more, left)
  | (word, .separator) :: rest =>
    let (more, left) := takeOperands rest
    (word :: more, left)
  | rest => ([], rest)

end FenceCheck.Cli
