import FenceCheck.Program.Grammar
import FenceCheck.Program.Lexer
import Std.Data.HashMap

/-!
Matching a program with the grammar. Alternatives are tried in order; a rule that begins with itself is
matched again and again, each time with what it matched before, as long as it grows. Some rules are
remembered at the places they have been tried at. Rules of mistakes count only in a second attempt.
-/
namespace FenceCheck.Program

/-- A complaint that ends the matching: `final` ones are not replaced by what is wrong later in the
text. -/
structure Refusal where
  trouble : Trouble
  final : Bool

/-- What the matching knows: the place it has reached, how many tokens have been looked at, whether
mistakes count, and the rules remembered, with the place each of them ended at. -/
structure Progress where
  place : Nat := 0
  seen : Nat := 0
  mistakes : Bool := false
  remembered : Std.HashMap (Rule × Nat) (Option Node × Nat) := {}

/-- What stays the same: the tokens, the words that complaints begin with, and the check of adjacent text
tokens, which is given the line of the last token that was looked at. -/
structure Setting where
  tokens : Tokens
  label : String
  texts : List Node → Nat → Except Trouble NodeKind

/-- Matching with a progress; a complaint ends it. -/
abbrev MatchM := ExceptT Refusal (StateM Progress)

namespace Setting

variable (setting : Setting)

def labelled (t : Trouble) : Trouble := { t with message := setting.label ++ t.message }

def tokenAt (i : Nat) : MatchM Token := do
  modify fun p => { p with seen := max p.seen (i + 1) }
  match setting.tokens.all[i]? with
  | some t => return t
  | none =>
    match setting.tokens.broken with
    | some b => throw ⟨if b.loud then b.trouble else setting.labelled b.trouble, true⟩
    | none => return setting.tokens.all.back?.getD default

def lastLine : MatchM Nat := do
  return ((setting.tokens.all[(← get).seen - 1]?).map (·.line)).getD 0

def complain {α : Type} (line : Nat) (message : String) : MatchM α :=
  throw ⟨setting.labelled ⟨line, message⟩, false⟩

def takeIf (test : Token → Bool) (kind : NodeKind) : MatchM (Option Node) := do
  let t ← setting.tokenAt (← get).place
  if test t then
    modify fun p => { p with place := p.place + 1 }
    return some (.mk kind t.line t.spelling [])
  else return none

def isSpelled (s : String) (t : Token) : Bool :=
  (t.kind = .keyword || t.kind = .operator) && t.spelling = s

def digitLimit : Nat := 4300

/-- The complaint about a whole number in base ten with too many digits. -/
def numeralComplaint? (spelling : String) : Option String :=
  let digits := spelling.toList.filter (· ≠ '_')
  if digits.all Char.isDigit && digits.head? ≠ some '0' && digits.length > digitLimit then
    some ("Exceeds the limit (4300 digits) for integer string conversion: value has "
      ++ toString digits.length ++ " digits; use sys.set_int_max_str_digits() to increase the limit"
      ++ " - Consider hexadecimal for huge integer literals to avoid decimal conversion limits.")
  else none

def takeKind (k : TokenKind) : MatchM (Option Node) := do
  let found ← setting.takeIf (·.kind = k) (if k = .name then .name else .token)
  match found with
  | some n =>
    if k = .number then
      match numeralComplaint? n.text with
      | some message => setting.complain n.line message
      | none => return found
    else return found
  | none => return none

def nothing : Node := .mk .group 0 "" []

def react (reaction : Reaction) (line : Nat) : MatchM (Option Node) := do
  match reaction with
  | .value n => return some n
  | .reject => return none
  | .complain (some l) message => setting.complain l message
  | .complain none message => setting.complain (← setting.lastLine) message
  | .texts ts =>
    match setting.texts ts (← setting.lastLine) with
    | .ok kind => return some (.mk kind line "" [])
    | .error t => throw ⟨t, false⟩

mutual

def matchPart : Nat → Peg → MatchM (Option Node)
  | 0, _ => return none
  | fuel + 1, part => do
    match part with
    | .rule r => matchRule fuel r
    | .token s => setting.takeIf (isSpelled s) .token
    | .soft w => setting.takeIf (fun t => t.kind = .name && t.spelling = w) .token
    | .anySoft => setting.takeIf (fun t => t.kind = .name && softKeywords.contains t.spelling) .token
    | .kind k => setting.takeKind k
    | .forced s =>
      let t ← setting.tokenAt (← get).place
      if isSpelled s t then setting.takeIf (isSpelled s) .token
      else setting.complain t.line ("expected '" ++ s ++ "'")
    | .opt p => return some ((← matchHere fuel p).getD nothing)
    | .many p => return some (.mk .group 0 "" (← matchMany fuel p))
    | .several p =>
      match ← matchMany fuel p with
      | [] => return none
      | ns => return some (.mk .group 0 "" ns)
    | .separated separator p =>
      match ← matchHere fuel p with
      | none => return none
      | some n => return some (.mk .group 0 "" (n :: (← matchMany fuel (.inOrder 1 [separator, p]))))
    | .ahead p =>
      let place := (← get).place
      let found ← matchPart fuel p
      modify fun s => { s with place }
      return found.map fun _ => nothing
    | .notAhead p =>
      let place := (← get).place
      let found ← matchPart fuel p
      modify fun s => { s with place }
      return if found.isNone then some nothing else none
    | .cut => return some nothing
    | .choice alternatives => matchChoice fuel alternatives

/-- Matches a part; where it does not match, nothing is taken. -/
def matchHere : Nat → Peg → MatchM (Option Node)
  | 0, _ => return none
  | fuel + 1, p => do
    let place := (← get).place
    match ← matchPart fuel p with
    | some n => return some n
    | none =>
      modify fun s => { s with place }
      return none

def matchMany : Nat → Peg → MatchM (List Node)
  | 0, _ => return []
  | fuel + 1, p => do
    match ← matchHere fuel p with
    | some n => return n :: (← matchMany fuel p)
    | none => return []

/-- Matches parts in order. Whether the choice is settled is part of the answer. -/
def matchSequence : Nat → List Peg → Bool → MatchM (Option (List Node) × Bool)
  | 0, _, settled => return (none, settled)
  | _ + 1, [], settled => return (some [], settled)
  | fuel + 1, p :: ps, settled => do
    let settled := settled || (match p with | .cut => true | _ => false)
    match ← matchPart fuel p with
    | none => return (none, settled)
    | some n =>
      let (rest, settled) ← matchSequence fuel ps settled
      return (rest.map (n :: ·), settled)

/-- Matches the first of some alternatives that matches; its value is one of its parts. -/
def matchChoice : Nat → List (Nat × List Peg) → MatchM (Option Node)
  | 0, _ => return none
  | _ + 1, [] => return none
  | fuel + 1, (value, parts) :: rest => do
    let place := (← get).place
    let (found, settled) ← matchSequence fuel parts false
    match found with
    | some ns => return some (ns.getD value nothing)
    | none =>
      modify fun s => { s with place }
      if settled then return none else matchChoice fuel rest

/-- Matches the first of a rule's alternatives that matches, and acts on it. -/
def matchAlternatives : Nat → List Alternative → MatchM (Option Node)
  | 0, _ => return none
  | _ + 1, [] => return none
  | fuel + 1, a :: rest => do
    let place := (← get).place
    let (found, settled) ← matchSequence fuel a.parts false
    match found with
    | some values =>
      let reached := (← get).place
      let line := ((setting.tokens.all[place]?).map (·.line)).getD 0
      let depth := ((setting.tokens.all[reached - 1]?).map (·.depth)).getD 0
      setting.react (a.action { values, line, depth }) line
    | none =>
      modify fun s => { s with place }
      if settled then return none else matchAlternatives fuel rest

def matchFresh : Nat → Rule → MatchM (Option Node)
  | 0, _ => return none
  | fuel + 1, r => do
    if r = .expressionOnly then
      let mistakes := (← get).mistakes
      modify fun s => { s with mistakes := false }
      let found ← matchAlternatives fuel r.alternatives
      modify fun s => { s with mistakes }
      return found
    else matchAlternatives fuel r.alternatives

/-- Matches a rule that begins with itself, which has matched `best` up to `reached`. -/
def matchGrowing : Nat → Rule → Nat → Option Node → Nat → MatchM (Option Node)
  | 0, _, _, best, reached => do
    modify fun s => { s with place := reached }
    return best
  | fuel + 1, r, place, best, reached => do
    modify fun s => { s with place, remembered := s.remembered.insert (r, place) (best, reached) }
    let found ← matchFresh fuel r
    let now := (← get).place
    if found.isSome && now > reached then matchGrowing fuel r place found now
    else
      modify fun s => { s with place := reached }
      return best

def matchRule : Nat → Rule → MatchM (Option Node)
  | 0, _ => return none
  | fuel + 1, r => do
    let s ← get
    let isMistake := match r with | .mistake _ => true | _ => false
    if isMistake && !s.mistakes then return none
    if r.isRemembered || r.isLeftRecursive then
      match s.remembered[(r, s.place)]? with
      | some (found, reached) =>
        set { s with place := reached }
        return found
      | none =>
        if r.isLeftRecursive then matchGrowing fuel r s.place none s.place
        else
          let found ← matchFresh fuel r
          modify fun p =>
            { p with remembered := p.remembered.insert (r, s.place) (found, p.place) }
          return found
    else matchFresh fuel r

end

def bound : Nat := 400 * (setting.tokens.all.size + 8)

/-- What is wrong with the text after the last token that was looked at, if that is to be told
instead. -/
def laterTrouble? (seenLine : Nat) : Option Trouble :=
  match setting.tokens.broken with
  | none => none
  | some b =>
    if b.loud then some b.trouble
    else match b.bracket with
      | some k => if seenLine > k.line then some (setting.labelled k.trouble) else none
      | none => none

/-- Matches the tokens with a rule. The first attempt decides whether they match; the second one looks
for known mistakes. -/
def check (start : Rule) : Except Trouble Unit :=
  let attempt (p : Progress) : Except Refusal (Option Node) × Progress :=
    ((setting.matchRule setting.bound start).run p).run
  let lineOf (seen : Nat) : Nat := ((setting.tokens.all[seen - 1]?).map (·.line)).getD 0
  let refuse (r : Refusal) (seen : Nat) : Except Trouble Unit :=
    if r.final then .error r.trouble
    else .error ((setting.laterTrouble? (lineOf seen)).getD r.trouble)
  match attempt {} with
  | (.error r, p) => refuse r p.seen
  | (.ok (some _), _) => .ok ()
  | (.ok none, p) =>
    match attempt { seen := p.seen, mistakes := true } with
    | (.error r, q) => refuse r q.seen
    | (.ok _, q) =>
      let last := setting.tokens.all[p.seen - 1]?.getD default
      match last.kind with
      | .indent => .error (setting.labelled ⟨lineOf q.seen, "unexpected indent"⟩)
      | .dedent => .error (setting.labelled ⟨lineOf q.seen, "unexpected unindent"⟩)
      | _ => refuse ⟨setting.labelled ⟨last.line, "invalid syntax"⟩, false⟩ q.seen

end Setting
end FenceCheck.Program
