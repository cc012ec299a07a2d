import FenceCheck.Yaml.Scanner

/-!
Events of a YAML stream, made from its tokens one at a time. The state of the machine says which event
comes next; states to return to, and the marks of open collections, wait on stacks. Of an event only
what composing nodes depends on is kept: its mark, and the name of an anchor or an alias.
-/
namespace FenceCheck.Yaml

inductive Phase where
  | streamStart
  | implicitDocument
  | documentStart
  | documentContent
  | documentEnd
  | blockNode
  | blockSequenceFirst
  | blockSequenceEntry
  | plainSequenceEntry
  | blockMappingFirst
  | blockMappingKey
  | blockMappingValue
  | flowSequenceFirst
  | flowSequenceEntry
  | flowPairKey
  | flowPairValue
  | flowPairEnd
  | flowMappingFirst
  | flowMappingKey
  | flowMappingValue
  | flowMappingEmptyValue
  | finished
  deriving DecidableEq, Repr

/-- What composing needs to know of an event. -/
inductive Event where
  | reference (name : String) (mark : Mark)
  | node (anchor : Option String) (mark : Mark)
  | documentEnd
  | streamEnd
  | other
  deriving DecidableEq, Repr

/-- The machine: the scanner, the phase, the phases and marks that wait, and the tag handles of the
current document. -/
structure Machine where
  scanner : Scanner
  phase : Phase
  phases : List Phase
  marks : List Mark
  handles : List String

abbrev MachineM := StateT Machine (Except Stop)

namespace Machine

def defaultHandles : List String := ["!", "!!"]

def start (text : List Char) : Machine :=
  ⟨.start text, .streamStart, [], [], []⟩

def peek : MachineM Token := do
  let m ← get
  let (t, scanner) ← m.scanner.ready
  set { m with scanner }
  return t

def take : MachineM Token := do
  let t ← peek
  modify fun m => { m with scanner := m.scanner.take }
  return t

def sees (kinds : List TokenKind) : MachineM Bool := do
  return kinds.contains (← peek).kind

def goto (p : Phase) : MachineM Unit :=
  modify fun m => { m with phase := p }

def later (p : Phase) : MachineM Unit :=
  modify fun m => { m with phases := p :: m.phases }

def resume : MachineM Unit :=
  modify fun m => { m with phase := m.phases.headD .finished, phases := m.phases.drop 1 }

def openAt (mark : Mark) : MachineM Unit :=
  modify fun m => { m with marks := mark :: m.marks }

def close : MachineM Unit := do
  modify fun m => { m with marks := m.marks.drop 1 }

def refuse {α : Type} (problem : TokenKind → Problem) : MachineM α := do
  let t ← peek
  throw (.problem (problem t.kind) t.first)

def emptyNode (mark : Mark) : MachineM Event :=
  return .node none mark

/-- The properties in front of a node. -/
structure Properties where
  anchor : Option String := none
  tag : Option Token := none
  first : Option Mark := none

def takeProperties : MachineM Properties := do
  if ← sees [.anchor] then
    let a ← take
    let name := match a.payload with | .name s => some s | _ => none
    if ← sees [.tag] then return ⟨name, some (← take), some a.first⟩
    else return ⟨name, none, some a.first⟩
  else if ← sees [.tag] then
    let t ← take
    if ← sees [.anchor] then
      let a ← take
      let name := match a.payload with | .name s => some s | _ => none
      return ⟨name, some t, some t.first⟩
    else return ⟨none, some t, some t.first⟩
  else return {}

def checkTag (tag : Option Token) : MachineM Unit := do
  match tag with
  | some ⟨_, .handle h, first, _⟩ =>
    if !(← get).handles.contains h then throw (.problem (.undefinedHandle h) first)
  | _ => pure ()

/-- A node. In block context block collections may start, and sequences without indentation if `inner`. -/
def node (block inner : Bool) : MachineM Event := do
  if ← sees [.alias] then
    let t ← take
    resume
    return .reference (match t.payload with | .name s => s | _ => "") t.first
  let properties ← takeProperties
  checkTag properties.tag
  let mark ← match properties.first with
    | some m => pure m
    | none => do pure (← peek).first
  let event := Event.node properties.anchor mark
  if inner && (← sees [.blockEntry]) then
    goto .plainSequenceEntry
    return event
  match (← peek).kind with
  | .scalar => do
    let _ ← take
    resume
    return event
  | .flowSequenceStart => do
    goto .flowSequenceFirst
    return event
  | .flowMappingStart => do
    goto .flowMappingFirst
    return event
  | kind =>
    if block && kind = .blockSequenceStart then
      goto .blockSequenceFirst
      return event
    else if block && kind = .blockMappingStart then
      goto .blockMappingFirst
      return event
    else if properties.first.isSome then
      resume
      return event
    else refuse .expectedContent

/-- A node in block context, or an empty one in front of `stops`; the phase `after` follows. -/
def entryOrEmpty (stops : List TokenKind) (after : Phase) (mark : Mark)
    (entry : MachineM Event) : MachineM Event := do
  if ← sees stops then
    goto after
    emptyNode mark
  else
    later after
    entry

def closeCollection : MachineM Event := do
  let _ ← take
  resume
  close
  return .other

def takeDirectives (version : Bool) : Nat → MachineM Unit
  | 0 => pure ()
  | fuel + 1 => do
    if ← sees [.directive] then
      let t ← take
      match t.payload with
      | .version major =>
        if version then throw (.problem .duplicateVersion t.first)
        else if major ≠ 1 then throw (.problem .incompatibleVersion t.first)
        else takeDirectives true fuel
      | .handle h =>
        if (← get).handles.contains h then throw (.problem (.duplicateHandle h) t.first)
        else
          modify fun m => { m with handles := h :: m.handles }
          takeDirectives version fuel
      | _ => takeDirectives version fuel

def takeDocumentEnds : Nat → MachineM Unit
  | 0 => pure ()
  | fuel + 1 => do
    if ← sees [.documentEnd] then
      let _ ← take
      takeDocumentEnds fuel

def fuel : MachineM Nat := do
  let s := (← get).scanner
  return s.tokens.length + s.cursor.size + 2

/-- The start of a document that begins with a mark, or the end of the stream. -/
def documentStart : MachineM Event := do
  takeDocumentEnds (← fuel)
  if ← sees [.streamEnd] then
    let _ ← take
    goto .finished
    return .streamEnd
  else
    modify fun m => { m with handles := [] }
    takeDirectives false (← fuel)
    modify fun m => { m with handles := m.handles ++ defaultHandles }
    if ← sees [.documentStart] then
      let _ ← take
      later .documentEnd
      goto .documentContent
      return .other
    else refuse .expectedDocumentStart

def blockSequenceEntry : MachineM Event := do
  if ← sees [.blockEntry] then
    let t ← take
    entryOrEmpty [.blockEntry, .blockEnd] .blockSequenceEntry t.last (node true false)
  else if ← sees [.blockEnd] then closeCollection
  else refuse .expectedBlockEnd

def blockMappingKey : MachineM Event := do
  if ← sees [.key] then
    let t ← take
    entryOrEmpty [.key, .value, .blockEnd] .blockMappingValue t.last (node true true)
  else if ← sees [.blockEnd] then closeCollection
  else refuse .expectedBlockEnd

def flowSequenceEntry (first : Bool) : MachineM Event := do
  if ← sees [.flowSequenceEnd] then closeCollection
  else
    if !first then
      if ← sees [.flowEntry] then let _ ← take
      else refuse .expectedSequencePart
    if ← sees [.key] then
      let t ← peek
      goto .flowPairKey
      return .node none t.first
    else if ← sees [.flowSequenceEnd] then closeCollection
    else
      later .flowSequenceEntry
      node false false

def flowMappingKey (first : Bool) : MachineM Event := do
  if ← sees [.flowMappingEnd] then closeCollection
  else
    if !first then
      if ← sees [.flowEntry] then let _ ← take
      else refuse .expectedMappingPart
    if ← sees [.key] then
      let t ← take
      entryOrEmpty [.value, .flowEntry, .flowMappingEnd] .flowMappingValue t.last (node false false)
    else if ← sees [.flowMappingEnd] then closeCollection
    else
      later .flowMappingEmptyValue
      node false false

/-- A value after its colon, or an empty one where there is no colon. -/
def valueOrEmpty (stops : List TokenKind) (after : Phase) (value : MachineM Event) :
    MachineM Event := do
  if ← sees [.value] then
    let t ← take
    entryOrEmpty stops after t.last value
  else
    goto after
    emptyNode (← peek).first

def openCollection : MachineM Unit := do
  openAt (← take).first

def step : MachineM Event := do
  match (← get).phase with
  | .streamStart =>
    let _ ← take
    goto .implicitDocument
    return .other
  | .implicitDocument =>
    if ← sees [.directive, .documentStart, .streamEnd] then documentStart
    else
      modify fun m => { m with handles := defaultHandles }
      later .documentEnd
      goto .blockNode
      return .other
  | .documentStart => documentStart
  | .documentContent =>
    if ← sees [.directive, .documentStart, .documentEnd, .streamEnd] then
      let mark := (← peek).first
      resume
      emptyNode mark
    else node true false
  | .documentEnd =>
    if ← sees [.documentEnd] then let _ ← take
    goto .documentStart
    return .documentEnd
  | .blockNode => node true false
  | .blockSequenceFirst =>
    openCollection
    blockSequenceEntry
  | .blockSequenceEntry => blockSequenceEntry
  | .plainSequenceEntry =>
    if ← sees [.blockEntry] then
      let t ← take
      entryOrEmpty [.blockEntry, .key, .value, .blockEnd] .plainSequenceEntry t.last (node true false)
    else
      resume
      return .other
  | .blockMappingFirst =>
    openCollection
    blockMappingKey
  | .blockMappingKey => blockMappingKey
  | .blockMappingValue =>
    valueOrEmpty [.key, .value, .blockEnd] .blockMappingKey (node true true)
  | .flowSequenceFirst =>
    openCollection
    flowSequenceEntry true
  | .flowSequenceEntry => flowSequenceEntry false
  | .flowPairKey =>
    let t ← take
    entryOrEmpty [.value, .flowEntry, .flowSequenceEnd] .flowPairValue t.last (node false false)
  | .flowPairValue =>
    valueOrEmpty [.flowEntry, .flowSequenceEnd] .flowPairEnd (node false false)
  | .flowPairEnd =>
    goto .flowSequenceEntry
    let _ ← peek
    return .other
  | .flowMappingFirst =>
    openCollection
    flowMappingKey true
  | .flowMappingKey => flowMappingKey false
  | .flowMappingValue =>
    valueOrEmpty [.flowEntry, .flowMappingEnd] .flowMappingKey (node false false)
  | .flowMappingEmptyValue =>
    goto .flowMappingKey
    emptyNode (← peek).first
  | .finished => return .streamEnd

end Machine
end FenceCheck.Yaml
