import FenceCheck.Yaml.Event

/-!
Composing the documents of a YAML stream. Nodes need no more than that every alias refers to an anchor
set before it in its document, and that no document sets an anchor twice.
-/
namespace FenceCheck.Yaml

def compose (anchors : List String) : Event → Except Stop (List String)
  | .reference name mark =>
    if anchors.contains name then .ok anchors else .error (.problem (.undefinedAlias name) mark)
  | .node (some name) mark =>
    if anchors.contains name then .error (.problem .secondAnchor mark) else .ok (name :: anchors)
  | .documentEnd => .ok []
  | _ => .ok anchors

def composeAll (anchors : List String) (m : Machine) : Nat → Except Stop Unit
  | 0 => .ok ()
  | fuel + 1 => do
    let (event, m) ← Machine.step.run m
    let anchors ← compose anchors event
    if event = .streamEnd then return () else composeAll anchors m fuel

def isAcceptable (c : Char) : Bool :=
  let n := c.toNat
  n = 0x09 || n = 0x0A || n = 0x0D || (0x20 ≤ n && n ≤ 0x7E) || n = 0x85
    || (0xA0 ≤ n && n ≤ 0xFFFD) || 0x10000 ≤ n

def checkCharacters (s : List Char) : Except Stop Unit :=
  match s.dropWhile isAcceptable with
  | [] => .ok ()
  | c :: rest => .error (.unacceptable c (s.length - rest.length - 1))

/-- Reads a stream to its end; every token gives rise to only a few events. -/
def read (source : String) : Except Stop Unit := do
  let s := source.toList
  checkCharacters s
  composeAll [] (.start s) (16 * (s.length + 4))

end FenceCheck.Yaml
