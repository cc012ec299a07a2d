import FenceCheck.Toml.Value

/-!
A TOML document while it is read: the tables made so far, and marks on keys that may no longer be
changed. A frozen key is a finished value with all that lies below it; a declared key is a table that
cannot be declared again.
-/
namespace FenceCheck.Toml

abbrev Key := List String

inductive MarkKind where
  | frozen
  | declared
  deriving DecidableEq, Repr

/-- A mark on a key, and on all keys below it if it is deep. -/
structure Mark where
  key : Key
  kind : MarkKind
  deep : Bool
  deriving DecidableEq, Repr

abbrev Marks := List Mark

/-- Whether a mark of a kind lies on a key; the root has none. -/
def Marks.covers (marks : Marks) (key : Key) (kind : MarkKind) : Bool :=
  key ≠ [] && marks.any fun m =>
    m.kind = kind && (m.key = key || (m.deep && m.key.isPrefixOf key))

def Marks.clear (marks : Marks) (key : Key) : Marks :=
  marks.filter fun m => !key.isPrefixOf m.key

/-- The entries after `key` is bound to `value`, at its old place if it has one. -/
def Entries.put (key : String) (value : Toml) : Entries → Entries
  | [] => [(key, value)]
  | (k, v) :: rest => if k = key then (k, value) :: rest else (k, v) :: Entries.put key value rest

/-- The entries after the table at a key, made where it is missing, has been changed by `change`. A list
of tables stands for its last one if `throughLists`; other values are in the way. -/
def Entries.within (throughLists : Bool) (change : Entries → Option Entries) :
    Key → Entries → Option Entries
  | [], entries => change entries
  | k :: rest, entries =>
    match entries.lookup k with
    | none => do
      let inner ← Entries.within throughLists change rest []
      return entries.put k (.table inner)
    | some (.table inner) => do
      let inner ← Entries.within throughLists change rest inner
      return entries.put k (.table inner)
    | some (.array items) =>
      match throughLists, items.getLast? with
      | true, some (.table inner) => do
        let inner ← Entries.within throughLists change rest inner
        return entries.put k (.array (items.dropLast ++ [.table inner]))
      | _, _ => none
    | some _ => none

def Entries.bindNew (name : String) (value : Toml) (entries : Entries) : Option Entries :=
  if (entries.lookup name).isSome then none else some (entries ++ [(name, value)])

/-- Adds an empty table to a list of tables, which is made if it is missing. -/
def Entries.appendTable (name : String) (entries : Entries) : Option Entries :=
  match entries.lookup name with
  | none => some (entries ++ [(name, .array [.table []])])
  | some (.array items) => some (entries.put name (.array (items ++ [.table []])))
  | some _ => none

/-- The state between two statements: the root table, the marks, marks that come into force at the next
table header, and the key of the current table. -/
structure Document where
  root : Entries
  marks : Marks
  pending : Marks
  header : Key

def Key.split (key : Key) : Key × String :=
  (key.dropLast, key.getLastD "")

def Key.literal (key : Key) : String :=
  match key with
  | [k] => "(" ++ Text.quoted k ++ ",)"
  | ks => "(" ++ String.intercalate ", " (ks.map Text.quoted) ++ ")"

def Key.beginnings (key : Key) : List Key :=
  ((List.range key.length).drop 1).map fun n => key.take n

end FenceCheck.Toml
