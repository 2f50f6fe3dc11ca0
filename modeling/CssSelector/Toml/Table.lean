import CssSelector.Toml.Text
import CssSelector.Json.Shape
import Std.Data.TreeMap.Raw.Basic

/-!
# Tables of TOML

A document fills tables in three ways: a header opens a table, a dotted key passes through tables,
and a value may be a table of its own. A table is given by one header at most, a table that
dotted keys made is not opened by a header, and a table that is a value is complete.
-/

set_option autoImplicit false

namespace CssSelector

namespace Toml

inductive Item where
  | value (data : Json)
  /-- A table. It is implicit until a header opens it; dotted keys make it dotted. -/
  | table (implicit dotted : Bool) (entries : Std.TreeMap.Raw String Item)
  | tables (rows : List Item)

abbrev Entries := Std.TreeMap.Raw String Item

/-- Changes the table at the end of a path. Tables on the path that are missing are made. Dotted
keys may not pass through a table that a header opened. The change is told whether dotted keys
made the table that it changes. -/
def changeAt (dotted : Bool) (change : Bool → Entries → Option Entries) :
    List String → Bool → Entries → Option Entries
  | [], madeDotted, entries => change madeDotted entries
  | key :: path, _, entries =>
      match entries.get? key with
      | none => do
          let inner ← changeAt dotted change path dotted ∅
          return entries.insert key (.table true dotted inner)
      | some (.table implicit madeDotted inner) =>
          if dotted && !implicit then none
          else do
            let inner ← changeAt dotted change path madeDotted inner
            return entries.insert key (.table implicit madeDotted inner)
      | some (.tables (.table implicit madeDotted inner :: rows)) => do
          let inner ← changeAt dotted change path madeDotted inner
          return entries.insert key (.tables (.table implicit madeDotted inner :: rows))
      | some _ => none

/-- Adds a key with a value; a key is given once. A path goes through tables made by dotted keys
only. -/
def insertValue (path : List String) (key : String) (data : Json) (entries : Entries) :
    Option Entries :=
  changeAt true
    (fun madeDotted inner =>
      if madeDotted = path.isEmpty || inner.contains key then none
      else some (inner.insert key (.value data)))
    path false entries

/-- A document while it is read: the tables so far, and the table of the last header, which is
put among them when it is complete. -/
structure Document where
  root : Entries := ∅
  path : List String := []
  key : Option String := none
  inArray : Bool := false
  opened : Entries := ∅

namespace Document

/-- Puts the open table at its place, where only an implicit table that dotted keys did not make
may be. -/
def close (document : Document) : Option Entries :=
  match document.key with
  | none => some document.opened
  | some key =>
      let row := Item.table false false document.opened
      changeAt false
        (fun _ parent =>
          match parent.get? key, document.inArray with
          | none, true => some (parent.insert key (.tables [row]))
          | some (.tables rows), true => some (parent.insert key (.tables (row :: rows)))
          | none, false => some (parent.insert key row)
          | some (.table true false _), false => some (parent.insert key row)
          | _, _ => none)
        document.path false document.root

def parent? (root : Entries) (path : List String) : Option Entries :=
  match path with
  | [] => some root
  | key :: path =>
      match root.get? key with
      | none => some ∅
      | some (.table _ _ inner) => parent? inner path
      | some (.tables (.table _ _ inner :: _)) => parent? inner path
      | some _ => none

/-- Opens the table of a header. Only an implicit table that dotted keys did not make may be there
already; then its entries are kept. -/
def openTable (path : List String) (key : String) (document : Document) : Option Document := do
  let root ← document.close
  match (← parent? root path).get? key with
  | none => return { root := root, path := path, key := some key }
  | some (.table true false inner) =>
      return { root := root, path := path, key := some key, opened := inner }
  | some _ => none

def openRow (path : List String) (key : String) (document : Document) : Option Document := do
  let root ← document.close
  match (← parent? root path).get? key with
  | none | some (.tables _) =>
      return { root := root, path := path, key := some key, inArray := true }
  | some _ => none

def insert (path : List String) (key : String) (data : Json) (document : Document) :
    Option Document := do
  return { document with opened := ← insertValue path key data document.opened }

end Document

def itemData : Nat → Item → Json
  | _, .value data => data
  | 0, _ => .other
  | fuel + 1, .table _ _ entries =>
      .object (entries.foldr (fun key item fields => (key, itemData fuel item) :: fields) [])
  | fuel + 1, .tables rows => .array (rows.map (itemData fuel)).reverse

/-- Entries as data. The path of a header and the path of a key have fewer parts than the bound on
nesting, and each part goes through two items at most. -/
def entryData (entries : Entries) : Json := itemData (4 * maxNesting) (.table false false entries)

/-- TOML: an array may go on behind the fields of its record, and an empty table or array carries
nothing. -/
def records : RecordRules where
  extraItems := true
  carriesNothing
    | .array [] => true
    | .object [] => true
    | _ => false

end Toml

end CssSelector
