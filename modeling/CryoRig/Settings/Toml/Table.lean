import CryoRig.Settings.Node

/-!
# Tables under construction

A document fills its tables piece by piece. A table can come about by its own header, as a step on
the way of another header, or by a dotted key, and what may still be added to it depends on which.

## Main definitions

* `CryoRig.Settings.Toml.Item`: what a key stands for while the document is read.
* `CryoRig.Settings.Toml.define`: add a value under a dotted key.
* `CryoRig.Settings.Toml.Place`: the table that a header opens.
* `CryoRig.Settings.Toml.openTable`, `openElement`, `update`: headers and what stands below them.
-/

namespace CryoRig.Settings.Toml

/-- How a table came about. -/
inductive Origin where
  /-- It has a header. -/
  | header
  /-- It lies on the way of a header. -/
  | passed
  /-- It lies on the way of a dotted key. -/
  | dotted
  deriving DecidableEq, Repr

/-- What a key stands for while the document is read. -/
inductive Item where
  /-- A value, which stays as it is. -/
  | closed (value : Node)
  /-- A table. -/
  | table (origin : Origin) (entries : List (String × Item))
  /-- Tables in a sequence, the last one first. -/
  | tables (elements : List (List (String × Item)))

/-- The entries of a table. -/
abbrev Entries := List (String × Item)

/-- Change the table at the end of a path, which may lie in the last element of a sequence. Tables
that are not there are made, with the given origin; `mayEnter` says which may be gone through. -/
def updateAt (made : Origin) (mayEnter : Origin → Bool) (change : Origin → Entries → Option Entries) :
    Origin → List String → Entries → Option Entries
  | origin, [], entries => change origin entries
  | _, key :: path, entries => do
    let go (origin : Origin) (entries : Entries) : Option Entries :=
      updateAt made mayEnter change origin path entries
    let item ← match entries.lookup key with
      | none => do pure (.table made (← go made []))
      | some (.table origin entries) =>
        if mayEnter origin then do pure (.table origin (← go origin entries)) else none
      | some (.tables (last :: others)) => do pure (.tables ((← go .header last) :: others))
      | some (.tables []) | some (.closed _) => none
    pure (put key item entries)

/-- Add an entry, unless the key is there. -/
def addNew (key : String) (item : Item) (entries : Entries) : Option Entries :=
  match entries.lookup key with
  | none => some (put key item entries)
  | some _ => none

/-- Add a value under a dotted key. A table with a header of its own, or one that a header goes
through, is not added to in this way. -/
def define (path : List String) (key : String) (value : Node) (entries : Entries) : Option Entries :=
  match path with
  | [] => addNew key (.closed value) entries
  | path =>
    updateAt .dotted (· != .header)
      (fun origin entries => if origin = .dotted then addNew key (.closed value) entries else none)
      .header path entries

/-- A table header: the table at the end of the path is opened, unless it has had a header or is the
table of a dotted key. -/
def openTable (path : List String) (key : String) (entries : Entries) : Option Entries :=
  updateAt .passed (fun _ => true)
    (fun _ entries => match entries.lookup key with
      | none => some (put key (.table .header []) entries)
      | some (.table .passed present) => some (put key (.table .header present) entries)
      | some _ => none)
    .header path entries

/-- A header of an element: one more table in the sequence at the end of the path. -/
def openElement (path : List String) (key : String) (entries : Entries) : Option Entries :=
  updateAt .passed (fun _ => true)
    (fun _ entries => match entries.lookup key with
      | none => some (put key (.tables [[]]) entries)
      | some (.tables elements) => some (put key (.tables ([] :: elements)) entries)
      | some _ => none)
    .header path entries

/-- Change the table that the last header opened. -/
def update (header : List String) (change : Entries → Option Entries) (entries : Entries) :
    Option Entries :=
  updateAt .passed (fun _ => true) (fun _ => change) .header header entries

mutual

/-- An item as a tree of settings. -/
def Item.toNode : Item → Node
  | .closed value => value
  | .table _ entries => .map (entryNodes entries)
  | .tables elements => .sequence (elementNodes elements [])

/-- Entries as trees of settings. -/
def entryNodes : List (String × Item) → List (String × Node)
  | [] => []
  | (key, item) :: rest => (key, item.toNode) :: entryNodes rest

/-- The elements of a sequence, the last one first, in front of those already turned over. -/
def elementNodes : List (List (String × Item)) → List Node → List Node
  | [], done => done
  | entries :: rest, done => elementNodes rest (.map (entryNodes entries) :: done)

end

end CryoRig.Settings.Toml
