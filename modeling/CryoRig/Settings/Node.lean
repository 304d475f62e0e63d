import CryoRig.Settings.Problem

/-!
# Settings as a tree

Before settings are given their types they are a tree, whatever they were written in. Two trees are
merged key by key; where they disagree the later one wins.

## Main definitions

* `CryoRig.Settings.Node`: trees of settings.
* `CryoRig.Settings.put`: set one entry of a map, in the order of the keys.
* `CryoRig.Settings.Node.merge`: one tree laid over another.

## Main results

* `CryoRig.Settings.lookup_put`, `lookup_put_of_ne`: an entry that is set is found, the others are
  left alone.
-/

namespace CryoRig.Settings

/-- A tree of settings. The entries of a map stand in the order of their keys. A single character
is a text, unless it is held as what it is. -/
inductive Node where
  | flag (value : Bool)
  | unsigned (value : Nat)
  | signed (value : Int)
  | float (value : Float)
  | text (value : String)
  | letter (value : Char) (held : Bool)
  | absent
  | sequence (items : List Node)
  | map (entries : List (String × Node))

instance : Inhabited Node := ⟨.absent⟩

namespace Node

/-- A node as it is quoted. -/
def found : Node → Found
  | flag value => .flag value
  | unsigned value => .unsigned value
  | signed value => .signed value
  | float value => .float value
  | text value => .text value
  | letter value held => if held then .letter value else .text (String.ofList [value])
  | absent => .unit
  | sequence _ => .sequence
  | map _ => .map

mutual

/-- A tree with every single character held as what it is. -/
def hold : Node → Node
  | letter value _ => letter value true
  | sequence items => sequence (holdItems items)
  | map entries => map (holdEntries entries)
  | node => node

/-- Items with every single character held as what it is. -/
def holdItems : List Node → List Node
  | [] => []
  | node :: rest => node.hold :: holdItems rest

/-- Entries with every single character held as what it is. -/
def holdEntries : List (String × Node) → List (String × Node)
  | [] => []
  | (key, node) :: rest => (key, node.hold) :: holdEntries rest

end

end Node

/-! ## Maps -/

/-- Set an entry of a map. -/
def put {α : Type} (key : String) (value : α) : List (String × α) → List (String × α)
  | [] => [(key, value)]
  | (k, v) :: rest =>
    if k = key then (key, value) :: rest
    else if key < k then (key, value) :: (k, v) :: rest
    else (k, v) :: put key value rest

/-- An entry that is set is found. -/
theorem lookup_put {α : Type} (key : String) (value : α) (entries : List (String × α)) :
    (put key value entries).lookup key = some value := by
  induction entries with
  | nil => simp [put]
  | cons e rest ih =>
    obtain ⟨k, v⟩ := e
    simp only [put]
    split
    · simp
    · rename_i h
      split
      · simp
      · have : (key == k) = false := by simpa using fun h' => h h'.symm
        simp [List.lookup_cons, this, ih]

/-- Setting an entry leaves the others alone. -/
theorem lookup_put_of_ne {α : Type} {key other : String} (value : α) (entries : List (String × α))
    (h : other ≠ key) : (put key value entries).lookup other = entries.lookup other := by
  have hne : (other == key) = false := by simpa using h
  induction entries with
  | nil => simp [put, List.lookup_cons, hne]
  | cons e rest ih =>
    obtain ⟨k, v⟩ := e
    simp only [put]
    split
    · rename_i hk
      subst hk
      simp [List.lookup_cons, hne]
    · split
      · simp [List.lookup_cons, hne]
      · simp only [List.lookup_cons, ih]

/-- A map with given entries, in any order; the last one of a key stands. -/
def Node.ofEntries (entries : List (String × Node)) : Node :=
  .map (entries.foldl (fun m e => put e.1 e.2 m) [])

/-! ## Merging -/

mutual

/-- One tree laid over what was there. Maps are merged key by key, everything else replaces. -/
def Node.mergeOver (old : Option Node) : Node → Node
  | .map entries =>
    match old with
    | some (.map present) => .map (mergeEntries present entries)
    | _ => .map entries
  | node => node

/-- Entries laid over those that were there. -/
def mergeEntries (present : List (String × Node)) : List (String × Node) → List (String × Node)
  | [] => present
  | (key, node) :: rest =>
    mergeEntries (put key (node.mergeOver (present.lookup key)) present) rest

end

/-- One tree laid over another. -/
def Node.merge (lower upper : Node) : Node := upper.mergeOver (some lower)

/-- Whether a tree, laid over another, decides what is at a path. -/
def Node.decides : Node → List String → Bool
  | .map entries, key :: path =>
    match entries.lookup key with
    | some node => node.decides path
    | none => false
  | _, _ => true

end CryoRig.Settings
