import CryoRig.Number.Read
import CryoRig.Settings.Node

/-!
# Giving settings their types

A *shape* says which entries a map has, how each is read and what holds for one that is missing.
Reading a map goes through its entries in order and reads those that the shape knows; the others do
not matter. Only after that are missing entries noticed.

A choice is a map with an entry that says what the others mean.

## Main definitions

* `CryoRig.Settings.Reader`: how a node is read.
* `CryoRig.Settings.Shape`: shapes, with `required` and `optional` entries.
* `CryoRig.Settings.Shape.read`, `CryoRig.Settings.choice`: maps and choices.

## Main results

* `CryoRig.Settings.Shape.read_required`: an entry that must be there and is not is a problem.
-/

namespace CryoRig.Settings

/-- How a node is read. -/
abbrev Reader (α : Type) := Node → Except Problem α

/-- A problem with the node that is read. -/
def problem {α : Type} (kind : ProblemKind) : Except Problem α := .error ⟨kind, []⟩

/-- A node of the wrong type. -/
def mistyped {α : Type} (node : Node) (expected : String) : Except Problem α :=
  problem (.invalidType node.found expected)

/-- What is read below a key has the key in front of its path. -/
def below {α : Type} (key : String) (result : Except Problem α) : Except Problem α :=
  result.mapError fun p => { p with path := key :: p.path }

/-! ## Single values -/

/-- A text; `expected` says what it is for. -/
def textAs (expected : String) : Reader String
  | .text value => .ok value
  | .letter value false => .ok (String.ofList [value])
  | node => mistyped node expected

/-- A text. -/
def text : Reader String := textAs "a string"

/-- A flag. -/
def flag : Reader Bool
  | .flag value => .ok value
  | node => mistyped node "a boolean"

/-- A whole number up to a limit. -/
def whole (limit : Nat) (expected : String) : Reader Nat
  | .unsigned n => if n ≤ limit then .ok n else problem (.invalidValue (.unsigned n) expected)
  | .signed n =>
    if 0 ≤ n ∧ n.toNat ≤ limit then .ok n.toNat
    else problem (.invalidValue (.signed n) expected)
  | node => mistyped node expected

/-- A whole number of eight bytes. -/
def huge : Reader Nat := whole Number.hugeMax "u64"

/-- A whole number of four bytes. -/
def long : Reader Nat := whole Number.longMax "u32"

/-- A number. -/
def number : Reader Float
  | .float x => .ok x
  | .unsigned n => .ok (Float.ofNat n)
  | .signed n => .ok (Float.ofInt n)
  | node => mistyped node "f64"

/-- A value that may be given as absent. -/
def maybe {α : Type} (reader : Reader α) : Reader (Option α)
  | .absent => .ok none
  | node => (reader node).map some

/-- The items of a sequence, the first of them counted as `index`. -/
def items {α : Type} (reader : Reader α) (index : Nat) : List Node → Except Problem (List α)
  | [] => .ok []
  | node :: rest => do
    let a ← below (toString index) (reader node)
    pure (a :: (← items reader (index + 1) rest))

/-- A sequence. -/
def sequence {α : Type} (reader : Reader α) : Reader (List α)
  | .sequence nodes => items reader 0 nodes
  | node => mistyped node "a sequence"

/-- What stands under a name, one of several. -/
def named {α : Type} (names : List (String × α)) (value : String) : Except Problem α :=
  match names.lookup value with
  | some a => .ok a
  | none => problem (.unknownVariant value (names.map Prod.fst))

/-- One of several names, or a map with the name as its only key and nothing under it. -/
def name {α : Type} (names : List (String × α)) : Reader α
  | .text value => named names value
  | .map [(key, node)] => do
    let a ← named names key
    match node with
    | .absent | .map [] => pure a
    | node => mistyped node "unit"
  | .map _ => problem (.invalidValue .map "map with a single key")
  | node => mistyped node "string or map"

/-! ## Maps -/

/-- The entries of a map, and what comes of them. -/
structure Shape (α : Type) where
  /-- Each entry with the problem that reading it meets. -/
  known : List (String × (Node → Except Problem Unit))
  /-- What comes of all entries together. -/
  build : (String → Option Node) → Except Problem α

namespace Shape

variable {α β : Type}

/-- An entry that must be there. -/
def required (key : String) (reader : Reader α) : Shape α where
  known := [(key, fun node => (reader node).map fun _ => ())]
  build entries := match entries key with
    | some node => below key (reader node)
    | none => problem (.missingField key)

/-- An entry that may be missing. -/
def optional (key : String) (reader : Reader α) (default : α) : Shape α where
  known := [(key, fun node => (reader node).map fun _ => ())]
  build entries := match entries key with
    | some node => below key (reader node)
    | none => .ok default

instance : Applicative Shape where
  pure a := ⟨[], fun _ => .ok a⟩
  seq f x := ⟨f.known ++ (x ()).known, fun entries => do (← f.build entries) <$> (x ()).build entries⟩

/-- Read the entries that a shape knows, in order. -/
def checkEntries (s : Shape α) : List (String × Node) → Except Problem Unit
  | [] => .ok ()
  | (key, node) :: rest => do
    if let some check := s.known.lookup key then below key (check node)
    s.checkEntries rest

/-- Read the entries of a map. -/
def readEntries (s : Shape α) (entries : List (String × Node)) : Except Problem α := do
  s.checkEntries entries
  s.build fun key => entries.lookup key

/-- The number of things of one kind, in words. -/
def counted (count : Nat) (noun : String) : String :=
  toString count ++ " " ++ noun ++ if count = 1 then "" else "s"

/-- Read items that stand for the entries in their order, the first of them counted as `index`. -/
def checkItems (index : Nat) :
    List (String × (Node → Except Problem Unit)) → List Node → Except Problem Unit
  | (_, check) :: known, node :: rest => do
    below (toString index) (check node)
    checkItems (index + 1) known rest
  | _, _ => .ok ()

/-- Read a sequence whose items stand for the entries in their order. An entry that must be there
and is not makes the sequence too short; further items do not matter. -/
def readItems (s : Shape α) (title : String) (nodes : List Node) : Except Problem α := do
  checkItems 0 s.known nodes
  let keys := s.known.map Prod.fst
  match s.build fun key => (keys.zip nodes).lookup key with
  | .error ⟨.missingField key, []⟩ =>
    problem (.invalidLength (keys.idxOf key) (title ++ " with " ++ counted keys.length "element"))
  | result => result

/-- Read a map, or the sequence of its values. -/
def read (s : Shape α) (expected : String) : Reader α
  | .map entries => s.readEntries entries
  | .sequence nodes => s.readItems ("struct " ++ expected) nodes
  | node => mistyped node ("struct " ++ expected)

/-- An entry that must be there and is not is a problem. -/
theorem read_required (key : String) (reader : Reader α) (expected : String) :
    (required key reader).read expected (.map []) = problem (.missingField key) := rfl

end Shape

/-! ## Choices -/

/-- Problems inside a choice are only known to lie in it. -/
def inside {α : Type} (result : Except Problem α) : Except Problem α :=
  result.mapError fun p => { p with path := [] }

/-- A case of a choice. -/
structure Case (α : Type) where
  /-- The name it is chosen by. -/
  name : String
  /-- What it is called in a problem. -/
  title : String
  /-- How it is read. -/
  shape : Shape α

/-- The case that an entry names, or numbers from zero without a sign. -/
def caseOf {α : Type} (cases : List (Case α)) : Reader (Case α)
  | .text value => named (cases.map fun c => (c.name, c)) value
  | .letter value _ => named (cases.map fun c => (c.name, c)) (String.ofList [value])
  | .unsigned n =>
    match cases[n]? with
    | some c => .ok c
    | none =>
      problem (.invalidValue (.unsigned n) ("variant index 0 <= i < " ++ toString cases.length))
  | node => mistyped node "variant identifier"

/-- Read a case from items that stand for its entries; there may be no further ones. -/
def Case.readItems {α : Type} (c : Case α) (nodes : List Node) : Except Problem α := do
  let a ← c.shape.readItems c.title nodes
  let count := c.shape.known.length
  if count < nodes.length then
    problem (.invalidLength nodes.length (Shape.counted count "element" ++ " in sequence"))
  pure a

/-- A choice: the entry `key` names the case, the case says how the other entries are read. In a
sequence the name of the case comes first. Single characters are no texts inside a choice. -/
def choice {α : Type} (key expected : String) (cases : List (Case α)) : Reader α
  | .map entries =>
    match entries.lookup key with
    | none => problem (.missingField key)
    | some node => do
      let c ← below key (caseOf cases node)
      inside (c.shape.readEntries (Node.holdEntries (entries.filter fun e => e.1 ≠ key)))
  | .sequence [] => problem (.missingField key)
  | .sequence (node :: rest) => do
    let c ← below "0" (caseOf cases node)
    inside (c.readItems (Node.holdItems rest))
  | node => mistyped node ("internally tagged enum " ++ expected)

end CryoRig.Settings
