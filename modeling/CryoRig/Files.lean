import CryoRig.Fault
import CryoRig.Text.Fields
import CryoRig.Text.Utf8

/-!
# Files and directories

The part of the file system that the rig sees: a working directory, and below it directories and
files of text. Writers keep their own place in a file. If the file has become shorter meanwhile,
the gap is filled with zeros.

## Main definitions

* `CryoRig.FileStore`: directories and files by path.
* `CryoRig.FileStore.makeDirectories`, `create`, `write`, `read`: the operations on them.
* `CryoRig.FileStore.ofFiles`: a working directory with given files.
* `CryoRig.parentPath?`: the path of the directory that holds a file.

## Main results

* `CryoRig.FileStore.put_get`: what was put at a place is found there.
* `CryoRig.FileStore.put_get_of_ne`: every other place is left alone.
-/

namespace CryoRig

/-! ## Paths -/

/-- Path segments from the end, without those that name nothing. The first segment of a path
counts even if it is a dot. -/
def dropBlank : List String → List String
  | segment :: next :: rest =>
    if segment = "" ∨ segment = "." then dropBlank (next :: rest) else segment :: next :: rest
  | segments => segments

/-- The path of the directory that holds what a path names. -/
def parentPath? (path : String) : Option String :=
  match dropBlank (Text.fields '/' path).reverse with
  | [] | [""] => none
  | [_] => some ""
  | _ :: rest =>
    match dropBlank rest with
    | [""] => some "/"
    | segments => some ("/".intercalate segments.reverse)

/-- The longest name of a file, in bytes. -/
def nameLimit : Nat := 255

/-- The longest path, in bytes. -/
def pathLimit : Nat := 4095

/-- The steps from the working directory that a path describes. -/
def pathSteps (path : String) : List String :=
  let segments := Text.fields '/' path
  let steps := segments.filter fun s => s ≠ "" ∧ s ≠ "."
  if segments.head? = some "" ∧ segments.length ≠ 1 then "/" :: steps else steps

/-! ## The store -/

/-- What a path can lead to. -/
inductive FileEntry where
  | directory
  | file (content : String)
  deriving DecidableEq, Repr

/-- Everything below the working directory, by the names that lead to it. -/
structure FileStore where
  /-- Every directory and file but the working directory. -/
  entries : List (List String × FileEntry)
  deriving DecidableEq, Repr

namespace FileStore

/-- A working directory with nothing in it. -/
def empty : FileStore := ⟨[]⟩

/-- What is at a place. -/
def get? (s : FileStore) (place : List String) : Option FileEntry :=
  if place = [] ∨ place = ["/"] then some .directory else s.entries.lookup place

/-- Put something at a place, instead of what is there. -/
def replace (place : List String) (entry : FileEntry) :
    List (List String × FileEntry) → List (List String × FileEntry)
  | [] => [(place, entry)]
  | (p, e) :: rest => if p = place then (p, entry) :: rest else (p, e) :: replace place entry rest

/-- Put something at a place, instead of what is there. -/
def put (s : FileStore) (place : List String) (entry : FileEntry) : FileStore :=
  ⟨replace place entry s.entries⟩

/-- One step on the way along a path: from a directory to what it holds. -/
def step (s : FileStore) (place : List String) (name : String) : Except SystemFault (List String) :=
  match s.get? place with
  | none => .error .noEntry
  | some (.file _) => .error .notDirectory
  | some .directory =>
    if name = ".." then .ok place.dropLast
    else if nameLimit < name.utf8ByteSize then .error .nameTooLong
    else .ok (place ++ [name])

/-- The place that steps lead to; all but the last step go through directories. -/
def walk (s : FileStore) : List String → List String → Except SystemFault (List String)
  | place, [] => .ok place
  | place, name :: names => do s.walk (← s.step place name) names

/-- The place that a path leads to. -/
def locate (s : FileStore) (path : String) : Except SystemFault (List String) :=
  if path.toList.any fun c => c.toNat == 0 then .error .zeroInName
  else if path = "" then .error .noEntry
  else if pathLimit < path.utf8ByteSize then .error .nameTooLong
  else s.walk [] (pathSteps path)

/-- Whether a path leads to a directory. -/
def isDirectory (s : FileStore) (path : String) : Bool :=
  match s.locate path with
  | .ok place => s.get? place == some .directory
  | .error _ => false

/-- Whether a path leads to a file. -/
def isFile (s : FileStore) (path : String) : Bool :=
  match s.locate path with
  | .ok place => match s.get? place with
    | some (.file _) => true
    | _ => false
  | .error _ => false

/-- Make one directory. -/
def makeDirectory (s : FileStore) (path : String) : Except SystemFault FileStore := do
  let place ← s.locate path
  match s.get? place with
  | some _ => .error .alreadyExists
  | none => .ok (s.put place .directory)

/-- Make a directory; that it is there already is no fault. -/
def ensureDirectory (s : FileStore) (path : String) : Except SystemFault FileStore :=
  match s.makeDirectory path with
  | .ok s => .ok s
  | .error fault => if s.isDirectory path then .ok s else .error fault

/-- Make a directory and those it lies in; `depth` bounds how many. -/
def makeDirectoriesWithin (s : FileStore) : Nat → String → Except SystemFault FileStore
  | 0, path => s.ensureDirectory path
  | depth + 1, path =>
    if path = "" then .ok s
    else match s.ensureDirectory path, parentPath? path with
      | .error .noEntry, some parent => do
        let s ← s.makeDirectoriesWithin depth parent
        s.ensureDirectory path
      | result, _ => result

/-- Make a directory and those it lies in. -/
def makeDirectories (s : FileStore) (path : String) : Except SystemFault FileStore :=
  s.makeDirectoriesWithin (path.length + 1) path

/-- Make an empty file, or empty the one that is there. -/
def create (s : FileStore) (path : String) : Except SystemFault FileStore := do
  let place ← s.locate path
  match s.get? place with
  | some .directory => .error .isDirectory
  | _ => if path.endsWith "/" then .error .isDirectory else .ok (s.put place (.file ""))

/-- The text of a file. -/
def read (s : FileStore) (path : String) : Except SystemFault String := do
  let place ← s.locate path
  match s.get? place with
  | some (.file content) => if path.endsWith "/" then .error .notDirectory else .ok content
  | some .directory => .error .isDirectory
  | none => .error .noEntry

/-- A file that is overwritten from a place on: `text` goes `offset` bytes from its start. -/
def splice (content : String) (offset : Nat) (text : String) : String :=
  if offset = content.utf8ByteSize then content ++ text
  else
    let old := Text.encode content.toList
    let new := Text.encode text.toList
    let before := old.take offset ++ List.replicate (offset - old.length) 0
    String.ofList (Text.decodeLossy (before ++ new ++ old.drop (offset + new.length)))

/-- Write into a file, `offset` bytes from its start. -/
def write (s : FileStore) (path : String) (offset : Nat) (text : String) :
    Except SystemFault FileStore := do
  let place ← s.locate path
  match s.get? place with
  | some (.file content) => .ok (s.put place (.file (splice content offset text)))
  | some .directory => .error .isDirectory
  | none => .error .noEntry

/-- A file with the directories it lies in; what cannot be there is left out. -/
def withFile (s : FileStore) (path content : String) : FileStore :=
  let stored : Except SystemFault FileStore := do
    let s ← s.makeDirectories ((parentPath? path).getD "")
    (← s.create path).write path 0 content
  stored.toOption.getD s

/-- A working directory with given files. -/
def ofFiles (files : List (String × String)) : FileStore :=
  files.foldl (fun s file => s.withFile file.1 file.2) empty

/-! ## What is where -/

theorem lookup_replace_self (place : List String) (entry : FileEntry)
    (entries : List (List String × FileEntry)) :
    (replace place entry entries).lookup place = some entry := by
  induction entries with
  | nil => simp [replace]
  | cons e rest ih =>
    obtain ⟨p, e⟩ := e
    simp only [replace]
    split
    · rename_i h; subst h; simp
    · rename_i h
      rw [List.lookup_cons]
      have : (place == p) = false := by simpa using fun h' => h h'.symm
      simp [this, ih]

theorem lookup_replace_of_ne {place other : List String} (entry : FileEntry)
    (entries : List (List String × FileEntry)) (h : other ≠ place) :
    (replace place entry entries).lookup other = entries.lookup other := by
  induction entries with
  | nil =>
    have : (other == place) = false := by simpa using h
    simp [replace, List.lookup_cons, this]
  | cons e rest ih =>
    obtain ⟨p, e⟩ := e
    simp only [replace]
    split
    · rename_i hp
      subst hp
      have : (other == p) = false := by simpa using h
      simp [List.lookup_cons, this]
    · simp only [List.lookup_cons, ih]

/-- What was put at a place is found there. -/
theorem put_get {s : FileStore} {place : List String} {entry : FileEntry}
    (h : ¬(place = [] ∨ place = ["/"])) : (s.put place entry).get? place = some entry := by
  simp [get?, h, put, lookup_replace_self]

/-- Putting something at a place leaves every other place alone. -/
theorem put_get_of_ne {s : FileStore} {place other : List String} {entry : FileEntry}
    (h : other ≠ place) : (s.put place entry).get? other = s.get? other := by
  simp [get?, put, lookup_replace_of_ne entry s.entries h]

end FileStore

end CryoRig
