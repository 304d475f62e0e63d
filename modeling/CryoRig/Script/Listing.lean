import CryoRig.Script.Command
import CryoRig.Text.Blank

/-!
# Scripts

A script is a list of lines. Blank lines do nothing but count, so the number of a line is the one
the user sees in an editor.

## Main definitions

* `CryoRig.Script`: the lines of a script, and `CryoRig.Script.load` from a text.
* `CryoRig.Script.Line`: a line that asks for something, with its number.
* `CryoRig.Script.program`: those lines in order.

## Main results

* `CryoRig.Script.program_nil_iff`: a script asks for nothing exactly if it is blank throughout.
-/

namespace CryoRig

/-- A script. -/
structure Script where
  /-- Its lines, without the blanks around them. -/
  lines : List String
  deriving DecidableEq, Repr

namespace Script

/-- The script with a given text. -/
def load (text : String) : Script := ⟨(Text.lines text).map Text.trim⟩

/-- Whether no line asks for anything. -/
def isEmpty (s : Script) : Bool := s.lines.all fun l => l.isEmpty

/-- A line that asks for something. -/
structure Line where
  /-- Its number; lines are counted from one. -/
  number : Nat
  /-- Its first word. -/
  operation : String
  /-- Its other words. -/
  arguments : List String
  deriving DecidableEq, Repr

/-- The line with a given number and text, unless it is blank. -/
def Line.ofText? (number : Nat) (text : String) : Option Line :=
  match Text.words text with
  | [] => none
  | operation :: arguments => some ⟨number, operation, arguments⟩

/-- The lines that ask for something, the first of them counted as `number`. -/
def programFrom (number : Nat) : List String → List Line
  | [] => []
  | text :: rest => (Line.ofText? number text).toList ++ programFrom (number + 1) rest

/-- The lines that ask for something. -/
def program (s : Script) : List Line := programFrom 1 s.lines

/-- The command of a line. -/
def Line.command (l : Line) : Except LineFault Command :=
  Command.parse l.number l.operation l.arguments

/-- Nothing is asked for exactly if no line has a word. -/
theorem programFrom_eq_nil_iff (number : Nat) (texts : List String) :
    programFrom number texts = [] ↔ ∀ t ∈ texts, Text.words t = [] := by
  induction texts generalizing number with
  | nil => simp [programFrom]
  | cons t rest ih =>
    cases h : Text.words t with
    | nil => simp [programFrom, Line.ofText?, h, ih]
    | cons w ws => simp [programFrom, Line.ofText?, h]

theorem program_nil_iff (s : Script) : s.program = [] ↔ ∀ t ∈ s.lines, Text.words t = [] :=
  programFrom_eq_nil_iff 1 s.lines

end Script

end CryoRig
