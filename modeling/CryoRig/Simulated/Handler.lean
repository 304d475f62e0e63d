import CryoRig.Instrument.Fault
import CryoRig.Text.Blank
import CryoRig.Text.Fields

/-!
# How a simulated instrument answers

A simulated instrument takes a command, may change its state, and gives a reply, no reply or a
fault. What it changed before a fault stays changed.

## Main definitions

* `CryoRig.Simulated.Handler`: how commands are answered, depending on and changing a state.
* `CryoRig.Simulated.argument?`: what follows the name of a command.
* `CryoRig.Simulated.number`: an argument read as a number.
-/

namespace CryoRig.Simulated

/-- Results that depend on and change a state of type `σ`, or faults. -/
abbrev Answering (σ : Type) := ExceptT DeviceFault (StateM σ)

/-- How commands are answered: with a reply or with none. -/
abbrev Handler (σ : Type) := String → Answering σ (Option String)

variable {σ : Type}

/-- Answer with a reply. -/
def reply (text : String) : Answering σ (Option String) := pure (some text)

/-- Answer with nothing. -/
def silence : Answering σ (Option String) := pure none

/-- What follows `name` in a command, without the blanks around it. -/
def argument? (command name : String) : Option String :=
  let name := name.toList
  let command := command.toList
  if name.isPrefixOf command then
    some (String.ofList (Text.trimChars (command.drop name.length)))
  else none

/-- Characters without the semicolons at their end. -/
def dropSemicolons (cs : List Char) : List Char :=
  (cs.reverse.dropWhile (· == ';')).reverse

/-- An argument read as a number; semicolons after it do not matter. -/
def number (text : String) : Except DeviceFault Float :=
  match Number.readChars (dropSemicolons (Text.trimChars text.toList)) with
  | .ok x => .ok x
  | .error _ => .error (.argumentNotNumber text)

/-- The fields of an argument, separated by commas. -/
def fields (text : String) : List String := Text.fields ',' text

/-- The digit of a flag. -/
def flag (on : Bool) : String := if on then "1" else "0"

end CryoRig.Simulated
