import CryoRig.Number.Print
import CryoRig.Quantity

/-!
# Data files

A data file is a table: fields separated by tabs, rows ended by line feeds. A field that holds a
tab, a quote or a line break stands in quotes, with the quotes inside it doubled. So does the field
of a row that would otherwise be blank.

## Main definitions

* `CryoRig.Sampling.Table.row`: the text of a row.
* `CryoRig.Sampling.Table.value`: the text of a reading; one that was not taken reads `None`.
* `CryoRig.Sampling.Table.header`: the names and units of columns, as for `sampleColumns`,
  `aggregateColumns` and `traceColumns`.

## Main results

* `CryoRig.Sampling.Table.field_eq_self`: a field without tabs, quotes and line breaks is written
  as it is.
-/

namespace CryoRig.Sampling.Table

/-- What stands for a reading that was not taken. -/
def missing : String := "None"

/-- The text of a reading. -/
def value : Option Float → String
  | some x => Number.plain x
  | none => missing

/-- Whether a character forces its field into quotes. -/
def isSpecial (c : Char) : Bool := c == '\t' || c == '"' || c == '\n' || c == '\r'

/-- A quote inside quotes is doubled. -/
def double (c : Char) : List Char := if c = '"' then ['"', '"'] else [c]

/-- A text in quotes. -/
def quoted (cs : List Char) : List Char := '"' :: cs.flatMap double ++ ['"']

/-- The text of a field. -/
def field (s : String) : String :=
  if s.toList.any isSpecial then String.ofList (quoted s.toList) else s

/-- The text of a row. -/
def row (fields : List String) : String :=
  let text := "\t".intercalate (fields.map field)
  (if text.isEmpty then String.ofList (quoted []) else text) ++ "\n"

/-- The text of a row of readings behind a value that is always there. -/
def values (first : Float) (readings : List (Option Float)) : String :=
  row (Number.plain first :: readings.map value)

/-- The two rows at the head of a file: names and units. -/
def header (columns : List Channel) : List (List String) :=
  [columns.map Channel.name, columns.map Channel.unit]

/-- The columns of the samples of an acquisition. -/
def sampleColumns (layout : Layout) : List Channel := ⟨"time", "seconds"⟩ :: layout

/-- The columns of the aggregates of a stepped sweep: two for each channel, the mean and the
deviation. -/
def aggregateColumns (parameter : Parameter) (layout : Layout) : List Channel :=
  ⟨parameter.name, parameter.unit⟩ ::
    layout.flatMap fun c => [c, ⟨"delta" ++ c.name, c.unit⟩]

/-- The columns of the trace of a differential sweep. -/
def traceColumns : List Channel := [⟨"I", "A"⟩, ⟨"time", "seconds"⟩, ⟨"dV/dI", "Ohm"⟩]

theorem field_eq_self {s : String} (h : ∀ c ∈ s.toList, isSpecial c = false) : field s = s := by
  have h' : s.toList.any isSpecial = false := by simpa using h
  simp [field, h']

end CryoRig.Sampling.Table
