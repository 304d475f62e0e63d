import CryoRig.Instrument.Bus

/-!
# The gate source

A gate source puts out a voltage or a current. A level is only set if the source puts out the
quantity that is meant; otherwise the level is left as it is, and this is reported.

## Main definitions

* `CryoRig.Instrument.Gate.function`: what the source puts out.
* `CryoRig.Instrument.Gate.setLevel`: set the level, if it has the right quantity.
* `CryoRig.Instrument.Gate.setOutput`: switch the output.
-/

namespace CryoRig.Instrument.Gate

/-- The quantity that a reply names. -/
def parseFunction (reply : String) : Option SourceFunction :=
  let name := (Text.trim reply).toLower.toList
  if "volt".toList.isPrefixOf name then some .voltage
  else if "curr".toList.isPrefixOf name then some .current
  else none

/-- What the source puts out, if it is one of the two. -/
def function (id : String) : Driving (Option SourceFunction) := do
  pure (parseFunction (← query id ":SOUR:FUNC?"))

/-- Set the level, in volts or amperes; whether it was set. -/
def setLevel (id : String) (wanted : SourceFunction) (level : Float) : Driving Bool := do
  let actual ← function id
  if actual = some wanted then
    write id (":SOURCE:LEVEL " ++ Number.plain level)
    pure true
  else
    log (.gateInWrongMode id wanted actual)
    pure false

/-- Switch the output. -/
def setOutput (id : String) (on : Bool) : Driving Unit :=
  write id (if on then ":OUTP 1" else ":OUTP 0")

end CryoRig.Instrument.Gate
