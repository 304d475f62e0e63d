import CryoRig.Instrument.Bus

/-!
# Lock-in amplifiers

The sensitivity range is an index up to 26, one volt of full scale. Offset and expand act on the
amplitude of the signal.

## Main definitions

* `CryoRig.Instrument.Lockin.signal`, `snapshot`: the signal.
* `CryoRig.Instrument.Lockin.status`, `rangeUp`: overloads and the sensitivity range.
* `CryoRig.Instrument.Lockin.setAmplitude`, `setFrequency`: the output, within what it can produce.
* `CryoRig.Instrument.Lockin.expandOn`, `expandOff`: offset and expand.
-/

namespace CryoRig.Instrument.Lockin

/-- The index of the highest sensitivity range. -/
def topRange : Nat := 26

/-- Amplitude and phase of the signal, in volts and degrees. -/
def signal (id : String) : Driving (Float × Float) := do
  let values ← values id "SNAP? 3,4"
  match values.rest with
  | [phase] => pure (values.first, phase)
  | rest => throw (.wrongCount id "SNAP?" 2 (rest.length + 1))

/-- In-phase part, quadrature part, amplitude and phase of the signal. -/
def snapshot (id : String) : Driving (Float × Float × Float × Float) := do
  let values ← values id "SNAP? 1,2,3,4"
  match values.rest with
  | [y, amplitude, phase] => pure (values.first, y, amplitude, phase)
  | rest => throw (.wrongCount id "SNAP?" 4 (rest.length + 1))

/-- The status byte. -/
def status (id : String) : Driving LockinStatus := do
  pure ⟨UInt8.ofNat (← whole id "LIAS?" Number.byteMax)⟩

/-- The index of the sensitivity range. -/
def sensitivity (id : String) : Driving Nat := whole id "SENS?" Number.byteMax

/-- Go one sensitivity range up: the new index, or `none` at the top. -/
def rangeUp (id : String) : Driving (Option Nat) := do
  let current ← sensitivity id
  if topRange ≤ current then pure none
  else
    write id s!"SENS {current + 1}"
    pure (some (current + 1))

/-- Set the amplitude of the output, in volts. -/
def setAmplitude (id : String) (volts : Float) : Driving Unit :=
  if 0.004 ≤ volts ∧ volts ≤ 5 then write id ("SLVL " ++ Number.plain volts)
  else throw (.amplitudeOutside id volts)

/-- Set the frequency of the output, in hertz. -/
def setFrequency (id : String) (hertz : Float) : Driving Unit :=
  if 0.001 ≤ hertz ∧ hertz ≤ 102000 then write id ("FREQ " ++ Number.plain hertz)
  else throw (.frequencyOutside id hertz)

/-- Let the lock-in find an offset and expand around it: the offset, in percent. The bus is held
throughout, so the offset that is read is the one just found. -/
def expandOn (id : String) (expand : Expand) : Driving Float := withBus do
  Held.write id "AOFF 3"
  let values ← Held.values id "OEXP? 3"
  match values.rest with
  | [_] =>
    Held.write id ("OEXP 3," ++ Number.plain values.first ++ "," ++ toString expand.code)
    pure values.first
  | rest => throw (.wrongCount id "OEXP?" 2 (rest.length + 1))

/-- Remove offset and expand. -/
def expandOff (id : String) : Driving Unit := write id "OEXP 3,0,0"

end CryoRig.Instrument.Lockin
