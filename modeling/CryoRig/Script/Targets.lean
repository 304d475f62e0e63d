/-!
# The targets of a sweep

Evenly spaced values between two ends, and the zigzag over them, in which every second pass runs
backwards.

## Main definitions

* `CryoRig.Script.linspace`: evenly spaced values, both ends included.
* `CryoRig.Script.stepList`: the passes of a zigzag, one after the other.

## Main results

* `CryoRig.Script.length_linspace`, `CryoRig.Script.length_stepList`: how many values there are.
-/

namespace CryoRig.Script

/-- `count` evenly spaced values from `start` to `stop`. -/
def linspace (start stop : Float) : Nat → List Float
  | 0 => []
  | 1 => [start]
  | n =>
    let step := (stop - start) / Float.ofNat (n - 1)
    (List.range n).map fun i => start + step * Float.ofNat i

/-- The values of one pass; odd passes run backwards. -/
def pass (forward : List Float) (index : Nat) : List Float :=
  if index % 2 = 0 then forward else forward.reverse

/-- The values of `zigzag` passes over `points` evenly spaced values. -/
def stepList (start stop : Float) (points zigzag : Nat) : List Float :=
  (List.range zigzag).flatMap (pass (linspace start stop points))

@[simp] theorem length_linspace (start stop : Float) (n : Nat) :
    (linspace start stop n).length = n := by
  match n with
  | 0 => rfl
  | 1 => rfl
  | n + 2 => simp [linspace]

@[simp] theorem length_pass (forward : List Float) (index : Nat) :
    (pass forward index).length = forward.length := by
  unfold pass
  split <;> simp

/-- A zigzag visits every point on every pass. -/
theorem length_stepList (start stop : Float) (points zigzag : Nat) :
    (stepList start stop points zigzag).length = zigzag * points := by
  simp [stepList, List.length_flatMap, List.map_const']

end CryoRig.Script
