import CryoRig.Instrument.Lockin
import CryoRig.Site.Action

/-!
# The lock-ins of a site

A site has room for four lock-ins. Every place has two columns, and those of a place without a
lock-in are never read.

## Main definitions

* `CryoRig.Site.lockinColumns`: the columns of all places.
* `CryoRig.Site.readLockins`: the signals at all places.
* `CryoRig.Site.onLockin`: work on the lock-in at a given place.

## Main results

* `CryoRig.Site.length_lockinColumns`: two columns for each place.
-/

namespace CryoRig.Site

open Instrument

/-- The columns of one place. -/
def lockinPair (firstMeasuresCurrent : Bool) (index : Nat) : Layout :=
  let number := toString (index + 1)
  [if index = 0 ∧ firstMeasuresCurrent then ⟨"I1", "A"⟩ else ⟨"U" ++ number, "V"⟩,
    ⟨"Phase" ++ number, "deg"⟩]

/-- The columns of all places. -/
def lockinColumns (firstMeasuresCurrent : Bool) : Layout :=
  (List.range maxLockins).flatMap (lockinPair firstMeasuresCurrent)

@[simp] theorem length_lockinColumns (firstMeasuresCurrent : Bool) :
    (lockinColumns firstMeasuresCurrent).length = 8 := rfl

/-- The signals at the given number of places, the first of them at the first lock-in. -/
def readSlots : Nat → List String → Driving (List (Option Float))
  | 0, _ => pure []
  | places + 1, [] => do
    pure (none :: none :: (← readSlots places []))
  | places + 1, id :: ids => do
    let (amplitude, phase) ← Lockin.signal id
    pure (some amplitude :: some phase :: (← readSlots places ids))

/-- The signals at all places. -/
def readLockins (ids : List String) : Driving (List (Option Float)) := readSlots maxLockins ids

/-- Work on the lock-in at a place, if there is one. -/
def onLockin {α : Type} (site : String) (ids : List String) (index : Nat)
    (work : String → Driving α) : Driving α :=
  match ids[index]? with
  | some id => work id
  | none => throw (.noLockin site index)

/-- What is done about offset and expand; switching them off is reported if `reportOff`. -/
def offsetExpand (id : String) (reportOff : Bool) : Option Expand → Driving Unit
  | some expand => do
    let offset ← Lockin.expandOn id expand
    log (.offsetExpandOn id offset expand)
  | none => do
    Lockin.expandOff id
    if reportOff then log (.offsetExpandOff id)

end CryoRig.Site
