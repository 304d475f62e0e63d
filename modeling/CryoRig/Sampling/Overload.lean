import CryoRig.Quantity

/-!
# Repeated overload

Each lock-in has a counter of the status checks in a row that found its output overloaded. When
the counter reaches the threshold, either the range of that lock-in is to be raised and the counter
starts again, or, if ranges are not to be raised, the overload is reported once.

## Main definitions

* `CryoRig.Sampling.OverloadMonitor`: the counters, with `record` and `count`.
* `CryoRig.Sampling.OverloadVerdict`: what a status check calls for.

## Main results

* `CryoRig.Sampling.OverloadMonitor.length_record`: recording keeps the number of counters.
-/

namespace CryoRig.Sampling

/-- What a status check calls for. -/
inductive OverloadVerdict where
  /-- Nothing. -/
  | clear
  /-- Nothing yet; so many checks in a row found an overload. -/
  | counting (count : Nat)
  /-- Raise the range. -/
  | rangeUp
  /-- Report the overload. -/
  | report
  deriving DecidableEq, Repr

/-- The counters of all lock-ins. -/
structure OverloadMonitor where
  /-- Checks in a row that found an overload, for each lock-in. -/
  counters : List Nat
  /-- How many of them call for something. -/
  threshold : Nat
  /-- Whether ranges are raised. -/
  autorange : Bool
  deriving DecidableEq, Repr

namespace OverloadMonitor

/-- Counters at zero; a threshold of zero counts as one. -/
def start (lockins threshold : Nat) (autorange : Bool) : OverloadMonitor :=
  ⟨List.replicate lockins 0, max threshold 1, autorange⟩

/-- The counter of a lock-in; zero if there is none. -/
def count (m : OverloadMonitor) (index : Nat) : Nat := m.counters[index]?.getD 0

/-- What the next overload in a row calls for, and the counter after it. -/
def overloaded (m : OverloadMonitor) (counter : Nat) : OverloadVerdict × Nat :=
  let next := counter + 1
  if next < m.threshold then (.counting next, next)
  else if m.autorange then (.rangeUp, 0)
  else if next = m.threshold then (.report, next)
  else (.counting next, next)

/-- Take note of a status check. -/
def record (m : OverloadMonitor) (index : Nat) (status : LockinStatus) :
    OverloadVerdict × OverloadMonitor :=
  match m.counters[index]? with
  | none => (.clear, m)
  | some counter =>
    let (verdict, next) := if status.outputOverload then m.overloaded counter else (.clear, 0)
    (verdict, { m with counters := m.counters.set index next })

@[simp] theorem length_record (m : OverloadMonitor) (index : Nat) (status : LockinStatus) :
    (m.record index status).2.counters.length = m.counters.length := by
  unfold record
  split
  · rfl
  · simp

end OverloadMonitor

end CryoRig.Sampling
