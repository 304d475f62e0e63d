import CryoRig.Sampling.Series

/-!
# Stepped sweeps

A sweep works through a queue of targets. Entering a target opens a window. Ticks during its first
`relax` are dropped, ticks after that are kept, and the tick on which `relax + measure` has passed
closes the window: it yields the aggregate of the kept ticks and enters the next target at once.

A sweep only says what a tick is worth. Whoever runs it sets the target on the device and reports
a failure with `entryFailed`, which has the same target offered again on the next tick.

## Main definitions

* `CryoRig.Sampling.Sweep`: a sweep over any kind of time.
* `CryoRig.Sampling.Verdict`: what a tick is worth.
* `CryoRig.Sampling.Sweep.onTick`: the verdict on a tick and the sweep after it.

## Main results

* `CryoRig.Sampling.Sweep.targets_eq_nil_of_finished`: a tick that ends the sweep leaves no target.
-/

namespace CryoRig.Sampling

/-- The window of a target. -/
structure Window (τ : Type) where
  /-- The value that was set. -/
  target : Float
  /-- When it was set. -/
  enteredAt : τ
  /-- The place in the series of the first sample kept for it. -/
  first : Option Nat

/-- A sweep of a parameter over a queue of targets. -/
structure Sweep (τ : Type) where
  /-- What is stepped. -/
  parameter : Parameter
  /-- The targets not closed yet, the one under way in front. -/
  targets : List Float
  /-- How long ticks are dropped. -/
  relax : τ
  /-- How long ticks are kept after that. -/
  measure : τ
  /-- The window that is open. -/
  window : Option (Window τ)

/-- What a tick is worth. -/
structure Verdict where
  /-- The tick belongs to a step and is kept. -/
  keep : Bool
  /-- The target that the tick closes, with the aggregates of its ticks. -/
  closed : Option (Float × List Aggregate)
  /-- The target to set now. -/
  enter : Option Float
  /-- No target is left. -/
  finished : Bool

namespace Sweep

variable {τ : Type}

/-- A sweep that has not begun. -/
def start (parameter : Parameter) (targets : List Float) (relax measure : τ) : Sweep τ :=
  ⟨parameter, targets, relax, measure, none⟩

/-- The number of targets not closed yet. -/
def remaining (s : Sweep τ) : Nat := s.targets.length

/-- Enter the target in front, or end the sweep. -/
def advance (s : Sweep τ) (now : τ) (keep : Bool) (closed : Option (Float × List Aggregate)) :
    Verdict × Sweep τ :=
  match s.targets with
  | [] => (⟨keep, closed, none, true⟩, { s with window := none })
  | target :: _ =>
    (⟨keep, closed, some target, false⟩, { s with window := some ⟨target, now, none⟩ })

/-- The verdict on the tick at `now`, whose sample is the newest of the series. -/
def onTick [Add τ] [Sub τ] [LT τ] [DecidableLT τ] (s : Sweep τ) (now : τ) (series : Series) :
    Verdict × Sweep τ :=
  match s.window with
  | none => s.advance now false none
  | some window =>
    let elapsed := now - window.enteredAt
    if elapsed < s.relax then (⟨false, none, none, false⟩, s)
    else
      let first := window.first.getD (series.size - 1)
      if elapsed < s.relax + s.measure then
        (⟨true, none, none, false⟩, { s with window := some { window with first := some first } })
      else
        { s with targets := s.targets.tail }.advance now true
          (some (window.target, series.aggregateFrom first))

/-- The device did not take the target: offer it again on the next tick. -/
def entryFailed (s : Sweep τ) : Sweep τ := { s with window := none }

/-- Advancing ends the sweep exactly if no target is left. -/
theorem advance_finished_iff (s : Sweep τ) (now : τ) (keep : Bool)
    (closed : Option (Float × List Aggregate)) :
    (s.advance now keep closed).1.finished = true ↔ s.targets = [] := by
  unfold advance
  split <;> simp_all

/-- Advancing leaves the targets as they are. -/
@[simp] theorem advance_targets (s : Sweep τ) (now : τ) (keep : Bool)
    (closed : Option (Float × List Aggregate)) :
    (s.advance now keep closed).2.targets = s.targets := by
  unfold advance
  split <;> simp_all

/-- A tick that ends the sweep leaves no target. -/
theorem targets_eq_nil_of_finished [Add τ] [Sub τ] [LT τ] [DecidableLT τ] (s : Sweep τ) (now : τ)
    (series : Series) (h : (s.onTick now series).1.finished = true) :
    (s.onTick now series).2.targets = [] := by
  revert h
  unfold onTick
  split
  · intro h; simpa using (advance_finished_iff ..).1 h
  · simp only
    split
    · simp
    · split
      · simp
      · intro h; simpa using (advance_finished_iff ..).1 h

end Sweep

end CryoRig.Sampling
