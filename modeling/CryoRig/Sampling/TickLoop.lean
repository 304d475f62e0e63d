import CryoRig.Sampling.Overload
import CryoRig.Sampling.Protocol

/-!
# What a tick does to the samples

A reading that succeeded is put at the end of the series. In a stepped sweep the sweep then says
whether it is kept; if not, it is taken back.

## Main definitions

* `CryoRig.Sampling.Ledger`: the samples of an acquisition and the sweep they belong to.
* `CryoRig.Sampling.Ledger.take`: what a reading is worth, and the ledger after it.

## Main results

* `CryoRig.Sampling.Ledger.times_take`: the series grows by the tick exactly if it is kept.
-/

namespace CryoRig.Sampling

/-- The samples of an acquisition and the sweep they belong to. -/
structure Ledger where
  /-- The samples that were kept. -/
  series : Series
  /-- The sweep, if there is one. -/
  sweep : Option (Sweep Float)

namespace Ledger

/-- No samples yet. -/
def start (width : Nat) (sweep : Option (Sweep Float)) : Ledger := ⟨.empty width, sweep⟩

/-- The verdict on a sample that belongs to no sweep. -/
def kept : Verdict := ⟨true, none, none, false⟩

/-- What a sample is worth, and the ledger after it. -/
def take (l : Ledger) (x : Sample) : Verdict × Ledger :=
  let series := l.series.push x
  match l.sweep with
  | none => (kept, { l with series := series })
  | some sweep =>
    let (verdict, sweep) := sweep.onTick x.time series
    (verdict, ⟨if verdict.keep then series else series.pop, some sweep⟩)

/-- The device did not take the target. -/
def entryFailed (l : Ledger) : Ledger := { l with sweep := l.sweep.map Sweep.entryFailed }

/-- A sample stays in the series exactly if it is kept. -/
theorem times_take (l : Ledger) (x : Sample) :
    (l.take x).2.series.times =
      if (l.take x).1.keep then l.series.times.push x.time else l.series.times := by
  unfold take
  cases l.sweep with
  | none => simp [kept, Series.push]
  | some sweep =>
    simp only
    split
    · simp [Series.push]
    · simp [Series.push, Series.pop]

end Ledger

end CryoRig.Sampling
