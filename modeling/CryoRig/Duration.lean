import CryoRig.Number.Print

/-!
# Durations and the clock

Time spans are whole nanoseconds. The clock shows whole milliseconds since the rig was set up, and
a timer set for a moment between two of them rings at the later one.

## Main definitions

* `CryoRig.Duration`: a span of time, with `ofMillis`, `ofSeconds` and `ofSeconds?`.
* `CryoRig.Duration.seconds`: a span in seconds.
* `CryoRig.Instant`: a moment of the clock.
* `CryoRig.hms`: a number of seconds as hours, minutes and seconds.

## Main results

* `CryoRig.Instant.tick_le_iff`: a timer has rung once the clock is past its moment, not before.
-/

namespace CryoRig

/-- How many nanoseconds a millisecond has. -/
def nanosPerMilli : Nat := 1000000

/-- How many nanoseconds a second has. -/
def nanosPerSecond : Nat := 1000000000

/-- A span of time. -/
structure Duration where
  /-- Its length in nanoseconds. -/
  nanos : Nat
  deriving DecidableEq, Repr

namespace Duration

/-- A number of milliseconds. -/
def ofMillis (n : Nat) : Duration := ⟨n * nanosPerMilli⟩

/-- A number of seconds. -/
def ofSeconds (n : Nat) : Duration := ⟨n * nanosPerSecond⟩

/-- No time at all. -/
def zero : Duration := ⟨0⟩

/-- The longest span there is, just under `2 ^ 64` seconds. -/
def max : Duration := ⟨Number.twoTo 64 * nanosPerSecond - 1⟩

/-- A number of seconds, to the nearest nanosecond, a half going to the even one. Negative and
undefined numbers are no span, nor is anything from `2 ^ 64` seconds on. -/
def ofSeconds? (x : Float) : Option Duration :=
  match Number.Binary64.ofFloat x with
  | .finite negative m e =>
    if negative ∧ m ≠ 0 then none
    else
      let n := Number.scaleRound .toEven m e nanosPerSecond
      if n ≤ max.nanos then some ⟨n⟩ else none
  | _ => none

/-- The span in seconds: the whole seconds plus the rest as a fraction. -/
def seconds (d : Duration) : Float :=
  Float.ofNat (d.nanos / nanosPerSecond) + Float.ofNat (d.nanos % nanosPerSecond) / 1e9

instance : Min Duration := ⟨fun a b => if a.nanos ≤ b.nanos then a else b⟩

end Duration

/-! ## Moments -/

/-- A moment, in nanoseconds since the rig was set up. -/
structure Instant where
  /-- The nanoseconds since the start. -/
  nanos : Nat
  deriving DecidableEq, Repr

namespace Instant

/-- The moment at which the clock shows `ms` milliseconds. -/
def ofMillis (ms : Nat) : Instant := ⟨ms * nanosPerMilli⟩

/-- The clock has a range of `2 ^ 63` seconds. -/
def limit : Nat := Number.twoTo 63 * nanosPerSecond

/-- The moment `d` later, if the clock still reaches it. -/
def later? (t : Instant) (d : Duration) : Option Instant :=
  if t.nanos + d.nanos < limit then some ⟨t.nanos + d.nanos⟩ else none

/-- What is left from `now` until `t`. -/
def since (t now : Instant) : Duration := ⟨t.nanos - now.nanos⟩

/-- The first millisecond of the clock that is not before the moment. -/
def tick (t : Instant) : Nat := (t.nanos + (nanosPerMilli - 1)) / nanosPerMilli

/-- A timer has rung at `ms` exactly if the moment it was set for is not after `ms`. -/
theorem tick_le_iff (t : Instant) (ms : Nat) : t.tick ≤ ms ↔ t.nanos ≤ (ofMillis ms).nanos := by
  simp only [tick, ofMillis, nanosPerMilli]
  omega

@[simp] theorem tick_ofMillis (ms : Nat) : (ofMillis ms).tick = ms := by
  simp only [tick, ofMillis, nanosPerMilli]
  omega

end Instant

/-- The millisecond at which a timer set at `now` for `d` rings. -/
def Duration.ringsAt (d : Duration) (now : Nat) : Nat :=
  Instant.tick ⟨(Instant.ofMillis now).nanos + d.nanos⟩

/-! ## Hours, minutes, seconds -/

/-- A number of seconds as `HH:MM:SS`, rounded to whole seconds with a half going up. What is
negative or undefined counts as zero. -/
def hms (seconds : Float) : String :=
  let total := Number.wholeNearest (Number.twoTo 64 - 1) seconds
  Number.padded 2 (total / 3600) ++ ":" ++ Number.padded 2 (total / 60 % 60) ++ ":" ++
    Number.padded 2 (total % 60)

end CryoRig
