import CryoRig.Quantity

/-!
# The series of accepted samples

A series keeps the samples of an acquisition by columns, the time and every channel apart, all of
one length. Seen by rows it is a stack: the newest sample is the only one that can be taken back.

## Main definitions

* `CryoRig.Sampling.Series`: the columns, with `empty`, `push` and `pop`.
* `CryoRig.Sampling.Aggregate`: mean and deviation of the values that are there.
* `CryoRig.Sampling.Series.aggregateFrom`: the aggregate of every channel over the newest rows.

## Main results

* `CryoRig.Sampling.Series.Aligned`: every column is as long as the time column; `aligned_empty`,
  `Aligned.push` and `Aligned.pop` keep it so.
-/

namespace CryoRig.Sampling

/-! ## Aggregates -/

/-- Mean and deviation of the values of one channel. -/
structure Aggregate where
  /-- The mean, if there was a value. -/
  mean : Option Float
  /-- The root of the mean square distance from the mean, if there was a value. -/
  deviation : Option Float

/-- The sum from left to right. -/
def sum (xs : List Float) : Float := xs.foldl (· + ·) (-0.0)

/-- The aggregate of the values that are there. -/
def Aggregate.of (values : List (Option Float)) : Aggregate :=
  match values.filterMap id with
  | [] => ⟨none, none⟩
  | present@(_ :: _) =>
    let n := Float.ofNat present.length
    let mean := sum present / n
    let variance := sum (present.map fun x => (x - mean) * (x - mean)) / n
    ⟨some mean, some variance.sqrt⟩

/-- The entries of an aggregate as they stand in a row. -/
def Aggregate.entries (a : Aggregate) : List (Option Float) := [a.mean, a.deviation]

/-! ## Series -/

/-- The accepted samples by columns. -/
structure Series where
  /-- The times of the samples. -/
  times : Array Float
  /-- One column for each channel. -/
  columns : List (Array (Option Float))

namespace Series

/-- A series of `width` channels without samples. -/
def empty (width : Nat) : Series := ⟨#[], List.replicate width #[]⟩

/-- The number of samples. -/
def size (s : Series) : Nat := s.times.size

/-- Whether there is no sample. -/
def isEmpty (s : Series) : Bool := s.times.isEmpty

/-- Put one value at the end of each column; a value that is not given is missing. -/
def extend : List (Array (Option Float)) → List (Option Float) → List (Array (Option Float))
  | [], _ => []
  | column :: columns, values => column.push values.head?.join :: extend columns values.tail

/-- Add a sample. Missing values at its end count as not taken, values beyond the last channel are
dropped. -/
def push (s : Series) (x : Sample) : Series :=
  ⟨s.times.push x.time, extend s.columns x.values⟩

/-- Take back the newest sample, if there is one. -/
def pop (s : Series) : Series :=
  if s.times.isEmpty then s else ⟨s.times.pop, s.columns.map Array.pop⟩

/-- The column of a channel. -/
def column? (s : Series) (index : Nat) : Option (List (Option Float)) :=
  s.columns[index]?.map Array.toList

/-- The aggregates of all channels over the samples from number `first` on. -/
def aggregateFrom (s : Series) (first : Nat) : List Aggregate :=
  s.columns.map fun column => Aggregate.of (column.toList.drop first)

/-! ## Alignment -/

/-- Every column is as long as the time column. -/
def Aligned (s : Series) : Prop := ∀ c ∈ s.columns, c.size = s.times.size

@[simp] theorem length_extend (columns : List (Array (Option Float)))
    (values : List (Option Float)) : (extend columns values).length = columns.length := by
  induction columns generalizing values with
  | nil => rfl
  | cons c cs ih => simp [extend, ih]

theorem aligned_empty (width : Nat) : (empty width).Aligned := by
  intro c hc
  simp only [empty, List.mem_replicate] at hc
  simp [empty, hc.2]

/-- A column after one more value came from a column one shorter. -/
theorem size_of_mem_extend {columns : List (Array (Option Float))} {values : List (Option Float)}
    {n : Nat} (h : ∀ c ∈ columns, c.size = n) : ∀ c ∈ extend columns values, c.size = n + 1 := by
  induction columns generalizing values with
  | nil => simp [extend]
  | cons c cs ih =>
    intro d hd
    rcases List.mem_cons.1 hd with rfl | hd
    · simp [h c List.mem_cons_self]
    · exact ih (fun e he => h e (List.mem_cons_of_mem _ he)) d hd

theorem Aligned.push {s : Series} (h : s.Aligned) (x : Sample) : (s.push x).Aligned := by
  intro c hc
  simpa [Series.push] using size_of_mem_extend h c hc

theorem Aligned.pop {s : Series} (h : s.Aligned) : s.pop.Aligned := by
  unfold Series.pop
  split
  · exact h
  · intro c hc
    obtain ⟨d, hd, rfl⟩ := List.mem_map.1 hc
    simp [h d hd]

end Series

end CryoRig.Sampling
