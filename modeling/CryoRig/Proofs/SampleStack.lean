import Mathlib.Data.List.ReduceOption
import CryoRig.Proofs.TickRecords

/-!
# A series is a stack of samples

A series keeps its samples by columns, and every edit changes the time and each channel on its own.
Whatever is added to it and taken back, the columns stay together: row by row they hold a stack, to
which a sample is added at the end and from which the newest one is taken, each sample with one
value for every channel. So whoever looks up a sample by its place finds the same one in every
column, and what is aggregated from a place on are the samples from that place on.

An aggregate is one of the values that are there. Where values are missing, and how many, is of no
account.

## Main definitions

* `CryoRig.Sampling.Series.Edit`: a sample is added, or the newest one is taken back.
* `CryoRig.Sampling.Series.afterEdits`, `CryoRig.Sampling.Series.stackAfter`: a series and a stack
  after the same edits.
* `CryoRig.Sampling.Series.Holds`: a series holds a stack of samples.

## Main results

* `CryoRig.Sampling.Series.edit_collect`: an edit does to the series what it does to the stack.
* `CryoRig.Sampling.Aggregate.isSome_mean_iff`, `CryoRig.Sampling.Aggregate.isSome_deviation_iff`:
  when there is an aggregate.
* `CryoRig.Sampling.Series.holds_stack`: what a series holds after any edits.
-/

namespace CryoRig.Sampling

/-! ## Aggregates -/

namespace Aggregate

variable {vs ws : List (Option Float)}

/-- An aggregate is told from the values that are there, in their order. -/
lemma of_congr (h : vs.reduceOption = ws.reduceOption) : of vs = of ws := by
  have hvalues : vs.filterMap id = ws.filterMap id := h
  rw [of, of, hvalues]

/-- A value that is missing changes nothing, wherever it is missing. -/
lemma of_append_none (before after : List (Option Float)) :
    of (before ++ none :: after) = of (before ++ after) :=
  of_congr (by simp [List.reduceOption])

/-- There is an aggregate if there is a value, and both parts of it. -/
lemma isSome_entries_iff :
    ((of vs).mean.isSome ↔ vs.reduceOption ≠ []) ∧
      ((of vs).deviation.isSome ↔ vs.reduceOption ≠ []) := by
  have hof : vs.filterMap id = vs.reduceOption := rfl
  rw [of, hof]
  cases vs.reduceOption <;> simp

lemma reduceOption_ne_nil_iff : vs.reduceOption ≠ [] ↔ ∃ x, some x ∈ vs := by
  simp only [← List.reduceOption_mem_iff]
  exact ⟨List.exists_mem_of_ne_nil _, fun ⟨_, hx⟩ => List.ne_nil_of_mem hx⟩

/-- There is a mean exactly if there is a value. -/
lemma isSome_mean_iff : (of vs).mean.isSome ↔ ∃ x, some x ∈ vs :=
  isSome_entries_iff.1.trans reduceOption_ne_nil_iff

/-- There is a deviation exactly if there is a value. -/
lemma isSome_deviation_iff : (of vs).deviation.isSome ↔ ∃ x, some x ∈ vs :=
  isSome_entries_iff.2.trans reduceOption_ne_nil_iff

end Aggregate

namespace Series

variable {width : Nat} {xs : List Sample}

/-! ## Edits -/

/-- What is done to a series. -/
inductive Edit where
  /-- A sample is added. -/
  | push (x : Sample)
  /-- The newest sample is taken back. -/
  | pop

/-- A series after an edit. -/
def edit (s : Series) : Edit → Series
  | .push x => s.push x
  | .pop => s.pop

/-- A stack of samples after an edit, the newest one at the end. -/
def Edit.onStack (xs : List Sample) : Edit → List Sample
  | .push x => xs ++ [x]
  | .pop => xs.dropLast

/-- Nothing is taken back from a series without samples. -/
lemma pop_of_isEmpty {s : Series} (h : s.isEmpty = true) : s.pop = s := if_pos h

/-- What is taken back from the series is taken from the samples. -/
lemma pop_collect (width : Nat) (xs : List Sample) :
    (collect width xs).pop = collect width xs.dropLast := by
  rcases List.eq_nil_or_concat xs with rfl | ⟨xs, x, rfl⟩
  · exact pop_of_isEmpty rfl
  · rw [List.concat_eq_append, collect_concat, pop_push, List.dropLast_concat]

/-- What edits leave of a series of `width` channels without samples. -/
def afterEdits (width : Nat) (edits : List Edit) : Series := edits.foldl edit (empty width)

/-- What edits leave of a stack without samples. -/
def stackAfter (edits : List Edit) : List Sample := edits.foldl Edit.onStack []

/-- An edit does to the series what it does to the stack. -/
theorem edit_collect (width : Nat) (xs : List Sample) (e : Edit) :
    (collect width xs).edit e = collect width (e.onStack xs) := by
  cases e with
  | push x => exact (collect_concat width xs x).symm
  | pop => exact pop_collect width xs

/-- So do all edits, one after the other. -/
theorem foldl_edit_collect (width : Nat) (xs : List Sample) (edits : List Edit) :
    edits.foldl edit (collect width xs) = collect width (edits.foldl Edit.onStack xs) := by
  induction edits generalizing xs with
  | nil => rfl
  | cons e edits ih => rw [List.foldl_cons, List.foldl_cons, edit_collect, ih]

/-! ## What a series holds -/

/-- A series of `width` channels holds a stack of samples, the newest one at the end. -/
structure Holds (width : Nat) (stack : List Sample) (s : Series) : Prop where
  /-- There are as many samples. -/
  size_eq : s.size = stack.length
  /-- There is a column for each channel. -/
  length_columns : s.columns.length = width
  /-- The columns are as long as that of the times. -/
  aligned : s.Aligned
  /-- The rows are the samples, each with one value for every channel. -/
  rows_eq : s.rows = stack.map (fitted width)
  /-- The times are those of the samples. -/
  times_eq : s.times.toList = stack.map Sample.time
  /-- The column of a channel has its value in each sample, or nothing where the sample is short. -/
  column_eq : ∀ i, s.column? i =
    if i < width then some (stack.map fun x => x.values[i]?.join) else none
  /-- What is aggregated from a place on are the samples from there on, channel by channel. -/
  aggregateFrom_eq : ∀ k, s.aggregateFrom k =
    (List.range width).map fun i => Aggregate.of ((stack.drop k).map fun x => x.values[i]?.join)

lemma aligned_collect (width : Nat) (xs : List Sample) : (collect width xs).Aligned := by
  intro c hc
  rw [columns_collect] at hc
  obtain ⟨i, -, rfl⟩ := List.mem_map.1 hc
  simpa [size] using (size_collect width xs).symm

/-- A series holds the samples that were put into it. -/
lemma holds_collect (width : Nat) (xs : List Sample) : Holds width xs (collect width xs) where
  size_eq := size_collect width xs
  length_columns := by simp [columns_collect]
  aligned := aligned_collect width xs
  rows_eq := rows_collect_fitted width xs
  times_eq := by simp [collect, times_foldl_push, empty]
  column_eq i := by
    rw [column?, columns_collect]
    by_cases hi : i < width <;> simp [hi, valueAt]
  aggregateFrom_eq k := by
    have hvalue (i : Nat) : valueAt i = fun x : Sample => x.values[i]?.join := rfl
    simp [aggregateFrom, columns_collect, Function.comp_def, List.map_drop, hvalue]

/-- Nothing is aggregated from behind the last sample on. -/
lemma Holds.aggregateFrom_of_le {s : Series} {k : Nat} (h : Holds width xs s)
    (hk : xs.length ≤ k) : s.aggregateFrom k = List.replicate width ⟨none, none⟩ := by
  have hnone : Aggregate.of [] = ⟨none, none⟩ := rfl
  simp [h.aggregateFrom_eq, List.drop_eq_nil_of_le hk, hnone, List.map_const']

/-- **A series is a stack of samples.** After any edits a series holds the stack that the same edits
leave of an empty one: a sample that is added comes at the end, the one at the end is taken back,
and of an empty series nothing is. Behind the last sample there is nothing to aggregate.

An aggregate is told from the values that are there, in their order, so missing values may be put
in anywhere. Mean and deviation are there exactly if there is a value.

**Proof sketch.** One edit of the series that was put together from a stack gives the series that is
put together from the stack after that edit, so by induction all of them do. Such a series holds its
stack, column by column. -/
theorem holds_stack (width : Nat) (edits : List Edit) :
    Holds width (stackAfter edits) (afterEdits width edits) ∧
    (stackAfter edits = [] → (afterEdits width edits).pop = afterEdits width edits) ∧
    (∀ k, (stackAfter edits).length ≤ k →
      (afterEdits width edits).aggregateFrom k = List.replicate width ⟨none, none⟩) ∧
    (∀ vs ws : List (Option Float), vs.reduceOption = ws.reduceOption →
      Aggregate.of vs = Aggregate.of ws) ∧
    (∀ before after : List (Option Float),
      Aggregate.of (before ++ none :: after) = Aggregate.of (before ++ after)) ∧
    ∀ vs : List (Option Float),
      ((Aggregate.of vs).mean.isSome ↔ ∃ x, some x ∈ vs) ∧
      ((Aggregate.of vs).deviation.isSome ↔ ∃ x, some x ∈ vs) := by
  have hseries : afterEdits width edits = collect width (stackAfter edits) :=
    foldl_edit_collect width [] edits
  have hholds : Holds width (stackAfter edits) (afterEdits width edits) :=
    hseries ▸ holds_collect width (stackAfter edits)
  refine ⟨hholds, fun hnil => ?_, fun k hk => hholds.aggregateFrom_of_le hk,
    fun vs ws => Aggregate.of_congr, Aggregate.of_append_none,
    fun vs => ⟨Aggregate.isSome_mean_iff, Aggregate.isSome_deviation_iff⟩⟩
  rw [hseries, hnil]
  exact pop_of_isEmpty rfl

end Series

end CryoRig.Sampling
