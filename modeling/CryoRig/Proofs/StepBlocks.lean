import CryoRig.Proofs.StepOrder
import CryoRig.Sampling.TickLoop

/-!
# The samples of a step are the ticks of its window

A sample is put into the series before the sweep says what it is worth, and is taken back if it is
dropped. A window notes the place of its first sample only when that one comes. Still the samples
that stay are cut into blocks, one for each window that was closed and one for the window still
open, and what is aggregated for a step is the block of its window: nothing is missing from it and
nothing of a neighbour is in it.

Which window is open, and since when, is told from the history alone: from the targets that the
device took and the steps that were closed.

## Main definitions

* `CryoRig.Sampling.Series.collect`: the series of given samples.
* `CryoRig.Sampling.Tick`: a tick in which every channel was read, with what became of it.
* `CryoRig.Sampling.Windows`: how many windows a history entered, and when the open one was.
* `CryoRig.Sampling.Tick.kept`: the ticks of a history that belong to a step.
* `CryoRig.Sampling.Block`: the ticks of a window that was closed.
* `CryoRig.Sampling.Books`: the invariant.
* `CryoRig.Sampling.Balances`: what a sample does to it.

## Main results

* `CryoRig.Sampling.Series.aggregateFrom_collect`: the aggregates of the samples from one on.
* `CryoRig.Sampling.Books.tick`: a tick keeps the invariant, and says what it writes.
-/

namespace CryoRig.Sampling

/-! ## Series of samples -/

namespace Series

/-- The value of a channel in a sample. -/
def valueAt (index : Nat) (x : Sample) : Option Float := x.values[index]?.join

/-- The series of given samples. -/
def collect (width : Nat) (xs : List Sample) : Series := xs.foldl push (empty width)

lemma collect_concat (width : Nat) (xs : List Sample) (x : Sample) :
    collect width (xs ++ [x]) = (collect width xs).push x := by
  simp [collect]

lemma map_pop_extend (columns : List (Array (Option Float))) (values : List (Option Float)) :
    (extend columns values).map Array.pop = columns := by
  induction columns generalizing values with
  | nil => rfl
  | cons column columns ih => simp [extend, ih]

/-- What is taken back is the newest sample. -/
@[simp] lemma pop_push (s : Series) (x : Sample) : (s.push x).pop = s := by
  simp [pop, push, map_pop_extend]

lemma times_foldl_push (s : Series) (xs : List Sample) :
    (xs.foldl push s).times = s.times ++ (xs.map Sample.time).toArray := by
  induction xs generalizing s with
  | nil => simp
  | cons x xs ih => simp [ih, push]

@[simp] lemma size_collect (width : Nat) (xs : List Sample) :
    (collect width xs).size = xs.length := by
  simp [size, collect, times_foldl_push, empty]

lemma extend_map_range (n width : Nat) (f : Nat → Array (Option Float))
    (values : List (Option Float)) :
    extend ((List.range' n width).map f) (values.drop n) =
      (List.range' n width).map fun i => (f i).push values[i]?.join := by
  induction width generalizing n with
  | zero => rfl
  | succ width ih =>
    simp only [List.range'_succ, List.map_cons, extend, List.tail_drop, List.head?_drop]
    rw [ih]

lemma columns_foldl_push (s : Series) (width : Nat) (f : Nat → Array (Option Float))
    (xs : List Sample) (h : s.columns = (List.range width).map f) :
    (xs.foldl push s).columns =
      (List.range width).map fun i => f i ++ (xs.map (valueAt i)).toArray := by
  induction xs generalizing s f with
  | nil => simpa using h
  | cons x xs ih =>
    have hx : (s.push x).columns = (List.range width).map fun i => (f i).push (valueAt i x) := by
      simpa [push, h, List.range_eq_range', valueAt] using extend_map_range 0 width f x.values
    simp [ih (s.push x) _ hx]

lemma columns_collect (width : Nat) (xs : List Sample) :
    (collect width xs).columns =
      (List.range width).map fun i => (xs.map (valueAt i)).toArray := by
  have h : (empty width).columns = (List.range width).map fun _ => #[] := by
    simp [empty, List.map_const']
  simpa [collect] using columns_foldl_push (empty width) width _ xs h

/-- The aggregates of all channels over some samples. -/
def aggregates (width : Nat) (xs : List Sample) : List Aggregate :=
  (List.range width).map fun i => Aggregate.of (xs.map (valueAt i))

/-- The aggregates from a sample on are those of that sample and the ones after it. -/
lemma aggregateFrom_collect (width : Nat) (before xs : List Sample) :
    (collect width (before ++ xs)).aggregateFrom before.length = aggregates width xs := by
  simp [aggregateFrom, columns_collect, aggregates, Function.comp_def]

end Series

/-! ## Samples in a ledger -/

namespace Ledger

variable {l : Ledger} {x : Sample} {sweep : Sweep Float}

/-- A ledger holds the sample exactly if it is kept. -/
lemma series_take (l : Ledger) (x : Sample) :
    (l.take x).2.series = if (l.take x).1.keep then l.series.push x else l.series := by
  unfold take
  cases l.sweep with
  | none => rfl
  | some sweep =>
    dsimp only
    rw [Series.pop_push]

/-- The sweep says what a sample is worth. -/
lemma verdict_take (h : l.sweep = some sweep) :
    (l.take x).1 = (sweep.onTick x.time (l.series.push x)).1 := by
  simp only [take, h]

lemma sweep_take (h : l.sweep = some sweep) :
    (l.take x).2.sweep = some (sweep.onTick x.time (l.series.push x)).2 := by
  simp only [take, h]

end Ledger

/-! ## Histories -/

/-- A tick in which every channel was read, and what became of it. -/
structure Tick where
  /-- What was read, and when. -/
  sample : Sample
  /-- The step that the tick closed. -/
  closed : Option Float
  /-- The target that the device took on it. -/
  entered : Option Float

/-- How many windows were entered so far, and when the one that is open was. -/
structure Windows where
  /-- The number of windows that were entered. -/
  entered : Nat
  /-- When the open one was entered. -/
  since : Option Float

namespace Windows

/-- A tick closes the open window and enters another one. -/
def tick (w : Windows) (x : Tick) : Windows :=
  match x.entered with
  | some _ => ⟨w.entered + 1, some x.sample.time⟩
  | none => if x.closed.isSome then { w with since := none } else w

/-- The windows of a history. -/
def of (xs : List Tick) : Windows := xs.foldl tick ⟨0, none⟩

/-- Whether a tick belongs to a step: a window is open, and the time since it was entered is not
less than `relax`. -/
def keeps (w : Windows) (relax time : Float) : Bool :=
  match w.since with
  | none => false
  | some since => !decide (time - since < relax)

lemma of_concat (xs : List Tick) (x : Tick) : of (xs ++ [x]) = (of xs).tick x := by
  simp [of]

end Windows

/-- The ticks that belong to a step, with the number of the window that is open on each; `before`
is the history of the first of the ticks. -/
def Tick.keptAfter (relax : Float) (before : List Tick) : List Tick → List (Nat × Tick)
  | [] => []
  | x :: xs =>
    (if (Windows.of before).keeps relax x.sample.time then [((Windows.of before).entered, x)]
      else []) ++ keptAfter relax (before ++ [x]) xs

/-- The ticks of a history that belong to a step. -/
def Tick.kept (relax : Float) (xs : List Tick) : List (Nat × Tick) := keptAfter relax [] xs

lemma Tick.keptAfter_concat (relax : Float) (before xs : List Tick) (x : Tick) :
    keptAfter relax before (xs ++ [x]) = keptAfter relax before xs ++
      if (Windows.of (before ++ xs)).keeps relax x.sample.time
      then [((Windows.of (before ++ xs)).entered, x)] else [] := by
  induction xs generalizing before with
  | nil => simp [keptAfter]
  | cons y ys ih => simp [keptAfter, ih, List.append_assoc]

/-! ## Blocks -/

/-- The ticks of a window that was closed. -/
structure Block where
  /-- The target of the window. -/
  target : Float
  /-- Its ticks but for the last. -/
  earlier : List Tick
  /-- The tick that closed it. -/
  last : Tick
  /-- The last tick closed the step of the target. -/
  closed_last : last.closed = some target
  /-- No tick before it closed a step. -/
  closed_earlier : ∀ x ∈ earlier, x.closed = none

namespace Block

/-- The ticks of a block; there is at least one. -/
def ticks (b : Block) : List Tick := b.earlier ++ [b.last]

/-- The aggregates of a block. -/
def aggregates (width : Nat) (b : Block) : List Aggregate :=
  Series.aggregates width (b.ticks.map Tick.sample)

/-- The ticks of blocks, each with the number of its window. -/
def numbered (number : Nat) : List Block → List (Nat × Tick)
  | [] => []
  | b :: bs => b.ticks.map (number, ·) ++ numbered (number + 1) bs

lemma numbered_concat (number : Nat) (bs : List Block) (b : Block) :
    numbered number (bs ++ [b]) =
      numbered number bs ++ b.ticks.map (number + bs.length, ·) := by
  induction bs generalizing number with
  | nil => simp [numbered]
  | cons c cs ih => simp [numbered, ih, Nat.add_assoc, Nat.add_comm 1]

lemma map_snd_numbered (number : Nat) (bs : List Block) :
    (numbered number bs).map Prod.snd = bs.flatMap ticks := by
  induction bs generalizing number with
  | nil => rfl
  | cons b bs ih => simp [numbered, ih, Function.comp_def]

end Block

/-! ## The invariant -/

/-- What is known of a ledger after a history: the ticks that belong to a step are those of the
windows that were closed, followed by those of the open one. -/
structure Books (width : Nat) (relax : Float) (xs : List Tick) (blocks : List Block)
    (trailing : List Tick) (series : Series) (sweep : Sweep Float) : Prop where
  /-- The sweep has not changed its pace. -/
  relax_eq : sweep.relax = relax
  /-- The ticks that belong to a step, cut after each one that closed a window. -/
  kept_eq : Tick.kept relax xs =
    Block.numbered 1 blocks ++ trailing.map (blocks.length + 1, ·)
  /-- They are what the series holds. -/
  series_eq : series = .collect width ((blocks.flatMap Block.ticks ++ trailing).map Tick.sample)
  /-- Every step that was closed has its block. -/
  closed_eq : xs.filterMap Tick.closed = blocks.map Block.target
  /-- No tick of the open window closed a step. -/
  closed_trailing : ∀ x ∈ trailing, x.closed = none
  /-- The window of the sweep is the one the history tells of. -/
  since_eq : sweep.window.map Window.enteredAt = (Windows.of xs).since
  /-- Every window but the open one was closed. -/
  entered_eq : (Windows.of xs).entered = blocks.length + (sweep.window.map fun _ => 1).getD 0
  /-- With no window open, no tick is left over. -/
  trailing_of_none : sweep.window = none → trailing = []
  /-- The window knows the place of its first tick once there is one. -/
  first_eq : ∀ w, sweep.window = some w →
    w.first = if trailing = [] then none else some (blocks.flatMap Block.ticks).length

section Steps

variable {width : Nat} {relax : Float} {xs : List Tick} {blocks : List Block}
  {trailing : List Tick} {series : Series} {sweep : Sweep Float}

lemma books_start (width : Nat) (parameter : Parameter) (targets : List Float)
    (relax measure : Float) :
    Books width relax [] [] [] (.empty width) (.start parameter targets relax measure) where
  relax_eq := rfl
  kept_eq := rfl
  series_eq := rfl
  closed_eq := rfl
  closed_trailing := by simp
  since_eq := rfl
  entered_eq := rfl
  trailing_of_none _ := rfl
  first_eq w hw := by simp [Sweep.start] at hw

lemma kept_concat (relax : Float) (xs : List Tick) (x : Tick) :
    Tick.kept relax (xs ++ [x]) = Tick.kept relax xs ++
      if (Windows.of xs).keeps relax x.sample.time then [((Windows.of xs).entered, x)] else [] := by
  simpa [Tick.kept] using Tick.keptAfter_concat relax [] xs x

/-- With every window closed and its block complete, the device takes or refuses the target in
front. -/
lemma books_advance (sweep : Sweep Float) (x : Tick) {keep refused : Bool}
    {more : Option (Float × List Aggregate)}
    (hrelax : sweep.relax = relax)
    (hkept : Tick.kept relax (xs ++ [x]) = Block.numbered 1 blocks)
    (hclosed : (xs ++ [x]).filterMap Tick.closed = blocks.map Block.target)
    (hentered : (Windows.of xs).entered = blocks.length)
    (hsince : x.closed.isSome = true ∨ (Windows.of xs).since = none)
    (hx : x.entered = if refused then none else (sweep.advance x.sample.time keep more).1.enter) :
    Books width relax (xs ++ [x]) blocks []
      (.collect width ((blocks.flatMap Block.ticks).map Tick.sample))
      (if (sweep.advance x.sample.time keep more).1.enter.isSome && refused
        then (sweep.advance x.sample.time keep more).2.entryFailed
        else (sweep.advance x.sample.time keep more).2) := by
  have hidle (h : x.entered = none) :
      (Windows.of (xs ++ [x])).since = none ∧
        (Windows.of (xs ++ [x])).entered = blocks.length := by
    rw [Windows.of_concat, Windows.tick, h]
    rcases hsince with hc | hs
    · simp [hc, hentered]
    · cases hc : x.closed <;> simp [hs, hentered]
  rcases Sweep.advance_cases sweep x.sample.time keep more with ⟨-, ha⟩ | ⟨target, rest, -, ha⟩
  · rw [ha] at hx ⊢
    obtain ⟨hs, hn⟩ := hidle (by simpa using hx)
    exact ⟨hrelax, by simpa using hkept, by simp, hclosed, by simp, by simp [hs], by simp [hn],
      fun _ => rfl, fun w hw => by simp at hw⟩
  · rw [ha] at hx ⊢
    cases refused with
    | true =>
      obtain ⟨hs, hn⟩ := hidle (by simpa using hx)
      exact ⟨hrelax, by simpa using hkept, by simp, hclosed, by simp,
        by simp [Sweep.entryFailed, hs], by simp [Sweep.entryFailed, hn], fun _ => rfl,
        fun w hw => by simp [Sweep.entryFailed] at hw⟩
    | false =>
      have hw : Windows.of (xs ++ [x]) = ⟨blocks.length + 1, some x.sample.time⟩ := by
        rw [Windows.of_concat, Windows.tick]
        simp only [hx, hentered]
        rfl
      refine ⟨hrelax, by simpa using hkept, by simp, hclosed, by simp, by simp [hw], by simp [hw],
        fun _ => rfl, fun w hw => ?_⟩
      obtain rfl : ⟨target, x.sample.time, none⟩ = w := by simpa using hw
      rfl

/-- The place of the first tick of the open window, once one more tick is put behind its ticks. -/
lemma Books.first_getD (hb : Books width relax xs blocks trailing series sweep)
    {w : Window Float} (hw : sweep.window = some w) (x : Sample) :
    w.first.getD ((series.push x).size - 1) = (blocks.flatMap Block.ticks).length := by
  rw [hb.first_eq w hw, hb.series_eq, ← Series.collect_concat, Series.size_collect]
  by_cases ht : trailing = []
  · simp [ht]
  · simp [ht]

/-- What a sample does to the books, with the verdict of the sweep on it: it is kept exactly if it
belongs to a step, what it closes is the block of that step, and then the books are right again. -/
def Balances (width : Nat) (relax : Float) (xs : List Tick) (blocks : List Block) (series : Series)
    (x : Sample) (refused : Bool) (verdict : Verdict) (after : Sweep Float) : Prop :=
  verdict.keep = (Windows.of xs).keeps relax x.time ∧
  ∃ more trailing',
    (verdict.closed = none ∧ more = [] ∨
      ∃ c, verdict.closed = some (c.target, c.aggregates width) ∧ more = [c]) ∧
    Books width relax
      (xs ++ [⟨x, verdict.closed.map Prod.fst, if refused then none else verdict.enter⟩])
      (blocks ++ more) trailing' (if verdict.keep then series.push x else series)
      (if verdict.enter.isSome && refused then after.entryFailed else after)

/-- In an open window a tick belongs to the step unless it is dropped. -/
lemma Books.keeps_eq (hb : Books width relax xs blocks trailing series sweep) {w : Window Float}
    (hw : sweep.window = some w) (now : Float) :
    (Windows.of xs).keeps relax now = !decide (now - w.enteredAt < sweep.relax) := by
  simp [Windows.keeps, ← hb.since_eq, hw, hb.relax_eq]

/-- A tick without a window offers the target in front: no tick is left over. -/
lemma Books.offered (hb : Books width relax xs blocks trailing series sweep)
    (hw : sweep.window = none) (x : Sample) (refused : Bool) :
    Balances width relax xs blocks series x refused (sweep.advance x.time false none).1
      (sweep.advance x.time false none).2 := by
  have hsince : (Windows.of xs).since = none := by simp [← hb.since_eq, hw]
  have hkeep : (Windows.of xs).keeps relax x.time = false := by simp [Windows.keeps, hsince]
  have htrailing := hb.trailing_of_none hw
  have hdrop : (sweep.advance x.time false none).1.keep = false := by
    rcases Sweep.advance_cases sweep x.time false none with ⟨-, ha⟩ | ⟨_, _, -, ha⟩ <;> rw [ha]
  have hseries : series = .collect width ((blocks.flatMap Block.ticks).map Tick.sample) := by
    simpa [htrailing] using hb.series_eq
  refine ⟨by rw [hdrop, hkeep], [], [], .inl ⟨Sweep.advance_closed .., rfl⟩, ?_⟩
  rw [hdrop, Sweep.advance_closed, List.append_nil]
  simp only [Option.map_none, Bool.false_eq_true, if_false, hseries]
  refine books_advance sweep ⟨x, none, _⟩ hb.relax_eq ?_ ?_ ?_ (.inr hsince) rfl
  · simp [kept_concat, hkeep, hb.kept_eq, htrailing]
  · simp [hb.closed_eq]
  · simp [hb.entered_eq, hw]

/-- Nothing changes by a tick that is dropped. -/
lemma Books.dropped (hb : Books width relax xs blocks trailing series sweep) {w : Window Float}
    (hw : sweep.window = some w) {x : Sample} (hr : x.time - w.enteredAt < sweep.relax)
    (refused : Bool) :
    Balances width relax xs blocks series x refused ⟨false, none, none, false⟩ sweep := by
  have hkeep : (Windows.of xs).keeps relax x.time = false := by simp [hb.keeps_eq hw, hr]
  have hwindows : Windows.of (xs ++ [⟨x, none, none⟩]) = Windows.of xs := by
    rw [Windows.of_concat]
    rfl
  refine ⟨hkeep.symm, [], trailing, .inl ⟨rfl, rfl⟩, ?_⟩
  simp only [Option.map_none, Option.isSome_none, Bool.false_and, Bool.false_eq_true, if_false,
    ite_self, List.append_nil]
  refine ⟨hb.relax_eq, ?_, hb.series_eq, ?_, hb.closed_trailing, ?_, ?_, hb.trailing_of_none,
    hb.first_eq⟩
  · simp [kept_concat, hkeep, hb.kept_eq]
  · simp [hb.closed_eq]
  · rw [hwindows, hb.since_eq]
  · rw [hwindows, hb.entered_eq]

/-- A tick that is kept is put behind those of its window. If it is the first of them, its place is
the number of ticks in the blocks. -/
lemma Books.put (hb : Books width relax xs blocks trailing series sweep) {w : Window Float}
    (hw : sweep.window = some w) {x : Sample} (hr : ¬x.time - w.enteredAt < sweep.relax)
    (refused : Bool) :
    Balances width relax xs blocks series x refused ⟨true, none, none, false⟩ { sweep with
      window := some { w with first := some (w.first.getD ((series.push x).size - 1)) } } := by
  have hsince : (Windows.of xs).since = some w.enteredAt := by simp [← hb.since_eq, hw]
  have hkeep : (Windows.of xs).keeps relax x.time = true := by simp [hb.keeps_eq hw, hr]
  have hentered : (Windows.of xs).entered = blocks.length + 1 := by simp [hb.entered_eq, hw]
  have hwindows : Windows.of (xs ++ [⟨x, none, none⟩]) = Windows.of xs := by
    rw [Windows.of_concat]
    rfl
  refine ⟨hkeep.symm, [], trailing ++ [⟨x, none, none⟩], .inl ⟨rfl, rfl⟩, ?_⟩
  simp only [Option.map_none, Option.isSome_none, Bool.false_and, Bool.false_eq_true, if_false,
    if_true, ite_self, List.append_nil]
  refine ⟨hb.relax_eq, ?_, ?_, ?_, ?_, ?_, ?_, by simp, ?_⟩
  · simp [kept_concat, hkeep, hb.kept_eq, hentered]
  · simp [hb.series_eq, ← Series.collect_concat]
  · simp [hb.closed_eq]
  · simpa [or_imp, forall_and] using hb.closed_trailing
  · simp [hwindows, hsince]
  · simp [hwindows, hentered]
  · rintro _ ⟨⟩
    simp [hb.first_getD hw]

/-- A tick that closes the window is put behind those of it. The ticks from the place of the first
one on make the block. -/
lemma Books.closed (hb : Books width relax xs blocks trailing series sweep) {w : Window Float}
    (hw : sweep.window = some w) {x : Sample} (hr : ¬x.time - w.enteredAt < sweep.relax)
    (refused : Bool) {more : Option (Float × List Aggregate)} (hmore : more = some (w.target,
      (series.push x).aggregateFrom (w.first.getD ((series.push x).size - 1)))) :
    let next : Sweep Float := { sweep with targets := sweep.targets.tail }
    Balances width relax xs blocks series x refused (next.advance x.time true more).1
      (next.advance x.time true more).2 := by
  intro next
  have hkeep : (Windows.of xs).keeps relax x.time = true := by simp [hb.keeps_eq hw, hr]
  have hentered : (Windows.of xs).entered = blocks.length + 1 := by simp [hb.entered_eq, hw]
  have haggregates : (series.push x).aggregateFrom (w.first.getD ((series.push x).size - 1)) =
      Series.aggregates width (trailing.map Tick.sample ++ [x]) := by
    rw [hb.first_getD hw, hb.series_eq, ← Series.collect_concat, List.map_append,
      List.append_assoc, ← List.length_map Tick.sample, Series.aggregateFrom_collect]
  rw [haggregates] at hmore
  have hput : (next.advance x.time true more).1.keep = true := by
    rcases Sweep.advance_cases next x.time true more with ⟨-, ha⟩ | ⟨_, _, -, ha⟩ <;> rw [ha]
  let last : Tick :=
    ⟨x, some w.target, if refused then none else (next.advance x.time true more).1.enter⟩
  let c : Block := ⟨w.target, trailing, last, rfl, hb.closed_trailing⟩
  have hseries : series.push x =
      .collect width (((blocks ++ [c]).flatMap Block.ticks).map Tick.sample) := by
    simp [hb.series_eq, ← Series.collect_concat, Block.ticks, c, last]
  refine ⟨by rw [hput, hkeep], [c], [], .inr ⟨c, ?_, rfl⟩, ?_⟩
  · simp [hmore, Block.aggregates, Block.ticks, c, last]
  · rw [hput, Sweep.advance_closed, if_pos rfl, hseries, show more.map Prod.fst = some w.target by
      rw [hmore]; rfl]
    refine books_advance next last hb.relax_eq ?_ ?_ ?_ (.inl rfl) rfl
    · simp [kept_concat, last, hkeep, hb.kept_eq, Block.numbered_concat, hentered, c,
        Block.ticks, Nat.add_comm]
    · simp [hb.closed_eq, last, c]
    · simp [hentered]

/-- A tick keeps the invariant. It is kept exactly if it belongs to a step, and if it closes one,
what is aggregated is the block of that step. -/
theorem Books.tick (hb : Books width relax xs blocks trailing series sweep) (x : Sample)
    (refused : Bool) :
    let b : Sweep.Beat Float := ⟨x.time, series.push x, refused⟩
    let verdict := (sweep.beat b).1
    verdict.keep = (Windows.of xs).keeps relax x.time ∧
    ∃ more trailing',
      (verdict.closed = none ∧ more = [] ∨
        ∃ c, verdict.closed = some (c.target, c.aggregates width) ∧ more = [c]) ∧
      Books width relax
        (xs ++ [⟨x, verdict.closed.map Prod.fst, if refused then none else verdict.enter⟩])
        (blocks ++ more) trailing' (if verdict.keep then series.push x else series)
        (sweep.beat b).2 := by
  change Balances width relax xs blocks series x refused (sweep.onTick x.time (series.push x)).1
    (sweep.onTick x.time (series.push x)).2
  rcases Sweep.onTick_cases sweep x.time (series.push x) with
    ⟨hw, h⟩ | ⟨w, hw, hr, h⟩ | ⟨w, hw, hr, -, h⟩ | ⟨w, hw, hr, -, h⟩ <;> rw [h]
  · exact hb.offered hw x refused
  · exact hb.dropped hw hr refused
  · exact hb.put hw hr refused
  · exact hb.closed hw hr refused rfl

end Steps

end CryoRig.Sampling
