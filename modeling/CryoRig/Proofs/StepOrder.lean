import Mathlib.Tactic.Lemma
import CryoRig.Sampling.Sweep

/-!
# A sweep works through its targets in order

Whatever the times of the ticks are, and whichever targets the device refuses, a sweep loses no
target, repeats none and keeps their order. The proof carries one invariant through the run: the
targets that were closed come before those that are left, and an open window belongs to the target
in front.

Times need not be numbers: nothing is assumed of their order or of their arithmetic.

## Main definitions

* `CryoRig.Sampling.Sweep.Beat`: a tick and whether the device refuses what is offered on it.
* `CryoRig.Sampling.Sweep.after`, `CryoRig.Sampling.Sweep.verdicts`: a sweep after some beats, and
  the verdicts on them.
* `CryoRig.Sampling.Sweep.Mark`: what a beat does to a target.
* `CryoRig.Sampling.Sweep.Stage`: the invariant.

## Main results

* `CryoRig.Sampling.Sweep.onTick_cases`: the four kinds of tick.
* `CryoRig.Sampling.Sweep.Stage.beat`: a beat keeps the invariant.
* `CryoRig.Sampling.Sweep.targets_in_order`: what a run makes of its targets.
-/

namespace CryoRig.Sampling.Sweep

variable {τ : Type}

/-! ## Ticks -/

/-- Advancing offers the target in front and opens its window, or ends the sweep. -/
theorem advance_cases (s : Sweep τ) (now : τ) (keep : Bool)
    (closed : Option (Float × List Aggregate)) :
    (s.targets = [] ∧ s.advance now keep closed = (⟨keep, closed, none, true⟩,
      { s with window := none })) ∨
    (∃ target rest, s.targets = target :: rest ∧
      s.advance now keep closed = (⟨keep, closed, some target, false⟩,
        { s with window := some ⟨target, now, none⟩ })) := by
  unfold advance
  cases ht : s.targets with
  | nil => exact .inl ⟨rfl, rfl⟩
  | cons target rest => exact .inr ⟨target, rest, rfl, rfl⟩

/-- Advancing leaves it at what the tick closed. -/
@[simp] theorem advance_closed (s : Sweep τ) (now : τ) (keep : Bool)
    (closed : Option (Float × List Aggregate)) : (s.advance now keep closed).1.closed = closed := by
  rcases s.advance_cases now keep closed with ⟨-, h⟩ | ⟨_, _, -, h⟩ <;> rw [h]

/-! ## What beats do to targets -/

/-- A tick, and whether the device refuses a target that is offered on it. -/
structure Beat (τ : Type) where
  /-- When the tick is. -/
  now : τ
  /-- The series with the sample of the tick. -/
  series : Series
  /-- Whether the device refuses what is offered. -/
  refused : Bool

/-- The targets that are aggregated, in order. -/
def closedTargets (hs : List (Beat τ × Verdict)) : List Float :=
  hs.filterMap fun h => h.2.closed.map Prod.fst

/-- What is done to a target. -/
inductive Mark where
  /-- The device took it. -/
  | entered (target : Float)
  /-- Its ticks are aggregated. -/
  | closed (target : Float)

/-- What a beat does: a step is closed before the next one is entered. -/
def marks (h : Beat τ × Verdict) : List Mark :=
  (h.2.closed.map fun c => .closed c.1).toList ++
    if h.1.refused then [] else (h.2.enter.map .entered).toList

/-- What is done to a target from first to last. -/
def round (target : Float) : List Mark := [.entered target, .closed target]

/-! ## The invariant -/

/-- A sweep over `targets` that has closed some of them and has left some marks. -/
structure Stage (targets closed : List Float) (ms : List Mark) (s : Sweep τ) : Prop where
  /-- The targets that are left follow those that were closed. -/
  targets_eq : closed ++ s.targets = targets
  /-- With no window open, every target that was entered was closed. -/
  marks_of_none : s.window = none → ms = closed.flatMap round
  /-- An open window is that of the target in front, which was entered last. -/
  marks_of_some : ∀ w, s.window = some w →
    s.targets.head? = some w.target ∧ ms = closed.flatMap round ++ [.entered w.target]

variable {targets closed : List Float} {ms : List Mark} {s : Sweep τ} {b : Beat τ}

lemma stage_start (parameter : Parameter) (targets : List Float) (relax measure : τ) :
    Stage targets [] [] (start parameter targets relax measure) :=
  ⟨rfl, fun _ => rfl, fun w hw => by simp [start] at hw⟩

/-- With every target that was entered closed, the device takes or refuses the one in front. -/
lemma Stage.advance (s : Sweep τ) {keep : Bool} {more : Option (Float × List Aggregate)}
    (ht : closed ++ s.targets = targets) (hm : ms = closed.flatMap round) :
    Stage targets closed
      (ms ++ if b.refused then [] else ((s.advance b.now keep more).1.enter.map .entered).toList)
      (if (s.advance b.now keep more).1.enter.isSome && b.refused
        then (s.advance b.now keep more).2.entryFailed else (s.advance b.now keep more).2) := by
  rcases advance_cases s b.now keep more with ⟨h, ha⟩ | ⟨target, rest, h, ha⟩
  · rw [ha]
    exact ⟨ht, fun _ => by simp [hm], fun w hw => by simp at hw⟩
  · rw [ha]
    cases b.refused with
    | true => exact ⟨ht, fun _ => by simp [hm], fun w hw => by simp [entryFailed] at hw⟩
    | false =>
      refine ⟨ht, fun hw => by simp at hw, fun w hw => ?_⟩
      obtain rfl : ⟨target, b.now, none⟩ = w := by simpa using hw
      exact ⟨by simp [h], by simp [hm]⟩

/-- The marks so far begin those of going through every target. -/
lemma Stage.marks_begin (hs : Stage targets closed ms s) : ms <+: targets.flatMap round := by
  rw [← hs.targets_eq, List.flatMap_append]
  cases hw : s.window with
  | none => exact hs.marks_of_none hw ▸ List.prefix_append _ _
  | some w =>
    obtain ⟨hhead, hm⟩ := hs.marks_of_some w hw
    cases ht : s.targets with
    | nil => simp [ht] at hhead
    | cons target rest =>
      obtain rfl : target = w.target := by simpa [ht] using hhead
      exact ⟨.closed w.target :: rest.flatMap round, by simp [hm, round]⟩

/-! ## Beats -/

variable [Add τ] [Sub τ] [LT τ] [DecidableLT τ]

/-- A tick is one of four kinds: with no window open it offers the target in front; in a window it
is dropped, or kept, or kept and closes the window. -/
theorem onTick_cases (s : Sweep τ) (now : τ) (series : Series) :
    (s.window = none ∧ s.onTick now series = s.advance now false none) ∨
    (∃ w, s.window = some w ∧ now - w.enteredAt < s.relax ∧
      s.onTick now series = (⟨false, none, none, false⟩, s)) ∨
    (∃ w, s.window = some w ∧ ¬ now - w.enteredAt < s.relax ∧
      now - w.enteredAt < s.relax + s.measure ∧
      s.onTick now series = (⟨true, none, none, false⟩,
        { s with window := some { w with first := some (w.first.getD (series.size - 1)) } })) ∨
    (∃ w, s.window = some w ∧ ¬ now - w.enteredAt < s.relax ∧
      ¬ now - w.enteredAt < s.relax + s.measure ∧
      s.onTick now series = { s with targets := s.targets.tail }.advance now true
        (some (w.target, series.aggregateFrom (w.first.getD (series.size - 1))))) := by
  unfold onTick
  cases hw : s.window with
  | none => exact .inl ⟨rfl, rfl⟩
  | some w =>
    by_cases hr : now - w.enteredAt < s.relax
    · exact .inr (.inl ⟨w, rfl, hr, by simp [hr]⟩)
    · by_cases hm : now - w.enteredAt < s.relax + s.measure
      · exact .inr (.inr (.inl ⟨w, rfl, hr, hm, by simp [hr, hm]⟩))
      · exact .inr (.inr (.inr ⟨w, rfl, hr, hm, by simp [hr, hm]⟩))

/-- A beat: the verdict on its tick, and the sweep after it. A refusal is noted before the next
beat. -/
def beat (s : Sweep τ) (b : Beat τ) : Verdict × Sweep τ :=
  let (verdict, s) := s.onTick b.now b.series
  (verdict, if verdict.enter.isSome && b.refused then s.entryFailed else s)

/-- A sweep after some beats. -/
def after (s : Sweep τ) (bs : List (Beat τ)) : Sweep τ := bs.foldl (fun s b => (s.beat b).2) s

/-- The beats with their verdicts. -/
def verdicts (s : Sweep τ) : List (Beat τ) → List (Beat τ × Verdict)
  | [] => []
  | b :: bs => (b, (s.beat b).1) :: (s.beat b).2.verdicts bs

@[simp] theorem after_nil (s : Sweep τ) : s.after [] = s := rfl

@[simp] theorem after_cons (s : Sweep τ) (b : Beat τ) (bs : List (Beat τ)) :
    s.after (b :: bs) = (s.beat b).2.after bs := rfl

/-- A beat keeps the invariant. -/
theorem Stage.beat (hs : Stage targets closed ms s) (b : Beat τ) :
    Stage targets (closed ++ ((s.beat b).1.closed.map Prod.fst).toList)
      (ms ++ marks (b, (s.beat b).1)) (s.beat b).2 := by
  unfold Sweep.beat
  rcases onTick_cases s b.now b.series with
    ⟨hw, h⟩ | ⟨w, hw, -, h⟩ | ⟨w, hw, -, -, h⟩ | ⟨w, hw, -, -, h⟩ <;> rw [h]
  · -- no window is open
    simpa [marks] using Stage.advance s hs.targets_eq (hs.marks_of_none hw)
  · -- the tick is dropped
    simpa [marks] using hs
  · -- the tick is kept; the window remains that of its target
    obtain ⟨hhead, hm⟩ := hs.marks_of_some w hw
    refine ⟨by simpa using hs.targets_eq, fun hw' => by simp at hw', fun w' hw' => ?_⟩
    obtain rfl : { w with first := _ } = w' := by simpa using hw'
    exact ⟨hhead, by simpa [marks] using hm⟩
  · -- the tick closes the window
    obtain ⟨hhead, hm⟩ := hs.marks_of_some w hw
    obtain ⟨rest, hrest⟩ : ∃ rest, s.targets = w.target :: rest := by
      cases ht : s.targets with
      | nil => simp [ht] at hhead
      | cons target rest =>
        obtain rfl : target = w.target := by simpa [ht] using hhead
        exact ⟨rest, rfl⟩
    have ht : (closed ++ [w.target]) ++ s.targets.tail = targets := by
      rw [← hs.targets_eq, hrest]
      simp
    have hm' : ms ++ [.closed w.target] = (closed ++ [w.target]).flatMap round := by
      simp [hm, round]
    simpa [marks] using Stage.advance { s with targets := s.targets.tail } ht hm'

/-- A run keeps the invariant. -/
lemma Stage.after (hs : Stage targets closed ms s) (bs : List (Beat τ)) :
    Stage targets (closed ++ closedTargets (s.verdicts bs)) (ms ++ (s.verdicts bs).flatMap marks)
      (s.after bs) := by
  induction bs generalizing s closed ms with
  | nil => simpa [verdicts, closedTargets] using hs
  | cons b bs ih =>
    have := ih (hs.beat b)
    cases hc : (s.beat b).1.closed <;>
      simpa [verdicts, closedTargets, hc, List.append_assoc] using this

lemma after_concat (s : Sweep τ) (bs : List (Beat τ)) (b : Beat τ) :
    s.after (bs ++ [b]) = ((s.after bs).beat b).2 := by
  simp [Sweep.after]

@[simp] lemma beat_fst (s : Sweep τ) (b : Beat τ) :
    (s.beat b).1 = (s.onTick b.now b.series).1 := rfl

/-- A refusal leaves the targets as they are. -/
@[simp] lemma beat_targets (s : Sweep τ) (b : Beat τ) :
    (s.beat b).2.targets = (s.onTick b.now b.series).2.targets := by
  unfold Sweep.beat
  dsimp only
  split <;> rfl

/-- A tick ends the sweep exactly if it leaves no target. -/
lemma Stage.finished_iff (hs : Stage targets closed ms s) (b : Beat τ) :
    (s.beat b).1.finished = true ↔ (s.beat b).2.targets = [] := by
  rw [beat_fst, beat_targets]
  rcases onTick_cases s b.now b.series with
    ⟨-, h⟩ | ⟨w, hw, -, h⟩ | ⟨w, hw, -, -, h⟩ | ⟨w, -, -, -, h⟩ <;> rw [h]
  · rw [advance_finished_iff, advance_targets]
  · have hne : s.targets ≠ [] := by
      intro hnil
      simpa [hnil] using (hs.marks_of_some w hw).1
    simpa using hne
  · have hne : s.targets ≠ [] := by
      intro hnil
      simpa [hnil] using (hs.marks_of_some w hw).1
    simpa using hne
  · rw [advance_finished_iff, advance_targets]

/-- What a tick offers is in front after it. -/
lemma head?_of_enter {now : τ} {series : Series} {x : Float}
    (h : (s.onTick now series).1.enter = some x) :
    (s.onTick now series).2.targets.head? = some x := by
  have hadvance (s : Sweep τ) (keep : Bool) (more : Option (Float × List Aggregate))
      (h : (s.advance now keep more).1.enter = some x) :
      (s.advance now keep more).2.targets.head? = some x := by
    rcases advance_cases s now keep more with ⟨-, ha⟩ | ⟨target, rest, ht, ha⟩ <;> rw [ha] at h ⊢
    · cases h
    · cases h
      simp [ht]
  rcases onTick_cases s now series with
    ⟨-, ht⟩ | ⟨w, -, -, ht⟩ | ⟨w, -, -, -, ht⟩ | ⟨w, -, -, -, ht⟩ <;> rw [ht] at h ⊢
  · exact hadvance _ _ _ h
  · cases h
  · cases h
  · exact hadvance _ _ _ h

/-- A target that the device refuses is offered again on the next tick, and that is all the tick
does. -/
lemma beat_of_refused {x : Float} (h : (s.beat b).1.enter = some x) (hr : b.refused = true)
    (c : Beat τ) : ((s.beat b).2.beat c).1 = ⟨false, none, some x, false⟩ := by
  have hhead := head?_of_enter (s := s) h
  have hw : (s.beat b).2.window = none := by
    rw [beat_fst] at h
    simp [Sweep.beat, h, hr, entryFailed]
  rw [← beat_targets] at hhead
  rcases onTick_cases (s.beat b).2 c.now c.series with
    ⟨-, ht⟩ | ⟨w, hw', -⟩ | ⟨w, hw', -⟩ | ⟨w, hw', -⟩
  · rcases advance_cases (s.beat b).2 c.now false none with ⟨hnil, ha⟩ | ⟨target, rest, hc, ha⟩
    · rw [hnil] at hhead
      cases hhead
    · rw [hc] at hhead
      cases hhead
      rw [beat_fst, ht, ha]
  all_goals
    rw [hw] at hw'
    cases hw'

/-- Whatever the times of the ticks are and whichever targets the device refuses: the targets that
were aggregated and those that are left make up the list; each is entered once, in its turn, after
the one before it was aggregated and before it is itself; a tick ends the sweep exactly if every
target was aggregated by then; and a target that is refused is offered again on the next tick.

**Proof sketch.** The invariant holds at the start and every beat keeps it. It gives the order; the
end of the sweep is a tick that leaves no target, and a refusal closes the window with the target
still in front. -/
theorem targets_in_order (parameter : Parameter) (targets : List Float) (relax measure : τ)
    (bs : List (Beat τ)) :
    let s := start parameter targets relax measure
    closedTargets (s.verdicts bs) ++ (s.after bs).targets = targets ∧
    (closedTargets (s.verdicts bs)).length + (s.after bs).remaining = targets.length ∧
    (s.verdicts bs).flatMap marks <+: targets.flatMap round ∧
    (∀ b, ((s.after bs).beat b).1.finished = true ↔
      closedTargets (s.verdicts (bs ++ [b])) = targets) ∧
    ∀ b x, ((s.after bs).beat b).1.enter = some x → b.refused = true →
      ∀ c, ((s.after (bs ++ [b])).beat c).1 = ⟨false, none, some x, false⟩ := by
  intro s
  have hstage (bs : List (Beat τ)) :
      Stage targets (closedTargets (s.verdicts bs)) ((s.verdicts bs).flatMap marks)
        (s.after bs) := by
    simpa using (stage_start parameter targets relax measure).after bs
  refine ⟨(hstage bs).targets_eq, ?_, ?_, fun b => ?_, fun b x h hr c => ?_⟩
  · rw [remaining, ← List.length_append, (hstage bs).targets_eq]
  · exact (hstage bs).marks_begin
  · rw [(hstage bs).finished_iff b, ← after_concat, ← (hstage (bs ++ [b])).targets_eq]
    simp
  · rw [after_concat]
    exact beat_of_refused h hr c

end CryoRig.Sampling.Sweep
