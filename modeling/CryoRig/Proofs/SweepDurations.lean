import Mathlib.Data.List.Forall2
import Mathlib.Tactic.Linarith
import CryoRig.Proofs.StepOrder
import CryoRig.Proofs.UsableQuantities

/-!
# How long a sweep takes

A window is left on the first tick that comes `relax + measure` after it was entered, or later, and
the next one is entered on the same tick. So a sweep over `n` targets takes `n * (relax + measure)`
at least, and ticks that are lost or targets that are refused only make it longer. If none is, and
the next tick is never more than `d` away, each window is left at most `d` late.

Times are taken as exact numbers here.

## Main definitions

* `CryoRig.Sampling.Sweep.Attempt`: a tick on which the channels may not be read.
* `CryoRig.Sampling.Sweep.entries`, `CryoRig.Sampling.Sweep.closings`: when windows are entered and
  left.
* `CryoRig.Sampling.Sweep.Behind`: the windows that were left took their time.
* `CryoRig.Sampling.Sweep.OnTime`: they took not much more.

## Main results

* `CryoRig.Sampling.Sweep.beat_cases`: what a tick does to the open window.
* `CryoRig.Sampling.Sweep.Behind.beat`, `CryoRig.Sampling.Sweep.OnTime.beat`: what a tick makes of
  the time that has passed.
* `CryoRig.Sampling.Sweep.takes_as_charged`: how long a sweep takes, and what the line that starts
  it is charged for.
-/

namespace CryoRig.Script

open Number (value)

/-! ## What starts a sweep -/

section Lines

variable {before : List Line} {l : Line} {c c' : RunConfig} {sum sum' : Float} {step : Step}

/-- Durations are computed from numbers in range, whatever lines have been taken up. -/
lemma within_of_accumulate (h : accumulate c sum before = .ok (c', sum')) (hc : c.Within 1024) :
    c'.Within 1024 := by
  induction before generalizing c sum with
  | nil =>
    obtain ⟨rfl, rfl⟩ : c = c' ∧ sum = sum' := by simpa [accumulate] using h
    exact hc
  | cons l before ih =>
    rw [accumulate_cons] at h
    cases hplan : l.plan c with
    | error fault => simp [hplan, bind, Except.bind] at h
    | ok step =>
      rw [hplan] at h
      obtain ⟨command, hcommand, hplan⟩ := Line.plan_eq_ok_iff.1 hplan
      have hsound := sound_of_command hcommand
      refine ih h ?_
      rw [config_of_plan hplan]
      exact hc.after hsound fun x hx => hsound.abs_value_le hx

/-- A line that starts a sweep has it drop and keep ticks for the times that were configured, which
are not below zero, and is charged for that many times their sum. -/
lemma sweep_of_plan {name : String} {parameter : Parameter} {targets : List Float}
    (h : accumulate .empty 0 before = .ok (c, sum))
    (hl : l.command = .ok (.startStep name parameter targets)) (hplan : l.plan c = .ok step) :
    ∃ relax measure : Float, 0 ≤ value relax ∧ 0 ≤ value measure ∧
      step.deed = .start name (.stepped (.start parameter targets relax measure)) c.autorange ∧
      step.charge = Float.ofNat targets.length * (relax + measure) := by
  obtain ⟨command, hcommand, hplan⟩ := Line.plan_eq_ok_iff.1 hplan
  obtain rfl : command = .startStep name parameter targets :=
    Except.ok.inj (hcommand.symm.trans hl)
  have hspan := (within_of_accumulate h within_empty).span
  obtain ⟨relax, measure, hrelax, hmeasure, rfl⟩ := plan_startStep_eq_ok_iff.1 hplan
  exact ⟨_, _, (hspan _ (.inl hrelax)).2, (hspan _ (.inr hmeasure)).2, rfl, rfl⟩

end Lines

end CryoRig.Script

namespace CryoRig.Sampling.Sweep

open Script (accumulate)
open Number (value)

/-! ## Ticks and windows -/

section Ticks

variable {τ : Type}

/-- A tick on which the channels may not be read. -/
structure Attempt (τ : Type) where
  /-- When the tick is. -/
  now : τ
  /-- The series with the sample of the tick, if the channels were read. -/
  series : Option Series
  /-- Whether the device refuses what is offered. -/
  refused : Bool

/-- The beats of some ticks: the sweep is not told of a tick on which the channels were not read. -/
def Attempt.beats (as : List (Attempt τ)) : List (Beat τ) :=
  as.filterMap fun a => a.series.map fun series => ⟨a.now, series, a.refused⟩

/-- When windows are entered. -/
def entries (hs : List (Beat τ × Verdict)) : List τ :=
  hs.filterMap fun h => if h.1.refused then none else h.2.enter.map fun _ => h.1.now

/-- When windows are left. -/
def closings (hs : List (Beat τ × Verdict)) : List τ :=
  hs.filterMap fun h => h.2.closed.map fun _ => h.1.now

/-- The windows that were left: when each was entered, and when it was left. -/
def spans (hs : List (Beat τ × Verdict)) : List (τ × τ) := (entries hs).zip (closings hs)

@[simp] lemma entries_append (hs hs' : List (Beat τ × Verdict)) :
    entries (hs ++ hs') = entries hs ++ entries hs' := List.filterMap_append

@[simp] lemma closings_append (hs hs' : List (Beat τ × Verdict)) :
    closings (hs ++ hs') = closings hs ++ closings hs' := List.filterMap_append

lemma length_closings (hs : List (Beat τ × Verdict)) :
    (closings hs).length = (closedTargets hs).length := by
  induction hs with
  | nil => rfl
  | cons h hs ih => cases hc : h.2.closed <;> simp_all [closings, closedTargets]

lemma eq_of_mem_entries {b : Beat τ} {verdict : Verdict} {t : τ}
    (h : t ∈ entries [(b, verdict)]) : t = b.now := by
  simp only [entries, List.filterMap_cons, List.filterMap_nil] at h
  split at h
  · cases h
  · rename_i heq
    obtain rfl := List.mem_singleton.1 h
    split at heq
    · cases heq
    · obtain ⟨_, -, rfl⟩ := Option.map_eq_some_iff.1 heq
      rfl

/-- If no reading fails, the sweep is told of every tick. -/
lemma Attempt.map_now_beats {as : List (Attempt τ)} (h : ∀ a ∈ as, a.series.isSome) :
    (beats as).map Beat.now = as.map Attempt.now := by
  induction as with
  | nil => rfl
  | cons a as ih =>
    obtain ⟨ha, has⟩ := List.forall_mem_cons.1 h
    obtain ⟨series, hseries⟩ := Option.isSome_iff_exists.1 ha
    simpa [beats, hseries] using ih has

lemma Attempt.mem_of_mem_beats {as : List (Attempt τ)} {b : Beat τ} (h : b ∈ beats as) :
    ∃ a ∈ as, a.now = b.now ∧ a.refused = b.refused := by
  obtain ⟨a, ha, hb⟩ := List.mem_filterMap.1 h
  obtain ⟨series, -, rfl⟩ := Option.map_eq_some_iff.1 hb
  exact ⟨a, ha, rfl, rfl⟩

/-- The sweep is told of ticks in order. -/
lemma Attempt.pairwise_beats {as : List (Attempt τ)} {R : τ → τ → Prop}
    (h : as.Pairwise fun a b => R a.now b.now) :
    ((beats as).map Beat.now).Pairwise R := by
  rw [List.pairwise_map, beats, List.pairwise_filterMap]
  refine h.imp fun hab b hb c hc => ?_
  obtain ⟨_, -, rfl⟩ := Option.map_eq_some_iff.1 hb
  obtain ⟨_, -, rfl⟩ := Option.map_eq_some_iff.1 hc
  exact hab

end Ticks

/-! ## What a tick does to the open window -/

section Beats

variable {τ : Type} {s : Sweep τ} {b : Beat τ}

/-- With no window open, a tick enters one, unless the device refuses or no target is left. -/
lemma window_advance (s : Sweep τ) (b : Beat τ) {keep : Bool}
    {more : Option (Float × List Aggregate)} {verdict : Verdict} {s' : Sweep τ}
    (h : s.advance b.now keep more = (verdict, s')) :
    let after := if verdict.enter.isSome && b.refused then s'.entryFailed else s'
    (after.relax = s.relax ∧ after.measure = s.measure) ∧
      (after.window.map Window.enteredAt).toList = entries [(b, verdict)] ∧
      (b.refused = false → verdict.finished = false →
        after.window.map Window.enteredAt = some b.now) := by
  intro after
  rcases advance_cases s b.now keep more with ⟨-, ha⟩ | ⟨target, rest, -, ha⟩ <;>
    obtain ⟨rfl, rfl⟩ := Prod.mk.inj (h.symm.trans ha)
  · exact ⟨⟨rfl, rfl⟩, by simp [after, entries], fun _ hf => by simp at hf⟩
  · cases hr : b.refused <;> simp [after, entries, hr, entryFailed]

variable [Add τ] [Sub τ] [LT τ] [DecidableLT τ]

lemma verdicts_concat (s : Sweep τ) (bs : List (Beat τ)) (b : Beat τ) :
    s.verdicts (bs ++ [b]) = s.verdicts bs ++ [(b, ((s.after bs).beat b).1)] := by
  induction bs generalizing s with
  | nil => rfl
  | cons c bs ih => simp [verdicts, ih]

/-- What a tick does to the open window. Either it comes too early to close it; or there was none,
or its time has passed, and then the next one is entered. -/
theorem beat_cases (s : Sweep τ) (b : Beat τ) :
    let verdict := (s.beat b).1
    let after := (s.beat b).2
    (after.relax = s.relax ∧ after.measure = s.measure) ∧
    ((∃ w, s.window = some w ∧ after.window.map Window.enteredAt = some w.enteredAt ∧
        (b.now - w.enteredAt < s.relax ∨ b.now - w.enteredAt < s.relax + s.measure) ∧
        entries [(b, verdict)] = [] ∧ closings [(b, verdict)] = [] ∧ verdict.finished = false) ∨
      (after.window.map Window.enteredAt).toList = entries [(b, verdict)] ∧
        (b.refused = false → verdict.finished = false →
          after.window.map Window.enteredAt = some b.now) ∧
        (s.window = none ∧ closings [(b, verdict)] = [] ∨
          ∃ w, s.window = some w ∧ ¬ b.now - w.enteredAt < s.relax + s.measure ∧
            closings [(b, verdict)] = [b.now])) := by
  unfold Sweep.beat
  rcases onTick_cases s b.now b.series with
    ⟨hw, h⟩ | ⟨w, hw, hlt, h⟩ | ⟨w, hw, -, hlt, h⟩ | ⟨w, hw, -, hge, h⟩ <;> rw [h]
  · -- no window is open
    obtain ⟨hpace, hentries, hopen⟩ := window_advance s b (rfl : s.advance b.now false none = _)
    exact ⟨hpace, .inr ⟨hentries, hopen, .inl ⟨hw, by simp [closings]⟩⟩⟩
  · -- the tick is dropped
    refine ⟨⟨rfl, rfl⟩, .inl ⟨w, hw, ?_, .inl hlt, ?_, rfl, rfl⟩⟩
    · simp [hw]
    · simp [entries]
  · -- the tick is kept and the window stays open
    refine ⟨⟨rfl, rfl⟩, .inl ⟨w, hw, rfl, .inr hlt, ?_, rfl, rfl⟩⟩
    simp [entries]
  · -- the tick closes the window
    obtain ⟨hpace, hentries, hopen⟩ := window_advance { s with targets := s.targets.tail } b
      (rfl : Sweep.advance _ b.now true (some (w.target, b.series.aggregateFrom _)) = _)
    exact ⟨hpace, .inr ⟨hentries, hopen, .inr ⟨w, hw, hge, by simp [closings]⟩⟩⟩

end Beats

/-! ## Windows that were left -/

section Windows

variable {τ : Type} {Lasted : τ → τ → Prop} {es cs : List τ} {s s' : Sweep τ}

/-- Each of the windows that were left lasted as it should; at most the one entered last is open. -/
def Spent (Lasted : τ → τ → Prop) (es cs : List τ) (s : Sweep τ) : Prop :=
  ∃ ls, es = ls ++ (s.window.map Window.enteredAt).toList ∧ List.Forall₂ Lasted ls cs

lemma spent_start (parameter : Parameter) (targets : List Float) (relax measure : τ) :
    Spent Lasted [] [] (start parameter targets relax measure) :=
  ⟨[], rfl, .nil⟩

lemma Spent.length_le (h : Spent Lasted es cs s) : cs.length ≤ es.length := by
  obtain ⟨ls, rfl, hls⟩ := h
  simp [hls.length_eq]

lemma Spent.forall_mem_zip (h : Spent Lasted es cs s) : ∀ x ∈ es.zip cs, Lasted x.1 x.2 := by
  obtain ⟨ls, rfl, hls⟩ := h
  obtain ⟨hlength, hlasted⟩ := List.forall₂_iff_zip.1 hls
  intro x hx
  rw [← List.append_nil cs, List.zip_append hlength, List.zip_nil_right, List.append_nil] at hx
  exact hlasted hx

/-- A tick that leaves the window open. -/
lemma Spent.still (h : Spent Lasted es cs s)
    (hw : s'.window.map Window.enteredAt = s.window.map Window.enteredAt) :
    Spent Lasted es cs s' := by
  obtain ⟨ls, hes, hls⟩ := h
  exact ⟨ls, by rw [hw, hes], hls⟩

/-- A tick that enters a window where none was open. -/
lemma Spent.enter (h : Spent Lasted es cs s) (hw : s.window = none) :
    Spent Lasted (es ++ (s'.window.map Window.enteredAt).toList) cs s' := by
  obtain ⟨ls, hes, hls⟩ := h
  exact ⟨ls, by simp [hes, hw], hls⟩

/-- A tick that leaves a window and may enter the next. -/
lemma Spent.close (h : Spent Lasted es cs s) {w : Window τ} (hw : s.window = some w) {now : τ}
    (hlasted : Lasted w.enteredAt now) :
    Spent Lasted (es ++ (s'.window.map Window.enteredAt).toList) (cs ++ [now]) s' := by
  obtain ⟨ls, hes, hls⟩ := h
  refine ⟨ls ++ [w.enteredAt], by simp [hes, hw], ?_⟩
  exact List.rel_append hls (.cons hlasted .nil)

end Windows

/-! ## The time that has passed -/

section Durations

variable {τ : Type} [CommRing τ] [LinearOrder τ] [IsStrictOrderedRing τ]
  {relax measure d first last : τ} {es cs : List τ} {s : Sweep τ} {b : Beat τ}

/-- The windows that were left since the `first` tick took their time, and so the `last` tick and
the entry of the open window are as late as they should be. -/
structure Behind (relax measure first last : τ) (es cs : List τ) (s : Sweep τ) : Prop where
  /-- The sweep has not changed its pace. -/
  pace : s.relax = relax ∧ s.measure = measure
  /-- No window that was left was left early. -/
  spent : Spent (fun e c => relax + measure ≤ c - e) es cs s
  /-- The time of the windows that were left has passed. -/
  reached : first + cs.length * (relax + measure) ≤ last
  /-- It had passed when the open window was entered. -/
  entered : ∀ w, s.window = some w → first + cs.length * (relax + measure) ≤ w.enteredAt

/-- The windows that were left since the `first` tick were left at most `d` late, and one is open
whose time has not passed on the `last` tick. -/
structure OnTime (relax measure d first last : τ) (es cs : List τ) (s : Sweep τ) : Prop where
  /-- The sweep has not changed its pace. -/
  pace : s.relax = relax ∧ s.measure = measure
  /-- No window that was left was left more than `d` late. -/
  spent : Spent (fun e c => c - e ≤ relax + measure + d) es cs s
  /-- The open window was entered in time, and its time has not passed. -/
  entered : ∃ w, s.window = some w ∧
    w.enteredAt ≤ first + cs.length * (relax + measure + d) ∧
    last ≤ w.enteredAt + (relax + measure)

lemma behind_start (parameter : Parameter) (targets : List Float) (relax measure first : τ) :
    Behind relax measure first first [] [] (start parameter targets relax measure) where
  pace := ⟨rfl, rfl⟩
  spent := spent_start ..
  reached := by simp
  entered w hw := by simp [start] at hw

/-- A tick that is not earlier than the last one.

**Proof sketch.** If it leaves a window, it comes `relax + measure` after the entry of that window,
which was late enough; if it enters one, it is itself late enough. -/
theorem Behind.beat (h : Behind relax measure first last es cs s) (hle : last ≤ b.now) :
    Behind relax measure first b.now (es ++ entries [(b, (s.beat b).1)])
      (cs ++ closings [(b, (s.beat b).1)]) (s.beat b).2 := by
  obtain ⟨hr, hm⟩ := h.pace
  have hreached := h.reached.trans hle
  obtain ⟨⟨hr', hm'⟩, ⟨w, hw, hw', -, hes, hcs, -⟩ | ⟨hes, -, hclosed⟩⟩ := beat_cases s b
  · rw [hes, hcs, List.append_nil, List.append_nil]
    refine ⟨⟨hr'.trans hr, hm'.trans hm⟩, h.spent.still (by rw [hw', hw]; rfl), hreached,
      fun w' hw'' => ?_⟩
    have heq : w'.enteredAt = w.enteredAt := by simpa [hw''] using hw'
    rw [heq]
    exact h.entered w hw
  -- whatever window is open now was entered on this tick
  have hnow : ∀ w', (s.beat b).2.window = some w' → w'.enteredAt = b.now := by
    intro w' hw'
    refine eq_of_mem_entries (?_ : _ ∈ entries [(b, (s.beat b).1)])
    rw [← hes, hw']
    exact List.mem_singleton_self _
  rcases hclosed with ⟨hw, hcs⟩ | ⟨w, hw, hge, hcs⟩
  · rw [hcs, List.append_nil, ← hes]
    exact ⟨⟨hr'.trans hr, hm'.trans hm⟩, h.spent.enter hw, hreached,
      fun w' hw' => by rwa [hnow w' hw']⟩
  · rw [hr, hm, not_lt] at hge
    have hlate : first + (cs ++ [b.now]).length * (relax + measure) ≤ b.now := by
      have := h.entered w hw
      rw [List.length_append, List.length_singleton, Nat.cast_add_one]
      linarith
    rw [hcs, ← hes]
    exact ⟨⟨hr'.trans hr, hm'.trans hm⟩, h.spent.close hw hge, hlate,
      fun w' hw' => by rwa [hnow w' hw']⟩

/-- Ticks in order. -/
lemma Behind.after (h : Behind relax measure first last es cs s) {bs : List (Beat τ)}
    (hordered : (last :: bs.map Beat.now).Pairwise (· ≤ ·)) :
    Behind relax measure first ((last :: bs.map Beat.now).getLast (List.cons_ne_nil _ _))
      (es ++ entries (s.verdicts bs)) (cs ++ closings (s.verdicts bs)) (s.after bs) := by
  induction bs generalizing last es cs s with
  | nil => simpa [verdicts, entries, closings] using h
  | cons b bs ih =>
    obtain ⟨hle, hordered⟩ := List.pairwise_cons.1 hordered
    have := ih (h.beat (hle b.now List.mem_cons_self)) hordered
    rw [List.append_assoc, List.append_assoc, ← entries_append, ← closings_append] at this
    exact this

/-- A tick on which the device does not refuse, at most `d` after the last one.

**Proof sketch.** If it leaves a window, the time of that window had not passed `d` before; so the
window is left at most `d` late, and the next one is entered in time. -/
theorem OnTime.beat (h : OnTime relax measure d first last es cs s) (hmeasure : 0 ≤ measure)
    (hlength : 0 ≤ relax + measure) (htaken : b.refused = false) (hgap : b.now ≤ last + d) :
    let hs := [(b, (s.beat b).1)]
    Spent (fun e c => c - e ≤ relax + measure + d) (es ++ entries hs) (cs ++ closings hs)
        (s.beat b).2 ∧
      ((s.beat b).1.finished = true →
        b.now ≤ first + (cs ++ closings hs).length * (relax + measure + d)) ∧
      ((s.beat b).1.finished = false → OnTime relax measure d first b.now (es ++ entries hs)
        (cs ++ closings hs) (s.beat b).2) := by
  intro hs
  obtain ⟨hr, hm⟩ := h.pace
  obtain ⟨w, hw, hentered, hlast⟩ := h.entered
  obtain ⟨⟨hr', hm'⟩, ⟨w', hw', hstill, hlt, hes, hcs, hgoes⟩ | ⟨hes, hopen, hclosed⟩⟩ :=
    beat_cases s b
  · obtain rfl : w = w' := Option.some.inj (hw.symm.trans hw')
    obtain ⟨w', hw', heq⟩ := Option.map_eq_some_iff.1 hstill
    have hspent := h.spent.still (hstill.trans (congrArg (Option.map Window.enteredAt) hw).symm)
    rw [hes, hcs, List.append_nil, List.append_nil]
    refine ⟨hspent, fun hf => absurd (hgoes.symm.trans hf) Bool.false_ne_true, fun _ =>
      ⟨⟨hr'.trans hr, hm'.trans hm⟩, hspent, w', hw', heq ▸ hentered, ?_⟩⟩
    rw [heq]
    rw [hr, hm] at hlt
    rcases hlt with hlt | hlt <;> linarith
  · obtain ⟨hw', -⟩ | ⟨w', hw', -, hcs⟩ := hclosed
    · exact absurd (hw.symm.trans hw') (Option.some_ne_none w)
    obtain rfl : w = w' := Option.some.inj (hw.symm.trans hw')
    have hspent : Spent (fun e c => c - e ≤ relax + measure + d) (es ++ entries hs)
        (cs ++ closings hs) (s.beat b).2 := by
      rw [hcs, ← hes]
      exact h.spent.close hw (by linarith)
    have hsoon : b.now ≤ first + (cs ++ closings hs).length * (relax + measure + d) := by
      rw [hcs, List.length_append, List.length_singleton, Nat.cast_add_one]
      linarith
    refine ⟨hspent, fun _ => hsoon, fun hf => ⟨⟨hr'.trans hr, hm'.trans hm⟩, hspent, ?_⟩⟩
    obtain ⟨w', hw', heq⟩ := Option.map_eq_some_iff.1 (hopen htaken hf)
    exact ⟨w', hw', heq ▸ hsoon, by linarith⟩

/-- The first tick, if the device does not refuse on it. -/
lemma onTime_first (parameter : Parameter) (targets : List Float)
    (hlength : 0 ≤ relax + measure) (htaken : b.refused = false) :
    let s := start parameter targets relax measure
    let hs := [(b, (s.beat b).1)]
    Spent (fun e c => c - e ≤ relax + measure + d) (entries hs) (closings hs) (s.beat b).2 ∧
      closings hs = [] ∧
      ((s.beat b).1.finished = false →
        OnTime relax measure d b.now b.now (entries hs) (closings hs) (s.beat b).2) := by
  intro s hs
  obtain ⟨hpace, ⟨w, hw, -⟩ | ⟨hes, hopen, ⟨hw, hcs⟩ | ⟨w, hw, -⟩⟩⟩ := beat_cases s b
  · cases hw
  · have hspent : Spent (fun e c => c - e ≤ relax + measure + d) (entries hs) (closings hs)
        (s.beat b).2 := by
      rw [hcs, ← hes]
      exact (spent_start ..).enter hw
    refine ⟨hspent, hcs, fun hf => ⟨hpace, hspent, ?_⟩⟩
    obtain ⟨w, hw, heq⟩ := Option.map_eq_some_iff.1 (hopen htaken hf)
    have hnone : (closings hs).length = 0 := congrArg List.length hcs
    exact ⟨w, hw, by simp [heq, hnone], by simpa [heq] using hlength⟩
  · cases hw

/-- Ticks on which the device does not refuse, each at most `d` after the one before. -/
lemma OnTime.after (h : OnTime relax measure d first last es cs s) (hmeasure : 0 ≤ measure)
    (hlength : 0 ≤ relax + measure) {bs : List (Beat τ)} (htaken : ∀ b ∈ bs, b.refused = false)
    (hgap : (last :: bs.map Beat.now).IsChain fun x y => y ≤ x + d)
    (hgoes : ∀ h ∈ s.verdicts bs, h.2.finished = false) :
    OnTime relax measure d first ((last :: bs.map Beat.now).getLast (List.cons_ne_nil _ _))
      (es ++ entries (s.verdicts bs)) (cs ++ closings (s.verdicts bs)) (s.after bs) := by
  induction bs generalizing last es cs s with
  | nil => simpa [verdicts, entries, closings] using h
  | cons b bs ih =>
    obtain ⟨htaken₁, htaken⟩ := List.forall_mem_cons.1 htaken
    obtain ⟨hgap₁, hgap⟩ := List.isChain_cons_cons.1 hgap
    obtain ⟨hgoes₁, hgoes⟩ := List.forall_mem_cons.1 hgoes
    have := ih ((h.beat hmeasure hlength htaken₁ hgap₁).2.2 hgoes₁) htaken hgap hgoes
    rw [List.append_assoc, List.append_assoc, ← entries_append, ← closings_append] at this
    exact this

variable {parameter : Parameter} {targets : List Float} {bs : List (Beat τ)}

/-- A run on ticks in order. -/
lemma behind_of_ordered (hfirst : (bs ++ [b]).head?.map Beat.now = some first)
    (hordered : ((bs ++ [b]).map Beat.now).Pairwise (· ≤ ·)) :
    let s := start parameter targets relax measure
    Behind relax measure first b.now (entries (s.verdicts (bs ++ [b])))
      (closings (s.verdicts (bs ++ [b]))) (s.after (bs ++ [b])) := by
  intro s
  have hfrom : (first :: (bs ++ [b]).map Beat.now).Pairwise (· ≤ ·) := by
    cases hbs : bs ++ [b] with
    | nil => simp at hbs
    | cons c cs =>
      rw [hbs] at hfirst hordered
      obtain rfl : c.now = first := Option.some.inj hfirst
      refine List.pairwise_cons.2 ⟨fun t ht => ?_, hordered⟩
      rcases List.mem_cons.1 ht with rfl | ht
      · exact le_rfl
      · exact List.rel_of_pairwise_cons hordered ht
  simpa using (behind_start parameter targets relax measure first).after hfrom

omit [IsStrictOrderedRing τ] in
/-- How many windows were left is told by whether the run is over. -/
lemma length_closings_of_finished (bs : List (Beat τ)) (b : Beat τ) :
    let s := start parameter targets relax measure
    let count := (closings (s.verdicts (bs ++ [b]))).length
    (((s.after bs).beat b).1.finished = true → count = targets.length) ∧
      (((s.after bs).beat b).1.finished = false → count < targets.length) := by
  intro s count
  have hover : ((s.after bs).beat b).1.finished = true ↔
      closedTargets (s.verdicts (bs ++ [b])) = targets :=
    (targets_in_order parameter targets relax measure bs).2.2.2.1 b
  have hleft : closedTargets (s.verdicts (bs ++ [b])) ++ (s.after (bs ++ [b])).targets = targets :=
    (targets_in_order parameter targets relax measure (bs ++ [b])).1
  have hlength : count = (closedTargets (s.verdicts (bs ++ [b]))).length := length_closings _
  refine ⟨fun hf => by rw [hlength, hover.1 hf], fun hf => ?_⟩
  have hne : (s.after (bs ++ [b])).targets ≠ [] := fun hnil => by
    rw [hnil, List.append_nil] at hleft
    exact Bool.false_ne_true (hf.symm.trans (hover.2 hleft))
  have hcount := congrArg List.length hleft
  rw [List.length_append] at hcount
  have := List.length_pos_iff.2 hne
  omega

variable (parameter targets) in
/-- A run on ticks that are at most `d` apart, with nothing refused and not over before the last
one. -/
lemma onTime_of_gaps (hmeasure : 0 ≤ measure) (hlength : 0 ≤ relax + measure)
    (hfirst : (bs ++ [b]).head?.map Beat.now = some first)
    (htaken : ∀ b' ∈ bs ++ [b], b'.refused = false)
    (hgap : ((bs ++ [b]).map Beat.now).IsChain fun x y => y ≤ x + d) :
    let s := start parameter targets relax measure
    let run := s.verdicts (bs ++ [b])
    let verdict := ((s.after bs).beat b).1
    (∀ h ∈ s.verdicts bs, h.2.finished = false) →
      Spent (fun e c => c - e ≤ relax + measure + d) (entries run) (closings run)
          (s.after (bs ++ [b])) ∧
        (verdict.finished = true →
          b.now ≤ first + (closings run).length * (relax + measure + d)) ∧
        (verdict.finished = false → OnTime relax measure d first b.now (entries run) (closings run)
          (s.after (bs ++ [b]))) := by
  intro s run verdict hgoes
  cases bs with
  | nil =>
    obtain rfl : b.now = first := Option.some.inj hfirst
    obtain ⟨hspent, hnone, hopen⟩ := onTime_first parameter targets (d := d) hlength (htaken b (by simp))
    refine ⟨hspent, fun _ => ?_, hopen⟩
    have : (closings run).length = 0 := congrArg List.length hnone
    simp [this]
  | cons c bs =>
    obtain rfl : c.now = first := Option.some.inj hfirst
    obtain ⟨hgoes₁, hgoes⟩ := List.forall_mem_cons.1 hgoes
    rw [List.map_append] at hgap
    obtain ⟨hbefore, -, hnext⟩ := List.isChain_append.1 hgap
    have hopen := ((onTime_first parameter targets (d := d) hlength (htaken c (by simp))).2.2 hgoes₁).after hmeasure
      hlength (fun b' hb' => htaken b' (by simp [hb'])) hbefore hgoes
    have hlast := hopen.beat hmeasure hlength (htaken b (by simp))
      (hnext _ (List.getLast?_eq_some_getLast _) _ rfl)
    have hrun : run = [(c, (s.beat c).1)] ++ (s.beat c).2.verdicts bs ++
        [(b, ((s.after (c :: bs)).beat b).1)] := verdicts_concat s (c :: bs) b
    rw [hrun, entries_append, entries_append, closings_append, closings_append, after_concat]
    exact hlast

/-- **How long a sweep takes.** Whatever ticks are lost and whatever the device refuses: if a sweep
over `n` targets ends, it does so `n * (relax + measure)` after the first tick it was told of, or
later, and no window is left before its time. If nothing is lost or refused and ticks are at most
`d` apart, no window is left more than `d` late, the sweep ends at most `n * (relax + measure + d)`
after the first tick, and until it does, there is time for another tick. A line that starts a sweep
has it take the times that were configured, neither of which is below zero, and is charged for
`n * (relax + measure)`.

**Proof sketch.** Every tick keeps `Behind`, and with nothing lost or refused `OnTime`; a window
that is left adds its time to both bounds. When the sweep ends, every target had its window; until
then, one of them is still to be left. -/
theorem takes_as_charged (parameter : Parameter) (targets : List Float) (relax measure : τ)
    {as : List (Attempt τ)} {bs : List (Beat τ)} {first b : Beat τ}
    (hordered : as.Pairwise fun a a' => a.now ≤ a'.now)
    (hbeats : Attempt.beats as = bs ++ [b]) (hfirst : (bs ++ [b]).head? = some first) :
    let s := start parameter targets relax measure
    let run := s.verdicts (bs ++ [b])
    let verdict := ((s.after bs).beat b).1
    (verdict.finished = true → (spans run).length = targets.length ∧
      first.now + targets.length * (relax + measure) ≤ b.now) ∧
    (∀ x ∈ spans run, relax + measure ≤ x.2 - x.1) ∧
    (∀ d, 0 ≤ relax → 0 ≤ measure → 0 ≤ d → (∀ a ∈ as, a.series.isSome ∧ a.refused = false) →
      (as.IsChain fun a a' => a'.now ≤ a.now + d) →
      (∀ h ∈ s.verdicts bs, h.2.finished = false) →
      (∀ x ∈ spans run, x.2 - x.1 ≤ relax + measure + d) ∧
      (verdict.finished = true →
        b.now ≤ first.now + targets.length * (relax + measure + d)) ∧
      (verdict.finished = false →
        b.now + d ≤ first.now + targets.length * (relax + measure + d))) ∧
    ∀ (before : List Script.Line) (l : Script.Line) (c : Script.RunConfig) (sum : Float)
      (name : String) (step : Script.Step), accumulate .empty 0 before = .ok (c, sum) →
      l.command = .ok (.startStep name parameter targets) → l.plan c = .ok step →
      ∃ r m : Float, 0 ≤ value r ∧ 0 ≤ value m ∧
        step.deed = .start name (.stepped (start parameter targets r m)) c.autorange ∧
        step.charge = Float.ofNat targets.length * (r + m) := by
  intro s run verdict
  have hfirst' : (bs ++ [b]).head?.map Beat.now = some first.now := by rw [hfirst]; rfl
  have hbehind : Behind relax measure first.now b.now (entries run) (closings run)
      (s.after (bs ++ [b])) := by
    refine behind_of_ordered hfirst' ?_
    rw [← hbeats]
    exact Attempt.pairwise_beats hordered
  have hcount : (spans run).length = (closings run).length := by
    rw [spans, List.length_zip, min_eq_right hbehind.spent.length_le]
  obtain ⟨hall, hleft⟩ : (verdict.finished = true → (closings run).length = targets.length) ∧
      (verdict.finished = false → (closings run).length < targets.length) :=
    length_closings_of_finished bs b
  refine ⟨fun hf => ⟨hcount.trans (hall hf), ?_⟩, hbehind.spent.forall_mem_zip,
    fun d hrelax hmeasure hd hfine hgap hgoes => ?_, fun before l c sum name step hacc hl hplan => ?_⟩
  · rw [← hall hf]
    exact hbehind.reached
  · have hlength := add_nonneg hrelax hmeasure
    have htaken : ∀ b' ∈ bs ++ [b], b'.refused = false := by
      intro b' hb'
      obtain ⟨a, ha, -, hr⟩ := Attempt.mem_of_mem_beats (hbeats ▸ hb')
      exact hr ▸ (hfine a ha).2
    have hgap' : ((bs ++ [b]).map Beat.now).IsChain fun x y => y ≤ x + d := by
      rw [← hbeats, Attempt.map_now_beats fun a ha => (hfine a ha).1]
      exact (List.isChain_map _).2 hgap
    obtain ⟨hspent, hlate, hopen⟩ := onTime_of_gaps parameter targets
      hmeasure hlength hfirst' htaken hgap' hgoes
    refine ⟨hspent.forall_mem_zip, fun hf => ?_, fun hf => ?_⟩
    · rw [← hall hf]
      exact hlate hf
    · obtain ⟨w, -, hentered, hlast⟩ := (hopen hf).entered
      -- at least one window is still to be left
      have hone : ((closings run).length : τ) + 1 ≤ targets.length := by
        exact_mod_cast hleft hf
      have := mul_le_mul_of_nonneg_right hone (add_nonneg hlength hd)
      linarith
  · exact Script.sweep_of_plan hacc hl hplan

/-- A tick every second. -/
def sixTicks : List (Attempt ℤ) := (List.range 6).map fun i => ⟨i, some (.empty 0), false⟩

/-- With a tick every second, one target, `relax = 2` and `measure = 3`, the sweep ends on the sixth
tick. -/
theorem takes_as_charged_sixTicks :
    let s : Sweep ℤ := start .gateVoltage [0.5] 2 3
    let run := s.verdicts (Attempt.beats sixTicks)
    spans run = [(0, 5)] ∧ (∀ x ∈ spans run, 2 + 3 ≤ x.2 - x.1 ∧ x.2 - x.1 ≤ 2 + 3 + 1) ∧
      (0 : ℤ) + (1 : ℕ) * (2 + 3) ≤ 5 ∧ (5 : ℤ) ≤ 0 + (1 : ℕ) * (2 + 3 + 1) := by
  intro s run
  have hordered : sixTicks.Pairwise fun a a' => a.now ≤ a'.now := by decide
  have hbeats : Attempt.beats sixTicks =
      (Attempt.beats sixTicks).dropLast ++ [⟨5, .empty 0, false⟩] := rfl
  have hfirst : ((Attempt.beats sixTicks).dropLast ++ [(⟨5, .empty 0, false⟩ : Beat ℤ)]).head? =
      some ⟨0, .empty 0, false⟩ := rfl
  obtain ⟨hend, hleast, hmost, -⟩ :=
    takes_as_charged .gateVoltage [0.5] 2 3 hordered hbeats hfirst
  have hover : ((s.after (Attempt.beats sixTicks).dropLast).beat ⟨5, .empty 0, false⟩).1.finished =
      true := by decide
  obtain ⟨hmost, hsoon, -⟩ := hmost 1 (by decide) (by decide) (by decide) (by decide) (by decide)
    (by decide)
  exact ⟨by decide, fun x hx => ⟨hleast x hx, hmost x hx⟩, (hend hover).2, hsoon hover⟩

/-- The line that starts it is charged for five seconds. -/
example : (Script.estimate (.load ("config step-relax 2\nconfig step-measure 3\n" ++
    "start-step gate VG 0.5..0.5 1*1"))).toOption = some 5 := by decide +kernel

end Durations

end CryoRig.Sampling.Sweep
