import CryoRig.Sampling.Overload
import Mathlib.Tactic.Lemma

/-!
# Overloads in a row

The monitor of overloads is given the status of one lock-in after the other, in any order. The
checks of each lock-in are a sequence of their own, and what a check calls for depends on nothing
but how many of them in a row have found an overload by then. So in the midst of a sequence the
checks can be cut into runs: between two checks that found no overload there is one run of
overloads, and its verdicts are those of counting from one up.

## Main definitions

* `CryoRig.Sampling.ofLockin`: what concerns one lock-in.
* `CryoRig.Sampling.OverloadMonitor.verdicts`, `CryoRig.Sampling.OverloadMonitor.after`: the
  verdicts on a sequence of checks, and the monitor after them.
* `CryoRig.Sampling.called`, `CryoRig.Sampling.counted`: what the overloads in a row call for, and
  what is counted of them.

## Main results

* `CryoRig.Sampling.OverloadMonitor.overloaded_counted`: one overload more in a row.
* `CryoRig.Sampling.OverloadMonitor.verdicts_of_counted`: the verdicts on one lock-in.
* `CryoRig.Sampling.OverloadMonitor.verdicts_of_runs`: the verdicts on each run of overloads.
-/

namespace CryoRig.Sampling

/-! ## Sequences of checks -/

section Lockin

variable {ε : Type} {i j : Nat} {x : ε} {xs ys : List (Nat × ε)}

/-- What concerns one lock-in. -/
def ofLockin (i : Nat) (xs : List (Nat × ε)) : List ε :=
  xs.filterMap fun x => if x.1 = i then some x.2 else none

@[simp] lemma ofLockin_cons_self : ofLockin i ((i, x) :: xs) = x :: ofLockin i xs := by
  simp [ofLockin]

lemma ofLockin_cons_of_ne (h : j ≠ i) : ofLockin i ((j, x) :: xs) = ofLockin i xs := by
  simp [ofLockin, h]

/-- What concerns one lock-in does so among what concerns it. -/
lemma ofLockin_filter : ofLockin i (xs.filter (·.1 = i)) = ofLockin i xs := by
  induction xs with
  | nil => rfl
  | cons x xs ih =>
    obtain ⟨j, x⟩ := x
    by_cases h : j = i
    · subst h
      simp [ih]
    · simp [h, ofLockin_cons_of_ne h, ih]

end Lockin

namespace OverloadMonitor

variable {m : OverloadMonitor} {i j k : Nat} {status : LockinStatus}

/-- The verdicts on a sequence of checks, each with its lock-in. -/
def verdicts (m : OverloadMonitor) : List (Nat × LockinStatus) → List (Nat × OverloadVerdict)
  | [] => []
  | (i, status) :: rest => (i, (m.record i status).1) :: (m.record i status).2.verdicts rest

/-- The monitor after a sequence of checks. -/
def after (m : OverloadMonitor) (checks : List (Nat × LockinStatus)) : OverloadMonitor :=
  checks.foldl (fun m x => (m.record x.1 x.2).2) m

end OverloadMonitor

/-! ## Counting -/

/-- What the `k`-th overload in a row calls for. -/
def called (threshold : Nat) (autorange : Bool) (k : Nat) : OverloadVerdict :=
  if autorange then if threshold ∣ k then .rangeUp else .counting (k % threshold)
  else if k = threshold then .report else .counting k

/-- What is counted of `k` overloads in a row. -/
def counted (threshold : Nat) (autorange : Bool) (k : Nat) : Nat :=
  if autorange then k % threshold else k

/-- How many overloads in a row there are after some checks of a lock-in, when there were `k` of
them before. -/
def streak : Nat → List LockinStatus → Nat
  | k, [] => k
  | k, status :: rest => streak (if status.outputOverload then k + 1 else 0) rest

/-- What checks of a lock-in call for, when there were `k` overloads in a row before. -/
def calls (threshold : Nat) (autorange : Bool) : Nat → List LockinStatus → List OverloadVerdict
  | _, [] => []
  | k, status :: rest =>
    if status.outputOverload then
      called threshold autorange (k + 1) :: calls threshold autorange (k + 1) rest
    else .clear :: calls threshold autorange 0 rest

section Calls

variable {t k : Nat} {a : Bool} {before run after : List LockinStatus}

lemma calls_append (k : Nat) (before after : List LockinStatus) :
    calls t a k (before ++ after) = calls t a k before ++ calls t a (streak k before) after := by
  induction before generalizing k with
  | nil => rfl
  | cons status before ih =>
    simp only [List.cons_append, calls, streak]
    split <;> simp [ih]

@[simp] lemma length_calls (k : Nat) (statuses : List LockinStatus) :
    (calls t a k statuses).length = statuses.length := by
  induction statuses generalizing k with
  | nil => rfl
  | cons status rest ih =>
    simp only [calls]
    split <;> simp [ih]

lemma streak_append (k : Nat) (before after : List LockinStatus) :
    streak k (before ++ after) = streak (streak k before) after := by
  induction before generalizing k with
  | nil => rfl
  | cons status before ih => exact ih _

/-- The checks of a run are counted one by one. -/
lemma streak_of_overloads (h : ∀ status ∈ run, status.outputOverload) :
    streak k run = k + run.length := by
  induction run generalizing k with
  | nil => rfl
  | cons status run ih =>
    rw [streak, if_pos (h status (List.mem_cons_self ..)),
      ih fun s hs => h s (List.mem_cons_of_mem _ hs), List.length_cons]
    omega

lemma calls_of_overloads (h : ∀ status ∈ run, status.outputOverload) :
    calls t a k run = (List.range' (k + 1) run.length).map (called t a) := by
  induction run generalizing k with
  | nil => rfl
  | cons status run ih =>
    rw [calls, if_pos (h status (List.mem_cons_self ..)),
      ih fun s hs => h s (List.mem_cons_of_mem _ hs)]
    rfl

/-- Before a run begins there is no overload in a row. -/
lemma streak_eq_zero (h : ∀ status ∈ before.getLast?, ¬status.outputOverload) :
    streak 0 before = 0 := by
  rcases List.eq_nil_or_concat before with rfl | ⟨before, status, rfl⟩
  · rfl
  · rw [List.concat_eq_append, streak_append, streak, if_neg (h status (by simp)), streak]

/-- What a run of overloads calls for, wherever it begins. -/
lemma calls_of_run (hrun : ∀ status ∈ run, status.outputOverload)
    (hbefore : ∀ status ∈ before.getLast?, ¬status.outputOverload) :
    ((calls t a 0 (before ++ run ++ after)).drop before.length).take run.length =
      (List.range' 1 run.length).map (called t a) := by
  rw [List.append_assoc, calls_append, streak_eq_zero hbefore, calls_append,
    List.drop_left' (length_calls ..), List.take_left' (length_calls ..), calls_of_overloads hrun]

/-- What a check without overload calls for. -/
lemma calls_of_clear {status : LockinStatus} (h : ¬status.outputOverload) :
    (calls t a 0 (before ++ status :: after))[before.length]? = some .clear := by
  rw [calls_append, List.getElem?_append_right (by simp), length_calls, Nat.sub_self, calls,
    if_neg h]
  rfl

end Calls

section Verdicts

/-- Ranges are raised once for every so many overloads in a row. -/
lemma count_rangeUp (t L : Nat) :
    ((List.range' 1 L).map (called t true)).count .rangeUp = L / t := by
  induction L with
  | zero => simp
  | succ L ih =>
    rw [List.range'_concat, List.map_append, List.count_append, ih, Nat.succ_div]
    congr 1
    by_cases hdvd : t ∣ L + 1 <;> simp [called, Nat.add_comm 1 L, hdvd]

/-- An overload is reported once, if it lasts so long. -/
lemma count_report {t : Nat} (ht : 0 < t) (L : Nat) :
    ((List.range' 1 L).map (called t false)).count .report = if t ≤ L then 1 else 0 := by
  induction L with
  | zero => simp [Nat.ne_of_gt ht]
  | succ L ih =>
    rw [List.range'_concat, List.map_append, List.count_append, ih]
    rcases Nat.lt_trichotomy (L + 1) t with hlt | rfl | hgt
    · have hne : 1 + L ≠ t := by omega
      simp [called, hne, Nat.not_le.2 hlt, show ¬t ≤ L by omega]
    · simp [called, Nat.add_comm 1 L]
    · have hne : 1 + L ≠ t := by omega
      simp [called, hne, show t ≤ L by omega, show t ≤ L + 1 by omega]

lemma count_rangeUp_off (t L : Nat) :
    ((List.range' 1 L).map (called t false)).count .rangeUp = 0 := by
  rw [List.count_eq_zero]
  intro h
  obtain ⟨k, -, hk⟩ := List.mem_map.1 h
  simp only [called, Bool.false_eq_true, if_false] at hk
  split at hk <;> cases hk

lemma count_report_on (t L : Nat) :
    ((List.range' 1 L).map (called t true)).count .report = 0 := by
  rw [List.count_eq_zero]
  intro h
  obtain ⟨k, -, hk⟩ := List.mem_map.1 h
  simp only [called, if_true] at hk
  split at hk <;> cases hk

end Verdicts

/-! ## The monitor -/

namespace OverloadMonitor

variable {m : OverloadMonitor} {i j k : Nat} {status : LockinStatus}
  {checks : List (Nat × LockinStatus)}

/-- One overload more in a row: what it calls for, and what is counted then. -/
lemma overloaded_counted (hm : 0 < m.threshold) (k : Nat) :
    m.overloaded (counted m.threshold m.autorange k) =
      (called m.threshold m.autorange (k + 1), counted m.threshold m.autorange (k + 1)) := by
  unfold overloaded counted called
  cases m.autorange with
  | false =>
    by_cases hlt : k + 1 < m.threshold
    · simp [hlt, Nat.ne_of_lt hlt]
    · by_cases heq : k + 1 = m.threshold <;> simp [hlt, heq]
  | true =>
    have hk := Nat.mod_lt k hm
    by_cases hlt : k % m.threshold + 1 < m.threshold
    · have hmod : (k + 1) % m.threshold = k % m.threshold + 1 := by
        rw [← Nat.mod_add_mod, Nat.mod_eq_of_lt hlt]
      have hdvd : ¬m.threshold ∣ k + 1 := by
        rw [Nat.dvd_iff_mod_eq_zero, hmod]
        omega
      simp [hlt, hmod, hdvd]
    · have hmod : (k + 1) % m.threshold = 0 := by
        rw [← Nat.mod_add_mod, show k % m.threshold + 1 = m.threshold by omega, Nat.mod_self]
      have hdvd : m.threshold ∣ k + 1 := Nat.dvd_of_mod_eq_zero hmod
      simp [hlt, hmod, hdvd]

/-- Recording leaves the settings as they are. -/
lemma settings_record (m : OverloadMonitor) (i : Nat) (status : LockinStatus) :
    (m.record i status).2.threshold = m.threshold ∧
      (m.record i status).2.autorange = m.autorange := by
  unfold record
  split <;> exact ⟨rfl, rfl⟩

/-- A check of another lock-in is no concern of this one. -/
lemma counters_record_of_ne (h : j ≠ i) :
    (m.record j status).2.counters[i]? = m.counters[i]? := by
  unfold record
  split
  · rfl
  · exact List.getElem?_set_ne h

/-- A check of a lock-in after so many overloads of it in a row. -/
lemma record_of_counted (hm : 0 < m.threshold) (status : LockinStatus)
    (h : m.counters[i]? = some (counted m.threshold m.autorange k)) :
    (m.record i status).1 =
        (if status.outputOverload then called m.threshold m.autorange (k + 1) else .clear) ∧
      (m.record i status).2.counters[i]? = some
        (counted m.threshold m.autorange (if status.outputOverload then k + 1 else 0)) := by
  have hlt := (List.getElem?_eq_some_iff.1 h).1
  unfold record
  simp only [h, overloaded_counted hm, List.getElem?_set_self hlt]
  cases status.outputOverload with
  | false => simp [counted]
  | true => exact ⟨rfl, rfl⟩

/-- The verdicts on one lock-in, and what is counted of it after them, are those of its own
checks. -/
lemma verdicts_of_counted (hm : 0 < m.threshold) (checks : List (Nat × LockinStatus))
    (h : m.counters[i]? = some (counted m.threshold m.autorange k)) :
    ofLockin i (m.verdicts checks) = calls m.threshold m.autorange k (ofLockin i checks) ∧
      (m.after checks).counters[i]? = some
        (counted m.threshold m.autorange (streak k (ofLockin i checks))) := by
  induction checks generalizing m k with
  | nil => exact ⟨rfl, h⟩
  | cons check rest ih =>
    obtain ⟨j, status⟩ := check
    obtain ⟨ht, ha⟩ := m.settings_record j status
    have hm' : 0 < (m.record j status).2.threshold := by rwa [ht]
    by_cases hj : j = i
    · subst hj
      obtain ⟨hverdict, hcounted⟩ := record_of_counted hm status h
      rw [← ht, ← ha] at hcounted
      obtain ⟨hrest, hafter⟩ := ih hm' hcounted
      rw [ht, ha] at hrest hafter
      rw [verdicts, ofLockin_cons_self, ofLockin_cons_self, hrest, hverdict, calls]
      refine ⟨?_, hafter⟩
      split <;> rfl
    · have hcounted : (m.record j status).2.counters[i]? = some (counted
          (m.record j status).2.threshold (m.record j status).2.autorange k) := by
        rw [counters_record_of_ne hj, ht, ha, h]
      obtain ⟨hrest, hafter⟩ := ih hm' hcounted
      rw [ht, ha] at hrest hafter
      rw [verdicts, ofLockin_cons_of_ne hj, ofLockin_cons_of_ne hj]
      exact ⟨hrest, hafter⟩

/-- There is nothing to do about a lock-in that the monitor does not have. -/
lemma verdicts_of_none (checks : List (Nat × LockinStatus)) (h : m.counters[i]? = none) :
    ofLockin i (m.verdicts checks) = (ofLockin i checks).map (fun _ => .clear) ∧
      (m.after checks).counters[i]? = none := by
  induction checks generalizing m with
  | nil => exact ⟨rfl, h⟩
  | cons check rest ih =>
    obtain ⟨j, status⟩ := check
    by_cases hj : j = i
    · subst hj
      have hrecord : m.record j status = (.clear, m) := by
        unfold record
        rw [h]
      obtain ⟨hrest, hafter⟩ := ih h
      rw [verdicts, hrecord, ofLockin_cons_self, ofLockin_cons_self, hrest, List.map_cons, after,
        List.foldl_cons, hrecord]
      exact ⟨rfl, hafter⟩
    · obtain ⟨hrest, hafter⟩ := ih ((counters_record_of_ne hj).trans h)
      rw [verdicts, ofLockin_cons_of_ne hj, ofLockin_cons_of_ne hj]
      exact ⟨hrest, hafter⟩

/-- **Every run of overloads is counted for itself.** Of any sequence of checks, whichever lock-ins
they are of:

* the verdicts on a lock-in, and what is counted of it, are those of its own checks;
* a check that finds no overload calls for nothing, and then nothing is counted;
* with ranges raised, a run of overloads calls for that whenever another `t` of them are full, and
  in between they are counted from there; without, it is reported once, when there are `t` of them;
* lock-ins that the monitor does not have are of no concern.

A run is counted up to no more than its length, so the counters stay small while the runs are short.

**Proof sketch.** What a check calls for, and what is counted after it, depends on nothing but how
many overloads in a row of its lock-in there are by then. A run begins after none, so its verdicts
are those of counting from one up. -/
theorem verdicts_of_runs (lockins threshold : Nat) (autorange : Bool)
    (checks : List (Nat × LockinStatus)) (i : Nat) :
    let m := start lockins threshold autorange
    let t := max threshold 1
    let found := ofLockin i (m.verdicts checks)
    let alone := checks.filter (·.1 = i)
    (found = ofLockin i (m.verdicts alone) ∧ (m.after checks).count i = (m.after alone).count i) ∧
    (∀ before status rest, ofLockin i checks = before ++ status :: rest →
      ¬status.outputOverload →
        found[before.length]? = some .clear ∧ (rest = [] → (m.after checks).count i = 0)) ∧
    (i < lockins → ∀ before run rest, ofLockin i checks = before ++ run ++ rest →
      (∀ status ∈ run, status.outputOverload) →
      (∀ status ∈ before.getLast?, ¬status.outputOverload) →
        (found.drop before.length).take run.length =
          (List.range' 1 run.length).map (called t autorange) ∧
        ((found.drop before.length).take run.length).count .rangeUp =
          (if autorange then run.length / t else 0) ∧
        ((found.drop before.length).take run.length).count .report =
          (if autorange then 0 else if t ≤ run.length then 1 else 0) ∧
        (rest = [] → (m.after checks).count i = counted t autorange run.length)) ∧
    (lockins ≤ i → (∀ verdict ∈ found, verdict = .clear) ∧ (m.after checks).count i = 0) := by
  intro m t found alone
  have ht : 0 < t := Nat.lt_of_lt_of_le Nat.zero_lt_one (Nat.le_max_right ..)
  have hcount {checks : List (Nat × LockinStatus)} {n : Nat}
      (h : (m.after checks).counters[i]? = some n) : (m.after checks).count i = n := by
    rw [count, h, Option.getD_some]
  have hnone {checks : List (Nat × LockinStatus)}
      (h : (m.after checks).counters[i]? = none) : (m.after checks).count i = 0 := by
    rw [count, h, Option.getD_none]
  by_cases hi : i < lockins
  · have hstart : m.counters[i]? = some (counted m.threshold m.autorange 0) := by
      have hzero : counted m.threshold m.autorange 0 = 0 := by simp [counted]
      rw [hzero]
      exact List.getElem?_replicate_of_lt hi
    have hall (checks : List (Nat × LockinStatus)) := verdicts_of_counted ht checks hstart
    have hfound : found = calls t autorange 0 (ofLockin i checks) := (hall checks).1
    have hafter : (m.after checks).count i = counted t autorange (streak 0 (ofLockin i checks)) :=
      hcount (hall checks).2
    refine ⟨⟨?_, ?_⟩, ?_, ?_, fun h => absurd hi (Nat.not_lt.2 h)⟩
    · rw [(hall alone).1, ofLockin_filter]
      exact hfound
    · rw [hafter, hcount (hall alone).2, ofLockin_filter]
      rfl
    · intro before status rest hchecks hclear
      rw [hchecks] at hfound hafter
      refine ⟨?_, ?_⟩
      · rw [hfound, calls_of_clear hclear]
      · rintro rfl
        rw [hafter, streak_append, streak, if_neg hclear, streak]
        simp [counted]
    · intro _ before run rest hchecks hrun hbefore
      rw [hchecks] at hfound hafter
      have hvs : (found.drop before.length).take run.length =
          (List.range' 1 run.length).map (called t autorange) := by
        rw [hfound, calls_of_run hrun hbefore]
      refine ⟨hvs, ?_, ?_, ?_⟩
      · rw [hvs]
        cases autorange with
        | false => exact count_rangeUp_off t _
        | true => exact count_rangeUp t _
      · rw [hvs]
        cases autorange with
        | false => exact count_report ht _
        | true => exact count_report_on t _
      · rintro rfl
        rw [hafter, List.append_nil, streak_append, streak_eq_zero hbefore,
          streak_of_overloads hrun, Nat.zero_add]
  · have hstart : m.counters[i]? = none :=
      List.getElem?_eq_none (by simpa [m, start] using hi)
    have hall (checks : List (Nat × LockinStatus)) := verdicts_of_none checks hstart
    have hfound : found = (ofLockin i checks).map fun _ => .clear := (hall checks).1
    have hafter (checks : List (Nat × LockinStatus)) : (m.after checks).count i = 0 :=
      hnone (hall checks).2
    refine ⟨⟨?_, ?_⟩, ?_, fun h => absurd h hi, fun _ => ⟨?_, hafter checks⟩⟩
    · rw [(hall alone).1, ofLockin_filter]
      exact hfound
    · rw [hafter, hafter]
    · intro before status rest hchecks _
      refine ⟨?_, fun _ => hafter checks⟩
      rw [hfound, hchecks]
      simp
    · intro verdict hv
      rw [hfound] at hv
      obtain ⟨-, -, rfl⟩ := List.mem_map.1 hv
      rfl

/-- Checks of two lock-ins in turn, and of one that is not there. -/
def mixedChecks : List (Nat × LockinStatus) :=
  [(0, ⟨4⟩), (1, ⟨4⟩), (0, ⟨5⟩), (7, ⟨4⟩), (0, ⟨6⟩), (1, ⟨3⟩), (0, ⟨4⟩), (1, ⟨4⟩)]

/-- The four overloads of the first lock-in, with ranges raised and without. -/
theorem verdicts_of_mixedChecks :
    ((ofLockin 0 ((start 2 3 true).verdicts mixedChecks)).drop 0).take 4 =
        [.counting 1, .counting 2, .rangeUp, .counting 1] ∧
      ((start 2 3 true).after mixedChecks).count 0 = 1 ∧
      ((ofLockin 0 ((start 2 3 false).verdicts mixedChecks)).drop 0).take 4 =
        [.counting 1, .counting 2, .report, .counting 4] ∧
      ((start 2 3 false).after mixedChecks).count 0 = 4 := by
  have hrun : ∀ status ∈ ([⟨4⟩, ⟨5⟩, ⟨6⟩, ⟨4⟩] : List LockinStatus), status.outputOverload := by
    decide
  obtain ⟨hon, -, -, hcount⟩ := (verdicts_of_runs 2 3 true mixedChecks 0).2.2.1 (by decide) []
    [⟨4⟩, ⟨5⟩, ⟨6⟩, ⟨4⟩] [] rfl hrun (by simp)
  obtain ⟨hoff, -, -, hcount'⟩ := (verdicts_of_runs 2 3 false mixedChecks 0).2.2.1 (by decide) []
    [⟨4⟩, ⟨5⟩, ⟨6⟩, ⟨4⟩] [] rfl hrun (by simp)
  exact ⟨hon.trans (by decide), hcount rfl, hoff.trans (by decide), hcount' rfl⟩

end OverloadMonitor

end CryoRig.Sampling
