import CryoRig.Proofs.DoubleRange
import CryoRig.Script.Targets

/-!
# The range of a sweep

The targets of a sweep are computed from its first end in steps. Whether they are all finite is
decided at the far end of a pass: the targets lie between the two, rounding included.

## Main results

* `CryoRig.Script.forall_mem_linspace_iff`: the targets of a pass are finite if the last one is.
* `CryoRig.Script.forall_mem_stepList_iff`: the same for all passes.
* `CryoRig.Script.isFinite_farEnd`: the last target is finite if the ends are not near the end of
  the range of doubles.
-/

namespace CryoRig.Script

open Number (AtMost value rounded Rounds)

variable {start stop step x : Float} {i k n : ℕ}

/-! ## Steps -/

lemma value_ofNat_le (hk : (Float.ofNat k).isFinite) (hi : i ≤ k) :
    (Float.ofNat i).isFinite ∧ 0 ≤ value (Float.ofNat i) ∧
      value (Float.ofNat i) ≤ value (Float.ofNat k) := by
  have hnonneg : 0 ≤ rounded i := Number.rounded_nonneg (by positivity)
  have hle : rounded i ≤ rounded k := Number.rounded_mono (by exact_mod_cast hi)
  have hlt := (Number.rounds_ofNat k).isFinite_iff.1 hk
  have hfinite : (Float.ofNat i).isFinite := by
    rw [(Number.rounds_ofNat i).isFinite_iff]
    exact (abs_le_abs_of_nonneg hnonneg hle).trans_lt hlt
  rw [(Number.rounds_ofNat i).value_eq hfinite, (Number.rounds_ofNat k).value_eq hk]
  exact ⟨hfinite, hnonneg, hle⟩

lemma one_le_value_ofNat (hn : (Float.ofNat (n + 1)).isFinite) :
    1 ≤ value (Float.ofNat (n + 1)) := by
  have hone : rounded 1 = 1 := by exact_mod_cast Number.rounded_natCast (n := 1) (by norm_num)
  rw [(Number.rounds_ofNat _).value_eq hn, ← hone]
  exact Number.rounded_mono (by exact_mod_cast Nat.le_add_left 1 n)

/-- A number of steps stays within the range if a greater number does.

**Proof sketch.** The product and the sum are rounded in order, so both lie between what they are
without a step and what they are after the greater number of steps. -/
lemma isFinite_of_steps_le (h : (start + step * Float.ofNat k).isFinite) (hi : i ≤ k) :
    (start + step * Float.ofNat i).isFinite := by
  obtain ⟨hstart, hfar⟩ := Number.isFinite_of_add h
  obtain ⟨hstep, hk⟩ := Number.isFinite_of_mul hfar
  obtain ⟨hfinite, hnonneg, hle⟩ := value_ofNat_le hk hi
  have hfarProduct := Number.rounds_mul hstep hk
  have hproduct := Number.rounds_mul hstep hfinite
  have hnear : (step * Float.ofNat i).isFinite := by
    rw [hproduct.isFinite_iff, Number.abs_rounded, abs_mul, abs_of_nonneg hnonneg]
    refine lt_of_le_of_lt (Number.rounded_mono ?_)
      ((Number.abs_rounded _).symm.trans_lt (hfarProduct.isFinite_iff.1 hfar))
    rw [abs_mul, abs_of_nonneg (hnonneg.trans hle)]
    exact mul_le_mul_of_nonneg_left hle (abs_nonneg _)
  have hfarSum := Number.rounds_add hstart hfar
  have hsum := Number.rounds_add hstart hnear
  have hstartRange := Number.abs_value_lt hstart
  have hfarRange := hfarSum.isFinite_iff.1 h
  rw [hsum.isFinite_iff]
  rw [hfarProduct.value_eq hfar] at hfarRange
  rw [hproduct.value_eq hnear]
  rw [← Number.rounded_value hstart] at hstartRange
  refine lt_of_le_of_lt ?_ (max_lt hstartRange hfarRange)
  rcases le_total 0 (value step) with hup | hdown
  · refine abs_le_max_abs_abs (Number.rounded_mono ?_) (Number.rounded_mono ?_)
    · exact le_add_of_nonneg_right (Number.rounded_nonneg (mul_nonneg hup hnonneg))
    · exact add_le_add_right (Number.rounded_mono (mul_le_mul_of_nonneg_left hle hup)) _
  · rw [max_comm]
    refine abs_le_max_abs_abs (Number.rounded_mono ?_) (Number.rounded_mono ?_)
    · exact add_le_add_right (Number.rounded_mono (mul_le_mul_of_nonpos_left hle hdown)) _
    · exact add_le_of_nonpos_right
        (Number.rounded_nonpos (mul_nonpos_of_nonpos_of_nonneg hdown hnonneg))

/-! ## Passes -/

lemma getLast?_linspace (start stop : Float) (n : ℕ) :
    (linspace start stop (n + 2)).getLast? = some (start +
      (stop - start) / Float.ofNat (n + 1) * Float.ofNat (n + 1)) := by
  simp [linspace, List.range_succ]

/-- The targets of a pass are finite if the last one is. -/
theorem forall_mem_linspace_iff : (∀ x ∈ linspace start stop n, x.isFinite) ↔
    ∀ x ∈ (linspace start stop n).getLast?, x.isFinite := by
  refine ⟨fun h x hx => h x (List.mem_of_getLast? hx), fun h => ?_⟩
  match n with
  | 0 => exact List.forall_mem_nil _
  | 1 =>
    intro x hx
    obtain rfl := List.mem_singleton.1 hx
    exact h x rfl
  | n + 2 =>
    intro x hx
    obtain ⟨i, hi, rfl⟩ := List.mem_map.1 hx
    exact isFinite_of_steps_le (h _ (getLast?_linspace start stop n))
      (Nat.le_of_lt_succ (List.mem_range.1 hi))

lemma mem_stepList {points zigzag : ℕ} (hz : zigzag ≠ 0) :
    x ∈ stepList start stop points zigzag ↔ x ∈ linspace start stop points := by
  have hpass (index : ℕ) : x ∈ pass (linspace start stop points) index ↔
      x ∈ linspace start stop points := by
    unfold pass
    split <;> simp
  simp only [stepList, List.mem_flatMap, List.mem_range, hpass, exists_and_right]
  exact and_iff_right ⟨0, Nat.pos_of_ne_zero hz⟩

/-- The targets of a sweep are finite if the last one of its first pass is. -/
theorem forall_mem_stepList_iff {points zigzag : ℕ} (hz : zigzag ≠ 0) :
    (∀ x ∈ stepList start stop points zigzag, x.isFinite) ↔
      ∀ x ∈ (linspace start stop points).getLast?, x.isFinite := by
  simp only [mem_stepList hz, forall_mem_linspace_iff]

/-! ## Ends well within the range -/

/-- A number lies between two neighbouring powers of two. -/
lemma exists_two_zpow_bounds {d : ℚ} (hone : 1 ≤ d) (hlarge : d < 2 ^ (1024 : ℤ)) :
    ∃ j : ℤ, 0 ≤ j ∧ j < 1024 ∧ 2 ^ j ≤ d ∧ d < 2 ^ (j + 1) := by
  have hpos : 0 < d := by linarith
  have hgrain : -52 ≤ Number.grain d :=
    Number.le_grain hpos.ne' (by rw [abs_of_pos hpos]; simpa using hone)
  have hlow := Number.two_zpow_grain_le hpos.ne' (by omega)
  have hhigh := Number.abs_lt_two_zpow_grain d
  rw [abs_of_pos hpos] at hlow hhigh
  refine ⟨52 + Number.grain d, by omega, ?_, hlow, ?_⟩
  · exact (zpow_lt_zpow_iff_right₀ (by norm_num)).1 (hlow.trans_lt hlarge)
  · rwa [show 52 + Number.grain d + 1 = 53 + Number.grain d by ring]

/-- A sweep between ends that are at most an eighth of the range reaches its far end.

**Proof sketch.** A step is bounded by a power of two, which is kept by rounding, so that all the
steps together are at most twice the span. -/
theorem isFinite_farEnd (hstart : AtMost start 1021) (hstop : AtMost stop 1021)
    (hn : (Float.ofNat (n + 1)).isFinite) :
    (start + (stop - start) / Float.ofNat (n + 1) * Float.ofNat (n + 1)).isFinite := by
  have hpow : (0 : ℚ) < 2 ^ (1021 : ℤ) := by positivity
  have hpow4 : (2 : ℚ) ^ (1023 : ℤ) = 4 * 2 ^ (1021 : ℤ) :=
    (zpow_add₀ (by norm_num) 2 1021).trans (congrArg (· * _) (by norm_num))
  have hpow8 : (2 : ℚ) ^ (1024 : ℤ) = 8 * 2 ^ (1021 : ℤ) :=
    (zpow_add₀ (by norm_num) 3 1021).trans (congrArg (· * _) (by norm_num))
  have hone := one_le_value_ofNat hn
  obtain ⟨j, hj, hj1024, hjlow, hjhigh⟩ :=
    exists_two_zpow_bounds hone ((le_abs_self _).trans_lt (Number.abs_value_lt hn))
  have hsteps : AtMost (Float.ofNat (n + 1)) (j + 1) :=
    ⟨hn, by rw [abs_of_pos (zero_lt_one.trans_le hone)]; exact hjhigh.le⟩
  have hstep : AtMost ((stop - start) / Float.ofNat (n + 1)) (1021 + 1 - j) :=
    (hstop.sub hstart (by norm_num) (by norm_num)).div hn hjlow (by omega) (by omega)
  have hfar := hstep.mul hsteps (by omega) (by omega)
  have hfarLe := hfar.le
  rw [show 1021 + 1 - j + (j + 1) = 1023 by ring, hpow4] at hfarLe
  refine ((Number.rounds_add hstart.isFinite hfar.isFinite).of_abs_le (r := 5 * 2 ^ (1021 : ℤ))
    ?_ ?_ ?_).1
  · have := Number.rounded_dyadic (n := 5) (k := 1021) (by norm_num) (by norm_num)
    rwa [Int.cast_ofNat] at this
  · rw [hpow8]
    exact mul_lt_mul_of_pos_right (by norm_num) hpow
  · calc |value start + value ((stop - start) / Float.ofNat (n + 1) * Float.ofNat (n + 1))|
        ≤ 2 ^ (1021 : ℤ) + 4 * 2 ^ (1021 : ℤ) :=
          (abs_add_le _ _).trans (add_le_add hstart.le hfarLe)
      _ = 5 * 2 ^ (1021 : ℤ) := by ring

end CryoRig.Script
