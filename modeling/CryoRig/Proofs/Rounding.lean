import Mathlib.Algebra.Order.Field.Power
import Mathlib.Data.Int.Log
import Mathlib.Data.Rat.Floor
import Mathlib.Tactic.Linarith
import Mathlib.Tactic.NormNum
import Mathlib.Tactic.Positivity
import Mathlib.Tactic.Ring

/-!
# Rounding to doubles

What a rational number is rounded to when it becomes a double, without an upper end to the range: a
whole multiple of a power of two, its *grain*, that leaves it 53 binary digits, but no finer than
`2 ^ (-1074)`.

## Main definitions

* `CryoRig.Number.nearestWhole`: the nearest whole number, a half going to the even one.
* `CryoRig.Number.grain`: the exponent of the power of two that a number is rounded to a multiple
  of.
* `CryoRig.Number.rounded`: the number it is rounded to.

## Main results

* `CryoRig.Number.rounded_neg`, `CryoRig.Number.rounded_mono`: rounding keeps the order and goes
  both ways alike.
* `CryoRig.Number.rounded_dyadic`: what is a double is kept.
* `CryoRig.Number.rounded_pos_iff`: what is at most half the least double is lost.
* `CryoRig.Number.rounded_greatest_add`: the greatest double takes in less than half its grain.
-/

namespace CryoRig.Number

/-! ## Whole numbers -/

/-- The whole number nearest to `q`, a half going to the even one. -/
def nearestWhole (q : ℚ) : ℤ :=
  if Int.fract q < 1 / 2 then ⌊q⌋
  else if 1 / 2 < Int.fract q then ⌊q⌋ + 1
  else ⌊q⌋ + ⌊q⌋ % 2

variable {q r : ℚ}

@[simp] lemma nearestWhole_intCast (n : ℤ) : nearestWhole n = n := by
  simp [nearestWhole]

/-- The nearest whole number is at most a half away. -/
lemma abs_nearestWhole_sub_le (q : ℚ) : |(nearestWhole q : ℚ) - q| ≤ 1 / 2 := by
  have hq := Int.floor_add_fract q
  have h0 := Int.fract_nonneg q
  have h1 := Int.fract_lt_one q
  unfold nearestWhole
  split_ifs with hlt hgt
  · rw [abs_le]
    constructor <;> linarith
  · push_cast
    rw [abs_le]
    constructor <;> linarith
  · have hhalf : Int.fract q = 1 / 2 := le_antisymm (not_lt.1 hgt) (not_lt.1 hlt)
    obtain heven | hodd := Int.emod_two_eq_zero_or_one ⌊q⌋
    · rw [heven, abs_le]
      push_cast
      constructor <;> linarith
    · rw [hodd, abs_le]
      push_cast
      constructor <;> linarith

lemma nearestWhole_eq_of_abs_sub_lt {n : ℤ} (h : |q - n| < 1 / 2) : nearestWhole q = n := by
  have hnear := abs_le.1 (abs_nearestWhole_sub_le q)
  have h' := abs_lt.1 h
  have hlow : ((nearestWhole q - n : ℤ) : ℚ) < 1 := by
    push_cast
    linarith
  have hhigh : (-1 : ℚ) < ((nearestWhole q - n : ℤ) : ℚ) := by
    push_cast
    linarith
  have hlow' : nearestWhole q - n < 1 := by exact_mod_cast hlow
  have hhigh' : -1 < nearestWhole q - n := by exact_mod_cast hhigh
  omega

lemma nearestWhole_mono (h : q ≤ r) : nearestWhole q ≤ nearestWhole r := by
  rcases h.eq_or_lt with rfl | hlt
  · exact le_rfl
  · by_contra hcon
    have hq := (abs_le.1 (abs_nearestWhole_sub_le q)).2
    have hr := (abs_le.1 (abs_nearestWhole_sub_le r)).1
    have hstep : (nearestWhole r : ℚ) + 1 ≤ nearestWhole q := by
      exact_mod_cast Int.add_one_le_of_lt (not_le.1 hcon)
    linarith

lemma nearestWhole_neg (q : ℚ) : nearestWhole (-q) = -nearestWhole q := by
  by_cases hwhole : Int.fract q = 0
  · obtain ⟨n, rfl⟩ : ∃ n : ℤ, q = n := ⟨⌊q⌋, by linarith [Int.floor_add_fract q]⟩
    rw [← Int.cast_neg, nearestWhole_intCast, nearestWhole_intCast]
  · have hfract : Int.fract (-q) = 1 - Int.fract q := Int.fract_neg hwhole
    have hfloor : ⌊-q⌋ = -⌊q⌋ - 1 := by
      have hneg := Int.floor_add_fract (-q)
      have hpos := Int.floor_add_fract q
      have : ((⌊-q⌋ : ℤ) : ℚ) = ((-⌊q⌋ - 1 : ℤ) : ℚ) := by
        push_cast
        linarith
      exact_mod_cast this
    unfold nearestWhole
    rw [hfract, hfloor]
    split_ifs <;> first | omega | (exfalso; linarith)

/-! ## Grains -/

/-- The exponent of the power of two that `q` is rounded to a multiple of. -/
def grain (q : ℚ) : ℤ := max (Int.log 2 |q| - 52) (-1074)

@[simp] lemma grain_neg (q : ℚ) : grain (-q) = grain q := by simp [grain]

lemma grain_ge (q : ℚ) : -1074 ≤ grain q := le_max_right _ _

/-- A number below `2 ^ (53 + k)` has no coarser grain than `k`. -/
lemma grain_le {k : ℤ} (hq : q ≠ 0) (hk : -1074 ≤ k) (h : |q| < 2 ^ (53 + k)) : grain q ≤ k := by
  have := (Int.lt_zpow_iff_log_lt (b := 2) (by norm_num) (abs_pos.2 hq)).1 (by exact_mod_cast h)
  exact max_le (by omega) hk

lemma le_grain {k : ℤ} (hq : q ≠ 0) (h : 2 ^ (52 + k) ≤ |q|) : k ≤ grain q := by
  have := (Int.zpow_le_iff_le_log (b := 2) (by norm_num) (abs_pos.2 hq)).1 (by exact_mod_cast h)
  exact le_trans (by omega) (le_max_left _ _)

lemma abs_lt_two_zpow_grain (q : ℚ) : |q| < 2 ^ (53 + grain q) := by
  have hlog : |q| < 2 ^ (Int.log 2 |q| + 1) := by
    exact_mod_cast Int.lt_zpow_succ_log_self (b := 2) (by norm_num) |q|
  refine hlog.trans_le (zpow_le_zpow_right₀ (by norm_num) ?_)
  have : Int.log 2 |q| - 52 ≤ grain q := le_max_left _ _
  omega

/-- Unless it is the finest, the grain of a number leaves it 53 binary digits. -/
lemma two_zpow_grain_le (hq : q ≠ 0) (h : -1074 < grain q) : 2 ^ (52 + grain q) ≤ |q| := by
  have hlog : grain q = Int.log 2 |q| - 52 := by
    unfold grain at h ⊢
    omega
  have hle : (2 : ℚ) ^ Int.log 2 |q| ≤ |q| := by
    exact_mod_cast Int.zpow_log_le_self (b := 2) (by norm_num) (abs_pos.2 hq)
  rw [hlog]
  convert hle using 2
  omega

lemma grain_mono (hq : q ≠ 0) (h : |q| ≤ |r|) : grain q ≤ grain r :=
  grain_le hq (grain_ge r) (h.trans_lt (abs_lt_two_zpow_grain r))

/-! ## Rounding -/

/-- How many times its grain `q` is rounded to, a half going to the even number. -/
def significand (q : ℚ) : ℤ := nearestWhole (q / 2 ^ grain q)

/-- The number that `q` is rounded to. -/
def rounded (q : ℚ) : ℚ := significand q * 2 ^ grain q

lemma significand_neg (q : ℚ) : significand (-q) = -significand q := by
  rw [significand, grain_neg, neg_div, nearestWhole_neg, significand]

lemma rounded_neg (q : ℚ) : rounded (-q) = -rounded q := by
  rw [rounded, significand_neg, grain_neg, Int.cast_neg, neg_mul, rounded]

@[simp] lemma rounded_zero : rounded 0 = 0 := by
  have : nearestWhole 0 = 0 := by exact_mod_cast nearestWhole_intCast 0
  simp [rounded, significand, this]

lemma significand_nonneg (h : 0 ≤ q) : 0 ≤ significand q := by
  have : nearestWhole 0 ≤ significand q := nearestWhole_mono (by positivity)
  rwa [show nearestWhole 0 = 0 by exact_mod_cast nearestWhole_intCast 0] at this

/-- Rounding up leaves a number with at most one binary digit more. -/
lemma significand_le (q : ℚ) : significand q ≤ 2 ^ 53 := by
  have h : q / 2 ^ grain q ≤ ((2 ^ 53 : ℤ) : ℚ) := by
    rw [div_le_iff₀ (by positivity)]
    have := (le_abs_self q).trans (abs_lt_two_zpow_grain q).le
    rw [zpow_add₀ (by norm_num)] at this
    exact_mod_cast this
  exact (nearestWhole_mono h).trans_eq (nearestWhole_intCast _)

lemma le_significand (hq : 0 < q) (h : -1074 < grain q) : 2 ^ 52 ≤ significand q := by
  have h : ((2 ^ 52 : ℤ) : ℚ) ≤ q / 2 ^ grain q := by
    rw [le_div_iff₀ (by positivity)]
    have := two_zpow_grain_le hq.ne' h
    rw [abs_of_pos hq, zpow_add₀ (by norm_num)] at this
    exact_mod_cast this
  exact (nearestWhole_intCast _).symm.trans_le (nearestWhole_mono h)

/-- A multiple of a power of two that has at most 53 binary digits is kept. -/
lemma rounded_dyadic {n k : ℤ} (hn : |n| < 2 ^ 53) (hk : -1074 ≤ k) :
    rounded (n * 2 ^ k) = n * 2 ^ k := by
  rcases eq_or_ne n 0 with rfl | hzero
  · simp
  have hpow : (0 : ℚ) < 2 ^ k := by positivity
  have habs : |(n : ℚ) * 2 ^ k| < 2 ^ (53 + k) := by
    rw [abs_mul, abs_of_pos hpow, zpow_add₀ (by norm_num)]
    exact mul_lt_mul_of_pos_right (by exact_mod_cast hn) hpow
  have hgrain := grain_le (mul_ne_zero (by exact_mod_cast hzero) hpow.ne') hk habs
  obtain ⟨d, hd⟩ := Int.eq_ofNat_of_zero_le (sub_nonneg.2 hgrain)
  have hquotient : (n : ℚ) * 2 ^ k / 2 ^ grain (n * 2 ^ k) = ((n * 2 ^ d : ℤ) : ℚ) := by
    rw [mul_div_assoc, ← zpow_sub₀ (by norm_num), hd]
    push_cast
    rw [zpow_natCast]
  unfold rounded significand
  rw [hquotient, nearestWhole_intCast, ← hquotient, div_mul_cancel₀ _ (by positivity)]

lemma rounded_two_zpow {k : ℤ} (hk : -1074 ≤ k) : rounded (2 ^ k) = 2 ^ k := by
  simpa using rounded_dyadic (n := 1) (by norm_num) hk

lemma rounded_nonneg (h : 0 ≤ q) : 0 ≤ rounded q :=
  mul_nonneg (by exact_mod_cast significand_nonneg h) (by positivity)

/-- Rounding keeps the order of numbers that are not negative.

**Proof sketch.** Numbers of one grain are rounded to whole multiples of it, in order. If the grains
differ, the power of two at which the grain of the greater number begins lies between the two
rounded numbers. -/
lemma rounded_mono_of_nonneg (hq : 0 ≤ q) (h : q ≤ r) : rounded q ≤ rounded r := by
  rcases hq.eq_or_lt with rfl | hpos
  · rw [rounded_zero]
    exact rounded_nonneg h
  rcases (grain_mono hpos.ne' (abs_le_abs_of_nonneg hq h)).eq_or_lt with hg | hg
  · have hmono : significand q ≤ significand r := by
      unfold significand
      rw [hg]
      exact nearestWhole_mono (div_le_div_of_nonneg_right h (by positivity))
    unfold rounded
    rw [hg]
    exact mul_le_mul_of_nonneg_right (by exact_mod_cast hmono) (by positivity)
  · calc rounded q ≤ 2 ^ 53 * 2 ^ grain q :=
          mul_le_mul_of_nonneg_right (by exact_mod_cast significand_le q) (by positivity)
      _ = 2 ^ (53 + grain q) := by rw [zpow_add₀ (by norm_num)]; norm_num
      _ ≤ 2 ^ (52 + grain r) := zpow_le_zpow_right₀ (by norm_num) (by omega)
      _ = 2 ^ 52 * 2 ^ grain r := by rw [zpow_add₀ (by norm_num)]; norm_num
      _ ≤ rounded r := by
          have := le_significand (hpos.trans_le h) ((grain_ge q).trans_lt hg)
          exact mul_le_mul_of_nonneg_right (by exact_mod_cast this) (by positivity)

/-- Rounding keeps the order. -/
theorem rounded_mono (h : q ≤ r) : rounded q ≤ rounded r := by
  rcases le_total 0 q with hq | hq
  · exact rounded_mono_of_nonneg hq h
  rcases le_total 0 r with hr | hr
  · have := rounded_nonneg (neg_nonneg.2 hq)
    rw [rounded_neg] at this
    exact (neg_nonneg.1 this).trans (rounded_nonneg hr)
  · have := rounded_mono_of_nonneg (neg_nonneg.2 hr) (neg_le_neg h)
    rw [rounded_neg, rounded_neg] at this
    exact neg_le_neg_iff.1 this

lemma rounded_nonpos (h : q ≤ 0) : rounded q ≤ 0 := by
  simpa using rounded_mono h

lemma abs_rounded (q : ℚ) : |rounded q| = rounded |q| := by
  rcases le_total 0 q with hq | hq
  · rw [abs_of_nonneg hq, abs_of_nonneg (rounded_nonneg hq)]
  · rw [abs_of_nonpos hq, abs_of_nonpos (rounded_nonpos hq), rounded_neg]

/-- A double that is not exceeded is not exceeded after rounding either. -/
lemma abs_rounded_le (hr : rounded r = r) (h : |q| ≤ r) : |rounded q| ≤ r := by
  rw [abs_rounded, ← hr]
  exact rounded_mono h

/-- The greatest number of a grain takes in less than half of it. -/
lemma rounded_add_of_lt {k : ℤ} (hk : -1074 ≤ k) (hq : 0 ≤ q) (h : 2 * q < 2 ^ k) :
    rounded ((2 ^ 53 - 1) * 2 ^ k + q) = (2 ^ 53 - 1) * 2 ^ k := by
  have hpow : (0 : ℚ) < 2 ^ k := by positivity
  have hlow : (2 : ℚ) ^ (52 + k) = 2 ^ 52 * 2 ^ k := zpow_add₀ (by norm_num) 52 k
  have hhigh : (2 : ℚ) ^ (53 + k) = 2 ^ 53 * 2 ^ k := zpow_add₀ (by norm_num) 53 k
  have hpos : 0 < (2 ^ 53 - 1) * 2 ^ k + q := by positivity
  have hgrain : grain ((2 ^ 53 - 1) * 2 ^ k + q) = k := by
    refine le_antisymm (grain_le hpos.ne' hk ?_) (le_grain hpos.ne' ?_)
    · rw [abs_of_pos hpos, hhigh]
      linarith
    · rw [abs_of_pos hpos, hlow]
      linarith
  have hsignificand : significand ((2 ^ 53 - 1) * 2 ^ k + q) = 2 ^ 53 - 1 := by
    refine nearestWhole_eq_of_abs_sub_lt ?_
    have : ((2 ^ 53 - 1) * 2 ^ k + q) / 2 ^ k - ((2 ^ 53 - 1 : ℤ) : ℚ) = q / 2 ^ k := by
      rw [add_div, mul_div_cancel_right₀ _ hpow.ne']
      push_cast
      ring
    rw [hgrain, this, abs_of_nonneg (by positivity), div_lt_iff₀ hpow]
    linarith
  rw [rounded, hsignificand, hgrain]
  norm_cast

/-! ## The least double -/

lemma grain_of_le_least (hpos : 0 < q) (h : q ≤ 2 ^ (-1074 : ℤ)) : grain q = -1074 := by
  have hleast : (0 : ℚ) < 2 ^ (-1074 : ℤ) := by positivity
  refine le_antisymm (grain_le hpos.ne' le_rfl ?_) (grain_ge q)
  rw [abs_of_pos hpos, zpow_add₀ (by norm_num)]
  linarith

/-- A number is rounded to nothing unless it is more than half the least double. -/
theorem rounded_pos_iff (hq : 0 ≤ q) : 0 < rounded q ↔ 2 ^ (-1074 : ℤ) < 2 * q := by
  have hleast : (0 : ℚ) < 2 ^ (-1074 : ℤ) := by positivity
  constructor
  · intro h
    by_contra hcon
    have hsmall : 2 * q ≤ 2 ^ (-1074 : ℤ) := not_lt.1 hcon
    have hne : q ≠ 0 := by
      rintro rfl
      simp at h
    have hhalf : q / 2 ^ grain q ≤ 1 / 2 := by
      rw [grain_of_le_least (hq.lt_of_ne' hne) (by linarith), div_le_iff₀ hleast]
      linarith
    have hzero : significand q ≤ 0 :=
      (nearestWhole_mono hhalf).trans_eq (by norm_num [nearestWhole])
    have hsignificand : significand q = 0 := le_antisymm hzero (significand_nonneg hq)
    rw [rounded, hsignificand] at h
    simp at h
  · intro h
    rcases le_or_gt (2 ^ (-1074 : ℤ)) q with hle | hlt
    · exact hleast.trans_le ((rounded_two_zpow le_rfl).symm.trans_le (rounded_mono hle))
    · have hpos : 0 < q := by linarith
      have hgrain := grain_of_le_least hpos hlt.le
      have hone : significand q = 1 := by
        refine nearestWhole_eq_of_abs_sub_lt ?_
        have hlow : 1 / 2 < q / 2 ^ grain q := by
          rw [hgrain, lt_div_iff₀ hleast]
          linarith
        have hhigh : q / 2 ^ grain q < 1 := by
          rw [hgrain, div_lt_one hleast]
          exact hlt
        rw [Int.cast_one, abs_of_neg (by linarith)]
        linarith
      rw [rounded, hone, Int.cast_one, one_mul]
      positivity

/-! ## The greatest double -/

/-- The greatest double. -/
def greatest : ℚ := (2 ^ 53 - 1) * 2 ^ (971 : ℤ)

/-- The greatest double takes in whatever is less than half its grain. -/
theorem rounded_greatest_add (hq : 0 ≤ q) (h : q < 2 ^ (970 : ℤ)) :
    rounded (greatest + q) = greatest :=
  rounded_add_of_lt (by norm_num) hq <|
    calc 2 * q < 2 * 2 ^ (970 : ℤ) := by linarith
      _ = 2 ^ (971 : ℤ) := (zpow_one_add₀ (by norm_num) 970).symm

end CryoRig.Number
