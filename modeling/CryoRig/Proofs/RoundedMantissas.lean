import CryoRig.Number.Binary64
import CryoRig.Proofs.Rounding
import Mathlib

/-!
# Operations on doubles are rounded

Arithmetic on doubles goes through unpacked numbers: a sign, a mantissa and an exponent. The exact
result is shifted until its exponent is its grain, with two residual bits standing for all the
digits that are shifted out, and rounded by what these say. The outcome is the exact result, rounded
once.

## Main definitions

* `CryoRig.Number.Extends`: what a mantissa with residual bits stands for.
* `CryoRig.Number.IsRounding`: an unpacked number is what a rational number is rounded to.
* `CryoRig.Number.Holds`: an unpacked number is in the form of a double and amounts to a rational
  number.

## Main results

* `CryoRig.Number.isRounding_roundWithAccuracy`: a mantissa and its remainder are rounded as what
  they stand for.
* `CryoRig.Number.Holds.add`, `CryoRig.Number.Holds.sub`, `CryoRig.Number.Holds.mul`,
  `CryoRig.Number.Holds.div`: the four operations are exact up to one rounding.
-/

namespace CryoRig.Number

open Float.Model (Format UnpackedFloat)
open Float.Model.UnpackedFloat (Sign ExtendedMantissa Accuracy shiftToTargetExponent shiftToExponent
  roundWithAccuracy decreaseExponent accuracyOfFraction divCore)

variable {q : ℚ}

/-! ## What numbers amount to -/

/-- A number, or its opposite. -/
def signed (negative : Bool) (q : ℚ) : ℚ := if negative then -q else q

lemma signed_negative (q : ℚ) : signed (Sign.negative == .negative) q = -q := rfl

lemma signed_positive (q : ℚ) : signed (Sign.positive == .negative) q = q := rfl

lemma signed_eq_apply (s : Sign) (m : ℕ) (e : ℤ) :
    signed (s == .negative) (m * 2 ^ e) = s.apply m * 2 ^ e := by
  cases s
  · rw [signed_negative]
    simp [Sign.apply]
  · rw [signed_positive]
    simp [Sign.apply]

@[simp] lemma signed_zero (negative : Bool) : signed negative 0 = 0 := by
  cases negative <;> simp [signed]

lemma rounded_signed (negative : Bool) (q : ℚ) :
    rounded (signed negative q) = signed negative (rounded q) := by
  cases negative
  · rfl
  · exact rounded_neg q

/-- What the exact form of a number amounts to; nothing for what is not finite. -/
def Binary64.value : Binary64 → ℚ
  | .finite negative m e => signed negative (m * 2 ^ e)
  | _ => 0

/-- The exact form of an unpacked number. -/
def formOf : UnpackedFloat → Binary64
  | .notANumber => .notANumber
  | .infinity s => .infinite (s == .negative)
  | .zero s => .finite (s == .negative) 0 (-1074)
  | .finite s m e _ => .finite (s == .negative) m e

/-! ## Mantissas with a remainder -/

/-- The mantissa and what its two residual bits say of the remainder make out `q`. -/
def Extends (em : ExtendedMantissa) (q : ℚ) : Prop :=
  match em.roundBit, em.stickyBit with
  | false, false => q = em.mantissa
  | false, true => em.mantissa < q ∧ q < em.mantissa + 1 / 2
  | true, false => q = em.mantissa + 1 / 2
  | true, true => em.mantissa + 1 / 2 < q ∧ q < em.mantissa + 1

variable {em : ExtendedMantissa}

lemma Extends.bounds (h : Extends em q) : em.mantissa ≤ q ∧ q < em.mantissa + 1 := by
  obtain ⟨m, r, s⟩ := em
  cases r <;> cases s <;> simp only [Extends] at h
  · rw [h]
    constructor <;> linarith
  · constructor <;> linarith [h.1, h.2]
  · rw [h]
    constructor <;> linarith
  · constructor <;> linarith [h.1, h.2]

lemma Extends.roundedMantissa (h : Extends em q) : (em.roundedMantissa : ℤ) = nearestWhole q := by
  have hfloor : ⌊q⌋ = em.mantissa := by
    rw [Int.floor_eq_iff]
    exact_mod_cast h.bounds
  have hfract : Int.fract q = q - em.mantissa := by rw [Int.fract, hfloor, Int.cast_natCast]
  unfold nearestWhole
  rw [hfract, hfloor]
  obtain ⟨m, r, s⟩ := em
  cases r <;> cases s <;> simp only [Extends] at h <;>
    simp only [ExtendedMantissa.roundedMantissa, ExtendedMantissa.accuracy,
      Accuracy.roundToNearestEven]
  · rw [if_pos (by linarith)]
  · rw [if_pos (by linarith [h.2])]
  · rw [if_neg (by linarith), if_neg (by linarith)]
    push_cast
    rfl
  · rw [if_neg (by linarith [h.1]), if_pos (by linarith [h.1])]
    push_cast
    rfl

lemma Extends.shiftRightOne (h : Extends em q) : Extends em.shiftRightOne (q / 2) := by
  obtain ⟨m, r, s⟩ := em
  obtain heven | hodd := Nat.mod_two_eq_zero_or_one m
  · have hm : (m : ℚ) = 2 * (m / 2 : ℕ) := by exact_mod_cast (by omega : m = 2 * (m / 2))
    cases r <;> cases s <;> simp [Extends, ExtendedMantissa.shiftRightOne, heven] at h ⊢ <;> grind
  · have hm : (m : ℚ) = 2 * (m / 2 : ℕ) + 1 := by exact_mod_cast (by omega : m = 2 * (m / 2) + 1)
    cases r <;> cases s <;> simp [Extends, ExtendedMantissa.shiftRightOne, hodd] at h ⊢ <;> grind

lemma Extends.shiftRight (h : Extends em q) (k : ℕ) : Extends (em >>> k) (q / 2 ^ k) := by
  induction k with
  | zero =>
    rw [pow_zero, div_one]
    exact h
  | succ k ih =>
    rw [pow_succ, ← div_div]
    exact ih.shiftRightOne

lemma extends_exact (m : ℕ) : Extends (ExtendedMantissa.ofMantissaAndAccuracy m .exact) m := rfl

/-- A quotient and what is said of its remainder make out the fraction. -/
lemma extends_fraction (a : ℕ) {b : ℕ} (hb : 0 < b) :
    Extends (ExtendedMantissa.ofMantissaAndAccuracy (a / b) (accuracyOfFraction (a % b) b))
      (a / b) := by
  have hb' : (0 : ℚ) < b := by exact_mod_cast hb
  have hlt : ((a % b : ℕ) : ℚ) / b < 1 := by
    rw [div_lt_one hb']
    exact_mod_cast Nat.mod_lt a hb
  have hvalue : (a : ℚ) / b = (a / b : ℕ) + (a % b : ℕ) / b := by
    rw [eq_comm, add_div' _ _ _ hb'.ne', div_left_inj' hb'.ne', mul_comm]
    exact_mod_cast Nat.div_add_mod a b
  rw [hvalue]
  unfold accuracyOfFraction
  split_ifs with hzero
  · rw [hzero, Nat.cast_zero, zero_div, add_zero]
    rfl
  · have hpos : (0 : ℚ) < (a % b : ℕ) / b := by
      have : 0 < a % b := Nat.pos_of_ne_zero hzero
      positivity
    rcases lt_trichotomy (2 * (a % b)) b with h | h | h
    · have hhalf : ((a % b : ℕ) : ℚ) / b < 1 / 2 := by
        rw [div_lt_div_iff₀ hb' (by norm_num)]
        exact_mod_cast (by omega : a % b * 2 < 1 * b)
      rw [Nat.compare_eq_lt.2 h]
      exact ⟨lt_add_of_pos_right _ hpos, add_lt_add_right hhalf _⟩
    · have hhalf : ((a % b : ℕ) : ℚ) / b = 1 / 2 := by
        rw [div_eq_div_iff hb'.ne' (by norm_num)]
        exact_mod_cast (by omega : a % b * 2 = 1 * b)
      rw [Nat.compare_eq_eq.2 h, hhalf]
      rfl
    · have hhalf : 1 / 2 < ((a % b : ℕ) : ℚ) / b := by
        rw [div_lt_div_iff₀ (by norm_num) hb']
        exact_mod_cast (by omega : 1 * b < a % b * 2)
      rw [Nat.compare_eq_gt.2 h]
      exact ⟨add_lt_add_right hhalf _, add_lt_add_right hlt _⟩

/-! ## Rounding -/

/-- The form in which a double holds a number: 53 binary digits, or the finest exponent. -/
structure Normal (m : ℕ) (e : ℤ) : Prop where
  digits : m < 2 ^ 53
  least : -1074 ≤ e
  leading : 2 ^ 52 ≤ m ∨ e = -1074

/-- An unpacked number is what `q` is rounded to, in the form in which a double holds it. -/
def IsRounding (u : UnpackedFloat) (q : ℚ) : Prop :=
  ∃ n m e, formOf u = .finite n m e ∧ Normal m e ∧ (Binary64.finite n m e).value = rounded q

lemma targetExponent_eq (m : ℕ) (e : ℤ) :
    Format.binary64.targetExponent (Float.Model.totalExponent m e) =
      max (m.log2 + e - 52) (-1074) := by
  simp only [Format.targetExponent, Float.Model.totalExponent, Format.mantissaBits,
    Format.minExponent]
  norm_num
  omega

/-- The exponent that a mantissa is shifted to is the grain of what it stands for. -/
lemma targetExponent_eq_grain {m : ℕ} {e : ℤ} (hq : 0 < q) (hlow : m ≤ q) (hhigh : q < m + 1)
    (he : e ≤ Format.binary64.targetExponent (Float.Model.totalExponent m e)) :
    Format.binary64.targetExponent (Float.Model.totalExponent m e) = grain (q * 2 ^ e) := by
  have hpow : (0 : ℚ) < 2 ^ e := by positivity
  have hne : q * 2 ^ e ≠ 0 := (mul_pos hq hpow).ne'
  have habs : |q * 2 ^ e| = q * 2 ^ e := abs_of_pos (mul_pos hq hpow)
  rw [targetExponent_eq] at he ⊢
  refine le_antisymm ?_ ?_
  · rcases Nat.eq_zero_or_pos m with rfl | hm
    · simp only [Nat.log2_zero] at he ⊢
      exact max_le (le_trans (by omega) (grain_ge _)) (grain_ge _)
    · refine max_le (le_grain hne ?_) (grain_ge _)
      rw [habs, show 52 + ((m.log2 : ℤ) + e - 52) = m.log2 + e by ring, zpow_add₀ (by norm_num),
        zpow_natCast]
      refine mul_le_mul_of_nonneg_right (le_trans ?_ hlow) hpow.le
      exact_mod_cast Nat.log2_self_le hm.ne'
  · refine grain_le hne (le_max_right _ _) ?_
    rw [habs]
    calc q * 2 ^ e < 2 ^ (m.log2 + 1) * 2 ^ e := by
          refine mul_lt_mul_of_pos_right (hhigh.trans_le ?_) hpow
          exact_mod_cast Nat.lt_log2_self
      _ = 2 ^ (m.log2 + 1 + e) := by
          rw [zpow_add₀ (by norm_num)]
          norm_cast
      _ ≤ _ := zpow_le_zpow_right₀ (by norm_num) (by omega)


lemma shiftToTargetExponent_eq {m k : ℕ} {e : ℤ} (accuracy : Accuracy)
    (hk : (Format.binary64.targetExponent (Float.Model.totalExponent m e) - e).toNat = k) :
    shiftToTargetExponent Format.binary64 m e accuracy =
      (ExtendedMantissa.ofMantissaAndAccuracy m accuracy >>> k, e + k) := by
  subst hk
  rfl

/-- Nothing is shifted out of a mantissa of 53 digits, and of `2 ^ 53` one digit. -/
lemma normal_shiftToTargetExponent {m : ℕ} {e : ℤ} (hm : m ≤ 2 ^ 53) (he : -1074 ≤ e)
    (hlead : 2 ^ 52 ≤ m ∨ e = -1074) :
    Normal (shiftToTargetExponent Format.binary64 m e .exact).1.mantissa
        (shiftToTargetExponent Format.binary64 m e .exact).2 ∧
      ((shiftToTargetExponent Format.binary64 m e .exact).1.mantissa : ℚ) *
        2 ^ (shiftToTargetExponent Format.binary64 m e .exact).2 = m * 2 ^ e := by
  rcases hm.lt_or_eq with hlt | rfl
  · have hlog : m.log2 ≤ 52 := by
      rcases eq_or_ne m 0 with rfl | hne
      · simp
      · exact Nat.le_of_lt_succ ((Nat.log2_lt hne).2 hlt)
    rw [shiftToTargetExponent_eq (k := 0) _ (by rw [targetExponent_eq]; omega)]
    change Normal m (e + (0 : ℕ)) ∧ (m : ℚ) * 2 ^ (e + (0 : ℕ)) = _
    rw [Nat.cast_zero, add_zero]
    exact ⟨⟨hlt, he, hlead⟩, rfl⟩
  · rw [shiftToTargetExponent_eq (k := 1) _
      (by rw [targetExponent_eq, Nat.log2_two_pow]; omega)]
    change Normal (2 ^ 53 / 2) (e + (1 : ℕ)) ∧ ((2 ^ 53 / 2 : ℕ) : ℚ) * 2 ^ (e + (1 : ℕ)) = _
    refine ⟨⟨by norm_num, by omega, .inl (by norm_num)⟩, ?_⟩
    rw [Nat.cast_one, zpow_add_one₀ (by norm_num)]
    norm_num
    ring

/-- A mantissa and its remainder are rounded as what they stand for. -/
lemma isRounding_roundWithAccuracy {m : ℕ} {e : ℤ} {accuracy : Accuracy} (s : Sign) (hq : 0 < q)
    (h : Extends (ExtendedMantissa.ofMantissaAndAccuracy m accuracy) q)
    (he : e ≤ Format.binary64.targetExponent (Float.Model.totalExponent m e)) :
    IsRounding (roundWithAccuracy Format.binary64 s m e accuracy)
      (signed (s == .negative) (q * 2 ^ e)) := by
  have hmantissa : (ExtendedMantissa.ofMantissaAndAccuracy m accuracy).mantissa = m := by
    cases accuracy with
    | exact => rfl
    | inexact o => cases o <;> rfl
  have hbounds := h.bounds
  rw [hmantissa] at hbounds
  have hgrain := targetExponent_eq_grain hq hbounds.1 hbounds.2 he
  have hpos : 0 < q * 2 ^ e := by positivity
  obtain ⟨k, hk⟩ := Int.eq_ofNat_of_zero_le (sub_nonneg.2 he)
  -- The first shift comes to the grain, and its rounded mantissa is the significand.
  have hexponent : e + k = grain (q * 2 ^ e) := by omega
  have hfirst := shiftToTargetExponent_eq (m := m) (e := e) (k := k) accuracy (by omega)
  generalize hem : ExtendedMantissa.ofMantissaAndAccuracy m accuracy >>> k = em at hfirst
  have hsignificand : (em.roundedMantissa : ℤ) = significand (q * 2 ^ e) := by
    rw [← hem, (h.shiftRight k).roundedMantissa, significand, ← hexponent, zpow_add₀ (by norm_num),
      zpow_natCast, mul_comm ((2 : ℚ) ^ e), mul_div_mul_right _ _ (by positivity)]
  have hle : em.roundedMantissa ≤ 2 ^ 53 := by
    exact_mod_cast hsignificand.trans_le (significand_le _)
  have hleast : -1074 ≤ e + k := hexponent ▸ grain_ge _
  have hlead : 2 ^ 52 ≤ em.roundedMantissa ∨ e + k = -1074 := by
    rcases hleast.lt_or_eq with hlt | heq
    · have := le_significand hpos (hexponent ▸ hlt)
      rw [← hsignificand] at this
      exact .inl (by exact_mod_cast this)
    · exact .inr heq.symm
  -- The second shift makes up for a digit more, and keeps the number.
  obtain ⟨hnormal, hvalue⟩ := normal_shiftToTargetExponent hle hleast hlead
  have hrounded : rounded (q * 2 ^ e) = em.roundedMantissa * 2 ^ (e + k) := by
    rw [rounded, ← hsignificand, hexponent, Int.cast_natCast]
  rw [← hrounded] at hvalue
  unfold roundWithAccuracy
  rw [hfirst]
  dsimp only
  by_cases hzero : (shiftToTargetExponent Format.binary64 em.roundedMantissa (e + k)
      .exact).1.mantissa = 0
  · rw [dif_pos hzero]
    rw [hzero, Nat.cast_zero, zero_mul] at hvalue
    refine ⟨_, _, _, rfl, ⟨by norm_num, le_rfl, .inr rfl⟩, ?_⟩
    rw [rounded_signed, ← hvalue]
    simp [Binary64.value]
  · rw [dif_neg hzero]
    refine ⟨_, _, _, rfl, hnormal, ?_⟩
    rw [rounded_signed, ← hvalue, Binary64.value]


lemma log2_shiftLeft {m : ℕ} (hm : 0 < m) (k : ℕ) : (m <<< k).log2 = m.log2 + k := by
  rw [Nat.shiftLeft_eq, Nat.log2_eq_iff (by positivity)]
  have hlow := Nat.log2_self_le hm.ne'
  have hhigh := Nat.lt_log2_self (n := m)
  rw [pow_add, show m.log2 + k + 1 = m.log2 + 1 + k by ring, pow_add (n := k)]
  exact ⟨Nat.mul_le_mul_right _ hlow, Nat.mul_lt_mul_of_pos_right hhigh (by positivity)⟩

/-- A mantissa is rounded as the number that it makes out. -/
lemma isRounding_round {m : ℕ} (s : Sign) (hm : 0 < m) (e : ℤ) :
    IsRounding (Float.Model.UnpackedFloat.round Format.binary64 s m e)
      (signed (s == .negative) (m * 2 ^ e)) := by
  obtain ⟨k, hk⟩ : ∃ k, k = (e - Format.binary64.targetExponent
      (Float.Model.totalExponent m e)).toNat := ⟨_, rfl⟩
  have hvalue : ((m <<< k : ℕ) : ℚ) * 2 ^ (e - k) = m * 2 ^ e := by
    rw [Nat.shiftLeft_eq, zpow_sub₀ (by norm_num), zpow_natCast]
    push_cast
    field_simp
  have hpos : 0 < m <<< k := by
    rw [Nat.shiftLeft_eq]
    positivity
  have hk' : k = (e - max ((m.log2 : ℤ) + e - 52) (-1074)).toNat := by rw [hk, targetExponent_eq]
  have he : e - k ≤
      Format.binary64.targetExponent (Float.Model.totalExponent (m <<< k) (e - k)) := by
    rw [targetExponent_eq, log2_shiftLeft hm]
    omega
  rw [← hvalue]
  have := isRounding_roundWithAccuracy s (by exact_mod_cast hpos) (extends_exact _) he
  rw [hk] at this ⊢
  exact this

lemma isRounding_zero (s : Sign) : IsRounding (.zero s) 0 :=
  ⟨_, _, _, rfl, ⟨by norm_num, le_rfl, .inr rfl⟩, by simp [Binary64.value]⟩

lemma isRounding_normalize (m e : ℤ) (s : Sign) :
    IsRounding (Float.Model.UnpackedFloat.normalize Format.binary64 m e s) (m * 2 ^ e) := by
  unfold Float.Model.UnpackedFloat.normalize
  rcases lt_trichotomy m 0 with hm | rfl | hm
  · rw [Int.compare_eq_lt.2 hm]
    have h := isRounding_round .negative (m := (-m).toNat) (by omega) e
    have hcast : (((-m).toNat : ℕ) : ℚ) = -m := by
      exact_mod_cast (by omega : ((-m).toNat : ℤ) = -m)
    rwa [hcast, signed_negative, neg_mul, neg_neg] at h
  · rw [Int.cast_zero, zero_mul]
    exact isRounding_zero s
  · rw [Int.compare_eq_gt.2 hm]
    have h := isRounding_round .positive (m := m.toNat) (by omega) e
    have hcast : ((m.toNat : ℕ) : ℚ) = m := by exact_mod_cast (by omega : (m.toNat : ℤ) = m)
    rwa [hcast, signed_positive] at h

/-! ## Numbers in the form of a double -/

/-- An unpacked number is held as a double is, and amounts to `q`. -/
def Holds (u : UnpackedFloat) (q : ℚ) : Prop :=
  (∃ s, u = .zero s ∧ q = 0) ∨
    ∃ s m e hm, u = .finite s m e hm ∧ Normal m e ∧ q = s.apply m * 2 ^ e

/-- What is held is rounded to itself. -/
lemma Holds.isRounding {u : UnpackedFloat} (h : Holds u q) : IsRounding u q := by
  rcases h with ⟨s, rfl, rfl⟩ | ⟨s, m, e, hm, rfl, hnormal, rfl⟩
  · exact isRounding_zero s
  · refine ⟨_, _, _, rfl, hnormal, ?_⟩
    rw [rounded_dyadic ?_ hnormal.least, ← signed_eq_apply]
    · rfl
    · have hdigits : (m : ℤ) < 2 ^ 53 := by exact_mod_cast hnormal.digits
      cases s <;> simpa [Sign.apply] using hdigits


/-! ## The four operations -/

variable {u v : UnpackedFloat} {x y : ℚ}

lemma apply_decreaseExponent (s : Sign) (m : ℕ) {e t : ℤ} (h : t ≤ e) :
    ((s.apply (decreaseExponent m e t).1 : ℤ) : ℚ) * 2 ^ t = s.apply m * 2 ^ e := by
  have hvalue : (((decreaseExponent m e t).1 : ℕ) : ℚ) * 2 ^ t = m * 2 ^ e := by
    obtain ⟨k, rfl⟩ := Int.le.dest h
    simp only [decreaseExponent, add_sub_cancel_left, Int.toNat_natCast, Nat.shiftLeft_eq]
    rw [zpow_add₀ (by norm_num), zpow_natCast]
    push_cast
    ring
  cases s
  · simp only [Sign.apply, Int.cast_neg, Int.cast_natCast, neg_mul, hvalue]
  · simp only [Sign.apply, Int.cast_natCast, hvalue]

lemma Holds.add (hu : Holds u x) (hv : Holds v y) :
    IsRounding (.add Format.binary64 u v) (x + y) := by
  rcases hu with ⟨s, rfl, rfl⟩ | ⟨s, m, e, hm, rfl, hnormal, rfl⟩ <;>
    rcases hv with ⟨s', rfl, rfl⟩ | ⟨s', m', e', hm', rfl, hnormal', rfl⟩
  · rw [add_zero, Float.Model.UnpackedFloat.add]
    split_ifs
    · exact isRounding_zero s
    · exact isRounding_zero .positive
  · rw [zero_add]
    exact Holds.isRounding (.inr ⟨s', m', e', hm', rfl, hnormal', rfl⟩)
  · rw [add_zero]
    exact Holds.isRounding (.inr ⟨s, m, e, hm, rfl, hnormal, rfl⟩)
  · have h := isRounding_normalize
      (s.apply (decreaseExponent m e (min e e')).1 + s'.apply (decreaseExponent m' e' (min e e')).1)
      (min e e') .positive
    rwa [Int.cast_add, add_mul, apply_decreaseExponent s m (min_le_left e e'),
      apply_decreaseExponent s' m' (min_le_right e e')] at h

lemma apply_neg (s : Sign) (m : ℤ) : (-s).apply m = -s.apply m := by
  cases s
  · exact (neg_neg m).symm
  · rfl

lemma Holds.neg (hv : Holds v y) : Holds v.neg (-y) := by
  rcases hv with ⟨s, rfl, rfl⟩ | ⟨s, m, e, hm, rfl, hnormal, rfl⟩
  · exact .inl ⟨-s, rfl, neg_zero⟩
  · refine .inr ⟨-s, m, e, hm, rfl, hnormal, ?_⟩
    rw [apply_neg]
    push_cast
    ring

lemma Holds.sub (hu : Holds u x) (hv : Holds v y) :
    IsRounding (.sub Format.binary64 u v) (x - y) := by
  have : UnpackedFloat.sub Format.binary64 u v = .add Format.binary64 u v.neg := by
    rcases hu with ⟨s, rfl, rfl⟩ | ⟨s, m, e, hm, rfl, -, rfl⟩ <;>
      rcases hv with ⟨s', rfl, rfl⟩ | ⟨s', m', e', hm', rfl, -, rfl⟩
    · rfl
    · rfl
    · rfl
    · simp only [Float.Model.UnpackedFloat.sub, Float.Model.UnpackedFloat.add,
        Float.Model.UnpackedFloat.neg, apply_neg, sub_eq_add_neg]
  rw [this, sub_eq_add_neg]
  exact hu.add hv.neg

lemma signed_mul (s s' : Sign) (q r : ℚ) : signed (s * s' == .negative) (q * r) =
    signed (s == .negative) q * signed (s' == .negative) r := by
  cases s <;> cases s'
  · exact (neg_mul_neg q r).symm
  · exact (neg_mul q r).symm
  · exact (mul_neg q r).symm
  · rfl

/-- Two normal numbers have enough digits for their product. -/
lemma Normal.mul_le_targetExponent {m m' : ℕ} {e e' : ℤ} (h : Normal m e) (h' : Normal m' e')
    (hm : 0 < m) (hm' : 0 < m') :
    e + e' ≤ Format.binary64.targetExponent (Float.Model.totalExponent (m * m') (e + e')) := by
  have hpos : 0 < m * m' := Nat.mul_pos hm hm'
  rw [targetExponent_eq]
  by_cases hlog : 52 ≤ (m * m').log2
  · omega
  · have hlt : m * m' < 2 ^ 52 := (Nat.log2_lt hpos.ne').1 (not_le.1 hlog)
    have he := h.leading.resolve_left fun hm52 =>
      absurd hlt (not_lt.2 (hm52.trans (Nat.le_mul_of_pos_right m hm')))
    have he' := h'.leading.resolve_left fun hm52 =>
      absurd hlt (not_lt.2 (hm52.trans (Nat.le_mul_of_pos_left m' hm)))
    omega

lemma Holds.mul (hu : Holds u x) (hv : Holds v y) :
    IsRounding (.mul Format.binary64 u v) (x * y) := by
  rcases hu with ⟨s, rfl, rfl⟩ | ⟨s, m, e, hm, rfl, hnormal, rfl⟩ <;>
    rcases hv with ⟨s', rfl, rfl⟩ | ⟨s', m', e', hm', rfl, hnormal', rfl⟩
  · rw [mul_zero]
    exact isRounding_zero (s * s')
  · rw [zero_mul]
    exact isRounding_zero (s * s')
  · rw [mul_zero]
    exact isRounding_zero (s * s')
  · have h := isRounding_roundWithAccuracy (s * s') (by exact_mod_cast Nat.mul_pos hm hm')
      (extends_exact (m * m')) (hnormal.mul_le_targetExponent hnormal' hm hm')
    have hvalue : ((m * m' : ℕ) : ℚ) * 2 ^ (e + e') = m * 2 ^ e * (m' * 2 ^ e') := by
      rw [zpow_add₀ (by norm_num)]
      push_cast
      ring
    rwa [hvalue, signed_mul, signed_eq_apply, signed_eq_apply] at h


lemma signed_div (s s' : Sign) (q r : ℚ) : signed (s / s' == .negative) (q / r) =
    signed (s == .negative) q / signed (s' == .negative) r := by
  cases s <;> cases s'
  · exact (neg_div_neg_eq q r).symm
  · exact (neg_div r q).symm
  · exact (div_neg q).symm
  · rfl

/-- A quotient is computed with enough digits. -/
lemma le_targetExponent_of_div {m m' k : ℕ} {e e' t : ℤ} (hm : 0 < m) (hm' : 0 < m')
    (hk : t + k = e - e') (ht : t ≤ max ((m.log2 : ℤ) - m'.log2 + (e - e') - 53) (-1074)) :
    t ≤ Format.binary64.targetExponent (Float.Model.totalExponent (m <<< k / m') t) := by
  rw [targetExponent_eq]
  by_cases hleast : t ≤ -1074
  · omega
  · have hlog : 53 + m'.log2 ≤ (m <<< k).log2 := by
      rw [log2_shiftLeft hm]
      omega
    have hpos : 0 < m <<< k := by
      rw [Nat.shiftLeft_eq]
      positivity
    have hquotient : 2 ^ 52 ≤ m <<< k / m' := by
      rw [Nat.le_div_iff_mul_le hm']
      calc 2 ^ 52 * m' ≤ 2 ^ 52 * 2 ^ (m'.log2 + 1) :=
            Nat.mul_le_mul_left _ Nat.lt_log2_self.le
        _ = 2 ^ (53 + m'.log2) := by
            rw [← pow_add]
            congr 1
            omega
        _ ≤ m <<< k := (Nat.le_log2 hpos.ne').1 hlog
    have := (Nat.le_log2 (by omega)).2 hquotient
    omega

lemma Holds.div (hu : Holds u x) (hv : Holds v y) (hy : y ≠ 0) :
    IsRounding (.div Format.binary64 u v) (x / y) := by
  rcases hv with ⟨s', rfl, rfl⟩ | ⟨s', m', e', hm', rfl, hnormal', rfl⟩
  · exact absurd rfl hy
  rcases hu with ⟨s, rfl, rfl⟩ | ⟨s, m, e, hm, rfl, hnormal, rfl⟩
  · rw [zero_div]
    exact isRounding_zero (s / s')
  · obtain ⟨t, ht⟩ : ∃ t, t = min (e - e') (Format.binary64.targetExponent
        (Float.Model.totalExponent m e - Float.Model.totalExponent m' e')) := ⟨_, rfl⟩
    obtain ⟨k, hk⟩ := Int.eq_ofNat_of_zero_le (sub_nonneg.2 (ht.trans_le (min_le_left _ _)))
    have hcore : divCore Format.binary64 m e m' e' =
        (m <<< k / m', t, accuracyOfFraction (m <<< k % m') m') := by
      simp only [divCore, ← ht, hk, Int.toNat_natCast]
    have hle : t ≤ max ((m.log2 : ℤ) - m'.log2 + (e - e') - 53) (-1074) := by
      have := ht.trans_le (min_le_right _ _)
      simp only [Format.targetExponent, Float.Model.totalExponent, Format.mantissaBits,
        Format.minExponent] at this
      norm_num at this
      omega
    have hpos : (0 : ℚ) < ((m <<< k : ℕ) : ℚ) / m' := by
      rw [Nat.shiftLeft_eq]
      positivity
    have h := isRounding_roundWithAccuracy (s / s') hpos (extends_fraction _ hm')
      (le_targetExponent_of_div hm hm' (by omega) hle)
    have hvalue : ((m <<< k : ℕ) : ℚ) / m' * 2 ^ t = m * 2 ^ e / (m' * 2 ^ e') := by
      rw [show e = t + k + e' by omega, zpow_add₀ (by norm_num), zpow_add₀ (by norm_num),
        zpow_natCast, Nat.shiftLeft_eq]
      push_cast
      field_simp
    rw [hvalue, signed_div, signed_eq_apply, signed_eq_apply] at h
    simp only [Float.Model.UnpackedFloat.div, hcore]
    exact h


end CryoRig.Number
