import CryoRig.Proofs.DoubleArithmetic

/-!
# The range of doubles

Which operations on doubles have finite results, and which results are not below zero, infinities
included.

## Main definitions

* `CryoRig.Number.AtMost`: a double is finite and at most a power of two in size.

## Main results

* `CryoRig.Number.Rounds.isFinite_iff`: a result is finite if it is within the range once rounded.
* `CryoRig.Number.nonneg_iff`, `CryoRig.Number.pos_iff`: a double is compared with zero as the
  number that it amounts to.
* `CryoRig.Number.nonneg_add`, `CryoRig.Number.nonneg_mul`, `CryoRig.Number.nonneg_div`: operations
  on numbers that are not negative do not come to less than zero, or to no number, even where they
  overflow.
* `CryoRig.Number.AtMost.add`, `CryoRig.Number.AtMost.mul` and so on: how large results may be.
* `CryoRig.Number.isFinite_of_add`, `CryoRig.Number.isFinite_of_mul`: a sum or product is finite
  only if its operands are.
* `CryoRig.Number.ne_zero_of_div`: nothing divided by zero is finite.
* `CryoRig.Number.isFinite_sum`: sums of any length stay finite if no summand reaches half the grain
  of the greatest double.
-/

namespace CryoRig.Number

open Float.Model (Format UnpackedFloat)
open Float.Model.UnpackedFloat (Sign)

variable {a b x : Float} {q r : ℚ}

/-! ## Finite results -/

lemma Rounds.isFinite_iff (h : Rounds x q) : x.isFinite ↔ |rounded q| < 2 ^ (1024 : ℤ) := by
  unfold Rounds at h
  split_ifs at h with hlt
  · exact iff_of_true h.1 hlt
  · refine iff_of_false (fun hfinite => ?_) hlt
    obtain ⟨n, m, e, hform⟩ := Number.isFinite_iff.1 hfinite
    rw [hform] at h
    cases h

lemma Rounds.value_eq (h : Rounds x q) (hx : x.isFinite) : value x = rounded q := by
  have hlt := h.isFinite_iff.1 hx
  rw [Rounds, if_pos hlt] at h
  exact h.2

/-- A result is finite if the exact one is at most a double in size before it is rounded. -/
lemma Rounds.of_abs_le (h : Rounds x q) (hr : rounded r = r) (hrange : r < 2 ^ (1024 : ℤ))
    (hq : |q| ≤ r) : x.isFinite ∧ |value x| ≤ r := by
  have hle := abs_rounded_le hr hq
  have hfinite := h.isFinite_iff.2 (hle.trans_lt hrange)
  exact ⟨hfinite, (h.value_eq hfinite).symm ▸ hle⟩

lemma of_ofFloat_eq {m : ℕ} {e : ℤ} (h : Binary64.ofFloat x = .finite false m e) :
    x.isFinite ∧ value x = m * 2 ^ e :=
  ⟨isFinite_iff.2 ⟨_, _, _, h⟩, by simp [value, h, Binary64.value, signed]⟩

/-! ## Doubles and zero -/

lemma unpack_zero : (0 : Float).toModel.unpack = .zero .positive := rfl

@[simp] lemma negative_beq_negative : (Sign.negative == Sign.negative) = true := rfl

@[simp] lemma positive_beq_negative : (Sign.positive == Sign.negative) = false := rfl

/-- A double is compared with zero as the number that it amounts to. -/
lemma compare_zero (x : Float) : (UnpackedFloat.zero .positive).compare x.toModel.unpack =
    match Binary64.ofFloat x with
    | .notANumber => none
    | .infinite n => some (if n then .gt else .lt)
    | .finite .. => some (compare 0 (value x)) := by
  rw [value, ofFloat_eq_formOf]
  cases x.toModel.unpack with
  | notANumber => rfl
  | infinity s => cases s <;> rfl
  | zero s => simp [UnpackedFloat.compare, formOf, Binary64.value]
  | finite s m e hm =>
    have hpos : (0 : ℚ) < m * 2 ^ e := by positivity
    cases s
    · simpa [UnpackedFloat.compare, formOf, Binary64.value, signed] using
        (compare_gt_iff_gt.2 (neg_neg_of_pos hpos)).symm
    · simpa [UnpackedFloat.compare, formOf, Binary64.value, signed] using
        (compare_lt_iff_lt.2 hpos).symm

lemma nonneg_iff : 0 ≤ x ↔ Binary64.ofFloat x = .infinite false ∨ x.isFinite ∧ 0 ≤ value x := by
  have hle : 0 ≤ x ↔ ((UnpackedFloat.zero .positive).compare x.toModel.unpack).any (·.isLE) := by
    rw [← unpack_zero]
    exact decide_eq_true_iff
  rw [hle, compare_zero, isFinite_iff]
  cases Binary64.ofFloat x with
  | notANumber => simp
  | infinite n => cases n <;> simp
  | finite n m e => simp [Ordering.isLE_iff_ne_gt, compare_le_iff_le]

lemma pos_iff : 0 < x ↔ Binary64.ofFloat x = .infinite false ∨ x.isFinite ∧ 0 < value x := by
  have hlt : 0 < x ↔
      ((UnpackedFloat.zero .positive).compare x.toModel.unpack == some .lt) = true := by
    rw [← unpack_zero]
    exact decide_eq_true_iff
  rw [hlt, compare_zero, isFinite_iff]
  cases Binary64.ofFloat x with
  | notANumber => simp
  | infinite n => cases n <;> simp
  | finite n m e => simp [compare_lt_iff_lt]

lemma ofFloat_ne_infinite {n : Bool} (hx : x.isFinite) : Binary64.ofFloat x ≠ .infinite n := by
  obtain ⟨_, _, _, hform⟩ := isFinite_iff.1 hx
  rw [hform]
  exact Binary64.noConfusion

lemma nonneg_iff_of_isFinite (hx : x.isFinite) : 0 ≤ x ↔ 0 ≤ value x := by
  simp [nonneg_iff, ofFloat_ne_infinite hx, hx]

lemma pos_iff_of_isFinite (hx : x.isFinite) : 0 < x ↔ 0 < value x := by
  simp [pos_iff, ofFloat_ne_infinite hx, hx]

/-! ## Infinities -/

lemma unpack_of_infinite {n : Bool} (h : Binary64.ofFloat x = .infinite n) :
    x.toModel.unpack = .infinity (if n then .negative else .positive) := by
  rw [ofFloat_eq_formOf] at h
  cases hu : x.toModel.unpack with
  | infinity s =>
    rw [hu] at h
    cases h
    cases s <;> rfl
  | _ =>
    rw [hu] at h
    cases h

lemma ofFloat_pack_infinity (s : Sign) :
    Binary64.ofFloat ⟨Float.Model.pack (.infinity s)⟩ = .infinite (s == .negative) :=
  ofBits_packComponents s (-1#11) 0

lemma ofFloat_pack_notANumber :
    Binary64.ofFloat ⟨Float.Model.pack .notANumber⟩ = .notANumber :=
  ofBits_packComponents .positive (-1#11) (1#52 <<< 51)

lemma Rounds.nonneg (h : Rounds x q) (hq : 0 ≤ q) : 0 ≤ x := by
  rw [nonneg_iff]
  by_cases hx : x.isFinite
  · exact .inr ⟨hx, (h.value_eq hx).symm ▸ rounded_nonneg hq⟩
  · have hlarge := mt h.isFinite_iff.2 hx
    rw [Rounds, if_neg hlarge, decide_eq_false (not_lt.2 hq)] at h
    exact .inl h

/-- An operation that comes to the infinity above zero. -/
lemma nonneg_of_unpacked {u : UnpackedFloat} (h : u = .infinity .positive) :
    0 ≤ Float.ofModel (Float.Model.pack u) := by
  rw [nonneg_iff, h]
  exact .inl (ofFloat_pack_infinity .positive)

theorem nonneg_add (ha : 0 ≤ a) (hb : 0 ≤ b) : 0 ≤ a + b := by
  rcases nonneg_iff.1 ha with ha | ⟨ha, hva⟩ <;> rcases nonneg_iff.1 hb with hb | ⟨hb, hvb⟩
  · refine nonneg_of_unpacked ?_
    rw [unpack_of_infinite ha, unpack_of_infinite hb]
    rfl
  · refine nonneg_of_unpacked ?_
    rw [unpack_of_infinite ha]
    rcases holds_of_isFinite hb with ⟨s, hu, -⟩ | ⟨s, m, e, hm, hu, -⟩ <;> rw [hu] <;> rfl
  · refine nonneg_of_unpacked ?_
    rw [unpack_of_infinite hb]
    rcases holds_of_isFinite ha with ⟨s, hu, -⟩ | ⟨s, m, e, hm, hu, -⟩ <;> rw [hu] <;> rfl
  · exact (rounds_add ha hb).nonneg (add_nonneg hva hvb)

lemma unpack_of_pos (hb : b.isFinite) (hpos : 0 < value b) :
    ∃ m e hm, b.toModel.unpack = .finite .positive m e hm := by
  rcases holds_of_isFinite hb with ⟨s, hu, hzero⟩ | ⟨s, m, e, hm, hu, -, hvalue⟩
  · exact absurd hpos (hzero ▸ lt_irrefl _)
  · cases s
    · rw [hvalue, ← signed_eq_apply] at hpos
      have : (0 : ℚ) < m * 2 ^ e := by positivity
      simp [signed] at hpos
      linarith
    · exact ⟨m, e, hm, hu⟩

theorem nonneg_mul (ha : 0 ≤ a) (hb : b.isFinite) (hpos : 0 < value b) : 0 ≤ a * b := by
  rcases nonneg_iff.1 ha with ha | ⟨ha, hva⟩
  · refine nonneg_of_unpacked ?_
    obtain ⟨m, e, hm, hu⟩ := unpack_of_pos hb hpos
    rw [unpack_of_infinite ha, hu]
    rfl
  · exact (rounds_mul ha hb).nonneg (mul_nonneg hva hpos.le)

theorem nonneg_mul_left (ha : a.isFinite) (hpos : 0 < value a) (hb : 0 ≤ b) : 0 ≤ a * b := by
  rcases nonneg_iff.1 hb with hb | ⟨hb, hvb⟩
  · refine nonneg_of_unpacked ?_
    obtain ⟨m, e, hm, hu⟩ := unpack_of_pos ha hpos
    rw [unpack_of_infinite hb, hu]
    rfl
  · exact (rounds_mul ha hb).nonneg (mul_nonneg hpos.le hvb)

theorem nonneg_div (ha : 0 ≤ a) (hb : b.isFinite) (hpos : 0 < value b) : 0 ≤ a / b := by
  rcases nonneg_iff.1 ha with ha | ⟨ha, hva⟩
  · refine nonneg_of_unpacked ?_
    obtain ⟨m, e, hm, hu⟩ := unpack_of_pos hb hpos
    rw [unpack_of_infinite ha, hu]
    rfl
  · exact (rounds_div ha hb hpos.ne').nonneg (div_nonneg hva hpos.le)

lemma Holds.abs {u : UnpackedFloat} (h : Holds u q) : Holds u.abs |q| := by
  rcases h with ⟨s, rfl, rfl⟩ | ⟨s, m, e, hm, rfl, hnormal, rfl⟩
  · exact .inl ⟨.positive, rfl, abs_zero⟩
  · refine .inr ⟨.positive, m, e, hm, rfl, hnormal, ?_⟩
    have hpow : (0 : ℚ) < 2 ^ e := by positivity
    rw [abs_mul, abs_of_pos hpow]
    cases s <;> simp [Sign.apply]

lemma rounded_value (h : x.isFinite) : rounded (value x) = value x := by
  rcases holds_of_isFinite h with ⟨s, -, hv⟩ | ⟨s, m, e, hm, -, hnormal, hv⟩
  · rw [hv, rounded_zero]
  · rw [hv]
    refine rounded_dyadic ?_ hnormal.least
    have : (m : ℤ) < 2 ^ 53 := by exact_mod_cast hnormal.digits
    cases s <;> simpa [Sign.apply] using this

lemma abs_value_lt (h : x.isFinite) : |value x| < 2 ^ (1024 : ℤ) := by
  rcases holds_of_isFinite h with ⟨s, -, hv⟩ | ⟨s, m, e, hm, hu, hnormal, hv⟩
  · rw [hv, abs_zero]
    positivity
  · rw [hv, ← signed_eq_apply]
    have hlt := (value_lt_of_normal hnormal).2 (normal_of_unpack hu).2
    have hpos : (0 : ℚ) < m * 2 ^ e := by positivity
    cases s
    · rwa [signed_negative, abs_neg, abs_of_pos hpos]
    · rwa [signed_positive, abs_of_pos hpos]

/-- The size of a finite double is exact. -/
lemma abs_of_isFinite (h : x.isFinite) : x.abs.isFinite ∧ value x.abs = |value x| := by
  have hrounds : Rounds x.abs |value x| := (holds_of_isFinite h).abs.isRounding.rounds
  have hself : rounded |value x| = |value x| := by rw [← abs_rounded, rounded_value h]
  have hfinite : x.abs.isFinite := by
    rw [hrounds.isFinite_iff, hself, abs_abs]
    exact abs_value_lt h
  exact ⟨hfinite, (hrounds.value_eq hfinite).trans hself⟩

lemma nonneg_abs (h : Rounds x q) : 0 ≤ x.abs := by
  by_cases hx : x.isFinite
  · obtain ⟨hfinite, hvalue⟩ := abs_of_isFinite hx
    exact nonneg_iff.2 (.inr ⟨hfinite, hvalue ▸ abs_nonneg _⟩)
  · have hlarge := mt h.isFinite_iff.2 hx
    rw [Rounds, if_neg hlarge] at h
    refine nonneg_of_unpacked ?_
    rw [unpack_of_infinite h]
    rfl

/-! ## Sizes -/

section AtMost

variable {i j : ℤ}

/-- A double is finite and at most a power of two in size. -/
structure AtMost (x : Float) (i : ℤ) : Prop where
  /-- It is finite. -/
  isFinite : x.isFinite
  /-- It is at most that in size. -/
  le : |value x| ≤ 2 ^ i

lemma Rounds.atMost (h : Rounds x q) (hlow : -1074 ≤ i) (hhigh : i < 1024) (hq : |q| ≤ 2 ^ i) :
    AtMost x i := by
  obtain ⟨hfinite, hle⟩ := h.of_abs_le (rounded_two_zpow hlow)
    (zpow_lt_zpow_right₀ (by norm_num) hhigh) hq
  exact ⟨hfinite, hle⟩

/-- Whole numbers that are not too great are finite as doubles. -/
lemma atMost_ofNat {n : ℕ} (h : n ≤ 2 ^ 128) : AtMost (Float.ofNat n) 128 := by
  refine (rounds_ofNat n).atMost (by norm_num) (by norm_num) ?_
  rw [Nat.abs_cast]
  exact_mod_cast h

lemma AtMost.add (ha : AtMost a i) (hb : AtMost b i) (hlow : -1074 ≤ i) (hhigh : i < 1023) :
    AtMost (a + b) (i + 1) := by
  refine (rounds_add ha.isFinite hb.isFinite).atMost (by omega) (by omega) ?_
  rw [zpow_add_one₀ (by norm_num), mul_two]
  exact (abs_add_le _ _).trans (add_le_add ha.le hb.le)

lemma AtMost.sub (ha : AtMost a i) (hb : AtMost b i) (hlow : -1074 ≤ i) (hhigh : i < 1023) :
    AtMost (a - b) (i + 1) := by
  refine (rounds_sub ha.isFinite hb.isFinite).atMost (by omega) (by omega) ?_
  rw [zpow_add_one₀ (by norm_num), mul_two]
  exact (abs_sub _ _).trans (add_le_add ha.le hb.le)

lemma AtMost.mul (ha : AtMost a i) (hb : AtMost b j) (hlow : -1074 ≤ i + j)
    (hhigh : i + j < 1024) : AtMost (a * b) (i + j) := by
  refine (rounds_mul ha.isFinite hb.isFinite).atMost hlow hhigh ?_
  rw [abs_mul, zpow_add₀ (by norm_num)]
  exact mul_le_mul ha.le hb.le (abs_nonneg _) (by positivity)

lemma AtMost.div (ha : AtMost a i) (hb : b.isFinite) (hle : 2 ^ j ≤ value b)
    (hlow : -1074 ≤ i - j) (hhigh : i - j < 1024) : AtMost (a / b) (i - j) := by
  have hpow : (0 : ℚ) < 2 ^ j := by positivity
  have hpos : 0 < value b := hpow.trans_le hle
  refine (rounds_div ha.isFinite hb hpos.ne').atMost hlow hhigh ?_
  rw [abs_div, abs_of_pos hpos, zpow_sub₀ (by norm_num)]
  exact div_le_div₀ (by positivity) ha.le hpow hle

lemma AtMost.abs (ha : AtMost a i) : AtMost a.abs i := by
  obtain ⟨hfinite, hvalue⟩ := abs_of_isFinite ha.isFinite
  exact ⟨hfinite, by rw [hvalue, abs_abs]; exact ha.le⟩

end AtMost

/-! ## Operands of finite results -/

/-- What is packed as a finite double is finite before. -/
lemma isFinite_of_pack {u : UnpackedFloat}
    (h : (Float.ofModel (Float.Model.pack u)).isFinite) : u.isFinite := by
  obtain ⟨n, m, e, hform⟩ := isFinite_iff.1 h
  cases u with
  | notANumber => cases ofFloat_pack_notANumber.symm.trans hform
  | infinity s => cases (ofFloat_pack_infinity s).symm.trans hform
  | zero s => rfl
  | finite s m e hm => rfl

theorem isFinite_of_add (h : (a + b).isFinite) : a.isFinite ∧ b.isFinite := by
  have hsum : (UnpackedFloat.add Format.binary64 a.toModel.unpack b.toModel.unpack).isFinite :=
    isFinite_of_pack h
  change a.toModel.unpack.isFinite ∧ b.toModel.unpack.isFinite
  generalize a.toModel.unpack = u at hsum ⊢
  generalize b.toModel.unpack = v at hsum ⊢
  cases u <;> cases v <;> first
    | exact ⟨rfl, rfl⟩
    | cases hsum
    | (simp only [UnpackedFloat.add] at hsum; split at hsum <;> cases hsum)

theorem isFinite_of_mul (h : (a * b).isFinite) : a.isFinite ∧ b.isFinite := by
  have hproduct : (UnpackedFloat.mul Format.binary64 a.toModel.unpack b.toModel.unpack).isFinite :=
    isFinite_of_pack h
  change a.toModel.unpack.isFinite ∧ b.toModel.unpack.isFinite
  generalize a.toModel.unpack = u at hproduct ⊢
  generalize b.toModel.unpack = v at hproduct ⊢
  cases u <;> cases v <;> first
    | exact ⟨rfl, rfl⟩
    | cases hproduct

/-- A quotient is finite only if it is not by zero. -/
theorem ne_zero_of_div (hb : b.isFinite) (h : (a / b).isFinite) : value b ≠ 0 := by
  intro hzero
  have hquotient :
      (UnpackedFloat.div Format.binary64 a.toModel.unpack b.toModel.unpack).isFinite :=
    isFinite_of_pack h
  obtain ⟨s, hb, -⟩ | ⟨s, m, e, hm, -, -, hvalue⟩ := holds_of_isFinite hb
  · rw [hb] at hquotient
    cases ha : a.toModel.unpack <;> rw [ha] at hquotient <;> cases hquotient
  · have hpos : (0 : ℚ) < m * 2 ^ e := by positivity
    rw [hzero, ← signed_eq_apply] at hvalue
    cases s
    · rw [signed_negative] at hvalue
      linarith
    · rw [signed_positive] at hvalue
      linarith

/-! ## Sums -/

lemma value_le_greatest (h : x.isFinite) : value x ≤ greatest := by
  rcases holds_of_isFinite h with ⟨s, -, hv⟩ | ⟨s, m, e, hm, hu, hnormal, hv⟩
  · rw [hv, greatest]
    positivity
  · have hdigits : (m : ℚ) ≤ 2 ^ 53 - 1 := by
      have : m + 1 ≤ 2 ^ 53 := hnormal.digits
      have : (m : ℚ) + 1 ≤ 2 ^ 53 := by exact_mod_cast this
      linarith
    have hpow : (2 : ℚ) ^ e ≤ 2 ^ (971 : ℤ) :=
      zpow_le_zpow_right₀ (by norm_num) (normal_of_unpack hu).2
    have hpos : (0 : ℚ) < m * 2 ^ e := by positivity
    have hle : (m : ℚ) * 2 ^ e ≤ greatest :=
      mul_le_mul hdigits hpow (by positivity) (by norm_num)
    rw [hv, ← signed_eq_apply]
    cases s
    · rw [signed_negative]
      linarith
    · rwa [signed_positive]

/-- A number that is less than half the grain of the greatest double can be added to any. -/
lemma isFinite_add_of_lt (ha : a.isFinite) (hva : 0 ≤ value a) (hb : b.isFinite)
    (hvb : 0 ≤ value b) (hlt : value b < 2 ^ (970 : ℤ)) :
    (a + b).isFinite ∧ 0 ≤ value (a + b) := by
  have hsum := rounds_add ha hb
  have hnonneg := rounded_nonneg (add_nonneg hva hvb)
  have hle : rounded (value a + value b) ≤ greatest := by
    rw [← rounded_greatest_add hvb hlt]
    exact rounded_mono (add_le_add_left (value_le_greatest ha) _)
  have hgreatest : greatest < 2 ^ (1024 : ℤ) := by
    rw [show (1024 : ℤ) = 53 + 971 by norm_num, zpow_add₀ (by norm_num), greatest]
    exact mul_lt_mul_of_pos_right (by norm_num) (by positivity)
  have hfinite : (a + b).isFinite := by
    rw [hsum.isFinite_iff, abs_of_nonneg hnonneg]
    exact hle.trans_lt hgreatest
  exact ⟨hfinite, hsum.value_eq hfinite ▸ hnonneg⟩

variable {xs : List Float}

/-- Sums of any length stay finite if no summand reaches half the grain of the greatest double. -/
theorem isFinite_sum (h : ∀ x ∈ xs, x.isFinite ∧ 0 ≤ value x ∧ value x < 2 ^ (970 : ℤ))
    (ha : a.isFinite) (hva : 0 ≤ value a) : (xs.foldl (· + ·) a).isFinite := by
  induction xs generalizing a with
  | nil => exact ha
  | cons x xs ih =>
    obtain ⟨⟨hx, hvx, hlt⟩, h⟩ := List.forall_mem_cons.1 h
    obtain ⟨hfinite, hnonneg⟩ := isFinite_add_of_lt ha hva hx hvx hlt
    exact ih h hfinite hnonneg

/-- A sum is finite only if all that it is made of is. -/
theorem isFinite_of_sum (h : (xs.foldl (· + ·) a).isFinite) :
    a.isFinite ∧ ∀ x ∈ xs, x.isFinite := by
  induction xs generalizing a with
  | nil => exact ⟨h, List.forall_mem_nil _⟩
  | cons x xs ih =>
    obtain ⟨hsum, hxs⟩ := ih h
    obtain ⟨ha, hx⟩ := isFinite_of_add hsum
    exact ⟨ha, List.forall_mem_cons.2 ⟨hx, hxs⟩⟩

theorem nonneg_sum (h : ∀ x ∈ xs, 0 ≤ x) (ha : 0 ≤ a) : 0 ≤ xs.foldl (· + ·) a := by
  induction xs generalizing a with
  | nil => exact ha
  | cons x xs ih =>
    obtain ⟨hx, h⟩ := List.forall_mem_cons.1 h
    exact ih h (nonneg_add ha hx)

/-! ## Scaling -/

/-- Every finite double is a whole multiple of the least. -/
lemma exists_value_eq (h : x.isFinite) : ∃ k : ℤ, value x = k * 2 ^ (-1074 : ℤ) := by
  rcases holds_of_isFinite h with ⟨s, -, hv⟩ | ⟨s, m, e, hm, -, hnormal, hv⟩
  · exact ⟨0, by rw [hv]; simp⟩
  · obtain ⟨d, hd⟩ := Int.eq_ofNat_of_zero_le (sub_nonneg.2 hnormal.least)
    refine ⟨s.apply m * 2 ^ d, ?_⟩
    rw [hv, show e = d + -1074 by omega, zpow_add₀ (by norm_num), zpow_natCast, ← mul_assoc]
    norm_cast

/-- Scaling down keeps a number finite. -/
lemma isFinite_mul_of_le_one (ha : a.isFinite) (hb : b.isFinite) (hpos : 0 ≤ value b)
    (hone : value b ≤ 1) : (a * b).isFinite ∧ |value (a * b)| ≤ |value a| := by
  refine (rounds_mul ha hb).of_abs_le (by rw [← abs_rounded, rounded_value ha]) (abs_value_lt ha) ?_
  rw [abs_mul, abs_of_nonneg hpos]
  exact mul_le_of_le_one_right (abs_nonneg _) hone

/-- Scaling by a factor loses all numbers below a threshold, counted in least doubles, and none from
there on. -/
theorem mul_pos_iff {n : ℕ} (ha : a.isFinite) (hva : 0 ≤ value a) (hb : b.isFinite)
    (hlow : 2 * (n * value b) ≤ 1) (hhigh : 1 < 2 * ((n + 1) * value b)) (hone : value b ≤ 1) :
    0 < a * b ↔ (n + 1) * 2 ^ (-1074 : ℤ) ≤ value a := by
  have hleast : (0 : ℚ) < 2 ^ (-1074 : ℤ) := by positivity
  have hvb : 0 < value b := by nlinarith
  have hfinite := (isFinite_mul_of_le_one ha hb hvb.le hone).1
  have hpos : 0 < a * b ↔ 2 ^ (-1074 : ℤ) < 2 * (value a * value b) := by
    rw [pos_iff_of_isFinite hfinite, (rounds_mul ha hb).value_eq hfinite,
      rounded_pos_iff (mul_nonneg hva hvb.le)]
  obtain ⟨k, hk⟩ := exists_value_eq ha
  have hscaled : 2 ^ (-1074 : ℤ) < 2 * (value a * value b) ↔ 1 < 2 * (k * value b) := by
    rw [hk, show 2 * (k * 2 ^ (-1074 : ℤ) * value b) = 2 * (k * value b) * 2 ^ (-1074 : ℤ) by ring]
    exact lt_mul_iff_one_lt_left hleast
  rw [hpos, hscaled, hk, mul_le_mul_iff_left₀ hleast]
  constructor
  · intro h
    have hlt : (n : ℚ) < k := by
      by_contra hcon
      nlinarith [not_lt.1 hcon]
    exact_mod_cast Int.add_one_le_of_lt (by exact_mod_cast hlt : (n : ℤ) < k)
  · intro h
    nlinarith

/-! ## Whole numbers -/

variable {tie : Tie} {m num den scale limit : ℕ} {e : ℤ}

lemma div_le_roundDiv : num / den ≤ roundDiv tie num den := by
  unfold roundDiv
  cases tie <;> dsimp only <;> split_ifs <;> omega

/-- What is rounded to a whole number is less than the one after it. -/
lemma lt_of_scaleRound_le (h : scaleRound tie m e scale ≤ limit) :
    (m : ℚ) * 2 ^ e * scale < limit + 1 := by
  cases e with
  | ofNat k =>
    have hle : m * 2 ^ k * scale ≤ limit := h
    have hlt : ((m * 2 ^ k * scale : ℕ) : ℚ) < (limit + 1 : ℕ) := by
      exact_mod_cast Nat.lt_succ_of_le hle
    simpa using hlt
  | negSucc k =>
    have hdiv : m * scale / 2 ^ (k + 1) < limit + 1 :=
      Nat.lt_succ_of_le (div_le_roundDiv.trans h)
    have hlt : m * scale < (limit + 1) * 2 ^ (k + 1) :=
      (Nat.div_lt_iff_lt_mul (by positivity)).1 hdiv
    rw [zpow_negSucc, mul_right_comm, ← div_eq_mul_inv, div_lt_iff₀ (by positivity)]
    exact_mod_cast hlt

end CryoRig.Number
