import CryoRig.Proofs.RoundedMantissas

/-!
# Arithmetic of doubles

What the operations on doubles come to as rational numbers.

## Main definitions

* `CryoRig.Number.value`: the rational number that a double amounts to.
* `CryoRig.Number.Rounds`: a double is what a rational number is rounded to, or an infinity.

## Main results

* `CryoRig.Number.ofFloat_eq_formOf`: the bits of a double are unpacked to its exact form.
* `CryoRig.Number.rounds_add`, `CryoRig.Number.rounds_sub`, `CryoRig.Number.rounds_mul`,
  `CryoRig.Number.rounds_div`, `CryoRig.Number.rounds_ofNat`: every operation on finite doubles
  comes to the exact result, rounded once.
-/

namespace CryoRig.Number

open Float.Model (Format UnpackedFloat)
open Float.Model.UnpackedFloat (Sign packComponents)

variable {u : UnpackedFloat} {q : ℚ}

/-! ## Bits -/

lemma toNat_packComponents (s : Sign) (e : BitVec 11) (m : BitVec 52) :
    (packComponents Format.binary64 s e m).toNat =
      s.toBitVec.toNat * 2 ^ 63 + e.toNat * 2 ^ 52 + m.toNat := by
  unfold packComponents
  rw [BitVec.toNat_append, BitVec.toNat_append, ← Nat.shiftLeft_add_eq_or_of_lt m.isLt,
    ← Nat.shiftLeft_add_eq_or_of_lt e.isLt]
  simp only [Nat.shiftLeft_eq]
  ring_nf

lemma ofBits_packComponents (s : Sign) (e : BitVec 11) (m : BitVec 52) :
    Binary64.ofBits (.ofBitVec (packComponents Format.binary64 s e m)) =
      if e.toNat = 2047 then if m.toNat = 0 then .infinite (s == .negative) else .notANumber
      else if e.toNat = 0 then .finite (s == .negative) m.toNat (-1074)
      else .finite (s == .negative) (2 ^ 52 + m.toNat) (e.toNat - 1075) := by
  have he := e.isLt
  have hm := m.isLt
  have hn : (UInt64.ofBitVec (packComponents Format.binary64 s e m)).toNat =
      s.toBitVec.toNat * 2 ^ 63 + e.toNat * 2 ^ 52 + m.toNat := toNat_packComponents s e m
  have hs : s.toBitVec.toNat < 2 := s.toBitVec.isLt
  have hfield : (s.toBitVec.toNat * 2 ^ 63 + e.toNat * 2 ^ 52 + m.toNat) / 2 ^ 52 % 2 ^ 11 =
      e.toNat := by omega
  have hfraction : (s.toBitVec.toNat * 2 ^ 63 + e.toNat * 2 ^ 52 + m.toNat) % 2 ^ 52 =
      m.toNat := by omega
  have hsign : ((s.toBitVec.toNat * 2 ^ 63 + e.toNat * 2 ^ 52 + m.toNat) / 2 ^ 63 == 1) =
      (s == .negative) := by
    have : (s.toBitVec.toNat * 2 ^ 63 + e.toNat * 2 ^ 52 + m.toNat) / 2 ^ 63 =
      s.toBitVec.toNat := by omega
    rw [this]
    cases s <;> rfl
  unfold Binary64.ofBits
  simp only [twoTo, Nat.pow_eq, hn, hfield, hfraction, hsign]

lemma exists_packComponents (b : BitVec Format.binary64.numBits) :
    ∃ s e m, b = packComponents Format.binary64 s e m :=
  ⟨_, _, _, (Float.Model.UnpackedFloat.packComponents_unpackSign_unpackExponent_unpackMantissa
    b).symm⟩

lemma formOf_unpack_packComponents (s : Sign) (e : BitVec 11) (m : BitVec 52) :
    formOf (.unpack Format.binary64 (packComponents Format.binary64 s e m)) =
      if e.toNat = 2047 then if m.toNat = 0 then .infinite (s == .negative) else .notANumber
      else if e.toNat = 0 then .finite (s == .negative) m.toNat (-1074)
      else .finite (s == .negative) (2 ^ 52 + m.toNat) (e.toNat - 1075) := by
  have hm : (1#1 ++ m).toNat = 2 ^ 52 + m.toNat := by
    rw [BitVec.toNat_append, ← Nat.shiftLeft_add_eq_or_of_lt m.isLt]
    rfl
  have hones : e = -1#11 ↔ e.toNat = 2047 := by
    rw [← BitVec.toNat_inj]
    rfl
  have hzero : e = 0#11 ↔ e.toNat = 0 := by
    rw [← BitVec.toNat_inj]
    rfl
  have hmzero : m = 0#52 ↔ m.toNat = 0 := by
    rw [← BitVec.toNat_inj]
    rfl
  simp only [Float.Model.UnpackedFloat.unpack,
    Float.Model.UnpackedFloat.unpackSign_packComponents, Sign.ofBitVec_toBitVec,
    Float.Model.UnpackedFloat.unpackMantissa_packComponents,
    Float.Model.UnpackedFloat.unpackExponent_packComponents, hones, hzero, hmzero]
  split_ifs with h1 h2 h3 h4
  · rfl
  · rfl
  · simp [formOf, h4]
  · simp [formOf, h3, Format.exponentBias]
  · simp only [formOf, hm]
    congr 1

/-- The exact form of a double. -/
lemma ofFloat_eq_formOf (x : Float) : Binary64.ofFloat x = formOf x.toModel.unpack := by
  obtain ⟨s, e, m, h⟩ := exists_packComponents x.toModel.toBits.toBitVec
  have hbits : x.toBits = .ofBitVec (packComponents Format.binary64 s e m) :=
    UInt64.toBitVec_inj.1 h
  rw [Binary64.ofFloat, hbits, ofBits_packComponents, ← formOf_unpack_packComponents, ← h]
  rfl

/-! ## Packing -/

lemma log2_eq_of_normal {m : ℕ} {e : ℤ} (h : Normal m e) (hm : 2 ^ 52 ≤ m) : m.log2 = 52 :=
  (Nat.log2_eq_iff (by omega)).2 ⟨hm, h.digits⟩

/-- What is held as a double is packed as it is, unless its exponent is too great. -/
lemma ofFloat_pack {n : Bool} {m : ℕ} {e : ℤ} (h : formOf u = .finite n m e)
    (hnormal : Normal m e) :
    Binary64.ofFloat ⟨Float.Model.pack u⟩ = if e ≤ 971 then .finite n m e else .infinite n := by
  have hofFloat : Binary64.ofFloat ⟨Float.Model.pack u⟩ =
      .ofBits (.ofBitVec (Float.Model.UnpackedFloat.pack Format.binary64 u)) := rfl
  rw [hofFloat]
  cases u with
  | notANumber => cases h
  | infinity s => cases h
  | zero s =>
    cases h
    exact ofBits_packComponents s 0 0
  | finite s m e hm =>
    cases h
    have hbiased : (e + Format.binary64.exponentBias + (52 : ℕ)).toNat = (e + 1075).toNat := by
      simp only [Format.exponentBias]
      norm_num
      omega
    have hleast := hnormal.least
    simp only [Float.Model.UnpackedFloat.pack, hbiased]
    by_cases hlarge : e ≤ 971
    · rw [if_pos hlarge, if_neg (by norm_num; omega)]
      by_cases hlead : 2 ^ 52 ≤ m
      · rw [if_pos (by rw [log2_eq_of_normal hnormal hlead]; rfl), ofBits_packComponents]
        have hdigits := hnormal.digits
        simp only [BitVec.toNat_ofNat]
        rw [if_neg (by omega), if_neg (by omega)]
        congr 1 <;> omega
      · obtain rfl := hnormal.leading.resolve_left hlead
        have hlog : m.log2 < 52 := (Nat.log2_lt hm.ne').2 (not_le.1 hlead)
        rw [if_neg (by simp only [Format.mantissaBits]; omega), ofBits_packComponents]
        simp only [BitVec.toNat_ofNat]
        rw [if_neg (by norm_num), if_pos (by norm_num), Nat.mod_eq_of_lt (not_le.1 hlead)]
    · rw [if_neg hlarge, if_pos (by norm_num; omega)]
      exact ofBits_packComponents s (-1#11) 0

/-! ## Doubles -/

/-- The number that a double amounts to; nothing if it is not finite. -/
def value (x : Float) : ℚ := (Binary64.ofFloat x).value

/-- A double is what `q` is rounded to, or the infinity on its side if that is beyond the range. -/
def Rounds (x : Float) (q : ℚ) : Prop :=
  if |rounded q| < 2 ^ (1024 : ℤ) then x.isFinite ∧ value x = rounded q
  else Binary64.ofFloat x = .infinite (decide (q < 0))

lemma isFinite_iff {x : Float} : x.isFinite ↔ ∃ n m e, Binary64.ofFloat x = .finite n m e := by
  rw [ofFloat_eq_formOf]
  change x.toModel.unpack.isFinite = true ↔ _
  cases x.toModel.unpack <;> simp [Float.Model.UnpackedFloat.isFinite, formOf]

lemma value_lt_of_normal {m : ℕ} {e : ℤ} (h : Normal m e) :
    (m : ℚ) * 2 ^ e < 2 ^ (1024 : ℤ) ↔ e ≤ 971 := by
  have hdigits : (m : ℚ) < 2 ^ 53 := by exact_mod_cast h.digits
  have hpow : (0 : ℚ) < 2 ^ e := by positivity
  constructor
  · intro hlt
    by_contra hcon
    have hm := h.leading.resolve_right (by omega)
    have : (2 : ℚ) ^ (1024 : ℤ) ≤ m * 2 ^ e :=
      calc (2 : ℚ) ^ (1024 : ℤ) ≤ 2 ^ (52 + e) := zpow_le_zpow_right₀ (by norm_num) (by omega)
        _ = 2 ^ 52 * 2 ^ e := zpow_add₀ (by norm_num) 52 e
        _ ≤ m * 2 ^ e := mul_le_mul_of_nonneg_right (by exact_mod_cast hm) hpow.le
    linarith
  · intro hle
    calc (m : ℚ) * 2 ^ e < 2 ^ 53 * 2 ^ e := mul_lt_mul_of_pos_right hdigits hpow
      _ = 2 ^ (53 + e) := (zpow_add₀ (by norm_num) 53 e).symm
      _ ≤ 2 ^ (1024 : ℤ) := zpow_le_zpow_right₀ (by norm_num) (by omega)

lemma IsRounding.rounds (h : IsRounding u q) : Rounds ⟨Float.Model.pack u⟩ q := by
  obtain ⟨n, m, e, hform, hnormal, hvalue⟩ := h
  have hpack := ofFloat_pack hform hnormal
  have hnonneg : (0 : ℚ) ≤ m * 2 ^ e := by positivity
  have habs : |rounded q| = m * 2 ^ e := by
    rw [← hvalue, Binary64.value]
    cases n
    · exact abs_of_nonneg hnonneg
    · exact (abs_neg _).trans (abs_of_nonneg hnonneg)
  unfold Rounds
  rw [habs]
  by_cases he : e ≤ 971
  · rw [if_pos he] at hpack
    rw [if_pos ((value_lt_of_normal hnormal).2 he)]
    exact ⟨isFinite_iff.2 ⟨n, m, e, hpack⟩, by rw [value, hpack, hvalue]⟩
  · rw [if_neg he] at hpack
    rw [if_neg (mt (value_lt_of_normal hnormal).1 he), hpack]
    have hm : 2 ^ 52 ≤ m := hnormal.leading.resolve_right (by omega)
    have hpos : (0 : ℚ) < m * 2 ^ e := by positivity
    congr 1
    rw [eq_comm]
    cases n
    · have hlt : 0 < rounded q := hvalue ▸ hpos
      exact decide_eq_false fun hq => absurd hlt (not_lt.2 (rounded_nonpos hq.le))
    · have hlt : rounded q < 0 := hvalue ▸ neg_neg_of_pos hpos
      exact decide_eq_true (not_le.1 fun hq => absurd hlt (not_lt.2 (rounded_nonneg hq)))

lemma normal_of_unpack {x : Float} {s : Sign} {m : ℕ} {e : ℤ} {hm : 0 < m}
    (h : x.toModel.unpack = .finite s m e hm) : Normal m e ∧ e ≤ 971 := by
  obtain ⟨s', e', m', hx⟩ := exists_packComponents x.toModel.toBits.toBitVec
  have hform : formOf x.toModel.unpack = .finite (s == .negative) m e := by rw [h]; rfl
  have he' : e'.toNat < 2 ^ 11 := e'.isLt
  have hm' : m'.toNat < 2 ^ 52 := m'.isLt
  unfold Float.Model.unpack at hform
  rw [hx, formOf_unpack_packComponents] at hform
  split_ifs at hform with hinfinite hnan hzero
  · obtain ⟨-, rfl, rfl⟩ := Binary64.finite.inj hform
    exact ⟨⟨by omega, le_rfl, .inr rfl⟩, by norm_num⟩
  · obtain ⟨-, rfl, rfl⟩ := Binary64.finite.inj hform
    exact ⟨⟨by omega, by omega, .inl (by omega)⟩, by omega⟩

/-- A finite double is held as the number that it amounts to. -/
lemma holds_of_isFinite {x : Float} (h : x.isFinite) : Holds x.toModel.unpack (value x) := by
  have hform := ofFloat_eq_formOf x
  have hfinite : x.toModel.unpack.isFinite = true := h
  cases hu : x.toModel.unpack with
  | notANumber => rw [hu] at hfinite; cases hfinite
  | infinity s => rw [hu] at hfinite; cases hfinite
  | zero s =>
    refine .inl ⟨s, rfl, ?_⟩
    rw [value, hform, hu]
    simp [formOf, Binary64.value]
  | finite s m e hm =>
    refine .inr ⟨s, m, e, hm, rfl, (normal_of_unpack hu).1, ?_⟩
    rw [value, hform, hu, ← signed_eq_apply]
    rfl

variable {a b : Float}

theorem rounds_add (ha : a.isFinite) (hb : b.isFinite) : Rounds (a + b) (value a + value b) :=
  ((holds_of_isFinite ha).add (holds_of_isFinite hb)).rounds

theorem rounds_sub (ha : a.isFinite) (hb : b.isFinite) : Rounds (a - b) (value a - value b) :=
  ((holds_of_isFinite ha).sub (holds_of_isFinite hb)).rounds

theorem rounds_mul (ha : a.isFinite) (hb : b.isFinite) : Rounds (a * b) (value a * value b) :=
  ((holds_of_isFinite ha).mul (holds_of_isFinite hb)).rounds

theorem rounds_div (ha : a.isFinite) (hb : b.isFinite) (hzero : value b ≠ 0) :
    Rounds (a / b) (value a / value b) :=
  ((holds_of_isFinite ha).div (holds_of_isFinite hb) hzero).rounds

lemma toUInt64_toFloat {n : ℕ} (hn : n < 2 ^ 64) : Rounds n.toUInt64.toFloat n := by
  have h : IsRounding (Float.Model.UnpackedFloat.ofUInt64 Format.binary64 n.toUInt64) n := by
    have := isRounding_normalize n 0 .positive
    rw [zpow_zero, mul_one, Int.cast_natCast] at this
    unfold Float.Model.UnpackedFloat.ofUInt64 Float.Model.UnpackedFloat.ofNat
      Float.Model.UnpackedFloat.ofInt
    rwa [show n.toUInt64.toNat = n from Nat.mod_eq_of_lt hn]
  exact h.rounds

lemma isRounding_ofScientific {n : ℕ} (hn : 0 < n) :
    IsRounding (Float.Model.UnpackedFloat.ofScientific Format.binary64 n 0) n := by
  have hpos : 0 < n <<< 53 * 10 ^ (0 : ℤ).toNat := by
    rw [Nat.shiftLeft_eq]
    positivity
  have hlog : (n <<< 53 * 10 ^ (0 : ℤ).toNat).log2 = n.log2 + 53 := by
    simpa using log2_shiftLeft hn 53
  have h := isRounding_roundWithAccuracy (e := -53 + 0) .positive (by exact_mod_cast hpos)
    (extends_exact (n <<< 53 * 10 ^ (0 : ℤ).toNat)) (by rw [targetExponent_eq, hlog]; omega)
  have hvalue : ((n <<< 53 * 10 ^ (0 : ℤ).toNat : ℕ) : ℚ) * 2 ^ (-53 + 0 : ℤ) = n := by
    rw [Nat.shiftLeft_eq]
    norm_num [mul_assoc]
  rw [hvalue, signed_positive] at h
  unfold Float.Model.UnpackedFloat.ofScientific
  rw [dif_neg hn.ne', if_neg (by norm_num), if_neg (by norm_num), if_pos le_rfl]
  exact h

lemma ofBits_one : (Float.ofBits 0x3FF0000000000000).isFinite ∧
    value (Float.ofBits 0x3FF0000000000000) = 1 := by
  have h : Binary64.ofFloat (Float.ofBits 0x3FF0000000000000) = .finite false (2 ^ 52) (-52) := by
    decide +kernel
  exact ⟨isFinite_iff.2 ⟨_, _, _, h⟩, by rw [value, h]; norm_num [Binary64.value, signed]⟩

lemma rounded_natCast {n : ℕ} (h : n < 2 ^ 53) : rounded n = n := by
  have := rounded_dyadic (n := n) (k := 0) (by rw [Nat.abs_cast]; exact_mod_cast h) (by norm_num)
  simpa using this

lemma rounds_ofNat (n : ℕ) : Rounds (Float.ofNat n) n := by
  change Rounds (Float.ofScientific n false 0) n
  unfold Float.ofScientific
  by_cases hn : n < 2 ^ 53 ∧ 0 ≤ 22
  · rw [dif_pos hn]
    have hsmall : |rounded n| < 2 ^ (1024 : ℤ) := by
      rw [rounded_natCast hn.1, Nat.abs_cast]
      calc (n : ℚ) < 2 ^ (53 : ℤ) := by exact_mod_cast hn.1
        _ ≤ 2 ^ (1024 : ℤ) := zpow_le_zpow_right₀ (by norm_num) (by norm_num)
    have h := toUInt64_toFloat (hn.1.trans (by norm_num : 2 ^ 53 < 2 ^ 64))
    rw [Rounds, if_pos hsmall] at h
    have hmul := rounds_mul h.1 ofBits_one.1
    rw [h.2, ofBits_one.2, mul_one, rounded_natCast hn.1] at hmul
    exact hmul
  · rw [dif_neg hn]
    exact (isRounding_ofScientific (by omega)).rounds

end CryoRig.Number
