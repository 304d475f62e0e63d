import Mathlib.Tactic.Lemma
import Mathlib.Tactic.SplitIfs
import CryoRig.Text.Utf8

/-!
# Text that is sent and read back

Bytes that do not encode text are read as replacement characters. Bytes that do encode text are
read as that text: the reader undoes `CryoRig.Text.encode`.

## Main results

* `CryoRig.Text.decodeLossy_encode`: text that was encoded is read back.
-/

namespace CryoRig.Text

variable {b : UInt8} {bs : List UInt8}

/-! ## One character -/

lemma decodeLossy_cons_of_lt (hb : b.toNat < 0x80) :
    decodeLossy (b :: bs) = Char.ofNat b.toNat :: decodeLossy bs := by
  rw [decodeLossy, if_pos hb]

lemma decodeLossy_cons_of_lead {bits more low high : Nat} (hb : 0x80 ≤ b.toNat)
    (hl : leadByte b.toNat = some ⟨bits, more, low, high⟩) :
    decodeLossy (b :: bs) =
      (takeTail bits low high more bs).1 :: decodeLossy (takeTail bits low high more bs).2 := by
  rw [decodeLossy, if_neg (by omega), hl]

/-- A continuation byte adds six bits. -/
lemma takeTail_cons {bits low high more six : Nat} (hb : b.toNat = six + 0x80)
    (hlow : low ≤ six + 0x80) (hhigh : six + 0x80 ≤ high) :
    takeTail bits low high (more + 1) (b :: bs) =
      takeTail (bits * 64 + six) 0x80 0xBF more bs := by
  rw [takeTail, if_pos (by omega), hb, Nat.add_sub_cancel]

lemma leadByte_two {v : Nat} (h : 0x7F < v) (h' : v ≤ 0x7FF) :
    leadByte (v / 64 % 32 + 192) = some ⟨v / 64, 1, 0x80, 0xBF⟩ := by
  have hbits : v / 64 % 32 + 192 - 0xC0 = v / 64 := by omega
  rw [leadByte, if_pos (by omega), hbits]

/-- The first of three bytes admits the second one, unless the number is that of a surrogate. -/
lemma leadByte_three {v : Nat} (h : 0x7FF < v) (h' : v ≤ 0xFFFF)
    (hv : v < 0xD800 ∨ 0xDFFF < v) :
    ∃ low high, leadByte (v / 4096 % 16 + 224) = some ⟨v / 4096, 2, low, high⟩ ∧
      low ≤ v / 64 % 64 + 0x80 ∧ v / 64 % 64 + 0x80 ≤ high := by
  obtain hw | hw | hw : v / 4096 = 0 ∨ v / 4096 = 13 ∨ v / 4096 ≠ 0 ∧ v / 4096 ≠ 13 := by omega
  · exact ⟨0xA0, 0xBF, by rw [hw]; rfl, by omega, by omega⟩
  · exact ⟨0x80, 0x9F, by rw [hw]; rfl, by omega, by omega⟩
  · have hbits : v / 4096 % 16 + 224 - 0xE0 = v / 4096 := by omega
    refine ⟨0x80, 0xBF, ?_, by omega, by omega⟩
    rw [leadByte, if_neg (by omega), if_neg (by omega), if_neg (by omega), if_pos (by omega), hbits]

/-- The first of four bytes admits the second one, up to the last code point. -/
lemma leadByte_four {v : Nat} (h : 0xFFFF < v) (h' : v < 0x110000) :
    ∃ low high, leadByte (v / 262144 % 8 + 240) = some ⟨v / 262144, 3, low, high⟩ ∧
      low ≤ v / 4096 % 64 + 0x80 ∧ v / 4096 % 64 + 0x80 ≤ high := by
  obtain hw | hw | hw : v / 262144 = 0 ∨ v / 262144 = 4 ∨ v / 262144 ≠ 0 ∧ v / 262144 ≠ 4 := by
    omega
  · exact ⟨0x90, 0xBF, by rw [hw]; rfl, by omega, by omega⟩
  · exact ⟨0x80, 0x8F, by rw [hw]; rfl, by omega, by omega⟩
  · have hbits : v / 262144 % 8 + 240 - 0xF0 = v / 262144 := by omega
    refine ⟨0x80, 0xBF, ?_, by omega, by omega⟩
    rw [leadByte, if_neg (by omega), if_neg (by omega), if_neg (by omega), if_neg (by omega),
      if_neg (by omega), if_pos (by omega), hbits]

/-- A character that was encoded is read back, whatever comes behind it.

**Proof sketch.** By the number of bytes. In each case the first byte announces how many follow and
admits the second one, and each of those that follow adds its six bits to the number. -/
lemma decodeLossy_utf8EncodeChar_append (c : Char) (bs : List UInt8) :
    decodeLossy (String.utf8EncodeChar c ++ bs) = c :: decodeLossy bs := by
  have hv : c.val.toNat < 0xD800 ∨ 0xDFFF < c.val.toNat ∧ c.val.toNat < 0x110000 := c.valid
  have hc : Char.ofNat c.val.toNat = c := Char.ofNat_toNat c
  rw [String.utf8EncodeChar.eq_1]
  generalize c.val.toNat = v at hv hc
  have six : ∀ w, (UInt8.ofNat (w % 64 + 128)).toNat = w % 64 + 0x80 := fun w => by
    rw [UInt8.toNat_ofNat']
    omega
  split_ifs with h1 h2 h3
  · have hb : (UInt8.ofNat v).toNat = v := by
      rw [UInt8.toNat_ofNat']
      omega
    rw [List.singleton_append, decodeLossy_cons_of_lt (by omega), hb, hc]
  · have hb : (UInt8.ofNat (v / 64 % 32 + 192)).toNat = v / 64 % 32 + 192 := by
      rw [UInt8.toNat_ofNat']
      omega
    have hbits : v / 64 * 64 + v % 64 = v := by omega
    rw [List.cons_append, List.singleton_append, decodeLossy_cons_of_lead (by omega)
      (hb ▸ leadByte_two (by omega) h2), takeTail_cons (six _) (by omega) (by omega), takeTail,
      hbits, hc]
  · have hb : (UInt8.ofNat (v / 4096 % 16 + 224)).toNat = v / 4096 % 16 + 224 := by
      rw [UInt8.toNat_ofNat']
      omega
    obtain ⟨low, high, hl, hlow, hhigh⟩ := leadByte_three (by omega) h3 (by omega)
    have hbits : (v / 4096 * 64 + v / 64 % 64) * 64 + v % 64 = v := by omega
    rw [List.cons_append, List.cons_append, List.singleton_append,
      decodeLossy_cons_of_lead (by omega) (hb ▸ hl), takeTail_cons (six _) hlow hhigh,
      takeTail_cons (six _) (by omega) (by omega), takeTail, hbits, hc]
  · have hb : (UInt8.ofNat (v / 262144 % 8 + 240)).toNat = v / 262144 % 8 + 240 := by
      rw [UInt8.toNat_ofNat']
      omega
    obtain ⟨low, high, hl, hlow, hhigh⟩ := leadByte_four (v := v) (by omega) (by omega)
    have hbits : ((v / 262144 * 64 + v / 4096 % 64) * 64 + v / 64 % 64) * 64 + v % 64 = v := by
      omega
    rw [List.cons_append, List.cons_append, List.cons_append, List.singleton_append,
      decodeLossy_cons_of_lead (by omega) (hb ▸ hl), takeTail_cons (six _) hlow hhigh,
      takeTail_cons (six _) (by omega) (by omega), takeTail_cons (six _) (by omega) (by omega),
      takeTail, hbits, hc]

/-! ## Text -/

/-- Text that was encoded is read back. -/
theorem decodeLossy_encode (cs : List Char) : decodeLossy (encode cs) = cs := by
  induction cs with
  | nil => rw [encode, List.flatMap_nil, decodeLossy]
  | cons c cs ih =>
    rw [encode, List.flatMap_cons, decodeLossy_utf8EncodeChar_append]
    exact congrArg (c :: ·) ih

end CryoRig.Text
