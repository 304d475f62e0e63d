/-!
# Reading bytes as text

Bytes are read as UTF-8. Where they are none, each longest run of bytes that could still have
begun a character becomes one replacement character.

## Main definitions

* `CryoRig.Text.leadByte`: how a character starts, and what its second byte may be.
* `CryoRig.Text.decodeLossy`: bytes as characters.

## Main results

* `CryoRig.Text.takeTail_length`: reading a character uses up at least its first byte.
-/

namespace CryoRig.Text

/-- What the first byte of a character of several bytes announces: the bits it carries, how many
bytes follow, and the bounds of the second byte. -/
structure Lead where
  /-- The bits of the first byte. -/
  bits : Nat
  /-- How many bytes follow. -/
  more : Nat
  /-- The least second byte. -/
  low : Nat
  /-- The greatest second byte. -/
  high : Nat

/-- The first bytes of characters of two, three and four bytes. Overlong forms, surrogates and
numbers above the last code point are excluded by the bounds of the second byte. -/
def leadByte (b : Nat) : Option Lead :=
  if 0xC2 ≤ b ∧ b ≤ 0xDF then some ⟨b - 0xC0, 1, 0x80, 0xBF⟩
  else if b = 0xE0 then some ⟨0, 2, 0xA0, 0xBF⟩
  else if b = 0xED then some ⟨0xD, 2, 0x80, 0x9F⟩
  else if 0xE1 ≤ b ∧ b ≤ 0xEF then some ⟨b - 0xE0, 2, 0x80, 0xBF⟩
  else if b = 0xF0 then some ⟨0, 3, 0x90, 0xBF⟩
  else if 0xF1 ≤ b ∧ b ≤ 0xF3 then some ⟨b - 0xF0, 3, 0x80, 0xBF⟩
  else if b = 0xF4 then some ⟨4, 3, 0x80, 0x8F⟩
  else none

/-- What stands for bytes that are no character. -/
def replacement : Char := Char.ofNat 0xFFFD

/-- Take `more` continuation bytes, the next one between `low` and `high`. Gives the character, or
the replacement if one is missing, and the bytes not used. -/
def takeTail (bits low high : Nat) : Nat → List UInt8 → Char × List UInt8
  | 0, rest => (Char.ofNat bits, rest)
  | _ + 1, [] => (replacement, [])
  | more + 1, b :: rest =>
    if low ≤ b.toNat ∧ b.toNat ≤ high then
      takeTail (bits * 64 + (b.toNat - 0x80)) 0x80 0xBF more rest
    else (replacement, b :: rest)

theorem takeTail_length (bits low high more : Nat) (bs : List UInt8) :
    (takeTail bits low high more bs).2.length ≤ bs.length := by
  fun_induction takeTail bits low high more bs with
  | case1 => simp
  | case2 => simp
  | case3 _ _ _ _ _ _ _ ih => simp only [List.length_cons]; omega
  | case4 => simp

/-- Bytes as characters. -/
def decodeLossy : List UInt8 → List Char
  | [] => []
  | b :: bs =>
    if b.toNat < 0x80 then Char.ofNat b.toNat :: decodeLossy bs
    else match leadByte b.toNat with
      | none => replacement :: decodeLossy bs
      | some lead =>
        let next := takeTail lead.bits lead.low lead.high lead.more bs
        next.1 :: decodeLossy next.2
termination_by bs => bs.length
decreasing_by
  · simp
  · simp
  · have := takeTail_length lead.bits lead.low lead.high lead.more bs
    simp only [List.length_cons]
    omega

/-- The bytes of characters. -/
def encode (cs : List Char) : List UInt8 :=
  cs.flatMap String.utf8EncodeChar

end CryoRig.Text
