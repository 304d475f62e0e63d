import CryoRig.Text.Blank

/-!
# Quoted text

How a text is shown in a message: between quotes, with everything that would not be seen written
out by its number.

## Main definitions

* `CryoRig.Text.isHidden`: the characters that are not seen.
* `CryoRig.Text.quoted`, `CryoRig.Text.quotedLetter`: a text and a single character in quotes.

## Main results

* `CryoRig.Text.quoted_eq`: a text of plain characters stands between the quotes as it is.
-/

namespace CryoRig.Text

/-- The bounds of the Unicode format characters. -/
def formatRanges : List (Nat × Nat) :=
  [(0xAD, 0xAD), (0x600, 0x605), (0x61C, 0x61C), (0x6DD, 0x6DD), (0x70F, 0x70F), (0x890, 0x891),
    (0x8E2, 0x8E2), (0x180E, 0x180E), (0x200B, 0x200F), (0x202A, 0x202E), (0x2060, 0x2064),
    (0x2066, 0x206F), (0xFEFF, 0xFEFF), (0xFFF9, 0xFFFB), (0x110BD, 0x110BD), (0x110CD, 0x110CD),
    (0x13430, 0x1343F), (0x1BCA0, 0x1BCA3), (0x1D173, 0x1D17A), (0xE0001, 0xE0001),
    (0xE0020, 0xE007F)]

/-- The bounds of the characters for private use. -/
def privateRanges : List (Nat × Nat) :=
  [(0xE000, 0xF8FF), (0xF0000, 0xFFFFD), (0x100000, 0x10FFFD)]

/-- The characters that are not seen: controls, blanks but the space, format characters and those
for private use. -/
def isHidden (c : Char) : Bool :=
  let n := c.toNat
  n < 0x20 || (0x7F ≤ n && n < 0xA0) || (isBlank c && c != ' ') ||
    (formatRanges ++ privateRanges).any fun r => r.1 ≤ n && n ≤ r.2

/-- A character by its number. -/
def numbered (c : Char) : List Char :=
  '\\' :: 'u' :: '\x7b' :: Nat.toDigits 16 c.toNat ++ ['\x7d']

/-- A character between quotes `mark`. -/
def quoteChar (mark c : Char) : List Char :=
  if c = mark ∨ c = '\\' then ['\\', c]
  else if c = '\n' then ['\\', 'n']
  else if c = '\r' then ['\\', 'r']
  else if c = '\t' then ['\\', 't']
  else if c.toNat = 0 then ['\\', '0']
  else if isHidden c then numbered c
  else [c]

/-- A text in double quotes. -/
def quoted (s : String) : String :=
  String.ofList ('"' :: s.toList.flatMap (quoteChar '"') ++ ['"'])

/-- A character in single quotes. -/
def quotedLetter (c : Char) : String :=
  String.ofList ('\'' :: quoteChar '\'' c ++ ['\''])

theorem quoteChar_eq_self {mark c : Char} (hm : c ≠ mark) (hb : c ≠ '\\')
    (h : isHidden c = false) : quoteChar mark c = [c] := by
  have hidden {d : Char} (hd : isHidden d = true) : c ≠ d := fun e => by simp [e, hd] at h
  have hzero : c.toNat ≠ 0 := fun e => by simp [isHidden, e] at h
  have hn : c ≠ '\n' := hidden (by decide)
  have hr : c ≠ '\r' := hidden (by decide)
  have ht : c ≠ '\t' := hidden (by decide)
  simp [quoteChar, hm, hb, hn, hr, ht, hzero, h]

/-- A text of plain characters stands between the quotes as it is. -/
theorem quoted_eq {s : String}
    (h : ∀ c ∈ s.toList, c ≠ '"' ∧ c ≠ '\\' ∧ isHidden c = false) :
    quoted s = String.ofList ('"' :: s.toList ++ ['"']) := by
  have h' : s.toList.flatMap (quoteChar '"') = s.toList := by
    generalize s.toList = cs at h
    induction cs with
    | nil => rfl
    | cons c cs ih =>
      obtain ⟨hm, hb, hc⟩ := h c List.mem_cons_self
      simp [quoteChar_eq_self hm hb hc, ih fun d hd => h d (List.mem_cons_of_mem _ hd)]
  simp [quoted, h']

end CryoRig.Text
