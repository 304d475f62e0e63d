/-!
# Blanks, words and lines

How text is cut up: which characters are blank, how a line splits into words, and how a text
splits into lines.

## Main definitions

* `CryoRig.Text.isBlank`: the 25 characters with the Unicode property `White_Space`.
* `CryoRig.Text.trim`, `CryoRig.Text.words`: text without its outer blanks, and cut at blanks.
* `CryoRig.Text.lines`: text cut after each line feed.

## Main results

* `CryoRig.Text.not_isBlank_of_mem_words`: no word holds a blank.
* `CryoRig.Text.ne_nil_of_mem_words`: no word is empty.
-/

namespace CryoRig.Text

/-- The characters with the Unicode property `White_Space`. -/
def isBlank (c : Char) : Bool :=
  let n := c.toNat
  (9 ≤ n && n ≤ 13) || n == 0x20 || n == 0x85 || n == 0xA0 || n == 0x1680 ||
    (0x2000 ≤ n && n ≤ 0x200A) || n == 0x2028 || n == 0x2029 || n == 0x202F || n == 0x205F ||
    n == 0x3000

/-! ## Trimming -/

/-- The characters without the blanks in front. -/
def trimLeft (cs : List Char) : List Char :=
  cs.dropWhile isBlank

/-- The characters without the blanks at the end. -/
def trimRight (cs : List Char) : List Char :=
  (cs.reverse.dropWhile isBlank).reverse

/-- The characters without the blanks at either end. -/
def trimChars (cs : List Char) : List Char :=
  trimRight (trimLeft cs)

/-- A text without the blanks at either end. -/
def trim (s : String) : String :=
  String.ofList (trimChars s.toList)

/-! ## Words -/

/-- Cut at blanks; `word` is the word under way, reversed. -/
def wordsFrom (word : List Char) : List Char → List (List Char)
  | [] => if word.isEmpty then [] else [word.reverse]
  | c :: cs =>
    if isBlank c then
      if word.isEmpty then wordsFrom [] cs else word.reverse :: wordsFrom [] cs
    else wordsFrom (c :: word) cs

/-- The words of a text: its longest runs of characters that are not blank. -/
def words (s : String) : List String :=
  (wordsFrom [] s.toList).map String.ofList

/-- No character of a word is blank. -/
theorem not_isBlank_of_mem_wordsFrom {word cs : List Char} (h : ∀ c ∈ word, isBlank c = false) :
    ∀ w ∈ wordsFrom word cs, ∀ c ∈ w, isBlank c = false := by
  induction cs generalizing word with
  | nil => intro w hw; simp only [wordsFrom] at hw; split at hw <;> simp_all
  | cons c cs ih =>
    intro w hw
    simp only [wordsFrom] at hw
    split at hw
    · split at hw
      · exact ih (by simp) w hw
      · rcases List.mem_cons.1 hw with rfl | hw
        · simpa using h
        · exact ih (by simp) w hw
    · exact ih (by simp_all) w hw

/-- Each word holds a character. -/
theorem ne_nil_of_mem_wordsFrom {word cs : List Char} : ∀ w ∈ wordsFrom word cs, w ≠ [] := by
  induction cs generalizing word with
  | nil => intro w hw; simp only [wordsFrom] at hw; split at hw <;> simp_all
  | cons c cs ih =>
    intro w hw
    simp only [wordsFrom] at hw
    split at hw
    · split at hw
      · exact ih w hw
      · rcases List.mem_cons.1 hw with rfl | hw
        · simp_all
        · exact ih w hw
    · exact ih w hw

/-- No word holds a blank. -/
theorem not_isBlank_of_mem_words {s w : String} (h : w ∈ words s) :
    ∀ c ∈ w.toList, isBlank c = false := by
  obtain ⟨cs, hcs, rfl⟩ := List.mem_map.1 h
  simpa using not_isBlank_of_mem_wordsFrom (by simp) cs hcs

/-- No word is empty. -/
theorem ne_nil_of_mem_words {s w : String} (h : w ∈ words s) : w.toList ≠ [] := by
  obtain ⟨cs, hcs, rfl⟩ := List.mem_map.1 h
  simpa using ne_nil_of_mem_wordsFrom cs hcs

/-! ## Lines -/

/-- A line without the carriage return that ends it, if one does. -/
def dropReturn (line : List Char) : List Char :=
  if line.getLast? = some '\r' then line.dropLast else line

/-- Cut after each line feed; `line` is the line under way, reversed. A text that ends with a
line feed has no line after it. -/
def linesFrom (line : List Char) : List Char → List (List Char)
  | [] => if line.isEmpty then [] else [line.reverse]
  | c :: cs =>
    if c = '\n' then dropReturn line.reverse :: linesFrom [] cs else linesFrom (c :: line) cs

/-- The lines of a text. Each ends with a line feed, with or without a carriage return before it,
or with the text. -/
def lines (s : String) : List String :=
  (linesFrom [] s.toList).map String.ofList

end CryoRig.Text
