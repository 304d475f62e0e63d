import CryoRig.Proofs.LatestSettings
import CryoRig.Proofs.ProgramStates
import Mathlib.Data.List.Forall2
import Mathlib.Logic.Relation

/-!
# The layout of a script

A script is read line by line and a line word by word. Blank lines, blanks around words and the way
lines end make no difference to what is asked for: the same words stand on the same lines in the
same order, and only the numbers of the lines change.

## Main definitions

* `CryoRig.Text.Inserted`: one change of layout.
* `CryoRig.Text.Relaid`: any number of them, forwards and backwards.
* `CryoRig.Text.wordLines`: the words of a text, line by line, without the blank lines.
* `CryoRig.Script.Line.words`: the words of a line.
* `CryoRig.Script.SameCommand`: the numbers of the same command in two scripts.

## Main results

* `CryoRig.Text.Relaid.wordLines_eq`: the lines that are not blank keep their words.
* `CryoRig.Script.words_program_of_relaid`: so the programs ask for the same, line by line.
* `CryoRig.Script.lines_load_join`: what a script holds that is put together of lines.
-/

namespace CryoRig

namespace Text

variable {cs before after blanks word line line' l r : List Char} {s t : String} {c : Char}

/-! ## Changes of layout -/

/-- Nothing but blanks, and no line ends there. -/
def Blanks (cs : List Char) : Prop := ∀ c ∈ cs, isBlank c = true ∧ c ≠ '\n'

/-- No word goes on from the first text into the second. -/
def Apart (before after : List Char) : Prop :=
  (∀ c ∈ before.getLast?, isBlank c = true) ∨ ∀ c ∈ after.head?, isBlank c = true

/-- A change of layout by which a text becomes longer. -/
inductive Inserted : List Char → List Char → Prop where
  /-- A blank line where a line begins. -/
  | blankLine {before blanks after : List Char} (hstart : ∀ c ∈ before.getLast?, c = '\n')
    (hb : Blanks blanks) : Inserted (before ++ after) (before ++ (blanks ++ '\n' :: after))
  /-- The end of the last line, and a blank line after it that does not end. -/
  | lastLine {text blanks : List Char} (hb : Blanks blanks) : Inserted text (text ++ '\n' :: blanks)
  /-- Blanks before, after or between words. -/
  | blanks {before blanks after : List Char} (hapart : Apart before after) (hb : Blanks blanks) :
    Inserted (before ++ after) (before ++ (blanks ++ after))
  /-- A carriage return before the end of a line. -/
  | lineEnd (before after : List Char) :
    Inserted (before ++ '\n' :: after) (before ++ '\r' :: '\n' :: after)

/-- A text is another one in a different layout. -/
def Relaid : String → String → Prop :=
  Relation.EqvGen fun s t => Inserted s.toList t.toList

/-! ## Words and blanks -/

/-- A blank ends a word. -/
lemma wordsFrom_append_cons (h : isBlank c = true) :
    wordsFrom word (l ++ c :: r) = wordsFrom word l ++ wordsFrom [] r := by
  induction l generalizing word with
  | nil => cases word <;> simp [wordsFrom, h]
  | cons d l ih =>
    simp only [List.cons_append, wordsFrom]
    split
    · split <;> simp [ih]
    · exact ih

lemma wordsFrom_blanks_append (hb : Blanks blanks) :
    wordsFrom [] (blanks ++ r) = wordsFrom [] r := by
  induction blanks with
  | nil => rfl
  | cons c blanks ih =>
    have hc : isBlank c = true := (hb c List.mem_cons_self).1
    rw [List.cons_append, ← List.nil_append (c :: (blanks ++ r)), wordsFrom_append_cons hc,
      ih fun d hd => hb d (List.mem_cons_of_mem c hd)]
    rfl

lemma wordsFrom_append_blanks (hb : Blanks blanks) :
    wordsFrom word (l ++ blanks) = wordsFrom word l :=
  wordsFrom_append_of_isBlank fun c hc => (hb c hc).1

/-- A carriage return at the end of a line is no part of a word. -/
lemma wordsFrom_dropReturn : wordsFrom [] (dropReturn l) = wordsFrom [] l := by
  unfold dropReturn
  split
  · next hl =>
    obtain ⟨l, rfl⟩ := List.getLast?_eq_some_iff.1 hl
    rw [List.dropLast_concat, wordsFrom_concat_of_isBlank (by decide)]
  · rfl

/-! ## Lines that are not blank -/

/-- Lists of words, without those that are empty. -/
def nonempty (rows : List (List (List Char))) : List (List (List Char)) := rows.filter (· ≠ [])

/-- The words of a text, line by line, without the blank lines; `line` is the line under way,
reversed. -/
def wordLines (line cs : List Char) : List (List (List Char)) :=
  nonempty ((linesFrom line cs).map (wordsFrom []))

lemma nonempty_cons (row : List (List Char)) (rows : List (List (List Char))) :
    nonempty (row :: rows) = nonempty [row] ++ nonempty rows :=
  List.filter_append [row] rows

lemma wordLines_nil : wordLines line [] = nonempty [wordsFrom [] line.reverse] := by
  cases line with
  | nil => rfl
  | cons c line => rfl

lemma wordLines_end :
    wordLines line ('\n' :: cs) = nonempty [wordsFrom [] line.reverse] ++ wordLines [] cs := by
  rw [wordLines, linesFrom, if_pos rfl, List.map_cons, nonempty_cons, wordsFrom_dropReturn]
  rfl

lemma wordLines_cons (hc : c ≠ '\n') : wordLines line (c :: cs) = wordLines (c :: line) cs := by
  rw [wordLines, linesFrom, if_neg hc]
  rfl

/-- Blanks become part of the line under way. -/
lemma wordLines_blanks_append (hb : Blanks blanks) :
    wordLines line (blanks ++ cs) = wordLines (blanks.reverse ++ line) cs := by
  induction blanks generalizing line with
  | nil => rfl
  | cons c blanks ih =>
    rw [List.cons_append, wordLines_cons (hb c List.mem_cons_self).2,
      ih fun d hd => hb d (List.mem_cons_of_mem c hd)]
    simp

/-- The words are the same on two lines under way, however they go on. -/
def SameSoFar (line line' : List Char) : Prop :=
  ∀ r, wordsFrom [] (line.reverse ++ r) = wordsFrom [] (line'.reverse ++ r)

lemma SameSoFar.cons (h : SameSoFar line line') (c : Char) : SameSoFar (c :: line) (c :: line') := by
  intro r
  simpa using h (c :: r)

/-- Whatever comes after them, two such lines can be exchanged. -/
lemma SameSoFar.wordLines_eq (h : SameSoFar line line') :
    wordLines line cs = wordLines line' cs := by
  have hwords : wordsFrom [] line.reverse = wordsFrom [] line'.reverse := by simpa using h []
  induction cs generalizing line line' with
  | nil => rw [wordLines_nil, wordLines_nil, hwords]
  | cons c cs ih =>
    by_cases hc : c = '\n'
    · subst hc
      rw [wordLines_end, wordLines_end, hwords]
    · rw [wordLines_cons hc, wordLines_cons hc]
      exact ih (h.cons c) (by simpa using h [c])

/-- What comes before a change does not matter if the line under way does not. -/
lemma wordLines_append_congr {cs cs' : List Char}
    (h : ∀ line, wordLines line cs = wordLines line cs') (line : List Char) :
    wordLines line (before ++ cs) = wordLines line (before ++ cs') := by
  induction before generalizing line with
  | nil => exact h line
  | cons c before ih =>
    by_cases hc : c = '\n'
    · subst hc
      rw [List.cons_append, List.cons_append, wordLines_end, wordLines_end, ih]
    · rw [List.cons_append, List.cons_append, wordLines_cons hc, wordLines_cons hc, ih]

/-! ## Each change keeps the words -/

/-- Blanks where a line begins. -/
lemma wordLines_blanks_of_start (hb : Blanks blanks) :
    wordLines [] (blanks ++ after) = wordLines [] after := by
  rw [wordLines_blanks_append hb]
  refine SameSoFar.wordLines_eq fun r => ?_
  simpa using wordsFrom_blanks_append hb

/-- Blanks after a blank. -/
lemma wordLines_blanks_of_blank (hc : isBlank c = true) (hb : Blanks blanks) :
    wordLines line (c :: (blanks ++ after)) = wordLines line (c :: after) := by
  by_cases hend : c = '\n'
  · subst hend
    rw [wordLines_end, wordLines_end, wordLines_blanks_of_start hb]
  · rw [wordLines_cons hend, wordLines_cons hend, wordLines_blanks_append hb]
    refine SameSoFar.wordLines_eq fun r => ?_
    simp [wordsFrom_append_cons hc, wordsFrom_blanks_append hb]

/-- Blanks before a blank or at the end. -/
lemma wordLines_blanks_of_head (hafter : ∀ c ∈ after.head?, isBlank c = true) (hb : Blanks blanks) :
    wordLines line (blanks ++ after) = wordLines line after := by
  rw [wordLines_blanks_append hb]
  cases after with
  | nil => simp [wordLines_nil, wordsFrom_append_blanks hb]
  | cons c after =>
    have hc : isBlank c = true := hafter c rfl
    by_cases hend : c = '\n'
    · subst hend
      simp [wordLines_end, wordsFrom_append_blanks hb]
    · rw [wordLines_cons hend, wordLines_cons hend]
      refine SameSoFar.wordLines_eq fun r => ?_
      calc wordsFrom [] ((c :: (blanks.reverse ++ line)).reverse ++ r)
          = wordsFrom [] ((line.reverse ++ blanks) ++ c :: r) := by simp
        _ = wordsFrom [] (line.reverse ++ c :: r) := by
          rw [wordsFrom_append_cons hc, wordsFrom_append_cons hc, wordsFrom_append_blanks hb]
        _ = wordsFrom [] ((c :: line).reverse ++ r) := by simp

lemma wordLines_of_apart (hapart : Apart before after) (hb : Blanks blanks) :
    wordLines [] (before ++ (blanks ++ after)) = wordLines [] (before ++ after) := by
  rcases hapart with hbefore | hafter
  · rcases List.eq_nil_or_concat before with rfl | ⟨first, c, rfl⟩
    · exact wordLines_blanks_of_start hb
    · have hc : isBlank c = true := hbefore c (by simp)
      simp only [List.concat_eq_append, List.append_assoc, List.cons_append, List.nil_append]
      exact wordLines_append_congr (fun line => wordLines_blanks_of_blank hc hb) []
  · exact wordLines_append_congr (fun line => wordLines_blanks_of_head hafter hb) []

/-- A blank line where a line begins. -/
lemma wordLines_of_blankLine (hstart : ∀ c ∈ before.getLast?, c = '\n') (hb : Blanks blanks) :
    wordLines [] (before ++ (blanks ++ '\n' :: after)) = wordLines [] (before ++ after) := by
  have hempty : wordLines [] (blanks ++ '\n' :: after) = wordLines [] after := by
    rw [wordLines_blanks_of_start hb, wordLines_end]
    rfl
  rcases List.eq_nil_or_concat before with rfl | ⟨first, c, rfl⟩
  · exact hempty
  · obtain rfl : c = '\n' := hstart c (by simp)
    simp only [List.concat_eq_append, List.append_assoc, List.cons_append, List.nil_append]
    refine wordLines_append_congr (fun line => ?_) []
    rw [wordLines_end, wordLines_end, hempty]

/-- A blank line at the end. -/
lemma wordLines_of_lastLine (hb : Blanks blanks) :
    wordLines [] (cs ++ '\n' :: blanks) = wordLines [] cs := by
  have hlast (line : List Char) : wordLines line ('\n' :: blanks) = wordLines line [] := by
    rw [wordLines_end, wordLines_nil, ← List.append_nil blanks, wordLines_blanks_of_start hb]
    exact List.append_nil _
  simpa using wordLines_append_congr hlast []

lemma Inserted.wordLines_eq {cs ds : List Char} (h : Inserted cs ds) :
    wordLines [] cs = wordLines [] ds := by
  cases h with
  | blankLine hstart hb => exact (wordLines_of_blankLine hstart hb).symm
  | lastLine hb => exact (wordLines_of_lastLine hb).symm
  | blanks hapart hb => exact (wordLines_of_apart hapart hb).symm
  | lineEnd before after =>
    have hreturn : Blanks ['\r'] := by
      intro c hc
      obtain rfl := List.mem_singleton.1 hc
      decide
    have hend : ∀ c ∈ ('\n' :: after).head?, isBlank c = true := by
      rintro c ⟨⟩
      decide
    exact (wordLines_of_apart (.inr hend) hreturn).symm

/-- **The lines that are not blank keep their words** in whatever layout. -/
theorem Relaid.wordLines_eq (h : Relaid s t) : wordLines [] s.toList = wordLines [] t.toList := by
  induction h with
  | rel s t h => exact h.wordLines_eq
  | refl => rfl
  | symm s t _ ih => exact ih.symm
  | trans s t u _ _ ih ih' => exact ih.trans ih'

/-! ## Texts put together of lines -/

/-- A carriage return at the end is a blank like any other. -/
lemma trimChars_dropReturn : trimChars (dropReturn l) = trimChars l := by
  have hreturn : isBlank '\r' = true := by decide
  unfold dropReturn
  split
  · next hl =>
    obtain ⟨l, rfl⟩ := List.getLast?_eq_some_iff.1 hl
    rw [List.dropLast_concat, trimChars, trimChars, trimLeft, trimLeft, List.dropWhile_append]
    split
    · next hempty =>
      rw [List.isEmpty_iff.1 hempty]
      rfl
    · simp [trimRight, hreturn]
  · rfl

/-- A line goes up to its end. -/
lemma linesFrom_append_end (hl : '\n' ∉ l) :
    linesFrom line (l ++ '\n' :: cs) = dropReturn (line.reverse ++ l) :: linesFrom [] cs := by
  induction l generalizing line with
  | nil => simp [linesFrom]
  | cons c l ih =>
    rw [List.mem_cons, not_or] at hl
    rw [List.cons_append, linesFrom, if_neg (Ne.symm hl.1), ih hl.2]
    simp

end Text

namespace Script

variable {s t : String} {texts : List String} {number : Nat}

/-- A line of one script is that of the same command as a line of another one: the lines that are not
blank are counted. -/
def SameCommand (s s' : Script) (n m : Nat) : Prop := (n, m) ∈ s.nonBlank.zip s'.nonBlank

/-- The words of a line. -/
def Line.words (l : Line) : List String := l.operation :: l.arguments

lemma words_programFrom : (programFrom number texts).map Line.words =
    (texts.map Text.words).filter (· ≠ []) := by
  induction texts generalizing number with
  | nil => rfl
  | cons text texts ih =>
    rw [programFrom, List.map_append, ih, List.map_cons, List.filter_cons]
    cases hw : Text.words text with
    | nil => simp [Line.ofText?, hw]
    | cons operation arguments => simp [Line.ofText?, hw, Line.words]

/-- What a text asks for is what stands on its lines. -/
lemma words_program_load (source : String) : (load source).program.map Line.words =
    (Text.wordLines [] source.toList).map fun row => row.map String.ofList := by
  have hwords (cs : List Char) : Text.words (Text.trim (String.ofList cs)) =
      (Text.wordsFrom [] cs).map String.ofList := by
    rw [Text.words_trim, Text.words, String.toList_ofList]
  rw [program, words_programFrom, load, Text.lines, Text.wordLines, Text.nonempty]
  simp only [List.map_map, Function.comp_def, hwords]
  generalize Text.linesFrom [] source.toList = rows
  induction rows with
  | nil => rfl
  | cons row rows ih =>
    simp only [List.map_cons, List.filter_cons, ih]
    cases Text.wordsFrom [] row <;> simp

/-- **Texts that differ in layout ask for the same**, line by line. -/
theorem words_program_of_relaid (h : Text.Relaid s t) :
    (load s).program.map Line.words = (load t).program.map Line.words := by
  rw [words_program_load, words_program_load, h.wordLines_eq]

/-- **A script that is put together of lines** holds each of them without the blanks around it. -/
theorem lines_load_join (h : ∀ text ∈ texts, '\n' ∉ text.toList) :
    (load (String.join (texts.map (· ++ "\n")))).lines = texts.map Text.trim := by
  change (Text.lines _).map Text.trim = _
  unfold Text.lines
  induction texts with
  | nil => rfl
  | cons text texts ih =>
    have hjoin : (String.join ((text :: texts).map (· ++ "\n"))).toList =
        text.toList ++ '\n' :: (String.join (texts.map (· ++ "\n"))).toList := by
      simp [String.toList_join]
    have hrest := ih fun t ht => h t (List.mem_cons_of_mem text ht)
    rw [hjoin, Text.linesFrom_append_end (h text List.mem_cons_self), List.map_cons, List.map_cons,
      hrest]
    simp [Text.trim, Text.trimChars_dropReturn]

end Script

end CryoRig
