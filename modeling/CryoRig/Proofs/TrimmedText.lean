import Mathlib.Data.List.DropRight
import Mathlib.Data.List.Forall2
import CryoRig.Proofs.TableText

/-!
# Blanks around fields

Blanks at either end of a text are cut off before it is read. A row of fields is cut at its marks,
and then each field is trimmed. So it does not matter how a field is padded, nor what blanks stand
behind the last one, and it does not matter either that the row was trimmed before.

## Main definitions

* `CryoRig.Text.AllBlank`: a text of nothing but blanks.
* `CryoRig.Text.Padded`: a text with blanks around it.
* `CryoRig.Text.Joined`: padded texts with a mark between two of them.

## Main results

* `CryoRig.Text.trimChars_padded`: what is trimmed off a text may as well not be there.
* `CryoRig.Text.Joined.map_trimChars_cut`: padded texts are found again between the marks.
-/

namespace CryoRig.Text

variable {cs before after : List Char} {mark : Char}

/-- Nothing but blanks. -/
def AllBlank (cs : List Char) : Prop := ∀ c ∈ cs, isBlank c = true

instance (cs : List Char) : Decidable (AllBlank cs) := List.decidableBAll _ _

/-- A mark that is no blank does not occur among blanks. -/
lemma AllBlank.not_mem (h : AllBlank cs) (hmark : isBlank mark = false) : mark ∉ cs := fun hmem =>
  Bool.false_ne_true (hmark.symm.trans (h mark hmem))

/-! ## Trimming -/

lemma trimLeft_blank_append (h : AllBlank before) : trimLeft (before ++ cs) = trimLeft cs :=
  List.dropWhile_append_of_pos h

lemma trimLeft_eq_nil_iff : trimLeft cs = [] ↔ AllBlank cs := List.dropWhile_eq_nil_iff

lemma trimRight_append_blank (h : AllBlank after) : trimRight (cs ++ after) = trimRight cs := by
  have hreverse : ∀ c ∈ after.reverse, isBlank c = true := fun c hc => h c (List.mem_reverse.1 hc)
  rw [trimRight, List.reverse_append, List.dropWhile_append_of_pos hreverse, trimRight]

/-- Blanks in front of a text are trimmed off. -/
lemma trimChars_blank_append (h : AllBlank before) : trimChars (before ++ cs) = trimChars cs := by
  rw [trimChars, trimLeft_blank_append h, trimChars]

/-- Blanks behind a text are trimmed off. -/
lemma trimChars_append_blank (h : AllBlank after) : trimChars (cs ++ after) = trimChars cs := by
  rw [trimChars, trimLeft, List.dropWhile_append]
  split
  · -- of a blank text nothing is left, with more blanks or without
    next hcs =>
    have hcs : trimLeft cs = [] := List.isEmpty_iff.1 hcs
    have hafter : after.dropWhile isBlank = [] := List.dropWhile_eq_nil_iff.2 h
    rw [hafter, trimChars, hcs]
  · exact trimRight_append_blank h

/-- Blanks on both sides of a text are trimmed off. -/
theorem trimChars_padded (hbefore : AllBlank before) (hafter : AllBlank after) :
    trimChars (before ++ cs ++ after) = trimChars cs := by
  rw [trimChars_append_blank hafter, trimChars_blank_append hbefore]

/-- What trimming leaves had blanks on both sides. -/
lemma exists_trimChars (cs : List Char) :
    ∃ before after, AllBlank before ∧ AllBlank after ∧ cs = before ++ trimChars cs ++ after := by
  refine ⟨cs.takeWhile isBlank, (trimLeft cs).rtakeWhile isBlank,
    fun c hc => List.mem_takeWhile_imp hc, fun c hc => List.mem_rtakeWhile_imp hc, ?_⟩
  have hright : trimChars cs ++ (trimLeft cs).rtakeWhile isBlank = trimLeft cs :=
    List.rdropWhile_append_rtakeWhile
  rw [List.append_assoc, hright]
  exact List.takeWhile_append_dropWhile.symm

/-- Nothing is left of a text exactly if it has nothing but blanks. -/
lemma trimChars_eq_nil_iff : trimChars cs = [] ↔ AllBlank cs := by
  constructor
  · intro h
    obtain ⟨before, after, hbefore, hafter, hcs⟩ := exists_trimChars cs
    rw [hcs, h, List.append_nil]
    exact List.forall_mem_append.2 ⟨hbefore, hafter⟩
  · intro h
    rw [trimChars, trimLeft_eq_nil_iff.2 h]
    rfl

/-! ## Fields -/

/-- A text in front of another one belongs to its first field. -/
lemma cut_prepend (hbefore : mark ∉ before) (cs : List Char) :
    ∃ first rest, cut mark cs = first :: rest ∧
      cut mark (before ++ cs) = (before ++ first) :: rest := by
  induction before with
  | nil =>
    obtain ⟨first, rest, h⟩ := List.exists_cons_of_ne_nil (cut_ne_nil mark cs)
    exact ⟨first, rest, h, h⟩
  | cons c before ih =>
    obtain ⟨hc, hbefore⟩ : mark ≠ c ∧ mark ∉ before := by simpa using hbefore
    obtain ⟨first, rest, h, h'⟩ := ih hbefore
    refine ⟨first, rest, h, ?_⟩
    rw [List.cons_append, cut, if_neg hc.symm, h']
    rfl

/-- Once the fields are trimmed, blanks at either end of the row make no difference. -/
lemma map_trimChars_cut_padded (hmark : isBlank mark = false) (hbefore : AllBlank before)
    (hafter : AllBlank after) :
    (cut mark (before ++ cs ++ after)).map trimChars = (cut mark cs).map trimChars := by
  -- those in front belong to the first field, and those behind to the last one
  have hfront : (cut mark (before ++ cs)).map trimChars = (cut mark cs).map trimChars := by
    obtain ⟨first, rest, h, h'⟩ := cut_prepend (hbefore.not_mem hmark) cs
    rw [h, h', List.map_cons, List.map_cons, trimChars_blank_append hbefore]
  obtain ⟨fields, last, hlast⟩ := cut_append mark (before ++ cs)
  have hnone := hlast [] List.not_mem_nil
  rw [List.append_nil, List.append_nil] at hnone
  rw [← hfront, hlast after (hafter.not_mem hmark), hnone, List.map_append, List.map_append,
    List.map_singleton, List.map_singleton, trimChars_append_blank hafter]

/-- Nor does it make a difference that the row is trimmed itself. -/
lemma map_trimChars_cut_trimChars (hmark : isBlank mark = false) (cs : List Char) :
    (cut mark (trimChars cs)).map trimChars = (cut mark cs).map trimChars := by
  obtain ⟨before, after, hbefore, hafter, hcs⟩ := exists_trimChars cs
  conv_rhs => rw [hcs]
  exact (map_trimChars_cut_padded hmark hbefore hafter).symm

/-! ## Padded texts in a row -/

/-- A text with blanks in front of it and behind it. -/
def Padded (text padded : List Char) : Prop :=
  ∃ before after, AllBlank before ∧ AllBlank after ∧ padded = before ++ text ++ after

/-- Texts in a row: there are blanks around each, a mark between two of them, and more blanks behind
the last one, such as the end of a line. -/
def Joined (mark : Char) (texts : List (List Char)) (cs : List Char) : Prop :=
  ∃ padded ending, List.Forall₂ Padded texts padded ∧ AllBlank ending ∧
    cs = [mark].intercalate padded ++ ending

variable {texts padded : List (List Char)}

lemma map_trimChars_of_padded (h : List.Forall₂ Padded texts padded) :
    padded.map trimChars = texts.map trimChars := by
  induction h with
  | nil => rfl
  | cons hpad _ ih =>
    obtain ⟨before, after, hbefore, hafter, rfl⟩ := hpad
    rw [List.map_cons, List.map_cons, trimChars_padded hbefore hafter, ih]

lemma not_mem_of_padded (hmark : isBlank mark = false) (hfree : ∀ t ∈ texts, mark ∉ t)
    (h : List.Forall₂ Padded texts padded) : ∀ p ∈ padded, mark ∉ p := by
  induction h with
  | nil => exact nofun
  | cons hpad _ ih =>
    obtain ⟨before, after, hbefore, hafter, rfl⟩ := hpad
    obtain ⟨ht, hfree⟩ := List.forall_mem_cons.1 hfree
    refine List.forall_mem_cons.2 ⟨?_, ih hfree⟩
    simp [hbefore.not_mem hmark, hafter.not_mem hmark, ht]

/-- **Padded texts are found again between the marks**, each trimmed and in order.

**Proof sketch.** No blank is a mark, so the row is cut where the texts were joined. What is between
the marks is a text with blanks around it, except that the last one may have lost some blanks and
the first one too, as the row was trimmed. After each is trimmed that makes no difference. -/
theorem Joined.map_trimChars_cut (hne : texts ≠ []) (hmark : isBlank mark = false)
    (hfree : ∀ t ∈ texts, mark ∉ t) (h : Joined mark texts cs) :
    (cut mark (trimChars cs)).map trimChars = texts.map trimChars := by
  obtain ⟨padded, ending, hpadded, hending, rfl⟩ := h
  have hne' : padded ≠ [] := by
    rintro rfl
    exact hne (List.forall₂_nil_right_iff.1 hpadded)
  have hnone : AllBlank [] := nofun
  calc (cut mark (trimChars ([mark].intercalate padded ++ ending))).map trimChars
      = (cut mark ([mark].intercalate padded ++ ending)).map trimChars :=
        map_trimChars_cut_trimChars hmark _
    _ = (cut mark ([mark].intercalate padded)).map trimChars :=
        map_trimChars_cut_padded hmark hnone hending
    _ = padded.map trimChars := by
        rw [cut_intercalate hne' (not_mem_of_padded hmark hfree hpadded)]
    _ = texts.map trimChars := map_trimChars_of_padded hpadded

end CryoRig.Text
