import Mathlib.Tactic.Lemma
import CryoRig.Proofs.Siblings
import CryoRig.Sampling.Table
import CryoRig.Text.Blank

/-!
# What is read back from a table

Rows are put behind each other, and whoever reads the file cuts it into lines and these at the
tabs. If no field of a row needs quotes and the row does not begin with a blank field, that gives
the fields that were written. Numbers never need quotes.

## Main definitions

* `CryoRig.Sampling.Table.Bare`: a text that needs no quotes.
* `CryoRig.Sampling.Table.Sound`: fields that make up a row without quotes.
* `CryoRig.Sampling.Table.cells`: the fields of a text, line by line.
* `CryoRig.Sampling.Table.IsRow`: a row of so many fields.

## Main results

* `CryoRig.Text.lines_join`: the lines of lines that are put behind each other.
* `CryoRig.Sampling.Table.cells_join_rows`: the fields of rows are read back.
* `CryoRig.Sampling.Table.sound_values`: so are those of every row of readings.
-/

namespace CryoRig

/-! ## Lines and fields -/

namespace Text

variable {mark : Char}

/-- A field without the separator is cut off in front of it. -/
lemma cut_cons_of_not_mem {field rest : List Char} (h : mark ∉ field) :
    cut mark (field ++ mark :: rest) = field :: cut mark rest := by
  induction field with
  | nil => simp [cut]
  | cons c cs ih =>
    obtain ⟨hc, hcs⟩ : mark ≠ c ∧ mark ∉ cs := by simpa using h
    rw [List.cons_append, cut, if_neg hc.symm, ih hcs]

/-- Fields without the separator are what is between the separators. -/
lemma cut_intercalate {fields : List (List Char)} (hne : fields ≠ [])
    (h : ∀ f ∈ fields, mark ∉ f) : cut mark ([mark].intercalate fields) = fields := by
  induction fields with
  | nil => exact absurd rfl hne
  | cons f rest ih =>
    have hf := h f List.mem_cons_self
    rcases Decidable.em (rest = []) with rfl | hrest
    · rw [List.intercalate_singleton, cut_of_not_mem hf]
    · rw [List.intercalate_cons_of_ne_nil hrest, List.append_assoc, List.singleton_append,
        cut_cons_of_not_mem hf, ih hrest fun g hg => h g (List.mem_cons_of_mem _ hg)]

lemma fields_intercalate {fs : List String} (hne : fs ≠ []) (h : ∀ f ∈ fs, mark ∉ f.toList) :
    fields mark ((String.ofList [mark]).intercalate fs) = fs := by
  have hcut : cut mark ([mark].intercalate (fs.map String.toList)) = fs.map String.toList :=
    cut_intercalate (by simpa using hne) (by simpa using h)
  rw [fields, String.toList_intercalate, String.toList_ofList, hcut, List.map_map]
  simp

/-- A text that can stand on a line: it holds no line break. -/
def OnLine (s : String) : Prop := ∀ c ∈ s.toList, c ≠ '\n' ∧ c ≠ '\r'

lemma linesFrom_append {line cs rest : List Char} (h : '\n' ∉ cs) :
    linesFrom line (cs ++ '\n' :: rest) =
      dropReturn (cs.reverse ++ line).reverse :: linesFrom [] rest := by
  induction cs generalizing line with
  | nil => simp [linesFrom]
  | cons c cs ih =>
    obtain ⟨hc, hcs⟩ : '\n' ≠ c ∧ '\n' ∉ cs := by simpa using h
    rw [List.cons_append, linesFrom, if_neg hc.symm, ih hcs]
    simp

/-- The lines of lines that are put behind each other, each with its line feed. -/
theorem lines_join {ls : List String} (h : ∀ l ∈ ls, OnLine l) :
    lines (String.join (ls.map (· ++ "\n"))) = ls := by
  have hchars : ∀ ls : List String, (∀ l ∈ ls, OnLine l) →
      linesFrom [] ((ls.map (· ++ "\n")).flatMap String.toList) = ls.map String.toList := by
    intro ls hls
    induction ls with
    | nil => rfl
    | cons l rest ih =>
      have hl := hls l List.mem_cons_self
      have hfeed : '\n' ∉ l.toList := fun hc => (hl _ hc).1 rfl
      have hreturn : l.toList.getLast? ≠ some '\r' := fun hc =>
        (hl _ (List.mem_of_getLast? hc)).2 rfl
      have hsplit : ((l :: rest).map (· ++ "\n")).flatMap String.toList =
          l.toList ++ '\n' :: (rest.map (· ++ "\n")).flatMap String.toList := by
        simp
      rw [hsplit, linesFrom_append hfeed, ih fun x hx => hls x (List.mem_cons_of_mem _ hx)]
      simp [dropReturn, hreturn]
  rw [lines, String.toList_join, hchars ls h, List.map_map]
  simp

end Text

namespace Sampling.Table

/-! ## Rows -/

/-- A text that needs no quotes. -/
def Bare (s : String) : Prop := ∀ c ∈ s.toList, isSpecial c = false

instance (s : String) : Decidable (Bare s) := List.decidableBAll _ _

/-- Fields that make up a row without quotes: none of them needs any, and the row does not begin
with a blank one. -/
structure Sound (fields : List String) : Prop where
  /-- No field needs quotes. -/
  bare : ∀ f ∈ fields, Bare f
  /-- The first field is there and not blank. -/
  first : ∃ f rest, fields = f :: rest ∧ f ≠ ""

/-- The fields of a text, line by line. -/
def cells (text : String) : List (List String) := (Text.lines text).map (Text.fields '\t')

/-- The line that fields make up if none of them needs quotes. -/
def line (fields : List String) : String := "\t".intercalate fields

variable {fields : List String}

lemma Bare.append {s t : String} (hs : Bare s) (ht : Bare t) : Bare (s ++ t) := by
  intro c hc
  rw [String.toList_append] at hc
  exact (List.mem_append.1 hc).elim (hs c) (ht c)

lemma Bare.not_tab {s : String} (h : Bare s) : '\t' ∉ s.toList := by
  intro hc
  have := h _ hc
  revert this
  decide

lemma line_ne_empty (h : Sound fields) : line fields ≠ "" := by
  obtain ⟨f, rest, rfl, hf⟩ := h.first
  rcases Decidable.em (rest = []) with rfl | hrest
  · rw [line, String.intercalate_singleton]
    exact hf
  · rw [line, String.intercalate_cons_of_ne_nil hrest]
    simp [hf]

/-- A sound row is its line with a line feed. -/
lemma row_eq (h : Sound fields) : row fields = line fields ++ "\n" := by
  have hfields : fields.map field = fields :=
    (List.map_congr_left fun f hf => field_eq_self (h.bare f hf)).trans (List.map_id _)
  have hne : ((line fields).isEmpty) = false := by
    simpa using line_ne_empty h
  unfold row
  rw [hfields]
  change (if (line fields).isEmpty = true then _ else line fields) ++ "\n" = _
  rw [hne]
  rfl

/-- No line of a sound row is broken. -/
lemma onLine_line (h : Sound fields) : Text.OnLine (line fields) := by
  intro c hc
  have hmem : ∀ fields : List String, (∀ f ∈ fields, Bare f) → c ∈ (line fields).toList →
      c = '\t' ∨ isSpecial c = false := by
    intro fields hbare hc
    induction fields with
    | nil => simp [line] at hc
    | cons f rest ih =>
      have hf := hbare f List.mem_cons_self
      rcases Decidable.em (rest = []) with rfl | hrest
      · rw [line, String.intercalate_singleton] at hc
        exact .inr (hf c hc)
      · rw [line, String.intercalate_cons_of_ne_nil hrest, String.toList_append,
          String.toList_append, List.mem_append, List.mem_append] at hc
        rcases hc with (hc | hc) | hc
        · exact .inr (hf c hc)
        · exact .inl (by simpa using hc)
        · exact ih (fun g hg => hbare g (List.mem_cons_of_mem _ hg)) hc
  constructor
  all_goals
    rintro rfl
    have := hmem fields h.bare hc
    revert this
    decide

/-- The fields of sound rows are read back from them. -/
theorem cells_join_rows {rows : List (List String)} (h : ∀ fields ∈ rows, Sound fields) :
    cells (String.join (rows.map row)) = rows := by
  have hrows : rows.map row = (rows.map line).map (· ++ "\n") := by
    rw [List.map_map]
    exact List.map_congr_left fun fields hf => row_eq (h fields hf)
  have hlines : ∀ l ∈ rows.map line, Text.OnLine l := by
    intro l hl
    obtain ⟨fields, hf, rfl⟩ := List.mem_map.1 hl
    exact onLine_line (h fields hf)
  have hfields : (rows.map line).map (Text.fields '\t') = rows := by
    rw [List.map_map]
    refine (List.map_congr_left fun fields hf => ?_).trans (List.map_id _)
    obtain ⟨_, _, hcons, -⟩ := (h fields hf).first
    exact Text.fields_intercalate (by simp [hcons]) fun f hm => ((h fields hf).bare f hm).not_tab
  rw [cells, hrows, Text.lines_join hlines, hfields]

/-- A row of so many fields, without quotes. -/
def IsRow (n : Nat) (text : String) : Prop :=
  ∃ fields, text = row fields ∧ Sound fields ∧ fields.length = n

/-- Rows of so many fields have as many fields on every line. -/
theorem length_of_mem_cells {n : Nat} {texts : List String} (h : ∀ text ∈ texts, IsRow n text) :
    ∀ fields ∈ cells (String.join texts), fields.length = n := by
  have hrows : ∃ rows : List (List String), texts = rows.map row ∧
      ∀ fields ∈ rows, Sound fields ∧ fields.length = n := by
    induction texts with
    | nil => exact ⟨[], rfl, List.forall_mem_nil _⟩
    | cons text rest ih =>
      obtain ⟨fields, rfl, hfields⟩ := h text List.mem_cons_self
      obtain ⟨rows, rfl, hrows⟩ := ih fun t ht => h t (List.mem_cons_of_mem _ ht)
      exact ⟨fields :: rows, rfl, List.forall_mem_cons.2 ⟨hfields, hrows⟩⟩
  obtain ⟨rows, rfl, hrows⟩ := hrows
  rw [cells_join_rows fun fields hf => (hrows fields hf).1]
  exact fun fields hf => (hrows fields hf).2

/-- The rows at the head of a file need no quotes if no name or unit does. -/
lemma sound_header {first : Channel} {columns : List Channel} (hname : first.name ≠ "")
    (hunit : first.unit ≠ "")
    (h : ∀ c ∈ first :: columns, Bare c.name ∧ Bare c.unit) :
    ∀ fields ∈ header (first :: columns), Sound fields := by
  refine List.forall_mem_cons.2 ⟨⟨?_, _, _, rfl, hname⟩, List.forall_mem_singleton.2
    ⟨?_, _, _, rfl, hunit⟩⟩
  · exact List.forall_mem_map.2 fun c hc => (h c hc).1
  · exact List.forall_mem_map.2 fun c hc => (h c hc).2

end Sampling.Table

/-! ## Readings -/

namespace Number

/-- The characters of numbers. -/
def IsNumeric (c : Char) : Prop := c.isDigit = true ∨ c = '-' ∨ c = '.'

lemma isNumeric_digitChars {n : Nat} : ∀ c ∈ digitChars n, IsNumeric c :=
  fun _ hc => .inl (Nat.isDigit_of_mem_toDigits (by decide) (by decide) hc)

lemma isNumeric_zeros {n : Nat} : ∀ c ∈ List.replicate n '0', IsNumeric c := by
  intro c hc
  obtain rfl := List.eq_of_mem_replicate hc
  exact .inl (by decide)

lemma isNumeric_zeroPad (width : Nat) {cs : List Char} (h : ∀ c ∈ cs, IsNumeric c) :
    ∀ c ∈ zeroPad width cs, IsNumeric c :=
  List.forall_mem_append.2 ⟨isNumeric_zeros, h⟩

lemma isNumeric_plainChars (d : Decimal) : ∀ c ∈ d.plainChars, IsNumeric c := by
  unfold Decimal.plainChars
  dsimp only
  split
  · split
    · exact isNumeric_digitChars
    · exact List.forall_mem_append.2 ⟨isNumeric_digitChars, isNumeric_zeros⟩
  · rename_i e _
    have hall := isNumeric_zeroPad (e + 1 + 1) (isNumeric_digitChars (n := d.digits))
    refine List.forall_mem_append.2 ⟨fun c hc => hall c (List.mem_of_mem_take hc), ?_⟩
    exact List.forall_mem_cons.2 ⟨.inr (.inr rfl), fun c hc => hall c (List.mem_of_mem_drop hc)⟩

lemma plainChars_ne_nil (d : Decimal) : d.plainChars ≠ [] := by
  unfold Decimal.plainChars
  dsimp only
  split
  · split <;> simp [digitChars]
  · simp

end Number

namespace Sampling.Table

lemma not_isSpecial_of_isNumeric {c : Char} (h : Number.IsNumeric c) : isSpecial c = false := by
  rcases h with h | rfl | rfl
  · refine Bool.eq_false_iff.2 fun hs => ?_
    have hcases : c = '\t' ∨ c = '"' ∨ c = '\n' ∨ c = '\r' := by
      simpa [isSpecial, or_assoc] using hs
    rcases hcases with rfl | rfl | rfl | rfl <;> exact absurd h (by decide)
  · decide
  · decide

/-- No number needs quotes, and none is blank. -/
lemma bare_plain (x : Float) : Bare (Number.plain x) ∧ Number.plain x ≠ "" := by
  unfold Number.plain
  split
  · rename_i negative m e _
    have hsign : ∀ c ∈ Number.signChars negative, Number.IsNumeric c := by
      cases negative
      · simp [Number.signChars]
      · exact List.forall_mem_singleton.2 (.inr (.inl rfl))
    have hall := List.forall_mem_append.2
      ⟨hsign, Number.isNumeric_plainChars (Number.shortest m e)⟩
    refine ⟨fun c hc => not_isSpecial_of_isNumeric (hall c (by simpa using hc)), ?_⟩
    simp [Number.plainChars_ne_nil]
  · rename_i negative _
    cases negative <;> decide
  · decide

lemma bare_value (x : Option Float) : Bare (value x) := by
  cases x with
  | none => decide
  | some x => exact (bare_plain x).1

/-- The fields of a row of readings make up a row without quotes. -/
theorem sound_values (first : Float) (readings : List (Option Float)) :
    Sound (Number.plain first :: readings.map value) where
  bare := by
    refine List.forall_mem_cons.2 ⟨(bare_plain first).1, fun f hf => ?_⟩
    obtain ⟨x, -, rfl⟩ := List.mem_map.1 hf
    exact bare_value x
  first := ⟨_, _, rfl, (bare_plain first).2⟩

end Sampling.Table

end CryoRig
