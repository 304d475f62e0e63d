import CryoRig.Script.Command
import Mathlib

/-!
# The texts of numbers

Numbers are read by looking at one character after the other. Which texts are numbers at all is
said here without a reader: a text is a floating point number if it can be cut into a sign, digits,
a point and an exponent in the right order, and a whole number if it is a plus sign and digits or
digits alone. A text may be cut in many ways, but a number has no two points in a row and no star,
so where two numbers are written with such a mark between them there is only one way to tell them
apart.

## Main definitions

* `CryoRig.Number.FloatText`: the texts of floating point numbers.
* `CryoRig.Number.WholeText`: the texts of a whole number.
* `CryoRig.Script.FirstCut`: where a mark occurs first in a text.
* `CryoRig.Script.Spells`: a word in any case.

## Main results

* `CryoRig.Number.exists_read_iff`: which texts are read as a floating point number.
* `CryoRig.Number.readWhole?_eq_some_iff`: which texts are read as a given whole number.
* `CryoRig.Script.splitOnce?_eq_some_iff`: a text is cut where a mark occurs first.
* `CryoRig.Script.firstCut_of_points`, `CryoRig.Script.firstCut_of_star`: two numbers with a mark
  between them.
-/

namespace CryoRig

namespace Number

variable {cs ds : List Char} {s : String} {limit n m : Nat}

/-! ## Digits -/

/-- Nothing but digits. -/
def Digits (cs : List Char) : Prop := ∀ c ∈ cs, c.isDigit

/-- A sign, or none. -/
def SignText (cs : List Char) : Prop := cs = [] ∨ cs = ['+'] ∨ cs = ['-']

/-- No digit comes first. -/
def DigitFree (cs : List Char) : Prop := ∀ c ∈ cs.head?, ¬c.isDigit

/-- Digits end where something else begins. -/
lemma spanDigits_append (hd : Digits ds) (hc : DigitFree cs) :
    spanDigits (ds ++ cs) = (ds, cs) := by
  have hcs : cs.takeWhile Char.isDigit = [] ∧ cs.dropWhile Char.isDigit = cs := by
    cases cs with
    | nil => exact ⟨rfl, rfl⟩
    | cons c cs =>
      have hno : c.isDigit = false := by simpa using hc c rfl
      simp [hno]
  rw [spanDigits, List.takeWhile_append_of_pos hd, List.dropWhile_append_of_pos hd, hcs.1, hcs.2,
    List.append_nil]

lemma spanDigits_eq (cs : List Char) :
    (spanDigits cs).1 ++ (spanDigits cs).2 = cs ∧ Digits (spanDigits cs).1 ∧
      DigitFree (spanDigits cs).2 := by
  refine ⟨List.takeWhile_append_dropWhile, fun c hc => List.mem_takeWhile_imp hc, fun c hc => ?_⟩
  have hhead := List.head?_dropWhile_not Char.isDigit cs
  rw [show (spanDigits cs).2.head? = (cs.dropWhile Char.isDigit).head? from rfl] at hc
  rw [Option.mem_def.1 hc] at hhead
  simpa using hhead

/-! ## Floating point numbers -/

/-- The text of an exponent, or none. -/
inductive ExponentText : List Char → Prop where
  /-- There is none. -/
  | absent : ExponentText []
  /-- A letter, a sign and digits. -/
  | present {mark : Char} {sign ds : List Char} (hm : mark = 'e' ∨ mark = 'E') (hs : SignText sign)
    (hd : Digits ds) (hne : ds ≠ []) : ExponentText (mark :: (sign ++ ds))

/-- The text of a finite number without its sign. -/
inductive DecimalText : List Char → Prop where
  /-- Digits with an exponent. -/
  | integral {whole exponent : List Char} (hw : Digits whole) (hne : whole ≠ [])
    (he : ExponentText exponent) : DecimalText (whole ++ exponent)
  /-- Digits with a point before, after or among them, with an exponent. -/
  | pointed {whole part exponent : List Char} (hw : Digits whole) (hp : Digits part)
    (hne : whole ≠ [] ∨ part ≠ []) (he : ExponentText exponent) :
    DecimalText (whole ++ '.' :: (part ++ exponent))

/-- The names of what is no finite number, in any case. -/
def NamedText (cs : List Char) : Prop :=
  cs.map Char.toLower ∈ ["inf".toList, "infinity".toList, "nan".toList]

/-- The text of a floating point number. -/
def FloatText (cs : List Char) : Prop :=
  ∃ sign ds, cs = sign ++ ds ∧ SignText sign ∧ (NamedText ds ∨ DecimalText ds)

lemma ExponentText.digitFree (h : ExponentText cs) : DigitFree cs := by
  cases h with
  | absent => rintro c ⟨⟩
  | present hm =>
    rintro c ⟨⟩
    rcases hm with rfl | rfl <;> decide

lemma ExponentText.head?_ne_point (h : ExponentText cs) : cs.head? ≠ some '.' := by
  cases h with
  | absent => simp
  | present hm => rcases hm with rfl | rfl <;> simp

/-- No sign comes first. -/
def Signless (cs : List Char) : Prop := ∀ c ∈ cs.head?, c ≠ '+' ∧ c ≠ '-'

lemma Digits.signless (h : Digits cs) : Signless cs := by
  intro c hc
  have hd := h c (List.mem_of_mem_head? hc)
  refine ⟨?_, ?_⟩ <;>
  · rintro rfl
    revert hd
    decide

/-- What is left without a sign. -/
def dropSign : List Char → List Char
  | '+' :: ds => ds
  | '-' :: ds => ds
  | ds => ds

lemma dropSign_of_signless (h : Signless cs) : dropSign cs = cs := by
  unfold dropSign
  split
  · exact absurd rfl (h '+' rfl).1
  · exact absurd rfl (h '-' rfl).2
  · rfl

/-- There is one way to take the sign off. -/
lemma exists_sign_iff {P : List Char → Prop} (hP : ∀ ds, P ds → Signless ds) :
    (∃ sign ds, cs = sign ++ ds ∧ SignText sign ∧ P ds) ↔ P (dropSign cs) := by
  constructor
  · rintro ⟨sign, ds, rfl, rfl | rfl | rfl, hds⟩
    · rwa [List.nil_append, dropSign_of_signless (hP ds hds)]
    · exact hds
    · exact hds
  · intro h
    unfold dropSign at h
    split at h
    · exact ⟨['+'], _, rfl, .inr (.inl rfl), h⟩
    · exact ⟨['-'], _, rfl, .inr (.inr rfl), h⟩
    · exact ⟨[], _, rfl, .inl rfl, h⟩

lemma readExponent_isSome_iff : (readExponent cs).isSome ↔ ExponentText cs := by
  cases cs with
  | nil => exact ⟨fun _ => .absent, fun _ => rfl⟩
  | cons mark cs =>
    have htext : ExponentText (mark :: cs) ↔ (mark = 'e' ∨ mark = 'E') ∧
        ∃ sign ds, cs = sign ++ ds ∧ SignText sign ∧ Digits ds ∧ ds ≠ [] := by
      constructor
      · generalize htext : mark :: cs = text
        rintro (_ | ⟨hm, hs, hd, hne⟩)
        · cases htext
        · cases htext
          exact ⟨hm, _, _, rfl, hs, hd, hne⟩
      · rintro ⟨hm, sign, ds, rfl, hs, hd, hne⟩
        exact .present hm hs hd hne
    rw [htext, exists_sign_iff (P := fun ds => Digits ds ∧ ds ≠ []) fun ds h => h.1.signless]
    unfold readExponent dropSign
    dsimp only
    by_cases hm : mark = 'e' ∨ mark = 'E'
    · rw [if_pos hm]
      split <;> simp [Digits, hm, and_comm]
    · simp [hm]

/-- Digits without a point. -/
lemma readUnsigned_integral (hd : Digits ds) (hc : DigitFree cs) (hp : cs.head? ≠ some '.') :
    (readUnsigned (ds ++ cs)).isSome ↔ ds ≠ [] ∧ ExponentText cs := by
  unfold readUnsigned
  rw [spanDigits_append hd hc]
  dsimp only
  split
  · exact absurd rfl hp
  · cases ds with
    | nil => simp
    | cons d ds => simp [readExponent_isSome_iff]

/-- Digits with a point. -/
lemma readUnsigned_pointed {whole part : List Char} (hw : Digits whole) (hp : Digits part)
    (hc : DigitFree cs) :
    (readUnsigned (whole ++ '.' :: (part ++ cs))).isSome ↔
      (whole ≠ [] ∨ part ≠ []) ∧ ExponentText cs := by
  have hpoint : DigitFree ('.' :: (part ++ cs)) := by
    rintro c ⟨⟩
    decide
  unfold readUnsigned
  simp only [spanDigits_append hw hpoint, spanDigits_append hp hc]
  cases whole <;> cases part <;> simp [readExponent_isSome_iff]

lemma readUnsigned_isSome_iff : (readUnsigned cs).isSome ↔ DecimalText cs := by
  constructor
  · intro h
    obtain ⟨hcs, hw, hrest⟩ := spanDigits_eq cs
    generalize (spanDigits cs).1 = whole at hcs hw
    generalize (spanDigits cs).2 = rest at hcs hrest
    subst hcs
    by_cases hpoint : rest.head? = some '.'
    · obtain ⟨rest, rfl⟩ := List.head?_eq_some_iff.1 hpoint
      obtain ⟨hrest, hp, he⟩ := spanDigits_eq rest
      rw [← hrest] at h ⊢
      obtain ⟨hne, hexp⟩ := (readUnsigned_pointed hw hp he).1 h
      exact .pointed hw hp hne hexp
    · obtain ⟨hne, hexp⟩ := (readUnsigned_integral hw hrest hpoint).1 h
      exact .integral hw hne hexp
  · rintro (⟨hw, hne, he⟩ | ⟨hw, hp, hne, he⟩)
    · exact (readUnsigned_integral hw he.digitFree he.head?_ne_point).2 ⟨hne, he⟩
    · exact (readUnsigned_pointed hw hp he.digitFree).2 ⟨hne, he⟩

lemma readMagnitude_isSome_iff : (readMagnitude cs).isSome ↔ NamedText cs ∨ DecimalText cs := by
  rw [readMagnitude, Option.isSome_or, Bool.or_eq_true, readUnsigned_isSome_iff]
  refine or_congr_left ?_
  unfold readNamed NamedText
  simp only [List.mem_cons, List.not_mem_nil, or_false, ← or_assoc]
  split
  · next h => exact ⟨fun _ => .inl h, fun _ => rfl⟩
  · next h =>
    split
    · next hnan => exact ⟨fun _ => .inr hnan, fun _ => rfl⟩
    · next hnan => exact ⟨nofun, fun h' => (h'.elim h hnan).elim⟩

lemma NamedText.signless (h : NamedText cs) : Signless cs := by
  intro c hc
  obtain ⟨rest, rfl⟩ := List.head?_eq_some_iff.1 hc
  refine ⟨?_, ?_⟩ <;>
  · rintro rfl
    simp [NamedText] at h

lemma DecimalText.signless (h : DecimalText cs) : Signless cs := by
  cases h with
  | @integral whole exponent hw hne =>
    obtain ⟨d, whole, rfl⟩ := List.exists_cons_of_ne_nil hne
    rintro c ⟨⟩
    exact hw.signless d rfl
  | @pointed whole part exponent hw =>
    cases whole with
    | nil =>
      rintro c ⟨⟩
      decide
    | cons d whole =>
      rintro c ⟨⟩
      exact hw.signless d rfl

/-- **What is read as a floating point number** is what has the text of one. -/
theorem exists_read_iff : (∃ x, read s = .ok x) ↔ FloatText s.toList := by
  have hsign (cs : List Char) (h : NamedText cs ∨ DecimalText cs) : Signless cs :=
    h.elim NamedText.signless DecimalText.signless
  rw [FloatText, exists_sign_iff hsign, ← readMagnitude_isSome_iff, Option.isSome_iff_exists]
  rw [read]
  generalize s.toList = cs
  unfold readChars dropSign
  split
  · simp [readMagnitude, readNamed, readUnsigned, spanDigits]
  · next ds => cases h : readMagnitude ds <;> simp [h]
  · next ds => cases h : readMagnitude ds <;> simp [h]
  · next hminus hplus =>
    split
    · exact absurd rfl (hplus _)
    · exact absurd rfl (hminus _)
    · cases h : readMagnitude cs <;> simp

lemma Digits.count_point (h : Digits cs) : cs.count '.' = 0 :=
  List.count_eq_zero.2 fun hp => absurd (h _ hp) (by decide)

lemma SignText.count_point (h : SignText cs) : cs.count '.' = 0 := by
  rcases h with rfl | rfl | rfl <;> rfl

lemma ExponentText.count_point (h : ExponentText cs) : cs.count '.' = 0 := by
  cases h with
  | absent => rfl
  | present hm hs hd =>
    rcases hm with rfl | rfl <;> simp [hs.count_point, hd.count_point]

lemma NamedText.count_point (h : NamedText cs) : cs.count '.' = 0 := by
  refine List.count_eq_zero.2 fun hp => ?_
  have hmem : ('.' : Char) ∈ cs.map Char.toLower := List.mem_map_of_mem (f := Char.toLower) hp
  simp only [NamedText, List.mem_cons, List.not_mem_nil, or_false] at h
  rcases h with h | h | h <;> rw [h] at hmem <;> revert hmem <;> decide

/-- A floating point number has at most one point. -/
lemma FloatText.count_point_le (h : FloatText cs) : cs.count '.' ≤ 1 := by
  obtain ⟨sign, ds, rfl, hs, hnamed | ⟨hw, -, he⟩ | ⟨hw, hp, -, he⟩⟩ := h
  · simp [hs.count_point, hnamed.count_point]
  · simp [hs.count_point, hw.count_point, he.count_point]
  · simp [hs.count_point, hw.count_point, hp.count_point, he.count_point]

/-! ## Whole numbers -/

/-- The text of a whole number. -/
def WholeText (n : Nat) (cs : List Char) : Prop :=
  ∃ plus ds, cs = plus ++ ds ∧ (plus = [] ∨ plus = ['+']) ∧ ds ≠ [] ∧ Digits ds ∧
    digitsValue ds = n

lemma digitsValue_from_le (n : Nat) (cs : List Char) :
    n ≤ cs.foldl (fun n c => 10 * n + (c.toNat - '0'.toNat)) n := by
  induction cs generalizing n with
  | nil => exact Nat.le_refl n
  | cons c cs ih =>
    rw [List.foldl_cons]
    exact Nat.le_trans (by omega) (ih _)

/-- Digits are read as long as they fit, and they fit if all of them do. -/
lemma wholeFrom_eq_ok_iff (hn : n ≤ limit) :
    wholeFrom limit n cs = .ok m ↔ Digits cs ∧
      cs.foldl (fun n c => 10 * n + (c.toNat - '0'.toNat)) n = m ∧ m ≤ limit := by
  induction cs generalizing n with
  | nil =>
    simp only [wholeFrom, Except.ok.injEq, List.foldl_nil]
    exact ⟨fun h => ⟨nofun, h, h ▸ hn⟩, fun h => h.2.1⟩
  | cons c cs ih =>
    have hdigits : Digits (c :: cs) ↔ c.isDigit ∧ Digits cs := List.forall_mem_cons
    rw [hdigits, wholeFrom, List.foldl_cons]
    by_cases hc : c.isDigit
    · rw [if_pos hc]
      dsimp only
      split
      · next hnext =>
        rw [ih hnext]
        simp only [hc, true_and]
      · next hnext =>
        refine ⟨nofun, fun h => absurd ?_ hnext⟩
        exact Nat.le_trans (digitsValue_from_le _ cs) (h.2.1 ▸ h.2.2)
    · simp [hc]

/-- **What is read as a whole number** is what has the text of one, if it is not too large. -/
theorem readWhole?_eq_some_iff :
    readWhole? limit s = some n ↔ WholeText n s.toList ∧ n ≤ limit := by
  have hok {r : Except Fault Nat} : r.toOption = some n ↔ r = .ok n := by
    cases r <;> simp [Except.toOption]
  rw [readWhole?, hok, readWhole, WholeText]
  generalize s.toList = cs
  split
  · refine ⟨nofun, ?_⟩
    rintro ⟨⟨plus, ds, h, -, hne, -⟩, -⟩
    exact absurd (List.append_eq_nil_iff.1 h.symm).2 hne
  · refine ⟨nofun, ?_⟩
    rintro ⟨⟨plus, ds, h, rfl | rfl, hne, hd, -⟩, -⟩
    · rw [List.nil_append] at h
      exact absurd (hd '+' (h ▸ List.mem_singleton_self _)) (by decide)
    · simp only [List.cons_append, List.nil_append, List.cons.injEq, true_and] at h
      exact absurd h.symm hne
  · next ds hne =>
    rw [wholeFrom_eq_ok_iff (Nat.zero_le _)]
    constructor
    · rintro ⟨hd, hv, hle⟩
      refine ⟨⟨['+'], ds, rfl, .inr rfl, ?_, hd, hv⟩, hle⟩
      rintro rfl
      exact hne rfl
    · rintro ⟨⟨plus, ds', h, rfl | rfl, -, hd, hv⟩, hle⟩
      · rw [List.nil_append] at h
        exact absurd (hd '+' (h ▸ List.mem_cons_self ..)) (by decide)
      · cases h
        exact ⟨hd, hv, hle⟩
  · next hempty _ hplus =>
    rw [wholeFrom_eq_ok_iff (Nat.zero_le _)]
    constructor
    · rintro ⟨hd, hv, hle⟩
      exact ⟨⟨[], cs, rfl, .inl rfl, hempty, hd, hv⟩, hle⟩
    · rintro ⟨⟨plus, ds, rfl, rfl | rfl, -, hd, hv⟩, hle⟩
      · exact ⟨hd, hv, hle⟩
      · exact absurd rfl (hplus ds)

/-- A whole number has no star. -/
lemma WholeText.star_notMem (h : WholeText n cs) : '*' ∉ cs := by
  obtain ⟨plus, ds, rfl, hplus, -, hd, -⟩ := h
  rw [List.mem_append, not_or]
  refine ⟨?_, fun hs => absurd (hd _ hs) (by decide)⟩
  rcases hplus with rfl | rfl <;> decide

end Number

namespace Script

variable {mark cs a b : List Char} {word text : String}

/-! ## Cutting a text at a mark -/

/-- A text is two parts with a mark between them, and the mark occurs nowhere before. -/
def FirstCut (mark cs a b : List Char) : Prop :=
  cs = a ++ mark ++ b ∧ ∀ a' b', cs = a' ++ mark ++ b' → a.length ≤ a'.length

/-- A text is cut where a mark occurs first. -/
theorem splitOnce?_eq_some_iff (hm : mark ≠ []) :
    splitOnce? mark cs = some (a, b) ↔ FirstCut mark cs a b := by
  induction cs generalizing a with
  | nil =>
    have hempty : mark.isEmpty = false := by simpa using hm
    simp only [splitOnce?, hempty, Bool.false_eq_true, if_false, reduceCtorEq, false_iff]
    rintro ⟨h, -⟩
    simp [hm] at h
  | cons c cs ih =>
    rw [splitOnce?]
    split
    · next hprefix =>
      obtain ⟨rest, hrest⟩ := List.isPrefixOf_iff_prefix.1 hprefix
      rw [← hrest, List.drop_left, Option.some.injEq, Prod.mk.injEq]
      constructor
      · rintro ⟨rfl, rfl⟩
        exact ⟨rfl, fun _ _ _ => Nat.zero_le _⟩
      · rintro ⟨h, hfirst⟩
        obtain rfl := List.eq_nil_of_length_eq_zero (Nat.le_zero.1 (hfirst [] rest rfl))
        exact ⟨rfl, List.append_cancel_left h⟩
    · next hprefix =>
      have hno (b' : List Char) : c :: cs ≠ [] ++ mark ++ b' :=
        fun h => hprefix (List.isPrefixOf_iff_prefix.2 ⟨b', h.symm⟩)
      constructor
      · intro h
        obtain ⟨⟨x, y⟩, hcut, hxy⟩ := Option.map_eq_some_iff.1 h
        cases hxy
        obtain ⟨hcs, hfirst⟩ := ih.1 hcut
        refine ⟨by rw [hcs]; rfl, fun a' b' h' => ?_⟩
        rcases a' with _ | ⟨d, a'⟩
        · exact absurd h' (hno b')
        · exact Nat.succ_le_succ (hfirst a' b' (List.cons.inj h').2)
      · rintro ⟨h, hfirst⟩
        rcases a with _ | ⟨d, a⟩
        · exact absurd h (hno b)
        · obtain ⟨rfl, hcs⟩ := List.cons.inj h
          refine Option.map_eq_some_iff.2 ⟨(a, b), ih.2 ⟨hcs, fun a' b' h' => ?_⟩, rfl⟩
          exact Nat.le_of_succ_le_succ (hfirst (c :: a') b' (by rw [h']; rfl))

/-- What an earlier cut leaves of the part before a later one. -/
lemma exists_of_lt {a' b' : List Char} (h : a ++ mark ++ b = a' ++ mark ++ b')
    (hlt : a'.length < a.length) :
    ∃ c m, a = a' ++ c :: m ∧ mark ++ b' = c :: (m ++ (mark ++ b)) := by
  rw [List.append_assoc, List.append_assoc] at h
  rcases List.append_eq_append_iff.1 h with ⟨m, rfl, -⟩ | ⟨m, rfl, hm⟩
  · rw [List.length_append] at hlt
    omega
  · rcases m with _ | ⟨c, m⟩
    · simp at hlt
    · exact ⟨c, m, rfl, hm⟩

/-- Two points come first after a text that has no two of them and does not end with one. -/
lemma firstCut_of_getLast (ha : a.count '.' ≤ 1) (hlast : a.getLast? ≠ some '.') :
    FirstCut "..".toList (a ++ "..".toList ++ b) a b := by
  refine ⟨rfl, fun a' b' h => Nat.not_lt.1 fun hlt => ?_⟩
  obtain ⟨c, m, rfl, hm⟩ := exists_of_lt h hlt
  change '.' :: '.' :: b' = _ at hm
  obtain ⟨rfl, hrest⟩ := List.cons.inj hm
  rcases m with _ | ⟨d, m⟩
  · exact hlast (by simp)
  · obtain ⟨rfl, -⟩ := List.cons.inj hrest
    simp at ha
    omega

/-- Two points come first after a text that has no two of them, unless there are three in a row. -/
lemma firstCut_of_points (ha : a.count '.' ≤ 1)
    (hno : ∀ x y, a ++ "..".toList ++ b ≠ x ++ "...".toList ++ y) :
    FirstCut "..".toList (a ++ "..".toList ++ b) a b := by
  refine firstCut_of_getLast ha fun hlast => ?_
  obtain ⟨a, rfl⟩ := List.getLast?_eq_some_iff.1 hlast
  exact hno a b (by simp)

/-- A star comes first after a text that has none. -/
lemma firstCut_of_star (ha : '*' ∉ a) : FirstCut ['*'] (a ++ ['*'] ++ b) a b := by
  refine ⟨rfl, fun a' b' h => Nat.not_lt.1 fun hlt => ?_⟩
  obtain ⟨c, m, rfl, hm⟩ := exists_of_lt h hlt
  obtain ⟨rfl, -⟩ := List.cons.inj hm
  simp at ha

/-! ## Words in any case -/

/-- A text is a word, up to the case of the letters from `a` to `z`. -/
def Spells (word text : String) : Prop := text.toLower = word.toLower

/-- Texts with the same capitals are spelled the same. -/
lemma toUpper_eq_toUpper_iff : text.toUpper = word.toUpper ↔ Spells word text := by
  have hmap (f : Char → Char) : String.map f text = String.map f word ↔
      text.toList.map f = word.toList.map f := by
    rw [← String.toList_inj, String.toList_map, String.toList_map]
  unfold Spells String.toUpper String.toLower
  rw [hmap, hmap]
  have hcomp {f g : Char → Char} {s t : List Char} (hfg : ∀ c, f (g c) = f c)
      (h : s.map g = t.map g) : s.map f = t.map f := by
    simpa [List.map_map, Function.comp_def, hfg] using congrArg (List.map f) h
  exact ⟨hcomp Char.toLower_toUpper_eq_toLower, hcomp Char.toUpper_toLower_eq_toUpper⟩

end Script

end CryoRig
