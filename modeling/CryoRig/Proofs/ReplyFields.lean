import Mathlib.Data.List.Forall2
import CryoRig.Instrument.Bus
import CryoRig.Proofs.NumberTexts
import CryoRig.Proofs.TrimmedText

/-!
# The numbers of a reply

Instruments reply with numbers in a row, separated by commas. What is read from a reply is said here
by the texts that it was made of, however they were padded: if each of them is the text of a number,
there is one value for each, in order. Otherwise there are no values at all, and the fault is that
of the first text that is no number, with what is wrong with it. Only a reply of nothing but blanks
has a fault of its own.

## Main definitions

* `CryoRig.Instrument.Holds`: the value that a text is read as.
* `CryoRig.Instrument.MadeOf`: a reply made of padded texts.
* `CryoRig.Instrument.FirstBad`: the first text that is no number.
* `CryoRig.Instrument.Unreadable`: the fault of a reply that is not read.

## Main results

* `CryoRig.Number.read_eq_error_iff`: what is wrong with a text that is no number.
* `CryoRig.Instrument.parseValues_eq_ok_iff`: which values are read.
* `CryoRig.Instrument.parseValues_eq_error_iff`: why none are read.
* `CryoRig.Instrument.exists_parseValues_iff`: whether there are any.
-/

namespace CryoRig

/-! ## What is wrong with a text -/

namespace Number

variable {s : String} {cause : Fault}

/-- There is one fault for a text that is no number, and it says whether there is a text at all. -/
lemma eq_of_readChars_eq_error {cs : List Char} (h : readChars cs = .error cause) :
    cause = if cs = [] then .emptyFloat else .badFloat := by
  have hfault (result : Option Float)
      (h : (result.elim (.error .badFloat) .ok : Except Fault Float) = .error cause) :
      cause = .badFloat := by
    cases result with
    | none => exact (Except.error.inj h).symm
    | some x => cases h
  unfold readChars at h
  split at h
  · cases h
    rfl
  · exact hfault _ h
  · exact hfault _ h
  · next hne _ _ => rw [if_neg hne, hfault _ h]

/-- A text is refused if it is not that of a number, and for one reason. -/
theorem read_eq_error_iff :
    read s = .error cause ↔
      ¬FloatText s.toList ∧ cause = if s.toList = [] then .emptyFloat else .badFloat := by
  constructor
  · intro h
    refine ⟨fun hfloat => ?_, eq_of_readChars_eq_error h⟩
    obtain ⟨x, hx⟩ := exists_read_iff.2 hfloat
    rw [h] at hx
    cases hx
  · rintro ⟨hfloat, rfl⟩
    cases h : read s with
    | ok x => exact absurd (exists_read_iff.1 ⟨x, h⟩) hfloat
    | error cause => rw [eq_of_readChars_eq_error h]

end Number

namespace Instrument

/-! ## One field after the other -/

section Traversal

variable {α β ε : Type} {f : α → Except ε β} {as : List α} {bs : List β} {e : ε}

lemma mapM_eq_ok_iff : as.mapM f = .ok bs ↔ List.Forall₂ (fun a b => f a = .ok b) as bs := by
  induction as generalizing bs with
  | nil => cases bs <;> simp [pure, Except.pure]
  | cons a as ih =>
    rw [List.mapM_cons, List.forall₂_cons_left_iff]
    cases ha : f a with
    | error e => simp [bind, Except.bind]
    | ok b =>
      cases has : as.mapM f with
      | error e => simp [bind, Except.bind, ← ih, has]
      | ok bs' => simp [bind, Except.bind, pure, Except.pure, ← ih, has, eq_comm]

/-- What stops it is the first that fails. -/
lemma mapM_eq_error_iff :
    as.mapM f = .error e ↔ ∃ before a after, as = before ++ a :: after ∧
      (∀ a ∈ before, ∃ b, f a = .ok b) ∧ f a = .error e := by
  induction as with
  | nil => simp [pure, Except.pure]
  | cons a as ih =>
    rw [List.mapM_cons]
    cases ha : f a with
    | error e' =>
      constructor
      · rintro ⟨⟩
        exact ⟨[], a, as, rfl, nofun, ha⟩
      · rintro ⟨_ | ⟨a', before⟩, a'', after, heq, hbefore, he⟩
        · cases heq
          cases ha.symm.trans he
          rfl
        · cases heq
          obtain ⟨b, hb⟩ := hbefore a List.mem_cons_self
          cases ha.symm.trans hb
    | ok b =>
      have hrest : (.ok b >>= fun b => as.mapM f >>= fun bs => pure (b :: bs)) = .error e ↔
          as.mapM f = .error e := by
        cases as.mapM f <;> simp [bind, Except.bind, pure, Except.pure]
      rw [hrest, ih]
      constructor
      · rintro ⟨before, a', after, rfl, hbefore, he⟩
        exact ⟨a :: before, a', after, rfl, List.forall_mem_cons.2 ⟨⟨b, ha⟩, hbefore⟩, he⟩
      · rintro ⟨_ | ⟨a', before⟩, a'', after, heq, hbefore, he⟩
        · cases heq
          cases ha.symm.trans he
        · cases heq
          exact ⟨before, a'', after, rfl, fun x hx => hbefore x (List.mem_cons_of_mem _ hx), he⟩

end Traversal

/-! ## Fields -/

section Fields

variable {text : String} {x : Float} {fault : DeviceFault}

/-- A text stands for a value: trimmed, it is read as that. -/
def Holds (text : String) (x : Float) : Prop := Number.read (Text.trim text) = .ok x

/-- A text stands for some value: trimmed, it is that of a number. -/
def IsNumber (text : String) : Prop := Number.FloatText (Text.trim text).toList

/-- The fault of a text that is no number names it, and says what is wrong with it. -/
def fieldFault (text : String) : DeviceFault :=
  .during (.field (Text.trim text))
    (.number (if (Text.trim text).toList = [] then .emptyFloat else .badFloat))

lemma exists_holds_iff : (∃ x, Holds text x) ↔ IsNumber text := Number.exists_read_iff

/-- A field is read once it is trimmed. -/
lemma parseField_toList (text : String) :
    parseField text.toList = (Number.read (Text.trim text)).mapError fun cause =>
      .during (.field (Text.trim text)) (.number cause) := by
  rw [parseField, Number.read, Text.trim, String.toList_ofList]

lemma parseField_eq_ok_iff : parseField text.toList = .ok x ↔ Holds text x := by
  rw [parseField_toList, Holds]
  cases Number.read (Text.trim text) with
  | error cause => exact ⟨nofun, nofun⟩
  | ok y => simp [Except.mapError]

lemma parseField_eq_error_iff :
    parseField text.toList = .error fault ↔ ¬IsNumber text ∧ fault = fieldFault text := by
  rw [parseField_toList, IsNumber, fieldFault]
  cases h : Number.read (Text.trim text) with
  | error cause =>
    obtain ⟨hfloat, rfl⟩ := Number.read_eq_error_iff.1 h
    simp only [Except.mapError, Except.error.injEq, hfloat, not_false_eq_true, true_and]
    exact eq_comm
  | ok y =>
    have hfloat : Number.FloatText (Text.trim text).toList := Number.exists_read_iff.1 ⟨y, h⟩
    simp [Except.mapError, hfloat]

/-- It does not matter how fields are padded. -/
lemma mapM_parseField_congr {fields fields' : List (List Char)}
    (h : fields.map Text.trimChars = fields'.map Text.trimChars) :
    fields.mapM parseField = fields'.mapM parseField := by
  have htrim (fields : List (List Char)) : fields.mapM parseField =
      (fields.map Text.trimChars).mapM fun cs => (Number.readChars cs).mapError fun cause =>
        .during (.field (String.ofList cs)) (.number cause) := by
    rw [List.mapM_map]
    rfl
  rw [htrim, htrim, h]

end Fields

/-! ## Replies -/

section Replies

variable {texts : List String} {reply : String} {v : Values} {fault : DeviceFault}

/-- A reply made of texts: there are blanks around each, commas between them, and more blanks behind
the last one, such as the end of a line. -/
def MadeOf (texts : List String) (reply : String) : Prop :=
  Text.Joined ',' (texts.map String.toList) reply.toList

/-- The first text that is no number. -/
def FirstBad (texts : List String) (text : String) : Prop :=
  ∃ before after, texts = before ++ text :: after ∧ (∀ t ∈ before, IsNumber t) ∧ ¬IsNumber text

/-- The fault of a reply that is not read: it is blank, or one of its texts is no number. -/
def Unreadable (texts : List String) (reply : String) (fault : DeviceFault) : Prop :=
  if Text.AllBlank reply.toList then fault = .emptyReply
  else ∃ text, FirstBad texts text ∧ fault = fieldFault text

lemma map_toList_eq_ok_iff {result : Except DeviceFault Values} :
    result.map Values.toList = .ok v.toList ↔ result = .ok v := by
  cases result with
  | error fault => exact ⟨nofun, nofun⟩
  | ok w =>
    obtain ⟨first, rest⟩ := v
    obtain ⟨first', rest'⟩ := w
    simp [Except.map, Values.toList]

lemma map_toList_eq_error_iff {result : Except DeviceFault Values} :
    result.map Values.toList = .error fault ↔ result = .error fault := by
  cases result <;> simp [Except.map]

lemma parseValues_of_blank (h : Text.AllBlank reply.toList) :
    parseValues reply = .error .emptyReply := by
  rw [parseValues, Text.trimChars_eq_nil_iff.2 h]

/-- A reply that is not blank is cut at the commas, and its fields are read. -/
lemma parseValues_of_not_blank (h : ¬Text.AllBlank reply.toList) :
    (parseValues reply).map Values.toList =
      (Text.cut ',' (Text.trimChars reply.toList)).mapM parseField := by
  obtain ⟨c, cs, hcs⟩ := List.exists_cons_of_ne_nil (mt Text.trimChars_eq_nil_iff.1 h)
  obtain ⟨field, fields, hfields⟩ := List.exists_cons_of_ne_nil (Text.cut_ne_nil ',' (c :: cs))
  simp only [parseValues, hcs, hfields, List.mapM_cons]
  cases parseField field with
  | error fault => rfl
  | ok x => cases fields.mapM parseField <;> rfl

section MadeOf

variable (hne : texts ≠ []) (hcomma : ∀ t ∈ texts, ',' ∉ t.toList) (h : MadeOf texts reply)

include hne hcomma h

/-- The texts of a reply are what is between the commas. -/
lemma map_trimChars_of_madeOf :
    (Text.cut ',' (Text.trimChars reply.toList)).map Text.trimChars =
      (texts.map String.toList).map Text.trimChars :=
  h.map_trimChars_cut (by simpa using hne) (by decide) (by simpa using hcomma)

/-- A reply of nothing but blanks is made of one text, and that is no number. -/
lemma not_isNumber_of_blank (hblank : Text.AllBlank reply.toList) :
    ∃ text, texts = [text] ∧ ¬IsNumber text := by
  have htexts := map_trimChars_of_madeOf hne hcomma h
  rw [Text.trimChars_eq_nil_iff.2 hblank, List.map_map] at htexts
  obtain ⟨text, rfl, htrim⟩ := List.map_eq_singleton_iff.1 htexts.symm
  have htrim : Text.trimChars text.toList = [] := htrim
  refine ⟨text, rfl, fun hnumber => ?_⟩
  obtain ⟨x, hx⟩ := exists_holds_iff.2 hnumber
  rw [Holds, Text.trim, htrim] at hx
  cases hx

/-- A reply that is not blank is read text by text. -/
lemma parseValues_of_madeOf (hblank : ¬Text.AllBlank reply.toList) :
    (parseValues reply).map Values.toList = (texts.map String.toList).mapM parseField := by
  rw [parseValues_of_not_blank hblank, mapM_parseField_congr (map_trimChars_of_madeOf hne hcomma h)]

/-- **Which values are read**: one for each text, in order. -/
theorem parseValues_eq_ok_iff : parseValues reply = .ok v ↔ List.Forall₂ Holds texts v.toList := by
  by_cases hblank : Text.AllBlank reply.toList
  · obtain ⟨text, rfl, hnumber⟩ := not_isNumber_of_blank hne hcomma h hblank
    rw [parseValues_of_blank hblank]
    refine ⟨nofun, fun hholds => ?_⟩
    exact absurd (exists_holds_iff.1 ⟨v.first, (List.forall₂_cons.1 hholds).1⟩) hnumber
  · have hfields : List.Forall₂ Holds texts v.toList ↔
        (texts.map String.toList).mapM parseField = .ok v.toList := by
      rw [mapM_eq_ok_iff, List.forall₂_map_left_iff]
      simp only [parseField_eq_ok_iff]
    rw [hfields, ← parseValues_of_madeOf hne hcomma h hblank]
    exact map_toList_eq_ok_iff.symm

/-- **Why no values are read**: the reply is blank, or one of its texts is no number. -/
theorem parseValues_eq_error_iff :
    parseValues reply = .error fault ↔ Unreadable texts reply fault := by
  by_cases hblank : Text.AllBlank reply.toList
  · rw [parseValues_of_blank hblank, Unreadable, if_pos hblank, Except.error.injEq]
    exact eq_comm
  · rw [Unreadable, if_neg hblank, ← map_toList_eq_error_iff,
      parseValues_of_madeOf hne hcomma h hblank, List.mapM_map, mapM_eq_error_iff]
    simp only [Function.comp_apply, parseField_eq_ok_iff, parseField_eq_error_iff, exists_holds_iff]
    constructor
    · rintro ⟨before, text, after, htexts, hbefore, hnumber, hfault⟩
      exact ⟨text, ⟨before, after, htexts, hbefore, hnumber⟩, hfault⟩
    · rintro ⟨text, ⟨before, after, htexts, hbefore, hnumber⟩, hfault⟩
      exact ⟨before, text, after, htexts, hbefore, hnumber, hfault⟩

/-- **A reply is read** if it is not blank and each of its texts is that of a number. -/
theorem exists_parseValues_iff :
    (∃ v, parseValues reply = .ok v) ↔ ¬Text.AllBlank reply.toList ∧ ∀ t ∈ texts, IsNumber t := by
  constructor
  · rintro ⟨v, hv⟩
    refine ⟨fun hblank => ?_, ?_⟩
    · rw [parseValues_of_blank hblank] at hv
      cases hv
    · have hholds := (parseValues_eq_ok_iff hne hcomma h).1 hv
      have hnumbers := hholds.imp fun t x hx => And.intro (exists_holds_iff.1 ⟨x, hx⟩) hx
      exact (List.forall₂_and_left ..).1 hnumbers |>.1
  · rintro ⟨hblank, hnumbers⟩
    cases hparse : parseValues reply with
    | ok v => exact ⟨v, rfl⟩
    | error fault =>
      -- the text that is named would be no number
      have hfault := (parseValues_eq_error_iff hne hcomma h).1 hparse
      rw [Unreadable, if_neg hblank] at hfault
      obtain ⟨text, ⟨before, after, rfl, -, hbad⟩, -⟩ := hfault
      exact absurd (hnumbers text (by simp)) hbad

end MadeOf

end Replies

end Instrument

end CryoRig
