import CryoRig.Proofs.CommandLanguage

/-!
# The end points of a range

A range is two numbers with two points between them, and a number may itself end with a point or
begin with one. The text is cut where two points come first. That is between the two numbers unless
the first one ends with a point: then the cut falls one character early, the first number is read
without its point, which changes nothing, and the second is read with a point before it.

## Main definitions

* `CryoRig.Script.rangeEnds`: the end points that a range is read to have.

## Main results

* `CryoRig.Number.read_concat_point`: a point at the end of a number changes nothing.
* `CryoRig.Number.floatText_point_cons_iff`: which texts are numbers with a point before them.
* `CryoRig.Script.readRange_append`: the reading of a range made of two numbers.
* `CryoRig.Script.Command.parse_rangeEnds`: what the two sweeps make of such a range.
-/

namespace CryoRig

namespace Number

variable {cs ds : List Char}

/-- A number that ends with a point has a sign and digits before it. -/
lemma FloatText.exists_of_concat_point (h : FloatText (cs ++ ['.'])) :
    ∃ sign ds, cs = sign ++ ds ∧ SignText sign ∧ Digits ds ∧ ds ≠ [] := by
  have hfree : '.' ∉ cs := by
    have hcount := h.count_point_le
    rw [List.count_append, List.count_singleton_self] at hcount
    exact List.count_eq_zero.1 (by omega)
  obtain ⟨sign, ds, hcs, hs, hnamed | hdecimal⟩ := h
  · have hcount := congrArg (List.count '.') hcs
    simp [hs.count_point, hnamed.count_point] at hcount
  · cases hdecimal with
    | integral hw _ he =>
      have hcount := congrArg (List.count '.') hcs
      simp [hs.count_point, hw.count_point, he.count_point] at hcount
    | @pointed whole part exponent hw hp hne he =>
      -- nothing can follow the point: it would end with a second one
      have hrest : part ++ exponent = [] := by
        rcases List.eq_nil_or_concat (part ++ exponent) with hnil | ⟨rest, c, hrest⟩
        · exact hnil
        · rw [hrest, List.concat_eq_append] at hcs
          have hcut : cs ++ ['.'] = (sign ++ whole ++ '.' :: rest) ++ [c] := by simpa using hcs
          exact absurd (by simp [(List.append_inj' hcut rfl).1]) hfree
      obtain ⟨rfl, rfl⟩ := List.append_eq_nil_iff.1 hrest
      have hcut : cs ++ ['.'] = (sign ++ whole) ++ ['.'] := by simpa using hcs
      exact ⟨sign, whole, (List.append_inj' hcut rfl).1, hs, hw, hne.resolve_right (by simp)⟩

/-- A digit comes first. -/
def DigitLed (cs : List Char) : Prop := ∃ c ∈ cs.head?, c.isDigit

lemma Digits.digitLed_append (hd : Digits ds) (hne : ds ≠ []) : DigitLed (ds ++ cs) := by
  obtain ⟨d, ds, rfl⟩ := List.exists_cons_of_ne_nil hne
  exact ⟨d, rfl, hd d (List.mem_cons_self ..)⟩

/-- No name begins with a digit. -/
lemma DigitLed.not_namedText (h : DigitLed cs) : ¬NamedText cs := by
  obtain ⟨c, hc, hdigit⟩ := h
  obtain ⟨rest, rfl⟩ := List.head?_eq_some_iff.1 hc
  have hlower : c.toLower = c := by
    simp only [Char.toLower, Char.isDigit] at hdigit ⊢
    grind
  have hletter : c ≠ 'i' ∧ c ≠ 'n' := by
    constructor <;>
    · rintro rfl
      exact absurd hdigit (by decide)
  simp [NamedText, hlower, hletter]

lemma readNamed_of_digitLed (h : DigitLed cs) : readNamed cs = none := by
  have hname := h.not_namedText
  simp only [NamedText, List.mem_cons, List.not_mem_nil, or_false, not_or] at hname
  unfold readNamed
  rw [if_neg (not_or.2 ⟨hname.1, hname.2.1⟩), if_neg hname.2.2]

/-- A point after digits changes nothing. -/
lemma readMagnitude_concat_point (hd : Digits ds) (hne : ds ≠ []) :
    readMagnitude (ds ++ ['.']) = readMagnitude ds := by
  have hpoint : spanDigits (ds ++ ['.']) = (ds, ['.']) := by
    refine spanDigits_append hd ?_
    rintro c ⟨⟩
    decide
  have hplain : spanDigits ds = (ds, []) := by
    have hspan : spanDigits (ds ++ []) = (ds, []) := spanDigits_append hd nofun
    rwa [List.append_nil] at hspan
  have hled : DigitLed (ds ++ []) := hd.digitLed_append hne
  rw [List.append_nil] at hled
  rw [readMagnitude, readMagnitude, readNamed_of_digitLed hled,
    readNamed_of_digitLed (hd.digitLed_append hne)]
  unfold readUnsigned
  rw [hpoint, hplain]
  rfl

/-- A point at the end of a number changes nothing. -/
theorem read_concat_point (h : FloatText (cs ++ ['.'])) :
    read (String.ofList (cs ++ ['.'])) = read (String.ofList cs) := by
  obtain ⟨sign, ds, rfl, hs, hd, hne⟩ := h.exists_of_concat_point
  have hmagnitude := readMagnitude_concat_point hd hne
  simp only [read, String.toList_ofList, List.append_assoc]
  rcases hs with rfl | rfl | rfl
  · obtain ⟨d, ds, rfl⟩ := List.exists_cons_of_ne_nil hne
    have hsignless := hd.signless d rfl
    simp only [List.nil_append, List.cons_append] at hmagnitude ⊢
    simp [readChars, hsignless.1, hsignless.2, hmagnitude]
  · simp [readChars, hmagnitude]
  · simp [readChars, hmagnitude]

/-- Which numbers can have a point before them. -/
lemma floatText_point_cons_iff (h : FloatText cs) :
    FloatText ('.' :: cs) ↔ DigitLed cs ∧ '.' ∉ cs := by
  constructor
  · intro hp
    have hcount : cs.count '.' + 1 ≤ 1 := by simpa using hp.count_point_le
    refine ⟨?_, List.count_eq_zero.1 (by omega)⟩
    obtain ⟨sign, ds, hcs, rfl | rfl | rfl, hnamed | hdecimal⟩ := hp
    · rw [List.nil_append] at hcs
      simpa [← hcs] using hnamed.count_point
    · rw [List.nil_append] at hcs
      cases hdecimal with
      | integral hw hne _ =>
        obtain ⟨c, hc, hdigit⟩ := hw.digitLed_append hne
        rw [← hcs] at hc
        cases hc
        exact absurd hdigit (by decide)
      | @pointed whole part exponent hw hpart hne _ =>
        cases whole with
        | nil =>
          obtain ⟨-, rfl⟩ := List.cons.inj hcs
          exact hpart.digitLed_append (hne.resolve_left (by simp))
        | cons d whole =>
          obtain ⟨rfl, -⟩ := List.cons.inj hcs
          exact absurd (hw '.' (List.mem_cons_self ..)) (by decide)
    all_goals simp at hcs
  · rintro ⟨⟨c, hc, hdigit⟩, hfree⟩
    obtain ⟨sign, ds, rfl, rfl | rfl | rfl, hnamed | hdecimal⟩ := h
    · exact absurd hnamed (DigitLed.not_namedText ⟨c, hc, hdigit⟩)
    · cases hdecimal with
      | @integral whole exponent hw hne he =>
        have hnone : Digits [] := nofun
        have hpointed : DecimalText ([] ++ '.' :: (whole ++ exponent)) :=
          .pointed hnone hw (.inr hne) he
        exact ⟨[], _, rfl, .inl rfl, .inr hpointed⟩
      | pointed => simp at hfree
    all_goals
      cases hc
      exact absurd hdigit (by decide)

end Number

namespace Script

open Number

variable {first last text : String} {x y : Float} {a b : List Char}

/-- The end points that a range is read to have, if it is written with the numbers `x` and `y`: a
point at the end of the first text is given to the second. -/
def rangeEnds (first last : String) (x y : Float) : Option (Float × Float) :=
  if first.toList.getLast? = some '.' then (readFinite? ("." ++ last)).map fun z => (x, z)
  else some (x, y)

/-- A range is read where it is cut. -/
lemma readRange_of_firstCut (h : FirstCut "..".toList text.toList a b) :
    readRange text = (do
      let x ← readFinite? (String.ofList a)
      let y ← readFinite? (String.ofList b)
      some (x, y)).elim (.error .badRange) .ok := by
  rw [readRange, (splitOnce?_eq_some_iff (by decide)).2 h]
  rfl

/-- **The reading of a range** that is made of two numbers. -/
theorem readRange_append (hx : readFinite? first = some x) (hy : readFinite? last = some y) :
    readRange (first ++ ".." ++ last) =
      (rangeEnds first last x y).elim (.error .badRange) .ok := by
  have htext : FloatText first.toList :=
    exists_read_iff.1 ⟨x, (readFinite?_eq_some_iff.1 hx).1⟩
  have hlist : (first ++ ".." ++ last).toList = first.toList ++ "..".toList ++ last.toList := by
    simp
  unfold rangeEnds
  split
  · next hlast =>
    obtain ⟨cs, hcs⟩ := List.getLast?_eq_some_iff.1 hlast
    rw [hcs] at htext
    have hcount : cs.count '.' + 1 ≤ 1 := by simpa using htext.count_point_le
    have hfirst : cs.getLast? ≠ some '.' := fun hp =>
      absurd (List.mem_of_getLast? hp) (List.count_eq_zero.1 (by omega))
    have hcut : FirstCut "..".toList (first ++ ".." ++ last).toList cs ("." ++ last).toList := by
      have hmoved : (first ++ ".." ++ last).toList = cs ++ "..".toList ++ ("." ++ last).toList := by
        simp [hcs]
      rw [hmoved]
      exact firstCut_of_getLast (by omega) hfirst
    have hread : readFinite? (String.ofList cs) = some x := by
      rw [readFinite?, ← read_concat_point htext, ← hcs, String.ofList_toList]
      exact hx
    rw [readRange_of_firstCut hcut, hread, String.ofList_toList]
    cases readFinite? ("." ++ last) <;> rfl
  · next hlast =>
    have hcut : FirstCut "..".toList (first ++ ".." ++ last).toList first.toList last.toList := by
      rw [hlist]
      exact firstCut_of_getLast htext.count_point_le hlast
    rw [readRange_of_firstCut hcut, String.ofList_toList, String.ofList_toList, hx, hy]
    rfl

/-- The arguments of a stepped sweep. -/
lemma Command.ofArguments_startStep_iff {name parameter range passes : String}
    {command : Command} :
    Command.ofArguments .startStep [name, parameter, range, passes] = .ok command ↔
      ∃ p a b points zigzag, Parameter.parse parameter = .ok p ∧ readRange range = .ok (a, b) ∧
        readPasses passes = .ok (points, zigzag) ∧
        command = .startStep name p (stepList a b points zigzag) := by
  rw [Command.ofArguments_eq_ok_iff]
  constructor
  · intro h
    cases h with
    | startStep hp hrange hpasses => exact ⟨_, _, _, _, _, hp, hrange, hpasses, rfl⟩
  · rintro ⟨p, a, b, points, zigzag, hp, hrange, hpasses, rfl⟩
    exact .startStep hp hrange hpasses

/-- The arguments of a differential sweep. -/
lemma Command.ofArguments_startDidv_iff {name range points delta : String} {command : Command} :
    Command.ofArguments .startDidv [name, range, points, "with", "delta", delta] = .ok command ↔
      ∃ a b n d, readRange range = .ok (a, b) ∧ readWhole? longMax points = some n ∧ n ≠ 0 ∧
        readFinite? delta = some d ∧ command = .startDidv name ⟨a, b, n, d⟩ := by
  rw [Command.ofArguments_eq_ok_iff]
  constructor
  · intro h
    cases h with
    | startDidv hrange hn hpos hd =>
      exact ⟨_, _, _, _, hrange, hn, hpos, elim_eq_ok_iff.1 hd, rfl⟩
  · rintro ⟨a, b, n, d, hrange, hn, hpos, hd, rfl⟩
    exact .startDidv hrange hn hpos (elim_eq_ok_iff.2 hd)

/-- Where the first number ends with a point, the second one must begin with a digit and have no
point of its own. -/
lemma digitLed_of_rangeEnds {p : Float × Float} (hy : readFinite? last = some y)
    (hlast : first.toList.getLast? = some '.') (h : rangeEnds first last x y = some p) :
    DigitLed last.toList ∧ '.' ∉ last.toList := by
  rw [rangeEnds, if_pos hlast] at h
  obtain ⟨z, hz, -⟩ := Option.map_eq_some_iff.1 h
  have hwritten : FloatText last.toList := exists_read_iff.1 ⟨y, (readFinite?_eq_some_iff.1 hy).1⟩
  have hmoved : FloatText ('.' :: last.toList) := by
    simpa using exists_read_iff.1 ⟨z, (readFinite?_eq_some_iff.1 hz).1⟩
  exact (floatText_point_cons_iff hwritten).1 hmoved

/-- **What the sweeps make of a range** that is written with the numbers `x` and `y`. A stepped and
a differential sweep are read exactly if the range has end points and the other arguments are read,
and these are the end points. They are `x` and `y` unless the first text ends with a point. If it
does, the second end point is the number of the second text with a point before it, and there is
none unless that text begins with a digit and has no point of its own. -/
theorem Command.parse_rangeEnds (hx : readFinite? first = some x)
    (hy : readFinite? last = some y) :
    (∀ line name parameter passes command,
      Command.parse line "start-step" [name, parameter, first ++ ".." ++ last, passes] =
          .ok command ↔
        ∃ p a b points zigzag, Parameter.parse parameter = .ok p ∧
          rangeEnds first last x y = some (a, b) ∧ readPasses passes = .ok (points, zigzag) ∧
          command = .startStep name p (stepList a b points zigzag)) ∧
    (∀ line name points delta command,
      Command.parse line "start-didv" [name, first ++ ".." ++ last, points, "with", "delta", delta] =
          .ok command ↔
        ∃ a b n d, rangeEnds first last x y = some (a, b) ∧
          readWhole? longMax points = some n ∧ n ≠ 0 ∧ readFinite? delta = some d ∧
          command = .startDidv name ⟨a, b, n, d⟩) ∧
    (first.toList.getLast? ≠ some '.' → rangeEnds first last x y = some (x, y)) ∧
    (first.toList.getLast? = some '.' →
      (rangeEnds first last x y = (readFinite? ("." ++ last)).map fun z => (x, z)) ∧
      (¬(DigitLed last.toList ∧ '.' ∉ last.toList) → rangeEnds first last x y = none)) := by
  have hrange (a b : Float) : readRange (first ++ ".." ++ last) = .ok (a, b) ↔
      rangeEnds first last x y = some (a, b) := by
    rw [readRange_append hx hy, elim_eq_ok_iff]
  refine ⟨fun line name parameter passes command => ?_, fun line name points delta command => ?_,
    fun hlast => if_neg hlast, fun hlast => ⟨if_pos hlast, fun hno => ?_⟩⟩
  · rw [Command.parse_eq_ok_iff (show Operation.startStep.name = "start-step" from rfl),
      Command.ofArguments_startStep_iff]
    simp only [hrange]
  · rw [Command.parse_eq_ok_iff (show Operation.startDidv.name = "start-didv" from rfl),
      Command.ofArguments_startDidv_iff]
    simp only [hrange]
  · exact Option.eq_none_iff_forall_ne_some.2 fun p hp => hno (digitLed_of_rangeEnds hy hlast hp)

/-- There is one way to read `1....5` as two numbers, and it is refused. There are two ways to read
`1...5`, and it is taken as the range to `0.5` also where the one to `5` is meant. -/
theorem Command.parse_rangeEnds_points :
    (readFinite? "1." = some 1 ∧ readFinite? ".5" = some 0.5 ∧ readFinite? "5" = some 5) ∧
    (∀ line name points delta command,
      Command.parse line "start-didv" [name, "1." ++ ".." ++ ".5", points, "with", "delta", delta] ≠
        .ok command) ∧
    rangeEnds "1" ".5" 1 0.5 = some (1, 0.5) ∧ rangeEnds "1." "5" 1 5 = some (1, 0.5) := by
  have hone : readFinite? "1." = some 1 := by decide +kernel
  have hplain : readFinite? "1" = some 1 := by decide +kernel
  have hhalf : readFinite? ".5" = some 0.5 := by decide +kernel
  have hfive : readFinite? "5" = some 5 := by decide +kernel
  obtain ⟨-, htrace, -, hmoved⟩ := Command.parse_rangeEnds hone hhalf
  obtain ⟨-, -, hkept, -⟩ := Command.parse_rangeEnds hplain hhalf
  obtain ⟨-, -, -, hsmall⟩ := Command.parse_rangeEnds hone hfive
  refine ⟨⟨hone, hhalf, hfive⟩, fun line name points delta command h => ?_, hkept (by decide), ?_⟩
  · obtain ⟨a, b, n, d, hends, -⟩ := (htrace line name points delta command).1 h
    rw [(hmoved rfl).2 (by simp [DigitLed])] at hends
    cases hends
  · rw [(hsmall rfl).1, show "." ++ "5" = ".5" from rfl, hhalf]
    rfl

end Script

end CryoRig
