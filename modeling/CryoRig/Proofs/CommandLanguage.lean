import CryoRig.Proofs.NumberTexts
import CryoRig.Proofs.ReadArguments

/-!
# The language of script lines

A usage text says how the arguments of an operation are written. What it says is spelled out here as
a grammar: which words, which units and which numbers may stand where. A line is read as a command
exactly if it follows the usage of its operation; otherwise it is answered with its number and that
usage.

## Main definitions

* `CryoRig.Script.Numeral`, `CryoRig.Script.CountText`, `CryoRig.Script.RangeText`,
  `CryoRig.Script.PassesText`, `CryoRig.Script.LockinText`: the parts of a line.
* `CryoRig.Script.Follows`: the arguments of an operation.
* `CryoRig.Script.OddlyWritten`: lines that are left aside.

## Main results

* `CryoRig.Script.exists_readRange_iff`, `CryoRig.Script.exists_readPasses_iff`,
  `CryoRig.Script.exists_readLockin_iff`: which words are read as such a part.
* `CryoRig.Script.exists_ofArguments_iff`: which arguments are read at all.
* `CryoRig.Script.Command.parse_iff_follows`: a line is read exactly if it follows the usage.
-/

namespace CryoRig.Script

open Number

/-! ## The parts of a line -/

/-- The text of a finite number with a given property. -/
def Numeral (P : Float → Prop) (text : String) : Prop :=
  FloatText text.toList ∧ ∃ x, Number.read text = .ok x ∧ x.isFinite ∧ P x

/-- The text of a whole number from one on. -/
def CountText (limit : Nat) (text : String) : Prop :=
  ∃ n, 1 ≤ n ∧ n ≤ limit ∧ WholeText n text.toList

/-- The text of a channel number. -/
def ChannelText (text : String) : Prop := ∃ n ≤ byteMax, WholeText n text.toList

/-- Two finite numbers with two points between them. -/
def RangeText (text : String) : Prop :=
  ∃ first last, text = first ++ ".." ++ last ∧ Numeral (fun _ => True) first ∧
    Numeral (fun _ => True) last

/-- Two whole numbers from one on with a star between them. -/
def PassesText (text : String) : Prop :=
  ∃ points zigzag, text = points ++ "*" ++ zigzag ∧ CountText hugeMax points ∧
    CountText hugeMax zigzag

/-- One of some words in any case. -/
def AnyOf (words : List String) (text : String) : Prop := ∃ word ∈ words, Spells word text

/-- The name of a lock-in. -/
def LockinText (text : String) : Prop := AnyOf ["R1", "R2", "R3", "R4"] text

/-- A unit of time, and the seconds of it. -/
def TimeUnit (seconds : Float) (unit : String) : Prop :=
  (unit ∈ ["s", "sec", "seconds"] ∧ seconds = 1) ∨
    (unit ∈ ["m", "min", "minute", "minutes"] ∧ seconds = 60) ∨
      (unit ∈ ["h", "hour", "hours"] ∧ seconds = 3600)

/-- The arguments of an operation are written as its usage says. -/
inductive Follows : Operation → List String → Prop where
  /-- Seconds that are not negative. -/
  | span {name value : String} (hn : name ∈ ["step-relax", "step-measure"])
    (h : Numeral (0 ≤ ·) value) : Follows .config [name, value]
  /-- Where the magnet or the sample is. -/
  | place {name value : String} (hn : name ∈ ["current-field", "current-temperature"])
    (h : Numeral (fun _ => True) value) : Follows .config [name, value]
  /-- Whether ranges are raised. -/
  | autorange {value : String} (h : AnyOf ["on", "off", "1", "0"] value) :
    Follows .config ["autorange", value]
  /-- The name of an acquisition. -/
  | name {o : Operation} {name : String} (ho : o ∈ [Operation.startSimple, .startCooldown]) :
    Follows o [name]
  /-- A stepped sweep. -/
  | startStep {name parameter range passes : String}
    (hparameter : AnyOf ["AMP-R1", "AMP-ALL", "FREQ", "VG", "H", "HEATER"] parameter)
    (hrange : RangeText range) (hpasses : PassesText passes) :
    Follows .startStep [name, parameter, range, passes]
  /-- A differential sweep. -/
  | startDidv {name range points delta : String} (hrange : RangeText range)
    (hpoints : CountText longMax points) (hdelta : Numeral (fun _ => True) delta) :
    Follows .startDidv [name, range, points, "with", "delta", delta]
  /-- There are none. -/
  | nothing {o : Operation}
    (ho : o ∈ [Operation.stop, .waitForField, .waitForTemperature, .waitForProgram]) :
    Follows o []
  /-- A time that is not negative and not too long. -/
  | wait {amount unit : String} {seconds : Float} (hunit : TimeUnit seconds unit)
    (hamount : Numeral (fun x => 0 ≤ x ∧ (Duration.ofSeconds? (x * seconds)).isSome) amount) :
    Follows .wait [amount, unit]
  /-- A voltage. -/
  | gateVoltage {value unit : String} (hvalue : Numeral (fun _ => True) value)
    (hunit : AnyOf ["V", "mV"] unit) : Follows .setGateVoltage [value, unit]
  /-- A current. -/
  | gateCurrent {value unit : String} (hvalue : Numeral (fun _ => True) value)
    (hunit : AnyOf ["A", "mA"] unit) : Follows .setGateCurrent [value, unit]
  /-- Whether the gate is on. -/
  | gateState {state : String} (hstate : state ∈ ["0", "1"]) : Follows .setGateState [state]
  /-- A field and a rate above zero. -/
  | targetField {value unit rate rateUnit : String} (hvalue : Numeral (fun _ => True) value)
    (hunit : unit ∈ ["T", "Oe"]) (hrate : Numeral (0 < ·) rate)
    (hrateUnit : rateUnit ∈ ["T/min", "Oe/min"]) :
    Follows .setTargetField [value, unit, "with", "rate", rate, rateUnit]
  /-- A temperature and a rate above zero. -/
  | targetTemperature {value unit rate rateUnit : String}
    (hvalue : Numeral (fun _ => True) value) (hunit : unit ∈ ["K", "mK"])
    (hrate : Numeral (0 < ·) rate) (hrateUnit : rateUnit ∈ ["K/min", "mK/min"]) :
    Follows .setTargetTemperature [value, unit, "with", "rate", rate, rateUnit]
  /-- A number. -/
  | number {o : Operation} {value : String} (ho : o ∈ [Operation.setAmplitude, .setFrequency])
    (hvalue : Numeral (fun _ => True) value) : Follows o [value]
  /-- A lock-in, whether its output is expanded, and by how much. -/
  | offsetAndExpand {lockin state expand : String} (hlockin : LockinText lockin)
    (hstate : AnyOf ["on", "off"] state) (hexpand : AnyOf ["1x", "10x", "100x"] expand) :
    Follows .setOffsetAndExpand [lockin, state, expand]
  /-- A channel. -/
  | channel {channel : String} (hchannel : ChannelText channel) : Follows .tcChannel [channel]
  /-- A direction. -/
  | direction {direction : String} (hdirection : AnyOf ["up", "down"] direction) :
    Follows .tcCurrent [direction]
  /-- A channel and a direction. -/
  | range {channel direction : String} (hchannel : ChannelText channel)
    (hdirection : AnyOf ["up", "down"] direction) : Follows .setRange [channel, direction]

/-! ## What is left aside -/

/-- A range with three points in a row. -/
def ManyPoints (text : String) : Prop :=
  ∃ before after, text.toList = before ++ "...".toList ++ after

/-- The number of a lock-in that is not written with one digit. -/
def PaddedLockin (text : String) : Prop :=
  ∃ number n, text.toLower.toList = 'r' :: number ∧ number.length ≠ 1 ∧ 1 ≤ n ∧ n ≤ maxLockins ∧
    WholeText n number

/-- The arguments have an oddly written range or lock-in. -/
inductive OddlyWritten : Operation → List String → Prop where
  /-- The range of a stepped sweep. -/
  | stepRange {name parameter range passes : String} (h : ManyPoints range) :
    OddlyWritten .startStep [name, parameter, range, passes]
  /-- The range of a differential sweep. -/
  | traceRange {name range : String} {rest : List String} (h : ManyPoints range) :
    OddlyWritten .startDidv (name :: range :: rest)
  /-- A lock-in. -/
  | lockin {lockin : String} {rest : List String} (h : PaddedLockin lockin) :
    OddlyWritten .setOffsetAndExpand (lockin :: rest)

/-! ## Readings -/

section Readings

variable {text unit : String} {e : Reason} {P : Float → Prop} {x : Float}

lemma readFinite?_eq_some_iff :
    Number.readFinite? text = some x ↔ Number.read text = .ok x ∧ x.isFinite := by
  unfold Number.readFinite?
  cases Number.read text with
  | error => simp
  | ok y =>
    simp only [Option.ite_none_right_eq_some, Option.some.injEq, Except.ok.injEq]
    exact ⟨fun ⟨hy, h⟩ => ⟨h, h ▸ hy⟩, fun ⟨h, hx⟩ => ⟨h ▸ hx, h⟩⟩

lemma finite_eq_ok_iff :
    finite text e = .ok x ↔ Number.read text = .ok x ∧ x.isFinite := by
  rw [finite, elim_eq_ok_iff, readFinite?_eq_some_iff]

/-- What is read as a finite number with a given property is the text of one. -/
lemma exists_finite_iff : (∃ x, finite text e = .ok x ∧ P x) ↔ Numeral P text := by
  simp only [finite_eq_ok_iff, and_assoc]
  exact ⟨fun ⟨x, hx, h⟩ => ⟨exists_read_iff.1 ⟨x, hx⟩, x, hx, h⟩, And.right⟩

lemma exists_finite : (∃ x, finite text e = .ok x) ↔ Numeral (fun _ => True) text := by
  rw [← exists_finite_iff (e := e)]
  simp

lemma exists_positive_iff : (∃ x, positive text e = .ok x) ↔ Numeral (0 < ·) text := by
  rw [← exists_finite_iff (e := e), positive, exists_bind_iff]
  refine exists_congr fun x => and_congr_right fun _ => ?_
  split
  · next h => exact ⟨fun _ => h, fun _ => ⟨x, rfl⟩⟩
  · next h => exact ⟨nofun, fun h' => absurd h' h⟩

lemma exists_unitFactor_iff {units : List (String × Float)} :
    (∃ x, unitFactor units unit e = .ok x) ↔ unit ∈ units.map Prod.fst := by
  simp only [unitFactor, elim_eq_ok_iff]
  induction units with
  | nil => simp
  | cons u units ih =>
    obtain ⟨name, factor⟩ := u
    rw [List.lookup_cons, List.map_cons, List.mem_cons]
    by_cases h : unit = name
    · simp [h]
    · rw [beq_false_of_ne h]
      simpa [h] using ih

lemma exists_readChannel_iff : (∃ n, readChannel text = .ok n) ↔ ChannelText text := by
  simp only [readChannel, elim_eq_ok_iff, readWhole?_eq_some_iff]
  exact exists_congr fun n => and_comm

lemma numeral_iff : Numeral (fun _ => True) text ↔ ∃ x, Number.readFinite? text = some x := by
  rw [← exists_finite (e := .badRange)]
  simp only [finite, elim_eq_ok_iff]

end Readings

/-! ## Words with a mark in them -/

section Marked

variable {text first second mark : String} {a b : List Char}

lemma eq_of_firstCut (h : FirstCut mark.toList text.toList a b) :
    text = String.ofList a ++ mark ++ String.ofList b := by
  rw [← String.toList_inj, h.1]
  simp

/-- Both parts of a text with a mark in it are read. -/
lemma parts_eq_some_iff {γ δ : Type} {cs m : List Char} (hm : m ≠ []) {f : String → Option γ}
    {g : String → Option δ} {x : γ} {y : δ} :
    (do
      let (first, second) ← splitOnce? m cs
      let x ← f (String.ofList first)
      let y ← g (String.ofList second)
      some (x, y)) = some (x, y) ↔
    ∃ a b, FirstCut m cs a b ∧ f (String.ofList a) = some x ∧ g (String.ofList b) = some y := by
  simp only [← splitOnce?_eq_some_iff hm]
  cases splitOnce? m cs with
  | none => simp
  | some cut =>
    obtain ⟨a, b⟩ := cut
    have hcut (a' b' : List Char) : some (a, b) = some (a', b') ↔ a' = a ∧ b' = b := by
      simp [eq_comm]
    simp only [hcut, and_assoc]
    cases ha : f (String.ofList a) <;> cases hb : g (String.ofList b) <;> simp [ha, hb]

/-- What is read as a range is two numbers with two points between them. -/
lemma exists_readRange_iff (h : ¬ManyPoints text) :
    (∃ p, readRange text = .ok p) ↔ RangeText text := by
  have hread : (∃ p, readRange text = .ok p) ↔ ∃ a b, FirstCut "..".toList text.toList a b ∧
      Numeral (fun _ => True) (String.ofList a) ∧ Numeral (fun _ => True) (String.ofList b) := by
    simp only [readRange, elim_eq_ok_iff, numeral_iff, Prod.exists,
      parts_eq_some_iff (show "..".toList ≠ [] by decide)]
    exact ⟨fun ⟨x, y, a, b, hcut, hx, hy⟩ => ⟨a, b, hcut, ⟨x, hx⟩, y, hy⟩,
      fun ⟨a, b, hcut, ⟨x, hx⟩, y, hy⟩ => ⟨x, y, a, b, hcut, hx, hy⟩⟩
  rw [hread]
  constructor
  · rintro ⟨a, b, hcut, ha, hb⟩
    exact ⟨_, _, eq_of_firstCut hcut, ha, hb⟩
  · rintro ⟨first, last, rfl, hfirst, hlast⟩
    have hlist : (first ++ ".." ++ last).toList = first.toList ++ "..".toList ++ last.toList := by
      simp
    refine ⟨first.toList, last.toList, ?_, by simpa using hfirst, by simpa using hlast⟩
    rw [hlist]
    exact firstCut_of_points hfirst.1.count_point_le
      fun x y hxy => h ⟨x, y, hlist.trans hxy⟩

/-- What is read as passes is two whole numbers with a star between them. -/
lemma exists_readPasses_iff : (∃ p, readPasses text = .ok p) ↔ PassesText text := by
  have hread : (∃ p, readPasses text = .ok p) ↔ ∃ a b, FirstCut "*".toList text.toList a b ∧
      CountText hugeMax (String.ofList a) ∧ CountText hugeMax (String.ofList b) := by
    rw [readPasses, exists_bind_iff]
    simp only [elim_eq_ok_iff, Prod.exists (p := fun p : Nat × Nat => _ ∧ _),
      parts_eq_some_iff (show ['*'] ≠ [] by decide), readWhole?_eq_some_iff]
    constructor
    · rintro ⟨points, zigzag, ⟨a, b, hcut, ⟨hp, hple⟩, hz, hzle⟩, p, hfew⟩
      split at hfew
      · exact nomatch hfew
      · next hpos =>
        rw [not_or] at hpos
        exact ⟨a, b, hcut, ⟨points, Nat.pos_of_ne_zero hpos.1, hple, hp⟩, zigzag,
          Nat.pos_of_ne_zero hpos.2, hzle, hz⟩
    · rintro ⟨a, b, hcut, ⟨points, hpos, hple, hp⟩, zigzag, hzpos, hzle, hz⟩
      refine ⟨points, zigzag, ⟨a, b, hcut, ⟨hp, hple⟩, hz, hzle⟩, (points, zigzag), ?_⟩
      rw [if_neg (by omega)]
      rfl
  rw [hread]
  constructor
  · rintro ⟨a, b, hcut, ha, hb⟩
    exact ⟨_, _, eq_of_firstCut hcut, ha, hb⟩
  · rintro ⟨points, zigzag, rfl, hpoints, hzigzag⟩
    have hlist : (points ++ "*" ++ zigzag).toList =
        points.toList ++ ['*'] ++ zigzag.toList := by
      simp
    obtain ⟨n, -, -, hn⟩ := id hpoints
    refine ⟨points.toList, zigzag.toList, ?_, by simpa using hpoints, by simpa using hzigzag⟩
    rw [hlist]
    exact firstCut_of_star hn.star_notMem

end Marked

/-! ## Words in any case -/

section Words

variable {text word w name value amount unit base milli : String} {x : Float} {n : Nat}

/-- The words that are known in any case, each with itself in lower case. -/
@[simp] def caseless : List (String × String) :=
  [("on", "on"), ("off", "off"), ("1", "1"), ("0", "0"), ("up", "up"), ("down", "down"),
    ("1x", "1x"), ("10x", "10x"), ("100x", "100x"), ("V", "v"), ("mV", "mv"), ("A", "a"),
    ("mA", "ma"), ("R1", "r1"), ("R2", "r2"), ("R3", "r3"), ("R4", "r4")]

lemma toLower_of_mem (h : (word, w) ∈ caseless) : word.toLower = w := by
  have hall : ∀ x ∈ caseless, x.1.toLower = x.2 := by decide +kernel
  exact hall _ h

lemma toLower_eq_iff (h : word.toLower = w) : text.toLower = w ↔ Spells word text := by
  rw [Spells, h]

lemma anyOf_pair_iff {v v' w w' : String} (h : v.toLower = w) (h' : v'.toLower = w') :
    AnyOf [v, v'] text ↔ text.toLower = w ∨ text.toLower = w' := by
  simp [AnyOf, toLower_eq_iff h, toLower_eq_iff h']

lemma anyOf_on_off_iff : AnyOf ["on", "off"] text ↔ text.toLower = "on" ∨ text.toLower = "off" :=
  anyOf_pair_iff (toLower_of_mem (by simp)) (toLower_of_mem (by simp))

/-- A whole number with one character is that digit. -/
lemma wholeText_singleton_iff {c : Char} :
    WholeText n [c] ↔ c.isDigit ∧ c.toNat - '0'.toNat = n := by
  constructor
  · rintro ⟨plus, ds, h, rfl | rfl, hne, hd, hn⟩
    · rw [List.nil_append] at h
      subst h
      exact ⟨hd c (List.mem_singleton_self c), by simpa [digitsValue] using hn⟩
    · rw [List.cons_append, List.nil_append, List.cons.injEq] at h
      exact absurd h.2.symm hne
  · rintro ⟨hc, hn⟩
    refine ⟨[], [c], rfl, .inl rfl, by simp, by simpa [Digits] using hc, ?_⟩
    simpa [digitsValue] using hn

/-- The names of lock-ins in any case are `r` with a digit. -/
lemma lockinText_iff : LockinText text ↔ ∃ c n, text.toLower.toList = ['r', c] ∧
    (1 ≤ n ∧ n ≤ maxLockins) ∧ WholeText n [c] := by
  have hname (label lower : String) (c : Char) (h : (label, lower) ∈ caseless)
      (hc : lower.toList = ['r', c]) : Spells label text ↔ text.toLower.toList = ['r', c] := by
    rw [← toLower_eq_iff (toLower_of_mem h), ← String.toList_inj, hc]
  have h1 := hname "R1" "r1" '1' (by simp) (by simp)
  have h2 := hname "R2" "r2" '2' (by simp) (by simp)
  have h3 := hname "R3" "r3" '3' (by simp) (by simp)
  have h4 := hname "R4" "r4" '4' (by simp) (by simp)
  simp only [LockinText, AnyOf, List.mem_cons, List.not_mem_nil, or_false, exists_eq_or_imp,
    exists_eq_left, h1, h2, h3, h4, wholeText_singleton_iff]
  constructor
  · rintro (h | h | h | h)
    · exact ⟨'1', 1, h, by decide⟩
    · exact ⟨'2', 2, h, by decide⟩
    · exact ⟨'3', 3, h, by decide⟩
    · exact ⟨'4', 4, h, by decide⟩
  · rintro ⟨c, n, h, ⟨hn, hmax⟩, hc, hval⟩
    have hc' : c.toNat = 48 + n := by
      have h0 : '0'.toNat = 48 := rfl
      omega
    have hmem : n = 1 ∨ n = 2 ∨ n = 3 ∨ n = 4 := by
      have h4 : maxLockins = 4 := rfl
      omega
    rcases hmem with rfl | rfl | rfl | rfl
    · exact .inl (by rw [h, Char.toNat_inj.1 (hc'.trans (show 49 = '1'.toNat from rfl))])
    · exact .inr (.inl (by rw [h, Char.toNat_inj.1 (hc'.trans (show 50 = '2'.toNat from rfl))]))
    · exact .inr (.inr (.inl (by
        rw [h, Char.toNat_inj.1 (hc'.trans (show 51 = '3'.toNat from rfl))])))
    · exact .inr (.inr (.inr (by
        rw [h, Char.toNat_inj.1 (hc'.trans (show 52 = '4'.toNat from rfl))])))

/-- What is read as a lock-in is a whole number after an `r`, and one of them. -/
lemma readLockin_eq_ok_iff : readLockin text = .ok n ↔
    ∃ number k, text.toLower.toList = 'r' :: number ∧
      (1 ≤ k ∧ k ≤ maxLockins) ∧ WholeText k number ∧ k - 1 = n := by
  have hread {number : List Char} {k : Nat} (hk : k ≤ maxLockins) (h : WholeText k number) :
      Number.readWhole? hugeMax (String.ofList number) = some k :=
    readWhole?_eq_some_iff.2 ⟨by rwa [String.toList_ofList], hk.trans (by decide)⟩
  unfold readLockin
  dsimp only
  split
  · next k hk =>
    split at hk
    · next number htext =>
      obtain ⟨hnumber, -⟩ := readWhole?_eq_some_iff.1 hk
      rw [String.toList_ofList] at hnumber
      constructor
      · intro hn
        split at hn
        · next hrange =>
          cases hn
          exact ⟨number, k, htext, hrange, hnumber, rfl⟩
        · cases hn
      · rintro ⟨_, k', htext', hrange, hnumber', rfl⟩
        cases htext.symm.trans htext'
        cases hk.symm.trans (hread hrange.2 hnumber')
        exact if_pos hrange
    · cases hk
  · next hnone =>
    refine ⟨nofun, ?_⟩
    rintro ⟨number, k, htext, hrange, hnumber, -⟩
    split at hnone
    · next number' htext' =>
      cases htext'.symm.trans htext
      cases hnone.symm.trans (hread hrange.2 hnumber)
    · next hno => exact absurd htext (hno number)

/-- What is read as a lock-in is one of the names. -/
lemma exists_readLockin_iff (h : ¬PaddedLockin text) :
    (∃ n, readLockin text = .ok n) ↔ LockinText text := by
  simp only [readLockin_eq_ok_iff, lockinText_iff]
  constructor
  · rintro ⟨_, number, n, hnumber, hrange, hn, -⟩
    have hlength : number.length = 1 :=
      Classical.byContradiction fun hl => h ⟨number, n, hnumber, hl, hrange.1, hrange.2, hn⟩
    obtain ⟨c, rfl⟩ := List.length_eq_one_iff.1 hlength
    exact ⟨c, n, hnumber, hrange, hn⟩
  · rintro ⟨c, n, h, hrange, hn⟩
    exact ⟨n - 1, [c], n, h, hrange, hn, rfl⟩

lemma exists_direction_iff :
    (∃ d, readDirection text = .ok d) ↔ AnyOf ["up", "down"] text := by
  have hup : "up".toLower = "up" := toLower_of_mem (by simp)
  have hdown : "down".toLower = "down" := toLower_of_mem (by simp)
  rw [anyOf_pair_iff hup hdown, readDirection, Direction.parse]
  split
  · next h => simp [h, Except.mapError]
  · split
    · next h => simp [h, Except.mapError]
    · next h h' => simp [h, h', Except.mapError]

lemma exists_readLevel_iff {v v' : String} (h : v.toLower = base) (h' : v'.toLower = milli) :
    (∃ x, readLevel base milli value unit = .ok x) ↔
      Numeral (fun _ => True) value ∧ AnyOf [v, v'] unit := by
  rw [readLevel, exists_bind_iff, anyOf_pair_iff h h', ← exists_finite (e := .valueNotNumber),
    ← exists_and_right]
  refine exists_congr fun x => and_congr_right fun _ => ?_
  dsimp only
  split
  · next hb => simp [hb, pure, Except.pure]
  · split
    · next hm => simp [hm, pure, Except.pure]
    · next hb hm => simp [hb, hm]

lemma exists_readVolts_iff : (∃ x, readLevel "v" "mv" value unit = .ok x) ↔
    Numeral (fun _ => True) value ∧ AnyOf ["V", "mV"] unit :=
  exists_readLevel_iff (toLower_of_mem (by simp)) (toLower_of_mem (by simp))

lemma exists_readAmps_iff : (∃ x, readLevel "a" "ma" value unit = .ok x) ↔
    Numeral (fun _ => True) value ∧ AnyOf ["A", "mA"] unit :=
  exists_readLevel_iff (toLower_of_mem (by simp)) (toLower_of_mem (by simp))

lemma anyOf_map_iff {ι : Type} {xs : List ι} {f : ι → String} :
    AnyOf (xs.map f) text ↔ ∃ x ∈ xs, Spells (f x) text := by
  simp [AnyOf]

/-- What is read as a parameter of a sweep is the name of one. -/
lemma exists_parameter_iff :
    (∃ p, Parameter.parse text = .ok p) ↔
      AnyOf ["AMP-R1", "AMP-ALL", "FREQ", "VG", "H", "HEATER"] text := by
  have hname (p : Parameter) : text.toUpper = p.name ↔ Spells p.name text := by
    rw [← toUpper_eq_toUpper_iff]
    have hall : ∀ p ∈ Parameter.all, p.name.toUpper = p.name := by decide +kernel
    rw [hall p (by cases p <;> simp [Parameter.all])]
  change _ ↔ AnyOf (Parameter.all.map Parameter.name) text
  simp only [anyOf_map_iff, ← hname]
  unfold Parameter.parse
  dsimp only
  split
  · next p hp =>
    have hmem := List.mem_of_find?_eq_some hp
    have heq := List.find?_some hp
    exact ⟨fun _ => ⟨p, hmem, (eq_of_beq heq).symm⟩, fun _ => ⟨p, rfl⟩⟩
  · next hnone =>
    refine ⟨nofun, fun ⟨p, hp, h⟩ => ?_⟩
    exact absurd (beq_iff_eq.2 h.symm) (List.find?_eq_none.1 hnone p hp)

/-- What is read as a factor is the name of one. -/
lemma exists_expand_iff :
    (∃ e, Expand.parse? text = some e) ↔ AnyOf ["1x", "10x", "100x"] text := by
  have hname (e : Expand) : text.toLower = e.name ↔ Spells e.name text := by
    refine toLower_eq_iff (toLower_of_mem ?_)
    cases e <;> simp [Expand.name]
  change _ ↔ AnyOf ([Expand.x1, .x10, .x100].map Expand.name) text
  rw [anyOf_map_iff, ← Option.isSome_iff_exists, Expand.parse?, List.find?_isSome]
  refine exists_congr fun e => and_congr_right fun _ => ?_
  rw [beq_iff_eq, eq_comm, hname]

/-- Units that are not listed twice are looked up as they are listed. -/
lemma lookup_eq_some_iff {units : List (String × Float)} (h : (units.map Prod.fst).Nodup) :
    units.lookup unit = some x ↔ (unit, x) ∈ units := by
  induction units with
  | nil => simp
  | cons u units ih =>
    obtain ⟨name, factor⟩ := u
    obtain ⟨hname, h⟩ := List.nodup_cons.1 h
    rw [List.lookup_cons, List.mem_cons, Prod.mk.injEq]
    by_cases hu : unit = name
    · subst hu
      have hno : (unit, x) ∉ units := fun hmem => hname (List.mem_map.2 ⟨_, hmem, rfl⟩)
      simp [hno, eq_comm]
    · rw [beq_false_of_ne hu]
      simpa [hu] using ih h

/-- What is read as a unit of time is one. -/
lemma timeFactor_eq_ok_iff {reason : Reason} :
    unitFactor timeUnits unit reason = .ok x ↔ TimeUnit x unit := by
  rw [unitFactor, elim_eq_ok_iff, lookup_eq_some_iff (by decide)]
  simp only [timeUnits, TimeUnit, List.mem_cons, List.not_mem_nil, or_false, Prod.mk.injEq,
    or_and_right, or_assoc]

/-- What is read as a wait is a time with its unit. -/
lemma exists_readWait_iff : (∃ x, readWait amount unit = .ok x) ↔ ∃ seconds,
    TimeUnit seconds unit ∧
      Numeral (fun x => 0 ≤ x ∧ (Duration.ofSeconds? (x * seconds)).isSome) amount := by
  have hread : (∃ y, readWait amount unit = .ok y) ↔ ∃ x, finite amount .timeNotNumber = .ok x ∧
      0 ≤ x ∧ ∃ seconds, TimeUnit seconds unit ∧
        (Duration.ofSeconds? (x * seconds)).isSome := by
    simp only [readWait, exists_bind_iff, nonNegative_eq_ok_iff, timeFactor_eq_ok_iff, and_assoc,
      exists_and_left, exists_eq_left']
    refine exists_congr fun x => and_congr_right fun _ => and_congr_right fun _ =>
      exists_congr fun seconds => and_congr_right fun _ => ?_
    cases Duration.ofSeconds? (x * seconds) with
    | none => exact ⟨fun ⟨_, h⟩ => (by cases h), nofun⟩
    | some d => exact ⟨fun _ => rfl, fun _ => ⟨_, rfl⟩⟩
  rw [hread]
  simp only [← exists_finite_iff (e := .timeNotNumber)]
  constructor
  · rintro ⟨x, hx, hpos, seconds, hunit, hfits⟩
    exact ⟨seconds, hunit, x, hx, hpos, hfits⟩
  · rintro ⟨seconds, hunit, x, hx, hpos, hfits⟩
    exact ⟨x, hx, hpos, seconds, hunit, hfits⟩

/-- The words that switch something on or off. -/
lemma anyOf_switch_iff : AnyOf ["on", "off", "1", "0"] text ↔
    (text.toLower = "on" ∨ text.toLower = "1") ∨ text.toLower = "off" ∨ text.toLower = "0" := by
  have hword (word : String) (h : (word, word) ∈ caseless) :
      text.toLower = word ↔ Spells word text := toLower_eq_iff (toLower_of_mem h)
  rw [hword "on" (by simp), hword "1" (by simp), hword "off" (by simp), hword "0" (by simp)]
  simp only [AnyOf, List.mem_cons, List.not_mem_nil, or_false, exists_eq_or_imp, exists_eq_left]
  tauto

/-- What is read as a setting follows the usage. -/
lemma exists_readSetting_iff :
    (∃ s, readSetting name value = .ok s) ↔ Follows .config [name, value] := by
  simp only [readSetting_eq_ok_iff]
  constructor
  · rintro ⟨s, h⟩
    cases h with
    | stepRelax hx hnonneg | stepMeasure hx hnonneg =>
      exact .span (by simp) (exists_finite_iff.1 ⟨_, hx, hnonneg⟩)
    | currentField hx | currentTemperature hx =>
      exact .place (by simp) (exists_finite.1 ⟨_, hx⟩)
    | raised h => exact .autorange (anyOf_switch_iff.2 (.inl h))
    | leftAlone h => exact .autorange (anyOf_switch_iff.2 (.inr h))
  · intro h
    cases h with
    | span hn h =>
      simp only [List.mem_cons, List.not_mem_nil, or_false] at hn
      obtain ⟨x, hx, hnonneg⟩ := exists_finite_iff (e := .notNumber value).2 h
      rcases hn with rfl | rfl
      · exact ⟨_, .stepRelax hx hnonneg⟩
      · exact ⟨_, .stepMeasure hx hnonneg⟩
    | place hn h =>
      simp only [List.mem_cons, List.not_mem_nil, or_false] at hn
      obtain ⟨x, hx⟩ := exists_finite (e := .notNumber value).2 h
      rcases hn with rfl | rfl
      · exact ⟨_, .currentField hx⟩
      · exact ⟨_, .currentTemperature hx⟩
    | autorange h =>
      rcases anyOf_switch_iff.1 h with h | h
      · exact ⟨_, .raised h⟩
      · exact ⟨_, .leftAlone h⟩

end Words

/-! ## Operations -/

section Operations

variable {o : Operation} {args : List String}

/-- Arguments that are read follow the usage. -/
lemma follows_of_readAs {command : Command} (hodd : ¬OddlyWritten o args)
    (h : ReadAs o args command) : Follows o args := by
  cases h with
  | config hs => exact exists_readSetting_iff.1 ⟨_, hs⟩
  | startSimple | startCooldown => exact .name (by simp)
  | startStep hp hrange hpasses =>
    have hrange := (exists_readRange_iff fun hm => hodd (.stepRange hm)).1 ⟨_, hrange⟩
    exact .startStep (exists_parameter_iff.1 ⟨_, hp⟩) hrange
      (exists_readPasses_iff.1 ⟨_, hpasses⟩)
  | startDidv hrange hpoints hpos hd =>
    have hrange := (exists_readRange_iff fun hm => hodd (.traceRange hm)).1 ⟨_, hrange⟩
    obtain ⟨hn, hle⟩ := readWhole?_eq_some_iff.1 hpoints
    exact .startDidv hrange ⟨_, Nat.pos_of_ne_zero hpos, hle, hn⟩ (exists_finite.1 ⟨_, hd⟩)
  | stop | waitForField | waitForTemperature | waitForProgram => exact .nothing (by simp)
  | wait hx =>
    obtain ⟨seconds, hunit, hamount⟩ := exists_readWait_iff.1 ⟨_, hx⟩
    exact .wait hunit hamount
  | gateVoltage hx =>
    obtain ⟨hvalue, hunit⟩ := exists_readVolts_iff.1 ⟨_, hx⟩
    exact .gateVoltage hvalue hunit
  | gateCurrent hx =>
    obtain ⟨hvalue, hunit⟩ := exists_readAmps_iff.1 ⟨_, hx⟩
    exact .gateCurrent hvalue hunit
  | gateOff | gateOn => exact .gateState (by simp)
  | targetField hx hfactor hr hrateFactor =>
    exact .targetField (exists_finite.1 ⟨_, hx⟩) (exists_unitFactor_iff.1 ⟨_, hfactor⟩)
      (exists_positive_iff.1 ⟨_, hr⟩) (exists_unitFactor_iff.1 ⟨_, hrateFactor⟩)
  | targetTemperature hx hfactor hr hrateFactor =>
    exact .targetTemperature (exists_finite.1 ⟨_, hx⟩) (exists_unitFactor_iff.1 ⟨_, hfactor⟩)
      (exists_positive_iff.1 ⟨_, hr⟩) (exists_unitFactor_iff.1 ⟨_, hrateFactor⟩)
  | amplitude hx | frequency hx => exact .number (by simp) (exists_finite.1 ⟨_, hx⟩)
  | expanded hlockin hfactor hstate =>
    have hlockin := (exists_readLockin_iff fun hp => hodd (.lockin hp)).1 ⟨_, hlockin⟩
    exact .offsetAndExpand hlockin (anyOf_on_off_iff.2 (.inl hstate))
      (exists_expand_iff.1 ⟨_, hfactor⟩)
  | plain hlockin hfactor hstate =>
    have hlockin := (exists_readLockin_iff fun hp => hodd (.lockin hp)).1 ⟨_, hlockin⟩
    exact .offsetAndExpand hlockin (anyOf_on_off_iff.2 (.inr hstate))
      (exists_expand_iff.1 ⟨_, hfactor⟩)
  | channel hn => exact .channel (exists_readChannel_iff.1 ⟨_, hn⟩)
  | excitation hd => exact .direction (exists_direction_iff.1 ⟨_, hd⟩)
  | range hn hd =>
    exact .range (exists_readChannel_iff.1 ⟨_, hn⟩) (exists_direction_iff.1 ⟨_, hd⟩)

/-- Any value and any rate above zero, each with its unit, make a ramp. -/
lemma exists_of_ramp {value unit rate rateUnit : String} {units rateUnits : List (String × Float)}
    {reason reason' reason'' reason''' : Reason} {f : Float → Float → Command}
    (h : ∀ {x factor r rateFactor : Float}, finite value reason = .ok x →
      unitFactor units unit reason' = .ok factor → positive rate reason'' = .ok r →
      unitFactor rateUnits rateUnit reason''' = .ok rateFactor →
      ReadAs o args (f (x * factor) (r * rateFactor)))
    (hvalue : Numeral (fun _ => True) value) (hunit : unit ∈ units.map Prod.fst)
    (hrate : Numeral (0 < ·) rate) (hrateUnit : rateUnit ∈ rateUnits.map Prod.fst) :
    ∃ command, ReadAs o args command := by
  obtain ⟨x, hx⟩ := exists_finite.2 hvalue
  obtain ⟨factor, hfactor⟩ := exists_unitFactor_iff.2 hunit
  obtain ⟨r, hr⟩ := exists_positive_iff.2 hrate
  obtain ⟨rateFactor, hrateFactor⟩ := exists_unitFactor_iff.2 hrateUnit
  exact ⟨_, h hx hfactor hr hrateFactor⟩

/-- Arguments that follow the usage are read. -/
lemma exists_readAs (hodd : ¬OddlyWritten o args) (h : Follows o args) :
    ∃ command, ReadAs o args command := by
  have hconfig {name value : String} (h : Follows .config [name, value]) :
      ∃ command, ReadAs .config [name, value] command := by
    obtain ⟨s, hs⟩ := exists_readSetting_iff.2 h
    exact ⟨_, .config hs⟩
  cases h with
  | span hn h => exact hconfig (.span hn h)
  | place hn h => exact hconfig (.place hn h)
  | autorange h => exact hconfig (.autorange h)
  | name ho =>
    simp only [List.mem_cons, List.not_mem_nil, or_false] at ho
    rcases ho with rfl | rfl
    · exact ⟨_, .startSimple⟩
    · exact ⟨_, .startCooldown⟩
  | startStep hparameter hrange hpasses =>
    obtain ⟨p, hp⟩ := exists_parameter_iff.2 hparameter
    obtain ⟨⟨first, last⟩, hrange⟩ :=
      (exists_readRange_iff fun hm => hodd (.stepRange hm)).2 hrange
    obtain ⟨⟨points, zigzag⟩, hpasses⟩ := exists_readPasses_iff.2 hpasses
    exact ⟨_, .startStep hp hrange hpasses⟩
  | startDidv hrange hpoints hdelta =>
    obtain ⟨⟨first, last⟩, hrange⟩ :=
      (exists_readRange_iff fun hm => hodd (.traceRange hm)).2 hrange
    obtain ⟨n, hpos, hle, hn⟩ := hpoints
    obtain ⟨d, hd⟩ := exists_finite.2 hdelta
    exact ⟨_, .startDidv hrange (readWhole?_eq_some_iff.2 ⟨hn, hle⟩) (by omega) hd⟩
  | nothing ho =>
    simp only [List.mem_cons, List.not_mem_nil, or_false] at ho
    rcases ho with rfl | rfl | rfl | rfl
    · exact ⟨_, .stop⟩
    · exact ⟨_, .waitForField⟩
    · exact ⟨_, .waitForTemperature⟩
    · exact ⟨_, .waitForProgram⟩
  | wait hunit hamount =>
    obtain ⟨x, hx⟩ := exists_readWait_iff.2 ⟨_, hunit, hamount⟩
    exact ⟨_, .wait hx⟩
  | gateVoltage hvalue hunit =>
    obtain ⟨x, hx⟩ := exists_readVolts_iff.2 ⟨hvalue, hunit⟩
    exact ⟨_, .gateVoltage hx⟩
  | gateCurrent hvalue hunit =>
    obtain ⟨x, hx⟩ := exists_readAmps_iff.2 ⟨hvalue, hunit⟩
    exact ⟨_, .gateCurrent hx⟩
  | gateState hstate =>
    simp only [List.mem_cons, List.not_mem_nil, or_false] at hstate
    rcases hstate with rfl | rfl
    · exact ⟨_, .gateOff⟩
    · exact ⟨_, .gateOn⟩
  | targetField hvalue hunit hrate hrateUnit =>
    exact exists_of_ramp .targetField hvalue hunit hrate hrateUnit
  | targetTemperature hvalue hunit hrate hrateUnit =>
    exact exists_of_ramp .targetTemperature hvalue hunit hrate hrateUnit
  | number ho hvalue =>
    simp only [List.mem_cons, List.not_mem_nil, or_false] at ho
    rcases ho with rfl | rfl
    · obtain ⟨x, hx⟩ := exists_finite.2 hvalue
      exact ⟨_, .amplitude hx⟩
    · obtain ⟨x, hx⟩ := exists_finite.2 hvalue
      exact ⟨_, .frequency hx⟩
  | offsetAndExpand hlockin hstate hexpand =>
    obtain ⟨n, hn⟩ := (exists_readLockin_iff fun hp => hodd (.lockin hp)).2 hlockin
    obtain ⟨factor, hfactor⟩ := exists_expand_iff.2 hexpand
    rcases anyOf_on_off_iff.1 hstate with hstate | hstate
    · exact ⟨_, .expanded hn hfactor hstate⟩
    · exact ⟨_, .plain hn hfactor hstate⟩
  | channel hchannel =>
    obtain ⟨n, hn⟩ := exists_readChannel_iff.2 hchannel
    exact ⟨_, .channel hn⟩
  | direction hdirection =>
    obtain ⟨d, hd⟩ := exists_direction_iff.2 hdirection
    exact ⟨_, .excitation hd⟩
  | range hchannel hdirection =>
    obtain ⟨n, hn⟩ := exists_readChannel_iff.2 hchannel
    obtain ⟨d, hd⟩ := exists_direction_iff.2 hdirection
    exact ⟨_, .range hn hd⟩

/-- What is read as the arguments of an operation follows its usage. -/
theorem exists_ofArguments_iff (hodd : ¬OddlyWritten o args) :
    (∃ command, Command.ofArguments o args = .ok command) ↔ Follows o args := by
  simp only [Command.ofArguments_eq_ok_iff]
  exact ⟨fun ⟨_, h⟩ => follows_of_readAs hodd h, exists_readAs hodd⟩

end Operations

/-! ## Lines -/

/-- **A line is read exactly if it follows the usage of its operation.** Any line that is not read
is refused with its number and that usage, or with the list of operations if it names none. -/
theorem Command.parse_iff_follows (line : Nat) (name : String) (args : List String) :
    ((∀ o : Operation, o.name = name → ¬OddlyWritten o args) →
      ((∃ command, Command.parse line name args = .ok command) ↔
        ∃ o : Operation, o.name = name ∧ Follows o args)) ∧
    ((¬∃ command, Command.parse line name args = .ok command) → ∃ reason,
      (∃ o : Operation, o.name = name ∧
        Command.parse line name args = .error ⟨line, reason, .of o⟩) ∨
      (∀ o : Operation, o.name ≠ name) ∧
        Command.parse line name args = .error ⟨line, reason, .list⟩) := by
  by_cases hname : ∃ o : Operation, o.name = name
  · obtain ⟨o, ho⟩ := hname
    have honly : (∃ p : Operation, p.name = name ∧ Follows p args) ↔ Follows o args := by
      refine ⟨fun ⟨p, hp, h⟩ => ?_, fun h => ⟨o, ho, h⟩⟩
      rwa [← Operation.name_injective (hp.trans ho.symm)]
    rw [honly]
    rcases parse_of_name line args ho with ⟨command, hread, hparse⟩ | ⟨reason, hread, hparse⟩
    · exact ⟨fun hodd => ⟨fun _ => (exists_ofArguments_iff (hodd o ho)).1 ⟨command, hread⟩,
        fun _ => ⟨command, hparse⟩⟩, fun h => absurd ⟨command, hparse⟩ h⟩
    · refine ⟨fun hodd => ⟨fun ⟨c, h⟩ => ?_, fun h => ?_⟩,
        fun _ => ⟨reason, .inl ⟨o, ho, hparse⟩⟩⟩
      · rw [hparse] at h
        cases h
      · obtain ⟨c, hc⟩ := (exists_ofArguments_iff (hodd o ho)).2 h
        rw [hread] at hc
        cases hc
  · have hno : ∀ o : Operation, o.name ≠ name := not_exists.1 hname
    have hparse := parse_of_unknown line args hno
    refine ⟨fun _ => ⟨fun ⟨c, h⟩ => ?_, fun ⟨o, ho, _⟩ => absurd ho (hno o)⟩,
      fun _ => ⟨_, .inr ⟨hno, hparse⟩⟩⟩
    rw [hparse] at h
    cases h

/-- A channel of one byte can be given, and a larger one is refused. -/
theorem Command.parse_channels :
    (∃ command, Command.parse 4 "set-rng" ["255", "UP"] = .ok command) ∧
    (∃ reason, Command.parse 5 "set-rng" ["256", "up"] =
      .error ⟨5, reason, .of .setRange⟩) := by
  have hname {o : Operation} (h : o.name = "set-rng") : o = .setRange :=
    Operation.name_injective (h.trans (show "set-rng" = Operation.setRange.name from rfl))
  have hodd {args : List String} (o : Operation) (h : o.name = "set-rng") :
      ¬OddlyWritten o args := by
    obtain rfl := hname h
    nofun
  have hsmall : Follows .setRange ["255", "UP"] :=
    .range (exists_readChannel_iff.1 ⟨255, by decide +kernel⟩)
      (exists_direction_iff.1 ⟨.up, by decide +kernel⟩)
  have hlarge : ¬ChannelText "256" := by
    rintro ⟨n, hle, hn⟩
    have hread := readWhole?_eq_some_iff.2 ⟨hn, hle⟩
    rw [show Number.readWhole? byteMax "256" = none by decide +kernel] at hread
    cases hread
  obtain ⟨hreads, hrefuses⟩ := Command.parse_iff_follows 5 "set-rng" ["256", "up"]
  have hrefused : ¬∃ command, Command.parse 5 "set-rng" ["256", "up"] = .ok command := by
    rw [hreads hodd]
    rintro ⟨o, ho, h⟩
    obtain rfl := hname ho
    cases h with
    | range hchannel _ => exact hlarge hchannel
  refine ⟨((Command.parse_iff_follows 4 "set-rng" ["255", "UP"]).1 hodd).2
    ⟨.setRange, rfl, hsmall⟩, ?_⟩
  obtain ⟨reason, ⟨o, ho, h⟩ | ⟨hno, -⟩⟩ := hrefuses hrefused
  · obtain rfl := hname ho
    exact ⟨reason, h⟩
  · exact absurd rfl (hno .setRange)

/-- The points of a differential sweep have to fit, and a lock-in may be written with more than one
digit. -/
theorem Command.parse_limits :
    (WholeText 4294967296 "4294967296".toList ∧
      ∀ (line : Nat) (name range delta : String) (command : Command),
        Command.parse line "start-didv" [name, range, "4294967296", "with", "delta", delta] ≠
          .ok command) ∧
    ¬LockinText "R01" ∧
      Command.parse 7 "set-offset-and-expand" ["R01", "on", "1x"] =
        .ok (.setOffsetExpand 0 (some .x1)) := by
  have hpoints : Number.readWhole? hugeMax "4294967296" = some 4294967296 ∧
      Number.readWhole? longMax "4294967296" = none := by
    decide +kernel
  have hnames : ∀ word ∈ ["R1", "R2", "R3", "R4"], ¬Spells word "R01" := by
    unfold Spells
    decide +kernel
  refine ⟨⟨(readWhole?_eq_some_iff.1 hpoints.1).1, fun line name range delta command h => ?_⟩,
    fun ⟨word, hword, h⟩ => hnames word hword h, ?_⟩
  · rcases parse_of_name (o := .startDidv) line
      [name, range, "4294967296", "with", "delta", delta] rfl with
      ⟨_, hread, -⟩ | ⟨_, -, hparse⟩
    · obtain ⟨_, -, hread⟩ := bind_eq_ok_iff.1 hread
      obtain ⟨n, hn, -⟩ := bind_eq_ok_iff.1 hread
      rw [hpoints.2] at hn
      cases hn
    · rw [show Operation.startDidv.name = "start-didv" from rfl, h] at hparse
      cases hparse
  · have hread : Command.ofArguments .setOffsetAndExpand ["R01", "on", "1x"] =
        .ok (.setOffsetExpand 0 (some .x1)) := by
      refine bind_eq_ok_iff.2 ⟨0, by decide +kernel, bind_eq_ok_iff.2 ⟨.x1, by decide +kernel, ?_⟩⟩
      rw [if_pos (show "on".toLower = "on" from toLower_of_mem (by simp))]
      rfl
    rw [Command.parse, Command.read, show Operation.ofName? "set-offset-and-expand" =
      some .setOffsetAndExpand by decide]
    dsimp only
    rw [hread]
    rfl

end CryoRig.Script
