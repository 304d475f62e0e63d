import CryoRig.Proofs.CommandLanguage
import CryoRig.Proofs.SweepRange
import CryoRig.Script.Listing

/-!
# The numbers that lines are read as

The numbers of a line are checked as they are written. What they come to in base units, and what the
targets of a sweep come to, is computed afterwards and may be out of range: a rate may be lost when
it is scaled, and a sweep between distant ends may overflow. Nothing else goes wrong.

## Main definitions

* `CryoRig.Script.Command.numbers`, `CryoRig.Script.Command.rate?`: the numbers of a command.
* `CryoRig.Script.Line.Ramps`, `CryoRig.Script.Line.Sweeps`: what is written on a line.
* `CryoRig.Script.Line.LosesRate`, `CryoRig.Script.Line.LeavesRange`: what goes wrong afterwards.
* `CryoRig.Script.Command.Sound`: what is true of every command that is read.

## Main results

* `CryoRig.Script.reads_of_readAs`: where the numbers of a command come from.
* `CryoRig.Script.forall_mem_numbers_iff`: the numbers of a command are finite exactly if its sweep
  does not leave the range.
* `CryoRig.Script.forall_mem_rate_iff`: its rate is above zero exactly if it is not lost.
* `CryoRig.Script.Line.Sweeps.not_leavesRange`: most sweeps do not leave the range.
-/

namespace CryoRig.Script

open Number (value)

/-! ## Commands and lines -/

/-- The number of a setting. -/
def Setting.number? : Setting → Option Float
  | .stepRelax x | .stepMeasure x | .currentField x | .currentTemperature x => some x
  | .autorange _ => none

/-- The numbers of a command, in base units. -/
def Command.numbers : Command → List Float
  | .config setting => setting.number?.toList
  | .startStep _ _ targets => targets
  | .startDidv _ plan => [plan.start, plan.stop, plan.delta]
  | .wait x | .setGateVoltage x | .setGateCurrent x | .setAmplitude x | .setFrequency x => [x]
  | .setTargetField x rate | .setTargetTemperature x rate => [x, rate]
  | _ => []

/-- The rate of a command, in base units per minute. -/
def Command.rate? : Command → Option Float
  | .setTargetField _ rate | .setTargetTemperature _ rate => some rate
  | _ => none

/-- A line asks for a ramp at a rate, as it is written and with its unit. -/
def Line.Ramps (l : Line) (x : Float) (unit : String) : Prop :=
  ∃ o ∈ [Operation.setTargetField, .setTargetTemperature], l.operation = o.name ∧
    ∃ target targetUnit rate, l.arguments = [target, targetUnit, "with", "rate", rate, unit] ∧
      Number.readFinite? rate = some x

/-- A line asks for a sweep between two ends, with a number of points on each pass. -/
def Line.Sweeps (l : Line) (first last : Float) (points : ℕ) : Prop :=
  l.operation = Operation.startStep.name ∧
    ∃ name parameter range passes zigzag, l.arguments = [name, parameter, range, passes] ∧
      readRange range = .ok (first, last) ∧ readPasses passes = .ok (points, zigzag)

/-- The least rate that is not lost in a unit. It counts the least double above zero, so that any
rate without a prefix is kept. -/
def leastRate (unit : String) : ℕ :=
  if unit = "Oe/min" then 5000 else if unit = "mK/min" then 500 else 1

/-- The rate of a line is too small for what its unit is scaled by. -/
def Line.LosesRate (l : Line) : Prop :=
  ∃ x unit, l.Ramps x unit ∧ value x < leastRate unit * 2 ^ (-1074 : ℤ)

/-- The first pass of a sweep does not come to a finite number at its far end. -/
def Line.LeavesRange (l : Line) : Prop :=
  ∃ first last points, l.Sweeps first last points ∧
    ∃ x ∈ (linspace first last points).getLast?, ¬x.isFinite

/-- What the checks of a line make sure of: its numbers are finite apart from targets, and what a
duration is computed from is not below zero. -/
def Command.Sound : Command → Prop
  | .config (.stepRelax x) | .config (.stepMeasure x) => x.isFinite ∧ 0 ≤ value x
  | .startStep _ _ targets => 0 < targets.length ∧ targets.length ≤ 2 ^ 128
  | .wait x => x.isFinite ∧ 0 ≤ value x ∧ value x < 2 ^ 64
  | .setTargetField x rate | .setTargetTemperature x rate =>
    x.isFinite ∧ rate.isFinite ∧ 0 ≤ value rate
  | command => ∀ x ∈ command.numbers, x.isFinite

/-! ## Units -/

section Units

variable {x factor : Float} {n : ℕ} {unit text : String} {reason : Reason}

/-- Scaling by a factor does not enlarge, and loses what is below a number of least doubles. -/
structure Scales (factor : Float) (n : ℕ) : Prop where
  /-- The factor is finite. -/
  isFinite : factor.isFinite
  /-- It does not enlarge. -/
  le_one : value factor ≤ 1
  /-- What is below the threshold is at most half the least double. -/
  low : 2 * ((n - 1 : ℚ) * value factor) ≤ 1
  /-- The threshold itself is more than that. -/
  high : 1 < 2 * (n * value factor)

lemma scales_of_ofFloat {m : ℕ} {e : ℤ} (h : Number.Binary64.ofFloat factor = .finite false m e)
    (hone : (m : ℚ) * 2 ^ e ≤ 1) (hlow : 2 * ((n - 1 : ℚ) * (m * 2 ^ e)) ≤ 1)
    (hhigh : 1 < 2 * (n * (m * 2 ^ e : ℚ))) : Scales factor n := by
  obtain ⟨hfinite, hvalue⟩ := Number.of_ofFloat_eq h
  exact ⟨hfinite, hvalue ▸ hone, hvalue ▸ hlow, hvalue ▸ hhigh⟩

lemma scales_one : Scales 1 1 :=
  scales_of_ofFloat (m := 2 ^ 52) (e := -52) (by decide +kernel) (by norm_num) (by norm_num)
    (by norm_num)

lemma scales_tenThousandth : Scales 1e-4 5000 :=
  -- the nearest double is above `1e-4`, so 5000 least doubles come to more than half of one
  scales_of_ofFloat (m := 7378697629483821) (e := -66) (by decide +kernel) (by norm_num)
    (by norm_num) (by norm_num)

lemma scales_thousandth : Scales 1e-3 500 :=
  -- the nearest double is above `1e-3` as well
  scales_of_ofFloat (m := 4611686018427388) (e := -62) (by decide +kernel) (by norm_num)
    (by norm_num) (by norm_num)

lemma Scales.value_nonneg (h : Scales factor n) : 0 ≤ value factor := by
  have hn : (0 : ℚ) ≤ n := Nat.cast_nonneg n
  nlinarith [h.high]

lemma Scales.isFinite_mul (h : Scales factor n) (hx : x.isFinite) : (x * factor).isFinite :=
  (Number.isFinite_mul_of_le_one hx h.isFinite h.value_nonneg h.le_one).1

lemma Scales.value_mul_nonneg (h : Scales factor n) (hx : x.isFinite) (hpos : 0 < x) :
    0 ≤ value (x * factor) := by
  rw [(Number.rounds_mul hx h.isFinite).value_eq (h.isFinite_mul hx)]
  exact Number.rounded_nonneg
    (mul_nonneg ((Number.pos_iff_of_isFinite hx).1 hpos).le h.value_nonneg)

lemma Scales.mul_pos_iff (h : Scales factor n) (hx : x.isFinite) (hpos : 0 < x) :
    0 < x * factor ↔ n * 2 ^ (-1074 : ℤ) ≤ value x := by
  obtain ⟨k, rfl⟩ : ∃ k, n = k + 1 := by
    refine Nat.exists_eq_add_one.2 (Nat.pos_of_ne_zero fun hzero => ?_)
    have := h.high
    norm_num [hzero] at this
  have hlow := h.low
  have hhigh := h.high
  rw [Nat.cast_add, Nat.cast_one] at hlow hhigh ⊢
  rw [add_sub_cancel_right] at hlow
  exact Number.mul_pos_iff hx ((Number.pos_iff_of_isFinite hx).1 hpos).le h.isFinite hlow hhigh
    h.le_one

/-- What is true of every unit that is listed is true of the one that is read. -/
lemma of_unitFactor {P : String → Float → Prop} {units : List (String × Float)}
    (hnodup : (units.map Prod.fst).Nodup) (hall : ∀ p ∈ units, P p.1 p.2)
    (h : unitFactor units unit reason = .ok factor) : P unit factor := by
  rw [unitFactor, elim_eq_ok_iff, lookup_eq_some_iff hnodup] at h
  exact hall _ h

lemma scales_of_fieldUnit (h : unitFactor fieldUnits unit reason = .ok factor) :
    ∃ n, Scales factor n := by
  refine of_unitFactor (P := fun _ factor => ∃ n, Scales factor n) (by decide) ?_ h
  simp only [fieldUnits, List.forall_mem_cons]
  exact ⟨⟨_, scales_one⟩, ⟨_, scales_tenThousandth⟩, List.forall_mem_nil _⟩

lemma scales_of_temperatureUnit (h : unitFactor temperatureUnits unit reason = .ok factor) :
    ∃ n, Scales factor n := by
  refine of_unitFactor (P := fun _ factor => ∃ n, Scales factor n) (by decide) ?_ h
  simp only [temperatureUnits, List.forall_mem_cons]
  exact ⟨⟨_, scales_one⟩, ⟨_, scales_thousandth⟩, List.forall_mem_nil _⟩

lemma scales_of_fieldRateUnit (h : unitFactor fieldRateUnits unit reason = .ok factor) :
    Scales factor (leastRate unit) := by
  refine of_unitFactor (P := fun unit factor => Scales factor (leastRate unit)) (by decide) ?_ h
  simp only [fieldRateUnits, List.forall_mem_cons]
  exact ⟨scales_one, scales_tenThousandth, List.forall_mem_nil _⟩

lemma scales_of_temperatureRateUnit
    (h : unitFactor temperatureRateUnits unit reason = .ok factor) :
    Scales factor (leastRate unit) := by
  refine of_unitFactor (P := fun unit factor => Scales factor (leastRate unit)) (by decide) ?_ h
  simp only [temperatureRateUnits, List.forall_mem_cons]
  exact ⟨scales_one, scales_thousandth, List.forall_mem_nil _⟩

/-- A time that is rounded to a span is a finite number of seconds. -/
lemma value_of_ofSeconds? (h : (Duration.ofSeconds? x).isSome) :
    x.isFinite ∧ 0 ≤ value x ∧ value x < 2 ^ 64 := by
  unfold Duration.ofSeconds? at h
  cases hform : Number.Binary64.ofFloat x with
  | notANumber => simp [hform] at h
  | infinite => simp [hform] at h
  | finite negative m e =>
    have hpow : (0 : ℚ) < 2 ^ e := by positivity
    simp only [hform] at h
    split at h
    · cases h
    · next hsign =>
      have hvalue : value x = m * 2 ^ e := by
        rw [value, hform, Number.Binary64.value]
        cases negative
        · rfl
        · obtain rfl : m = 0 := by simpa using hsign
          simp [Number.signed]
      refine ⟨Number.isFinite_iff.2 ⟨_, _, _, hform⟩, hvalue ▸ by positivity, hvalue ▸ ?_⟩
      split at h
      · next hmax =>
        have hlt := Number.lt_of_scaleRound_le hmax
        norm_num [nanosPerSecond, Duration.max, Number.twoTo] at hlt
        linarith
      · cases h

end Units

/-! ## Readings -/

section Readings

variable {x y first last : Float} {points zigzag : ℕ} {text name value unit base milli : String}
  {reason : Reason} {setting : Setting}

lemma finite_eq_ok_iff_readFinite? :
    finite text reason = .ok x ↔ Number.readFinite? text = some x := elim_eq_ok_iff

lemma isFinite_of_finite (h : finite text reason = .ok x) : x.isFinite :=
  (finite_eq_ok_iff.1 h).2

lemma positive_eq_ok_iff :
    positive text reason = .ok x ↔ finite text reason = .ok x ∧ 0 < x := by
  rw [positive, bind_eq_ok_iff]
  constructor
  · rintro ⟨y, hy, h⟩
    split at h
    · next hpos =>
      cases h
      exact ⟨hy, hpos⟩
    · cases h
  · rintro ⟨hx, hpos⟩
    exact ⟨x, hx, if_pos hpos⟩

lemma isFinite_of_readRange (h : readRange text = .ok (first, last)) :
    first.isFinite ∧ last.isFinite := by
  rw [readRange, elim_eq_ok_iff, parts_eq_some_iff (by decide)] at h
  obtain ⟨_, _, -, hfirst, hlast⟩ := h
  exact ⟨(readFinite?_eq_some_iff.1 hfirst).2, (readFinite?_eq_some_iff.1 hlast).2⟩

lemma of_readPasses (h : readPasses text = .ok (points, zigzag)) :
    (points ≠ 0 ∧ points ≤ Number.hugeMax) ∧ zigzag ≠ 0 ∧ zigzag ≤ Number.hugeMax := by
  obtain ⟨⟨p, z⟩, hcounts, h⟩ := bind_eq_ok_iff.1 h
  rw [elim_eq_ok_iff, parts_eq_some_iff (by decide)] at hcounts
  obtain ⟨_, _, -, hp, hz⟩ := hcounts
  dsimp only at h
  split at h
  · cases h
  · next hpos =>
    obtain ⟨rfl, rfl⟩ : p = points ∧ z = zigzag := by
      simpa [bind, Except.bind, pure, Except.pure] using h
    rw [not_or] at hpos
    exact ⟨⟨hpos.1, (Number.readWhole?_eq_some_iff.1 hp).2⟩, hpos.2,
      (Number.readWhole?_eq_some_iff.1 hz).2⟩

lemma sound_of_setting (h : SettingReadAs value name setting) :
    (Command.config setting).Sound ∧ ∀ x ∈ (Command.config setting).numbers, x.isFinite := by
  cases h with
  | stepRelax hx hnonneg | stepMeasure hx hnonneg =>
    have hfinite := isFinite_of_finite hx
    have hvalue := (Number.nonneg_iff_of_isFinite hfinite).1 hnonneg
    exact ⟨⟨hfinite, hvalue⟩, List.forall_mem_singleton.2 hfinite⟩
  | currentField hx | currentTemperature hx =>
    have hnumbers : ∀ y ∈ [_], Float.isFinite y :=
      List.forall_mem_singleton.2 (isFinite_of_finite hx)
    exact ⟨hnumbers, hnumbers⟩
  | raised | leftAlone => exact ⟨List.forall_mem_nil _, List.forall_mem_nil _⟩

lemma isFinite_of_readLevel (h : readLevel base milli value unit = .ok x) : x.isFinite := by
  obtain ⟨y, hy, h⟩ := bind_eq_ok_iff.1 h
  have hfinite := isFinite_of_finite hy
  dsimp only at h
  split at h
  · cases h
    exact hfinite
  · split at h <;> cases h
    exact scales_thousandth.isFinite_mul hfinite

lemma value_of_readWait (h : readWait value unit = .ok x) :
    x.isFinite ∧ 0 ≤ Number.value x ∧ Number.value x < 2 ^ 64 := by
  obtain ⟨amount, -, h⟩ := bind_eq_ok_iff.1 h
  obtain ⟨amount, -, h⟩ := bind_eq_ok_iff.1 h
  obtain ⟨factor, -, h⟩ := bind_eq_ok_iff.1 h
  dsimp only at h
  split at h
  · cases h
  · next hspan =>
    cases h
    exact value_of_ofSeconds? (Option.isSome_iff_ne_none.2 fun hnone => hspan (by rw [hnone]; rfl))

end Readings

/-! ## Where the numbers of a command come from -/

/-- How arguments are read as far as numbers go. -/
inductive Reads : Operation → List String → Command → Prop where
  /-- All numbers are checked as they are. -/
  | checked {o : Operation} {args : List String} {c : Command}
    (ho : o ∉ [Operation.startStep, .setTargetField, .setTargetTemperature])
    (hsound : c.Sound) (hnumbers : ∀ x ∈ c.numbers, x.isFinite) (hrate : c.rate? = none) :
    Reads o args c
  /-- The targets of a sweep are computed from its ends. -/
  | sweep {name parameter range passes : String} {p : Parameter} {first last : Float}
    {points zigzag : ℕ} (hrange : readRange range = .ok (first, last))
    (hpasses : readPasses passes = .ok (points, zigzag)) :
    Reads .startStep [name, parameter, range, passes]
      (.startStep name p (stepList first last points zigzag))
  /-- The rate of a ramp is checked before it is scaled. -/
  | fieldRamp {value unit rate rateUnit : String} {x r factor : Float} (hx : x.isFinite)
    (hrate : Number.readFinite? rate = some r) (hpos : 0 < r)
    (hfactor : Scales factor (leastRate rateUnit)) :
    Reads .setTargetField [value, unit, "with", "rate", rate, rateUnit]
      (.setTargetField x (r * factor))
  /-- The same for a ramp of the temperature. -/
  | temperatureRamp {value unit rate rateUnit : String} {x r factor : Float} (hx : x.isFinite)
    (hrate : Number.readFinite? rate = some r) (hpos : 0 < r)
    (hfactor : Scales factor (leastRate rateUnit)) :
    Reads .setTargetTemperature [value, unit, "with", "rate", rate, rateUnit]
      (.setTargetTemperature x (r * factor))

section Operations

variable {o : Operation} {args : List String} {c : Command}

/-- Arguments are read in no other way. -/
theorem reads_of_readAs (h : ReadAs o args c) : Reads o args c := by
  cases h with
  | config hs =>
    obtain ⟨hsound, hnumbers⟩ := sound_of_setting (readSetting_eq_ok_iff.1 hs)
    exact .checked (by decide) hsound hnumbers rfl
  | startStep _ hrange hpasses => exact .sweep hrange hpasses
  | @startDidv _ _ _ _ first last d _ hrange _ _ hd =>
    obtain ⟨hfirst, hlast⟩ := isFinite_of_readRange hrange
    have hnumbers : ∀ x ∈ [first, last, d], x.isFinite := by
      simp [hfirst, hlast, isFinite_of_finite hd]
    exact .checked (by decide) hnumbers hnumbers rfl
  | wait hx =>
    have hsound := value_of_readWait hx
    exact .checked (by decide) hsound (List.forall_mem_singleton.2 hsound.1) rfl
  | gateVoltage hx | gateCurrent hx =>
    have hnumbers : ∀ y ∈ [_], Float.isFinite y :=
      List.forall_mem_singleton.2 (isFinite_of_readLevel hx)
    exact .checked (by decide) hnumbers hnumbers rfl
  | targetField hx hfactor hr hrateFactor =>
    obtain ⟨n, hscales⟩ := scales_of_fieldUnit hfactor
    obtain ⟨hr, hpos⟩ := positive_eq_ok_iff.1 hr
    exact .fieldRamp (hscales.isFinite_mul (isFinite_of_finite hx))
      (finite_eq_ok_iff_readFinite?.1 hr) hpos (scales_of_fieldRateUnit hrateFactor)
  | targetTemperature hx hfactor hr hrateFactor =>
    obtain ⟨n, hscales⟩ := scales_of_temperatureUnit hfactor
    obtain ⟨hr, hpos⟩ := positive_eq_ok_iff.1 hr
    exact .temperatureRamp (hscales.isFinite_mul (isFinite_of_finite hx))
      (finite_eq_ok_iff_readFinite?.1 hr) hpos (scales_of_temperatureRateUnit hrateFactor)
  | amplitude hx | frequency hx =>
    have hnumbers : ∀ y ∈ [_], Float.isFinite y :=
      List.forall_mem_singleton.2 (isFinite_of_finite hx)
    exact .checked (by decide) hnumbers hnumbers rfl
  | startSimple | startCooldown | stop | waitForField | waitForTemperature | waitForProgram
  | gateOff | gateOn | expanded | plain | channel | excitation | range =>
    exact .checked (by decide) (List.forall_mem_nil _) (List.forall_mem_nil _) rfl

end Operations

/-! ## Lines -/

section Lines

variable {l : Line} {c : Command} {first last x x' : Float} {points : ℕ} {unit unit' : String}

lemma exists_reads (h : l.command = .ok c) :
    ∃ o : Operation, o.name = l.operation ∧ Reads o l.arguments c := by
  unfold Line.command at h
  by_cases hname : ∃ o : Operation, o.name = l.operation
  · obtain ⟨o, ho⟩ := hname
    have hargs := (Command.parse_eq_ok_iff ho).1 h
    exact ⟨o, ho, reads_of_readAs (Command.ofArguments_eq_ok_iff.1 hargs)⟩
  · cases h.symm.trans (parse_of_unknown l.number l.arguments (not_exists.1 hname))

lemma Line.Ramps.unique (h : l.Ramps x unit) (h' : l.Ramps x' unit') : x = x' ∧ unit = unit' := by
  obtain ⟨_, -, -, _, _, rate, hargs, hrate⟩ := h
  obtain ⟨_, -, -, _, _, rate', hargs', hrate'⟩ := h'
  obtain ⟨-, -, rfl, rfl⟩ := by simpa using hargs.symm.trans hargs'
  exact ⟨Option.some.inj (hrate.symm.trans hrate'), rfl⟩

/-- A rate is above zero once it is scaled exactly if the line does not lose it. -/
lemma Line.Ramps.losesRate_iff {factor : Float} (h : l.Ramps x unit) (hx : x.isFinite)
    (hpos : 0 < x) (hfactor : Scales factor (leastRate unit)) :
    0 < x * factor ↔ ¬l.LosesRate := by
  rw [hfactor.mul_pos_iff hx hpos, ← not_lt, not_iff_not]
  constructor
  · exact fun hlt => ⟨x, unit, h, hlt⟩
  · rintro ⟨x', unit', h', hlt⟩
    obtain ⟨rfl, rfl⟩ := h.unique h'
    exact hlt

/-- The rate of a command is above zero exactly if it is not lost when it is scaled. -/
theorem forall_mem_rate_iff (h : l.command = .ok c) :
    (∀ rate ∈ c.rate?, 0 < rate) ↔ ¬l.LosesRate := by
  obtain ⟨o, ho, hreads⟩ := exists_reads h
  have hnever (hno : o ∉ [Operation.setTargetField, .setTargetTemperature])
      (hnone : c.rate? = none) : (∀ rate ∈ c.rate?, 0 < rate) ↔ ¬l.LosesRate := by
    refine iff_of_true (by simp [hnone]) ?_
    rintro ⟨x, unit, ⟨o', ho', hname, -⟩, -⟩
    exact hno (Operation.name_injective (ho.trans hname) ▸ ho')
  have hramp {value unit rate rateUnit : String} {r factor : Float}
      (ho' : o ∈ [Operation.setTargetField, .setTargetTemperature])
      (hargs : l.arguments = [value, unit, "with", "rate", rate, rateUnit])
      (hr : Number.readFinite? rate = some r) (hpos : 0 < r)
      (hfactor : Scales factor (leastRate rateUnit)) (hrate : c.rate? = some (r * factor)) :
      (∀ rate ∈ c.rate?, 0 < rate) ↔ ¬l.LosesRate := by
    have hramps : l.Ramps r rateUnit := ⟨o, ho', ho.symm, value, unit, rate, hargs, hr⟩
    rw [← hramps.losesRate_iff (readFinite?_eq_some_iff.1 hr).2 hpos hfactor, hrate]
    simp
  generalize l.arguments = args at hreads hramp
  cases hreads with
  | checked hno _ _ hnone => exact hnever (fun ho' => hno (List.mem_cons_of_mem _ ho')) hnone
  | sweep => exact hnever (by decide) rfl
  | fieldRamp _ hr hpos hfactor => exact hramp (by decide) rfl hr hpos hfactor rfl
  | temperatureRamp _ hr hpos hfactor => exact hramp (by decide) rfl hr hpos hfactor rfl

lemma Line.Sweeps.unique {first' last' : Float} {points' : ℕ} (h : l.Sweeps first last points)
    (h' : l.Sweeps first' last' points') :
    first = first' ∧ last = last' ∧ points = points' := by
  obtain ⟨-, _, _, range, passes, _, hargs, hrange, hpasses⟩ := h
  obtain ⟨-, _, _, range', passes', _, hargs', hrange', hpasses'⟩ := h'
  obtain ⟨-, -, rfl, rfl⟩ := by simpa using hargs.symm.trans hargs'
  cases hrange.symm.trans hrange'
  cases hpasses.symm.trans hpasses'
  exact ⟨rfl, rfl, rfl⟩

/-- The numbers of a command are finite exactly if its sweep does not leave the range. -/
theorem forall_mem_numbers_iff (h : l.command = .ok c) :
    (∀ x ∈ c.numbers, x.isFinite) ↔ ¬l.LeavesRange := by
  obtain ⟨o, ho, hreads⟩ := exists_reads h
  have hnever (hno : o ≠ .startStep) (hnumbers : ∀ x ∈ c.numbers, x.isFinite) :
      (∀ x ∈ c.numbers, x.isFinite) ↔ ¬l.LeavesRange := by
    refine iff_of_true hnumbers ?_
    rintro ⟨_, _, _, ⟨hname, -⟩, -⟩
    exact hno (Operation.name_injective (ho.trans hname))
  generalize hargs : l.arguments = args at hreads
  cases hreads with
  | checked hno _ hnumbers _ =>
    exact hnever (fun ho' => hno (ho' ▸ List.mem_cons_self)) hnumbers
  | sweep hrange hpasses =>
    have hsweeps : l.Sweeps _ _ _ := ⟨ho.symm, _, _, _, _, _, hargs, hrange, hpasses⟩
    refine (forall_mem_stepList_iff (of_readPasses hpasses).2.1).trans ?_
    constructor
    · rintro hfinite ⟨_, _, _, hsweeps', x, hx, hinfinite⟩
      obtain ⟨rfl, rfl, rfl⟩ := hsweeps.unique hsweeps'
      exact hinfinite (hfinite x hx)
    · exact fun hstays x hx =>
        Classical.byContradiction fun hinfinite => hstays ⟨_, _, _, hsweeps, x, hx, hinfinite⟩
  | fieldRamp hx hr hpos hfactor | temperatureRamp hx hr hpos hfactor =>
    refine hnever (by decide) ?_
    simpa [Command.numbers, hx] using hfactor.isFinite_mul (readFinite?_eq_some_iff.1 hr).2

/-- A sweep does not leave the range if its ends are at most an eighth of it away from zero. -/
theorem Line.Sweeps.not_leavesRange (h : l.Sweeps first last points)
    (hfirst : |value first| ≤ 2 ^ (1021 : ℤ)) (hlast : |value last| ≤ 2 ^ (1021 : ℤ)) :
    ¬l.LeavesRange := by
  rintro ⟨_, _, _, h', x, hx, hinfinite⟩
  obtain ⟨rfl, rfl, rfl⟩ := h.unique h'
  obtain ⟨-, _, _, _, _, _, -, hrange, hpasses⟩ := h
  obtain ⟨hfiniteFirst, hfiniteLast⟩ := isFinite_of_readRange hrange
  match points with
  | 0 => simp [linspace] at hx
  | 1 =>
    obtain rfl : first = x := by simpa [linspace] using hx
    exact hinfinite hfiniteFirst
  | n + 2 =>
    rw [getLast?_linspace, Option.mem_some_iff] at hx
    obtain rfl := hx
    have hmax : n + 1 ≤ 2 ^ 128 := by
      have h64 : Number.hugeMax ≤ 2 ^ 128 := by decide
      have := (of_readPasses hpasses).1.2
      omega
    exact hinfinite (isFinite_farEnd ⟨hfiniteFirst, hfirst⟩ ⟨hfiniteLast, hlast⟩
      (Number.atMost_ofNat hmax).isFinite)

/-- Whatever is read is sound. -/
theorem sound_of_command (h : l.command = .ok c) : c.Sound := by
  obtain ⟨o, -, hreads⟩ := exists_reads h
  generalize l.arguments = args at hreads
  cases hreads with
  | checked _ hsound _ _ => exact hsound
  | sweep hrange hpasses =>
    obtain ⟨⟨hpoints, hpointsMax⟩, hzigzag, hzigzagMax⟩ := of_readPasses hpasses
    simp only [Command.Sound, length_stepList]
    refine ⟨Nat.mul_pos (Nat.pos_of_ne_zero hzigzag) (Nat.pos_of_ne_zero hpoints), ?_⟩
    exact (Nat.mul_le_mul hzigzagMax hpointsMax).trans (by decide)
  | fieldRamp hx hr hpos hfactor | temperatureRamp hx hr hpos hfactor =>
    have hr := (readFinite?_eq_some_iff.1 hr).2
    exact ⟨hx, hfactor.isFinite_mul hr, hfactor.value_mul_nonneg hr hpos⟩

end Lines

end CryoRig.Script
