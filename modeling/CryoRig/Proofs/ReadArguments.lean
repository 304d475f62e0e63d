import Mathlib.Tactic.Lemma
import CryoRig.Script.Command

/-!
# How arguments are read

The arguments of an operation are read one after the other, and the first that cannot be read ends
it. So there is a command exactly if there is something for each argument, and it is put together of
these. This is said here once for every operation, and for the lines that name it; what the single
words are read as is left to others.

## Main definitions

* `CryoRig.Script.SettingReadAs`: how the argument of `config` is read.
* `CryoRig.Script.ReadAs`: how the arguments of an operation are read as a command.

## Main results

* `CryoRig.Script.readSetting_eq_ok_iff`, `CryoRig.Script.Command.ofArguments_eq_ok_iff`: arguments
  are read in these ways and in no other.
* `CryoRig.Script.Command.parse_eq_ok_iff`: a line is read if the arguments of its operation are.
-/

namespace CryoRig.Script

/-! ## Readings in sequence -/

section Readings

variable {α β γ : Type} {r : Reading α} {f : α → Reading β} {g : α → β} {e : Reason} {x y : Float}

lemma bind_eq_ok_iff {b : β} : r >>= f = .ok b ↔ ∃ a, r = .ok a ∧ f a = .ok b := by
  cases r with
  | error => exact ⟨nofun, fun ⟨_, h, _⟩ => nomatch h⟩
  | ok a => exact ⟨fun h => ⟨a, rfl, h⟩, fun ⟨_, h, hf⟩ => by cases h; exact hf⟩

/-- What is made of the only thing that is read. -/
lemma bind_pure_eq_ok_iff {b : β} :
    (do pure (g (← r)) : Reading β) = .ok b ↔ ∃ a, r = .ok a ∧ b = g a := by
  rw [bind_eq_ok_iff]
  refine exists_congr fun a => and_congr_right fun _ => ?_
  exact ⟨fun h => (Except.ok.inj h).symm, fun h => congrArg Except.ok h.symm⟩

/-- Readings in sequence. -/
lemma exists_bind_iff : (∃ b, r >>= f = .ok b) ↔ ∃ a, r = .ok a ∧ ∃ b, f a = .ok b := by
  simp only [bind_eq_ok_iff]
  exact ⟨fun ⟨b, a, ha, hb⟩ => ⟨a, ha, b, hb⟩, fun ⟨a, ha, b, hb⟩ => ⟨b, a, ha, hb⟩⟩

lemma elim_eq_ok_iff {a? : Option α} {a : α} :
    a?.elim (.error e) Except.ok = Except.ok a ↔ a? = some a := by
  cases a? <;> simp

lemma mapError_eq_ok_iff {ε : Type} {r : Except ε α} {h : ε → Reason} {a : α} :
    (r.mapError h : Reading α) = .ok a ↔ r = .ok a := by
  cases r with
  | error => exact ⟨nofun, nofun⟩
  | ok => exact ⟨fun h => by cases h; rfl, fun h => by cases h; rfl⟩

lemma nonNegative_eq_ok_iff : nonNegative x e = .ok y ↔ 0 ≤ x ∧ x = y := by
  unfold nonNegative
  split
  · next h => simp [h]
  · next h => simp [h]

/-- Nothing is read of no arguments. -/
lemma takesNone_eq_ok_iff {args : List String} {c c' : Command} :
    (if args.isEmpty then .ok c else .error e : Reading Command) = .ok c' ↔ args = [] ∧ c = c' := by
  cases args <;> simp

end Readings

/-! ## Settings -/

/-- How the argument of `config` is read. -/
inductive SettingReadAs (value : String) : String → Setting → Prop where
  /-- Seconds that are dropped. -/
  | stepRelax {x : Float} (hx : finite value (.notNumber value) = .ok x) (hnonneg : 0 ≤ x) :
    SettingReadAs value "step-relax" (.stepRelax x)
  /-- Seconds that are averaged. -/
  | stepMeasure {x : Float} (hx : finite value (.notNumber value) = .ok x) (hnonneg : 0 ≤ x) :
    SettingReadAs value "step-measure" (.stepMeasure x)
  /-- Where the magnet is. -/
  | currentField {x : Float} (hx : finite value (.notNumber value) = .ok x) :
    SettingReadAs value "current-field" (.currentField x)
  /-- How warm the sample is. -/
  | currentTemperature {x : Float} (hx : finite value (.notNumber value) = .ok x) :
    SettingReadAs value "current-temperature" (.currentTemperature x)
  /-- Ranges are raised. -/
  | raised (h : value.toLower = "on" ∨ value.toLower = "1") :
    SettingReadAs value "autorange" (.autorange true)
  /-- Ranges are left alone. -/
  | leftAlone (h : value.toLower = "off" ∨ value.toLower = "0") :
    SettingReadAs value "autorange" (.autorange false)

section Settings

variable {name value : String} {s : Setting}

/-- What is read of a number that must not be negative. -/
lemma bind_nonNegative_eq_ok_iff {text : String} {e e' : Reason} {f : Float → Setting} :
    (do pure (f (← nonNegative (← finite text e) e')) : Reading Setting) = .ok s ↔
      ∃ x, finite text e = .ok x ∧ 0 ≤ x ∧ s = f x := by
  rw [bind_eq_ok_iff]
  refine exists_congr fun x => and_congr_right fun _ => ?_
  rw [bind_pure_eq_ok_iff]
  simp only [nonNegative_eq_ok_iff, and_assoc, exists_and_left, exists_eq_left']

lemma settingReadAs_of_readSetting (h : readSetting name value = .ok s) :
    SettingReadAs value name s := by
  unfold readSetting at h
  dsimp only at h
  split at h
  · next hname =>
    obtain ⟨x, hx, hnonneg, rfl⟩ := bind_nonNegative_eq_ok_iff.1 h
    exact hname ▸ .stepRelax hx hnonneg
  split at h
  · next hname =>
    obtain ⟨x, hx, hnonneg, rfl⟩ := bind_nonNegative_eq_ok_iff.1 h
    exact hname ▸ .stepMeasure hx hnonneg
  split at h
  · next hname =>
    obtain ⟨x, hx, rfl⟩ := bind_pure_eq_ok_iff.1 h
    exact hname ▸ .currentField hx
  split at h
  · next hname =>
    obtain ⟨x, hx, rfl⟩ := bind_pure_eq_ok_iff.1 h
    exact hname ▸ .currentTemperature hx
  split at h
  · next hname =>
    subst hname
    split at h
    · next hon =>
      cases h
      exact .raised hon
    · split at h
      · next hoff =>
        cases h
        exact .leftAlone hoff
      · cases h
  · cases h

lemma readSetting_of_settingReadAs (h : SettingReadAs value name s) :
    readSetting name value = .ok s := by
  unfold readSetting
  cases h with
  | stepRelax hx hnonneg => exact bind_nonNegative_eq_ok_iff.2 ⟨_, hx, hnonneg, rfl⟩
  | stepMeasure hx hnonneg => exact bind_nonNegative_eq_ok_iff.2 ⟨_, hx, hnonneg, rfl⟩
  | currentField hx => exact bind_pure_eq_ok_iff.2 ⟨_, hx, rfl⟩
  | currentTemperature hx => exact bind_pure_eq_ok_iff.2 ⟨_, hx, rfl⟩
  | raised hon => exact if_pos hon
  | leftAlone hoff =>
    have hnot : ¬(value.toLower = "on" ∨ value.toLower = "1") := by
      rcases hoff with h | h <;> simp [h]
    exact (if_neg hnot).trans (if_pos hoff)

/-- A setting is read in these ways and in no other. -/
theorem readSetting_eq_ok_iff : readSetting name value = .ok s ↔ SettingReadAs value name s :=
  ⟨settingReadAs_of_readSetting, readSetting_of_settingReadAs⟩

end Settings

/-! ## Operations -/

/-- How the arguments of an operation are read as a command. -/
inductive ReadAs : Operation → List String → Command → Prop where
  /-- A setting. -/
  | config {name value : String} {s : Setting} (hs : readSetting name value = .ok s) :
    ReadAs .config [name, value] (.config s)
  /-- An acquisition of every channel. -/
  | startSimple {name : String} : ReadAs .startSimple [name] (.startSimple name)
  /-- An acquisition along the scanner. -/
  | startCooldown {name : String} : ReadAs .startCooldown [name] (.startCooldown name)
  /-- A stepped sweep. -/
  | startStep {name word range passes : String} {p : Parameter} {first last : Float}
    {points zigzag : Nat} (hp : Parameter.parse word = .ok p)
    (hrange : readRange range = .ok (first, last))
    (hpasses : readPasses passes = .ok (points, zigzag)) :
    ReadAs .startStep [name, word, range, passes]
      (.startStep name p (stepList first last points zigzag))
  /-- A differential sweep. -/
  | startDidv {name range text delta : String} {first last d : Float} {points : Nat}
    (hrange : readRange range = .ok (first, last))
    (hpoints : Number.readWhole? Number.longMax text = some points) (hpos : points ≠ 0)
    (hd : finite delta .deltaNotNumber = .ok d) :
    ReadAs .startDidv [name, range, text, "with", "delta", delta]
      (.startDidv name ⟨first, last, points, d⟩)
  /-- The acquisition is stopped. -/
  | stop : ReadAs .stop [] .stop
  /-- Time passes. -/
  | wait {amount unit : String} {x : Float} (hx : readWait amount unit = .ok x) :
    ReadAs .wait [amount, unit] (.wait x)
  /-- The magnet settles. -/
  | waitForField : ReadAs .waitForField [] .waitForField
  /-- The temperature settles. -/
  | waitForTemperature : ReadAs .waitForTemperature [] .waitForTemperature
  /-- The acquisition finishes. -/
  | waitForProgram : ReadAs .waitForProgram [] .waitForProgram
  /-- A voltage. -/
  | gateVoltage {value unit : String} {x : Float} (hx : readLevel "v" "mv" value unit = .ok x) :
    ReadAs .setGateVoltage [value, unit] (.setGateVoltage x)
  /-- A current. -/
  | gateCurrent {value unit : String} {x : Float} (hx : readLevel "a" "ma" value unit = .ok x) :
    ReadAs .setGateCurrent [value, unit] (.setGateCurrent x)
  /-- The gate is switched off. -/
  | gateOff : ReadAs .setGateState ["0"] (.setGateState false)
  /-- The gate is switched on. -/
  | gateOn : ReadAs .setGateState ["1"] (.setGateState true)
  /-- A ramp of the magnet. -/
  | targetField {value unit rate rateUnit : String} {x factor r rateFactor : Float}
    (hx : finite value .fieldNotNumber = .ok x)
    (hfactor : unitFactor fieldUnits unit .badFieldUnit = .ok factor)
    (hr : positive rate .rateNotPositive = .ok r)
    (hrateFactor : unitFactor fieldRateUnits rateUnit .badFieldRateUnit = .ok rateFactor) :
    ReadAs .setTargetField [value, unit, "with", "rate", rate, rateUnit]
      (.setTargetField (x * factor) (r * rateFactor))
  /-- A ramp of the temperature. -/
  | targetTemperature {value unit rate rateUnit : String} {x factor r rateFactor : Float}
    (hx : finite value .temperatureNotNumber = .ok x)
    (hfactor : unitFactor temperatureUnits unit .badTemperatureUnit = .ok factor)
    (hr : positive rate .rateNotPositive = .ok r)
    (hrateFactor :
      unitFactor temperatureRateUnits rateUnit .badTemperatureRateUnit = .ok rateFactor) :
    ReadAs .setTargetTemperature [value, unit, "with", "rate", rate, rateUnit]
      (.setTargetTemperature (x * factor) (r * rateFactor))
  /-- An amplitude. -/
  | amplitude {value : String} {x : Float} (hx : finite value .noAmplitude = .ok x) :
    ReadAs .setAmplitude [value] (.setAmplitude x)
  /-- A frequency. -/
  | frequency {value : String} {x : Float} (hx : finite value .noFrequency = .ok x) :
    ReadAs .setFrequency [value] (.setFrequency x)
  /-- An output is expanded. -/
  | expanded {label state expand : String} {lockin : Nat} {factor : Expand}
    (hlockin : readLockin label = .ok lockin) (hfactor : Expand.parse? expand = some factor)
    (hstate : state.toLower = "on") :
    ReadAs .setOffsetAndExpand [label, state, expand] (.setOffsetExpand lockin (some factor))
  /-- An output is no longer expanded. -/
  | plain {label state expand : String} {lockin : Nat} {factor : Expand}
    (hlockin : readLockin label = .ok lockin) (hfactor : Expand.parse? expand = some factor)
    (hstate : state.toLower = "off") :
    ReadAs .setOffsetAndExpand [label, state, expand] (.setOffsetExpand lockin none)
  /-- A channel. -/
  | channel {text : String} {n : Nat} (hn : readChannel text = .ok n) :
    ReadAs .tcChannel [text] (.tcChannel n)
  /-- A direction. -/
  | excitation {text : String} {d : Direction} (hd : readDirection text = .ok d) :
    ReadAs .tcCurrent [text] (.tcCurrent d)
  /-- A channel and a direction. -/
  | range {text word : String} {n : Nat} {d : Direction} (hn : readChannel text = .ok n)
    (hd : readDirection word = .ok d) : ReadAs .setRange [text, word] (.setRange n d)

section Operations

variable {o : Operation} {args : List String} {c : Command}

/-- What is read of the arguments of a ramp. -/
lemma ramp_eq_ok_iff {value unit rate rateUnit : String} {units rateUnits : List (String × Float)}
    {reason reason' reason'' reason''' : Reason} {f : Float → Float → Command} :
    (do
      let x := (← finite value reason) * (← unitFactor units unit reason')
      let rate := (← positive rate reason'') * (← unitFactor rateUnits rateUnit reason''')
      pure (f x rate) : Reading Command) = .ok c ↔
    ∃ x factor r rateFactor, finite value reason = .ok x ∧
      unitFactor units unit reason' = .ok factor ∧ positive rate reason'' = .ok r ∧
      unitFactor rateUnits rateUnit reason''' = .ok rateFactor ∧
      c = f (x * factor) (r * rateFactor) := by
  constructor
  · intro h
    obtain ⟨x, hx, h⟩ := bind_eq_ok_iff.1 h
    obtain ⟨factor, hfactor, h⟩ := bind_eq_ok_iff.1 h
    obtain ⟨r, hr, h⟩ := bind_eq_ok_iff.1 h
    obtain ⟨rateFactor, hrateFactor, h⟩ := bind_pure_eq_ok_iff.1 h
    exact ⟨x, factor, r, rateFactor, hx, hfactor, hr, hrateFactor, h⟩
  · rintro ⟨x, factor, r, rateFactor, hx, hfactor, hr, hrateFactor, rfl⟩
    refine bind_eq_ok_iff.2 ⟨x, hx, bind_eq_ok_iff.2 ⟨factor, hfactor, ?_⟩⟩
    exact bind_eq_ok_iff.2 ⟨r, hr, bind_pure_eq_ok_iff.2 ⟨rateFactor, hrateFactor, rfl⟩⟩

/-- What is read of the state of an output. -/
lemma offset_eq_ok_iff {state : String} {lockin : Nat} {factor : Expand} :
    (if state.toLower = "on" then pure (.setOffsetExpand lockin (some factor))
      else if state.toLower = "off" then pure (.setOffsetExpand lockin none)
      else throw .badOffsetState : Reading Command) = .ok c ↔
    state.toLower = "on" ∧ c = .setOffsetExpand lockin (some factor) ∨
      state.toLower = "off" ∧ c = .setOffsetExpand lockin none := by
  split
  · next hon => simp [hon, pure, Except.pure, eq_comm]
  · split
    · next hoff => simp [hoff, pure, Except.pure, eq_comm]
    · next hon hoff => simp [hon, hoff, throw, throwThe, MonadExceptOf.throw]

/-- What is read of the arguments of a differential sweep behind its range. -/
lemma trace_eq_ok_iff {name text delta : String} {first last : Float} :
    (do
      let points ←
        (Number.readWhole? Number.longMax text).elim (.error .pointsNotPositive) Except.ok
      if points = 0 then throw .pointsNotPositive
      let delta ← finite delta .deltaNotNumber
      pure (.startDidv name ⟨first, last, points, delta⟩) : Reading Command) = .ok c ↔
    ∃ points d, Number.readWhole? Number.longMax text = some points ∧ points ≠ 0 ∧
      finite delta .deltaNotNumber = .ok d ∧ c = .startDidv name ⟨first, last, points, d⟩ := by
  constructor
  · intro h
    obtain ⟨points, hpoints, h⟩ := bind_eq_ok_iff.1 h
    rw [elim_eq_ok_iff] at hpoints
    split at h
    · cases h
    · next hpos =>
      obtain ⟨d, hd, h⟩ := bind_pure_eq_ok_iff.1 h
      exact ⟨points, d, hpoints, hpos, hd, h⟩
  · rintro ⟨points, d, hpoints, hpos, hd, rfl⟩
    refine bind_eq_ok_iff.2 ⟨points, elim_eq_ok_iff.2 hpoints, ?_⟩
    rw [if_neg hpos]
    exact bind_pure_eq_ok_iff.2 ⟨d, hd, rfl⟩

/-- The command of arguments is one that they are read as. -/
lemma readAs_of_ofArguments (h : Command.ofArguments o args = .ok c) : ReadAs o args c := by
  unfold Command.ofArguments at h
  cases o with
  | stop | waitForField | waitForTemperature | waitForProgram =>
    obtain ⟨rfl, rfl⟩ := takesNone_eq_ok_iff.1 h
    constructor
  | startSimple | startCooldown | setGateState =>
    dsimp only at h
    split at h <;> cases h <;> constructor
  -- one thing is read
  | config | wait | setGateVoltage | setGateCurrent | setAmplitude | setFrequency | tcChannel
  | tcCurrent =>
    dsimp only at h
    split at h
    · obtain ⟨x, hx, rfl⟩ := bind_pure_eq_ok_iff.1 h
      constructor
      exact hx
    · cases h
  | setTargetField | setTargetTemperature =>
    dsimp only at h
    split at h
    · obtain ⟨x, factor, r, rateFactor, hx, hfactor, hr, hrateFactor, rfl⟩ := ramp_eq_ok_iff.1 h
      constructor <;> assumption
    · cases h
  | startStep =>
    dsimp only at h
    split at h
    · obtain ⟨p, hp, h⟩ := bind_eq_ok_iff.1 h
      obtain ⟨⟨first, last⟩, hrange, h⟩ := bind_eq_ok_iff.1 h
      obtain ⟨⟨points, zigzag⟩, hpasses, rfl⟩ := bind_pure_eq_ok_iff.1 h
      exact .startStep (mapError_eq_ok_iff.1 hp) hrange hpasses
    · cases h
  | startDidv =>
    dsimp only at h
    split at h
    · obtain ⟨⟨first, last⟩, hrange, h⟩ := bind_eq_ok_iff.1 h
      obtain ⟨points, d, hpoints, hpos, hd, rfl⟩ := trace_eq_ok_iff.1 h
      exact .startDidv hrange hpoints hpos hd
    · cases h
  | setOffsetAndExpand =>
    dsimp only at h
    split at h
    · obtain ⟨lockin, hlockin, h⟩ := bind_eq_ok_iff.1 h
      obtain ⟨factor, hfactor, h⟩ := bind_eq_ok_iff.1 h
      rw [elim_eq_ok_iff] at hfactor
      rcases offset_eq_ok_iff.1 h with ⟨hstate, rfl⟩ | ⟨hstate, rfl⟩
      · exact .expanded hlockin hfactor hstate
      · exact .plain hlockin hfactor hstate
    · cases h
  | setRange =>
    dsimp only at h
    split at h
    · obtain ⟨n, hn, h⟩ := bind_eq_ok_iff.1 h
      obtain ⟨d, hd, rfl⟩ := bind_pure_eq_ok_iff.1 h
      exact .range hn hd
    · cases h

/-- What arguments are read as is their command. -/
lemma ofArguments_of_readAs (h : ReadAs o args c) : Command.ofArguments o args = .ok c := by
  unfold Command.ofArguments
  cases h with
  | startSimple | startCooldown | stop | waitForField | waitForTemperature | waitForProgram
  | gateOff | gateOn => rfl
  | config hx | wait hx | gateVoltage hx | gateCurrent hx | amplitude hx | frequency hx
  | channel hx | excitation hx =>
    exact bind_pure_eq_ok_iff.2 ⟨_, hx, rfl⟩
  | startStep hp hrange hpasses =>
    refine bind_eq_ok_iff.2 ⟨_, mapError_eq_ok_iff.2 hp, bind_eq_ok_iff.2 ⟨_, hrange, ?_⟩⟩
    exact bind_pure_eq_ok_iff.2 ⟨_, hpasses, rfl⟩
  | startDidv hrange hpoints hpos hd =>
    refine bind_eq_ok_iff.2 ⟨_, hrange, trace_eq_ok_iff.2 ?_⟩
    exact ⟨_, _, hpoints, hpos, hd, rfl⟩
  | targetField hx hfactor hr hrateFactor | targetTemperature hx hfactor hr hrateFactor =>
    exact ramp_eq_ok_iff.2 ⟨_, _, _, _, hx, hfactor, hr, hrateFactor, rfl⟩
  | expanded hlockin hfactor hstate =>
    refine bind_eq_ok_iff.2 ⟨_, hlockin, bind_eq_ok_iff.2 ⟨_, elim_eq_ok_iff.2 hfactor, ?_⟩⟩
    exact offset_eq_ok_iff.2 (.inl ⟨hstate, rfl⟩)
  | plain hlockin hfactor hstate =>
    refine bind_eq_ok_iff.2 ⟨_, hlockin, bind_eq_ok_iff.2 ⟨_, elim_eq_ok_iff.2 hfactor, ?_⟩⟩
    exact offset_eq_ok_iff.2 (.inr ⟨hstate, rfl⟩)
  | range hn hd => exact bind_eq_ok_iff.2 ⟨_, hn, bind_pure_eq_ok_iff.2 ⟨_, hd, rfl⟩⟩

/-- Arguments are read in these ways and in no other. -/
theorem Command.ofArguments_eq_ok_iff : Command.ofArguments o args = .ok c ↔ ReadAs o args c :=
  ⟨readAs_of_ofArguments, ofArguments_of_readAs⟩

end Operations

/-! ## Lines -/

section Lines

variable {o : Operation} {line : Nat} {name : String} {args : List String} {command : Command}

/-- A line with the name of an operation is a command or is answered with its usage. -/
lemma parse_of_name (line : Nat) (args : List String) (h : o.name = name) :
    (∃ command, Command.ofArguments o args = .ok command ∧
      Command.parse line name args = .ok command) ∨
    (∃ reason, Command.ofArguments o args = .error reason ∧
      Command.parse line name args = .error ⟨line, reason, .of o⟩) := by
  simp only [Command.parse, Command.read, Operation.ofName?_eq_some_iff.2 h]
  cases Command.ofArguments o args with
  | ok command => exact .inl ⟨command, rfl, rfl⟩
  | error reason => exact .inr ⟨reason, rfl, rfl⟩

/-- Any other line is answered with the list of operations. -/
lemma parse_of_unknown (line : Nat) (args : List String) (h : ∀ o : Operation, o.name ≠ name) :
    Command.parse line name args = .error ⟨line, .unknownCommand name, .list⟩ := by
  have hnone : Operation.ofName? name = none :=
    Option.eq_none_iff_forall_ne_some.2 fun o ho => h o (Operation.ofName?_eq_some_iff.1 ho)
  unfold Command.parse Command.read
  rw [hnone]
  rfl

/-- A line is read if the arguments of its operation are. -/
theorem Command.parse_eq_ok_iff (h : o.name = name) :
    Command.parse line name args = .ok command ↔ Command.ofArguments o args = .ok command := by
  rcases parse_of_name line args h with ⟨c, hargs, hline⟩ | ⟨reason, hargs, hline⟩ <;>
    simp [hargs, hline]

end Lines

end CryoRig.Script
