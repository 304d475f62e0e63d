import CryoRig.Proofs.LatestSettings
import CryoRig.Proofs.ReadQuantities

/-!
# The durations that a check comes to

A check adds up what lines are charged for. None of that is below zero as long as no rate is lost,
and what is computed from numbers of moderate size is finite.

## Main definitions

* `CryoRig.Script.RunConfig.Within`: the size of the settings that durations are computed from.
* `CryoRig.Script.Command.Moderate`, `CryoRig.Script.Line.Moderate`: numbers that are neither very
  large nor very small.
* `CryoRig.Script.Charged`: what a command is charged for.

## Main results

* `CryoRig.Script.Charged.nonneg`, `CryoRig.Script.Charged.moderate`: the duration of one line.
* `CryoRig.Script.forall_mem_charges`: what is true of one line after another.
* `CryoRig.Script.usable_quantities`: what is usable of all that a check of a script hands on.
-/

namespace CryoRig.Script

open Number (AtMost value)

variable {c : RunConfig} {command : Command} {step : Step} {l : Line} {lines : List Line}
  {x : Float} {i : ℤ}

/-! ## Settings -/

/-- The settings that durations are computed from are finite, and at most a power of two in size. -/
structure RunConfig.Within (c : RunConfig) (i : ℤ) : Prop where
  /-- Times are not below zero either. -/
  span : ∀ x, x ∈ c.stepRelax ∨ x ∈ c.stepMeasure → AtMost x i ∧ 0 ≤ value x
  /-- Places may be on either side of zero. -/
  place : ∀ x, x ∈ c.field ∨ x ∈ c.temperature → AtMost x i

/-- A command sets something that durations are computed from. -/
def Command.Sets (command : Command) (x : Float) : Prop :=
  (x ∈ command.relax? ∨ x ∈ command.measure?) ∨ x ∈ command.field? ∨ x ∈ command.temperature?

/-- The numbers of a command that durations are computed from are neither very large nor very
small. -/
structure Command.Moderate (command : Command) : Prop where
  /-- Settings and targets are not very large. -/
  setting : ∀ x, command.Sets x → |value x| ≤ 2 ^ (400 : ℤ)
  /-- Rates are not very small. -/
  rate : ∀ x ∈ command.rate?, 2 ^ (-400 : ℤ) ≤ value x

/-- The numbers on a line are neither very large nor very small. -/
structure Line.Moderate (l : Line) : Prop where
  /-- Durations are computed from moderate numbers. -/
  command : ∀ command, l.command = .ok command → command.Moderate
  /-- The ends of a sweep are at most an eighth of the range of doubles away from zero. -/
  ends : ∀ first last points, l.Sweeps first last points →
    |value first| ≤ 2 ^ (1021 : ℤ) ∧ |value last| ≤ 2 ^ (1021 : ℤ)

lemma within_empty : RunConfig.empty.Within i :=
  ⟨by simp [RunConfig.empty], by simp [RunConfig.empty]⟩

lemma Command.Sound.span (h : command.Sound) (hx : x ∈ command.relax? ∨ x ∈ command.measure?) :
    x.isFinite ∧ 0 ≤ value x := by
  rcases hx with hx | hx
  · obtain rfl := (relax?_eq_some_iff command x).1 hx
    exact h
  · obtain rfl := (measure?_eq_some_iff command x).1 hx
    exact h

lemma Command.Sound.place (h : command.Sound)
    (hx : x ∈ command.field? ∨ x ∈ command.temperature?) : x.isFinite := by
  cases command with
  | config setting =>
    cases setting with
    | currentField y | currentTemperature y =>
      obtain rfl : y = x := by simpa [Command.field?, Command.temperature?] using hx
      exact h y (List.mem_singleton_self y)
    | _ => simp [Command.field?, Command.temperature?] at hx
  | setTargetField y _ | setTargetTemperature y _ =>
    obtain rfl : y = x := by simpa [Command.field?, Command.temperature?] using hx
    exact h.1
  | _ => simp [Command.field?, Command.temperature?] at hx

lemma Command.Sound.rate (h : command.Sound) (hx : x ∈ command.rate?) : x.isFinite := by
  cases command with
  | setTargetField _ y | setTargetTemperature _ y =>
    obtain rfl : y = x := by simpa [Command.rate?] using hx
    exact h.2.1
  | _ => simp [Command.rate?] at hx

/-- A command keeps the settings within a size if what it sets is. -/
lemma RunConfig.Within.after (hc : c.Within i) (h : command.Sound)
    (hsets : ∀ x, command.Sets x → |value x| ≤ 2 ^ i) : (c.after command).Within i := by
  have hor {a b : Option Float} {y : Float} (hy : y ∈ a.or b) : y ∈ a ∨ y ∈ b := by
    cases a with
    | none => exact .inr hy
    | some => exact .inl hy
  constructor
  · intro x hx
    obtain hx | hx : (x ∈ command.relax? ∨ x ∈ command.measure?) ∨
        (x ∈ c.stepRelax ∨ x ∈ c.stepMeasure) := by
      rcases hx with hx | hx
      · exact (hor hx).imp .inl .inl
      · exact (hor hx).imp .inr .inr
    · obtain ⟨hfinite, hnonneg⟩ := h.span hx
      exact ⟨⟨hfinite, hsets x (.inl hx)⟩, hnonneg⟩
    · exact hc.span x hx
  · intro x hx
    obtain hx | hx : (x ∈ command.field? ∨ x ∈ command.temperature?) ∨
        (x ∈ c.field ∨ x ∈ c.temperature) := by
      rcases hx with hx | hx
      · exact (hor hx).imp .inl .inl
      · exact (hor hx).imp .inr .inr
    · exact ⟨h.place hx, hsets x (.inr hx)⟩
    · exact hc.place x hx

lemma Command.Sound.abs_value_le (h : command.Sound) (hx : command.Sets x) :
    |value x| ≤ 2 ^ (1024 : ℤ) := by
  rcases hx with hx | hx
  · exact (Number.abs_value_lt (h.span hx).1).le
  · exact (Number.abs_value_lt (h.place hx)).le

/-! ## The duration of a line -/

/-- What a command is charged for after given settings. -/
inductive Charged (c : RunConfig) : Command → Float → Prop where
  /-- Most commands take no time. -/
  | free {command : Command} (hrate : command.rate? = none) : Charged c command 0
  /-- A wait takes its time. -/
  | wait {x : Float} : Charged c (.wait x) x
  /-- A sweep takes the same time for every target. -/
  | sweep {name : String} {p : Parameter} {targets : List Float} {relax measure : Float}
    (hrelax : relax ∈ c.stepRelax) (hmeasure : measure ∈ c.stepMeasure) :
    Charged c (.startStep name p targets) (sweepSeconds targets.length relax measure)
  /-- A ramp of the field starts where the magnet is. -/
  | fieldRamp {current target rate : Float} (hcurrent : current ∈ c.field) :
    Charged c (.setTargetField target rate) (rampSeconds current target rate)
  /-- A ramp of the temperature starts where the sample is. -/
  | temperatureRamp {current target rate : Float} (hcurrent : current ∈ c.temperature) :
    Charged c (.setTargetTemperature target rate) (rampSeconds current target rate)

lemma charged_of_plan (h : Script.plan c command = .ok step) : Charged c command step.charge := by
  cases command with
  | startStep name parameter targets =>
    obtain ⟨_, _, hrelax, hmeasure, rfl⟩ := plan_startStep_eq_ok_iff.1 h
    exact .sweep hrelax hmeasure
  | setTargetField tesla rate =>
    obtain ⟨_, hfield, rfl⟩ := plan_setTargetField_eq_ok_iff.1 h
    exact .fieldRamp hfield
  | setTargetTemperature kelvin rate =>
    obtain ⟨_, htemperature, rfl⟩ := plan_setTargetTemperature_eq_ok_iff.1 h
    exact .temperatureRamp htemperature
  | wait seconds =>
    cases h
    exact .wait
  | _ =>
    cases h
    exact .free rfl

lemma of_zero : (0 : Float).isFinite ∧ value 0 = 0 := by
  have h := Number.of_ofFloat_eq (x := 0) (m := 0) (e := -1074) (by decide +kernel)
  simpa using h

lemma of_sixty : (60 : Float).isFinite ∧ value 60 = 60 := by
  have h := Number.of_ofFloat_eq (x := 60) (m := 60 * 2 ^ 47) (e := -47) (by decide +kernel)
  norm_num at h
  exact h

/-- A ramp does not take less than no time if its rate is above zero. -/
lemma nonneg_rampSeconds {current target rate : Float} (hcurrent : current.isFinite)
    (htarget : target.isFinite) (hrate : rate.isFinite) (hpos : 0 < value rate) :
    0 ≤ rampSeconds current target rate := by
  have hspan : 0 ≤ (target - current).abs :=
    Number.nonneg_abs (Number.rounds_sub htarget hcurrent)
  have hsixty : 0 < value 60 := by
    rw [of_sixty.2]
    norm_num
  exact Number.nonneg_mul (Number.nonneg_div hspan hrate hpos) of_sixty.1 hsixty

/-- A ramp between moderate places at a moderate rate takes a finite time. -/
lemma atMost_rampSeconds {current target rate : Float} (hcurrent : AtMost current 400)
    (htarget : AtMost target 400) (hrate : rate.isFinite) (hle : 2 ^ (-400 : ℤ) ≤ value rate) :
    AtMost (rampSeconds current target rate) 807 := by
  have hsixty : AtMost 60 6 := ⟨of_sixty.1, by rw [of_sixty.2]; norm_num⟩
  have hspan : AtMost (target - current).abs 401 :=
    (htarget.sub hcurrent (by norm_num) (by norm_num)).abs
  have hminutes : AtMost ((target - current).abs / rate) 801 :=
    hspan.div hrate hle (by norm_num) (by norm_num)
  exact hminutes.mul hsixty (by norm_num) (by norm_num)

lemma nonneg_sweepSeconds {relax measure : Float} {count : ℕ} (hcount : 0 < count)
    (hmax : count ≤ 2 ^ 128) (hrelax : 0 ≤ relax) (hmeasure : 0 ≤ measure) :
    0 ≤ sweepSeconds count relax measure := by
  obtain ⟨n, rfl⟩ := Nat.exists_eq_add_one.2 hcount
  have hfinite := (Number.atMost_ofNat hmax).isFinite
  exact Number.nonneg_mul_left hfinite (zero_lt_one.trans_le (one_le_value_ofNat hfinite))
    (Number.nonneg_add hrelax hmeasure)

lemma atMost_sweepSeconds {relax measure : Float} {count : ℕ} (hmax : count ≤ 2 ^ 128)
    (hrelax : AtMost relax 400) (hmeasure : AtMost measure 400) :
    AtMost (sweepSeconds count relax measure) 529 :=
  (Number.atMost_ofNat hmax).mul (hrelax.add hmeasure (by norm_num) (by norm_num)) (by norm_num)
    (by norm_num)

/-- A line is not charged for less than no time if its rate is above zero. -/
theorem Charged.nonneg (h : Charged c command x) (hc : c.Within i) (hsound : command.Sound)
    (hrate : ∀ rate ∈ command.rate?, 0 < rate) : 0 ≤ x := by
  cases h with
  | free => exact (Number.nonneg_iff_of_isFinite of_zero.1).2 of_zero.2.ge
  | wait => exact (Number.nonneg_iff_of_isFinite hsound.1).2 hsound.2.1
  | sweep hrelax hmeasure =>
    have hrelax := hc.span _ (.inl hrelax)
    have hmeasure := hc.span _ (.inr hmeasure)
    exact nonneg_sweepSeconds hsound.1 hsound.2
      ((Number.nonneg_iff_of_isFinite hrelax.1.isFinite).2 hrelax.2)
      ((Number.nonneg_iff_of_isFinite hmeasure.1.isFinite).2 hmeasure.2)
  | fieldRamp hcurrent =>
    exact nonneg_rampSeconds (hc.place _ (.inl hcurrent)).isFinite hsound.1 hsound.2.1
      ((Number.pos_iff_of_isFinite hsound.2.1).1 (hrate _ rfl))
  | temperatureRamp hcurrent =>
    exact nonneg_rampSeconds (hc.place _ (.inr hcurrent)).isFinite hsound.1 hsound.2.1
      ((Number.pos_iff_of_isFinite hsound.2.1).1 (hrate _ rfl))

/-- A line is charged for a finite time only if its rate is above zero. -/
theorem Charged.pos_of_isFinite (h : Charged c command x) (hsound : command.Sound)
    (hx : x.isFinite) : ∀ rate ∈ command.rate?, 0 < rate := by
  have hramp {current target rate : Float} (hrate : rate.isFinite) (hnonneg : 0 ≤ value rate)
      (hx : (rampSeconds current target rate).isFinite) : 0 < rate := by
    -- a rate that was read is not below zero, so it is enough that it is not zero
    have hzero := Number.ne_zero_of_div hrate (Number.isFinite_of_mul hx).1
    exact (Number.pos_iff_of_isFinite hrate).2 (lt_of_le_of_ne hnonneg hzero.symm)
  intro rate hmem
  cases h with
  | free hrate => cases hrate.symm.trans hmem
  | wait | sweep => cases hmem
  | fieldRamp | temperatureRamp =>
    obtain rfl := Option.some.inj hmem
    exact hramp hsound.2.1 hsound.2.2 hx

/-- A line with moderate numbers is charged for a moderate time. -/
theorem Charged.moderate (h : Charged c command x) (hc : c.Within 400) (hsound : command.Sound)
    (hmoderate : command.Moderate) : AtMost x 969 := by
  have hlarger {y : Float} {j : ℤ} (hy : AtMost y j) (hj : j ≤ 969) : AtMost y 969 :=
    ⟨hy.isFinite, hy.le.trans (zpow_le_zpow_right₀ (by norm_num) hj)⟩
  cases h with
  | free => exact ⟨of_zero.1, by rw [of_zero.2, abs_zero]; positivity⟩
  | wait =>
    refine hlarger (j := 64) ⟨hsound.1, ?_⟩ (by norm_num)
    rw [abs_of_nonneg hsound.2.1]
    exact hsound.2.2.le
  | sweep hrelax hmeasure =>
    exact hlarger (atMost_sweepSeconds hsound.2 (hc.span _ (.inl hrelax)).1
      (hc.span _ (.inr hmeasure)).1) (by norm_num)
  | fieldRamp hcurrent =>
    exact hlarger (atMost_rampSeconds (hc.place _ (.inl hcurrent))
      ⟨hsound.1, hmoderate.setting _ (.inr (.inl rfl))⟩ hsound.2.1 (hmoderate.rate _ rfl))
      (by norm_num)
  | temperatureRamp hcurrent =>
    exact hlarger (atMost_rampSeconds (hc.place _ (.inr hcurrent))
      ⟨hsound.1, hmoderate.setting _ (.inr (.inr rfl))⟩ hsound.2.1 (hmoderate.rate _ rfl))
      (by norm_num)

/-! ## Lines one after another -/

/-- What is kept by every line is true of the settings at each of them, and of each charge what
follows from that. -/
lemma forall_mem_charges (Kept : RunConfig → Prop) {P : Float → Prop}
    (hline : ∀ l ∈ lines, ∀ c step, Kept c → l.plan c = .ok step →
      Kept step.config ∧ P step.charge) (hc : Kept c) : ∀ x ∈ charges c lines, P x := by
  induction lines generalizing c with
  | nil => exact List.forall_mem_nil _
  | cons l lines ih =>
    obtain ⟨hl, hline⟩ := List.forall_mem_cons.1 hline
    unfold charges
    cases hplan : l.plan c with
    | error fault => exact List.forall_mem_nil _
    | ok step =>
      obtain ⟨hconfig, hcharge⟩ := hl c step hc hplan
      exact List.forall_mem_cons.2 ⟨hcharge, ih hline hconfig⟩

/-- If as many lines are charged for as there are, each of them is. -/
lemma exists_charge_of_mem (h : (charges c lines).length = lines.length) (hl : l ∈ lines) :
    ∃ c' step, l.plan c' = .ok step ∧ step.charge ∈ charges c lines := by
  induction lines generalizing c with
  | nil => cases hl
  | cons k lines ih =>
    unfold charges at h ⊢
    cases hplan : k.plan c with
    | error fault => simp [hplan] at h
    | ok step =>
      rcases List.mem_cons.1 hl with rfl | hl
      · exact ⟨c, step, hplan, List.mem_cons_self⟩
      · obtain ⟨c', step', hplan', hmem⟩ := ih (by simpa [hplan] using h) hl
        exact ⟨c', step', hplan', List.mem_cons_of_mem _ hmem⟩

/-- One line of lines that lose no rate. -/
lemma nonneg_of_plan (hkeeps : ¬l.LosesRate) (hc : c.Within 1024) (h : l.plan c = .ok step) :
    step.config.Within 1024 ∧ 0 ≤ step.charge := by
  obtain ⟨command, hcommand, hplan⟩ := Line.plan_eq_ok_iff.1 h
  have hsound := sound_of_command hcommand
  refine ⟨?_, (charged_of_plan hplan).nonneg hc hsound ((forall_mem_rate_iff hcommand).2 hkeeps)⟩
  rw [config_of_plan hplan]
  exact hc.after hsound fun x hx => hsound.abs_value_le hx

/-- One line of lines with moderate numbers. -/
lemma atMost_of_plan (hmoderate : l.Moderate) (hc : c.Within 400) (h : l.plan c = .ok step) :
    step.config.Within 400 ∧ AtMost step.charge 969 := by
  obtain ⟨command, hcommand, hplan⟩ := Line.plan_eq_ok_iff.1 h
  have hsound := sound_of_command hcommand
  have hsize := hmoderate.command command hcommand
  refine ⟨?_, (charged_of_plan hplan).moderate hc hsound hsize⟩
  rw [config_of_plan hplan]
  exact hc.after hsound hsize.setting

/-- Nothing goes wrong with the numbers of a line if they are moderate. -/
lemma Line.Moderate.usable (hmoderate : l.Moderate) (h : l.command = .ok command) :
    ¬l.LeavesRange ∧ ¬l.LosesRate := by
  constructor
  · rintro ⟨first, last, points, hsweeps, hleaves⟩
    obtain ⟨hfirst, hlast⟩ := hmoderate.ends first last points hsweeps
    exact hsweeps.not_leavesRange hfirst hlast ⟨first, last, points, hsweeps, hleaves⟩
  · refine (forall_mem_rate_iff h).1 fun rate hrate => ?_
    have hpos : (0 : ℚ) < 2 ^ (-400 : ℤ) := by positivity
    rw [Number.pos_iff_of_isFinite ((sound_of_command h).rate hrate)]
    exact hpos.trans_le ((hmoderate.command command h).rate rate hrate)

/-! ## Whole scripts -/

variable {s : Script} {seconds : Float}

lemma nonneg_of_mem_charges (h : ∀ l ∈ lines, ¬l.LosesRate) :
    ∀ x ∈ charges .empty lines, 0 ≤ x :=
  forall_mem_charges (·.Within 1024) (fun l hl _ _ hc => nonneg_of_plan (h l hl) hc) within_empty

lemma atMost_of_mem_charges (h : ∀ l ∈ lines, l.Moderate) :
    ∀ x ∈ charges .empty lines, AtMost x 969 :=
  forall_mem_charges (·.Within 400) (fun l hl _ _ hc => atMost_of_plan (h l hl) hc) within_empty

/-- Durations that are not below zero add up to one, and to a finite one if they are finite and none
is extremely long. -/
lemma sum_of_nonneg {xs : List Float} (h : ∀ x ∈ xs, 0 ≤ x) : 0 ≤ xs.foldl (· + ·) 0 ∧
    ((∀ x ∈ xs, value x < 2 ^ (970 : ℤ)) →
      ((xs.foldl (· + ·) 0).isFinite ↔ ∀ x ∈ xs, x.isFinite)) := by
  refine ⟨Number.nonneg_sum h ((Number.nonneg_iff_of_isFinite of_zero.1).2 of_zero.2.ge),
    fun hlt => ⟨fun hsum => (Number.isFinite_of_sum hsum).2, fun hfinite => ?_⟩⟩
  refine Number.isFinite_sum (fun x hx => ?_) of_zero.1 of_zero.2.ge
  exact ⟨hfinite x hx, (Number.nonneg_iff_of_isFinite (hfinite x hx)).1 (h x hx), hlt x hx⟩

/-- **The quantities of a script that is checked without complaint.** Each line has a command; its
numbers are finite exactly if its sweep does not leave the range, and its rate is above zero exactly
if it is not lost when it is scaled. No rate is lost if the duration is finite. If none is, the
duration is not below zero, and unless a line takes `2 ^ 970` seconds or more, it is finite exactly
if that of every line is. With numbers of moderate size everything is usable: all numbers are
finite, all rates are above zero, and the duration is finite and not below zero.

**Proof sketch.** The duration is the sum of what the lines are charged for. From line to line, the
settings that durations are computed from stay finite, or moderate; with such settings, and a rate
that is not zero, a line is not charged for less than no time, or for an immoderate time. With a
rate of zero it is charged for a quotient that is not finite. -/
theorem usable_quantities (h : estimate s = .ok seconds) :
    (∀ l ∈ s.program, ∃ command, l.command = .ok command ∧
      ((∀ x ∈ command.numbers, x.isFinite) ↔ ¬l.LeavesRange) ∧
      ((∀ rate ∈ command.rate?, 0 < rate) ↔ ¬l.LosesRate)) ∧
    (seconds.isFinite → ∀ l ∈ s.program, ¬l.LosesRate) ∧
    ((∀ l ∈ s.program, ¬l.LosesRate) → 0 ≤ seconds ∧
      ((∀ x ∈ charges .empty s.program, value x < 2 ^ (970 : ℤ)) →
        (seconds.isFinite ↔ ∀ x ∈ charges .empty s.program, x.isFinite))) ∧
    ((∀ l ∈ s.program, l.Moderate) →
      (∀ l ∈ s.program, ¬l.LeavesRange ∧ ¬l.LosesRate) ∧ seconds.isFinite ∧ 0 ≤ seconds) := by
  obtain ⟨hlength, rfl⟩ := charges_of_estimate h
  have hcommands : ∀ l ∈ s.program, ∃ command, l.command = .ok command := by
    intro l hl
    obtain ⟨_, _, hplan, -⟩ := exists_charge_of_mem hlength hl
    obtain ⟨command, hcommand, -⟩ := Line.plan_eq_ok_iff.1 hplan
    exact ⟨command, hcommand⟩
  refine ⟨fun l hl => ?_, fun hfinite l hl => ?_,
    fun hkeeps => sum_of_nonneg (nonneg_of_mem_charges hkeeps), fun hmoderate => ?_⟩
  · obtain ⟨command, hcommand⟩ := hcommands l hl
    exact ⟨command, hcommand, forall_mem_numbers_iff hcommand, forall_mem_rate_iff hcommand⟩
  · obtain ⟨_, _, hplan, hmem⟩ := exists_charge_of_mem hlength hl
    obtain ⟨command, hcommand, hplan⟩ := Line.plan_eq_ok_iff.1 hplan
    refine (forall_mem_rate_iff hcommand).1 ?_
    exact (charged_of_plan hplan).pos_of_isFinite (sound_of_command hcommand)
      ((Number.isFinite_of_sum hfinite).2 _ hmem)
  · have husable : ∀ l ∈ s.program, ¬l.LeavesRange ∧ ¬l.LosesRate := by
      intro l hl
      obtain ⟨command, hcommand⟩ := hcommands l hl
      exact (hmoderate l hl).usable hcommand
    have hsize := atMost_of_mem_charges hmoderate
    obtain ⟨hnonneg, hfinite⟩ := sum_of_nonneg (nonneg_of_mem_charges fun l hl => (husable l hl).2)
    refine ⟨husable, (hfinite fun x hx => ?_).2 fun x hx => (hsize x hx).isFinite, hnonneg⟩
    exact (le_abs_self _).trans_lt
      ((hsize x hx).le.trans_lt (zpow_lt_zpow_right₀ (by norm_num) (by norm_num)))

/-- A script with a ramp of one tesla in a minute and a wait. -/
def rampScript : Script :=
  .load "config current-field 0\nset-target-field 1 T with rate 1 T/min\nwait 3 s"

/-- It takes a minute and three seconds; so nothing is lost by it. -/
theorem usable_quantities_rampScript : estimate rampScript = .ok 63 ∧
    (∀ l ∈ rampScript.program, ¬l.LosesRate) ∧ ((0 : Float) ≤ 63) := by
  have hestimate : estimate rampScript = .ok 63 := by decide +kernel
  have hfinite : (63 : Float).isFinite := by decide +kernel
  obtain ⟨-, hkeeps, hnonneg, -⟩ := usable_quantities hestimate
  exact ⟨hestimate, hkeeps hfinite, (hnonneg (hkeeps hfinite)).1⟩

/-- A rate that is lost leaves a ramp to where the magnet is without a duration. -/
example : (estimate (.load
    "config current-field 0\nset-target-field 0 T with rate 1e-320 Oe/min")).toOption.map
      Float.isFinite = some false := by decide +kernel

end CryoRig.Script
