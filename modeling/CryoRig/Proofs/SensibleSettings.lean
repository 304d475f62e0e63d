import Mathlib.Tactic.Lemma
import CryoRig.Proofs.TrimmedText
import CryoRig.Settings.Validity

/-!
# Sensible settings

Which settings make sense is said here without reference to the order in which objections are
raised: every name stands for something, every count and every rate is positive, and everything that
the site is wired to is there. Settings without any objection are the ones that make sense, as far
as they are looked at: three of the times are not, and settings without objection may have a tick
interval or a stop limit of zero.

## Main definitions

* `CryoRig.Settings.Facility.WiredTo`: the instruments that a site is wired to.
* `CryoRig.Settings.Rig.Consistent`: what is checked about settings.
* `CryoRig.Settings.Rig.Timed`: the times that are not looked at are positive.
* `CryoRig.Settings.Rig.Sensible`: settings that make sense.

## Main results

* `CryoRig.Settings.Rig.validate_eq_ok_iff`: settings without objection are the consistent ones.
* `CryoRig.Settings.Rig.sensible_iff`: the sensible ones are those of them with positive times.
-/

namespace CryoRig.Settings

/-! ## What a site is wired to -/

/-- A site is wired to the instrument with a given name. -/
def Facility.WiredTo : Facility → String → Prop
  | .refrigerator w, id => id ∈ w.lockins ∨ id = w.bridge ∨ w.magnet = some id ∨
    w.gate = some id ∨ w.resistanceMeter = some id ∨ w.currentSource = some id
  | .cryogenFree w, id => id ∈ w.lockins ∨ id = w.control ∨ w.gate = some id
  | .insert w, id => id = w.multimeter ∨ id = w.controller ∨ id = w.lockin

/-- The names that are looked up are those of the instruments that the site is wired to. -/
lemma Facility.mem_references_iff {f : Facility} {id : String} :
    id ∈ f.references ↔ f.WiredTo id := by
  cases f with
  | refrigerator w => simp [references, WiredTo, eq_comm]
  | cryogenFree w => simp [references, WiredTo]
  | insert w => simp [references, WiredTo]

/-- An instrument with a given name is there and is used. -/
def Rig.Uses (r : Rig) (id : String) : Prop := ∃ i ∈ r.instruments, i.id = id ∧ i.enabled

lemma Rig.mem_enabled_iff {r : Rig} {id : String} :
    id ∈ r.enabled.map Instrument.id ↔ r.Uses id := by
  simp only [enabled, Uses, List.mem_map, List.mem_filter]
  exact ⟨fun ⟨i, ⟨hi, hon⟩, hid⟩ => ⟨i, hi, hid, hon⟩, fun ⟨i, hi, hid, hon⟩ => ⟨i, ⟨hi, hon⟩, hid⟩⟩

/-! ## What makes sense -/

/-- What is checked about settings. -/
structure Rig.Consistent (r : Rig) : Prop where
  /-- The log has a known level. -/
  logLevel : r.application.logLevel ∈ ["trace", "debug", "info", "warn", "error"]
  /-- And a known format. -/
  logFormat : r.application.logFormat ∈ ["pretty", "compact", "json"]
  /-- The name of the sample has a character that can be seen. -/
  sample : ∃ c ∈ r.labels.sample.toList, Text.isBlank c = false
  /-- No two instruments share a name. -/
  distinct : r.instruments.Pairwise fun i j => i.id ≠ j.id
  /-- Lock-ins are checked now and then. -/
  statusCheck : 0 < r.acquisitions.statusCheckEvery
  /-- It takes an overload to report one. -/
  overload : 0 < r.acquisitions.overloadThreshold
  /-- The field is ramped at some rate. -/
  fieldRate : 0 < r.acquisitions.fieldStepRate
  /-- It takes time to look again whether something has settled. -/
  poll : 0 < r.programs.pollSeconds
  /-- There is a place for every lock-in. -/
  lockins : r.facility.lockinCount ≤ 4
  /-- Everything that the site is wired to is there and is used. -/
  wired : ∀ id, r.facility.WiredTo id → r.Uses id

/-- The times that are not looked at are positive. -/
structure Rig.Timed (r : Rig) : Prop where
  /-- The pause after a tick. -/
  tick : 0 < r.acquisitions.tickMillis
  /-- The time an acquisition may take to stop. -/
  acquisitionStop : 0 < r.acquisitions.stopSeconds
  /-- The time a program may take to stop. -/
  programStop : 0 < r.programs.stopSeconds

/-- Settings that make sense. -/
structure Rig.Sensible (r : Rig) : Prop extends r.Consistent, r.Timed

/-! ## The objections -/

section Objections

variable {r : Rig} {s : String}

lemma expect_eq_none_iff {holds : Bool} {o : Objection} : expect holds o = none ↔ holds := by
  cases holds <;> simp [expect]

/-- Nothing is left of a text when the blanks at both ends are cut off exactly if it has nothing but
blanks. -/
lemma trim_isEmpty_iff :
    (Text.trim s).isEmpty = true ↔ ∀ c ∈ s.toList, Text.isBlank c = true := by
  rw [String.isEmpty_iff, Text.trim, ← String.toList_eq_nil_iff, String.toList_ofList]
  exact Text.trimChars_eq_nil_iff

lemma sample_isEmpty_iff :
    (!(Text.trim s).isEmpty) = true ↔ ∃ c ∈ s.toList, Text.isBlank c = false := by
  rw [Bool.not_eq_true', Bool.eq_false_iff, ne_eq, trim_isEmpty_iff]
  simp

/-- Nothing that the site is wired to is missing. -/
lemma Rig.firstMissing?_eq_none_iff :
    r.firstMissing? = none ↔ ∀ id, r.facility.WiredTo id → r.Uses id := by
  simp only [firstMissing?, List.find?_eq_none, decide_eq_true_eq, Classical.not_not,
    mem_enabled_iff, Facility.mem_references_iff]

/-- No two instruments share a name. -/
lemma Rig.firstRepeated?_ids_eq_none_iff :
    firstRepeated? [] (r.instruments.map Instrument.id) = none ↔
      r.instruments.Pairwise fun i j => i.id ≠ j.id := by
  rw [firstRepeated?_eq_none_iff, List.Nodup, List.pairwise_map]
  simp

/-- Only what is objected to keeps settings from being accepted. -/
lemma Rig.validate_eq_ok_iff_objections : r.validate = .ok () ↔ ∀ o ∈ r.objections, o = none := by
  unfold validate objection?
  cases ho : r.objections.findSome? id with
  | none => simpa using ho
  | some o =>
    obtain ⟨o', hmem, hsome⟩ := List.exists_of_findSome?_eq_some ho
    refine ⟨fun h => (by cases h), fun h => ?_⟩
    rw [h o' hmem] at hsome
    cases hsome

/-- Each objection decides one of the rules. -/
lemma Rig.objections_eq_none_iff : (∀ o ∈ r.objections, o = none) ↔ r.Consistent := by
  simp only [objections, List.forall_mem_cons, List.not_mem_nil, false_imp_iff, implies_true,
    and_true, expect_eq_none_iff, Option.map_eq_none_iff, firstRepeated?_ids_eq_none_iff,
    firstMissing?_eq_none_iff, sample_isEmpty_iff, decide_eq_true_eq, bne_iff_ne,
    ← Nat.pos_iff_ne_zero]
  constructor
  · rintro ⟨hlevel, hformat, hsample, hstatus, hoverload, hrate, hpoll, hlockins, hdistinct, hwired⟩
    exact ⟨hlevel, hformat, hsample, hdistinct, hstatus, hoverload, hrate, hpoll, hlockins, hwired⟩
  · rintro ⟨hlevel, hformat, hsample, hdistinct, hstatus, hoverload, hrate, hpoll, hlockins, hwired⟩
    exact ⟨hlevel, hformat, hsample, hstatus, hoverload, hrate, hpoll, hlockins, hdistinct, hwired⟩

/-- Accepted settings are consistent. -/
lemma Rig.consistent_of_validate (h : r.validate = .ok ()) : r.Consistent :=
  objections_eq_none_iff.1 (validate_eq_ok_iff_objections.1 h)

/-- Nothing is objected to in consistent settings. -/
lemma Rig.validate_of_consistent (h : r.Consistent) : r.validate = .ok () :=
  validate_eq_ok_iff_objections.2 (objections_eq_none_iff.2 h)

end Objections

/-! ## Settings that are accepted -/

/-- Settings that nothing is objected to are the consistent ones, whatever the order in which the
objections are raised. -/
theorem Rig.validate_eq_ok_iff (r : Rig) : r.validate = .ok () ↔ r.Consistent :=
  ⟨consistent_of_validate, validate_of_consistent⟩

/-- The settings that make sense are those that nothing is objected to and whose times, which are
not looked at, are positive. -/
theorem Rig.sensible_iff (r : Rig) : r.Sensible ↔ r.validate = .ok () ∧ r.Timed :=
  ⟨fun h => ⟨validate_of_consistent h.toConsistent, h.toTimed⟩,
    fun h => ⟨consistent_of_validate h.1, h.2⟩⟩

/-- A rig with an insert and three simulated instruments. -/
def Rig.dipstick : Rig where
  application := ⟨"Insert", "info", "pretty"⟩
  labels := .default
  acquisitions := .default
  programs := .default
  facility := .insert ⟨"dmm", "tc", "r1"⟩
  instruments := [⟨"dmm", true, .simulated .multimeter⟩,
    ⟨"tc", true, .simulated .temperatureController⟩, ⟨"r1", true, .simulated .lockin⟩]

lemma Rig.consistent_dipstick : dipstick.Consistent where
  logLevel := by decide
  logFormat := by decide
  sample := ⟨'s', by decide, by decide⟩
  distinct := by decide
  statusCheck := by decide
  overload := by decide
  fieldRate := by decide +kernel
  poll := by decide
  lockins := by decide
  wired := by
    simp only [Facility.WiredTo, dipstick]
    rintro id (rfl | rfl | rfl) <;> simp [Uses]

/-- The same rig, without a pause between the ticks of an acquisition. -/
def Rig.restless : Rig :=
  { dipstick with acquisitions := { Acquisitions.default with tickMillis := 0 } }

/-- Nothing is objected to in settings without a pause between ticks. -/
theorem Rig.restless_accepted : restless.validate = .ok () ∧ ¬restless.Sensible :=
  ⟨validate_of_consistent { consistent_dipstick with },
    fun h => absurd h.tick (by decide)⟩

end CryoRig.Settings
