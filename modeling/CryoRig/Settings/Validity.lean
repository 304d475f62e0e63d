import CryoRig.Settings.Rig
import CryoRig.Text.Blank

/-!
# Settings that make sense

Settings of the right shape may still make no sense. The objections are raised in a fixed order, and
only the first one counts.

## Main definitions

* `CryoRig.Settings.Rig.objection?`: the first objection to settings.
* `CryoRig.Settings.Rig.validate`: settings that nothing is objected to.

## Main results

* `CryoRig.Settings.firstRepeated?_eq_none_iff`: no name is repeated exactly if all are different.
-/

namespace CryoRig.Settings

/-- The first name that stands in a list for the second time; `seen` are those before. -/
def firstRepeated? (seen : List String) : List String → Option String
  | [] => none
  | name :: rest => if name ∈ seen then some name else firstRepeated? (name :: seen) rest

theorem firstRepeated?_eq_none_iff (seen names : List String) :
    firstRepeated? seen names = none ↔ names.Nodup ∧ ∀ n ∈ names, n ∉ seen := by
  induction names generalizing seen with
  | nil => simp [firstRepeated?]
  | cons name rest ih =>
    simp only [firstRepeated?]
    split
    · simp_all
    · rename_i h
      rw [ih]
      simp only [List.nodup_cons, List.mem_cons, not_or]
      constructor
      · rintro ⟨hd, hr⟩
        refine ⟨⟨fun hm => (hr name hm).1 rfl, hd⟩, ?_⟩
        rintro n (rfl | hn)
        · exact h
        · exact (hr n hn).2
      · rintro ⟨⟨hm, hd⟩, hr⟩
        refine ⟨hd, fun n hn => ⟨?_, hr n (Or.inr hn)⟩⟩
        rintro rfl
        exact hm hn

/-- An objection that is raised if something does not hold. -/
def expect (holds : Bool) (o : Objection) : Option Objection := if holds then none else some o

/-- The first instrument the site talks to that is not there. -/
def Rig.firstMissing? (r : Rig) : Option String :=
  let present := r.enabled.map Instrument.id
  r.facility.references.find? fun id => id ∉ present

/-- Every objection there may be, in order. -/
def Rig.objections (r : Rig) : List (Option Objection) :=
  [expect (r.application.logLevel ∈ LogLevel.all.map LogLevel.name)
      (.badLogLevel r.application.logLevel),
    expect (r.application.logFormat ∈ LogFormat.all.map LogFormat.name)
      (.badLogFormat r.application.logFormat),
    expect (!(Text.trim r.labels.sample).isEmpty) .blankSample,
    expect (r.acquisitions.statusCheckEvery != 0) .statusCheckZero,
    expect (r.acquisitions.overloadThreshold != 0) .overloadThresholdZero,
    expect (decide (0 < r.acquisitions.fieldStepRate))
      (.fieldStepRateNotPositive r.acquisitions.fieldStepRate),
    expect (r.programs.pollSeconds != 0) .waitPollZero,
    expect (decide (r.facility.lockinCount ≤ maxLockins)) (.tooManyLockins r.facility.lockinCount),
    (firstRepeated? [] (r.instruments.map Instrument.id)).map .duplicateInstrument,
    r.firstMissing?.map .instrumentNotEnabled]

/-- The first objection to settings. -/
def Rig.objection? (r : Rig) : Option Objection := r.objections.findSome? id

/-- Settings that nothing is objected to. -/
def Rig.validate (r : Rig) : Except Objection Unit :=
  match r.objection? with
  | some o => .error o
  | none => .ok ()

end CryoRig.Settings
