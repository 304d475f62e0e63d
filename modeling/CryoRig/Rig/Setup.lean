import CryoRig.Control.Session
import CryoRig.Rig.Answer
import CryoRig.Settings.Rig

/-!
# Setting up a rig

Every instrument that is used is attached to the bus, in the order of the settings; the first one
that cannot be reached ends it. The site is then there without any further ado.

## Main definitions

* `CryoRig.Settings.Rig.tuning`, `CryoRig.Settings.Rig.session`: the settings of acquisitions and of
  the session.
* `CryoRig.Rig.State.setUp`: attach the instruments of a rig.

## Main results

* `CryoRig.Rig.clock_attachAll`: attaching instruments takes no time.
-/

namespace CryoRig

namespace Settings.Rig

/-- The settings of acquisitions. -/
def tuning (r : Rig) : Sampling.Tuning where
  tickInterval := .ofMillis r.acquisitions.tickMillis
  statusCheckEvery := max r.acquisitions.statusCheckEvery 1
  overloadThreshold := r.acquisitions.overloadThreshold
  fieldStepRate := r.acquisitions.fieldStepRate
  autorange := r.acquisitions.autorange
  dataDir := r.labels.dataDir
  sample := r.labels.sample

/-- How long an acquisition may take to stop. -/
def stopLimit (r : Rig) : Duration := .ofSeconds r.acquisitions.stopSeconds

/-- How often it is looked whether something has settled. -/
def poll (r : Rig) : Duration := .ofSeconds r.programs.pollSeconds

/-- How long a program may take to stop. -/
def programStopLimit (r : Rig) : Duration := .ofSeconds r.programs.stopSeconds

/-- The settings of the session that runs on a console. -/
def session (r : Rig) (console : Nat) : Control.SessionSettings :=
  ⟨⟨console, r.poll, r.stopLimit, r.tuning⟩, r.programStopLimit⟩

end Settings.Rig

namespace Rig

/-- Attach instruments one after the other. -/
def attachAll (network : Transport.Network) (s : State) :
    List Settings.Instrument → Except Fault Unit × State
  | [] => (.ok (), s)
  | i :: rest =>
    match Transport.Endpoint.ofConnection network i.connection with
    | .error fault => (.error fault, s)
    | .ok endpoint =>
      let s := s.note .foreground (.instrumentAttached i.id endpoint.describe)
      attachAll network (s.attach i.id (.plain endpoint)) rest

/-- Attach the instruments of a rig. -/
def State.setUp (s : State) (network : Transport.Network) (r : Settings.Rig) :
    Except Fault Unit × State :=
  match attachAll network s r.enabled with
  | (.error fault, s) => (.error fault, s)
  | (.ok _, s) =>
    (.ok (), s.note .foreground (.sessionOpened r.facility.site.name r.labels.sample))

/-- Attaching instruments takes no time. -/
theorem clock_attachAll (network : Transport.Network) (s : State)
    (instruments : List Settings.Instrument) :
    (attachAll network s instruments).2.clock = s.clock := by
  induction instruments generalizing s with
  | nil => rfl
  | cons i rest ih =>
    simp only [attachAll]
    split
    · rfl
    · rw [ih]; rfl

end Rig

end CryoRig
