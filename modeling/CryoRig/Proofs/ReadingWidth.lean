import CryoRig.Proofs.Paths
import CryoRig.Settings.Rig
import CryoRig.Control.Work
import CryoRig.Site.Bench

/-!
# A reading for every column

The columns of a site and the readings that go below them are put together in different places, for
every site, mode and wiring anew. Whatever the instruments reply, there are as many readings as
columns, or there are none because something failed.

## Main definitions

* `CryoRig.Site.Reads`: work that gives a number of readings if it succeeds.
* `CryoRig.Control.Station`: what a rig may have for a site.
* `CryoRig.Control.Genuine`: a reply that a rig may give.
* `CryoRig.Control.MayGive`: what may come of an action of a site.

## Main results

* `CryoRig.Site.RefrigeratorWiring.reads_readChannels`: as many readings as columns, and likewise
  for the other wirings.
* `CryoRig.Control.Station.length_of_mayGive`: the same for whatever a rig has for a site.
-/

namespace CryoRig

open Process

/-! ## Wirings -/

namespace Site

/-- Work that gives a number of readings if it succeeds. -/
def Reads (n : Nat) (work : Instrument.Driving (List (Option Float))) : Prop :=
  Gives (fun readings => readings.length = n) work

lemma reads_pure {n : Nat} {readings : List (Option Float)} (h : readings.length = n) :
    Reads n (pure readings) :=
  gives_pure h

/-- What is read first does not matter for the number. -/
lemma Reads.after {n : Nat} {α : Type} {first : Instrument.Driving α}
    {work : α → Instrument.Driving (List (Option Float))} (h : ∀ a, Reads n (work a)) :
    Reads n (first >>= work) :=
  (gives_true first).bind fun a _ => h a

lemma Reads.bind {n m : Nat} {first : Instrument.Driving (List (Option Float))}
    {work : List (Option Float) → Instrument.Driving (List (Option Float))} (hf : Reads m first)
    (h : ∀ readings, readings.length = m → Reads n (work readings)) : Reads n (first >>= work) :=
  Gives.bind hf h

lemma reads_readSlots (places : Nat) (ids : List String) :
    Reads (2 * places) (readSlots places ids) := by
  induction places generalizing ids with
  | zero => exact reads_pure rfl
  | succ places ih =>
    cases ids with
    | nil => exact (ih []).bind fun rest h => reads_pure (by simp [h, Nat.mul_succ])
    | cons id ids =>
      refine .after fun signal => ?_
      exact (ih ids).bind fun rest h => reads_pure (by simp [h, Nat.mul_succ])

/-- Two readings for each place, whether there is a lock-in or not. -/
lemma reads_readLockins (ids : List String) : Reads 8 (readLockins ids) :=
  reads_readSlots maxLockins ids

namespace RefrigeratorWiring

variable (w : RefrigeratorWiring)

lemma reads_readCommon : Reads 10 w.readCommon := by
  refine (reads_readLockins _).bind fun signals h => ?_
  refine .after fun field => .after fun hall => ?_
  exact reads_pure (by simp [h])

lemma reads_readScan : Reads 7 w.readScan := by
  refine .after fun scanned => ?_
  have hcolumns : Reads 7 (pure (scanColumns scanned.1 scanned.2)) :=
    reads_pure (length_scanColumns _ _)
  dsimp only
  split
  · exact .after fun _ => hcolumns
  · exact hcolumns

lemma reads_readParked : Reads 4 w.readParked := by
  refine .after fun scanned => .after fun meter => ?_
  exact reads_pure (by simp)

lemma length_layout (mode : Mode) :
    (w.layout mode).length = if mode = .autoscan then 17 else 14 := by
  cases mode <;> rfl

/-- As many readings as columns, along the scanner and off it. -/
theorem reads_readChannels (mode : Mode) : Reads (w.layout mode).length (w.readChannels mode) := by
  refine w.length_layout mode ▸ w.reads_readCommon.bind fun common hc => ?_
  by_cases hmode : mode = .autoscan
  · rw [if_pos hmode, if_pos hmode]
    exact w.reads_readScan.bind fun scan hs => reads_pure (by simp [hc, hs])
  · rw [if_neg hmode, if_neg hmode]
    exact w.reads_readParked.bind fun parked hp => reads_pure (by simp [hc, hp])

end RefrigeratorWiring

/-- As many readings as columns of a cryogen-free system. -/
theorem CryogenFreeWiring.reads_readChannels (w : CryogenFreeWiring) :
    Reads CryogenFreeWiring.layout.length w.readChannels := by
  refine (reads_readLockins _).bind fun signals h => ?_
  refine .after fun field => .after fun kelvin => ?_
  exact reads_pure (by simp [h, CryogenFreeWiring.layout])

/-- As many readings as columns of an insert. -/
theorem InsertWiring.reads_readChannels (w : InsertWiring) :
    Reads InsertWiring.layout.length w.readChannels := by
  refine .after fun resistance => .after fun first => .after fun second => ?_
  exact .after fun snapshot => reads_pure rfl

/-- As many readings as columns of a bench. -/
lemma Bench.length_of_read {b : Bench} {mode : Mode} {values : List (Option Float)}
    (h : (b.perform (.readChannels mode)).1 = .ok values) : values.length = benchLayout.length := by
  unfold Bench.perform at h
  dsimp only at h
  split at h
  · cases h
  · cases h
    rfl

end Site

/-! ## Stations -/

namespace Control

/-- What a rig may have for a site: a facility with its instruments, or the bench. -/
inductive Station where
  /-- A facility. -/
  | facility (f : Settings.Facility)
  /-- The bench. -/
  | bench

namespace Station

/-- The site itself. -/
def site : Station → Site RigSurroundings
  | facility f => f.site.translate ofDriver
  | bench => Site.bench.translate ofBench

end Station

/-- A reply that a rig may give. Instruments may reply anything, but the bench does what a bench
does. -/
def Genuine : Exchange RigSurroundings → Prop
  | ⟨.bench a, outcome⟩ => ∃ b : Site.Bench, (b.perform a).1 = outcome
  | _ => True

/-- What may come of an action that a site carries out. -/
def MayGive (site : Site RigSurroundings) (a : Action) (outcome : a.Outcome) : Prop :=
  ∃ es, (site.perform a).Ends es outcome ∧ ∀ e ∈ es, Genuine e

/-- What comes of a process over other surroundings may come of the process itself. -/
lemma ends_of_translate {I J : Interface} {α : Type}
    {h : (r : I.Request) → Process J (I.Reply r)} {p : Process I α} {es : List (Exchange J)}
    {a : α} (he : (p.translate h).Ends es a) : ∃ es', p.Ends es' a := by
  induction p generalizing es with
  | done b =>
    obtain ⟨-, rfl⟩ := ends_done_iff.1 he
    exact ⟨[], .refl _⟩
  | ask r next ih =>
    obtain ⟨es₁, es₂, reply, rfl, -, h₂⟩ := ends_bind_iff.1 he
    obtain ⟨es', h'⟩ := ih reply h₂
    exact ⟨⟨r, reply⟩ :: es', .step h'⟩

/-- Whatever a rig has for a site and whatever its instruments reply: if all channels are read,
there are as many readings as columns.

**Proof sketch.** For a facility this holds of its own work, and translating it changes no result.
The bench is asked for the readings in one request. -/
theorem Station.length_of_mayGive {s : Station} {mode : Mode} {values : List (Option Float)}
    (h : MayGive s.site (.readChannels mode) (.ok values)) :
    values.length = (s.site.layout mode).length := by
  obtain ⟨es, he, hgen⟩ := h
  cases s with
  | facility f =>
    obtain ⟨es', h'⟩ := ends_of_translate he
    cases f with
    | refrigerator w => exact w.reads_readChannels mode es' values h'
    | cryogenFree w => exact w.reads_readChannels es' values h'
    | insert w => exact w.reads_readChannels es' values h'
  | bench =>
    obtain rfl := ends_request_iff.1 he
    obtain ⟨b, hb⟩ := hgen _ List.mem_cons_self
    exact Site.Bench.length_of_read hb

end Control

end CryoRig
