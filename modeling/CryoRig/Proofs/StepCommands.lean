import CryoRig.Proofs.Carried
import CryoRig.Proofs.Operations
import CryoRig.Proofs.StepEntries
import CryoRig.Settings.Rig

/-!
# The commands of a step

What is stepped is set by commands to instruments. A step that succeeds has sent them to every
instrument that is addressed, and all were taken; between two steps nothing of the kind is sent. One
quantity is an exception, and by intention: that there is no gate source, or that it does not put
out a voltage, is only reported, and the step succeeds.

## Main definitions

* `CryoRig.Settings.Facility.header`, `CryoRig.Settings.Facility.setting`: the commands that set
  what is stepped.
* `CryoRig.Control.commands`: those among what was sent.
* `CryoRig.Control.SetTo`: a quantity was set to a value, or it was reported why it was not.

## Main results

* `CryoRig.Control.setTo_of_applyStep`: what a step sends if it succeeds.
* `CryoRig.Control.commands_of_watches`: what is done between two steps sends nothing of the kind.
-/

namespace CryoRig

open Process

/-! ## The commands that set a quantity -/

namespace Settings.Facility

/-- The lock-ins of a facility, by their names on the bus. -/
def lockins : Facility → List String
  | refrigerator w => w.lockins
  | cryogenFree w => w.lockins
  | insert w => [w.lockin]

/-- The gate source of a facility. -/
def gate : Facility → Option String
  | refrigerator w => w.gate
  | cryogenFree w => w.gate
  | insert _ => none

/-- How the commands begin that set what is stepped. -/
def header (f : Facility) : Parameter → String
  | .firstAmplitude | .allAmplitudes => "SLVL "
  | .frequency => "FREQ "
  | .gateVoltage => ":SOURCE:LEVEL "
  | .field => match f with
    | refrigerator _ => "CONFIGURE:"
    | _ => "SET B"
  | .heater => "MOUT "

lemma header_mem {f : Facility} {parameter : Parameter} : f.header parameter ∈
    ["SLVL ", "FREQ ", ":SOURCE:LEVEL ", "CONFIGURE:", "SET B", "MOUT "] := by
  cases parameter <;> cases f <;> simp [header]

/-- The commands that set what is stepped to a value, each with the instrument it is for. The field
goes to its value at a rate. -/
def setting (f : Facility) (rate : Float) (parameter : Parameter) (value : Float) :
    List (String × String) :=
  match parameter with
  | .firstAmplitude => (f.lockins.take 1).map fun id => (id, "SLVL " ++ Number.plain value)
  | .allAmplitudes => f.lockins.map fun id => (id, "SLVL " ++ Number.plain value)
  | .frequency => (f.lockins.take 1).map fun id => (id, "FREQ " ++ Number.plain value)
  | .gateVoltage => f.gate.toList.map fun id => (id, ":SOURCE:LEVEL " ++ Number.plain value)
  | .field => match f with
    | refrigerator w => w.magnet.toList.flatMap fun id =>
      [(id, "CONFIGURE:RAMP:RATE:FIELD 1," ++ Number.plain rate ++ ",1;"),
        (id, "CONFIGURE:FIELD:TARGET " ++ Number.plain value ++ ";")]
    | cryogenFree w => [(w.control, "SET B" ++ Number.plain value ++ "," ++ Number.plain rate)]
    | insert _ => []
  | .heater => match f with
    | refrigerator w => [(w.bridge, "MOUT " ++ Number.plain (value * 1e-6))]
    | _ => []

end Settings.Facility

/-! ## Drivers -/

namespace Instrument

variable {α : Type} {es : List (Exchange Surroundings)} {id command header : String}

/-- A command that was sent and taken. -/
def sent (id command : String) : Exchange Surroundings :=
  ⟨.write id command, (some (.ok ()) : Option (Except DeviceFault Unit))⟩

/-- Whether a request sends a command with a given beginning. -/
def Request.sets (header : String) : Request → Bool
  | .write _ command => decide (header.toList <+: command.toList)
  | _ => false

/-- The commands with a given beginning. -/
def levels (header : String) (es : List (Exchange Surroundings)) : List (Exchange Surroundings) :=
  es.filter fun e => e.request.sets header

lemma levels_append (es es' : List (Exchange Surroundings)) :
    levels header (es ++ es') = levels header es ++ levels header es' := List.filter_append ..

lemma levels_hold (es : List (Exchange Surroundings)) :
    levels header (hold es) = levels header es := by
  simp [levels, hold, seized, released, Request.sets]

lemma levels_sent (h : header.toList <+: command.toList) :
    levels header [sent id command] = [sent id command] := by
  simp [levels, sent, Request.sets, h]

lemma prefix_append {tail : String} (h : header.toList <+: command.toList) :
    header.toList <+: (command ++ tail).toList := by
  rw [String.toList_append]
  exact h.trans (List.prefix_append ..)

/-- A command that was sent without a fault was taken. -/
lemma ends_write_ok (h : (Held.write id command).run.Ends es (.ok ())) :
    es = [sent id command] := by
  obtain ⟨reply, rest, rfl, hend⟩ := ends_ask_iff.1 h
  change (outcome id (.writing id command) reply).run.Ends rest (.ok ()) at hend
  rcases reply with _ | _ | _ <;> obtain ⟨rfl, hresult⟩ := ends_settled_iff.1 hend
  · cases hresult
  · cases hresult
  · rfl

/-- A single command is sent while the bus is held. -/
lemma ends_single_ok (h : (write id command).run.Ends es (.ok ())) :
    es = hold [sent id command] := by
  obtain ⟨during, rfl, hd⟩ := ends_withBus_iff.1 h
  rw [ends_write_ok hd]

lemma Lockin.ends_setAmplitude {volts : Float}
    (h : (setAmplitude id volts).run.Ends es (.ok ())) :
    es = hold [sent id ("SLVL " ++ Number.plain volts)] := by
  unfold setAmplitude at h
  split at h
  · exact ends_single_ok h
  · cases (ends_run_throw_iff.1 h).2

lemma Lockin.ends_setFrequency {hertz : Float}
    (h : (setFrequency id hertz).run.Ends es (.ok ())) :
    es = hold [sent id ("FREQ " ++ Number.plain hertz)] := by
  unfold setFrequency at h
  split at h
  · exact ends_single_ok h
  · cases (ends_run_throw_iff.1 h).2

/-- A magnet is told its rate and its target under one hold of the bus. -/
lemma Magnet.ends_setTarget {tesla rate : Float}
    (h : (setTarget id tesla rate).run.Ends es (.ok ())) :
    es = hold [sent id ("CONFIGURE:RAMP:RATE:FIELD 1," ++ Number.plain rate ++ ",1;"),
      sent id ("CONFIGURE:FIELD:TARGET " ++ Number.plain tesla ++ ";")] := by
  obtain ⟨during, rfl, hd⟩ := ends_withBus_iff.1 h
  rcases ends_run_bind_iff.1 hd with ⟨_, -, ⟨⟩⟩ | ⟨es₁, es₂, _, rfl, h₁, h₂⟩
  rw [ends_write_ok h₁, ends_write_ok h₂]
  rfl

/-- A gate source is set if it puts out the right quantity; otherwise that is reported. -/
lemma Gate.ends_setLevel {wanted : SourceFunction} {level : Float} {b : Bool}
    (h : (setLevel id wanted level).run.Ends es (.ok b)) :
    ∃ asked, (∀ header, levels header asked = []) ∧
      (es = asked ++ hold [sent id (":SOURCE:LEVEL " ++ Number.plain level)] ∨
        ∃ actual, actual ≠ some wanted ∧
          es = asked ++ [⟨.log (.gateInWrongMode id wanted actual), ()⟩]) := by
  rcases ends_run_bind_iff.1 h with ⟨_, -, ⟨⟩⟩ | ⟨asked, es₂, actual, rfl, h₁, h₂⟩
  refine ⟨asked, fun header => ?_, ?_⟩
  · rcases ends_run_bind_iff.1 h₁ with ⟨_, -, ⟨⟩⟩ | ⟨es₃, es₄, _, rfl, h₃, h₄⟩
    obtain ⟨rfl, -⟩ := ends_run_pure_iff.1 h₄
    obtain ⟨during, rfl, hd⟩ := ends_withBus_iff.1 h₃
    obtain ⟨reply, rfl, -⟩ := ends_query hd
    rw [List.append_nil, levels_hold]
    rfl
  · split at h₂
    · rcases ends_run_bind_iff.1 h₂ with ⟨_, -, ⟨⟩⟩ | ⟨es₃, es₄, _, rfl, h₃, h₄⟩
      obtain ⟨rfl, -⟩ := ends_run_pure_iff.1 h₄
      rw [List.append_nil, ends_single_ok h₃]
      exact .inl rfl
    · next hne =>
      rcases ends_run_bind_iff.1 h₂ with ⟨_, -, ⟨⟩⟩ | ⟨es₃, es₄, _, rfl, h₃, h₄⟩
      obtain ⟨rfl, -⟩ := ends_run_pure_iff.1 h₄
      obtain ⟨_, rest, rfl, hrest⟩ := ends_ask_iff.1 h₃
      obtain ⟨rfl, -⟩ := ends_done_iff.1 hrest
      exact .inr ⟨actual, hne, rfl⟩

/-! ## Looking -/

/-- A request that at most adjusts a sensitivity range. -/
def Request.Adjusts : Request → Prop
  | .write _ command => "SENS ".toList <+: command.toList
  | _ => True

lemma adjusts_heldValues : (Held.values id command).run.AsksOnly Request.Adjusts :=
  (asksOnly_query trivial).run_bind fun _ => asksOnly_settled _

lemma adjusts_query : (query id command).run.AsksOnly Request.Adjusts :=
  asksOnly_withBus trivial trivial (asksOnly_query trivial)

lemma adjusts_values : (values id command).run.AsksOnly Request.Adjusts :=
  asksOnly_withBus trivial trivial adjusts_heldValues

lemma adjusts_number : (number id command).run.AsksOnly Request.Adjusts :=
  adjusts_values.run_bind fun _ => trivial

lemma adjusts_whole {limit : Nat} : (whole id command limit).run.AsksOnly Request.Adjusts :=
  adjusts_query.run_bind fun _ => asksOnly_settled _

lemma adjusts_log (event : Event) : (log event).run.AsksOnly Request.Adjusts :=
  ⟨trivial, fun _ => trivial⟩

lemma adjusts_readScanned (pick : Nat → Option (Nat × Bridge.Reading)) :
    (Bridge.readScanned id pick).run.AsksOnly Request.Adjusts := by
  refine asksOnly_withBus trivial trivial (adjusts_heldValues.run_bind fun _ => ?_)
  refine (asksOnly_settled _).run_bind fun scan => ?_
  dsimp only
  split
  · trivial
  · exact adjusts_heldValues.run_bind fun _ => trivial

lemma adjusts_ohms : (ResistanceMeter.ohms id).run.AsksOnly Request.Adjusts := by
  refine adjusts_values.run_bind fun values => ?_
  split <;> trivial

lemma Lockin.adjusts_signal : (signal id).run.AsksOnly Request.Adjusts := by
  refine adjusts_values.run_bind fun values => ?_
  split <;> trivial

lemma Lockin.adjusts_snapshot : (snapshot id).run.AsksOnly Request.Adjusts := by
  refine adjusts_values.run_bind fun values => ?_
  split <;> trivial

lemma Lockin.adjusts_status : (status id).run.AsksOnly Request.Adjusts :=
  adjusts_whole.run_bind fun _ => trivial

lemma Lockin.adjusts_rangeUp : (rangeUp id).run.AsksOnly Request.Adjusts := by
  refine adjusts_whole.run_bind fun current => ?_
  split
  · trivial
  · have hcommand : Request.Adjusts (.write id s!"SENS {current + 1}") :=
      prefix_append List.prefix_rfl
    exact (asksOnly_withBus trivial trivial (asksOnly_write hcommand)).run_bind fun _ => trivial

end Instrument

/-! ## Facilities -/

namespace Site

open Instrument

variable {α : Type}

lemma adjusts_onLockin {site : String} {ids : List String} {index : Nat}
    {work : String → Driving α} (h : ∀ id, (work id).run.AsksOnly Request.Adjusts) :
    (onLockin site ids index work).run.AsksOnly Request.Adjusts := by
  unfold onLockin
  split
  · exact h _
  · trivial

lemma InsertWiring.adjusts_onLockin {w : InsertWiring} {index : Nat} {work : String → Driving α}
    (h : ∀ id, (work id).run.AsksOnly Request.Adjusts) :
    (w.onLockin index work).run.AsksOnly Request.Adjusts := by
  unfold InsertWiring.onLockin
  split
  · exact h _
  · trivial

lemma adjusts_readLockins (ids : List String) :
    (readLockins ids).run.AsksOnly Request.Adjusts := by
  have hslots (places : Nat) (ids : List String) :
      (readSlots places ids).run.AsksOnly Request.Adjusts := by
    induction places generalizing ids with
    | zero => trivial
    | succ places ih =>
      cases ids with
      | nil => exact (ih []).run_bind fun _ => trivial
      | cons id ids =>
        exact Lockin.adjusts_signal.run_bind fun _ => (ih ids).run_bind fun _ => trivial
  exact hslots _ ids

lemma RefrigeratorWiring.adjusts_reading {instrument : Option String}
    {read : String → Driving Float} (h : ∀ id, (read id).run.AsksOnly Request.Adjusts) :
    (RefrigeratorWiring.reading instrument read).run.AsksOnly Request.Adjusts := by
  cases instrument with
  | some id => exact (h id).run_bind fun _ => trivial
  | none => trivial

lemma RefrigeratorWiring.adjusts_readChannels (w : RefrigeratorWiring) (mode : Mode) :
    (w.readChannels mode).run.AsksOnly Request.Adjusts := by
  have hcommon : w.readCommon.run.AsksOnly Request.Adjusts :=
    (adjusts_readLockins _).run_bind fun _ =>
      (adjusts_reading fun _ => adjusts_number).run_bind fun _ =>
        (adjusts_reading fun _ => adjusts_number).run_bind fun _ => trivial
  have hscan : w.readScan.run.AsksOnly Request.Adjusts := by
    refine (adjusts_readScanned _).run_bind fun scan => ?_
    dsimp only
    split
    · exact (adjusts_log _).run_bind fun _ => trivial
    · trivial
  have hparked : w.readParked.run.AsksOnly Request.Adjusts :=
    (adjusts_readScanned _).run_bind fun _ =>
      (adjusts_reading fun _ => adjusts_ohms).run_bind fun _ => trivial
  refine hcommon.run_bind fun _ => ?_
  split
  · exact hscan.run_bind fun _ => trivial
  · exact hparked.run_bind fun _ => trivial

end Site

namespace Control

open Instrument Sampling

variable {f : Settings.Facility}

/-- Reading channels and looking after a lock-in at most adjust a sensitivity range. -/
lemma adjusts_perform {file : Nat} {a : Action} (h : (WorkRequest.act a).Watches file) :
    (f.site.perform a).AsksOnly Instrument.Request.Adjusts := by
  cases a with
  | readChannels mode =>
    cases f with
    | refrigerator w => exact w.adjusts_readChannels mode
    | cryogenFree w =>
      exact (Site.adjusts_readLockins _).run_bind fun _ => adjusts_number.run_bind fun _ =>
        adjusts_number.run_bind fun _ => trivial
    | insert w =>
      exact adjusts_number.run_bind fun _ => adjusts_number.run_bind fun _ =>
        adjusts_number.run_bind fun _ => Lockin.adjusts_snapshot.run_bind fun _ => trivial
  | lockinStatus index =>
    cases f with
    | refrigerator w => exact Site.adjusts_onLockin fun _ => Lockin.adjusts_status
    | cryogenFree w => exact Site.adjusts_onLockin fun _ => Lockin.adjusts_status
    | insert w => exact Site.InsertWiring.adjusts_onLockin fun _ => Lockin.adjusts_status
  | rangeUp index =>
    cases f with
    | refrigerator w => exact Site.adjusts_onLockin fun _ => Lockin.adjusts_rangeUp
    | cryogenFree w => exact Site.adjusts_onLockin fun _ => Lockin.adjusts_rangeUp
    | insert w => exact Site.InsertWiring.adjusts_onLockin fun _ => Lockin.adjusts_rangeUp
  | _ => exact h.elim

/-! ## What is sent on the rig -/

/-- Whether a request sends a command with a given beginning. -/
def Request.sets (header : String) : Request → Bool
  | .device r => r.sets header
  | _ => false

/-- The commands with a given beginning among what was sent. -/
def commands (header : String) (es : List (Exchange RigSurroundings)) :
    List (Exchange RigSurroundings) := es.filter fun e => e.request.sets header

/-- A command that was sent to an instrument and taken. -/
def taken (c : String × String) : Exchange RigSurroundings := onRig (sent c.1 c.2)

variable {header : String} {es es' : List (Exchange RigSurroundings)}

lemma commands_append : commands header (es ++ es') = commands header es ++ commands header es' :=
  List.filter_append ..

lemma commands_onRig (said : List (Exchange Surroundings)) :
    commands header (said.map onRig) = (levels header said).map onRig := by
  rw [commands, List.filter_map, levels]
  rfl

/-- That there is no gate source, or that it does not put out a voltage, was reported. -/
def GateReported (f : Settings.Facility) (es : List (Exchange RigSurroundings)) : Prop :=
  (f.gate = none ∧ ⟨.device (.log .gateMissing), ()⟩ ∈ es) ∨
    ∃ id actual, f.gate = some id ∧ actual ≠ some .voltage ∧
      ⟨.device (.log (.gateInWrongMode id .voltage actual)), ()⟩ ∈ es

/-- A quantity was set to a value, by commands to every instrument that is addressed; or it is the
gate voltage, and it was reported why it was not set. -/
def SetTo (f : Settings.Facility) (rate : Float) (parameter : Parameter) (value : Float)
    (es : List (Exchange RigSurroundings)) : Prop :=
  (commands (f.header parameter) es = (f.setting rate parameter value).map taken ∧
    (f.setting rate parameter value = [] → parameter = .allAmplitudes ∧ f.lockins = [])) ∨
  (parameter = .gateVoltage ∧ commands (f.header parameter) es = [] ∧ GateReported f es)

/-! ## What a step sends -/

/-- A facility on a rig. -/
abbrev onSite (f : Settings.Facility) : Site RigSurroundings := f.site.translate ofDriver

/-- Work on a lock-in is done on the lock-in at its place. -/
lemma ends_onLockin {site : String} {ids : List String} {index : Nat} {work : String → Driving Unit}
    {said : List (Exchange Surroundings)}
    (h : (Site.onLockin site ids index work).run.Ends said (.ok ())) :
    ∃ id, ids[index]? = some id ∧ (work id).run.Ends said (.ok ()) := by
  unfold Site.onLockin at h
  split at h
  · next id hid => exact ⟨id, hid, h⟩
  · cases (ends_run_throw_iff.1 h).2

lemma ends_onLockin_insert {w : Site.InsertWiring} {index : Nat} {work : String → Driving Unit}
    {said : List (Exchange Surroundings)} (h : (w.onLockin index work).run.Ends said (.ok ())) :
    ∃ id, [w.lockin][index]? = some id ∧ (work id).run.Ends said (.ok ()) := by
  unfold Site.InsertWiring.onLockin at h
  split at h
  · next hindex => exact ⟨w.lockin, by rw [hindex]; rfl, h⟩
  · cases (ends_run_throw_iff.1 h).2

section Actions

variable {said : List (Exchange Surroundings)} {index : Nat} {rate value : Float}

lemma ends_setAmplitude (h : (f.site.perform (.setAmplitude index value)).Ends said (.ok ())) :
    ∃ id, f.lockins[index]? = some id ∧
      said = hold [sent id ("SLVL " ++ Number.plain value)] := by
  obtain ⟨id, hid, hset⟩ : ∃ id, f.lockins[index]? = some id ∧
      (Lockin.setAmplitude id value).run.Ends said (.ok ()) := by
    cases f with
    | refrigerator w => exact ends_onLockin h
    | cryogenFree w => exact ends_onLockin h
    | insert w => exact ends_onLockin_insert h
  exact ⟨id, hid, Lockin.ends_setAmplitude hset⟩

lemma ends_setFrequency (h : (f.site.perform (.setFrequency index value)).Ends said (.ok ())) :
    ∃ id, f.lockins[index]? = some id ∧
      said = hold [sent id ("FREQ " ++ Number.plain value)] := by
  obtain ⟨id, hid, hset⟩ : ∃ id, f.lockins[index]? = some id ∧
      (Lockin.setFrequency id value).run.Ends said (.ok ()) := by
    cases f with
    | refrigerator w => exact ends_onLockin h
    | cryogenFree w => exact ends_onLockin h
    | insert w => exact ends_onLockin_insert h
  exact ⟨id, hid, Lockin.ends_setFrequency hset⟩

/-- Every command that sets a quantity begins as those for it do. -/
lemma header_of_mem_setting {parameter : Parameter} {c : String × String}
    (h : c ∈ f.setting rate parameter value) :
    (f.header parameter).toList <+: c.2.toList := by
  have hone {header tail : String} {ids : List String}
      (h : c ∈ ids.map fun id => (id, header ++ tail)) : header.toList <+: c.2.toList := by
    obtain ⟨id, -, rfl⟩ := List.mem_map.1 h
    exact prefix_append List.prefix_rfl
  cases parameter with
  | firstAmplitude | allAmplitudes | frequency | gateVoltage => exact hone h
  | field =>
    cases f with
    | refrigerator w =>
      obtain ⟨id, -, hc⟩ := List.mem_flatMap.1 h
      have hrate : "CONFIGURE:".toList <+: "CONFIGURE:RAMP:RATE:FIELD 1,".toList := by decide
      have htarget : "CONFIGURE:".toList <+: "CONFIGURE:FIELD:TARGET ".toList := by decide
      simp only [List.mem_cons, List.not_mem_nil, or_false] at hc
      rcases hc with rfl | rfl
      · exact prefix_append (prefix_append hrate)
      · exact prefix_append (prefix_append htarget)
    | cryogenFree w =>
      obtain rfl := List.mem_singleton.1 h
      exact prefix_append (prefix_append (prefix_append List.prefix_rfl))
    | insert w => cases h
  | heater =>
    cases f with
    | refrigerator w =>
      obtain rfl := List.mem_singleton.1 h
      exact prefix_append List.prefix_rfl
    | cryogenFree w => cases h
    | insert w => cases h

/-- What sets a quantity under one hold of the bus. -/
lemma setTo_of_hold {parameter : Parameter} (asked : List (Exchange Surroundings))
    (cs : List (String × String)) (hasked : ∀ header, levels header asked = [])
    (hcs : f.setting rate parameter value = cs) (hne : cs ≠ [])
    (h : said = asked ++ hold (cs.map fun c => sent c.1 c.2)) :
    SetTo f rate parameter value (said.map onRig) := by
  refine .inl ⟨?_, fun hnil => absurd (hcs ▸ hnil) hne⟩
  have hall : levels (f.header parameter) (cs.map fun c => sent c.1 c.2) =
      cs.map fun c => sent c.1 c.2 := by
    refine List.filter_eq_self.2 (List.forall_mem_map.2 fun c hc => decide_eq_true ?_)
    exact header_of_mem_setting (hcs.symm ▸ hc)
  rw [h, commands_onRig, levels_append, hasked, levels_hold, hall, hcs, List.nil_append,
    List.map_map]
  rfl

/-- Putting a voltage to the gate sets it, or reports why it does not. -/
lemma setTo_gateVoltage (h : (f.site.perform (.setGateVoltage value)).Ends said (.ok ())) :
    SetTo f rate .gateVoltage value (said.map onRig) := by
  have hnone (hg : f.gate = none) (hlog : (Instrument.log .gateMissing).run.Ends said (.ok ())) :
      SetTo f rate .gateVoltage value (said.map onRig) := by
    obtain ⟨_, rest, rfl, hrest⟩ := ends_ask_iff.1 hlog
    obtain ⟨rfl, -⟩ := ends_done_iff.1 hrest
    exact .inr ⟨rfl, rfl, .inl ⟨hg, List.mem_cons_self⟩⟩
  have hsome {id : String} (hg : f.gate = some id)
      (hset : (do let _ ← Gate.setLevel id .voltage value : Driving Unit).run.Ends said
        (.ok ())) : SetTo f rate .gateVoltage value (said.map onRig) := by
    rcases ends_run_bind_iff.1 hset with ⟨_, -, ⟨⟩⟩ | ⟨said₁, said₂, _, rfl, h₁, h₂⟩
    obtain ⟨rfl, -⟩ := ends_run_pure_iff.1 h₂
    rw [List.append_nil]
    obtain ⟨asked, hasked, hsent | ⟨actual, hne, rfl⟩⟩ := Gate.ends_setLevel h₁
    · refine setTo_of_hold asked [(id, ":SOURCE:LEVEL " ++ Number.plain value)] hasked ?_
        (List.cons_ne_nil _ _) hsent
      simp [Settings.Facility.setting, hg]
    · refine .inr ⟨rfl, ?_, .inr ⟨id, actual, hg, hne, ?_⟩⟩
      · rw [commands_onRig, levels_append, hasked]
        rfl
      · rw [List.map_append]
        exact List.mem_append_right _ List.mem_cons_self
  cases f with
  | refrigerator w =>
    change (w.onGate _).run.Ends said (.ok ()) at h
    unfold Site.RefrigeratorWiring.onGate at h
    split at h
    · next id hg => exact hsome hg h
    · next hg => exact hnone hg h
  | cryogenFree w =>
    change (w.onGate _).run.Ends said (.ok ()) at h
    unfold Site.CryogenFreeWiring.onGate at h
    split at h
    · next id hg => exact hsome hg h
    · next hg => exact hnone hg h
  | insert w => cases (ends_run_throw_iff.1 h).2

/-- Ramping the field sets it. -/
lemma setTo_field (h : (f.site.perform (.setTargetField value rate)).Ends said (.ok ())) :
    SetTo f rate .field value (said.map onRig) := by
  cases f with
  | refrigerator w =>
    change (w.onMagnet _).run.Ends said (.ok ()) at h
    unfold Site.RefrigeratorWiring.onMagnet at h
    split at h
    · next id hm =>
      refine setTo_of_hold []
        [(id, "CONFIGURE:RAMP:RATE:FIELD 1," ++ Number.plain rate ++ ",1;"),
          (id, "CONFIGURE:FIELD:TARGET " ++ Number.plain value ++ ";")]
        (fun _ => rfl) ?_ (List.cons_ne_nil _ _) (Magnet.ends_setTarget h)
      simp [Settings.Facility.setting, hm]
    · cases (ends_run_throw_iff.1 h).2
  | cryogenFree w =>
    exact setTo_of_hold [] [(_, _)] (fun _ => rfl) rfl (List.cons_ne_nil _ _) (ends_single_ok h)
  | insert w => cases (ends_run_throw_iff.1 h).2

/-- Setting the heater sets it. -/
lemma setTo_heater (h : (f.site.perform (.setHeater value)).Ends said (.ok ())) :
    SetTo f rate .heater value (said.map onRig) := by
  cases f with
  | refrigerator w =>
    exact setTo_of_hold [] [(_, _)] (fun _ => rfl) rfl (List.cons_ne_nil _ _) (ends_single_ok h)
  | cryogenFree w => cases (ends_run_throw_iff.1 h).2
  | insert w => cases (ends_run_throw_iff.1 h).2

end Actions

/-! ### Blocks -/

section Blocks

variable {α : Type} {a : Action} {r : α} {rate value : Float} {t : Ticking}
  {blocks : List (Block WorkSurroundings RigSurroundings)}

lemma eq_cons_of_ends_act {k : a.Outcome → Working α}
    (h : (act a >>= k).Ends (blocks.map Block.exchange) r) :
    ∃ path reply rest, blocks = ⟨⟨.act a, reply⟩, path⟩ :: rest ∧
      (k reply).Ends (rest.map Block.exchange) r := by
  obtain ⟨reply, rest, hrest, hk⟩ := ends_ask_iff.1 h
  obtain ⟨⟨exchange, path⟩, rest, rfl, rfl, rfl⟩ := List.map_eq_cons_iff.1 hrest
  exact ⟨path, reply, rest, rfl, hk⟩

/-- An action that is carried out at a facility is the work of its drivers. -/
lemma exists_said {path : List (Exchange RigSurroundings)} {reply : a.Outcome}
    (h : (⟨⟨WorkRequest.act a, reply⟩, path⟩ : Block WorkSurroundings RigSurroundings).By
      (ofWork (onSite f))) :
    ∃ said, path = said.map onRig ∧ (f.site.perform a).Ends said reply :=
  ends_ofDriver_iff.1 h

/-- The blocks of a single action that goes well. -/
lemma exists_said_of_act (hby : ∀ b ∈ blocks, b.By (ofWork (onSite f))) {reply : a.Outcome}
    (h : (act a).Ends (blocks.map Block.exchange) reply) :
    ∃ said, blocks.flatMap Block.path = said.map onRig ∧ (f.site.perform a).Ends said reply := by
  rw [← bind_pure (act a)] at h
  obtain ⟨path, reply', rest, rfl, hrest⟩ := eq_cons_of_ends_act h
  obtain ⟨hnil, rfl⟩ := ends_pure_iff.1 hrest
  obtain rfl := List.map_eq_nil_iff.1 hnil
  simpa using exists_said (hby _ List.mem_cons_self)

/-- The amplitudes of lock-ins are set one after the other. -/
lemma commands_setAmplitudes {indices : List Nat}
    (hby : ∀ b ∈ blocks, b.By (ofWork (onSite f)))
    (h : (Ticking.setAmplitudes value indices).Ends (blocks.map Block.exchange) (.ok ())) :
    commands "SLVL " (blocks.flatMap Block.path) =
      (indices.flatMap fun index => f.lockins[index]?.toList).map fun id =>
        taken (id, "SLVL " ++ Number.plain value) := by
  induction indices generalizing blocks with
  | nil =>
    obtain ⟨hnil, -⟩ := ends_pure_iff.1 h
    obtain rfl := List.map_eq_nil_iff.1 hnil
    rfl
  | cons index indices ih =>
    obtain ⟨path, reply, rest, rfl, hrest⟩ := eq_cons_of_ends_act h
    obtain ⟨hfirst, hothers⟩ := List.forall_mem_cons.1 hby
    obtain ⟨said, rfl, hsaid⟩ := exists_said hfirst
    rcases reply with fault | (⟨⟩ : Unit)
    · cases (ends_pure_iff.1 hrest).2
    · obtain ⟨id, hid, rfl⟩ := ends_setAmplitude hsaid
      rw [List.flatMap_cons, commands_append, ih hothers hrest, commands_onRig, levels_hold,
        levels_sent (prefix_append List.prefix_rfl), List.flatMap_cons, hid]
      rfl

lemma flatMap_range (l : List String) (n : Nat) :
    ((List.range n).flatMap fun index => l[index]?.toList) = l.take n := by
  induction n with
  | zero => rfl
  | succ n ih => rw [List.range_succ, List.flatMap_append, ih, List.take_add_one]; simp

/-- **A step that succeeds has set its value**, on every instrument that is addressed; or it is one
of the gate voltage, and it was reported why the value was not set. -/
theorem setTo_of_applyStep {parameter : Parameter} (ht : t.lockins = f.lockins.length)
    (hby : ∀ b ∈ blocks, b.By (ofWork (onSite f)))
    (h : (t.applyStep parameter value).Ends (blocks.map Block.exchange) (.ok ())) :
    SetTo f t.tuning.fieldStepRate parameter value (blocks.flatMap Block.path) := by
  cases parameter with
  | firstAmplitude =>
    obtain ⟨said, hpath, hsaid⟩ := exists_said_of_act hby h
    obtain ⟨id, hid, hsent⟩ := ends_setAmplitude hsaid
    rw [hpath]
    refine setTo_of_hold [] [(id, _)] (fun _ => rfl) ?_ (List.cons_ne_nil _ _) hsent
    rw [Settings.Facility.setting, ← flatMap_range]
    simp [hid]
  | frequency =>
    obtain ⟨said, hpath, hsaid⟩ := exists_said_of_act hby h
    obtain ⟨id, hid, hsent⟩ := ends_setFrequency hsaid
    rw [hpath]
    refine setTo_of_hold [] [(id, _)] (fun _ => rfl) ?_ (List.cons_ne_nil _ _) hsent
    rw [Settings.Facility.setting, ← flatMap_range]
    simp [hid]
  | allAmplitudes =>
    have hall := commands_setAmplitudes hby h
    rw [flatMap_range, ht, List.take_length] at hall
    refine .inl ⟨?_, fun hnil => ⟨rfl, List.map_eq_nil_iff.1 hnil⟩⟩
    rw [Settings.Facility.setting, List.map_map]
    exact hall
  | gateVoltage =>
    obtain ⟨said, hpath, hsaid⟩ := exists_said_of_act hby h
    exact hpath ▸ setTo_gateVoltage hsaid
  | field =>
    obtain ⟨said, hpath, hsaid⟩ := exists_said_of_act hby h
    exact hpath ▸ setTo_field hsaid
  | heater =>
    obtain ⟨said, hpath, hsaid⟩ := exists_said_of_act hby h
    exact hpath ▸ setTo_heater hsaid

/-- What is done between two steps sends no command that sets what is stepped. -/
theorem commands_of_watches {file : Nat} (parameter : Parameter)
    (hby : ∀ b ∈ blocks, b.By (ofWork (onSite f)))
    (hw : ∀ b ∈ blocks, WorkRequest.Watches file b.exchange.request) :
    commands (f.header parameter) (blocks.flatMap Block.path) = [] := by
  have hsens {command : String} (hs : "SENS ".toList <+: command.toList) :
      ¬(f.header parameter).toList <+: command.toList := by
    intro hp
    have hapart : ∀ header ∈ ["SLVL ", "FREQ ", ":SOURCE:LEVEL ", "CONFIGURE:", "SET B", "MOUT "],
        ¬("SENS ".toList <+: header.toList ∨ header.toList <+: "SENS ".toList) := by decide
    exact hapart _ Settings.Facility.header_mem (List.prefix_or_prefix_of_prefix hs hp)
  refine List.filter_eq_nil_iff.2 fun e he => ?_
  obtain ⟨⟨⟨r, reply⟩, path⟩, hb, he⟩ := List.mem_flatMap.1 he
  cases r with
  | rig r =>
    obtain rfl : path = [⟨r, reply⟩] := ends_request_iff.1 (hby _ hb)
    obtain rfl := List.mem_singleton.1 he
    have hr : WorkRequest.Watches file (.rig r) := hw _ hb
    cases r with
    | device r => cases r <;> first | exact Bool.false_ne_true | exact hr.elim
    | _ => exact Bool.false_ne_true
  | act a =>
    obtain ⟨said, rfl, hsaid⟩ := exists_said (hby _ hb)
    obtain ⟨⟨r, reply⟩, hs, rfl⟩ := List.mem_map.1 he
    have hr : Instrument.Request.Adjusts r :=
      (adjusts_perform (hw _ hb)).of_leads hsaid _ hs
    cases r with
    | write id command => exact fun h => hsens hr (of_decide_eq_true h)
    | _ => exact Bool.false_ne_true

end Blocks

end Control

end CryoRig
