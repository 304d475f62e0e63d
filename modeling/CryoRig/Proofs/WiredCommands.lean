import CryoRig.Proofs.InstrumentFaults
import CryoRig.Proofs.Operations
import CryoRig.Proofs.SensibleSettings

/-!
# Commands to what is wired

The drivers of a facility are given the names of the instruments that it is wired to, and they send
commands to no others. That an instrument is missing comes of no action, as long as the bus finds
the instruments it is told to find.

## Main definitions

* `CryoRig.Instrument.Found`: a reply of an instrument that was found.
* `CryoRig.Instrument.KeepsTo`: work that sends commands to given instruments only, and has no fault
  that is not its own if they are found.

## Main results

* `CryoRig.Settings.Facility.keepsTo_perform`: every action of a facility keeps to what it is wired
  to.
-/

namespace CryoRig

namespace Instrument

open Process

variable {α β : Type} {W : String → Prop} {id command : String}

/-! ## Results -/

/-- A fault, if any, is of one's own. -/
def Owned (result : Except DeviceFault α) : Prop := ∀ fault, result = .error fault → fault.Own

lemma owned_ok (a : α) : Owned (.ok a : Except DeviceFault α) := nofun

lemma owned_error {fault : DeviceFault} (h : fault.Own) :
    Owned (.error fault : Except DeviceFault α) := by
  rintro _ ⟨⟩
  exact h

lemma Owned.bind {result : Except DeviceFault α} {f : α → Except DeviceFault β}
    (h : Owned result) (hf : ∀ a, Owned (f a)) : Owned (result >>= f) := by
  cases result with
  | ok a => exact hf a
  | error fault => exact owned_error (h fault rfl)

/-- A fault may be wrapped in what was being done. -/
lemma Owned.during {result : Except DeviceFault α} (h : Owned result) (doing : Doing) :
    Owned (result.mapError (.during doing)) := by
  cases result with
  | ok a => exact owned_ok a
  | error cause => exact owned_error (h cause rfl)

lemma owned_number {result : Except Number.Fault α} {wrap : Number.Fault → DeviceFault}
    (h : ∀ cause, (wrap cause).Own) : Owned (result.mapError wrap) := by
  cases result with
  | ok a => exact owned_ok a
  | error cause => exact owned_error (h cause)

lemma owned_parseField (field : List Char) : Owned (parseField field) :=
  owned_number fun _ => nofun

lemma owned_parseValues (reply : String) : Owned (parseValues reply) := by
  have hfields (fields : List (List Char)) : Owned (fields.mapM parseField) := by
    induction fields with
    | nil => exact owned_ok _
    | cons field fields ih =>
      rw [List.mapM_cons]
      exact (owned_parseField field).bind fun _ => ih.bind fun _ => owned_ok _
  unfold parseValues
  split
  · exact owned_error nofun
  · split
    · exact owned_error nofun
    · exact (owned_parseField _).bind fun _ => (hfields _).bind fun _ => owned_ok _

/-! ## Work that keeps to given instruments -/

/-- A command is for one of the given instruments. -/
def Request.Within (W : String → Prop) : Request → Prop
  | .write id _ | .query id _ => W id
  | _ => True

/-- The instrument was found, and if it has a fault it is its own. -/
def FoundWith (reply : Option (Except DeviceFault α)) : Prop :=
  ∃ result, reply = some result ∧ Owned result

/-- If a command was sent, its instrument was found. -/
def Found : (r : Request) → r.Reply → Prop
  | .write .., (reply : Option (Except DeviceFault Unit)) => FoundWith reply
  | .query .., (reply : Option (Except DeviceFault String)) => FoundWith reply
  | _, _ => True

/-- Commands are sent to the given instruments only, and if these are found, a fault in the end is
of one's own. -/
structure KeepsTo (W : String → Prop) (p : Process Surroundings (Except DeviceFault α)) :
    Prop where
  /-- Commands are sent to the given instruments only. -/
  asks : p.AsksOnly (Request.Within W)
  /-- If these are found, a fault is of one's own. -/
  owned : ∀ es result, p.Ends es result → (∀ e ∈ es, Found e.request e.reply) → Owned result

/-- Drivers' work in sequence. -/
lemma KeepsTo.bind {work : Driving α} {f : α → Driving β} (h : KeepsTo W work.run)
    (hf : ∀ a, KeepsTo W (f a).run) : KeepsTo W (work >>= f).run := by
  refine ⟨h.asks.run_bind fun a => (hf a).asks, fun es result hend hes => ?_⟩
  rcases ends_run_bind_iff.1 hend with ⟨fault, hfault, rfl⟩ | ⟨es₁, es₂, a, rfl, -, hrest⟩
  · exact owned_error (h.owned es _ hfault hes fault rfl)
  · exact (hf a).owned es₂ result hrest fun e he => hes e (List.mem_append_right _ he)

lemma keepsTo_settled {result : Except DeviceFault α} (h : Owned result) :
    KeepsTo W (settled result).run := by
  refine ⟨trivial, fun es result' hend _ => ?_⟩
  obtain ⟨-, rfl⟩ := ends_settled_iff.1 hend
  exact h

lemma keepsTo_pure (a : α) : KeepsTo W (pure a : Driving α).run := keepsTo_settled (owned_ok a)

lemma keepsTo_throw {fault : DeviceFault} (h : fault.Own) :
    KeepsTo W (throw fault : Driving α).run := keepsTo_settled (owned_error h)

/-- A request that is not a command succeeds. -/
lemma keepsTo_ask {r : Request} (h : r.Within W) : KeepsTo W (ask r).run := by
  refine ⟨⟨h, fun _ => trivial⟩, fun es result hend _ => ?_⟩
  obtain ⟨reply, rest, -, hrest⟩ := ends_ask_iff.1 hend
  obtain ⟨-, rfl⟩ := ends_done_iff.1 hrest
  exact owned_ok reply

lemma keepsTo_log (event : Event) : KeepsTo W (log event).run := keepsTo_ask trivial

lemma keepsTo_sleep (span : Duration) : KeepsTo W (sleep span).run := keepsTo_ask trivial

/-- The bus may be held meanwhile. -/
lemma KeepsTo.withBus {body : Driving α} (h : KeepsTo W body.run) :
    KeepsTo W (withBus body).run := by
  refine ⟨asksOnly_withBus trivial trivial h.asks, fun es result hend hes => ?_⟩
  obtain ⟨sent, rfl, hbody⟩ := ends_withBus_iff.1 hend
  exact h.owned sent result hbody fun e he => hes e (by simp [hold, he])

lemma owned_of_ends_outcome {doing : Doing} {reply : Option (Except DeviceFault α)}
    {es : List (Exchange Surroundings)} {result : Except DeviceFault α} (h : FoundWith reply)
    (hend : (outcome id doing reply).run.Ends es result) : Owned result := by
  obtain ⟨result, rfl, hown⟩ := h
  obtain ⟨-, rfl⟩ := ends_settled_iff.1 hend
  exact hown.during doing

lemma keepsTo_heldWrite (h : W id) : KeepsTo W (Held.write id command).run := by
  refine ⟨asksOnly_write h, fun es result hend hes => ?_⟩
  obtain ⟨reply, rest, rfl, hrest⟩ := ends_ask_iff.1 hend
  exact owned_of_ends_outcome (List.forall_mem_cons.1 hes).1 hrest

lemma keepsTo_heldQuery (h : W id) : KeepsTo W (Held.query id command).run := by
  refine ⟨asksOnly_query h, fun es result hend hes => ?_⟩
  obtain ⟨reply, rest, rfl, hrest⟩ := ends_ask_iff.1 hend
  exact owned_of_ends_outcome (List.forall_mem_cons.1 hes).1 hrest

lemma keepsTo_heldValues (h : W id) : KeepsTo W (Held.values id command).run :=
  (keepsTo_heldQuery h).bind fun reply => keepsTo_settled ((owned_parseValues reply).during _)

lemma keepsTo_write (h : W id) : KeepsTo W (write id command).run := (keepsTo_heldWrite h).withBus

lemma keepsTo_query (h : W id) : KeepsTo W (query id command).run := (keepsTo_heldQuery h).withBus

lemma keepsTo_values (h : W id) : KeepsTo W (values id command).run :=
  (keepsTo_heldValues h).withBus

lemma keepsTo_number (h : W id) : KeepsTo W (number id command).run :=
  (keepsTo_values h).bind fun _ => keepsTo_pure _

lemma keepsTo_whole {limit : Nat} (h : W id) : KeepsTo W (whole id command limit).run :=
  (keepsTo_query h).bind fun _ => keepsTo_settled (owned_number fun _ => nofun)

/-! ## Drivers -/

section Drivers

lemma keepsTo_signal (h : W id) : KeepsTo W (Lockin.signal id).run := by
  refine (keepsTo_values h).bind fun values => ?_
  split
  · exact keepsTo_pure _
  · exact keepsTo_throw nofun

lemma keepsTo_snapshot (h : W id) : KeepsTo W (Lockin.snapshot id).run := by
  refine (keepsTo_values h).bind fun values => ?_
  split
  · exact keepsTo_pure _
  · exact keepsTo_throw nofun

lemma keepsTo_status (h : W id) : KeepsTo W (Lockin.status id).run :=
  (keepsTo_whole h).bind fun _ => keepsTo_pure _

lemma keepsTo_rangeUp (h : W id) : KeepsTo W (Lockin.rangeUp id).run := by
  refine (keepsTo_whole h).bind fun current => ?_
  split
  · exact keepsTo_pure _
  · exact (keepsTo_write h).bind fun _ => keepsTo_pure _

lemma keepsTo_setAmplitude (h : W id) (volts : Float) :
    KeepsTo W (Lockin.setAmplitude id volts).run := by
  unfold Lockin.setAmplitude
  split
  · exact keepsTo_write h
  · exact keepsTo_throw nofun

lemma keepsTo_setFrequency (h : W id) (hertz : Float) :
    KeepsTo W (Lockin.setFrequency id hertz).run := by
  unfold Lockin.setFrequency
  split
  · exact keepsTo_write h
  · exact keepsTo_throw nofun

lemma keepsTo_expandOff (h : W id) : KeepsTo W (Lockin.expandOff id).run := keepsTo_write h

lemma keepsTo_expandOn (h : W id) (expand : Expand) :
    KeepsTo W (Lockin.expandOn id expand).run := by
  refine KeepsTo.withBus ((keepsTo_heldWrite h).bind fun _ =>
    (keepsTo_heldValues h).bind fun values => ?_)
  split
  · exact (keepsTo_heldWrite h).bind fun _ => keepsTo_pure _
  · exact keepsTo_throw nofun

lemma owned_parseScan (v : Values) : Owned (Bridge.parseScan id v) := by
  unfold Bridge.parseScan
  split
  · exact owned_ok _
  · exact owned_error nofun

lemma keepsTo_scanner (h : W id) : KeepsTo W (Bridge.scanner id).run :=
  (keepsTo_values h).bind fun _ => keepsTo_settled (owned_parseScan _)

lemma keepsTo_readScanned (h : W id) (pick : Nat → Option (Nat × Bridge.Reading)) :
    KeepsTo W (Bridge.readScanned id pick).run := by
  refine KeepsTo.withBus ((keepsTo_heldValues h).bind fun _ =>
    (keepsTo_settled (owned_parseScan _)).bind fun scan => ?_)
  dsimp only
  split
  · exact keepsTo_pure _
  · exact (keepsTo_heldValues h).bind fun _ => keepsTo_pure _

lemma keepsTo_stepSetting (h : W id) (channel : Nat) (direction : Direction)
    (index : Bridge.ChannelSettings → Nat)
    (change : Bridge.ChannelSettings → Nat → Bridge.ChannelSettings) :
    KeepsTo W (Bridge.stepSetting id channel direction index change).run := by
  have hsettings (v : Values) : Owned (Bridge.ChannelSettings.ofValues id v) := by
    unfold Bridge.ChannelSettings.ofValues
    split
    · exact owned_ok _
    · exact owned_error nofun
  refine KeepsTo.withBus ((keepsTo_heldValues h).bind fun _ =>
    (keepsTo_settled (hsettings _)).bind fun settings => ?_)
  split
  · exact keepsTo_pure _
  · exact (keepsTo_heldWrite h).bind fun _ => keepsTo_pure _

lemma keepsTo_setSetpoint (h : W id) (kelvin : Float) (rate : Option Float) :
    KeepsTo W (Bridge.setSetpoint id kelvin rate).run :=
  (keepsTo_write h).bind fun _ => (keepsTo_sleep _).bind fun _ => keepsTo_write h

lemma keepsTo_setTarget (h : W id) (tesla rate : Float) :
    KeepsTo W (Magnet.setTarget id tesla rate).run :=
  ((keepsTo_heldWrite h).bind fun _ => keepsTo_heldWrite h).withBus

lemma keepsTo_setLevel (h : W id) (wanted : SourceFunction) (level : Float) :
    KeepsTo W (Gate.setLevel id wanted level).run := by
  have hask : KeepsTo W (Gate.function id).run := (keepsTo_query h).bind fun _ => keepsTo_pure _
  refine hask.bind fun actual => ?_
  split
  · exact (keepsTo_write h).bind fun _ => keepsTo_pure _
  · exact (keepsTo_log _).bind fun _ => keepsTo_pure _

lemma keepsTo_startSweep (h : W id) (plan : DeltaPlan) :
    KeepsTo W (CurrentSource.startSweep id plan).run := by
  have hsetup (commands : List String) : KeepsTo W (CurrentSource.writeAll id commands).run := by
    induction commands with
    | nil => exact keepsTo_pure _
    | cons command rest ih => exact (keepsTo_write h).bind fun _ => ih
  have htrigger (attempts : Nat) : KeepsTo W (CurrentSource.trigger id attempts).run := by
    induction attempts with
    | zero => exact keepsTo_throw nofun
    | succ attempts ih =>
      refine (keepsTo_query h).bind fun reply => ?_
      split
      · exact keepsTo_write h
      · exact (keepsTo_sleep _).bind fun _ => ih
  exact (hsetup _).bind fun _ => htrigger _

lemma keepsTo_trace (h : W id) : KeepsTo W (CurrentSource.trace id).run := by
  refine (keepsTo_number h).bind fun _ => (keepsTo_values h).bind fun values => ?_
  split
  · exact keepsTo_pure _
  · exact keepsTo_throw nofun

lemma keepsTo_meterOhms (h : W id) : KeepsTo W (ResistanceMeter.ohms id).run := by
  refine (keepsTo_values h).bind fun values => ?_
  split
  · exact keepsTo_pure _
  · exact keepsTo_throw nofun

end Drivers

end Instrument

/-! ## Facilities -/

namespace Site

open Instrument

variable {α : Type} {W : String → Prop}

lemma keepsTo_onLockin {site : String} {ids : List String} {index : Nat}
    {work : String → Driving α} (hids : ∀ id ∈ ids, W id)
    (h : ∀ id, W id → KeepsTo W (work id).run) :
    KeepsTo W (onLockin site ids index work).run := by
  unfold onLockin
  split
  · next hid => exact h _ (hids _ (List.mem_of_getElem? hid))
  · exact keepsTo_throw nofun

lemma keepsTo_readLockins {ids : List String} (hids : ∀ id ∈ ids, W id) :
    KeepsTo W (readLockins ids).run := by
  have hslots (places : Nat) : ∀ ids : List String, (∀ id ∈ ids, W id) →
      KeepsTo W (readSlots places ids).run := by
    induction places with
    | zero => exact fun _ _ => keepsTo_pure _
    | succ places ih =>
      intro ids hids
      cases ids with
      | nil => exact (ih [] hids).bind fun _ => keepsTo_pure _
      | cons id ids =>
        obtain ⟨hid, hids⟩ := List.forall_mem_cons.1 hids
        exact (keepsTo_signal hid).bind fun _ => (ih ids hids).bind fun _ => keepsTo_pure _
  exact hslots _ ids hids

lemma keepsTo_offsetExpand {id : String} (h : W id) (reportOff : Bool) (expand : Option Expand) :
    KeepsTo W (offsetExpand id reportOff expand).run := by
  cases expand with
  | some expand => exact (keepsTo_expandOn h expand).bind fun _ => keepsTo_log _
  | none =>
    refine (keepsTo_expandOff h).bind fun _ => ?_
    split
    · exact keepsTo_log _
    · exact keepsTo_pure _

namespace RefrigeratorWiring

variable {w : RefrigeratorWiring}

lemma keepsTo_reading {instrument : Option String} {read : String → Driving Float}
    (h : ∀ id, instrument = some id → KeepsTo W (read id).run) :
    KeepsTo W (RefrigeratorWiring.reading instrument read).run := by
  cases instrument with
  | some id => exact (h id rfl).bind fun _ => keepsTo_pure _
  | none => exact keepsTo_pure _

lemma keepsTo_onGate {work : String → Driving Unit}
    (h : ∀ id, w.gate = some id → KeepsTo W (work id).run) : KeepsTo W (w.onGate work).run := by
  unfold onGate
  split
  · next hid => exact h _ hid
  · exact keepsTo_log _

lemma keepsTo_onMagnet {work : String → Driving α}
    (h : ∀ id, w.magnet = some id → KeepsTo W (work id).run) :
    KeepsTo W (w.onMagnet work).run := by
  unfold onMagnet
  split
  · next hid => exact h _ hid
  · exact keepsTo_throw nofun

lemma keepsTo_onCurrentSource {work : String → Driving α}
    (h : ∀ id, w.currentSource = some id → KeepsTo W (work id).run) :
    KeepsTo W (w.onCurrentSource work).run := by
  unfold onCurrentSource
  split
  · next hid => exact h _ hid
  · exact keepsTo_throw nofun

lemma keepsTo_readChannels (hlockins : ∀ id ∈ w.lockins, W id) (hbridge : W w.bridge)
    (hmagnet : ∀ id, w.magnet = some id → W id)
    (hmeter : ∀ id, w.resistanceMeter = some id → W id) (mode : Mode) :
    KeepsTo W (w.readChannels mode).run := by
  have hhall : KeepsTo W (RefrigeratorWiring.reading (if w.measureHall then some w.bridge else none)
      fun id => Bridge.ohms id hallChannel).run := by
    split
    · exact keepsTo_reading fun id hid => keepsTo_number (Option.some.inj hid ▸ hbridge)
    · exact keepsTo_pure _
  have hcommon : KeepsTo W w.readCommon.run :=
    (keepsTo_readLockins hlockins).bind fun _ =>
      (keepsTo_reading fun id hid => keepsTo_number (hmagnet id hid)).bind fun _ =>
        hhall.bind fun _ => keepsTo_pure _
  have hscan : KeepsTo W w.readScan.run := by
    refine (keepsTo_readScanned hbridge _).bind fun _ => ?_
    dsimp only
    split
    · exact (keepsTo_log _).bind fun _ => keepsTo_pure _
    · exact keepsTo_pure _
  have hparked : KeepsTo W w.readParked.run :=
    (keepsTo_readScanned hbridge _).bind fun _ =>
      (keepsTo_reading fun id hid => keepsTo_meterOhms (hmeter id hid)).bind fun _ => keepsTo_pure _
  refine hcommon.bind fun _ => ?_
  split
  · exact hscan.bind fun _ => keepsTo_pure _
  · exact hparked.bind fun _ => keepsTo_pure _

/-- Every action of a refrigerator keeps to the instruments of its wiring. -/
lemma keepsTo_perform (a : Action) :
    KeepsTo (Settings.Facility.refrigerator w).WiredTo (w.perform a).run := by
  have hlockins (id : String) (h : id ∈ w.lockins) :
      (Settings.Facility.refrigerator w).WiredTo id := .inl h
  have hbridge : (Settings.Facility.refrigerator w).WiredTo w.bridge := .inr (.inl rfl)
  have hmagnet (id : String) (h : w.magnet = some id) :
      (Settings.Facility.refrigerator w).WiredTo id := .inr (.inr (.inl h))
  have hgate (id : String) (h : w.gate = some id) :
      (Settings.Facility.refrigerator w).WiredTo id := .inr (.inr (.inr (.inl h)))
  have hmeter (id : String) (h : w.resistanceMeter = some id) :
      (Settings.Facility.refrigerator w).WiredTo id := .inr (.inr (.inr (.inr (.inl h))))
  have hsource (id : String) (h : w.currentSource = some id) :
      (Settings.Facility.refrigerator w).WiredTo id := .inr (.inr (.inr (.inr (.inr h))))
  cases a with
  | readChannels mode => exact keepsTo_readChannels hlockins hbridge hmagnet hmeter mode
  | lockinStatus => exact keepsTo_onLockin hlockins fun _ h => keepsTo_status h
  | rangeUp => exact keepsTo_onLockin hlockins fun _ h => keepsTo_rangeUp h
  | prepare mode =>
    cases mode with
    | autoscan => exact keepsTo_write hbridge
    | differential => exact keepsTo_onCurrentSource fun _ _ => keepsTo_pure _
    | continuous | stepped => exact keepsTo_pure _
  | setGateVoltage | setGateCurrent =>
    exact keepsTo_onGate fun id h =>
      (keepsTo_setLevel (hgate id h) _ _).bind fun _ => keepsTo_pure _
  | setGateOutput => exact keepsTo_onGate fun id h => keepsTo_write (hgate id h)
  | setTargetField => exact keepsTo_onMagnet fun id h => keepsTo_setTarget (hmagnet id h) _ _
  | magnetRamping =>
    exact keepsTo_onMagnet fun id h =>
      ((keepsTo_whole (hmagnet id h)).bind fun _ => keepsTo_pure _).bind fun _ => keepsTo_pure _
  | setTargetTemperature kelvin rate => exact keepsTo_setSetpoint hbridge kelvin (some rate)
  | temperatureRamping => exact (keepsTo_number hbridge).bind fun _ => keepsTo_pure _
  | setAmplitude => exact keepsTo_onLockin hlockins fun _ h => keepsTo_setAmplitude h _
  | setFrequency => exact keepsTo_onLockin hlockins fun _ h => keepsTo_setFrequency h _
  | setOffsetExpand => exact keepsTo_onLockin hlockins fun _ h => keepsTo_offsetExpand h _ _
  | selectChannel => exact keepsTo_write hbridge
  | stepExcitation =>
    exact (keepsTo_scanner hbridge).bind fun _ => keepsTo_stepSetting hbridge _ _ _ _
  | stepRange => exact keepsTo_stepSetting hbridge _ _ _ _
  | setHeater => exact keepsTo_write hbridge
  | armSweep => exact keepsTo_onCurrentSource fun id h => keepsTo_startSweep (hsource id h) _
  | sweepStatus =>
    exact keepsTo_onCurrentSource fun id h =>
      (keepsTo_whole (hsource id h)).bind fun _ => keepsTo_pure _
  | fetchTrace => exact keepsTo_onCurrentSource fun id h => keepsTo_trace (hsource id h)
  | abortSweep => exact keepsTo_onCurrentSource fun id h => keepsTo_write (hsource id h)

end RefrigeratorWiring

/-- So does every action of a cryogen-free system. -/
lemma CryogenFreeWiring.keepsTo_perform {w : CryogenFreeWiring} (a : Action) :
    KeepsTo (Settings.Facility.cryogenFree w).WiredTo (w.perform a).run := by
  have hlockins (id : String) (h : id ∈ w.lockins) :
      (Settings.Facility.cryogenFree w).WiredTo id := .inl h
  have hcontrol : (Settings.Facility.cryogenFree w).WiredTo w.control := .inr (.inl rfl)
  have hgate {work : String → Driving Unit}
      (h : ∀ id, (Settings.Facility.cryogenFree w).WiredTo id →
        KeepsTo (Settings.Facility.cryogenFree w).WiredTo (work id).run) :
      KeepsTo (Settings.Facility.cryogenFree w).WiredTo (w.onGate work).run := by
    unfold onGate
    split
    · next hid => exact h _ (.inr (.inr hid))
    · exact keepsTo_log _
  cases a with
  | readChannels =>
    exact (keepsTo_readLockins hlockins).bind fun _ => (keepsTo_number hcontrol).bind fun _ =>
      (keepsTo_number hcontrol).bind fun _ => keepsTo_pure _
  | lockinStatus => exact keepsTo_onLockin hlockins fun _ h => keepsTo_status h
  | rangeUp => exact keepsTo_onLockin hlockins fun _ h => keepsTo_rangeUp h
  | prepare mode =>
    cases mode with
    | continuous | stepped => exact keepsTo_pure _
    | autoscan | differential => exact keepsTo_throw nofun
  | setGateVoltage | setGateCurrent =>
    exact hgate fun _ h => (keepsTo_setLevel h _ _).bind fun _ => keepsTo_pure _
  | setGateOutput => exact hgate fun _ h => keepsTo_write h
  | setTargetField | setTargetTemperature => exact keepsTo_write hcontrol
  | magnetRamping | temperatureRamping =>
    exact ((keepsTo_query hcontrol).bind fun _ => keepsTo_pure _).bind fun _ => keepsTo_pure _
  | setAmplitude => exact keepsTo_onLockin hlockins fun _ h => keepsTo_setAmplitude h _
  | setFrequency => exact keepsTo_onLockin hlockins fun _ h => keepsTo_setFrequency h _
  | setOffsetExpand => exact keepsTo_onLockin hlockins fun _ h => keepsTo_offsetExpand h _ _
  | _ => exact keepsTo_throw nofun

/-- And so does every action of an insert. -/
lemma InsertWiring.keepsTo_perform {w : InsertWiring} (a : Action) :
    KeepsTo (Settings.Facility.insert w).WiredTo (w.perform a).run := by
  have hmultimeter : (Settings.Facility.insert w).WiredTo w.multimeter := .inl rfl
  have hcontroller : (Settings.Facility.insert w).WiredTo w.controller := .inr (.inl rfl)
  have hlockin : (Settings.Facility.insert w).WiredTo w.lockin := .inr (.inr rfl)
  have honLockin {α : Type} {index : Nat} {work : String → Driving α}
      (h : ∀ id, (Settings.Facility.insert w).WiredTo id →
        KeepsTo (Settings.Facility.insert w).WiredTo (work id).run) :
      KeepsTo (Settings.Facility.insert w).WiredTo (w.onLockin index work).run := by
    unfold onLockin
    split
    · exact h _ hlockin
    · exact keepsTo_throw nofun
  cases a with
  | readChannels =>
    exact (keepsTo_number hmultimeter).bind fun _ => (keepsTo_number hcontroller).bind fun _ =>
      (keepsTo_number hcontroller).bind fun _ => (keepsTo_snapshot hlockin).bind fun _ =>
        keepsTo_pure _
  | lockinStatus => exact honLockin fun _ h => keepsTo_status h
  | rangeUp => exact honLockin fun _ h => keepsTo_rangeUp h
  | prepare mode =>
    cases mode with
    | continuous | stepped => exact keepsTo_pure _
    | autoscan | differential => exact keepsTo_throw nofun
  | setAmplitude => exact honLockin fun _ h => keepsTo_setAmplitude h _
  | setFrequency => exact honLockin fun _ h => keepsTo_setFrequency h _
  | _ => exact keepsTo_throw nofun

end Site

namespace Settings.Facility

open CryoRig.Instrument

/-- Whatever a facility is asked to do, it sends commands only to the instruments that it is wired
to, and if these are found, no fault comes of it that says that one is missing. -/
theorem keepsTo_perform (f : Facility) (a : Action) : KeepsTo f.WiredTo (f.site.perform a) := by
  cases f with
  | refrigerator w => exact Site.RefrigeratorWiring.keepsTo_perform a
  | cryogenFree w => exact Site.CryogenFreeWiring.keepsTo_perform a
  | insert w => exact Site.InsertWiring.keepsTo_perform a

end Settings.Facility

end CryoRig
