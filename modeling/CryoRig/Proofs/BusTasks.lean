import CryoRig.Proofs.Operations
import CryoRig.Proofs.ReadingWidth
import CryoRig.Proofs.StartedJobs
import CryoRig.Proofs.StopCalls

/-!
# Who uses the bus

Whatever runs on a rig, be it an acquisition, a program or a session, leaves the bus alone but for
what it does under one hold of it. All sites see to that: their actions are made of drivers' work,
and every driver takes the bus for a few commands and gives it back.

## Main definitions

* `CryoRig.Control.Mannerly`: work that leaves the bus alone but for what it does under one hold.

## Main results

* `CryoRig.Control.Station.mannerly`: all actions of whatever a rig has for a site are such work.
* `CryoRig.Control.turnOf_offBus`, `CryoRig.Control.calls_offBus`: jobs and the calls of a session
  leave the bus to the actions of their site.
* `CryoRig.Control.mannerly_turnOf`, `CryoRig.Control.mannerly_calls`: so they are such work.
-/

namespace CryoRig.Control

open Process Instrument

variable {α β : Type}

/-- A request that may be made with the bus: whoever has it does not take it. -/
def Request.UnderHold : Request → Prop
  | .device .seize | .device .release => False
  | _ => True

/-- Work under one hold of the bus, which is taken first and given back last. -/
def holdingBus (work : RigWork α) : RigWork α :=
  .ask (.device .seize) fun _ => work >>= fun result =>
    .ask (.device .release) fun _ => .done result

/-- Work that leaves the bus alone, but for what it does under one hold of it. -/
inductive Mannerly : RigWork α → Prop where
  /-- It is done. -/
  | done (a : α) : Mannerly (.done a)
  /-- It asks for something else. -/
  | aside {r : Request} {next : r.Reply → RigWork α} (hr : r.OffBus)
    (h : ∀ reply, Mannerly (next reply)) : Mannerly (.ask r next)
  /-- It does something under one hold of the bus. -/
  | held {β : Type} {work : RigWork β} {next : β → RigWork α}
    (hw : work.AsksOnly Request.UnderHold) (h : ∀ result, Mannerly (next result)) :
    Mannerly (holdingBus work >>= next)

lemma Mannerly.bind {w : RigWork α} {f : α → RigWork β} (hw : Mannerly w)
    (hf : ∀ a, Mannerly (f a)) : Mannerly (w >>= f) := by
  induction hw with
  | done a => exact hf a
  | aside hr _ ih => exact .aside hr ih
  | held hw _ ih =>
    rw [LawfulMonad.bind_assoc]
    exact .held hw ih

/-! ## Drivers -/

section Drivers

variable {work : Driving α} {f : α → Driving β} {id command : String}

lemma drive_withBus (body : Driving α) :
    drive (withBus body) = holdingBus (body.run.translate ofDriver) := by
  have hrest : (body.run >>= fun result => request (I := Surroundings) .release >>= fun _ =>
      pure result).translate ofDriver = body.run.translate ofDriver >>= fun result =>
        (.ask (.device .release) fun _ => .done result : RigWork _) := translate_bind ..
  rw [holdingBus, ← hrest]
  rfl

lemma underHold_of_isCommand {p : Process Surroundings α} (h : p.AsksOnly Request.IsCommand) :
    (p.translate ofDriver).AsksOnly Request.UnderHold := by
  induction p with
  | done a => trivial
  | ask r next ih =>
    cases r with
    | write | query => exact ⟨trivial, fun reply => ih reply (h.2 reply)⟩
    | seize | release | sleep | log => exact h.1.elim

lemma Mannerly.of_undivided (h : Undivided work) : Mannerly (drive work) := by
  obtain ⟨body, rfl, hbody⟩ := h
  rw [drive_withBus, ← bind_pure (holdingBus _)]
  exact .held (underHold_of_isCommand hbody) .done

lemma mannerly_drive_pure (a : α) : Mannerly (drive (pure a : Driving α)) := .done _

lemma mannerly_drive_throw (fault : DeviceFault) : Mannerly (drive (throw fault : Driving α)) :=
  .done _

lemma mannerly_drive_settled (result : Except DeviceFault α) : Mannerly (drive (settled result)) :=
  .done _

/-- Drivers' work in sequence. -/
lemma Mannerly.drive_bind (hw : Mannerly (drive work)) (hf : ∀ a, Mannerly (drive (f a))) :
    Mannerly (drive (work >>= f)) := by
  have htranslate (g : Except DeviceFault α → Process Surroundings (Except DeviceFault β)) :
      (work.run >>= g).translate ofDriver = drive work >>= fun result =>
        (g result).translate ofDriver := translate_bind ..
  rw [drive, ExceptT.run_bind, htranslate]
  refine hw.bind fun result => ?_
  cases result with
  | ok a => exact hf a
  | error fault => exact .done _

lemma mannerly_log (event : Event) : Mannerly (drive (Instrument.log event)) :=
  .aside trivial fun _ => .done _

lemma mannerly_sleep (span : Duration) : Mannerly (drive (Instrument.sleep span)) :=
  .aside trivial fun _ => .done _

lemma mannerly_write : Mannerly (drive (Instrument.write id command)) :=
  .of_undivided (undivided_withBus write_isCommand)

lemma mannerly_query : Mannerly (drive (Instrument.query id command)) :=
  .of_undivided (undivided_withBus query_isCommand)

lemma mannerly_values : Mannerly (drive (Instrument.values id command)) :=
  .of_undivided (undivided_withBus values_isCommand)

lemma mannerly_number : Mannerly (drive (Instrument.number id command)) :=
  mannerly_values.drive_bind fun _ => mannerly_drive_pure _

lemma mannerly_whole {limit : Nat} : Mannerly (drive (Instrument.whole id command limit)) :=
  mannerly_query.drive_bind fun _ => mannerly_drive_settled _

lemma mannerly_operation (o : Operation) : Mannerly (drive o.work) := .of_undivided o.undivided

/-! ### Lock-ins -/

lemma mannerly_signal : Mannerly (drive (Lockin.signal id)) := by
  refine mannerly_values.drive_bind fun values => ?_
  split
  · exact mannerly_drive_pure _
  · exact mannerly_drive_throw _

lemma mannerly_snapshot : Mannerly (drive (Lockin.snapshot id)) := by
  refine mannerly_values.drive_bind fun values => ?_
  split
  · exact mannerly_drive_pure _
  · exact mannerly_drive_throw _

lemma mannerly_status : Mannerly (drive (Lockin.status id)) :=
  mannerly_whole.drive_bind fun _ => mannerly_drive_pure _

lemma mannerly_rangeUp : Mannerly (drive (Lockin.rangeUp id)) := by
  refine mannerly_whole.drive_bind fun current => ?_
  split
  · exact mannerly_drive_pure _
  · exact mannerly_write.drive_bind fun _ => mannerly_drive_pure _

lemma mannerly_setAmplitude {volts : Float} : Mannerly (drive (Lockin.setAmplitude id volts)) := by
  unfold Lockin.setAmplitude
  split
  · exact mannerly_write
  · exact mannerly_drive_throw _

lemma mannerly_setFrequency {hertz : Float} : Mannerly (drive (Lockin.setFrequency id hertz)) := by
  unfold Lockin.setFrequency
  split
  · exact mannerly_write
  · exact mannerly_drive_throw _

/-! ### Other instruments -/

lemma mannerly_setSetpoint (id : String) (kelvin : Float) (rate : Option Float) :
    Mannerly (drive (Bridge.setSetpoint id kelvin rate)) :=
  mannerly_write.drive_bind fun _ => (mannerly_sleep _).drive_bind fun _ => mannerly_write

lemma mannerly_setLevel {wanted : SourceFunction} {level : Float} :
    Mannerly (drive (Gate.setLevel id wanted level)) := by
  refine (mannerly_query.drive_bind fun _ => mannerly_drive_pure _).drive_bind fun actual => ?_
  split
  · exact mannerly_write.drive_bind fun _ => mannerly_drive_pure _
  · exact (mannerly_log _).drive_bind fun _ => mannerly_drive_pure _

lemma mannerly_startSweep {plan : DeltaPlan} :
    Mannerly (drive (CurrentSource.startSweep id plan)) := by
  have hsetup (commands : List String) : Mannerly (drive (CurrentSource.writeAll id commands)) := by
    induction commands with
    | nil => exact mannerly_drive_pure _
    | cons command rest ih => exact mannerly_write.drive_bind fun _ => ih
  have htrigger (attempts : Nat) : Mannerly (drive (CurrentSource.trigger id attempts)) := by
    induction attempts with
    | zero => exact mannerly_drive_throw _
    | succ attempts ih =>
      refine mannerly_query.drive_bind fun reply => ?_
      split
      · exact mannerly_write
      · exact (mannerly_sleep _).drive_bind fun _ => ih
  exact (hsetup _).drive_bind fun _ => htrigger _

lemma mannerly_trace : Mannerly (drive (CurrentSource.trace id)) := by
  refine mannerly_number.drive_bind fun zeroVoltage => mannerly_values.drive_bind fun values => ?_
  split
  · exact mannerly_drive_pure _
  · exact mannerly_drive_throw _

lemma mannerly_ohms : Mannerly (drive (ResistanceMeter.ohms id)) := by
  refine mannerly_values.drive_bind fun values => ?_
  split
  · exact mannerly_drive_pure _
  · exact mannerly_drive_throw _

end Drivers

/-! ## Sites -/

section Sites

open Site

lemma mannerly_readLockins (ids : List String) : Mannerly (drive (readLockins ids)) := by
  have hslots (places : Nat) : ∀ ids, Mannerly (drive (readSlots places ids)) := by
    induction places with
    | zero => exact fun _ => mannerly_drive_pure _
    | succ places ih =>
      intro ids
      cases ids with
      | nil => exact (ih []).drive_bind fun _ => mannerly_drive_pure _
      | cons id ids =>
        exact mannerly_signal.drive_bind fun _ => (ih ids).drive_bind fun _ => mannerly_drive_pure _
  exact hslots _ ids

lemma mannerly_onLockin {site : String} {ids : List String} {index : Nat}
    {work : String → Driving α} (h : ∀ id, Mannerly (drive (work id))) :
    Mannerly (drive (onLockin site ids index work)) := by
  unfold onLockin
  split
  · exact h _
  · exact mannerly_drive_throw _

lemma mannerly_offsetExpand (id : String) (reportOff : Bool) (expand : Option Expand) :
    Mannerly (drive (offsetExpand id reportOff expand)) := by
  cases expand with
  | some expand =>
    exact (mannerly_operation (.expandOn id expand)).drive_bind fun _ => mannerly_log _
  | none =>
    refine mannerly_write.drive_bind fun _ => ?_
    split
    · exact mannerly_log _
    · exact mannerly_drive_pure _

namespace Refrigerator

variable (w : RefrigeratorWiring)

lemma mannerly_reading {instrument : Option String} {read : String → Driving Float}
    (h : ∀ id, Mannerly (drive (read id))) :
    Mannerly (drive (RefrigeratorWiring.reading instrument read)) := by
  cases instrument with
  | some id => exact (h id).drive_bind fun _ => mannerly_drive_pure _
  | none => exact mannerly_drive_pure _

lemma mannerly_readChannels (mode : Mode) : Mannerly (drive (w.readChannels mode)) := by
  have hcommon : Mannerly (drive w.readCommon) := by
    refine (mannerly_readLockins _).drive_bind fun _ => ?_
    refine (mannerly_reading fun _ => mannerly_number).drive_bind fun _ => ?_
    exact (mannerly_reading fun _ => mannerly_number).drive_bind fun _ => mannerly_drive_pure _
  have hscan : Mannerly (drive w.readScan) := by
    refine (mannerly_operation (.readScanned _ _)).drive_bind fun _ => ?_
    dsimp only
    split
    · exact (mannerly_log _).drive_bind fun _ => mannerly_drive_pure _
    · exact mannerly_drive_pure _
  have hparked : Mannerly (drive w.readParked) := by
    refine (mannerly_operation (.readScanned _ _)).drive_bind fun _ => ?_
    exact (mannerly_reading fun _ => mannerly_ohms).drive_bind fun _ => mannerly_drive_pure _
  refine hcommon.drive_bind fun _ => ?_
  split
  · exact hscan.drive_bind fun _ => mannerly_drive_pure _
  · exact hparked.drive_bind fun _ => mannerly_drive_pure _

lemma mannerly_onGate {work : String → Driving Unit} (h : ∀ id, Mannerly (drive (work id))) :
    Mannerly (drive (w.onGate work)) := by
  unfold RefrigeratorWiring.onGate
  split
  · exact h _
  · exact mannerly_log _

lemma mannerly_onMagnet {work : String → Driving α} (h : ∀ id, Mannerly (drive (work id))) :
    Mannerly (drive (w.onMagnet work)) := by
  unfold RefrigeratorWiring.onMagnet
  split
  · exact h _
  · exact mannerly_drive_throw _

lemma mannerly_onCurrentSource {work : String → Driving α}
    (h : ∀ id, Mannerly (drive (work id))) : Mannerly (drive (w.onCurrentSource work)) := by
  unfold RefrigeratorWiring.onCurrentSource
  split
  · exact h _
  · exact mannerly_drive_throw _

/-- All actions of a refrigerator are made of drivers' work. -/
lemma mannerly_perform (a : Action) : Mannerly (drive (w.perform a)) := by
  cases a with
  | readChannels mode => exact mannerly_readChannels w mode
  | lockinStatus => exact mannerly_onLockin fun _ => mannerly_status
  | rangeUp => exact mannerly_onLockin fun _ => mannerly_rangeUp
  | prepare mode =>
    cases mode with
    | autoscan => exact mannerly_write
    | differential => exact mannerly_onCurrentSource w fun _ => mannerly_drive_pure _
    | continuous | stepped => exact mannerly_drive_pure _
  | setGateVoltage | setGateCurrent =>
    exact mannerly_onGate w fun _ => mannerly_setLevel.drive_bind fun _ => mannerly_drive_pure _
  | setGateOutput => exact mannerly_onGate w fun _ => mannerly_write
  | setTargetField tesla rate =>
    exact mannerly_onMagnet w fun id => mannerly_operation (.setTarget id tesla rate)
  | magnetRamping =>
    exact mannerly_onMagnet w fun _ =>
      (mannerly_whole.drive_bind fun _ => mannerly_drive_pure _).drive_bind fun _ =>
        mannerly_drive_pure _
  | setTargetTemperature kelvin rate => exact mannerly_setSetpoint w.bridge kelvin (some rate)
  | temperatureRamping => exact mannerly_number.drive_bind fun _ => mannerly_drive_pure _
  | setAmplitude => exact mannerly_onLockin fun _ => mannerly_setAmplitude
  | setFrequency => exact mannerly_onLockin fun _ => mannerly_setFrequency
  | setOffsetExpand => exact mannerly_onLockin fun _ => mannerly_offsetExpand _ _ _
  | selectChannel => exact mannerly_write
  | stepExcitation direction =>
    refine (mannerly_values.drive_bind fun _ => mannerly_drive_settled _).drive_bind fun scan => ?_
    exact mannerly_operation (.stepExcitation _ scan.1 direction)
  | stepRange channel direction => exact mannerly_operation (.stepRange _ channel direction)
  | setHeater => exact mannerly_write
  | armSweep => exact mannerly_onCurrentSource w fun _ => mannerly_startSweep
  | sweepStatus =>
    exact mannerly_onCurrentSource w fun _ => mannerly_whole.drive_bind fun _ =>
      mannerly_drive_pure _
  | fetchTrace => exact mannerly_onCurrentSource w fun _ => mannerly_trace
  | abortSweep => exact mannerly_onCurrentSource w fun _ => mannerly_write

end Refrigerator

/-- All actions of a cryogen-free system are made of drivers' work. -/
lemma mannerly_cryogenFree (w : CryogenFreeWiring) (a : Action) :
    Mannerly (drive (w.perform a)) := by
  have hgate {work : String → Driving Unit} (h : ∀ id, Mannerly (drive (work id))) :
      Mannerly (drive (w.onGate work)) := by
    unfold CryogenFreeWiring.onGate
    split
    · exact h _
    · exact mannerly_log _
  cases a with
  | readChannels =>
    refine (mannerly_readLockins _).drive_bind fun _ => mannerly_number.drive_bind fun _ => ?_
    exact mannerly_number.drive_bind fun _ => mannerly_drive_pure _
  | lockinStatus => exact mannerly_onLockin fun _ => mannerly_status
  | rangeUp => exact mannerly_onLockin fun _ => mannerly_rangeUp
  | prepare mode =>
    cases mode with
    | continuous | stepped => exact mannerly_drive_pure _
    | autoscan | differential => exact mannerly_drive_throw _
  | setGateVoltage | setGateCurrent =>
    exact hgate fun _ => mannerly_setLevel.drive_bind fun _ => mannerly_drive_pure _
  | setGateOutput => exact hgate fun _ => mannerly_write
  | setTargetField | setTargetTemperature => exact mannerly_write
  | magnetRamping | temperatureRamping =>
    exact (mannerly_query.drive_bind fun _ => mannerly_drive_pure _).drive_bind fun _ =>
      mannerly_drive_pure _
  | setAmplitude => exact mannerly_onLockin fun _ => mannerly_setAmplitude
  | setFrequency => exact mannerly_onLockin fun _ => mannerly_setFrequency
  | setOffsetExpand => exact mannerly_onLockin fun _ => mannerly_offsetExpand _ _ _
  | _ => exact mannerly_drive_throw _

/-- All actions of an insert are made of drivers' work. -/
lemma mannerly_insert (w : InsertWiring) (a : Action) : Mannerly (drive (w.perform a)) := by
  have hlockin {α : Type} {index : Nat} {work : String → Driving α}
      (h : ∀ id, Mannerly (drive (work id))) : Mannerly (drive (w.onLockin index work)) := by
    unfold InsertWiring.onLockin
    split
    · exact h _
    · exact mannerly_drive_throw _
  cases a with
  | readChannels =>
    refine mannerly_number.drive_bind fun _ => mannerly_number.drive_bind fun _ => ?_
    refine mannerly_number.drive_bind fun _ => mannerly_snapshot.drive_bind fun _ => ?_
    exact mannerly_drive_pure _
  | lockinStatus => exact hlockin fun _ => mannerly_status
  | rangeUp => exact hlockin fun _ => mannerly_rangeUp
  | prepare mode =>
    cases mode with
    | continuous | stepped => exact mannerly_drive_pure _
    | autoscan | differential => exact mannerly_drive_throw _
  | setAmplitude => exact hlockin fun _ => mannerly_setAmplitude
  | setFrequency => exact hlockin fun _ => mannerly_setFrequency
  | _ => exact mannerly_drive_throw _

/-- Whatever a rig has for a site, its actions leave the bus alone but for what they do under one
hold of it. -/
theorem Station.mannerly (s : Station) (a : Action) : Mannerly (s.site.perform a) := by
  cases s with
  | facility f =>
    cases f with
    | refrigerator w => exact Refrigerator.mannerly_perform w a
    | cryogenFree w => exact mannerly_cryogenFree w a
    | insert w => exact mannerly_insert w a
  | bench => exact .aside trivial fun _ => .done _

end Sites

/-! ## Jobs and sessions -/

section Work

variable {site : Site RigSurroundings}

/-- Work on a site that sees to its manners. -/
lemma mannerly_carryOut (hs : ∀ a, Mannerly (site.perform a)) {w : Working α}
    (h : w.AsksOnly (WorkRequest.Asks Request.OffBus)) : Mannerly (carryOut site w) := by
  change Mannerly (w.translate (ofWork site))
  induction w with
  | done a => exact .done a
  | ask r next ih =>
    cases r with
    | rig r => exact .aside h.1 fun reply => ih reply (h.2 reply)
    | act a => exact (hs a).bind fun reply => ih reply (h.2 reply)

lemma offBus_of_plain {w : Working α} (h : w.AsksOnly WorkRequest.Plain) :
    w.AsksOnly (WorkRequest.Asks Request.OffBus) := h.mono fun _ hq => hq.asks.2

/-- The next turn of a job, whichever it is, is such work. -/
lemma turnOf_offBus (site : Site RigSurroundings) (job : Job) :
    ∃ w : Working (Turn Job Ending), w.AsksOnly (WorkRequest.Asks Request.OffBus) ∧
      Rig.turnOf site job = carryOut site w := by
  refine ⟨_, ?_, rfl⟩
  cases job with
  | program run =>
    exact (ProgramRun.turn_acquires.mono fun _ => SpawnsOnly.offBus).bind fun _ => trivial
  | ticking state => exact (offBus_of_plain Ticking.turn_yields.asksOnly).bind fun _ => trivial
  | supervision state =>
    exact (offBus_of_plain Supervision.turn_yields.asksOnly).bind fun _ => trivial

lemma mannerly_turnOf (hs : ∀ a, Mannerly (site.perform a)) (job : Job) :
    Mannerly (Rig.turnOf site job) := by
  obtain ⟨w, hw, hturn⟩ := turnOf_offBus site job
  rw [hturn]
  exact mannerly_carryOut hs hw

lemma check_offBus (console : Nat) (text : String) :
    (Session.check console text).run.AsksOnly (WorkRequest.Asks Request.OffBus) :=
  (Rig.check_glance console text).mono fun _ => Rig.Glance.offBus

lemma start_offBus (s : SessionSettings) (text : String) :
    (Session.start s text).run.AsksOnly (WorkRequest.Asks Request.OffBus) := by
  have hactive : Session.programActive.AsksOnly (WorkRequest.Asks Request.OffBus) := by
    refine AsksOnly.bind (asksOnly_request.2 trivial) fun job? => ?_
    cases job? with
    | none => trivial
    | some job => exact AsksOnly.bind (asksOnly_request.2 trivial) fun _ => trivial
  have hdesk : (Session.startAtDesk s text).run.AsksOnly (WorkRequest.Asks Request.OffBus) := by
    refine hactive.run_lift.run_bind fun active => ?_
    cases active with
    | true => trivial
    | false =>
      refine (check_offBus _ _).run_bind fun _ => ?_
      refine AsksOnly.run_bind (asksOnly_request.2 trivial).run_lift fun _ => ?_
      refine AsksOnly.run_bind (asksOnly_request.2 trivial).run_lift fun _ => ?_
      refine AsksOnly.run_bind (asksOnly_request.2 trivial).run_lift fun _ => ?_
      refine AsksOnly.run_bind (asksOnly_request.2 trivial).run_lift fun _ => ?_
      exact (offBus_of_plain (log_plain _)).run_lift
  refine AsksOnly.bind (asksOnly_request.2 trivial) fun free => ?_
  cases free with
  | false => trivial
  | true => exact hdesk.bind fun _ => AsksOnly.bind (asksOnly_request.2 trivial) fun _ => trivial

lemma wait_offBus : Session.wait.run.AsksOnly (WorkRequest.Asks Request.OffBus) := by
  refine AsksOnly.bind (asksOnly_request.2 trivial) fun _ => ?_
  refine AsksOnly.bind (asksOnly_request.2 trivial) fun job? => ?_
  cases job? with
  | none => exact AsksOnly.bind (asksOnly_request.2 trivial) fun _ => trivial
  | some job =>
    refine AsksOnly.bind (asksOnly_request.2 trivial) fun _ => ?_
    refine AsksOnly.bind (asksOnly_request.2 trivial) fun _ => ?_
    exact AsksOnly.bind (asksOnly_request.2 trivial) fun _ => trivial

lemma stop_offBus (s : SessionSettings) :
    (Session.stop s).AsksOnly (WorkRequest.Asks Request.OffBus) := by
  have hlog (event : Event) : (log event).AsksOnly (WorkRequest.Asks Request.OffBus) :=
    offBus_of_plain (log_plain event)
  have hprogram (limit : Option Instant) :
      (Session.stopProgram limit).AsksOnly (WorkRequest.Asks Request.OffBus) := by
    refine AsksOnly.bind (asksOnly_request.2 trivial) fun taken => ?_
    cases taken with
    | false => trivial
    | true =>
      refine AsksOnly.bind (asksOnly_request.2 trivial) fun job? => ?_
      refine AsksOnly.bind (asksOnly_request.2 trivial) fun _ => ?_
      cases job? with
      | none =>
        refine AsksOnly.bind (asksOnly_pure true) fun _ => ?_
        exact AsksOnly.bind (asksOnly_request.2 trivial) fun _ => trivial
      | some job =>
        refine AsksOnly.bind (asksOnly_request.2 trivial) fun _ => ?_
        refine AsksOnly.bind (asksOnly_pure _) fun _ => ?_
        exact AsksOnly.bind (asksOnly_request.2 trivial) fun _ => trivial
  refine AsksOnly.bind (asksOnly_request.2 trivial) fun token => ?_
  refine AsksOnly.bind (asksOnly_request.2 trivial) fun _ => (hlog _).bind fun _ => ?_
  refine (offBus_of_plain now_plain).bind fun now => (hprogram _).bind fun inTime => ?_
  cases inTime
  case' false => refine (hlog _).bind fun _ => ?_
  all_goals
    refine AsksOnly.bind (asksOnly_request.2 trivial) fun a? => ?_
    refine AsksOnly.bind (asksOnly_request.2 trivial) fun _ => ?_
    cases a? with
    | none => exact hlog _
    | some a =>
      refine (hlog _).bind fun _ => AsksOnly.bind ?_ fun _ => hlog _
      exact (stop_spawns (P := fun _ => True) a _).mono fun _ => SpawnsOnly.offBus

/-- So is any sequence of calls of a session. -/
lemma calls_offBus {s : SessionSettings} (client : Process Rig.Calls α) :
    (client.translate (Rig.Call.serve s)).AsksOnly (WorkRequest.Asks Request.OffBus) := by
  induction client with
  | done a => trivial
  | ask c next ih =>
    refine AsksOnly.bind ?_ ih
    cases c with
    | check text => exact check_offBus _ _
    | start text => exact start_offBus s text
    | wait => exact wait_offBus
    | stop => exact stop_offBus s
    | rest span => exact asksOnly_request.2 trivial

lemma mannerly_calls (hs : ∀ a, Mannerly (site.perform a)) {s : SessionSettings}
    (client : Process Rig.Calls α) :
    Mannerly (carryOut site (client.translate (Rig.Call.serve s))) :=
  mannerly_carryOut hs (calls_offBus client)

end Work

end CryoRig.Control
