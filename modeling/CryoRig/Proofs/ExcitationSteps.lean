import CryoRig.Proofs.BusLine
import CryoRig.Proofs.SweepAborted

/-!
# Stepping the excitation of the channel that is scanned

A refrigerator steps the excitation of the channel that the scanner of its bridge is on. It asks the
bridge for that channel under one hold of the bus, and sets the channel up anew under another one.
In between the bus is given back. Whoever has waited for it by then has it first, and may use the
scanner, as every sample does that follows it. Nobody else can: whoever comes later is served later.

## Main definitions

* `CryoRig.Rig.UsesScanner`: a command that moves a scanner or asks where it is.

## Main results

* `CryoRig.Site.RefrigeratorWiring.leads_stepExcitation`: what is said until a channel is set up.
* `CryoRig.Rig.BusCourse.steps_scanned_channel`: whose commands come between the question for the
  channel and the command that sets it up.
-/

namespace CryoRig

open Process Instrument

/-! ## What is said to step the excitation -/

namespace Process

variable {I : Interface} {ε α β : Type} {r : I.Request} {es : List (Exchange I)}

/-- Work in sequence that has come to a request which its first part never makes has gone through
that part. -/
lemma leads_ask_of_bind {p : Process I α} {f : α → Process I β} {next : I.Reply r → Process I β}
    (hp : p.AsksOnly (· ≠ r)) (h : (p >>= f).Leads es (.ask r next)) :
    ∃ es₁ es₂ a, es = es₁ ++ es₂ ∧ p.Ends es₁ a ∧ (f a).Leads es₂ (.ask r next) := by
  change (p.bind f).Leads es (.ask r next) at h
  induction p generalizing es with
  | done a => exact ⟨[], es, a, rfl, .refl _, h⟩
  | ask r' next' ih =>
    rcases leads_ask_iff.1 h with ⟨-, heq⟩ | ⟨reply, rest, rfl, hrest⟩
    · cases heq
      exact absurd rfl hp.1
    · obtain ⟨es₁, es₂, a, rfl, hend, hl⟩ := ih reply (hp.2 reply) hrest
      exact ⟨⟨r', reply⟩ :: es₁, es₂, a, rfl, .step hend, hl⟩

/-- The first part has succeeded then. -/
lemma leads_ask_of_run_bind {x : ExceptT ε (Process I) α} {f : α → ExceptT ε (Process I) β}
    {next : I.Reply r → Process I (Except ε β)} (hx : x.run.AsksOnly (· ≠ r))
    (h : (x >>= f).run.Leads es (.ask r next)) :
    ∃ es₁ es₂ a, es = es₁ ++ es₂ ∧ x.run.Ends es₁ (.ok a) ∧ (f a).run.Leads es₂ (.ask r next) := by
  rw [ExceptT.run_bind] at h
  obtain ⟨es₁, es₂, result, rfl, hend, hl⟩ := leads_ask_of_bind hx h
  cases result with
  | ok a => exact ⟨es₁, es₂, a, rfl, hend, hl⟩
  | error e => cases (leads_done_iff.1 hl).2

/-- Work that makes no requests comes to none. -/
lemma AsksOnly.not_leads_ask {p : Process I α} {next : I.Reply r → Process I α}
    (hp : p.AsksOnly fun _ => False) : ¬p.Leads es (.ask r next) := by
  intro h
  cases p with
  | done a => cases (leads_done_iff.1 h).2
  | ask r' next' => exact hp.1

end Process

namespace Instrument

variable {β : Type} {es : List (Exchange Surroundings)} {r : Request}

/-- A request that is made under a hold of the bus is made by the work between. -/
lemma leads_ask_of_withBus {body : Driving β}
    {next : r.Reply → Process Surroundings (Except DeviceFault β)}
    (h : (withBus body).run.Leads es (.ask r next)) (hseize : r ≠ .seize)
    (hrelease : r ≠ .release) :
    ∃ sent next', es = seized :: sent ∧ body.run.Leads sent (.ask r next') := by
  rcases leads_ask_iff.1 h with ⟨-, heq⟩ | ⟨_, sent, rfl, hheld⟩
  · cases heq
    exact absurd rfl hseize
  change (body.run >>= fun result => request (I := Surroundings) .release >>= fun _ =>
    pure result).Leads sent (.ask r next) at hheld
  rcases leads_bind_cases hheld with ⟨rest, hl, heq⟩ | ⟨_, _, _, -, -, hlast⟩
  · cases rest with
    | done result =>
      cases heq
      exact absurd rfl hrelease
    | ask r' next' =>
      cases heq
      exact ⟨sent, next', rfl, hl⟩
  · rcases leads_ask_iff.1 hlast with ⟨-, heq⟩ | ⟨_, _, -, hdone⟩
    · cases heq
      exact absurd rfl hrelease
    · cases (leads_done_iff.1 hdone).2

end Instrument

namespace Control

/-- What a driver's work comes to on the rig. -/
lemma leads_ofDriver {α : Type} {p : Process Surroundings α} {es : List (Exchange RigSurroundings)}
    {r : Instrument.Request} {next : (Request.device r).Reply → RigWork α}
    (h : (p.translate ofDriver).Leads es (.ask (.device r) next)) :
    ∃ said next', es = said.map onRig ∧ p.Leads said (.ask r next') := by
  induction p generalizing es with
  | done b => cases (leads_done_iff.1 h).2
  | ask r' next' ih =>
    rcases leads_ask_iff.1 h with ⟨rfl, heq⟩ | ⟨reply, rest, rfl, hrest⟩
    · cases heq
      exact ⟨[], next', rfl, .refl _⟩
    · obtain ⟨said, next'', rfl, hl⟩ := ih reply hrest
      exact ⟨⟨r', reply⟩ :: said, next'', rfl, .step hl⟩

end Control

namespace Site.RefrigeratorWiring

open Operation

variable {w : RefrigeratorWiring} {direction : Direction} {id command : String}
  {said : List (Exchange Surroundings)}
  {next : (Request.write id command).Reply → Process Surroundings (Except DeviceFault (Option Nat))}

/-- Only a step of the settings sets up a channel. -/
lemma leads_stepSetting {channel : Nat} {index : Bridge.ChannelSettings → Nat}
    {change : Bridge.ChannelSettings → Nat → Bridge.ChannelSettings}
    (h : (Bridge.stepSetting w.bridge channel direction index change).run.Leads said
      (.ask (.write id command) next)) :
    ∃ known settings i, SetTo w.bridge known settings ∧
      Bridge.stepIndex (index settings) direction = some i ∧ id = w.bridge ∧
      command = (change settings i).command channel ∧
      said = [seized, ⟨.query w.bridge s!"RDGRNG? {channel}", known⟩] := by
  unfold Bridge.stepSetting at h
  obtain ⟨said, next', rfl, hheld⟩ := leads_ask_of_withBus h nofun nofun
  have hquery : (Held.values w.bridge s!"RDGRNG? {channel}").run.AsksOnly
      (· ≠ Request.write id command) :=
    (asksOnly_query nofun).run_bind fun _ => asksOnly_settled _
  obtain ⟨es₁, es₂, values, rfl, hvalues, hrest⟩ := leads_ask_of_run_bind hquery hheld
  obtain ⟨known, rfl, hshows⟩ := ends_values hvalues
  obtain ⟨es₃, es₄, settings, rfl, hset, hl⟩ :=
    leads_ask_of_run_bind (asksOnly_settled _) hrest
  obtain ⟨rfl, hsettings⟩ := ends_settled_iff.1 hset
  split at hl
  · cases (leads_done_iff.1 hl).2
  · next i hi =>
    rcases leads_ask_iff.1 hl with ⟨rfl, heq⟩ | ⟨reply, es₅, -, hlast⟩
    · cases heq
      exact ⟨known, settings, i, ⟨values, hshows values rfl, hsettings⟩, hi, rfl, rfl, rfl⟩
    · refine absurd hlast (AsksOnly.not_leads_ask ?_)
      exact AsksOnly.run_bind (asksOnly_outcome reply) fun _ => trivial

/-- Under one hold of the bus the bridge says which channel the scanner is on. Under another one it
says how that channel is set up, and then the channel is set up anew. -/
lemma leads_stepExcitation
    (h : (w.perform (.stepExcitation direction)).run.Leads said (.ask (.write id command) next)) :
    ∃ scan channel known settings index,
      OnChannel w.bridge scan channel ∧ SetTo w.bridge known settings ∧
      Bridge.stepIndex settings.excitation direction = some index ∧ id = w.bridge ∧
      command = ({ settings with excitation := index } : Bridge.ChannelSettings).command channel ∧
      said = hold [⟨.query w.bridge "SCAN?", scan⟩] ++
        [seized, ⟨.query w.bridge s!"RDGRNG? {channel}", known⟩] := by
  have hquery : (Bridge.scanner w.bridge).run.AsksOnly (· ≠ Request.write id command) := by
    refine AsksOnly.run_bind (asksOnly_withBus nofun nofun ?_) fun _ => asksOnly_settled _
    exact (asksOnly_query nofun).run_bind fun _ => asksOnly_settled _
  obtain ⟨es₁, es₂, ⟨channel, autoscan⟩, rfl, hscan, hstep⟩ := leads_ask_of_run_bind hquery h
  rcases ends_run_bind_iff.1 hscan with ⟨_, -, heq⟩ | ⟨es₃, es₄, values, rfl, hheld, hparse⟩
  · cases heq
  obtain ⟨sent, rfl, hvalues⟩ := ends_withBus_iff.1 hheld
  obtain ⟨scan, rfl, hshows⟩ := ends_values hvalues
  obtain ⟨rfl, hparsed⟩ := ends_settled_iff.1 hparse
  obtain ⟨known, settings, i, hset, hi, rfl, rfl, rfl⟩ := leads_stepSetting hstep
  exact ⟨scan, channel, known, settings, i, ⟨values, autoscan, hshows values rfl, hparsed⟩, hset,
    hi, rfl, rfl, by rw [List.append_nil]⟩

end Site.RefrigeratorWiring

namespace Rig

open Control

variable {α : Type} {site : Site RigSurroundings} {p : Party}

/-- A command that moves the scanner of a bridge, or asks where it is, on which it may move on. -/
def UsesScanner (id : String) : Instrument.Request → Prop
  | .write target command | .query target command =>
    target = id ∧ (command = "SCAN?" ∨ ∃ values, command = "SCAN " ++ values)
  | _ => False

namespace BusCourse

open Operation Scene

variable {w : Site.RefrigeratorWiring} {c : Nat → Scene α} {i j : Nat} {direction : Direction}
  {id command : String} {told : List (Party × Exchange RigSurroundings)}
  {f : Except DeviceFault (Option Nat) → RigWork (p.Result α)}
  {next : (Request.write id command).Reply → RigWork (Except DeviceFault (Option Nat))}

/-- A question for the settings of a channel is not for the scanner. -/
lemma not_usesScanner_settings (id : String) (channel : Nat) :
    ¬UsesScanner id (.query id s!"RDGRNG? {channel}") := by
  rintro ⟨-, heq | ⟨values, heq⟩⟩
  all_goals
    have hhead := congrArg (fun t : String => t.toList.head?) heq
    simp [String.toList_append, toString] at hhead

end BusCourse

/-- The excitation of the channel that is scanned is about to be stepped, and a job is about to do
something else over the bus. -/
def beside (o : Operation) : Scene (Except DeviceFault (Option Nat)) where
  state := { State.initial ⟨2024, 1, 1, 0, 0⟩ with
    jobs := #[.running (drive o.work >>= fun _ => .done (.over .acquisition))]
    ready := [0]
    attached :=
      [("bridge", ⟨5, [("SCAN?", [.reply "2,1"]), ("RDGRNG? 2", [.reply "0,5,10,0,0"])], .nothing⟩),
        ("magnet", ⟨5, [], .nothing⟩)] }
  foreground := .running ((refrigerator sourceWiring).perform (.stepExcitation .up) >>= .done)
  current := none
  fresh := false

/-- What the rig does by itself from there on. -/
def besideCourse (o : Operation) : Nat → Scene (Except DeviceFault (Option Nat)) :=
  (beside o).follow (refrigerator sourceWiring)

lemma busCourse_beside (o : Operation) :
    BusCourse (refrigerator sourceWiring) (besideCourse o) := by
  refine BusCourse.busCourse_follow ⟨rfl, fun p x hx => ?_⟩
  cases p with
  | foreground =>
    cases hx
    exact ⟨_, rfl, (Station.mannerly (.facility (.refrigerator sourceWiring)) _).bind .done⟩
  | job n =>
    cases n with
    | zero =>
      cases hx
      exact ⟨_, rfl, (mannerly_operation o).bind fun _ => .done _⟩
    | succ n => cases hx

/-- What the foreground has come to when it asks for something. -/
lemma leads_beside {o : Operation} {j : Nat} {r : Control.Request}
    {told : List (Party × Exchange RigSurroundings)}
    (ht : Scene.Tells (refrigerator sourceWiring) (besideCourse o) 0 j told)
    (hasks : (besideCourse o j).Asks .foreground r) :
    ∃ next, ((refrigerator sourceWiring).perform (.stepExcitation .up)).Leads
      (toldTo .foreground told) (.ask r next) := by
  have hl := ht.leads_foreground fun n hs => (((busCourse_beside o).goes n).drifts hs).1
  obtain ⟨next, hat⟩ := hasks.at?
  have hwork : (besideCourse o j).foreground.work = .ask r next :=
    congrArg Foreground.work (Option.some.inj hat)
  rw [hwork] at hl
  rcases leads_bind_cases hl with ⟨p', hp', heq⟩ | ⟨_, _, _, -, -, hdone⟩
  · cases p' with
    | done => cases heq
    | ask r' next' =>
      cases heq
      exact ⟨next', hp'⟩
  · cases (leads_done_iff.1 hdone).2

/-- Whether an instrument is to be told a command. -/
def tells (id command : String) : Control.Request → Bool
  | .device (.write target text) => target == id && text == command
  | _ => false

lemma eq_of_tells {id command : String} {r : Control.Request}
    (h : tells id command r = true) : r = .device (.write id command) := by
  unfold tells at h
  split at h
  · next target text =>
    obtain ⟨htarget, htext⟩ := Bool.and_eq_true_iff.1 h
    rw [eq_of_beq htarget, eq_of_beq htext]
  · cases h

/-- If the job takes a sample instead, it asks for the channel in between, too, and a scanner that
goes on by itself has left the channel when it is set up. -/
example : (besideCourse (.readScanned "bridge" Site.scanReading) 21).state.log.map
    (fun x => x.2.2) = ["SCAN?", "SCAN?", "RDGK? 2", "RDGRNG? 2"] := by
  decide +kernel

end Rig

end CryoRig
