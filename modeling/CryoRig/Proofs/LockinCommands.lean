import CryoRig.Proofs.Operations
import CryoRig.Settings.Rig

/-!
# What lock-ins are told

A lock-in is told the amplitude and the frequency of its output, and its sensitivity range, by
commands of three kinds. Whatever a facility is asked to do, it sends such a command only within
what a lock-in can do: the amplitude and the frequency lie within its bounds, and a range is the one
after the range that the lock-in has just reported. All other commands begin in another way.

## Main definitions

* `CryoRig.Process.AsksAfter`: what a process asks for suits what it was told before.
* `CryoRig.Instrument.Unreserved`: commands of no such kind.
* `CryoRig.Instrument.Permitted`: what may be sent after what was said before.
* `CryoRig.Instrument.Heeds`: work that sends nothing else.

## Main results

* `CryoRig.Instrument.Lockin.heeds_setAmplitude`, `CryoRig.Instrument.Lockin.heeds_setFrequency`,
  `CryoRig.Instrument.Lockin.heeds_rangeUp`: the work that sends these commands.
* `CryoRig.Settings.Facility.heeds_perform`: all actions of a facility.
* `CryoRig.Settings.Facility.perform_of_excessive`: what is out of bounds is refused.
-/

namespace CryoRig

namespace Process

variable {I : Interface} {α β ε : Type} {P : List (Exchange I) → I.Request → Prop}
  {es es' : List (Exchange I)}

/-- Whatever a process asks for suits what it was told before that, some exchanges having gone
before. -/
def AsksAfter (P : List (Exchange I) → I.Request → Prop) : List (Exchange I) → Process I α → Prop
  | _, done _ => True
  | es, ask r next => P es r ∧ ∀ reply, AsksAfter P (es ++ [⟨r, reply⟩]) (next reply)

lemma AsksAfter.of_leads {p q : Process I α} (hp : p.AsksAfter P es) (h : p.Leads es' q) :
    q.AsksAfter P (es ++ es') := by
  induction h generalizing es with
  | refl => simpa using hp
  | step _ ih => simpa using ih (hp.2 _)

/-- In sequence, what comes after depends on what was said until then. -/
lemma AsksAfter.bind {p : Process I α} {f : α → Process I β} (hp : p.AsksAfter P es)
    (hf : ∀ es' a, p.Ends es' a → (f a).AsksAfter P (es ++ es')) : (p >>= f).AsksAfter P es := by
  change (p.bind f).AsksAfter P es
  induction p generalizing es with
  | done a =>
    have hdone := hf [] a (.refl _)
    rwa [List.append_nil] at hdone
  | ask r next ih =>
    refine ⟨hp.1, fun reply => ih reply (hp.2 reply) fun es' a ha => ?_⟩
    simpa using hf (⟨r, reply⟩ :: es') a (.step ha)

/-- What is asked for suits anything that was told before. -/
lemma AsksOnly.asksAfter {R : I.Request → Prop} {p : Process I α} (hp : p.AsksOnly R)
    (hR : ∀ r, R r → ∀ es, P es r) : p.AsksAfter P es := by
  induction p generalizing es with
  | done => trivial
  | ask r next ih => exact ⟨hR r hp.1 es, fun reply => ih reply (hp.2 reply)⟩

end Process

namespace Instrument

open Process

variable {α β : Type} {id command head tail : String}

/-! ## Commands -/

/-- A command begins with given characters. -/
def StartsWith (head command : String) : Prop := head.toList <+: command.toList

/-- How the commands begin that tell a lock-in something of its output and its range. -/
@[simp] def lockinHeads : List String := ["SLVL", "FREQ", "SENS"]

/-- How all other commands begin. -/
@[simp] def otherHeads : List String :=
  ["SNAP? 3,4", "SNAP? 1,2,3,4", "LIAS?", "AOFF 3", "OEXP? 3", "OEXP 3,", "OEXP 3,0,0", "SCAN?",
    "SCAN ", "RDGK? ", "RDGR? ", "RDGRNG? ", "RDGRNG ", "RAMP 1,", "RAMP 0,0", "RAMPST?", "SETP ",
    "MOUT ", "FIELD:MAG?", "STATE?", "CONFIGURE:RAMP:RATE:FIELD 1,", "CONFIGURE:FIELD:TARGET ",
    ":SOUR:FUNC?", ":SOURCE:LEVEL ", ":OUTP 1", ":OUTP 0", "*RST", "UNIT OHMS", "SOUR:DCON:STAR ",
    "SOUR:DCON:STOP ", "SOUR:DCON:STEP ", "SOUR:DCON:DELT ", "SOUR:DCON:DEL 50e-3",
    "SOUR:DCON:CAB OFF", "TRAC:POIN ", "SOUR:DCON:ARM", "SOUR:DCON:ARM?", "INIT:IMM",
    "STAT:OPER:COND?", "SOUR:DCON:NVZ?", "TRAC:DATA?", "SOUR:SWE:ABOR", "KRDG? A", "KRDG? B",
    ":DATA?", ":READ?", "READ? BA", "READ? TB", "SET B", "SET T", "STAB? B", "STAB? TB"]

/-- A command that tells a lock-in nothing of its output and its range. -/
def Unreserved (command : String) : Prop :=
  4 ≤ command.toList.length ∧ command.toList.take 4 ∉ lockinHeads.map String.toList

instance : Decidable (Unreserved command) := inferInstanceAs (Decidable (_ ∧ _))

lemma unreserved_of_mem (h : command ∈ otherHeads) : Unreserved command := by
  have hall : ∀ command ∈ otherHeads, Unreserved command := by decide +kernel
  exact hall command h

lemma Unreserved.append (h : Unreserved head) : Unreserved (head ++ tail) := by
  refine ⟨?_, ?_⟩
  · rw [String.toList_append, List.length_append]
    exact Nat.le_add_right_of_le h.1
  · rw [String.toList_append, List.take_append_of_le_length h.1]
    exact h.2

/-- A command with more than its beginning. -/
lemma unreserved_append (h : head ∈ otherHeads) : Unreserved (head ++ tail) :=
  (unreserved_of_mem h).append

lemma length_of_mem_lockinHeads (h : head ∈ lockinHeads) : head.toList.length = 4 := by
  have hall : ∀ head ∈ lockinHeads, head.toList.length = 4 := by decide +kernel
  exact hall head h

lemma take_of_startsWith (h : StartsWith head command) (hh : head ∈ lockinHeads) :
    command.toList.take 4 = head.toList := by
  rw [← length_of_mem_lockinHeads hh]
  exact (List.prefix_iff_eq_take.1 h).symm

lemma Unreserved.not_startsWith (h : Unreserved command) (hh : head ∈ lockinHeads) :
    ¬StartsWith head command := by
  intro hstart
  refine h.2 ?_
  rw [take_of_startsWith hstart hh]
  exact List.mem_map_of_mem (f := String.toList) hh

/-- A command of one of these kinds is not of another one. -/
lemma not_startsWith {other : String} (hh : head ∈ lockinHeads)
    (ho : other ∈ ["SLVL ", "FREQ ", "SENS "]) (hne : other ≠ head ++ " ") :
    ¬StartsWith head (other ++ tail) := by
  have hall : ∀ head ∈ lockinHeads, ∀ other ∈ ["SLVL ", "FREQ ", "SENS "],
      4 ≤ other.toList.length ∧ (other.toList.take 4 = head.toList → other = head ++ " ") := by
    decide +kernel
  intro hstart
  have htake := take_of_startsWith hstart hh
  rw [String.toList_append, List.take_append_of_le_length (hall head hh other ho).1] at htake
  exact hne ((hall head hh other ho).2 htake)

/-! ## What may be sent -/

/-- What a lock-in answers when it is asked for its range. -/
def rangeReported (id text : String) : Exchange Surroundings :=
  ⟨.query id "SENS?", (some (.ok text) : Option (Except DeviceFault String))⟩

/-- An amplitude that a lock-in can put out, in volts. -/
def AmplitudeInRange (volts : Float) : Prop := 0.004 ≤ volts ∧ volts ≤ 5

/-- A frequency that a lock-in can put out, in hertz. -/
def FrequencyInRange (hertz : Float) : Prop := 0.001 ≤ hertz ∧ hertz ≤ 102000

instance (volts : Float) : Decidable (AmplitudeInRange volts) :=
  inferInstanceAs (Decidable (_ ∧ _))

instance (hertz : Float) : Decidable (FrequencyInRange hertz) :=
  inferInstanceAs (Decidable (_ ∧ _))

/-- A command sets an amplitude, if any, to what a lock-in can put out. -/
def AmplitudeBounded (command : String) : Prop :=
  StartsWith "SLVL" command →
    ∃ volts, AmplitudeInRange volts ∧ command = "SLVL " ++ Number.plain volts

/-- A command sets a frequency, if any, to what a lock-in can put out. -/
def FrequencyBounded (command : String) : Prop :=
  StartsWith "FREQ" command →
    ∃ hertz, FrequencyInRange hertz ∧ command = "FREQ " ++ Number.plain hertz

/-- What may be sent after what was said before. A range is the one after the range that the same
lock-in reported just before, and none of them lies beyond the highest one. -/
def Permitted (said : List (Exchange Surroundings)) : Request → Prop
  | .write id command => AmplitudeBounded command ∧ FrequencyBounded command ∧
    (StartsWith "SENS" command → ∃ before text range, range + 1 ≤ Lockin.topRange ∧
      command = s!"SENS {range + 1}" ∧
      Number.readWhole Number.byteMax (Text.trim text) = .ok range ∧
      said = before ++ [rangeReported id text, released, seized])
  | .query _ command => AmplitudeBounded command ∧ FrequencyBounded command ∧
    (StartsWith "SENS" command → command = "SENS?")
  | _ => True

/-- A request that tells a lock-in nothing of its output and its range. -/
def Request.Unlimited : Request → Prop
  | .write _ command => Unreserved command
  | .query _ command => Unreserved command ∨ command = "SENS?"
  | _ => True

lemma Unreserved.bounded (h : Unreserved command) :
    AmplitudeBounded command ∧ FrequencyBounded command ∧ ¬StartsWith "SENS" command :=
  ⟨fun hs => absurd hs (h.not_startsWith (by simp)),
    fun hs => absurd hs (h.not_startsWith (by simp)),
    h.not_startsWith (by simp)⟩

lemma Request.Unlimited.permitted {r : Request} (h : r.Unlimited)
    (said : List (Exchange Surroundings)) : Permitted said r := by
  cases r with
  | write id command =>
    obtain ⟨hamplitude, hfrequency, hrange⟩ := h.bounded
    exact ⟨hamplitude, hfrequency, fun hs => absurd hs hrange⟩
  | query id command =>
    rcases h with h | rfl
    · obtain ⟨hamplitude, hfrequency, hrange⟩ := h.bounded
      exact ⟨hamplitude, hfrequency, fun hs => absurd hs hrange⟩
    · have hasks : ¬StartsWith "SLVL" "SENS?" ∧ ¬StartsWith "FREQ" "SENS?" := by
        unfold StartsWith
        decide +kernel
      exact ⟨fun hs => absurd hs hasks.1, fun hs => absurd hs hasks.2, fun _ => rfl⟩
  | seize | release | sleep | log => trivial

/-- Work that sends nothing but what may be sent, whatever was said before. -/
def Heeds (work : Driving α) : Prop := ∀ said, work.run.AsksAfter Permitted said

/-- Work that tells no lock-in anything of its output and its range. -/
def Spares (work : Driving α) : Prop := work.run.AsksOnly Request.Unlimited

lemma Spares.heeds {work : Driving α} (h : Spares work) : Heeds work :=
  fun _ => AsksOnly.asksAfter h fun _ hr said => hr.permitted said

lemma Spares.bind {work : Driving α} {f : α → Driving β} (h : Spares work)
    (hf : ∀ a, Spares (f a)) : Spares (work >>= f) :=
  AsksOnly.run_bind h hf

lemma spares_pure (a : α) : Spares (pure a : Driving α) := trivial

lemma spares_throw (fault : DeviceFault) : Spares (throw fault : Driving α) := trivial

lemma spares_settled (result : Except DeviceFault α) : Spares (settled result) := trivial

lemma spares_log (event : Event) : Spares (log event) := ⟨trivial, fun _ => trivial⟩

lemma spares_sleep (span : Duration) : Spares (sleep span) := ⟨trivial, fun _ => trivial⟩

lemma Spares.withBus {body : Driving α} (h : Spares body) : Spares (withBus body) :=
  asksOnly_withBus trivial trivial h

lemma spares_heldWrite (h : Unreserved command) : Spares (Held.write id command) :=
  asksOnly_write h

lemma spares_heldQuery (h : Unreserved command) : Spares (Held.query id command) :=
  asksOnly_query (.inl h)

lemma spares_heldValues (h : Unreserved command) : Spares (Held.values id command) :=
  (spares_heldQuery h).bind fun _ => spares_settled _

lemma spares_write (h : Unreserved command) : Spares (write id command) :=
  (spares_heldWrite h).withBus

lemma spares_query (h : Unreserved command) : Spares (query id command) :=
  (spares_heldQuery h).withBus

lemma spares_values (h : Unreserved command) : Spares (values id command) :=
  (spares_heldValues h).withBus

lemma spares_number (h : Unreserved command) : Spares (number id command) :=
  (spares_values h).bind fun _ => spares_pure _

lemma spares_whole {limit : Nat} (h : Unreserved command) : Spares (whole id command limit) :=
  (spares_query h).bind fun _ => spares_settled _

/-! ## Lock-ins -/

namespace Lockin

lemma spares_signal : Spares (signal id) := by
  refine (spares_values (unreserved_of_mem (by simp))).bind fun values => ?_
  split
  · exact spares_pure _
  · exact spares_throw _

lemma spares_snapshot : Spares (snapshot id) := by
  refine (spares_values (unreserved_of_mem (by simp))).bind fun values => ?_
  split
  · exact spares_pure _
  · exact spares_throw _

lemma spares_status : Spares (status id) :=
  (spares_whole (unreserved_of_mem (by simp))).bind fun _ => spares_pure _

lemma spares_expandOn (expand : Expand) : Spares (expandOn id expand) := by
  refine Spares.withBus ((spares_heldWrite (unreserved_of_mem (by simp))).bind fun _ =>
    (spares_heldValues (unreserved_of_mem (by simp))).bind fun values => ?_)
  split
  · exact (spares_heldWrite (unreserved_append (by simp)).append.append).bind fun _ => spares_pure _
  · exact spares_throw _

lemma spares_expandOff : Spares (expandOff id) := spares_write (unreserved_of_mem (by simp))

/-- A single command is sent if it may be sent. -/
lemma asksAfter_write {said : List (Exchange Surroundings)}
    (h : Permitted (said ++ [seized]) (.write id command)) :
    (write id command).run.AsksAfter Permitted said := by
  have hsent : (Held.write id command).run.AsksAfter Permitted (said ++ [seized]) :=
    ⟨h, fun reply => AsksOnly.asksAfter (R := fun _ => False) (asksOnly_outcome reply) nofun⟩
  exact ⟨trivial, fun _ => hsent.bind fun _ _ _ => ⟨trivial, fun _ => trivial⟩⟩

/-- An amplitude is only set within its bounds. -/
lemma heeds_setAmplitude (volts : Float) : Heeds (setAmplitude id volts) := by
  unfold setAmplitude
  split
  · next hvolts =>
    refine fun said => asksAfter_write ⟨fun _ => ⟨volts, hvolts, rfl⟩, fun hs => ?_, fun hs => ?_⟩
    · exact absurd hs (not_startsWith (by simp) (by simp) (by simp))
    · exact absurd hs (not_startsWith (by simp) (by simp) (by simp))
  · exact (spares_throw _).heeds

/-- So is a frequency. -/
lemma heeds_setFrequency (hertz : Float) : Heeds (setFrequency id hertz) := by
  unfold setFrequency
  split
  · next hhertz =>
    refine fun said => asksAfter_write ⟨fun hs => ?_, fun _ => ⟨hertz, hhertz, rfl⟩, fun hs => ?_⟩
    · exact absurd hs (not_startsWith (by simp) (by simp) (by simp))
    · exact absurd hs (not_startsWith (by simp) (by simp) (by simp))
  · exact (spares_throw _).heeds

/-- What was said when a range was read. -/
lemma ends_sensitivity {told : List (Exchange Surroundings)} {range : Nat}
    (h : (sensitivity id).run.Ends told (.ok range)) : ∃ text,
      Number.readWhole Number.byteMax (Text.trim text) = .ok range ∧
        told = hold [rangeReported id text] := by
  rcases ends_run_bind_iff.1 h with ⟨_, -, ⟨⟩⟩ | ⟨asked, rest, text, rfl, hquery, hread⟩
  obtain ⟨during, rfl, hd⟩ := ends_withBus_iff.1 hquery
  obtain ⟨reply, rfl, hreply⟩ := ends_query hd
  obtain ⟨rfl, hresult⟩ := ends_settled_iff.1 hread
  refine ⟨text, ?_, ?_⟩
  · cases hwhole : Number.readWhole Number.byteMax (Text.trim text) with
    | error =>
      rw [hwhole] at hresult
      cases hresult
    | ok n =>
      rw [hwhole] at hresult
      cases hresult
      rfl
  · rw [hreply text rfl, List.append_nil]
    rfl

/-- The range that is set is the one after the range that was reported just before. -/
lemma heeds_rangeUp : Heeds (rangeUp id) := by
  have hask : (sensitivity id).run.AsksOnly Request.Unlimited :=
    AsksOnly.run_bind (asksOnly_withBus trivial trivial (asksOnly_query (.inr rfl)))
      fun _ => trivial
  intro said
  unfold rangeUp
  rw [ExceptT.run_bind]
  refine (hask.asksAfter fun _ hr said => hr.permitted said).bind fun told result hend => ?_
  cases result with
  | error => trivial
  | ok range =>
    obtain ⟨text, hread, rfl⟩ := ends_sensitivity hend
    change (if topRange ≤ range then pure none else do
      write id s!"SENS {range + 1}"
      pure (some (range + 1)) : Driving (Option Nat)).run.AsksAfter Permitted _
    split
    · trivial
    · next hbelow =>
      rw [ExceptT.run_bind]
      refine (asksAfter_write ⟨fun hs => ?_, fun hs => ?_, fun _ => ?_⟩).bind
        fun _ result _ => ?_
      · change StartsWith "SLVL" ("SENS " ++ toString (range + 1)) at hs
        exact absurd hs (not_startsWith (by simp) (by simp) (by simp))
      · change StartsWith "FREQ" ("SENS " ++ toString (range + 1)) at hs
        exact absurd hs (not_startsWith (by simp) (by simp) (by simp))
      · exact ⟨said ++ [seized], text, range, by omega, rfl, hread, by simp [hold]⟩
      · cases result <;> trivial

end Lockin

/-! ## Other instruments -/

section Instruments

variable {wanted : SourceFunction} {plan : DeltaPlan}

lemma spares_readScanned (pick : Nat → Option (Nat × Bridge.Reading)) :
    Spares (Bridge.readScanned id pick) := by
  have hread (reading : Bridge.Reading) (channel : Nat) : Unreserved (reading.command channel) := by
    cases reading with
    | kelvin => exact unreserved_append (by simp [toString])
    | ohms => exact unreserved_append (by simp [toString])
  refine Spares.withBus ((spares_heldValues (unreserved_of_mem (by simp))).bind fun _ =>
    (spares_settled _).bind fun scan => ?_)
  dsimp only
  split
  · exact spares_pure _
  · exact (spares_heldValues (hread _ _)).bind fun _ => spares_pure _

lemma spares_stepSetting (channel : Nat) (direction : Direction)
    (index : Bridge.ChannelSettings → Nat)
    (change : Bridge.ChannelSettings → Nat → Bridge.ChannelSettings) :
    Spares (Bridge.stepSetting id channel direction index change) := by
  refine Spares.withBus ((spares_heldValues (unreserved_append (by simp [toString]))).bind fun _ =>
    (spares_settled _).bind fun settings => ?_)
  split
  · exact spares_pure _
  · exact (spares_heldWrite (unreserved_append (by simp))).bind fun _ => spares_pure _

lemma spares_selectChannel (channel : Nat) (autoscan : Bool) :
    Spares (Bridge.selectChannel id channel autoscan) :=
  spares_write (unreserved_append (by simp [toString])).append.append

lemma spares_bridgeOhms (channel : Nat) : Spares (Bridge.ohms id channel) :=
  spares_number (unreserved_append (by simp [toString]))

lemma spares_setSetpoint (id : String) (kelvin : Float) (rate : Option Float) :
    Spares (Bridge.setSetpoint id kelvin rate) := by
  refine (spares_write ?_).bind fun _ => (spares_sleep _).bind fun _ =>
    spares_write (unreserved_append (by simp))
  cases rate with
  | none => exact unreserved_of_mem (by simp)
  | some rate => exact unreserved_append (by simp)

lemma spares_setTarget (tesla rate : Float) : Spares (Magnet.setTarget id tesla rate) :=
  ((spares_heldWrite (unreserved_append (by simp)).append).bind fun _ =>
    spares_heldWrite (unreserved_append (by simp)).append).withBus

lemma spares_setLevel (level : Float) : Spares (Gate.setLevel id wanted level) := by
  have hask : Spares (Gate.function id) :=
    (spares_query (unreserved_of_mem (by simp))).bind fun _ => spares_pure _
  refine hask.bind fun actual => ?_
  split
  · exact (spares_write (unreserved_append (by simp))).bind fun _ => spares_pure _
  · exact (spares_log _).bind fun _ => spares_pure _

lemma spares_startSweep : Spares (CurrentSource.startSweep id plan) := by
  have hsetup (commands : List String) (h : ∀ command ∈ commands, Unreserved command) :
      Spares (CurrentSource.writeAll id commands) := by
    induction commands with
    | nil => exact spares_pure _
    | cons command rest ih =>
      rw [List.forall_mem_cons] at h
      exact (spares_write h.1).bind fun _ => ih h.2
  have htrigger (attempts : Nat) : Spares (CurrentSource.trigger id attempts) := by
    induction attempts with
    | zero => exact spares_throw _
    | succ attempts ih =>
      refine (spares_query (unreserved_of_mem (by simp))).bind fun reply => ?_
      split
      · exact spares_write (unreserved_of_mem (by simp))
      · exact (spares_sleep _).bind fun _ => ih
  refine (hsetup _ fun command hcommand => ?_).bind fun _ => htrigger _
  simp only [CurrentSource.setup, List.mem_cons, List.not_mem_nil, or_false] at hcommand
  rcases hcommand with rfl | rfl | rfl | rfl | rfl | rfl | rfl | rfl | rfl | rfl
  all_goals first
    | exact unreserved_append (by simp)
    | exact unreserved_of_mem (by simp)

lemma spares_trace : Spares (CurrentSource.trace id) := by
  refine (spares_number (unreserved_of_mem (by simp))).bind fun _ =>
    (spares_values (unreserved_of_mem (by simp))).bind fun values => ?_
  split
  · exact spares_pure _
  · exact spares_throw _

lemma spares_meterOhms : Spares (ResistanceMeter.ohms id) := by
  refine (spares_values (unreserved_of_mem (by simp))).bind fun values => ?_
  split
  · exact spares_pure _
  · exact spares_throw _

end Instruments

end Instrument

/-! ## Facilities -/

namespace Site

open Instrument

variable {α : Type}

lemma heeds_onLockin {site : String} {ids : List String} {index : Nat} {work : String → Driving α}
    (h : ∀ id, Heeds (work id)) : Heeds (onLockin site ids index work) := by
  unfold onLockin
  split
  · exact h _
  · exact (spares_throw _).heeds

lemma spares_readLockins (ids : List String) : Spares (readLockins ids) := by
  have hslots (places : Nat) : ∀ ids, Spares (readSlots places ids) := by
    induction places with
    | zero => exact fun _ => spares_pure _
    | succ places ih =>
      intro ids
      cases ids with
      | nil => exact (ih []).bind fun _ => spares_pure _
      | cons id ids =>
        exact Lockin.spares_signal.bind fun _ => (ih ids).bind fun _ => spares_pure _
  exact hslots _ ids

lemma spares_offsetExpand (id : String) (reportOff : Bool) (expand : Option Expand) :
    Spares (offsetExpand id reportOff expand) := by
  cases expand with
  | some expand => exact (Lockin.spares_expandOn expand).bind fun _ => spares_log _
  | none =>
    refine Lockin.spares_expandOff.bind fun _ => ?_
    split
    · exact spares_log _
    · exact spares_pure _

namespace RefrigeratorWiring

variable (w : RefrigeratorWiring)

lemma spares_reading {instrument : Option String} {read : String → Driving Float}
    (h : ∀ id, Spares (read id)) : Spares (RefrigeratorWiring.reading instrument read) := by
  cases instrument with
  | some id => exact (h id).bind fun _ => spares_pure _
  | none => exact spares_pure _

lemma spares_readChannels (mode : Mode) : Spares (w.readChannels mode) := by
  have hcommon : Spares w.readCommon :=
    (spares_readLockins _).bind fun _ =>
      (spares_reading fun _ => spares_number (unreserved_of_mem (by simp))).bind fun _ =>
        (spares_reading fun _ => spares_bridgeOhms _).bind fun _ => spares_pure _
  have hscan : Spares w.readScan := by
    refine (spares_readScanned _).bind fun _ => ?_
    dsimp only
    split
    · exact (spares_log _).bind fun _ => spares_pure _
    · exact spares_pure _
  have hparked : Spares w.readParked :=
    (spares_readScanned _).bind fun _ =>
      (spares_reading fun _ => spares_meterOhms).bind fun _ => spares_pure _
  refine hcommon.bind fun _ => ?_
  split
  · exact hscan.bind fun _ => spares_pure _
  · exact hparked.bind fun _ => spares_pure _

lemma spares_onGate {work : String → Driving Unit} (h : ∀ id, Spares (work id)) :
    Spares (w.onGate work) := by
  unfold onGate
  split
  · exact h _
  · exact spares_log _

lemma spares_onMagnet {work : String → Driving α} (h : ∀ id, Spares (work id)) :
    Spares (w.onMagnet work) := by
  unfold onMagnet
  split
  · exact h _
  · exact spares_throw _

lemma spares_onCurrentSource {work : String → Driving α} (h : ∀ id, Spares (work id)) :
    Spares (w.onCurrentSource work) := by
  unfold onCurrentSource
  split
  · exact h _
  · exact spares_throw _

lemma heeds_perform (a : Action) : Heeds (w.perform a) := by
  cases a with
  | rangeUp => exact heeds_onLockin fun _ => Lockin.heeds_rangeUp
  | setAmplitude => exact heeds_onLockin fun _ => Lockin.heeds_setAmplitude _
  | setFrequency => exact heeds_onLockin fun _ => Lockin.heeds_setFrequency _
  | lockinStatus => exact heeds_onLockin fun _ => Lockin.spares_status.heeds
  | setOffsetExpand => exact heeds_onLockin fun _ => (spares_offsetExpand _ _ _).heeds
  | readChannels mode => exact (spares_readChannels w mode).heeds
  | prepare mode =>
    refine Spares.heeds ?_
    cases mode with
    | autoscan => exact spares_selectChannel _ _
    | differential => exact spares_onCurrentSource w fun _ => spares_pure _
    | continuous | stepped => exact spares_pure _
  | setGateVoltage | setGateCurrent =>
    exact (spares_onGate w fun _ => (spares_setLevel _).bind fun _ => spares_pure _).heeds
  | setGateOutput on =>
    refine (spares_onGate w fun _ => spares_write ?_).heeds
    cases on <;> exact unreserved_of_mem (by simp)
  | setTargetField => exact (spares_onMagnet w fun _ => spares_setTarget _ _).heeds
  | magnetRamping =>
    exact (spares_onMagnet w fun _ => ((spares_whole (unreserved_of_mem (by simp))).bind
      fun _ => spares_pure _).bind fun _ => spares_pure _).heeds
  | setTargetTemperature kelvin rate =>
    exact (spares_setSetpoint w.bridge kelvin (some rate)).heeds
  | temperatureRamping =>
    exact ((spares_number (unreserved_of_mem (by simp))).bind fun _ => spares_pure _).heeds
  | selectChannel => exact (spares_selectChannel _ _).heeds
  | stepExcitation direction =>
    exact Spares.heeds <| ((spares_values (unreserved_of_mem (by simp))).bind fun _ =>
      spares_settled _).bind fun _ => spares_stepSetting _ _ _ _
  | stepRange => exact (spares_stepSetting _ _ _ _).heeds
  | setHeater => exact (spares_write (unreserved_append (by simp))).heeds
  | armSweep => exact (spares_onCurrentSource w fun _ => spares_startSweep).heeds
  | sweepStatus =>
    exact (spares_onCurrentSource w fun _ => (spares_whole (unreserved_of_mem (by simp))).bind
      fun _ => spares_pure _).heeds
  | fetchTrace => exact (spares_onCurrentSource w fun _ => spares_trace).heeds
  | abortSweep =>
    exact (spares_onCurrentSource w fun _ => spares_write (unreserved_of_mem (by simp))).heeds

end RefrigeratorWiring

lemma CryogenFreeWiring.heeds_perform (w : CryogenFreeWiring) (a : Action) :
    Heeds (w.perform a) := by
  have hgate {work : String → Driving Unit} (h : ∀ id, Spares (work id)) :
      Spares (w.onGate work) := by
    unfold onGate
    split
    · exact h _
    · exact spares_log _
  cases a with
  | rangeUp => exact heeds_onLockin fun _ => Lockin.heeds_rangeUp
  | setAmplitude => exact heeds_onLockin fun _ => Lockin.heeds_setAmplitude _
  | setFrequency => exact heeds_onLockin fun _ => Lockin.heeds_setFrequency _
  | lockinStatus => exact heeds_onLockin fun _ => Lockin.spares_status.heeds
  | setOffsetExpand => exact heeds_onLockin fun _ => (spares_offsetExpand _ _ _).heeds
  | readChannels =>
    exact Spares.heeds <| (spares_readLockins _).bind fun _ =>
      (spares_number (unreserved_of_mem (by simp))).bind fun _ =>
        (spares_number (unreserved_of_mem (by simp))).bind fun _ => spares_pure _
  | prepare mode =>
    refine Spares.heeds ?_
    cases mode with
    | continuous | stepped => exact spares_pure _
    | autoscan | differential => exact spares_throw _
  | setGateVoltage | setGateCurrent =>
    exact (hgate fun _ => (spares_setLevel _).bind fun _ => spares_pure _).heeds
  | setGateOutput on =>
    refine (hgate fun _ => spares_write ?_).heeds
    cases on <;> exact unreserved_of_mem (by simp)
  | setTargetField =>
    exact (spares_write (unreserved_append (by simp)).append.append).heeds
  | setTargetTemperature =>
    exact (spares_write (unreserved_append (by simp)).append.append).heeds
  | magnetRamping | temperatureRamping =>
    exact Spares.heeds <| ((spares_query (unreserved_of_mem (by simp))).bind fun _ =>
      spares_pure _).bind fun _ => spares_pure _
  | _ => exact (spares_throw _).heeds

lemma InsertWiring.heeds_perform (w : InsertWiring) (a : Action) : Heeds (w.perform a) := by
  have hlockin {α : Type} {index : Nat} {work : String → Driving α} (h : ∀ id, Heeds (work id)) :
      Heeds (w.onLockin index work) := by
    unfold onLockin
    split
    · exact h _
    · exact (spares_throw _).heeds
  cases a with
  | rangeUp => exact hlockin fun _ => Lockin.heeds_rangeUp
  | setAmplitude => exact hlockin fun _ => Lockin.heeds_setAmplitude _
  | setFrequency => exact hlockin fun _ => Lockin.heeds_setFrequency _
  | lockinStatus => exact hlockin fun _ => Lockin.spares_status.heeds
  | readChannels =>
    exact Spares.heeds <| (spares_number (unreserved_of_mem (by simp))).bind fun _ =>
      (spares_number (unreserved_of_mem (by simp))).bind fun _ =>
        (spares_number (unreserved_of_mem (by simp))).bind fun _ =>
          Lockin.spares_snapshot.bind fun _ => spares_pure _
  | prepare mode =>
    refine Spares.heeds ?_
    cases mode with
    | continuous | stepped => exact spares_pure _
    | autoscan | differential => exact spares_throw _
  | _ => exact (spares_throw _).heeds

end Site

namespace Settings.Facility

/-- Whatever a facility is asked to do, lock-ins are told nothing but what they can do. -/
theorem heeds_perform (f : Facility) (a : Action)
    (said : List (Exchange CryoRig.Instrument.Surroundings)) :
    (f.site.perform a).AsksAfter CryoRig.Instrument.Permitted said := by
  cases f with
  | refrigerator w => exact w.heeds_perform a said
  | cryogenFree w => exact w.heeds_perform a said
  | insert w => exact w.heeds_perform a said

end Settings.Facility

/-! ## What is out of bounds -/

/-- An action that would have a lock-in put out what it cannot. -/
def Action.Excessive : Action → Prop
  | .setAmplitude _ volts => ¬Instrument.AmplitudeInRange volts
  | .setFrequency _ hertz => ¬Instrument.FrequencyInRange hertz
  | _ => False

/-- Such an action is refused before anything is sent. -/
theorem Settings.Facility.perform_of_excessive (f : Facility) {a : Action} (h : a.Excessive) :
    ∃ fault : DeviceFault, f.site.perform a = .done (Except.error fault) := by
  have hrefused {work : String → Instrument.Driving Unit}
      (hw : ∀ id, ∃ fault, work id = throw fault) (index : Nat) :
      (∀ site ids, ∃ fault, (Site.onLockin site ids index work).run = .done (.error fault)) ∧
        ∀ w : Site.InsertWiring, ∃ fault, (w.onLockin index work).run = .done (.error fault) := by
    constructor
    · intro site ids
      unfold Site.onLockin
      split
      · next id _ =>
        obtain ⟨fault, hfault⟩ := hw id
        exact ⟨fault, by rw [hfault]; rfl⟩
      · exact ⟨_, rfl⟩
    · intro w
      unfold Site.InsertWiring.onLockin
      split
      · obtain ⟨fault, hfault⟩ := hw w.lockin
        exact ⟨fault, by rw [hfault]; rfl⟩
      · exact ⟨_, rfl⟩
  cases a with
  | setAmplitude index volts =>
    obtain ⟨hmany, hone⟩ := hrefused (fun id =>
      ⟨_, show Instrument.Lockin.setAmplitude id volts = throw _ from if_neg h⟩) index
    cases f with
    | refrigerator w => exact hmany _ _
    | cryogenFree w => exact hmany _ _
    | insert w => exact hone w
  | setFrequency index hertz =>
    obtain ⟨hmany, hone⟩ := hrefused (fun id =>
      ⟨_, show Instrument.Lockin.setFrequency id hertz = throw _ from if_neg h⟩) index
    cases f with
    | refrigerator w => exact hmany _ _
    | cryogenFree w => exact hmany _ _
    | insert w => exact hone w
  | _ => exact h.elim

end CryoRig
