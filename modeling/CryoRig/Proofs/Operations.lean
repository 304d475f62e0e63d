import CryoRig.Proofs.Paths
import CryoRig.Instrument.Bridge
import CryoRig.Instrument.Lockin
import CryoRig.Instrument.Magnet

/-!
# Operations under one hold of the bus

A driver takes the bus, sends one command or a few that belong together, and gives the bus back.
Whatever the instruments reply, it takes the bus first and gives it back last, and it leaves out
the last commands only if there is nothing to send them for: a command failed or its reply could
not be read, no channel was picked, or an index is at its limit.

## Main definitions

* `CryoRig.Instrument.Undivided`: work under one hold of the bus.
* `CryoRig.Instrument.Operation`: what drivers do under one hold of the bus.
* `CryoRig.Instrument.Operation.Sends`: the commands that an operation sends.

## Main results

* `CryoRig.Instrument.Operation.undivided`: an operation is done under one hold.
* `CryoRig.Instrument.Operation.sends_of_ends`: whatever comes of it, it has sent its commands.
-/

namespace CryoRig.Instrument

open Process

variable {α β : Type} {es : List (Exchange Surroundings)} {id command : String}

/-! ## One hold of the bus -/

/-- The bus is taken. -/
def seized : Exchange Surroundings := ⟨.seize, ()⟩

/-- The bus is given back. -/
def released : Exchange Surroundings := ⟨.release, ()⟩

/-- The exchanges under one hold of the bus. -/
def hold (sent : List (Exchange Surroundings)) : List (Exchange Surroundings) :=
  seized :: (sent ++ [released])

/-- A command for an instrument. -/
def Request.IsCommand : Request → Prop
  | .write .. | .query .. => True
  | _ => False

/-- Work under one hold of the bus: it sends commands and does nothing else. -/
def Undivided (work : Driving α) : Prop :=
  ∃ body : Driving α, work = withBus body ∧ body.run.AsksOnly Request.IsCommand

lemma undivided_withBus {body : Driving α} (h : body.run.AsksOnly Request.IsCommand) :
    Undivided (withBus body) := ⟨body, rfl, h⟩

/-- Work that holds the bus asks for it, gives it back, and asks for nothing else of its own. -/
lemma asksOnly_withBus {P : Request → Prop} {body : Driving α} (hseize : P .seize)
    (hrelease : P .release) (h : body.run.AsksOnly P) : (withBus body).run.AsksOnly P :=
  ⟨hseize, fun _ => h.bind fun _ => ⟨hrelease, fun _ => trivial⟩⟩

/-- The bus is taken first and given back last, however the work between them ends. -/
lemma ends_withBus_iff {body : Driving α} {result : Except DeviceFault α} :
    (withBus body).run.Ends es result ↔ ∃ sent, es = hold sent ∧ body.run.Ends sent result := by
  change (request (I := Surroundings) .seize >>= fun _ => body.run >>= fun result =>
    request (I := Surroundings) .release >>= fun _ => pure result).Ends es result ↔ _
  constructor
  · intro h
    obtain ⟨es₁, es₂, _, rfl, hseize, h₂⟩ := ends_bind_iff.1 h
    obtain rfl := ends_request_iff.1 hseize
    obtain ⟨sent, es₃, result', rfl, hbody, h₃⟩ := ends_bind_iff.1 h₂
    obtain ⟨es₄, es₅, _, rfl, hrelease, h₅⟩ := ends_bind_iff.1 h₃
    obtain rfl := ends_request_iff.1 hrelease
    obtain ⟨rfl, rfl⟩ := ends_pure_iff.1 h₅
    exact ⟨sent, rfl, hbody⟩
  · rintro ⟨sent, rfl, h⟩
    refine ends_bind_iff.2 ⟨[seized], _, (), rfl, ends_request_iff.2 rfl, ?_⟩
    refine ends_bind_iff.2 ⟨sent, [released], result, rfl, h, ?_⟩
    exact ends_bind_iff.2 ⟨[released], [], (), rfl, ends_request_iff.2 rfl, .refl _⟩

/-- Under one hold of the bus come commands, after it was taken and before it is given back. -/
lemma Undivided.leads_cases {work : Driving α} {rest : Process Surroundings (Except DeviceFault α)}
    (h : Undivided work) (hl : work.run.Leads es rest) :
    es = [] ∨ (∃ sent, es = seized :: sent ∧ ∀ e ∈ sent, e.request.IsCommand) ∨
      ∃ result, work.run.Ends es result := by
  obtain ⟨body, rfl, hbody⟩ := h
  rcases leads_ask_iff.1 hl with ⟨rfl, -⟩ | ⟨_, es, rfl, hbus⟩
  · exact .inl rfl
  refine .inr ?_
  change (body.run >>= fun result => request (I := Surroundings) .release >>= fun _ =>
    pure result).Leads es rest at hbus
  rcases leads_bind_cases hbus with ⟨rest, hsent, -⟩ | ⟨sent, es, result, rfl, hend, hrelease⟩
  · exact .inl ⟨es, rfl, hbody.of_leads hsent⟩
  rcases leads_ask_iff.1 hrelease with ⟨rfl, -⟩ | ⟨_, es, rfl, hdone⟩
  · exact .inl ⟨sent, by rw [List.append_nil]; rfl, hbody.of_leads hend⟩
  obtain rfl : es = [] := (leads_done_iff.1 hdone).1
  exact .inr ⟨result, ends_withBus_iff.2 ⟨sent, rfl, hend⟩⟩

/-- When it is done the bus was given back. -/
lemma Undivided.eq_hold {work : Driving α} {result : Except DeviceFault α} (h : Undivided work)
    (hend : work.run.Ends es result) :
    ∃ sent, es = hold sent ∧ ∀ e ∈ sent, e.request.IsCommand := by
  obtain ⟨body, rfl, hbody⟩ := h
  obtain ⟨sent, rfl, hsent⟩ := ends_withBus_iff.1 hend
  exact ⟨sent, rfl, hbody.of_leads hsent⟩

/-! ## Commands -/

section Commands

lemma asksOnly_settled {P : Request → Prop} (result : Except DeviceFault α) :
    (settled result).run.AsksOnly P := trivial

lemma asksOnly_outcome {P : Request → Prop} {doing : Doing}
    (reply : Option (Except DeviceFault α)) : (outcome id doing reply).run.AsksOnly P := by
  cases reply <;> exact asksOnly_settled _

lemma asksOnly_write {P : Request → Prop} (h : P (.write id command)) :
    (Held.write id command).run.AsksOnly P := ⟨h, fun reply => asksOnly_outcome reply⟩

lemma asksOnly_query {P : Request → Prop} (h : P (.query id command)) :
    (Held.query id command).run.AsksOnly P := ⟨h, fun reply => asksOnly_outcome reply⟩

lemma write_isCommand : (Held.write id command).run.AsksOnly Request.IsCommand :=
  asksOnly_write trivial

lemma query_isCommand : (Held.query id command).run.AsksOnly Request.IsCommand :=
  asksOnly_query trivial

lemma values_isCommand : (Held.values id command).run.AsksOnly Request.IsCommand :=
  query_isCommand.run_bind fun _ => asksOnly_settled _

/-- The numbers that a query was answered with. -/
def Shows (reply : Option (Except DeviceFault String)) (values : Values) : Prop :=
  ∃ text, reply = some (.ok text) ∧ parseValues text = .ok values

lemma ends_settled_iff {result result' : Except DeviceFault α} :
    (settled result).run.Ends es result' ↔ es = [] ∧ result = result' := ends_done_iff

/-- A command that is not answered is one exchange. -/
lemma ends_write {result : Except DeviceFault Unit}
    (h : (Held.write id command).run.Ends es result) :
    ∃ reply, es = [⟨.write id command, reply⟩] := by
  obtain ⟨reply, rest, rfl, hend⟩ := ends_ask_iff.1 h
  refine ⟨reply, ?_⟩
  change (outcome id (.writing id command) reply).run.Ends rest result at hend
  cases reply <;> rw [(ends_settled_iff.1 hend).1]

/-- A query is one exchange. -/
lemma ends_query {result : Except DeviceFault String}
    (h : (Held.query id command).run.Ends es result) :
    ∃ reply, es = [⟨.query id command, reply⟩] ∧
      ∀ text, result = .ok text → reply = some (.ok text) := by
  obtain ⟨reply, rest, rfl, hend⟩ := ends_ask_iff.1 h
  refine ⟨reply, ?_⟩
  change (outcome id (.querying id command) reply).run.Ends rest result at hend
  rcases reply with _ | _ | text
  all_goals
    obtain ⟨rfl, rfl⟩ := ends_settled_iff.1 hend
    refine ⟨rfl, ?_⟩
    rintro _ ⟨⟩
  rfl

/-- A query for numbers is one exchange, and either it fails or it shows its result. -/
lemma ends_values {result : Except DeviceFault Values}
    (h : (Held.values id command).run.Ends es result) :
    ∃ reply, es = [⟨.query id command, reply⟩] ∧
      ∀ values, result = .ok values → Shows reply values := by
  rcases ends_run_bind_iff.1 h with ⟨fault, hquery, rfl⟩ | ⟨es₁, es₂, text, rfl, hquery, hend⟩
  · obtain ⟨reply, rfl, -⟩ := ends_query hquery
    exact ⟨reply, rfl, by rintro _ ⟨⟩⟩
  · obtain ⟨reply, rfl, hreply⟩ := ends_query hquery
    obtain ⟨rfl, rfl⟩ := ends_settled_iff.1 hend
    refine ⟨reply, rfl, fun values hvalues => ⟨text, hreply text rfl, ?_⟩⟩
    cases hparse : parseValues text with
    | error fault =>
      rw [hparse] at hvalues
      cases hvalues
    | ok values' =>
      rw [hparse] at hvalues
      cases hvalues
      rfl

lemma ends_settled_bind_iff {result : Except DeviceFault α} {f : α → Driving β}
    {end? : Except DeviceFault β} :
    (settled result >>= f).run.Ends es end? ↔
      (∃ fault, result = .error fault ∧ es = [] ∧ end? = .error fault) ∨
        ∃ a, result = .ok a ∧ (f a).run.Ends es end? := by
  cases result with
  | error fault =>
    change (done (Except.error fault)).Ends es end? ↔ _
    simp [eq_comm]
  | ok a =>
    change (f a).run.Ends es end? ↔ _
    simp

/-- After a command that is not answered the work fails or goes on. -/
lemma ends_write_bind {f : Unit → Driving α} {result : Except DeviceFault α}
    (h : (Held.write id command >>= f).run.Ends es result) :
    ∃ reply rest, es = ⟨.write id command, reply⟩ :: rest ∧
      (rest = [] ∧ (∃ fault, result = .error fault) ∨ (f ()).run.Ends rest result) := by
  rcases ends_run_bind_iff.1 h with ⟨fault, hwrite, rfl⟩ | ⟨es₁, rest, _, rfl, hwrite, hrest⟩
  · obtain ⟨reply, rfl⟩ := ends_write hwrite
    exact ⟨reply, [], rfl, .inl ⟨rfl, fault, rfl⟩⟩
  · obtain ⟨reply, rfl⟩ := ends_write hwrite
    exact ⟨reply, rest, rfl, .inr hrest⟩

/-- After a query for numbers the work fails or goes on with what the reply shows. -/
lemma ends_values_bind {f : Values → Driving α} {result : Except DeviceFault α}
    (h : (Held.values id command >>= f).run.Ends es result) :
    ∃ reply rest, es = ⟨.query id command, reply⟩ :: rest ∧
      (rest = [] ∧ (∃ fault, result = .error fault) ∨
        ∃ values, Shows reply values ∧ (f values).run.Ends rest result) := by
  rcases ends_run_bind_iff.1 h with
    ⟨fault, hvalues, rfl⟩ | ⟨es₁, rest, values, rfl, hvalues, hrest⟩
  · obtain ⟨reply, rfl, -⟩ := ends_values hvalues
    exact ⟨reply, [], rfl, .inl ⟨rfl, fault, rfl⟩⟩
  · obtain ⟨reply, rfl, hshows⟩ := ends_values hvalues
    exact ⟨reply, rest, rfl, .inr ⟨values, hshows values rfl, hrest⟩⟩

end Commands

/-! ## Operations -/

/-- What drivers do under one hold of the bus. -/
inductive Operation where
  /-- Read what is picked for the channel that a scanner is on. -/
  | readScanned (id : String) (pick : Nat → Option (Nat × Bridge.Reading))
  /-- Step the excitation of a channel. -/
  | stepExcitation (id : String) (channel : Nat) (direction : Direction)
  /-- Step the resistance range of a channel. -/
  | stepRange (id : String) (channel : Nat) (direction : Direction)
  /-- Ramp a magnet. -/
  | setTarget (id : String) (tesla rate : Float)
  /-- Let a lock-in find an offset and expand around it. -/
  | expandOn (id : String) (expand : Expand)
  /-- Send one command that is not answered. -/
  | write (id command : String)
  /-- Send one command and read the answer. -/
  | query (id command : String)
  /-- Send one command and read the numbers in the answer. -/
  | values (id command : String)

namespace Operation

/-- What comes of an operation that succeeds. -/
def Result : Operation → Type
  | readScanned .. => Nat × Option Float
  | stepExcitation .. | stepRange .. => Option Nat
  | setTarget .. | write .. => Unit
  | expandOn .. => Float
  | query .. => String
  | values .. => Values

/-- The operation itself. -/
def work : (o : Operation) → Driving o.Result
  | readScanned id pick => Bridge.readScanned id pick
  | stepExcitation id channel direction => Bridge.stepExcitation id channel direction
  | stepRange id channel direction => Bridge.stepRange id channel direction
  | setTarget id tesla rate => Magnet.setTarget id tesla rate
  | expandOn id expand => Lockin.expandOn id expand
  | write id command => Instrument.write id command
  | query id command => Instrument.query id command
  | values id command => Instrument.values id command

/-- An operation came to nothing. -/
def Fails (result : Except DeviceFault α) : Prop := ∃ fault, result = .error fault

/-- The channel that a scanner is on, as a reply says. -/
def OnChannel (id : String) (reply : Option (Except DeviceFault String)) (channel : Nat) : Prop :=
  ∃ values autoscan, Shows reply values ∧ Bridge.parseScan id values = .ok (channel, autoscan)

/-- The settings of a channel, as a reply says. -/
def SetTo (id : String) (reply : Option (Except DeviceFault String))
    (settings : Bridge.ChannelSettings) : Prop :=
  ∃ values, Shows reply values ∧ Bridge.ChannelSettings.ofValues id values = .ok settings

/-- The commands that step an index of the settings of a channel: one asks for the settings, and
one sets them anew unless the index is at its limit. -/
def StepSends (id : String) (channel : Nat) (direction : Direction)
    (index : Bridge.ChannelSettings → Nat)
    (change : Bridge.ChannelSettings → Nat → Bridge.ChannelSettings)
    (sent : List (Exchange Surroundings)) (result : Except DeviceFault (Option Nat)) : Prop :=
  ∃ reply,
    (sent = [⟨.query id s!"RDGRNG? {channel}", reply⟩] ∧
      (Fails result ∨ ∃ settings, SetTo id reply settings ∧
        Bridge.stepIndex (index settings) direction = none ∧ result = .ok none)) ∨
    ∃ settings next written, SetTo id reply settings ∧
      Bridge.stepIndex (index settings) direction = some next ∧
      sent = [⟨.query id s!"RDGRNG? {channel}", reply⟩,
        ⟨.write id ((change settings next).command channel), written⟩]

/-- The commands that an operation sends, one right after the other. The last ones are left out only
if it fails before them, no channel is picked, or an index is at its limit. -/
def Sends : (o : Operation) → List (Exchange Surroundings) → Except DeviceFault o.Result → Prop
  | readScanned id pick, sent, result =>
    ∃ scan,
      (sent = [⟨.query id "SCAN?", scan⟩] ∧
        (Fails result ∨ ∃ channel, OnChannel id scan channel ∧ pick channel = none ∧
          result = .ok (channel, none))) ∨
      ∃ channel target reading value, OnChannel id scan channel ∧
        pick channel = some (target, reading) ∧
        sent = [⟨.query id "SCAN?", scan⟩, ⟨.query id (reading.command target), value⟩]
  | stepExcitation id channel direction, sent, result =>
    StepSends id channel direction Bridge.ChannelSettings.excitation
      (fun settings next => { settings with excitation := next }) sent result
  | stepRange id channel direction, sent, result =>
    StepSends id channel direction Bridge.ChannelSettings.range
      (fun settings next => { settings with range := next }) sent result
  | setTarget id tesla rate, sent, result =>
    ∃ rated,
      (sent = [⟨.write id ("CONFIGURE:RAMP:RATE:FIELD 1," ++ Number.plain rate ++ ",1;"), rated⟩] ∧
        Fails result) ∨
      ∃ ramped, sent =
        [⟨.write id ("CONFIGURE:RAMP:RATE:FIELD 1," ++ Number.plain rate ++ ",1;"), rated⟩,
          ⟨.write id ("CONFIGURE:FIELD:TARGET " ++ Number.plain tesla ++ ";"), ramped⟩]
  | expandOn id expand, sent, result =>
    ∃ found,
      (sent = [⟨.write id "AOFF 3", found⟩] ∧ Fails result) ∨
      ∃ offset,
        (sent = [⟨.write id "AOFF 3", found⟩, ⟨.query id "OEXP? 3", offset⟩] ∧ Fails result) ∨
        ∃ values expanded, Shows offset values ∧
          sent = [⟨.write id "AOFF 3", found⟩, ⟨.query id "OEXP? 3", offset⟩,
            ⟨.write id ("OEXP 3," ++ Number.plain values.first ++ "," ++ toString expand.code),
              expanded⟩]
  | write id command, sent, _ => ∃ reply, sent = [⟨.write id command, reply⟩]
  | query id command, sent, _ | values id command, sent, _ =>
    ∃ reply, sent = [⟨.query id command, reply⟩]

lemma stepSetting_isCommand {id : String} {channel : Nat} {direction : Direction}
    {index : Bridge.ChannelSettings → Nat}
    {change : Bridge.ChannelSettings → Nat → Bridge.ChannelSettings} :
    Undivided (Bridge.stepSetting id channel direction index change) := by
  refine undivided_withBus (values_isCommand.run_bind fun values => ?_)
  refine (asksOnly_settled _).run_bind fun settings => ?_
  split
  · trivial
  · exact write_isCommand.run_bind fun _ => trivial

/-- An operation is done under one hold of the bus. -/
lemma undivided (o : Operation) : Undivided o.work := by
  cases o with
  | readScanned id pick =>
    refine undivided_withBus (values_isCommand.run_bind fun values => ?_)
    refine (asksOnly_settled _).run_bind fun scan => ?_
    dsimp only
    split
    · trivial
    · exact values_isCommand.run_bind fun _ => trivial
  | stepExcitation | stepRange => exact stepSetting_isCommand
  | setTarget id tesla rate =>
    exact undivided_withBus (write_isCommand.run_bind fun _ => write_isCommand)
  | expandOn id expand =>
    refine undivided_withBus (write_isCommand.run_bind fun _ =>
      values_isCommand.run_bind fun values => ?_)
    split
    · exact write_isCommand.run_bind fun _ => trivial
    · trivial
  | write id command => exact undivided_withBus write_isCommand
  | query id command => exact undivided_withBus query_isCommand
  | values id command => exact undivided_withBus values_isCommand

lemma stepSends_of_ends {id : String} {channel : Nat} {direction : Direction}
    {index : Bridge.ChannelSettings → Nat}
    {change : Bridge.ChannelSettings → Nat → Bridge.ChannelSettings}
    {result : Except DeviceFault (Option Nat)}
    (h : (Bridge.stepSetting id channel direction index change).run.Ends es result) :
    ∃ sent, es = hold sent ∧ StepSends id channel direction index change sent result := by
  obtain ⟨sent, rfl, hbody⟩ := ends_withBus_iff.1 h
  refine ⟨sent, rfl, ?_⟩
  obtain ⟨reply, rest, rfl, ⟨rfl, hfails⟩ | ⟨values, hshows, hrest⟩⟩ := ends_values_bind hbody
  · exact ⟨reply, .inl ⟨rfl, .inl hfails⟩⟩
  refine ⟨reply, ?_⟩
  rcases ends_settled_bind_iff.1 hrest with ⟨fault, -, rfl, rfl⟩ | ⟨settings, hsettings, hrest⟩
  · exact .inl ⟨rfl, .inl ⟨fault, rfl⟩⟩
  have hset : SetTo id reply settings := ⟨values, hshows, hsettings⟩
  cases hstep : Bridge.stepIndex (index settings) direction with
  | none =>
    simp only [hstep] at hrest
    obtain ⟨rfl, rfl⟩ := ends_run_pure_iff.1 hrest
    exact .inl ⟨rfl, .inr ⟨settings, hset, hstep, rfl⟩⟩
  | some next =>
    simp only [hstep] at hrest
    obtain ⟨written, rest, rfl, hend⟩ := ends_write_bind hrest
    obtain rfl : rest = [] := hend.elim And.left fun h => (ends_run_pure_iff.1 h).1
    exact .inr ⟨settings, next, written, hset, hstep, rfl⟩

lemma sends_readScanned {id : String} {pick : Nat → Option (Nat × Bridge.Reading)}
    {result : Except DeviceFault (readScanned id pick).Result}
    (h : (Bridge.readScanned id pick).run.Ends es result) :
    ∃ sent, es = hold sent ∧ (readScanned id pick).Sends sent result := by
  obtain ⟨sent, rfl, hbody⟩ := ends_withBus_iff.1 h
  refine ⟨sent, rfl, ?_⟩
  obtain ⟨scan, rest, rfl, ⟨rfl, hfails⟩ | ⟨values, hshows, hrest⟩⟩ := ends_values_bind hbody
  · exact ⟨scan, .inl ⟨rfl, .inl hfails⟩⟩
  refine ⟨scan, ?_⟩
  rcases ends_settled_bind_iff.1 hrest with
    ⟨fault, -, rfl, rfl⟩ | ⟨⟨channel, autoscan⟩, hparse, hpick⟩
  · exact .inl ⟨rfl, .inl ⟨fault, rfl⟩⟩
  have hon : OnChannel id scan channel := ⟨values, autoscan, hshows, hparse⟩
  cases hpicked : pick channel with
  | none =>
    simp only [hpicked] at hpick
    obtain ⟨rfl, rfl⟩ := ends_run_pure_iff.1 hpick
    exact .inl ⟨rfl, .inr ⟨channel, hon, hpicked, rfl⟩⟩
  | some picked =>
    obtain ⟨target, reading⟩ := picked
    simp only [hpicked] at hpick
    obtain ⟨value, rest, rfl, hend⟩ := ends_values_bind hpick
    obtain rfl : rest = [] :=
      hend.elim And.left fun ⟨_, _, h⟩ => (ends_run_pure_iff.1 h).1
    exact .inr ⟨channel, target, reading, value, hon, hpicked, rfl⟩

lemma sends_expandOn {id : String} {expand : Expand}
    {result : Except DeviceFault (expandOn id expand).Result}
    (h : (Lockin.expandOn id expand).run.Ends es result) :
    ∃ sent, es = hold sent ∧ (expandOn id expand).Sends sent result := by
  obtain ⟨sent, rfl, hbody⟩ := ends_withBus_iff.1 h
  refine ⟨sent, rfl, ?_⟩
  obtain ⟨found, rest, rfl, ⟨rfl, hfails⟩ | hrest⟩ := ends_write_bind hbody
  · exact ⟨found, .inl ⟨rfl, hfails⟩⟩
  obtain ⟨offset, rest, rfl, ⟨rfl, hfails⟩ | ⟨values, hshows, hexpand⟩⟩ := ends_values_bind hrest
  · exact ⟨found, .inr ⟨offset, .inl ⟨rfl, hfails⟩⟩⟩
  refine ⟨found, .inr ⟨offset, ?_⟩⟩
  split at hexpand
  · obtain ⟨expanded, rest, rfl, hend⟩ := ends_write_bind hexpand
    obtain rfl : rest = [] := hend.elim And.left fun h => (ends_run_pure_iff.1 h).1
    exact .inr ⟨values, expanded, hshows, rfl⟩
  · obtain ⟨rfl, rfl⟩ := ends_run_throw_iff.1 hexpand
    exact .inl ⟨rfl, _, rfl⟩

/-- Whatever comes of an operation, it has taken the bus, sent its commands and given the bus
back. -/
theorem sends_of_ends {o : Operation} {result : Except DeviceFault o.Result}
    (h : o.work.run.Ends es result) : ∃ sent, es = hold sent ∧ o.Sends sent result := by
  cases o with
  | readScanned => exact sends_readScanned h
  | stepExcitation | stepRange => exact stepSends_of_ends h
  | setTarget id tesla rate =>
    obtain ⟨sent, rfl, hbody⟩ := ends_withBus_iff.1 h
    refine ⟨sent, rfl, ?_⟩
    obtain ⟨rated, rest, rfl, ⟨rfl, hfails⟩ | hramp⟩ := ends_write_bind hbody
    · exact ⟨rated, .inl ⟨rfl, hfails⟩⟩
    · obtain ⟨ramped, rfl⟩ := ends_write hramp
      exact ⟨rated, .inr ⟨ramped, rfl⟩⟩
  | expandOn => exact sends_expandOn h
  | write id command =>
    obtain ⟨sent, rfl, hbody⟩ := ends_withBus_iff.1 h
    exact ⟨sent, rfl, ends_write hbody⟩
  | query id command =>
    obtain ⟨sent, rfl, hbody⟩ := ends_withBus_iff.1 h
    obtain ⟨reply, rfl, -⟩ := ends_query hbody
    exact ⟨_, rfl, reply, rfl⟩
  | values id command =>
    obtain ⟨sent, rfl, hbody⟩ := ends_withBus_iff.1 h
    obtain ⟨reply, rfl, -⟩ := ends_values hbody
    exact ⟨_, rfl, reply, rfl⟩

end Operation

end CryoRig.Instrument
