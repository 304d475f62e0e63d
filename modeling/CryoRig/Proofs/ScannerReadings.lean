import CryoRig.Proofs.BridgeSteps
import CryoRig.Proofs.Carried
import CryoRig.Proofs.RefrigeratorColumns

/-!
# Readings along the scanner of a simulated bridge

A simulated bridge whose scanner moves by itself goes on to the next channel after it was asked
where the scanner is, and nothing else but a command for the scanner makes it do so. All channels
of a refrigerator are read with one such question at the end, and the channel that is named in the
reply is read right after it. So a reading that fails has not moved the scanner, and one that
succeeds has a value in the column of one channel, the one that the bridge holds for it.

## Main definitions

* `CryoRig.Simulated.Bridge.visited`: the channel after so many questions.
* `CryoRig.Simulated.Bridge.held`: what the bridge holds for a channel.
* `CryoRig.Instrument.Bridge.ForScanner`: a command for a scanner.
* `CryoRig.Instrument.Bridge.OnlyScans`: work that at most asks where a scanner is.
* `CryoRig.Instrument.Bridge.scannerReplies`: what was replied to the questions for the scanner.
* `CryoRig.Instrument.Bridge.Scanning`: what a bridge that scans replies.
* `CryoRig.Site.RefrigeratorWiring.ReadAlong`: what comes of a reading, by where the scanner was.

## Main results

* `CryoRig.Simulated.Bridge.getElem?_visited`: the scanner goes round the thermometers.
* `CryoRig.Simulated.Bridge.scanner_handle`: other commands leave it where it is.
* `CryoRig.Site.RefrigeratorWiring.readAlong_of_readChannels`: a reading asks for it once, and last.
-/

namespace CryoRig

open Process Instrument

/-! ## The scanner of a simulated bridge -/

namespace Simulated.Bridge

variable {b : Bridge} {channel n : Nat} {command : String}

/-- The channel that the scanner is on after so many questions, the first one in the beginning. -/
def visited : Nat → Nat
  | 0 => 1
  | n + 1 => next (visited n)

/-- The scanner goes round the thermometers in their order. -/
theorem getElem?_visited (n : Nat) : thermometers[n % 7]? = some (visited n) := by
  have hnext : ∀ i < 7, ∀ c ∈ thermometers[i]?, thermometers[(i + 1) % 7]? = some (next c) := by
    decide
  induction n with
  | zero => rfl
  | succ n ih =>
    have hn := hnext (n % 7) (Nat.mod_lt n (by decide)) (visited n) ih
    rwa [Nat.mod_add_mod] at hn

lemma visited_mem (n : Nat) : visited n ∈ thermometers := List.mem_of_getElem? (getElem?_visited n)

/-- What the bridge holds for a channel: two of them are plain resistances. -/
def held (channel : Nat) : Float :=
  if channel = 7 ∨ channel = 8 then ohms channel else kelvin channel

/-- What a bridge that scans replies on a channel when it is asked where the scanner is. -/
def placeText (channel : Nat) : String := Number.padded 2 channel ++ "," ++ flag true

/-- Asked where the scanner is, a bridge that scans names the channel and goes on to the next. -/
lemma handle_place (hscan : b.autoscan = true) :
    (handle "SCAN?").run.run b =
      (.ok (some (placeText b.channel)), { b with channel := next b.channel }) := by
  have hscanned : b.scanned = { b with channel := next b.channel } := if_pos hscan
  have hreply : b.scanReply = placeText b.channel := by rw [scanReply, hscan, placeText]
  rw [← hscanned, ← hreply]
  rfl

/-- Put on the first channel, a bridge scans from there on. -/
lemma handle_start (b : Bridge) : ((handle "SCAN 1,1").run.run b).2 =
    { b with channel := visited 0, autoscan := true } := by
  have hone : ((number "1").map fun x => (Number.toByte x, x != 0)).toOption =
      some (1, true) := by
    decide +kernel
  have hnone : ∀ name ∈ ["RDGK? ", "RDGR? ", "RDGRNG? ", "RDGRNG "],
      argument? "SCAN 1,1" name = none := by
    decide
  have hargument : argument? "SCAN 1,1" "SCAN " = some "1,1" := by decide
  have hfields : fields "1,1" = ["1", "1"] := by decide
  simp only [List.forall_mem_cons] at hnone
  obtain ⟨hkelvin, hohms, hask, hset, -⟩ := hnone
  unfold handle
  simp only [hkelvin, hohms, hask, hset, hargument, hfields]
  cases hnumber : number "1" with
  | error fault =>
    rw [hnumber] at hone
    cases hone
  | ok x =>
    rw [hnumber] at hone
    obtain ⟨hchannel, hflag⟩ := Prod.mk.inj (Option.some.inj hone)
    have hfirst : number (["1", "1"][0]?.getD "6") = .ok x := hnumber
    have hsecond : number (["1", "1"][1]?.getD "0") = .ok x := hnumber
    rw [hfirst, hsecond, ← hflag]
    change { b with channel := Number.toByte x, autoscan := x != 0 } = _
    rw [hchannel]
    rfl

section Answers

variable {α β : Type} {x : Answering Bridge α} {f : α → Answering Bridge β} {b' : Bridge}

/-- An answer goes on where its first part has left the bridge. -/
lemma run_bind_of_ok {a : α} (h : x.run.run b = (.ok a, b')) :
    (x >>= f).run.run b = (f a).run.run b' := by
  rw [ExceptT.run_bind, StateT.run_bind, h]
  rfl

/-- It ends with the fault of its first part. -/
lemma run_bind_of_error {fault : DeviceFault} (h : x.run.run b = (.error fault, b')) :
    (x >>= f).run.run b = (.error fault, b') := by
  rw [ExceptT.run_bind, StateT.run_bind, h]
  rfl

/-- To read the fields of a command does nothing to the bridge. -/
lemma exists_mapM_number (texts : List String) :
    ∃ result, ((texts.mapM fun text =>
      (liftM (number text) : Answering Bridge Float)).run.run b) = (result, b) := by
  induction texts with
  | nil => exact ⟨_, rfl⟩
  | cons text texts ih =>
    obtain ⟨result, hresult⟩ := ih
    rw [List.mapM_cons]
    cases hnumber : number text with
    | error fault => exact ⟨.error fault, rfl⟩
    | ok x =>
      have hx : (liftM (Except.ok x : Except DeviceFault Float) :
          Answering Bridge Float).run.run b = (.ok x, b) := rfl
      rw [run_bind_of_ok hx]
      cases result with
      | error fault => exact ⟨.error fault, run_bind_of_error hresult⟩
      | ok xs => exact ⟨.ok (x :: xs), run_bind_of_ok hresult⟩

end Answers

/-- Told anything that is not for the scanner, the bridge leaves it alone. -/
theorem scanner_handle (hplace : command ≠ "SCAN?") (hset : ¬"SCAN ".toList <+: command.toList) :
    ((handle command).run.run b).2.channel = b.channel ∧
      ((handle command).run.run b).2.autoscan = b.autoscan := by
  have hnone : argument? command "SCAN " = none := Instrument.Bridge.argument?_eq_none hset
  unfold handle
  simp only [hnone]
  change ((if command = "SCAN?" then _ else _ : Answering Bridge (Option String)).run.run
    b).2.channel = _ ∧ ((if command = "SCAN?" then _ else _ : Answering Bridge
      (Option String)).run.run b).2.autoscan = _
  rw [if_neg hplace]
  split
  · exact ⟨rfl, rfl⟩
  split
  · exact ⟨rfl, rfl⟩
  split
  · next channel _ => cases number channel <;> exact ⟨rfl, rfl⟩
  split
  · next channel _ => cases number channel <;> exact ⟨rfl, rfl⟩
  split
  · next channel _ => cases number channel <;> exact ⟨rfl, rfl⟩
  split
  · next values _ =>
    obtain ⟨result, hresult⟩ := exists_mapM_number (b := b) (fields values)
    cases result with
    | error fault =>
      rw [run_bind_of_error hresult]
      exact ⟨rfl, rfl⟩
    | ok xs =>
      rw [run_bind_of_ok hresult]
      split <;> exact ⟨rfl, rfl⟩
  split
  · next value _ => cases number value <;> exact ⟨rfl, rfl⟩
  split
  · next value _ => cases number value <;> exact ⟨rfl, rfl⟩
  split <;> exact ⟨rfl, rfl⟩

end Simulated.Bridge

namespace Instrument.Bridge

open Transport Simulated.Bridge Control

variable {b : Simulated.Bridge} {channel latency : Nat} {id : String}

/-! ## What is read along the scanner -/

/-- What a simulated bridge holds for a reading of a channel. -/
def Reading.held : Reading → Nat → Float
  | kelvin, channel => Simulated.Bridge.kelvin channel
  | ohms, channel => Simulated.Bridge.ohms channel

lemma argument?_digits (name : String) (n : Nat) :
    Simulated.argument? (name ++ toString n) name = some (toString n) := by
  rw [argument?_append, Text.trimChars_eq_self, String.ofList_toList]
  simpa using fun c hc => not_isBlank_of_mem_digits (n := n) c hc

/-- Asked for a reading of a channel, the bridge says what it holds. -/
lemma handle_reading (reading : Reading) (h : channel ≤ Number.byteMax) :
    (Simulated.Bridge.handle (reading.command channel)).run.run b =
      (.ok (some (Number.scientific (reading.held channel))), b) := by
  obtain ⟨x, hx, hbyte⟩ := number_digits h
  have hkelvin : Reading.kelvin.command channel = "RDGK? " ++ toString channel := rfl
  have hohms : Reading.ohms.command channel = "RDGR? " ++ toString channel := rfl
  obtain ⟨hplace, hramp, hheater⟩ : reading.command channel ≠ "SCAN?" ∧
      reading.command channel ≠ "RAMPST?" ∧ reading.command channel ≠ "MOUT?" := by
    refine ⟨fun heq => ?_, fun heq => ?_, fun heq => ?_⟩
    all_goals
      have hchars := congrArg String.toList heq
      cases reading <;> simp [hkelvin, hohms] at hchars
  unfold Simulated.Bridge.handle
  simp only [hplace, hramp, hheater, if_false]
  cases reading with
  | kelvin =>
    rw [hkelvin, argument?_digits]
    simp only [hx]
    change (Except.ok (some (Number.scientific (Simulated.Bridge.kelvin (Number.toByte x)))), b) = _
    rw [hbyte]
    rfl
  | ohms =>
    have hnone : Simulated.argument? ("RDGR? " ++ toString channel) "RDGK? " = none :=
      argument?_eq_none (by simp)
    rw [hohms, hnone, argument?_digits]
    simp only [hx]
    change (Except.ok (some (Number.scientific (Simulated.Bridge.ohms (Number.toByte x)))), b) = _
    rw [hbyte]
    rfl

/-- A channel with a thermometer is read for its temperature or its resistance, and the bridge holds
that for it. -/
lemma scanReading_of_mem (h : channel ∈ thermometers) : ∃ reading : Reading,
    Site.scanReading channel = some (channel, reading) ∧ reading.held channel = held channel := by
  have hall : ∀ c ∈ thermometers, Site.scanReading c =
      some (c, if c = 7 ∨ c = 8 then Reading.ohms else Reading.kelvin) := by decide
  refine ⟨_, hall channel h, ?_⟩
  unfold held
  split <;> rfl

lemma le_byteMax_of_mem (h : channel ∈ thermometers) : channel ≤ Number.byteMax := by
  have hall : ∀ c ∈ thermometers, c ≤ Number.byteMax := by decide
  exact hall channel h

/-- The driver reads the channel from the reply. -/
lemma parseScan_place (id : String) (h : channel ∈ thermometers) :
    ∃ v, parseValues (placeText channel) = .ok v ∧ parseScan id v = .ok (channel, true) := by
  have hall : ∀ c ∈ thermometers, ((parseValues (placeText c)).map fun v =>
      (Number.toByte v.first, v.rest.map (· != 0))).toOption = some (c, [true]) := by
    decide +kernel
  have hread := hall channel h
  cases hv : parseValues (placeText channel) with
  | error fault =>
    rw [hv] at hread
    cases hread
  | ok v =>
    rw [hv] at hread
    obtain ⟨hchannel, hflag⟩ := Prod.mk.inj (Option.some.inj hread)
    obtain ⟨flag, hrest, hflag⟩ := List.map_eq_singleton_iff.1 hflag
    refine ⟨v, rfl, ?_⟩
    unfold parseScan
    rw [hrest]
    exact congrArg Except.ok (Prod.ext hchannel hflag)

/-- It reads back what the bridge holds. -/
lemma first_of_held (h : channel ∈ thermometers) :
    ∃ v, parseValues (Number.scientific (held channel)) = .ok v ∧ v.first = held channel := by
  have hall : ∀ c ∈ thermometers, ((parseValues (Number.scientific (held c))).map
      Values.first).toOption = some (held c) := by
    decide +kernel
  have hread := hall channel h
  cases hv : parseValues (Number.scientific (held channel)) with
  | error fault =>
    rw [hv] at hread
    cases hread
  | ok v =>
    rw [hv] at hread
    exact ⟨v, rfl, Option.some.inj hread⟩

/-! ## What a scanner is asked -/

/-- A command for the scanner: where it is, or where it shall go. -/
def ForScanner (command : String) : Prop := command = "SCAN?" ∨ "SCAN ".toList <+: command.toList

/-- What is asked for is nothing to a scanner. -/
def OffScanner : Request → Prop
  | .write _ command | .query _ command => ¬ForScanner command
  | _ => True

/-- At most it is asked where a scanner is. -/
def OnlyScans : Request → Prop
  | .write _ command => ¬ForScanner command
  | .query _ command => ForScanner command → command = "SCAN?"
  | _ => True

lemma OffScanner.onlyScans (r : Request) (h : OffScanner r) : OnlyScans r := by
  cases r with
  | write id command => exact h
  | query id command => exact fun hscan => absurd hscan h
  | _ => trivial

/-- Of what is asked of a rig, each request of a driver has a property. -/
def OnDevices (P : Request → Prop) : Control.Request → Prop
  | .device r => P r
  | _ => True

/-- What was replied to a question for the scanner of a bridge. -/
def scannerReply? (id : String) :
    Exchange RigSurroundings → Option (Option (Except DeviceFault String))
  | ⟨.device (.query id' command), reply⟩ =>
    if id' = id ∧ command = "SCAN?" then some reply else none
  | _ => none

/-- What was replied to the questions for the scanner of a bridge, in order. -/
def scannerReplies (id : String) (es : List (Exchange RigSurroundings)) :
    List (Option (Except DeviceFault String)) :=
  es.filterMap (scannerReply? id)

/-- What is replied by a bridge that scans: it names a thermometer, and says what it holds. -/
structure Scanning (id : String) (e : Exchange RigSurroundings) : Prop where
  /-- Where the scanner is. -/
  place : ∀ reply, e = ⟨.device (.query id "SCAN?"), reply⟩ →
    ∃ c ∈ thermometers, reply = some (.ok (placeText c))
  /-- What is read from a channel. -/
  reading : ∀ (quantity : Reading) (c : Nat) reply, c ≤ Number.byteMax →
    e = ⟨.device (.query id (quantity.command c)), reply⟩ →
    reply = some (.ok (Number.scientific (quantity.held c)))

section OffScanner

variable {es es' : List (Exchange RigSurroundings)} {command : String}

@[simp] lemma scannerReplies_append :
    scannerReplies id (es ++ es') = scannerReplies id es ++ scannerReplies id es' :=
  List.filterMap_append

/-- A question for the scanner. -/
lemma scannerReplies_place (reply : Option (Except DeviceFault String)) :
    scannerReplies id [onRig ⟨.query id "SCAN?", reply⟩] = [reply] := by
  have hreply : scannerReply? id (onRig ⟨.query id "SCAN?", reply⟩) = some reply :=
    if_pos ⟨rfl, rfl⟩
  rw [scannerReplies, List.filterMap_cons_some hreply, List.filterMap_nil]

/-- Nothing else has a reply from the scanner. -/
lemma scannerReply?_eq_none {e : Exchange RigSurroundings}
    (h : e.request ≠ .device (.query id "SCAN?")) : scannerReply? id e = none := by
  obtain ⟨r, reply⟩ := e
  cases r with
  | device r =>
    cases r with
    | query id' command =>
      refine if_neg ?_
      rintro ⟨rfl, rfl⟩
      exact h rfl
    | _ => rfl
  | _ => rfl

/-- Whoever leaves scanners alone has no reply from one. -/
lemma scannerReplies_eq_nil (h : ∀ e ∈ es, OnDevices OffScanner e.request) :
    scannerReplies id es = [] := by
  refine List.filterMap_eq_nil_iff.2 fun e he => scannerReply?_eq_none fun heq => ?_
  have hoff := h e he
  rw [heq] at hoff
  exact hoff (.inl rfl)

lemma offScanner_query (h : ¬ForScanner command) : (query id command).run.AsksOnly OffScanner :=
  asksOnly_withBus trivial trivial (asksOnly_query h)

lemma offScanner_values (h : ¬ForScanner command) : (values id command).run.AsksOnly OffScanner :=
  asksOnly_withBus trivial trivial ((asksOnly_query h).run_bind fun _ => asksOnly_settled _)

lemma offScanner_number (h : ¬ForScanner command) : (number id command).run.AsksOnly OffScanner :=
  (offScanner_values h).run_bind fun _ => trivial

lemma offScanner_whole {limit : Nat} (h : ¬ForScanner command) :
    (whole id command limit).run.AsksOnly OffScanner :=
  (offScanner_query h).run_bind fun _ => asksOnly_settled _

lemma offScanner_reading (quantity : Reading) : ¬ForScanner (quantity.command channel) := by
  rintro (h | h)
  · have hchars := congrArg String.toList h
    cases quantity <;> simp [Reading.command, toString] at hchars
  · cases quantity <;> simp [Reading.command, toString] at h

lemma offScanner_signal : (Lockin.signal id).run.AsksOnly OffScanner := by
  refine (offScanner_values (by unfold ForScanner; decide)).run_bind fun values => ?_
  split <;> trivial

lemma offScanner_status : (Lockin.status id).run.AsksOnly OffScanner :=
  (offScanner_whole (by unfold ForScanner; decide)).run_bind fun _ => trivial

lemma offScanner_rangeUp : (Lockin.rangeUp id).run.AsksOnly OffScanner := by
  refine (offScanner_whole (by unfold ForScanner; decide)).run_bind fun current => ?_
  split
  · trivial
  · have hcommand : OffScanner (.write id s!"SENS {current + 1}") := by
      rintro (h | h)
      · have hchars := congrArg String.toList h
        simp [toString] at hchars
      · simp [toString] at h
    exact (asksOnly_withBus trivial trivial (asksOnly_write hcommand)).run_bind fun _ => trivial

end OffScanner

/-! ## A reading of the scanner -/

section Readings

variable {said : List (Exchange Surroundings)} {command : String}

/-- After a query for numbers the work goes on with what the reply shows. -/
lemma ends_values_bind {α : Type} {f : Values → Driving α} {result : Except DeviceFault α}
    (h : (Held.values id command >>= f).run.Ends said result) :
    ∃ reply rest, said = ⟨.query id command, reply⟩ :: rest ∧
      ∀ v, Shows reply v → (f v).run.Ends rest result := by
  rw [ExceptT.run_bind] at h
  obtain ⟨es₁, es₂, value, rfl, hvalue, hrest⟩ := ends_bind_iff.1 h
  obtain ⟨reply, rest, rfl, hend⟩ := ends_ask_iff.1 hvalue
  change (outcome id (.querying id command) reply >>= fun text =>
    settled ((parseValues text).mapError (.during (.reading id command)))).run.Ends rest value
      at hend
  refine ⟨reply, rest ++ es₂, rfl, ?_⟩
  rintro v ⟨text, rfl, hv⟩
  obtain ⟨rfl, rfl⟩ := ends_done_iff.1 hend
  rw [hv] at hrest
  exact hrest

/-- A reading along the scanner is one of the channel that the scanner names, and it does not
fail. -/
lemma ends_readScanned {result : Except DeviceFault (Nat × Option Float)}
    (h : (readScanned id Site.scanReading).run.Ends said result)
    (hscan : ∀ e ∈ said, Scanning id (onRig e)) :
    ∃ c ∈ thermometers, scannerReplies id (said.map onRig) = [some (.ok (placeText c))] ∧
      result = .ok (c, some (held c)) := by
  obtain ⟨sent, rfl, hbody⟩ := ends_withBus_iff.1 h
  have hsent (e : Exchange Surroundings) (he : e ∈ sent) : Scanning id (onRig e) :=
    hscan e (List.mem_cons_of_mem _ (List.mem_append_left _ he))
  -- the scanner names a thermometer, and that is picked
  obtain ⟨reply, rest, rfl, hrest⟩ := ends_values_bind hbody
  obtain ⟨c, hc, rfl⟩ := (hsent _ List.mem_cons_self).place reply rfl
  obtain ⟨v, hv, hparse⟩ := parseScan_place id hc
  obtain ⟨quantity, hpick, hheld⟩ := scanReading_of_mem hc
  rcases ends_settled_bind_iff.1 (hrest v ⟨_, rfl, hv⟩) with ⟨fault, hfault, -⟩ | ⟨scan, hok, hread⟩
  · rw [hparse] at hfault
    cases hfault
  obtain rfl : scan = (c, true) := Except.ok.inj (hok.symm.trans hparse)
  simp only [hpick] at hread
  -- it is read, and the bridge says what it holds
  obtain ⟨reply, rest, rfl, hshown⟩ := ends_values_bind hread
  have hreading := (hsent ⟨.query id (quantity.command c), reply⟩ (by simp)).reading
  obtain rfl := hreading quantity c reply (le_byteMax_of_mem hc) rfl
  obtain ⟨v, hv, hfirst⟩ := first_of_held hc
  rw [← hheld] at hv
  obtain ⟨rfl, rfl⟩ := ends_run_pure_iff.1 (hshown v ⟨_, rfl, hv⟩)
  refine ⟨c, hc, ?_, by rw [hfirst]⟩
  have hvalue : scannerReplies id [onRig ⟨.query id (quantity.command c),
      some (.ok (Number.scientific (quantity.held c)))⟩, onRig released] = [] :=
    scannerReplies_eq_nil (List.forall_mem_cons.2
      ⟨offScanner_reading quantity, List.forall_mem_singleton.2 trivial⟩)
  have hseized : scannerReplies id [onRig seized] = [] := rfl
  change scannerReplies id ([onRig seized] ++ ([onRig ⟨.query id "SCAN?", _⟩] ++
    [onRig ⟨.query id (quantity.command c), _⟩, onRig released])) = _
  rw [scannerReplies_append, scannerReplies_append, hvalue, scannerReplies_place, hseized]
  rfl

end Readings

end Instrument.Bridge

namespace Site

open Instrument.Bridge Simulated.Bridge Control

/-! ## All channels of a refrigerator -/

section Channels

variable {said : List (Exchange Surroundings)} {w : RefrigeratorWiring}

lemma offScanner_onLockin {α : Type} {site : String} {ids : List String} {index : Nat}
    {work : String → Driving α} (h : ∀ id, (work id).run.AsksOnly OffScanner) :
    (onLockin site ids index work).run.AsksOnly OffScanner := by
  unfold onLockin
  split
  · exact h _
  · trivial

lemma offScanner_readLockins (ids : List String) : (readLockins ids).run.AsksOnly OffScanner := by
  have hslots (places : Nat) (ids : List String) :
      (readSlots places ids).run.AsksOnly OffScanner := by
    induction places generalizing ids with
    | zero => trivial
    | succ places ih =>
      cases ids with
      | nil => exact (ih []).run_bind fun _ => trivial
      | cons id ids =>
        exact offScanner_signal.run_bind fun _ => (ih ids).run_bind fun _ => trivial
  exact hslots _ ids

namespace RefrigeratorWiring

lemma offScanner_readCommon : w.readCommon.run.AsksOnly OffScanner := by
  have hreading (instrument : Option String) {read : String → Driving Float}
      (h : ∀ id, (read id).run.AsksOnly OffScanner) :
      (reading instrument read).run.AsksOnly OffScanner := by
    cases instrument with
    | some id => exact (h id).run_bind fun _ => trivial
    | none => trivial
  refine (offScanner_readLockins _).run_bind fun _ => ?_
  refine (hreading w.magnet fun _ => ?_).run_bind fun _ => ?_
  · exact offScanner_number (by unfold ForScanner; decide)
  refine (hreading _ fun _ => ?_).run_bind fun _ => trivial
  exact offScanner_number (offScanner_reading .ohms)

/-- Looking after a lock-in leaves the scanner alone. -/
lemma offScanner_perform {a : Action} (h : WorkRequest.Checks (.act a)) :
    ((refrigerator w).perform a).AsksOnly OffScanner := by
  cases a with
  | lockinStatus index => exact offScanner_onLockin fun _ => offScanner_status
  | rangeUp index => exact offScanner_onLockin fun _ => offScanner_rangeUp
  | _ => exact h.elim

/-- A reading along the scanner at most asks where the scanner is. -/
lemma onlyScans_readChannels : (w.readChannels .autoscan).run.AsksOnly OnlyScans := by
  refine (offScanner_readCommon.mono OffScanner.onlyScans).run_bind fun _ => ?_
  rw [if_pos rfl]
  refine AsksOnly.run_bind (AsksOnly.run_bind ?_ fun scan => ?_) fun _ => trivial
  · refine asksOnly_withBus trivial trivial (AsksOnly.run_bind ?_ fun v => ?_)
    · exact (asksOnly_query fun _ => rfl).run_bind fun _ => asksOnly_settled _
    refine (asksOnly_settled _).run_bind fun scan => ?_
    dsimp only
    split
    · trivial
    · next target quantity _ =>
      have hoff : OnlyScans (.query w.bridge (quantity.command target)) :=
        fun hscan => absurd hscan (offScanner_reading quantity)
      exact ((asksOnly_query hoff).run_bind fun _ => asksOnly_settled _).run_bind fun _ => trivial
  · dsimp only
    split
    · exact ⟨trivial, fun _ => trivial⟩
    · trivial

/-- Along a scanner that names a thermometer, that is read, and has the one value. -/
lemma ends_readScan {result : Except DeviceFault (List (Option Float))}
    (h : w.readScan.run.Ends said result) (hscan : ∀ e ∈ said, Scanning w.bridge (onRig e)) :
    ∃ c ∈ thermometers,
      scannerReplies w.bridge (said.map onRig) = [some (.ok (placeText c))] ∧
      result = .ok (scanColumns c (some (held c))) := by
  rcases ends_run_bind_iff.1 h with ⟨fault, hfault, -⟩ | ⟨es₁, es₂, ⟨channel, x⟩, rfl, h₁, h₂⟩
  · obtain ⟨c, -, -, hok⟩ := ends_readScanned hfault hscan
    cases hok
  obtain ⟨c, hc, hreplies, hok⟩ := ends_readScanned h₁ fun e he =>
    hscan e (List.mem_append_left _ he)
  cases hok
  have hmem : channel ∈ scanOrder := hc
  dsimp only at h₂
  rw [if_neg (not_not_intro hmem)] at h₂
  obtain ⟨rfl, rfl⟩ := ends_run_pure_iff.1 h₂
  exact ⟨channel, hc, by rw [List.append_nil, hreplies], rfl⟩

/-- What comes of a reading of all channels, by what was replied to it where the scanner is. -/
inductive ReadAlong (w : RefrigeratorWiring) (es : List (Exchange RigSurroundings)) :
    Except DeviceFault (List (Option Float)) → Prop where
  /-- It failed, and did not ask where the scanner is. -/
  | failed (fault : DeviceFault) (unasked : scannerReplies w.bridge es = []) :
    ReadAlong w es (.error fault)
  /-- It was told the place of one thermometer, and of the columns along the scanner the one of this
  thermometer has what the bridge holds for it. -/
  | reading {channel : Nat} {values : List (Option Float)} (thermometer : channel ∈ thermometers)
    (place : scannerReplies w.bridge es = [some (.ok (placeText channel))])
    (columns : ∀ c ∈ scanOrder, (w.layout .autoscan).reading? values ("T" ++ toString c) =
      some (if c = channel then some (held channel) else none)) : ReadAlong w es (.ok values)

lemma ReadAlong.of_eq {es es' : List (Exchange RigSurroundings)}
    {result : Except DeviceFault (List (Option Float))} (h : w.ReadAlong es result)
    (heq : scannerReplies w.bridge es' = scannerReplies w.bridge es) : w.ReadAlong es' result := by
  cases h with
  | failed fault unasked => exact .failed fault (heq.trans unasked)
  | reading thermometer place columns => exact .reading thermometer (heq.trans place) columns

/-- **A reading of all channels asks for the scanner once, and last.** So it has not asked if it
fails, as the bridge says where the scanner is and what it holds. -/
theorem readAlong_of_readChannels {result : Except DeviceFault (List (Option Float))}
    (h : (w.readChannels .autoscan).run.Ends said result)
    (hscan : ∀ e ∈ said, Scanning w.bridge (onRig e)) : w.ReadAlong (said.map onRig) result := by
  rcases ends_run_bind_iff.1 h with ⟨fault, hfault, rfl⟩ | ⟨es₁, es₂, common, rfl, h₁, h₂⟩
  · have hoff := offScanner_readCommon.of_leads hfault
    exact .failed fault (scannerReplies_eq_nil (List.forall_mem_map.2 hoff))
  have hoff := offScanner_readCommon.of_leads h₁
  have hscan₂ (e : Exchange Surroundings) (he : e ∈ es₂) : Scanning w.bridge (onRig e) :=
    hscan e (List.mem_append_right _ he)
  have hreplies : scannerReplies w.bridge ((es₁ ++ es₂).map onRig) =
      scannerReplies w.bridge (es₂.map onRig) := by
    rw [List.map_append, scannerReplies_append,
      scannerReplies_eq_nil (List.forall_mem_map.2 hoff), List.nil_append]
  rw [if_pos rfl] at h₂
  rcases ends_run_bind_iff.1 h₂ with ⟨fault, hfault, -⟩ | ⟨es₃, es₄, others, rfl, h₃, h₄⟩
  · obtain ⟨c, -, -, hok⟩ := ends_readScan hfault hscan₂
    cases hok
  obtain ⟨rfl, rfl⟩ := ends_run_pure_iff.1 h₄
  rw [List.append_nil] at hscan₂ hreplies
  obtain ⟨c, hc, hplace, hok⟩ := ends_readScan h₃ hscan₂
  cases hok
  obtain ⟨signals, tesla, ohms, -, -, -, rfl, hsignals, -⟩ := parts_of_readCommon h₁
  refine .reading hc (by rw [List.append_nil, hreplies, hplace]) fun d hd => ?_
  obtain ⟨i, hi⟩ := List.mem_iff_getElem?.1 hd
  have hlt : i < 7 := (List.getElem?_eq_some_iff.1 hi).1
  have hcommon : (signals ++ [tesla, ohms]).length = 10 := by simp [hsignals]
  rw [Layout.reading?_eq (indexOf_scan i hlt d hi), List.getElem?_append_right (by omega), hcommon,
    Nat.add_sub_cancel_left, scanColumns, List.getElem?_map, hi, Option.map_some]

end RefrigeratorWiring

end Channels

end Site

end CryoRig
