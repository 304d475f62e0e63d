import CryoRig.Proofs.Operations
import CryoRig.Proofs.ReplyFields

/-!
# Replies of so many numbers

Some replies are only understood if they have as many numbers as were asked for. Whoever asks for
one refuses a reply that cannot be read or has more or fewer numbers, and sends nothing after it. Of
any other reply each number is taken from its own place, in what comes of the work and in the
commands that are sent because of it.

## Main definitions

* `CryoRig.Instrument.Counted`: what drivers do with a reply of so many numbers.
* `CryoRig.Instrument.Counted.said`: what is said if they get a certain reply.
* `CryoRig.Instrument.Counted.Takes`: how the work goes on with the numbers of a reply.

## Main results

* `CryoRig.Instrument.Counted.ends_work_iff`: what comes of a reply, by what is read from it.
* `CryoRig.Instrument.Counted.takes_of_ends`: work that succeeds got as many numbers as it needs.
* `CryoRig.Instrument.counted_replies`: what comes of a reply, by the texts that it is made of.
-/

namespace CryoRig.Instrument

open Process

variable {α β : Type} {id command reply : String} {es more sent : List (Exchange Surroundings)}

/-! ## What drivers do -/

/-- What drivers do with a reply of so many numbers. -/
inductive Counted where
  /-- Read amplitude and phase of a lock-in. -/
  | signal
  /-- Read both parts, amplitude and phase of a lock-in. -/
  | snapshot
  /-- Ask where the scanner of a bridge is. -/
  | scanner
  /-- Read what is picked for the channel that a scanner is on. -/
  | readScanned (pick : Nat → Option (Nat × Bridge.Reading))
  /-- Ask for the settings of a channel. -/
  | channelSettings (channel : Nat)
  /-- Step the excitation of a channel. -/
  | stepExcitation (channel : Nat) (direction : Direction)
  /-- Step the resistance range of a channel. -/
  | stepRange (channel : Nat) (direction : Direction)
  /-- Let a lock-in find an offset and expand around it. -/
  | expandOn (expand : Expand)

namespace Counted

/-- What comes of it. -/
abbrev Result : Counted → Type
  | signal => Float × Float
  | snapshot => Float × Float × Float × Float
  | scanner => Nat × Bool
  | readScanned _ => Nat × Option Float
  | channelSettings _ => Bridge.ChannelSettings
  | stepExcitation .. | stepRange .. => Option Nat
  | expandOn _ => Float

/-- The work itself. -/
def work (id : String) : (d : Counted) → Driving d.Result
  | signal => Lockin.signal id
  | snapshot => Lockin.snapshot id
  | scanner => Bridge.scanner id
  | readScanned pick => Bridge.readScanned id pick
  | channelSettings channel => Bridge.channelSettings id channel
  | stepExcitation channel direction => Bridge.stepExcitation id channel direction
  | stepRange channel direction => Bridge.stepRange id channel direction
  | expandOn expand => Lockin.expandOn id expand

/-- The name of what is asked for. -/
def name : Counted → String
  | signal | snapshot => "SNAP?"
  | scanner | readScanned _ => "SCAN?"
  | channelSettings _ | stepExcitation .. | stepRange .. => "RDGRNG?"
  | expandOn _ => "OEXP?"

/-- The command that asks for it. -/
def query : Counted → String
  | signal => "SNAP? 3,4"
  | snapshot => "SNAP? 1,2,3,4"
  | scanner | readScanned _ => "SCAN?"
  | channelSettings channel | stepExcitation channel _ | stepRange channel _ =>
    s!"RDGRNG? {channel}"
  | expandOn _ => "OEXP? 3"

/-- How many numbers the reply has. -/
def count : Counted → Nat
  | signal | scanner | readScanned _ | expandOn _ => 2
  | snapshot => 4
  | channelSettings _ | stepExcitation .. | stepRange .. => 5

/-- What is said before. -/
def before (id : String) : Counted → List (Exchange Surroundings)
  | expandOn _ => [⟨.write id "AOFF 3", some (.ok ())⟩]
  | _ => []

/-- What is said under one hold of the bus, if the reply is a given one, and more after it. -/
def said (id reply : String) (more : List (Exchange Surroundings)) (d : Counted) :
    List (Exchange Surroundings) :=
  hold (d.before id ++ ⟨.query id d.query, some (.ok reply)⟩ :: more)

/-- The settings that five numbers stand for. -/
def SettingsOf (xs : List Float) (s : Bridge.ChannelSettings) : Prop :=
  xs.map Number.toByte = [s.mode, s.excitation, s.range, s.autorange, s.excitationOff]

/-- How a step goes on with the settings of a channel: there is no further index, or they are set
anew with the next one. -/
def StepTakes (id : String) (channel : Nat) (direction : Direction)
    (index : Bridge.ChannelSettings → Nat)
    (change : Bridge.ChannelSettings → Nat → Bridge.ChannelSettings) (xs : List Float)
    (more : List (Exchange Surroundings)) (result : Except DeviceFault (Option Nat)) : Prop :=
  ∃ s, SettingsOf xs s ∧
    match Bridge.stepIndex (index s) direction with
    | none => more = [] ∧ result = .ok none
    | some next =>
      ∃ written, (Held.write id ((change s next).command channel)).run.Ends more written ∧
        result = written.map fun _ => some next

/-- How the work goes on with the numbers of a reply: what else is said, and what comes of it. -/
def Takes (id : String) : (d : Counted) → List Float → List (Exchange Surroundings) →
    Except DeviceFault d.Result → Prop
  | signal, xs, more, result =>
    ∃ amplitude phase, xs = [amplitude, phase] ∧ more = [] ∧ result = .ok (amplitude, phase)
  | snapshot, xs, more, result =>
    ∃ x y amplitude phase, xs = [x, y, amplitude, phase] ∧ more = [] ∧
      result = .ok (x, y, amplitude, phase)
  | scanner, xs, more, result =>
    ∃ channel autoscan, xs = [channel, autoscan] ∧ more = [] ∧
      result = .ok (Number.toByte channel, autoscan != 0)
  | readScanned pick, xs, more, result =>
    ∃ channel autoscan, xs = [channel, autoscan] ∧
      match pick (Number.toByte channel) with
      | none => more = [] ∧ result = .ok (Number.toByte channel, none)
      | some (target, reading) =>
        ∃ read, (Held.values id (reading.command target)).run.Ends more read ∧
          result = read.map fun v => (Number.toByte channel, some v.first)
  | channelSettings _, xs, more, result => ∃ s, SettingsOf xs s ∧ more = [] ∧ result = .ok s
  | stepExcitation channel direction, xs, more, result =>
    StepTakes id channel direction Bridge.ChannelSettings.excitation
      (fun s next => { s with excitation := next }) xs more result
  | stepRange channel direction, xs, more, result =>
    StepTakes id channel direction Bridge.ChannelSettings.range
      (fun s next => { s with range := next }) xs more result
  | expandOn expand, xs, more, result =>
    ∃ offset old, xs = [offset, old] ∧
      ∃ written, (Held.write id
          ("OEXP 3," ++ Number.plain offset ++ "," ++ toString expand.code)).run.Ends more written ∧
        result = written.map fun _ => offset

/-- The work only goes on with as many numbers as were asked for. -/
lemma Takes.length_eq {d : Counted} {xs : List Float} {result : Except DeviceFault d.Result}
    (h : d.Takes id xs more result) : xs.length = d.count := by
  cases d with
  | signal | scanner | readScanned | expandOn =>
    obtain ⟨_, _, rfl, -⟩ := h
    rfl
  | snapshot =>
    obtain ⟨_, _, _, _, rfl, -⟩ := h
    rfl
  | channelSettings | stepExcitation | stepRange =>
    obtain ⟨s, hs, -⟩ := h
    have hlen := congrArg List.length hs
    rwa [List.length_map] at hlen

/-- The work is refused its reply, as that has more or fewer numbers than it should. -/
def Refuses (id : String) (d : Counted) (got : Nat) (more : List (Exchange Surroundings))
    (result : Except DeviceFault d.Result) : Prop :=
  got ≠ d.count ∧ more = [] ∧ result = .error (.wrongCount id d.name d.count got)

end Counted

/-! ## After a reply -/

lemma ends_withBus_hold_iff {body : Driving α} {result : Except DeviceFault α} :
    (withBus body).run.Ends (hold sent) result ↔ body.run.Ends sent result := by
  rw [ends_withBus_iff]
  constructor
  · rintro ⟨sent', heq, hbody⟩
    simp only [hold, List.cons.injEq, List.append_left_inj, true_and] at heq
    exact heq ▸ hbody
  · exact fun hbody => ⟨sent, rfl, hbody⟩

/-- What asks for nothing may as well come before the bus is given back. -/
lemma ends_withBus_bind_iff {body : Driving α} {f : α → Driving β} {result : Except DeviceFault β}
    (hf : ∀ a, (f a).run.AsksOnly fun _ => False) :
    (withBus body >>= f).run.Ends es result ↔ (withBus (body >>= f)).run.Ends es result := by
  have hsilent {a : α} {es : List (Exchange Surroundings)} (h : (f a).run.Ends es result) :
      es = [] := List.eq_nil_iff_forall_not_mem.2 ((hf a).of_leads h)
  rw [ends_withBus_iff, ends_run_bind_iff]
  constructor
  · rintro (⟨fault, hbody, rfl⟩ | ⟨es₁, es₂, a, rfl, hbody, hend⟩)
    · obtain ⟨sent, rfl, hsent⟩ := ends_withBus_iff.1 hbody
      exact ⟨sent, rfl, ends_run_bind_iff.2 (.inl ⟨fault, hsent, rfl⟩)⟩
    · obtain ⟨sent, rfl, hsent⟩ := ends_withBus_iff.1 hbody
      obtain rfl := hsilent hend
      refine ⟨sent, List.append_nil _, ends_run_bind_iff.2 (.inr ?_)⟩
      exact ⟨sent, [], a, (List.append_nil _).symm, hsent, hend⟩
  · rintro ⟨sent, rfl, hend⟩
    rcases ends_run_bind_iff.1 hend with ⟨fault, hbody, rfl⟩ | ⟨es₁, es₂, a, rfl, hbody, hend⟩
    · exact .inl ⟨fault, ends_withBus_iff.2 ⟨sent, rfl, hbody⟩, rfl⟩
    · obtain rfl := hsilent hend
      rw [List.append_nil]
      exact .inr ⟨hold es₁, [], a, (List.append_nil _).symm,
        ends_withBus_iff.2 ⟨es₁, rfl, hbody⟩, hend⟩

/-- A value that is only put in other words. -/
lemma ends_bind_pure_iff {x : Driving α} {f : α → β} {result : Except DeviceFault β} :
    (x >>= fun a => pure (f a)).run.Ends more result ↔
      ∃ value, x.run.Ends more value ∧ result = value.map f := by
  rw [ends_run_bind_iff]
  simp only [ends_run_pure_iff]
  constructor
  · rintro (⟨fault, hx, rfl⟩ | ⟨es₁, es₂, a, rfl, hx, rfl, rfl⟩)
    · exact ⟨_, hx, rfl⟩
    · exact ⟨.ok a, by rwa [List.append_nil], rfl⟩
  · rintro ⟨fault | a, hx, rfl⟩
    · exact .inl ⟨fault, hx, rfl⟩
    · exact .inr ⟨more, [], a, (List.append_nil _).symm, hx, rfl, rfl⟩

/-- After a command that was taken the work goes on. -/
lemma ends_written_iff {work : Driving α} {result : Except DeviceFault α} :
    (Held.write id command >>= fun _ => work).run.Ends
      (⟨.write id command, some (.ok ())⟩ :: more) result ↔ work.run.Ends more result :=
  ends_ask_cons_iff

/-- Work only goes on after a command that was taken. -/
lemma exists_of_ends_write {f : Unit → Driving α} {a : α}
    (h : (Held.write id command >>= f).run.Ends es (.ok a)) :
    ∃ more, es = ⟨.write id command, some (.ok ())⟩ :: more ∧ (f ()).run.Ends more (.ok a) := by
  obtain ⟨_ | fault | ⟨⟩, more, rfl, hend⟩ := ends_ask_iff.1 h
  · cases (ends_done_iff.1 hend).2
  · cases (ends_done_iff.1 hend).2
  · exact ⟨more, rfl, hend⟩

/-- Work only goes on after a query for numbers that was answered. -/
lemma exists_of_ends_values {f : Values → Driving α} {a : α}
    (h : (Held.values id command >>= f).run.Ends es (.ok a)) :
    ∃ reply more, es = ⟨.query id command, some (.ok reply)⟩ :: more := by
  rcases ends_run_bind_iff.1 h with ⟨_, _, ⟨⟩⟩ | ⟨es₁, more, v, rfl, hv, -⟩
  obtain ⟨_, rfl, hshown⟩ := ends_values hv
  obtain ⟨reply, rfl, -⟩ := hshown v rfl
  exact ⟨reply, more, rfl⟩

/-- After its reply a query for numbers fails, or the work goes on with what was read. -/
lemma ends_reply_iff {f : Values → Driving α} {result : Except DeviceFault α} :
    (Held.values id command >>= f).run.Ends (⟨.query id command, some (.ok reply)⟩ :: more) result ↔
      (∃ fault, parseValues reply = .error fault ∧ more = [] ∧
        result = .error (.during (.reading id command) fault)) ∨
      ∃ v, parseValues reply = .ok v ∧ (f v).run.Ends more result := by
  have hreply : (Held.values id command >>= f).run.Ends
        (⟨.query id command, some (.ok reply)⟩ :: more) result ↔
      (settled ((parseValues reply).mapError (.during (.reading id command))) >>= f).run.Ends
        more result :=
    ends_ask_cons_iff
  rw [hreply, ends_settled_bind_iff]
  cases parseValues reply with
  | error fault => simp [Except.mapError]
  | ok v => simp [Except.mapError]

/-! ## What a reply stands for -/

section Decoding

variable {v : Values} {fault : DeviceFault}

lemma parseScan_eq_ok_iff {scan : Nat × Bool} :
    Bridge.parseScan id v = .ok scan ↔ ∃ channel autoscan, v.toList = [channel, autoscan] ∧
      scan = (Number.toByte channel, autoscan != 0) := by
  obtain ⟨channel, _ | ⟨autoscan, _ | ⟨extra, rest⟩⟩⟩ := v
  all_goals simp [Bridge.parseScan, Values.toList, eq_comm]

lemma exists_parseScan_iff {P : Nat × Bool → Prop} :
    (∃ scan, Bridge.parseScan id v = .ok scan ∧ P scan) ↔ ∃ channel autoscan,
      v.toList = [channel, autoscan] ∧ P (Number.toByte channel, autoscan != 0) := by
  simp only [parseScan_eq_ok_iff]
  constructor
  · rintro ⟨_, ⟨channel, autoscan, hv, rfl⟩, h⟩
    exact ⟨channel, autoscan, hv, h⟩
  · rintro ⟨channel, autoscan, hv, h⟩
    exact ⟨_, ⟨channel, autoscan, hv, rfl⟩, h⟩

lemma parseScan_eq_error_iff :
    Bridge.parseScan id v = .error fault ↔
      v.toList.length ≠ 2 ∧ fault = .wrongCount id "SCAN?" 2 v.toList.length := by
  obtain ⟨channel, _ | ⟨autoscan, _ | ⟨extra, rest⟩⟩⟩ := v
  all_goals simp [Bridge.parseScan, Values.toList, eq_comm]

lemma ofValues_eq_ok_iff {s : Bridge.ChannelSettings} :
    Bridge.ChannelSettings.ofValues id v = .ok s ↔ Counted.SettingsOf v.toList s := by
  obtain ⟨mode, excitation, range, autorange, off⟩ := s
  obtain ⟨x, _ | ⟨y, _ | ⟨z, _ | ⟨u, _ | ⟨w, _ | ⟨extra, rest⟩⟩⟩⟩⟩⟩ := v
  all_goals simp [Bridge.ChannelSettings.ofValues, Counted.SettingsOf, Values.toList]

lemma ofValues_eq_error_iff :
    Bridge.ChannelSettings.ofValues id v = .error fault ↔
      v.toList.length ≠ 5 ∧ fault = .wrongCount id "RDGRNG?" 5 v.toList.length := by
  obtain ⟨x, _ | ⟨y, _ | ⟨z, _ | ⟨u, _ | ⟨w, _ | ⟨extra, rest⟩⟩⟩⟩⟩⟩ := v
  all_goals simp [Bridge.ChannelSettings.ofValues, Values.toList, eq_comm]

end Decoding

/-! ## What comes of a reply -/

namespace Counted

/-- Once it is read, a reply is refused, or the work goes on with its numbers. -/
def GoesOn (id : String) (d : Counted) (xs : List Float) (more : List (Exchange Surroundings))
    (result : Except DeviceFault d.Result) : Prop :=
  d.Refuses id xs.length more result ∨ d.Takes id xs more result

section Numbers

variable {v : Values}

lemma goesOn_signal {result : Except DeviceFault (Float × Float)} :
    (match v.rest with
      | [phase] => pure (v.first, phase)
      | rest => throw (.wrongCount id "SNAP?" 2 (rest.length + 1)) :
        Driving (Float × Float)).run.Ends more result ↔ signal.GoesOn id v.toList more result := by
  obtain ⟨x, _ | ⟨y, _ | ⟨z, rest⟩⟩⟩ := v
  all_goals
    simp [GoesOn, Refuses, Takes, Values.toList, name, count, ends_run_pure_iff, ends_run_throw_iff,
      -ExceptT.run_pure, -ExceptT.run_throw]

lemma goesOn_snapshot {result : Except DeviceFault (Float × Float × Float × Float)} :
    (match v.rest with
      | [y, amplitude, phase] => pure (v.first, y, amplitude, phase)
      | rest => throw (.wrongCount id "SNAP?" 4 (rest.length + 1)) :
        Driving (Float × Float × Float × Float)).run.Ends more result ↔
      snapshot.GoesOn id v.toList more result := by
  obtain ⟨x, _ | ⟨y, _ | ⟨z, _ | ⟨u, _ | ⟨w, rest⟩⟩⟩⟩⟩ := v
  all_goals
    simp [GoesOn, Refuses, Takes, Values.toList, name, count, ends_run_pure_iff, ends_run_throw_iff,
      -ExceptT.run_pure, -ExceptT.run_throw]

lemma goesOn_scanner {result : Except DeviceFault (Nat × Bool)} :
    (settled (Bridge.parseScan id v)).run.Ends more result ↔
      scanner.GoesOn id v.toList more result := by
  rw [ends_settled_iff]
  cases result with
  | error fault =>
    simp [GoesOn, Refuses, Takes, name, count, parseScan_eq_error_iff, and_left_comm]
  | ok scan =>
    simp [GoesOn, Refuses, Takes, name, count, parseScan_eq_ok_iff, and_left_comm]

lemma goesOn_channelSettings {channel : Nat} {result : Except DeviceFault Bridge.ChannelSettings} :
    (settled (Bridge.ChannelSettings.ofValues id v)).run.Ends more result ↔
      (channelSettings channel).GoesOn id v.toList more result := by
  rw [ends_settled_iff]
  cases result with
  | error fault =>
    simp [GoesOn, Refuses, Takes, name, count, ofValues_eq_error_iff, and_left_comm]
  | ok s =>
    simp [GoesOn, Refuses, Takes, name, count, ofValues_eq_ok_iff, and_left_comm]

/-- A reply is refused where it makes no sense, and the work goes on with what it stands for. -/
lemma ends_decoded_iff {d : Counted} {decoded : Except DeviceFault β} {f : β → Driving d.Result}
    {got : Nat} {result : Except DeviceFault d.Result}
    (hrefused : ∀ fault, decoded = .error fault ↔
      got ≠ d.count ∧ fault = .wrongCount id d.name d.count got) :
    (settled decoded >>= f).run.Ends more result ↔
      d.Refuses id got more result ∨ ∃ b, decoded = .ok b ∧ (f b).run.Ends more result := by
  rw [ends_settled_bind_iff]
  refine or_congr_left ?_
  simp only [hrefused, Refuses]
  constructor
  · rintro ⟨_, ⟨hgot, rfl⟩, hmore, hresult⟩
    exact ⟨hgot, hmore, hresult⟩
  · rintro ⟨hgot, hmore, hresult⟩
    exact ⟨_, ⟨hgot, rfl⟩, hmore, hresult⟩

lemma goesOn_readScanned {pick : Nat → Option (Nat × Bridge.Reading)}
    {result : Except DeviceFault (Nat × Option Float)} :
    (do
      let (channel, _) ← settled (Bridge.parseScan id v)
      match pick channel with
      | none => pure (channel, none)
      | some (target, reading) =>
        let values ← Held.values id (reading.command target)
        pure (channel, some values.first) : Driving (Nat × Option Float)).run.Ends more result ↔
      (readScanned pick).GoesOn id v.toList more result := by
  refine (ends_decoded_iff (d := readScanned pick) fun _ => parseScan_eq_error_iff).trans
    (or_congr_right (exists_parseScan_iff.trans ?_))
  refine exists_congr fun channel => exists_congr fun autoscan => and_congr_right fun _ => ?_
  dsimp only
  split
  · exact ends_run_pure_iff
  · exact ends_bind_pure_iff

lemma goesOn_expandOn {expand : Expand} {result : Except DeviceFault Float} :
    (match v.rest with
      | [_] => do
        Held.write id ("OEXP 3," ++ Number.plain v.first ++ "," ++ toString expand.code)
        pure v.first
      | rest => throw (.wrongCount id "OEXP?" 2 (rest.length + 1)) :
        Driving Float).run.Ends more result ↔
      (expandOn expand).GoesOn id v.toList more result := by
  obtain ⟨offset, _ | ⟨old, _ | ⟨extra, rest⟩⟩⟩ := v
  case cons.nil =>
    refine ends_bind_pure_iff.trans ?_
    simp [GoesOn, Refuses, Takes, Values.toList, count]
  all_goals
    simp [GoesOn, Refuses, Takes, Values.toList, name, count, ends_run_throw_iff,
      -ExceptT.run_throw]

lemma goesOn_stepSetting {channel : Nat} {direction : Direction}
    {index : Bridge.ChannelSettings → Nat}
    {change : Bridge.ChannelSettings → Nat → Bridge.ChannelSettings}
    {result : Except DeviceFault (Option Nat)} :
    (do
      let settings ← settled (Bridge.ChannelSettings.ofValues id v)
      match Bridge.stepIndex (index settings) direction with
      | none => pure none
      | some next =>
        Held.write id ((change settings next).command channel)
        pure (some next) : Driving (Option Nat)).run.Ends more result ↔
      (stepExcitation channel direction).Refuses id v.toList.length more result ∨
        StepTakes id channel direction index change v.toList more result := by
  refine (ends_decoded_iff (d := stepExcitation channel direction)
    fun _ => ofValues_eq_error_iff).trans (or_congr_right ?_)
  simp only [ofValues_eq_ok_iff]
  refine exists_congr fun s => and_congr_right fun _ => ?_
  split
  · exact ends_run_pure_iff
  · exact ends_bind_pure_iff

end Numbers

section Replies

/-- What comes of a reply: it is not read, it is refused, or the work goes on with its numbers. -/
def Handles (id reply : String) (d : Counted) (more : List (Exchange Surroundings))
    (result : Except DeviceFault d.Result) : Prop :=
  (∃ fault, parseValues reply = .error fault ∧ more = [] ∧
    result = .error (.during (.reading id d.query) fault)) ∨
  ∃ v, parseValues reply = .ok v ∧ d.GoesOn id v.toList more result

lemma handles_iff (d : Counted) {f : Values → Driving d.Result}
    {result : Except DeviceFault d.Result}
    (hf : ∀ v, (f v).run.Ends more result ↔ d.GoesOn id v.toList more result) :
    (Held.values id d.query >>= f).run.Ends
      (⟨.query id d.query, some (.ok reply)⟩ :: more) result ↔ d.Handles id reply more result :=
  ends_reply_iff.trans (or_congr_right (exists_congr fun v => and_congr_right fun _ => hf v))

/-- **What comes of a reply**: it is not read, it has more or fewer numbers than it should, or the
work goes on with its numbers. -/
theorem ends_work_iff (d : Counted) {result : Except DeviceFault d.Result} :
    (d.work id).run.Ends (d.said id reply more) result ↔ d.Handles id reply more result := by
  -- whoever asks for nothing else decodes the reply when the bus is free again
  have hread (d : Counted) {f : Values → Driving d.Result} {result : Except DeviceFault d.Result}
      (hsilent : ∀ v, (f v).run.AsksOnly fun _ => False)
      (hf : ∀ v, (f v).run.Ends more result ↔ d.GoesOn id v.toList more result) :
      (values id d.query >>= f).run.Ends
        (hold (⟨.query id d.query, some (.ok reply)⟩ :: more)) result ↔
      d.Handles id reply more result :=
    (ends_withBus_bind_iff hsilent).trans (ends_withBus_hold_iff.trans (handles_iff d hf))
  cases d with
  | signal => exact hread signal (fun v => by split <;> trivial) fun _ => goesOn_signal
  | snapshot => exact hread snapshot (fun v => by split <;> trivial) fun _ => goesOn_snapshot
  | scanner => exact hread scanner (fun _ => asksOnly_settled _) fun _ => goesOn_scanner
  | channelSettings channel =>
    exact hread (channelSettings channel) (fun _ => asksOnly_settled _) fun _ =>
      goesOn_channelSettings
  | readScanned pick =>
    exact ends_withBus_hold_iff.trans (handles_iff (readScanned pick) fun _ => goesOn_readScanned)
  | stepExcitation channel direction =>
    exact ends_withBus_hold_iff.trans
      (handles_iff (stepExcitation channel direction) fun _ => goesOn_stepSetting)
  | stepRange channel direction =>
    exact ends_withBus_hold_iff.trans
      (handles_iff (stepRange channel direction) fun _ => goesOn_stepSetting)
  | expandOn expand =>
    exact ends_withBus_hold_iff.trans
      (ends_written_iff.trans (handles_iff (expandOn expand) fun _ => goesOn_expandOn))

/-- Work that succeeds got a reply. -/
lemma exists_said_of_ends {d : Counted} {a : d.Result} (h : (d.work id).run.Ends es (.ok a)) :
    ∃ reply more, es = d.said id reply more := by
  have hread {d : Counted} {f : Values → Driving d.Result} {a : d.Result}
      (hbefore : d.before id = [])
      (h : (withBus (Held.values id d.query >>= f)).run.Ends es (.ok a)) :
      ∃ reply more, es = d.said id reply more := by
    obtain ⟨sent, rfl, hsent⟩ := ends_withBus_iff.1 h
    obtain ⟨reply, more, rfl⟩ := exists_of_ends_values hsent
    exact ⟨reply, more, by rw [said, hbefore, List.nil_append]⟩
  cases d with
  | signal =>
    exact hread (d := signal) rfl ((ends_withBus_bind_iff fun v => by split <;> trivial).1 h)
  | snapshot =>
    exact hread (d := snapshot) rfl ((ends_withBus_bind_iff fun v => by split <;> trivial).1 h)
  | scanner =>
    exact hread (d := scanner) rfl ((ends_withBus_bind_iff fun _ => asksOnly_settled _).1 h)
  | channelSettings channel =>
    exact hread (d := channelSettings channel) rfl
      ((ends_withBus_bind_iff fun _ => asksOnly_settled _).1 h)
  | readScanned pick => exact hread (d := readScanned pick) rfl h
  | stepExcitation channel direction => exact hread (d := stepExcitation channel direction) rfl h
  | stepRange channel direction => exact hread (d := stepRange channel direction) rfl h
  | expandOn expand =>
    obtain ⟨sent, rfl, hsent⟩ := ends_withBus_iff.1 h
    obtain ⟨rest, rfl, hrest⟩ := exists_of_ends_write hsent
    obtain ⟨reply, more, rfl⟩ := exists_of_ends_values hrest
    exact ⟨reply, more, rfl⟩

/-- **Work that succeeds got as many numbers as it needs**, and took each from its own place. -/
theorem takes_of_ends {d : Counted} {a : d.Result} (h : (d.work id).run.Ends es (.ok a)) :
    ∃ reply more v, es = d.said id reply more ∧ parseValues reply = .ok v ∧
      v.toList.length = d.count ∧ d.Takes id v.toList more (.ok a) := by
  obtain ⟨reply, more, rfl⟩ := exists_said_of_ends h
  rcases (ends_work_iff d).1 h with ⟨_, _, _, ⟨⟩⟩ | ⟨v, hv, ⟨_, _, ⟨⟩⟩ | htakes⟩
  exact ⟨reply, more, v, rfl, hv, htakes.length_eq, htakes⟩

end Replies

end Counted

/-! ## Replies made of texts -/

/-- **Replies are read whole or not at all, and where numbers are counted, each is taken from its
own place.** A reply made of texts, however these are padded, is read exactly if it is not blank and
each text is that of a number, and then there is one value for each, in order. Otherwise there is
none, and the fault is that of a blank reply or names the first text that is no number. Work that
needs so many numbers fails with that fault, or because there are more or fewer texts, and then
sends nothing else. It goes on only with as many values as it needs, each of them that of the text
in its place.

**Proof sketch.** Between the commas are the texts again, and they are read one after the other, up
to the first that fails. Each driver looks at the values by a pattern of so many places, so it
either refuses their count or takes them from there. -/
theorem counted_replies {texts : List String} {reply : String} (hne : texts ≠ [])
    (hcomma : ∀ t ∈ texts, ',' ∉ t.toList) (h : MadeOf texts reply) :
    ((∃ v, parseValues reply = .ok v) ↔ ¬Text.AllBlank reply.toList ∧ ∀ t ∈ texts, IsNumber t) ∧
    (∀ v, parseValues reply = .ok v → List.Forall₂ Holds texts v.toList) ∧
    (∀ fault, parseValues reply = .error fault ↔ Unreadable texts reply fault) ∧
    ∀ (d : Counted) (id : String) (more : List (Exchange Surroundings))
      (result : Except DeviceFault d.Result),
      (d.work id).run.Ends (d.said id reply more) result ↔
        (∃ fault, Unreadable texts reply fault ∧ more = [] ∧
          result = .error (.during (.reading id d.query) fault)) ∨
        ∃ xs, List.Forall₂ Holds texts xs ∧
          (texts.length ≠ d.count ∧ more = [] ∧
              result = .error (.wrongCount id d.name d.count texts.length) ∨
            texts.length = d.count ∧ d.Takes id xs more result) := by
  have hok (v : Values) : parseValues reply = .ok v ↔ List.Forall₂ Holds texts v.toList :=
    parseValues_eq_ok_iff hne hcomma h
  have herror (fault : DeviceFault) :
      parseValues reply = .error fault ↔ Unreadable texts reply fault :=
    parseValues_eq_error_iff hne hcomma h
  refine ⟨exists_parseValues_iff hne hcomma h, fun v => (hok v).1, herror,
    fun d id more result => ?_⟩
  rw [d.ends_work_iff, Counted.Handles]
  simp only [herror, hok]
  refine or_congr_right ?_
  constructor
  · rintro ⟨v, hholds, hgo⟩
    refine ⟨v.toList, hholds, ?_⟩
    rw [Counted.GoesOn, ← hholds.length_eq] at hgo
    exact hgo.imp_right fun htakes => ⟨hholds.length_eq.trans htakes.length_eq, htakes⟩
  · rintro ⟨xs, hholds, hgo⟩
    cases hholds with
    | nil => exact absurd rfl hne
    | @cons t x ts xs ht hts =>
      refine ⟨⟨x, xs⟩, .cons ht hts, ?_⟩
      have hlen : (t :: ts).length = (x :: xs).length := (List.Forall₂.cons ht hts).length_eq
      rw [hlen] at hgo
      exact hgo.imp_right And.right

/-- A scanner that says three numbers where it has two is not believed. -/
theorem counted_replies_threeNumbers :
    (["1", "0", "4.5e2"] ≠ [] ∧ (∀ t ∈ ["1", "0", "4.5e2"], ',' ∉ t.toList) ∧
      MadeOf ["1", "0", "4.5e2"] "1, 0 ,4.5e2\r\n") ∧
    (∃ v, parseValues "1, 0 ,4.5e2\r\n" = .ok v ∧ v.toList.length = 3) ∧
    (Bridge.scanner "tc").run.Ends
      (hold [⟨.query "tc" "SCAN?", some (.ok "1, 0 ,4.5e2\r\n")⟩])
      (.error (.wrongCount "tc" "SCAN?" 2 3)) := by
  have hne : ["1", "0", "4.5e2"] ≠ [] := by decide
  have hcomma : ∀ t ∈ ["1", "0", "4.5e2"], ',' ∉ t.toList := by decide
  have h : MadeOf ["1", "0", "4.5e2"] "1, 0 ,4.5e2\r\n" := by
    refine ⟨["1".toList, " 0 ".toList, "4.5e2".toList], "\r\n".toList, ?_, by decide, by decide⟩
    have hspace : Text.Padded "0".toList " 0 ".toList := ⟨[' '], [' '], by decide, by decide, rfl⟩
    have hnone (cs : List Char) : Text.Padded cs cs := ⟨[], [], nofun, nofun, by simp⟩
    exact .cons (hnone _) (.cons hspace (.cons (hnone _) .nil))
  have hnumbers : ∀ t ∈ ["1", "0", "4.5e2"], IsNumber t := by
    simp only [List.forall_mem_cons]
    refine ⟨?_, ?_, ?_, nofun⟩
    all_goals exact exists_holds_iff.1 ⟨_, rfl⟩
  obtain ⟨hread, hholds, -, hcounted⟩ := counted_replies hne hcomma h
  obtain ⟨v, hv⟩ := hread.2 ⟨by decide, hnumbers⟩
  refine ⟨⟨hne, hcomma, h⟩, ⟨v, hv, (hholds v hv).length_eq.symm⟩, ?_⟩
  exact (hcounted .scanner "tc" [] _).2
    (.inr ⟨v.toList, hholds v hv, .inl ⟨by decide, rfl, rfl⟩⟩)

/-- Of a reply that is nothing but a line end the fault names no text, although the only one it is
made of is no number. -/
theorem counted_replies_lineEnd :
    ([""] ≠ [] ∧ (∀ t ∈ [""], ',' ∉ t.toList) ∧ MadeOf [""] "\r\n" ∧ FirstBad [""] "") ∧
    parseValues "\r\n" = .error .emptyReply ∧
    ∀ text cause, DeviceFault.emptyReply ≠ .during (.field text) cause := by
  have hmade : MadeOf [""] "\r\n" :=
    ⟨[[]], "\r\n".toList, .cons ⟨[], [], nofun, nofun, rfl⟩ .nil, by decide, by decide⟩
  have hbad : ¬IsNumber "" := fun hnumber => by
    obtain ⟨x, hx⟩ := exists_holds_iff.2 hnumber
    cases hx
  exact ⟨⟨by decide, by decide, hmade, [], [], rfl, nofun, hbad⟩,
    parseValues_of_blank (by decide), nofun⟩

end CryoRig.Instrument
