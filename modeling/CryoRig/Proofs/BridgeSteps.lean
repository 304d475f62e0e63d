import CryoRig.Proofs.BridgeTexts
import CryoRig.Proofs.LockinCommands
import CryoRig.Rig.Answer

/-!
# Stepping the indices of a bridge

Excitation and resistance range of a channel are stepped by reading the settings of the channel,
changing one of them and writing all of them back. On a simulated bridge, whatever else the driver
is called for in between: every index stays within its bounds, a step moves the index that it is for
and no other one, a step beyond the last index writes nothing, and a step back undoes a step.

## Main definitions

* `CryoRig.Instrument.answerAt`: how an instrument on the bus answers a request.
* `CryoRig.Instrument.converse`: what comes of work where an instrument is on the bus.
* `CryoRig.Instrument.Bridge.Index`: which index of a channel is stepped.
* `CryoRig.Instrument.Bridge.Call`: what the driver can be called for.

## Main results

* `CryoRig.Instrument.answerAt_of_answerDevice?`: a rig answers like that.
* `CryoRig.Instrument.Bridge.converse_step`: what a step says, and what it leaves behind.
* `CryoRig.Instrument.Bridge.Call.ranges_after`: a call changes at most the index that it steps.
* `CryoRig.Instrument.Bridge.steps_move_one_index`: what steps do, after any calls.
-/

namespace CryoRig.Instrument

open Transport Process

/-! ## An instrument on the bus -/

section Conversations

variable {α β : Type} {id : String} {a a' : Attachment} {command text : String}

/-- What comes of a command that is not answered where only `a` is on the bus, as `id`. -/
def writeTo (id : String) (a : Attachment) (id' command : String) :
    Option (Except DeviceFault Unit) × Attachment :=
  if id' = id then
    let (answer, a) := a.answer false command
    (some answer.toWrite, a)
  else (none, a)

/-- What comes of a query. -/
def queryTo (id : String) (a : Attachment) (id' command : String) :
    Option (Except DeviceFault String) × Attachment :=
  if id' = id then
    let (answer, a) := a.answer true command
    (some (answer.toQuery command), a)
  else (none, a)

/-- How a request is answered where only `a` is on the bus, as `id`, and what is there then. -/
def answerAt (id : String) (a : Attachment) : (r : Request) → r.Reply × Attachment
  | .write id' command => writeTo id a id' command
  | .query id' command => queryTo id a id' command
  | .seize | .release | .sleep _ | .log _ => ((), a)

lemma lookup_replace {attached : List (String × Attachment)} (h : (attached.lookup id).isSome) :
    (attached.map fun x => if x.1 = id then (id, a') else x).lookup id = some a' := by
  induction attached with
  | nil => cases h
  | cons x attached ih =>
    obtain ⟨id', a''⟩ := x
    by_cases hx : id' = id
    · simp [hx]
    · have hbeq : (id == id') = false := beq_eq_false_iff_ne.2 fun heq => hx heq.symm
      rw [List.lookup_cons, hbeq] at h
      rw [List.map_cons, if_neg hx, List.lookup_cons, hbeq]
      exact ih h

lemma answer_of_receiveInTime {s t : Rig.State} {alarm : Nat} {expected : Bool}
    {outcome : Answer → Except DeviceFault β} {reply : Option (Except DeviceFault β)}
    (ha : s.attached.lookup id = some a)
    (h : s.receiveInTime (some alarm) id command expected outcome = some (reply, t)) :
    reply = some (outcome (a.answer expected command).1) ∧
      t.attached.lookup id = some (a.answer expected command).2 := by
  simp only [Rig.State.receiveInTime, Rig.State.receive, ha] at h
  split at h
  · cases h
    exact ⟨rfl, lookup_replace (by rw [ha]; rfl)⟩
  · cases h

/-- That is how a rig answers whoever asks for something and waits for the reply. -/
theorem answerAt_of_answerDevice? {s t : Rig.State} {p : Rig.Party} {alarm : Nat} {r : Request}
    {reply : r.Reply} (ha : s.attached.lookup id = some a)
    (hr : ∀ id' command, r = .write id' command ∨ r = .query id' command → id' = id)
    (h : s.answerDevice? p (some alarm) r = some (reply, t)) :
    reply = (answerAt id a r).1 ∧ t.attached.lookup id = some (answerAt id a r).2 := by
  cases r with
  | write id' command =>
    obtain rfl := hr id' command (.inl rfl)
    change reply = (writeTo id' a id' command).1 ∧ _ = some (writeTo id' a id' command).2
    rw [writeTo, if_pos rfl]
    exact answer_of_receiveInTime ha h
  | query id' command =>
    obtain rfl := hr id' command (.inr rfl)
    change reply = (queryTo id' a id' command).1 ∧ _ = some (queryTo id' a id' command).2
    rw [queryTo, if_pos rfl]
    exact answer_of_receiveInTime ha h
  | seize | sleep =>
    simp only [Rig.State.answerDevice?] at h
    split at h <;> cases h
    exact ⟨rfl, ha⟩
  | release =>
    cases h
    refine ⟨rfl, ?_⟩
    unfold Rig.State.wakeParty
    split
    · split <;> exact ha
    · exact ha
  | log event =>
    cases h
    exact ⟨rfl, ha⟩

/-- What comes of work. -/
structure Talk (α : Type) where
  /-- Its result. -/
  result : α
  /-- What was asked and replied. -/
  said : List (Exchange Surroundings)
  /-- The instrument afterwards. -/
  after : Attachment

/-- What comes of work where only `a` is on the bus, as `id`. -/
def converse (id : String) (a : Attachment) : Process Surroundings α → Talk α
  | .done x => ⟨x, [], a⟩
  | .ask r next =>
    let talk := converse id (answerAt id a r).2 (next (answerAt id a r).1)
    { talk with said := ⟨r, (answerAt id a r).1⟩ :: talk.said }

/-- It is one of the ways the work can go. -/
theorem ends_converse (p : Process Surroundings α) :
    p.Ends (converse id a p).said (converse id a p).result := by
  induction p generalizing a with
  | done x => exact .refl _
  | ask r next ih => exact .step (ih _)

lemma converse_bind (p : Process Surroundings α) (f : α → Process Surroundings β) :
    converse id a (p >>= f) =
      let talk := converse id a p
      let talk' := converse id talk.after (f talk.result)
      ⟨talk'.result, talk.said ++ talk'.said, talk'.after⟩ := by
  induction p generalizing a with
  | done x => rfl
  | ask r next ih =>
    have hrest := ih (answerAt id a r).1 (a := (answerAt id a r).2)
    change Talk.mk (converse id _ (next _ >>= f)).result (_ :: (converse id _ (next _ >>= f)).said)
      (converse id _ (next _ >>= f)).after = _
    rw [hrest]
    rfl

/-- Work that goes on after a part of it has succeeded. -/
lemma converse_run_bind {x : Driving α} {f : α → Driving β} {v : α}
    {said : List (Exchange Surroundings)} (h : converse id a x.run = ⟨.ok v, said, a'⟩) :
    converse id a (x >>= f).run =
      let talk := converse id a' (f v).run
      ⟨talk.result, said ++ talk.said, talk.after⟩ := by
  rw [ExceptT.run_bind, converse_bind, h]

/-- The bus is taken first and given back last. -/
lemma converse_withBus (body : Driving α) :
    converse id a (withBus body).run =
      let talk := converse id a body.run
      ⟨talk.result, hold talk.said, talk.after⟩ := by
  change converse id a (request (I := Surroundings) .seize >>= fun _ => body.run >>= fun result =>
    request (I := Surroundings) .release >>= fun _ => pure result) = _
  rw [converse_bind]
  simp only [converse_bind]
  rfl

lemma converse_query (h : a.answer true command = (.reply text, a')) :
    converse id a (Held.query id command).run =
      ⟨.ok text, [⟨.query id command, some (.ok text)⟩], a'⟩ := by
  have hanswer : answerAt id a (.query id command) = (some (.ok text), a') := by
    change queryTo id a id command = _
    rw [queryTo, if_pos rfl, h]
    rfl
  change (let (reply, a) := answerAt id a (.query id command)
    let talk := converse id a (outcome id (.querying id command) reply).run
    Talk.mk talk.result (⟨.query id command, reply⟩ :: talk.said) talk.after) = _
  rw [hanswer]
  rfl

lemma converse_values {v : Values} (h : a.answer true command = (.reply text, a'))
    (hv : parseValues text = .ok v) :
    converse id a (Held.values id command).run =
      ⟨.ok v, [⟨.query id command, some (.ok text)⟩], a'⟩ := by
  unfold Held.values
  rw [converse_run_bind (converse_query h), hv]
  rfl

lemma converse_write {name : String} (h : a.answer false command = (.silence name, a')) :
    converse id a (Held.write id command).run =
      ⟨.ok (), [⟨.write id command, some (.ok ())⟩], a'⟩ := by
  have hanswer : answerAt id a (.write id command) = (some (.ok ()), a') := by
    change writeTo id a id command = _
    rw [writeTo, if_pos rfl, h]
    rfl
  change (let (reply, a) := answerAt id a (.write id command)
    let talk := converse id a (outcome id (.writing id command) reply).run
    Talk.mk talk.result (⟨.write id command, reply⟩ :: talk.said) talk.after) = _
  rw [hanswer]
  rfl

end Conversations

namespace Bridge

/-! ## Steps -/

section Steps

variable {id : String} {latency : Nat} {b : Simulated.Bridge} {direction : Direction} {i n : Nat}

/-- Which index of a channel is stepped. -/
inductive Index where
  | excitation
  | range
  deriving DecidableEq

/-- The index of that kind among the two of a channel. -/
def Index.of : Index → Nat × Nat → Nat
  | excitation => Prod.fst
  | range => Prod.snd

/-- The two indices of a channel with one of them changed. -/
def Index.set : Index → Nat × Nat → Nat → Nat × Nat
  | excitation, indices, n => (n, indices.2)
  | range, indices, n => (indices.1, n)

/-- The step of the driver. -/
def Index.step : Index → String → Nat → Direction → Driving (Option Nat)
  | excitation => stepExcitation
  | range => stepRange

/-- The last index in a direction. -/
def lastIndex : Direction → Nat
  | .up => topIndex
  | .down => 1

/-- The other direction. -/
def opposite : Direction → Direction
  | .up => .down
  | .down => .up

/-- An index within its bounds. -/
def Within (i : Nat) : Prop := 1 ≤ i ∧ i ≤ topIndex

/-- One index further. -/
def Moves : Direction → Nat → Nat → Prop
  | .up, i, n => n = i + 1
  | .down, i, n => n + 1 = i

@[simp] lemma Index.of_set (which : Index) (indices : Nat × Nat) (n : Nat) :
    which.of (which.set indices n) = n := by
  cases which <;> rfl

lemma Index.of_set_of_ne {which other : Index} (h : other ≠ which) (indices : Nat × Nat) (n : Nat) :
    other.of (which.set indices n) = other.of indices := by
  cases which <;> cases other <;> first | rfl | exact absurd rfl h

lemma stepIndex_eq_none_iff (h : Within i) :
    stepIndex i direction = none ↔ i = lastIndex direction := by
  obtain ⟨hlow, hhigh⟩ := h
  cases direction
  all_goals
    simp only [stepIndex, lastIndex]
    split
    · simp only [reduceCtorEq, false_iff]
      omega
    · simp only [true_iff]
      omega

/-- A step moves an index by one, and a step back undoes it. -/
lemma moves_of_stepIndex (h : Within i) (hstep : stepIndex i direction = some n) :
    Moves direction i n ∧ Within n ∧ stepIndex n (opposite direction) = some i := by
  obtain ⟨hlow, hhigh⟩ := h
  have hn := stepIndex_mem hlow hhigh hstep
  cases direction with
  | up =>
    obtain ⟨-, rfl⟩ : i < topIndex ∧ i + 1 = n := by simpa [stepIndex] using hstep
    exact ⟨rfl, hn, by simp only [opposite, stepIndex]; rw [if_pos (by omega)]; rfl⟩
  | down =>
    obtain ⟨hlt, rfl⟩ : 1 < i ∧ i - 1 = n := by simpa [stepIndex] using hstep
    refine ⟨Nat.sub_add_cancel hlow, hn, ?_⟩
    simp only [opposite, stepIndex]
    rw [if_pos (by omega), Nat.sub_add_cancel hlow]

/-- The settings of a channel that the bridge reports. -/
def reported (indices : Nat × Nat) : ChannelSettings := ⟨0, indices.1, indices.2, 0, 0⟩

/-- The exchange that asks for them. -/
def asked (id : String) (channel : Nat) (indices : Nat × Nat) : Exchange Surroundings :=
  ⟨.query id s!"RDGRNG? {channel}", some (.ok (bytes [0, indices.1, indices.2, 0, 0]))⟩

/-- The exchange that sets them. -/
def told (id : String) (channel : Nat) (indices : Nat × Nat) : Exchange Surroundings :=
  ⟨.write id ((reported indices).command channel), some (.ok ())⟩

/-- All indices of a bridge are within their bounds. -/
def InBounds (b : Simulated.Bridge) : Prop :=
  ∀ (channel : Nat) (which : Index), Within (which.of (b.ranges channel))

lemma InBounds.le_byteMax (h : InBounds b) (channel : Nat) :
    (b.ranges channel).1 ≤ Number.byteMax ∧ (b.ranges channel).2 ≤ Number.byteMax := by
  have hle : topIndex ≤ Number.byteMax := by decide
  exact ⟨Nat.le_trans (h channel .excitation).2 hle, Nat.le_trans (h channel .range).2 hle⟩

variable (id latency) in
/-- What a step says, and what it leaves behind. -/
theorem converse_step (hb : InBounds b) (which : Index) {channel : Nat}
    (hchannel : channel ≤ Number.byteMax) (direction : Direction) :
    let indices := b.ranges channel
    converse id (attached latency b) (which.step id channel direction).run =
      match stepIndex (which.of indices) direction with
      | none => ⟨.ok none, hold [asked id channel indices], attached latency b⟩
      | some n => ⟨.ok (some n), hold [asked id channel indices,
          told id channel (which.set indices n)],
          attached latency (b.setRange channel (which.set indices n))⟩ := by
  intro indices
  obtain ⟨he, hr⟩ : indices.1 ≤ Number.byteMax ∧ indices.2 ≤ Number.byteMax :=
    hb.le_byteMax channel
  obtain ⟨v, hv, hsettings⟩ := ofValues_bytes id (s := reported indices)
    (by simp [reported, he, hr])
  have hquery : (attached latency b).answer true s!"RDGRNG? {channel}" =
      (.reply (bytes [0, indices.1, indices.2, 0, 0]), attached latency b) := by
    rw [answer_attached, handle_question hchannel]
    rfl
  have hstep (index : ChannelSettings → Nat) (change : ChannelSettings → Nat → ChannelSettings)
      (hindex : index (reported indices) = which.of indices)
      (hchange : ∀ n, change (reported indices) n = reported (which.set indices n)) :
      converse id (attached latency b) (stepSetting id channel direction index change).run =
        match stepIndex (which.of indices) direction with
        | none => ⟨.ok none, hold [asked id channel indices], attached latency b⟩
        | some n => ⟨.ok (some n), hold [asked id channel indices,
            told id channel (which.set indices n)],
            attached latency (b.setRange channel (which.set indices n))⟩ := by
    unfold stepSetting
    rw [converse_withBus, converse_run_bind (converse_values hquery hv), hsettings]
    have hsettled : converse id (attached latency b)
        (settled (.ok (reported indices)) : Driving ChannelSettings).run =
          ⟨.ok (reported indices), [], attached latency b⟩ := rfl
    rw [converse_run_bind hsettled, hindex]
    cases hn : stepIndex (which.of indices) direction with
    | none => rfl
    | some n =>
      have hle : n ≤ Number.byteMax :=
        Nat.le_trans (moves_of_stepIndex (hb channel which) hn).2.1.2 (by decide)
      have hwrite : (attached latency b).answer false
          ((reported (which.set indices n)).command channel) =
            (.silence "lakeshore370", attached latency (b.setRange channel (which.set indices n))) := by
        rw [answer_attached, handle_command]
        · rfl
        · cases which <;> simp [reported, Index.set, hchannel, he, hr, hle]
      have hend : converse id (attached latency b) (do
          Held.write id ((reported (which.set indices n)).command channel)
          pure (some n) : Driving (Option Nat)).run = _ := converse_run_bind (converse_write hwrite)
      simp only [hchange, hend]
      rfl
  cases which with
  | excitation => exact hstep _ _ rfl fun _ => rfl
  | range => exact hstep _ _ rfl fun _ => rfl

end Steps

/-! ## Calls of the driver -/

/-- What the driver can be called for. A channel is a byte. -/
inductive Call where
  /-- Where the scanner is. -/
  | scanner
  /-- A reading of the channel the scanner is on. -/
  | readScanned (pick : Nat → Option (Nat × Reading))
  /-- Put the scanner on a channel. -/
  | selectChannel (channel : Fin 256) (autoscan : Bool)
  /-- The resistance of a channel. -/
  | ohms (channel : Fin 256)
  /-- Set the temperature to go to. -/
  | setSetpoint (kelvin : Float) (rate : Option Float)
  /-- Whether the setpoint is on its way. -/
  | ramping
  /-- The settings of a channel. -/
  | channelSettings (channel : Fin 256)
  /-- Step an index of a channel. -/
  | step (which : Index) (channel : Fin 256) (direction : Direction)
  /-- Set the power of the heater. -/
  | setHeater (microwatts : Float)

namespace Call

/-- What a call gives if it succeeds. -/
def Result : Call → Type
  | scanner => Nat × Bool
  | readScanned _ => Nat × Option Float
  | ohms _ => Float
  | ramping => Bool
  | channelSettings _ => ChannelSettings
  | step .. => Option Nat
  | selectChannel .. | setSetpoint .. | setHeater _ => Unit

/-- The work of a call. -/
def work (id : String) : (c : Call) → Driving c.Result
  | scanner => Bridge.scanner id
  | readScanned pick => Bridge.readScanned id pick
  | selectChannel channel autoscan => Bridge.selectChannel id channel autoscan
  | ohms channel => Bridge.ohms id channel
  | setSetpoint kelvin rate => Bridge.setSetpoint id kelvin rate
  | ramping => Bridge.ramping id
  | channelSettings channel => Bridge.channelSettings id channel
  | step which channel direction => which.step id channel direction
  | setHeater microwatts => Bridge.setHeater id microwatts

/-- A call steps an index of a channel. -/
def Steps (c : Call) (which : Index) (channel : Nat) : Prop :=
  ∃ (byte : Fin 256) (direction : Direction), c = step which byte direction ∧ byte.val = channel

/-- What comes of a call where `a` is on the bus, as `id`. -/
def on (id : String) (a : Attachment) (c : Call) : Talk (Except DeviceFault c.Result) :=
  converse id a (c.work id).run

/-- What is on the bus after some calls. -/
def afterAll (id : String) (a : Attachment) (calls : List Call) : Attachment :=
  calls.foldl (fun a c => (c.on id a).after) a

end Call

/-- What is asked for does not set up a channel. -/
def Harmless : Request → Prop
  | .write _ command | .query _ command => ¬"RDGRNG ".toList <+: command.toList
  | _ => True

section Calls

variable {α : Type} {id command : String} {latency : Nat} {b : Simulated.Bridge}

/-- What is asked for then leaves all indices as they are. -/
lemma ranges_answerAt {r : Request} (h : Harmless r) : ∃ b' : Simulated.Bridge,
    (answerAt id (attached latency b) r).2 = attached latency b' ∧ b'.ranges = b.ranges := by
  cases r with
  | write id' command =>
    change ∃ b', (writeTo id (attached latency b) id' command).2 = _ ∧ _
    unfold writeTo
    split
    · rw [answer_attached]
      exact ⟨_, rfl, ranges_handle h⟩
    · exact ⟨b, rfl, rfl⟩
  | query id' command =>
    change ∃ b', (queryTo id (attached latency b) id' command).2 = _ ∧ _
    unfold queryTo
    split
    · rw [answer_attached]
      exact ⟨_, rfl, ranges_handle h⟩
    · exact ⟨b, rfl, rfl⟩
  | _ => exact ⟨b, rfl, rfl⟩

variable (id latency) in
/-- Work that sets up no channel leaves all indices as they are. -/
lemma ranges_converse {p : Process Surroundings α} (h : p.AsksOnly Harmless) :
    ∃ b' : Simulated.Bridge, (converse id (attached latency b) p).after = attached latency b' ∧
      b'.ranges = b.ranges := by
  induction p generalizing b with
  | done x => exact ⟨b, rfl, rfl⟩
  | ask r next ih =>
    obtain ⟨b₁, hb₁, hranges⟩ : ∃ b₁ : Simulated.Bridge,
        (answerAt id (attached latency b) r).2 = attached latency b₁ ∧ b₁.ranges = b.ranges :=
      ranges_answerAt h.1
    obtain ⟨b₂, hb₂, hranges'⟩ := ih _ (h.2 _) (b := b₁)
    refine ⟨b₂, ?_, hranges'.trans hranges⟩
    change (converse id (answerAt id (attached latency b) r).2 _).after = _
    rw [hb₁]
    exact hb₂

lemma harmless_values (h : ¬"RDGRNG ".toList <+: command.toList) :
    (values id command).run.AsksOnly Harmless :=
  asksOnly_withBus trivial trivial ((asksOnly_query h).run_bind fun _ => asksOnly_settled _)

lemma harmless_write (h : ¬"RDGRNG ".toList <+: command.toList) :
    (write id command).run.AsksOnly Harmless :=
  asksOnly_withBus trivial trivial (asksOnly_write h)

lemma harmless_number (h : ¬"RDGRNG ".toList <+: command.toList) :
    (number id command).run.AsksOnly Harmless :=
  (harmless_values h).run_bind fun _ => trivial

variable (id) in
/-- Only a step sets up a channel. -/
lemma Call.harmless (c : Call) (h : ∀ which channel, ¬c.Steps which channel) :
    (c.work id).run.AsksOnly Harmless := by
  cases c with
  | scanner => exact (harmless_values (by decide)).run_bind fun _ => asksOnly_settled _
  | readScanned pick =>
    refine asksOnly_withBus trivial trivial (((asksOnly_query ?_).run_bind fun _ =>
      asksOnly_settled _).run_bind fun values => (asksOnly_settled _).run_bind fun scan => ?_)
    · exact (by decide : ¬"RDGRNG ".toList <+: "SCAN?".toList)
    dsimp only
    split
    · trivial
    · next target reading _ =>
      refine ((asksOnly_query ?_).run_bind fun _ => asksOnly_settled _).run_bind fun _ => trivial
      cases reading <;> simp [Harmless, Reading.command, toString]
  | selectChannel channel autoscan =>
    exact harmless_write (by simp [toString])
  | ohms channel => exact harmless_number (by simp [Reading.command, toString])
  | setSetpoint kelvin rate =>
    refine (harmless_write ?_).run_bind fun _ => ?_
    · cases rate <;> simp
    · have hsleep : (sleep settleTime).run.AsksOnly Harmless := ⟨trivial, fun _ => trivial⟩
      exact hsleep.run_bind fun _ => harmless_write (by simp)
  | ramping => exact (harmless_number (by decide)).run_bind fun _ => trivial
  | channelSettings channel =>
    exact (harmless_values (by simp [toString])).run_bind fun _ => asksOnly_settled _
  | step which channel direction => exact absurd ⟨channel, direction, rfl, rfl⟩ (h which channel)
  | setHeater microwatts => exact harmless_write (by simp)

/-- What a step of one index does to a bridge. -/
structure Stepped (which : Index) (channel : Nat) (direction : Direction)
    (b b' : Simulated.Bridge) (n : Nat) : Prop where
  /-- The index moves by one, in the direction of the step. -/
  moves : Moves direction (which.of (b.ranges channel)) n
  /-- That is what it is then. -/
  eq : which.of (b'.ranges channel) = n
  /-- No other index of any channel changes. -/
  others : ∀ (c : Nat) (other : Index), (c, other) ≠ (channel, which) →
    other.of (b'.ranges c) = other.of (b.ranges c)

lemma stepped_setRange {which : Index} {channel n : Nat} {direction : Direction}
    (h : Within (which.of (b.ranges channel)))
    (hn : stepIndex (which.of (b.ranges channel)) direction = some n) :
    Stepped which channel direction b (b.setRange channel (which.set (b.ranges channel) n)) n where
  moves := (moves_of_stepIndex h hn).1
  eq := by simp [Simulated.Bridge.setRange]
  others c other hne := by
    by_cases hc : c = channel
    · subst hc
      have : other ≠ which := fun heq => hne (by rw [heq])
      simp [Simulated.Bridge.setRange, Index.of_set_of_ne this]
    · simp [Simulated.Bridge.setRange, hc]

lemma Stepped.inBounds {which : Index} {channel n : Nat} {direction : Direction}
    {b' : Simulated.Bridge} (h : Stepped which channel direction b b' n) (hb : InBounds b)
    (hn : Within n) : InBounds b' := by
  intro c other
  by_cases hc : (c, other) = (channel, which)
  · obtain ⟨rfl, rfl⟩ := Prod.mk.inj hc
    rwa [h.eq]
  · rw [h.others c other hc]
    exact hb c other

variable (id latency) in
/-- One call keeps every index within its bounds, and the indices that it does not step. -/
theorem Call.ranges_after (hb : InBounds b) (c : Call) :
    ∃ b' : Simulated.Bridge, (c.on id (attached latency b)).after = attached latency b' ∧
      InBounds b' ∧ ∀ (channel : Nat) (which : Index), ¬c.Steps which channel →
        which.of (b'.ranges channel) = which.of (b.ranges channel) := by
  by_cases hstep : ∃ which channel, c.Steps which channel
  · obtain ⟨which, _, byte, direction, rfl, rfl⟩ := hstep
    have htalk := converse_step id latency hb which
      (Nat.le_of_lt_succ byte.isLt) direction
    cases hn : stepIndex (which.of (b.ranges byte)) direction with
    | none =>
      simp only [hn] at htalk
      exact ⟨b, congrArg Talk.after htalk, hb, fun _ _ _ => rfl⟩
    | some n =>
      simp only [hn] at htalk
      have hstepped := stepped_setRange (hb byte which) hn
      refine ⟨_, congrArg Talk.after htalk,
        hstepped.inBounds hb (moves_of_stepIndex (hb byte which) hn).2.1, fun c other hne => ?_⟩
      refine hstepped.others c other fun heq => hne ?_
      obtain ⟨rfl, rfl⟩ := Prod.mk.inj heq
      exact ⟨byte, direction, rfl, rfl⟩
  · have hstep : ∀ which channel, ¬c.Steps which channel := fun which channel h =>
      hstep ⟨which, channel, h⟩
    obtain ⟨b', hafter, hranges⟩ :=
      ranges_converse id latency (b := b) (c.harmless id hstep)
    exact ⟨b', hafter, fun channel which => hranges ▸ hb channel which,
      fun channel which _ => by rw [hranges]⟩

variable (id latency) in
/-- So do any number of calls. -/
theorem Call.ranges_afterAll (hb : InBounds b) (calls : List Call) :
    ∃ b' : Simulated.Bridge, afterAll id (attached latency b) calls = attached latency b' ∧
      InBounds b' ∧ ∀ (channel : Nat) (which : Index), (∀ c ∈ calls, ¬c.Steps which channel) →
        which.of (b'.ranges channel) = which.of (b.ranges channel) := by
  induction calls generalizing b with
  | nil => exact ⟨b, rfl, hb, fun _ _ _ => rfl⟩
  | cons c calls ih =>
    obtain ⟨b₁, hafter, hb₁, hkept⟩ := c.ranges_after id latency hb
    obtain ⟨b₂, hall, hb₂, hkept'⟩ := ih hb₁
    refine ⟨b₂, ?_, hb₂, fun channel which hne => ?_⟩
    · change afterAll id (c.on id (attached latency b)).after calls = _
      rw [hafter, hall]
    · obtain ⟨hc, hcalls⟩ := List.forall_mem_cons.1 hne
      exact (hkept' channel which hcalls).trans (hkept channel which hc)

/-- Every index of a bridge that was just switched on is within its bounds. -/
lemma inBounds_initial : InBounds .initial := by
  intro channel which
  cases which
  · exact (by decide : 1 ≤ 5 ∧ 5 ≤ topIndex)
  · exact (by decide : 1 ≤ 10 ∧ 10 ≤ topIndex)

end Calls

/-- **Steps move one index.** After any calls of the driver on a simulated bridge that was just
switched on, every index of every channel is between 1 and 22. A step succeeds; it gives `none`
exactly if its index is the last one in its direction, and then it writes nothing and changes
nothing; otherwise its index moves by one in its direction, to the index it gives, and no other one
changes. After any calls that do not step the same index, a step back restores it. -/
theorem steps_move_one_index (id : String) (latency : Nat) (calls : List Call) :
    ∃ b : Simulated.Bridge,
      Call.afterAll id (attached latency .initial) calls = attached latency b ∧
      (∀ (channel : Nat) (which : Index), Within (which.of (b.ranges channel))) ∧
      ∀ (which : Index) (channel : Fin 256) (direction : Direction),
        ∃ (result : Option Nat) (said : List (Exchange Surroundings)) (b' : Simulated.Bridge),
          (Call.step which channel direction).on id (attached latency b) =
            ⟨.ok result, said, attached latency b'⟩ ∧
          (result = none ↔ which.of (b.ranges channel) = lastIndex direction) ∧
          (result = none → b' = b ∧ ∀ e ∈ said, ∀ id' command, e.request ≠ .write id' command) ∧
          ∀ n, result = some n → Stepped which channel direction b b' n ∧
            ∀ between : List Call, (∀ c ∈ between, ¬c.Steps which channel) →
              ∃ (said' : List (Exchange Surroundings)) (d d' : Simulated.Bridge),
                Call.afterAll id (attached latency b') between = attached latency d ∧
                (Call.step which channel (opposite direction)).on id (attached latency d) =
                  ⟨.ok (some (which.of (b.ranges channel))), said', attached latency d'⟩ ∧
                Stepped which channel (opposite direction) d d' (which.of (b.ranges channel)) := by
  obtain ⟨b, hafter, hb, -⟩ :=
    Call.ranges_afterAll id latency inBounds_initial calls
  refine ⟨b, hafter, hb, fun which channel direction => ?_⟩
  have hbyte : channel.val ≤ Number.byteMax := Nat.le_of_lt_succ channel.isLt
  have htalk := converse_step id latency hb which hbyte direction
  cases hn : stepIndex (which.of (b.ranges channel)) direction with
  | none =>
    simp only [hn] at htalk
    have hlast := (stepIndex_eq_none_iff (hb channel which)).1 hn
    refine ⟨none, _, b, htalk, by simpa using hlast, fun _ => ⟨rfl, ?_⟩, by rintro _ ⟨⟩⟩
    intro e he id' command heq
    rcases List.mem_cons.1 he with rfl | he
    · cases heq
    · rcases List.mem_cons.1 he with rfl | he
      · cases heq
      · obtain rfl := List.mem_singleton.1 he
        cases heq
  | some n =>
    simp only [hn] at htalk
    obtain ⟨-, hwithin, hback⟩ := moves_of_stepIndex (hb channel which) hn
    have hstepped := stepped_setRange (hb channel which) hn
    have hlast : which.of (b.ranges channel) ≠ lastIndex direction := fun hlast => by
      rw [(stepIndex_eq_none_iff (hb channel which)).2 hlast] at hn
      cases hn
    refine ⟨some n, _, _, htalk, by simpa using hlast, by rintro ⟨⟩, ?_⟩
    rintro _ ⟨⟩
    refine ⟨hstepped, fun between hbetween => ?_⟩
    obtain ⟨d, hafter', hd, hkept⟩ := Call.ranges_afterAll id latency
      (hstepped.inBounds hb hwithin) between
    have hindex : which.of (d.ranges channel) = n :=
      (hkept channel which hbetween).trans hstepped.eq
    rw [← hindex] at hback
    have htalk' := converse_step id latency hd which hbyte
      (opposite direction)
    simp only [hback] at htalk'
    exact ⟨_, d, _, hafter', htalk', stepped_setRange (hd channel which) hback⟩

/-- One step up from where the range of a channel starts. -/
example : (converse "bridge" (attached 0 .initial)
    (stepRange "bridge" 7 .up).run).result.toOption = some (some 11) := by decide +kernel

end Bridge

end CryoRig.Instrument
