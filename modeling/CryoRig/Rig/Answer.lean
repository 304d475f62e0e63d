import CryoRig.Rig.State

/-!
# How the rig answers requests

A request is first *entered*: this puts its party into a line or a command onto the bus, and says
when a timer would wake whoever waits for the reply. After that it is *answered* as soon as the
reply is there.

## Main definitions

* `CryoRig.Rig.State.enter`: what happens when a request is made.
* `CryoRig.Rig.State.answer?`: the reply to a request, if it is there.

## Main results

* `CryoRig.Rig.State.clock_enter`, `clock_of_answer?`: neither making a request nor answering it
  takes time.
-/

namespace CryoRig.Rig

open Control

namespace State

/-! ## Small changes -/

/-- Wake the jobs that wait for certain requests, those that have waited longest first. -/
def wake (s : State) (concerned : Request → Bool) : State :=
  let woken := (s.waiting.filter fun w => concerned w.2.request).mergeSort fun a b =>
    a.2.rank ≤ b.2.rank
  { s with ready := s.ready ++ (woken.map Prod.fst).filter (· ∉ s.ready) }

/-- Wake a party, if it is a job. The foreground looks for itself whether it can go on. -/
def wakeParty (s : State) : Option Party → State
  | some (.job number) => if number ∈ s.ready then s else { s with ready := s.ready ++ [number] }
  | _ => s

/-- Report something. -/
def note (s : State) (p : Party) (event : Event) : State :=
  { s with journal := ⟨s.clock, p, event⟩ :: s.journal }

/-- Put a command onto the bus, if its instrument is attached. -/
def send (s : State) (id command : String) (sending : Sending) : Option Nat × State :=
  match s.attached.lookup id with
  | some a =>
    (some (s.clock + a.latency), { s with traffic := ⟨s.clock, id, sending, command⟩ :: s.traffic })
  | none => (none, s)

/-- The instrument's answer to a command, if one is expected; `none` if it is not attached. -/
def receive (s : State) (id command : String) (expected : Bool) :
    Option Transport.Answer × State :=
  match s.attached.lookup id with
  | some a =>
    let (answer, a) := a.answer expected command
    (some answer, { s with attached := s.attached.map fun x => if x.1 = id then (id, a) else x })
  | none => (none, s)

/-- The files with the directory that a path lies in. -/
def filesFor (s : State) (path : String) : Except StorageFault FileStore :=
  match parentPath? path with
  | some parent => (s.files.makeDirectories parent).mapError (StorageFault.directory parent)
  | none => .ok s.files

/-- Make an empty file, with the directories it lies in. -/
def createFile (s : State) (path : String) : Except StorageFault Nat × State :=
  match s.filesFor path with
  | .error cause => (.error cause, s)
  | .ok files =>
    match files.create path with
    | .error cause => (.error (.file cause), { s with files := files })
    | .ok files =>
      (.ok s.writers.size, { s with files := files, writers := s.writers.push ⟨path, 0⟩ })

/-- Write into a file where its writer has got to. -/
def appendFile (s : State) (file : Nat) (text : String) : Except StorageFault Unit × State :=
  match s.writers[file]? with
  | none => (.error (.file .noEntry), s)
  | some w => match s.files.write w.path w.offset text with
    | .error cause => (.error (.file cause), s)
    | .ok files =>
      let w := { w with offset := w.offset + text.utf8ByteSize }
      (.ok (), { s with files := files, writers := s.writers.setIfInBounds file w })

/-! ## Entering -/

/-- The alarm for a moment that a wait is limited by. -/
def limitAlarm (limit : Option Instant) : Option Nat := limit.map Instant.tick

/-- What happens when a request is made: the alarm of whoever waits for the reply, and the rig. -/
def enter (s : State) (p : Party) : Request → Option Nat × State
  | .device .seize => (none, { s with bus := s.bus.arrive p })
  | .device (.sleep span) => (some (span.ringsAt s.clock), s)
  | .device (.write id command) => s.send id command .write
  | .device (.query id command) => s.send id command .query
  | .pause _ span => (some (span.ringsAt s.clock), s)
  | .join _ limit => (limitAlarm limit, s)
  | .takeDesk limit => (limitAlarm limit, { s with desk := s.desk.arrive p })
  | _ => (none, s)

/-! ## Answering -/

/-- Whether an alarm has rung. -/
def rung (s : State) (alarm : Option Nat) : Bool := alarm.any (· ≤ s.clock)

/-- Wait for a reply that an instrument takes its time for. -/
def receiveInTime {α : Type} (s : State) (alarm : Option Nat) (id command : String)
    (expected : Bool) (outcome : Transport.Answer → Except DeviceFault α) :
    Option (Option (Except DeviceFault α) × State) :=
  match alarm with
  | none => some (none, s)
  | some _ =>
    if s.rung alarm then
      let (answer, s) := s.receive id command expected
      some (answer.map outcome, s)
    else none

/-- The reply to a driver's request, if it is there. -/
def answerDevice? (s : State) (p : Party) (alarm : Option Nat) :
    (r : Instrument.Request) → Option (r.Reply × State)
  | .seize => if s.bus.holder = some p then some ((), s) else none
  | .release =>
    let bus := s.bus.leave
    some ((), { s with bus := bus }.wakeParty bus.holder)
  | .write id command => s.receiveInTime alarm id command false Transport.Answer.toWrite
  | .query id command => s.receiveInTime alarm id command true (Transport.Answer.toQuery command)
  | .sleep _ => if s.rung alarm then some ((), s) else none
  | .log event => some ((), s.note p event)

/-- Whether a request is a pause under a token. -/
def isPauseUnder (token : Nat) : Request → Bool
  | .pause t _ => t == token
  | _ => false

/-- The reply to a request, if it is there, and the rig after it. -/
def answer? (s : State) (p : Party) (alarm : Option Nat) :
    (r : Request) → Option (r.Reply × State)
  | .device r => s.answerDevice? p alarm r
  | .bench a =>
    let (outcome, bench) := s.bench.perform a
    some (outcome, { s with bench := bench })
  | .clock => some (s.clock, s)
  | .calendar => some (s.calendar, s)
  | .newToken => some (s.tokens.size, { s with tokens := s.tokens.push false })
  | .fire token =>
    some ((), { s with tokens := s.tokens.setIfInBounds token true }.wake (isPauseUnder token))
  | .fired token => some (s.isFired token, s)
  | .pause token _ =>
    if s.isFired token then some (false, s) else if s.rung alarm then some (true, s) else none
  | .spawn job =>
    some (s.jobs.size,
      { s with jobs := s.jobs.push (.running (.done (.again job))),
               ready := s.ready ++ [s.jobs.size] })
  | .ended job => some ((s.ending? job).isSome, s)
  | .join job _ =>
    match s.ending? job with
    | some ending => some (some ending, s)
    | none => if s.rung alarm then some (none, s) else none
  | .publish console state =>
    some ((), s.setConsole console { s.console console with published := state })
  | .published console => some ((s.console console).published, s)
  | .present token x =>
    some ((), { s with latest := (token, x) :: s.latest.filter fun y => y.1 ≠ token })
  | .create path => some (s.createFile path)
  | .append file text => some (s.appendFile file text)
  | .slot console => some ((s.console console).slot, s)
  | .setSlot console a => some ((), s.setConsole console { s.console console with slot := a })
  | .tryDesk =>
    match s.desk.holder with
    | none => some (true, { s with desk := s.desk.arrive p })
    | some _ => some (false, s)
  | .takeDesk _ =>
    if s.desk.holder = some p then some (true, s)
    else if s.rung alarm then some (false, { s with desk := s.desk.giveUp p })
    else none
  | .leaveDesk =>
    let desk := s.desk.leave
    some ((), { s with desk := desk }.wakeParty desk.holder)
  | .program => some (s.program, s)
  | .setProgram job => some ((), { s with program := job })
  | .programToken => some (s.programToken, s)
  | .setProgramToken token => some ((), { s with programToken := token })

/-! ## Requests take no time -/

theorem clock_send (s : State) (id command : String) (sending : Sending) :
    (s.send id command sending).2.clock = s.clock := by
  unfold send
  split <;> rfl

/-- Making a request takes no time. -/
theorem clock_enter (s : State) (p : Party) (r : Request) : (s.enter p r).2.clock = s.clock := by
  unfold enter
  split <;> first | rfl | exact clock_send ..

theorem clock_wakeParty (s : State) (p : Option Party) : (s.wakeParty p).clock = s.clock := by
  unfold wakeParty
  split
  · split <;> rfl
  · rfl

theorem clock_receive (s : State) (id command : String) (expected : Bool) :
    (s.receive id command expected).2.clock = s.clock := by
  unfold receive
  split <;> rfl

theorem clock_of_receiveInTime {α : Type} {s t : State} {alarm : Option Nat} {id command : String}
    {expected : Bool} {outcome : Transport.Answer → Except DeviceFault α}
    {reply : Option (Except DeviceFault α)}
    (h : s.receiveInTime alarm id command expected outcome = some (reply, t)) :
    t.clock = s.clock := by
  unfold receiveInTime at h
  split at h
  · cases h
    rfl
  · split at h
    · cases h
      exact clock_receive ..
    · cases h

theorem clock_createFile (s : State) (path : String) : (s.createFile path).2.clock = s.clock := by
  unfold createFile
  split
  · rfl
  · split <;> rfl

theorem clock_appendFile (s : State) (file : Nat) (text : String) :
    (s.appendFile file text).2.clock = s.clock := by
  unfold appendFile
  split
  · rfl
  · split <;> rfl

theorem clock_of_answerDevice? {s t : State} {p : Party} {alarm : Option Nat}
    {r : Instrument.Request} {reply : r.Reply} (h : s.answerDevice? p alarm r = some (reply, t)) :
    t.clock = s.clock := by
  cases r with
  | write | query => exact clock_of_receiveInTime h
  | release =>
    cases h
    exact clock_wakeParty ..
  | log =>
    cases h
    rfl
  | seize | sleep =>
    simp only [answerDevice?] at h
    split at h <;> cases h
    rfl

/-- Answering a request takes no time. -/
theorem clock_of_answer? {s t : State} {p : Party} {alarm : Option Nat} {r : Request}
    {reply : r.Reply} (h : s.answer? p alarm r = some (reply, t)) : t.clock = s.clock := by
  cases r with
  | device r => exact clock_of_answerDevice? h
  | create path =>
    have ht : s.createFile path = (reply, t) := Option.some.inj h
    simpa [ht] using clock_createFile s path
  | append file text =>
    have ht : s.appendFile file text = (reply, t) := Option.some.inj h
    simpa [ht] using clock_appendFile s file text
  | leaveDesk =>
    cases h
    exact clock_wakeParty ..
  | pause | join | tryDesk | takeDesk =>
    simp only [answer?] at h
    repeat' split at h
    all_goals cases h
    all_goals rfl
  | _ =>
    cases h
    rfl

end State

end CryoRig.Rig
