import CryoRig.Instrument.Fault
import CryoRig.Journal
import CryoRig.Process
import CryoRig.Text.Blank
import CryoRig.Text.Fields

/-!
# The bus

All instruments hang on one bus. Whoever wants to send something takes the bus, and nobody else
gets it until it is released. A single command is one such transaction. Commands that belong
together are sent under one, and the bus is released however they end.

## Main definitions

* `CryoRig.Instrument.Surroundings`: what a driver may ask for.
* `CryoRig.Instrument.Driving`: the work of a driver, which may fail.
* `CryoRig.Instrument.withBus`: work done while holding the bus.
* `CryoRig.Instrument.parseValues`: the numbers of a reply.
-/

namespace CryoRig.Instrument

/-! ## Work -/

/-- What a driver may ask for. -/
inductive Request where
  /-- Wait until the bus is free and take it. -/
  | seize
  /-- Give the bus back. -/
  | release
  /-- Send a command that is not answered. -/
  | write (id command : String)
  /-- Send a command and read the answer. -/
  | query (id command : String)
  /-- Let time pass. -/
  | sleep (span : Duration)
  /-- Report something. -/
  | log (event : Event)

/-- What comes back; `none` if no such instrument is attached. -/
def Request.Reply : Request → Type
  | write .. => Option (Except DeviceFault Unit)
  | query .. => Option (Except DeviceFault String)
  | seize | release | sleep _ | log _ => Unit

/-- The surroundings of a driver. -/
def Surroundings : Interface := ⟨Request, Request.Reply⟩

/-- Work that may fail. -/
abbrev Driving := ExceptT DeviceFault (Process Surroundings)

/-- Ask the surroundings for something. -/
def ask (r : Request) : Driving r.Reply :=
  ExceptT.mk ((Process.request (I := Surroundings) r).bind fun reply => .done (.ok reply))

/-- Do something while holding the bus. -/
def withBus {α : Type} (work : Driving α) : Driving α := ExceptT.mk do
  let _ ← Process.request (I := Surroundings) .seize
  let result ← work.run
  let _ ← Process.request (I := Surroundings) .release
  pure result

/-- A result that needs nothing from the surroundings. -/
def settled {α : Type} (result : Except DeviceFault α) : Driving α := ExceptT.mk (.done result)

/-- Report something. -/
def log (event : Event) : Driving Unit := ask (.log event)

/-- Let time pass. -/
def sleep (span : Duration) : Driving Unit := ask (.sleep span)

/-- The outcome of `doing` something with an instrument; `none` if it is not attached. -/
def outcome {α : Type} (id : String) (doing : Doing) :
    Option (Except DeviceFault α) → Driving α
  | none => settled (.error (.notAttached id))
  | some result => settled (result.mapError (.during doing))

/-! ## Numbers in replies -/

/-- The numbers of a reply; there is at least one. -/
structure Values where
  /-- The first number. -/
  first : Float
  /-- The others. -/
  rest : List Float

/-- All numbers of a reply. -/
def Values.toList (v : Values) : List Float := v.first :: v.rest

/-- One field of a reply. -/
def parseField (field : List Char) : Except DeviceFault Float :=
  let field := Text.trimChars field
  (Number.readChars field).mapError fun cause =>
    .during (.field (String.ofList field)) (.number cause)

/-- The numbers of a reply, separated by commas. -/
def parseValues (reply : String) : Except DeviceFault Values :=
  match Text.trimChars reply.toList with
  | [] => .error .emptyReply
  | cs@(_ :: _) => match Text.cut ',' cs with
    | [] => .error .emptyReply
    | field :: fields => do
      let first ← parseField field
      let rest ← fields.mapM parseField
      pure ⟨first, rest⟩

/-! ## Transactions on a bus that is held -/

namespace Held

/-- Send a command that is not answered. -/
def write (id command : String) : Driving Unit := do
  outcome id (.writing id command) (← ask (.write id command))

/-- Send a command and read the answer. -/
def query (id command : String) : Driving String := do
  outcome id (.querying id command) (← ask (.query id command))

/-- Send a command and read the numbers of the answer. -/
def values (id command : String) : Driving Values := do
  let reply ← query id command
  settled ((parseValues reply).mapError (.during (.reading id command)))

end Held

/-! ## Single transactions -/

/-- Send a command that is not answered. -/
def write (id command : String) : Driving Unit := withBus (Held.write id command)

/-- Send a command and read the answer. -/
def query (id command : String) : Driving String := withBus (Held.query id command)

/-- Send a command and read the numbers of the answer. -/
def values (id command : String) : Driving Values := withBus (Held.values id command)

/-- Send a command and read the first number of the answer. -/
def number (id command : String) : Driving Float := do
  pure (← values id command).first

/-- Send a command and read an answer that is one whole number. -/
def whole (id command : String) (limit : Nat) : Driving Nat := do
  let reply ← query id command
  settled ((Number.readWhole limit (Text.trim reply)).mapError fun cause =>
    .during (.wholeReply id command reply) (.number cause))

end CryoRig.Instrument
