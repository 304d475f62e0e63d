import CryoRig.Fault
import CryoRig.Settings.Rig
import CryoRig.Text.Fields
import CryoRig.Transport.Stream

/-!
# The other end

What an instrument is reached through: a simulated instrument, a lasting connection to a peer, or a
peer that is called for each request.

## Main definitions

* `CryoRig.Transport.Peer`: what is at an address.
* `CryoRig.Transport.Endpoint`: the other end, with `describe`.
* `CryoRig.Transport.Endpoint.ofConnection`: the other end of a connection that is configured.
* `CryoRig.Transport.Endpoint.exchange`: a command and what comes back for it.
-/

namespace CryoRig.Transport

/-! ## Peers -/

/-- What a peer does about one request. -/
structure Response where
  /-- The pieces it sends, each with the milliseconds since the request. -/
  pieces : List (Nat × List UInt8)
  /-- After how many milliseconds it hangs up, if it does. -/
  hangsUpAfter : Option Nat
  deriving DecidableEq, Repr

/-- A peer that does nothing. -/
def Response.silent : Response := ⟨[], none⟩

/-- What is at an address. -/
inductive Peer where
  /-- Nobody can be reached there. -/
  | unreachable (cause : SystemFault)
  /-- A peer that does this about the next requests, and after that hangs up. -/
  | answering (responses : List Response)
  deriving DecidableEq, Repr

/-- What is at each address. -/
abbrev Network := String → Peer

/-- Whether a host is given by number, or is this machine itself. -/
def isNumeric (host : String) : Bool :=
  let parts := Text.fields '.' host
  let isByte (part : String) : Bool :=
    part.toList.all Char.isDigit && (Number.readWhole? Number.byteMax part).isSome &&
      (part.length = 1 || part.toList.head? != some '0')
  (parts.length = 4 && parts.all isByte) || host == "localhost" || host.toList.head? == some '['

/-- Whether an address has a port that is a number, and a host that is known. -/
def checkAddress (address : String) : Except SystemFault Unit :=
  match (Text.fields ':' address).reverse with
  | port :: host :: more =>
    match Number.readWhole Number.wordMax port with
    | .ok _ =>
      if isNumeric (":".intercalate (host :: more).reverse) then .ok () else .error .unknownHost
    | .error _ => .error .badPort
  | _ => .error .badAddress

/-- A network on which nobody can be reached. -/
def isolated : Network := fun address =>
  match checkAddress address with
  | .ok _ => .unreachable .networkUnreachable
  | .error cause => .unreachable cause

/-! ## Endpoints -/

/-- A lasting connection. -/
structure Line where
  /-- The address of the peer. -/
  address : String
  /-- What ends every command. -/
  terminator : String
  /-- How long a reply may take, in milliseconds. -/
  limit : Nat
  /-- The milliseconds since the connection was made. -/
  clock : Nat
  /-- What has arrived and what will. -/
  stream : Stream
  /-- What the peer will do about the next requests. -/
  responses : List Response
  deriving DecidableEq, Repr

/-- The other end. -/
inductive Endpoint where
  /-- Nothing that answers. -/
  | nothing
  /-- A simulated instrument. -/
  | simulated (device : Simulated.Device)
  /-- A lasting connection. -/
  | line (connection : Line)
  /-- A peer that is called for each request. -/
  | caller (address : String) (limit : Nat) (peer : Peer)

/-- What comes back for a command. -/
inductive Answer where
  /-- A reply. -/
  | reply (text : String)
  /-- No reply from whoever has this name. -/
  | silence (name : String)
  /-- A fault. -/
  | fault (cause : DeviceFault)

/-- What comes back, from a result. -/
def Answer.ofExcept : Except DeviceFault String → Answer
  | .ok text => .reply text
  | .error cause => .fault cause

namespace Line

/-- The peer takes note of a command: what it sends is on its way. -/
def send (l : Line) : Line :=
  match l.responses with
  | [] => l
  | r :: rest =>
    let coming := r.pieces.map fun (delay, piece) => (l.clock + delay, piece)
    let hangsUpAt := l.stream.hangsUpAt.or (r.hangsUpAfter.map (l.clock + ·))
    { l with
      responses := rest
      stream := { l.stream with coming := l.stream.coming ++ coming, hangsUpAt := hangsUpAt } }

/-- Send a command and read the line that comes back. -/
def query (l : Line) (command : String) : Except DeviceFault String × Line :=
  let l := l.send
  let (received, stream) := l.stream.readUntil (endMark l.terminator) (l.clock + l.limit)
  (lineReply l.address command received, { l with stream := stream })

/-- The bytes that a command is sent as. -/
def request (l : Line) (command : String) : List UInt8 :=
  Text.encode (command ++ l.terminator).toList

end Line

namespace Endpoint

/-- The name of what has nothing behind it. -/
def mockName : String := "mock"

/-- The other end in words. -/
def describe : Endpoint → String
  | nothing => mockName
  | simulated device => "simulated://" ++ device.model.name
  | line connection => "tcp://" ++ connection.address
  | caller address _ _ => "mss://" ++ address

/-- The other end of a connection that is configured. -/
def ofConnection (network : Network) : Settings.Connection → Except Fault Endpoint
  | .serial .. => .error (.leftOut "instrument_serial")
  | .visa .. => .error (.leftOut "instrument_visa")
  | .tcp address terminator limit =>
    match network address with
    | .unreachable cause => .error (.device (.during (.connecting address) (.system cause)))
    | .answering responses =>
      .ok (.line ⟨address, terminator, limit, 0, ⟨[], [], none⟩, responses⟩)
  | .mss address limit => .ok (.caller address limit (network address))
  | .simulated model => .ok (.simulated (.initial model))

/-- Who is called, in words. -/
def calledName (address : String) : String := "MSS at " ++ address

/-- What a peer sends that is called for one request: all bytes in time. The reply is complete when
the peer hangs up. -/
def callReply (command : String) (limit : Nat) (r : Response) : Except DeviceFault String :=
  let inTime := r.pieces.takeWhile fun p => p.1 ≤ limit
  let bytes := inTime.flatMap Prod.snd
  match Frame.read bytes, r.hangsUpAfter.any (· ≤ limit) && inTime.length = r.pieces.length with
  | .error (.during _ (.system .endOfStream)), false =>
    .error (.timedOut s!"waiting for MSS reply to '{command}'")
  | result, _ => result

/-- What comes back for a command, and the other end after it; a peer is not read from unless
`expected`. -/
def exchange (e : Endpoint) (expected : Bool) (command : String) : Answer × Endpoint :=
  match e with
  | .nothing => (.silence mockName, .nothing)
  | .simulated device =>
    let (result, device') := device.handle command
    (match result with
      | .ok (some text) => .reply text
      | .ok none => .silence device.model.name
      | .error cause => .fault cause, .simulated device')
  | .line l =>
    if expected then
      let (result, l) := l.query command
      (.ofExcept result, .line l)
    else (.reply "", .line l.send)
  | .caller address limit peer =>
    match peer with
    | .unreachable cause =>
      (.fault (.during (.connecting (calledName address)) (.system cause)), e)
    | .answering responses =>
      let reply := callReply command limit (responses.headD ⟨[], some 0⟩)
      let answer := if expected then Answer.ofExcept reply else .reply ""
      (answer, .caller address limit (.answering responses.tail))

end Endpoint

/-- What a command that is not answered comes to. -/
def Answer.toWrite : Answer → Except DeviceFault Unit
  | .reply _ | .silence _ => .ok ()
  | .fault cause => .error cause

/-- What a query comes to. -/
def Answer.toQuery (command : String) : Answer → Except DeviceFault String
  | .reply text => .ok text
  | .silence name => .error (.noReply name command)
  | .fault cause => .error cause

end CryoRig.Transport
