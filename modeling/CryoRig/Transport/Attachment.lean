import CryoRig.Transport.Endpoint

/-!
# What is attached to the bus

An instrument is attached by whatever moves commands to it and answers back. For rehearsals the
answers to some commands can be laid down beforehand: each takes the next of them, and the last
one stays.

## Main definitions

* `CryoRig.Transport.Rehearsed`: an answer that is laid down beforehand.
* `CryoRig.Transport.Attachment`: an instrument on the bus.
* `CryoRig.Transport.Attachment.answer`: its answer to a command.
-/

namespace CryoRig.Transport

/-- An answer that is laid down beforehand. -/
inductive Rehearsed where
  /-- A reply. -/
  | reply (text : String)
  /-- No reply. -/
  | silence
  /-- A fault on the bus. -/
  | fault (text : String)
  /-- Whatever the other end answers. -/
  | pass
  deriving DecidableEq, Repr

/-- An instrument on the bus. -/
structure Attachment where
  /-- The milliseconds every transaction takes. -/
  latency : Nat
  /-- The answers laid down for some commands. -/
  rehearsed : List (String × List Rehearsed)
  /-- What is at the other end. -/
  endpoint : Endpoint

namespace Attachment

/-- An instrument without rehearsed answers. -/
def plain (endpoint : Endpoint) : Attachment := ⟨0, [], endpoint⟩

/-- Take the next rehearsed answer to a command, if any are laid down. -/
def takeRehearsed (command : String) :
    List (String × List Rehearsed) → Option Rehearsed × List (String × List Rehearsed)
  | [] => (none, [])
  | (c, answers) :: rest =>
    if c = command then
      match answers with
      | [] => (none, (c, []) :: rest)
      | [last] => (some last, (c, [last]) :: rest)
      | next :: more => (some next, (c, more) :: rest)
    else
      let (answer, rest) := takeRehearsed command rest
      (answer, (c, answers) :: rest)

/-- What comes back for a command, and the instrument after it; `expected` tells whether anything
is to come back. -/
def answer (a : Attachment) (expected : Bool) (command : String) : Answer × Attachment :=
  match takeRehearsed command a.rehearsed with
  | (some (.reply text), rehearsed) => (.reply text, { a with rehearsed := rehearsed })
  | (some .silence, rehearsed) =>
    (.silence Endpoint.mockName, { a with rehearsed := rehearsed })
  | (some (.fault text), rehearsed) =>
    (.fault (.reported text), { a with rehearsed := rehearsed })
  | (some .pass, rehearsed) | (none, rehearsed) =>
    let (answer, endpoint) := a.endpoint.exchange expected command
    (answer, { a with rehearsed := rehearsed, endpoint := endpoint })

end Attachment

end CryoRig.Transport
