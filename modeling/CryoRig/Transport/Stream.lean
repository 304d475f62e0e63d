import CryoRig.Instrument.Fault
import CryoRig.Text.Blank
import CryoRig.Text.Utf8

/-!
# Bytes from a peer

What a peer sends arrives in pieces, each at its own time, and at some moment the peer may hang up.
Two ways of telling replies apart are in use. On a lasting connection a reply is a line: it ends with
a byte that is agreed upon, and what arrives beyond it is kept for the next reply. On a connection
for one request the reply begins with its length.

## Main definitions

* `CryoRig.Transport.Stream`: what has arrived and what will.
* `CryoRig.Transport.Stream.readUntil`: bytes up to and including a given one.
* `CryoRig.Transport.lineReply`: the reply that is a line.
* `CryoRig.Transport.Frame.read`: the reply of stated length.

## Main results

* `CryoRig.Transport.splitAfter_append`: nothing is lost where a line is cut off.
-/

namespace CryoRig.Transport

/-- What has arrived on a connection and what will. Times are milliseconds of the peer's clock. -/
structure Stream where
  /-- Bytes that have arrived and were not used. -/
  kept : List UInt8
  /-- What will arrive, and when. -/
  coming : List (Nat × List UInt8)
  /-- When the peer hangs up, if it does. -/
  hangsUpAt : Option Nat
  deriving DecidableEq, Repr

/-- Cut bytes behind the first one with a given value. -/
def splitAfter (mark : UInt8) : List UInt8 → Option (List UInt8 × List UInt8)
  | [] => none
  | b :: bs =>
    if b = mark then some ([b], bs)
    else (splitAfter mark bs).map fun (line, rest) => (b :: line, rest)

/-- Nothing is lost where a line is cut off. -/
theorem splitAfter_append {mark : UInt8} {bs line rest : List UInt8}
    (h : splitAfter mark bs = some (line, rest)) : line ++ rest = bs := by
  induction bs generalizing line with
  | nil => simp [splitAfter] at h
  | cons b bs ih =>
    simp only [splitAfter] at h
    split at h
    · cases h; rfl
    · obtain ⟨⟨l, r⟩, hs, he⟩ := Option.map_eq_some_iff.1 h
      cases he
      simp [ih hs]

/-- How reading ended. -/
inductive Received where
  /-- With these bytes; at the end of the connection the mark may be missing. -/
  | bytes (bs : List UInt8)
  /-- It took too long. -/
  | tooLate
  deriving DecidableEq, Repr

/-- Bytes up to and including `mark`, or up to the end of the connection. If the mark has not arrived
by `deadline`, the bytes read so far are lost. -/
def readFrom (mark : UInt8) (deadline : Nat) (hangsUpAt : Option Nat) (so_far : List UInt8) :
    List (Nat × List UInt8) → Received × Stream
  | [] =>
    if hangsUpAt.any (· ≤ deadline) then (.bytes so_far, ⟨[], [], hangsUpAt⟩)
    else (.tooLate, ⟨[], [], hangsUpAt⟩)
  | (time, piece) :: rest =>
    if time ≤ deadline then
      match splitAfter mark piece with
      | some (line, kept) => (.bytes (so_far ++ line), ⟨kept, rest, hangsUpAt⟩)
      | none => readFrom mark deadline hangsUpAt (so_far ++ piece) rest
    else (.tooLate, ⟨[], (time, piece) :: rest, hangsUpAt⟩)

/-- Bytes up to and including `mark`, or up to the end of the connection, by `deadline`. -/
def Stream.readUntil (s : Stream) (mark : UInt8) (deadline : Nat) : Received × Stream :=
  match splitAfter mark s.kept with
  | some (line, kept) => (.bytes line, { s with kept := kept })
  | none => readFrom mark deadline s.hangsUpAt s.kept s.coming

/-- Bytes as text. -/
def textOf (bs : List UInt8) : List Char := Text.decodeLossy bs

/-! ## Lines -/

/-- The byte that ends a reply: the last one of the terminator, or a line feed. -/
def endMark (terminator : String) : UInt8 := (Text.encode terminator.toList).getLastD 10

/-- The reply to a command that is a line, without the blanks around it. -/
def lineReply (address command : String) : Received → Except DeviceFault String
  | .tooLate => .error (.timedOut s!"waiting for reply to '{command}'")
  | .bytes [] => .error (.closed address)
  | .bytes bs => .ok (String.ofList (Text.trimChars (textOf bs)))

/-! ## Frames -/

namespace Frame

/-- The longest reply that is taken, in bytes. -/
def limit : Nat := 1024 * 1024

/-- A whole number of four bytes with a sign, the least significant byte first. -/
def signed (a b c d : UInt8) : Int :=
  let n : Nat := a.toNat + 256 * (b.toNat + 256 * (c.toNat + 256 * d.toNat))
  if n < 0x80000000 then n else (n : Int) - 0x100000000

/-- A text without the line end behind it, if there is one. -/
def dropLineEnd (cs : List Char) : List Char :=
  match cs.reverse with
  | '\n' :: '\r' :: rest => rest.reverse
  | _ => cs

/-- The reply in all bytes that a peer sent before it hung up. -/
def read (bs : List UInt8) : Except DeviceFault String :=
  match bs with
  | a :: b :: c :: d :: rest =>
    let size := signed a b c d
    if size < 0 then .error (.negativeSize size)
    else if limit < size.toNat then .error (.oversized size.toNat limit)
    else if rest.length < size.toNat then
      .error (.during (.other "MSS reply payload") (.system .endOfStream))
    else .ok (String.ofList (dropLineEnd (textOf (rest.take size.toNat))))
  | _ => .error (.during (.other "MSS reply size") (.system .endOfStream))

end Frame

end CryoRig.Transport
