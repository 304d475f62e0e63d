import Mathlib.Data.List.TakeWhile
import Mathlib.Tactic.Lemma
import CryoRig.Proofs.EncodedText
import CryoRig.Proofs.LineReplies

/-!
# Replies of stated length

A peer that is called for each request says how long its reply is, in four bytes, and then sends
it. The length is a number with a sign, so that it may be negative, and it may be more than a reader
should make room for. What the peer sends beyond the stated length is never read: the connection
serves one request only, so that nothing is left over for the next one. A line end behind the reply
is part of the stated length, and is taken off.

## Main definitions

* `CryoRig.Transport.Frame.header`: a whole number in four bytes.
* `CryoRig.Transport.Frame.Stripped`: a text without the line end behind it.
* `CryoRig.Transport.Frame.framed`: a text with its length in front.
* `CryoRig.Transport.Response.Complete`: everything is sent in time, before hanging up.
* `CryoRig.Transport.Framed`: what comes back for the bytes of one response.

## Main results

* `CryoRig.Transport.Frame.read_eq_ok_iff`: which bytes are a reply.
* `CryoRig.Transport.framed_replies`: what comes back for the requests of a conversation.
-/

namespace CryoRig.Transport

/-! ## Frames -/

namespace Frame

/-- A whole number in four bytes, the least significant one first, as a two's complement. -/
def header (n : Int) : List UInt8 :=
  [n % 256, n / 256 % 256, n / 65536 % 256, n / 16777216 % 256].map fun part =>
    UInt8.ofNat part.toNat

/-- The numbers that four bytes can stand for. -/
def FitsHeader (n : Int) : Prop := -2147483648 ≤ n ∧ n < 2147483648

@[simp] lemma length_header (n : Int) : (header n).length = 4 := rfl

/-- Four bytes stand for one number. -/
lemma header_signed (a b c d : UInt8) : header (signed a b c d) = [a, b, c, d] := by
  have ha := a.toNat_lt
  have hb := b.toNat_lt
  have hc := c.toNat_lt
  have hd := d.toNat_lt
  have part : ∀ (x : UInt8) (n : Int), n = x.toNat → UInt8.ofNat n.toNat = x := fun x n h => by
    rw [h, Int.toNat_natCast, UInt8.ofNat_toNat]
  unfold signed
  simp only [header, List.map_cons, List.map_nil, List.cons.injEq, and_true]
  refine ⟨part a _ ?_, part b _ ?_, part c _ ?_, part d _ ?_⟩
  all_goals
    split
    · omega
    · omega

lemma signed_fits (a b c d : UInt8) : FitsHeader (signed a b c d) := by
  have ha := a.toNat_lt
  have hb := b.toNat_lt
  have hc := c.toNat_lt
  have hd := d.toNat_lt
  unfold signed FitsHeader
  dsimp only
  split
  · omega
  · omega

/-- Numbers that fit have different headers. -/
lemma header_injective {m n : Int} (hm : FitsHeader m) (hn : FitsHeader n)
    (h : header m = header n) : m = n := by
  unfold FitsHeader at hm hn
  have part : ∀ x y : Int, UInt8.ofNat (x % 256).toNat = UInt8.ofNat (y % 256).toNat →
      x % 256 = y % 256 := fun x y he => by
    have := congrArg UInt8.toNat he
    rw [UInt8.toNat_ofNat', UInt8.toNat_ofNat'] at this
    omega
  simp only [header, List.map_cons, List.map_nil, List.cons.injEq, and_true] at h
  obtain ⟨h0, h1, h2, h3⟩ := h
  have := part _ _ h0
  have := part _ _ h1
  have := part _ _ h2
  have := part _ _ h3
  omega

/-- Bytes that begin with a header. -/
lemma eq_header_append {bs : List UInt8} (h : 4 ≤ bs.length) :
    ∃ n rest, FitsHeader n ∧ bs = header n ++ rest := by
  match bs, h with
  | a :: b :: c :: d :: rest, _ =>
    exact ⟨signed a b c d, rest, signed_fits a b c d, by rw [header_signed]; rfl⟩

/-- A text without the line end behind it, if there is one. -/
def Stripped (cs ds : List Char) : Prop :=
  cs = ds ++ ['\r', '\n'] ∨ cs = ds ∧ ¬ ['\r', '\n'] <:+ cs

lemma stripped_dropLineEnd (cs : List Char) : Stripped cs (dropLineEnd cs) := by
  unfold dropLineEnd
  split
  · next rest h => exact .inl (by rw [← List.reverse_reverse cs, h]; simp)
  · next h =>
    refine .inr ⟨rfl, ?_⟩
    rintro ⟨front, rfl⟩
    exact h front.reverse (by simp)

lemma Stripped.unique {cs ds es : List Char} (h : Stripped cs ds) (h' : Stripped cs es) :
    ds = es := by
  rcases h with rfl | ⟨rfl, hn⟩
  · rcases h' with h' | ⟨-, hn⟩
    · exact List.append_cancel_right h'
    · exact absurd (List.suffix_append ..) hn
  · rcases h' with rfl | ⟨rfl, -⟩
    · exact absurd (List.suffix_append ..) hn
    · rfl

/-- What reading makes of bytes with a header in front. -/
lemma read_header_append {n : Int} (hn : FitsHeader n) (rest : List UInt8) :
    read (header n ++ rest) =
      if n < 0 then .error (.negativeSize n)
      else if limit < n.toNat then .error (.oversized n.toNat limit)
      else if rest.length < n.toNat then
        .error (.during (.other "MSS reply payload") (.system .endOfStream))
      else .ok (String.ofList (dropLineEnd (textOf (rest.take n.toNat)))) := by
  obtain ⟨a, b, c, d, hh⟩ : ∃ a b c d, header n = [a, b, c, d] := ⟨_, _, _, _, rfl⟩
  have hs : signed a b c d = n :=
    header_injective (signed_fits a b c d) hn ((header_signed a b c d).trans hh.symm)
  rw [hh, ← hs]
  rfl

/-- Bytes that are too few for a header. -/
lemma read_of_length_lt {bs : List UInt8} (h : bs.length < 4) :
    read bs = .error (.during (.other "MSS reply size") (.system .endOfStream)) := by
  match bs, h with
  | [], _ | [_], _ | [_, _], _ | [_, _, _], _ => rfl

/-- A reply is its length, as many bytes, and whatever comes behind them.

**Proof sketch.** Bytes that are read begin with a header, and a number that fits has only one. So
the length that is read is the one in front, and the bytes taken are as many as it says. -/
theorem read_eq_ok_iff {bs : List UInt8} {text : String} :
    read bs = .ok text ↔ ∃ (n : Int) (payload later : List UInt8), 0 ≤ n ∧ n ≤ 1048576 ∧
      payload.length = n ∧ bs = header n ++ payload ++ later ∧
        Stripped (Text.decodeLossy payload) text.toList := by
  constructor
  · intro h
    by_cases hb : bs.length < 4
    · rw [read_of_length_lt hb] at h
      cases h
    obtain ⟨n, rest, hn, rfl⟩ := eq_header_append (Nat.le_of_not_lt hb)
    rw [read_header_append hn] at h
    split at h
    · cases h
    split at h
    · cases h
    split at h
    · cases h
    next hneg hover hshort =>
    refine ⟨n, rest.take n.toNat, rest.drop n.toNat, by omega, ?_, ?_, ?_, ?_⟩
    · unfold limit at hover
      omega
    · rw [List.length_take]
      omega
    · rw [List.append_assoc, List.take_append_drop]
    · cases h
      rw [String.toList_ofList]
      exact stripped_dropLineEnd _
  · rintro ⟨n, payload, later, h0, h20, hlen, rfl, ht⟩
    have hn : FitsHeader n := ⟨by omega, by omega⟩
    have hsize : n.toNat = payload.length := by omega
    have hlimit : ¬ limit < payload.length := by
      unfold limit
      omega
    rw [List.append_assoc, read_header_append hn, if_neg (by omega), hsize, if_neg hlimit,
      if_neg (by simp), List.take_left', textOf, (stripped_dropLineEnd _).unique ht,
      String.ofList_toList]
    rfl

/-- A text with the number of its bytes in front. -/
def framed (cs : List Char) : List UInt8 :=
  header (Text.encode cs).length ++ Text.encode cs

/-- A text that was framed is read back, with a line end behind it or without.

**Proof sketch.** The bytes of the payload are those of the text with its line end, and decoding
undoes encoding. A text that does not itself end with a line end is what is left without it. -/
theorem read_framed {text ending : List Char} {later : List UInt8}
    (ht : ¬ ['\r', '\n'] <:+ text) (he : ending = [] ∨ ending = ['\r', '\n'])
    (hl : (Text.encode (text ++ ending)).length ≤ 1048576) :
    read (framed (text ++ ending) ++ later) = .ok (String.ofList text) := by
  refine read_eq_ok_iff.2 ⟨_, _, later, Int.natCast_nonneg _, by omega, rfl, rfl, ?_⟩
  rw [Text.decodeLossy_encode, String.toList_ofList]
  rcases he with rfl | rfl
  · rw [List.append_nil]
    exact .inr ⟨rfl, ht⟩
  · exact .inl rfl

end Frame

/-! ## Conversations -/

/-- Everything is sent in time, and then the peer hangs up. -/
structure Response.Complete (r : Response) (limit : Nat) : Prop where
  /-- Every piece arrives in time. -/
  inTime : ∀ p ∈ r.pieces, p.1 ≤ limit
  /-- The peer hangs up in time. -/
  hangsUp : ∃ time ≤ limit, r.hangsUpAfter = some time

/-- Of a complete response every byte is read, and nothing is waited for. -/
lemma callReply_of_complete {r : Response} {limit : Nat} (h : r.Complete limit)
    (command : String) : Endpoint.callReply command limit r = Frame.read r.bytes := by
  obtain ⟨time, ht, hh⟩ := h.hangsUp
  have hp : r.pieces.takeWhile (fun p => p.1 ≤ limit) = r.pieces :=
    List.takeWhile_eq_self_iff.2 fun p hm => decide_eq_true (h.inTime p hm)
  unfold Endpoint.callReply
  simp only [hp, hh, Option.any_some, ht, decide_true, Bool.and_self]
  split
  · next h => cases h
  · rfl

/-- What comes back for the bytes of one response to a query. -/
structure Framed (command : String) (bs : List UInt8) (answer : Answer) : Prop where
  /-- A reply is its length, as many bytes, and whatever comes behind them. -/
  reply : ∀ text, answer.toQuery command = .ok text ↔
    ∃ (n : Int) (payload later : List UInt8), 0 ≤ n ∧ n ≤ 1048576 ∧ payload.length = n ∧
      bs = Frame.header n ++ payload ++ later ∧
        Frame.Stripped (Text.decodeLossy payload) text.toList
  /-- A negative length is a fault. -/
  negative : ∀ n rest, Frame.FitsHeader n → n < 0 → bs = Frame.header n ++ rest →
    answer = .fault (.negativeSize n)
  /-- A length beyond the limit is a fault. -/
  oversized : ∀ n rest, Frame.FitsHeader n → 1048576 < n → bs = Frame.header n ++ rest →
    answer = .fault (.oversized n.toNat 1048576)
  /-- Fewer bytes than stated are a fault. -/
  short : (bs.length < 4 ∨ ∃ (n : Int) (payload : List UInt8), 0 ≤ n ∧ n ≤ 1048576 ∧
      payload.length < n ∧ bs = Frame.header n ++ payload) →
    ∃ part, answer = .fault (.during (.other part) (.system .endOfStream))
  /-- A text that was framed is read back. -/
  roundTrip : ∀ text ending later, ¬ ['\r', '\n'] <:+ text →
    (ending = [] ∨ ending = ['\r', '\n']) → (Text.encode (text ++ ending)).length ≤ 1048576 →
      bs = Frame.framed (text ++ ending) ++ later → answer = .reply (String.ofList text)

lemma toQuery_ofExcept {command : String} (result : Except DeviceFault String) :
    (Answer.ofExcept result).toQuery command = result := by
  cases result with
  | ok => rfl
  | error => rfl

lemma framed_read (command : String) (bs : List UInt8) :
    Framed command bs (.ofExcept (Frame.read bs)) where
  reply text := by rw [toQuery_ofExcept, Frame.read_eq_ok_iff]
  negative n rest hn hneg hb := by
    rw [hb, Frame.read_header_append hn, if_pos hneg]
    rfl
  oversized n rest hn hover hb := by
    have hlimit : Frame.limit < n.toNat := by
      unfold Frame.limit
      omega
    rw [hb, Frame.read_header_append hn, if_neg (by omega), if_pos hlimit]
    rfl
  short h := by
    rcases h with h | ⟨n, payload, h0, h20, hlen, hb⟩
    · exact ⟨_, by rw [Frame.read_of_length_lt h]; rfl⟩
    · have hlimit : ¬ Frame.limit < n.toNat := by
        unfold Frame.limit
        omega
      refine ⟨"MSS reply payload", ?_⟩
      rw [hb, Frame.read_header_append ⟨by omega, by omega⟩, if_neg (by omega), if_neg hlimit,
        if_pos (by omega)]
      rfl
  roundTrip text ending later ht he hl hb := by
    rw [hb, Frame.read_framed ht he hl]
    rfl

namespace Endpoint

variable {network : Network} {address : String} {limit : Nat} {e : Endpoint} {ds : List Deal}
  {later : List Response}

/-- What comes back for a request, of all that a peer does the response to it alone decides. -/
def callAnswer (limit : Nat) (d : Deal) : Answer :=
  if d.expected then .ofExcept (callReply d.command limit d.response) else .reply ""

/-- A request leaves nothing behind for the next one. -/
lemma converse_caller (ds : List Deal) (later : List Response) :
    (caller address limit (.answering (ds.map Deal.response ++ later))).converse ds =
      ds.map (callAnswer limit) := by
  induction ds with
  | nil => rfl
  | cons d ds ih => exact congrArg (callAnswer limit d :: ·) ih

end Endpoint

/-- **Replies of stated length.** In a conversation with a peer that is called for each request,
what comes back for a request is what comes back for it if it is the only one. If the peer sends
everything in time and hangs up, then that is a reply exactly if the bytes begin with a length from
zero to 1048576 and at least as many bytes behind it; the reply is the text of these, without a line
end behind it. A length that is negative or beyond that limit is a fault, and so is a length with
fewer bytes behind it. A text that is sent with its length in front comes back as it was, with a
line end behind it or without.

**Proof sketch.** By induction on the requests each takes one response off, whatever it is, and
nothing else is kept. Of a response that is complete all bytes are read, and `Framed` is what
reading makes of them. -/
theorem framed_replies {network : Network} {address : String} {limit : Nat} {e : Endpoint}
    {ds : List Deal} {later : List Response}
    (hopen : Endpoint.ofConnection network (.mss address limit) = .ok e)
    (hserver : network address = .answering (ds.map Deal.response ++ later)) :
    (e.converse ds).length = ds.length ∧ ∀ (i : Nat) (d : Deal), ds[i]? = some d →
      ∃ answer, (e.converse ds)[i]? = some answer ∧
        (Endpoint.caller address limit (.answering [d.response])).converse [d] = [answer] ∧
          (d.expected = true → d.response.Complete limit →
            Framed d.command d.response.bytes answer) := by
  rw [Endpoint.ofConnection, hserver, Except.ok.injEq] at hopen
  rw [← hopen, Endpoint.converse_caller]
  refine ⟨List.length_map _, fun i d hd => ?_⟩
  refine ⟨Endpoint.callAnswer limit d, ?_, Endpoint.converse_caller [d] [], fun hq hc => ?_⟩
  · rw [List.getElem?_map, hd]
    rfl
  · rw [Endpoint.callAnswer, if_pos hq, callReply_of_complete hc]
    exact framed_read d.command d.response.bytes

/-! ### A server whose replies go wrong -/

/-- A server that answers the first query in two pieces and sends one byte too many, and then states
a negative length, the greatest one, and more than it sends. In between there is a write. -/
def wrongServer : List Deal :=
  [⟨0, true, "READ? TB", [], ⟨[(10, [8, 0, 0, 0, 49, 46, 56]), (40, [48, 44, 48, 13, 10, 7])],
      some 50⟩⟩,
    ⟨0, false, "SET 1", [], ⟨[], none⟩⟩,
    ⟨0, true, "A?", [], ⟨[(10, [255, 255, 255, 255, 49])], some 50⟩⟩,
    ⟨0, true, "B?", [], ⟨[(10, [255, 255, 255, 127, 49])], some 50⟩⟩,
    ⟨0, true, "C?", [], ⟨[(10, [2, 0, 0, 0, 49])], some 50⟩⟩]

/-- Of a server whose replies go wrong the first query gets its text, and each of the others the
fault that its own bytes are. -/
theorem framed_replies_wrongServer :
    ∃ e, Endpoint.ofConnection (.only wrongServer) (.mss "lab:1" 100) = .ok e ∧
      (e.converse wrongServer)[0]? = some (.reply "1.80,0") ∧
      (e.converse wrongServer)[2]? = some (.fault (.negativeSize (-1))) ∧
      (e.converse wrongServer)[3]? = some (.fault (.oversized 2147483647 1048576)) ∧
      ∃ part, (e.converse wrongServer)[4]? =
        some (.fault (.during (.other part) (.system .endOfStream))) := by
  refine ⟨_, rfl, ?_⟩
  obtain ⟨-, h⟩ := @framed_replies (.only wrongServer) "lab:1" 100 _ wrongServer [] rfl rfl
  obtain ⟨reply, h0, -, f0⟩ := h 0 _ rfl
  obtain ⟨negative, h2, -, f2⟩ := h 2 _ rfl
  obtain ⟨oversized, h3, -, f3⟩ := h 3 _ rfl
  obtain ⟨short, h4, -, f4⟩ := h 4 _ rfl
  have r0 := (f0 rfl ⟨by decide, 50, by decide, rfl⟩).roundTrip "1.80,0".toList ['\r', '\n'] [7]
    (by decide) (.inr rfl) (by decide) (by decide)
  have r2 := (f2 rfl ⟨by decide, 50, by decide, rfl⟩).negative (-1) [49] ⟨by decide, by decide⟩
    (by decide) (by decide)
  have r3 := (f3 rfl ⟨by decide, 50, by decide, rfl⟩).oversized 2147483647 [49]
    ⟨by decide, by decide⟩ (by decide) (by decide)
  obtain ⟨part, r4⟩ := (f4 rfl ⟨by decide, 50, by decide, rfl⟩).short
    (.inr ⟨2, [49], by decide, by decide, by decide, by decide⟩)
  rw [String.ofList_toList] at r0
  exact ⟨r0 ▸ h0, r2 ▸ h2, r3 ▸ h3, part, r4 ▸ h4⟩

end CryoRig.Transport
