import Mathlib.Data.List.Forall2
import Mathlib.Tactic.Lemma
import CryoRig.Transport.Endpoint

/-!
# Replies on a lasting connection

Nothing on a lasting connection tells which command a line answers: the next line that is read is
taken for the reply. Lines are read in the order they were sent in, and nothing is lost but the
front of the one that is being read when the time is over. So replies and commands go together up to
the first query that times out, and from then on every reply lags behind by as many queries as have
timed out.

## Main definitions

* `CryoRig.Transport.IsLine`: bytes that end with the mark and do not hold it elsewhere.
* `CryoRig.Transport.Stream.unread`: the bytes that are still to be read.
* `CryoRig.Transport.Deal`: a command on a connection, and what the server does about it.
* `CryoRig.Transport.Honest`: a server that answers each query with its line, up to hanging up.
* `CryoRig.Transport.Endpoint.converse`: what comes back for each command.

## Main results

* `CryoRig.Transport.Stream.takes_readUntil`: what reading takes from the bytes to be read.
* `CryoRig.Transport.reply_of_in_time`: up to the first time-out a query gets its own line.
* `CryoRig.Transport.reply_lags`: the replies are given out in the order of the queries.
-/

namespace CryoRig.Transport

variable {mark : UInt8}

/-! ## Lines -/

/-- Bytes that end with `mark` and do not hold it elsewhere. -/
def IsLine (mark : UInt8) (bs : List UInt8) : Prop :=
  ∃ body, mark ∉ body ∧ bs = body ++ [mark]

lemma IsLine.mark_mem {line : List UInt8} (h : IsLine mark line) : mark ∈ line := by
  obtain ⟨body, -, rfl⟩ := h
  simp

lemma IsLine.ne_nil {line : List UInt8} (h : IsLine mark line) : line ≠ [] :=
  List.ne_nil_of_mem h.mark_mem

/-- What is cut off behind the first mark is a line. -/
lemma isLine_of_splitAfter {bs line rest : List UInt8}
    (h : splitAfter mark bs = some (line, rest)) : IsLine mark line := by
  induction bs generalizing line with
  | nil => simp [splitAfter] at h
  | cons b bs ih =>
    rw [splitAfter] at h
    split at h
    · next hb => cases h; exact ⟨[], List.not_mem_nil, by rw [hb]; rfl⟩
    · next hb =>
      obtain ⟨⟨line', rest'⟩, hs, he⟩ := Option.map_eq_some_iff.1 h
      cases he
      obtain ⟨body, hm, rfl⟩ := ih hs
      exact ⟨b :: body, by simp [hm, Ne.symm hb], rfl⟩

lemma splitAfter_eq_none_iff {bs : List UInt8} : splitAfter mark bs = none ↔ mark ∉ bs := by
  induction bs with
  | nil => simp [splitAfter]
  | cons b bs ih =>
    rw [splitAfter]
    split
    · next hb => simp [hb]
    · next hb => simp [ih, Ne.symm hb]

/-- A line is what is cut off in front of anything. -/
lemma IsLine.splitAfter_append {line : List UInt8} (h : IsLine mark line) (rest : List UInt8) :
    splitAfter mark (line ++ rest) = some (line, rest) := by
  obtain ⟨body, hm, rfl⟩ := h
  induction body with
  | nil => simp [splitAfter]
  | cons b body ih =>
    obtain ⟨hb, hbody⟩ : mark ≠ b ∧ mark ∉ body := by simpa using hm
    rw [List.cons_append, List.cons_append, splitAfter, if_neg hb.symm, ih hbody]
    rfl

/-- Bytes begin with at most one line. -/
lemma IsLine.append_inj {a b x y : List UInt8} (ha : IsLine mark a) (hb : IsLine mark b)
    (h : a ++ x = b ++ y) : a = b ∧ x = y := by
  have := ha.splitAfter_append x
  rw [h, hb.splitAfter_append y] at this
  simpa [eq_comm] using this

/-- Bytes without a mark that are taken off the front of a line leave a line. -/
lemma IsLine.tail {line lost x y : List UInt8} (hl : IsLine mark line) (hm : mark ∉ lost)
    (h : line ++ x = lost ++ y) : ∃ tail, IsLine mark tail ∧ tail <:+ line ∧ y = tail ++ x := by
  obtain ⟨body, hb, rfl⟩ := hl
  induction lost generalizing body with
  | nil => exact ⟨body ++ [mark], ⟨body, hb, rfl⟩, List.suffix_rfl, by simpa using h.symm⟩
  | cons b lost ih =>
    obtain ⟨hbm, hlost⟩ : mark ≠ b ∧ mark ∉ lost := by simpa using hm
    cases body with
    | nil => exact absurd (by simpa using congrArg List.head? h) hbm
    | cons c body =>
      rw [List.cons_append, List.cons_append, List.cons_append, List.cons.injEq] at h
      obtain ⟨tail, ht, hs, hy⟩ := ih hlost body (fun hc => hb (List.mem_cons_of_mem _ hc)) h.2
      exact ⟨tail, ht, hs.trans (List.suffix_cons _ _), hy⟩

/-! ## Reading -/

/-- The bytes that are still to be read. -/
def Stream.unread (s : Stream) : List UInt8 := s.kept ++ s.coming.flatMap Prod.snd

/-- What reading makes of the bytes to be read. -/
inductive Takes (mark : UInt8) (s : Stream) : Received × Stream → Prop
  /-- A line is taken off their front. -/
  | line (line : List UInt8) (s' : Stream) (unread : s.unread = line ++ s'.unread)
    (isLine : IsLine mark line) : Takes mark s (.bytes line, s')
  /-- The peer has hung up, and all of them are taken. -/
  | rest (s' : Stream) (hungUp : s.hangsUpAt.isSome) (unread : s'.unread = []) :
    Takes mark s (.bytes s.unread, s')
  /-- The time is over, and the front of a line is lost. -/
  | late (lost : List UInt8) (s' : Stream) (unread : s.unread = lost ++ s'.unread)
    (unfinished : mark ∉ lost) : Takes mark s (.tooLate, s')

/-- Where the bytes to be read are kept makes no difference. -/
lemma Takes.congr {s t : Stream} {result : Received × Stream} (h : Takes mark s result)
    (hu : s.unread = t.unread) (hh : s.hangsUpAt = t.hangsUpAt) : Takes mark t result := by
  cases h with
  | line line s' unread isLine => exact .line line s' (hu ▸ unread) isLine
  | rest s' hungUp unread => rw [hu]; exact .rest s' (hh ▸ hungUp) unread
  | late lost s' unread unfinished => exact .late lost s' (hu ▸ unread) unfinished

lemma takes_readFrom (deadline : Nat) (hangsUpAt : Option Nat) {so_far : List UInt8}
    (hm : mark ∉ so_far) (coming : List (Nat × List UInt8)) :
    Takes mark ⟨so_far, coming, hangsUpAt⟩
      (readFrom mark deadline hangsUpAt so_far coming) := by
  induction coming generalizing so_far with
  | nil =>
    have hu : Stream.unread ⟨so_far, [], hangsUpAt⟩ = so_far := by simp [Stream.unread]
    rw [readFrom]
    split
    · next h =>
      obtain ⟨hs, -⟩ := (Option.any_eq_true_iff_get _ _).1 h
      have : Takes mark ⟨so_far, [], hangsUpAt⟩ (.bytes _, ⟨[], [], hangsUpAt⟩) := .rest _ hs rfl
      rwa [hu] at this
    · exact .late so_far _ (by simp [Stream.unread]) hm
  | cons p coming ih =>
    obtain ⟨time, piece⟩ := p
    rw [readFrom]
    split
    · split
      · next line kept hs =>
        obtain ⟨body, hb, rfl⟩ := isLine_of_splitAfter hs
        refine .line _ _ ?_ ⟨so_far ++ body, by simp [hm, hb], by simp⟩
        simp [Stream.unread, ← splitAfter_append hs]
      · next hs =>
        refine (ih ?_).congr (by simp [Stream.unread]) rfl
        simp [hm, splitAfter_eq_none_iff.1 hs]
    · exact .late so_far _ (by simp [Stream.unread]) hm

/-- Reading takes what it gives off the front of the bytes to be read. -/
theorem Stream.takes_readUntil (s : Stream) (mark : UInt8) (deadline : Nat) :
    Takes mark s (s.readUntil mark deadline) := by
  rw [readUntil]
  split
  · next line kept hs =>
    refine .line _ _ ?_ (isLine_of_splitAfter hs)
    simp [unread, ← splitAfter_append hs]
  · next hs => exact takes_readFrom deadline _ (splitAfter_eq_none_iff.1 hs) s.coming

lemma readFrom_hangsUpAt (deadline : Nat) (hangsUpAt : Option Nat) (so_far : List UInt8)
    (coming : List (Nat × List UInt8)) :
    (readFrom mark deadline hangsUpAt so_far coming).2.hangsUpAt = hangsUpAt := by
  fun_induction readFrom mark deadline hangsUpAt so_far coming <;> simp_all

@[simp] lemma Stream.readUntil_hangsUpAt (s : Stream) (mark : UInt8) (deadline : Nat) :
    (s.readUntil mark deadline).2.hangsUpAt = s.hangsUpAt := by
  rw [readUntil]
  split
  · rfl
  · exact readFrom_hangsUpAt ..

/-! ## Conversations -/

/-- All bytes of a response. -/
def Response.bytes (r : Response) : List UInt8 := r.pieces.flatMap Prod.snd

/-- A command on a connection, and what the server does about it. -/
structure Deal where
  /-- The milliseconds that pass before it. -/
  pause : Nat
  /-- Whether it is a query, whose reply is read. -/
  expected : Bool
  /-- The command. -/
  command : String
  /-- The line that answers it. -/
  line : List UInt8
  /-- What the server really does. -/
  response : Response
  deriving Repr

/-- A query is answered by a line, a write by nothing. -/
def Deal.Meant (mark : UInt8) (d : Deal) : Prop :=
  if d.expected then IsLine mark d.line else d.line = []

/-- A server that sends each query its line and says nothing else, until it hangs up: after a line,
in the middle of one, or when nothing was asked. -/
inductive Honest (mark : UInt8) : List Deal → Prop
  /-- Nothing more is asked. -/
  | nil : Honest mark []
  /-- The server does what it is meant to do. -/
  | answers (d : Deal) (ds : List Deal) (meant : d.Meant mark) (bytes : d.response.bytes = d.line)
    (stays : d.response.hangsUpAfter = none) (more : Honest mark ds) : Honest mark (d :: ds)
  /-- The server hangs up, and nothing comes after that. -/
  | hangsUp (d : Deal) (ds : List Deal) (meant : d.Meant mark) (bytes : d.response.bytes <+: d.line)
    (ends : d.response.hangsUpAfter.isSome)
    (more : ∀ e ∈ ds, e.Meant mark ∧ e.response.pieces = []) : Honest mark (d :: ds)

/-- Of each line an honest server sends at least a front part, and nothing else. -/
lemma Honest.prefix {ds : List Deal} (h : Honest mark ds) :
    ∀ d ∈ ds, d.Meant mark ∧ d.response.bytes <+: d.line := by
  induction h with
  | nil => simp
  | answers d ds meant bytes _ _ ih => simpa [meant, bytes] using ih
  | hangsUp d ds meant bytes _ more =>
    intro e he
    rcases List.mem_cons.1 he with rfl | he
    · exact ⟨meant, bytes⟩
    · exact ⟨(more e he).1, by simp [Response.bytes, (more e he).2]⟩

/-- As long as an honest server does not hang up it sends whole lines. -/
lemma Honest.whole {before after : List Deal} (h : Honest mark (before ++ after))
    (hs : ∀ d ∈ before, d.response.hangsUpAfter = none) :
    ∀ d ∈ before, d.Meant mark ∧ d.response.bytes = d.line := by
  induction before with
  | nil => simp
  | cons d before ih =>
    cases h with
    | answers _ _ meant bytes _ more =>
      simpa [meant, bytes] using ih more fun e he => hs e (List.mem_cons_of_mem _ he)
    | hangsUp _ _ _ _ ends _ => simp [hs d List.mem_cons_self] at ends

namespace Endpoint

/-- Time passes on a connection. -/
def pause (ms : Nat) : Endpoint → Endpoint
  | line l => line { l with clock := l.clock + ms }
  | e => e

/-- What comes back for each command in a conversation. -/
def converse (e : Endpoint) : List Deal → List Answer
  | [] => []
  | d :: ds =>
    let (answer, e) := (e.pause d.pause).exchange d.expected d.command
    answer :: e.converse ds

end Endpoint

/-- Whether a query took too long. -/
def Answer.timedOut : Answer → Bool
  | .fault (.timedOut _) => true
  | _ => false

/-- A line as a reply, without the blanks around it. -/
def replyText (line : List UInt8) : String := String.ofList (Text.trimChars (textOf line))

/-! ## One command -/

namespace Line

variable {l : Line} {d : Deal} {ds : List Deal}

/-- The connection once a command has been sent. -/
def heard (l : Line) (d : Deal) : Line := ({ l with clock := l.clock + d.pause } : Line).send

/-- What reading the reply comes to, and what is left. -/
def read (l : Line) (d : Deal) : Received × Stream :=
  (l.heard d).stream.readUntil (endMark l.terminator) (l.clock + d.pause + l.limit)

/-- The connection after a command. -/
def next (l : Line) (d : Deal) : Line :=
  if d.expected then { l.heard d with stream := (l.read d).2 } else l.heard d

/-- What comes back for a command. -/
def answer (l : Line) (d : Deal) : Answer :=
  if d.expected then .ofExcept (lineReply l.address d.command (l.read d).1) else .reply ""

lemma heard_eq (h : l.responses = (d :: ds).map Deal.response) :
    l.heard d = { l with
      clock := l.clock + d.pause
      responses := ds.map Deal.response
      stream := { l.stream with
        coming := l.stream.coming ++
          d.response.pieces.map fun p => (l.clock + d.pause + p.1, p.2)
        hangsUpAt := l.stream.hangsUpAt.or
          (d.response.hangsUpAfter.map (l.clock + d.pause + ·)) } } := by
  simp [heard, send, h]

lemma exchange_eq (h : l.responses = (d :: ds).map Deal.response) :
    ((Endpoint.line l).pause d.pause).exchange d.expected d.command =
      (l.answer d, .line (l.next d)) := by
  cases hd : d.expected with
  | false => simp [Endpoint.pause, Endpoint.exchange, answer, next, heard, hd]
  | true =>
    have he : ({ l with clock := l.clock + d.pause } : Line).send = l.heard d := rfl
    simp [Endpoint.pause, Endpoint.exchange, query, answer, next, read, hd, he, heard_eq h]

/-- A conversation goes on with the connection as a command leaves it. -/
lemma converse_cons (h : l.responses = (d :: ds).map Deal.response) (es : List Deal) :
    (Endpoint.line l).converse (d :: es) =
      l.answer d :: (Endpoint.line (l.next d)).converse es := by
  rw [Endpoint.converse, exchange_eq h]

@[simp] lemma next_responses (h : l.responses = (d :: ds).map Deal.response) :
    (l.next d).responses = ds.map Deal.response := by
  unfold next
  split <;> simp [heard_eq h]

@[simp] lemma next_terminator (h : l.responses = (d :: ds).map Deal.response) :
    (l.next d).terminator = l.terminator := by
  unfold next
  split <;> simp [heard_eq h]

lemma next_hangsUpAt (h : l.responses = (d :: ds).map Deal.response)
    (hl : l.stream.hangsUpAt = none) (hd : d.response.hangsUpAfter = none) :
    (l.next d).stream.hangsUpAt = none := by
  unfold next read
  split <;> simp [heard_eq h, hl, hd]

/-- What the server sends comes behind what is still to be read. -/
lemma heard_unread (h : l.responses = (d :: ds).map Deal.response) :
    (l.heard d).stream.unread = l.stream.unread ++ d.response.bytes := by
  rw [heard_eq h]
  simp [Stream.unread, Response.bytes, List.flatMap_map]

lemma takes_read (l : Line) (d : Deal) :
    Takes (endMark l.terminator) (l.heard d).stream (l.read d) :=
  Stream.takes_readUntil ..

/-- A reply was read as a line of bytes. -/
lemma bytes_of_answer {text : String} (hd : d.expected = true) (h : l.answer d = .reply text) :
    ∃ bs, (l.read d).1 = .bytes bs ∧ bs ≠ [] ∧ text = replyText bs := by
  rw [answer, if_pos hd] at h
  cases hr : (l.read d).1 with
  | tooLate => rw [hr] at h; cases h
  | bytes bs =>
    rw [hr] at h
    cases bs with
    | nil => cases h
    | cons b bs => cases h; exact ⟨b :: bs, rfl, by simp, rfl⟩

end Line

/-! ## Up to the first time-out -/

/-- Of a front part of one line, reading takes everything there is. -/
lemma Takes.all {s : Stream} {result : Received × Stream} {line : List UInt8}
    (h : Takes mark s result) (hl : IsLine mark line) (hs : s.unread <+: line) :
    result.1 = .tooLate ∨ result.1 = .bytes s.unread ∧ result.2.unread = [] := by
  cases h with
  | line bs s' unread isLine =>
    obtain ⟨x, hx⟩ := hs
    rw [unread, List.append_assoc] at hx
    obtain ⟨-, he⟩ := isLine.append_inj hl (hx.trans (List.append_nil line).symm)
    rw [List.append_eq_nil_iff] at he
    exact .inr ⟨by rw [unread, he.1, List.append_nil], he.1⟩
  | rest s' _ unread => exact .inr ⟨rfl, unread⟩
  | late => exact .inl rfl

variable {l : Line} {d : Deal} {ds : List Deal}

/-- If nothing is left to be read, a command leaves nothing unless it times out. -/
lemma Line.next_unread (h : l.responses = (d :: ds).map Deal.response)
    (hm : d.Meant (endMark l.terminator)) (hb : d.response.bytes <+: d.line)
    (hu : l.stream.unread = []) (ht : (l.answer d).timedOut = false) :
    (l.next d).stream.unread = [] := by
  have hh : (l.heard d).stream.unread = d.response.bytes := by simp [l.heard_unread h, hu]
  unfold Deal.Meant at hm
  unfold next
  split at hm
  · next hd =>
    rw [if_pos hd]
    rcases (l.takes_read d).all hm (hh ▸ hb) with hr | ⟨-, hr⟩
    · rw [answer, if_pos hd, hr] at ht
      cases ht
    · exact hr
  · next hd =>
    rw [if_neg hd, hh]
    exact List.prefix_nil.1 (hm ▸ hb)

/-- On a connection on which nothing is left to be read, the replies up to the first time-out are
the lines for their commands.

**Proof sketch.** By induction on the commands before the query: each leaves nothing to be read. The
query itself then finds a front part of its own line and takes all of it. -/
lemma reply_of_nothing_unread {before after : List Deal} {answers more : List Answer}
    {text : String} (h : l.responses = (before ++ d :: after).map Deal.response)
    (hp : ∀ e ∈ before ++ d :: after,
      e.Meant (endMark l.terminator) ∧ e.response.bytes <+: e.line)
    (hu : l.stream.unread = []) (hd : d.expected = true)
    (hc : (Endpoint.line l).converse (before ++ d :: after) = answers ++ .reply text :: more)
    (hn : answers.length = before.length) (ht : ∀ a ∈ answers, a.timedOut = false)
    (hw : d.response.bytes = [] ∨ d.response.bytes = d.line) : text = replyText d.line := by
  induction before generalizing l answers with
  | nil =>
    obtain rfl := List.length_eq_zero_iff.1 hn
    rw [List.nil_append, Line.converse_cons h, List.nil_append, List.cons.injEq] at hc
    obtain ⟨bs, hr, hbs, rfl⟩ := Line.bytes_of_answer hd hc.1
    have hh : (l.heard d).stream.unread = d.response.bytes := by simp [l.heard_unread h, hu]
    obtain ⟨hm, hb⟩ := hp d (by simp)
    rw [Deal.Meant, if_pos hd] at hm
    rcases (l.takes_read d).all hm (hh ▸ hb) with hlate | ⟨hall, -⟩
    · rw [hr] at hlate
      cases hlate
    · rw [hr, hh, Received.bytes.injEq] at hall
      rcases hw with hw | hw
      · exact absurd (hall.trans hw) hbs
      · rw [hall, hw]
  | cons e before ih =>
    cases answers with
    | nil => simp at hn
    | cons a answers =>
      rw [List.cons_append, Line.converse_cons h, List.cons_append, List.cons.injEq] at hc
      obtain ⟨rfl, hc⟩ := hc
      obtain ⟨hm, hb⟩ := hp e (by simp)
      have hu' := Line.next_unread h hm hb hu (ht _ List.mem_cons_self)
      refine ih (Line.next_responses h) ?_ hu' hc (by simpa using hn)
        fun a ha => ht a (List.mem_cons_of_mem _ ha)
      rw [Line.next_terminator h]
      exact fun e he => hp e (List.mem_cons_of_mem _ he)

/-! ## After time-outs -/

/-- The bytes to be read are what is left of the lines for these queries, in their order. -/
def Owes (mark : UInt8) (s : Stream) (owed : List Deal) : Prop :=
  ∃ tails : List (List UInt8), s.unread = tails.flatten ∧
    List.Forall₂ (fun tail d => IsLine mark tail ∧ tail <:+ d.line) tails owed

/-- A line that was sent is owed as well. -/
lemma Owes.append {s s' : Stream} {owed : List Deal} (h : Owes mark s owed)
    (hl : IsLine mark d.line) (hu : s'.unread = s.unread ++ d.line) :
    Owes mark s' (owed ++ [d]) := by
  obtain ⟨tails, ht, hf⟩ := h
  refine ⟨tails ++ [d.line], by simp [hu, ht], List.rel_append hf ?_⟩
  exact .cons ⟨hl, List.suffix_rfl⟩ .nil

/-- Reading takes what is left of the first line that is owed, or of its front. -/
lemma Takes.owes {s : Stream} {result : Received × Stream} {c : Deal} {owed : List Deal}
    (h : Takes mark s result) (hh : s.hangsUpAt = none) (ho : Owes mark s (c :: owed)) :
    result.1 = .tooLate ∧ Owes mark result.2 (c :: owed) ∨
      ∃ tail, result.1 = .bytes tail ∧ IsLine mark tail ∧ tail <:+ c.line ∧
        Owes mark result.2 owed := by
  obtain ⟨tails, ht, hf⟩ := ho
  cases hf with
  | @cons first _ tails _ hc hf =>
    rw [List.flatten_cons] at ht
    cases h with
    | line bs s' unread isLine =>
      obtain ⟨rfl, he⟩ := isLine.append_inj hc.1 (unread.symm.trans ht)
      exact .inr ⟨bs, rfl, isLine, hc.2, tails, he, hf⟩
    | rest s' hungUp => simp [hh] at hungUp
    | late lost s' unread unfinished =>
      obtain ⟨tail, hl, hs, he⟩ := hc.1.tail unfinished (ht.symm.trans unread)
      exact .inl ⟨rfl, tail :: tails, he, .cons ⟨hl, hs.trans hc.2⟩ hf⟩

/-- What a command does to the lines that are owed.

A write leaves them. A query adds its own; it takes the first one off unless it times out. -/
lemma Line.next_owes {owed : List Deal} (h : l.responses = (d :: ds).map Deal.response)
    (hm : d.Meant (endMark l.terminator)) (hb : d.response.bytes = d.line)
    (hs : d.response.hangsUpAfter = none) (hh : l.stream.hangsUpAt = none)
    (ho : Owes (endMark l.terminator) l.stream owed) :
    d.expected = false ∧ (l.answer d).timedOut = false ∧
        Owes (endMark l.terminator) (l.next d).stream owed ∨
      d.expected = true ∧ ∃ c rest, owed ++ [d] = c :: rest ∧
        ((l.answer d).timedOut = true ∧ Owes (endMark l.terminator) (l.next d).stream (c :: rest) ∨
          (l.answer d).timedOut = false ∧ Owes (endMark l.terminator) (l.next d).stream rest ∧
            ∃ tail, IsLine (endMark l.terminator) tail ∧ tail <:+ c.line ∧
              l.answer d = .reply (replyText tail)) := by
  have hu : (l.heard d).stream.unread = l.stream.unread ++ d.line := by
    rw [l.heard_unread h, hb]
  unfold Deal.Meant at hm
  unfold next answer
  split at hm
  · next hd =>
    have hn : (l.heard d).stream.hangsUpAt = none := by simp [heard_eq h, hh, hs]
    obtain ⟨c, rest, hc⟩ := List.exists_cons_of_ne_nil (by simp : owed ++ [d] ≠ [])
    refine .inr ⟨hd, c, rest, hc, ?_⟩
    rw [if_pos hd, if_pos hd]
    rcases (l.takes_read d).owes hn (hc ▸ ho.append hm hu) with ⟨hr, ho'⟩ | ⟨tail, hr, ht, hs', ho'⟩
    · exact .inl ⟨by rw [hr]; rfl, ho'⟩
    · have he : Answer.ofExcept (lineReply l.address d.command (l.read d).1) =
          .reply (replyText tail) := by
        rw [hr]
        cases tail with
        | nil => exact absurd rfl ht.ne_nil
        | cons => rfl
      exact .inr ⟨by rw [he]; rfl, ho', tail, ht, hs', he⟩
  · next hd =>
    rw [hm, List.append_nil] at hu
    rw [if_neg hd, if_neg hd]
    obtain ⟨tails, ht, hf⟩ := ho
    exact .inl ⟨by simpa using hd, rfl, tails, hu.trans ht, hf⟩

/-- The queries of a conversation. -/
def queries (ds : List Deal) : List Deal := ds.filter (·.expected)

/-- How many queries were answered in time. -/
def answered (ds : List Deal) (answers : List Answer) : Nat :=
  (ds.zip answers).countP fun p => p.1.expected && !p.2.timedOut

/-- Replies are given out in the order of the queries, starting with what is owed.

**Proof sketch.** By induction on the commands before the query. The list of what is owed and of the
queries to come stays the same, but for the first of them, which an answered query takes off. -/
lemma reply_of_owes {before after owed : List Deal} {answers more : List Answer} {text : String}
    (h : l.responses = (before ++ d :: after).map Deal.response)
    (hp : ∀ e ∈ before ++ [d], e.Meant (endMark l.terminator) ∧ e.response.bytes = e.line)
    (hs : ∀ e ∈ before ++ [d], e.response.hangsUpAfter = none) (hh : l.stream.hangsUpAt = none)
    (ho : Owes (endMark l.terminator) l.stream owed) (hd : d.expected = true)
    (hc : (Endpoint.line l).converse (before ++ d :: after) = answers ++ .reply text :: more)
    (hn : answers.length = before.length) :
    ∃ c tail, (owed ++ queries (before ++ [d]))[answered before answers]? = some c ∧
      IsLine (endMark l.terminator) tail ∧ tail <:+ c.line ∧ text = replyText tail := by
  induction before generalizing l owed answers with
  | nil =>
    obtain rfl := List.length_eq_zero_iff.1 hn
    rw [List.nil_append, Line.converse_cons h, List.nil_append, List.cons.injEq] at hc
    obtain ⟨hm, hb⟩ := hp d (by simp)
    have hq : queries ([] ++ [d]) = [d] := by simp [queries, hd]
    rcases Line.next_owes h hm hb (hs d (by simp)) hh ho with
      ⟨hd', -⟩ | ⟨-, c, rest, hcr, ⟨ht, -⟩ | ⟨-, -, tail, htl, hts, hta⟩⟩
    · rw [hd] at hd'
      cases hd'
    · rw [hc.1] at ht
      cases ht
    · refine ⟨c, tail, by rw [hq, hcr]; rfl, htl, hts, ?_⟩
      rw [hc.1, Answer.reply.injEq] at hta
      exact hta
  | cons e before ih =>
    cases answers with
    | nil => simp at hn
    | cons a answers =>
      rw [List.cons_append, Line.converse_cons h, List.cons_append, List.cons.injEq] at hc
      obtain ⟨rfl, hc⟩ := hc
      obtain ⟨hm, hb⟩ := hp e (by simp)
      have hse := hs e (by simp)
      -- what the rest of the conversation gives, whatever is owed after the first command
      have hrest : ∀ owed', Owes (endMark l.terminator) (l.next e).stream owed' →
          ∃ c tail, (owed' ++ queries (before ++ [d]))[answered before answers]? = some c ∧
            IsLine (endMark l.terminator) tail ∧ tail <:+ c.line ∧ text = replyText tail := by
        intro owed' ho'
        have ht := Line.next_terminator h
        rw [← ht] at ho' ⊢
        refine ih (Line.next_responses h) ?_ (fun f hf => hs f (List.mem_cons_of_mem _ hf))
          (Line.next_hangsUpAt h hh hse) ho' hc (by simpa using hn)
        rw [ht]
        exact fun f hf => hp f (List.mem_cons_of_mem _ hf)
      rcases Line.next_owes h hm hb hse hh ho with
        ⟨he, ht, ho'⟩ | ⟨he, c, rest, hcr, ⟨ht, ho'⟩ | ⟨ht, ho', -⟩⟩
      · simpa [queries, answered, he, ht] using hrest owed ho'
      · rw [← hcr] at ho'
        simpa [queries, answered, he, ht] using hrest _ ho'
      · have hq : owed ++ queries (e :: before ++ [d]) =
            c :: (rest ++ queries (before ++ [d])) := by
          rw [← List.cons_append, ← hcr, List.append_assoc]
          simp [queries, he]
        obtain ⟨c', tail, hc', hl⟩ := hrest rest ho'
        refine ⟨c', tail, ?_, hl⟩
        rw [hq]
        simpa [answered, he, ht] using hc'

/-! ## Connections that were opened -/

section Opened

variable {network : Network} {address terminator : String} {limit : Nat} {e : Endpoint}
  {before after : List Deal} {answers more : List Answer} {text : String}

/-- A connection begins with nothing to be read. -/
lemma Endpoint.line_of_opened {responses : List Response}
    (ho : Endpoint.ofConnection network (.tcp address terminator limit) = .ok e)
    (hn : network address = .answering responses) :
    ∃ l : Line, e = .line l ∧ l.terminator = terminator ∧ l.responses = responses ∧
      l.stream.unread = [] ∧ l.stream.hangsUpAt = none := by
  rw [Endpoint.ofConnection, hn] at ho
  exact ⟨_, (Except.ok.inj ho).symm, rfl, rfl, rfl, rfl⟩

/-- **Replies and commands go together up to the first time-out.** A query that is answered is
answered with its own line, the whole of it, if no query before it timed out and the server did not
hang up in the middle of that line.

**Proof sketch.** Nothing is left to be read when the connection is opened, and the rest is
`reply_of_nothing_unread`: of each line an honest server sends at least a front part. -/
theorem reply_of_in_time
    (hopen : Endpoint.ofConnection network (.tcp address terminator limit) = .ok e)
    (hserver : network address = .answering ((before ++ d :: after).map Deal.response))
    (hhonest : Honest (endMark terminator) (before ++ d :: after)) (hquery : d.expected = true)
    (hreplies : e.converse (before ++ d :: after) = answers ++ .reply text :: more)
    (hplace : answers.length = before.length) (hin_time : ∀ a ∈ answers, a.timedOut = false)
    (hwhole : d.response.bytes = [] ∨ d.response.bytes = d.line) :
    text = String.ofList (Text.trimChars (textOf d.line)) := by
  obtain ⟨l, rfl, rfl, hr, hu, -⟩ := Endpoint.line_of_opened hopen hserver
  exact reply_of_nothing_unread hr hhonest.prefix hu hquery hreplies hplace hin_time hwhole

/-- **After time-outs replies lag behind.** While the server does not hang up, the replies are given
out in the order of the queries: a query that comes after `n` answered ones gets what is left of the
line for the `n`-th query. If an earlier one timed out, that is an earlier line. -/
theorem reply_lags
    (hopen : Endpoint.ofConnection network (.tcp address terminator limit) = .ok e)
    (hserver : network address = .answering ((before ++ d :: after).map Deal.response))
    (hhonest : Honest (endMark terminator) (before ++ d :: after)) (hquery : d.expected = true)
    (hstays : ∀ c ∈ before ++ [d], c.response.hangsUpAfter = none)
    (hreplies : e.converse (before ++ d :: after) = answers ++ .reply text :: more)
    (hplace : answers.length = before.length) :
    ∃ c tail, (queries (before ++ [d]))[answered before answers]? = some c ∧
      IsLine (endMark terminator) tail ∧ tail <:+ c.line ∧
        text = String.ofList (Text.trimChars (textOf tail)) := by
  obtain ⟨l, rfl, rfl, hr, hu, hh⟩ := Endpoint.line_of_opened hopen hserver
  have hw : Honest (endMark l.terminator) ((before ++ [d]) ++ after) := by simpa using hhonest
  exact reply_of_owes hr (hw.whole hstays) hstays hh ⟨[], hu, .nil⟩ hquery hreplies hplace

end Opened

/-! ## Two servers -/

/-- A network with one server on it. -/
def Network.only (ds : List Deal) : Network := fun _ => .answering (ds.map Deal.response)

/-- The connection to a server, just opened: a reply may take 100 milliseconds. -/
def opened (ds : List Deal) : Endpoint :=
  .line ⟨"lab:1", "\r\n", 100, 0, ⟨[], [], none⟩, ds.map Deal.response⟩

/-- A server that answers the second of two queries in time, but the first one only 150 milliseconds
after it was asked: the second query gets the line for the first one. -/
def lateServer : List Deal :=
  [⟨0, true, "A?", [49, 13, 10], ⟨[(150, [49, 13, 10])], none⟩⟩,
    ⟨100, true, "B?", [50, 13, 10], ⟨[(60, [50, 13, 10])], none⟩⟩]

example : (opened lateServer).converse lateServer =
    [.fault (.timedOut "waiting for reply to 'A?'"), .reply (replyText [49, 13, 10])] := rfl

/-- A server that answers two queries, the first one in two packets, and hangs up in the middle of
its third answer; between the queries there is a write. -/
def fickleServer : List Deal :=
  [⟨0, true, "A?", [49, 50, 13, 10], ⟨[(10, [49]), (40, [50, 13, 10])], none⟩⟩,
    ⟨5, false, "SET 1", [], ⟨[], none⟩⟩,
    ⟨5, true, "B?", [51, 13, 10], ⟨[(20, [51, 13, 10])], none⟩⟩,
    ⟨5, true, "C?", [52, 53, 13, 10], ⟨[(20, [52])], some 30⟩⟩]

lemma isLine_body (body : List UInt8) (h : (10 : UInt8) ∉ body) :
    IsLine (endMark "\r\n") (body ++ [10]) :=
  ⟨body, h, rfl⟩

lemma honest_fickleServer : Honest (endMark "\r\n") fickleServer := by
  refine .answers _ _ (isLine_body [49, 50, 13] (by decide)) rfl rfl ?_
  refine .answers _ _ rfl rfl rfl ?_
  refine .answers _ _ (isLine_body [51, 13] (by decide)) rfl rfl ?_
  refine .hangsUp _ _ (isLine_body [52, 53, 13] (by decide)) ?_ rfl (by simp)
  exact ⟨[53, 13, 10], rfl⟩

/-- Of the replies of a server that hangs up in the middle of a line, those up to that line are the
lines for their commands. -/
theorem reply_of_in_time_fickleServer :
    (opened fickleServer).converse fickleServer =
        [.reply "12", .reply ""] ++ .reply "3" :: [.reply "4"] ∧
      "3" = String.ofList (Text.trimChars (textOf [51, 13, 10])) := by
  have h1 : replyText [49, 50, 13, 10] = "12" := by decide +kernel
  have h2 : replyText [51, 13, 10] = "3" := by decide +kernel
  have h3 : replyText [52] = "4" := by decide +kernel
  have hreplies : (opened fickleServer).converse fickleServer =
      [.reply "12", .reply ""] ++ .reply "3" :: [.reply "4"] := by
    rw [← h1, ← h2, ← h3]
    rfl
  refine ⟨hreplies, ?_⟩
  exact @reply_of_in_time _ (.only fickleServer) "lab:1" "\r\n" 100 (opened fickleServer)
    (fickleServer.take 2) (fickleServer.drop 3) _ _ _ rfl rfl honest_fickleServer rfl hreplies rfl
    (by decide) (.inr rfl)

end CryoRig.Transport
