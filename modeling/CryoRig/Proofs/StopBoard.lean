import Mathlib.Tactic.Lemma
import CryoRig.Rig.Schedule

/-!
# What a stop relies on

A stop cancels the program that was started last, takes it off the desk, waits for its end and
empties the slot. Why nothing is left running after that is a matter of very few things: which
tokens were fired, what lies on the desk and in the slot, and what every party is about to do. They
are kept on a *board*, with one *role* for each party. The rest of the rig is left out, so a
statement about boards holds whatever instruments reply and however long they take.

While everybody waits, a board is *lawful*. Every program that has not ended is cancelled or lies on
the desk. One program at most is about to start an acquisition, and then the slot is empty. Every
acquisition that has not ended is cancelled or lies in the slot. All this is off once a caller has
emptied the slot while a program was about to start an acquisition. Then the board is *spoiled*, but
roles still change as they should.

## Main definitions

* `CryoRig.Rig.Role`, `CryoRig.Rig.Board`: what a party is to the others, and the board.
* `CryoRig.Rig.Board.Suits`, `CryoRig.Rig.Board.Lawful`: the invariant, party by party.
* `CryoRig.Rig.Board.Becomes`, `CryoRig.Rig.Board.Fits`: how roles change, and which role a party
  may go on waiting in.
* `CryoRig.Rig.Board.Cleared`: no program of some number or less has left anything running.

## Main results

* `CryoRig.Rig.Board.Cleared.put`: roles only change so that what is cleared stays cleared, on a
  spoiled board too.
* `CryoRig.Rig.Board.Lawful.emptySlot`: the slot may be emptied by whoever cancels what was in it.
* `CryoRig.Rig.Board.Fits.launch`, `CryoRig.Rig.Board.Fits.start`: so may a program be put on the
  desk, and an acquisition into the slot.
* `CryoRig.Rig.Board.Lawful.cleared`: when every program is cancelled, none is about to start
  anything and the slot is empty, all jobs are cleared.
-/

namespace CryoRig.Rig

open Control

/-! ## Boards -/

/-- Where a caller of the session is while it waits. -/
inductive Post where
  /-- It waits for nothing that matters to the others. -/
  | away
  /-- It has the desk and waits for the end of the program on it. -/
  | collecting (program : Nat)
  /-- It stops the session and waits for the desk. -/
  | queueing
  /-- It stops the session, has the desk and waits for the end of a program it took off it. -/
  | stopping (program : Nat)
  /-- It stops the session and has emptied the slot. -/
  | cleared

/-- What a party is to the others. -/
inductive Role where
  /-- It makes calls of the session. -/
  | caller (post : Post)
  /-- A program with its token, and the token of the acquisition it may be about to start. -/
  | program (token : Nat) (start? : Option Nat)
  /-- An acquisition with its token and the party that started it. -/
  | acquisition (token : Nat) (starter : Party)
  /-- It has come to its end, or there is no such party yet. -/
  | absent

/-- The role of a job that a party starts. -/
def Role.ofJob (starter : Party) : Job → Role
  | .program run => .program run.token none
  | .ticking state => .acquisition state.token starter
  | .supervision state => .acquisition state.token starter

/-- What matters of a rig whose programs are run from the console `κ`. -/
structure Board (κ : Nat) where
  /-- Which tokens were fired. -/
  tokens : Array Bool
  /-- The acquisition in the slot. -/
  slot : Option Acquisition
  /-- Who has the program desk. -/
  desk : Desk
  /-- The job of the program on the desk. -/
  program : Option Nat
  /-- The token of the program that was started last. -/
  programToken : Nat
  /-- The number of jobs so far. -/
  count : Nat
  /-- The roles. -/
  role : Party → Role
  /-- How many jobs there were when a party began its latest stop. -/
  mark : Party → Nat
  /-- A caller has emptied the slot while a program was about to start an acquisition. -/
  spoiled : Prop

namespace Board

variable {κ : Nat}

/-- Whether a token was fired. -/
def isFired (b : Board κ) (token : Nat) : Bool := b.tokens[token]?.getD false

/-- Put something else into the slot. -/
def setSlot (b : Board κ) (a? : Option Acquisition) : Board κ := { b with slot := a? }

/-- Change who has the desk. -/
def setDesk (b : Board κ) (desk : Desk) : Board κ := { b with desk := desk }

/-- Note that the slot was emptied too early. -/
def spoil (b : Board κ) : Board κ := { b with spoiled := True }

/-- Put the job of another program on the desk. -/
def setProgram (b : Board κ) (job? : Option Nat) : Board κ := { b with program := job? }

/-- Note the token of a program. -/
def setProgramToken (b : Board κ) (token : Nat) : Board κ := { b with programToken := token }

/-- Note that a party begins a stop. -/
def setMark (b : Board κ) (p : Party) : Board κ :=
  { b with mark := fun q => if q = p then b.count else b.mark q }

/-- Change which tokens were fired. -/
def setTokens (b : Board κ) (tokens : Array Bool) : Board κ := { b with tokens := tokens }

/-- Fire a token. -/
def fire (b : Board κ) (token : Nat) : Board κ := b.setTokens (b.tokens.setIfInBounds token true)

/-- A board with one more token. -/
def newToken (b : Board κ) : Board κ := b.setTokens (b.tokens.push false)

/-- Give a party a role. -/
def put (b : Board κ) (p : Party) (r : Role) : Board κ :=
  { b with role := fun q => if q = p then r else b.role q }

/-- A board with one more job. -/
def spawn (b : Board κ) (p : Party) (job : Job) : Board κ :=
  { b.put (.job b.count) (.ofJob p job) with count := b.count + 1 }

@[simp] lemma role_put_self (b : Board κ) (p : Party) (r : Role) : (b.put p r).role p = r :=
  if_pos rfl

lemma role_put_of_ne (b : Board κ) {p q : Party} (r : Role) (h : q ≠ p) :
    (b.put p r).role q = b.role q :=
  if_neg h

lemma role_put (b : Board κ) (p q : Party) (r : Role) :
    (b.put p r).role q = if q = p then r else b.role q := rfl

@[simp] lemma put_put (b : Board κ) (p : Party) (r r' : Role) :
    (b.put p r).put p r' = b.put p r' := by
  simp only [put, mk.injEq, true_and, and_true]
  funext q
  split <;> simp_all

lemma put_self (b : Board κ) (p : Party) : b.put p (b.role p) = b := by
  have h : (fun q => if q = p then b.role p else b.role q) = b.role := by
    funext q
    split <;> simp_all
  simp only [put, h]

lemma isFired_fire_of (b : Board κ) (token : Nat) {other : Nat} (h : b.isFired other = true) :
    (b.fire token).isFired other = true := by
  simp only [isFired, fire, setTokens, Array.getElem?_setIfInBounds] at *
  by_cases ht : token = other
  · subst ht
    by_cases hs : token < b.tokens.size
    · simp [hs]
    · simp [hs] at h
  · simpa [ht] using h

lemma isFired_fire_self (b : Board κ) {token : Nat} (h : token < b.tokens.size) :
    (b.fire token).isFired token = true := by
  simp [isFired, fire, setTokens, h]

lemma isFired_newToken (b : Board κ) (token : Nat) :
    b.newToken.isFired token = b.isFired token := by
  simp only [isFired, newToken, setTokens, Array.getElem?_push]
  split
  · rename_i h
    simp [h]
  · rfl

@[simp] lemma size_fire (b : Board κ) (token : Nat) :
    (b.fire token).tokens.size = b.tokens.size := by
  simp [fire, setTokens]

/-! ## The invariant -/

/-- A party makes calls of the session. -/
def IsCaller (b : Board κ) (p : Party) : Prop := ∃ post, b.role p = .caller post

/-- No program is about to start an acquisition. -/
def Calm (b : Board κ) : Prop := ∀ t token start?, b.role t = .program token start? → start? = none

/-- Every program that has not ended is cancelled. -/
def Silenced (b : Board κ) : Prop :=
  ∀ t token start?, b.role t = .program token start? → b.isFired token = true

/-- A program lies on the desk, or was taken off it by a stop that still has the desk. -/
def Led (b : Board κ) (t : Party) : Prop :=
  ∃ n, t = .job n ∧ (b.program = some n ∨
    ∃ q, b.desk.holder = some q ∧ b.role q = .caller (.stopping n))

/-- Of the jobs before number `bound`, no program is about to start an acquisition, every program
that has not ended is cancelled, and so is every acquisition that one of them started. -/
def Cleared (b : Board κ) (bound : Nat) : Prop :=
  bound ≤ b.count ∧ ∀ t < bound,
    (∀ token start?, b.role (.job t) = .program token start? →
      b.isFired token = true ∧ start? = none) ∧
    ∀ e token, b.role e = .acquisition token (.job t) → b.isFired token = true

/-- What a board owes to a party in a role. -/
def Suits (b : Board κ) (p : Party) : Role → Prop
  | .caller .away | .absent => True
  | .caller (.collecting n) => b.desk.holder = some p ∧ b.program = some n
  | .caller .queueing => (b.desk.holder = some p ∨ p ∈ b.desk.line) ∧ b.Silenced
  | .caller (.stopping _) => b.desk.holder = some p ∧ b.program = none ∧ b.Silenced
  | .caller .cleared => b.Cleared (b.mark p)
  | .program token start? =>
    (b.isFired token = true ∨ ∃ n, p = .job n ∧ b.program = some n ∧ b.programToken = token) ∧
    ∀ a, start? = some a → a < b.tokens.size ∧ b.slot = none ∧ b.Led p
  | .acquisition token _ =>
    b.isFired token = true ∨ ∃ a, b.slot = some a ∧ p = .job a.job ∧ a.token = token

/-- The invariant of a board while everybody waits. -/
structure Lawful (b : Board κ) : Prop where
  /-- The token of the program that was started last is there. -/
  programToken_lt : b.programToken < b.tokens.size
  /-- So is the token of the acquisition in the slot. -/
  slot_lt : ¬b.spoiled → ∀ a, b.slot = some a → a.token < b.tokens.size
  /-- Nobody waits for a desk that is free. -/
  held : b.desk.holder = none → b.desk.line = []
  /-- Only jobs that were started have a part to play. -/
  born : ∀ n, b.role (.job n) ≠ .absent → n < b.count
  /-- Stops began in the past. -/
  mark_le : ∀ p, b.mark p ≤ b.count
  /-- Everybody gets what is owed. -/
  suits : ¬b.spoiled → ∀ p, b.Suits p (b.role p)

/-! ## Roles -/

/-- The roles that may follow upon a role. A program that is cancelled begins no start. -/
inductive Becomes (b : Board κ) : Role → Role → Prop where
  | caller (post post' : Post) : Becomes b (.caller post) (.caller post')
  | go (token : Nat) (start? : Option Nat) :
    Becomes b (.program token start?) (.program token none)
  | begin (token : Nat) (start? : Option Nat) (a : Nat)
    (h : start? ≠ none ∨ b.isFired token = false) :
    Becomes b (.program token start?) (.program token (some a))
  | sample (token : Nat) (starter : Party) :
    Becomes b (.acquisition token starter) (.acquisition token starter)
  | finish (r : Role) : Becomes b r .absent

/-- A party may go on waiting in a role. -/
def Fits (b : Board κ) (p : Party) (r : Role) : Prop :=
  b.Becomes (b.role p) r ∧ (b.put p r).Lawful

/-- What is cleared stays cleared whatever roles are taken. -/
lemma Cleared.put {b : Board κ} {bound : Nat} (h : b.Cleared bound) {p : Party} {r : Role}
    (hr : b.Becomes (b.role p) r) : (b.put p r).Cleared bound := by
  refine ⟨h.1, fun t ht => ⟨fun token start? hp => ?_, fun e token he => ?_⟩⟩
  · rw [role_put] at hp
    split at hp
    · rename_i hq
      subst hq hp
      cases hb : b.role (.job t) with
      | caller | acquisition | absent => simp [hb] at hr; cases hr
      | program token' start?' =>
        rw [hb] at hr
        have hc := (h.2 t ht).1 _ _ hb
        cases hr with
        | go => exact ⟨hc.1, rfl⟩
        | begin _ _ _ hn =>
          exfalso
          rcases hn with hn | hn
          · exact hn hc.2
          · simp [hc.1] at hn
    · exact (h.2 t ht).1 _ _ hp
  · rw [role_put] at he
    split at he
    · rename_i hq
      subst hq he
      cases hb : b.role e with
      | caller | program | absent => rw [hb] at hr; cases hr
      | acquisition =>
        rw [hb] at hr
        cases hr
        exact (h.2 t ht).2 _ _ hb
    · exact (h.2 t ht).2 _ _ he

/-! ## Changes of roles -/

lemma Becomes.trans {b : Board κ} {r r' r'' : Role} (h : b.Becomes r r') (h' : b.Becomes r' r'') :
    b.Becomes r r'' := by
  cases h with
  | caller =>
    cases h' with
    | caller => exact .caller ..
    | finish => exact .finish _
  | go =>
    cases h' with
    | go => exact .go ..
    | begin _ _ _ hn => exact .begin _ _ _ (.inr (hn.resolve_left fun hn => hn rfl))
    | finish => exact .finish _
  | begin _ _ _ hn =>
    cases h' with
    | go => exact .go ..
    | begin => exact .begin _ _ _ hn
    | finish => exact .finish _
  | sample =>
    cases h' with
    | sample => exact .sample ..
    | finish => exact .finish _
  | finish =>
    cases h' with
    | finish => exact .finish _

/-- Roles change in the same way on a board with the same tokens. -/
lemma Becomes.congr {b b' : Board κ} {r r' : Role} (h : b.Becomes r r')
    (hf : ∀ token, b.isFired token = false → b'.isFired token = false) : b'.Becomes r r' := by
  cases h with
  | caller => exact .caller ..
  | go => exact .go ..
  | begin _ _ _ hn => exact .begin _ _ _ (hn.imp_right (hf _))
  | sample => exact .sample ..
  | finish => exact .finish _

lemma Becomes.of_ne_begin {b b' : Board κ} {r r' : Role} (h : b.Becomes r r')
    (hr : ∀ token a, r' ≠ .program token (some a)) : b'.Becomes r r' := by
  cases h with
  | caller => exact .caller ..
  | go => exact .go ..
  | begin token _ a => exact absurd rfl (hr token a)
  | sample => exact .sample ..
  | finish => exact .finish _

/-- Nothing follows upon the end. -/
lemma Becomes.ne_absent {b : Board κ} {r r' : Role} (h : b.Becomes r r') (hr : r' ≠ .absent) :
    r ≠ .absent := by
  rintro rfl
  cases h
  exact hr rfl

lemma Silenced.put {b : Board κ} (h : b.Silenced) {p : Party} {r : Role}
    (hr : b.Becomes (b.role p) r) : (b.put p r).Silenced := by
  intro t token start? ht
  rw [role_put] at ht
  split at ht
  · subst ht
    cases hb : b.role p with
    | caller | acquisition | absent => rw [hb] at hr; cases hr
    | program =>
      rw [hb] at hr
      cases hr <;> exact h _ _ _ hb
  · exact h _ _ _ ht

/-- The others do not mind if a party takes another role. Only a program about to start an
acquisition minds if whoever took it off the desk turns to something else. -/
lemma Suits.put {b : Board κ} {p q : Party} {r : Role} (h : b.Suits q (b.role q))
    (hr : b.Becomes (b.role p) r) (hp : ∀ n, b.role p = .caller (.stopping n) → b.Calm) :
    (b.put p r).Suits q (b.role q) := by
  cases hq : b.role q with
  | absent => trivial
  | acquisition =>
    rw [hq] at h
    exact h
  | caller post =>
    rw [hq] at h
    cases post with
    | away => trivial
    | collecting => exact h
    | queueing => exact ⟨h.1, h.2.put hr⟩
    | stopping => exact ⟨h.1, h.2.1, h.2.2.put hr⟩
    | cleared => exact Cleared.put h hr
  | program token start? =>
    rw [hq] at h
    refine ⟨h.1, fun a ha => ?_⟩
    obtain ⟨hlt, hs, n, hn, hl⟩ := h.2 a ha
    refine ⟨hlt, hs, n, hn, hl.imp_right ?_⟩
    rintro ⟨q', hd, hq'⟩
    refine ⟨q', hd, ?_⟩
    rw [role_put_of_ne, hq']
    rintro rfl
    have hc := hp n hq' q token start? hq
    rw [ha] at hc
    cases hc

/-- A party takes another role that suits it. -/
lemma Lawful.put {b : Board κ} (h : b.Lawful) {p : Party} {r : Role}
    (hr : b.Becomes (b.role p) r)
    (hp : ¬b.spoiled → ∀ n, b.role p = .caller (.stopping n) → b.Calm)
    (hs : ¬b.spoiled → (b.put p r).Suits p r) : (b.put p r).Lawful where
  programToken_lt := h.programToken_lt
  slot_lt := h.slot_lt
  held := h.held
  born n hn := by
    rw [role_put] at hn
    split at hn
    · rename_i hq
      exact h.born n (hq ▸ hr.ne_absent hn)
    · exact h.born n hn
  mark_le := h.mark_le
  suits hn q := by
    by_cases hq : q = p
    · subst hq
      rw [role_put_self]
      exact hs hn
    · rw [role_put_of_ne _ _ hq]
      exact (h.suits hn q).put hr (hp hn)

/-- From one role that fits to another. -/
lemma Fits.turn {b : Board κ} {p : Party} {r r' : Role} (h : b.Fits p r) (hr : b.Becomes r r')
    (hp : ∀ n, r ≠ .caller (.stopping n)) (hs : ¬b.spoiled → (b.put p r').Suits p r') :
    b.Fits p r' := by
  have hb : (b.put p r).Becomes ((b.put p r).role p) r' := by
    rw [role_put_self]
    exact hr.congr fun _ h => h
  have hl := h.2.put hb (by simp [hp]) fun hn => by simpa using hs hn
  exact ⟨h.1.trans hr, by simpa using hl⟩

/-- A party that fits its own role. -/
lemma Lawful.fits {b : Board κ} (h : b.Lawful) {p : Party} {r : Role} (hr : b.role p = r)
    (hb : b.Becomes r r) : b.Fits p r := by
  subst hr
  exact ⟨hb, by rwa [put_self]⟩

/-! ## Tokens -/

section Tokens

variable {b : Board κ} {ts : Array Bool}

lemma Suits.tokens {p : Party} {r : Role} (h : b.Suits p r) (hs : b.tokens.size ≤ ts.size)
    (hf : ∀ token, b.isFired token = true → (b.setTokens ts).isFired token = true) :
    (b.setTokens ts).Suits p r := by
  have hsil : b.Silenced → (b.setTokens ts).Silenced :=
    fun h t token start? ht => hf token (h t token start? ht)
  cases r with
  | absent => trivial
  | acquisition => exact h.imp_left (hf _)
  | caller post =>
    cases post with
    | away => trivial
    | collecting => exact h
    | queueing => exact ⟨h.1, hsil h.2⟩
    | stopping => exact ⟨h.1, h.2.1, hsil h.2.2⟩
    | cleared =>
      refine ⟨h.1, fun t ht => ⟨fun token start? hp => ?_, fun e token he => ?_⟩⟩
      · exact ((h.2 t ht).1 token start? hp).imp_left (hf _)
      · exact hf _ ((h.2 t ht).2 e token he)
  | program token start? =>
    refine ⟨h.1.imp_left (hf _), fun a ha => ?_⟩
    obtain ⟨hlt, hrest⟩ := h.2 a ha
    exact ⟨Nat.lt_of_lt_of_le hlt hs, hrest⟩

/-- Tokens may be fired and new ones made. -/
lemma Lawful.tokens (h : b.Lawful) (hs : b.tokens.size ≤ ts.size)
    (hf : ∀ token, b.isFired token = true → (b.setTokens ts).isFired token = true) :
    (b.setTokens ts).Lawful where
  programToken_lt := Nat.lt_of_lt_of_le h.programToken_lt hs
  slot_lt hn a ha := Nat.lt_of_lt_of_le (h.slot_lt hn a ha) hs
  held := h.held
  born := h.born
  mark_le := h.mark_le
  suits hn p := (h.suits hn p).tokens hs hf

lemma Lawful.fire (h : b.Lawful) (token : Nat) : (b.fire token).Lawful :=
  h.tokens (by simp) fun _ => isFired_fire_of b token

lemma Lawful.newToken (h : b.Lawful) : b.newToken.Lawful :=
  h.tokens (by simp) fun token ht => (isFired_newToken b token).trans ht

/-- Once the token of the program that was started last is fired, every program is cancelled. -/
lemma Lawful.silenced_fire (h : b.Lawful) (hn : ¬b.spoiled) :
    (b.fire b.programToken).Silenced := by
  intro t token start? ht
  have hs := h.suits hn t
  rw [show b.role t = _ from ht] at hs
  rcases hs.1 with hf | ⟨n, -, -, rfl⟩
  · exact isFired_fire_of b _ hf
  · exact isFired_fire_self b h.programToken_lt

end Tokens

/-! ## The slot -/

/-- The slot may be emptied by whoever sees to it that what was in it is cancelled or has ended. -/
lemma Lawful.emptySlot {b : Board κ} (h : b.Lawful)
    (hs : ¬b.spoiled → ∀ a, b.slot = some a →
      b.role (.job a.job) = .absent ∨ b.isFired a.token = true) :
    (b.setSlot none).Lawful where
  programToken_lt := h.programToken_lt
  slot_lt _ a ha := by cases ha
  held := h.held
  born := h.born
  mark_le := h.mark_le
  suits hn p := by
    have hp := h.suits hn p
    change (b.setSlot none).Suits p (b.role p)
    cases hr : b.role p with
    | absent => trivial
    | caller post =>
      rw [hr] at hp
      cases post <;> exact hp
    | program token start? =>
      rw [hr] at hp
      refine ⟨hp.1, fun a ha => ?_⟩
      obtain ⟨hlt, -, hl⟩ := hp.2 a ha
      exact ⟨hlt, rfl, hl⟩
    | acquisition token starter =>
      rw [hr] at hp
      rcases hp with hp | ⟨a, ha, rfl, rfl⟩
      · exact .inl hp
      · rcases hs hn a ha with ho | hf
        · rw [hr] at ho
          cases ho
        · exact .inl hf

/-- The end of a party is not the role of anybody else. -/
lemma Fits.ne_of_absent {b : Board κ} {p q : Party} {r : Role} (h : b.Fits p r) (hr : r ≠ .absent)
    (hq : b.role q = .absent) : q ≠ p := by
  rintro rfl
  exact h.1.ne_absent hr hq

/-- An acquisition that has ended may be taken out of the slot. -/
lemma Fits.removeEnded {b : Board κ} {p : Party} {r : Role} {a : Acquisition} (h : b.Fits p r)
    (hr : r ≠ .absent) (ha : b.slot = some a) (ho : b.role (.job a.job) = .absent) :
    (b.setSlot none).Fits p r := by
  refine ⟨h.1.congr fun _ h => h, h.2.emptySlot fun _ a' ha' => .inl ?_⟩
  have he : b.slot = some a' := ha'
  rw [ha] at he
  cases he
  rw [role_put_of_ne _ _ (h.ne_of_absent hr ho)]
  exact ho

/-- The acquisition in the slot may be taken out of it and cancelled. -/
lemma Fits.cancel {b : Board κ} {p : Party} {r : Role} {a : Acquisition} (h : b.Fits p r)
    (hr : ∀ token a, r ≠ .program token (some a)) (ha : b.slot = some a) :
    ((b.setSlot none).fire a.token).Fits p r := by
  refine ⟨h.1.of_ne_begin hr, (h.2.fire a.token).emptySlot fun hn a' ha' => .inr ?_⟩
  have he : b.slot = some a' := ha'
  rw [ha] at he
  cases he
  exact isFired_fire_self b (h.2.slot_lt hn a ha)

/-- An empty slot may be emptied. -/
lemma setSlot_none {b : Board κ} (h : b.slot = none) : b.setSlot none = b := by
  cases b
  cases h
  rfl

/-- No two programs are about to start an acquisition. -/
lemma Lawful.eq_of_start {b : Board κ} (h : b.Lawful) (hn : ¬b.spoiled) {t t' : Party}
    {token token' a a' : Nat} (ht : b.role t = .program token (some a))
    (ht' : b.role t' = .program token' (some a')) : t = t' := by
  have hs := h.suits hn t
  have hs' := h.suits hn t'
  rw [ht] at hs
  rw [ht'] at hs'
  obtain ⟨-, -, n, rfl, hl⟩ := hs.2 a rfl
  obtain ⟨-, -, n', rfl, hl'⟩ := hs'.2 a' rfl
  have hstop {q : Party} {m : Nat} (hq : b.role q = .caller (.stopping m)) : b.program = none := by
    have hs := h.suits hn q
    rw [hq] at hs
    exact hs.2.1
  rcases hl with hl | ⟨q, hq, hqr⟩ <;> rcases hl' with hl' | ⟨q', hq', hqr'⟩
  · rw [hl] at hl'
    cases hl'
    rfl
  · rw [hstop hqr'] at hl
    cases hl
  · rw [hstop hqr] at hl'
    cases hl'
  · rw [hq] at hq'
    cases hq'
    rw [hqr] at hqr'
    cases hqr'
    rfl

/-- A program that is not cancelled may begin the start of an acquisition when nothing is in the
slot. -/
lemma Fits.begin {b : Board κ} {p : Party} {token a : Nat} (h : b.Fits p (.program token none))
    (hf : b.isFired token = false) (hs : b.slot = none) (ha : a < b.tokens.size) :
    b.Fits p (.program token (some a)) := by
  refine h.turn (.begin _ _ _ (.inr hf)) (by simp) fun hn => ?_
  have hp := h.2.suits hn p
  rw [role_put_self] at hp
  have hd : ∃ n, p = .job n ∧ b.program = some n ∧ b.programToken = token := by
    rcases hp.1 with hf' | hd
    · exact absurd (hf.symm.trans hf') (by simp)
    · exact hd
  refine ⟨.inr hd, ?_⟩
  rintro a' ⟨⟩
  obtain ⟨n, hn, hpn, -⟩ := hd
  exact ⟨ha, hs, n, hn, .inl hpn⟩

/-- A program about to start an acquisition may as well not do it. -/
lemma Fits.go {b : Board κ} {p : Party} {token : Nat} {start? : Option Nat}
    (h : b.Fits p (.program token start?)) : b.Fits p (.program token none) := by
  refine h.turn (.go ..) (by simp) fun hn => ?_
  have hp := h.2.suits hn p
  rw [role_put_self] at hp
  exact ⟨hp.1, fun a ha => by cases ha⟩

/-! ## New jobs -/

lemma role_spawn_of_ne (b : Board κ) {p q : Party} (job : Job) (h : q ≠ .job b.count) :
    (b.spawn p job).role q = b.role q :=
  if_neg h

lemma role_spawn_self (b : Board κ) (p : Party) (job : Job) :
    (b.spawn p job).role (.job b.count) = .ofJob p job :=
  if_pos rfl

/-- A party that has a part to play is no new job. -/
lemma Lawful.ne_new {b : Board κ} (h : b.Lawful) {p : Party} (hp : b.role p ≠ .absent) :
    p ≠ .job b.count := by
  rintro rfl
  exact absurd (h.born _ hp) (Nat.lt_irrefl _)

/-- A new job disturbs nothing that is cleared, unless one of the programs before the bound started
it. -/
lemma Cleared.spawn {b : Board κ} {bound : Nat} (h : b.Cleared bound) {p : Party} {job : Job}
    (hp : ∀ t < bound, ∀ token, Role.ofJob p job ≠ .acquisition token (.job t)) :
    (b.spawn p job).Cleared bound := by
  refine ⟨Nat.le_succ_of_le h.1, fun t ht => ⟨fun token start? hr => ?_, fun e token hr => ?_⟩⟩
  · have hne : Party.job t ≠ .job b.count := by
      simp only [ne_eq, Party.job.injEq]
      have := h.1
      omega
    rw [role_spawn_of_ne _ _ hne] at hr
    exact (h.2 t ht).1 token start? hr
  · by_cases he : e = .job b.count
    · rw [he, role_spawn_self] at hr
      exact absurd hr (hp t ht token)
    · rw [role_spawn_of_ne _ _ he] at hr
      exact (h.2 t ht).2 e token hr

section Start

variable {b : Board κ} {p : Party} {token : Nat} {a : Acquisition} {job : Job}

/-- The board once a program has started an acquisition, has put it into the slot and goes on. -/
def started (b : Board κ) (p : Party) (token : Nat) (a : Acquisition) (job : Job) : Board κ :=
  ((b.spawn p job).setSlot (some a)).put p (.program token none)

lemma role_started_self : (b.started p token a job).role p = .program token none :=
  role_put_self ..

lemma role_started_new (hne : p ≠ .job b.count) (hj : Role.ofJob p job = .acquisition a.token p) :
    (b.started p token a job).role (.job b.count) = .acquisition a.token p := by
  rw [started, role_put_of_ne _ _ hne.symm, ← hj]
  exact role_spawn_self ..

/-- Only the program itself and the new acquisition have other roles than before. -/
lemma role_started_of_ne {q : Party} (hq : q ≠ .job b.count) (hqp : q ≠ p) :
    (b.started p token a job).role q = b.role q := by
  rw [started, role_put_of_ne _ _ hqp]
  exact role_spawn_of_ne _ _ hq

lemma Silenced.started (hsil : b.Silenced) (hp : b.role p = .program token (some a.token))
    (hne : p ≠ .job b.count) (hj : Role.ofJob p job = .acquisition a.token p) :
    (b.started p token a job).Silenced := by
  intro t token' start? ht
  by_cases htp : t = p
  · subst htp
    rw [role_started_self] at ht
    cases ht
    exact hsil _ _ _ hp
  · by_cases htn : t = .job b.count
    · rw [htn, role_started_new hne hj] at ht
      cases ht
    · rw [role_started_of_ne htn htp] at ht
      exact hsil _ _ _ ht

/-- A program before the bound starts nothing. -/
lemma Cleared.started {bound : Nat} (hc : b.Cleared bound)
    (hp : b.role p = .program token (some a.token)) (hne : p ≠ .job b.count)
    (hj : Role.ofJob p job = .acquisition a.token p) :
    (b.started p token a job).Cleared bound := by
  have hspawn : (b.spawn p job).Cleared bound := by
    refine hc.spawn fun t ht token' he => ?_
    rw [hj] at he
    cases he
    have hstart := ((hc.2 t ht).1 _ _ hp).2
    cases hstart
  refine Cleared.put (b := (b.spawn p job).setSlot (some a)) hspawn ?_
  rw [show ((b.spawn p job).setSlot (some a)).role p = .program token (some a.token) from
    (role_spawn_of_ne _ _ hne).trans hp]
  exact .go ..

/-- A program about to start an acquisition may start it, put it into the slot and go on. -/
lemma Lawful.started (h : b.Lawful) (hp : b.role p = .program token (some a.token))
    (hj : Role.ofJob p job = .acquisition a.token p) (ha : a.job = b.count) :
    (b.started p token a job).Lawful := by
  have hne := h.ne_new (p := p) (by simp [hp])
  refine ⟨h.programToken_lt, fun hn a' ha' => ?_, h.held, fun n hn => ?_,
    fun q => Nat.le_succ_of_le (h.mark_le q), fun hn q => ?_⟩
  · cases ha'
    have hs := h.suits hn p
    rw [hp] at hs
    exact (hs.2 _ rfl).1
  · by_cases hnn : n = b.count
    · subst hnn
      exact Nat.lt_succ_self _
    · refine Nat.lt_succ_of_lt (h.born n fun ho => hn ?_)
      rw [role_started_of_ne (by simpa using hnn)]
      · exact ho
      · rintro rfl
        rw [hp] at ho
        cases ho
  have hs := h.suits hn p
  rw [hp] at hs
  obtain ⟨-, hslot, -⟩ := hs.2 _ rfl
  by_cases hqp : q = p
  · subst hqp
    rw [role_started_self]
    exact ⟨hs.1, fun a' ha' => by cases ha'⟩
  by_cases hqn : q = .job b.count
  · subst hqn
    rw [role_started_new hne hj]
    exact .inr ⟨a, rfl, by rw [ha], rfl⟩
  have hq := h.suits hn q
  rw [role_started_of_ne hqn hqp]
  cases hr : b.role q with
  | absent => trivial
  | acquisition =>
    rw [hr] at hq
    rcases hq with hq | ⟨a', ha', -⟩
    · exact .inl hq
    · rw [hslot] at ha'
      cases ha'
  | program token' start? =>
    rw [hr] at hq
    refine ⟨hq.1, fun a' ha' => ?_⟩
    subst ha'
    exact absurd (h.eq_of_start hn hr hp) hqp
  | caller post =>
    rw [hr] at hq
    cases post with
    | away => trivial
    | collecting => exact hq
    | queueing => exact ⟨hq.1, Silenced.started hq.2 hp hne hj⟩
    | stopping => exact ⟨hq.1, hq.2.1, Silenced.started hq.2.2 hp hne hj⟩
    | cleared => exact Cleared.started hq hp hne hj

end Start

lemma Fits.start {b : Board κ} {p : Party} {token : Nat} {a : Acquisition} {job : Job}
    (h : b.Fits p (.program token (some a.token))) (hj : Role.ofJob p job = .acquisition a.token p)
    (ha : a.job = b.count) : ((b.spawn p job).setSlot (some a)).Fits p (.program token none) := by
  have hne : p ≠ .job b.count := h.2.ne_new (by rw [role_put_self]; simp)
  constructor
  · rw [show ((b.spawn p job).setSlot (some a)).role p = b.role p from role_spawn_of_ne _ _ hne]
    exact (h.1.trans (.go ..)).of_ne_begin (by simp)
  · have hl := h.2.started (role_put_self ..) hj ha
    rw [started] at hl
    have he : (((b.put p (.program token (some a.token))).spawn p job).setSlot (some a)).put p
        (.program token none) = ((b.spawn p job).setSlot (some a)).put p (.program token none) := by
      simp only [setSlot, spawn, put, mk.injEq, true_and, and_true]
      funext q
      split <;> simp_all
    rwa [he] at hl

/-- A caller that has the desk to itself may put a new program on it when the one before has
ended. -/
lemma Lawful.launch {b : Board κ} (h : b.Lawful) (p : Party) (run : ProgramRun)
    (hd : b.desk.holder = none) (hp : ∀ n, b.program = some n → b.role (.job n) = .absent)
    (ht : run.token < b.tokens.size) :
    (((b.spawn p (.program run)).setProgramToken run.token).setProgram (some b.count)).Lawful := by
  have hline : b.desk.line = [] := h.held hd
  have hrole {q : Party} (hq : q ≠ .job b.count) :
      (((b.spawn p (.program run)).setProgramToken run.token).setProgram (some b.count)).role q =
        b.role q := role_spawn_of_ne _ _ hq
  have hnew :
      (((b.spawn p (.program run)).setProgramToken run.token).setProgram (some b.count)).role
        (.job b.count) = .program run.token none := role_spawn_self ..
  refine ⟨ht, h.slot_lt, h.held, fun n hn => ?_, fun q => Nat.le_succ_of_le (h.mark_le q),
    fun hs q => ?_⟩
  · by_cases hnn : n = b.count
    · subst hnn
      exact Nat.lt_succ_self _
    · rw [hrole (by simpa using hnn)] at hn
      exact Nat.lt_succ_of_lt (h.born n hn)
  · by_cases hqn : q = .job b.count
    · subst hqn
      rw [hnew]
      exact ⟨.inr ⟨b.count, rfl, rfl, rfl⟩, fun a ha => by cases ha⟩
    have hq := h.suits hs q
    rw [hrole hqn]
    cases hr : b.role q with
    | absent => trivial
    | acquisition =>
      rw [hr] at hq
      exact hq
    | program token' start? =>
      rw [hr] at hq
      have hpresent {n : Nat} (hn : q = .job n) (hpn : b.program = some n) : False := by
        have ho := hp n hpn
        rw [← hn, hr] at ho
        cases ho
      refine ⟨.inl (hq.1.resolve_right ?_), fun a ha => ?_⟩
      · rintro ⟨n, hn, hpn, -⟩
        exact hpresent hn hpn
      · obtain ⟨-, -, n, hn, hpn | ⟨q', hq', -⟩⟩ := hq.2 a ha
        · exact (hpresent hn hpn).elim
        · rw [hd] at hq'
          cases hq'
    | caller post =>
      rw [hr] at hq
      cases post with
      | away => trivial
      | collecting | stopping =>
        have hh := hq.1
        rw [hd] at hh
        cases hh
      | queueing =>
        rcases hq.1 with hh | hh
        · rw [hd] at hh
          cases hh
        · rw [hline] at hh
          cases hh
      | cleared =>
        exact Cleared.spawn (b := b) hq fun t _ token he => by cases he

lemma Fits.launch {b : Board κ} {p : Party} {post : Post} (h : b.Fits p (.caller post))
    (run : ProgramRun) (hd : b.desk.holder = none)
    (hp : ∀ n, b.program = some n → b.role (.job n) = .absent) (ht : run.token < b.tokens.size) :
    (((b.spawn p (.program run)).setProgramToken run.token).setProgram (some b.count)).Fits p
      (.caller post) := by
  have hne : p ≠ .job b.count := h.2.ne_new (by rw [role_put_self]; simp)
  have hp' (n : Nat) (hn : b.program = some n) :
      (b.put p (.caller post)).role (.job n) = .absent := by
    rw [role_put_of_ne _ _ (h.ne_of_absent (by simp) (hp n hn))]
    exact hp n hn
  constructor
  · rw [show (((b.spawn p (.program run)).setProgramToken run.token).setProgram
      (some b.count)).role p = b.role p from role_spawn_of_ne _ _ hne]
    exact h.1.of_ne_begin (by simp)
  · have hl := h.2.launch p run hd hp' ht
    have he : ((((b.put p (.caller post)).spawn p (.program run)).setProgramToken
        run.token).setProgram (some b.count)) = (((b.spawn p (.program run)).setProgramToken
        run.token).setProgram (some b.count)).put p (.caller post) := by
      simp only [setProgram, setProgramToken, spawn, put, mk.injEq, true_and, and_true]
      funext q
      by_cases hq : q = p
      · subst hq
        simp [hne]
      · simp [hq]
    rwa [← he]

/-! ## The desk -/

/-- Whoever takes a free desk and leaves it again leaves it as it was. -/
lemma leave_arrive {d : Desk} (p : Party) (hd : d.holder = none) (hl : d.line = []) :
    (d.arrive p).leave = d := by
  cases d
  cases hd
  cases hl
  rfl

/-- The desk may change if whoever has it for a purpose keeps it and no stop is turned away. -/
lemma Lawful.setDesk {b : Board κ} {d : Desk} (h : b.Lawful) (hf : d.holder = none → d.line = [])
    (hh : ¬b.spoiled → ∀ q, b.desk.holder = some q → b.role q ≠ .caller .away →
      d.holder = some q)
    (hl : ¬b.spoiled → ∀ q, b.role q = .caller .queueing →
      b.desk.holder = some q ∨ q ∈ b.desk.line → d.holder = some q ∨ q ∈ d.line) :
    (b.setDesk d).Lawful where
  programToken_lt := h.programToken_lt
  slot_lt := h.slot_lt
  held := hf
  born := h.born
  mark_le := h.mark_le
  suits hn q := by
    have hq := h.suits hn q
    replace hh := hh hn
    replace hl := hl hn
    change (b.setDesk d).Suits q (b.role q)
    cases hr : b.role q with
    | absent => trivial
    | acquisition =>
      rw [hr] at hq
      exact hq
    | program token start? =>
      rw [hr] at hq
      refine ⟨hq.1, fun a ha => ?_⟩
      obtain ⟨hlt, hs, n, hn, hl⟩ := hq.2 a ha
      refine ⟨hlt, hs, n, hn, hl.imp_right ?_⟩
      rintro ⟨q', hq', hr'⟩
      exact ⟨q', hh q' hq' (by simp [hr']), hr'⟩
    | caller post =>
      rw [hr] at hq
      cases post with
      | away => trivial
      | collecting | stopping => exact ⟨hh q hq.1 (by simp [hr]), hq.2⟩
      | queueing => exact ⟨hl q hr hq.1, hq.2⟩
      | cleared => exact hq

/-- Anybody may come to the desk. -/
lemma Lawful.arrive {b : Board κ} (h : b.Lawful) (p : Party) :
    (b.setDesk (b.desk.arrive p)).Lawful := by
  refine h.setDesk (fun hn => ?_) (fun _ q hq _ => Desk.holder_arrive hq p) fun _ q _ hq => ?_
  · cases hd : b.desk.holder <;> simp [Desk.arrive, hd] at hn
  · cases hd : b.desk.holder with
    | none =>
      rw [h.held hd, hd] at hq
      simp at hq
    | some q' =>
      rw [hd] at hq
      simp only [Desk.arrive, hd, List.mem_append]
      exact hq.imp_right .inl

/-- Whoever does not stop the session may leave the line. -/
lemma Lawful.giveUp {b : Board κ} (h : b.Lawful) {p : Party} (hp : b.role p ≠ .caller .queueing) :
    (b.setDesk (b.desk.giveUp p)).Lawful := by
  refine h.setDesk (fun hn => ?_) (fun _ q hq _ => hq) fun _ q hr hq => ?_
  · simp [Desk.giveUp, h.held hn]
  · refine hq.imp_right fun hq => List.mem_filter.2 ⟨hq, ?_⟩
    have hne : q ≠ p := by
      rintro rfl
      exact hp hr
    simpa using hne

/-- Whoever has the desk for no purpose may leave it. -/
lemma Lawful.leave {b : Board κ} (h : b.Lawful) {p : Party}
    (hd : ¬b.spoiled → b.desk.holder = some p) (hp : b.role p = .caller .away) :
    (b.setDesk b.desk.leave).Lawful := by
  refine h.setDesk (fun hn => ?_) (fun hs q hq hr => ?_) fun hs q hr hq => ?_
  · cases hl : b.desk.line <;> simp [Desk.leave, hl] at hn ⊢
  · rw [hd hs] at hq
    cases hq
    exact absurd hp hr
  · rcases hq with hq | hq
    · rw [hd hs] at hq
      cases hq
      rw [hp] at hr
      cases hr
    · cases hl : b.desk.line with
      | nil =>
        rw [hl] at hq
        cases hq
      | cons next rest =>
        rw [hl] at hq
        simpa [Desk.leave, hl, eq_comm] using hq

/-- Whoever has the desk may take the program off it if the program has ended, or if this is to
stop it when it is cancelled. -/
lemma Lawful.takeOff {b : Board κ} (h : b.Lawful) {p : Party} {post : Post}
    (hp : b.role p = .caller .away)
    (hn : ¬b.spoiled → ∀ n, b.program = some n → b.role (.job n) = .absent ∨ post = .stopping n)
    (hs : ¬b.spoiled → b.desk.holder = some p ∧ (b.setProgram none).Suits p (.caller post)) :
    ((b.setProgram none).put p (.caller post)).Lawful := by
  have hr : b.Becomes (b.role p) (.caller post) := by
    rw [hp]
    exact .caller ..
  have hne {q : Party} (hq : b.role q ≠ .caller .away) : q ≠ p := by
    rintro rfl
    exact hq hp
  refine ⟨h.programToken_lt, h.slot_lt, h.held, fun n hn => ?_, h.mark_le, fun hns q => ?_⟩
  · rw [role_put] at hn
    split at hn
    · rename_i hq
      exact h.born n (hq ▸ hr.ne_absent hn)
    · exact h.born n hn
  obtain ⟨hd, hs⟩ := hs hns
  replace hn := hn hns
  by_cases hqp : q = p
  · subst hqp
    rw [role_put_self]
    cases post with
    | away => trivial
    | collecting => exact hs
    | queueing => exact ⟨hs.1, Silenced.put (b := b) hs.2 hr⟩
    | stopping => exact ⟨hs.1, rfl, Silenced.put (b := b) hs.2.2 hr⟩
    | cleared => exact Cleared.put (b := b) hs hr
  rw [role_put_of_ne _ _ hqp]
  have hq := h.suits hns q
  change ((b.setProgram none).put p (.caller post)).Suits q (b.role q)
  cases hrq : b.role q with
  | absent => trivial
  | acquisition =>
    rw [hrq] at hq
    exact hq
  | program token start? =>
    rw [hrq] at hq
    have hstop {n : Nat} (ht : q = .job n) (hpn : b.program = some n) : post = .stopping n := by
      refine (hn n hpn).resolve_left fun ho => ?_
      rw [← ht, hrq] at ho
      cases ho
    refine ⟨.inl (hq.1.elim id ?_), fun a ha => ?_⟩
    · rintro ⟨n, ht, hpn, -⟩
      rw [hstop ht hpn] at hs
      exact hs.2.2 q token start? hrq
    · obtain ⟨hlt, hslot, n, ht, hl⟩ := hq.2 a ha
      refine ⟨hlt, hslot, n, ht, .inr ?_⟩
      rcases hl with hpn | ⟨q', hq', hr'⟩
      · refine ⟨p, hd, ?_⟩
        rw [role_put_self, hstop ht hpn]
      · rw [hd] at hq'
        cases hq'
        rw [hp] at hr'
        cases hr'
  | caller post' =>
    rw [hrq] at hq
    cases post' with
    | away => trivial
    | collecting | stopping =>
      have hh := hq.1
      rw [hd] at hh
      cases hh
      exact absurd rfl hqp
    | queueing => exact ⟨hq.1, Silenced.put (b := b) hq.2 hr⟩
    | cleared => exact Cleared.put (b := b) hq hr

/-- Whoever has taken a program off the desk may let go of it when nobody is about to start an
acquisition. -/
lemma Fits.letGo {b : Board κ} {p : Party} {post : Post} (h : b.Fits p (.caller post))
    (hc : ¬b.spoiled → b.Calm) : b.Fits p (.caller .away) := by
  have hb : (b.put p (.caller post)).Becomes ((b.put p (.caller post)).role p)
      (.caller .away) := by
    rw [role_put_self]
    exact .caller ..
  have hcalm (hn : ¬b.spoiled) : (b.put p (.caller post)).Calm := by
    intro t token start? ht
    rw [role_put] at ht
    split at ht
    · cases ht
    · exact hc hn t token start? ht
  have hl := h.2.put hb (fun hn _ _ => hcalm hn) fun _ => trivial
  exact ⟨h.1.trans (.caller ..), by simpa using hl⟩

/-! ## Stops -/

/-- A caller that has not emptied the slot may begin a stop. -/
lemma Lawful.setMark {b : Board κ} (h : b.Lawful) {p : Party} (hp : b.role p ≠ .caller .cleared) :
    (b.setMark p).Lawful where
  programToken_lt := h.programToken_lt
  slot_lt := h.slot_lt
  held := h.held
  born := h.born
  mark_le q := by
    change (if q = p then b.count else b.mark q) ≤ b.count
    split
    · exact Nat.le_refl _
    · exact h.mark_le q
  suits hn q := by
    have hq := h.suits hn q
    change (b.setMark p).Suits q (b.role q)
    cases hr : b.role q with
    | absent => trivial
    | acquisition | program =>
      rw [hr] at hq
      exact hq
    | caller post =>
      rw [hr] at hq
      cases post with
      | cleared =>
        have hne : q ≠ p := by
          rintro rfl
          exact hp hr
        change b.Cleared (if q = p then b.count else b.mark q)
        rw [if_neg hne]
        exact hq
      | _ => exact hq

lemma Fits.setMark {b : Board κ} {p : Party} (h : b.Fits p (.caller .away)) :
    (b.setMark p).Fits p (.caller .away) :=
  ⟨h.1.of_ne_begin (by simp), h.2.setMark (by rw [role_put_self]; simp)⟩

/-- Nothing is owed to anybody when the slot was emptied too early. -/
lemma Lawful.spoil {b : Board κ} (h : b.Lawful) : b.spoil.Lawful where
  programToken_lt := h.programToken_lt
  slot_lt hn := absurd trivial hn
  held := h.held
  born := h.born
  mark_le := h.mark_le
  suits hn := absurd trivial hn

lemma Fits.spoil {b : Board κ} {p : Party} {post post' : Post} (h : b.Fits p (.caller post)) :
    b.spoil.Fits p (.caller post') := by
  have hb : (b.put p (.caller post)).spoil.Becomes ((b.put p (.caller post)).spoil.role p)
      (.caller post') := by
    rw [show (b.put p (.caller post)).spoil.role p = _ from role_put_self ..]
    exact .caller ..
  have hl := h.2.spoil.put hb (fun hn => absurd trivial hn) fun hn => absurd trivial hn
  have he : (b.put p (.caller post)).spoil.put p (.caller post') =
      b.spoil.put p (.caller post') := by
    have hput := put_put b.spoil p (.caller post) (.caller post')
    exact hput
  rw [he] at hl
  exact ⟨(h.1.trans (.caller post post')).of_ne_begin (by simp), hl⟩

/-- With every program cancelled, none of them about to start an acquisition and nothing in the
slot, nothing is left running of the jobs so far. -/
lemma Lawful.cleared {b : Board κ} (h : b.Lawful) (hn : ¬b.spoiled) (hs : b.Silenced) (hc : b.Calm)
    (hslot : b.slot = none) {bound : Nat} (hb : bound ≤ b.count) : b.Cleared bound := by
  refine ⟨hb, fun t _ => ⟨fun token start? hr => ⟨hs _ _ _ hr, hc _ _ _ hr⟩, fun e token hr => ?_⟩⟩
  have he := h.suits hn e
  rw [hr] at he
  rcases he with he | ⟨a, ha, -⟩
  · exact he
  · rw [hslot] at ha
    cases ha

end Board

end CryoRig.Rig
