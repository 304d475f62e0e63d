import CryoRig.Proofs.BusTasks
import CryoRig.Proofs.Disciplines

/-!
# One party on the bus at a time

Whoever wants the bus has it at once or waits in the line. As long as everybody takes the bus before
a command and gives it back afterwards, what was said over the bus is one hold after the other, and
what was sent over it are the commands of those holds.

## Main definitions

* `CryoRig.Rig.BusStanding`: how a party stands with the bus.
* `CryoRig.Rig.busRules`: what may be asked for with what standing.
* `CryoRig.Rig.overBus`, `CryoRig.Rig.sent?`: what was said and sent over the bus.
* `CryoRig.Rig.InTurn`: one hold of the bus after the other.
* `CryoRig.Rig.Desk.Proper`: a place and its line are in order.
* `CryoRig.Rig.BusKept`: the invariant of the bus.

## Main results

* `CryoRig.Rig.obeys_of_mannerly`: work that leaves the bus alone but for holds keeps to the rules.
* `CryoRig.Rig.sound_busRules`: if everybody keeps to the rules, the invariant is preserved.
-/

namespace CryoRig.Rig

open Control Process Instrument

variable {α β : Type}

/-! ## Rules -/

/-- How a party stands with the bus. -/
inductive BusStanding where
  /-- It does not want the bus. -/
  | away
  /-- It waits for the bus. -/
  | inLine
  /-- It has the bus. -/
  | holding
  /-- It has the bus and waits for the reply to a command. -/
  | sending (id command : String) (how : Sending)
  deriving DecidableEq

/-- It has the bus. -/
def BusStanding.Has : BusStanding → Prop
  | away | inLine => False
  | holding | sending .. => True

/-- The bus is taken by who does not have it, used by who has it, and given back by who has it. -/
def busRules : Discipline BusStanding where
  Allows g
    | .device .seize => g = .away
    | .device .release | .device (.write ..) | .device (.query ..) => g = .holding
    | _ => g = .away ∨ g = .holding
  entered g
    | .device .seize => .inLine
    | .device (.write id command) => .sending id command .write
    | .device (.query id command) => .sending id command .query
    | _ => g
  after g
    | .device .seize, _ => .holding
    | .device .release, _ => .away
    | _, _ => g
  idle := .away
  Rests g := g = .away

lemma allows_of_offBus {r : Control.Request} (hr : r.OffBus) {g : BusStanding} :
    busRules.Allows g r ↔ g = .away ∨ g = .holding := by
  cases r with
  | device r => cases r <;> first | exact Iff.rfl | exact hr.elim
  | _ => exact Iff.rfl

lemma entered_of_offBus {r : Control.Request} (hr : r.OffBus) {g : BusStanding} :
    busRules.entered g r = g := by
  cases r with
  | device r => cases r <;> first | rfl | exact hr.elim
  | _ => rfl

lemma after_of_offBus {r : Control.Request} (hr : r.OffBus) {g : BusStanding} {reply : r.Reply} :
    busRules.after g r reply = g := by
  cases r with
  | device r => cases r <;> first | rfl | exact hr.elim
  | _ => rfl

section Obeys

/-- Whoever has the bus may do anything but take it. -/
lemma obeys_of_underHold {w : RigWork α} (h : w.AsksOnly Request.UnderHold) :
    busRules.Obeys (fun _ g => g = .holding) w .holding := by
  induction w with
  | done a => exact rfl
  | ask r next ih =>
    have hallow : busRules.Allows .holding r ∧
        ∀ reply, busRules.after .holding r reply = .holding := by
      cases r with
      | device r =>
        cases r with
        | seize | release => exact h.1.elim
        | write | query => exact ⟨rfl, fun _ => rfl⟩
        | sleep | log => exact ⟨.inr rfl, fun _ => rfl⟩
      | _ => exact ⟨.inr rfl, fun _ => rfl⟩
    refine ⟨hallow.1, fun reply _ => ?_⟩
    rw [hallow.2]
    exact ih reply (h.2 reply)

/-- Work under one hold of the bus begins and ends away from it. -/
lemma obeys_holdingBus {w : RigWork α} (h : w.AsksOnly Request.UnderHold) :
    busRules.Obeys (fun _ g => g = .away) (holdingBus w) .away :=
  ⟨rfl, fun _ _ => (obeys_of_underHold h).bind fun _ _ hg => ⟨hg, fun _ _ => rfl⟩⟩

/-- Work that leaves the bus alone but for holds keeps to the rules. -/
lemma obeys_of_mannerly {w : RigWork α} (h : Mannerly w) :
    busRules.Obeys (fun _ g => g = .away) w .away := by
  induction h with
  | done a => exact rfl
  | aside hr _ ih =>
    refine ⟨(allows_of_offBus hr).2 (.inl rfl), fun reply _ => ?_⟩
    rw [after_of_offBus hr]
    exact ih reply
  | held hw _ ih =>
    refine (obeys_holdingBus hw).bind fun result g hg => ?_
    rw [hg]
    exact ih result

end Obeys

/-! ## What was said and sent -/

/-- What was sent: to which instrument, how, and the command. -/
abbrev Sent := String × Sending × String

/-- What was sent over the bus, in order. -/
def State.log (s : State) : List Sent :=
  s.traffic.reverse.map fun t => (t.id, t.sending, t.command)

/-- An exchange over the bus. -/
def bus? : Exchange RigSurroundings → Option (Exchange Surroundings)
  | ⟨.device .seize, reply⟩ => some ⟨.seize, reply⟩
  | ⟨.device .release, reply⟩ => some ⟨.release, reply⟩
  | ⟨.device (.write id command), reply⟩ => some ⟨.write id command, reply⟩
  | ⟨.device (.query id command), reply⟩ => some ⟨.query id command, reply⟩
  | _ => none

/-- What was said over the bus. -/
def overBus (told : List (Party × Exchange RigSurroundings)) :
    List (Party × Exchange Surroundings) :=
  told.filterMap fun x => (bus? x.2).map fun e => (x.1, e)

/-- What was sent in an exchange; nothing if the instrument is not attached. -/
def sent? : Exchange Surroundings → Option Sent
  | ⟨.write id command, some _⟩ => some (id, .write, command)
  | ⟨.query id command, some _⟩ => some (id, .query, command)
  | _ => none

/-- What was sent in exchanges over the bus. -/
def sentIn (said : List (Party × Exchange Surroundings)) : List Sent :=
  said.filterMap fun x => sent? x.2

/-- What was sent and is not answered yet. -/
def BusStanding.late : BusStanding → List Sent
  | sending id command how => [(id, how, command)]
  | _ => []

/-- One hold of the bus after the other, from who has it first to who has it last. -/
inductive InTurn : Option Party → List (Party × Exchange Surroundings) → Option Party → Prop where
  /-- Nothing is said. -/
  | still (who : Option Party) : InTurn who [] who
  /-- A party takes the bus. -/
  | seize {p : Party} {said : List (Party × Exchange Surroundings)} {who : Option Party}
    (h : InTurn (some p) said who) : InTurn none ((p, seized) :: said) who
  /-- It sends a command. -/
  | send {p : Party} {e : Exchange Surroundings} {said : List (Party × Exchange Surroundings)}
    {who : Option Party} (he : e.request.IsCommand) (h : InTurn (some p) said who) :
    InTurn (some p) ((p, e) :: said) who
  /-- It gives the bus back. -/
  | release {p : Party} {said : List (Party × Exchange Surroundings)} {who : Option Party}
    (h : InTurn none said who) : InTurn (some p) ((p, released) :: said) who

section InTurn

variable {p : Party} {e : Exchange Surroundings} {who who' who'' : Option Party}
  {said said' : List (Party × Exchange Surroundings)}

lemma InTurn.append (h : InTurn who said who') (h' : InTurn who' said' who'') :
    InTurn who (said ++ said') who'' := by
  induction h with
  | still => exact h'
  | seize _ ih => exact .seize (ih h')
  | send he _ ih => exact .send he (ih h')
  | release _ ih => exact .release (ih h')

lemma InTurn.of_append (h : InTurn who (said ++ said') who'') :
    ∃ who', InTurn who said who' ∧ InTurn who' said' who'' := by
  induction said generalizing who with
  | nil => exact ⟨who, .still who, h⟩
  | cons x said ih =>
    cases h with
    | seize h =>
      obtain ⟨who', h₁, h₂⟩ := ih h
      exact ⟨who', .seize h₁, h₂⟩
    | send he h =>
      obtain ⟨who', h₁, h₂⟩ := ih h
      exact ⟨who', .send he h₁, h₂⟩
    | release h =>
      obtain ⟨who', h₁, h₂⟩ := ih h
      exact ⟨who', .release h₁, h₂⟩

/-- What is said tells who has the bus. -/
lemma InTurn.unique (h : InTurn who said who') (h' : InTurn who said who'') : who' = who'' := by
  induction h with
  | still =>
    cases h'
    rfl
  | seize _ ih =>
    cases h' with
    | seize h' => exact ih h'
  | send he _ ih =>
    cases h' with
    | send _ h' => exact ih h'
    | release => exact he.elim
  | release _ ih =>
    cases h' with
    | send he => exact he.elim
    | release h' => exact ih h'

end InTurn

/-! ## What is left alone -/

/-- The bus and what is on it are the same, and nothing was sent. -/
structure SameBus (s t : State) : Prop where
  bus : t.bus = s.bus
  traffic : t.traffic = s.traffic
  attached : t.attached = s.attached

section SameBus

variable {s t u : State} {p : Party} {r : Control.Request}

lemma SameBus.refl (s : State) : SameBus s s := ⟨rfl, rfl, rfl⟩

lemma SameBus.trans (h : SameBus s t) (h' : SameBus t u) : SameBus s u :=
  ⟨h'.bus.trans h.bus, h'.traffic.trans h.traffic, h'.attached.trans h.attached⟩

lemma sameBus_wakeParty (s : State) (p : Option Party) : SameBus s (s.wakeParty p) := by
  unfold State.wakeParty
  split
  · split <;> exact ⟨rfl, rfl, rfl⟩
  · exact .refl s

lemma sameBus_enter (hr : r.OffBus) : SameBus s (s.enter p r).2 := by
  cases r with
  | device r => cases r <;> first | exact .refl s | exact hr.elim
  | _ => exact ⟨rfl, rfl, rfl⟩

/-- Whatever else is asked for, the bus is left alone. -/
lemma sameBus_of_answer? {alarm : Option Nat} {reply : r.Reply} (hr : r.OffBus)
    (h : s.answer? p alarm r = some (reply, t)) : SameBus s t := by
  cases r with
  | device r =>
    cases r with
    | sleep =>
      simp only [State.answer?, State.answerDevice?] at h
      split at h <;> cases h
      exact .refl s
    | log =>
      cases h
      exact ⟨rfl, rfl, rfl⟩
    | seize | release | write | query => exact hr.elim
  | create path =>
    have ht : (s.createFile path).2 = t := congrArg Prod.snd (Option.some.inj h)
    subst ht
    unfold State.createFile
    split
    · exact .refl s
    · split <;> exact ⟨rfl, rfl, rfl⟩
  | append file text =>
    have ht : (s.appendFile file text).2 = t := congrArg Prod.snd (Option.some.inj h)
    subst ht
    unfold State.appendFile
    split
    · exact .refl s
    · split <;> exact ⟨rfl, rfl, rfl⟩
  | leaveDesk =>
    cases h
    obtain ⟨hb, ht, ha⟩ := sameBus_wakeParty { s with desk := s.desk.leave } s.desk.leave.holder
    exact ⟨hb, ht, ha⟩
  | pause | join | tryDesk | takeDesk =>
    simp only [State.answer?] at h
    repeat' split at h
    all_goals cases h
    all_goals exact ⟨rfl, rfl, rfl⟩
  | _ =>
    cases h
    exact ⟨rfl, rfl, rfl⟩

end SameBus

/-! ## A place and its line -/

namespace Desk

/-- A place in order: whoever waits for it does so once and does not have it, and nobody waits as
long as it is free. -/
structure Proper (d : Desk) : Prop where
  /-- Nobody is in the line twice. -/
  nodup : d.line.Nodup
  /-- Whoever is in the line does not have it. -/
  waits : ∀ p ∈ d.line, d.holder ≠ some p
  /-- Nobody waits for a free place. -/
  free : d.holder = none → d.line = []

variable {d : Desk} {p q : Party}

lemma proper_free : free.Proper := ⟨List.nodup_nil, by simp [free], fun _ => rfl⟩

lemma holder_arrive_cases (h : (d.arrive p).holder = some q) : q = p ∨ d.holder = some q := by
  cases hd : d.holder with
  | none =>
    simp only [arrive, hd, Option.some.injEq] at h
    exact .inl h.symm
  | some holder => simpa [arrive, hd, or_comm] using Or.inl h

lemma mem_line_arrive (h : q ∈ (d.arrive p).line) : q = p ∨ q ∈ d.line := by
  cases hd : d.holder with
  | none =>
    simp only [arrive, hd] at h
    exact .inr h
  | some holder => simpa [arrive, hd, or_comm] using h

/-- Whoever has the place or waits for it does so when somebody else arrives. -/
lemma Proper.stays_arrive (h : d.Proper) (hq : d.holder = some q ∨ q ∈ d.line) :
    (d.arrive p).holder = some q ∨ q ∈ (d.arrive p).line := by
  rcases hq with hq | hq
  · exact .inl (holder_arrive hq p)
  · cases hd : d.holder with
    | none => simp [h.free hd] at hq
    | some holder => exact .inr (by simp [arrive, hd, hq])

lemma Proper.arrive (h : d.Proper) (hholder : d.holder ≠ some p) (hline : p ∉ d.line) :
    (d.arrive p).Proper := by
  cases hd : d.holder with
  | none => constructor <;> simp [Desk.arrive, hd, h.free hd]
  | some holder =>
    have hwaits := h.waits
    rw [hd] at hholder hwaits
    refine ⟨?_, fun q hq => ?_, ?_⟩
    · have hnodup := h.nodup
      simp only [Desk.arrive, hd]
      refine List.nodup_append.2 ⟨hnodup, by simp, fun a ha b hb => ?_⟩
      rw [List.mem_singleton.1 hb]
      rintro rfl
      exact hline ha
    · rcases mem_line_arrive hq with rfl | hq
      · simpa [Desk.arrive, hd] using hholder
      · simpa [Desk.arrive, hd] using hwaits q hq
    · simp [Desk.arrive, hd]

/-- Whoever has the place next has waited for it. -/
lemma mem_line_of_leave (h : d.leave.holder = some q ∨ q ∈ d.leave.line) : q ∈ d.line := by
  cases hl : d.line <;> simp_all [leave, eq_comm]

/-- Whoever waits for the place has it next or goes on waiting. -/
lemma stays_leave (h : q ∈ d.line) : d.leave.holder = some q ∨ q ∈ d.leave.line := by
  cases hl : d.line <;> simp_all [leave, eq_comm]

lemma Proper.leave (h : d.Proper) : d.leave.Proper := by
  have hnodup := h.nodup
  cases hl : d.line with
  | nil => constructor <;> simp [Desk.leave, hl]
  | cons next rest =>
    rw [hl] at hnodup
    obtain ⟨hnext, hrest⟩ := List.nodup_cons.1 hnodup
    refine ⟨by simpa [Desk.leave, hl] using hrest, fun q hq => ?_, by simp [Desk.leave, hl]⟩
    simp only [Desk.leave, hl] at hq ⊢
    rintro ⟨⟩
    exact hnext hq

end Desk

/-! ## The invariant -/

/-- Whoever has the bus or waits for it is where it should be, and what was sent are the commands of
the holds so far. -/
structure BusKept (first : List Sent) (s : State) (m : Memory BusStanding) : Prop where
  /-- Whoever has the bus is its holder. -/
  has : ∀ p, (m.mind p).Has → s.bus.holder = some p
  /-- Its holder has the bus, or may have it now. -/
  holder : ∀ p, s.bus.holder = some p → m.mind p ≠ .away
  /-- Whoever is in the line waits. -/
  line : ∀ p ∈ s.bus.line, m.mind p = .inLine
  /-- Whoever waits is in the line, or may have the bus now. -/
  inLine : ∀ p, m.mind p = .inLine → s.bus.holder = some p ∨ p ∈ s.bus.line
  /-- The line is in order. -/
  proper : s.bus.Proper
  /-- What a reply is expected from is attached. -/
  attached : ∀ p id command how, m.mind p = .sending id command how →
    (s.attached.lookup id).isSome
  /-- What was sent, and what is not answered yet. -/
  log : s.log = first ++ sentIn (overBus m.told) ++ s.bus.holder.elim [] fun p => (m.mind p).late
  /-- One hold after the other. -/
  turns : ∃ who, InTurn none (overBus m.told) who ∧ ∀ p, who = some p ↔ (m.mind p).Has

section BusKept

variable {first : List Sent} {s t : State} {m m' : Memory BusStanding} {p q : Party}
  {id command : String} {how : Sending} {e : Exchange Surroundings}

namespace BusKept

lemma log_eq (h : BusKept first s m) (hp : s.bus.holder = some p) :
    s.log = first ++ sentIn (overBus m.told) ++ (m.mind p).late := by
  rw [h.log, hp]
  rfl

/-- Whoever else has the bus is the holder. -/
lemma not_has_of_ne (h : BusKept first s m) (hp : s.bus.holder = some p) (hq : q ≠ p) :
    ¬(m.mind q).Has := by
  intro hhas
  rw [h.has q hhas] at hp
  cases hp
  exact hq rfl

/-- Whoever is away neither has the bus nor waits for it. -/
lemma not_mem_of_away (h : BusKept first s m) (haway : m.mind p = .away) :
    s.bus.holder ≠ some p ∧ p ∉ s.bus.line := by
  refine ⟨fun hp => h.holder p hp haway, fun hp => ?_⟩
  have hinLine := h.line p hp
  rw [haway] at hinLine
  cases hinLine

/-- Nothing happens on the bus. -/
lemma of_same (h : BusKept first s m) (hb : t.bus = s.bus) (ht : t.traffic = s.traffic)
    (ha : ∀ id, (t.attached.lookup id).isSome = (s.attached.lookup id).isSome)
    (hm : m'.mind = m.mind) (hsaid : overBus m'.told = overBus m.told) : BusKept first t m' where
  has := by rw [hm, hb]; exact h.has
  holder := by rw [hm, hb]; exact h.holder
  line := by rw [hm, hb]; exact h.line
  inLine := by rw [hm, hb]; exact h.inLine
  proper := by rw [hb]; exact h.proper
  attached p id command how hp := by
    rw [ha]
    rw [hm] at hp
    exact h.attached p id command how hp
  log := by
    rw [State.log, ht, hsaid, hm, hb]
    exact h.log
  turns := by rw [hm, hsaid]; exact h.turns

/-- The holder of the bus goes on with it. -/
lemma goes (h : BusKept first s m) (hp : s.bus.holder = some p) (hb : t.bus = s.bus)
    (ha : ∀ id, (t.attached.lookup id).isSome = (s.attached.lookup id).isSome)
    (hm : ∀ q, q ≠ p → m'.mind q = m.mind q) (hg : (m'.mind p).Has)
    (hattached : ∀ id command how, m'.mind p = .sending id command how →
      (s.attached.lookup id).isSome)
    (hlog : t.log = first ++ sentIn (overBus m'.told) ++ (m'.mind p).late)
    (hturns : InTurn none (overBus m'.told) (some p)) : BusKept first t m' := by
  have hne {q : Party} (hq : s.bus.holder = some q) : q = p := Option.some.inj (hq.symm.trans hp)
  refine ⟨fun q hq => ?_, fun q hq => ?_, fun q hq => ?_, fun q hq => ?_, hb ▸ h.proper,
    fun q id command how hq => ?_, ?_, some p, hturns, fun q => ?_⟩
  · rw [hb, hp]
    by_cases hqp : q = p
    · rw [hqp]
    · rw [hm q hqp] at hq
      exact absurd hq (h.not_has_of_ne hp hqp)
  · rw [hb] at hq
    rw [hne hq]
    intro haway
    rw [haway] at hg
    exact hg
  · rw [hb] at hq
    have hqp : q ≠ p := by
      rintro rfl
      exact h.proper.waits q hq hp
    rw [hm q hqp]
    exact h.line q hq
  · rw [hb]
    by_cases hqp : q = p
    · exact .inl (hqp ▸ hp)
    · rw [hm q hqp] at hq
      exact h.inLine q hq
  · rw [ha]
    by_cases hqp : q = p
    · rw [hqp] at hq
      exact hattached id command how hq
    · rw [hm q hqp] at hq
      exact h.attached q id command how hq
  · rw [hlog, hb, hp]
    rfl
  · by_cases hqp : q = p
    · rw [hqp]
      exact ⟨fun _ => hg, fun _ => rfl⟩
    · rw [hm q hqp]
      exact ⟨fun heq => absurd (Option.some.inj heq).symm hqp,
        fun hhas => absurd hhas (h.not_has_of_ne hp hqp)⟩

/-- A party comes for the bus. -/
lemma arrives (h : BusKept first s m) (haway : m.mind p = .away) :
    BusKept first { s with bus := s.bus.arrive p } (m.set p .inLine) := by
  obtain ⟨hholder, hline⟩ := h.not_mem_of_away haway
  have hmind {q : Party} (hq : q ≠ p) : (m.set p .inLine).mind q = m.mind q :=
    Memory.mind_set_of_ne hq
  have hhas (q : Party) : ((m.set p .inLine).mind q).Has ↔ (m.mind q).Has := by
    by_cases hq : q = p
    · rw [hq, Memory.mind_set_self, haway]
      exact Iff.rfl
    · rw [hmind hq]
  obtain ⟨who, hturns, hwho⟩ := h.turns
  refine ⟨fun q hq => Desk.holder_arrive (h.has q ((hhas q).1 hq)) p, fun q hq => ?_,
    fun q hq => ?_, fun q hq => ?_, h.proper.arrive hholder hline,
    fun q id command how hq => ?_, ?_, who, hturns, fun q => (hwho q).trans (hhas q).symm⟩
  · by_cases hqp : q = p
    · simp [hqp]
    · rw [hmind hqp]
      exact h.holder q ((Desk.holder_arrive_cases hq).resolve_left hqp)
  · by_cases hqp : q = p
    · simp [hqp]
    · rw [hmind hqp]
      exact h.line q ((Desk.mem_line_arrive hq).resolve_left hqp)
  · by_cases hqp : q = p
    · rw [hqp]
      exact Desk.holder_arrive_or_mem_line _ _
    · rw [hmind hqp] at hq
      exact h.proper.stays_arrive (h.inLine q hq)
  · have hqp : q ≠ p := by
      rintro rfl
      simp at hq
    rw [hmind hqp] at hq
    exact h.attached q id command how hq
  · refine h.log.trans ?_
    cases hd : s.bus.holder with
    | none => simp [Desk.arrive, hd, BusStanding.late]
    | some q =>
      have hqp : q ≠ p := by
        rintro rfl
        exact hholder hd
      simp [Desk.arrive, hd, hmind hqp]

/-- A party gives the bus back, and whoever is next in the line may have it. -/
lemma leaves (h : BusKept first s m) (hp : m.mind p = .holding) (hb : t.bus = s.bus.leave)
    (ht : t.traffic = s.traffic) (hm : m'.mind = (m.set p .away).mind)
    (hsaid : overBus m'.told = overBus m.told ++ [(p, released)]) : BusKept first t m' := by
  have hholder : s.bus.holder = some p := h.has p (by rw [hp]; trivial)
  have hmind {q : Party} (hq : q ≠ p) : m'.mind q = m.mind q := by
    rw [hm, Memory.mind_set_of_ne hq]
  have haway : m'.mind p = .away := by rw [hm, Memory.mind_set_self]
  have hhas (q : Party) : ¬(m'.mind q).Has := by
    by_cases hq : q = p
    · rw [hq, haway]
      exact id
    · rw [hmind hq]
      exact h.not_has_of_ne hholder hq
  have hnext {q : Party} (hq : t.bus.holder = some q ∨ q ∈ t.bus.line) : m'.mind q = .inLine := by
    rw [hb] at hq
    have hmem := Desk.mem_line_of_leave hq
    rw [hmind (by rintro rfl; exact h.proper.waits q hmem hholder), h.line q hmem]
  obtain ⟨who, hturns, hwho⟩ := h.turns
  obtain rfl : who = some p := (hwho p).2 (by rw [hp]; trivial)
  refine ⟨fun q hq => absurd hq (hhas q), fun q hq => ?_, fun q hq => hnext (.inr hq),
    fun q hq => ?_, hb ▸ h.proper.leave,
    fun q id command how hq => absurd (by rw [hq]; trivial) (hhas q), ?_, none, ?_,
    fun q => ⟨fun hq => ?_, fun hq => absurd hq (hhas q)⟩⟩
  · rw [hnext (.inl hq)]
    simp
  · have hqp : q ≠ p := by
      rintro rfl
      rw [haway] at hq
      cases hq
    rw [hmind hqp] at hq
    rw [hb]
    refine Desk.stays_leave ((h.inLine q hq).resolve_left fun heq => ?_)
    exact hqp (Option.some.inj (heq.symm.trans hholder))
  · have hlate : (t.bus.holder.elim [] fun q => (m'.mind q).late) = [] := by
      cases hd : t.bus.holder with
      | none => rfl
      | some q =>
        change (m'.mind q).late = []
        rw [hnext (.inl hd)]
        rfl
    rw [hlate, State.log, ht, hsaid, List.append_nil]
    refine (h.log_eq hholder).trans ?_
    simp [hp, BusStanding.late, sentIn, sent?, released]
  · rw [hsaid]
    exact hturns.append (.release (.still none))
  · cases hq

/-- Whoever has the bus has taken it last. -/
lemma turns_of_has (h : BusKept first s m) (hg : (m.mind p).Has) :
    InTurn none (overBus m.told) (some p) := by
  obtain ⟨who, hturns, hwho⟩ := h.turns
  rwa [(hwho p).2 hg] at hturns

/-- Whoever waited for the bus has it. -/
lemma seizes (h : BusKept first s m) (hg : m.mind p = .inLine) (hp : s.bus.holder = some p)
    (hm : ∀ q, q ≠ p → m'.mind q = m.mind q) (hg' : m'.mind p = .holding)
    (hsaid : overBus m'.told = overBus m.told ++ [(p, seized)]) : BusKept first s m' := by
  have hfree : ∀ q, ¬(m.mind q).Has := fun q => by
    by_cases hq : q = p
    · rw [hq, hg]
      exact id
    · exact h.not_has_of_ne hp hq
  obtain ⟨who, hturns, hwho⟩ := h.turns
  obtain rfl : who = none := Option.eq_none_iff_forall_ne_some.2 fun q hq => hfree q ((hwho q).1 hq)
  refine h.goes hp rfl (fun _ => rfl) hm (by rw [hg']; trivial) (fun id command how hs => ?_) ?_ ?_
  · rw [hg'] at hs
    cases hs
  · rw [h.log_eq hp, hg, hg', hsaid]
    simp [BusStanding.late, sentIn, sent?, seized]
  · rw [hsaid]
    exact hturns.append (.seize (.still _))

/-- Whoever has the bus sends a command. -/
lemma sends (h : BusKept first s m) (hg : m.mind p = .holding)
    (ha : (s.attached.lookup id).isSome) :
    BusKept first (s.send id command how).2 (m.set p (.sending id command how)) := by
  obtain ⟨a, ha'⟩ := Option.isSome_iff_exists.1 ha
  have hp : s.bus.holder = some p := h.has p (by rw [hg]; trivial)
  have hlog : (s.send id command how).2.log = s.log ++ [(id, how, command)] := by
    simp [State.log, State.send, ha']
  refine h.goes hp ?_ (fun id => ?_) (fun _ => Memory.mind_set_of_ne) ?_ ?_ ?_ ?_
  · rw [State.send, ha']
  · rw [State.send, ha']
  · rw [Memory.mind_set_self]
    trivial
  · intro id' command' how' hs
    cases Memory.mind_set_self.symm.trans hs
    exact ha
  · rw [hlog, h.log_eq hp, hg, Memory.mind_set_self]
    simp [BusStanding.late]
  · exact h.turns_of_has (by rw [hg]; trivial)

/-- Whoever has the bus has the reply to a command, if this was sent. -/
lemma hears (h : BusKept first s m) (hg : (m.mind p).Has) (hb : t.bus = s.bus)
    (ht : t.traffic = s.traffic)
    (ha : ∀ id, (t.attached.lookup id).isSome = (s.attached.lookup id).isSome)
    (hm : ∀ q, q ≠ p → m'.mind q = m.mind q) (hg' : m'.mind p = .holding)
    (hsaid : overBus m'.told = overBus m.told ++ [(p, e)]) (he : e.request.IsCommand)
    (hlate : (m.mind p).late = (sent? e).toList) : BusKept first t m' := by
  have hp := h.has p hg
  refine h.goes hp hb ha hm (by rw [hg']; trivial) (fun id command how hs => ?_) ?_ ?_
  · rw [hg'] at hs
    cases hs
  · have hlog : t.log = s.log := by rw [State.log, ht, State.log]
    rw [hlog, h.log_eq hp, hg', hsaid, hlate]
    cases hs : sent? e <;> simp [BusStanding.late, sentIn, hs]
  · rw [hsaid]
    exact (h.turns_of_has hg).append (.send he (.still _))

end BusKept

end BusKept

/-! ## Keeping to the rules -/

section Sound

variable {first : List Sent} {s t : State} {m m' : Memory BusStanding} {p : Party}
  {id command : String} {how : Sending} {r : Control.Request}

lemma bus?_of_offBus (hr : r.OffBus) (reply : r.Reply) : bus? ⟨r, reply⟩ = none := by
  cases r with
  | device r => cases r <;> first | rfl | exact hr.elim
  | _ => rfl

/-- The instrument that answers is attached as before. -/
lemma attached_receive (s : State) (id command : String) (expected : Bool) (k : String) :
    ((s.receive id command expected).2.attached.lookup k).isSome =
      (s.attached.lookup k).isSome := by
  unfold State.receive
  split
  · rename_i a ha
    rw [Bool.eq_iff_iff]
    simp only [List.lookup_isSome_iff, List.mem_map, beq_iff_eq]
    grind
  · rfl

/-- A reply comes that an instrument took its time for, or none was to be expected. -/
lemma receiveInTime_cases {alarm : Option Nat} {expected : Bool}
    {outcome : Transport.Answer → Except DeviceFault β} {reply : Option (Except DeviceFault β)}
    (h : s.receiveInTime alarm id command expected outcome = some (reply, t)) :
    (alarm = none ∧ reply = none ∧ t = s) ∨
      (alarm ≠ none ∧ reply.isSome = (s.attached.lookup id).isSome ∧ t.bus = s.bus ∧
        t.traffic = s.traffic ∧
        ∀ k, (t.attached.lookup k).isSome = (s.attached.lookup k).isSome) := by
  unfold State.receiveInTime at h
  cases alarm with
  | none =>
    cases h
    exact .inl ⟨rfl, rfl, rfl⟩
  | some moment =>
    dsimp only at h
    split at h
    · have hsame := attached_receive s id command expected
      cases h
      refine .inr ⟨by simp, ?_, ?_, ?_, hsame⟩
      all_goals
        cases ha : s.attached.lookup id <;> simp [State.receive, ha]
    · cases h

/-- Nothing is waited for if the instrument is not attached. -/
lemma alarm_send_ne_none_iff :
    (s.send id command how).1 ≠ none ↔ (s.attached.lookup id).isSome := by
  cases ha : s.attached.lookup id <;> simp [State.send, ha]

variable {expected : Bool} {alarm : Option Nat} {outcome : Transport.Answer → Except DeviceFault β}
  {reply : Option (Except DeviceFault β)} {e : Exchange Surroundings}

namespace BusKept

/-- The reply to a command has come. -/
lemma receives (h : BusKept first s m) (hg : m.mind p = .sending id command how)
    (halarm : alarm ≠ none)
    (ha : s.receiveInTime alarm id command expected outcome = some (reply, t))
    (hm : ∀ q, q ≠ p → m'.mind q = m.mind q) (hg' : m'.mind p = .holding)
    (hsaid : overBus m'.told = overBus m.told ++ [(p, e)]) (he : e.request.IsCommand)
    (hsent : sent? e = reply.map fun _ => (id, how, command)) : BusKept first t m' := by
  rcases receiveInTime_cases ha with ⟨hnone, -, -⟩ | ⟨-, hreply, hb, ht, hattached⟩
  · exact absurd hnone halarm
  · obtain ⟨outcome, rfl⟩ := Option.isSome_iff_exists.1 (hreply.trans (h.attached p _ _ _ hg))
    exact h.hears (by rw [hg]; trivial) hb ht hattached hm hg' hsaid he (by rw [hg, hsent]; rfl)

/-- A command is made, and what comes of it is there at once. -/
lemma communicates (h : BusKept first s m) (hg : m.mind p = .holding)
    (ha : (s.send id command how).2.receiveInTime (s.send id command how).1 id command expected
      outcome = some (reply, t))
    (hm : ∀ q, q ≠ p → m'.mind q = m.mind q) (hg' : m'.mind p = .holding)
    (hsaid : overBus m'.told = overBus m.told ++ [(p, e)]) (he : e.request.IsCommand)
    (hsent : sent? e = reply.map fun _ => (id, how, command)) : BusKept first t m' := by
  by_cases hattached : (s.attached.lookup id).isSome
  · refine (h.sends hg hattached).receives Memory.mind_set_self
      (alarm_send_ne_none_iff.2 hattached) ha (fun q hq => ?_) hg' hsaid he hsent
    rw [Memory.mind_set_of_ne hq]
    exact hm q hq
  · have hnone := Option.not_isSome_iff_eq_none.1 hattached
    simp only [State.send, hnone, State.receiveInTime, Option.some.injEq, Prod.mk.injEq] at ha
    obtain ⟨rfl, rfl⟩ := ha
    exact h.hears (by rw [hg]; trivial) rfl rfl (fun _ => rfl) hm hg' hsaid he
      (by rw [hg, hsent]; rfl)

/-- A command is sent, and its reply is waited for. -/
lemma awaits (h : BusKept first s m) (hg : m.mind p = .holding)
    (ha : (s.send id command how).2.receiveInTime (s.send id command how).1 id command expected
      outcome = none) :
    BusKept first (s.send id command how).2 (m.set p (.sending id command how)) := by
  have halarm : (s.send id command how).1 ≠ none := by
    intro hnone
    rw [hnone] at ha
    cases ha
  exact h.sends hg (alarm_send_ne_none_iff.1 halarm)

end BusKept

lemma overBus_tell (x : Exchange RigSurroundings) (told : List (Party × Exchange RigSurroundings)) :
    overBus (told ++ [(p, x)]) = overBus told ++ ((bus? x).map fun e => (p, e)).toList := by
  rw [overBus, List.filterMap_append]
  cases hx : bus? x <;> simp [overBus, hx]

/-- A request, and whether it is for the bus. -/
lemma offBus_or (r : Control.Request) : r.OffBus ∨ r = .device .seize ∨ r = .device .release ∨
    (∃ id command, r = .device (.write id command)) ∨
      ∃ id command, r = .device (.query id command) := by
  cases r with
  | device r => cases r <;> simp [Request.OffBus]
  | _ => exact .inl trivial

/-- Something else is asked for. -/
lemma BusKept.aside {reply : r.Reply} {count : Nat} {g : BusStanding} (h : BusKept first s m)
    (hr : r.OffBus) (hg : m.mind p = g) (hst : SameBus s t) :
    BusKept first t (m.reply busRules p g count r reply) := by
  refine h.of_same hst.bus hst.traffic (fun id => by rw [hst.attached]) ?_ ?_
  · rw [Memory.mind_reply, after_of_offBus hr, ← hg]
    exact Memory.mind_set_mind
  · rw [Memory.told_reply, overBus_tell, bus?_of_offBus hr]
    exact List.append_nil _

/-- Whoever waits for the reply to a command has an alarm. -/
lemma alarm_ne_none_of_began {r : Instrument.Request}
    (hr : r = .write id command ∨ r = .query id command) (h : Began p (.device r) alarm) :
    alarm ≠ none := by
  obtain ⟨s, -, ha⟩ := h
  rintro rfl
  rcases hr with rfl | rfl <;> cases ha

/-- What a party is told, it is told over the bus or not. -/
lemma overBus_reply {reply : r.Reply} {count : Nat} {g : BusStanding} :
    overBus (m.reply busRules p g count r reply).told =
      overBus m.told ++ ((bus? ⟨r, reply⟩).map fun e => (p, e)).toList := by
  rw [Memory.told_reply, overBus_tell]

/-- What is known of the bus stays so. -/
theorem sound_busRules : busRules.Sound (BusKept first) fun _ _ _ _ => True where
  answers {s t m p r reply} h hallow _ ha := by
    rcases offBus_or r with hr | rfl | rfl | ⟨id, command, rfl⟩ | ⟨id, command, rfl⟩
    · exact h.aside hr rfl ((sameBus_enter hr).trans (sameBus_of_answer? hr ha))
    · simp only [State.answer?, State.answerDevice?] at ha
      split at ha
      · rename_i hholder
        cases ha
        refine (h.arrives hallow).seizes Memory.mind_set_self hholder (fun q hq => ?_)
          Memory.mind_reply_self overBus_reply
        exact (Memory.mind_reply_of_ne hq).trans (Memory.mind_set_of_ne hq).symm
      · cases ha
    · have hsame := sameBus_wakeParty { s with bus := s.bus.leave } s.bus.leave.holder
      cases ha
      exact h.leaves hallow hsame.bus hsame.traffic Memory.mind_reply overBus_reply
    all_goals
      exact h.communicates hallow ha (fun _ => Memory.mind_reply_of_ne)
        (Memory.mind_reply_self.trans hallow) overBus_reply trivial (by cases reply <;> rfl)
  waits {s m p r} h hallow _ ha := by
    rcases offBus_or r with hr | rfl | rfl | ⟨id, command, rfl⟩ | ⟨id, command, rfl⟩
    · have hsame := sameBus_enter (s := s) (p := p) hr
      refine h.of_same hsame.bus hsame.traffic (fun id => by rw [hsame.attached]) ?_ rfl
      rw [entered_of_offBus hr, Memory.mind_set_mind]
    · exact h.arrives hallow
    · cases ha
    · exact h.awaits hallow ha
    · exact h.awaits hallow ha
  resumes {s t m p g r alarm reply} h hg hallow hbegan ha := by
    rcases offBus_or r with hr | rfl | rfl | ⟨id, command, rfl⟩ | ⟨id, command, rfl⟩
    · exact h.aside hr (hg.trans (entered_of_offBus hr)) (sameBus_of_answer? hr ha)
    · simp only [State.answer?, State.answerDevice?] at ha
      split at ha
      · rename_i hholder
        cases ha
        exact h.seizes hg hholder (fun _ => Memory.mind_reply_of_ne) Memory.mind_reply_self
          overBus_reply
      · cases ha
    · exact hbegan.mayWait.elim
    · exact h.receives hg (alarm_ne_none_of_began (.inl rfl) hbegan) ha
        (fun _ => Memory.mind_reply_of_ne) (Memory.mind_reply_self.trans hallow) overBus_reply
        trivial (by cases reply <;> rfl)
    · exact h.receives hg (alarm_ne_none_of_began (.inr rfl) hbegan) ha
        (fun _ => Memory.mind_reply_of_ne) (Memory.mind_reply_self.trans hallow) overBus_reply
        trivial (by cases reply <;> rfl)
  quiet {s t m} h hq := h.of_same hq.bus hq.traffic hq.attached rfl rfl

end Sound

end CryoRig.Rig
