import CryoRig.Proofs.BusRules
import CryoRig.Proofs.StopCourse

/-!
# Operations in blocks

As soon as everybody takes the bus before a command and gives it back afterwards, what a driver says
over the bus under one hold of it is one block of all that is said: nobody else says anything in
between, whoever else wants the bus, in whatever order they come for it and however long each reply
takes. After that the bus is free, or whoever has waited longest has it, no matter what came of the
operation.

## Main definitions

* `CryoRig.Rig.Scene.Ready`: everybody's work leaves the bus alone but for holds.
* `CryoRig.Rig.Scene.BusIdle`: the bus is free, or it is about to be taken by who has waited for it.
* `CryoRig.Rig.Scene.late`: what is sent and not answered yet.

## Main results

* `CryoRig.Rig.InTurn.exists_block`: work under one hold of the bus is one block of what is said.
* `CryoRig.Rig.Scene.Shift.operations_in_blocks`: so is every operation of a driver, and what it
  sends is one block of what is sent.
-/

namespace CryoRig.Rig

open Control Process Instrument

variable {α β : Type}

/-! ## One hold after the other -/

/-- What one party says. -/
def saidBy (p : Party) (es : List (Exchange Surroundings)) : List (Party × Exchange Surroundings) :=
  es.map fun e => (p, e)

section InTurn

variable {p : Party} {who who' : Option Party} {said : List (Party × Exchange Surroundings)}
  {sent more : List (Exchange Surroundings)}

/-- Whoever does not have the bus takes it before it says anything else. -/
lemma InTurn.at_seize (h : InTurn who said who') (hwho : who ≠ some p)
    (hp : toldTo p said = seized :: more) :
    ∃ before after, said = before ++ (p, seized) :: after ∧ toldTo p before = [] ∧
      InTurn (some p) after who' ∧ toldTo p after = more := by
  have hskip {q : Party} {who' : Option Party} {e : Exchange Surroundings}
      {rest : List (Party × Exchange Surroundings)} (hq : q ≠ p)
      (h : ∃ before after, rest = before ++ (p, seized) :: after ∧ toldTo p before = [] ∧
        InTurn (some p) after who' ∧ toldTo p after = more) :
      ∃ before after, (q, e) :: rest = before ++ (p, seized) :: after ∧ toldTo p before = [] ∧
        InTurn (some p) after who' ∧ toldTo p after = more := by
    obtain ⟨before, after, rfl, hbefore, hafter⟩ := h
    exact ⟨(q, e) :: before, after, rfl, by rw [toldTo_cons_of_ne hq, hbefore], hafter⟩
  induction h with
  | still => cases hp
  | @seize q rest who' h ih =>
    by_cases hq : q = p
    · subst hq
      rw [toldTo_cons_self] at hp
      exact ⟨[], rest, rfl, rfl, h, (List.cons.inj hp).2⟩
    · rw [toldTo_cons_of_ne hq] at hp
      exact hskip hq (ih (by simpa using hq) hp)
  | @send q e rest who' he h ih =>
    have hq : q ≠ p := by simpa using hwho
    rw [toldTo_cons_of_ne hq] at hp
    exact hskip hq (ih hwho hp)
  | @release q rest who' h ih =>
    have hq : q ≠ p := by simpa using hwho
    rw [toldTo_cons_of_ne hq] at hp
    exact hskip hq (ih (by simp) hp)

/-- Nobody else says anything as long as somebody has the bus and sends commands. -/
lemma InTurn.at_commands (h : InTurn (some p) said who') (hp : toldTo p said = sent ++ more)
    (hsent : ∀ e ∈ sent, e.request.IsCommand) :
    ∃ after, said = saidBy p sent ++ after ∧ InTurn (some p) after who' ∧
      toldTo p after = more := by
  induction sent generalizing said with
  | nil => exact ⟨said, rfl, h, hp⟩
  | cons e sent ih =>
    cases h with
    | still => cases hp
    | @send _ e' rest _ he h =>
      rw [toldTo_cons_self] at hp
      obtain ⟨rfl, hrest⟩ := List.cons.inj hp
      obtain ⟨after, rfl, hafter⟩ := ih h hrest fun x hx => hsent x (List.mem_cons_of_mem _ hx)
      exact ⟨after, rfl, hafter⟩
    | release h =>
      rw [toldTo_cons_self] at hp
      obtain ⟨rfl, -⟩ := List.cons.inj hp
      exact (hsent released List.mem_cons_self).elim

/-- Then it gives the bus back. -/
lemma InTurn.at_release (h : InTurn (some p) said who') (hp : toldTo p said = released :: more) :
    ∃ after, said = (p, released) :: after ∧ InTurn none after who' := by
  cases h with
  | still => cases hp
  | send he =>
    rw [toldTo_cons_self] at hp
    obtain ⟨rfl, -⟩ := List.cons.inj hp
    exact he.elim
  | release h => exact ⟨_, rfl, h⟩

/-- If it says nothing more, nobody does. -/
lemma InTurn.eq_nil (h : InTurn (some p) said who') (hp : toldTo p said = []) : said = [] := by
  cases h with
  | still => rfl
  | send | release => simp at hp

end InTurn

/-! ## What a driver says -/

section Undivided

variable {work : Driving β}

/-- Work under one hold of the bus is one block of what is said over it. -/
theorem InTurn.exists_block {p : Party} {who who' : Option Party}
    {said : List (Party × Exchange Surroundings)} (h : InTurn who said who')
    (hwho : who ≠ some p) (hwork : Undivided work)
    (hp : (∃ rest, work.run.Leads (toldTo p said) rest) ∨
      ∃ during more result, toldTo p said = during ++ more ∧ work.run.Ends during result) :
    ∃ before during after, said = before ++ saidBy p during ++ after ∧
      toldTo p before = [] ∧
      ((∃ result, work.run.Ends during result ∧ InTurn none after who') ∨
        (after = [] ∧ ∃ rest, work.run.Leads during rest)) := by
  have hwhole {during more : List (Exchange Surroundings)} {result : Except DeviceFault β}
      (hsaid : toldTo p said = during ++ more) (hend : work.run.Ends during result) :
      ∃ before after, said = before ++ saidBy p during ++ after ∧
        toldTo p before = [] ∧ InTurn none after who' := by
    obtain ⟨sent, rfl, hsent⟩ := hwork.eq_hold hend
    obtain ⟨before, said₁, rfl, hbefore, hsaid₁, hp₁⟩ := h.at_seize hwho hsaid
    change toldTo p said₁ = sent ++ [released] ++ more at hp₁
    rw [List.append_assoc] at hp₁
    obtain ⟨said₂, rfl, hsaid₂, hp₂⟩ := hsaid₁.at_commands hp₁ hsent
    obtain ⟨after, rfl, hafter⟩ := hsaid₂.at_release hp₂
    exact ⟨before, after, by simp [hold, saidBy], hbefore, hafter⟩
  rcases hp with ⟨rest, hl⟩ | ⟨during, more, result, hsaid, hend⟩
  · rcases hwork.leads_cases hl with hnil | ⟨sent, hsaid, hsent⟩ | ⟨result, hend⟩
    · refine ⟨said, [], [], by simp [saidBy], hnil, .inr ⟨rfl, rest, ?_⟩⟩
      rwa [hnil] at hl
    · obtain ⟨before, said₁, rfl, hbefore, hsaid₁, hp₁⟩ := h.at_seize hwho hsaid
      rw [← List.append_nil sent] at hp₁
      obtain ⟨said₂, rfl, hsaid₂, hp₂⟩ := hsaid₁.at_commands hp₁ hsent
      obtain rfl := hsaid₂.eq_nil hp₂
      refine ⟨before, seized :: sent, [], by simp [saidBy], hbefore, .inr ⟨rfl, rest, ?_⟩⟩
      rwa [hsaid] at hl
    · obtain ⟨before, after, hsaid, hbefore, hafter⟩ := hwhole (List.append_nil _).symm hend
      exact ⟨before, _, after, hsaid, hbefore, .inl ⟨result, hend, hafter⟩⟩
  · obtain ⟨before, after, hsaid, hbefore, hafter⟩ := hwhole hsaid hend
    exact ⟨before, during, after, hsaid, hbefore, .inl ⟨result, hend, hafter⟩⟩

end Undivided

/-! ## Who waits for what -/

/-- The request whose reply somebody waits for. -/
def Foreground.waitsFor? : Foreground β → Option Control.Request
  | .running _ => none
  | .waiting w => some w.request

/-- What is sent for a request. -/
def commandOf : Control.Request → List Sent
  | .device (.write id command) => [(id, .write, command)]
  | .device (.query id command) => [(id, .query, command)]
  | _ => []

section Standing

variable {p : Party} {g : BusStanding}

/-- Whoever does not wait for a reply does not wait for the bus or for what it has sent. -/
lemma away_or_holding_of_obeys {work : RigWork (p.Result α)}
    (h : busRules.Obeys (busRules.Ends p) work g) : g = .away ∨ g = .holding := by
  cases work with
  | done result =>
    refine .inl ?_
    cases p with
    | foreground => exact h
    | job n => cases result <;> exact h
  | ask r next =>
    rcases offBus_or r with hr | rfl | rfl | ⟨id, command, rfl⟩ | ⟨id, command, rfl⟩
    · exact (allows_of_offBus hr).1 h.1
    · exact .inl h.1
    · exact .inr h.1
    · exact .inr h.1
    · exact .inr h.1

/-- Whoever waits for a reply has in mind what it waits for. -/
lemma standing_of_waits {w : Waiting β} {Q : β → BusStanding → Prop} (h : busRules.Waits p Q w g) :
    (w.request.OffBus ∧ (g = .away ∨ g = .holding)) ∨ (w.request = .device .seize ∧ g = .inLine) ∨
      (∃ id command, w.request = .device (.write id command) ∧ g = .sending id command .write) ∨
      ∃ id command, w.request = .device (.query id command) ∧ g = .sending id command .query := by
  obtain ⟨r, next, alarm, rank⟩ := w
  obtain ⟨hbegan, g, rfl, hallow, -⟩ := h
  rcases offBus_or r with hr | rfl | rfl | ⟨id, command, rfl⟩ | ⟨id, command, rfl⟩
  · refine .inl ⟨hr, ?_⟩
    rw [entered_of_offBus hr]
    exact (allows_of_offBus hr).1 hallow
  · exact .inr (.inl ⟨rfl, rfl⟩)
  · exact hbegan.mayWait.elim
  · exact .inr (.inr (.inl ⟨id, command, rfl, rfl⟩))
  · exact .inr (.inr (.inr ⟨id, command, rfl, rfl⟩))

lemma commandOf_of_offBus {r : Control.Request} (hr : r.OffBus) : commandOf r = [] := by
  cases r with
  | device r => cases r <;> first | rfl | exact hr.elim
  | _ => rfl

lemma late_of_fares {x : Foreground (p.Result α)} (h : busRules.Fares p x g) :
    x.waitsFor?.elim [] commandOf = g.late := by
  cases x with
  | running work => rcases away_or_holding_of_obeys h with rfl | rfl <;> rfl
  | waiting w =>
    change commandOf w.request = g.late
    rcases standing_of_waits h with
      ⟨hr, rfl | rfl⟩ | ⟨hr, rfl⟩ | ⟨id, command, hr, rfl⟩ | ⟨id, command, hr, rfl⟩
    · exact commandOf_of_offBus hr
    · exact commandOf_of_offBus hr
    all_goals rw [hr]; rfl

lemma waitsFor?_eq_seize_iff {x : Foreground (p.Result α)} (h : busRules.Fares p x g) :
    x.waitsFor? = some (.device .seize) ↔ g = .inLine := by
  cases x with
  | running work => rcases away_or_holding_of_obeys h with rfl | rfl <;> simp [Foreground.waitsFor?]
  | waiting w =>
    rw [Foreground.waitsFor?, Option.some.injEq]
    rcases standing_of_waits h with
      ⟨hr, rfl | rfl⟩ | ⟨hr, rfl⟩ | ⟨id, command, hr, rfl⟩ | ⟨id, command, hr, rfl⟩
    · simpa using fun h : w.request = .device .seize => by rw [h] at hr; exact hr
    · simpa using fun h : w.request = .device .seize => by rw [h] at hr; exact hr
    all_goals simp [hr]

end Standing

/-! ## Scenes -/

namespace Scene

/-- Everybody is about to do work that leaves the bus alone but for holds, and nobody has it yet. -/
structure Ready (c : Scene α) : Prop where
  /-- The bus is free. -/
  bus : c.state.bus = .free
  /-- Whoever is at something does such work. -/
  works : ∀ p x, c.at? p = some x → ∃ work, x = .running work ∧ Mannerly work

/-- What is sent and not answered yet. -/
def late (c : Scene α) : List Sent :=
  c.state.bus.holder.elim [] fun p => ((c.at? p).bind Foreground.waitsFor?).elim [] commandOf

/-- The bus is free, or the party whose turn it is waits for it and can go on. -/
def BusIdle (c : Scene α) : Prop :=
  c.state.bus = .free ∨ ∃ p w, c.state.bus.holder = some p ∧ c.at? p = some (.waiting w) ∧
    w.request = .device .seize ∧ (resume? c.state p w).isSome

/-- So is everybody who is about to make calls of a session, on whatever site. -/
theorem ready_of_opening {c : Scene α} {s : Station} {session : SessionSettings}
    (h : Opening s.site session c) (hbus : c.state.bus = .free) : c.Ready where
  bus := hbus
  works p x hx := by
    cases p with
    | foreground =>
      obtain ⟨client, hf⟩ := h.foreground
      rw [at?, hf] at hx
      cases hx
      exact ⟨_, rfl, mannerly_calls s.mannerly client⟩
    | job n =>
      obtain ⟨client, ending, hj⟩ := h.jobs n _ (at?_job_iff.1 hx)
      cases x with
      | running =>
        cases hj
        exact ⟨_, rfl, (mannerly_calls s.mannerly client).bind fun _ => .done _⟩
      | waiting => cases hj

section Orderly

variable {c d e : Scene α} {first : List Sent} {m : Memory BusStanding} {p : Party}
  {told : List (Party × Exchange RigSurroundings)}

lemma Ready.orderly (h : c.Ready) :
    c.Orderly busRules (BusKept c.state.log) ⟨fun _ => .away, fun _ => none, []⟩ where
  inv := by
    refine ⟨fun _ hp => hp.elim, fun p hp => ?_, fun p hp => ?_, fun _ hp => ?_,
      h.bus ▸ Desk.proper_free, fun _ _ _ _ hp => ?_, ?_, none, .still none, fun p => ?_⟩
    all_goals simp_all [h.bus, Desk.free, BusStanding.late, sentIn, overBus, BusStanding.Has]
  fares p x hx := by
    obtain ⟨work, rfl, hwork⟩ := h.works p x hx
    refine (obeys_of_mannerly hwork).mono fun result g hg => ?_
    cases p with
    | foreground => exact hg
    | job n => cases result <;> exact hg
  rests _ _ := rfl
  idle _ _ := rfl
  started _ _ := rfl

/-- Whatever happens on a site, everybody keeps to the rules. -/
lemma Orderly.shift (s : Station) (h : c.Orderly busRules (BusKept first) m)
    (hd : Shift s.site c told d) :
    ∃ m', d.Orderly busRules (BusKept first) m' ∧ m'.told = m.told ++ told := by
  have hsite (job : Job) : busRules.Obeys busRules.TurnEnds (turnOf s.site job) busRules.idle := by
    refine (obeys_of_mannerly (mannerly_turnOf s.mannerly job)).mono fun turn g hg => ?_
    cases turn <;> exact hg
  induction hd with
  | start => exact ⟨m, h, (List.append_nil _).symm⟩
  | more _ hd ih =>
    obtain ⟨m₁, h₁, htold₁⟩ := ih
    obtain ⟨m₂, h₂, htold₂, -⟩ := h₁.happens sound_busRules hsite (fun _ _ _ => trivial) hd
    exact ⟨m₂, h₂, by rw [htold₂, htold₁, List.append_assoc]⟩

lemma Orderly.late_eq (h : c.Orderly busRules (BusKept first) m) :
    c.late = c.state.bus.holder.elim [] fun p => (m.mind p).late := by
  unfold late
  cases c.state.bus.holder with
  | none => rfl
  | some p =>
    change ((c.at? p).bind Foreground.waitsFor?).elim [] commandOf = (m.mind p).late
    cases hx : c.at? p with
    | none =>
      have hrest : m.mind p = .away := h.rests p hx
      rw [hrest]
      rfl
    | some x => exact late_of_fares (h.fares p x hx)

lemma Orderly.log_eq (h : c.Orderly busRules (BusKept first) m) :
    c.state.log = first ++ sentIn (overBus m.told) ++ c.late := by
  rw [h.late_eq]
  exact h.inv.log

/-- Whoever waits for the bus has it next or is in the line. -/
lemma Orderly.has_or_mem_line (h : c.Orderly busRules (BusKept first) m)
    {x : Foreground (p.Result α)} (hx : c.at? p = some x)
    (hseize : x.waitsFor? = some (.device .seize)) :
    c.state.bus.holder = some p ∨ p ∈ c.state.bus.line :=
  h.inv.inLine p ((waitsFor?_eq_seize_iff (h.fares p x hx)).1 hseize)

/-- Whoever is about to do something under a hold of the bus does not have it. -/
lemma Orderly.away_of_undivided (h : c.Orderly busRules (BusKept first) m) {work : Driving β}
    {f : Except DeviceFault β → RigWork (p.Result α)} (hwork : Undivided work)
    (hp : c.at? p = some (.running (drive work >>= f))) : m.mind p = .away := by
  obtain ⟨body, rfl, -⟩ := hwork
  exact (h.fares p _ hp).1

/-- When nobody has the bus it is free or about to be taken. -/
lemma Orderly.busIdle (h : c.Orderly busRules (BusKept first) m) (hfree : ∀ p, ¬(m.mind p).Has) :
    c.BusIdle := by
  cases hp : c.state.bus.holder with
  | none =>
    refine .inl ?_
    have hline := h.inv.proper.free hp
    generalize c.state.bus = bus at hp hline
    obtain ⟨holder, line⟩ := bus
    cases hp
    cases hline
    rfl
  | some p =>
    have hinLine : m.mind p = .inLine := by
      have haway := h.inv.holder p hp
      have hhas := hfree p
      cases hg : m.mind p with
      | inLine => rfl
      | away => exact absurd hg haway
      | holding | sending =>
        rw [hg] at hhas
        exact absurd trivial hhas
    cases hx : c.at? p with
    | none =>
      have hrest : m.mind p = .away := h.rests p hx
      exact absurd hrest (h.inv.holder p hp)
    | some x =>
      have hseize := (waitsFor?_eq_seize_iff (h.fares p x hx)).2 hinLine
      cases x with
      | running => cases hseize
      | waiting w =>
        obtain ⟨r, next, alarm, rank⟩ := w
        obtain rfl : r = .device .seize := Option.some.inj hseize
        have hreply : c.state.answer? p alarm (.device .seize) = some ((), c.state) := if_pos hp
        exact .inr ⟨p, _, hp, hx, rfl, by rw [resume?, hreply]; rfl⟩

end Orderly

end Scene

/-! ## The part of an operation -/

section Path

variable {p : Party} {told : List (Party × Exchange RigSurroundings)} {work : Driving β}
  {q : Process Surroundings β} {w : RigWork β} {es : List (Exchange RigSurroundings)} {b : β}

lemma toldTo_overBus : toldTo p (overBus told) = (toldTo p told).filterMap bus? := by
  induction told with
  | nil => rfl
  | cons x told ih =>
    obtain ⟨q, x⟩ := x
    by_cases hq : q = p
    · subst hq
      rw [toldTo_cons_self, overBus, List.filterMap_cons, List.filterMap_cons, ← ih]
      cases hx : bus? x with
      | none => rfl
      | some e => exact toldTo_cons_self
    · rw [toldTo_cons_of_ne hq, ← ih, overBus, List.filterMap_cons]
      cases hx : bus? x with
      | none => rfl
      | some e => exact toldTo_cons_of_ne hq

lemma overBus_append {told' : List (Party × Exchange RigSurroundings)} :
    overBus (told ++ told') = overBus told ++ overBus told' := List.filterMap_append

lemma sentIn_append {said said' : List (Party × Exchange Surroundings)} :
    sentIn (said ++ said') = sentIn said ++ sentIn said' := List.filterMap_append

lemma sentIn_saidBy {es : List (Exchange Surroundings)} :
    sentIn (saidBy p es) = es.filterMap sent? := List.filterMap_map

/-- A request over the bus. -/
def OverBus (r : Instrument.Request) : Prop :=
  ∀ reply, bus? ⟨.device r, reply⟩ = some ⟨r, reply⟩

lemma overBus_of_undivided (h : Undivided work) : work.run.AsksOnly OverBus := by
  obtain ⟨body, rfl, hbody⟩ := h
  refine ⟨fun _ => rfl, fun _ => (hbody.mono fun r hr => ?_).bind fun _ => ?_⟩
  · cases r with
    | write | query => exact fun _ => rfl
    | seize | release | sleep | log => exact hr.elim
  · exact ⟨fun _ => rfl, fun _ => trivial⟩

/-- What a driver is told, it is told over the bus. -/
lemma leads_of_translate (hq : q.AsksOnly OverBus) (h : (q.translate ofDriver).Leads es w) :
    ∃ rest, q.Leads (es.filterMap bus?) rest ∧ w = rest.translate ofDriver := by
  induction q generalizing es with
  | done b =>
    obtain ⟨rfl, rfl⟩ := leads_done_iff.1 h
    exact ⟨.done b, .refl _, rfl⟩
  | ask r next ih =>
    rcases leads_ask_iff.1 h with ⟨rfl, rfl⟩ | ⟨reply, es, rfl, hnext⟩
    · exact ⟨.ask r next, .refl _, rfl⟩
    · obtain ⟨rest, hl, rfl⟩ := ih reply (hq.2 reply) hnext
      refine ⟨rest, ?_, rfl⟩
      rw [List.filterMap_cons_some (hq.1 reply)]
      exact .step hl

lemma ends_of_translate (hq : q.AsksOnly OverBus) (h : (q.translate ofDriver).Ends es b) :
    q.Ends (es.filterMap bus?) b := by
  obtain ⟨rest, hl, hrest⟩ := leads_of_translate hq h
  cases rest with
  | done b' =>
    cases hrest
    exact hl
  | ask => cases hrest

end Path

namespace Scene

variable {c d e : Scene α} {p : Party} {told told' : List (Party × Exchange RigSurroundings)}
  {site : Site RigSurroundings}

/-- Work under one hold of the bus goes down its path over the bus, as far as it has come. -/
lemma Shift.path_of_undivided {work : Driving β}
    {f : Except DeviceFault β → RigWork (p.Result α)} (h : Shift site c told d)
    (hwork : Undivided work) (hp : c.at? p = some (.running (drive work >>= f))) :
    (∃ rest, work.run.Leads (toldTo p (overBus told)) rest) ∨
      ∃ during more result, toldTo p (overBus told) = during ++ more ∧
        work.run.Ends during result := by
  have hbus := overBus_of_undivided hwork
  rw [toldTo_overBus]
  rcases h.leads hp with ⟨y, -, hl⟩ | ⟨es, es', a, hes, hend⟩
  · rcases leads_bind_cases hl with ⟨w, hl, -⟩ | ⟨es₁, es₂, result, hes, hend, -⟩
    · obtain ⟨rest, hl, -⟩ := leads_of_translate hbus hl
      exact .inl ⟨rest, hl⟩
    · refine .inr ⟨_, es₂.filterMap bus?, result, ?_, ends_of_translate hbus hend⟩
      rw [hes, List.filterMap_append]
  · obtain ⟨es₁, es₂, result, rfl, hend, -⟩ := ends_bind_iff.1 hend
    refine .inr ⟨_, (es₂ ++ es').filterMap bus?, result, ?_, ends_of_translate hbus hend⟩
    rw [hes, List.append_assoc, List.filterMap_append]

/-- Every operation of a driver is one block of what is said over the bus, and what it sends is one
block of what is sent: nobody else comes in between, however the parties take turns and whatever
the replies are. It has sent all its commands when it is done, and the bus is free again.

**Proof sketch.** What is said over the bus is one hold after the other, since everybody keeps to
its rules (`sound_busRules`). Whoever is about to do an operation does not have the bus, so its path
begins where it takes it, and nobody else says anything until it has given it back
(`InTurn.exists_block`). What it says in between is a path of the operation, and of those it is
known which commands they send (`Operation.sends_of_ends`). -/
theorem Shift.operations_in_blocks (s : Station) (hc : c.Ready) (h : Shift s.site c told d) :
    d.state.log = c.state.log ++ sentIn (overBus told) ++ d.late ∧
    (∃ who, InTurn none (overBus told) who ∧ (∀ p, who = some p → d.state.bus.holder = some p) ∧
      (who = none → d.BusIdle)) ∧
    (∀ p x, d.at? p = some x → x.waitsFor? = some (.device .seize) →
      d.state.bus.holder = some p ∨ p ∈ d.state.bus.line) ∧
    ∀ (p : Party) (o : Operation) (f : Except DeviceFault o.Result → RigWork (p.Result α))
      (told' : List (Party × Exchange RigSurroundings)) (e : Scene α),
      d.at? p = some (.running (drive o.work >>= f)) → Shift s.site d told' e →
      ∃ before during after,
        overBus told' = before ++ saidBy p during ++ after ∧
        e.state.log = c.state.log ++ sentIn (overBus told ++ before) ++ during.filterMap sent? ++
          (sentIn after ++ e.late) ∧
        toldTo p before = [] ∧
        ((∃ sent result, during = hold sent ∧ o.work.run.Ends during result ∧
            o.Sends sent result ∧ (after = [] → e.BusIdle)) ∨
          (after = [] ∧ ∃ rest, o.work.run.Leads during rest)) := by
  obtain ⟨m, hd, htold⟩ := hc.orderly.shift s h
  obtain rfl : m.told = told := htold
  obtain ⟨who, hturns, hwho⟩ := hd.inv.turns
  refine ⟨hd.log_eq, ⟨who, hturns, fun p hp => hd.inv.has p ((hwho p).1 hp), ?_⟩,
    fun p x hx hseize => hd.has_or_mem_line hx hseize, fun p o f told' e hp h' => ?_⟩
  · rintro rfl
    exact hd.busIdle fun p hp => by cases (hwho p).2 hp
  obtain ⟨m', he, htold'⟩ := hd.shift s h'
  obtain ⟨who', hturns', hwho'⟩ := he.inv.turns
  rw [htold', overBus_append] at hturns'
  obtain ⟨who₁, h₁, hturns₁⟩ := hturns'.of_append
  obtain rfl := h₁.unique hturns
  -- whoever is about to do it does not have the bus, so that its path begins where it takes it
  have hne : who₁ ≠ some p := fun hsome => by
    have hhas := (hwho p).1 hsome
    rw [hd.away_of_undivided o.undivided hp] at hhas
    exact hhas
  obtain ⟨before, during, after, hsaid, hbefore, hpart⟩ :=
    hturns₁.exists_block hne o.undivided (h'.path_of_undivided o.undivided hp)
  refine ⟨before, during, after, hsaid, ?_, hbefore, ?_⟩
  · rw [he.log_eq, htold', overBus_append, hsaid]
    simp only [sentIn_append, sentIn_saidBy, List.append_assoc]
  · rcases hpart with ⟨result, hend, hafter⟩ | hpart
    · obtain ⟨sent, hsent, hsends⟩ := Operation.sends_of_ends hend
      refine .inl ⟨sent, result, hsent, hend, hsends, ?_⟩
      rintro rfl
      obtain rfl := hafter.unique (.still none)
      exact he.busIdle fun p hp => by cases (hwho' p).2 hp
    · exact .inr hpart

/-- What a rig does by itself is such a shift. -/
lemma shift_follow (site : Site RigSurroundings) (c : Scene α) (n : Nat) :
    ∃ told, Shift site c told (c.follow site n) := by
  induction n generalizing c with
  | zero => exact ⟨[], .start⟩
  | succ n ih =>
    rw [follow]
    cases hstep : c.step site with
    | more d =>
      obtain ⟨told, h⟩ := shift_of_step hstep
      obtain ⟨told', h'⟩ := ih d
      exact ⟨told ++ told', h.trans h'⟩
    | done | stuck => exact ⟨[], .start⟩

end Scene

/-- A magnet is about to be ramped, and a job is about to switch a gate on. -/
def contending : Scene Unit where
  state := { State.initial ⟨2024, 1, 1, 0, 0⟩ with
    jobs := #[.running (drive (Operation.write "gate" "OUTP ON").work >>= fun _ =>
      .done (.over .acquisition))]
    ready := [0]
    attached := [("magnet", ⟨5, [], .nothing⟩), ("gate", ⟨5, [], .nothing⟩)] }
  foreground := .running (drive (Operation.setTarget "magnet" 1 0.1).work >>= fun _ =>
    .ask (.join 0 none) fun _ => .done ())
  current := none
  fresh := false

lemma ready_contending : contending.Ready where
  bus := rfl
  works p x hx := by
    cases p with
    | foreground =>
      cases hx
      exact ⟨_, rfl, (mannerly_operation _).bind fun _ => .aside trivial fun _ => .done _⟩
    | job n =>
      cases n with
      | zero =>
        cases hx
        exact ⟨_, rfl, (mannerly_operation _).bind fun _ => .done _⟩
      | succ n => cases hx

/-- The job comes for the bus while the rate of the ramp is set, and has it when the target is. -/
theorem operations_in_blocks_contending :
    contending.Ready ∧ ∃ told,
      Scene.Shift Station.bench.site contending told (contending.follow Station.bench.site 16) ∧
      ((contending.follow Station.bench.site 5).state.bus = ⟨some .foreground, [.job 0]⟩ ∧
      (contending.follow Station.bench.site 16).state.log.map Prod.fst =
        ["magnet", "magnet", "gate"]) ∧
      ∃ before during after,
        overBus told = before ++ saidBy .foreground during ++ after ∧
        toldTo .foreground before = [] ∧
        (contending.follow Station.bench.site 16).state.log = sentIn before ++
          during.filterMap sent? ++
          (sentIn after ++ (contending.follow Station.bench.site 16).late) := by
  obtain ⟨told, h⟩ := Scene.shift_follow Station.bench.site contending 16
  obtain ⟨-, -, -, hblocks⟩ := Scene.Shift.operations_in_blocks .bench ready_contending .start
  obtain ⟨before, during, after, hsaid, hlog, hbefore, -⟩ :=
    hblocks .foreground (.setTarget "magnet" 1 0.1) _ told _ rfl h
  exact ⟨ready_contending, told, h, by decide +kernel, before, during, after, hsaid, hbefore, hlog⟩

end CryoRig.Rig
