import CryoRig.Proofs.BusBlocks
import CryoRig.Proofs.SweepFiles

/-!
# Waiting for the bus

Who comes for the bus while somebody has it joins the end of the line, and the bus goes to whoever
has waited longest. So until a party has the bus, nothing is said over it but by those who were
there before it.

## Main definitions

* `CryoRig.Rig.Desk.Queued`: a party waits for a place, and only certain others are before it.
* `CryoRig.Rig.BusCourse`: scenes in which everybody takes the bus before a command.

## Main results

* `CryoRig.Rig.BusCourse.held`: as long as a party has the bus nobody else says anything.
* `CryoRig.Rig.BusCourse.served_in_line`: until a party has the bus that it has come for, whatever
  is said over it is said by those who were there before.
-/

namespace CryoRig.Rig

open Control Process Instrument

variable {α : Type}

/-! ## Paths -/

section Paths

variable {I : Interface} {β γ : Type} {p q q' : Process I β} {es : List (Exchange I)}

/-- The same replies lead to the same work. -/
lemma leads_unique (h : p.Leads es q) (h' : p.Leads es q') : q' = q := by
  induction h with
  | refl => exact eq_of_leads_nil h'
  | step _ ih =>
    cases h' with
    | step h' => exact ih h'

lemma leads_bind (h : p.Leads es q) (f : β → Process I γ) :
    (p >>= f).Leads es (q >>= f) := by
  induction h with
  | refl => exact .refl _
  | step _ ih => exact .step ih

end Paths

/-! ## A line -/

namespace Desk

/-- Who has the place, and who waits for it. -/
def present (d : Desk) : List Party := d.holder.toList ++ d.line

/-- After the place was given back, those who waited for it are there. -/
@[simp] lemma present_leave (d : Desk) : d.leave.present = d.line := by
  cases h : d.line <;> simp [present, leave, h]

/-- A party waits for the place. Who has the place and who waits before the party are among
certain ones. -/
structure Queued (d : Desk) (before : List Party) (p : Party) : Prop where
  /-- Who has it. -/
  holder : ∃ q ∈ before, d.holder = some q
  /-- Who waits. -/
  line : ∃ ahead behind, d.line = ahead ++ p :: behind ∧ ∀ q ∈ ahead, q ∈ before

variable {d : Desk} {before : List Party} {p : Party}

/-- Who comes for a place that somebody has is behind those who are there. -/
lemma queued_arrive {q : Party} (h : d.holder = some q) : (d.arrive p).Queued d.present p where
  holder := ⟨q, by simp [present, h], holder_arrive h p⟩
  line := ⟨d.line, [], by simp [arrive, h], fun r hr => by simp [present, hr]⟩

/-- Whoever comes later is behind. -/
lemma Queued.arrive (h : d.Queued before p) (q : Party) : (d.arrive q).Queued before p := by
  obtain ⟨⟨r, hr, hholder⟩, ahead, behind, hline, hahead⟩ := h
  refine ⟨⟨r, hr, holder_arrive hholder q⟩, ahead, behind ++ [q], ?_, hahead⟩
  simp [Desk.arrive, hholder, hline]

/-- When the place is given back, the party has it or somebody who was before. -/
lemma Queued.leave (h : d.Queued before p) :
    d.leave.holder = some p ∨ d.leave.Queued before p := by
  obtain ⟨-, ahead, behind, hline, hahead⟩ := h
  cases ahead with
  | nil => exact .inl (by simp [Desk.leave, hline])
  | cons q ahead =>
    refine .inr ⟨⟨q, hahead q List.mem_cons_self, by simp [Desk.leave, hline]⟩, ahead, behind, ?_,
      fun r hr => hahead r (List.mem_cons_of_mem q hr)⟩
    simp [Desk.leave, hline]

end Desk

/-! ## What becomes of the bus in a step -/

section Steps

variable {s t : State} {p : Party} {r : Control.Request} {site : Site RigSurroundings}
  {c d : Scene α} {asked : Option (Party × Control.Request)}
  {reply? : Option (Party × Exchange RigSurroundings)}

/-- Only who asks for the bus comes for it. -/
lemma bus_enter (s : State) (p : Party) (r : Control.Request) :
    (s.enter p r).2.bus = s.bus ∨
      r = .device .seize ∧ (s.enter p r).2.bus = s.bus.arrive p := by
  rcases offBus_or r with hr | rfl | rfl | ⟨id, command, rfl⟩ | ⟨id, command, rfl⟩
  · exact .inl (sameBus_enter hr).bus
  · exact .inr ⟨rfl, rfl⟩
  · exact .inl rfl
  all_goals
    refine .inl ?_
    change (s.send id command _).2.bus = s.bus
    unfold State.send
    split <;> rfl

/-- When the bus is given back, whoever is next in the line has it. -/
lemma bus_of_release {alarm : Option Nat} {reply : (Request.device .release).Reply}
    (h : s.answer? p alarm (.device .release) = some (reply, t)) : t.bus = s.bus.leave := by
  cases h
  exact (sameBus_wakeParty _ _).bus

/-- Only who gives the bus back leaves it. -/
lemma bus_of_answer? {alarm : Option Nat} {reply : r.Reply}
    (h : s.answer? p alarm r = some (reply, t)) :
    t.bus = s.bus ∨ r = .device .release ∧ t.bus = s.bus.leave := by
  rcases offBus_or r with hr | rfl | rfl | ⟨id, command, rfl⟩ | ⟨id, command, rfl⟩
  · exact .inl (sameBus_of_answer? hr h).bus
  · simp only [State.answer?, State.answerDevice?] at h
    split at h <;> cases h
    exact .inl rfl
  · exact .inr ⟨rfl, bus_of_release h⟩
  all_goals
    rcases receiveInTime_cases h with ⟨-, -, rfl⟩ | ⟨-, -, hb, -⟩
    · exact .inl rfl
    · exact .inl hb

namespace Scene

lemma bus_put (c : Scene α) (p : Party) (x : Foreground (p.Result α)) :
    (c.put p x).state.bus = c.state.bus := by
  rw [state_put]

/-- In a step the bus stays where it is, or somebody comes for it, or it is given back. -/
lemma Proceeds.bus_cases (h : Proceeds site c asked reply? d) :
    d.state.bus = c.state.bus ∨
    (∃ q, asked = some (q, .device .seize) ∧ d.state.bus = c.state.bus.arrive q) ∨
    ∃ q reply, reply? = some (q, ⟨.device .release, reply⟩) ∧
      d.state.bus = c.state.bus.leave := by
  cases h with
  | @answer p r next reply t hr hp ha =>
    rw [bus_put]
    rcases bus_enter c.state p r with hb | ⟨rfl, hb⟩
    · rcases bus_of_answer? ha with ht | ⟨rfl, ht⟩
      · exact .inl (ht.trans hb)
      · exact .inr (.inr ⟨p, reply, rfl, by rw [← hb]; exact ht⟩)
    · rcases bus_of_answer? ha with ht | ⟨hne, -⟩
      · exact .inr (.inl ⟨p, rfl, ht.trans hb⟩)
      · cases hne
  | @wait p r next current hr hp ha hn =>
    rw [bus_put]
    rcases bus_enter c.state p r with hb | ⟨rfl, hb⟩
    · exact .inl hb
    · exact .inr (.inl ⟨p, rfl, hb⟩)
  | @resume p w reply t ready current hr hp ha hn =>
    rw [bus_put]
    obtain ⟨request, next, alarm, rank⟩ := w
    rcases bus_of_answer? ha with ht | ⟨hrelease, ht⟩
    · exact .inl ht
    · dsimp only at hrelease
      subst hrelease
      exact .inr (.inr ⟨p, reply, rfl, ht⟩)
  | turn =>
    rw [bus_put]
    exact .inl rfl
  | take | finish => exact .inl rfl
  | idle hr hs =>
    refine .inl ?_
    rw [hs]

/-- Whoever gives the bus back has given it to the next one. -/
lemma Hears.bus_eq_leave {c : Nat → Scene α} {n : Nat} {reply : (Request.device .release).Reply}
    (h : Hears site c n p ⟨.device .release, reply⟩) :
    (c (n + 1)).state.bus = (c n).state.bus.leave := by
  obtain ⟨-, asked, hproc⟩ := h
  generalize hx : some (p, (⟨.device .release, reply⟩ : Exchange RigSurroundings)) = reply? at hproc
  generalize c (n + 1) = d at hproc ⊢
  cases hproc with
  | answer _ _ ha =>
    cases hx
    have ht := bus_of_release ha
    rw [bus_put]
    exact ht
  | @resume _ w _ _ _ _ _ _ ha =>
    obtain ⟨request, next, alarm, rank⟩ := w
    cases hx
    have ht := bus_of_release ha
    rw [bus_put]
    exact ht
  | _ => cases hx

/-- Who is about to ask for something and runs asks for it. -/
lemma Runs.asks {next : r.Reply → RigWork (p.Result α)} (h : c.Runs p)
    (hp : c.at? p = some (.running (.ask r next))) : c.Asks p r := by
  cases h with
  | foreground hf => exact .foreground (Option.some.inj hp)
  | job hw hn hj => exact .job hw hn (at?_job_iff.1 hp)

/-- Whoever has come to a request is at it. -/
lemma Shift.at?_of_leads {told : List (Party × Exchange RigSurroundings)}
    {x : Foreground (p.Result α)} {next : r.Reply → RigWork (p.Result α)}
    (h : Shift site c told d) (hx : c.at? p = some x)
    (hl : x.work.Leads (toldTo p told) (.ask r next)) :
    ∃ y, d.at? p = some y ∧ y.work = .ask r next := by
  rcases h.leads hx with ⟨y, hy, hl'⟩ | ⟨es, es', a, hes, hend⟩
  · exact ⟨y, hy, leads_unique hl hl'⟩
  · rw [hes] at hl
    obtain ⟨rest, hrest, hl⟩ := hl.split
    rw [leads_unique hend hrest] at hl
    cases (leads_done_iff.1 hl).2

/-- Whoever has the bus and has come to a request has made it or is about to. -/
lemma late_cases {x : Foreground (p.Result α)} {next : r.Reply → RigWork (p.Result α)}
    (hp : c.state.bus.holder = some p) (hx : c.at? p = some x) (hwork : x.work = .ask r next) :
    c.late = [] ∨ c.late = commandOf r := by
  unfold late
  rw [hp, Option.elim_some, hx]
  cases x with
  | running => exact .inl rfl
  | waiting w =>
    cases hwork
    exact .inr rfl

/-- Whoever has a reply runs. -/
lemma Hears.runs {c : Nat → Scene α} {n : Nat} {e : Exchange RigSurroundings}
    (h : Hears site c n p e) :
    (c (n + 1)).Runs p ∧ ∃ work, (c (n + 1)).at? p = some (.running work) := by
  obtain ⟨-, asked, hproc⟩ := h
  generalize hx : some (p, e) = reply? at hproc
  generalize c (n + 1) = d at hproc ⊢
  cases hproc with
  | @answer _ _ _ _ t hr hp ha =>
    cases hx
    have hat := at?_of_answer? (jobs_enter ..) ha hp
    refine ⟨runs_put hat fun m hm => ?_, _, at?_put_self hat⟩
    subst hm
    exact hr.runs.job_current
  | @resume _ w _ t ready current hr hp ha hn =>
    cases hx
    have hat : (⟨t, (c n).foreground, current, false⟩ : Scene α).at? p = some (.waiting w) :=
      at?_of_answer? (c := c n) (s := { (c n).state with ready := ready }) rfl ha hp
    refine ⟨runs_put hat fun m hm => ?_, _, at?_put_self hat⟩
    exact ⟨exists_waiting (c := c n) hr, (hn m).2 hm⟩
  | _ => cases hx

end Scene

end Steps

/-! ## Courses on which everybody takes the bus -/

/-- Scenes that follow upon each other, in which everybody takes the bus before a command and gives
it back afterwards. No instrument is attached or taken away in between. -/
structure BusCourse (site : Site RigSurroundings) (c : Nat → Scene α) : Prop where
  /-- Where it begins. -/
  ready : (c 0).Ready
  /-- How it goes on. -/
  goes : ∀ n, (c n).Goes site (c (n + 1))
  /-- What is attached where there is no step. -/
  attached : ∀ n, (c n).step site ≠ .more (c (n + 1)) → ∀ id,
    ((c (n + 1)).state.attached.lookup id).isSome = ((c n).state.attached.lookup id).isSome

namespace BusCourse

open Scene

variable {s : Station} {c : Nat → Scene α} {i j k l n : Nat} {p q : Party}
  {e : Exchange RigSurroundings} {told told' : List (Party × Exchange RigSurroundings)}
  {cmds : List (Exchange Surroundings)} {site : Site RigSurroundings}

/-- Along the course things happen one after the other. -/
lemma shift (h : BusCourse s.site c) (ht : Scene.Tells s.site c i j told) :
    Shift s.site (c i) told (c j) := by
  induction ht with
  | start => exact .start
  | step _ _ hp ih =>
    obtain ⟨d, e, hd, he, hc, -⟩ := hp.happens
    simpa using ((ih.more hd).more he).more hc
  | @rest n told _ hs ih =>
    obtain ⟨hf, _, _, _, _, _, hd⟩ := (h.goes n).drifts hs
    have hj : (c (n + 1)).state.jobs = (c n).state.jobs := by rw [hd]
    have hquiet : Quiet (c n).state (c (n + 1)).state := by
      refine ⟨by rw [hd], by rw [hd], h.attached n hs, by rw [hd], by rw [hd], by rw [hj], ?_⟩
      intro m hm
      rwa [State.ending?, hj]
    have hnext : Happens s.site (c n) none none (c (n + 1)) := by
      have hmean : Happens s.site (c n) none none _ :=
        .meanwhile (c (n + 1)).current (c (n + 1)).fresh hquiet hj
      rwa [← hf] at hmean
    simpa using ih.more hnext

/-- Everybody keeps to the rules of the bus. -/
lemma orderly (h : BusCourse s.site c) (ht : Scene.Tells s.site c 0 n told) :
    ∃ m, (c n).Orderly busRules (BusKept (c 0).state.log) m ∧ m.told = told :=
  h.ready.orderly.shift s (h.shift ht)

/-- What was sent are the commands that were answered, and what is not answered yet. -/
lemma log_eq (h : BusCourse s.site c) (ht : Scene.Tells s.site c 0 n told) :
    (c n).state.log = (c 0).state.log ++ sentIn (overBus told) ++ (c n).late := by
  obtain ⟨m, hm, rfl⟩ := h.orderly ht
  exact hm.log_eq

/-- What is said over the bus is one hold after the other, and who has the bus is its holder. -/
lemma exists_inTurn (h : BusCourse s.site c) (ht : Scene.Tells s.site c 0 n told) :
    ∃ who, InTurn none (overBus told) who ∧
      ∀ p, who = some p → (c n).state.bus.holder = some p := by
  obtain ⟨m, hm, rfl⟩ := h.orderly ht
  obtain ⟨who, hturns, hwho⟩ := hm.inv.turns
  exact ⟨who, hturns, fun p hp => hm.inv.has p ((hwho p).1 hp)⟩

/-- Who says something over the bus has it before or has it then, and who gives it back has had
it. -/
lemma holder_of_hears (h : BusCourse s.site c) (hh : Hears s.site c n p e)
    (he : (bus? e).isSome) :
    ((c n).state.bus.holder = some p ∨ (c (n + 1)).state.bus.holder = some p) ∧
      (e.request = .device .release → (c n).state.bus.holder = some p) := by
  obtain ⟨told, ht⟩ := exists_tells s.site c (Nat.zero_le n)
  obtain ⟨who, hturns, hwho⟩ := h.exists_inTurn ht
  obtain ⟨who', hturns', hwho'⟩ := h.exists_inTurn (ht.hears hh)
  obtain ⟨x, hx⟩ := Option.isSome_iff_exists.1 he
  rw [overBus_append, show overBus [(p, e)] = [(p, x)] by simp [overBus, hx]] at hturns'
  obtain ⟨who₁, h₁, hlast⟩ := hturns'.of_append
  obtain rfl := h₁.unique hturns
  cases hlast with
  | seize hend =>
    cases hend
    refine ⟨.inr (hwho' p rfl), fun hrelease => ?_⟩
    obtain ⟨request, reply⟩ := e
    dsimp only at hrelease
    subst hrelease
    cases hx
  | send _ hend => exact ⟨.inl (hwho p rfl), fun _ => hwho p rfl⟩
  | release hend => exact ⟨.inl (hwho p rfl), fun _ => hwho p rfl⟩

/-- **As long as a party has the bus nobody else says anything over it.** -/
lemma held (h : BusCourse s.site c) (hh : Hears s.site c n p ⟨.device .seize, ()⟩)
    (ht : Scene.Tells s.site c (n + 1) k told) (hp : toldTo p (overBus told) = cmds)
    (hcmds : ∀ x ∈ cmds, x.request.IsCommand) :
    overBus told = saidBy p cmds ∧ (c k).state.bus.holder = some p := by
  obtain ⟨first, hfirst⟩ := exists_tells s.site c (Nat.zero_le n)
  obtain ⟨who, hturns, hwho⟩ := h.exists_inTurn ((hfirst.hears hh).trans ht)
  rw [overBus_append, overBus_append] at hturns
  obtain ⟨who₁, h₁, hturns⟩ := hturns.of_append
  obtain ⟨who₂, -, hseize⟩ := h₁.of_append
  obtain rfl : who₁ = some p := by
    cases hseize with
    | seize hend =>
      cases hend
      rfl
    | send he => exact he.elim
  obtain ⟨rest, hsaid, hturns, hrest⟩ :=
    hturns.at_commands (hp.trans (List.append_nil cmds).symm) hcmds
  obtain rfl := hturns.eq_nil hrest
  refine ⟨by rw [hsaid, List.append_nil], hwho p ?_⟩
  cases hturns
  rfl

/-- A rig on its own is on such a course, if everybody on it does such work. -/
lemma busCourse_follow {d : Scene α} (h : d.Ready) : BusCourse site (d.follow site) where
  ready := h
  goes := goes_follow site d
  attached n hs id := by
    rcases step_follow site d n with hstep | heq
    · exact absurd hstep hs
    · rw [heq]

/-! ## Until it is one's turn -/

/-- A party is about to ask for the bus, or it waits for it behind those who were there before, or
it has it. -/
def Comes (bus : Desk) (p : Party) (d : Scene α) : Prop :=
  (d.Asks p (.device .seize) ∧ d.state.bus = bus) ∨
    d.state.bus.holder = some p ∨ d.state.bus.Queued bus.present p

variable {bus : Desk}

/-- Whoever has the bus meanwhile was there before, unless it is the party's turn. -/
lemma Comes.mem_present {d : Scene α} (h : Comes bus p d) (hq : d.state.bus.holder = some q)
    (hne : q ≠ p) : q ∈ bus.present := by
  rcases h with ⟨-, hb⟩ | hp | ⟨⟨r, hr, hholder⟩, -⟩
  · rw [← hb]
    simp [Desk.present, hq]
  · exact absurd (Option.some.inj (hq.symm.trans hp)) hne
  · rwa [Option.some.inj (hq.symm.trans hholder)]

/-- Whoever asks for the bus and is not told that it has it has to wait for it. -/
lemma Comes.of_asks {d e : Scene α} {asked : Option (Party × Control.Request)}
    {reply? : Option (Party × Exchange RigSurroundings)} (hasks : d.Asks p (.device .seize))
    (hproc : Proceeds s.site d asked reply? e) (hnone : toldTo p reply?.toList = []) :
    Comes d.state.bus p e := by
  have hasked := (hproc.asks_iff p _).2 hasks
  cases hproc with
  | answer =>
    cases hasked
    simp at hnone
  | wait _ _ ha _ =>
    cases hasked
    refine .inr (.inr ?_)
    rw [bus_put]
    change (d.state.bus.arrive p).Queued d.state.bus.present p
    cases hd : d.state.bus.holder with
    | some q => exact Desk.queued_arrive hd
    | none =>
      have hp : (d.state.bus.arrive p).holder = some p := by simp [Desk.arrive, hd]
      rw [State.answer?, State.enter, State.answerDevice?, if_pos hp] at ha
      cases ha
  | _ => cases hasked

/-- A step in which the party is told nothing. -/
lemma Comes.next (h : BusCourse s.site c) (hc : Comes bus p (c k))
    {asked : Option (Party × Control.Request)}
    {reply? : Option (Party × Exchange RigSurroundings)}
    (hs : (c k).step s.site = .more (c (k + 1)))
    (hproc : Proceeds s.site (c k) asked reply? (c (k + 1)))
    (hnone : toldTo p reply?.toList = []) : Comes bus p (c (k + 1)) := by
  rcases hc with ⟨hasks, rfl⟩ | hwaits
  · exact .of_asks hasks hproc hnone
  right
  rcases hproc.bus_cases with hsame | ⟨q, -, harrive⟩ | ⟨q, reply, rfl, hleave⟩
  · rwa [hsame]
  · rw [harrive]
    exact hwaits.imp (fun hp => Desk.holder_arrive hp q) fun hq => hq.arrive q
  · have hne : q ≠ p := by
      rintro rfl
      simp at hnone
    have hholder := (h.holder_of_hears ⟨hs, asked, hproc⟩ rfl).2 rfl
    rw [hleave]
    refine (hwaits.resolve_left fun hp => hne ?_).leave
    exact Option.some.inj (hholder.symm.trans hp)

/-- Where there is no step, nobody comes or goes. -/
lemma Comes.rest (h : BusCourse s.site c) (hc : Comes bus p (c k))
    (hs : (c k).step s.site ≠ .more (c (k + 1))) : Comes bus p (c (k + 1)) := by
  rcases hc with ⟨hasks, rfl⟩ | hwaits
  · have hgoes := h.goes k
    generalize c (k + 1) = d at hgoes hs ⊢
    cases hgoes with
    | step hstep => exact absurd hstep hs
    | drift fresh hw hn => exact absurd hasks (not_asks_of_idle hw hn p _)
    | stay => exact .inl ⟨hasks, rfl⟩
  · obtain ⟨-, _, _, _, _, _, hd⟩ := (h.goes k).drifts hs
    right
    rwa [hd]

/-- **Nobody is served before those who have waited longer.** A party comes for the bus. Until it
is told that it has it, all that is said over the bus is said by those who had the bus or waited for
it before.

**Proof sketch.** Whoever says something over the bus has it before or after that. So it was there
before the party, as `Comes` is preserved by every step: whoever comes later is behind, and when the
bus is given back it goes to the next one in the line. -/
theorem served_in_line (h : BusCourse s.site c) (hasks : (c l).Asks p (.device .seize))
    (ht : Scene.Tells s.site c l k told) (hnone : toldTo p told = []) :
    ∀ x ∈ overBus told, x.1 ∈ (c l).state.bus.present := by
  suffices hgo : Comes (c l).state.bus p (c k) ∧
      ∀ x ∈ overBus told, x.1 ∈ (c l).state.bus.present from hgo.2
  induction ht with
  | start => exact ⟨.inl ⟨hasks, rfl⟩, by simp [overBus]⟩
  | rest _ hs ih =>
    obtain ⟨hc, hsaid⟩ := ih hnone
    exact ⟨hc.rest h hs, hsaid⟩
  | @step k told asked reply? _ hs hproc ih =>
    rw [toldTo_append, List.append_eq_nil_iff] at hnone
    obtain ⟨hc, hsaid⟩ := ih hnone.1
    have hnext := hc.next h hs hproc hnone.2
    refine ⟨hnext, fun x hx => ?_⟩
    rw [overBus_append, List.mem_append] at hx
    rcases hx with hx | hx
    · exact hsaid x hx
    obtain ⟨⟨q, e⟩, he, hbus⟩ := List.mem_filterMap.1 hx
    obtain ⟨y, hy, rfl⟩ := Option.map_eq_some_iff.1 hbus
    obtain rfl := Option.mem_toList.1 he
    have hne : q ≠ p := by
      rintro rfl
      simp at hnone
    rcases (h.holder_of_hears ⟨hs, asked, hproc⟩ (by simp [hy])).1 with hq | hq
    · exact hc.mem_present hq hne
    · exact hnext.mem_present hq hne

/-! ## One hold right after another -/

lemma filterMap_bus?_onRig {sent : List (Exchange Surroundings)}
    (hsent : ∀ e ∈ sent, e.request.IsCommand) : (sent.map onRig).filterMap bus? = sent := by
  induction sent with
  | nil => rfl
  | cons e sent ih =>
    have hbus : bus? (onRig e) = some e := by
      have he := hsent e List.mem_cons_self
      obtain ⟨request, reply⟩ := e
      cases request <;> first | rfl | exact he.elim
    rw [List.map_cons, List.filterMap_cons_some hbus,
      ih fun x hx => hsent x (List.mem_cons_of_mem e hx)]

@[simp] lemma sentIn_nil : sentIn [] = [] := rfl

lemma sentIn_cons {x : Exchange Surroundings} {said : List (Party × Exchange Surroundings)} :
    sentIn ((p, x) :: said) = (sent? x).toList ++ sentIn said := by
  cases hx : sent? x <;> simp [sentIn, hx]

/-- A party that has taken the bus and has only sent commands since came for it at some point, and
nobody else has said anything since it was told that it has it. -/
lemma exists_hold {sent : List (Exchange Surroundings)} (h : BusCourse s.site c)
    (ht : Scene.Tells s.site c i j told) (hsent : ∀ e ∈ sent, e.request.IsCommand)
    (hes : toldTo p told = onRig seized :: sent.map onRig) :
    ∃ n first, Scene.Tells s.site c i n first ∧ toldTo p first = [] ∧
      overBus told = overBus first ++ (p, seized) :: saidBy p sent ∧
      (c j).state.bus.holder = some p := by
  rw [← List.nil_append (onRig seized :: _)] at hes
  obtain ⟨n, first, last, rfl, -, -, hfirst, hnone, hseize, hlast, hcmds⟩ := ht.split_at hes
  have hsaid : toldTo p (overBus last) = sent := by
    rw [toldTo_overBus, hcmds, filterMap_bus?_onRig hsent]
  obtain ⟨hlast, hholder⟩ := h.held hseize hlast hsaid hsent
  refine ⟨n, first, hfirst, hnone, ?_, hholder⟩
  rw [overBus_append, ← hlast]
  rfl

/-- A party whose next request is made after it has given the bus back makes it right then. -/
lemma asks_seize {before : List (Party × Exchange RigSurroundings)}
    {work : RigWork (p.Result α)} {next : (Request.device .seize).Reply → RigWork (p.Result α)}
    {es : List (Exchange RigSurroundings)} (h : BusCourse s.site c)
    (hat : (c i).at? p = some (.running work)) (ht : Scene.Tells s.site c i n before)
    (hes : toldTo p before = es) (hh : Hears s.site c n p (onRig released))
    (hl : work.Leads (es ++ [onRig released]) (.ask (.device .seize) next)) :
    (c (n + 1)).Asks p (.device .seize) := by
  obtain ⟨hruns, work', hwork'⟩ := hh.runs
  have htold : toldTo p (before ++ [(p, onRig released)]) = es ++ [onRig released] := by
    rw [toldTo_append, hes, toldTo_cons_self, toldTo_nil]
  rw [← htold] at hl
  obtain ⟨y, hy, hwork⟩ := (h.shift (ht.hears hh)).at?_of_leads hat hl
  cases hwork'.symm.trans hy
  cases hwork
  exact hruns.asks hwork'

/-- **Who may come in between two holds.** A party gives the bus back and comes for it again at
once. Until it has sent the commands of the second hold, whatever is said over the bus is said by
itself or by those who waited for the bus when it was given back. -/
theorem between_holds {sent more : List (Exchange Surroundings)} {work : RigWork (p.Result α)}
    {next : (Request.device .seize).Reply → RigWork (p.Result α)} (h : BusCourse s.site c)
    (hat : (c i).at? p = some (.running work)) (ht : Scene.Tells s.site c i j told)
    (hsent : ∀ e ∈ sent, e.request.IsCommand) (hmore : ∀ e ∈ more, e.request.IsCommand)
    (hes : toldTo p told = (onRig seized :: sent.map onRig) ++
      onRig released :: onRig seized :: more.map onRig)
    (hl : work.Leads ((onRig seized :: sent.map onRig) ++ [onRig released])
      (.ask (.device .seize) next)) :
    ∃ n first between, i ≤ n ∧ n < j ∧ Hears s.site c n p (onRig released) ∧
      overBus told = first ++ (p, seized) :: saidBy p sent ++
        (p, released) :: (between ++ (p, seized) :: saidBy p more) ∧
      (∀ x ∈ between, x.1 ∈ (c n).state.bus.line) ∧ (c j).state.bus.holder = some p := by
  obtain ⟨n, before, after, rfl, hin, hnj, hbefore, hesb, hrelease, hafter, hesa⟩ :=
    ht.split_at hes
  obtain ⟨-, first, -, -, hsaidb, -⟩ := h.exists_hold hbefore hsent hesb
  obtain ⟨m, between, hbetween, hnone, hsaida, hholder⟩ := h.exists_hold hafter hmore hesa
  have hline := h.served_in_line (h.asks_seize hat hbefore hesb hrelease hl) hbetween hnone
  rw [hrelease.bus_eq_leave, Desk.present_leave] at hline
  refine ⟨n, overBus first, overBus between, hin, hnj, hrelease, ?_, hline, hholder⟩
  rw [overBus_append, hsaidb, ← hsaida]
  rfl

end BusCourse

end CryoRig.Rig
