import CryoRig.Proofs.PunctualJobs
import CryoRig.Proofs.RunCancelled

/-!
# Waits for a time

A program that waits for some time does so in steps: it looks at the clock, then at its token, and
pauses for what is left, but no longer than an interval. However long the interval is, the wait is
over in the first millisecond that is not before its end, or as soon as the token is fired. If the
end is beyond the range of the clock, only the token ends it.

Every pause moves the clock on, and between two pauses the program has three replies. So the number
of replies is bounded by the time that has passed.

## Main definitions

* `CryoRig.Control.waitPhase?`: where a program is that has taken up a line that waits.
* `CryoRig.Rig.Scene.AtTurn`: a program is about to begin a turn or in the midst of it.
* `CryoRig.Rig.Scene.Naps`: where a program is that sleeps.
* `CryoRig.Rig.Scene.SleepsOn`, `CryoRig.Rig.Scene.Awake`: what holds as long as a program sleeps,
  and when it does no longer.

## Main results

* `CryoRig.Rig.Scene.Timeline.hurries`: work that takes no time is gone through in no time.
* `CryoRig.Rig.Scene.Timeline.takes_up`: a wait begins at the moment its line is taken up.
* `CryoRig.Rig.Scene.Naps.step`: how a program goes on sleeping.
* `CryoRig.Rig.Scene.Timeline.sleeps`: how long a program sleeps.
-/

namespace CryoRig

open Process

/-! ## How far a moment is off -/

/-- Nothing is left until a moment once the clock has come to its millisecond. -/
lemma since_eq_zero_iff (m : Instant) (t : Nat) :
    m.since (.ofMillis t) = Duration.zero ↔ m.tick ≤ t := by
  rw [Instant.tick_le_iff]
  simp only [Instant.since, Duration.zero, Duration.mk.injEq]
  omega

lemma nanos_min (a b : Duration) : (min a b).nanos = min a.nanos b.nanos := by
  change (if a.nanos ≤ b.nanos then a else b).nanos = _
  split <;> omega

/-- A timer that is set for no more than what is left until a moment rings by its millisecond. -/
lemma ringsAt_le_tick {m : Instant} {span : Duration} {t : Nat}
    (hspan : span.nanos ≤ (m.since (.ofMillis t)).nanos)
    (hleft : m.since (.ofMillis t) ≠ .zero) : span.ringsAt t ≤ m.tick := by
  have hlt : t < m.tick := Nat.lt_of_not_le fun hle => hleft ((since_eq_zero_iff m t).2 hle)
  have hafter := (Instant.tick_le_iff m t).not.1 (Nat.not_le.2 hlt)
  simp only [Instant.since] at hspan
  simp only [Duration.ringsAt, Instant.tick, nanosPerMilli]
  exact Nat.div_le_div_right (by omega)

/-- A timer that is set for some time rings later. -/
lemma lt_ringsAt {span : Duration} (hspan : 0 < span.nanos) (t : Nat) : t < span.ringsAt t := by
  simp only [Duration.ringsAt, Instant.tick, Instant.ofMillis, nanosPerMilli]
  omega

/-- A moment that is some time later is not before the millisecond that the clock shows. -/
lemma le_tick_of_later? {t : Nat} {d : Duration} {m : Instant}
    (h : (Instant.ofMillis t).later? d = some m) : t ≤ m.tick := by
  unfold Instant.later? at h
  split at h
  · cases h
    exact Rig.Scene.le_ringsAt d t
  · cases h

namespace Control

open Script Rig

/-! ## Turns of a wait -/

/-- Where a program is when a line that waits was taken up at a moment of the clock. -/
def waitPhase? (t : Nat) : Deed → Option Phase
  | .wait seconds =>
    some (.sleeping ((Instant.ofMillis t).later? ((Duration.ofSeconds? seconds).getD .max)))
  | .waitFor what => some (.settling what)
  | _ => none

namespace ProgramRun

variable {site : Site RigSurroundings} {r : ProgramRun}

/-- The end of a turn that has paused: the wait goes on if the pause has passed. -/
def paused (r : ProgramRun) (passed : Bool) : RigWork (Turn Job Ending) :=
  .done (mapTurn .program (if passed then .again r else r.resume))

/-- What is left of a turn that pauses. -/
def pausing (r : ProgramRun) (span : Duration) : RigWork (Turn Job Ending) :=
  .ask (.pause r.token span) r.paused

/-- What is left of a turn of a sleeping program that has looked at its token. -/
def checking (r : ProgramRun) (left : Duration) : Bool → RigWork (Turn Job Ending)
  | true => .done (mapTurn .program r.resume)
  | false => r.pausing (min left r.conduct.poll)

/-- What is left of a turn of a sleeping program that has looked at the clock. -/
def looking (r : ProgramRun) (left : Duration) : RigWork (Turn Job Ending) :=
  if left = .zero then .done (mapTurn .program r.resume)
  else .ask (.fired r.token) (r.checking left)

lemma carryOut_pauseFor (span : Duration) :
    carryOut site (r.pauseFor span >>= fun t => pure (mapTurn Job.program t)) = r.pausing span := by
  change Process.ask (I := RigSurroundings) (.pause r.token span) _ = r.pausing span
  unfold pausing
  congr 1
  funext passed
  cases passed <;> rfl

lemma carryOut_sleepOn (left : Duration) :
    carryOut site (r.sleepOn left >>= fun t => pure (mapTurn Job.program t)) = r.looking left := by
  unfold sleepOn looking
  split
  · rfl
  · change Process.ask (I := RigSurroundings) (.fired r.token) _ = _
    congr 1
    funext isFired
    cases isFired with
    | true => rfl
    | false => exact carryOut_pauseFor _

/-- A turn of a sleeping program looks at the clock first, then at the token. -/
lemma turnOf_sleeping (site : Site RigSurroundings) {until? : Option Instant}
    (hphase : r.phase = .sleeping until?) :
    turnOf site (.program r) = .ask .clock fun (t : Nat) => r.looking (r.leftAt until? t) := by
  change carryOut site (turn site r >>= fun t => pure (mapTurn Job.program t)) = _
  rw [turn_of_sleeping site hphase]
  change Process.ask (I := RigSurroundings) .clock _ = _
  congr 1
  funext t
  exact carryOut_sleepOn _

/-! ## The turn that begins a wait -/

section Begin

variable {l : Line} {rest : List Line} {step : Step} {phase : Phase} {t : Nat}

/-- The program that waits as a line says. -/
def waitingAt (r : ProgramRun) (l : Line) (rest : List Line) (step : Step) (phase : Phase) :
    ProgramRun :=
  { r with phase := phase, line := l.number, lines := rest, config := step.config,
           sum := r.sum + step.charge }

lemma perform_quick {deed : Deed} (h : waitPhase? t deed = some phase) (conduct : Conduct)
    (line : Nat) : (perform site conduct line deed).run.AsksOnly Quick := by
  cases deed with
  | wait seconds =>
    refine AsksOnly.run_bind (log_quick _).run_lift fun _ => ?_
    exact AsksOnly.run_bind now_quick.run_lift fun _ => trivial
  | waitFor what => exact AsksOnly.run_bind (log_quick _).run_lift fun _ => trivial
  | _ => cases h

/-- No request of a turn that begins a wait has to wait for its reply. -/
lemma turn_quick (hphase : r.phase = .between) (hlines : r.lines = l :: rest)
    (hplan : l.plan r.config = .ok step) (hdeed : waitPhase? t step.deed = some phase) :
    (r.turn site).AsksOnly Quick := by
  rw [turn_of_cons site hphase hlines]
  refine (fired_quick _).bind fun isFired => ?_
  cases isFired with
  | true => exact report_quick
  | false =>
    refine AsksOnly.bind (asksOnly_request.2 id) fun _ => ?_
    refine (log_quick _).bind fun _ => ?_
    simp only [hplan]
    refine (logAll_quick _).bind fun _ => ?_
    refine (perform_quick hdeed _ _).bind fun result => ?_
    cases result with
    | error fault => exact report_quick
    | ok phase => trivial

/-- A wait begins at the moment that the clock showed. -/
lemma ends_perform {deed : Deed} {conduct : Conduct} {line : Nat}
    {ws : List (Exchange WorkSurroundings)} {result : Except Fault Phase}
    (hdeed : waitPhase? t deed = some phase)
    (hclock : ∀ t', (⟨.rig .clock, t'⟩ : Exchange WorkSurroundings) ∈ ws → t' = t)
    (h : (perform site conduct line deed).run.Ends ws result) : result = .ok phase := by
  cases deed with
  | wait seconds =>
    obtain ⟨es₁, es₂, _, rfl, -, h⟩ := ends_run_lift_bind_iff.1 h
    obtain ⟨es₃, es₄, moment, rfl, hnow, h⟩ := ends_run_lift_bind_iff.1 h
    obtain ⟨es₅, es₆, t', rfl, ht, hmoment⟩ := ends_bind_iff.1 hnow
    obtain rfl := ends_request_iff.1 ht
    obtain ⟨rfl, rfl⟩ := ends_pure_iff.1 hmoment
    obtain ⟨-, rfl⟩ := ends_run_pure_iff.1 h
    obtain rfl := hclock t' (by simp)
    cases hdeed
    rfl
  | waitFor what =>
    obtain ⟨es₁, es₂, _, rfl, -, h⟩ := ends_run_lift_bind_iff.1 h
    obtain ⟨-, rfl⟩ := ends_run_pure_iff.1 h
    cases hdeed
    rfl
  | _ => cases hdeed

/-- A turn that takes up a line that waits ends in that wait, or the token was fired before. -/
lemma ends_turn {ws : List (Exchange WorkSurroundings)} {result : Turn ProgramRun Ending}
    (hphase : r.phase = .between) (hlines : r.lines = l :: rest)
    (hplan : l.plan r.config = .ok step) (hdeed : waitPhase? t step.deed = some phase)
    (hclock : ∀ t', (⟨.rig .clock, t'⟩ : Exchange WorkSurroundings) ∈ ws → t' = t)
    (h : (r.turn site).Ends ws result) :
    result = .again (r.waitingAt l rest step phase) ∨
      (⟨.rig (.fired r.token), true⟩ : Exchange WorkSurroundings) ∈ ws ∧
        result = .over (.program (.ok r.sum)) := by
  cases goes_of_ends h with
  | interrupted => exact .inr ⟨List.mem_cons_self, rfl⟩
  | completed _ hl => cases hlines.symm.trans hl
  | refused _ hl hp =>
    obtain ⟨rfl, rfl⟩ := List.cons.inj (hlines.symm.trans hl)
    cases hplan.symm.trans hp
  | failed _ hl hp _ hperform =>
    obtain ⟨rfl, rfl⟩ := List.cons.inj (hlines.symm.trans hl)
    cases hplan.symm.trans hp
    cases ends_perform hdeed (fun t' ht' => hclock t' (by simp [ht'])) hperform
  | begun _ hl hp _ hperform =>
    obtain ⟨rfl, rfl⟩ := List.cons.inj (hlines.symm.trans hl)
    cases hplan.symm.trans hp
    cases ends_perform hdeed (fun t' ht' => hclock t' (by simp [ht'])) hperform
    exact .inl rfl
  | announces h' | slept h' | failedWaiting h' | settled h' | paused _ h' =>
    cases hphase.symm.trans h'

/-- Work that is answered at once is so on a rig. -/
lemma quick_carryOut {β : Type} {w : Working β} (h : w.AsksOnly Quick) :
    (carryOut site w).AsksOnly fun q => ¬MayWait q := by
  change (w.translate (ofWork site)).AsksOnly _
  induction w with
  | done => trivial
  | ask q next ih =>
    cases q with
    | rig q => exact ⟨h.1, fun reply => ih reply (h.2 reply)⟩
    | act a => exact absurd trivial h.1

lemma turnOf_quick (site : Site RigSurroundings) (hphase : r.phase = .between)
    (hlines : r.lines = l :: rest) (hplan : l.plan r.config = .ok step)
    (hdeed : waitPhase? t step.deed = some phase) :
    (turnOf site (.program r)).AsksOnly fun q => ¬MayWait q :=
  quick_carryOut ((turn_quick hphase hlines hplan hdeed).bind fun _ => trivial)

lemma ends_turnOf {es : List (Exchange RigSurroundings)} {result : Turn Job Ending}
    (hphase : r.phase = .between) (hlines : r.lines = l :: rest)
    (hplan : l.plan r.config = .ok step) (hdeed : waitPhase? t step.deed = some phase)
    (hclock : ∀ t', (⟨.clock, t'⟩ : Exchange RigSurroundings) ∈ es → t' = t)
    (h : (turnOf site (.program r)).Ends es result) :
    result = .again (.program (r.waitingAt l rest step phase)) ∨
      (⟨.fired r.token, true⟩ : Exchange RigSurroundings) ∈ es ∧
        result = .over (.program (.ok r.sum)) := by
  obtain ⟨ws, hws, hwork⟩ := ends_carryOut_iff.1 h
  obtain ⟨ws₁, ws₂, turn, rfl, hturn, hresult⟩ := ends_bind_iff.1 hwork
  obtain ⟨rfl, rfl⟩ := ends_pure_iff.1 hresult
  rw [List.append_nil] at hws
  have hclocks (t' : Nat) (ht : (⟨.rig .clock, t'⟩ : Exchange WorkSurroundings) ∈ ws₁) : t' = t :=
    hclock t' (hws.mem_of_rig ht)
  rcases ends_turn hphase hlines hplan hdeed hclocks hturn with rfl | ⟨hfired, rfl⟩
  · exact .inl rfl
  · exact .inr ⟨hws.mem_of_rig hfired, rfl⟩

end Begin

end ProgramRun

end Control

namespace Rig

open Control Script

variable {α : Type} {site : Site RigSurroundings}

namespace Scene

/-! ## Work that takes no time -/

section Quick

variable {c : Nat → Scene α} {i j n : Nat} {told : List (Party × Exchange RigSurroundings)}

/-- A reply says what the clock shows and which tokens were fired. -/
def Sincere (s : State) (e : Exchange RigSurroundings) : Prop :=
  (∀ t, e = ⟨.clock, t⟩ → t = s.clock) ∧
    ∀ token, e = ⟨.fired token, true⟩ → s.isFired token = true

lemma sincere_of_answer? {s t : State} {p : Party} {q : Request} {reply : q.Reply}
    (h : s.answer? p none q = some (reply, t)) : Sincere s ⟨q, reply⟩ := by
  constructor
  · rintro t' ⟨⟩
    exact (congrArg Prod.fst (Option.some.inj h)).symm
  · rintro token ⟨⟩
    exact congrArg Prod.fst (Option.some.inj h)

/-- A job goes through work that takes no time, and tells the truth about the clock and the
tokens. -/
structure Hurries (c : Nat → Scene α) (n : Nat) (work work' : RigWork (Turn Job Ending))
    (i j : Nat) (told : List (Party × Exchange RigSurroundings)) : Prop where
  /-- Where it is. -/
  at_eq : (c j).at? (.job n) = some (.running work')
  /-- What it was told. -/
  leads : work.Leads (toldTo (.job n) told) work'
  /-- What is left takes no time either. -/
  quick : work'.AsksOnly fun q => ¬MayWait q
  /-- No time has passed. -/
  clock_eq : (c j).state.clock = (c i).state.clock
  /-- The replies. -/
  sincere : ∀ e ∈ toldTo (.job n) told, Sincere (c j).state e

/-- **Work that takes no time is gone through in no time.** -/
lemma Timeline.hurries (h : Timeline site c) {work : RigWork (Turn Job Ending)}
    (hat : (c i).at? (.job n) = some (.running work)) (hquick : work.AsksOnly fun q => ¬MayWait q)
    (htold : Tells site c i j told) :
    (∃ work', Hurries c n work work' i j told) ∨ ∃ m before result, i ≤ m ∧ m ≤ j ∧
      Tells site c i m before ∧ Hurries c n work (.done result) i m before := by
  induction htold with
  | start =>
    refine .inl ⟨work, hat, .refl _, hquick, rfl, fun e he => ?_⟩
    rw [toldTo_nil] at he
    exact absurd he List.not_mem_nil
  | @step j told asked reply? htold hs hp ih =>
    rcases ih with ⟨work', hj⟩ | ⟨m, before, result, him, hmj, hm⟩
    · cases work' with
      | done result => exact .inr ⟨j, told, result, htold.le, Nat.le_succ j, htold, hj⟩
      | ask q next =>
        have hstay := h.clock_succ ((h.punctual j).inLine_of_running hj.at_eq)
        have hkeep (e : Exchange RigSurroundings) (he : Sincere (c j).state e) :
            Sincere (c (j + 1)).state e :=
          ⟨fun t ht => (he.1 t ht).trans hstay.symm,
            fun token ht => h.isFired_succ (he.2 token ht)⟩
        rcases hp.moves hj.at_eq with ⟨y, hy, hmove⟩ | ⟨ending, hx, -⟩
        · rcases hmove.quick hj.quick.1 with ⟨hnone, rfl⟩ | ⟨reply, t, ha, hone, rfl⟩
          · refine .inl ⟨.ask q next, hy, ?_, hj.quick, hstay.trans hj.clock_eq, fun e he => ?_⟩
            · rw [toldTo_append, hnone, List.append_nil]
              exact hj.leads
            · rw [toldTo_append, hnone, List.append_nil] at he
              exact hkeep e (hj.sincere e he)
          · refine .inl ⟨next reply, hy, ?_, hj.quick.2 reply, hstay.trans hj.clock_eq,
              fun e he => ?_⟩
            · rw [toldTo_append, hone]
              exact hj.leads.trans (.step (.refl _))
            · rw [toldTo_append, hone] at he
              rcases List.mem_append.1 he with he | he
              · exact hkeep e (hj.sincere e he)
              · rw [List.mem_singleton.1 he]
                exact hkeep _ (sincere_of_answer? ha)
        · cases hx
    · exact .inr ⟨m, before, result, him, Nat.le_succ_of_le hmj, hm⟩
  | @rest j told htold hs ih =>
    have hstate := h.state_eq hs
    rcases ih with ⟨work', hj⟩ | ⟨m, before, result, him, hmj, hm⟩
    · refine .inl ⟨work', (at?_of_state_eq hstate n).trans hj.at_eq, hj.leads, hj.quick, ?_, ?_⟩
      · rw [hstate, hj.clock_eq]
      · rw [hstate]
        exact hj.sincere
    · exact .inr ⟨m, before, result, him, Nat.le_succ_of_le hmj, hm⟩

/-- A job that is at the end of a turn begins the next one, and no time passes before it does. -/
lemma Timeline.ahead_or_turns (h : Timeline site c) {job : Job}
    (hat : (c i).at? (.job n) = some (.running (.done (.again job))))
    (htold : Tells site c i j told) :
    ((c j).at? (.job n) = some (.running (.done (.again job))) ∧ toldTo (.job n) told = [] ∧
      (c j).state.clock = (c i).state.clock) ∨
    ∃ m after, i ≤ m ∧ Tells site c m j after ∧ toldTo (.job n) told = toldTo (.job n) after ∧
      (c m).at? (.job n) = some (.running (turnOf site job)) ∧
      (c m).state.clock = (c i).state.clock := by
  induction htold with
  | start => exact .inl ⟨hat, rfl, rfl⟩
  | @step j told asked reply? htold hs hp ih =>
    rcases ih with ⟨hj, hnone, hclock⟩ | ⟨m, after, him, hafter, heq, hm⟩
    · have hstay := h.clock_succ ((h.punctual j).inLine_of_running hj)
      rcases hp.moves hj with ⟨y, hy, hmove⟩ | ⟨ending, hx, -⟩
      · obtain ⟨hnothing, rfl | rfl⟩ := hmove.of_again
        all_goals rw [toldTo_append, hnone, hnothing]
        · exact .inl ⟨hy, rfl, hstay.trans hclock⟩
        · exact .inr ⟨j + 1, [], Nat.le_succ_of_le htold.le, .start, rfl, hy, hstay.trans hclock⟩
      · cases hx
    · refine .inr ⟨m, _, him, hafter.step hs hp, ?_, hm⟩
      rw [toldTo_append, toldTo_append, heq]
  | @rest j told htold hs ih =>
    have hstate := h.state_eq hs
    rcases ih with ⟨hj, hnone, hclock⟩ | ⟨m, after, him, hafter, heq, hm⟩
    · exact .inl ⟨(at?_of_state_eq hstate n).trans hj, hnone, by rw [hstate, hclock]⟩
    · exact .inr ⟨m, after, him, hafter.rest hs, heq, hm⟩

end Quick

/-! ## Programs that take up a wait -/

/-- A program is about to begin a turn, or in the midst of it. -/
def AtTurn (site : Site RigSurroundings) (c : Scene α) (n : Nat) (r : ProgramRun) : Prop :=
  ∃ x, c.at? (.job n) = some x ∧ (x = .running (.done (.again (.program r))) ∨
    ∃ es, (turnOf site (.program r)).Leads es x.work)

section Begin

variable {c : Nat → Scene α} {i j n : Nat} {told : List (Party × Exchange RigSurroundings)}
  {r : ProgramRun} {l : Line} {rest : List Line} {step : Step} {phase : Phase}

/-- **A wait begins at the moment its line is taken up**, unless the token was fired. -/
theorem Timeline.takes_up (h : Timeline site c)
    (hat : (c i).at? (.job n) = some (.running (.done (.again (.program r)))))
    (hphase : r.phase = .between) (hlines : r.lines = l :: rest)
    (hplan : l.plan r.config = .ok step)
    (hdeed : waitPhase? (c i).state.clock step.deed = some phase) (htold : Tells site c i j told) :
    ((c j).AtTurn site n r ∧ (c j).state.clock = (c i).state.clock) ∨
    ∃ m, i ≤ m ∧ m ≤ j ∧ (c m).state.clock = (c i).state.clock ∧
      ((c m).at? (.job n) =
          some (.running (.done (.again (.program (r.waitingAt l rest step phase))))) ∨
        (c m).at? (.job n) = some (.running (.done (.over (.program (.ok r.sum))))) ∧
          (c m).state.isFired r.token = true) := by
  rcases h.ahead_or_turns hat htold with ⟨hj, -, hclock⟩ | ⟨k, after, hik, hafter, -, hk, hclock⟩
  · exact .inl ⟨⟨_, hj, .inl rfl⟩, hclock⟩
  have hquick := ProgramRun.turnOf_quick site hphase hlines hplan hdeed
  rcases h.hurries hk hquick hafter with ⟨work', hj⟩ | ⟨m, before, result, hkm, hmj, -, hm⟩
  · exact .inl ⟨⟨_, hj.at_eq, .inr ⟨_, hj.leads⟩⟩, hj.clock_eq.trans hclock⟩
  have hmclock := hm.clock_eq.trans hclock
  refine .inr ⟨m, hik.trans hkm, hmj, hmclock, ?_⟩
  have hend := ProgramRun.ends_turnOf hphase hlines hplan hdeed
    (fun t ht => ((hm.sincere _ ht).1 t rfl).trans hmclock) hm.leads
  rcases hend with rfl | ⟨hfired, rfl⟩
  · exact .inl hm.at_eq
  · exact .inr ⟨hm.at_eq, (hm.sincere _ hfired).2 _ rfl⟩

end Begin

/-! ## Programs that sleep -/

/-- Where a program is that sleeps, with the moment of its latest look at the clock and the number
of replies it has had since then. -/
inductive Naps (site : Site RigSurroundings) (c : Scene α) (n : Nat) (r : ProgramRun)
    (until? : Option Instant) (t : Nat) : Nat → Prop where
  /-- A look is next. -/
  | ahead (hat : c.at? (.job n) = some (.running (.done (.again (.program r)))))
    (hclock : c.state.clock = t) : Naps site c n r until? t 0
  /-- It looks at the clock. -/
  | looks (hat : c.at? (.job n) = some (.running (turnOf site (.program r))))
    (hclock : c.state.clock = t) : Naps site c n r until? t 0
  /-- The time is not over, and it looks at its token. -/
  | checks (hat : c.at? (.job n) =
      some (.running (.ask (.fired r.token) (r.checking (r.leftAt until? t)))))
    (hclock : c.state.clock = t) (hleft : r.leftAt until? t ≠ .zero) : Naps site c n r until? t 1
  /-- It pauses. -/
  | pauses (h : c.Pauses n r.token (min (r.leftAt until? t) r.conduct.poll) r.paused t)
    (hleft : r.leftAt until? t ≠ .zero) : Naps site c n r until? t 2

section Naps

variable {c d : Scene α} {n t q : Nat} {r : ProgramRun} {until? : Option Instant}
  {asked : Option (Party × Request)} {reply? : Option (Party × Exchange RigSurroundings)}

lemma Naps.of_state_eq (h : c.Naps site n r until? t q) (hd : d.state = c.state) :
    d.Naps site n r until? t q := by
  have hat := at?_of_state_eq hd n
  cases h with
  | ahead hc hclock => exact .ahead (hat.trans hc) (by rwa [hd])
  | looks hc hclock => exact .looks (hat.trans hc) (by rwa [hd])
  | checks hc hclock hleft => exact .checks (hat.trans hc) (by rwa [hd]) hleft
  | pauses hp hleft => exact .pauses (hp.of_state_eq hd) hleft

/-- No pause of a program goes beyond the moment that it sleeps until. -/
lemma ringsAt_le_of_leftAt {m : Instant} (hleft : r.leftAt (some m) t ≠ .zero) :
    (min (r.leftAt (some m) t) r.conduct.poll).ringsAt t ≤ m.tick :=
  ringsAt_le_tick (by rw [nanos_min]; exact Nat.min_le_left ..) hleft

/-- A program that sleeps does not do so beyond its moment. -/
lemma Naps.clock_le (h : c.Naps site n r until? t q) (hc : c.Punctual) {m : Instant}
    (hm : until? = some m) (hle : t ≤ m.tick) : c.state.clock ≤ m.tick := by
  subst hm
  cases h with
  | ahead _ hclock | looks _ hclock | checks _ hclock => exact hclock ▸ hle
  | pauses hp hleft => exact (hp.clock_le hc).trans (ringsAt_le_of_leftAt hleft)

/-- A program that sleeps can go on once its token was fired or its moment has come. -/
lemma Naps.inLine (h : c.Naps site n r until? t q) (hc : c.Punctual)
    (hover : c.state.isFired r.token = true ∨ ∃ m, until? = some m ∧ c.state.clock = m.tick) :
    c.InLine n := by
  cases h with
  | ahead hat | looks hat | checks hat => exact hc.inLine_of_running hat
  | pauses hp hleft =>
    refine hp.inLine hc (hover.imp_right ?_)
    rintro ⟨m, rfl, hclock⟩
    exact hclock ▸ ringsAt_le_of_leftAt hleft

lemma Naps.step_ne_stuck (h : c.Naps site n r until? t q) (hc : c.Punctual) :
    c.step site ≠ .stuck := by
  cases h with
  | ahead hat | looks hat | checks hat =>
    exact Scene.step_ne_stuck (.inl (hc.inLine_of_running hat))
  | pauses hp => exact hp.step_ne_stuck hc

/-- **How a program goes on sleeping.** After a step it still sleeps, and has had no more than three
replies in every millisecond. Or it does no longer, and then its token was fired or its moment has
come.

**Proof sketch.** The looks at the clock and at the token take no time, so that only a pause moves
the clock. The pause rings by the moment (`ringsAt_le_tick`), so the look after it is not too late;
and it rings later than it was set (`lt_ringsAt`), which pays for the three replies of its turn. -/
theorem Naps.step (h : c.Naps site n r until? t q) (hphase : r.phase = .sleeping until?)
    (hpoll : 0 < r.conduct.poll.nanos) (hle : ∀ m, until? = some m → t ≤ m.tick)
    (hc : c.Punctual) (hs : c.step site = .more d) (hp : Proceeds site c asked reply? d) :
    (∃ t' q', d.Naps site n r until? t' q' ∧ t ≤ t' ∧ (∀ m, until? = some m → t' ≤ m.tick) ∧
      3 * t + q + (toldTo (.job n) reply?.toList).length ≤ 3 * t' + q') ∨
    d.at? (.job n) = some (.running (.done (mapTurn .program r.resume))) ∧
      d.state.clock = c.state.clock ∧
      (c.state.isFired r.token = true ∨ ∃ m, until? = some m ∧ c.state.clock = m.tick) := by
  cases h with
  | ahead hat hclock =>
    have hstay := clock_of_inLine (hc.inLine_of_running hat) hs
    rcases hp.moves hat with ⟨y, hy, hmove⟩ | ⟨ending, hx, -⟩
    · obtain ⟨htold, rfl | rfl⟩ := hmove.of_again
      all_goals rw [htold]
      · exact .inl ⟨t, 0, .ahead hy (hstay.trans hclock), le_rfl, hle, le_rfl⟩
      · exact .inl ⟨t, 0, .looks hy (hstay.trans hclock), le_rfl, hle, le_rfl⟩
    · cases hx
  | looks hat hclock =>
    have hstay := clock_of_inLine (hc.inLine_of_running hat) hs
    rw [ProgramRun.turnOf_sleeping site hphase] at hat
    rcases hp.moves hat with ⟨y, hy, hmove⟩ | ⟨ending, hx, -⟩
    · rcases hmove.quick id with ⟨htold, rfl⟩ | ⟨millis, u, ha, htold, rfl⟩
      · rw [htold]
        rw [← ProgramRun.turnOf_sleeping site hphase] at hy
        exact .inl ⟨t, 0, .looks hy (hstay.trans hclock), le_rfl, hle, le_rfl⟩
      · cases ha
        rw [hclock, ProgramRun.looking] at hy
        split at hy
        · next hzero =>
          refine .inr ⟨hy, hstay, ?_⟩
          cases until? with
          | none => exact absurd (congrArg Duration.nanos hzero) (Nat.ne_of_gt hpoll)
          | some m =>
            have htick := (since_eq_zero_iff m t).1 hzero
            exact .inr ⟨m, rfl, hclock.trans (Nat.le_antisymm (hle m rfl) htick)⟩
        · next hleft =>
          rw [htold]
          exact .inl ⟨t, 1, .checks hy (hstay.trans hclock) hleft, le_rfl, hle, le_rfl⟩
    · cases hx
  | checks hat hclock hleft =>
    have hstay := clock_of_inLine (hc.inLine_of_running hat) hs
    rcases hp.moves hat with ⟨y, hy, hmove⟩ | ⟨ending, hx, -⟩
    · rcases hmove.quick id with ⟨htold, rfl⟩ | ⟨isFired, u, ha, htold, rfl⟩
      · rw [htold]
        exact .inl ⟨t, 1, .checks hy (hstay.trans hclock) hleft, le_rfl, hle, le_rfl⟩
      · rw [htold]
        cases isFired with
        | true =>
          refine .inr ⟨hy, hstay, .inl ?_⟩
          exact congrArg Prod.fst (Option.some.inj ha)
        | false =>
          exact .inl ⟨t, 2, .pauses (.begins hy (hstay.trans hclock)) hleft, le_rfl, hle, le_rfl⟩
    · cases hx
  | pauses hpause hleft =>
    rcases hpause.step hc hs hp with ⟨hpauses, htold⟩ | ⟨passed, hover, htold⟩
    · rw [htold]
      exact .inl ⟨t, 2, .pauses hpauses hleft, le_rfl, hle, le_rfl⟩
    · cases passed with
      | false => exact .inr ⟨hover.at_eq, hover.clock_eq, .inl (hover.of_fired rfl)⟩
      | true =>
        rw [htold]
        have hrings := (hover.of_passed rfl).1
        have hlater : t < (min (r.leftAt until? t) r.conduct.poll).ringsAt t := by
          refine lt_ringsAt ?_ t
          rw [nanos_min]
          refine Nat.lt_min.2 ⟨Nat.pos_of_ne_zero fun hzero => hleft ?_, hpoll⟩
          exact congrArg Duration.mk hzero
        refine .inl ⟨_, 0, .ahead hover.at_eq rfl, ?_, ?_, ?_⟩
        · rw [hover.clock_eq, hrings]
          exact Nat.le_of_lt hlater
        · rintro m rfl
          rw [hover.clock_eq, hrings]
          exact ringsAt_le_of_leftAt hleft
        · rw [hover.clock_eq, hrings, List.length_singleton]
          omega

end Naps

section Courses

variable {c : Nat → Scene α} {i j k n : Nat} {r : ProgramRun} {until? : Option Instant}
  {told : List (Party × Exchange RigSurroundings)}

/-- A program sleeps since a scene of a course, and has done nothing else. -/
structure Asleep (site : Site RigSurroundings) (c : Nat → Scene α) (n : Nat) (r : ProgramRun)
    (until? : Option Instant) (i j : Nat) (told : List (Party × Exchange RigSurroundings)) :
    Prop where
  /-- Where it is, and how many replies it has had. -/
  naps : ∃ t q, (c j).Naps site n r until? t q ∧ (∀ m, until? = some m → t ≤ m.tick) ∧
    t ≤ (c j).state.clock ∧
    3 * (c i).state.clock + (toldTo (.job n) told).length ≤ 3 * t + q
  /-- No time has passed since its token was fired. -/
  fired : ∀ k, k ≤ j → (c k).state.isFired r.token = true → i ≤ k →
    (c j).state.clock = (c k).state.clock

/-- A program slept since a scene of a course, and is about to go on. -/
structure Awake (c : Nat → Scene α) (n : Nat) (r : ProgramRun) (until? : Option Instant)
    (i m : Nat) : Prop where
  /-- What comes next is looked at on the next turn. -/
  at_eq : (c m).at? (.job n) = some (.running (.done (mapTurn .program r.resume)))
  /-- If its token was not fired, its moment has just come. -/
  on_time : (c m).state.isFired r.token = false →
    ∃ moment, until? = some moment ∧ (c m).state.clock = moment.tick
  /-- In no case has it slept any longer. -/
  in_time : ∀ moment, until? = some moment → (c m).state.clock ≤ moment.tick
  /-- If its token was fired, no time has passed since then. -/
  at_once : ∀ k, k ≤ m → (c k).state.isFired r.token = true → i ≤ k →
    (c m).state.clock = (c k).state.clock

lemma Naps.le_clock {c : Scene α} {t q : Nat} (h : c.Naps site n r until? t q) :
    t ≤ c.state.clock := by
  cases h with
  | ahead _ hclock | looks _ hclock | checks _ hclock => exact hclock.ge
  | pauses hp => exact hp.le_clock

lemma Timeline.asleep_or_awake (h : Timeline site c) (hphase : r.phase = .sleeping until?)
    (hpoll : 0 < r.conduct.poll.nanos)
    (hat : (c i).at? (.job n) = some (.running (.done (.again (.program r)))))
    (hle : ∀ m, until? = some m → (c i).state.clock ≤ m.tick) (htold : Tells site c i j told) :
    Asleep site c n r until? i j told ∨ ∃ m, i ≤ m ∧ m ≤ j ∧ Awake c n r until? i m := by
  induction htold with
  | start =>
    refine .inl ⟨⟨_, 0, .ahead hat rfl, hle, le_rfl, ?_⟩, fun k hki _ hik => ?_⟩
    · rw [toldTo_nil, List.length_nil]
    · rw [Nat.le_antisymm hik hki]
  | @step j told asked reply? htold hs hp ih =>
    rcases ih with ⟨⟨t, q, hnaps, htick, -, hcount⟩, hfired⟩ | ⟨m, him, hmj, hawake⟩
    · have hc := h.punctual j
      have hsince := h.since_fired (P := fun t k => i ≤ k → t = (c k).state.clock) hfired
        (fun hf => hnaps.inLine hc (.inl hf)) fun _ => rfl
      rcases hnaps.step hphase hpoll htick hc hs hp with
        ⟨t', q', hnaps', -, htick', hcount'⟩ | ⟨hat', hclock, hover⟩
      · refine .inl ⟨⟨t', q', hnaps', htick', hnaps'.le_clock, ?_⟩, hsince⟩
        rw [toldTo_append, List.length_append]
        omega
      · refine .inr ⟨j + 1, Nat.le_succ_of_le htold.le, le_rfl, hat', fun hf => ?_, fun m hm => ?_,
          hsince⟩
        · refine (hover.resolve_left fun hj => ?_).imp fun m hm => ⟨hm.1, hclock.trans hm.2⟩
          rw [h.isFired_succ hj] at hf
          cases hf
        · rw [hclock]
          exact hnaps.clock_le hc hm (htick m hm)
    · exact .inr ⟨m, him, Nat.le_succ_of_le hmj, hawake⟩
  | @rest j told htold hs ih =>
    have hstate := h.state_eq hs
    rcases ih with ⟨⟨t, q, hnaps, htick, hclock, hcount⟩, hfired⟩ | ⟨m, him, hmj, hawake⟩
    · refine .inl ⟨⟨t, q, hnaps.of_state_eq hstate, htick, by rwa [hstate], hcount⟩, ?_⟩
      exact h.since_fired (P := fun t k => i ≤ k → t = (c k).state.clock) hfired
        (fun hf => hnaps.inLine (h.punctual j) (.inl hf)) fun _ => rfl
    · exact .inr ⟨m, him, Nat.le_succ_of_le hmj, hawake⟩

/-- What holds as long as a program sleeps. -/
structure SleepsOn (site : Site RigSurroundings) (c : Nat → Scene α) (n : Nat) (r : ProgramRun)
    (until? : Option Instant) (i j : Nat) (told : List (Party × Exchange RigSurroundings)) :
    Prop where
  /-- It looks at the clock, at its token, or it pauses. -/
  at_turn : (c j).AtTurn site n r
  /-- The moment that it sleeps until is not over. -/
  in_time : ∀ moment, until? = some moment → (c j).state.clock ≤ moment.tick
  /-- If its token was fired, no time has passed since then. -/
  at_once : ∀ k, k ≤ j → (c k).state.isFired r.token = true → i ≤ k →
    (c j).state.clock = (c k).state.clock
  /-- It can go on once its token was fired or its moment has come. -/
  inLine : ((c j).state.isFired r.token = true ∨
    ∃ moment, until? = some moment ∧ (c j).state.clock = moment.tick) → (c j).InLine n
  /-- The rig is not stuck. -/
  not_stuck : (c j).step site ≠ .stuck
  /-- It has had no more than three replies in every millisecond. -/
  replies : (toldTo (.job n) told).length ≤ 3 * ((c j).state.clock - (c i).state.clock) + 2

lemma Naps.atTurn {c : Scene α} {t q : Nat} (h : c.Naps site n r until? t q)
    (hphase : r.phase = .sleeping until?) : c.AtTurn site n r := by
  have hturn := ProgramRun.turnOf_sleeping site hphase
  cases h with
  | ahead hat => exact ⟨_, hat, .inl rfl⟩
  | looks hat => exact ⟨_, hat, .inr ⟨_, .refl _⟩⟩
  | checks hat _ hleft =>
    refine ⟨_, hat, .inr ⟨[⟨.clock, t⟩], ?_⟩⟩
    rw [hturn]
    refine .step ?_
    rw [ProgramRun.looking, if_neg hleft]
    exact .refl _
  | pauses hp hleft =>
    obtain ⟨x, hat, hwork⟩ := hp.at?
    refine ⟨x, hat, .inr ⟨[⟨.clock, t⟩, ⟨.fired r.token, false⟩], ?_⟩⟩
    rw [hturn, hwork]
    refine .step ?_
    rw [ProgramRun.looking, if_neg hleft]
    exact .step (.refl _)

/-- **How long a program sleeps.** As long as its moment has not come and its token was not fired.
Then it goes on at once. -/
theorem Timeline.sleeps (h : Timeline site c) (hphase : r.phase = .sleeping until?)
    (hpoll : 0 < r.conduct.poll.nanos)
    (hat : (c i).at? (.job n) = some (.running (.done (.again (.program r)))))
    (hle : ∀ m, until? = some m → (c i).state.clock ≤ m.tick) (htold : Tells site c i j told) :
    SleepsOn site c n r until? i j told ∨ ∃ m, i ≤ m ∧ m ≤ j ∧ Awake c n r until? i m := by
  refine (h.asleep_or_awake hphase hpoll hat hle htold).imp_left ?_
  rintro ⟨⟨t, q, hnaps, htick, hclock, hcount⟩, hfired⟩
  have hc := h.punctual j
  refine ⟨hnaps.atTurn hphase, fun m hm => hnaps.clock_le hc hm (htick m hm), hfired,
    hnaps.inLine hc, hnaps.step_ne_stuck hc, ?_⟩
  have hq : q ≤ 2 := by cases hnaps <;> decide
  omega

end Courses

end Scene

end Rig

end CryoRig
