import CryoRig.Proofs.ReadArguments
import CryoRig.Proofs.RunCancelled

/-!
# A program gives its orders in line

A program runs in company. It begins the lines of its script one after the other, and has the site
do what they say and nothing else. If anything fails, that is the last thing it does. Once its token
is fired no line is begun any more, and the program is over after two turns at most.

A line whose arguments cannot be read, or that needs a setting which is not there, is begun and then
refused: nothing is done for it, and the run fails.

## Main definitions

* `CryoRig.Rig.Standing.AtRun`: where a run is while it rests.

## Main results

* `CryoRig.Rig.winds_of_lives`: what a run may still do once its token was fired.
* `CryoRig.Rig.orders_in_line`: what a run begins and has the site do, and how it ends.
-/

namespace CryoRig.Script

/-- A line is refused if there is no plan for any command that it may come to. -/
lemma exists_plan_error {l : Line} {c : RunConfig} {operation : Operation}
    (hop : Operation.ofName? l.operation = some operation)
    (h : ∀ args command, ReadAs operation args command →
      ∃ complaint, Script.plan c command = .error complaint) :
    ∃ fault, l.plan c = .error fault := by
  cases hplan : l.plan c with
  | error fault => exact ⟨fault, rfl⟩
  | ok step =>
    obtain ⟨command, hcommand, hstep⟩ := Line.plan_eq_ok_iff.1 hplan
    have hargs : Command.ofArguments operation l.arguments = .ok command :=
      (Command.parse_eq_ok_iff (Operation.ofName?_eq_some_iff.1 hop)).1 hcommand
    obtain ⟨complaint, herror⟩ := h _ command (Command.ofArguments_eq_ok_iff.1 hargs)
    cases hstep.symm.trans herror

/-- A ramp of the magnet is refused unless it is known where the magnet is. -/
lemma exists_plan_error_of_field {l : Line} {c : RunConfig} (hl : l.operation = "set-target-field")
    (hc : c.field = none) : ∃ fault, l.plan c = .error fault := by
  have hop : Operation.ofName? "set-target-field" = some .setTargetField := by decide
  refine exists_plan_error (hl ▸ hop) fun args command hread => ?_
  cases hread
  rw [Script.plan, hc]
  exact ⟨_, rfl⟩

end CryoRig.Script

namespace CryoRig.Rig

open Control Process ProgramRun Script

variable {I : Interface} {site : Site I} {p : Party} {others : State → State → Prop}
  {conduct : Conduct} {token : Nat} {script : Script} {X₀ X Y : Standing (Turn ProgramRun Ending)}
  {m n : Nat} {es₀ es : List (Exchange WorkSurroundings)}

/-- A run rests between two turns, or in the middle of one. -/
def Standing.AtRun (site : Site I) (X : Standing (Turn ProgramRun Ending)) (r : ProgramRun) :
    Prop :=
  X.work = .done (.again r) ∨
    ∃ (es : List (Exchange WorkSurroundings)) (q : WorkRequest)
      (next : q.Reply → Working (Turn ProgramRun Ending)),
      (ProgramRun.turn site r).Leads es (.ask q next) ∧ X.work = .ask q next ∧ q.Waits

/-- A run that rests and is not over is somewhere. -/
lemma exists_atRun (h : Lives p others (ProgramRun.turn site) X₀ m es₀ X)
    (hstart : X₀.work = .done (.again (start conduct token script))) (hrest : X.Rests)
    (hgoes : ∀ ending, X.work ≠ .done (.over ending)) :
    ∃ r, r.conduct = conduct ∧ r.token = token ∧ X.AtRun site r := by
  rcases h.underway hstart with ⟨-, -, hX⟩ | ⟨turns, r, es, hturns, hlead, -⟩
  · exact ⟨_, rfl, rfl, .inl hX⟩
  obtain ⟨hc, htoken, -⟩ := heeds_of_rounds hturns
  rcases h.waits ⟨_, hstart⟩ hrest with ⟨t, hX⟩ | ⟨q, next, hX, hwaits⟩
  · match t, hX with
    | .over ending, hX => exact absurd hX (hgoes ending)
    | .again r', hX =>
      rw [hX] at hlead
      obtain ⟨hc', htoken'⟩ := (course_of_ends hlead).keeps
      exact ⟨r', hc'.trans hc, htoken'.trans htoken, .inl hX⟩
  · rw [hX] at hlead
    exact ⟨r, hc, htoken, .inr ⟨es, q, next, hlead, hX, hwaits⟩⟩

/-- What a run does that is cancelled while it rests, until the end of its turn. -/
lemma Standing.AtRun.winds {r : ProgramRun} {result : Turn ProgramRun Ending}
    (h : X.AtRun site r) (he : X.work.Ends es result)
    (hfit : (∃ span next, X.work = .ask (.rig (.pause r.token span)) next) ∨
      ∀ e ∈ es, Fits r.token e) :
    Winds r.conduct.console 1 es result ∧
      ∀ s, result = .again s → s.conduct = r.conduct ∧ s.token = r.token := by
  rcases h with hX | ⟨es₁, q, next, hlead, hX, hwaits⟩
  · rw [hX] at he
    obtain ⟨rfl, rfl⟩ := ends_done_iff.1 he
    refine ⟨.of_again rfl ?_, ?_⟩
    · exact Nat.zero_add _ ▸ ahead_le_one _
    · rintro s ⟨⟩
      exact ⟨rfl, rfl⟩
  · rw [hX] at he hfit
    refine ⟨winds_of_rest hlead hwaits he (hfit.imp_left ?_), ?_⟩
    · rintro ⟨span, next', hq⟩
      cases hq
      exact ⟨span, rfl⟩
    · rintro s rfl
      exact (course_of_ends (hlead.trans he)).keeps

/-- A run that is cancelled while it rests finishes what it is doing; then it looks at its token and
is over.

**Proof sketch.** The run goes through the rest of the turn it is in, through whole turns, and into
the one it is in now, whose end is made up if it is not there yet. Replies are as they are once the
token was fired, but for a pause that was on at first, which belongs to the rest of the first turn.
Each of these pieces winds the run up, and a whole turn that is not the last one brings the look at
the token nearer. -/
theorem winds_of_lives (h₀ : Lives p others (ProgramRun.turn site) X₀ m es₀ X)
    (hstart : X₀.work = .done (.again (start conduct token script))) (hrest : X.Rests)
    (hgoes : ∀ ending, X.work ≠ .done (.over ending)) (hothers : KeepsFired token others)
    (hfired : X.rig.isFired token = true) (h : Lives p others (ProgramRun.turn site) X n es Y) :
    (∃ es' result, Y.work.Ends es' result ∧ Winds conduct.console 1 (es ++ es') result) ∧
      n ≤ 2 ∧ ∀ r, Y.work = .done (.again r) → n ≤ 1 := by
  obtain ⟨r, rfl, rfl, hX⟩ := exists_atRun h₀ hstart hrest hgoes
  obtain ⟨-, -, hfits⟩ := h.fits hothers hfired
  obtain ⟨es', result, hends, hfits'⟩ := exists_ends_of (exists_fits r.token) Y.work
  rcases h.path with ⟨rfl, hlead⟩ | ⟨es₁, s, turns, t, es₂, h₁, hr, h₂, rfl, rfl⟩
  · refine ⟨⟨es', result, hends, (hX.winds (hlead.trans hends) ?_).1⟩, by omega, by omega⟩
    refine hfits.symm.imp And.left fun hfits => ?_
    exact List.forall_mem_append.2 ⟨hfits, hfits'⟩
  -- all replies after those in the first turn are as they are once the token was fired
  obtain ⟨hfirst, hlater⟩ : ((∃ span next, X.work = .ask (.rig (.pause r.token span)) next) ∨
      ∀ e ∈ es₁, Fits r.token e) ∧ ∀ e ∈ exchanges turns ++ es₂, Fits r.token e := by
    rcases hfits with hfits | ⟨⟨span, next, hpause⟩, hfits⟩
    · rw [List.append_assoc] at hfits
      exact ⟨.inr fun e he => hfits e (List.mem_append_left _ he),
        fun e he => hfits e (List.mem_append_right _ he)⟩
    · refine ⟨.inl ⟨span, next, hpause⟩, fun e he => hfits e ?_⟩
      rw [hpause] at h₁
      obtain ⟨reply, es₃, rfl, -⟩ := ends_ask_iff.1 h₁
      simp only [List.cons_append, List.tail_cons, List.append_assoc]
      exact List.mem_append_right _ he
  obtain ⟨hwinds₁, hkeeps⟩ := hX.winds h₁ hfirst
  obtain ⟨hc, htoken⟩ := hkeeps s rfl
  rw [← htoken] at hlater hfits'
  obtain ⟨hc', htoken', hwinds, hlen⟩ :=
    winds_of_rounds hr fun e he => hlater e (List.mem_append_left _ he)
  obtain ⟨hwinds₂, -⟩ := winds_of_ends (h₂.trans hends) fun e he => by
    rw [htoken']
    exact (List.mem_append.1 he).elim (fun he => hlater e (List.mem_append_right _ he)) (hfits' e)
  have hahead := ahead_le_one (.again s)
  refine ⟨⟨es', result, hends, ?_⟩, by omega, fun r' hr' => ?_⟩
  · rw [← hc] at hwinds₁ ⊢
    rw [hc'] at hwinds₂
    simpa using (hwinds₁.append hwinds).append hwinds₂
  · rw [hr'] at hends h₂
    obtain ⟨-, hlt⟩ := winds_of_ends h₂ fun e he => htoken' ▸ hlater e (List.mem_append_right _ he)
    have := hlt r' rfl
    omega

/-- What comes of a run that is cancelled: it is interrupted, unless what it is doing fails. -/
def EndsCancelled (κ : Nat) (before since : List (Exchange WorkSurroundings)) (ending : Ending) :
    Prop :=
  (∃ sum, ending = .program (.ok sum) ∧
      (published κ (before ++ since)).getLast? = some .interrupted) ∨
    ∃ fault e, ending = .program (.error fault) ∧ e ∈ since ∧ fault? e = some fault ∧
      (published κ (before ++ since)).getLast? = some .failed

/-- What is published last of a run that has failed. -/
lemma published_of_error {fault : Fault}
    (h : Lives p others (ProgramRun.turn site) X₀ m es₀ X)
    (hstart : X₀.work = .done (.again (start conduct token script)))
    (hX : X.work = .done (.over (.program (.error fault)))) :
    (published conduct.console es₀).getLast? = some .failed := by
  rcases h.underway hstart with ⟨-, -, hX'⟩ | hunder
  · rw [hX] at hX'
    cases hX'
  · rw [hX] at hunder
    obtain ⟨r, first, more, -, hpub, hout⟩ := exists_outcome_of_returns hunder
    rw [hpub]
    cases hout <;> simp

/-- A run in company, whatever the others do, whatever the site replies and however long it takes,
as long as nobody undoes that its token was fired.

The run has begun the first lines of its script, and has the site do what they say in that order and
nothing else; after a turn all of it was done, unless the last line was refused. Whatever is
reported to fail is the last thing but that the run says so and is over.

If its token is fired while the run rests and is not over, it begins no line from then on, does not
get to its end, asks at most once whether something is still ramping, and is over in the second turn
at the latest: interrupted, or failed if what it was doing fails. -/
theorem orders_in_line (hstart : X₀.work = .done (.again (start conduct token script)))
    (hothers : KeepsFired token others) (h₀ : Lives p others (ProgramRun.turn site) X₀ m es₀ X) :
    (∃ first, Seen script conduct.console es₀ X.work first) ∧
      (∀ es₁ e es₂ fault, es₀ = es₁ ++ e :: es₂ → fault? e = some fault →
        Fails conduct.console fault es₂ X.work) ∧
      (X.Rests → X.rig.isFired token = true → (∀ ending, X.work ≠ .done (.over ending)) →
        ∀ n es Y, Lives p others (ProgramRun.turn site) X n es Y →
          begun conduct.console es = [] ∧ .complete ∉ published conduct.console es ∧
          queries es ≤ 1 ∧ n ≤ 2 ∧ (∀ r, Y.work = .done (.again r) → n ≤ 1) ∧
          ∀ ending, Y.work = .done (.over ending) →
            EndsCancelled conduct.console es₀ es ending) := by
  refine ⟨?_, ?_, fun hrest hfired hgoes n es Y h => ?_⟩
  · rcases h₀.underway hstart with ⟨-, rfl, hX⟩ | hunder
    · exact ⟨[], List.nil_prefix, rfl, List.nil_prefix, fun _ _ => .inl rfl⟩
    · exact (seen_of_underway hunder).1
  · rcases h₀.underway hstart with ⟨-, rfl, hX⟩ | hunder
    · intro es₁ e es₂ fault hes
      simp at hes
    · exact (seen_of_underway hunder).2
  · obtain ⟨⟨es', result, hends, hwinds⟩, hn, hagain⟩ :=
      winds_of_lives h₀ hstart hrest hgoes hothers hfired h
    refine ⟨?_, fun hc => hwinds.complete ?_, ?_, hn, hagain, ?_⟩
    · have hbegun := hwinds.begun_eq
      rw [begun_append] at hbegun
      exact (List.append_eq_nil_iff.1 hbegun).1
    · rw [published_append]
      exact List.mem_append_left _ hc
    · have hqueries := hwinds.queries_le
      rw [queries_append] at hqueries
      omega
    · intro ending hY
      have hends' := hends
      rw [hY] at hends'
      obtain ⟨rfl, rfl⟩ := ends_done_iff.1 hends'
      rw [List.append_nil] at hwinds
      rcases hwinds.outcome ending rfl with ⟨sum, rfl, hlast⟩ | ⟨fault, e, rfl, hmem, he⟩
      · refine .inl ⟨sum, rfl, ?_⟩
        rw [published_append, List.getLast?_append, hlast]
        rfl
      · exact .inr ⟨fault, e, rfl, hmem, he, published_of_error (h₀.trans h) hstart hY⟩

/-- A program that switches the gate on and then has nothing to stop. -/
def gateScript : Script := ⟨["set-gate-state 1", "stop"]⟩

/-- A way to run it. -/
def plainConduct : Conduct :=
  ⟨0, .ofSeconds 1, .ofSeconds 5, ⟨.ofSeconds 1, 10, 3, 0.1, false, "data", "sample"⟩⟩

/-- Somebody fires the first token. -/
def FiresFirst (s t : State) : Prop := t = { s with tokens := #[true] }

/-- The announcement of the script, and its first line is begun. -/
def gateOpening : List (Exchange WorkSurroundings) :=
  [reported .rule, reported (.scriptLine "set-gate-state 1"), reported (.scriptLine "stop"),
    reported .rule, ⟨.rig (.fired 0), false⟩, stated 0 (.running 1),
    reported (.processing 1 "set-gate-state" ["1"])]

/-- The gate is on, and the run sees that it was cancelled. -/
def gateClosing : List (Exchange WorkSurroundings) :=
  [⟨.act (.setGateOutput true), (.ok () : Except DeviceFault Unit)⟩, ⟨.rig (.fired 0), true⟩,
    reported .programInterrupted, stated 0 .interrupted]

/-- A program is cancelled while its first line has the gate switched on. -/
structure GateCancelled (site : Site RigSurroundings) (X₀ X Y : Standing (Turn ProgramRun Ending))
    (ending : Ending) : Prop where
  /-- It has not begun. -/
  start : X₀.work = .done (.again (ProgramRun.start plainConduct 0 gateScript))
  /-- It has begun its first line. -/
  opens : Lives .foreground FiresFirst (ProgramRun.turn site) X₀ 2 gateOpening X
  /-- It waits for the gate. -/
  rests : X.Rests
  /-- Its token is fired. -/
  fired : X.rig.isFired 0 = true
  /-- It is not over. -/
  goes : ∀ ending, X.work ≠ .done (.over ending)
  /-- It comes to an end. -/
  closes : Lives .foreground FiresFirst (ProgramRun.turn site) X 1 gateClosing Y
  /-- It is over. -/
  result : Y.work = .done (.over ending)

lemma exists_gateCancelled (site : Site RigSurroundings) :
    ∃ X₀ X Y ending, GateCancelled site X₀ X Y ending := by
  -- the run before its first line and after it
  let before : ProgramRun :=
    ⟨plainConduct, 0, .between, 0, [⟨1, "set-gate-state", ["1"]⟩, ⟨2, "stop", []⟩], .empty, 0⟩
  let after : ProgramRun := { before with line := 1, lines := [⟨2, "stop", []⟩], sum := 0 + 0 }
  have goes {w w' : Working (Turn ProgramRun Ending)} {s : State}
      {es : List (Exchange WorkSurroundings)} (h : w.Leads es w') (hes : ∀ e ∈ es, Prompt s e) :
      ∃ t, Steady s t ∧
        Lives .foreground FiresFirst (ProgramRun.turn site) ⟨w, .going, s⟩ 0 es ⟨w', .going, t⟩ :=
    Lives.of_leads h hes
  obtain ⟨s₁, h₁, hopen⟩ := goes (s := .initial ⟨2024, 1, 1, 0, 0⟩)
    (show (ProgramRun.turn site (start plainConduct 0 gateScript)).Leads (gateOpening.take 4)
      (.done (.again before)) from .step (.step (.step (.step (.refl _)))))
    (by simp [gateOpening, reported, Prompt])
  obtain ⟨next, hlead, hnext⟩ : ∃ next : Except DeviceFault Unit → Working _,
      (ProgramRun.turn site before).Leads (gateOpening.drop 4)
        (.ask (.act (.setGateOutput true)) next) ∧ next (.ok ()) = .done (.again after) :=
    ⟨_, .step (.step (.step (.refl _))), rfl⟩
  obtain ⟨s₂, h₂, hbegin⟩ := goes (s := s₁) hlead (by
    simp [gateOpening, stated, reported, Prompt, State.isFired, h₁.tokens, State.initial])
  have hstart : Lives .foreground FiresFirst (ProgramRun.turn site)
      ⟨.done (.again (start plainConduct 0 gateScript)), .going, .initial ⟨2024, 1, 1, 0, 0⟩⟩ 1 []
      ⟨ProgramRun.turn site (start plainConduct 0 gateScript), .going, _⟩ := .turn .refl
  have hwait := (hstart.trans hopen).turn.trans hbegin
  -- the token is fired while the run waits for the gate
  have hfire := (hwait.move (.acts (a := .setGateOutput true))).move
    (.others (t := { s₂ with tokens := #[true] }) (.inl (by simp)) rfl)
  have hdone : Lives .foreground FiresFirst (ProgramRun.turn site)
      ⟨.ask (.act (.setGateOutput true)) next, .waiting none, { s₂ with tokens := #[true] }⟩ 0
      (gateClosing.take 1) ⟨.done (.again after), .going, { s₂ with tokens := #[true] }⟩ :=
    hnext ▸ Lives.refl.move (.acted (a := .setGateOutput true) (.ok () : Except DeviceFault Unit))
  obtain ⟨s₃, h₃, hclose⟩ := goes (s := { s₂ with tokens := #[true] })
    (show (ProgramRun.turn site after).Leads (gateClosing.drop 1)
      (.done (.over (.program (.ok (0 + 0))))) from .step (.step (.step (.refl _))))
    (by simp [gateClosing, stated, reported, Prompt, State.isFired])
  exact ⟨_, _, _, _, rfl, hfire, .inl (by simp), rfl, by simp, hdone.turn.trans hclose, rfl⟩

lemma keepsFired_firesFirst : KeepsFired 0 FiresFirst := by
  rintro s t rfl -
  rfl

/-- The gate is on, the second line is not begun, and the run is over. -/
theorem orders_in_line_gate : ∃ X₀ X Y ending,
    GateCancelled (Site.bench.translate ofBench) X₀ X Y ending ∧
      (∃ first, Seen gateScript 0 gateOpening X.work first) ∧ begun 0 gateClosing = [] ∧
      EndsCancelled 0 gateOpening gateClosing ending := by
  obtain ⟨X₀, X, Y, ending, h⟩ := exists_gateCancelled (Site.bench.translate ofBench)
  obtain ⟨hseen, -, hcancelled⟩ := orders_in_line h.start keepsFired_firesFirst h.opens
  obtain ⟨hbegun, -, -, -, -, hends⟩ := hcancelled h.rests h.fired h.goes _ _ _ h.closes
  exact ⟨X₀, X, Y, ending, h, hseen, hbegun, hends ending h.result⟩

/-- A turn in which a line is refused. -/
lemma ends_of_refused {r : ProgramRun} {l : Line} {rest : List Line} {fault : LineFault}
    (hphase : r.phase = .between) (hl : r.lines = l :: rest)
    (hp : l.plan r.config = .error fault) :
    (ProgramRun.turn site r).Ends ([⟨.rig (.fired r.token), false⟩,
        stated r.conduct.console (.running l.number), reported l.processing] ++
      closing r.conduct.console l.number (.line fault))
      (.over (.program (.error (.line fault)))) := by
  have hbegin : (r.begin site l rest).Ends ([stated r.conduct.console (.running l.number),
      reported l.processing] ++ closing r.conduct.console l.number (.line fault))
      (.over (.program (.error (.line fault)))) := by
    unfold ProgramRun.begin
    simp only [hp]
    exact .step (.step (.step (.step (.refl _))))
  rw [ProgramRun.turn_of_cons site hphase hl]
  exact .step hbegin

/-- A program that ramps the magnet, and does not say where the magnet is. -/
def fieldScript : Script := ⟨["set-target-field 1 T with rate 1 T/min"]⟩

/-- A program begins a line that has the magnet ramp, nothing is ordered, and the program has failed
because of that line. -/
theorem line_without_order : ∃ l : Line, fieldScript.program = [l] ∧
    l.operation = "set-target-field" ∧ l.arguments = ["1", "T", "with", "rate", "1", "T/min"] ∧
      ∀ site : Site RigSurroundings, ∃ X₀ Y n es fault,
        X₀.work = .done (.again (start plainConduct 0 fieldScript)) ∧
          Lives .foreground FiresFirst (ProgramRun.turn site) X₀ n es Y ∧
          Y.work = .done (.over (.program (.error (.line fault)))) ∧ begun 0 es = [l.number] ∧
          ∀ a, Mark.order a ∉ marks 0 es := by
  refine ⟨⟨1, "set-target-field", ["1", "T", "with", "rate", "1", "T/min"]⟩, rfl, rfl, rfl, ?_⟩
  intro site
  -- the run before its line
  let r : ProgramRun := ⟨plainConduct, 0, .between, 0,
    [⟨1, "set-target-field", ["1", "T", "with", "rate", "1", "T/min"]⟩], .empty, 0⟩
  obtain ⟨fault, hp⟩ := exists_plan_error_of_field (c := .empty)
    (l := ⟨1, "set-target-field", ["1", "T", "with", "rate", "1", "T/min"]⟩) rfl rfl
  have goes {w w' : Working (Turn ProgramRun Ending)} {s : State}
      {es : List (Exchange WorkSurroundings)} (h : w.Leads es w') (hes : ∀ e ∈ es, Prompt s e) :
      ∃ t, Steady s t ∧
        Lives .foreground FiresFirst (ProgramRun.turn site) ⟨w, .going, s⟩ 0 es ⟨w', .going, t⟩ :=
    Lives.of_leads h hes
  have hstart : Lives .foreground FiresFirst (ProgramRun.turn site)
      ⟨.done (.again (start plainConduct 0 fieldScript)), .going, .initial ⟨2024, 1, 1, 0, 0⟩⟩ 1 []
      ⟨ProgramRun.turn site (start plainConduct 0 fieldScript), .going, _⟩ := .turn .refl
  obtain ⟨s₁, h₁, hopen⟩ := goes (s := .initial ⟨2024, 1, 1, 0, 0⟩)
    (show (ProgramRun.turn site (start plainConduct 0 fieldScript)).Leads
      [reported .rule, reported (.scriptLine "set-target-field 1 T with rate 1 T/min"),
        reported .rule] (.done (.again r)) from .step (.step (.step (.refl _))))
    (by simp [reported, Prompt])
  obtain ⟨s₂, h₂, hline⟩ := goes (s := s₁)
    (show (ProgramRun.turn site r).Ends _ _ from ends_of_refused rfl rfl hp) (by
      simp [reported, stated, closing, r, Prompt, State.isFired, h₁.tokens, State.initial])
  refine ⟨_, _, _, _, fault, rfl, (hstart.trans hopen).turn.trans hline, rfl, rfl, fun a ha => ?_⟩
  cases List.mem_singleton.1 (show Mark.order a ∈ [Mark.line 1] from ha)

end CryoRig.Rig
