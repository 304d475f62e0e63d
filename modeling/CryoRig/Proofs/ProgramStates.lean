import CryoRig.Proofs.OrdersInLine
import CryoRig.Proofs.PublishedState

/-!
# The states that a run publishes

A run publishes the number of every line when it takes the line up, and one state when it is over.
That state tells how: failed with a fault, interrupted if its token was fired, complete otherwise.
Between its last look at the token and its end a run does not wait for anything, so nobody can fire
the token in between, and what it has published is right at the moment when it is over.

A fault may come from the line that was just taken up, or from a wait that an earlier line has
begun. Either way it belongs to the line that was taken up last.

## Main definitions

* `CryoRig.Script.nonBlank`: the numbers of the lines that are not blank.
* `CryoRig.Control.ProgramRun.Concludes`: how the last turn of a run goes.
* `CryoRig.Control.ProgramRun.Publishes`: what a run has published when it is over.

## Main results

* `CryoRig.Control.ProgramRun.concludes_of_ends`: the last turn of a run goes in no other way.
* `CryoRig.Rig.Lives.showing`: what was published last is shown.
* `CryoRig.Rig.Lives.steady_of_leads`: a loop that only looks and reports does not give way.
* `CryoRig.Rig.states_of_run`: what a run publishes and how it ends.
-/

namespace CryoRig.Script

/-! ## Numbers of lines -/

/-- The numbers of the lines that are not blank, counted from one. -/
def nonBlank (s : Script) : List Nat :=
  ((s.lines.zipIdx 1).filter fun line => Text.words line.1 ≠ []).map Prod.snd

lemma map_number_programFrom (number : Nat) (texts : List String) :
    (programFrom number texts).map Line.number =
      ((texts.zipIdx number).filter fun line => Text.words line.1 ≠ []).map Prod.snd := by
  induction texts generalizing number with
  | nil => rfl
  | cons text texts ih =>
    rw [programFrom, List.map_append, ih, List.zipIdx_cons, List.filter_cons]
    cases hw : Text.words text with
    | nil => simp [Line.ofText?, hw]
    | cons operation arguments => simp [Line.ofText?, hw]

/-- The lines that ask for something are those that are not blank. -/
lemma map_number_program (s : Script) : s.program.map Line.number = s.nonBlank :=
  map_number_programFrom 1 s.lines

lemma nonBlank_pairwise (s : Script) : s.nonBlank.Pairwise (· < ·) := by
  rw [← map_number_program]
  exact List.pairwise_map.2 (programFrom_pairwise 1 s.lines)

end CryoRig.Script

namespace CryoRig.Control.ProgramRun

open Script Process

variable {I : Interface} {site : Site I} {r run : ProgramRun}
  {es : List (Exchange WorkSurroundings)} {ending : Ending} {result : Turn ProgramRun Ending}

/-! ## The last turn -/

/-- How the last turn of a run goes: what is asked and replied in it, and what comes of the run. -/
inductive Concludes (r : ProgramRun) : List (Exchange WorkSurroundings) → Ending → Prop where
  /-- Its token was fired. -/
  | interrupted : Concludes r
      [⟨.rig (.fired r.token), true⟩, reported .programInterrupted,
        stated r.conduct.console .interrupted] (.program (.ok r.sum))
  /-- No line is left, and its token was not fired. -/
  | completed (hl : r.lines = []) : Concludes r
      [⟨.rig (.fired r.token), false⟩, reported .programComplete,
        stated r.conduct.console .complete] (.program (.ok r.sum))
  /-- The line that it has taken up is refused, or what it says fails. -/
  | line {l : Line} {rest : List Line} {es : List (Exchange WorkSurroundings)} {fault : Fault}
      (hl : r.lines = l :: rest) (hpub : published r.conduct.console es = [l.state])
      (hline : ∀ f, fault = .line f → f.line = l.number) :
      Concludes r (es ++ closing r.conduct.console l.number fault) (.program (.error fault))
  /-- What it waits for fails. -/
  | waiting {what : Awaited} {es : List (Exchange WorkSurroundings)} {fault : Fault}
      (hphase : r.phase = .settling what) (hpub : published r.conduct.console es = [])
      (hfault : OffScript fault) :
      Concludes r (es ++ closing r.conduct.console r.line fault) (.program (.error fault))

lemma ne_line_of_offScript {fault : Fault} (h : OffScript fault) (f : LineFault) :
    fault ≠ .line f := by
  rintro rfl
  cases h

lemma resume_ne_over : r.resume ≠ .over ending := nofun

lemma paused_ne_over (passed : Bool) : (if passed then .again r else r.resume) ≠ .over ending := by
  cases passed <;> exact nofun

lemma not_over_of_sleeps (h : Sleeps r es (.over ending)) : False := by
  generalize hr : Turn.over ending = result at h
  cases h with
  | rested | stopped => exact resume_ne_over hr.symm
  | pauses _ _ passed => exact paused_ne_over passed hr.symm

/-- **The last turn of a run.** It ends because its token was fired, because no line is left, with
the line that it takes up, or with what it waits for.

**Proof sketch.** By the ways in which a turn goes. In the others the run goes on. -/
theorem concludes_of_ends (h : (turn site r).Ends es (.over ending)) : Concludes r es ending := by
  have hgoes := goes_of_ends h
  generalize hr : Turn.over ending = result at hgoes
  cases hgoes with
  | interrupted =>
    cases hr
    exact .interrupted
  | completed _ hl =>
    cases hr
    exact .completed hl
  | @refused l _ fault _ hl hp =>
    cases hr
    refine .line hl (published_takingUp l) ?_
    rintro f ⟨⟩
    exact Line.line_of_plan_error hp
  | @failed l _ step fault es₁ es₂ _ _ hl hp hnotes hdeed =>
    cases hr
    refine .line hl ?_ fun f hf => ?_
    · rw [published_append, published_append, published_takingUp,
        published_eq_nil _ (logAll_silent _) hnotes,
        published_eq_nil _ (perform_silent _ _ _) hdeed]
      rfl
    · exact (ne_line_of_offScript (perform_offScript _ _ _ _ _ hdeed) f hf).elim
  | @failedWaiting what _ fault hphase hgoing =>
    cases hr
    exact .waiting hphase (published_eq_nil _ (underWay_silent what) hgoing)
      (underWay_offScript what _ _ hgoing)
  | slept _ hsleeps => exact (not_over_of_sleeps (hr ▸ hsleeps)).elim
  | announces | settled => exact (resume_ne_over hr.symm).elim
  | paused passed => exact (paused_ne_over passed hr.symm).elim
  | begun => cases hr

/-! ## Between turns -/

/-- A run comes to wait for something only with a line that it takes up. -/
lemma settling_of_ends {r' : ProgramRun} {what : Awaited} (h : (turn site r).Ends es (.again r'))
    (hwhat : r'.phase = .settling what) :
    (∃ what', r.phase = .settling what') ∨ published r.conduct.console es ≠ [] := by
  have not_resume (hr : Turn.again r' = r.resume) : False := by
    cases hr
    cases hwhat
  have hgoes := goes_of_ends h
  generalize hr : Turn.again r' = result at hgoes
  cases hgoes with
  | begun => exact .inr (by simp [published_takingUp])
  | failedWaiting hphase | settled hphase | paused _ hphase => exact .inl ⟨_, hphase⟩
  | announces => exact (not_resume hr).elim
  | slept hphase hsleeps =>
    cases hsleeps with
    | rested | stopped => exact (not_resume hr).elim
    | pauses _ _ passed =>
      cases passed with
      | true =>
        cases hr
        cases hphase.symm.trans hwhat
      | false => exact (not_resume hr).elim
  | interrupted | completed | refused | failed => cases hr

/-- Between two turns a run has taken up some of its lines and published them, and if it waits for
something it has taken up one.

**Proof sketch.** By induction on the turns. What was published is never taken back, so a run that
has come to wait for something has published a line since. -/
theorem exists_took_of_rounds {turns : List (ProgramRun × List (Exchange WorkSurroundings))}
    (h : Rounds (turn site) run turns (.again r)) (hrun : ∀ what, run.phase ≠ .settling what) :
    ∃ taken, run.Took r taken (published run.conduct.console (exchanges turns)) ∧
      r.token = run.token ∧ ∀ what, r.phase = .settling what → taken ≠ [] := by
  generalize hr : Turn.again r = result at h
  induction h generalizing r with
  | start =>
    cases hr
    exact ⟨[], ⟨rfl, rfl, rfl, nofun⟩, rfl, fun what hwhat => (hrun what hwhat).elim⟩
  | @next turns t es _ h ht ih =>
    subst hr
    obtain ⟨taken, htook, htoken, hwaits⟩ := ih rfl
    have hout := outcome_of_ends ht
    rw [htook.conduct] at hout
    rcases htook.outcome hout with ⟨r', taken', he, htook'⟩ | ⟨-, ending, he⟩
    · cases he
      rw [exchanges_append, exchanges_singleton, published_append]
      refine ⟨taken', htook', (course_of_ends ht).keeps.2.trans htoken, fun what hwhat => ?_⟩
      rintro rfl
      obtain ⟨hbefore, hturn⟩ := List.append_eq_nil_iff.1 htook'.states
      rcases settling_of_ends ht hwhat with ⟨what', hwhat'⟩ | hnew
      · refine hwaits what' hwhat' ?_
        rw [htook.states] at hbefore
        exact List.map_eq_nil_iff.1 hbefore
      · rw [htook.conduct] at hnew
        exact hnew hturn
    · cases he

/-- The last turn of a run ends with a report and a state. Before them at most a line that it has
taken up was published. -/
lemma Concludes.init (hc : Concludes r es ending) :
    ∃ before event last, es = before ++ [reported event, stated r.conduct.console last] ∧
      (published r.conduct.console before = [] ∨
        ∃ l rest, r.lines = l :: rest ∧ published r.conduct.console before = [l.state]) := by
  cases hc with
  | interrupted => exact ⟨[_], _, _, rfl, .inl rfl⟩
  | completed => exact ⟨[_], _, _, rfl, .inl rfl⟩
  | line hl hpub => exact ⟨_, _, _, rfl, .inr ⟨_, _, hl, hpub⟩⟩
  | waiting _ hpub => exact ⟨_, _, _, rfl, .inl hpub⟩

/-- As long as a run is not over, it publishes at most the line that it takes up in a turn.

**Proof sketch.** Let the turn come to its end somehow. If the run is over then, something of the
turn is left, so what has been published so far leaves out the last state. -/
lemma published_of_leads {w : Working (Turn ProgramRun Ending)} (h : (turn site r).Leads es w)
    (hw : ∀ ending, w ≠ .done (.over ending)) : published r.conduct.console es = [] ∨
      ∃ l rest, r.lines = l :: rest ∧ published r.conduct.console es = [l.state] := by
  obtain ⟨es', result, hrest⟩ := exists_ends w
  have hwhole : (turn site r).Ends (es ++ es') result := h.trans hrest
  have hline {more : List ProgramState} {l : Line} {rest : List Line} (hl : r.lines = l :: rest)
      (hs : published r.conduct.console es ++ more = [l.state]) :
      published r.conduct.console es = [] ∨
        ∃ l rest, r.lines = l :: rest ∧ published r.conduct.console es = [l.state] :=
    (List.append_eq_singleton_iff.1 hs).imp And.left fun h => ⟨l, rest, hl, h.1⟩
  rcases result with r' | ending
  · have hout := outcome_of_ends hwhole
    rw [published_append] at hout
    generalize hs : published r.conduct.console es ++ published r.conduct.console es' = states
      at hout
    cases hout with
    | waits => exact .inl (List.append_eq_nil_iff.1 hs).1
    | begins phase hl hp => exact hline hl hs
  · obtain ⟨before, event, last, hes, hbefore⟩ := (concludes_of_ends hwhole).init
    rcases List.eq_nil_or_concat es' with rfl | ⟨es'', e, rfl⟩
    · cases w with
      | done t =>
        obtain ⟨-, rfl⟩ := ends_done_iff.1 hrest
        exact absurd rfl (hw ending)
      | ask q next =>
        obtain ⟨_, _, hnil, -⟩ := ends_ask_iff.1 hrest
        cases hnil
    · have hinit : es ++ es'' = before ++ [reported event] :=
        List.append_inj_left' (by simpa using hes :
          (es ++ es'') ++ [e] = (before ++ [reported event]) ++ [stated r.conduct.console last]) rfl
      have hs : published r.conduct.console es ++ published r.conduct.console es'' =
          published r.conduct.console before := by
        rw [← published_append, hinit, published_append]
        exact List.append_nil _
      rcases hbefore with hnone | ⟨l, rest, hl, hsaid⟩
      · exact .inl (List.append_eq_nil_iff.1 (hs.trans hnone)).1
      · exact hline hl (hs.trans hsaid)

/-! ## Whole runs -/

/-- What a run has published when it is over: the numbers of the lines that it has taken up, and one
state that tells how it ended. -/
structure Publishes (script : Script) (κ : Nat) (isFired : Bool) (result : Except Fault Float)
    (es : List (Exchange WorkSurroundings)) (numbers : List Nat) (last : ProgramState) : Prop where
  /-- Nothing else was published. -/
  states : published κ es = numbers.map .running ++ [last]
  /-- The lines are the first ones of those that are not blank. -/
  lines : numbers <+: script.nonBlank
  /-- The last state is one that a run ends with. -/
  final : last.Final
  /-- The run has failed if it returns a fault. -/
  failed_iff : last = .failed ↔ ∃ fault, result = .error fault
  /-- It was interrupted if it returns a sum and its token was fired. -/
  interrupted_iff : last = .interrupted ↔ (∃ sum, result = .ok sum) ∧ isFired = true
  /-- It is complete if it returns a sum, its token was not fired, and it has begun every line. -/
  complete_iff : last = .complete ↔
    (∃ sum, result = .ok sum) ∧ isFired = false ∧ numbers = script.nonBlank
  /-- A fault is reported of the line that was begun last, and a complaint is about that line. -/
  fault : ∀ fault, result = .error fault → ∃ line, numbers.getLast? = some line ∧
    (∃ before, es = before ++ closing κ line fault) ∧ ∀ f, fault = .line f → f.line = line

lemma map_state (taken : List Line) :
    taken.map Line.state = (taken.map Line.number).map .running := by
  rw [List.map_map]
  rfl

lemma published_look (κ token : Nat) (b : Bool) (event : Event) (state : ProgramState) :
    published κ [⟨.rig (.fired token), b⟩, reported event, stated κ state] = [state] := by
  rw [published, List.filterMap_cons_none rfl]
  exact published_close κ event state

/-- The lines that a run has taken up are the first ones of those that are not blank. -/
lemma begun_prefix {script : Script} {taken rest : List Line} (hrun : run.lines = script.program)
    (h : run.lines = taken ++ rest) : taken.map Line.number <+: script.nonBlank := by
  rw [← map_number_program, ← hrun, h, List.map_append]
  exact List.prefix_append _ _

/-- What a run has published as long as it is not over. -/
lemma Took.running {script : Script} {taken : List Line} {before : List (Exchange WorkSurroundings)}
    {w : Working (Turn ProgramRun Ending)} (hrun : run.lines = script.program)
    (h : run.Took r taken (published run.conduct.console before)) (hl : (turn site r).Leads es w)
    (hw : ∀ ending, w ≠ .done (.over ending)) : ∃ numbers, numbers <+: script.nonBlank ∧
      published run.conduct.console (before ++ es) = numbers.map .running := by
  have hturn := published_of_leads hl hw
  rw [h.conduct] at hturn
  rcases hturn with hnone | ⟨l, rest, hlines, hsaid⟩
  · refine ⟨taken.map Line.number, begun_prefix hrun h.lines, ?_⟩
    rw [published_append, h.states, hnone, List.append_nil, map_state]
  · have htaken : run.lines = (taken ++ [l]) ++ rest := by
      rw [h.lines, hlines, List.append_assoc]
      rfl
    refine ⟨(taken ++ [l]).map Line.number, begun_prefix hrun htaken, ?_⟩
    rw [published_append, h.states, hsaid, ← map_state, List.map_append]
    rfl

/-- What a run has published with its last turn. -/
lemma Took.publishes {script : Script} {taken : List Line} {isFired : Bool}
    {before : List (Exchange WorkSurroundings)} (hrun : run.lines = script.program)
    (h : run.Took r taken (published run.conduct.console before))
    (hwaits : ∀ what, r.phase = .settling what → taken ≠ []) (hc : Concludes r es ending)
    (hlook : ∀ b event state, es = [⟨.rig (.fired r.token), b⟩, reported event,
      stated r.conduct.console state] → b = isFired) :
    ∃ result numbers last, ending = .program result ∧
      Publishes script run.conduct.console isFired result (before ++ es) numbers last := by
  have hbegun := begun_prefix hrun h.lines
  have hpub : published run.conduct.console before =
      (taken.map Line.number).map ProgramState.running := h.states.trans (map_state taken)
  rw [← h.conduct] at hpub ⊢
  cases hc with
  | interrupted =>
    obtain rfl := hlook true _ _ rfl
    refine ⟨_, taken.map Line.number, .interrupted, rfl, ?_, hbegun, .inr (.inl rfl), ?_, ?_, ?_,
      ?_⟩
    · rw [published_append, hpub, published_look]
    · simp
    · simp
    · simp
    · nofun
  | completed hl =>
    obtain rfl := hlook false _ _ rfl
    have hall : taken.map Line.number = script.nonBlank := by
      rw [← map_number_program, ← hrun, h.lines, hl, List.append_nil]
    refine ⟨_, taken.map Line.number, .complete, rfl, ?_, hbegun, .inl rfl, ?_, ?_, ?_, ?_⟩
    · rw [published_append, hpub, published_look]
    · simp
    · simp
    · simp [hall]
    · nofun
  | @line l rest es fault hl hline hfault =>
    refine ⟨_, taken.map Line.number ++ [l.number], .failed, rfl, ?_, ?_, .inr (.inr rfl), ?_, ?_,
      ?_, ?_⟩
    · rw [published_append, published_append, hpub, hline, closing, published_close]
      simp [Line.state]
    · rw [← map_number_program, ← hrun, h.lines, hl]
      exact ⟨rest.map Line.number, by simp⟩
    · simp
    · simp
    · simp
    · rintro _ ⟨⟩
      exact ⟨l.number, by simp, ⟨before ++ es, by simp⟩, hfault⟩
  | @waiting what es fault hphase hnone hfault =>
    refine ⟨_, taken.map Line.number, .failed, rfl, ?_, hbegun, .inr (.inr rfl), ?_, ?_, ?_, ?_⟩
    · rw [published_append, published_append, hpub, hnone, closing, published_close,
        List.nil_append]
    · simp
    · simp
    · simp
    · rintro _ ⟨⟩
      obtain ⟨first, l, rfl⟩ := (List.eq_nil_or_concat taken).resolve_left (hwaits what hphase)
      have hat := h.line l (by simp)
      exact ⟨r.line, by simp [hat], ⟨before ++ es, by simp⟩,
        fun f hf => (ne_line_of_offScript hfault f hf).elim⟩

end CryoRig.Control.ProgramRun

namespace CryoRig.Rig

open Control Process ProgramRun Script

/-! ## What is shown -/

section Showing

variable {σ ε : Type} {p : Party} {others : State → State → Prop} {turn : σ → Working (Turn σ ε)}
  {X Y : Standing (Turn σ ε)} {n κ : Nat} {es : List (Exchange WorkSurroundings)}

/-- What is shown after a request is what it publishes, if it does so. -/
lemma shownAfter_eq (shown : ProgramState) (r : Request) (reply : r.Reply) :
    shownAfter κ shown r = (published κ [⟨.rig r, reply⟩]).getLast?.getD shown := by
  cases r with
  | publish κ' state =>
    by_cases hκ : κ' = κ <;> simp [published, publishes, shownAfter, hκ]
  | _ => rfl

lemma Standing.Move.showing (hothers : ∀ s t, others s t → t.showing κ = s.showing κ)
    (h : X.Move p others es Y) :
    Y.rig.showing κ = (published κ es).getLast?.getD (X.rig.showing κ) := by
  refine h.rig_cases (P := fun es t => t.showing κ =
    (published κ es).getLast?.getD (X.rig.showing κ)) (hothers _) rfl (fun r => ?_)
    (fun _ _ => rfl) (fun _ _ => rfl) fun r s alarm reply t hs ha => ?_
  · exact showing_enter X.rig p r
  · have hshown : s.showing κ = X.rig.showing κ := by
      rcases hs with rfl | rfl
      · rfl
      · exact showing_enter X.rig p r
    rw [(showing_of_answer? ha).1, hshown]
    exact shownAfter_eq _ r reply

/-- What a loop has published last is shown, if nobody else publishes anything. -/
theorem Lives.showing (hothers : ∀ s t, others s t → t.showing κ = s.showing κ)
    (h : Lives p others turn X n es Y) :
    Y.rig.showing κ = (published κ es).getLast?.getD (X.rig.showing κ) := by
  induction h with
  | refl => rfl
  | move _ hm ih =>
    rw [hm.showing hothers, ih, published_append, List.getLast?_append]
    cases (published κ _).getLast? <;> rfl
  | turn _ ih => exact ih

end Showing

/-! ## How a loop ends -/

section Endings

variable {σ ε : Type} {p : Party} {others : State → State → Prop} {turn : σ → Working (Turn σ ε)}
  {X Y Z : Standing (Turn σ ε)} {n : Nat} {s u : State} {x : σ}
  {es es' : List (Exchange WorkSurroundings)} {ending : ε}

lemma Steady.symm (h : Steady s u) : Steady u s :=
  ⟨h.tokens.symm, h.jobs.symm, fun κ => (h.slot κ).symm⟩

/-- The reply to a look is what the rig says at once. -/
lemma Looks.prompt {r : Request} {reply : r.Reply} {alarm : Option Nat} (hr : Looks (.rig r))
    (h : s.answer? p alarm r = some (reply, u)) : Prompt s ⟨.rig r, reply⟩ := by
  cases r with
  | device r => cases r <;> trivial
  | publish => trivial
  | fired | slot | ended =>
    cases h
    rfl
  | _ => exact hr.elim

/-- Work has not given way to others since the rig was in some state, or it has come to a request
that is no look. -/
def Standing.Unbroken (s : State) (Y : Standing (Turn σ ε)) : Prop :=
  Y.pace = .going ∧ Steady s Y.rig ∨ ∃ (q : WorkRequest) (next : q.Reply → Working (Turn σ ε)),
    Y.work = .ask q next ∧ ¬Looks q

/-- Work that only looks and reports does not give way to others with a move. -/
lemma Standing.Move.unbroken (hm : Y.Move p others es Z) (hat : Y.Unbroken s)
    (hY : ∀ t, Y.work ≠ .done t) (hes : ∀ e ∈ es, Looks e.request) :
    Z.Unbroken s ∧ ∀ e ∈ es, Prompt s e := by
  -- whoever waits for a reply has asked for something that is no look
  have hwaits {q : WorkRequest} {next : q.Reply → Working (Turn σ ε)}
      {alarm : Option Nat} {a : State} (hat : Standing.Unbroken s ⟨.ask q next, .waiting alarm, a⟩)
      (hq : Looks q) : False := by
    rcases hat with ⟨hpace, -⟩ | ⟨q', next', hq', hnot⟩
    · cases hpace
    · cases hq'
      exact hnot hq
  cases hm with
  | @answered r next a b reply ha =>
    have hlooks : Looks (.rig r) := hes _ List.mem_cons_self
    rw [enter_of_not_mayWait hlooks.not_mayWait] at ha
    rcases hat with ⟨-, hs⟩ | ⟨q, next', hq, hnot⟩
    · refine ⟨.inl ⟨rfl, hs.trans (hlooks.steady ha)⟩, List.forall_mem_singleton.2 ?_⟩
      exact (hlooks.prompt ha).of_steady hs.symm
    · cases hq
      exact absurd hlooks hnot
  | waits ha =>
    refine ⟨.inr ⟨_, _, rfl, fun hlooks => ?_⟩, List.forall_mem_nil _⟩
    exact hlooks.not_mayWait (mayWait_of_answer?_eq_none ha)
  | acts => exact ⟨.inr ⟨_, _, rfl, id⟩, List.forall_mem_nil _⟩
  | others hrest _ =>
    refine ⟨.inr (hat.resolve_left fun hgoing => ?_), List.forall_mem_nil _⟩
    exact hrest.elim (fun hpace => hpace hgoing.1) fun ⟨t, ht⟩ => hY t ht
  | resumes | rings | acted => exact (hwaits hat (hes _ List.mem_cons_self)).elim

lemma Lives.unbroken (h : Lives p others turn X n es Y) (hX : X.pace = .going) (hn : n = 0)
    (hY : ∀ t, Y.work ≠ .done t) (hes : ∀ e ∈ es, Looks e.request) :
    Y.Unbroken X.rig ∧ ∀ e ∈ es, Prompt X.rig e := by
  induction h with
  | refl => exact ⟨.inl ⟨hX, .refl _⟩, List.forall_mem_nil _⟩
  | turn => cases hn
  | @move n es es' Y Z _ hm ih =>
    obtain ⟨hes₁, hes₂⟩ := List.forall_mem_append.1 hes
    have hgoes (t : Turn σ ε) : Y.work ≠ .done t := by
      intro ht
      have hlead := hm.leads
      rw [ht] at hlead
      exact hY t (leads_done_iff.1 hlead).2
    obtain ⟨hat, hprompt⟩ := ih hn hgoes hes₁
    obtain ⟨hat', hprompt'⟩ := hm.unbroken hat hgoes hes₂
    exact ⟨hat', List.forall_mem_append.2 ⟨hprompt, hprompt'⟩⟩

/-- **A loop that only looks and reports does not give way to others**: when it is over, the rig is
still what it has seen. -/
theorem Lives.steady_of_move (h : Lives p others turn X 0 es Y) (hX : X.pace = .going)
    (hY : ∀ t, Y.work ≠ .done t) (hm : Y.Move p others es' Z) {t : Turn σ ε} (hZ : Z.work = .done t)
    (hes : ∀ e ∈ es ++ es', Looks e.request) :
    Steady X.rig Z.rig ∧ ∀ e ∈ es ++ es', Prompt X.rig e := by
  obtain ⟨hes₁, hes₂⟩ := List.forall_mem_append.1 hes
  obtain ⟨hat, hprompt⟩ := h.unbroken hX rfl hY hes₁
  obtain ⟨hat', hprompt'⟩ := hm.unbroken hat hY hes₂
  refine ⟨?_, List.forall_mem_append.2 ⟨hprompt, hprompt'⟩⟩
  rcases hat' with ⟨-, hs⟩ | ⟨q, next, hq, -⟩
  · exact hs
  · rw [hZ] at hq
    cases hq

/-- A loop that has begun a turn is in the middle of one, and has gone on with it at once. -/
theorem Lives.present (h : Lives p others turn X n es Y) (hX : X.work = .done (.again x)) :
    (n = 0 ∧ es = [] ∧ Y.work = .done (.again x)) ∨
      ∃ turns y rig es', Rounds turn x turns (.again y) ∧
        Lives p others turn ⟨turn y, .going, rig⟩ 0 es' Y ∧ es = exchanges turns ++ es' := by
  induction h with
  | refl => exact .inl ⟨rfl, rfl, hX⟩
  | move _ hm ih =>
    rcases ih with ⟨rfl, rfl, hY⟩ | ⟨turns, y, rig, es', hturns, hl, rfl⟩
    · have hlead := hm.leads
      rw [hY] at hlead
      obtain ⟨rfl, hZ⟩ := leads_done_iff.1 hlead
      exact .inl ⟨rfl, rfl, hZ⟩
    · exact .inr ⟨turns, y, rig, _, hturns, hl.move hm, List.append_assoc ..⟩
  | @turn n es x' pace rig' _ ih =>
    rcases ih with ⟨rfl, rfl, hY⟩ | ⟨turns, y, rig, es', hturns, hl, rfl⟩
    · cases hY
      exact .inr ⟨[], _, _, [], .start, .refl, by simp⟩
    · have hends : (turn y).Ends es' (.again x') := by
        rcases hl.path with ⟨-, hlead⟩ | ⟨_, _, _, _, _, -, -, -, hn, -⟩
        · exact hlead
        · cases hn
      exact .inr ⟨_, _, _, [], hturns.next hends, .refl, by simp⟩

/-- A loop ends at a moment: it goes on until then, and then it is over. -/
structure EndsAt (p : Party) (others : State → State → Prop) (turn : σ → Working (Turn σ ε))
    (X : Standing (Turn σ ε)) (n : Nat) (es : List (Exchange WorkSurroundings))
    (Z : Standing (Turn σ ε)) (ending : ε) : Prop where
  /-- What happens until then, and then. -/
  move : ∃ Y es₁ es₂, Lives p others turn X n es₁ Y ∧ (∀ t, Y.work ≠ .done t) ∧
    Y.Move p others es₂ Z ∧ es = es₁ ++ es₂
  /-- It is over. -/
  ended : Z.work = .done (.over ending)

/-- A loop that is over has ended at some moment, and nothing has been asked since. -/
theorem Lives.exists_endsAt (h : Lives p others turn X n es Y) (hX : X.work = .done (.again x))
    (hturn : ∀ y, turn y ≠ .done (.over ending)) (hY : Y.work = .done (.over ending)) :
    ∃ Z, EndsAt p others turn X n es Z ending ∧ Lives p others turn Z 0 [] Y := by
  induction h with
  | refl =>
    rw [hX] at hY
    cases hY
  | turn => exact absurd hY (hturn _)
  | @move n es es' Y Z h hm ih =>
    by_cases hdone : ∃ t, Y.work = .done t
    · obtain ⟨t, ht⟩ := hdone
      have hlead := hm.leads
      rw [ht] at hlead
      obtain ⟨rfl, hZ⟩ := leads_done_iff.1 hlead
      obtain ⟨W, hW, hl⟩ := ih (ht.trans (hZ.symm.trans hY))
      exact ⟨W, by simpa using hW, by simpa using hl.move hm⟩
    · exact ⟨Z, ⟨⟨Y, es, es', h, not_exists.1 hdone, hm, rfl⟩, hY⟩, .refl⟩

end Endings

/-! ## Runs -/

section Runs

variable {I : Interface} {site : Site I} {p : Party} {others : State → State → Prop}
  {conduct : Conduct} {token : Nat} {script : Script} {X Y Z : Standing (Turn ProgramRun Ending)}
  {n : Nat} {es : List (Exchange WorkSurroundings)} {ending : Ending}

/-- Where a run is, and what it has published before its present turn. -/
lemma exists_took_of_lives (h : Lives p others (ProgramRun.turn site) X n es Y)
    (hstart : X.work = .done (.again (start conduct token script))) :
    (n = 0 ∧ es = [] ∧ Y.work = .done (.again (start conduct token script))) ∨
      ∃ before r taken rig es', es = before ++ es' ∧
        (start conduct token script).Took r taken (published conduct.console before) ∧
        r.token = token ∧ (∀ what, r.phase = .settling what → taken ≠ []) ∧
        Lives p others (ProgramRun.turn site) ⟨ProgramRun.turn site r, .going, rig⟩ 0 es' Y := by
  refine (h.present hstart).imp_right ?_
  rintro ⟨turns, r, rig, es', hturns, hl, rfl⟩
  obtain ⟨taken, htook, htoken, hwaits⟩ := exists_took_of_rounds hturns (by simp [start])
  exact ⟨_, r, taken, rig, es', rfl, htook, htoken, hwaits, hl⟩

/-- What a run has published when it is over.

**Proof sketch.** Its last turn begins with a look at its token. If the run ends with a state and
nothing else, that look and the state are all of the turn, and it has not given way to others. -/
theorem publishes_of_endsAt (h : EndsAt p others (ProgramRun.turn site) X n es Z ending)
    (hstart : X.work = .done (.again (start conduct token script))) :
    ∃ result numbers last, ending = .program result ∧
      Publishes script conduct.console (Z.rig.isFired token) result es numbers last := by
  obtain ⟨⟨Y, es₁, es₂, hlives, hgoes, hm, rfl⟩, hover⟩ := h
  rcases exists_took_of_lives hlives hstart with ⟨-, -, hY⟩ |
    ⟨before, r, taken, rig, es', rfl, htook, rfl, hwaits, hl⟩
  · exact absurd hY (hgoes _)
  have hlead : (ProgramRun.turn site r).Leads es' Y.work := by
    rcases hl.path with ⟨-, hlead⟩ | ⟨_, _, _, _, _, -, -, -, hn, -⟩
    · exact hlead
    · cases hn
  have hends : (ProgramRun.turn site r).Ends (es' ++ es₂) (.over ending) := by
    have hwhole := hlead.trans hm.leads
    rwa [hover] at hwhole
  rw [List.append_assoc]
  refine htook.publishes rfl hwaits (concludes_of_ends hends) fun b event state hes => ?_
  obtain ⟨hsteady, hprompt⟩ := hl.steady_of_move rfl hgoes hm hover (by
    rw [hes]
    simp [Looks, reported, stated])
  have hb : b = rig.isFired r.token :=
    hprompt ⟨.rig (.fired r.token), b⟩ (by rw [hes]; exact List.mem_cons_self)
  rw [hb, State.isFired, State.isFired, hsteady.tokens]

/-- A run in company, whatever the others do, whatever the site replies and however long it takes,
as long as nobody else publishes anything on its console.

What is shown is what the run has published last. As long as it is not over, that is the number of a
line, or nothing yet: it has published the numbers of the first lines that are not blank, in the
order of the script. When it is over, it has published one more state, which tells how it has ended
and whether its token was fired by then, and it publishes nothing afterwards. -/
theorem states_of_run (hstart : X.work = .done (.again (start conduct token script)))
    (hothers : ∀ s t, others s t → t.showing conduct.console = s.showing conduct.console)
    (h : Lives p others (ProgramRun.turn site) X n es Y) :
    Y.rig.showing conduct.console =
        (published conduct.console es).getLast?.getD (X.rig.showing conduct.console) ∧
      script.nonBlank.Pairwise (· < ·) ∧
      ((∀ ending, Y.work ≠ .done (.over ending)) → ∃ numbers, numbers <+: script.nonBlank ∧
        published conduct.console es = numbers.map .running) ∧
      ∀ ending, Y.work = .done (.over ending) → ∃ Z result numbers last,
        EndsAt p others (ProgramRun.turn site) X n es Z ending ∧
        Lives p others (ProgramRun.turn site) Z 0 [] Y ∧ ending = .program result ∧
        Publishes script conduct.console (Z.rig.isFired token) result es numbers last := by
  refine ⟨h.showing hothers, script.nonBlank_pairwise, fun hgoes => ?_, fun ending hover => ?_⟩
  · rcases exists_took_of_lives h hstart with ⟨-, rfl, -⟩ |
      ⟨before, r, taken, rig, es', rfl, htook, -, -, hl⟩
    · exact ⟨[], List.nil_prefix, rfl⟩
    · rcases hl.path with ⟨-, hlead⟩ | ⟨_, _, _, _, _, -, -, -, hn, -⟩
      · exact htook.running rfl hlead hgoes
      · cases hn
  · have hturn (r : ProgramRun) : ProgramRun.turn site r ≠ .done (.over ending) := by
      intro hr
      have hends : (ProgramRun.turn site r).Ends [] (.over ending) :=
        hr ▸ ends_done_iff.2 ⟨rfl, rfl⟩
      obtain ⟨before, event, last, hnil, -⟩ := (concludes_of_ends hends).init
      simp at hnil
    obtain ⟨Z, hZ, hl⟩ := h.exists_endsAt hstart hturn hover
    obtain ⟨result, numbers, last, he, hpub⟩ := publishes_of_endsAt hZ hstart
    exact ⟨Z, result, numbers, last, hZ, hl, he, hpub⟩

/-- Whoever fires a token publishes nothing. -/
lemma showing_of_firesFirst (κ : Nat) (s t : State) (h : FiresFirst s t) :
    t.showing κ = s.showing κ := by
  obtain rfl : t = { s with tokens := #[true] } := h
  exact showing_congr rfl

/-- A program of two lines is cancelled during the first one. It says that it runs that line, and
then that it is interrupted, and that is what is shown. -/
theorem states_of_run_gate : ∃ X₀ X Y ending,
    GateCancelled (Site.bench.translate ofBench) X₀ X Y ending ∧ gateScript.nonBlank = [1, 2] ∧
      Y.rig.showing 0 = .interrupted ∧ ∃ Z result,
        EndsAt .foreground FiresFirst (ProgramRun.turn (Site.bench.translate ofBench)) X₀ 3
          (gateOpening ++ gateClosing) Z ending ∧ ending = .program result ∧
        Publishes gateScript 0 (Z.rig.isFired 0) result (gateOpening ++ gateClosing) [1]
          .interrupted := by
  obtain ⟨X₀, X, Y, ending, h⟩ := exists_gateCancelled (Site.bench.translate ofBench)
  obtain ⟨hshowing, -, -, hends⟩ :=
    states_of_run h.start (showing_of_firesFirst 0) (h.opens.trans h.closes)
  have hstates : published 0 (gateOpening ++ gateClosing) = [.running 1, .interrupted] := rfl
  obtain ⟨Z, result, numbers, last, hZ, -, he, hpub⟩ := hends ending h.result
  have hsplit : numbers.map ProgramState.running ++ [last] = [.running 1] ++ [.interrupted] :=
    hpub.states.symm.trans hstates
  obtain ⟨hnumbers, hlast⟩ := List.append_inj' hsplit rfl
  obtain rfl : last = .interrupted := List.singleton_inj.1 hlast
  obtain ⟨line, rfl, hline⟩ := List.map_eq_singleton_iff.1 hnumbers
  cases hline
  exact ⟨X₀, X, Y, ending, h, rfl, hshowing, Z, result, hZ, he, hpub⟩

end Runs

end CryoRig.Rig
