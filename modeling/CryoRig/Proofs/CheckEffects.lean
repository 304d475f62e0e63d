import CryoRig.Proofs.DryRuns

/-!
# What a dry run makes of a rig

A dry run asks for nothing but what a console shows, publishes there and reports. All of that is
answered at once, so a dry run is gone through in successive steps of its party, and nobody else
does anything meanwhile. What comes of it was fixed before: it is read off the script alone.

## Main definitions

* `CryoRig.Control.OfDryRun`: what a dry run may ask for.
* `CryoRig.Rig.State.Displays`: how a rig may differ on which something was displayed.
* `CryoRig.Rig.AtOnce`: work that is done at once.

## Main results

* `CryoRig.Rig.AtOnce.follow`: work that is done at once is done in successive steps.
* `CryoRig.Rig.passes_checkScript`: a dry run is done at once.
* `CryoRig.Rig.Scene.dry_run`: it touches nothing, and its result depends on the script alone.
-/

namespace CryoRig

open Control Process

/-! ## What a dry run asks for -/

namespace Control

/-- What a dry run on a console may ask for: what it shows, to publish there, and to report. -/
def OfDryRun (κ : Nat) : WorkRequest → Prop
  | .rig (.published κ') | .rig (.publish κ' _) => κ' = κ
  | .rig (.device (.log _)) => True
  | _ => False

lemma asksOnly_logAll (κ : Nat) (events : List Event) :
    (logAll events).AsksOnly (OfDryRun κ) := by
  induction events with
  | nil => trivial
  | cons event rest ih => exact ⟨trivial, fun _ => ih⟩

/-- The site is asked for nothing, and neither is the rig for anything but what is displayed. -/
lemma asksOnly_checkScript (κ : Nat) (script : Script) :
    (checkScript κ script).run.AsksOnly (OfDryRun κ) := by
  rw [Rig.run_checkScript]
  refine AsksOnly.bind (asksOnly_request.2 rfl) fun found => ?_
  have hpublish (state : ProgramState) : (publish κ state).AsksOnly (OfDryRun κ) :=
    asksOnly_request.2 rfl
  refine (hpublish _).run_lift.run_bind fun _ => ?_
  refine (asksOnly_logAll κ _).run_lift.run_bind fun _ => ?_
  refine (asksOnly_logAll κ _).run_lift.run_bind fun _ => ?_
  cases (Script.rehearse .empty 0 script.program).2 with
  | ok seconds => exact (hpublish _).run_lift.run_bind fun _ => trivial
  | error fault => exact (hpublish _).run_lift.run_bind fun _ => trivial

end Control

namespace Rig

variable {α β γ : Type} {site : Site RigSurroundings} {κ : Nat} {p : Party} {s t u : State}

/-! ## What is displayed -/

/-- A party has reported something, and another state may be shown on one console. Otherwise the rig
is as it was: no time has passed, and no instrument, file, token or job is different. -/
structure State.Displays (κ : Nat) (p : Party) (s t : State) : Prop where
  /-- Nothing is different but what was reported and what is on the consoles. -/
  rest : t = { s with journal := t.journal, consoles := t.consoles }
  /-- Reports were added, all of them just now and by that party. -/
  journal : ∃ entries, t.journal = entries ++ s.journal ∧
    ∀ e ∈ entries, e.time = s.clock ∧ e.origin = p
  /-- The slots have the acquisitions that they had. -/
  slot : ∀ k, (t.console k).slot = (s.console k).slot
  /-- The other consoles show what they showed. -/
  others : ∀ k, k ≠ κ → t.console k = s.console k

namespace State.Displays

lemma refl (s : State) : s.Displays κ p s where
  rest := rfl
  journal := ⟨[], rfl, fun _ he => nomatch he⟩
  slot _ := rfl
  others _ _ := rfl

lemma trans (h : s.Displays κ p t) (h' : t.Displays κ p u) : s.Displays κ p u where
  rest := by rw [h'.rest, h.rest]
  journal := by
    obtain ⟨entries, ht, hentries⟩ := h.journal
    obtain ⟨entries', hu, hentries'⟩ := h'.journal
    have hclock : t.clock = s.clock := by rw [h.rest]
    refine ⟨entries' ++ entries, by rw [hu, ht, List.append_assoc], fun e he => ?_⟩
    rcases List.mem_append.1 he with he | he
    · rw [← hclock]
      exact hentries' e he
    · exact hentries e he
  slot k := (h'.slot k).trans (h.slot k)
  others k hk := (h'.others k hk).trans (h.others k hk)

lemma note (s : State) (event : Event) : s.Displays κ p (s.note p event) where
  rest := rfl
  journal := by
    refine ⟨[⟨s.clock, p, event⟩], rfl, fun e he => ?_⟩
    rw [List.mem_singleton.1 he]
    exact ⟨rfl, rfl⟩
  slot _ := rfl
  others _ _ := rfl

lemma publish (s : State) (state : ProgramState) :
    s.Displays κ p (s.setConsole κ { s.console κ with published := state }) where
  rest := rfl
  journal := ⟨[], rfl, fun _ he => nomatch he⟩
  slot k := by
    rw [State.console_setConsole]
    split
    · next hk => rw [hk]
    · rfl
  others k hk := by rw [State.console_setConsole, if_neg hk]

/-- Whatever the jobs are at is not displayed. -/
lemma of_jobs {jobs : Array JobStatus} (h : State.Displays κ p { s with jobs := jobs } t) :
    s.Displays κ p { t with jobs := s.jobs } where
  rest := congrArg (fun x : State => { x with jobs := s.jobs }) h.rest
  journal := h.journal
  slot := h.slot
  others := h.others

end State.Displays

/-! ## Work that is done at once -/

/-- Work of a party that displays something on a console and is done at once: from which rig it
starts, what comes of it, and the rig after it. -/
inductive AtOnce (κ : Nat) (p : Party) : State → RigWork β → β → State → Prop where
  /-- Nothing more is asked. -/
  | done {s : State} {b : β} : AtOnce κ p s (.done b) b s
  /-- Something is reported. -/
  | report {s t : State} {b : β} {event : Event} {next : Unit → RigWork β}
    (h : AtOnce κ p (s.note p event) (next ()) b t) :
    AtOnce κ p s (.ask (.device (.log event)) next) b t
  /-- The party looks what is shown. -/
  | look {s t : State} {b : β} {next : ProgramState → RigWork β}
    (h : AtOnce κ p s (next (s.console κ).published) b t) :
    AtOnce κ p s (.ask (.published κ) next) b t
  /-- A state is published. -/
  | publish {s t : State} {b : β} {state : ProgramState} {next : Unit → RigWork β}
    (h : AtOnce κ p (s.setConsole κ { s.console κ with published := state }) (next ()) b t) :
    AtOnce κ p s (.ask (.publish κ state) next) b t

namespace AtOnce

variable {w : RigWork β} {b : β}

/-- Work in sequence. -/
lemma bind {w : RigWork γ} {a : γ} {f : γ → RigWork β} (h : AtOnce κ p s w a t)
    (hf : AtOnce κ p t (f a) b u) : AtOnce κ p s (w >>= f) b u := by
  induction h with
  | done => exact hf
  | report _ ih => exact .report (ih hf)
  | look _ ih => exact .look (ih hf)
  | publish _ ih => exact .publish (ih hf)

/-- Nothing is different after it but what is displayed. -/
lemma displays (h : AtOnce κ p s w b t) : s.Displays κ p t := by
  induction h with
  | done => exact .refl _
  | report _ ih => exact (State.Displays.note _ _).trans ih
  | look _ ih => exact ih
  | publish _ ih => exact (State.Displays.publish _ _).trans ih

end AtOnce

namespace Scene

variable {c : Scene α}

lemma put_self {x : Foreground (p.Result α)} (h : c.at? p = some x) : c.put p x = c := by
  cases p with
  | foreground =>
    cases h
    rfl
  | job n =>
    have hn := at?_job_iff.1 h
    have hjobs : c.state.jobs.setIfInBounds n x.status = c.state.jobs := by
      refine Array.ext_getElem? fun k => ?_
      rw [Array.getElem?_setIfInBounds]
      split
      · next hk => rw [if_pos (lt_size_of_at? h), ← hk, hn]
      · rfl
    change { c with state := { c.state with jobs := c.state.jobs.setIfInBounds n x.status } } = c
    rw [hjobs]

/-- Whoever turns to something again has only turned to the latter. -/
lemma put_put (s : State) (x y : Foreground (p.Result α)) :
    ({ c.put p x with state := { s with jobs := (c.put p x).state.jobs } } : Scene α).put p y =
      ({ c with state := { s with jobs := c.state.jobs } } : Scene α).put p y := by
  cases p with
  | foreground => rfl
  | job n =>
    change ({ c with state := _ } : Scene α) = { c with state := _ }
    simp [State.setJob, put]

/-- Whoever runs and has a reply at once goes on with it. -/
lemma step_of_answer? (site : Site RigSurroundings) {r : Request}
    {next : r.Reply → RigWork (p.Result α)} {reply : r.Reply} (hr : c.Runs p)
    (hp : c.at? p = some (.running (.ask r next)))
    (ha : (c.state.enter p r).2.answer? p (c.state.enter p r).1 r = some (reply, t)) :
    c.step site = .more (({ c with state := t } : Scene α).put p (.running (next reply))) := by
  cases hr with
  | foreground hf =>
    have hrun : c.foreground = .running (.ask r next) := Option.some.inj hp
    simp only [step, hrun, ask, ha]
    rfl
  | job hw hn _ =>
    have hj := at?_job_iff.1 hp
    simp only [step, hw, hn, stepJob, hj, Foreground.status, ask, ha]
    rfl

/-- A party goes on with some work in successive steps, and by then the rig is as stated. Nobody
else does anything meanwhile, and in between nothing is different but what is displayed. -/
def Displaying (site : Site RigSurroundings) (κ : Nat) (c : Scene α) (p : Party)
    (work : RigWork (p.Result α)) (t : State) : Prop :=
  ∃ n, c.follow site n = ({ c with state := t } : Scene α).put p (.running work) ∧
    ∀ k ≤ n, ∃ u rest, c.follow site k = ({ c with state := u } : Scene α).put p (.running rest) ∧
      c.state.Displays κ p u

/-- After a step in which something is displayed. -/
lemma Displaying.of_answer? {r : Request} {next : r.Reply → RigWork (p.Result α)}
    {reply : r.Reply} {work : RigWork (p.Result α)} (hr : c.Runs p)
    (hp : c.at? p = some (.running (.ask r next)))
    (ha : (c.state.enter p r).2.answer? p (c.state.enter p r).1 r = some (reply, u))
    (hu : c.state.Displays κ p u)
    (h : ∀ d : Scene α, d.state = { u with jobs := d.state.jobs } → d.Runs p →
      d.at? p = some (.running (next reply)) →
        Displaying site κ d p work { t with jobs := d.state.jobs }) :
    Displaying site κ c p work { t with jobs := c.state.jobs } := by
  have hjobs : u.jobs = c.state.jobs := by rw [hu.rest]
  have hat : ({ c with state := u } : Scene α).at? p = some (.running (.ask r next)) :=
    (at?_mk hjobs p).trans hp
  have hruns : (({ c with state := u } : Scene α).put p (.running (next reply))).Runs p := by
    refine runs_put hat ?_
    rintro n rfl
    exact hr.job_current
  obtain ⟨n, hn, hbetween⟩ := h _ (state_put ..) hruns (at?_put_self hat)
  have hstep := step_of_answer? site hr hp ha
  have hput (v : State) (y : RigWork (p.Result α)) := put_put (c := { c with state := u })
    v (.running (next reply)) (.running y)
  simp only [hjobs] at hput
  refine ⟨n + 1, ?_, fun k hk => ?_⟩
  · rw [follow, hstep]
    exact hn.trans (hput t work)
  · cases k with
    | zero => exact ⟨c.state, _, (put_self hp).symm, .refl _⟩
    | succ k =>
      obtain ⟨v, rest, hv, hdisplays⟩ := hbetween k (Nat.le_of_succ_le_succ hk)
      have hsame := congrArg State.jobs hdisplays.rest
      refine ⟨{ v with jobs := c.state.jobs }, rest, ?_, ?_⟩
      · rw [follow, hstep]
        refine hv.trans (Eq.trans ?_ (hput v rest))
        rw [← hsame]
      · rw [state_put] at hdisplays
        rw [← hjobs]
        exact hu.trans hdisplays.of_jobs

end Scene

/-- Work that is done at once is done in successive steps of its party, whatever the jobs are at. -/
lemma AtOnce.follow {c : Scene α} {w : RigWork β} {b : β} {f : β → RigWork (p.Result α)}
    (h : AtOnce κ p s w b t) (hs : c.state = { s with jobs := c.state.jobs }) (hr : c.Runs p)
    (hp : c.at? p = some (.running (w >>= f))) :
    c.Displaying site κ p (f b) { t with jobs := c.state.jobs } := by
  induction h generalizing c with
  | done =>
    rw [← hs]
    refine ⟨0, (Scene.put_self hp).symm, fun k hk => ?_⟩
    obtain rfl := Nat.le_zero.1 hk
    exact ⟨c.state, _, (Scene.put_self hp).symm, .refl _⟩
  | report _ ih =>
    refine .of_answer? hr hp rfl (.note _ _) fun d hd hruns hat => ih ?_ hruns hat
    rw [hd, hs]
    rfl
  | look _ ih =>
    refine .of_answer? hr hp rfl (.refl _) fun d hd hruns hat => ih ?_ hruns ?_
    · rw [hd, hs]
      rfl
    · rw [hat, hs]
      rfl
  | publish _ ih =>
    refine .of_answer? hr hp rfl (.publish _ _) fun d hd hruns hat => ih ?_ hruns hat
    rw [hd, hs]
    rfl

/-! ## The dry run -/

lemma passes_logAll (site : Site RigSurroundings) (κ : Nat) (p : Party) (events : List Event)
    (s : State) :
    ∃ t, AtOnce κ p s (carryOut site (logAll events)) () t := by
  induction events generalizing s with
  | nil => exact ⟨s, .done⟩
  | cons event rest ih =>
    obtain ⟨t, ht⟩ := ih (s.note p event)
    exact ⟨t, .report ht⟩

/-- What a console shows after a dry run that began when it showed some state. -/
def shownAfterCheck {ε α : Type} (result : Except ε α) (shown : ProgramState) : ProgramState :=
  match result with
  | .ok _ => shown
  | .error _ => .failed

/-- A dry run is done at once, and its result is read off the script. -/
lemma passes_checkScript (site : Site RigSurroundings) (κ : Nat) (p : Party) (script : Script)
    (s : State) :
    ∃ t, AtOnce κ p s (carryOut site (checkScript κ script).run)
        (script.estimate.mapError Fault.line) t ∧
      t.showing κ = shownAfterCheck script.estimate (s.showing κ) := by
  have hshown (s : State) (state : ProgramState) :
      (s.setConsole κ { s.console κ with published := state }).showing κ = state := by
    rw [State.showing, State.console_setConsole, if_pos rfl]
  obtain ⟨t₁, h₁⟩ := passes_logAll site κ p script.announce
    (s.setConsole κ { s.console κ with published := .checking })
  obtain ⟨t₂, h₂⟩ := passes_logAll site κ p
    (Script.rehearse .empty 0 script.program).1 t₁
  suffices hrun : ∃ t, AtOnce κ p s (carryOut site (dryRun κ script (s.showing κ)).run)
      (script.estimate.mapError Fault.line) t ∧
      t.showing κ = shownAfterCheck script.estimate (s.showing κ) by
    obtain ⟨t, ht, hshows⟩ := hrun
    exact ⟨t, .look ht, hshows⟩
  simp only [dryRun, run_lift_bind, carryOut_bind, Script.estimate]
  cases (Script.rehearse .empty 0 script.program).2 with
  | ok seconds => exact ⟨_, .publish (h₁.bind (h₂.bind (.publish .done))), hshown _ _⟩
  | error fault => exact ⟨_, .publish (h₁.bind (h₂.bind (.publish .done))), hshown _ _⟩

/-- **A dry run touches nothing and depends on the script alone.** It asks no site for an action,
and the rig only for what is displayed. Wherever a party is about to begin one, whatever the site,
the clock, the instruments, the tokens, the jobs, the slots and the published states are, its party
comes to the end of it in successive steps; until then nothing is different but what is displayed.
Its result is read off the script. After it the console shows what it showed before, or that the
script is refused.

**Proof sketch.** Every request of a dry run is answered in the step in which it is made, and the
reply to all but the first of them says nothing. The first one tells what is shown, and that is only
published again. -/
theorem Scene.dry_run (script : Script) :
    (∀ κ, (checkScript κ script).run.AsksOnly (OfDryRun κ)) ∧
    ∀ {α : Type} (site : Site RigSurroundings) (κ : Nat) (c : Scene α) (p : Party)
      (f : Except Fault Float → RigWork (p.Result α)), c.Runs p →
      c.at? p = some (.running (carryOut site (checkScript κ script).run >>= f)) →
      ∃ t, c.Displaying site κ p (f (script.estimate.mapError Fault.line)) t ∧
        c.state.Displays κ p t ∧
        t.showing κ = shownAfterCheck script.estimate (c.state.showing κ) := by
  refine ⟨fun κ => asksOnly_checkScript κ script, fun site κ c p f hr hp => ?_⟩
  obtain ⟨t, ht, hshows⟩ := passes_checkScript site κ p script c.state
  have hjobs : t = { t with jobs := c.state.jobs } :=
    congrArg (fun x : State => { t with jobs := x.jobs }) ht.displays.rest
  refine ⟨t, ?_, ht.displays, hshows⟩
  rw [hjobs]
  exact ht.follow rfl hr hp

/-- A script is about to be checked on a bench. There is an acquisition in the slot, its job goes
on, and the token of a program was fired. -/
def disturbed (script : Script) : Scene (Except Fault Float) where
  state := { State.initial ⟨2024, 1, 1, 0, 0⟩ with
    tokens := #[true, false]
    jobs := #[.running (.done (.again (.ticking ⟨benchSession.conduct.tuning, .continuous, 0, 1, 0,
      none, .start 0 3 false, .start 0 none, 0, none⟩)))]
    ready := [0]
    consoles := [⟨.running 3, some ⟨0, 1, "sweep", .continuous, [], ⟨"", "", ""⟩⟩⟩] }
  foreground := .running (carryOut benchSite (checkScript 0 script).run >>= pure)
  current := none
  fresh := false

/-- A script that would stop that acquisition is checked, and then one that is refused. -/
theorem dry_run_disturbed :
    (∃ t, (disturbed ⟨["stop", "wait-for-program"]⟩).Displaying benchSite 0 .foreground
        (pure (.ok (0 + 0 + 0))) t ∧
      (t.console 0).slot.isSome ∧ t.jobs.size = 1 ∧ t.showing 0 = .running 3) ∧
    ∃ t, (disturbed ⟨["stop", "jump 1"]⟩).Displaying benchSite 0 .foreground
        (pure (.error (.line ⟨2, .unknownCommand "jump", .list⟩))) t ∧
      (t.console 0).slot.isSome ∧ t.jobs.size = 1 ∧ t.showing 0 = .failed := by
  constructor
  · obtain ⟨t, ht, hdisplays, hshows⟩ := (Scene.dry_run ⟨["stop", "wait-for-program"]⟩).2 benchSite
      0 (disturbed ⟨["stop", "wait-for-program"]⟩) .foreground pure (.foreground rfl) rfl
    refine ⟨t, ht, ?_, ?_, hshows⟩
    · rw [hdisplays.slot]
      rfl
    · rw [hdisplays.rest]
      rfl
  · obtain ⟨t, ht, hdisplays, hshows⟩ := (Scene.dry_run ⟨["stop", "jump 1"]⟩).2 benchSite 0
      (disturbed ⟨["stop", "jump 1"]⟩) .foreground pure (.foreground rfl) rfl
    refine ⟨t, ht, ?_, ?_, hshows⟩
    · rw [hdisplays.slot]
      rfl
    · rw [hdisplays.rest]
      rfl

end Rig

end CryoRig
