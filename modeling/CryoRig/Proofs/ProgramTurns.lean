import CryoRig.Control.Program
import CryoRig.Proofs.Paths

/-!
# How the turns of a program go

A turn of a program looks at the clock, at its token or at the site first; then it pauses, goes on,
begins a line or ends. What may be asked and replied in it, and what comes of it, is said here once.
What is true of turns is shown elsewhere for each way in which they go.

## Main definitions

* `CryoRig.Control.ProgramRun.Sleeps`: how a turn goes while a program sleeps.
* `CryoRig.Control.ProgramRun.Goes`: how a turn goes.

## Main results

* `CryoRig.Control.ProgramRun.goes_of_ends`: a turn goes in no other way.
* `CryoRig.Control.ProgramRun.sleeping_yields`: what a turn asks for while a program sleeps, whether
  or not it comes to its end.
-/

namespace CryoRig.Control.ProgramRun

open Script Process

variable {I : Interface} {site : Site I} {r : ProgramRun} {es : List (Exchange WorkSurroundings)}
  {result : Turn ProgramRun Ending}

/-! ## What is reported and published -/

/-- Something is reported. -/
def reported (event : Event) : Exchange WorkSurroundings := ⟨.rig (.device (.log event)), ()⟩

/-- Something is published. -/
def stated (console : Nat) (state : ProgramState) : Exchange WorkSurroundings :=
  ⟨.rig (.publish console state), ()⟩

/-- The end of a run that has failed: the fault is reported and it is published that it failed. -/
def closing (κ line : Nat) (fault : Fault) : List (Exchange WorkSurroundings) :=
  [reported (.programAborted line fault), stated κ .failed]

/-- A line is taken up: the token was not fired, and the line is published and reported. -/
def takingUp (r : ProgramRun) (l : Line) : List (Exchange WorkSurroundings) :=
  [⟨.rig (.fired r.token), false⟩, stated r.conduct.console (.running l.number),
    reported l.processing]

/-- Something is reported and published, and that is all. -/
lemma ends_close {α : Type} {κ : Nat} {event : Event} {state : ProgramState} {a b : α}
    (h : (do log event; publish κ state; pure a : Working α).Ends es b) :
    es = [reported event, stated κ state] ∧ b = a := by
  obtain ⟨es₁, es', _, rfl, h₁, h⟩ := ends_bind_iff.1 h
  obtain ⟨es₂, es₃, _, rfl, h₂, h₃⟩ := ends_bind_iff.1 h
  obtain rfl := ends_request_iff.1 h₁
  obtain rfl := ends_request_iff.1 h₂
  obtain ⟨rfl, rfl⟩ := ends_pure_iff.1 h₃
  exact ⟨rfl, rfl⟩

/-! ## What a turn does -/

/-- How long it is at `t` until a moment, or until the next look if there is no such moment. -/
def leftAt (r : ProgramRun) (until? : Option Instant) (t : Nat) : Duration :=
  match until? with
  | some moment => moment.since (.ofMillis t)
  | none => r.conduct.poll

/-- What is left of a turn of a run that sleeps, once it has looked at the clock. -/
def sleepOn (r : ProgramRun) (left : Duration) : Working (Turn ProgramRun Ending) :=
  if left = .zero then pure r.resume
  else do if ← fired r.token then pure r.resume else r.pauseFor (min left r.conduct.poll)

/-- What is left of a turn of a run that waits for something, once it has an answer. -/
def settle (r : ProgramRun) : Except Fault Bool → Working (Turn ProgramRun Ending)
  | .error fault => r.abort fault
  | .ok false => pure r.resume
  | .ok true => r.pauseFor r.conduct.poll

/-- A run that opens says what its script is. -/
lemma turn_of_opening (site : Site I) {announcements : List Event}
    (hphase : r.phase = .opening announcements) :
    turn site r = logAll announcements >>= fun _ => pure r.resume := by
  unfold turn
  simp only [hphase]

/-- A run without lines looks at its token first. -/
lemma turn_of_nil (site : Site I) (hphase : r.phase = .between) (hl : r.lines = []) :
    turn site r =
      fired r.token >>= fun isFired => if isFired then r.interrupted else r.complete := by
  unfold turn
  simp only [hphase, hl]

/-- So does a run that is to take up a line. -/
lemma turn_of_cons (site : Site I) {l : Line} {rest : List Line} (hphase : r.phase = .between)
    (hl : r.lines = l :: rest) :
    turn site r =
      fired r.token >>= fun isFired => if isFired then r.interrupted else r.begin site l rest := by
  unfold turn
  simp only [hphase, hl]

/-- A run that sleeps looks at the clock first. -/
lemma turn_of_sleeping (site : Site I) {until? : Option Instant}
    (hphase : r.phase = .sleeping until?) :
    turn site r = .ask (.rig .clock) fun (t : Nat) => r.sleepOn (r.leftAt until? t) := by
  unfold turn
  simp only [hphase]
  cases until? <;> rfl

/-- A run that waits for something asks about it first. -/
lemma turn_of_settling (site : Site I) {what : Awaited} (hphase : r.phase = .settling what) :
    turn site r = (underWay r.conduct.console what).run >>= r.settle := by
  unfold turn
  simp only [hphase]
  rfl

/-! ## Pauses -/

/-- A run that pauses goes on with what it was about, unless the pause was cut short. -/
lemma ends_pauseFor {span : Duration} (h : (r.pauseFor span).Ends es result) :
    ∃ passed : Bool, es = [⟨.rig (.pause r.token span), passed⟩] ∧
      result = if passed then .again r else r.resume := by
  obtain ⟨es₁, es₂, passed, rfl, h₁, h₂⟩ := ends_bind_iff.1 h
  obtain rfl := ends_request_iff.1 h₁
  cases passed <;> obtain ⟨rfl, rfl⟩ := ends_pure_iff.1 h₂
  · exact ⟨false, rfl, rfl⟩
  · exact ⟨true, rfl, rfl⟩

/-! ## Sleep -/

/-- How a turn of a run that sleeps goes. It looks at the clock first. -/
inductive Sleeps (r : ProgramRun) :
    List (Exchange WorkSurroundings) → Turn ProgramRun Ending → Prop where
  /-- The time is over. -/
  | rested (millis : Nat) : Sleeps r [⟨.rig .clock, millis⟩] r.resume
  /-- Its token was fired. -/
  | stopped (millis : Nat) :
    Sleeps r [⟨.rig .clock, millis⟩, ⟨.rig (.fired r.token), true⟩] r.resume
  /-- It pauses. -/
  | pauses (millis : Nat) (span : Duration) (passed : Bool) :
    Sleeps r [⟨.rig .clock, millis⟩, ⟨.rig (.fired r.token), false⟩,
      ⟨.rig (.pause r.token span), passed⟩] (if passed then .again r else r.resume)

/-- It goes in no other way. -/
lemma sleeps_of_ends {until? : Option Instant} (hphase : r.phase = .sleeping until?)
    (h : (turn site r).Ends es result) : Sleeps r es result := by
  rw [turn_of_sleeping site hphase] at h
  obtain ⟨millis, es', rfl, h'⟩ := ends_ask_iff.1 h
  unfold sleepOn at h'
  split at h'
  · obtain ⟨rfl, rfl⟩ := ends_pure_iff.1 h'
    exact .rested millis
  · obtain ⟨es₁, es₂, isFired, rfl, h₁, h₂⟩ := ends_bind_iff.1 h'
    obtain rfl := ends_request_iff.1 h₁
    cases isFired with
    | true =>
      obtain ⟨rfl, rfl⟩ := ends_pure_iff.1 h₂
      exact .stopped millis
    | false =>
      obtain ⟨passed, rfl, rfl⟩ := ends_pauseFor h₂
      exact .pauses millis _ passed

section Yields

variable {P : WorkRequest → Prop} {Q : Turn ProgramRun Ending → Prop}

lemma yields_of_pauseFor (span : Duration) (hpause : P (.rig (.pause r.token span)))
    (hresume : Q r.resume) (hagain : Q (.again r)) : (r.pauseFor span).Yields P Q := by
  refine ⟨hpause, fun passed => ?_⟩
  cases passed with
  | true => exact hagain
  | false => exact hresume

/-- While it sleeps a run looks at the clock, looks at its token and pauses. -/
lemma sleeping_yields {until? : Option Instant} (hphase : r.phase = .sleeping until?)
    (hclock : P (.rig .clock)) (hfired : P (.rig (.fired r.token)))
    (hpause : ∀ span, P (.rig (.pause r.token span))) (hresume : Q r.resume)
    (hagain : Q (.again r)) : (turn site r).Yields P Q := by
  rw [turn_of_sleeping site hphase]
  refine ⟨hclock, fun t => ?_⟩
  change (r.sleepOn (r.leftAt until? t)).Yields P Q
  unfold sleepOn
  split
  · exact hresume
  · refine ⟨hfired, fun isFired => ?_⟩
    change Bool at isFired
    cases isFired with
    | true => exact hresume
    | false => exact yields_of_pauseFor _ (hpause _) hresume hagain

end Yields

/-! ## Turns -/

/-- How a turn goes: what is asked and replied in it, and how it ends. -/
inductive Goes (site : Site I) (r : ProgramRun) :
    List (Exchange WorkSurroundings) → Turn ProgramRun Ending → Prop where
  /-- It says what its script is. -/
  | announces {announcements : List Event} {es : List (Exchange WorkSurroundings)} {u : Unit}
    (hphase : r.phase = .opening announcements) (hlog : (logAll announcements).Ends es u) :
    Goes site r es r.resume
  /-- Its token was fired. -/
  | interrupted (hphase : r.phase = .between) :
    Goes site r [⟨.rig (.fired r.token), true⟩, reported .programInterrupted,
      stated r.conduct.console .interrupted] (.over (.program (.ok r.sum)))
  /-- No line is left. -/
  | completed (hphase : r.phase = .between) (hl : r.lines = []) :
    Goes site r [⟨.rig (.fired r.token), false⟩, reported .programComplete,
      stated r.conduct.console .complete] (.over (.program (.ok r.sum)))
  /-- A line is taken up and refused. -/
  | refused {l : Line} {rest : List Line} {fault : LineFault} (hphase : r.phase = .between)
    (hl : r.lines = l :: rest) (hp : l.plan r.config = .error fault) :
    Goes site r (r.takingUp l ++ closing r.conduct.console l.number (.line fault))
      (.over (.program (.error (.line fault))))
  /-- A line is taken up, and what its plan says fails. -/
  | failed {l : Line} {rest : List Line} {step : Step} {fault : Fault}
    {es₁ es₂ : List (Exchange WorkSurroundings)} {u : Unit} (hphase : r.phase = .between)
    (hl : r.lines = l :: rest) (hp : l.plan r.config = .ok step)
    (hnotes : (logAll step.notes).Ends es₁ u)
    (hdeed : (perform site r.conduct l.number step.deed).run.Ends es₂ (.error fault)) :
    Goes site r (r.takingUp l ++ (es₁ ++ es₂) ++ closing r.conduct.console l.number fault)
      (.over (.program (.error fault)))
  /-- A line is taken up, and what its plan says is done or begun. -/
  | begun {l : Line} {rest : List Line} {step : Step} {phase : Phase}
    {es₁ es₂ : List (Exchange WorkSurroundings)} {u : Unit} (hphase : r.phase = .between)
    (hl : r.lines = l :: rest) (hp : l.plan r.config = .ok step)
    (hnotes : (logAll step.notes).Ends es₁ u)
    (hdeed : (perform site r.conduct l.number step.deed).run.Ends es₂ (.ok phase)) :
    Goes site r (r.takingUp l ++ (es₁ ++ es₂)) (.again
      { r with
        phase := phase, line := l.number, lines := rest, config := step.config
        sum := r.sum + step.charge })
  /-- It sleeps. -/
  | slept {until? : Option Instant} {es : List (Exchange WorkSurroundings)}
    {result : Turn ProgramRun Ending} (hphase : r.phase = .sleeping until?)
    (hsleeps : Sleeps r es result) : Goes site r es result
  /-- What it waits for fails. -/
  | failedWaiting {what : Awaited} {es : List (Exchange WorkSurroundings)} {fault : Fault}
    (hphase : r.phase = .settling what)
    (hgoing : (underWay r.conduct.console what).run.Ends es (.error fault)) :
    Goes site r (es ++ closing r.conduct.console r.line fault) (.over (.program (.error fault)))
  /-- What it waits for is over. -/
  | settled {what : Awaited} {es : List (Exchange WorkSurroundings)}
    (hphase : r.phase = .settling what)
    (hgoing : (underWay r.conduct.console what).run.Ends es (.ok false)) :
    Goes site r es r.resume
  /-- What it waits for is not over, and it pauses. -/
  | paused {what : Awaited} {es : List (Exchange WorkSurroundings)} (passed : Bool)
    (hphase : r.phase = .settling what)
    (hgoing : (underWay r.conduct.console what).run.Ends es (.ok true)) :
    Goes site r (es ++ [⟨.rig (.pause r.token r.conduct.poll), passed⟩])
      (if passed then .again r else r.resume)

/-- A line that is taken up is refused, or its plan fails, is done or begun. -/
lemma goes_of_begin {l : Line} {rest : List Line} (hphase : r.phase = .between)
    (hl : r.lines = l :: rest) (h : (r.begin site l rest).Ends es result) :
    Goes site r (⟨.rig (.fired r.token), false⟩ :: es) result := by
  obtain ⟨es₁, es', _, rfl, hpublish, h'⟩ := ends_bind_iff.1 h
  obtain ⟨es₂, es'', _, rfl, hlog, h''⟩ := ends_bind_iff.1 h'
  obtain rfl := ends_request_iff.1 hpublish
  obtain rfl := ends_request_iff.1 hlog
  cases hp : l.plan r.config with
  | error fault =>
    simp only [hp] at h''
    obtain ⟨rfl, rfl⟩ := ends_close h''
    exact .refused hphase hl hp
  | ok step =>
    simp only [hp] at h''
    obtain ⟨es₃, es₄, _, rfl, hnotes, hplan⟩ := ends_bind_iff.1 h''
    obtain ⟨es₅, es₆, phase?, rfl, hdeed, hend⟩ := ends_bind_iff.1 hplan
    cases phase? with
    | error fault =>
      obtain ⟨rfl, rfl⟩ := ends_close hend
      have hgoes := Goes.failed hphase hl hp hnotes hdeed
      simp only [takingUp, List.append_assoc] at hgoes
      exact hgoes
    | ok phase =>
      obtain ⟨rfl, rfl⟩ := ends_pure_iff.1 hend
      rw [List.append_nil]
      exact .begun hphase hl hp hnotes hdeed

/-- A turn goes in no other way. -/
theorem goes_of_ends (h : (turn site r).Ends es result) : Goes site r es result := by
  cases hphase : r.phase with
  | opening announcements =>
    rw [turn_of_opening site hphase] at h
    obtain ⟨es₁, es₂, _, rfl, hlog, h₂⟩ := ends_bind_iff.1 h
    obtain ⟨rfl, rfl⟩ := ends_pure_iff.1 h₂
    rw [List.append_nil]
    exact .announces hphase hlog
  | between =>
    cases hl : r.lines with
    | nil =>
      rw [turn_of_nil site hphase hl] at h
      obtain ⟨es₁, es₂, isFired, rfl, h₁, h₂⟩ := ends_bind_iff.1 h
      obtain rfl := ends_request_iff.1 h₁
      cases isFired <;> obtain ⟨rfl, rfl⟩ := ends_close h₂
      · exact .completed hphase hl
      · exact .interrupted hphase
    | cons l rest =>
      rw [turn_of_cons site hphase hl] at h
      obtain ⟨es₁, es₂, isFired, rfl, h₁, h₂⟩ := ends_bind_iff.1 h
      obtain rfl := ends_request_iff.1 h₁
      cases isFired with
      | true =>
        obtain ⟨rfl, rfl⟩ := ends_close h₂
        exact .interrupted hphase
      | false => exact goes_of_begin hphase hl h₂
  | sleeping until? => exact .slept hphase (sleeps_of_ends hphase h)
  | settling what =>
    rw [turn_of_settling site hphase] at h
    obtain ⟨es₁, es₂, going, rfl, hgoing, h₂⟩ := ends_bind_iff.1 h
    match going, hgoing, h₂ with
    | .error fault, hgoing, h₂ =>
      obtain ⟨rfl, rfl⟩ := ends_close h₂
      exact .failedWaiting hphase hgoing
    | .ok false, hgoing, h₂ =>
      obtain ⟨rfl, rfl⟩ := ends_pure_iff.1 h₂
      rw [List.append_nil]
      exact .settled hphase hgoing
    | .ok true, hgoing, h₂ =>
      obtain ⟨passed, rfl, rfl⟩ := ends_pauseFor h₂
      exact .paused passed hphase hgoing

end CryoRig.Control.ProgramRun
