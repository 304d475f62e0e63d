import CryoRig.Proofs.StopTurns

/-!
# The calls of a session keep to the rules

A caller checks, starts, waits and stops, in any order and as often as it likes. A stop fires the
token of the program on the desk, so every program is cancelled from then on. It gets the desk and
waits for the end of the program, or gives up. In either case it empties the slot and cancels what
was in it, and if no program is about to start an acquisition then, all jobs are cleared. Otherwise
the board is spoiled.

## Main definitions

* `CryoRig.Rig.Call`, `CryoRig.Rig.Call.serve`: the calls of a session, and how they are answered.
* `CryoRig.Rig.Emptying`: where a stop is before it empties the slot.

## Main results

* `CryoRig.Rig.returns_stop`: when a stop says that it has come to its end, the jobs before it are
  cleared, or the board is spoiled.
* `CryoRig.Rig.returns_calls`: callers keep to the rules.
-/

namespace CryoRig.Rig

open Control
open Process (AsksOnly run_lift_bind)

variable {κ : Nat} {α β : Type} {site : Site RigSurroundings} {p : Party}

/-- Calls of a session. -/
inductive Call where
  /-- Check a script. -/
  | check (text : String)
  /-- Check a script and start it. -/
  | start (text : String)
  /-- Wait for the program. -/
  | wait
  /-- Stop the session. -/
  | stop
  /-- Call nothing for a while. -/
  | rest (span : Duration)

/-- What a call returns. -/
def Call.Reply : Call → Type
  | check _ => Except Fault Float
  | start _ => Except Fault Unit
  | wait => Except Fault (Option Float)
  | stop | rest _ => Unit

/-- What a caller can ask for. -/
def Calls : Interface := ⟨Call, Call.Reply⟩

/-- How a session answers a call. -/
def Call.serve (s : SessionSettings) : (c : Call) → Working c.Reply
  | check text => (Session.check s.conduct.console text).run
  | start text => (Session.start s text).run
  | wait => Session.wait.run
  | stop => Session.stop s
  | rest span => Control.ask (.device (.sleep span))

/-- A call returns with its caller where it was. -/
def Returns (κ : Nat) (p : Party) (w : RigWork β) : Prop :=
  Keeps p (.caller .away) (fun _ (b : Board κ) => b.Fits p (.caller .away)) w

/-! ## Checks -/

/-- A request of a caller that changes nothing on a board, is answered at once and does not say that
the session was stopped. The bus is left alone. -/
def Glance : WorkRequest → Prop
  | .rig r => (TameIn (.caller .away) r ∧ ¬MayWait r) ∧ r.OffBus
  | .act _ => False

lemma Glance.offBus {q : WorkRequest} (h : Glance q) : q.Asks Request.OffBus := by
  cases q with
  | rig r => exact h.2
  | act => exact h.elim

lemma carryOut_glance {w : Working α} (hw : w.AsksOnly Glance) :
    (carryOut site w).AsksOnly fun r => TameIn (.caller .away) r ∧ ¬MayWait r := by
  change (w.translate (ofWork site)).AsksOnly _
  induction w with
  | done => trivial
  | ask r next ih =>
    cases r with
    | rig r => exact ⟨hw.1.1, fun reply => ih reply (hw.2 reply)⟩
    | act => exact hw.1.elim

lemma log_glance {event : Event} (h : event ≠ .sessionStopped) : (log event).AsksOnly Glance :=
  ⟨⟨⟨⟨trivial, fun he => by cases he; exact absurd rfl h⟩, id⟩, trivial⟩, fun _ => trivial⟩

lemma logAll_glance {events : List Event} (h : ∀ event ∈ events, event ≠ .sessionStopped) :
    (logAll events).AsksOnly Glance := by
  induction events with
  | nil => trivial
  | cons event rest ih =>
    exact (log_glance (h event (by simp))).bind fun _ => ih fun e he => h e (by simp [he])

/-- The plan of a command has nothing to report of a session. -/
lemma notes_ne_sessionStopped {c : Script.RunConfig} {command : Script.Command}
    {step : Script.Step} (h : Script.plan c command = .ok step) :
    ∀ event ∈ step.notes, event ≠ .sessionStopped := by
  cases command with
  | startStep name parameter targets =>
    cases hrelax : c.stepRelax with
    | none =>
      rw [Script.plan, hrelax] at h
      cases h
    | some relax =>
      cases hmeasure : c.stepMeasure with
      | none =>
        rw [Script.plan, hrelax, hmeasure] at h
        cases h
      | some measure =>
        rw [Script.plan, hrelax, hmeasure] at h
        cases h
        simp
  | setTargetField tesla rate =>
    cases hfield : c.field with
    | none =>
      rw [Script.plan, hfield] at h
      cases h
    | some current =>
      rw [Script.plan, hfield] at h
      cases h
      simp
  | setTargetTemperature kelvin rate =>
    cases htemperature : c.temperature with
    | none =>
      rw [Script.plan, htemperature] at h
      cases h
    | some current =>
      rw [Script.plan, htemperature] at h
      cases h
      simp
  | _ =>
    cases h
    simp

/-- What a check reports is never the end of a stop. -/
lemma rehearse_ne_sessionStopped (c : Script.RunConfig) (sum : Float) (lines : List Script.Line) :
    ∀ event ∈ (Script.rehearse c sum lines).1, event ≠ .sessionStopped := by
  induction lines generalizing c sum with
  | nil => simp [Script.rehearse]
  | cons l rest ih =>
    cases hplan : l.plan c with
    | error fault => simp [Script.rehearse, hplan, Script.Line.processing]
    | ok step =>
      have hnotes : ∀ event ∈ step.notes, event ≠ .sessionStopped := by
        obtain ⟨command, -, hcommand⟩ := Script.Line.plan_eq_ok_iff.1 hplan
        exact notes_ne_sessionStopped hcommand
      intro event he
      simp only [Script.rehearse, hplan, List.cons_append, List.mem_cons, List.mem_append] at he
      rcases he with rfl | he | he
      · simp [Script.Line.processing]
      · exact hnotes event he
      · exact ih _ _ event he

lemma announce_ne_sessionStopped (s : Script) :
    ∀ event ∈ Script.announce s, event ≠ .sessionStopped := by
  intro event he
  simp only [Script.announce, List.cons_append, List.mem_cons, List.mem_append, List.mem_map,
    List.not_mem_nil, or_false] at he
  rcases he with rfl | ⟨text, -, rfl⟩ | rfl <;> simp

lemma publish_glance (console : Nat) (state : ProgramState) :
    (publish console state).AsksOnly Glance :=
  ⟨⟨⟨⟨trivial, by simp⟩, id⟩, trivial⟩, fun _ => trivial⟩

lemma published_glance (console : Nat) : (Control.ask (.published console)).AsksOnly Glance :=
  ⟨⟨⟨⟨trivial, by simp⟩, id⟩, trivial⟩, fun _ => trivial⟩

lemma checkScript_glance (console : Nat) (s : Script) :
    (checkScript console s).run.AsksOnly Glance := by
  refine (published_glance console).run_lift.run_bind fun previous => ?_
  refine (publish_glance _ _).run_lift.run_bind fun _ => ?_
  refine (logAll_glance (announce_ne_sessionStopped s)).run_lift.run_bind fun _ => ?_
  have hevents := rehearse_ne_sessionStopped .empty 0 s.program
  generalize Script.rehearse .empty 0 s.program = rehearsed at hevents
  obtain ⟨events, result⟩ := rehearsed
  refine (logAll_glance hevents).run_lift.run_bind fun _ => ?_
  cases result with
  | ok seconds => exact (publish_glance _ _).run_lift.run_bind fun _ => trivial
  | error fault => exact (publish_glance _ _).run_lift.run_bind fun _ => trivial

lemma check_glance (console : Nat) (text : String) :
    (Session.check console text).run.AsksOnly Glance := by
  unfold Session.check
  refine (checkScript_glance _ _).run_bind fun seconds => ?_
  refine (log_glance (by simp)).run_lift.run_bind fun _ => ?_
  split
  · exact (log_glance (by simp)).run_lift.run_bind fun _ => trivial
  · trivial

/-! ## Starts -/

lemma Board.Fits.becomes_away {b : Board κ} {post : Post} (h : b.Fits p (.caller post)) :
    b.Becomes (b.role p) (.caller .away) :=
  h.1.trans (.caller ..)

lemma Board.Fits.isCaller {b : Board κ} {post : Post} (h : b.Fits p (.caller post)) :
    b.IsCaller p := by
  have hp := h.1
  generalize hr : b.role p = role at hp
  cases hp
  exact ⟨_, hr⟩

lemma settles_programActive {b : Board κ} :
    Settles p (fun active b' => b' = b ∧
        (active = false → ∀ n, b.program = some n → b.role (.job n) = .absent))
      (carryOut site Session.programActive) b := by
  refine settles_ask id trivial fun job? b₁ h₁ => ?_
  obtain ⟨hjob, rfl⟩ := h₁
  change Option Nat at job?
  cases job? with
  | none => exact ⟨rfl, fun _ n hn => by rw [← hjob] at hn; cases hn⟩
  | some job =>
    refine settles_ask id trivial fun hasEnded b₂ h₂ => ?_
    obtain ⟨hpresent, rfl⟩ := h₂
    change Bool at hasEnded
    refine ⟨rfl, fun hactive n hn => ?_⟩
    rw [← hjob] at hn
    cases hn
    exact hpresent (by simpa using hactive)

/-- A caller that has just taken the free desk starts a program. When it leaves the desk all is
well. -/
lemma settles_startAtDesk {s : SessionSettings} (hc : s.conduct.console = κ) (text : String)
    {b : Board κ} (hb : b.Fits p (.caller .away)) (hd : b.desk.holder = none) :
    Settles p (fun _ b' => (b'.setDesk b'.desk.leave).Fits p (.caller .away))
      (carryOut site (Session.startAtDesk s text).run) (b.setDesk (b.desk.arrive p)) := by
  have hdesk : (b.desk.arrive p).leave = b.desk := Board.leave_arrive p hd (hb.2.held hd)
  have hleave : ((b.setDesk (b.desk.arrive p)).setDesk (b.desk.arrive p).leave).Fits p
      (.caller .away) := by
    rw [hdesk]
    exact hb
  unfold Session.startAtDesk
  rw [run_lift_bind, carryOut_bind]
  refine settles_programActive.bind fun active b₁ h₁ => ?_
  obtain ⟨rfl, hpresent⟩ := h₁
  cases active with
  | true => exact hleave
  | false =>
    replace hpresent := hpresent rfl
    rw [if_neg (by simp), ExceptT.run_bind, carryOut_bind]
    have haway : (b.setDesk (b.desk.arrive p)).Becomes (b.role p) (.caller .away) :=
      hb.becomes_away.congr fun _ h => h
    refine Settles.quick haway (by simp) (carryOut_glance (check_glance _ _)) fun result => ?_
    cases result with
    | error => exact hleave
    | ok seconds =>
      refine settles_ask id trivial fun token b₁ h₁ => ?_
      obtain ⟨rfl, rfl⟩ := h₁
      refine settles_ask id trivial fun _ b₂ h₂ => ?_
      obtain rfl : b₂ = _ := h₂
      refine settles_ask id ⟨hc, hb.isCaller⟩ fun job b₃ h₃ => ?_
      obtain ⟨rfl, rfl⟩ := h₃
      refine settles_ask id trivial fun _ b₄ h₄ => ?_
      obtain rfl : b₄ = _ := h₄
      refine settles_ask id (fun h => by cases h) fun _ b₅ h₅ => ?_
      obtain rfl : b₅ = _ := h₅
      have hnew : b.newToken.Fits p (.caller .away) :=
        ⟨hb.1.of_ne_begin (by simp), hb.2.newToken⟩
      let run := ProgramRun.start s.conduct b.tokens.size (Script.load text)
      have htoken : run.token < b.newToken.tokens.size := by
        simp [run, ProgramRun.start, Board.newToken, Board.setTokens]
      have hlaunch := hnew.launch run hd hpresent htoken
      change ((((b.newToken.spawn p (.program run)).setProgramToken run.token).setProgram
        (some b.count)).setDesk (b.desk.arrive p).leave).Fits p (.caller .away)
      rw [hdesk]
      exact hlaunch

/-- A start of a program keeps to the rules. -/
lemma returns_start {s : SessionSettings} (hc : s.conduct.console = κ) (text : String) :
    Returns κ p (carryOut site (Session.start s text).run) := by
  intro b hb
  refine settles_ask id trivial fun free b₁ h₁ => ?_
  change Bool at free
  rcases h₁ with ⟨hd, rfl, rfl⟩ | ⟨rfl, rfl⟩
  · change Settles p _ (carryOut site ((Session.startAtDesk s text).run >>= fun _ => _)) _
    rw [carryOut_bind]
    refine (settles_startAtDesk hc text hb hd).bind fun result b' h => ?_
    refine settles_ask id trivial fun _ b₂ h₂ => ?_
    obtain rfl : b₂ = _ := h₂
    exact h
  · exact hb

/-! ## The desk -/

section Desk

variable {D : β → Board κ → Prop} {b : Board κ}

/-- Whoever comes to the desk in some role gets it in that role, at once or later, or gives up if
there is a limit. -/
lemma settles_takeDesk {post : Post} {limit : Option Instant} {next : Bool → RigWork β}
    (hb : (b.setDesk (b.desk.arrive p)).Fits p (.caller post))
    (htaken : ∀ b' : Board κ, b'.Fits p (.caller post) → b'.desk.holder = some p →
      Settles p D (next true) b')
    (hgone : limit ≠ none → ∀ b' : Board κ, b'.Fits p (.caller post) →
      Settles p D (next false) (b'.setDesk (b'.desk.giveUp p))) :
    Settles p D (.ask (.takeDesk limit) next) b := by
  have hgo (b' : Board κ) (hb' : b'.Fits p (.caller post)) (reply : Bool) (b'' : Board κ)
      (ha : b'.Answers p (.takeDesk limit) reply b'') : Settles p D (next reply) b'' := by
    rcases ha with ⟨hd, rfl, rfl⟩ | ⟨hl, rfl, rfl⟩
    · exact htaken _ hb' hd
    · exact hgone hl _ hb'
  refine ⟨trivial, fun reply b' ha => hgo _ hb reply b' ha, fun _ => ⟨_, hb, by simp, ?_, ?_⟩⟩
  · rintro _ _ ⟨⟩
  · exact fun b' hl hr reply b'' ha => hgo b' (hl.fits hr (.caller ..)) reply b'' ha

/-- Whoever waits for the end of a job in some role goes on in that role when it has ended, or also
when it has not if there is a limit. -/
lemma settles_join {post : Post} {job : Nat} {limit : Option Instant}
    {next : Option Ending → RigWork β} (hb : b.Fits p (.caller post))
    (hnext : ∀ (ending : Option Ending) (b' : Board κ), b'.Fits p (.caller post) →
      (limit = none → b'.role (.job job) = .absent) → Settles p D (next ending) b') :
    Settles p D (.ask (.join job limit) next) b := by
  have hgo (b' : Board κ) (hb' : b'.Fits p (.caller post)) (ending : Option Ending)
      (b'' : Board κ) (ha : b'.Answers p (.join job limit) ending b'') :
      Settles p D (next ending) b'' := by
    obtain ⟨hpresent, hl, rfl⟩ := ha
    exact hnext ending _ hb' fun h => hpresent (hl h)
  refine ⟨trivial, fun ending b' ha => hgo _ hb ending b' ha, fun _ => ⟨_, hb, by simp, ?_, ?_⟩⟩
  · rintro _ _ ⟨⟩
  · exact fun b' hl hr ending b'' ha => hgo b' (hl.fits hr (.caller ..)) ending b'' ha

lemma Board.Fits.leave (hb : b.Fits p (.caller .away))
    (hd : ¬b.spoiled → b.desk.holder = some p) :
    (b.setDesk b.desk.leave).Fits p (.caller .away) :=
  ⟨hb.1.of_ne_begin (by simp), hb.2.leave hd (b.role_put_self ..)⟩

lemma Board.Fits.takeOff {post : Post} (hb : b.Fits p (.caller .away))
    (hn : ¬b.spoiled → ∀ n, b.program = some n → b.role (.job n) = .absent ∨ post = .stopping n)
    (hs : ¬b.spoiled → b.desk.holder = some p ∧
      ((b.put p (.caller .away)).setProgram none).Suits p (.caller post)) :
    (b.setProgram none).Fits p (.caller post) := by
  have hn' (hs : ¬b.spoiled) (n : Nat) (hpn : b.program = some n) :
      (b.put p (.caller .away)).role (.job n) = .absent ∨ post = .stopping n := by
    refine (hn hs n hpn).imp_left fun ho => ?_
    rw [Board.role_put_of_ne _ _ (hb.ne_of_absent (by simp) ho)]
    exact ho
  have hl : (((b.setProgram none).put p (.caller .away)).put p (.caller post)).Lawful :=
    hb.2.takeOff (b.role_put_self ..) hn' hs
  rw [Board.put_put] at hl
  exact ⟨(hb.1.trans (.caller _ post)).of_ne_begin (by simp), hl⟩

/-- What a board owes to a caller while it waits. -/
lemma Board.Fits.suits {post : Post} (hb : b.Fits p (.caller post)) (hn : ¬b.spoiled) :
    (b.put p (.caller post)).Suits p (.caller post) := by
  have hs := hb.2.suits hn p
  rwa [Board.role_put_self] at hs

/-- A caller may turn from anything but a program it has taken off the desk to nothing at all. -/
lemma Board.Fits.away {post : Post} (hb : b.Fits p (.caller post)) (hp : ∀ n, post ≠ .stopping n) :
    b.Fits p (.caller .away) :=
  hb.turn (.caller ..) (by simpa using hp) fun _ => trivial

end Desk

/-! ## Waits -/

/-- A wait for the program keeps to the rules. -/
lemma returns_wait : Returns κ p (carryOut site Session.wait.run) := by
  intro b hb
  have harrive : (b.setDesk (b.desk.arrive p)).Fits p (.caller .away) :=
    ⟨hb.1.of_ne_begin (by simp), hb.2.arrive p⟩
  refine settles_takeDesk harrive (fun b₁ hb₁ hd => ?_) fun h => absurd rfl h
  refine settles_ask id trivial fun job? b₂ h₂ => ?_
  obtain ⟨hjob, rfl⟩ := h₂
  change Option Nat at job?
  cases job? with
  | none =>
    refine settles_ask id trivial fun _ b₃ h₃ => ?_
    obtain rfl : b₃ = _ := h₃
    exact hb₁.leave fun _ => hd
  | some job =>
    have hcollect : b₂.Fits p (.caller (.collecting job)) :=
      hb₁.turn (.caller ..) (by simp) fun _ => ⟨hd, hjob.symm⟩
    refine settles_join hcollect fun ending b₃ hb₃ hpresent => ?_
    have haway : b₃.Fits p (.caller .away) := hb₃.away (by simp)
    refine settles_ask id trivial fun _ b₄ h₄ => ?_
    obtain rfl : b₄ = _ := h₄
    refine settles_ask id trivial fun _ b₅ h₅ => ?_
    obtain rfl : b₅ = _ := h₅
    refine Board.Fits.leave (haway.takeOff (fun hn n hpn => .inl ?_) fun hn => ?_)
      fun hn => (hb₃.suits hn).1
    · have he : some job = some n := (hb₃.suits hn).2.symm.trans hpn
      cases he
      exact hpresent rfl
    · exact ⟨(hb₃.suits hn).1, trivial⟩

/-! ## Stops -/

section Stop

variable {b : Board κ}

/-- Every program is cancelled, and as soon as none of them is about to start an acquisition a
caller that is stopping the session may turn to something else. If it does so earlier, the board is
spoiled. -/
structure Emptying (p : Party) (b : Board κ) : Prop where
  caller : b.IsCaller p
  silenced : ¬b.spoiled → (b.put p (.caller .away)).Silenced
  calm : (¬b.spoiled → b.Calm) → b.Fits p (.caller .away)
  spoil : b.spoil.Fits p (.caller .away)

/-- It does not matter to the programs what a caller does. -/
lemma silenced_put_caller {post : Post} (post' : Post) (h : (b.put p (.caller post)).Silenced) :
    (b.put p (.caller post')).Silenced := by
  have hs := h.put (p := p) (r := .caller post') (by rw [Board.role_put_self]; exact .caller ..)
  rwa [Board.put_put] at hs

/-- Taking the program off the desk and waiting for its end, a stop comes to where it may empty the
slot, however long that takes and whether or not it succeeds. -/
lemma settles_stopProgram (hb : b.Fits p (.caller .away))
    (hs : ¬b.spoiled → (b.put p (.caller .away)).Silenced) (limit : Option Instant) :
    Settles p (fun _ b' => Emptying p b') (carryOut site (Session.stopProgram limit)) b := by
  have hqueue : (b.setDesk (b.desk.arrive p)).Fits p (.caller .queueing) := by
    have harrive : (b.setDesk (b.desk.arrive p)).Fits p (.caller .away) :=
      ⟨hb.1.of_ne_begin (by simp), hb.2.arrive p⟩
    exact harrive.turn (.caller ..) (by simp) fun hn =>
      ⟨b.desk.holder_arrive_or_mem_line p, silenced_put_caller _ (hs hn)⟩
  refine settles_takeDesk hqueue (fun b₁ hb₁ hd => ?_) fun _ b₁ hb₁ => ?_
  all_goals
    have haway : b₁.Fits p (.caller .away) := hb₁.away (by simp)
    have hsil (hn : ¬b₁.spoiled) : (b₁.put p (.caller .away)).Silenced :=
      silenced_put_caller _ (hb₁.suits hn).2
  · refine settles_ask id trivial fun job? b₂ h₂ => ?_
    obtain ⟨hjob, rfl⟩ := h₂
    change Option Nat at job?
    refine settles_ask id trivial fun _ b₃ h₃ => ?_
    obtain rfl : b₃ = _ := h₃
    cases job? with
    | none =>
      refine settles_ask id trivial fun _ b₄ h₄ => ?_
      obtain rfl : b₄ = _ := h₄
      have hoff : (b₂.setProgram none).Fits p (.caller .away) := by
        refine haway.takeOff (fun _ n hn => ?_) fun _ => ⟨hd, trivial⟩
        rw [← hjob] at hn
        cases hn
      have hleave := hoff.leave fun _ => hd
      exact ⟨haway.isCaller, hsil, fun _ => hleave, hleave.spoil⟩
    | some job =>
      have hstop : (b₂.setProgram none).Fits p (.caller (.stopping job)) := by
        refine haway.takeOff (fun _ n hn => .inr ?_) fun hn => ⟨hd, hd, rfl, hsil hn⟩
        rw [← hjob] at hn
        cases hn
        rfl
      refine settles_join hstop fun ending b₃ hb₃ _ => ?_
      refine settles_ask id trivial fun _ b₄ h₄ => ?_
      obtain rfl : b₄ = _ := h₄
      have hspoil : (b₃.spoil.setDesk b₃.desk.leave).Fits p (.caller .away) :=
        Board.Fits.leave (b := b₃.spoil) hb₃.spoil fun hn => absurd trivial hn
      exact ⟨hb₃.isCaller, fun hn => silenced_put_caller _ (hb₃.suits hn).2.2,
        fun hc => (hb₃.letGo hc).leave fun hn => (hb₃.suits hn).1, hspoil⟩
  · have hgone : (b₁.setDesk (b₁.desk.giveUp p)).Fits p (.caller .away) := by
      refine ⟨haway.1.of_ne_begin (by simp), haway.2.giveUp ?_⟩
      rw [Board.role_put_self]
      simp
    exact ⟨haway.isCaller, hsil, fun _ => hgone, hgone.spoil⟩

/-- When the slot is emptied and what was in it is cancelled, nothing is left running, unless the
board is spoiled. -/
lemma Board.Fits.clear (hb : b.Fits p (.caller .away))
    (hs : ¬b.spoiled → (b.put p (.caller .away)).Silenced ∧ b.Calm) (hslot : b.slot = none) :
    b.Fits p (.caller .cleared) := by
  refine hb.turn (.caller ..) (by simp) fun hn => ?_
  obtain ⟨hsil, hc⟩ := hs hn
  have hcalm : (b.put p (.caller .away)).Calm := by
    intro t token start? ht
    rw [Board.role_put] at ht
    split at ht
    · cases ht
    · exact hc t token start? ht
  have hcl : (b.put p (.caller .away)).Cleared (b.mark p) :=
    hb.2.cleared hn hsil hcalm hslot (hb.2.mark_le p)
  have hcl' : ((b.put p (.caller .away)).put p (.caller .cleared)).Cleared (b.mark p) :=
    hcl.put (by rw [Board.role_put_self]; exact .caller ..)
  rwa [Board.put_put] at hcl'

/-- Whoever has cleared the jobs before its stop may say that the session was stopped. -/
lemma settles_sessionStopped (hb : b.Fits p (.caller .cleared)) :
    Settles p (fun _ (b' : Board κ) => b'.Fits p (.caller .away))
      (carryOut site (log .sessionStopped)) b := by
  refine settles_ask id (fun _ _ hn => ?_) fun _ b₁ h₁ => ?_
  · have hcleared : (b.put p (.caller .cleared)).Cleared (b.mark p) := hb.suits hn
    have hp := hb.1
    generalize hr : b.role p = role at hp
    cases hp with
    | caller post =>
      have hback : ((b.put p (.caller .cleared)).put p (.caller post)).Cleared (b.mark p) :=
        hcleared.put (by rw [Board.role_put_self]; exact .caller ..)
      rwa [Board.put_put, ← hr, Board.put_self] at hback
  · obtain rfl : b₁ = b := h₁
    exact hb.away (by simp)

/-- Either nobody is about to start an acquisition when the slot is emptied, or the board is spoiled
from then on. -/
lemma Emptying.answers (hb : Emptying p b) {b' : Board κ} {reply : Unit}
    (h : b.Answers p (.setSlot κ none) reply b') :
    ∃ b₀ : Board κ, b₀.slot = b.slot ∧ b' = b₀.setSlot none ∧ b₀.Fits p (.caller .away) ∧
      (¬b₀.spoiled → (b₀.put p (.caller .away)).Silenced ∧ b₀.Calm) := by
  rcases h.1 rfl with ⟨rfl, hcalm⟩ | ⟨-, -, -, rfl⟩
  · replace hcalm := hcalm hb.caller rfl
    exact ⟨b, rfl, rfl, hb.calm fun _ => hcalm, fun hn => ⟨hb.silenced hn, hcalm⟩⟩
  · exact ⟨b.spoil, rfl, rfl, hb.spoil, fun hn => absurd trivial hn⟩

/-- The end of a stop: the slot is emptied, what was in it is cancelled, and nothing is left running
of the jobs before the stop, unless the board is spoiled. -/
lemma settles_emptying (limit : Duration) (hb : Emptying p b) :
    Settles p (fun _ (b' : Board κ) => b'.Fits p (.caller .away))
      (carryOut site (do
        let a? ← slot κ
        setSlot κ none
        if let some a := a? then
          log (.waitingForAcquisitionStop limit)
          let _ ← a.stop limit
        log .sessionStopped)) b := by
  refine settles_ask id trivial fun a? b₁ h₁ => ?_
  obtain ⟨hslot, rfl⟩ := h₁
  replace hslot := hslot rfl
  change Option Acquisition at a?
  refine settles_ask id trivial fun _ b₂ h₂ => ?_
  obtain ⟨b₀, hslot₀, rfl, hfit, hsil⟩ := hb.answers h₂
  rw [← hslot₀] at hslot
  cases a? with
  | none =>
    rw [Board.setSlot_none hslot.symm]
    exact settles_sessionStopped (hfit.clear hsil hslot.symm)
  | some a =>
    refine settles_ask id (fun h => by cases h) fun _ b₃ h₃ => ?_
    obtain rfl : b₃ = _ := h₃
    have hclear : ((b₀.setSlot none).fire a.token).Fits p (.caller .cleared) := by
      refine (hfit.cancel (by simp) hslot.symm).clear (fun hn => ⟨?_, (hsil hn).2⟩) rfl
      intro t token start? ht
      exact Board.isFired_fire_of (b₀.setSlot none) a.token ((hsil hn).1 t token start? ht)
    change Settles p _ (carryOut site (a.stop limit >>= fun _ => log .sessionStopped)) _
    rw [carryOut_bind]
    exact (settles_stop site (lasting_caller _) hclear limit).bind fun _ _ h =>
      settles_sessionStopped h

/-- A stop keeps to the rules: when it says that the session was stopped nothing is left running of
the jobs before it, unless the board is spoiled. -/
lemma returns_stop {s : SessionSettings} (hc : s.conduct.console = κ) :
    Returns κ p (carryOut site (Session.stop s)) := by
  intro b hb
  refine settles_ask id hb.isCaller fun token b₁ h₁ => ?_
  obtain ⟨rfl, rfl⟩ := h₁
  refine settles_ask id trivial fun _ b₂ h₂ => ?_
  obtain rfl : b₂ = _ := h₂
  refine settles_ask id (fun h => by cases h) fun _ b₃ h₃ => ?_
  obtain rfl : b₃ = _ := h₃
  refine settles_ask id trivial fun ms b₄ h₄ => ?_
  obtain rfl : b₄ = _ := h₄
  have hmark := hb.setMark
  have hfire : ((b.setMark p).fire b.programToken).Fits p (.caller .away) :=
    ⟨hmark.1.of_ne_begin (by simp), hmark.2.fire _⟩
  change Settles p _ (carryOut site (Session.stopProgram _ >>= fun inTime => _)) _
  rw [carryOut_bind]
  refine (settles_stopProgram hfire hmark.2.silenced_fire _).bind fun inTime b' hb' => ?_
  subst hc
  cases inTime with
  | true => exact settles_emptying _ hb'
  | false =>
    refine settles_ask id (fun h => by cases h) fun _ b₅ h₅ => ?_
    obtain rfl : b₅ = _ := h₅
    exact settles_emptying _ hb'

end Stop

/-! ## Calls -/

/-- Every call of a session keeps to the rules. -/
theorem returns_serve {s : SessionSettings} (hc : s.conduct.console = κ) (c : Call) :
    Returns κ p (carryOut site (c.serve s)) := by
  cases c with
  | check text =>
    refine Keeps.of_yields (lasting_caller _) ?_ fun _ b (_ : True) h => h
    exact ((carryOut_glance (check_glance _ _)).mono fun _ h => h.1).yields
  | start text => exact returns_start hc text
  | wait => exact returns_wait
  | stop => exact returns_stop hc
  | rest span =>
    refine Keeps.of_yields (lasting_caller _) ?_ fun _ b (_ : True) h => h
    exact ⟨⟨trivial, by simp⟩, fun _ => trivial⟩

/-- Whatever calls a caller makes, one after the other, it keeps to the rules. -/
theorem returns_calls {s : SessionSettings} (hc : s.conduct.console = κ)
    (client : Process Calls α) :
    Returns κ p (carryOut site (client.translate (Call.serve s))) := by
  induction client with
  | done a => exact fun b hb => hb
  | ask c next ih =>
    intro b hb
    change Settles p _ (carryOut site (Call.serve s c >>= fun reply =>
      (next reply).translate (Call.serve s))) b
    rw [carryOut_bind]
    exact (returns_serve hc c b hb).bind fun reply b' hb' => ih reply b' hb'

end CryoRig.Rig
