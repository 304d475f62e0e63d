import CryoRig.Proofs.ProgramTurns
import CryoRig.Proofs.StopRules

/-!
# The turns of jobs keep to the rules

Programs and acquisitions settle turn by turn. The one turn that takes some care is that of a
program that starts an acquisition. Before it begins to, the program sees that it is not cancelled
and that the slot is empty; while it waits for files and instruments it is about to start; and once
it has started the acquisition it puts it into the slot without any further wait.

## Main definitions

* `CryoRig.Rig.Continues`: how a turn may end.
* `CryoRig.Rig.Starts`: work that goes on with the start of an acquisition.

## Main results

* `CryoRig.Rig.keeps_turnOf`: every turn of a job keeps to the rules.
-/

namespace CryoRig.Rig

open Control
open Process (AsksOnly run_lift_bind)

/-- A job whose program, if it is one, is run from the console `κ`. -/
def RunsOn (κ : Nat) : Job → Prop
  | .program run => run.conduct.console = κ
  | _ => True

/-- A turn of a job has ended: the job may go on to its next one, or it has come to its end. -/
def Continues {κ : Nat} (p : Party) : Turn Job Ending → Board κ → Prop
  | .again job, b => RunsOn κ job ∧ ∃ starter, b.Fits p (.ofJob starter job)
  | .over _, b => b.Fits p .absent

variable {κ : Nat} {α β : Type} {site : Site RigSurroundings} {p : Party}

/-! ## Work that changes nothing -/

lemma asks_tame_of_plain {r : WorkRequest} (h : r.Plain) : r.Asks Tame := by
  cases r with
  | rig r => exact Tame.of_plain h.asks.1
  | act => trivial

/-- What keeps to itself changes nothing on a board, whatever site carries it out. -/
lemma yields_tame (hs : Confined site) {Q : α → Prop} {w : Working α}
    (hw : w.Yields WorkRequest.Plain Q) : (carryOut site w).Yields Tame Q :=
  yields_carryOut hs (fun _ => Tame.of_plain) (hw.mono (fun _ => asks_tame_of_plain) fun _ h => h)

/-- Work that changes nothing on a board settles in the role of a job. -/
lemma Keeps.of_tame (hs : Confined site) {role : Role} (hr : Lasting κ role)
    (hc : ∀ post, role ≠ .caller post) {D : β → Board κ → Prop} {Q : β → Prop} {w : Working β}
    (hw : w.Yields (WorkRequest.Asks Tame) Q)
    (hD : ∀ a (b : Board κ), Q a → b.Fits p role → D a b) :
    Keeps p role D (carryOut site w) := by
  have hy : (carryOut site w).Yields Tame Q := yields_carryOut hs (fun _ => Tame.of_plain) hw
  exact .of_yields hr (hy.mono (fun r h => ⟨h, fun _ => hc⟩) fun _ h => h) hD

lemma Board.Fits.absent {b : Board κ} {role : Role} (h : b.Fits p role)
    (hr : ∀ n, role ≠ .caller (.stopping n)) : b.Fits p .absent :=
  h.turn (.finish _) hr fun _ => trivial

/-- The turns of an acquisition keep to the rules. -/
lemma keeps_acquisition (hs : Confined site) {σ : Type} {token : σ → Nat} {s : σ} (wrap : σ → Job)
    (hrole : ∀ starter s, Role.ofJob starter (wrap s) = .acquisition (token s) starter)
    (hrun : ∀ s, RunsOn κ (wrap s)) {turn : Working (Turn σ Ending)}
    (hw : turn.Yields WorkRequest.Plain (KeepsToken token s)) (starter : Party) :
    Keeps (κ := κ) p (.ofJob starter (wrap s)) (Continues p)
      (carryOut site (turn >>= fun t => pure (mapTurn wrap t))) := by
  have hw' : (turn >>= fun t => pure (mapTurn wrap t)).Yields (WorkRequest.Asks Tame)
      fun t => ∀ job, t = .again job → ∃ s', job = wrap s' ∧ token s' = token s := by
    refine (hw.mono (fun _ => asks_tame_of_plain) fun _ h => h).bind fun t ht => ?_
    cases t with
    | again s' =>
      rintro _ ⟨⟩
      exact ⟨s', rfl, ht s' rfl⟩
    | _ => rintro _ ⟨⟩
  rw [hrole]
  refine .of_tame hs (lasting_acquisition _ _) (by simp) hw' fun t b ht hb => ?_
  cases t with
  | again job =>
    obtain ⟨s', rfl, hs'⟩ := ht job rfl
    exact ⟨hrun s', starter, by rwa [hrole, hs']⟩
  | _ => exact hb.absent (by simp)

/-! ## The slot -/

section Slot

variable {token : Nat} {b : Board κ}

lemma not_isCaller (hb : b.Fits p (.program token none)) : ¬b.IsCaller p := by
  rintro ⟨post, hp⟩
  have h := hb.1
  rw [hp] at h
  cases h

/-- Stopping an acquisition comes down to firing its token. -/
lemma settles_stop (site : Site RigSurroundings) {role : Role} {a : Acquisition}
    (hr : Lasting κ role) (hb : (b.fire a.token).Fits p role) (limit : Duration) :
    Settles p (fun _ b' => b'.Fits p role) (carryOut site (a.stop limit)) b := by
  refine settles_ask id trivial fun _ b₁ h₁ => ?_
  obtain rfl : b₁ = _ := h₁
  refine Keeps.of_yields (Q := fun _ => True) hr ?_ (fun _ _ _ h => h) _ hb
  refine ⟨⟨trivial, by simp⟩, fun ms => ⟨⟨trivial, by simp⟩, fun ending => ?_⟩⟩
  change Option Ending at ending
  cases ending with
  | none => exact ⟨⟨trivial, by simp⟩, fun _ => trivial⟩
  | some ending => exact ⟨⟨trivial, by simp⟩, fun _ => trivial⟩

/-- A program may look into the slot. An acquisition that has ended is taken out of it. -/
lemma settles_acquisitionActive (hb : b.Fits p (.program token none)) :
    Settles p (fun active b' => b'.Fits p (.program token none) ∧ b'.tokens = b.tokens ∧
        (active = false → b'.slot = none))
      (carryOut site (acquisitionActive κ)) b := by
  refine settles_ask id trivial fun a? b' ha => ?_
  obtain ⟨hslot, rfl⟩ := ha
  replace hslot := hslot rfl
  change Option Acquisition at a?
  cases a? with
  | none => exact ⟨hb, rfl, fun _ => hslot.symm⟩
  | some a =>
    refine settles_ask id trivial fun hasEnded b' ha => ?_
    obtain ⟨hpresent, rfl⟩ := ha
    change Bool at hasEnded
    cases hasEnded with
    | false => exact ⟨hb, rfl, by simp⟩
    | true =>
      refine settles_ask id (fun _ h => absurd h (not_isCaller hb)) fun _ b₂ h₂ => ?_
      obtain rfl : b₂ = b' := h₂
      refine settles_ask id trivial fun _ b₃ h₃ => ?_
      obtain rfl := eq_setSlot_of_answers h₃ (.inl (not_isCaller hb))
      exact ⟨hb.removeEnded (by simp) hslot.symm (hpresent rfl), rfl, fun _ => rfl⟩

/-- A program may cancel the acquisition in the slot. -/
lemma settles_stopInSlot (hb : b.Fits p (.program token none))
    (limit : Duration) (line : Nat) :
    Settles p (fun _ b' => b'.Fits p (.program token none))
      (carryOut site (stopInSlot κ limit line)) b := by
  refine settles_ask id trivial fun a? b' ha => ?_
  obtain ⟨hslot, rfl⟩ := ha
  replace hslot := hslot rfl
  change Option Acquisition at a?
  refine settles_ask id trivial fun _ b₁ h₁ => ?_
  obtain rfl := eq_setSlot_of_answers h₁ (.inl (not_isCaller hb))
  cases a? with
  | none =>
    rw [Board.setSlot_none hslot.symm]
    refine settles_ask id (fun _ h => absurd h (not_isCaller hb)) fun _ b₂ h₂ => ?_
    obtain rfl : b₂ = b' := h₂
    exact hb
  | some a =>
    have hstop := settles_stop site (lasting_program token) (hb.cancel (by simp) hslot.symm) limit
    change Settles p _ (carryOut site (a.stop limit >>= fun _ => pure ())) _
    rw [carryOut_bind]
    exact hstop.bind fun _ _ h => h

end Slot

/-! ## Starts -/

section Starts

variable {token a : Nat} {D : β → Board κ → Prop}

/-- Work that goes on with the start of an acquisition settles from wherever a program is about to
start one. If it cannot come to that any more it settles from wherever a program is. -/
def Starts (p : Party) (token a : Nat) (D : β → Board κ → Prop) (w : RigWork β) : Prop :=
  Keeps p (.program token (some a)) D w ∧ (¬MayLaunch w → Keeps p (.program token none) D w)

lemma Starts.of_keeps {w : RigWork β} (h : Keeps p (.program token none) D w) :
    Starts p token a D w :=
  ⟨fun b hb => h b hb.go, fun _ => h⟩

lemma not_mayLaunch_iff {w : RigWork β} : ¬MayLaunch w ↔ w.AsksOnly fun r => ¬Launches r :=
  Classical.not_not

/-- What keeps to itself may precede a start. While it waits, the program is about to start an
acquisition just in case it can still come to that. -/
lemma Starts.bind {x : RigWork α} {f : α → RigWork β} {Q : α → Prop} (hx : x.Yields Tame Q)
    (hf : ∀ v, Q v → Starts p token a D (f v)) : Starts p token a D (x >>= f) := by
  change Starts p token a D (x.bind f)
  induction x with
  | done v => exact hf v hx
  | ask r next ih =>
    replace ih := fun reply => ih reply (hx.2 reply)
    have ht : TameIn (.program token none) r := ⟨hx.1, by simp⟩
    have hcase (b : Board κ) (hp : b.Becomes (b.role p) (.program token none))
        (hgo : ∀ reply, Settles p D ((next reply).bind f) b)
        (hwait : ∃ role, b.Fits p role ∧ Board.Resumes p r
          (∃ reply, MayLaunch ((next reply).bind f))
          (fun reply b' => Settles p D ((next reply).bind f) b') role) :
        Settles p D ((Process.ask r next).bind f) b := by
      refine ⟨ht.allows hp (by simp), fun reply b' ha => ?_, fun _ => ?_⟩
      · rw [hx.1.enter] at ha
        obtain rfl := hx.1.eq_of_answers ha
        exact hgo reply
      · rwa [hx.1.enter]
    have hnone (hn : ∀ reply, ¬MayLaunch ((next reply).bind f)) :
        Board.Resumes p r (∃ reply, MayLaunch ((next reply).bind f))
          (fun reply (b' : Board κ) => Settles p D ((next reply).bind f) b')
          (.program token none) := by
      refine ⟨by simp, by rintro _ _ ⟨⟩ h; exact absurd rfl h, fun b₂ hl he reply b' ha => ?_⟩
      obtain rfl := hx.1.eq_of_answers ha
      exact (ih reply).2 (hn reply) b' (hl.fits he (.go ..))
    refine ⟨fun b hb => ?_, fun hn b hb => ?_⟩
    · refine hcase b hb.go.1 (fun reply => (ih reply).1 b hb) ?_
      by_cases hm : ∃ reply, MayLaunch ((next reply).bind f)
      · refine ⟨_, hb, by simp, fun _ _ _ _ => hm, fun b₂ hl he reply b' ha => ?_⟩
        obtain rfl := hx.1.eq_of_answers ha
        exact (ih reply).1 b' (hl.fits he (.begin _ _ _ (.inl (by simp))))
      · exact ⟨_, hb.go, hnone (not_exists.1 hm)⟩
    · have hn' (reply : r.Reply) : ¬MayLaunch ((next reply).bind f) :=
        not_mayLaunch_iff.2 ((not_mayLaunch_iff.1 hn).2 reply)
      exact hcase b hb.1 (fun reply => (ih reply).2 (hn' reply) b hb) ⟨_, hb, hnone hn'⟩

/-- The start itself: the job is started and its acquisition put into the slot. -/
lemma starts_spawn (acquisition : Acquisition) (next : RigWork β) {job : Job}
    (hj : job.Samples acquisition.token) (hnext : Keeps p (.program token none) D next)
    {work : Nat → RigWork β} (hw : ∀ number, work number =
      .ask (.device (.log .experimentStarted)) fun _ =>
        .ask (.setSlot κ (some { acquisition with job := number })) fun _ => next) :
    Starts p token acquisition.token D (.ask (.spawn job) work) := by
  have hlaunch : Launches (.spawn job) := by
    cases job with
    | program => exact hj.elim
    | _ => trivial
  have hrole : Role.ofJob p job = .acquisition acquisition.token p := by
    cases job with
    | program => exact hj.elim
    | _ => exact congrArg (Role.acquisition · p) hj
  refine ⟨fun b hb => ?_, fun hn => absurd hlaunch (not_mayLaunch_iff.1 hn).1⟩
  have hallow : b.Allows p (.spawn job) := by
    have hp := hb.1
    generalize hr : b.role p = role at hp
    cases hp with
    | begin _ start? _ hn => cases job with
      | program => exact hj.elim
      | _ => exact ⟨token, start?, hr, hn⟩
  refine settles_ask (by cases job <;> exact id) hallow fun number b₁ h₁ => ?_
  obtain ⟨rfl, rfl⟩ := h₁
  rw [hw]
  have hfit := hb.start (a := { acquisition with job := b.count }) hrole rfl
  refine settles_ask id (fun h => by cases h) fun _ b₂ h₂ => ?_
  obtain rfl : b₂ = _ := h₂
  refine settles_ask id trivial fun _ b₃ h₃ => ?_
  obtain rfl := eq_setSlot_of_answers h₃ (.inr (by simp))
  exact hnext _ hfit

/-- The start of an acquisition that has its token. -/
def launch {I : Interface} (site : Site I) (tuning : Sampling.Tuning) (name : String)
    (protocol : Sampling.Protocol) (time : Calendar) (token : Nat) : Risky Acquisition := do
  let mode := protocol.mode
  let paths := Sampling.DataPaths.of tuning.dataDir tuning.sample name time
  log (.startingAcquisition name mode)
  let job ← prepareJob site tuning paths token protocol
  let number : Nat ← Control.ask (.spawn job)
  pure ⟨number, token, name, mode, site.layout mode, paths⟩

lemma startAcquisition_bind_run {I : Interface} (site : Site I) (tuning : Sampling.Tuning)
    (name : String) (protocol : Sampling.Protocol) (f : Acquisition → Risky β) :
    (startAcquisition site tuning name protocol >>= f).run =
      Control.ask .calendar >>= fun time => Control.ask .newToken >>= fun token =>
        (launch site tuning name protocol time token >>= f).run := rfl

lemma starts_launch (hs : Confined site) (tuning : Sampling.Tuning) (name : String)
    (protocol : Sampling.Protocol) (time : Calendar) :
    Starts p token a (fun _ (b : Board κ) => b.Fits p (.program token none))
      (carryOut site (launch site tuning name protocol time a >>= fun acquisition => do
        log .experimentStarted
        setSlot κ (some acquisition)).run) := by
  unfold launch
  rw [bind_assoc, run_lift_bind, carryOut_bind]
  refine Starts.bind (yields_tame hs (log_plain _).yields) fun _ _ => ?_
  rw [bind_assoc, ExceptT.run_bind, carryOut_bind]
  refine Starts.bind (yields_tame hs (prepareJob_yields _ _ _ _)) fun result hresult => ?_
  cases result with
  | error fault => exact Starts.of_keeps fun b hb => hb
  | ok job =>
    have hend : Keeps p (.program token none)
        (fun _ (b : Board κ) => b.Fits p (.program token none))
        (.done (.ok ()) : RigWork (Except Fault Unit)) := fun b hb => hb
    exact starts_spawn ⟨0, a, name, protocol.mode, site.layout protocol.mode,
      Sampling.DataPaths.of tuning.dataDir tuning.sample name time⟩ (.done (.ok ()))
      (hresult job rfl) hend fun number => rfl

/-- A program that is not cancelled may start an acquisition into the slot. -/
lemma settles_startInSlot (hs : Confined site) {b : Board κ} (hb : b.Fits p (.program token none))
    (hf : b.isFired token = false) (tuning : Sampling.Tuning) (name : String)
    (protocol : Sampling.Protocol) :
    Settles p (fun _ b' => b'.Fits p (.program token none))
      (carryOut site (startInSlot site κ tuning name protocol).run) b := by
  unfold startInSlot
  rw [run_lift_bind, carryOut_bind]
  refine (settles_acquisitionActive hb).bind fun active b₁ h₁ => ?_
  obtain ⟨hb₁, ht, hslot⟩ := h₁
  cases active with
  | true =>
    refine settles_ask id (fun h => by cases h) fun _ b₂ h₂ => ?_
    obtain rfl : b₂ = b₁ := h₂
    exact hb₁
  | false =>
    rw [if_neg (by simp), startAcquisition_bind_run, carryOut_ask_bind]
    refine settles_ask id trivial fun time b₂ h₂ => ?_
    obtain rfl : b₂ = b₁ := h₂
    rw [carryOut_ask_bind]
    refine settles_ask id trivial fun a b₃ h₃ => ?_
    obtain ⟨rfl, rfl⟩ := h₃
    have hb₃ : b₂.newToken.Fits p (.program token none) :=
      ⟨hb₁.1.of_ne_begin (by simp), hb₁.2.newToken⟩
    refine (starts_launch hs tuning name protocol time).1 _ (hb₃.begin ?_ (hslot rfl) ?_)
    · rw [Board.isFired_newToken, Board.isFired, ht]
      exact hf
    · simp [Board.newToken, Board.setTokens]

end Starts

/-! ## Turns of programs -/

section Turns

variable {r : ProgramRun}

/-- A turn that may be followed by another one of the same program. -/
def KeepsRun (r : ProgramRun) (t : Turn ProgramRun Ending) : Prop :=
  ∀ r', t = .again r' → r'.conduct = r.conduct ∧ r'.token = r.token

lemma KeepsRun.continues (hc : r.conduct.console = κ) {t : Turn ProgramRun Ending} {b : Board κ}
    (ht : KeepsRun r t) (hb : b.Fits p (.program r.token none)) :
    Continues p (mapTurn .program t) b := by
  cases t with
  | again r' =>
    obtain ⟨hconduct, htoken⟩ := ht r' rfl
    refine ⟨?_, p, ?_⟩
    · rw [RunsOn, hconduct]
      exact hc
    · rw [Role.ofJob, htoken]
      exact hb
  | _ => exact hb.absent (by simp)

lemma keeps_of_keepsRun (hs : Confined site) (hc : r.conduct.console = κ)
    {w : Working (Turn ProgramRun Ending)} (hw : w.Yields (WorkRequest.Asks Tame) (KeepsRun r)) :
    Keeps p (.program r.token none) (fun t (b : Board κ) => Continues p (mapTurn .program t) b)
      (carryOut site w) :=
  .of_tame hs (lasting_program _) (by simp) hw fun _ _ ht hb => ht.continues hc hb

lemma interrupted_yields : r.interrupted.Yields (WorkRequest.Asks Tame) (KeepsRun r) :=
  ⟨trivial, fun _ => ⟨trivial, fun _ => by rintro _ ⟨⟩⟩⟩

lemma complete_yields : r.complete.Yields (WorkRequest.Asks Tame) (KeepsRun r) :=
  ⟨trivial, fun _ => ⟨trivial, fun _ => by rintro _ ⟨⟩⟩⟩

lemma abort_yields {r' : ProgramRun} (fault : Fault) :
    (r'.abort fault).Yields (WorkRequest.Asks Tame) (KeepsRun r) :=
  ⟨trivial, fun _ => ⟨trivial, fun _ => by rintro _ ⟨⟩⟩⟩

lemma pauseFor_yields (span : Duration) :
    (r.pauseFor span).Yields (WorkRequest.Asks Tame) (KeepsRun r) := by
  refine ⟨trivial, fun passed => ?_⟩
  cases passed with
  | true => exact by rintro _ ⟨⟩; exact ⟨rfl, rfl⟩
  | false => exact by rintro _ ⟨⟩; exact ⟨rfl, rfl⟩

/-- What a line does leaves the program where it may be, if the program was not cancelled. -/
lemma settles_perform (hs : Confined site) {conduct : Conduct} (hc : conduct.console = κ)
    {token : Nat} {b : Board κ} (hb : b.Fits p (.program token none))
    (hf : b.isFired token = false) (line : Nat) (deed : Script.Deed) :
    Settles p (fun _ b' => b'.Fits p (.program token none))
      (carryOut site (perform site conduct line deed).run) b := by
  have hplain {w : Working (Except Fault Phase)} (hw : w.AsksOnly WorkRequest.Plain) :
      Settles p (fun _ b' => b'.Fits p (.program token none)) (carryOut site w) b :=
    Keeps.of_tame hs (lasting_program token) (by simp)
      (hw.yields.mono (fun _ => asks_tame_of_plain) fun _ h => h) (fun _ _ _ h => h) _ hb
  subst hc
  cases deed with
  | nothing => exact hb
  | start name protocol autorange =>
    rw [perform, ExceptT.run_bind, carryOut_bind]
    refine (settles_startInSlot hs hb hf _ _ _).bind fun result b' h => ?_
    cases result with
    | error => exact h
    | ok => exact h
  | stop =>
    rw [perform, run_lift_bind, carryOut_bind]
    exact (settles_stopInSlot hb _ _).bind fun _ _ h => h
  | wait seconds =>
    refine hplain ((log_plain _).run_lift.run_bind fun _ => ?_)
    exact now_plain.run_lift.run_bind fun _ => trivial
  | waitFor what => exact hplain ((log_plain _).run_lift.run_bind fun _ => trivial)
  | act a =>
    refine hplain ((actOrFail_plain a).run_bind fun _ => ?_)
    exact (logAll_plain _).run_lift.run_bind fun _ => trivial

/-- A program that is not cancelled may take up a line. -/
lemma settles_begin (hs : Confined site) (hc : r.conduct.console = κ) {b : Board κ}
    (hb : b.Fits p (.program r.token none)) (hf : b.isFired r.token = false) (l : Script.Line)
    (rest : List Script.Line) :
    Settles p (fun t (b : Board κ) => Continues p (mapTurn .program t) b)
      (carryOut site (r.begin site l rest)) b := by
  have hlog {events : List Event} : (carryOut site (logAll events)).AsksOnly fun q =>
      TameIn (.program r.token none) q ∧ ¬MayWait q := by
    induction events with
    | nil => trivial
    | cons event rest ih => exact ⟨⟨⟨trivial, by simp⟩, id⟩, fun _ => ih⟩
  unfold ProgramRun.begin
  refine settles_ask id trivial fun _ b₁ h₁ => ?_
  obtain rfl : b₁ = b := h₁
  refine settles_ask id (fun _ h => absurd h (not_isCaller hb)) fun _ b₂ h₂ => ?_
  obtain rfl : b₂ = b₁ := h₂
  dsimp only
  cases l.plan r.config with
  | error fault => exact keeps_of_keepsRun hs hc (abort_yields _) _ hb
  | ok step =>
    change Settles p _ (carryOut site (logAll step.notes >>= fun _ => _)) _
    rw [carryOut_bind]
    refine Settles.quick hb.1 (by simp) hlog fun _ => ?_
    rw [carryOut_bind]
    refine (settles_perform hs hc hb hf l.number step.deed).bind fun result b' hb' => ?_
    cases result with
    | error fault => exact keeps_of_keepsRun hs hc (abort_yields _) _ hb'
    | ok phase => exact ⟨hc, p, hb'⟩

/-- A program may look whether what it waits for is over. -/
lemma keeps_underWay (hs : Confined site) (hc : r.conduct.console = κ) (what : Script.Awaited)
    {f : Except Fault Bool → Working (Turn ProgramRun Ending)}
    (hf : ∀ result, (f result).Yields (WorkRequest.Asks Tame) (KeepsRun r)) :
    Keeps p (.program r.token none) (fun t (b : Board κ) => Continues p (mapTurn .program t) b)
      (carryOut site ((underWay r.conduct.console what).run >>= f)) := by
  have hact {w : Working (Except Fault Bool)} (hw : w.AsksOnly WorkRequest.Plain) :
      Keeps p (.program r.token none) (fun t (b : Board κ) => Continues p (mapTurn .program t) b)
        (carryOut site (w >>= f)) :=
    keeps_of_keepsRun hs hc ((hw.mono fun _ => asks_tame_of_plain).bind_yields hf)
  cases what with
  | field => exact hact (actOrFail_plain _)
  | temperature => exact hact (actOrFail_plain _)
  | acquisition =>
    intro b hb
    subst hc
    rw [underWay, ExceptT.run_liftM, map_eq_pure_bind, bind_assoc, carryOut_bind]
    refine (settles_acquisitionActive hb).bind fun active b' h => ?_
    exact keeps_of_keepsRun hs rfl (hf (.ok active)) _ h.1

/-- The turns of a program keep to the rules. -/
lemma keeps_program (hs : Confined site) (hc : r.conduct.console = κ) :
    Keeps p (.program r.token none) (fun t (b : Board κ) => Continues p (mapTurn .program t) b)
      (carryOut site (r.turn site)) := by
  have hresume : KeepsRun r r.resume := by
    rintro _ ⟨⟩
    exact ⟨rfl, rfl⟩
  cases hphase : r.phase with
  | opening announcements =>
    rw [ProgramRun.turn_of_opening site hphase]
    refine keeps_of_keepsRun hs hc ?_
    exact (((logAll_plain _).mono fun _ => asks_tame_of_plain)).bind_yields fun _ => hresume
  | between =>
    intro b hb
    cases hl : r.lines with
    | nil =>
      rw [ProgramRun.turn_of_nil site hphase hl]
      refine settles_ask id trivial fun isFired b₁ h₁ => ?_
      obtain ⟨hfired, rfl⟩ := h₁
      change Bool at isFired
      cases isFired with
      | true => exact keeps_of_keepsRun hs hc interrupted_yields _ hb
      | false => exact keeps_of_keepsRun hs hc complete_yields _ hb
    | cons l rest =>
      rw [ProgramRun.turn_of_cons site hphase hl]
      refine settles_ask id trivial fun isFired b₁ h₁ => ?_
      obtain ⟨hfired, rfl⟩ := h₁
      change Bool at isFired
      cases isFired with
      | true => exact keeps_of_keepsRun hs hc interrupted_yields _ hb
      | false => exact settles_begin hs hc hb hfired.symm l rest
  | sleeping until? =>
    refine keeps_of_keepsRun hs hc ?_
    refine ProgramRun.sleeping_yields hphase trivial trivial (fun _ => trivial) hresume ?_
    rintro _ ⟨⟩
    exact ⟨rfl, rfl⟩
  | settling what =>
    rw [ProgramRun.turn_of_settling site hphase]
    refine keeps_underWay hs hc what fun result => ?_
    rcases result with fault | _ | _
    · exact abort_yields _
    · exact hresume
    · exact pauseFor_yields _

/-- The turns of a job keep to the rules. -/
theorem keeps_turnOf (hs : Confined site) {job : Job} (hj : RunsOn κ job) (starter : Party) :
    Keeps (κ := κ) p (.ofJob starter job) (Continues p) (turnOf site job) := by
  cases job with
  | program run =>
    intro b hb
    unfold turnOf
    rw [carryOut_bind]
    exact (keeps_program hs hj b hb).bind fun t b' h => h
  | ticking state =>
    exact keeps_acquisition hs .ticking (fun _ _ => rfl) (fun _ => trivial) Ticking.turn_yields
      starter
  | supervision state =>
    exact
      keeps_acquisition hs .supervision (fun _ _ => rfl) (fun _ => trivial) Supervision.turn_yields
        starter

end Turns

end CryoRig.Rig
