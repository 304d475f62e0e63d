import CryoRig.Proofs.PunctualWaits

/-!
# Waits for something to settle

A program that waits for the field or the temperature asks whether it is still under way, pauses for
an interval if it is, and asks again. So a wait that is told so many times that it is, and then that
it is not, has asked once more than it has paused. Every pause lasts for one interval unless the
token of the program is fired, which ends the wait before the interval is over. A fault of an
instrument ends the program.

The wait goes from one question to the next, and nothing else is told to the program in between.
The relations between scenes of a course follow these rounds.

## Main definitions

* `CryoRig.Rig.Scene.Inquires`: one question, with its answer.
* `CryoRig.Rig.Scene.Polls`: one pause.
* `CryoRig.Rig.Scene.Polled`: so many rounds of both.
* `CryoRig.Rig.Scene.Settling`: where a program is that has begun to wait.

## Main results

* `CryoRig.Rig.Scene.Timeline.settling_step`: how a program goes on waiting.
* `CryoRig.Rig.Scene.Timeline.settling`: how a program waits for something to settle.
* `CryoRig.Rig.Scene.Timeline.waits_end_on_time`: waits end on time.
-/

namespace CryoRig

open Process

namespace Control

open Script Rig

/-! ## Turns of a wait for something to settle -/

namespace ProgramRun

variable {site : Site RigSurroundings} {r : ProgramRun}

/-- The question whether what a program waits for is still under way. -/
def inquiry (site : Site RigSurroundings) (r : ProgramRun) (what : Awaited) :
    RigWork (Except Fault Bool) :=
  carryOut site (underWay r.conduct.console what).run

/-- What is left of a turn that ends the program. -/
def failing (r : ProgramRun) (fault : Fault) : RigWork (Turn Job Ending) :=
  .ask (.device (.log (.programAborted r.line fault))) fun _ =>
    .ask (.publish r.conduct.console .failed) fun _ => .done (.over (.program (.error fault)))

/-- What is left of a turn that has an answer to its question. -/
def deciding (r : ProgramRun) : Except Fault Bool → RigWork (Turn Job Ending)
  | .error fault => r.failing fault
  | .ok false => .done (mapTurn .program r.resume)
  | .ok true => r.pausing r.conduct.poll

/-- A turn of a program that waits for something to settle asks whether it is under way. -/
lemma turnOf_settling {what : Awaited} (hphase : r.phase = .settling what) :
    turnOf site (.program r) = r.inquiry site what >>= r.deciding := by
  change carryOut site (turn site r >>= fun t => pure (mapTurn Job.program t)) = _
  rw [turn_of_settling site hphase, LawfulMonad.bind_assoc, carryOut_bind]
  congr 1
  funext result
  cases result with
  | error fault => rfl
  | ok underWay =>
    cases underWay with
    | false => rfl
    | true => exact carryOut_pauseFor _

end ProgramRun

end Control

namespace Rig

open Control Script

variable {α : Type} {site : Site RigSurroundings}

namespace Scene

/-! ## Programs that end with a fault -/

section Failing

variable {c : Nat → Scene α} {i j n : Nat} {r : ProgramRun} {fault : Fault} {ending : Ending}

lemma Timeline.ending?_succ (h : Timeline site c)
    (hj : (c j).state.ending? n = some ending) : (c (j + 1)).state.ending? n = some ending := by
  by_cases hs : (c j).step site = .more (c (j + 1))
  · obtain ⟨asked, reply?, hp⟩ := proceeds_of_step hs
    exact hp.ending? hj
  · rwa [h.state_eq hs]

/-- A job that is at the end of its last turn ends before any time passes. -/
lemma Timeline.over_or_ended (h : Timeline site c)
    (hat : (c i).at? (.job n) = some (.running (.done (.over ending)))) (hij : i ≤ j) :
    ((c j).at? (.job n) = some (.running (.done (.over ending))) ∧
      (c j).state.clock = (c i).state.clock) ∨ (c j).state.ending? n = some ending := by
  induction hij with
  | refl => exact .inl ⟨hat, rfl⟩
  | @step j hij ih =>
    rcases ih with ⟨hj, hclock⟩ | hended
    · by_cases hs : (c j).step site = .more (c (j + 1))
      · have hstay := h.clock_succ ((h.punctual j).inLine_of_running hj)
        obtain ⟨asked, reply?, hp⟩ := proceeds_of_step hs
        rcases hp.moves hj with ⟨y, hy, hmove⟩ | ⟨ending', hx, -, hended⟩
        · generalize toldTo (.job n) reply?.toList = told at hmove
          cases hmove with
          | still => exact .inl ⟨hy, hstay.trans hclock⟩
        · cases hx
          exact .inr hended
      · have hstate := h.state_eq hs
        exact .inl ⟨(at?_of_state_eq hstate n).trans hj, by rw [hstate, hclock]⟩
    · exact .inr (h.ending?_succ hended)

/-- A program ends with a fault: it is about to, or it has. -/
def EndsWith (c : Nat → Scene α) (n : Nat) (r : ProgramRun) (fault : Fault) (a j : Nat) : Prop :=
  (∃ work es, (c j).at? (.job n) = some (.running work) ∧ (r.failing fault).Leads es work ∧
    (c j).state.clock = (c a).state.clock) ∨
  (c j).state.ending? n = some (.program (.error fault))

/-- A program that has a fault ends with it before any time passes. -/
lemma Timeline.fails (h : Timeline site c)
    (hat : (c i).at? (.job n) = some (.running (r.failing fault))) (hij : i ≤ j) :
    EndsWith c n r fault i j := by
  have hquick : (r.failing fault).AsksOnly fun q => ¬MayWait q :=
    ⟨id, fun _ => ⟨id, fun _ => trivial⟩⟩
  obtain ⟨told, htold⟩ := exists_tells site c hij
  rcases h.hurries hat hquick htold with ⟨work, hj⟩ | ⟨m, before, result, him, hmj, -, hm⟩
  · exact .inl ⟨work, _, hj.at_eq, hj.leads, hj.clock_eq⟩
  · have hend : result = .over (.program (.error fault)) := by
      obtain ⟨_, es₁, -, h₁⟩ := ends_ask_iff.1 hm.leads
      obtain ⟨_, es₂, -, h₂⟩ := ends_ask_iff.1 h₁
      exact (ends_done_iff.1 h₂).2.symm
    subst hend
    rcases h.over_or_ended hm.at_eq hmj with ⟨hj, hclock⟩ | hended
    · exact .inl ⟨_, _, hj, hm.leads, hclock.trans hm.clock_eq⟩
    · exact .inr hended

end Failing

/-! ## Programs that wait for something to settle -/

section Settling

variable {c : Nat → Scene α} {i j k m a b n : Nat} {r : ProgramRun} {what : Awaited}

/-- From one scene to another a program asks once whether what it waits for is under way. It has
just had the answer, and nothing else was told to it. -/
structure Inquires (site : Site RigSurroundings) (c : Nat → Scene α) (n : Nat) (r : ProgramRun)
    (what : Awaited) (m a : Nat) (answer : Except Fault Bool) : Prop where
  /-- The question. -/
  told : ∃ told, Tells site c m a told ∧ (r.inquiry site what).Ends (toldTo (.job n) told) answer
  /-- What comes of it. -/
  at_eq : (c a).at? (.job n) = some (.running (r.deciding answer))

/-- From one scene to another a program pauses once. The pause is just over, and nothing else was
told to the program. -/
structure Polls (site : Site RigSurroundings) (c : Nat → Scene α) (n : Nat) (r : ProgramRun)
    (a b : Nat) (passed : Bool) : Prop where
  /-- The pause. -/
  told : ∃ told, Tells site c a b told ∧
    toldTo (.job n) told = [⟨.pause r.token r.conduct.poll, passed⟩]
  /-- What comes of it. -/
  at_eq : (c b).at? (.job n) = some (.running (r.paused passed))
  /-- It has lasted for one interval if it has passed, and its token was not fired. -/
  of_passed : passed = true → (c b).state.clock = r.conduct.poll.ringsAt (c a).state.clock ∧
    ∀ f, f < b → (c f).state.isFired r.token = false
  /-- Otherwise its token was fired, and it has lasted no longer. -/
  of_fired : passed = false → (c b).state.isFired r.token = true ∧
    (c b).state.clock ≤ r.conduct.poll.ringsAt (c a).state.clock
  /-- No time has passed since the token was fired. -/
  at_once : ∀ f, f ≤ b → (c f).state.isFired r.token = true →
    (c b).state.clock ≤ max (c a).state.clock (c f).state.clock

/-- A program pauses since a scene of a course, and was told nothing. -/
structure Pausing (site : Site RigSurroundings) (c : Nat → Scene α) (n : Nat) (r : ProgramRun)
    (a j : Nat) : Prop where
  /-- Nothing was told. -/
  told : ∃ told, Tells site c a j told ∧ toldTo (.job n) told = []
  /-- It pauses. -/
  pauses : (c j).Pauses n r.token r.conduct.poll r.paused (c a).state.clock
  /-- No more than one interval has passed. -/
  in_time : (c j).state.clock ≤ r.conduct.poll.ringsAt (c a).state.clock
  /-- No time has passed since its token was fired. -/
  at_once : ∀ f, f ≤ j → (c f).state.isFired r.token = true →
    (c j).state.clock ≤ max (c a).state.clock (c f).state.clock
  /-- It can go on once its token was fired or the interval is over. -/
  inLine : (c j).state.isFired r.token = true ∨
    r.conduct.poll.ringsAt (c a).state.clock ≤ (c j).state.clock → (c j).InLine n
  /-- The rig is not stuck. -/
  not_stuck : (c j).step site ≠ .stuck

/-- Since a scene a program has so many times been told that what it waits for is under way, and
has let one interval pass each time. -/
inductive Polled (site : Site RigSurroundings) (c : Nat → Scene α) (n : Nat) (r : ProgramRun)
    (what : Awaited) (i : Nat) : Nat → Nat → Prop where
  /-- Not yet. -/
  | start : Polled site c n r what i 0 i
  /-- Once more. -/
  | next {k m a b : Nat} (h : Polled site c n r what i k m)
    (hasked : Inquires site c n r what m a (.ok true)) (hpassed : Polls site c n r a b true) :
    Polled site c n r what i (k + 1) b

/-- Where a program is that has begun to wait for something to settle. -/
inductive Settling (site : Site RigSurroundings) (c : Nat → Scene α) (n : Nat) (r : ProgramRun)
    (what : Awaited) (i j : Nat) : Prop where
  /-- A question is next. -/
  | ahead {k m : Nat} {told : List (Party × Exchange RigSurroundings)}
    (h : Polled site c n r what i k m) (htold : Tells site c m j told)
    (hnone : toldTo (.job n) told = [])
    (hat : (c j).at? (.job n) = some (.running (.done (.again (.program r)))))
  /-- It asks. -/
  | asks {k m : Nat} {told : List (Party × Exchange RigSurroundings)}
    {rest : RigWork (Except Fault Bool)} {x : Foreground (Turn Job Ending)}
    (h : Polled site c n r what i k m) (htold : Tells site c m j told)
    (hleads : (r.inquiry site what).Leads (toldTo (.job n) told) rest)
    (hrest : ∀ answer, rest ≠ .done answer) (hat : (c j).at? (.job n) = some x)
    (hwork : x.work = rest >>= r.deciding)
  /-- What it waits for is under way, and it pauses. -/
  | pauses {k m a : Nat} (h : Polled site c n r what i k m)
    (hasked : Inquires site c n r what m a (.ok true)) (hpausing : Pausing site c n r a j)
  /-- What it waited for has settled, and the wait was over when it was told so. -/
  | settled {k m a : Nat} (h : Polled site c n r what i k m)
    (hasked : Inquires site c n r what m a (.ok false)) (haj : a ≤ j)
  /-- It was told of a fault of an instrument, and ends with that. -/
  | failed {k m a : Nat} (fault : DeviceFault) (h : Polled site c n r what i k m)
    (hasked : Inquires site c n r what m a (.error (.device fault))) (haj : a ≤ j)
    (hends : EndsWith c n r (.device fault) a j)
  /-- Its token was fired while it paused, or before, and the wait was over at once. -/
  | cancelled {k m a b : Nat} (h : Polled site c n r what i k m)
    (hasked : Inquires site c n r what m a (.ok true)) (hcut : Polls site c n r a b false)
    (hbj : b ≤ j)

/-- No interval comes to its end after the token was fired. -/
lemma Polled.le_of_fired (h : Polled site c n r what i k m) {f : Nat}
    (hf : (c f).state.isFired r.token = true) (hif : i ≤ f) : m ≤ f := by
  cases h with
  | start => exact hif
  | next h hasked hpassed =>
    refine Nat.le_of_not_lt fun hlt => ?_
    rw [(hpassed.of_passed rfl).2 f hlt] at hf
    cases hf

/-- So many intervals take so much time. -/
lemma Polled.nanos_le (h : Polled site c n r what i k m) (hc : Timeline site c) :
    (c i).state.clock * nanosPerMilli + k * r.conduct.poll.nanos ≤
      (c m).state.clock * nanosPerMilli := by
  induction h with
  | start => omega
  | @next k m a b _ hasked hpassed ih =>
    obtain ⟨⟨told, htold, -⟩, -⟩ := hasked
    have hma : (c m).state.clock * nanosPerMilli ≤ (c a).state.clock * nanosPerMilli :=
      Nat.mul_le_mul_right _ (hc.clock_le htold.le)
    have hab := nanos_le_ringsAt r.conduct.poll (c a).state.clock
    rw [← (hpassed.of_passed rfl).1] at hab
    rw [Nat.succ_mul]
    omega

/-- A program that is about to pause. -/
lemma Timeline.pausing_of_begins (h : Timeline site c)
    (hat : (c a).at? (.job n) = some (.running (r.pausing r.conduct.poll))) :
    Pausing site c n r a a := by
  have hpauses : (c a).Pauses n r.token r.conduct.poll r.paused (c a).state.clock :=
    .begins hat rfl
  have hc := h.punctual a
  exact ⟨⟨[], .start, rfl⟩, hpauses, hpauses.clock_le hc, fun f _ _ => Nat.le_max_left ..,
    hpauses.inLine hc, hpauses.step_ne_stuck hc⟩

/-- A program pauses on, or its pause is over. -/
lemma Timeline.pausing_step (h : Timeline site c) (hj : Pausing site c n r a j)
    (hs : (c j).step site = .more (c (j + 1))) {asked : Option (Party × Request)}
    {reply? : Option (Party × Exchange RigSurroundings)}
    (hp : Proceeds site (c j) asked reply? (c (j + 1))) :
    Pausing site c n r a (j + 1) ∨ ∃ passed, Polls site c n r a (j + 1) passed := by
  obtain ⟨⟨told, htold, hnone⟩, hpauses, hin, honce, hline, -⟩ := hj
  have honce' := h.since_fired (P := fun t f => t ≤ max (c a).state.clock (c f).state.clock) honce
    (fun hf => hline (.inl hf)) (Nat.le_max_right ..)
  have hc := h.punctual (j + 1)
  rcases hpauses.step (h.punctual j) hs hp with ⟨hpauses', hnothing⟩ | ⟨passed, hover, hone⟩
  · refine .inl ⟨⟨_, htold.step hs hp, ?_⟩, hpauses', hpauses'.clock_le hc, honce',
      hpauses'.inLine hc, hpauses'.step_ne_stuck hc⟩
    rw [toldTo_append, hnone, hnothing, List.append_nil]
  · refine .inr ⟨passed, ⟨_, htold.step hs hp, ?_⟩, hover.at_eq, fun hpassed => ?_,
      fun hcut => ?_, honce'⟩
    · rw [toldTo_append, hnone, hone, List.nil_append]
    · obtain ⟨hrings, hnot⟩ := hover.of_passed hpassed
      refine ⟨hover.clock_eq.trans hrings, fun f hf => Bool.eq_false_iff.2 fun hfired => ?_⟩
      rw [h.isFired_of_le hfired (Nat.le_of_lt_succ hf)] at hnot
      cases hnot
    · exact ⟨h.isFired_succ (hover.of_fired hcut), hover.clock_eq ▸ hin⟩

lemma Timeline.pausing_of_state_eq (h : Timeline site c) (hj : Pausing site c n r a j)
    (hs : (c j).step site ≠ .more (c (j + 1))) : Pausing site c n r a (j + 1) := by
  obtain ⟨⟨told, htold, hnone⟩, hpauses, -, honce, hline, -⟩ := hj
  have hpauses' := hpauses.of_state_eq (h.state_eq hs)
  have honce' := h.since_fired (P := fun t f => t ≤ max (c a).state.clock (c f).state.clock) honce
    (fun hf => hline (.inl hf)) (Nat.le_max_right ..)
  have hc := h.punctual (j + 1)
  exact ⟨⟨told, htold.rest hs, hnone⟩, hpauses', hpauses'.clock_le hc, honce',
    hpauses'.inLine hc, hpauses'.step_ne_stuck hc⟩

/-- Whoever asks an instrument has an answer, or a fault of the instrument. -/
lemma exists_fault_of_inquiry (hwhat : what ≠ .acquisition) {es : List (Exchange RigSurroundings)}
    {fault : Fault} (h : (r.inquiry site what).Ends es (.error fault)) :
    ∃ f, fault = .device f := by
  have hact {a : Action} {ws : List (Exchange WorkSurroundings)}
      (h : (actOrFail a).run.Ends ws (.error fault)) : ∃ f, fault = .device f := by
    obtain ⟨ws₁, ws₂, outcome, -, -, houtcome⟩ := ends_bind_iff.1 h
    cases outcome with
    | ok value => cases (ends_pure_iff.1 houtcome).2
    | error f =>
      cases (ends_pure_iff.1 houtcome).2
      exact ⟨f, rfl⟩
  obtain ⟨ws, -, hwork⟩ := ends_carryOut_iff.1 h
  cases what with
  | field | temperature => exact hact hwork
  | acquisition => exact absurd rfl hwhat

/-- A program that has come so far with its question asks on, or has its answer. -/
lemma Timeline.settling_of_leads (h : Timeline site c) (hwhat : what ≠ .acquisition)
    (hpolled : Polled site c n r what i k m) {told : List (Party × Exchange RigSurroundings)}
    (htold : Tells site c m j told) {rest : RigWork (Except Fault Bool)}
    (hleads : (r.inquiry site what).Leads (toldTo (.job n) told) rest)
    (hat : (c j).at? (.job n) = some (.running (rest >>= r.deciding))) :
    Settling site c n r what i j := by
  cases rest with
  | ask q next => exact .asks hpolled htold hleads (fun _ hdone => by cases hdone) hat rfl
  | done answer =>
    have hasked : Inquires site c n r what m j answer := ⟨⟨told, htold, hleads⟩, hat⟩
    cases answer with
    | error fault =>
      obtain ⟨f, rfl⟩ := exists_fault_of_inquiry hwhat hleads
      exact .failed f hpolled hasked le_rfl (h.fails hat le_rfl)
    | ok underWay =>
      cases underWay with
      | false => exact .settled hpolled hasked le_rfl
      | true =>
        exact .pauses hpolled hasked (h.pausing_of_begins hat)

/-- **How a program goes on waiting.** In a step of the rig it stays within a round, or comes to the
next one, or the wait is over.

**Proof sketch.** What becomes of the job in the step is one of its moves. A move within the question
leads on in it, and at the end of the question the answer decides. A move within the pause is what
`Pauses.step` says of it. -/
lemma Timeline.settling_step (h : Timeline site c) (hphase : r.phase = .settling what)
    (hwhat : what ≠ .acquisition) (hj : Settling site c n r what i j)
    (hs : (c j).step site = .more (c (j + 1))) : Settling site c n r what i (j + 1) := by
  have hc := h.punctual j
  obtain ⟨asked, reply?, hp⟩ := proceeds_of_step hs
  cases hj with
  | ahead hpolled htold hnone hat =>
    rcases hp.moves hat with ⟨y, hy, hmove⟩ | ⟨ending, hx, -⟩
    · obtain ⟨hnothing, rfl | rfl⟩ := hmove.of_again
      · exact .ahead hpolled (htold.step hs hp)
          (by rw [toldTo_append, hnone, hnothing, List.append_nil]) hy
      · rw [ProgramRun.turnOf_settling hphase] at hy
        refine h.settling_of_leads hwhat hpolled (htold.step hs hp) ?_ hy
        rw [toldTo_append, hnone, hnothing, List.append_nil]
        exact .refl _
    · cases hx
  | @asks k m told rest x hpolled htold hleads hrest hat hwork =>
    cases rest with
    | done answer => exact absurd rfl (hrest answer)
    | ask q next =>
      rcases hp.moves hat with ⟨y, hy, hmove⟩ | ⟨ending, rfl, -⟩
      · rcases hmove.of_asks hwork with ⟨hnothing, hwork'⟩ | ⟨reply, hone, rfl⟩
        · refine .asks hpolled (htold.step hs hp) ?_ hrest hy hwork'
          rwa [toldTo_append, hnothing, List.append_nil]
        · refine h.settling_of_leads hwhat hpolled (htold.step hs hp) ?_ hy
          rw [toldTo_append, hone]
          exact hleads.trans (.step (.refl _))
      · cases hwork
  | pauses hpolled hasked hpausing =>
    rcases h.pausing_step hpausing hs hp with hpausing | ⟨passed, hpolls⟩
    · exact .pauses hpolled hasked hpausing
    · cases passed with
      | true => exact .ahead (hpolled.next hasked hpolls) .start rfl hpolls.at_eq
      | false => exact .cancelled hpolled hasked hpolls le_rfl
  | settled hpolled hasked haj => exact .settled hpolled hasked (Nat.le_succ_of_le haj)
  | failed fault hpolled hasked haj =>
    exact .failed fault hpolled hasked (Nat.le_succ_of_le haj)
      (h.fails hasked.at_eq (Nat.le_succ_of_le haj))
  | cancelled hpolled hasked hcut hbj =>
    exact .cancelled hpolled hasked hcut (Nat.le_succ_of_le hbj)

lemma Settling.of_state_eq (h : Timeline site c) (hj : Settling site c n r what i j)
    (hs : (c j).step site ≠ .more (c (j + 1))) : Settling site c n r what i (j + 1) := by
  have hstate := h.state_eq hs
  have hat := at?_of_state_eq hstate n
  cases hj with
  | ahead hpolled htold hnone hj => exact .ahead hpolled (htold.rest hs) hnone (hat.trans hj)
  | asks hpolled htold hleads hrest hj hwork =>
    exact .asks hpolled (htold.rest hs) hleads hrest (hat.trans hj) hwork
  | pauses hpolled hasked hpausing =>
    exact .pauses hpolled hasked (h.pausing_of_state_eq hpausing hs)
  | settled hpolled hasked haj => exact .settled hpolled hasked (Nat.le_succ_of_le haj)
  | failed fault hpolled hasked haj =>
    exact .failed fault hpolled hasked (Nat.le_succ_of_le haj)
      (h.fails hasked.at_eq (Nat.le_succ_of_le haj))
  | cancelled hpolled hasked hcut hbj =>
    exact .cancelled hpolled hasked hcut (Nat.le_succ_of_le hbj)

/-- **How a program waits for something to settle.** -/
theorem Timeline.settling (h : Timeline site c) (hphase : r.phase = .settling what)
    (hwhat : what ≠ .acquisition)
    (hat : (c i).at? (.job n) = some (.running (.done (.again (.program r))))) (hij : i ≤ j) :
    Settling site c n r what i j := by
  induction hij with
  | refl => exact .ahead .start .start rfl hat
  | @step j _ ih =>
    by_cases hs : (c j).step site = .more (c (j + 1))
    · exact h.settling_step hphase hwhat ih hs
    · exact ih.of_state_eq h hs

/-! ## Waits that end on time -/

/-- **Waits end on time.** A line that waits is a wait from the moment it is taken up, unless the
token of the program was fired.

A program that waits for some time does so until the first millisecond that is not before the end
of that time, however long its interval is, or until its token is fired. If the end is beyond the
range of the clock, there is no such millisecond. Until then it can always go on as soon as one of
both has come about, the rig is not stuck, and the replies that the program has are bounded by the
time that has passed.

A program that waits for the field or the temperature asks whether it is under way, and pauses for
an interval each time it is told so. It goes on when it is told otherwise, ends with the fault if an
instrument has one, and goes on at once if its token is fired in a pause. So many rounds take as
many intervals, and none comes to its end after the token was fired.

**Proof sketch.** No time passes while a job can go on, so a turn takes no time but for its pause.
For the first wait, each pause ends by the end of the wait and later than it began. For the second,
a step either is within the question or the pause of a round, or it ends one of them. -/
theorem Timeline.waits_end_on_time (h : Timeline site c)
    (hat : (c i).at? (.job n) = some (.running (.done (.again (.program r)))))
    (hpoll : 0 < r.conduct.poll.nanos) {told : List (Party × Exchange RigSurroundings)}
    (htold : Tells site c i j told) :
    (∀ l rest step phase, r.phase = .between → r.lines = l :: rest →
      l.plan r.config = .ok step → waitPhase? (c i).state.clock step.deed = some phase →
      ((c j).AtTurn site n r ∧ (c j).state.clock = (c i).state.clock) ∨
      ∃ m, i ≤ m ∧ m ≤ j ∧ (c m).state.clock = (c i).state.clock ∧
        ((c m).at? (.job n) =
            some (.running (.done (.again (.program (r.waitingAt l rest step phase))))) ∨
          (c m).at? (.job n) = some (.running (.done (.over (.program (.ok r.sum))))) ∧
            (c m).state.isFired r.token = true)) ∧
    (∀ T until?, until? = (Instant.ofMillis (c i).state.clock).later? T →
      r.phase = .sleeping until? →
      SleepsOn site c n r until? i j told ∨ ∃ m, i ≤ m ∧ m ≤ j ∧ Awake c n r until? i m) ∧
    (∀ what, what ≠ .acquisition → r.phase = .settling what →
      Settling site c n r what i j ∧ ∀ k m, Polled site c n r what i k m →
        (c i).state.clock * nanosPerMilli + k * r.conduct.poll.nanos ≤
          (c m).state.clock * nanosPerMilli ∧
        ∀ f, i ≤ f → (c f).state.isFired r.token = true → m ≤ f) := by
  refine ⟨fun l rest step phase hphase hlines hplan hdeed => ?_, fun T until? huntil hphase => ?_,
    fun what hwhat hphase => ⟨?_, fun k m hpolled => ⟨hpolled.nanos_le h, fun f hif hfired => ?_⟩⟩⟩
  · exact h.takes_up hat hphase hlines hplan hdeed htold
  · refine h.sleeps hphase hpoll hat (fun m hm => ?_) htold
    exact le_tick_of_later? (huntil.symm.trans hm)
  · exact h.settling hphase hwhat hat htold.le
  · exact hpolled.le_of_fired hfired hif

end Settling

end Scene

/-- A program that waits at its last line, and looks every so many milliseconds. -/
def lastWait (millis : Nat) (phase : Phase) : ProgramRun where
  conduct := { benchSession.conduct with poll := .ofMillis millis }
  token := 0
  phase := phase
  line := 1
  lines := []
  config := .empty
  sum := 0

/-- A program that sleeps for two and a half milliseconds. -/
def nap : ProgramRun := lastWait 2 (.sleeping (some ⟨2500000⟩))

/-- A program that waits for the field. -/
def fieldWait : ProgramRun := lastWait 1 (.settling .field)

/-- Both are about to be started, and then nothing is done for ten milliseconds. The magnet is
still ramping when it is asked for the first time. -/
def twoWaits : Scene Unit where
  state := rampingState
  foreground := .running
    (.ask (.spawn (.program nap)) fun _ => .ask (.spawn (.program fieldWait)) fun _ =>
      .ask (.device (.sleep (.ofMillis 10))) fun _ => .done ())
  current := none
  fresh := false

/-- Whether a program has come to its end with no fault. -/
def Scene.completed (c : Scene α) (n : Nat) : Bool :=
  match c.state.ending? n with
  | some (.program (.ok _)) => true
  | _ => false

/-- The nap is over at the first millisecond that is not before its end, and the field has settled
after one interval at most. -/
theorem waits_end_on_time_twoWaits :
    (Scene.Timeline benchSite (twoWaits.follow benchSite) ∧
      (twoWaits.follow benchSite 1).at? (.job 0) =
        some (.running (.done (.again (.program nap)))) ∧
      (twoWaits.follow benchSite 2).at? (.job 1) =
        some (.running (.done (.again (.program fieldWait)))) ∧
      0 < nap.conduct.poll.nanos ∧ 0 < fieldWait.conduct.poll.nanos) ∧
    (∃ m, Scene.Awake (twoWaits.follow benchSite) 0 nap (some ⟨2500000⟩) 1 m ∧
      (twoWaits.follow benchSite m).state.clock = 3) ∧
    ∃ k m a, k ≤ 1 ∧ Scene.Polled benchSite (twoWaits.follow benchSite) 1 fieldWait .field 2 k m ∧
      Scene.Inquires benchSite (twoWaits.follow benchSite) 1 fieldWait .field m a (.ok false) := by
  have h : Scene.Timeline benchSite (twoWaits.follow benchSite) :=
    ⟨⟨_, _, rfl, rfl⟩, Scene.ensues_follow benchSite twoWaits⟩
  have hnap : (twoWaits.follow benchSite 1).at? (.job 0) =
      some (.running (.done (.again (.program nap)))) := rfl
  have hfield : (twoWaits.follow benchSite 2).at? (.job 1) =
      some (.running (.done (.again (.program fieldWait)))) := rfl
  have hpoll : 0 < nap.conduct.poll.nanos ∧ 0 < fieldWait.conduct.poll.nanos := by decide
  obtain ⟨hclock₂₁, hended⟩ : (twoWaits.follow benchSite 21).state.clock = 1 ∧
      (twoWaits.follow benchSite 21).completed 1 = true := by decide +kernel
  obtain ⟨hclock₃₇, hcalm⟩ : (twoWaits.follow benchSite 37).state.clock = 10 ∧
      (twoWaits.follow benchSite 37).state.isFired 0 = false := by decide +kernel
  have hnot {m : Nat} (hm : m ≤ 37) : (twoWaits.follow benchSite m).state.isFired 0 = false := by
    refine Bool.eq_false_iff.2 fun hf => ?_
    rw [h.isFired_of_le hf hm] at hcalm
    cases hcalm
  refine ⟨⟨h, hnap, hfield, hpoll⟩, ?_, ?_⟩
  · obtain ⟨told, htold⟩ := Scene.exists_tells benchSite (twoWaits.follow benchSite)
      (show 1 ≤ 37 by decide)
    obtain ⟨-, hsleeps, -⟩ := h.waits_end_on_time hnap hpoll.1 htold
    rcases hsleeps ⟨2500000⟩ _ (by decide +kernel) rfl with hon | ⟨m, -, hm, hawake⟩
    · have hle : (twoWaits.follow benchSite 37).state.clock ≤ 3 := hon.in_time ⟨2500000⟩ rfl
      rw [hclock₃₇] at hle
      exact absurd hle (by decide)
    · obtain ⟨moment, hmoment, hclock⟩ := hawake.on_time (hnot hm)
      cases hmoment
      exact ⟨m, hawake, hclock⟩
  · obtain ⟨told, htold⟩ := Scene.exists_tells benchSite (twoWaits.follow benchSite)
      (show 2 ≤ 21 by decide)
    obtain ⟨-, -, hsettles⟩ := h.waits_end_on_time hfield hpoll.2 htold
    obtain ⟨hsettling, hpolls⟩ := hsettles .field (by decide) rfl
    have hgone (x : Foreground (Turn Job Ending)) :
        (twoWaits.follow benchSite 21).at? (.job 1) ≠ some x := fun hat => by
      rw [Scene.completed, Scene.ending?_eq_none hat] at hended
      cases hended
    cases hsettling with
    | ahead _ _ _ hat => exact absurd hat (hgone _)
    | asks _ _ _ _ hat => exact absurd hat (hgone _)
    | pauses _ _ hpausing =>
      obtain ⟨x, hat, -⟩ := hpausing.pauses.at?
      exact absurd hat (hgone x)
    | @settled k m a hpolled hasked haj =>
      obtain ⟨before, hbefore, -⟩ := hasked.told
      have hm := h.clock_le (hbefore.le.trans haj)
      have hk := (hpolls k m hpolled).1
      rw [hclock₂₁] at hm
      refine ⟨k, m, a, ?_, hpolled, hasked⟩
      simp only [fieldWait, lastWait, Duration.ofMillis, nanosPerMilli] at hk
      omega
    | failed fault _ _ _ hends =>
      rcases hends with ⟨work, es, hat, -⟩ | hfailed
      · exact absurd hat (hgone _)
      · rw [Scene.completed, hfailed] at hended
        cases hended
    | cancelled _ _ hcut hb =>
      have hf : (twoWaits.follow benchSite _).state.isFired 0 = true := (hcut.of_fired rfl).1
      rw [hnot (hb.trans (by decide))] at hf
      cases hf

end Rig

end CryoRig
