import CryoRig.Control.Sampling
import CryoRig.Proofs.Paths

/-!
# How the turns of an acquisition go

A turn of an acquisition looks at its token and at the clock, goes through a tick, and pauses. A
tick reads the channels; then the sample is written if it is to be kept, the step that it closes is
written, and the next target is set. These parts are told apart here once, and what is true of ticks
and turns is shown elsewhere part by part.

## Main definitions

* `CryoRig.Control.Ticking.retain`, `CryoRig.Control.Ticking.afterVerdict`: what follows once the
  channels were read.
* `CryoRig.Control.Ticking.TickGoes`, `CryoRig.Control.Ticking.Goes`: how a tick and a turn go.

## Main results

* `CryoRig.Control.Ticking.acquire_eq`, `CryoRig.Control.Ticking.followUp_eq`,
  `CryoRig.Control.Ticking.tick_eq`, `CryoRig.Control.Ticking.turn_eq`: the parts of a turn.
* `CryoRig.Control.Ticking.tickGoes_of_ends`, `CryoRig.Control.Ticking.goes_of_ends`: a tick and a
  turn go in no other way.
-/

namespace CryoRig.Control.Ticking

open Sampling Process

variable {t t' : Ticking} {es : List (Exchange WorkSurroundings)} {now : Float}
  {parameter : Parameter} {verdict : Verdict} {x : Sample}

/-! ## Reading -/

/-- The looks that a tick begins with. -/
def check (t : Ticking) : Working (Except DeviceFault Unit × OverloadMonitor) :=
  if t.checkDue then checkLockins t.overload (List.range t.lockins) else pure (.ok (), t.overload)

lemma acquire_eq (t : Ticking) : t.acquire = (do
    let (checked, overload) ← t.check
    match checked with
    | .error fault => pure (.error fault, overload)
    | .ok () => pure (← act (.readChannels t.mode), overload)) := by
  unfold acquire check
  split <;> rfl

section Asks

variable {P : WorkRequest → Prop}

lemma check_asksOnly (h : ∀ m indices, (checkLockins m indices).AsksOnly P) :
    t.check.AsksOnly P := by
  unfold check
  split
  · exact h _ _
  · trivial

/-- All that is asked before a sample is taken are looks at lock-ins and what the channels are. -/
lemma acquire_asksOnly (h : ∀ m indices, (checkLockins m indices).AsksOnly P)
    (hread : P (.act (.readChannels t.mode))) : t.acquire.AsksOnly P := by
  rw [acquire_eq]
  refine (check_asksOnly h).bind fun read => ?_
  rcases read with ⟨fault | _, overload⟩
  · trivial
  · exact AsksOnly.bind (asksOnly_request.2 hread) fun _ => trivial

end Asks

/-- The looks fail, or the channels are read after them. -/
lemma ends_acquire {result : Except DeviceFault (List (Option Float))} {overload : OverloadMonitor}
    (h : t.acquire.Ends es (result, overload)) :
    (∃ fault, t.check.Ends es (.error fault, overload) ∧ result = .error fault) ∨
      ∃ es', t.check.Ends es' (.ok (), overload) ∧
        es = es' ++ [⟨.act (.readChannels t.mode), result⟩] := by
  rw [acquire_eq] at h
  obtain ⟨es₁, es₂, ⟨checked, m⟩, rfl, h₁, h₂⟩ := ends_bind_iff.1 h
  cases checked with
  | error fault =>
    obtain ⟨rfl, he⟩ := ends_pure_iff.1 h₂
    cases he
    rw [List.append_nil]
    exact .inl ⟨fault, h₁, rfl⟩
  | ok =>
    obtain ⟨es₃, es₄, outcome, rfl, h₃, h₄⟩ := ends_bind_iff.1 h₂
    obtain rfl := ends_request_iff.1 h₃
    obtain ⟨rfl, he⟩ := ends_pure_iff.1 h₄
    cases he
    exact .inr ⟨es₁, h₁, rfl⟩

/-! ## Following up -/

/-- Write the step that a verdict closes. -/
def writeClosed (t : Ticking) (parameter : Parameter) (verdict : Verdict) : Working Unit :=
  match verdict.closed with
  | some (target, aggregates) => t.writeStep parameter target aggregates
  | none => pure ()

/-- Set the target that a verdict offers. -/
def enterNext (t : Ticking) (parameter : Parameter) (verdict : Verdict) : Working Ticking :=
  match verdict.enter with
  | some target => t.enterStep parameter target
  | none => pure t

lemma followUp_eq (t : Ticking) (parameter : Parameter) (verdict : Verdict) :
    t.followUp parameter verdict =
      t.writeClosed parameter verdict >>= fun _ => t.enterNext parameter verdict := by
  unfold followUp writeClosed enterNext
  cases verdict.closed <;> rfl

/-- What holds of writing a step and of entering one holds of following up on a verdict. -/
lemma followUp_yields_of {P : WorkRequest → Prop} {Q : Ticking → Prop}
    (hwrite : ∀ target aggregates, (t.writeStep parameter target aggregates).AsksOnly P)
    (henter : ∀ target, (t.enterStep parameter target).Yields P Q) (hstay : Q t) :
    (t.followUp parameter verdict).Yields P Q := by
  rw [followUp_eq]
  refine AsksOnly.bind_yields ?_ fun _ => ?_
  · unfold writeClosed
    split
    · exact hwrite _ _
    · trivial
  · unfold enterNext
    split
    · exact henter _
    · exact hstay

/-! ## Ticks -/

/-- Write a sample and show it, if it is to be kept. -/
def retain (t : Ticking) (x : Sample) : Working Unit :=
  if (t.ledger.take x).1.keep then t.commit x else pure ()

/-- What is remembered once a sample was taken. -/
def taking (t : Ticking) (x : Sample) (overload : OverloadMonitor) : Ticking :=
  { t with overload := overload, ledger := (t.ledger.take x).2 }

/-- A sample is written in the same way then. -/
lemma commit_taking (t : Ticking) (x y : Sample) (overload : OverloadMonitor) :
    (t.taking x overload).commit y = t.commit y := by
  unfold commit
  refine congrArg (Process.ask (I := WorkSurroundings) _) ?_
  funext written
  cases written <;> rfl

/-- What follows the verdict on a sample, once the sample is written if it is kept. -/
def afterVerdict (t : Ticking) (verdict : Verdict) : Working (Bool × Ticking) :=
  match t.ledger.sweep with
  | none => pure (false, t)
  | some sweep => do pure (verdict.finished, ← t.followUp sweep.parameter verdict)

/-- What a tick makes of a reading. -/
def digest (t : Ticking) (now : Float) :
    Except DeviceFault (List (Option Float)) × OverloadMonitor → Working (Bool × Ticking)
  | (.error fault, overload) => do
    log (.cannotObtainPoint fault)
    pure (false, { t with overload := overload })
  | (.ok values, overload) => do
    t.retain ⟨now, values⟩
    (t.taking ⟨now, values⟩ overload).afterVerdict (t.ledger.take ⟨now, values⟩).1

lemma tick_eq (t : Ticking) (now : Float) : t.tick now = t.acquire >>= t.digest now := by
  unfold tick
  congr 1
  funext ⟨result, overload⟩
  cases result with
  | error fault => rfl
  | ok values =>
    dsimp only [digest, retain]
    rw [← commit_taking t ⟨now, values⟩ ⟨now, values⟩ overload]
    split <;> rfl

/-- How a tick goes: what is asked and replied in it, whether it ends the sweep, and what is
remembered after it. -/
inductive TickGoes (t : Ticking) (now : Float) :
    List (Exchange WorkSurroundings) → Bool → Ticking → Prop where
  /-- Something failed before a sample was taken. -/
  | failed {es : List (Exchange WorkSurroundings)} {fault : DeviceFault}
    {overload : OverloadMonitor} (hread : t.acquire.Ends es (.error fault, overload)) :
    TickGoes t now (es ++ [⟨.rig (.device (.log (.cannotObtainPoint fault))), ()⟩]) false
      { t with overload := overload }
  /-- A sample was taken. -/
  | taken {values : List (Option Float)} {overload : OverloadMonitor}
    {es₁ es₂ es₃ : List (Exchange WorkSurroundings)} {finished : Bool} {t' : Ticking}
    (hread : t.acquire.Ends es₁ (.ok values, overload))
    (hkeep : (t.retain ⟨now, values⟩).Ends es₂ ())
    (hrest : ((t.taking ⟨now, values⟩ overload).afterVerdict (t.ledger.take ⟨now, values⟩).1).Ends
      es₃ (finished, t')) :
    TickGoes t now (es₁ ++ (es₂ ++ es₃)) finished t'

/-- It goes in no other way. -/
theorem tickGoes_of_ends {finished : Bool} (h : (t.tick now).Ends es (finished, t')) :
    TickGoes t now es finished t' := by
  rw [tick_eq] at h
  obtain ⟨es₁, es₂, ⟨result, overload⟩, rfl, hread, h₂⟩ := ends_bind_iff.1 h
  cases result with
  | error fault =>
    obtain ⟨es₃, es₄, _, rfl, h₃, h₄⟩ := ends_bind_iff.1 h₂
    obtain rfl := ends_request_iff.1 h₃
    obtain ⟨rfl, he⟩ := ends_pure_iff.1 h₄
    cases he
    exact .failed hread
  | ok values =>
    obtain ⟨es₃, es₄, _, rfl, hkeep, hrest⟩ := ends_bind_iff.1 h₂
    exact .taken hread hkeep hrest

/-- A sample that is kept is written, and one that is not leaves no trace. -/
lemma ends_retain {u : Unit} (h : (t.retain x).Ends es u) :
    ((t.ledger.take x).1.keep = true ∧ (t.commit x).Ends es u) ∨
      ((t.ledger.take x).1.keep = false ∧ es = []) := by
  unfold retain at h
  split at h
  · next hkeep => exact .inl ⟨hkeep, h⟩
  · next hkeep => exact .inr ⟨Bool.eq_false_iff.2 hkeep, (ends_pure_iff.1 h).1⟩

lemma ends_afterVerdict_none {finished : Bool} (hs : t.ledger.sweep = none)
    (h : (t.afterVerdict verdict).Ends es (finished, t')) :
    es = [] ∧ finished = false ∧ t' = t := by
  simp only [afterVerdict, hs] at h
  obtain ⟨rfl, he⟩ := ends_pure_iff.1 h
  cases he
  exact ⟨rfl, rfl, rfl⟩

/-- In a sweep the verdict is followed up on. -/
lemma ends_afterVerdict_some {finished : Bool} {sweep : Sweep Float}
    (hs : t.ledger.sweep = some sweep) (h : (t.afterVerdict verdict).Ends es (finished, t')) :
    finished = verdict.finished ∧ (t.followUp sweep.parameter verdict).Ends es t' := by
  simp only [afterVerdict, hs] at h
  obtain ⟨es₁, es₂, t₁, rfl, h₁, h₂⟩ := ends_bind_iff.1 h
  obtain ⟨rfl, he⟩ := ends_pure_iff.1 h₂
  cases he
  rw [List.append_nil]
  exact ⟨rfl, h₁⟩

/-! ## Turns -/

/-- The time of a tick at which the clock shows some milliseconds: the seconds since the first
one. -/
def timeAt (t : Ticking) (ms : Nat) : Float := (Duration.ofMillis (ms - t.origin.getD ms)).seconds

/-- What is remembered after a tick, and how the turn goes on. -/
def afterTick (t : Ticking) (ms : Nat) (left : Ticking) : Ticking :=
  { left with attempted := left.attempted + 1, origin := some (t.origin.getD ms) }

/-- The end of a turn, after its tick. -/
def windUp (t : Ticking) (finished : Bool) : Working (Turn Ticking Ending) :=
  if finished then do
    log (.sweepFinished t.attempted)
    pure (.over .acquisition)
  else do
    if ← pause t.token t.tuning.tickInterval then pure (.again t)
    else pure (.over .acquisition)

/-- The part of a turn that comes after its first look at the clock. -/
def tickAt (t : Ticking) (ms : Nat) : Working (Turn Ticking Ending) := do
  let (finished, left) ← t.tick (t.timeAt ms)
  (t.afterTick ms left).windUp finished

lemma turn_eq (t : Ticking) : t.turn = (do
    if ← fired t.token then pure (.over .acquisition)
    else
      let ms ← clock
      t.tickAt ms) := rfl

/-- How the end of a turn goes, once its tick has or has not ended the sweep. -/
inductive WindsUp (t : Ticking) :
    Bool → List (Exchange WorkSurroundings) → Turn Ticking Ending → Prop where
  /-- The sweep has finished. -/
  | finished :
    WindsUp t true [⟨.rig (.device (.log (.sweepFinished t.attempted))), ()⟩] (.over .acquisition)
  /-- The pause was cut short. -/
  | cut :
    WindsUp t false [⟨.rig (.pause t.token t.tuning.tickInterval), false⟩] (.over .acquisition)
  /-- The pause has passed. -/
  | passed : WindsUp t false [⟨.rig (.pause t.token t.tuning.tickInterval), true⟩] (.again t)

lemma windsUp_of_ends {finished : Bool} {result : Turn Ticking Ending}
    (h : (t.windUp finished).Ends es result) : t.WindsUp finished es result := by
  unfold windUp at h
  cases finished with
  | true =>
    obtain ⟨es₁, es₂, _, rfl, h₁, h₂⟩ := ends_bind_iff.1 h
    obtain rfl := ends_request_iff.1 h₁
    obtain ⟨rfl, rfl⟩ := ends_pure_iff.1 h₂
    exact .finished
  | false =>
    obtain ⟨es₁, es₂, passed, rfl, h₁, h₂⟩ := ends_bind_iff.1 h
    obtain rfl := ends_request_iff.1 h₁
    cases passed <;> obtain ⟨rfl, rfl⟩ := ends_pure_iff.1 h₂
    · exact .cut
    · exact .passed

/-- How a turn goes: what is asked and replied in it, and how it ends. -/
inductive Goes (t : Ticking) : List (Exchange WorkSurroundings) → Turn Ticking Ending → Prop where
  /-- Its token was fired. -/
  | stopped : Goes t [⟨.rig (.fired t.token), true⟩] (.over .acquisition)
  /-- It has gone through its tick. -/
  | ticked {ms : Nat} {es₁ es₂ : List (Exchange WorkSurroundings)} {finished : Bool}
    {left : Ticking} {result : Turn Ticking Ending}
    (htick : (t.tick (t.timeAt ms)).Ends es₁ (finished, left))
    (hwind : (t.afterTick ms left).WindsUp finished es₂ result) :
    Goes t (⟨.rig (.fired t.token), false⟩ :: ⟨.rig .clock, ms⟩ :: (es₁ ++ es₂)) result

/-- It goes in no other way. -/
theorem goes_of_ends {result : Turn Ticking Ending} (h : t.turn.Ends es result) :
    t.Goes es result := by
  rw [turn_eq] at h
  obtain ⟨es₁, es₂, isFired, rfl, h₁, h₂⟩ := ends_bind_iff.1 h
  obtain rfl := ends_request_iff.1 h₁
  cases isFired with
  | true =>
    obtain ⟨rfl, rfl⟩ := ends_pure_iff.1 h₂
    exact .stopped
  | false =>
    obtain ⟨es₃, es₄, ms, rfl, h₃, h₄⟩ := ends_bind_iff.1 h₂
    obtain rfl := ends_request_iff.1 h₃
    obtain ⟨es₅, es₆, ⟨finished, left⟩, rfl, htick, hwind⟩ := ends_bind_iff.1 h₄
    have hgoes := Goes.ticked htick (windsUp_of_ends hwind)
    exact hgoes

end CryoRig.Control.Ticking
