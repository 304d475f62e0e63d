import CryoRig.Proofs.OrdersInLine
import CryoRig.Proofs.Reliance

/-!
# One acquisition at a time

A program starts acquisitions into the slot of its console. One that is running there keeps others
from being started; one that has ended is taken out when it is looked at, and one that is stopped is
taken out before its token is fired. Between these steps a program does not give way to others, so
that they never see an acquisition running that is not in the slot.

The others may do whatever they like but change that slot: they may end jobs, fire tokens and start
jobs of their own while the program waits for its site, pauses, or waits for an acquisition to stop.

A line that starts an acquisition and cannot be planned is refused, whatever is running: the run
fails.

## Main definitions

* `CryoRig.Rig.Spares`: what others do that leave a slot alone.
* `CryoRig.Rig.Alive`, `CryoRig.Rig.Only`: acquisitions that run and were not stopped.
* `CryoRig.Rig.Settled`: none is alive but the one in the slot.
* `CryoRig.Rig.Skips`: a turn in which a start is skipped.
* `CryoRig.Rig.Leaves`: what a turn leaves in the slot.

## Main results

* `CryoRig.Rig.Spares.of_answer?`: only a request to change a slot does so.
* `CryoRig.Rig.meets_turn`, `CryoRig.Rig.meets_skip`: what a turn comes to.
* `CryoRig.Rig.one_acquisition`: what whole runs come to, and each of their turns.
-/

namespace CryoRig.Script

/-- The name of the acquisition that a command starts. -/
def Command.acquisition? : Command → Option String
  | .startSimple name | .startCooldown name | .startStep name .. | .startDidv name _ => some name
  | _ => none

/-- A line that can be planned and starts, stops or awaits an acquisition has that done. -/
lemma deed_of_plan {l : Line} {c : RunConfig} {command : Command} {step : Step}
    (hl : l.command = .ok command) (h : l.plan c = .ok step) :
    (∀ name, command.acquisition? = some name →
      ∃ protocol autorange, step.deed = .start name protocol autorange) ∧
    (command = .stop → step.deed = .stop) ∧
    (command = .waitForProgram → step.deed = .waitFor .acquisition) := by
  obtain ⟨command', hl', hplan⟩ := Line.plan_eq_ok_iff.1 h
  obtain rfl : command = command' := Except.ok.inj (hl.symm.trans hl')
  cases command with
  | startSimple | startCooldown | startDidv =>
    cases hplan
    refine ⟨?_, by rintro ⟨⟩, by rintro ⟨⟩⟩
    rintro _ ⟨⟩
    exact ⟨_, _, rfl⟩
  | startStep name parameter targets =>
    obtain ⟨_, _, -, -, rfl⟩ := plan_startStep_eq_ok_iff.1 hplan
    refine ⟨?_, by rintro ⟨⟩, by rintro ⟨⟩⟩
    rintro _ ⟨⟩
    exact ⟨_, _, rfl⟩
  | stop =>
    cases hplan
    exact ⟨by rintro _ ⟨⟩, fun _ => rfl, by rintro ⟨⟩⟩
  | waitForProgram =>
    cases hplan
    exact ⟨by rintro _ ⟨⟩, by rintro ⟨⟩, fun _ => rfl⟩
  | _ => exact ⟨by rintro _ ⟨⟩, by rintro ⟨⟩, by rintro ⟨⟩⟩

/-- A sweep is refused unless it is known how long to relax. -/
lemma exists_plan_error_of_stepRelax {l : Line} {c : RunConfig} (hl : l.operation = "start-step")
    (hc : c.stepRelax = none) : ∃ fault, l.plan c = .error fault := by
  have hop : Operation.ofName? "start-step" = some .startStep := by decide
  refine exists_plan_error (hl ▸ hop) fun args command hread => ?_
  cases hread
  rw [Script.plan, hc]
  exact ⟨_, rfl⟩

end CryoRig.Script

namespace CryoRig.Control

/-- The token that stops the acquisition of a job. -/
def Job.token? : Job → Option Nat
  | .program _ => none
  | .ticking state => some state.token
  | .supervision state => some state.token

lemma Job.Samples.token? {job : Job} {token : Nat} (h : job.Samples token) :
    job.token? = some token := by
  cases job with
  | program => exact h.elim
  | ticking | supervision => exact congrArg some h

/-- The acquisition that an exchange starts: its job, and the token that stops it. -/
def spawned? : Exchange WorkSurroundings → Option (Nat × Nat)
  | ⟨WorkRequest.rig (.spawn job), (number : Nat)⟩ => job.token?.map fun token => (number, token)
  | _ => none

/-- The acquisitions that were started. -/
def spawned (es : List (Exchange WorkSurroundings)) : List (Nat × Nat) := es.filterMap spawned?

@[simp] lemma spawned_append (es es' : List (Exchange WorkSurroundings)) :
    spawned (es ++ es') = spawned es ++ spawned es' := List.filterMap_append

end CryoRig.Control

namespace CryoRig.Rig

open Control Process

/-! ## What is relied on -/

/-- The acquisition in the slot of a console stays there, what was fired stays fired, and what has
ended stays so. -/
structure Spares (κ : Nat) (s t : State) : Prop where
  /-- The slot is left alone. -/
  slot : (t.console κ).slot = (s.console κ).slot
  /-- A token that was fired stays so. -/
  fired : ∀ token, s.isFired token = true → t.isFired token = true
  /-- No token is lost. -/
  tokens : s.tokens.size ≤ t.tokens.size
  /-- A job that has ended stays so. -/
  ended : ∀ job, s.ending? job ≠ none → t.ending? job ≠ none

section Spares

variable {κ : Nat} {s t u : State} {p : Party} {alarm : Option Nat} {r : Request} {reply : r.Reply}

lemma Spares.refl (s : State) : Spares κ s s := ⟨rfl, fun _ h => h, Nat.le_refl _, fun _ h => h⟩

lemma Spares.trans (h : Spares κ s t) (h' : Spares κ t u) : Spares κ s u :=
  ⟨h'.slot.trans h.slot, fun token hs => h'.fired token (h.fired token hs),
    Nat.le_trans h.tokens h'.tokens, fun job hs => h'.ended job (h.ended job hs)⟩

lemma Spares.of_eq (htokens : t.tokens = s.tokens) (hjobs : t.jobs = s.jobs)
    (hconsoles : t.consoles = s.consoles) : Spares κ s t := by
  refine ⟨by rw [State.console, State.console, hconsoles], fun token hs => ?_,
    htokens ▸ Nat.le_refl _, fun job hs => ?_⟩
  · rwa [State.isFired, htokens]
  · rwa [State.ending?, hjobs]

/-- Nothing but a request to change the slot does so. -/
lemma slot_of_answer? (hr : ∀ a, r ≠ .setSlot κ a) (h : s.answer? p alarm r = some (reply, t)) :
    (t.console κ).slot = (s.console κ).slot := by
  have same (hc : t.consoles = s.consoles) : (t.console κ).slot = (s.console κ).slot := by
    rw [State.console, State.console, hc]
  by_cases hplain : r.Plain
  · exact same (alike_of_plain hplain h).consoles
  cases r with
  | publish number state =>
    cases h
    rw [State.console_setConsole]
    split
    · next hn => rw [hn]
    · rfl
  | setSlot number a =>
    have hne : κ ≠ number := by
      rintro rfl
      exact hr a rfl
    cases h
    rw [State.console_setConsole, if_neg hne]
  | leaveDesk =>
    cases h
    exact same (alike_wakeParty _ _).consoles
  | join | tryDesk | takeDesk =>
    simp only [State.answer?] at h
    repeat' split at h
    all_goals cases h
    all_goals rfl
  | device | create | append | pause | bench | clock | calendar | fired | present =>
    exact absurd trivial hplain
  | _ =>
    cases h
    rfl

lemma size_tokens_of_answer? (h : s.answer? p alarm r = some (reply, t)) :
    s.tokens.size ≤ t.tokens.size := by
  rcases tokens_of_answer? h with ht | ht | ⟨other, ht⟩ <;> simp [ht]

lemma ended_of_answer? (h : s.answer? p alarm r = some (reply, t)) {job : Nat}
    (hs : s.ending? job ≠ none) : t.ending? job ≠ none := by
  rcases jobs_of_answer? h with hj | ⟨spawned, -, hj⟩
  · rwa [State.ending?, hj]
  · have hlt : job < s.jobs.size := by
      refine Nat.lt_of_not_le fun hge => hs ?_
      simp [State.ending?, hge]
    rw [State.ending?, hj, Array.getElem?_push, if_neg (Nat.ne_of_lt hlt)]
    exact hs

/-- Nothing but a request to change the slot is not to be relied on. -/
lemma Spares.of_answer? (hr : ∀ a, r ≠ .setSlot κ a) (h : s.answer? p alarm r = some (reply, t)) :
    Spares κ s t :=
  ⟨slot_of_answer? hr h, fun _ => isFired_of_answer? h, size_tokens_of_answer? h,
    fun _ => ended_of_answer? h⟩

lemma spares_enter (s : State) (p : Party) (r : Request) : Spares κ s (s.enter p r).2 :=
  .of_eq (tokens_enter s p r) (jobs_enter s p r) (consoles_enter s p r)

lemma reliance_spares (κ : Nat) (p : Party) : Reliance p (Spares κ) where
  refl := .refl
  trans := .trans
  enter s r := (spares_enter s p r).trans (.of_eq rfl rfl rfl)

end Spares

/-! ## Acquisitions that run -/

/-- An acquisition runs, and its token was not fired. -/
def Alive (s : State) (x : Nat × Nat) : Prop := s.isFired x.2 = false ∧ s.ending? x.1 = none

/-- The acquisition in the slot of a console: its job, and the token that stops it. -/
def held (κ : Nat) (s : State) : Option (Nat × Nat) :=
  (s.console κ).slot.map fun a => (a.job, a.token)

/-- Of the acquisitions there were before and those that were started since then, at most a given
one is alive. -/
def Only (before : List (Nat × Nat)) (es : List (Exchange WorkSurroundings)) (s : State)
    (x? : Option (Nat × Nat)) : Prop :=
  ∀ x ∈ before ++ spawned es, Alive s x → x? = some x

/-- At most one acquisition is alive. -/
def Alone (before : List (Nat × Nat)) (es : List (Exchange WorkSurroundings)) (s : State) : Prop :=
  ∃ x?, Only before es s x?

/-- No acquisition is alive but the one in the slot. -/
structure Settled (κ : Nat) (before : List (Nat × Nat)) (es : List (Exchange WorkSurroundings))
    (s : State) : Prop where
  /-- The others have ended or were stopped. -/
  only : Only before es s (held κ s)
  /-- There is a token that stops it. -/
  minted : ∀ x, held κ s = some x → x.2 < s.tokens.size

/-- A request that starts no acquisition and leaves the slot alone. -/
def Aloof (κ : Nat) : WorkRequest → Prop
  | .rig (.setSlot number _) => number ≠ κ
  | .rig (.spawn _) => False
  | _ => True

section Settled

variable {κ : Nat} {before : List (Nat × Nat)} {es es' : List (Exchange WorkSurroundings)}
  {s t : State} {x? : Option (Nat × Nat)} {p : Party}

lemma Alive.of_spares {x : Nat × Nat} (hs : Spares κ s t) (h : Alive t x) : Alive s x := by
  refine ⟨Bool.eq_false_iff.2 fun hf => ?_, Classical.byContradiction fun he => hs.ended _ he h.2⟩
  have hfired := hs.fired _ hf
  rw [h.1] at hfired
  cases hfired

lemma held_of_spares (hs : Spares κ s t) : held κ t = held κ s := by rw [held, hs.slot, held]

lemma Only.of_spares (h : Only before es s x?) (hs : Spares κ s t) : Only before es t x? :=
  fun x hx hlive => h x hx (hlive.of_spares hs)

lemma Settled.of_spares (h : Settled κ before es s) (hs : Spares κ s t) : Settled κ before es t :=
  ⟨held_of_spares hs ▸ h.only.of_spares hs, fun x hx =>
    Nat.lt_of_lt_of_le (h.minted x (held_of_spares hs ▸ hx)) hs.tokens⟩

lemma Settled.alone (h : Settled κ before es s) : Alone before es s := ⟨_, h.only⟩

lemma Only.append (h : Only before es s x?) (es' : List (Exchange WorkSurroundings))
    (hes : spawned es' = []) : Only before (es ++ es') s x? := by
  rwa [Only, spawned_append, hes, List.append_nil]

lemma Settled.append (h : Settled κ before es s) (es' : List (Exchange WorkSurroundings))
    (hes : spawned es' = []) : Settled κ before (es ++ es') s :=
  ⟨h.only.append es' hes, h.minted⟩

lemma Aloof.spawned? {e : Exchange WorkSurroundings} (h : Aloof κ e.request) :
    Control.spawned? e = none := by
  obtain ⟨q, reply⟩ := e
  cases q with
  | act => rfl
  | rig r => cases r <;> first | rfl | exact h.elim

lemma spawned_of_aloof (h : ∀ e ∈ es, Aloof κ e.request) : spawned es = [] :=
  List.filterMap_eq_nil_iff.2 fun e he => (h e he).spawned?

lemma Aloof.of_plain {q : WorkRequest} (h : q.Plain) : Aloof κ q := by
  cases q with
  | act => trivial
  | rig r => cases r <;> trivial

lemma Spares.of_answered {q : WorkRequest} {reply : q.Reply} (hq : Aloof κ q)
    (h : Answered p (Spares κ) s q reply t) : Spares κ s t := by
  have hslot {r : Request} (hr : Aloof κ (.rig r)) : ∀ a, r ≠ .setSlot κ a := by
    rintro a rfl
    exact hr rfl
  cases h with
  | prompt h => exact (spares_enter s p _).trans (.of_answer? (hslot hq) h)
  | late _ ht h => exact ht.trans (.of_answer? (hslot hq) h)
  | rings ht => exact ht
  | acted _ ht => exact ht

lemma Only.of_same (h : Only before es s x?) (htokens : t.tokens = s.tokens)
    (hjobs : t.jobs = s.jobs) : Only before es t x? := by
  intro x hx hlive
  refine h x hx ?_
  rwa [Alive, State.isFired, State.ending?, htokens, hjobs] at hlive

/-- An acquisition that is not alive leaves none that is. -/
lemma Only.of_not_alive (h : Only before es s x?) (hx : ∀ x, x? = some x → ¬Alive s x)
    (y? : Option (Nat × Nat)) : Only before es s y? :=
  fun y hy hlive => absurd hlive (hx y (h y hy hlive))

lemma held_setSlot (κ : Nat) (s : State) (a? : Option Acquisition) :
    held κ (s.setConsole κ { s.console κ with slot := a? }) =
      a?.map fun a => (a.job, a.token) := by
  rw [held, State.console_setConsole, if_pos rfl]

/-- Whatever was alive before, nothing is in the slot now. -/
lemma Settled.of_empty (h : Only before es t none) (hheld : held κ t = none) :
    Settled κ before es t :=
  ⟨hheld ▸ h, fun x hx => by rw [hheld] at hx; cases hx⟩

/-- The acquisition in the slot of a console has not ended. -/
def Busy (κ : Nat) (s : State) : Prop := ∃ x, held κ s = some x ∧ s.ending? x.1 = none

lemma Busy.of_spares (h : Busy κ t) (hs : Spares κ s t) : Busy κ s := by
  obtain ⟨x, hx, hended⟩ := h
  refine ⟨x, held_of_spares hs ▸ hx, Classical.byContradiction fun he => hs.ended _ he hended⟩

/-- An acquisition of a given name that was started is in the slot. -/
def Holds (κ : Nat) (name : String) (es : List (Exchange WorkSurroundings)) (s : State) : Prop :=
  ∃ a, (s.console κ).slot = some a ∧ a.name = name ∧ (a.job, a.token) ∈ spawned es

lemma Holds.of_spares {name : String} (h : Holds κ name es s) (hs : Spares κ s t) :
    Holds κ name es t := by
  obtain ⟨a, ha, h⟩ := h
  exact ⟨a, hs.slot.trans ha, h⟩

lemma Holds.append {name : String} (h : Holds κ name es s) : Holds κ name (es ++ es') s := by
  obtain ⟨a, ha, hname, hmem⟩ := h
  exact ⟨a, ha, hname, by simp [hmem]⟩

/-! ## Parts of a turn -/

variable {α : Type} {I : Interface} {site : Site I}
  {Q : α → List (Exchange WorkSurroundings) → State → Prop}

/-- Work keeps at most one acquisition alive, and none but the one in the slot while it waits. -/
abbrev MeetsAlone (p : Party) (κ : Nat) (before : List (Nat × Nat))
    (Q : α → List (Exchange WorkSurroundings) → State → Prop) :
    Working α → List (Exchange WorkSurroundings) → State → Prop :=
  Meets p (Spares κ) (Alone before) (Settled κ before) Q

/-- Work that neither starts an acquisition nor changes the slot. -/
lemma meets_of_aloof {w : Working α} {A : α → Prop} (hw : w.Yields (Aloof κ) A)
    (h : Settled κ before es s) :
    MeetsAlone p κ before (fun a es' t => A a ∧ Settled κ before es' t ∧ Spares κ s t) w es s := by
  have settled {es' : List (Exchange WorkSurroundings)} {t : State}
      (hes : ∀ e ∈ es', Aloof κ e.request) (ht : Spares κ s t) :
      Settled κ before (es ++ es') t := (h.of_spares ht).append _ (spawned_of_aloof hes)
  exact meets_of_yields (K := Spares κ) hw
    (fun q reply t u hq ht ha => ht.trans (.of_answered hq ha)) (.refl s)
    (fun es' t hes ht => (settled hes ht).alone)
    (fun q es' t u _ _ hes ht hu => settled hes (ht.trans hu))
    fun a es' t ha hes ht => ⟨ha, settled hes ht, ht⟩

/-- What is active is in the slot and has not ended; what has ended is taken out. -/
lemma meets_acquisitionActive (h : Settled κ before es s) :
    MeetsAlone p κ before (fun active es' t => Settled κ before es' t ∧
      (active = false → held κ t = none) ∧ (active = true → Busy κ s))
      (acquisitionActive κ) es s := by
  refine meets_ask id h.alone fun a? t ha => ?_
  obtain ⟨hslot, rfl⟩ : (s.console κ).slot = a? ∧ s = t := by
    cases ha
    exact ⟨rfl, rfl⟩
  have h₁ : Settled κ before (es ++ [⟨.rig (.slot κ), a?⟩]) s := h.append _ rfl
  cases a? with
  | none => exact ⟨h₁, fun _ => by simp [held, hslot], by rintro ⟨⟩⟩
  | some a =>
    have hheld : held κ s = some (a.job, a.token) := by simp [held, hslot]
    refine meets_ask id h₁.alone fun hasEnded t ha => ?_
    obtain ⟨hended, rfl⟩ : (s.ending? a.job).isSome = hasEnded ∧ s = t := by
      cases ha
      exact ⟨rfl, rfl⟩
    have h₂ := h₁.append [⟨.rig (.ended a.job), hasEnded⟩] rfl
    cases hasEnded with
    | false =>
      have hnone : s.ending? a.job = none :=
        Option.isNone_iff_eq_none.1 (Option.isSome_eq_false_iff.1 hended)
      exact ⟨h₂, by rintro ⟨⟩, fun _ => ⟨_, hheld, hnone⟩⟩
    | true =>
      have hdead : ∀ x, held κ s = some x → ¬Alive s x := by
        intro x hx hlive
        rw [hheld] at hx
        cases hx
        rw [hlive.2] at hended
        cases hended
      have hnone := h₂.only.of_not_alive hdead none
      refine meets_ask id h₂.alone fun _ t ha => ?_
      cases ha
      have hnone' : Only before _ (s.note p (.acquisitionFinished a.name)) none :=
        (hnone.append [⟨.rig (.device (.log (.acquisitionFinished a.name))), ()⟩] rfl).of_same
          rfl rfl
      refine meets_ask id ⟨_, hnone'⟩ fun _ t ha => ?_
      cases ha
      have hempty := held_setSlot κ (s.note p (.acquisitionFinished a.name)) none
      refine ⟨.of_empty ((hnone'.append _ rfl).of_same rfl rfl) hempty, fun _ => hempty, ?_⟩
      rintro ⟨⟩

/-- An empty slot stays empty. -/
lemma meets_empty {w : Working α} (hw : w.AsksOnly (Aloof κ)) (h : Settled κ before es s)
    (hempty : held κ s = none) :
    MeetsAlone p κ before (fun _ es' t => Settled κ before es' t ∧ held κ t = none) w es s :=
  (meets_of_aloof hw.yields h).mono fun _ _ _ ht => ⟨ht.2.1, (held_of_spares ht.2.2).trans hempty⟩

lemma isFired_of_fire {token : Nat} {alarm : Option Nat} {reply : Unit}
    (htoken : token < s.tokens.size) (h : s.answer? p alarm (.fire token) = some (reply, t)) :
    t.isFired token = true := by
  cases h
  simp [State.isFired, State.wake, htoken]

/-- What is stopped is taken out of the slot first, and its token is fired before anything has to be
waited for. -/
lemma meets_stopInSlot (limit : Duration) (line : Nat) (h : Settled κ before es s) :
    MeetsAlone p κ before (fun _ es' t => Settled κ before es' t ∧ held κ t = none)
      (stopInSlot κ limit line) es s := by
  refine meets_ask id h.alone fun a? t ha => ?_
  obtain ⟨hslot, rfl⟩ : (s.console κ).slot = a? ∧ s = t := by
    cases ha
    exact ⟨rfl, rfl⟩
  have h₁ : Settled κ before (es ++ [⟨.rig (.slot κ), a?⟩]) s := h.append _ rfl
  refine meets_ask id h₁.alone fun _ t ha => ?_
  cases ha
  have hempty := held_setSlot κ s none
  have h₂ : Only before (es ++ [⟨.rig (.slot κ), a?⟩] ++ [⟨.rig (.setSlot κ none), ()⟩])
      (s.setConsole κ { s.console κ with slot := none }) (held κ s) :=
    (h₁.only.append _ rfl).of_same rfl rfl
  cases a? with
  | none =>
    have hnone : held κ s = none := by simp [held, hslot]
    exact meets_empty (asksOnly_request.2 trivial) (.of_empty (hnone ▸ h₂) hempty) hempty
  | some a =>
    have hheld : held κ s = some (a.job, a.token) := by simp [held, hslot]
    rw [hheld] at h₂
    refine meets_ask id ⟨_, h₂⟩ fun _ t ha => ?_
    have hs : Spares κ _ t := .of_answer? (by rintro _ ⟨⟩) ha
    have hfired : t.isFired a.token = true :=
      isFired_of_fire (s := s.setConsole κ _) (h.minted _ hheld) ha
    have hnone := (h₂.of_spares hs).of_not_alive (fun x hx hlive => by
      cases hx
      rw [hlive.1] at hfired
      cases hfired) none
    have hempty' := (held_of_spares hs).trans hempty
    refine meets_empty ?_ (.of_empty (hnone.append _ rfl) hempty') hempty'
    refine AsksOnly.bind ?_ fun _ => trivial
    refine AsksOnly.bind (I := WorkSurroundings) (asksOnly_pure _) fun _ => ?_
    refine (now_plain.mono fun _ => Aloof.of_plain).bind fun _ => ?_
    refine AsksOnly.bind (asksOnly_request.2 trivial) fun ending => ?_
    cases ending <;> exact AsksOnly.bind (asksOnly_request.2 trivial) fun _ => trivial

/-- What comes of the start of an acquisition: it is the one that is alive, or everything is as it
was before. -/
def Started (κ : Nat) (before : List (Nat × Nat)) (name : String) :
    Except Fault Acquisition → List (Exchange WorkSurroundings) → State → Prop
  | .error _, es, s => Settled κ before es s
  | .ok a, es, s => a.name = name ∧ Only before es s (some (a.job, a.token)) ∧
      a.token < s.tokens.size ∧ (a.job, a.token) ∈ spawned es

/-- The acquisition that is spawned is the only one that is alive. -/
lemma only_of_spawn {job : Job} {token number : Nat} (h : Settled κ before es s)
    (hempty : held κ s = none) (hjob : job.Samples token) (hs : Spares κ s t) :
    Only before (es ++ [⟨.rig (.spawn job), number⟩]) t (some (number, token)) := by
  have hspawned : spawned [⟨.rig (.spawn job), number⟩] = [(number, token)] := by
    simp [spawned, spawned?, hjob.token?]
  intro x hx hlive
  rw [spawned_append, hspawned, ← List.append_assoc, List.mem_append, List.mem_singleton] at hx
  rcases hx with hx | rfl
  · have hheld := h.only x hx (hlive.of_spares hs)
    rw [hempty] at hheld
    cases hheld
  · rfl

lemma meets_startAcquisition (tuning : Sampling.Tuning) (name : String)
    (protocol : Sampling.Protocol) (h : Settled κ before es s) (hempty : held κ s = none) :
    MeetsAlone p κ before (Started κ before name)
      (startAcquisition site tuning name protocol).run es s := by
  have aloof {α : Type} {w : Working α} (hw : w.AsksOnly WorkRequest.Plain) :
      w.AsksOnly (Aloof κ) := hw.mono fun _ => .of_plain
  refine Meets.lift_bind (meets_empty (asksOnly_request.2 trivial) h hempty)
    fun calendar es s ⟨h, hempty⟩ => ?_
  -- there is a token now
  refine Meets.lift_bind (Q := fun token es s => Settled κ before es s ∧ held κ s = none ∧
    token < s.tokens.size) ?_ fun token es s ⟨h, hempty, htoken⟩ => ?_
  · refine meets_ask id h.alone fun token t ha => ?_
    have hs : Spares κ s t := .of_answer? (by rintro _ ⟨⟩) ha
    refine ⟨(h.of_spares hs).append _ rfl, (held_of_spares hs).trans hempty, ?_⟩
    cases ha
    simp
  refine Meets.lift_bind (meets_of_aloof (aloof (log_plain _)).yields h)
    fun _ es t ⟨_, h, hs⟩ => ?_
  have hempty₁ := (held_of_spares hs).trans hempty
  have htoken₁ := Nat.lt_of_lt_of_le htoken hs.tokens
  refine Meets.run_bind (meets_of_aloof ((prepareJob_yields _ _ _ _).mono (fun _ => .of_plain)
    fun _ => id) h) (fun fault es t ht => ht.2.1) fun job es t ⟨hjob, h, hs⟩ => ?_
  have hempty₂ := (held_of_spares hs).trans hempty₁
  have htoken₂ := Nat.lt_of_lt_of_le htoken₁ hs.tokens
  refine Meets.lift_bind (Q := fun number es t => Only before es t (some (number, token)) ∧
    token < t.tokens.size ∧ (number, token) ∈ spawned es) ?_ fun number es t ht => ⟨rfl, ht⟩
  refine meets_ask id h.alone fun number u ha => ?_
  have hs' : Spares κ t u := .of_answer? (by rintro _ ⟨⟩) ha
  have hsamples := hjob job rfl
  refine ⟨only_of_spawn h hempty₂ hsamples hs', Nat.lt_of_lt_of_le htoken₂ hs'.tokens, ?_⟩
  simp [spawned, spawned?, hsamples.token?]

/-- Unless one is running there, an acquisition is started into the slot. -/
lemma meets_startInSlot (tuning : Sampling.Tuning) (name : String) (protocol : Sampling.Protocol)
    (h : Settled κ before es s) :
    MeetsAlone p κ before (fun result es' t => Settled κ before es' t ∧
      (¬Busy κ s → result = .ok () → Holds κ name es' t))
      (startInSlot site κ tuning name protocol).run es s := by
  refine Meets.lift_bind (meets_acquisitionActive h) fun active es t ⟨h, hnone, hbusy⟩ => ?_
  cases active with
  | true =>
    refine Meets.lift (meets_of_aloof (AsksOnly.yields (asksOnly_request.2 trivial)) h)
      fun _ es t ht => ⟨ht.2.1, fun hfree => absurd (hbusy rfl) hfree⟩
  | false =>
    refine Meets.run_bind (meets_startAcquisition tuning name protocol h (hnone rfl))
      (fun fault es t ht => ⟨ht, fun _ he => by cases he⟩) fun a es t ht => ?_
    obtain ⟨hname, honly, hminted, hspawned⟩ := ht
    refine Meets.lift_bind (Q := fun _ es t => Started κ before name (.ok a) es t) ?_
      fun _ es t ht => ?_
    · refine meets_ask id ⟨_, honly⟩ fun _ u ha => ?_
      cases ha
      exact ⟨hname, (honly.append _ rfl).of_same rfl rfl, hminted, by simp [hspawned]⟩
    · obtain ⟨hname, honly, hminted, hspawned⟩ := ht
      refine meets_ask id ⟨_, honly⟩ fun _ u ha => ?_
      cases ha
      have hheld : held κ _ = some (a.job, a.token) := held_setSlot κ t (some a)
      refine ⟨⟨?_, ?_⟩, fun _ _ => ⟨a, ?_, hname, by simp [hspawned]⟩⟩
      · rw [hheld]
        exact (honly.append _ rfl).of_same rfl rfl
      · rintro x hx
        rw [hheld] at hx
        cases hx
        exact hminted
      · rw [State.console_setConsole, if_pos rfl]

/-- What comes of what a line says. -/
structure Performed (κ : Nat) (before : List (Nat × Nat)) (s : State) (deed : Script.Deed)
    (result : Except Fault Phase) (es : List (Exchange WorkSurroundings)) (t : State) : Prop where
  /-- No acquisition is alive but the one in the slot. -/
  settled : Settled κ before es t
  /-- An acquisition is started unless one is running. -/
  starts : ∀ name protocol autorange phase, deed = .start name protocol autorange → ¬Busy κ s →
    result = .ok phase → Holds κ name es t
  /-- Whatever is running is stopped. -/
  stops : deed = .stop → held κ t = none
  /-- The program begins to wait. -/
  waits : ∀ what phase, deed = .waitFor what → result = .ok phase → phase = .settling what

lemma meets_perform {conduct : Conduct} (line : Nat) (deed : Script.Deed)
    (h : Settled conduct.console before es s) :
    MeetsAlone p conduct.console before (Performed conduct.console before s deed)
      (perform site conduct line deed).run es s := by
  have aloof {x : Risky Phase} (hx : x.run.AsksOnly WorkRequest.Plain)
      (hstart : ∀ name protocol autorange, deed ≠ .start name protocol autorange)
      (hstop : deed ≠ .stop) (hwait : ∀ what, deed ≠ .waitFor what) :
      MeetsAlone p conduct.console before (Performed conduct.console before s deed) x.run es s :=
    (meets_of_aloof (hx.mono fun _ => .of_plain).yields h).mono fun _ _ _ ht =>
      ⟨ht.2.1, fun _ _ _ _ hd => absurd hd (hstart _ _ _), fun hd => absurd hd hstop,
        fun _ _ hd => absurd hd (hwait _)⟩
  cases deed with
  | start name protocol autorange =>
    refine Meets.run_bind (meets_startInSlot _ name protocol h)
      (fun fault es t ht => ⟨ht.1, fun _ _ _ _ _ _ he => (by cases he), by rintro ⟨⟩, ?_⟩)
      fun _ es t ht => ⟨ht.1, ?_, by rintro ⟨⟩, by rintro _ _ ⟨⟩⟩
    · rintro _ _ ⟨⟩
    · rintro _ _ _ phase ⟨⟩ hfree -
      exact ht.2 hfree rfl
  | stop =>
    refine Meets.lift_bind (meets_stopInSlot _ _ h) fun _ es t ht =>
      ⟨ht.1, ?_, fun _ => ht.2, by rintro _ _ ⟨⟩⟩
    rintro _ _ _ _ ⟨⟩
  | waitFor what =>
    refine Meets.lift_bind (meets_of_aloof ((log_plain _).mono fun _ => .of_plain).yields h)
      fun _ es t ht => ⟨ht.2.1, ?_, by rintro ⟨⟩, ?_⟩
    · rintro _ _ _ _ ⟨⟩
    · rintro _ _ ⟨⟩ ⟨⟩
      rfl
  | nothing =>
    exact aloof (asksOnly_pure _) (by rintro _ _ _ ⟨⟩) (by rintro ⟨⟩) (by rintro _ ⟨⟩)
  | wait seconds =>
    refine aloof ?_ (by rintro _ _ _ ⟨⟩) (by rintro ⟨⟩) (by rintro _ ⟨⟩)
    exact (log_plain _).run_lift.run_bind fun _ => now_plain.run_lift.run_bind fun _ => trivial
  | act a =>
    refine aloof ?_ (by rintro _ _ _ ⟨⟩) (by rintro ⟨⟩) (by rintro _ ⟨⟩)
    refine (actOrFail_plain a).run_bind fun result => ?_
    exact (logAll_plain _).run_lift.run_bind fun _ => trivial

end Settled

/-! ## Turns -/

section Turns

variable {I : Interface} {site : Site I} {r : ProgramRun} {before : List (Nat × Nat)}
  {es : List (Exchange WorkSurroundings)} {s t : State} {p : Party}
  {result : Turn ProgramRun Ending}

/-- The command of a line that a program takes up next and that can be planned. -/
def TakesUp (r : ProgramRun) (command : Script.Command) : Prop :=
  r.phase = .between ∧ ∃ l rest step, r.lines = l :: rest ∧ l.command = .ok command ∧
    l.plan r.config = .ok step

lemma TakesUp.command_eq {command : Script.Command} {l : Script.Line} {rest : List Script.Line}
    (h : TakesUp r command) (hl : r.lines = l :: rest) : l.command = .ok command := by
  obtain ⟨-, l', rest', step, hl', hcommand, -⟩ := h
  obtain ⟨rfl, -⟩ := List.cons.inj (hl.symm.trans hl')
  exact hcommand

/-- A pause was cut short. -/
def CutShort (token : Nat) (es : List (Exchange WorkSurroundings)) : Prop :=
  ∃ span, ⟨.rig (.pause token span), false⟩ ∈ es

/-- What a turn leaves in the slot, if the program goes on. -/
structure Leaves (r : ProgramRun) (s : State) (es : List (Exchange WorkSurroundings))
    (result : Turn ProgramRun Ending) (t : State) : Prop where
  /-- An acquisition was started unless one was running. -/
  starts : ∀ command name r', TakesUp r command → command.acquisition? = some name →
    ¬Busy r.conduct.console s → result = .again r' → Holds r.conduct.console name es t
  /-- Whatever was running was stopped. -/
  stops : ∀ r', TakesUp r .stop → result = .again r' → held r.conduct.console t = none
  /-- The program began to wait for the end of an acquisition. -/
  waits : ∀ r', TakesUp r .waitForProgram → result = .again r' → r'.phase = .settling .acquisition
  /-- The acquisition has finished, or the wait for that was cut short. -/
  awaits : ∀ r', r.phase = .settling .acquisition → result = .again r' → r'.phase = .between →
    ¬CutShort r.token es → held r.conduct.console t = none

lemma leaves_over (ending : Ending) : Leaves r s es (.over ending) t := by
  constructor
  · rintro _ _ _ _ _ _ ⟨⟩
  · rintro _ _ ⟨⟩
  · rintro _ _ ⟨⟩
  · rintro _ _ ⟨⟩

lemma leaves_of_phase (h : r.phase ≠ .between) (h' : r.phase ≠ .settling .acquisition) :
    Leaves r s es result t where
  starts _ _ _ hr := absurd hr.1 h
  stops _ hr := absurd hr.1 h
  waits _ hr := absurd hr.1 h
  awaits _ hr := absurd hr h'

/-- What comes of a turn. -/
def Turned (before : List (Nat × Nat)) (r : ProgramRun) (s : State)
    (result : Turn ProgramRun Ending) (es : List (Exchange WorkSurroundings)) (t : State) : Prop :=
  Settled r.conduct.console before es t ∧ Leaves r s es result t

/-- Work that neither starts an acquisition nor changes the slot, and leaves nothing behind. -/
lemma meets_turned {w : Working (Turn ProgramRun Ending)} {u : State}
    (hw : w.Yields (Aloof r.conduct.console) fun result => ∀ es t, Leaves r u es result t)
    (h : Settled r.conduct.console before es s) :
    MeetsAlone p r.conduct.console before (Turned before r u) w es s :=
  (meets_of_aloof hw h).mono fun _ _ _ ht => ⟨ht.2.1, ht.1 _ _⟩

lemma close_yields {event : Event} {state : ProgramState} {ending : Ending} {u : State} {n : Nat} :
    (do log event; publish n state; pure (.over ending) :
      Working (Turn ProgramRun Ending)).Yields (Aloof r.conduct.console)
        fun result => ∀ es t, Leaves r u es result t :=
  ⟨trivial, fun _ => ⟨trivial, fun _ _ _ => leaves_over ending⟩⟩

/-- A line is begun. -/
lemma meets_begin {l : Script.Line} {rest : List Script.Line} {u : State}
    (hphase : r.phase = .between) (hl : r.lines = l :: rest) (hu : Spares r.conduct.console u s)
    (h : Settled r.conduct.console before es s) :
    MeetsAlone p r.conduct.console before (Turned before r u) (r.begin site l rest) es s := by
  have hpublish : (publish r.conduct.console (.running l.number)).AsksOnly
      (Aloof r.conduct.console) := asksOnly_request.2 trivial
  refine (meets_of_aloof hpublish.yields h).bind fun _ es s ⟨_, h, hs₁⟩ => ?_
  refine (meets_of_aloof ((log_plain _).mono fun _ => .of_plain).yields h).bind
    fun _ es s ⟨_, h, hs₂⟩ => ?_
  cases hp : l.plan r.config with
  | error fault => exact meets_turned close_yields h
  | ok step =>
    refine (meets_of_aloof ((logAll_plain _).mono fun _ => .of_plain).yields h).bind
      fun _ es s ⟨_, h, hs₃⟩ => ?_
    refine (meets_perform l.number step.deed h).bind fun phase? es t ht => ?_
    cases phase? with
    | error fault => exact meets_turned close_yields ht.settled
    | ok phase =>
      have deed {command : Script.Command} (htakes : TakesUp r command) :=
        Script.deed_of_plan (htakes.command_eq hl) hp
      refine ⟨ht.settled, ?_, ?_, ?_, ?_⟩
      · rintro command name r' htakes hname hfree -
        obtain ⟨protocol, autorange, hdeed⟩ := (deed htakes).1 name hname
        refine ht.starts name protocol autorange phase hdeed (fun hbusy => hfree ?_) rfl
        exact hbusy.of_spares (hu.trans (hs₁.trans (hs₂.trans hs₃)))
      · rintro r' htakes -
        exact ht.stops ((deed htakes).2.1 rfl)
      · rintro r' htakes ⟨⟩
        exact ht.waits _ _ ((deed htakes).2.2 rfl) rfl
      · rintro r' hphase'
        cases hphase.symm.trans hphase'

lemma pauseFor_leaves {span : Duration} {u : State} (h : r.phase ≠ .between)
    (h' : r.phase ≠ .settling .acquisition) :
    (r.pauseFor span).Yields (Aloof r.conduct.console)
      fun result => ∀ es t, Leaves r u es result t := by
  refine ⟨trivial, fun passed => ?_⟩
  cases passed <;> exact fun _ _ => leaves_of_phase h h'

/-- A wait for the end of an acquisition. -/
lemma meets_settling (hphase : r.phase = .settling .acquisition)
    (h : Settled r.conduct.console before es s) :
    MeetsAlone p r.conduct.console before (Turned before r s) (ProgramRun.turn site r) es s := by
  have leaves {es : List (Exchange WorkSurroundings)} {r' : ProgramRun} {t : State}
      (h : r'.phase = .between → ¬CutShort r.token es → held r.conduct.console t = none) :
      Leaves r s es (.again r') t := by
    refine ⟨fun _ _ _ hr => ?_, fun _ hr => ?_, fun _ hr => ?_, ?_⟩
    · cases hphase.symm.trans hr.1
    · cases hphase.symm.trans hr.1
    · cases hphase.symm.trans hr.1
    · rintro _ - ⟨⟩
      exact h
  rw [ProgramRun.turn_of_settling site hphase]
  refine (Meets.lift (meets_acquisitionActive h) (R := fun result es t => ∃ active,
    result = .ok active ∧ Settled r.conduct.console before es t ∧
      (active = false → held r.conduct.console t = none)) fun active es t ht =>
        ⟨active, rfl, ht.1, ht.2.1⟩).bind fun going es t ⟨active, hgoing, h, hempty⟩ => ?_
  subst hgoing
  cases active with
  | false => exact ⟨h, leaves fun _ _ => hempty rfl⟩
  | true =>
    -- either the wait goes on, or the pause was cut short
    refine ⟨h.alone, fun _ u hu => h.of_spares hu, fun passed u ha => ?_⟩
    have hs : Spares r.conduct.console t u := .of_answered (by trivial) ha
    have h' := (h.of_spares hs).append [⟨.rig (.pause r.token r.conduct.poll), passed⟩] rfl
    cases passed with
    | true =>
      refine ⟨h', leaves fun hbetween _ => ?_⟩
      cases hphase.symm.trans hbetween
    | false => exact ⟨h', leaves fun _ huncut => absurd ⟨r.conduct.poll, by simp⟩ huncut⟩

/-- A turn keeps at most one acquisition alive, and none but the one in the slot while it waits and
at its end. -/
theorem meets_turn (h : Settled r.conduct.console before es s) :
    MeetsAlone p r.conduct.console before (Turned before r s) (ProgramRun.turn site r) es s := by
  have aloof {α : Type} {w : Working α} (hw : w.AsksOnly WorkRequest.Plain) :
      w.AsksOnly (Aloof r.conduct.console) := hw.mono fun _ => .of_plain
  by_cases hwait : r.phase = .settling .acquisition
  · exact meets_settling hwait h
  cases hphase : r.phase with
  | opening announcements =>
    rw [ProgramRun.turn_of_opening site hphase]
    refine meets_turned ((aloof (logAll_plain _)).bind_yields fun _ _ _ => ?_) h
    exact leaves_of_phase (by simp [hphase]) hwait
  | between =>
    cases hl : r.lines with
    | nil =>
      rw [ProgramRun.turn_of_nil site hphase hl]
      refine meets_turned ((aloof (fired_plain _)).bind_yields fun isFired => ?_) h
      cases isFired <;> exact close_yields
    | cons l rest =>
      rw [ProgramRun.turn_of_cons site hphase hl]
      refine (meets_of_aloof (aloof (fired_plain _)).yields h).bind
        fun isFired es t ⟨_, h, hs⟩ => ?_
      cases isFired with
      | true => exact meets_turned close_yields h
      | false => exact meets_begin hphase hl hs h
  | sleeping until? =>
    have hleaves (result : Turn ProgramRun Ending) (es : List (Exchange WorkSurroundings))
        (t : State) : Leaves r s es result t := leaves_of_phase (by simp [hphase]) hwait
    exact meets_turned (ProgramRun.sleeping_yields hphase trivial trivial (fun _ => trivial)
      (hleaves _) (hleaves _)) h
  | settling what =>
    rw [ProgramRun.turn_of_settling site hphase]
    cases what with
    | acquisition => exact absurd hphase hwait
    | field | temperature =>
      refine meets_turned ((aloof (actOrFail_plain _)).bind_yields fun going => ?_) h
      match going with
      | .error fault => exact close_yields
      | .ok false => exact fun _ _ => leaves_of_phase (by simp [hphase]) hwait
      | .ok true => exact pauseFor_leaves (by simp [hphase]) hwait

/-! ## Starts that are skipped -/

/-- Nothing but looks, reports and publications has happened. -/
def Looked (s : State) (es : List (Exchange WorkSurroundings)) (t : State) : Prop :=
  (∀ e ∈ es, Looks e.request) ∧ Steady s t

variable {κ : Nat} {u : State}

lemma Looked.answered {r : Request} {alarm : Option Nat} {reply : r.Reply} (h : Looked s es t)
    (hr : Looks (.rig r)) (ha : t.answer? p alarm r = some (reply, u)) :
    Looked s (es ++ [⟨.rig r, reply⟩]) u :=
  ⟨List.forall_mem_append.2 ⟨h.1, List.forall_mem_singleton.2 hr⟩, h.2.trans (hr.steady ha)⟩

lemma Busy.of_steady (h : Busy κ s) (hs : Steady s t) : Busy κ t := by
  obtain ⟨x, hx, hended⟩ := h
  refine ⟨x, ?_, ?_⟩
  · rw [held, hs.slot]
    exact hx
  · rwa [State.ending?, hs.jobs]

/-- Work only looks, reports and publishes, and never waits. -/
abbrev MeetsLooking {α : Type} (p : Party) (κ : Nat) (s : State)
    (Q : α → List (Exchange WorkSurroundings) → State → Prop) :
    Working α → List (Exchange WorkSurroundings) → State → Prop :=
  Meets p (Spares κ) (Looked s) (fun _ _ => False) Q

lemma meets_of_looks {α : Type} {w : Working α} (hw : w.AsksOnly Looks) (h : Looked s es t) :
    MeetsLooking p κ s (fun _ es u => Looked s es u) w es t := by
  induction w generalizing es t with
  | done => exact h
  | ask q next ih =>
    cases q with
    | act => exact hw.1.elim
    | rig r =>
      exact meets_ask hw.1.not_mayWait h fun reply u ha =>
        ih reply (hw.2 reply) (h.answered hw.1 ha)

lemma looks_acquisitionActive (hbusy : Busy κ s) (h : Looked s es t) :
    MeetsLooking p κ s (fun active es u => active = true ∧ Looked s es u)
      (acquisitionActive κ) es t := by
  obtain ⟨x, hx, hended⟩ := hbusy.of_steady h.2
  refine meets_ask id h fun a? u ha => ?_
  have h₁ := h.answered (by trivial) ha
  obtain ⟨hslot, rfl⟩ : (t.console κ).slot = a? ∧ t = u := by
    cases ha
    exact ⟨rfl, rfl⟩
  rw [held, hslot] at hx
  obtain ⟨a, rfl, rfl⟩ := Option.map_eq_some_iff.1 hx
  refine meets_ask id h₁ fun hasEnded u ha => ?_
  have h₂ := h₁.answered (by trivial) ha
  obtain ⟨rfl, rfl⟩ : (t.ending? a.job).isSome = hasEnded ∧ t = u := by
    cases ha
    exact ⟨rfl, rfl⟩
  rw [hended] at h₂ ⊢
  exact ⟨rfl, h₂⟩

/-- What comes of a start that is skipped: the program goes on with the next line. -/
def Skipped (r : ProgramRun) (s : State) (result : Turn ProgramRun Ending)
    (es : List (Exchange WorkSurroundings)) (t : State) : Prop :=
  ((∀ e ∈ es, Looks e.request) ∧ (t.console r.conduct.console).slot =
    (s.console r.conduct.console).slot) ∧
    ∃ r', result = .again r' ∧ r'.phase = .between ∧ r'.lines = r.lines.tail

lemma log_looks (event : Event) : (log event).AsksOnly Looks := asksOnly_request.2 trivial

lemma logAll_looks (events : List Event) : (logAll events).AsksOnly Looks := by
  induction events with
  | nil => trivial
  | cons event rest ih => exact (log_looks event).bind fun _ => ih

/-- A start while an acquisition is running changes nothing, does not wait and does not fail. -/
theorem meets_skip {command : Script.Command} {name : String} (htakes : TakesUp r command)
    (hname : command.acquisition? = some name) (hfired : s.isFired r.token = false)
    (hbusy : Busy r.conduct.console s) :
    MeetsLooking p r.conduct.console s (Skipped r s) (ProgramRun.turn site r) [] s := by
  obtain ⟨hphase, l, rest, step, hl, hcommand, hp⟩ := htakes
  obtain ⟨protocol, autorange, hdeed⟩ := (Script.deed_of_plan hcommand hp).1 name hname
  have looks {α : Type} {w : Working α} {es : List (Exchange WorkSurroundings)} {t : State}
      (hw : w.AsksOnly Looks) (h : Looked s es t) :
      MeetsLooking p r.conduct.console s (fun _ es u => Looked s es u) w es t :=
    meets_of_looks hw h
  have h : Looked s [] s := ⟨List.forall_mem_nil _, .refl s⟩
  rw [ProgramRun.turn_of_cons site hphase hl]
  refine meets_ask id h fun isFired t ha => ?_
  have h := h.answered (by trivial) ha
  obtain ⟨rfl, rfl⟩ : s.isFired r.token = isFired ∧ s = t := by
    cases ha
    exact ⟨rfl, rfl⟩
  rw [hfired] at h ⊢
  change MeetsLooking _ _ _ _ (r.begin site l rest) _ _
  unfold ProgramRun.begin
  simp only [hp]
  have hpublish : (publish r.conduct.console (.running l.number)).AsksOnly Looks :=
    asksOnly_request.2 trivial
  refine (looks hpublish h).bind fun _ es t h => ?_
  refine (looks (log_looks _) h).bind fun _ es t h => ?_
  refine (looks (logAll_looks _) h).bind fun _ es t h => ?_
  rw [hdeed]
  refine Meets.bind (Q := fun result es t => result = .ok .between ∧
    Looked s es t) ?_ fun result es t ⟨hresult, h⟩ => ?_
  · refine Meets.run_bind (Q := fun result es t => result = .ok () ∧
      Looked s es t) ?_ (fun fault es t ht => by cases ht.1)
      fun _ es t ht => ⟨rfl, ht.2⟩
    refine Meets.lift_bind (looks_acquisitionActive hbusy h) fun active es t ⟨hactive, h⟩ => ?_
    subst hactive
    exact Meets.lift (looks (log_looks _) h) fun _ es t ht => ⟨rfl, ht⟩
  · subst hresult
    exact ⟨⟨h.1, h.2.slot _⟩, _, rfl, rfl, by rw [hl]; rfl⟩

end Turns

/-! ## Whole runs -/

section Runs

variable {I : Interface} {site : Site I} {p : Party} {others : State → State → Prop}
  {conduct : Conduct} {token n : Nat} {script : Script}
  {X₀ X Y : Standing (Turn ProgramRun Ending)} {r : ProgramRun} {before : List (Nat × Nat)}
  {es es' : List (Exchange WorkSurroundings)} {s t u : State}

lemma Leaves.of_spares {result : Turn ProgramRun Ending} (h : Leaves r s es result t)
    (hs : Spares r.conduct.console t u) : Leaves r s es result u where
  starts command name r' htakes hname hfree hr :=
    (h.starts command name r' htakes hname hfree hr).of_spares hs
  stops r' htakes hr := (held_of_spares hs).trans (h.stops r' htakes hr)
  waits := h.waits
  awaits r' hphase hr hbetween huncut :=
    (held_of_spares hs).trans (h.awaits r' hphase hr hbetween huncut)

/-- Before a run, at most the acquisition in the slot is alive. -/
lemma settled_of_start {κ : Nat} (h : ∀ x, held κ s = some x → x.2 < s.tokens.size) :
    Settled κ (held κ s).toList [] s := by
  refine ⟨fun x hx _ => ?_, h⟩
  rwa [show spawned [] = [] from rfl, List.append_nil, Option.mem_toList] at hx

/-- What was started so far was started before what comes next. -/
lemma Settled.restart {κ : Nat} (h : Settled κ before es s) :
    Settled κ (before ++ spawned es) [] s := by
  refine ⟨?_, h.minted⟩
  rw [Only, show spawned [] = [] from rfl, List.append_nil]
  exact h.only

/-- A run between two turns. -/
def Between (conduct : Conduct) (token : Nat) (before : List (Nat × Nat))
    (result : Turn ProgramRun Ending) (es : List (Exchange WorkSurroundings)) (s : State) : Prop :=
  Settled conduct.console before es s ∧
    ∀ r, result = .again r → r.conduct = conduct ∧ r.token = token

lemma keeps_of_lives (hstart : X₀.work = .done (.again (ProgramRun.start conduct token script)))
    (hminted : ∀ x, held conduct.console X₀.rig = some x → x.2 < X₀.rig.tokens.size)
    (hothers : ∀ s t, others s t → Spares conduct.console s t)
    (h : Lives p others (ProgramRun.turn site) X₀ n es X) :
    X.Keeps p (Spares conduct.console) (Alone (held conduct.console X₀.rig).toList)
      (Settled conduct.console (held conduct.console X₀.rig).toList)
      (Between conduct token (held conduct.console X₀.rig).toList) es := by
  obtain ⟨work, pace, rig⟩ := X₀
  obtain rfl : work = .done (.again (ProgramRun.start conduct token script)) := hstart
  have hX : Standing.Keeps p (Spares conduct.console) (Alone (held conduct.console rig).toList)
      (Settled conduct.console (held conduct.console rig).toList)
      (Between conduct token (held conduct.console rig).toList) []
      ⟨.done (.again (ProgramRun.start conduct token script)), pace, rig⟩ := by
    refine .done ⟨settled_of_start hminted, ?_⟩ (.refl _)
    rintro r ⟨⟩
    exact ⟨rfl, rfl⟩
  refine Lives.meets (reliance_spares _ p) hothers
    (fun a es s t hs ht => ⟨hs.1.of_spares ht, hs.2⟩) hX h fun _ r es t hr => ?_
  · obtain ⟨hs, hkeeps⟩ := hr
    obtain ⟨rfl, rfl⟩ := hkeeps r rfl
    refine (meets_turn hs).ends.mono fun result es t ht => ⟨ht.1.1, ?_⟩
    rintro r' rfl
    obtain ⟨-, es₁, hends⟩ := ht
    exact (ProgramRun.course_of_ends hends).keeps

/-- A turn in which a start is skipped. -/
structure Skips (r : ProgramRun) (s : State) (es : List (Exchange WorkSurroundings))
    (Y : Standing (Turn ProgramRun Ending)) : Prop where
  /-- Nothing is made, and nothing is asked of the site. -/
  looks : ∀ e ∈ es, Looks e.request
  /-- The slot is left alone. -/
  slot : (Y.rig.console r.conduct.console).slot = (s.console r.conduct.console).slot
  /-- The program does not have to wait. -/
  prompt : Y.Rests → ∃ result, Y.work = .done result
  /-- It does not fail, but goes on with the next line. -/
  goes : ∀ result, Y.work = .done result →
    ∃ r', result = .again r' ∧ r'.phase = .between ∧ r'.lines = r.lines.tail

lemma skips_of_lives {command : Script.Command} {name : String}
    (hothers : ∀ s t, others s t → Spares r.conduct.console s t) (htakes : TakesUp r command)
    (hname : command.acquisition? = some name) (hfired : s.isFired r.token = false)
    (hbusy : Busy r.conduct.console s)
    (h : Lives p others (ProgramRun.turn site) ⟨ProgramRun.turn site r, .going, s⟩ 0 es Y) :
    Skips r s es Y := by
  have hclosed : ∀ result es t u, Skipped r s result es t → Spares r.conduct.console t u →
      Skipped r s result es u :=
    fun result es t u ht hu => ⟨⟨ht.1.1, hu.slot.trans ht.1.2⟩, ht.2⟩
  have hkeeps := h.meets_going (reliance_spares _ p) hothers hclosed
    (meets_skip htakes hname hfired hbusy)
  have hboth := hkeeps.always (K := fun t => (∀ e ∈ es, Looks e.request) ∧
      (t.console r.conduct.console).slot = (s.console r.conduct.console).slot) (reliance_spares _ p)
    (fun t ht => ⟨ht.1, ht.2.slot _⟩) (fun _ => False.elim)
    (fun result t u ht hu => (hclosed _ _ _ _ ht hu).1)
  refine ⟨hboth.1, hboth.2, fun hrest => ?_, fun result hY => ?_⟩
  · cases hkeeps with
    | @going w _ h =>
      cases w with
      | done a => exact ⟨a, rfl⟩
      | ask q next => rcases hrest with hpace | ⟨a, ha⟩ <;> contradiction
    | waiting hw hq ht => exact (hw.2.1 hq _ ht).elim
    | done => exact ⟨_, rfl⟩
  · exact (hkeeps.of_done (hclosed _ _) hY).2

/-- A run in company that leave the slot of its console alone, whatever its script, however long
acquisitions go on and however long the site takes.

At every moment at most one acquisition is alive, counting the one that was in the slot before the
run; whenever the run gives way to others, that one is in the slot.

Of each turn: if it takes up a line that starts an acquisition while the one in the slot has not
ended, nothing is made, nothing is asked of the site, the slot is left alone, and the run goes on.
If that one has ended, or there is none, the turn starts a new one into the slot or fails. After a
line that stops the acquisition the slot is empty, and so it is after a wait for its end, unless the
wait was cut short. -/
theorem one_acquisition (hstart : X₀.work = .done (.again (ProgramRun.start conduct token script)))
    (hminted : ∀ x, held conduct.console X₀.rig = some x → x.2 < X₀.rig.tokens.size)
    (hothers : ∀ s t, others s t → Spares conduct.console s t)
    (h : Lives p others (ProgramRun.turn site) X₀ n es X) :
    Alone (held conduct.console X₀.rig).toList es X.rig ∧
      (X.Rests →
        Only (held conduct.console X₀.rig).toList es X.rig (held conduct.console X.rig)) ∧
      ∀ r, X.work = .done (.again r) → r.conduct = conduct ∧ r.token = token ∧
        ∀ es' Y,
          Lives p others (ProgramRun.turn site) ⟨ProgramRun.turn site r, .going, X.rig⟩ 0 es' Y →
          (∀ command name, TakesUp r command → command.acquisition? = some name →
            X.rig.isFired token = false → Busy conduct.console X.rig → Skips r X.rig es' Y) ∧
          ∀ result, Y.work = .done result → Leaves r X.rig es' result Y.rig := by
  have hkeeps := keeps_of_lives hstart hminted hothers h
  have hG := reliance_spares conduct.console p
  refine ⟨hkeeps.always hG (fun _ hs => hs) (fun _ hs => hs.alone)
    (fun _ _ _ hs ht => (hs.1.of_spares ht).alone), fun hrest => ?_, fun r hX => ?_⟩
  · exact hkeeps.at_rest (K := fun s => Only _ es s (held conduct.console s)) hG hrest
      (fun _ hs => hs.only) fun _ _ _ hs ht => (hs.1.of_spares ht).only
  · obtain ⟨hs, hr⟩ := hkeeps.of_done (fun s t hs ht => ⟨hs.1.of_spares ht, hs.2⟩) hX
    obtain ⟨rfl, rfl⟩ := hr r rfl
    refine ⟨rfl, rfl, fun es' Y hY => ⟨fun command name htakes hname hfired hbusy =>
      skips_of_lives hothers htakes hname hfired hbusy hY, fun result hresult => ?_⟩⟩
    have hturn := hY.meets_going hG hothers
      (fun result es t u ht hu => ⟨ht.1.of_spares hu, ht.2.of_spares hu⟩) (meets_turn hs.restart)
    exact (hturn.of_done (fun t u ht hu => ⟨ht.1.of_spares hu, ht.2.of_spares hu⟩) hresult).2

end Runs

/-! ## Two starts -/

open ProgramRun

/-- A rig on which an acquisition is running from before. -/
def busyRig : State :=
  { State.initial ⟨2024, 1, 1, 0, 0⟩ with
    tokens := #[false, false]
    jobs := #[.running (.done (.over .acquisition))]
    consoles := [⟨.running 1, some ⟨0, 1, "first", .continuous, [], ⟨"", "", ""⟩⟩⟩] }

/-- A program that starts an acquisition. -/
def secondScript : Script := ⟨["start-simple second"]⟩

/-- Its announcement. -/
def secondOpening : List (Exchange WorkSurroundings) :=
  [reported .rule, reported (.scriptLine "start-simple second"), reported .rule]

/-- Its line is begun, and nothing is started. -/
def secondSkip : List (Exchange WorkSurroundings) :=
  [⟨.rig (.fired 0), false⟩, stated 0 (.running 1),
    reported (.processing 1 "start-simple" ["second"]),
    ⟨.rig (.slot 0), some ⟨0, 1, "first", .continuous, [], ⟨"", "", ""⟩⟩⟩,
    ⟨.rig (.ended 0), false⟩, reported (.startSkipped (.alreadyRunning "second"))]

/-- A program takes up its only line while an acquisition is running. -/
structure StartsSecond (site : Site RigSurroundings)
    (X₀ X Y : Standing (Turn ProgramRun Ending)) (r : ProgramRun) : Prop where
  /-- It has not begun. -/
  start : X₀.work = .done (.again (ProgramRun.start plainConduct 0 secondScript))
  /-- The acquisition in the slot has a token. -/
  minted : ∀ x, held 0 X₀.rig = some x → x.2 < X₀.rig.tokens.size
  /-- Its text has been announced. -/
  opens : Lives .foreground (Spares 0) (ProgramRun.turn site) X₀ 1 secondOpening X
  /-- It is between two turns. -/
  between : X.work = .done (.again r)
  /-- It is to start an acquisition. -/
  takes : TakesUp r (.startSimple "second")
  /-- It is not cancelled. -/
  fired : X.rig.isFired 0 = false
  /-- An acquisition is running. -/
  busy : Busy 0 X.rig
  /-- It goes through its line. -/
  closes : Lives .foreground (Spares 0) (ProgramRun.turn site)
    ⟨ProgramRun.turn site r, .going, X.rig⟩ 0 secondSkip Y

lemma busy_busyRig : Busy 0 busyRig := ⟨(0, 1), rfl, rfl⟩

lemma prompt_secondSkip : ∀ e ∈ secondSkip, Prompt busyRig e := by
  simp only [secondSkip, List.forall_mem_cons]
  exact ⟨rfl, trivial, trivial, rfl, rfl, trivial, List.forall_mem_nil _⟩

lemma exists_startsSecond (site : Site RigSurroundings) :
    ∃ X₀ X Y r, StartsSecond site X₀ X Y r := by
  -- the run before its line and after it
  let before : ProgramRun :=
    ⟨plainConduct, 0, .between, 0, [⟨1, "start-simple", ["second"]⟩], .empty, 0⟩
  let after : ProgramRun := { before with line := 1, lines := [], sum := 0 + 0 }
  obtain ⟨s₁, h₁, hopen⟩ := Lives.of_leads (p := .foreground) (s := busyRig)
    (show (ProgramRun.turn site (ProgramRun.start plainConduct 0 secondScript)).Leads secondOpening
      (.done (.again before)) from .step (.step (.step (.refl _))))
    (by simp [secondOpening, reported, Prompt])
  obtain ⟨s₂, -, hskip⟩ := Lives.of_leads (p := .foreground) (s := s₁)
    (show (ProgramRun.turn site before).Leads secondSkip (.done (.again after)) from
      .step (.step (.step (.step (.step (.step (.refl _)))))))
    fun e he => (prompt_secondSkip e he).of_steady h₁
  have hfired : s₁.isFired 0 = false := by
    rw [State.isFired, h₁.tokens]
    rfl
  refine ⟨⟨_, .going, busyRig⟩, _, _, before, rfl, ?_, Lives.refl.turn.trans hopen, rfl,
    ⟨rfl, _, _, _, rfl, rfl, rfl⟩, hfired, busy_busyRig.of_steady h₁, hskip⟩
  rintro x ⟨⟩
  exact Nat.one_lt_two

/-- The second start is skipped: the run goes on, and what is in the slot stays the only one. -/
theorem one_acquisition_secondStart : ∃ X₀ X Y r,
    StartsSecond (Site.bench.translate ofBench) X₀ X Y r ∧
      Only (held 0 X₀.rig).toList secondOpening X.rig (held 0 X.rig) ∧
      Skips r X.rig secondSkip Y := by
  obtain ⟨X₀, X, Y, r, h⟩ := exists_startsSecond (Site.bench.translate ofBench)
  obtain ⟨-, honly, hturn⟩ := one_acquisition h.start h.minted (fun _ _ ht => ht) h.opens
  obtain ⟨-, -, hskip⟩ := hturn r h.between
  exact ⟨X₀, X, Y, r, h, honly (.inr ⟨_, h.between⟩),
    (hskip _ _ h.closes).1 _ _ h.takes rfl h.fired h.busy⟩

/-- A program that is to sweep a gate voltage, and does not say how long to relax. -/
def sweepScript : Script := ⟨["start-step second VG 0..1 2*1"]⟩

/-- A program takes up a line that starts a sweep while an acquisition is running, and fails because
of that line. -/
theorem second_start_refused : ∃ l : Script.Line, sweepScript.program = [l] ∧
    l.operation = "start-step" ∧ l.arguments = ["second", "VG", "0..1", "2*1"] ∧
      ∀ site : Site RigSurroundings, ∃ X₀ Y n es fault,
        X₀.work = .done (.again (ProgramRun.start plainConduct 0 sweepScript)) ∧
          Busy 0 X₀.rig ∧ Lives .foreground (Spares 0) (ProgramRun.turn site) X₀ n es Y ∧
          Y.work = .done (.over (.program (.error (.line fault)))) ∧ Busy 0 Y.rig ∧
          begun 0 es = [l.number] := by
  refine ⟨⟨1, "start-step", ["second", "VG", "0..1", "2*1"]⟩, rfl, rfl, rfl, fun site => ?_⟩
  -- the run before its line
  let r : ProgramRun := ⟨plainConduct, 0, .between, 0,
    [⟨1, "start-step", ["second", "VG", "0..1", "2*1"]⟩], .empty, 0⟩
  obtain ⟨fault, hp⟩ := Script.exists_plan_error_of_stepRelax (c := .empty)
    (l := ⟨1, "start-step", ["second", "VG", "0..1", "2*1"]⟩) rfl rfl
  obtain ⟨s₁, h₁, hopen⟩ := Lives.of_leads (p := .foreground) (s := busyRig)
    (show (ProgramRun.turn site (ProgramRun.start plainConduct 0 sweepScript)).Leads
      [reported .rule, reported (.scriptLine "start-step second VG 0..1 2*1"), reported .rule]
      (.done (.again r)) from .step (.step (.step (.refl _))))
    (by simp [reported, Prompt])
  obtain ⟨s₂, h₂, hline⟩ := Lives.of_leads (p := .foreground) (s := s₁)
    (show (ProgramRun.turn site r).Ends _ _ from ends_of_refused rfl rfl hp) (by
      simp [reported, stated, closing, r, Prompt, State.isFired, h₁.tokens, busyRig])
  exact ⟨⟨_, .going, busyRig⟩, _, _, _, fault, rfl, busy_busyRig,
    (Lives.refl.turn.trans hopen).turn.trans hline, rfl,
    (busy_busyRig.of_steady h₁).of_steady h₂, rfl⟩

end CryoRig.Rig
