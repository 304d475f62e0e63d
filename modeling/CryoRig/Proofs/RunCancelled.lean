import CryoRig.Proofs.Company
import CryoRig.Proofs.RunOrders

/-!
# What a program does once it is cancelled

When the token of a program is fired while the program rests, the program finishes what it is
waiting for; it then looks at its token before it begins another line, and is over.

A pause whose alarm has rung may be over even if the token was fired meanwhile. The program then
asks once more whether what it waits for is still under way, but the next pause is cut short.

## Main definitions

* `CryoRig.Control.Fits`: replies as they are once a token was fired.
* `CryoRig.Control.ProgramRun.Winds`: what a program that is cancelled may still do.

## Main results

* `CryoRig.Rig.Lives.fits`: a fired token is seen by whoever looks at it or pauses under it.
* `CryoRig.Control.ProgramRun.winds_of_ends`, `CryoRig.Control.ProgramRun.winds_of_rest`: what a
  program that is cancelled may still do in a turn, and in the rest of one.
-/

namespace CryoRig.Control

open Script Process Rig

/-- A question whether something is ramping. -/
def asksRamping : WorkRequest → Bool
  | .act .magnetRamping | .act .temperatureRamping => true
  | _ => false

/-- How often it is asked whether something is ramping. -/
def queries (es : List (Exchange WorkSurroundings)) : Nat :=
  es.countP fun e => asksRamping e.request

/-- A reply as it is once a token was fired. -/
def Fits (token : Nat) : Exchange WorkSurroundings → Prop
  | ⟨WorkRequest.rig (.fired t), (isFired : Bool)⟩ => t = token → isFired = true
  | ⟨WorkRequest.rig (.pause t _), (passed : Bool)⟩ => t = token → passed = false
  | _ => True

section Cancelled

variable {I : Interface} {site : Site I} {es es' : List (Exchange WorkSurroundings)}
  {token κ : Nat}

@[simp] lemma queries_nil : queries [] = 0 := rfl

@[simp] lemma queries_append : queries (es ++ es') = queries es + queries es' :=
  List.countP_append

lemma queries_eq_zero {α : Type} {p q : Working α}
    (hp : p.AsksOnly fun r => asksRamping r = false) (h : p.Leads es q) : queries es = 0 :=
  List.countP_eq_zero.2 fun e he => by simp [hp.of_leads h e he]

/-- Whatever is asked, there is a reply as it is once a token was fired. -/
lemma exists_fits (token : Nat) (r : WorkRequest) :
    ∃ reply : r.Reply, Fits token ⟨r, reply⟩ := by
  cases r with
  | act a =>
    obtain ⟨reply⟩ := nonempty_reply (.act a)
    exact ⟨reply, trivial⟩
  | rig r =>
    obtain ⟨reply⟩ := nonempty_reply (.rig r)
    cases r with
    | fired t => exact ⟨true, fun _ => rfl⟩
    | pause t span => exact ⟨false, fun _ => rfl⟩
    | _ => exact ⟨reply, trivial⟩

/-- Work aside does not ask whether anything is ramping, and publishes nothing. -/
lemma Aside.still {q : WorkRequest} (h : Aside q) : Silent q ∧ asksRamping q = false := by
  cases q with
  | act => exact h.elim
  | rig r => cases r <;> first | exact h.elim | exact ⟨trivial, rfl⟩

lemma still_of_leads (κ : Nat) {α : Type} {p q : Working α} (hp : p.AsksOnly Aside)
    (h : p.Leads es q) :
    published κ es = [] ∧ queries es = 0 :=
  ⟨published_eq_nil κ (hp.mono fun _ => And.left ∘ Aside.still) h,
    queries_eq_zero (hp.mono fun _ => And.right ∘ Aside.still) h⟩

/-- It is asked at most once whether what is waited for is under way. -/
lemma underWay_queries {what : Awaited} {going : Except Fault Bool}
    (h : (underWay κ what).run.Ends es going) : queries es ≤ 1 := by
  have hact {a : Action} {going : Except Fault a.Result} (h : (actOrFail a).run.Ends es going) :
      queries es ≤ 1 := by
    obtain ⟨e, rfl, -, -⟩ := ends_actOrFail h
    exact List.countP_le_length
  cases what with
  | field => exact hact h
  | temperature => exact hact h
  | acquisition =>
    obtain ⟨active, hactive, -⟩ := ends_run_lift_iff.1 h
    rw [(still_of_leads κ (aside_acquisitionActive κ) hactive).2]
    exact Nat.zero_le 1

/-! ## Work that is answered at once -/

/-- A request that is answered at once. -/
def Quick (q : WorkRequest) : Prop := ¬q.Waits

lemma log_quick (event : Event) : (log event).AsksOnly Quick := asksOnly_request.2 id

lemma logAll_quick (events : List Event) : (logAll events).AsksOnly Quick := by
  induction events with
  | nil => trivial
  | cons event rest ih => exact (log_quick event).bind fun _ => ih

lemma now_quick : now.AsksOnly Quick := AsksOnly.bind (asksOnly_request.2 id) fun _ => trivial

lemma fired_quick (token : Nat) : (fired token).AsksOnly Quick := asksOnly_request.2 id

lemma report_quick {α : Type} {event : Event} {state : ProgramState} {a : α} :
    (do log event; publish κ state; pure a : Working α).AsksOnly Quick :=
  (log_quick event).bind fun _ => AsksOnly.bind (asksOnly_request.2 id) fun _ => trivial

lemma acquisitionActive_quick : (acquisitionActive κ).AsksOnly Quick := by
  refine AsksOnly.bind (asksOnly_request.2 id) fun a? => ?_
  cases a? with
  | none => trivial
  | some a =>
    refine AsksOnly.bind (asksOnly_request.2 id) fun hasEnded => ?_
    cases hasEnded with
    | false => trivial
    | true =>
      exact (log_quick _).bind fun _ => AsksOnly.bind (asksOnly_request.2 id) fun _ => trivial

/-- What comes after an action of the site is reached whether it fails or not. -/
lemma actOrFail_atWaits {α : Type} {a : Action} {f : Except Fault a.Result → Working α}
    {P : Working α → Prop} (hP : P ((actOrFail a).run >>= f))
    (hf : ∀ result, (f result).AtWaits WorkRequest.Waits P) :
    ((actOrFail a).run >>= f).AtWaits WorkRequest.Waits P := by
  refine ⟨fun _ => hP, fun outcome => ?_⟩
  cases outcome with
  | error fault => exact hf _
  | ok value => exact hf _

/-! ## Work after which a program can only fail -/

/-- A request of which nothing is left to be seen but that the program fails. -/
def Spent (q : WorkRequest) : Prop := Publishing (· = .failed) q ∧ asksRamping q = false

lemma Aside.spent {q : WorkRequest} (h : Aside q) : Spent q :=
  ⟨Silent.publishing _ q h.still.1, h.still.2⟩

lemma logAll_spent (events : List Event) : (logAll events).AsksOnly Spent :=
  (aside_logAll events).mono fun _ => Aside.spent

lemma actOrFail_spent {a : Action} (ha : asksRamping (.act a) = false) :
    (actOrFail a).run.AsksOnly Spent := by
  refine ⟨⟨trivial, ha⟩, fun outcome => ?_⟩
  cases outcome <;> trivial

lemma appendRows_spent (file : Nat) (rows : List (List String)) :
    (appendRows file rows).run.AsksOnly Spent := by
  induction rows with
  | nil => trivial
  | cons fields rest ih =>
    refine AsksOnly.run_bind (asksOnly_request.2 ⟨trivial, rfl⟩).run_lift fun written => ?_
    cases written with
    | ok => exact ih
    | error => trivial

lemma openTable_spent (path : String) (columns : List Channel) :
    (openTable path columns).run.AsksOnly Spent := by
  refine AsksOnly.run_bind (asksOnly_request.2 ⟨trivial, rfl⟩).run_lift fun made => ?_
  cases made with
  | error => trivial
  | ok file =>
    refine (logAll_spent [_]).run_lift.run_bind fun _ => ?_
    exact (appendRows_spent _ _).run_bind fun _ => trivial

lemma prepareJob_spent (tuning : Sampling.Tuning) (paths : Sampling.DataPaths) (token : Nat)
    (protocol : Sampling.Protocol) :
    (prepareJob site tuning paths token protocol).run.AsksOnly Spent := by
  have hready (mode : Mode) (samples : Nat) (aggregates : Option Nat)
      (sweep : Option (Sampling.Sweep Float)) :
      (prepareJob.ticking site tuning token mode samples aggregates sweep).run.AsksOnly Spent :=
    (actOrFail_spent rfl).run_bind fun _ => trivial
  have hplain (mode : Mode) : (prepareJob.plain site tuning paths token mode).run.AsksOnly Spent :=
    (openTable_spent _ _).run_bind fun _ => hready _ _ _ _
  cases protocol with
  | differential plan =>
    refine (openTable_spent _ _).run_bind fun _ => (actOrFail_spent rfl).run_bind fun _ => ?_
    exact (actOrFail_spent rfl).run_bind fun _ => trivial
  | stepped sweep =>
    exact (openTable_spent _ _).run_bind fun _ => (openTable_spent _ _).run_bind fun _ =>
      hready _ _ _ _
  | continuous => exact hplain _
  | autoscan => exact hplain _

lemma startInSlot_spent (console : Nat) (tuning : Sampling.Tuning) (name : String)
    (protocol : Sampling.Protocol) :
    (startInSlot site console tuning name protocol).run.AsksOnly Spent := by
  have aside {α : Type} {w : Working α} (hw : w.AsksOnly Aside) : w.AsksOnly Spent :=
    hw.mono fun _ => Aside.spent
  have hask {q : Request} (hq : Aside (.rig q)) : (ask q).AsksOnly Spent :=
    aside (asksOnly_request.2 hq)
  refine (aside (aside_acquisitionActive console)).run_lift.run_bind fun active => ?_
  cases active with
  | true => exact (aside (aside_log _)).run_lift
  | false =>
    have hstart : (startAcquisition site tuning name protocol).run.AsksOnly Spent := by
      refine (hask (q := .calendar) trivial).run_lift.run_bind fun _ => ?_
      refine (hask (q := .newToken) trivial).run_lift.run_bind fun _ => ?_
      refine (aside (aside_log _)).run_lift.run_bind fun _ => ?_
      refine (prepareJob_spent _ _ _ _).run_bind fun _ => ?_
      exact AsksOnly.run_bind (asksOnly_request.2 ⟨trivial, rfl⟩).run_lift fun _ => trivial
    refine hstart.run_bind fun _ => (aside (aside_log _)).run_lift.run_bind fun _ => ?_
    exact (asksOnly_request.2 ⟨trivial, rfl⟩).run_lift

lemma perform_spent (conduct : Conduct) (line : Nat) (deed : Deed)
    (hdeed : ∀ a, deed.action? = some a → a.isOrder = true) :
    (perform site conduct line deed).run.AsksOnly Spent := by
  have aside {α : Type} {w : Working α} (hw : w.AsksOnly Aside) : w.AsksOnly Spent :=
    hw.mono fun _ => Aside.spent
  cases deed with
  | nothing => trivial
  | start name protocol autorange =>
    exact (startInSlot_spent _ _ _ _).run_bind fun _ => trivial
  | stop => exact (aside (aside_stopInSlot _ _ _)).run_lift.run_bind fun _ => trivial
  | wait seconds =>
    refine (aside (aside_log _)).run_lift.run_bind fun _ => ?_
    exact (aside aside_now).run_lift.run_bind fun _ => trivial
  | waitFor what => exact (aside (aside_log _)).run_lift.run_bind fun _ => trivial
  | act a =>
    have ha : asksRamping (.act a) = false := by
      have := hdeed a rfl
      cases a <;> first | rfl | cases this
    refine (actOrFail_spent ha).run_bind fun _ => ?_
    exact (logAll_spent _).run_lift.run_bind fun _ => trivial

end Cancelled

namespace ProgramRun

variable {I : Interface} {site : Site I} {r : ProgramRun} {es : List (Exchange WorkSurroundings)}
  {result : Turn ProgramRun Ending}

/-! ## Turns of a cancelled program -/

/-- How many turns are left in a phase before the token is looked at. -/
def phaseAhead : Phase → Nat
  | .between => 0
  | _ => 1

/-- How many turns a cancelled program has left before it looks at its token. -/
def ahead : Turn ProgramRun Ending → Nat
  | .again r => phaseAhead r.phase
  | .over _ => 0

lemma ahead_of_ne (h : r.phase ≠ .between) : ahead (.again r) = 1 := by
  cases hphase : r.phase with
  | between => exact absurd hphase h
  | _ => simp [ahead, hphase, phaseAhead]

lemma ahead_le_one (t : Turn ProgramRun Ending) : ahead t ≤ 1 := by
  match t with
  | .again r => cases h : r.phase <;> simp [ahead, h, phaseAhead]
  | .over _ => exact Nat.zero_le 1

/-- What a cancelled program may still do: it begins no line and does not get to its end. -/
structure Winds (κ k : Nat) (es : List (Exchange WorkSurroundings))
    (result : Turn ProgramRun Ending) : Prop where
  /-- No line is begun. -/
  begun_eq : begun κ es = []
  /-- It is not published that the program is complete. -/
  complete : .complete ∉ published κ es
  /-- It is not asked too often whether something is ramping. -/
  queries_le : queries es + ahead result ≤ k
  /-- The end is that of an interrupted program, unless something fails. -/
  outcome : ∀ ending, result = .over ending →
    (∃ sum, ending = .program (.ok sum) ∧ (published κ es).getLast? = some .interrupted) ∨
      ∃ fault e, ending = .program (.error fault) ∧ e ∈ es ∧ fault? e = some fault

variable {κ : Nat}

/-- Nothing is published, and the program goes on. -/
lemma Winds.of_again {k : Nat} {r' : ProgramRun} (hpub : published κ es = [])
    (hq : queries es + ahead (.again r') ≤ k) : Winds κ k es (.again r') := by
  refine ⟨by simp [begun, hpub], by simp [hpub], hq, ?_⟩
  rintro ending ⟨⟩

/-- A cancelled program is at a fault. -/
lemma Winds.of_fault {line k : Nat} {fault : Fault} (hpub : published κ es = [])
    (hq : queries es ≤ k) (he : ∃ e ∈ es, fault? e = some fault) :
    Winds κ k (es ++ closing κ line fault) (.over (.program (.error fault))) := by
  have hclosing : published κ (closing κ line fault) = [.failed] := published_close ..
  obtain ⟨e, he, hfault⟩ := he
  refine ⟨by simp [begun, hpub, hclosing, begins], by simp [hpub, hclosing], ?_, ?_⟩
  · rwa [queries_append, show queries (closing κ line fault) = 0 from rfl]
  · rintro ending ⟨⟩
    exact .inr ⟨fault, e, rfl, List.mem_append_left _ he, hfault⟩

/-- A cancelled program has looked at its token. -/
lemma winds_of_interrupted (k : Nat) :
    Winds r.conduct.console k [⟨.rig (.fired r.token), true⟩, reported .programInterrupted,
      stated r.conduct.console .interrupted] (.over (.program (.ok r.sum))) := by
  have hpub : published r.conduct.console [⟨.rig (.fired r.token), true⟩,
      reported .programInterrupted, stated r.conduct.console .interrupted] = [.interrupted] :=
    published_close _ .programInterrupted .interrupted
  refine ⟨by simp [begun, hpub, begins], by simp [hpub], Nat.zero_le _, ?_⟩
  rintro ending ⟨⟩
  exact .inl ⟨_, rfl, by rw [hpub]; rfl⟩

/-- In all phases but one a cancelled program goes on and looks at its token next, unless it is at a
fault. -/
lemma winds_of_resume (hpub : published r.conduct.console es = []) (hq : queries es ≤ 1)
    (hphase : r.phase ≠ .between) :
    Winds r.conduct.console (ahead (.again r)) es r.resume ∧
      ∀ r', r.resume = .again r' → ahead (.again r') < ahead (.again r) := by
  rw [ahead_of_ne hphase]
  refine ⟨.of_again hpub hq, ?_⟩
  rintro r' ⟨⟩
  exact Nat.one_pos

/-- What a cancelled program may still do in one turn: it looks at its token and is over, or it
looks at its token in the next turn.

**Proof sketch.** By the ways in which a turn goes. Some go on only if the token was not fired, and
a pause is cut short. -/
theorem winds_of_ends (h : (turn site r).Ends es result) (hfit : ∀ e ∈ es, Fits r.token e) :
    Winds r.conduct.console (ahead (.again r)) es result ∧
      ∀ r', result = .again r' → ahead (.again r') < ahead (.again r) := by
  have not_unfired (he : (⟨.rig (.fired r.token), false⟩ : Exchange WorkSurroundings) ∈ es) :
      False := Bool.false_ne_true (hfit _ he rfl)
  cases goes_of_ends h with
  | announces hphase hlog =>
    obtain ⟨hpub, hq⟩ := still_of_leads r.conduct.console (aside_logAll _) hlog
    exact winds_of_resume hpub (by omega) (by simp [hphase])
  | interrupted =>
    refine ⟨winds_of_interrupted _, ?_⟩
    rintro r' ⟨⟩
  | completed | refused | failed | begun => exact (not_unfired (by simp [takingUp])).elim
  | slept hphase hsleeps =>
    cases hsleeps with
    | rested | stopped => exact winds_of_resume rfl (Nat.zero_le 1) (by simp [hphase])
    | pauses => exact (not_unfired (by simp)).elim
  | @failedWaiting what es₁ fault hphase hgoing =>
    obtain ⟨⟨es₂, e, hes, _, he⟩, -⟩ := underWay_faithful _ what _ _ hgoing
    rw [ahead_of_ne (by simp [hphase])]
    refine ⟨.of_fault (published_eq_nil _ (underWay_silent what) hgoing) (underWay_queries hgoing)
      ⟨e, hes ▸ by simp, he⟩, ?_⟩
    rintro r' ⟨⟩
  | settled hphase hgoing =>
    exact winds_of_resume (published_eq_nil _ (underWay_silent _) hgoing) (underWay_queries hgoing)
      (by simp [hphase])
  | paused passed hphase hgoing =>
    obtain rfl : passed = false := hfit ⟨.rig (.pause r.token r.conduct.poll), passed⟩ (by simp) rfl
    refine winds_of_resume ?_ ?_ (by simp [hphase])
    · rw [published_append, published_eq_nil _ (underWay_silent _) hgoing]
      rfl
    · simpa [queries, asksRamping] using underWay_queries hgoing

/-! ## What is left of a turn -/

/-- A program does not end well. -/
def Unended (t : Turn ProgramRun Ending) : Prop := ∀ sum, t ≠ .over (.program (.ok sum))

/-- What may be left of a turn while the program has to wait. -/
inductive AtRest (site : Site I) (r : ProgramRun) : Working (Turn ProgramRun Ending) → Prop where
  /-- It is asked whether something is ramping. -/
  | asks {what : Awaited} (hphase : r.phase = .settling what) : AtRest site r (turn site r)
  /-- The program pauses. -/
  | pauses (span : Duration) : AtRest site r (r.pauseFor span)
  /-- What a line says is done. -/
  | performs {l : Line} {rest : List Line} {step : Step} {w : Working (Turn ProgramRun Ending)}
      (hl : r.lines = l :: rest) (hp : l.plan r.config = .ok step) (hw : w.Yields Spent Unended) :
      AtRest site r w

lemma pauseFor_atWaits (span : Duration) :
    (r.pauseFor span).AtWaits WorkRequest.Waits (AtRest site r) := by
  refine ⟨fun _ => .pauses span, fun passed => ?_⟩
  cases passed <;> trivial

lemma sleepOn_atWaits (left : Duration) :
    (r.sleepOn left).AtWaits WorkRequest.Waits (AtRest site r) := by
  unfold sleepOn
  split
  · trivial
  · refine (fired_quick _).bind_atWaits fun isFired => ?_
    cases isFired with
    | true => trivial
    | false => exact pauseFor_atWaits _

lemma begin_atWaits {l : Line} {rest : List Line} (hl : r.lines = l :: rest) :
    (r.begin site l rest).AtWaits WorkRequest.Waits (AtRest site r) := by
  refine AsksOnly.bind_atWaits (asksOnly_request.2 id) fun _ => ?_
  refine (log_quick _).bind_atWaits fun _ => ?_
  cases hp : l.plan r.config with
  | error fault =>
    dsimp only
    exact report_quick.atWaits
  | ok step =>
    dsimp only
    refine AtWaits.mono (Yields.atWaits ?_) fun w hw => .performs hl hp hw
    refine (logAll_spent _).bind_yields fun _ => ?_
    refine (perform_spent _ _ _ ?_).bind_yields fun phase? => ?_
    · intro a ha
      rw [Line.action?_of_plan hp] at ha
      obtain ⟨command, -, hc⟩ := Option.bind_eq_some_iff.1 ha
      exact isOrder_of_action? hc
    · cases phase? with
      | error fault =>
        refine ⟨⟨trivial, rfl⟩, fun _ => ⟨⟨rfl, rfl⟩, fun _ => ?_⟩⟩
        rintro sum ⟨⟩
      | ok phase => rintro sum ⟨⟩

/-- Wherever a program has to wait, that is all that is left of its turn. -/
theorem turn_atWaits : (turn site r).AtWaits WorkRequest.Waits (AtRest site r) := by
  cases hphase : r.phase with
  | opening announcements =>
    rw [turn_of_opening site hphase]
    exact (logAll_quick _).bind_atWaits fun _ => trivial
  | between =>
    cases hl : r.lines with
    | nil =>
      rw [turn_of_nil site hphase hl]
      refine (fired_quick _).bind_atWaits fun isFired => ?_
      cases isFired <;> exact report_quick.atWaits
    | cons l rest =>
      rw [turn_of_cons site hphase hl]
      refine (fired_quick _).bind_atWaits fun isFired => ?_
      cases isFired with
      | true => exact report_quick.atWaits
      | false => exact begin_atWaits hl
  | sleeping until? =>
    rw [turn_of_sleeping site hphase]
    refine ⟨fun hwaits => absurd hwaits id, fun t => ?_⟩
    exact sleepOn_atWaits _
  | settling what =>
    have hasks : AtRest site r (turn site r) := .asks hphase
    rw [turn_of_settling site hphase] at hasks ⊢
    have hsettle (result : Except Fault Bool) :
        (r.settle result).AtWaits WorkRequest.Waits (AtRest site r) := by
      match result with
      | .error fault => exact report_quick.atWaits
      | .ok false => trivial
      | .ok true => exact pauseFor_atWaits _
    cases what with
    | field | temperature => exact actOrFail_atWaits hasks hsettle
    | acquisition => exact acquisitionActive_quick.run_lift.bind_atWaits hsettle

/-- Whatever a run waits for, it has not failed before. -/
lemma mem_of_closing {es₀ es₁ : List (Exchange WorkSurroundings)} {e : Exchange WorkSurroundings}
    {q : WorkRequest} {reply : q.Reply} {line : Nat} {fault : Fault} (hwaits : q.Waits)
    (h : es₀ ++ ⟨q, reply⟩ :: es = es₁ ++ e :: closing κ line fault) :
    e ∈ (⟨q, reply⟩ :: es : List (Exchange WorkSurroundings)) := by
  have hclosing : ∀ e' ∈ closing κ line fault, Quick e'.request := by
    simp [closing, reported, stated, Quick, WorkRequest.Waits, MayWait]
  rcases List.append_eq_append_iff.1 h with ⟨es₂, -, h'⟩ | ⟨es₂, -, h'⟩
  · exact h' ▸ by simp
  · cases es₂ with
    | nil =>
      rw [List.nil_append] at h'
      exact h' ▸ List.mem_cons_self
    | cons e' es₂ =>
      obtain ⟨-, h'⟩ := List.cons.inj h'
      exact absurd hwaits (hclosing ⟨q, reply⟩ (h' ▸ by simp))

lemma head_of_settling {what : Awaited} {q : WorkRequest}
    {next : q.Reply → Working (Turn ProgramRun Ending)} (hphase : r.phase = .settling what)
    (h : turn site r = .ask q next) : ∀ token span, q ≠ .rig (.pause token span) := by
  rw [turn_of_settling site hphase] at h
  rintro token span rfl
  cases what <;> cases h

/-- What is left of a turn of a cancelled program. The reply to a pause that is on is no matter. -/
theorem winds_of_rest {es₀ : List (Exchange WorkSurroundings)} {q : WorkRequest}
    {next : q.Reply → Working (Turn ProgramRun Ending)}
    (hlead : (turn site r).Leads es₀ (.ask q next)) (hwaits : q.Waits)
    (h : (Process.ask (I := WorkSurroundings) q next).Ends es result)
    (hfit : (∃ span, q = .rig (.pause r.token span)) ∨ ∀ e ∈ es, Fits r.token e) :
    Winds r.conduct.console 1 es result := by
  have hrest := turn_atWaits.of_leads hlead hwaits
  generalize hw : Process.ask (I := WorkSurroundings) q next = w at *
  cases hrest with
  | asks hphase =>
    rcases hfit with ⟨span, hq⟩ | hfit
    · exact absurd hq (head_of_settling hphase hw.symm _ _)
    · obtain ⟨hwinds, -⟩ := winds_of_ends h hfit
      exact { hwinds with queries_le := Nat.le_trans hwinds.queries_le (ahead_le_one _) }
  | pauses span =>
    obtain ⟨es₁, es₂, passed, rfl, h₁, h₂⟩ := ends_bind_iff.1 h
    obtain rfl := ends_request_iff.1 h₁
    have hqueries : queries ([⟨.rig (.pause r.token span), passed⟩] ++ []) = 0 := rfl
    cases passed <;> obtain ⟨rfl, rfl⟩ := ends_pure_iff.1 h₂ <;> refine .of_again rfl ?_ <;>
      rw [hqueries, Nat.zero_add] <;> exact ahead_le_one _
  | @performs l rest step _ hl hp hyields =>
    obtain ⟨hspent, hunended⟩ := hyields.of_ends h
    have hpub := of_mem_published r.conduct.console
      (hyields.asksOnly.mono fun _ hq => hq.1 : w.AsksOnly (Publishing (· = .failed))) h
    have hqueries := queries_eq_zero (hyields.asksOnly.mono fun _ hq => hq.2) h
    refine ⟨?_, fun hc => (by cases hpub _ hc), by have := ahead_le_one result; omega, ?_⟩
    · refine List.filterMap_eq_nil_iff.2 fun state hs => ?_
      rw [hpub state hs]
      rfl
    · rintro ending rfl
      obtain ⟨reply, es₁, rfl, -⟩ := ends_ask_iff.1 (hw ▸ h)
      have hcourse := course_of_ends (hlead.trans h)
      generalize hes : es₀ ++ ⟨q, reply⟩ :: es₁ = es' at hcourse
      cases hcourse with
      | refuses hl' hp' =>
        obtain ⟨rfl, rfl⟩ := List.cons.inj (hl.symm.trans hl')
        rw [hp] at hp'
        cases hp'
      | fails _ _ he => exact .inr ⟨_, _, rfl, mem_of_closing hwaits hes, he⟩
      | failsWaiting _ he => exact .inr ⟨_, _, rfl, mem_of_closing hwaits hes, he⟩
      | closes => exact absurd rfl (hunended _)

/-! ## Turns after each other -/

/-- What a cancelled program may still do in one turn, and then in others. -/
lemma Winds.append {k : Nat} {es' : List (Exchange WorkSurroundings)}
    (h : Winds κ k es (.again r)) (h' : Winds κ (ahead (.again r)) es' result) :
    Winds κ k (es ++ es') result := by
  refine ⟨by rw [begun_append, h.begun_eq, h'.begun_eq]; rfl, fun hc => ?_, ?_, ?_⟩
  · rw [published_append] at hc
    exact (List.mem_append.1 hc).elim h.complete h'.complete
  · rw [queries_append]
    have := h.queries_le
    have := h'.queries_le
    omega
  · intro ending he
    rcases h'.outcome ending he with ⟨sum, hsum, hlast⟩ | ⟨fault, e, hfault, hmem, hreports⟩
    · refine .inl ⟨sum, hsum, ?_⟩
      rw [published_append, List.getLast?_append, hlast]
      rfl
    · exact .inr ⟨fault, e, hfault, List.mem_append_right _ hmem, hreports⟩

/-- A turn leaves alone how a program is run and what cancels it. -/
lemma Course.keeps {r' : ProgramRun} (h : Course r es (.again r')) :
    r'.conduct = r.conduct ∧ r'.token = r.token := by
  cases h <;> exact ⟨rfl, rfl⟩

/-- What a cancelled program may still do in several turns. -/
lemma winds_of_rounds {s t : ProgramRun}
    {turns : List (ProgramRun × List (Exchange WorkSurroundings))}
    (h : Rounds (turn site) s turns (.again t)) (hfit : ∀ e ∈ exchanges turns, Fits s.token e) :
    t.conduct = s.conduct ∧ t.token = s.token ∧
      Winds s.conduct.console (ahead (.again s)) (exchanges turns) (.again t) ∧
      turns.length + ahead (.again t) ≤ ahead (.again s) := by
  generalize ht : Turn.again t = result at h
  induction h generalizing t with
  | start =>
    cases ht
    exact ⟨rfl, rfl, .of_again rfl (by simp), by simp⟩
  | @next turns u es' _ h hu ih =>
    subst ht
    rw [exchanges_append, exchanges_singleton] at hfit ⊢
    obtain ⟨hc, htoken, hwinds, hlen⟩ := ih (fun e he => hfit e (List.mem_append_left _ he)) rfl
    obtain ⟨hc', htoken'⟩ := (course_of_ends hu).keeps
    obtain ⟨hwinds', hlt⟩ := winds_of_ends hu fun e he =>
      htoken ▸ hfit e (List.mem_append_right _ he)
    rw [hc] at hwinds'
    refine ⟨hc'.trans hc, htoken'.trans htoken, hwinds.append hwinds', ?_⟩
    have := hlt t rfl
    rw [List.length_append, List.length_singleton]
    omega

end ProgramRun

end CryoRig.Control

namespace CryoRig.Rig

open Control Process

/-! ## Cancelled in company -/

section Company

variable {p : Party} {others : State → State → Prop} {σ ε : Type} {turn : σ → Working (Turn σ ε)}
  {X Y : Standing (Turn σ ε)} {n token : Nat} {es : List (Exchange WorkSurroundings)}

/-- The others do not undo that a token was fired. -/
def KeepsFired (token : Nat) (others : State → State → Prop) : Prop :=
  ∀ s t, others s t → s.isFired token = true → t.isFired token = true

/-- Whoever looks at a token that was fired, or pauses under it, is told so. -/
lemma fits_of_answer? {s t : State} {alarm : Option Nat} {r : Request} {reply : r.Reply}
    (hs : s.isFired token = true) (h : s.answer? p alarm r = some (reply, t)) :
    Fits token ⟨.rig r, reply⟩ := by
  cases r with
  | fired =>
    cases h
    rintro rfl
    exact hs
  | pause =>
    rintro rfl
    simp only [State.answer?, hs, if_true] at h
    cases h
    rfl
  | _ => trivial

/-- A pause under a token is on. -/
def Standing.Pauses {α : Type} (X : Standing α) (token : Nat) : Prop :=
  (∃ span next, X.work = .ask (.rig (.pause token span)) next) ∧ X.pace ≠ .going

/-- What happens once a token was fired. -/
lemma Standing.Move.fits {α : Type} {X Y : Standing α} (h : X.Move p others es Y)
    (hothers : KeepsFired token others) (hX : X.rig.isFired token = true) :
    Y.rig.isFired token = true ∧ (Y.Pauses token → X.Pauses token ∧ es = [] ∧ Y.work = X.work) ∧
      ((∀ e ∈ es, Fits token e) ∨ X.Pauses token ∧ es.tail = []) := by
  have henter (r : Request) : (X.rig.enter p r).2.isFired token = true := by
    rwa [State.isFired, tokens_enter]
  have goes {Y : Standing α} (hY : Y.pace = .going) (hp : Y.Pauses token) :
      X.Pauses token ∧ es = [] ∧ Y.work = X.work := absurd hY hp.2
  cases h with
  | answered h =>
    exact ⟨isFired_of_answer? h (henter _), goes rfl,
      .inl (List.forall_mem_singleton.2 (fits_of_answer? (henter _) h))⟩
  | resumes h =>
    exact ⟨isFired_of_answer? h hX, goes rfl,
      .inl (List.forall_mem_singleton.2 (fits_of_answer? hX h))⟩
  | @waits r next _ h =>
    refine ⟨henter r, ?_, .inl (List.forall_mem_nil _)⟩
    -- a pause under the token would have been answered at once
    rintro ⟨⟨span, next', hw⟩, -⟩
    cases hw
    simp only [State.answer?, henter, if_true] at h
    cases h
  | @rings t span next s alarm h =>
    refine ⟨hX, goes rfl, ?_⟩
    by_cases ht : t = token
    · subst ht
      exact .inr ⟨⟨⟨span, next, rfl⟩, by simp⟩, rfl⟩
    · exact .inl (List.forall_mem_singleton.2 fun h => absurd h ht)
  | acts =>
    refine ⟨hX, ?_, .inl (List.forall_mem_nil _)⟩
    rintro ⟨⟨span, next, hw⟩, -⟩
    cases hw
  | acted => exact ⟨hX, goes rfl, .inl (List.forall_mem_singleton.2 trivial)⟩
  | others _ h => exact ⟨hothers _ _ h hX, fun hp => ⟨hp, rfl, rfl⟩, .inl (List.forall_mem_nil _)⟩

/-- Once a token was fired, whoever looks at it or pauses under it is told so. Only a pause that is
on may still be over because its alarm has rung.

**Proof sketch.** Induction on what happens. Nothing undoes that the token was fired; a pause that
is asked for after that is answered at once, so a pause that is on has been on from the start. -/
theorem Lives.fits (h : Lives p others turn X n es Y) (hothers : KeepsFired token others)
    (hX : X.rig.isFired token = true) :
    Y.rig.isFired token = true ∧ (Y.Pauses token → es = [] ∧ Y.work = X.work) ∧
      ((∀ e ∈ es, Fits token e) ∨
        (∃ span next, X.work = .ask (.rig (.pause token span)) next) ∧
          ∀ e ∈ es.tail, Fits token e) := by
  induction h with
  | refl => exact ⟨hX, fun _ => ⟨rfl, rfl⟩, .inl (List.forall_mem_nil _)⟩
  | turn _ ih => exact ⟨ih.1, fun hp => absurd rfl hp.2, ih.2.2⟩
  | @move _ es es' Y Z _ hm ih =>
    obtain ⟨hY, hpause, hfits⟩ := ih
    obtain ⟨hZ, hpause', hfits'⟩ := hm.fits hothers hY
    refine ⟨hZ, fun hp => ?_, ?_⟩
    · obtain ⟨hp', rfl, hw⟩ := hpause' hp
      obtain ⟨rfl, hw'⟩ := hpause hp'
      exact ⟨rfl, hw.trans hw'⟩
    · rcases hfits' with hfits' | ⟨hp, htail⟩
      · refine hfits.imp (fun hfits => List.forall_mem_append.2 ⟨hfits, hfits'⟩) ?_
        rintro ⟨hw, hfits⟩
        refine ⟨hw, fun e he => ?_⟩
        cases es with
        | nil => exact hfits' e (List.mem_of_mem_tail he)
        | cons => exact (List.mem_append.1 he).elim (hfits e) (hfits' e)
      · obtain ⟨rfl, hw⟩ := hpause hp
        refine .inr ⟨hw ▸ hp.1, ?_⟩
        rw [List.nil_append, htail]
        exact List.forall_mem_nil _

end Company

end CryoRig.Rig
