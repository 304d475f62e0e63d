import CryoRig.Proofs.Happenings
import CryoRig.Proofs.Rehearsal
import CryoRig.Proofs.StopCourse

/-!
# A dry run leaves the published state alone

A program publishes the state it is in, and everybody can read it. The dry run of a check publishes
on the same console: first that a script is being checked, and at the end the state that it has
found, or that the script is refused. In between it does not wait for anything, so nobody else
publishes meanwhile. The *voice* of a console is what it shows when the dry runs that end well are
left out: the state that a program has published last, unless a script was refused since.

## Main definitions

* `CryoRig.Rig.Speaks`: work of a caller that publishes nothing but what belongs to a dry run.
* `CryoRig.Rig.Scene.Heard`: what the voice of a console is in a scene.
* `CryoRig.Rig.Scene.Does`, `CryoRig.Rig.Scene.InCheck`: what is done along a course, and who is in
  the middle of a dry run.

## Main results

* `CryoRig.Rig.candid_calls`: callers only publish in dry runs.
* `CryoRig.Rig.Scene.Heard.proceeds`: what a step makes of the voice.
* `CryoRig.Rig.Course.shown_since`: nobody but a program, or a script that is refused, changes what
  is shown while no dry run is under way.
-/

namespace CryoRig.Rig

open Control Process

variable {α β γ : Type} {site : Site RigSurroundings} {κ callers : Nat} {p q : Party} {r : Request}
  {s t : State}

/-! ## What is shown -/

/-- The state that is shown on a console. -/
def State.showing (s : State) (κ : Nat) : ProgramState := (s.console κ).published

/-- What is shown on a console after a request, when some state was shown before. -/
def shownAfter (κ : Nat) (shown : ProgramState) : Request → ProgramState
  | .publish κ' state => if κ' = κ then state else shown
  | _ => shown

/-- Who reads what is shown on a console is told so. -/
def Tells (κ : Nat) (shown : ProgramState) : (r : Request) → r.Reply → Prop
  | .published κ', (state : ProgramState) => κ' = κ → state = shown
  | _, _ => True

lemma shownAfter_of_ne {shown : ProgramState} (hr : ∀ state, r ≠ .publish κ state) :
    shownAfter κ shown r = shown := by
  cases r with
  | publish κ' state =>
    refine if_neg ?_
    rintro rfl
    exact hr state rfl
  | _ => rfl

lemma MayWait.ne_publish (h : MayWait r) (κ : Nat) (state : ProgramState) :
    r ≠ .publish κ state := by
  rintro rfl
  exact h

lemma showing_congr (h : t.consoles = s.consoles) : t.showing κ = s.showing κ := by
  rw [State.showing, State.console, h]
  rfl

lemma showing_enter (s : State) (p : Party) (r : Request) :
    (s.enter p r).2.showing κ = s.showing κ :=
  showing_congr (consoles_enter s p r)

/-- What is shown changes when it is published, and whoever reads it is told what is shown. -/
lemma showing_of_answer? {alarm : Option Nat} {reply : r.Reply}
    (h : s.answer? p alarm r = some (reply, t)) :
    t.showing κ = shownAfter κ (s.showing κ) r ∧ Tells κ (s.showing κ) r reply := by
  by_cases hplain : r.Plain
  · have hshown : t.showing κ = s.showing κ := showing_congr (alike_of_plain hplain h).consoles
    cases r <;> first | exact ⟨hshown, trivial⟩ | cases hplain
  cases r with
  | publish κ' state =>
    cases h
    refine ⟨?_, trivial⟩
    rw [State.showing, State.console_setConsole, shownAfter]
    by_cases hκ : κ' = κ
    · rw [if_pos hκ.symm, if_pos hκ]
    · rw [if_neg (Ne.symm hκ), if_neg hκ]
      rfl
  | published κ' =>
    cases h
    refine ⟨rfl, ?_⟩
    rintro rfl
    rfl
  | setSlot κ' a =>
    cases h
    refine ⟨?_, trivial⟩
    rw [State.showing, State.console_setConsole]
    split
    · rename_i hκ
      rw [hκ]
      rfl
    · rfl
  | leaveDesk =>
    cases h
    exact ⟨showing_congr (alike_wakeParty _ _).consoles, trivial⟩
  | join | tryDesk | takeDesk =>
    simp only [State.answer?] at h
    split at h <;> first | (cases h; exact ⟨rfl, trivial⟩) | skip
    all_goals split at h <;> first | (cases h; exact ⟨rfl, trivial⟩) | cases h
  | device | bench | clock | calendar | fired | pause | present | create | append =>
    exact absurd trivial hplain
  | _ =>
    cases h
    exact ⟨rfl, trivial⟩

/-! ## Work of callers -/

/-- What a request of a caller makes of the voice: it publishes nothing but that a script is being
checked, the voice itself, or that a script is refused. -/
def Voices (κ : Nat) (voice voice' : ProgramState) : Request → Prop
  | .publish κ' state =>
    if κ' = κ then
      (state = .checking ∨ state = voice) ∧ voice' = voice ∨ state = .failed ∧ voice' = .failed
    else voice' = voice
  | _ => voice' = voice

lemma voices_iff_of_ne {voice voice' : ProgramState} (hr : ∀ state, r ≠ .publish κ state) :
    Voices κ voice voice' r ↔ voice' = voice := by
  cases r with
  | publish κ' state =>
    rw [Voices, if_neg]
    rintro rfl
    exact hr state rfl
  | _ => rfl

/-- Wherever some work of a caller comes to, when there is a voice and some state is shown, it
publishes nothing but what belongs to a dry run. It only waits while the voice is shown, and then it
goes on with whatever is shown by that time. -/
def Speaks (κ : Nat) (Q : β → ProgramState → ProgramState → Prop) :
    RigWork β → ProgramState → ProgramState → Prop
  | .done b, voice, shown => Q b voice shown
  | .ask r next, voice, shown =>
    (∃ voice', Voices κ voice voice' r ∧ ∀ reply, Tells κ shown r reply →
      Speaks κ Q (next reply) voice' (shownAfter κ shown r)) ∧
    (MayWait r → shown = voice ∧ ∀ reply u, Speaks κ Q (next reply) u u)

/-- A request that publishes nothing. -/
def Mute (r : Request) : Prop := ∀ κ state, r ≠ .publish κ state

section Speaks

variable {Q : β → ProgramState → ProgramState → Prop} {voice shown : ProgramState}

/-- Work in sequence. -/
lemma Speaks.bind {P : γ → ProgramState → ProgramState → Prop} {w : RigWork γ}
    {f : γ → RigWork β} (h : Speaks κ P w voice shown)
    (hf : ∀ a v u, P a v u → Speaks κ Q (f a) v u) : Speaks κ Q (w >>= f) voice shown := by
  change Speaks κ Q (w.bind f) voice shown
  induction w generalizing voice shown with
  | done a => exact hf a _ _ h
  | ask r next ih =>
    obtain ⟨⟨voice', hv, hnext⟩, hwait⟩ := h
    exact ⟨⟨voice', hv, fun reply hr => ih reply (hnext reply hr)⟩,
      fun hr => ⟨(hwait hr).1, fun reply u => ih reply ((hwait hr).2 reply u)⟩⟩

/-- A request that is answered at once and publishes nothing is no concern of the voice. -/
lemma speaks_ask {next : r.Reply → RigWork β} (hr : Mute r) (hq : ¬MayWait r)
    (hnext : ∀ reply, Tells κ shown r reply → Speaks κ Q (next reply) voice shown) :
    Speaks κ Q (.ask r next) voice shown := by
  refine ⟨⟨voice, (voices_iff_of_ne (hr κ)).2 rfl, fun reply ht => ?_⟩, fun hw => absurd hw hq⟩
  rw [shownAfter_of_ne (hr κ)]
  exact hnext reply ht

/-- What is published in a dry run. -/
lemma speaks_publish {state voice' : ProgramState} {next : Unit → RigWork β}
    (hv : (state = .checking ∨ state = voice) ∧ voice' = voice ∨
      state = .failed ∧ voice' = .failed)
    (hnext : Speaks κ Q (next ()) voice' state) :
    Speaks κ Q (.ask (.publish κ state) next) voice shown := by
  refine ⟨⟨voice', ?_, fun _ _ => ?_⟩, fun h => absurd h id⟩
  · rwa [Voices, if_pos rfl]
  · rwa [shownAfter, if_pos rfl]

/-- Whoever waits while the voice is shown goes on with whatever is shown then. -/
lemma Speaks.of_mayWait {next : r.Reply → RigWork β} (h : Speaks κ Q (.ask r next) voice shown)
    (hr : MayWait r) (u : ProgramState) : Speaks κ Q (.ask r next) u u := by
  refine ⟨⟨u, (voices_iff_of_ne (hr.ne_publish κ)).2 rfl, fun reply _ => ?_⟩,
    fun hr => ⟨rfl, fun reply => (h.2 hr).2 reply⟩⟩
  rw [shownAfter_of_ne (hr.ne_publish κ)]
  exact (h.2 hr).2 reply u

end Speaks

/-- Work of a caller that begins and ends with the voice shown, whatever it is. -/
def Candid (κ : Nat) (w : RigWork β) : Prop :=
  ∀ u, Speaks κ (fun _ voice shown => shown = voice) w u u

lemma Candid.bind {w : RigWork γ} {f : γ → RigWork β} (hw : Candid κ w)
    (hf : ∀ a, Candid κ (f a)) : Candid κ (w >>= f) := by
  refine fun u => (hw u).bind fun a v s hs => ?_
  obtain rfl : s = v := hs
  exact hf a s

lemma candid_pure (b : β) : Candid κ (pure b : RigWork β) := fun _ => rfl

/-- Work that publishes nothing is candid. -/
lemma candid_of_mute {w : RigWork β} (h : w.AsksOnly Mute) : Candid κ w := by
  induction w with
  | done b => exact fun _ => rfl
  | ask r next ih =>
    intro u
    refine ⟨⟨u, (voices_iff_of_ne (h.1 κ)).2 rfl, fun reply _ => ?_⟩,
      fun _ => ⟨rfl, fun reply => ih reply (h.2 reply)⟩⟩
    rw [shownAfter_of_ne (h.1 κ)]
    exact ih reply (h.2 reply) u

/-! ## Calls -/

section Calls

lemma mute_of_plain (r : Request) (h : r.Plain) : Mute r := by
  rintro κ state rfl
  exact h

lemma WorkRequest.asks_mute {q : WorkRequest} (h : Silent q) : q.Asks Mute := by
  cases q with
  | act => trivial
  | rig r =>
    rintro κ state rfl
    exact h

lemma candid_of_silent (hs : Confined site) {w : Working β} (h : w.AsksOnly Silent) :
    Candid κ (carryOut site w) :=
  candid_of_mute
    (yields_carryOut hs mute_of_plain (h.mono fun _ => WorkRequest.asks_mute).yields).asksOnly

/-- What a check does when it has found a state: the dry run. -/
def dryRun (κ : Nat) (script : Script) (found : ProgramState) : Risky Float := do
  publish κ .checking
  logAll script.announce
  logAll (Script.rehearse .empty 0 script.program).1
  match (Script.rehearse .empty 0 script.program).2 with
  | .ok seconds =>
    publish κ found
    pure seconds
  | .error fault =>
    publish κ .failed
    throw (.line fault)

lemma run_checkScript (script : Script) : (checkScript κ script).run =
    Control.ask (.published κ) >>= fun found : ProgramState => (dryRun κ script found).run := rfl

/-- What a dry run reports is no concern of the voice. -/
lemma speaks_logAll {Q : Unit → ProgramState → ProgramState → Prop} {voice shown : ProgramState}
    (hQ : Q () voice shown) (events : List Event) :
    Speaks κ Q (carryOut site (logAll events)) voice shown := by
  induction events with
  | nil => exact hQ
  | cons event rest ih => exact speaks_ask (by rintro _ _ ⟨⟩) id fun _ _ => ih

/-- A dry run ends with what it has found shown again, or the script is refused. -/
lemma candid_checkScript (script : Script) :
    Candid κ (carryOut site (checkScript κ script).run) := by
  intro u
  rw [run_checkScript]
  refine speaks_ask (r := .published κ) (by rintro _ _ ⟨⟩) id fun found hfound => ?_
  obtain rfl : found = u := hfound rfl
  change Speaks κ _ (carryOut site (dryRun κ script found).run) found found
  have hreports (events : List Event) : Speaks κ (fun _ v s => v = found ∧ s = .checking)
      (carryOut site (logAll events)) found .checking := speaks_logAll ⟨rfl, rfl⟩ events
  unfold dryRun
  rw [run_lift_bind]
  refine speaks_publish (.inl ⟨.inl rfl, rfl⟩) ?_
  change Speaks κ _ (carryOut site (ExceptT.run (liftM (logAll _) >>= fun _ => _))) found .checking
  rw [run_lift_bind, carryOut_bind]
  refine (hreports _).bind fun _ v s h => ?_
  obtain ⟨rfl, rfl⟩ := h
  rw [run_lift_bind, carryOut_bind]
  refine (hreports _).bind fun _ v s h => ?_
  obtain ⟨rfl, rfl⟩ := h
  cases (Script.rehearse .empty 0 script.program).2 with
  | ok seconds => exact speaks_publish (.inl ⟨.inr rfl, rfl⟩) rfl
  | error fault => exact speaks_publish (.inr ⟨rfl, rfl⟩) rfl

/-- So does a check. -/
lemma candid_check (hs : Confined site) (text : String) :
    Candid κ (carryOut site (Session.check κ text).run) := by
  unfold Session.check
  rw [ExceptT.run_bind, carryOut_bind]
  refine (candid_checkScript _).bind fun result => ?_
  cases result with
  | error fault => exact candid_pure _
  | ok seconds =>
    refine candid_of_silent hs ((log_silent _).run_lift.run_bind fun _ => ?_)
    split
    · exact (log_silent _).run_lift.run_bind fun _ => trivial
    · trivial

/-- A start publishes nothing but its dry run. -/
lemma candid_start (hs : Confined site) (session : SessionSettings) (text : String) :
    Candid session.conduct.console (carryOut site (Session.start session text).run) := by
  have hactive : Session.programActive.AsksOnly Silent := by
    refine AsksOnly.bind (asksOnly_request.2 trivial) fun job? => ?_
    cases job? with
    | none => trivial
    | some job => exact AsksOnly.bind (asksOnly_request.2 trivial) fun _ => trivial
  have hdesk : Candid session.conduct.console
      (carryOut site (Session.startAtDesk session text).run) := by
    unfold Session.startAtDesk
    rw [run_lift_bind, carryOut_bind]
    refine (candid_of_silent hs hactive).bind fun active => ?_
    cases active with
    | true => exact candid_pure _
    | false =>
      rw [if_neg (by simp), ExceptT.run_bind, carryOut_bind]
      refine (candid_check hs text).bind fun result => ?_
      cases result with
      | error fault => exact candid_pure _
      | ok seconds =>
        refine candid_of_silent hs ?_
        exact ⟨trivial, fun _ => ⟨trivial, fun _ => ⟨trivial, fun _ => ⟨trivial, fun _ =>
          ⟨trivial, fun _ => trivial⟩⟩⟩⟩⟩
  have htry : (Control.ask .tryDesk).AsksOnly Silent := asksOnly_request.2 trivial
  change Candid _ (carryOut site (Control.ask .tryDesk >>= fun free => _))
  rw [carryOut_bind]
  refine (candid_of_silent hs htry).bind fun free => ?_
  change Bool at free
  cases free with
  | false => exact candid_pure _
  | true =>
    change Candid _ (carryOut site ((Session.startAtDesk session text).run >>= fun _ => _))
    rw [carryOut_bind]
    exact hdesk.bind fun _ => candid_of_silent hs ⟨trivial, fun _ => trivial⟩

/-- Nor do a wait and a stop publish anything. -/
lemma wait_silent : Session.wait.run.AsksOnly Silent := by
  refine ⟨trivial, fun _ => ⟨trivial, fun job? => ?_⟩⟩
  change Option Nat at job?
  cases job? with
  | none => exact ⟨trivial, fun _ => trivial⟩
  | some job => exact ⟨trivial, fun _ => ⟨trivial, fun _ => ⟨trivial, fun _ => trivial⟩⟩⟩

lemma sessionStop_silent (session : SessionSettings) :
    (Session.stop session).AsksOnly Silent := by
  have hprogram (limit : Option Instant) : (Session.stopProgram limit).AsksOnly Silent := by
    refine ⟨trivial, fun taken => ?_⟩
    change Bool at taken
    cases taken with
    | false => trivial
    | true =>
      refine ⟨trivial, fun job? => ⟨trivial, fun _ => ?_⟩⟩
      change Option Nat at job?
      cases job? with
      | none => exact ⟨trivial, fun _ => trivial⟩
      | some job => exact ⟨trivial, fun _ => ⟨trivial, fun _ => trivial⟩⟩
  refine ⟨trivial, fun token => ⟨trivial, fun _ => ⟨trivial, fun _ => ⟨trivial, fun ms => ?_⟩⟩⟩⟩
  refine (hprogram _).bind fun inTime => ?_
  cases inTime
  case' false => refine AsksOnly.bind (log_silent _) fun _ => ?_
  all_goals
    refine ⟨trivial, fun a? => ⟨trivial, fun _ => ?_⟩⟩
    change Option Acquisition at a?
    cases a? with
    | none => exact log_silent _
    | some a =>
      refine (log_silent _).bind fun _ => ?_
      exact (stop_silent a _).bind fun _ => log_silent _

/-- Every call publishes nothing but what belongs to a dry run. -/
lemma candid_serve (hs : Confined site) (session : SessionSettings) (call : Call) :
    Candid session.conduct.console (carryOut site (call.serve session)) := by
  cases call with
  | check text => exact candid_check hs text
  | start text => exact candid_start hs session text
  | wait => exact candid_of_silent hs wait_silent
  | stop => exact candid_of_silent hs (sessionStop_silent session)
  | rest span => exact candid_of_silent hs (asksOnly_request.2 trivial)

/-- So does any sequence of calls. -/
theorem candid_calls (hs : Confined site) (session : SessionSettings)
    (client : Process Calls β) :
    Candid session.conduct.console
      (carryOut site (client.translate (Call.serve session))) := by
  induction client with
  | done b => exact fun _ => rfl
  | ask call next ih =>
    change Candid _ (carryOut site (Call.serve session call >>= fun reply =>
      (next reply).translate (Call.serve session)))
    rw [carryOut_bind]
    exact (candid_serve hs session call).bind ih

end Calls

/-! ## The voice -/

namespace Scene

/-- How the work of a caller may end: with the voice shown, and a job for good. -/
def Closes : (p : Party) → p.Result α → ProgramState → ProgramState → Prop
  | .foreground, _, voice, shown => shown = voice
  | .job _, turn, voice, shown => shown = voice ∧ ∃ ending, turn = .over ending

/-- What the voice of a console is in a scene. It is shown unless a caller runs, which may be in the
middle of a dry run then. The callers that do not run can go on with whatever is shown by the time
that they do. -/
structure Heard (κ callers : Nat) (c : Scene α) (voice : ProgramState) : Prop where
  /-- No job runs while the foreground does. -/
  solo : ∀ work, c.foreground = .running work → c.current = none
  /-- The callers are there. -/
  callers_le : callers ≤ c.state.jobs.size
  /-- Whoever waits does so for something that may not be there yet. -/
  waits : ∀ p w, c.at? p = some (.waiting w) → MayWait w.request
  /-- A caller that runs. -/
  runs : ∀ p x, c.Runs p → c.at? p = some x → IsCaller callers p →
    Speaks κ (Closes p) x.work voice (c.state.showing κ)
  /-- Callers that do not. -/
  rests : ∀ p x, ¬c.Runs p → c.at? p = some x → IsCaller callers p →
    ∀ u, Speaks κ (Closes p) x.work u u
  /-- While no caller runs the voice is shown. -/
  calm : (∀ p, c.Runs p → ¬IsCaller callers p) → c.state.showing κ = voice

/-- What becomes of the voice and of what is shown when something is asked. -/
structure Sounds (κ callers : Nat) (c d : Scene α) (asked : Option (Party × Request))
    (voice voice' : ProgramState) : Prop where
  /-- What is published is shown. -/
  shown : ∀ p state, asked = some (p, .publish κ state) → d.state.showing κ = state
  /-- It is the voice if no caller publishes it. -/
  job : ∀ p state, asked = some (p, .publish κ state) → ¬IsCaller callers p → voice' = state
  /-- A caller publishes what belongs to a dry run. -/
  caller : ∀ p state, asked = some (p, .publish κ state) → IsCaller callers p →
    (state = .checking ∨ state = voice) ∧ voice' = voice ∨ state = .failed ∧ voice' = .failed
  /-- If nothing is published all is as it was. -/
  silent : (∀ p state, asked ≠ some (p, .publish κ state)) →
    voice' = voice ∧ d.state.showing κ = c.state.showing κ

section Heard

variable {c d : Scene α} {voice voice' : ProgramState} {asked : Option (Party × Request)}
  {reply? : Option (Party × Exchange RigSurroundings)}

lemma Sounds.of_none (h : d.state.showing κ = c.state.showing κ) :
    Sounds κ callers c d none voice voice where
  shown _ _ h := by cases h
  job _ _ h := by cases h
  caller _ _ h := by cases h
  silent _ := ⟨rfl, h⟩

lemma Sounds.of_answer (hd : d.state.showing κ = shownAfter κ (c.state.showing κ) r)
    (hcaller : IsCaller callers p → Voices κ voice voice' r)
    (hjob : ¬IsCaller callers p → voice' = shownAfter κ voice r) :
    Sounds κ callers c d (some (p, r)) voice voice' where
  shown := by
    rintro q state ⟨⟩
    rw [hd, shownAfter, if_pos rfl]
  job := by
    rintro q state ⟨⟩ hno
    rw [hjob hno, shownAfter, if_pos rfl]
  caller := by
    rintro q state ⟨⟩ hc
    have hv := hcaller hc
    rwa [Voices, if_pos rfl] at hv
  silent hne := by
    have hr (state : ProgramState) : r ≠ .publish κ state := by
      rintro rfl
      exact hne p state rfl
    rw [hd, shownAfter_of_ne hr]
    refine ⟨?_, rfl⟩
    by_cases hc : IsCaller callers p
    · exact (voices_iff_of_ne hr).1 (hcaller hc)
    · rw [hjob hc, shownAfter_of_ne hr]

/-- Nobody is lost when something is answered. -/
lemma le_size_of_answer? {u : State} {alarm : Option Nat} {reply : r.Reply}
    (hs : callers ≤ s.jobs.size) (h : s.answer? p alarm r = some (reply, u)) :
    callers ≤ u.jobs.size := by
  rcases jobs_of_answer? h with hu | ⟨job, -, hu⟩
  · rwa [hu]
  · rw [hu, Array.size_push]
    exact Nat.le_succ_of_le hs

lemma showing_put (c : Scene α) (p : Party) (x : Foreground (p.Result α)) :
    (c.put p x).state.showing κ = c.state.showing κ :=
  showing_congr (by rw [state_put])

/-- Whoever does not have the reply is at what it was at, or it is a new job. -/
lemma at?_of_others {u : State} {alarm : Option Nat} {reply : r.Reply}
    (hc : callers ≤ c.state.jobs.size) (hs : s.jobs = c.state.jobs)
    (h : s.answer? p alarm r = some (reply, u)) (q : Party) :
    ({ c with state := u } : Scene α).at? q = c.at? q ∨ ¬IsCaller callers q ∧
      ∃ work, ({ c with state := u } : Scene α).at? q = some (.running work) := by
  rcases jobs_of_answer? h with hu | ⟨job, -, hu⟩
  · exact .inl (at?_mk (hu.trans hs) q)
  · rw [hs] at hu
    by_cases hq : q = .job c.state.jobs.size
    · subst hq
      exact .inr ⟨fun hcaller => absurd (hcaller _ rfl) (Nat.not_lt.2 hc), _, at?_push_self hu⟩
    · exact .inl (at?_push_of_ne hu hq)

/-- Whoever goes on runs. -/
lemma runs_put {x : Foreground (p.Result α)} {work : RigWork (p.Result α)}
    (hx : c.at? p = some x)
    (hp : ∀ n, p = .job n → (∃ w, c.foreground = .waiting w) ∧ c.current = some n) :
    (c.put p (.running work)).Runs p := by
  cases p with
  | foreground => exact .foreground rfl
  | job n =>
    obtain ⟨⟨w, hw⟩, hn⟩ := hp n rfl
    exact .job hw hn (at?_job_iff.1 (at?_put_self hx))

/-- While nobody runs the foreground waits. -/
lemma exists_waiting (hr : ∀ q, ¬c.Runs q) : ∃ w, c.foreground = .waiting w := by
  cases hf : c.foreground with
  | running work => exact absurd (.foreground hf) (hr _)
  | waiting w => exact ⟨w, rfl⟩

@[simp] lemma current_put (c : Scene α) (p : Party) (x : Foreground (p.Result α)) :
    (c.put p x).current = c.current := by
  cases p <;> rfl

lemma Runs.job_current {n : Nat} (h : c.Runs (.job n)) :
    (∃ w, c.foreground = .waiting w) ∧ c.current = some n := by
  cases h with
  | job hw hn => exact ⟨⟨_, hw⟩, hn⟩

namespace Heard

variable (h : Heard κ callers c voice)

include h

lemma calm_of_idle (hr : ∀ q, ¬c.Runs q) : c.state.showing κ = voice :=
  h.calm fun q hq => absurd hq (hr q)

lemma calm_of_runs (hr : c.Runs p) (hno : ¬IsCaller callers p) : c.state.showing κ = voice :=
  h.calm fun q hq => by rwa [hq.unique hr]

/-- A party runs, and the others are at what they were at. -/
lemma of_runs {work : RigWork (p.Result α)} (hd : d.Runs p) (hx : d.at? p = some (.running work))
    (hsolo : p = .foreground → d.current = none) (honly : ∀ q, c.Runs q → q = p)
    (hothers : ∀ q, q ≠ p → d.at? q = c.at? q ∨
      ¬IsCaller callers q ∧ ∃ work, d.at? q = some (.running work))
    (hsize : callers ≤ d.state.jobs.size)
    (hspeaks : IsCaller callers p → Speaks κ (Closes p) work voice' (d.state.showing κ))
    (hshown : ¬IsCaller callers p → d.state.showing κ = voice') : Heard κ callers d voice' where
  solo work hf := hsolo (hd.unique (.foreground hf))
  callers_le := hsize
  waits q w hw := by
    by_cases hq : q = p
    · subst hq
      cases hx.symm.trans hw
    · rcases hothers q hq with he | ⟨-, work, he⟩
      · exact h.waits q w (he.symm.trans hw)
      · cases he.symm.trans hw
  runs q x hq hx' hcaller := by
    obtain rfl := hd.unique hq
    cases hx.symm.trans hx'
    exact hspeaks hcaller
  rests q x hq hx' hcaller := by
    have hne : q ≠ p := by
      rintro rfl
      exact hq hd
    rcases hothers q hne with he | ⟨hno, -⟩
    · exact h.rests q x (fun hr => hne (honly q hr)) (he.symm.trans hx') hcaller
    · exact absurd hcaller hno
  calm hnone := hshown (hnone p hd)

/-- Nobody runs, and whoever does not wait just now is at what it was at. -/
lemma of_idle (hd : ∀ q, ¬d.Runs q) (hsize : callers ≤ d.state.jobs.size)
    (hothers : ∀ q x, d.at? q = some x → ¬c.Runs q ∧ c.at? q = some x ∨
      ∃ w, x = .waiting w ∧ MayWait w.request ∧
        (IsCaller callers q → ∀ u, Speaks κ (Closes q) x.work u u))
    (hshown : d.state.showing κ = voice) : Heard κ callers d voice where
  solo work hf := absurd (.foreground hf) (hd _)
  callers_le := hsize
  waits q w hw := by
    rcases hothers q _ hw with ⟨-, hw⟩ | ⟨w', hx, hmay, -⟩
    · exact h.waits q w hw
    · cases hx
      exact hmay
  runs q _ hq := absurd hq (hd q)
  rests q x _ hx hcaller := by
    rcases hothers q x hx with ⟨hr, hx⟩ | ⟨-, -, -, hspeaks⟩
    · exact h.rests q x hr hx hcaller
    · exact hspeaks hcaller
  calm _ := hshown

/-- Whoever runs has a reply and goes on. -/
lemma answer {next : r.Reply → RigWork (p.Result α)} {reply : r.Reply} (hr : c.Asks p r)
    (hp : c.at? p = some (.running (.ask r next)))
    (ha : (c.state.enter p r).2.answer? p (c.state.enter p r).1 r = some (reply, t)) :
    ∃ voice', Heard κ callers ({ c with state := t }.put p (.running (next reply))) voice' ∧
      Sounds κ callers c ({ c with state := t }.put p (.running (next reply))) (some (p, r))
        voice voice' := by
  have hothers := at?_of_others h.callers_le (jobs_enter c.state p r) ha
  have hat : ({ c with state := t } : Scene α).at? p = some (.running (.ask r next)) :=
    at?_of_answer? (jobs_enter ..) ha hp
  obtain ⟨hshown, htells⟩ := showing_of_answer? (κ := κ) ha
  rw [showing_enter] at hshown htells
  replace hshown : ({ c with state := t }.put p (.running (next reply)) : Scene α).state.showing κ =
      shownAfter κ (c.state.showing κ) r := (showing_put ..).trans hshown
  -- whatever the voice is then, the rest is the same
  have hgo (voice' : ProgramState)
      (hspeaks : IsCaller callers p → Voices κ voice voice' r ∧ Speaks κ (Closes p) (next reply)
        voice' (shownAfter κ (c.state.showing κ) r))
      (hjob : ¬IsCaller callers p → voice' = shownAfter κ voice r) :
      Heard κ callers ({ c with state := t }.put p (.running (next reply))) voice' ∧
        Sounds κ callers c ({ c with state := t }.put p (.running (next reply))) (some (p, r))
          voice voice' := by
    refine ⟨h.of_runs (runs_put hat ?_) (at?_put_self hat) ?_ (fun q hq => hq.unique hr.runs)
      (fun q hq => ?_) ?_ (fun hc => ?_) fun hno => ?_,
      .of_answer hshown (fun hc => (hspeaks hc).1) hjob⟩
    · rintro n rfl
      exact hr.runs.job_current
    · rintro rfl
      rw [current_put]
      exact h.solo _ (Option.some.inj hp)
    · rw [at?_put_of_ne hq]
      exact hothers q
    · rw [size_put]
      exact le_size_of_answer? (jobs_enter c.state p r ▸ h.callers_le) ha
    · rw [hshown]
      exact (hspeaks hc).2
    · rw [hshown, hjob hno, h.calm_of_runs hr.runs hno]
  by_cases hc : IsCaller callers p
  · obtain ⟨⟨voice', hv, hnext⟩, -⟩ := h.runs p _ hr.runs hp hc
    exact ⟨voice', hgo voice' (fun _ => ⟨hv, hnext reply htells⟩) fun hno => absurd hc hno⟩
  · exact ⟨_, hgo _ (fun hc' => absurd hc' hc) fun _ => rfl⟩

/-- Whoever runs waits for a reply. -/
lemma wait {next : r.Reply → RigWork (p.Result α)} {alarm current : Option Nat} {rank : Nat}
    (hr : c.Asks p r) (hp : c.at? p = some (.running (.ask r next))) (hmay : MayWait r)
    (hj : t.jobs = c.state.jobs) (hs : t.consoles = c.state.consoles)
    (hn : current = none ∨ p = .foreground ∧ current = c.current) :
    Heard κ callers ({ c with state := t, current := current }.put p
      (.waiting ⟨r, next, alarm, rank⟩)) voice := by
  have hat (q : Party) : ({ c with state := t, current := current } : Scene α).at? q = c.at? q :=
    at?_mk hj q
  have hnone : current = none := by
    rcases hn with hn | ⟨rfl, hn⟩
    · exact hn
    · exact hn.trans (h.solo _ (Option.some.inj hp))
  have hwaiting : ∃ w, (({ c with state := t, current := current } : Scene α).put p
      (.waiting ⟨r, next, alarm, rank⟩)).foreground = .waiting w := by
    cases p with
    | foreground => exact ⟨_, rfl⟩
    | job n => exact hr.runs.job_current.1
  obtain ⟨w, hw⟩ := hwaiting
  have hspeaks (hc : IsCaller callers p) := h.runs p _ hr.runs hp hc
  refine h.of_idle (not_runs_of_current hw (by rw [current_put]; exact hnone)) ?_
    (fun q x hx => ?_) ?_
  · rw [size_put]
    exact hj ▸ h.callers_le
  · by_cases hq : q = p
    · subst hq
      cases (at?_put_self ((hat q).trans hp)).symm.trans hx
      exact .inr ⟨_, rfl, hmay, fun hc u => (hspeaks hc).of_mayWait hmay u⟩
    · refine .inl ⟨fun hq' => hq (hq'.unique hr.runs), ?_⟩
      rwa [at?_put_of_ne hq, hat] at hx
  · rw [showing_put]
    refine (showing_congr hs).trans ?_
    by_cases hc : IsCaller callers p
    · exact ((hspeaks hc).2 hmay).1
    · exact h.calm_of_runs hr.runs hc

/-- Whoever waits has the reply and goes on. -/
lemma resume {w : Waiting (p.Result α)} {reply : w.request.Reply} {ready : List Nat}
    {current : Option Nat} (hr : ∀ q, ¬c.Runs q) (hp : c.at? p = some (.waiting w))
    (ha : { c.state with ready := ready }.answer? p w.alarm w.request = some (reply, t))
    (hn : ∀ n, current = some n ↔ p = .job n) :
    Heard κ callers ({ c with state := t, current := current, fresh := false }.put p
      (.running (w.next reply))) voice ∧ t.showing κ = voice := by
  have hmay := h.waits p w hp
  have hat (q : Party) : ({ c with state := t, current := current, fresh := false } :
      Scene α).at? q = ({ c with state := t } : Scene α).at? q :=
    at?_mk (c := { c with state := t }) rfl q
  have hj : ({ c.state with ready := ready } : State).jobs = c.state.jobs := rfl
  have hothers := at?_of_others h.callers_le hj ha
  have hx := (hat p).trans (at?_of_answer? hj ha hp)
  have hshown : t.showing κ = voice := by
    rw [(showing_of_answer? (κ := κ) ha).1, shownAfter_of_ne (hmay.ne_publish κ)]
    exact h.calm_of_idle hr
  refine ⟨h.of_runs (runs_put hx ?_) (at?_put_self hx) ?_ (fun q hq => absurd hq (hr q))
    (fun q hq => ?_) ?_ (fun hc => ?_) fun _ => (showing_put ..).trans hshown, hshown⟩
  · exact fun n hpn => ⟨exists_waiting (c := c) hr, (hn n).2 hpn⟩
  · rintro rfl
    rw [current_put]
    exact Option.eq_none_iff_forall_ne_some.2 fun n hn' => by cases (hn n).1 hn'
  · rw [at?_put_of_ne hq, hat]
    exact hothers q
  · rw [size_put]
    exact le_size_of_answer? (hj ▸ h.callers_le) ha
  · rw [showing_put]
    exact hshown ▸ ((h.rests p _ (hr p) hp hc voice).2 hmay).2 reply voice

/-- The job that runs has ended. -/
lemma finish {n : Nat} {ending : Ending} (hr : c.Runs (.job n))
    (hn : c.at? (.job n) = some (.running (.done (.over ending)))) :
    Heard κ callers { c with
      state := (c.state.setJob n (.ended ending)).wake (State.isJoinOf n)
      current := none } voice := by
  obtain ⟨w, hw⟩ := hr.job_current.1
  have hat (q : Party) : ({ c with
      state := (c.state.setJob n (.ended ending)).wake (State.isJoinOf n)
      current := none } : Scene α).at? q =
        ({ c with state := c.state.setJob n (.ended ending) } : Scene α).at? q := by
    cases q <;> rfl
  refine h.of_idle (not_runs_of_current hw rfl) ?_ (fun q x hx => .inl ?_) ?_
  · exact Nat.le_trans h.callers_le (Nat.le_of_eq Array.size_setIfInBounds.symm)
  · replace hx : ({ c with state := c.state.setJob n (.ended ending) } : Scene α).at? q =
        some x := (hat q).symm.trans hx
    have hne : q ≠ .job n := by
      rintro rfl
      cases (at?_end_self hn).symm.trans hx
    exact ⟨fun hq => hne (hq.unique hr), (at?_end_of_ne hne).symm.trans hx⟩
  · by_cases hc : IsCaller callers (.job n)
    · exact (h.runs _ _ hr hn hc).1
    · exact h.calm_of_runs hr hc

/-- **What a step makes of the voice.** It stays as it is unless a program publishes something, or
the script of a caller is refused. -/
theorem proceeds (hp : Proceeds site c asked reply? d) :
    ∃ voice', Heard κ callers d voice' ∧ Sounds κ callers c d asked voice voice' := by
  cases hp with
  | answer hr hp ha => exact h.answer hr hp ha
  | @wait p r next current hr hp ha hn =>
    have hmay := mayWait_of_answer?_eq_none ha
    refine ⟨voice, h.wait hr hp hmay (jobs_enter ..) (consoles_enter ..) hn, ?_, ?_, ?_, ?_⟩
    · rintro _ state ⟨⟩
      exact hmay.elim
    · rintro _ state ⟨⟩
      exact hmay.elim
    · rintro _ state ⟨⟩
      exact hmay.elim
    · refine fun _ => ⟨rfl, ?_⟩
      rw [showing_put]
      exact showing_congr (consoles_enter ..)
  | resume hr hp ha hn =>
    obtain ⟨hd, hshown⟩ := h.resume hr hp ha hn
    exact ⟨voice, hd, .of_none ((showing_put ..).trans (hshown.trans (h.calm_of_idle hr).symm))⟩
  | take hr hn =>
    obtain ⟨w, hw⟩ := exists_waiting hr
    have hcalm := h.calm_of_idle hr
    refine ⟨voice, h.of_runs (.job hw rfl (at?_job_iff.1 hn)) hn (fun hp => by cases hp)
      (fun q hq => absurd hq (hr q)) (fun q _ => .inl (at?_mk (c := c) rfl q)) h.callers_le
      (fun hc => ?_) fun _ => hcalm, .of_none rfl⟩
    exact hcalm ▸ h.rests _ _ (hr _) hn hc voice
  | @turn n job hr hn =>
    have hno : ¬IsCaller callers (.job n) := by
      intro hc
      obtain ⟨-, ending, hover⟩ := h.runs _ _ hr hn hc
      cases hover
    refine ⟨voice, h.of_runs (runs_put hn ?_) (at?_put_self hn) (fun hp => by cases hp)
      (fun q hq => hq.unique hr) (fun q hq => .inl (at?_put_of_ne hq)) ?_ (fun hc => absurd hc hno)
      fun _ => (showing_put ..).trans (h.calm_of_runs hr hno), .of_none (showing_put ..)⟩
    · rintro k ⟨⟩
      exact hr.job_current
    · rw [size_put]
      exact h.callers_le
  | finish hr hn => exact ⟨voice, h.finish hr hn, .of_none rfl⟩
  | @idle s fresh hr hs =>
    obtain ⟨w, hw⟩ := exists_waiting hr
    have hj : s.jobs = c.state.jobs := by rw [hs]
    have hshown : s.showing κ = c.state.showing κ := showing_congr (by rw [hs])
    refine ⟨voice, h.of_idle (not_runs_of_current hw rfl) (hj ▸ h.callers_le)
      (fun q x hx => .inl ⟨hr q, (at?_mk hj q).symm.trans hx⟩) ?_, .of_none hshown⟩
    exact hshown.trans (h.calm_of_idle hr)

end Heard

end Heard

end Scene

/-! ## Along a course -/

section Courses

variable {c : Nat → Scene α} {session : SessionSettings} {voice state : ProgramState} {i n : Nat}

/-- In the step after a scene of a course a party makes a request. -/
def Scene.Does (site : Site RigSurroundings) (c : Nat → Scene α) (n : Nat) (p : Party)
    (r : Request) : Prop :=
  (c n).Asks p r ∧ (c n).step site = .more (c (n + 1))

/-- A party is in the middle of a dry run: it has published that a script is being checked, and
nothing since. -/
def Scene.InCheck (site : Site RigSurroundings) (κ : Nat) (c : Nat → Scene α) (n : Nat)
    (p : Party) : Prop :=
  ∃ i < n, Scene.Does site c i p (.publish κ .checking) ∧
    ∀ j, i < j → j < n → ∀ state, ¬Scene.Does site c j p (.publish κ state)

/-- At first the voice is what is shown. -/
lemma Opening.heard (hs : Confined site) {c : Scene α} (h : Opening site session c) :
    c.Heard session.conduct.console c.state.jobs.size
      (c.state.showing session.conduct.console) where
  solo _ _ := h.current
  callers_le := Nat.le_refl _
  waits p w hw := by
    cases p with
    | foreground =>
      obtain ⟨client, hf⟩ := h.foreground
      rw [Scene.at?, hf] at hw
      cases hw
    | job n =>
      obtain ⟨client, ending, hj⟩ := h.jobs n _ (Scene.at?_job_iff.1 hw)
      cases hj
  runs p x hp hx _ := by
    obtain ⟨client, hf⟩ := h.foreground
    obtain rfl := hp.unique (.foreground hf)
    rw [Scene.at?, hf] at hx
    cases hx
    exact candid_calls hs session client _
  rests p x hp hx _ := by
    obtain ⟨client, hf⟩ := h.foreground
    cases p with
    | foreground => exact absurd (.foreground hf) hp
    | job n =>
      obtain ⟨client, ending, hj⟩ := h.jobs n _ (Scene.at?_job_iff.1 hx)
      cases x with
      | waiting => cases hj
      | running work =>
        cases hj
        exact fun u => (candid_calls hs session client u).bind fun _ _ _ hu => ⟨hu, ending, rfl⟩
  calm _ := rfl

/-- What happens meanwhile is no concern of the voice. -/
lemma Scene.Heard.meanwhile {c : Scene α} {w : Waiting α} (h : c.Heard κ callers voice)
    (hw : c.foreground = .waiting w) (hn : c.current = none) (ha : Alike c.state s)
    (fresh : Bool) : ({ c with state := s, fresh := fresh } : Scene α).Heard κ callers voice := by
  have hr := not_runs_of_current hw hn
  refine h.of_idle (not_runs_of_current hw hn) (ha.jobs ▸ h.callers_le)
    (fun q x hx => .inl ⟨hr q, (at?_mk ha.jobs q).symm.trans hx⟩) ?_
  exact (showing_congr ha.consoles).trans (h.calm_of_idle hr)

/-- From one scene of a course to the next somebody does something, or nobody does anything and the
jobs and the consoles are as they were. -/
lemma Scene.Move.cases_does (hm : (c n).Move site (c (n + 1))) :
    (∃ asked reply?, Proceeds site (c n) asked reply? (c (n + 1)) ∧
      ∀ p r, asked = some (p, r) ↔ Does site c n p r) ∨
    (∀ p r, ¬Does site c n p r) ∧ (c (n + 1) = c n ∨ ∃ w t fresh,
      (c n).foreground = .waiting w ∧ (c n).current = none ∧ Alike (c n).state t ∧
        c (n + 1) = { c n with state := t, fresh := fresh }) := by
  by_cases hstep : (c n).step site = .more (c (n + 1))
  · obtain ⟨asked, reply?, hp⟩ := proceeds_of_step hstep
    exact .inl ⟨asked, reply?, hp, fun p r =>
      (hp.asks_iff p r).trans ⟨fun ha => ⟨ha, hstep⟩, And.left⟩⟩
  · refine .inr ⟨fun p r hd => hstep hd.2, ?_⟩
    generalize c (n + 1) = d at hm hstep ⊢
    cases hm with
    | step hs => exact absurd hs hstep
    | stay => exact .inl rfl
    | meanwhile fresh hw hn ha => exact .inr ⟨_, _, fresh, hw, hn, ha, rfl⟩

/-- What a move makes of the voice. -/
lemma Scene.Heard.move (h : (c n).Heard κ callers voice) (hm : (c n).Move site (c (n + 1))) :
    ∃ voice' asked, (c (n + 1)).Heard κ callers voice' ∧
      Sounds κ callers (c n) (c (n + 1)) asked voice voice' ∧
      ∀ p r, asked = some (p, r) ↔ Does site c n p r := by
  rcases hm.cases_does with ⟨asked, reply?, hp, hasked⟩ | ⟨hnone, hidle⟩
  · obtain ⟨voice', hheard, hsounds⟩ := h.proceeds hp
    exact ⟨voice', asked, hheard, hsounds, hasked⟩
  have hheard : (c (n + 1)).Heard κ callers voice ∧
      (c (n + 1)).state.showing κ = (c n).state.showing κ := by
    rcases hidle with hd | ⟨w, t, fresh, hw, hn, ha, hd⟩
    · rw [hd]
      exact ⟨h, rfl⟩
    · rw [hd]
      exact ⟨h.meanwhile hw hn ha fresh, showing_congr ha.consoles⟩
  refine ⟨voice, none, hheard.1, .of_none hheard.2, fun p r => ⟨fun h => ?_, fun hd => ?_⟩⟩
  · cases h
  · exact absurd hd (hnone p r)

/-- There is a voice all along. -/
lemma Course.exists_heard (hs : Confined site) (h : Course site session c) (n : Nat) :
    ∃ voice, (c n).Heard session.conduct.console (c 0).state.jobs.size voice := by
  induction n with
  | zero => exact ⟨_, h.opening.heard hs⟩
  | succ n ih =>
    obtain ⟨voice, hv⟩ := ih
    obtain ⟨voice', asked, hv', -⟩ := hv.move (h.move n)
    exact ⟨voice', hv'⟩

/-- **Dry runs that end well leave no trace.** Somebody who is not a caller has published a state.
Since then none but callers have published anything, and no script was refused, unless that is what
the state says. Then the state is still shown, or a caller is in the middle of a dry run.

**Proof sketch.** Induction on the scenes since then: the state is the voice throughout. Whatever a
caller publishes is the voice, which is shown then, or that it checks a script, and then the caller
is in the middle of a dry run until it publishes again. -/
theorem Course.shown_since (hs : Confined site) (h : Course site session c)
    (hi : Scene.Does site c i p (.publish session.conduct.console state))
    (hp : ¬Scene.IsCaller (c 0).state.jobs.size p) (hin : i < n)
    (hcallers : ∀ j, i < j → j < n → ∀ q u,
      Scene.Does site c j q (.publish session.conduct.console u) →
        Scene.IsCaller (c 0).state.jobs.size q ∧ (u = .failed → state = .failed)) :
    (c n).state.showing session.conduct.console = state ∨
      ∃ q, Scene.InCheck site session.conduct.console c n q := by
  suffices hgo : (c n).Heard session.conduct.console (c 0).state.jobs.size state ∧
      ((c n).state.showing session.conduct.console = state ∨
        ∃ q, Scene.InCheck site session.conduct.console c n q) from hgo.2
  induction hin with
  | refl =>
    obtain ⟨voice, hv⟩ := h.exists_heard hs i
    obtain ⟨voice', asked, hv', hsounds, hasked⟩ := hv.move (h.move i)
    obtain rfl := hsounds.job p state ((hasked _ _).2 hi) hp
    exact ⟨hv', .inl (hsounds.shown p voice' ((hasked _ _).2 hi))⟩
  | @step n hin ih =>
    obtain ⟨hv, hshown⟩ := ih fun j hij hjn => hcallers j hij (Nat.lt_succ_of_lt hjn)
    obtain ⟨voice', asked, hv', hsounds, hasked⟩ := hv.move (h.move n)
    by_cases hpub : ∃ q u, asked = some (q, .publish session.conduct.console u)
    · obtain ⟨q, u, hq⟩ := hpub
      have hdoes := (hasked _ _).1 hq
      obtain ⟨hcaller, hfailed⟩ := hcallers n hin (Nat.lt_succ_self n) q u hdoes
      have hshown' := hsounds.shown q u hq
      rcases hsounds.caller q u hq hcaller with ⟨rfl | rfl, rfl⟩ | ⟨rfl, rfl⟩
      · refine ⟨hv', .inr ⟨q, n, Nat.lt_succ_self n, hdoes, fun j hnj hjn => ?_⟩⟩
        exact absurd hnj (Nat.not_lt.2 (Nat.le_of_lt_succ hjn))
      · exact ⟨hv', .inl hshown'⟩
      · obtain rfl := hfailed rfl
        exact ⟨hv', .inl hshown'⟩
    · obtain ⟨rfl, hsame⟩ := hsounds.silent fun q u hq => hpub ⟨q, u, hq⟩
      refine ⟨hv', hshown.imp hsame.trans ?_⟩
      rintro ⟨q, j, hjn, hchecks, hnone⟩
      refine ⟨q, j, Nat.lt_succ_of_lt hjn, hchecks, fun k hjk hkn u hk => ?_⟩
      rcases Nat.lt_succ_iff_lt_or_eq.1 hkn with hkn | rfl
      · exact hnone k hjk hkn u hk
      · exact hpub ⟨q, u, (hasked _ _).2 hk⟩

end Courses

end CryoRig.Rig
