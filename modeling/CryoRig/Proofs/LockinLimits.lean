import CryoRig.Proofs.BusBlocks
import CryoRig.Proofs.Carried
import CryoRig.Proofs.LockinCommands

/-!
# Lock-ins within their limits

Whatever is run on a rig, be it scripts, sweeps or a session, and whatever the instruments reply, no
command is sent to a lock-in that is out of its range. What a script or a sweep wants beyond that is
refused by the facility before anything is sent: the script ends with that fault, and the sweep
reports it and tries the step again with the next tick.

## Main definitions

* `CryoRig.Control.MayAsk`: what may be asked of a rig after what was told before.
* `CryoRig.Rig.InRange`: what is sent is within the range of a lock-in.
* `CryoRig.Rig.Scene.Employed`: everybody's work leaves the bus to the actions of the site.
* `CryoRig.Rig.Scene.Cautious`: everybody's work asks for nothing else.
* `CryoRig.Script.Command.Excessive`, `CryoRig.Parameter.Excessive`: what a lock-in cannot put out.

## Main results

* `CryoRig.Rig.Scene.Shift.cautious`: whatever happens, nobody asks for anything else.
* `CryoRig.Control.Station.lockins_in_range`: no lock-in is sent what is out of its range.
-/

namespace CryoRig

open Process

namespace Control

open Instrument

variable {α β : Type}

/-! ## What may be asked of a rig -/

/-- What may be asked of a rig after what was told before: a command that may be sent after what was
said last. -/
def MayAsk (told : List (Exchange RigSurroundings)) : Request → Prop
  | .device r => ∃ before said, told = before ++ said.map onRig ∧ Permitted said r
  | _ => True

/-- Work that asks for nothing else, whatever was told before. -/
def Careful (w : RigWork α) : Prop := ∀ told, w.AsksAfter MayAsk told

lemma Careful.bind {w : RigWork α} {f : α → RigWork β} (hw : Careful w)
    (hf : ∀ a, Careful (f a)) : Careful (w >>= f) :=
  fun told => (hw told).bind fun _ a _ => hf a _

lemma mayAsk_of_offBus {r : Request} (hr : r.OffBus) (told : List (Exchange RigSurroundings)) :
    MayAsk told r := by
  cases r with
  | device r =>
    cases r with
    | sleep | log => exact ⟨told, [], (List.append_nil _).symm, trivial⟩
    | seize | release | write | query => exact hr.elim
  | _ => trivial

/-- What a driver sends after what was said, it may ask of the rig whatever was told before. -/
lemma asksAfter_translate {p : Process Surroundings α} {said : List (Exchange Surroundings)}
    (h : p.AsksAfter Permitted said) (before : List (Exchange RigSurroundings)) :
    (p.translate ofDriver).AsksAfter MayAsk (before ++ said.map onRig) := by
  induction p generalizing said with
  | done => trivial
  | ask r next ih =>
    refine ⟨⟨before, said, rfl, h.1⟩, fun reply => ?_⟩
    have hnext := ih reply (h.2 reply)
    rw [List.map_append, ← List.append_assoc] at hnext
    exact hnext

/-- All actions of whatever a rig has for a site are such work. -/
lemma Station.careful (s : Station) (a : Action) : Careful (s.site.perform a) := by
  cases s with
  | facility f =>
    intro told
    have htold := asksAfter_translate (f.heeds_perform a []) told
    rwa [List.map_nil, List.append_nil] at htold
  | bench => exact fun _ => ⟨trivial, fun _ => trivial⟩

/-- So is work that leaves the bus to the actions of the site. -/
lemma Station.careful_carryOut (s : Station) {w : Working α}
    (h : w.AsksOnly (WorkRequest.Asks Request.OffBus)) : Careful (carryOut s.site w) := by
  change Careful (w.translate (ofWork s.site))
  induction w with
  | done => exact fun _ => trivial
  | ask r next ih =>
    cases r with
    | rig r => exact fun told => ⟨mayAsk_of_offBus h.1 told, fun reply => ih reply (h.2 reply) _⟩
    | act a => exact (s.careful a).bind fun reply => ih reply (h.2 reply)

end Control

namespace Rig

open Control Instrument

variable {α : Type}

/-! ## What is sent -/

/-- What is sent is within the range of a lock-in, should it be sent to one. -/
def InRange (x : Sent) : Prop :=
  AmplitudeBounded x.2.2 ∧ FrequencyBounded x.2.2 ∧
    (StartsWith "SENS" x.2.2 → x.2 = (.query, "SENS?") ∨
      ∃ range, range + 1 ≤ Lockin.topRange ∧ x.2 = (.write, s!"SENS {range + 1}"))

/-- So is the command of whatever may be asked. -/
lemma inRange_of_mayAsk {told : List (Exchange RigSurroundings)} {r : Control.Request}
    (h : MayAsk told r) : ∀ x ∈ commandOf r, InRange x := by
  intro x hx
  cases r with
  | device r =>
    obtain ⟨before, said, -, hsaid⟩ := h
    cases r with
    | write id command =>
      obtain rfl := List.mem_singleton.1 hx
      obtain ⟨hamplitude, hfrequency, hrange⟩ := hsaid
      refine ⟨hamplitude, hfrequency, fun hs => ?_⟩
      obtain ⟨-, -, range, htop, hcommand, -⟩ := hrange hs
      exact .inr ⟨range, htop, Prod.ext rfl hcommand⟩
    | query id command =>
      obtain rfl := List.mem_singleton.1 hx
      obtain ⟨hamplitude, hfrequency, hrange⟩ := hsaid
      exact ⟨hamplitude, hfrequency, fun hs => .inl (Prod.ext rfl (hrange hs))⟩
    | seize | release | sleep | log => cases hx
  | _ => cases hx

/-- What was sent is the command of a request that had its reply. -/
lemma mem_commandOf_of_mem_sentIn {told : List (Party × Exchange RigSurroundings)} {x : Sent}
    (h : x ∈ sentIn (overBus told)) : ∃ p e, (p, e) ∈ told ∧ x ∈ commandOf e.request := by
  obtain ⟨⟨p, said⟩, hsaid, hx⟩ := List.mem_filterMap.1 h
  obtain ⟨⟨q, e⟩, he, hq⟩ := List.mem_filterMap.1 hsaid
  refine ⟨q, e, he, ?_⟩
  obtain ⟨said, hbus, rfl, rfl⟩ : ∃ said', bus? e = some said' ∧ q = p ∧ said' = said := by
    simpa using hq
  obtain ⟨r, reply⟩ := e
  cases r with
  | device r =>
    cases r with
    | write | query =>
      cases hbus
      cases reply with
      | none => cases hx
      | some =>
        cases hx
        exact List.mem_cons_self
    | seize | release =>
      cases hbus
      cases hx
    | sleep | log => cases hbus
  | _ => cases hbus

namespace Scene

variable {c d : Scene α} {p : Party} {told : List (Party × Exchange RigSurroundings)}
  {asked : Option (Party × Control.Request)} {reply? : Option (Party × Exchange RigSurroundings)}

/-- What is sent and not answered yet is the command of a request whose reply somebody waits for. -/
lemma mem_commandOf_of_mem_late {x : Sent} (h : x ∈ d.late) :
    ∃ p w, d.at? p = some (.waiting w) ∧ x ∈ commandOf w.request := by
  unfold late at h
  cases hp : d.state.bus.holder with
  | none =>
    rw [hp] at h
    cases h
  | some p =>
    rw [hp] at h
    change x ∈ ((d.at? p).bind Foreground.waitsFor?).elim [] commandOf at h
    cases hy : d.at? p with
    | none =>
      rw [hy] at h
      cases h
    | some y =>
      rw [hy] at h
      cases y with
      | running => cases h
      | waiting w => exact ⟨p, w, hy, h⟩

/-! ## What everybody is at -/

/-- Everybody is about to do work that leaves the bus to the actions of the site: calls of a
session, a program, an acquisition, or anything else of that kind. -/
def Employed (site : Site RigSurroundings) (c : Scene α) : Prop :=
  ∀ p x, c.at? p = some x → ∃ w : Working (p.Result α),
    w.AsksOnly (WorkRequest.Asks Request.OffBus) ∧ x = .running (carryOut site w)

/-- Everybody who is about to make calls of a session is about to do such work. -/
theorem employed_of_opening {site : Site RigSurroundings} {session : SessionSettings}
    (h : Opening site session c) : c.Employed site := by
  intro p x hx
  cases p with
  | foreground =>
    obtain ⟨client, hf⟩ := h.foreground
    rw [at?, hf] at hx
    cases hx
    exact ⟨_, calls_offBus client, rfl⟩
  | job n =>
    obtain ⟨client, ending, hj⟩ := h.jobs n _ (at?_job_iff.1 hx)
    refine ⟨client.translate (Call.serve session) >>= fun _ => pure (.over ending),
      (calls_offBus client).bind fun _ => asksOnly_pure _, ?_⟩
    rw [carryOut_bind]
    cases x with
    | running =>
      cases hj
      rfl
    | waiting => cases hj

lemma Employed.ready {s : Station} (h : c.Employed s.site) (hbus : c.state.bus = .free) :
    c.Ready where
  bus := hbus
  works p x hx := by
    obtain ⟨w, hw, rfl⟩ := h p x hx
    exact ⟨_, rfl, mannerly_carryOut s.mannerly hw⟩

/-- What everybody asks for suits what they were told before. -/
def Cautious (told : List (Party × Exchange RigSurroundings)) (c : Scene α) : Prop :=
  ∀ p x, c.at? p = some x → x.work.AsksAfter MayAsk (toldTo p told)

lemma Employed.cautious {s : Station} (h : c.Employed s.site) : c.Cautious [] := by
  intro p x hx
  obtain ⟨w, hw, rfl⟩ := h p x hx
  exact s.careful_carryOut hw _

/-- Whoever is at something that was at nothing before begins with its first turn. -/
lemma Happens.newcomer {site : Site RigSurroundings} (h : Happens site c asked reply? d)
    (hp : c.at? p = none) {y : Foreground (p.Result α)} (hy : d.at? p = some y) :
    ∃ result, y = .running (.done result) := by
  have hput {q : Party} {x y : Foreground (q.Result α)} (hq : c.at? q = some y) (e : Scene α) :
      (e.put q x).at? p = e.at? p := by
    refine at?_put_of_ne ?_
    rintro rfl
    cases hp.symm.trans hq
  have hanswer {q : Party} {s t : State} {alarm : Option Nat} {r : Control.Request}
      {reply : r.Reply} (hs : s.jobs = c.state.jobs)
      (ha : s.answer? q alarm r = some (reply, t))
      (hy : ({ c with state := t } : Scene α).at? p = some y) :
      ∃ result, y = .running (.done result) := by
    rcases jobs_of_answer? ha with ht | ⟨job, -, ht⟩
    · rw [at?_mk (ht.trans hs), hp] at hy
      cases hy
    · rw [hs] at ht
      by_cases hnew : p = .job c.state.jobs.size
      · subst hnew
        cases (at?_push_self ht).symm.trans hy
        exact ⟨_, rfl⟩
      · rw [at?_push_of_ne ht hnew, hp] at hy
        cases hy
  cases h with
  | answer hq ha =>
    rw [hput hq] at hy
    exact hanswer (jobs_enter ..) ha hy
  | wait hq =>
    rw [hput hq, at?_mk (jobs_enter ..), hp] at hy
    cases hy
  | resume hq ha =>
    rw [hput hq] at hy
    exact hanswer rfl ha hy
  | turn hn =>
    rw [hput hn, hp] at hy
    cases hy
  | finish hn =>
    rw [at?_end_of_ne, hp] at hy
    · cases hy
    · rintro rfl
      cases hp.symm.trans hn
  | meanwhile current fresh hs hj =>
    rw [at?_mk hj, hp] at hy
    cases hy

/-- A reply only comes to what suits what the party was told before. -/
lemma Cautious.mayAsk {site : Site RigSurroundings} {e : Exchange RigSurroundings}
    (hc : c.Cautious told) (h : Happens site c asked (some (p, e)) d) :
    MayAsk (toldTo p told) e.request := by
  cases h with
  | answer hp | resume hp => exact (hc p _ hp).1

/-- Whatever happens on a site, everybody goes on like that. -/
lemma Cautious.happens (s : Station) (hc : c.Cautious told)
    (h : Happens s.site c asked reply? d) : d.Cautious (told ++ reply?.toList) := by
  intro p y hy
  cases hx : c.at? p with
  | none =>
    obtain ⟨result, rfl⟩ := h.newcomer hx hy
    trivial
  | some x =>
    rcases h.leads_or_turnsOver hx with ⟨z, hz, hl⟩ | ⟨n, rfl, rfl, ⟨job, -, hd⟩ | ⟨_, -, hd, -⟩⟩
    · cases hz.symm.trans hy
      rw [toldTo_append]
      exact (hc p x hx).of_leads hl
    · -- the next turn suits whatever the job was told before
      cases hd.symm.trans hy
      obtain ⟨w, hw, hturn⟩ := turnOf_offBus s.site job
      change (Rig.turnOf s.site job).AsksAfter MayAsk _
      rw [hturn]
      exact s.careful_carryOut hw _
    · cases hd.symm.trans hy

/-- Whatever happens for a while, nobody asks for anything but what suits what it was told before,
and nobody goes on to do so. -/
theorem Shift.cautious (s : Station) (hc : c.Cautious []) (h : Shift s.site c told d) :
    d.Cautious told ∧ ∀ before p e after, told = before ++ (p, e) :: after →
      MayAsk (toldTo p before) e.request := by
  induction h with
  | start => exact ⟨hc, by simp⟩
  | @more told₁ d₁ e₁ asked reply? _ hd ih =>
    obtain ⟨hcautious, hasked⟩ := ih
    refine ⟨hcautious.happens s hd, fun before p e after htold => ?_⟩
    rcases append_eq_append_cons htold with ⟨more, rfl, hlast⟩ | ⟨more, hbefore⟩
    · -- nothing but the last reply comes after what was told before
      cases reply? with
      | none => simp at hlast
      | some x =>
        obtain ⟨rfl, rfl⟩ : more = [] ∧ x = (p, e) := by
          cases more <;> simp_all
        rw [List.append_nil]
        exact hcautious.mayAsk hd
    · exact hasked before p e more hbefore

end Scene

end Rig

/-! ## What is refused -/

/-- A command of a script that would have a lock-in put out what it cannot. -/
def Script.Command.Excessive : Script.Command → Prop
  | .setAmplitude volts => ¬Instrument.AmplitudeInRange volts
  | .setFrequency hertz => ¬Instrument.FrequencyInRange hertz
  | _ => False

/-- What a sweep steps to such a value; with so many lock-ins. -/
def Parameter.Excessive (lockins : Nat) : Parameter → Float → Prop
  | .firstAmplitude, value => ¬Instrument.AmplitudeInRange value
  | .allAmplitudes, value => 0 < lockins ∧ ¬Instrument.AmplitudeInRange value
  | .frequency, value => ¬Instrument.FrequencyInRange value
  | _, _ => False

/-- A line with such a command is planned to have the site do what is out of bounds. -/
lemma Script.Line.exists_plan_of_excessive {l : Line} {command : Command}
    (hl : l.command = .ok command) (h : command.Excessive) (c : RunConfig) :
    ∃ a : Action, a.Excessive ∧ l.plan c = .ok ⟨[], .act a, 0, c⟩ := by
  have hplan : ∃ a : Action, a.Excessive ∧ Script.plan c command = .ok ⟨[], .act a, 0, c⟩ := by
    cases command with
    | setAmplitude volts => exact ⟨.setAmplitude 0 volts, h, rfl⟩
    | setFrequency hertz => exact ⟨.setFrequency 0 hertz, h, rfl⟩
    | _ => exact h.elim
  obtain ⟨a, ha, hplan⟩ := hplan
  exact ⟨a, ha, Line.plan_eq_ok_iff.2 ⟨command, hl, hplan⟩⟩

namespace Control

section Refused

variable {site : Site RigSurroundings} {fault : DeviceFault}

lemma carryOut_act_bind {β : Type} (a : Action) (f : a.Outcome → Working β) :
    carryOut site (act a >>= f) = site.perform a >>= fun outcome => carryOut site (f outcome) := rfl

/-- What is out of bounds is refused by a facility before anything is asked of the rig. -/
lemma Station.perform_of_excessive (f : Settings.Facility) {a : Action} (h : a.Excessive) :
    ∃ fault : DeviceFault,
      (Station.facility f).site.perform a = .done (Except.error fault) := by
  obtain ⟨fault, hfault⟩ := f.perform_of_excessive h
  refine ⟨fault, ?_⟩
  change (f.site.perform a).translate ofDriver = _
  rw [hfault]
  rfl

/-- Putting such a target to the device fails at once. -/
lemma Ticking.applyStep_of_excessive (f : Settings.Facility) {t : Ticking} {parameter : Parameter}
    {value : Float} (h : parameter.Excessive t.lockins value) : ∃ fault : DeviceFault,
      carryOut (Station.facility f).site (t.applyStep parameter value) =
        .done (Except.error fault) := by
  have hact {a : Action} {g : a.Outcome → Working (Except DeviceFault Unit)} (ha : a.Excessive)
      (hg : ∀ fault : DeviceFault, g (Except.error fault) = .done (.error fault)) :
      ∃ fault : DeviceFault,
        carryOut (Station.facility f).site (act a >>= g) = .done (Except.error fault) := by
    obtain ⟨fault, hfault⟩ := Station.perform_of_excessive f ha
    refine ⟨fault, ?_⟩
    rw [carryOut_act_bind, hfault]
    change carryOut _ (g (Except.error fault)) = _
    rw [hg]
    rfl
  cases parameter with
  | firstAmplitude =>
    exact hact (a := .setAmplitude 0 value) (g := .done) h fun _ => rfl
  | allAmplitudes =>
    obtain ⟨hlockins, hvalue⟩ := h
    obtain ⟨lockins, hsucc⟩ := Nat.exists_eq_add_one.2 hlockins
    unfold applyStep
    rw [hsucc, List.range_succ_eq_map]
    exact hact (a := .setAmplitude 0 value) hvalue fun _ => rfl
  | frequency =>
    exact hact (a := .setFrequency 0 value) (g := .done) h fun _ => rfl
  | _ => exact h.elim

/-- Doing what such a line says fails at once. -/
lemma perform_of_refused {a : Action} (h : site.perform a = .done (Except.error fault))
    (conduct : Conduct) (line : Nat) :
    carryOut site (perform site conduct line (.act a)).run = .done (.error (.device fault)) := by
  have hact : carryOut site (actOrFail a).run = .done (.error (.device fault)) := by
    change carryOut site (act a >>= _) = _
    rw [carryOut_act_bind, h]
    rfl
  unfold perform
  rw [ExceptT.run_bind, carryOut_bind, hact]
  rfl

/-- So the program is aborted as soon as it has taken up the line. -/
lemma ProgramRun.begin_of_refused {a : Action} (h : site.perform a = .done (Except.error fault))
    {r : ProgramRun} {l : Script.Line} {charge : Float} {config : Script.RunConfig}
    (hplan : l.plan r.config = .ok ⟨[], .act a, charge, config⟩) (rest : List Script.Line) :
    carryOut site (r.begin site l rest) = carryOut site (do
      publish r.conduct.console (.running l.number)
      log l.processing
      { r with line := l.number }.abort (.device fault)) := by
  unfold ProgramRun.begin
  simp only [hplan, carryOut_bind]
  change (_ >>= fun _ => _ >>= fun _ => carryOut site (pure ()) >>= fun _ => _) = _
  rw [perform_of_refused h]
  rfl

end Refused

/-- No command is put on the bus that is out of the range of a lock-in, whatever everybody is about
to do and whatever happens then: every amplitude and every frequency that is sent is within its
bounds, and every range is at most the highest one, and the one after the range that the same
lock-in has just reported to whoever sends it. A facility refuses what is out of bounds, without
asking anything of the rig: a sweep reports this and offers the step again, a program is aborted on
that line.

**Proof sketch.** What the work of a site asks for suits what it was told before
(`Station.careful`), so it goes on like that whatever happens (`Shift.cautious`). As everybody takes
the bus before a command, what was sent are the commands of the requests that had a reply, and the
one that has none yet (`Orderly.log_eq`). -/
theorem Station.lockins_in_range {α : Type} (s : Station) {c d : Rig.Scene α}
    {told : List (Rig.Party × Exchange RigSurroundings)} (hc : c.Employed s.site)
    (hbus : c.state.bus = .free) (h : Rig.Scene.Shift s.site c told d) :
    d.state.log = c.state.log ++ Rig.sentIn (Rig.overBus told) ++ d.late ∧
    (∀ x ∈ Rig.sentIn (Rig.overBus told) ++ d.late, Rig.InRange x) ∧
    (∀ before p e after, told = before ++ (p, e) :: after →
      MayAsk (Rig.toldTo p before) e.request) ∧
    (∀ p w, d.at? p = some (.waiting w) → MayAsk (Rig.toldTo p told) w.request) ∧
    ∀ f, s = .facility f →
      (∀ (t : Ticking) (parameter : Parameter) (value : Float),
        parameter.Excessive t.lockins value → ∃ fault : DeviceFault,
          carryOut s.site (t.enterStep parameter value) = carryOut s.site (do
            log (.stepFailed parameter value fault)
            pure { t with ledger := t.ledger.entryFailed })) ∧
      ∀ (r : ProgramRun) (l : Script.Line) (rest : List Script.Line) (command : Script.Command),
        l.command = .ok command → command.Excessive → ∃ fault : DeviceFault,
          carryOut s.site (r.begin s.site l rest) = carryOut s.site (do
            publish r.conduct.console (.running l.number)
            log l.processing
            { r with line := l.number }.abort (.device fault)) := by
  obtain ⟨m, hd, htold⟩ := (hc.ready hbus).orderly.shift s h
  obtain rfl : m.told = told := htold
  obtain ⟨hcautious, hasked⟩ := h.cautious s hc.cautious
  have hwaits (p : Rig.Party) (w : Rig.Waiting (p.Result α))
      (hw : d.at? p = some (.waiting w)) : MayAsk (Rig.toldTo p m.told) w.request :=
    (hcautious p _ hw).1
  refine ⟨hd.log_eq, fun x hx => ?_, hasked, hwaits, ?_⟩
  · rcases List.mem_append.1 hx with hx | hx
    · obtain ⟨p, e, he, hx⟩ := Rig.mem_commandOf_of_mem_sentIn hx
      obtain ⟨before, after, htold⟩ := List.append_of_mem he
      exact Rig.inRange_of_mayAsk (hasked before p e after htold) x hx
    · obtain ⟨p, w, hw, hx⟩ := Rig.Scene.mem_commandOf_of_mem_late hx
      exact Rig.inRange_of_mayAsk (hwaits p w hw) x hx
  · rintro f rfl
    refine ⟨fun t parameter value hvalue => ?_, fun r l rest command hl hcommand => ?_⟩
    · obtain ⟨fault, hfault⟩ := Ticking.applyStep_of_excessive f hvalue
      refine ⟨fault, ?_⟩
      unfold Ticking.enterStep
      rw [carryOut_bind, hfault]
      rfl
    · obtain ⟨a, ha, hplan⟩ := Script.Line.exists_plan_of_excessive hl hcommand r.config
      obtain ⟨fault, hfault⟩ := Station.perform_of_excessive f ha
      exact ⟨fault, ProgramRun.begin_of_refused hfault hplan rest⟩

/-- A cryogen-free system with two lock-ins. -/
def twoLockins : Station := .facility (.cryogenFree ⟨["first", "second"], "control", none⟩)

/-- Its settings have ranges raised at the first overload. -/
def promptTuning : Sampling.Tuning := ⟨.ofMillis 200, 1, 1, 0.1, true, "data", "sample"⟩

/-- A sweep that has both lock-ins put out the same amplitude. -/
def twoLockinSweep : Ticking :=
  ⟨promptTuning, .stepped, 2, 0, 0, none, .start 2 1 true, .start 10 none, 0, none⟩

/-- A program that sets a frequency, and an amplitude that no lock-in can put out. -/
def overreaching : ProgramRun :=
  ⟨⟨0, .ofMillis 100, .ofMillis 100, promptTuning⟩, 0, .between, 0,
    [⟨1, "set-frequency", ["1000"]⟩, ⟨2, "set-amplitude", ["100"]⟩], .empty, 0⟩

/-- Two overloaded lock-ins, one of them in its highest range, are about to be looked at, and are
then to be told an amplitude, while that program is run. -/
def overloadedPair : Rig.Scene Unit where
  state := { Rig.State.initial ⟨2024, 1, 1, 0, 0⟩ with
    jobs := #[.running (.done (.again (.program overreaching)))]
    ready := [0]
    attached := [("first", ⟨5, [("LIAS?", [.reply "4"]), ("SENS?", [.reply "10"])], .nothing⟩),
      ("second", ⟨5, [("LIAS?", [.reply "4"]), ("SENS?", [.reply "26"])], .nothing⟩)] }
  foreground := .running (carryOut twoLockins.site (do
    let _ ← Ticking.checkLockins twoLockinSweep.overload [0, 1]
    let _ ← twoLockinSweep.enterStep .allAmplitudes 0.5
    pure ()))
  current := none
  fresh := false

lemma employed_overloadedPair : overloadedPair.Employed twoLockins.site := by
  intro p x hx
  cases p with
  | foreground =>
    cases hx
    refine ⟨_, ?_, rfl⟩
    refine (offBus_of_plain ((Ticking.checkLockins_tends _ _).mono WorkRequest.Tends.plain)).bind
      fun _ => (offBus_of_plain (Ticking.enterStep_yields _ _).asksOnly).bind fun _ => trivial
  | job n =>
    cases n with
    | zero =>
      cases hx
      exact ⟨.done (.again (.program overreaching)), trivial, rfl⟩
    | succ n => cases hx

/-- The range of the first lock-in is raised by one, the other one has none left; what is set is
within bounds, the program fails on its second line, and so would a step to no number at all. -/
theorem Station.lockins_in_range_overloadedPair :
    overloadedPair.Employed twoLockins.site ∧ overloadedPair.state.bus = .free ∧
    (overloadedPair.follow twoLockins.site 60).state.log =
      [("first", .query, "LIAS?"), ("first", .write, "FREQ 1000"), ("first", .query, "SENS?"),
        ("first", .write, "SENS 11"), ("second", .query, "LIAS?"), ("second", .query, "SENS?"),
        ("first", .write, "SLVL 0.5"), ("second", .write, "SLVL 0.5")] ∧
    (∃ told, Rig.Scene.Shift twoLockins.site overloadedPair told
        (overloadedPair.follow twoLockins.site 60) ∧
      ∀ x ∈ Rig.sentIn (Rig.overBus told) ++ (overloadedPair.follow twoLockins.site 60).late,
        Rig.InRange x) ∧
    (∃ fault, carryOut twoLockins.site (twoLockinSweep.enterStep .frequency (0 / 0)) =
      carryOut twoLockins.site (do
        log (.stepFailed .frequency (0 / 0) fault)
        pure { twoLockinSweep with ledger := twoLockinSweep.ledger.entryFailed })) ∧
    ∃ fault, carryOut twoLockins.site
        (overreaching.begin twoLockins.site ⟨2, "set-amplitude", ["100"]⟩ []) =
      carryOut twoLockins.site (do
        publish 0 (.running 2)
        log (.processing 2 "set-amplitude" ["100"])
        { overreaching with line := 2 }.abort (.device fault)) := by
  obtain ⟨told, h⟩ := Rig.Scene.shift_follow twoLockins.site overloadedPair 60
  obtain ⟨-, hsent, -, -, hrefused⟩ :=
    Station.lockins_in_range twoLockins employed_overloadedPair rfl h
  obtain ⟨hstep, hline⟩ := hrefused _ rfl
  refine ⟨employed_overloadedPair, rfl, by decide +kernel, ⟨told, h, hsent⟩, ?_, ?_⟩
  · exact hstep twoLockinSweep .frequency (0 / 0)
      (show ¬Instrument.FrequencyInRange (0 / 0) by decide +kernel)
  · exact hline overreaching ⟨2, "set-amplitude", ["100"]⟩ [] (.setAmplitude 100) rfl
      (show ¬Instrument.AmplitudeInRange 100 by decide +kernel)

/-- The second line of the same program is about to be taken up on a bench. -/
def overreachingOnBench : Rig.Scene (Turn ProgramRun Ending) where
  state := .initial ⟨2024, 1, 1, 0, 0⟩
  foreground := .running (carryOut Station.bench.site
    (overreaching.begin Station.bench.site ⟨2, "set-amplitude", ["100"]⟩ []))
  current := none
  fresh := false

/-- A bench has no lock-ins and takes any amplitude: nothing fails, and the program goes on. -/
theorem Station.overreaching_on_bench :
    ¬Instrument.AmplitudeInRange 100 ∧
    (∃ next, (overreachingOnBench.follow Station.bench.site 10).foreground =
      .running (.done (.again next))) ∧
    (overreachingOnBench.follow Station.bench.site 10).state.bench.actions = ["amplitude 0 100"] :=
  ⟨by decide +kernel, ⟨_, rfl⟩, by decide +kernel⟩

end Control

end CryoRig
