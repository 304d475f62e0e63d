import CryoRig.Proofs.BusBlocks
import CryoRig.Proofs.Carried
import CryoRig.Proofs.JobTurns
import CryoRig.Proofs.Operations
import CryoRig.Proofs.ReadingWidth

/-!
# Differential sweeps are aborted

A current source that was armed for a differential sweep is told to abort it at the end, so that it
is not left armed. The command is sent by the job that supervises the sweep, whatever the source
replies and whenever the job is stopped. So it is sent whenever the start of the acquisition gets as
far as starting that job; a start that fails after the source was armed does not send it.

## Main definitions

* `CryoRig.Control.Commands`: a command was sent to an instrument.

## Main results

* `CryoRig.Control.Supervision.aborts_of_rounds`: a supervision that is over has aborted the sweep.
* `CryoRig.Control.ends_startOnRig`: a start that succeeds has armed the source.
* `CryoRig.Control.start_never_aborts`: no start aborts the sweep by itself.
* `CryoRig.Rig.Scene.Shift.armed_then_aborted`: what was started is aborted before it is over.
-/

namespace CryoRig

open Process

/-! ## The current source -/

namespace Instrument.CurrentSource

variable {id : String} {es : List (Exchange Surroundings)}

/-- A single command is sent, whatever comes of it. -/
lemma mem_of_ends_write {command : String} {result : Except DeviceFault Unit}
    (h : (write id command).run.Ends es result) :
    ∃ reply, ⟨.write id command, reply⟩ ∈ es := by
  obtain ⟨sent, rfl, hsent⟩ := ends_withBus_iff.1 h
  obtain ⟨reply, rfl⟩ := ends_write hsent
  exact ⟨reply, by simp [hold]⟩

/-- Of commands sent one after the other, all are sent if nothing fails. -/
lemma mem_of_ends_writeAll {commands : List String}
    (h : (writeAll id commands).run.Ends es (.ok ())) {command : String}
    (hc : command ∈ commands) : ∃ reply, ⟨.write id command, reply⟩ ∈ es := by
  induction commands generalizing es with
  | nil => cases hc
  | cons first rest ih =>
    rcases ends_run_bind_iff.1 h with ⟨_, -, ⟨⟩⟩ | ⟨es₁, es₂, _, rfl, h₁, h₂⟩
    rcases List.mem_cons.1 hc with rfl | hc
    · obtain ⟨reply, hm⟩ := mem_of_ends_write h₁
      exact ⟨reply, List.mem_append_left _ hm⟩
    · obtain ⟨reply, hm⟩ := ih h₂ hc
      exact ⟨reply, List.mem_append_right _ hm⟩

/-- A sweep that was started was armed. -/
lemma mem_of_ends_startSweep {plan : DeltaPlan} (h : (startSweep id plan).run.Ends es (.ok ())) :
    ∃ reply, ⟨.write id "SOUR:DCON:ARM", reply⟩ ∈ es := by
  rcases ends_run_bind_iff.1 h with ⟨_, -, ⟨⟩⟩ | ⟨es₁, es₂, _, rfl, h₁, -⟩
  obtain ⟨reply, hm⟩ := mem_of_ends_writeAll h₁ (by simp [setup] : "SOUR:DCON:ARM" ∈ setup plan)
  exact ⟨reply, List.mem_append_left _ hm⟩

end Instrument.CurrentSource

namespace Control

open Instrument Sampling

variable {w : Site.RefrigeratorWiring} {id command : String}

/-- A command was sent to an instrument. -/
def Commands (id command : String) (es : List (Exchange RigSurroundings)) : Prop :=
  ∃ reply, ⟨.device (.write id command), reply⟩ ∈ es

lemma Commands.mono {es es' : List (Exchange RigSurroundings)} (h : Commands id command es)
    (hs : es ⊆ es') : Commands id command es' := by
  obtain ⟨reply, hm⟩ := h
  exact ⟨reply, hs hm⟩

/-- The site of a refrigerator on a rig. -/
abbrev refrigerator (w : Site.RefrigeratorWiring) : Site RigSurroundings :=
  (Site.refrigerator w).translate ofDriver

lemma commands_of_mem {said : List (Exchange Surroundings)}
    (h : ∃ reply, ⟨.write id command, reply⟩ ∈ said) :
    Commands id command (said.map onRig) := by
  obtain ⟨reply, hm⟩ := h
  exact ⟨reply, List.mem_map_of_mem (f := onRig) hm⟩

/-- Carrying out the abort sends it. -/
lemma commands_of_abortSweep {es : List (Exchange RigSurroundings)}
    {result : Except DeviceFault Unit} (hid : w.currentSource = some id)
    (h : ((refrigerator w).perform .abortSweep).Ends es result) :
    Commands id "SOUR:SWE:ABOR" es := by
  obtain ⟨said, rfl, hsaid⟩ := ends_ofDriver_iff.1 h
  change (w.onCurrentSource CurrentSource.abort).run.Ends said result at hsaid
  rw [Site.RefrigeratorWiring.onCurrentSource, hid] at hsaid
  exact commands_of_mem (CurrentSource.mem_of_ends_write hsaid)

/-- Carrying out the start of a sweep arms the source, if it succeeds. -/
lemma commands_of_armSweep {es : List (Exchange RigSurroundings)} {plan : DeltaPlan}
    (hid : w.currentSource = some id)
    (h : ((refrigerator w).perform (.armSweep plan)).Ends es (.ok ())) :
    Commands id "SOUR:DCON:ARM" es := by
  obtain ⟨said, rfl, hsaid⟩ := ends_ofDriver_iff.1 h
  change (w.onCurrentSource fun id => CurrentSource.startSweep id plan).run.Ends said (.ok ())
    at hsaid
  rw [Site.RefrigeratorWiring.onCurrentSource, hid] at hsaid
  exact commands_of_mem (CurrentSource.mem_of_ends_startSweep hsaid)

/-! ## Supervision -/

namespace Supervision

variable {s : Supervision} {ws : List (Exchange WorkSurroundings)}
  {result : Turn Supervision Ending}

/-- The abort was carried out, whatever came of it. -/
def Aborts (ws : List (Exchange WorkSurroundings)) : Prop :=
  ∃ outcome : Except DeviceFault Unit, ⟨.act .abortSweep, outcome⟩ ∈ ws

/-- It is carried out at the end, whatever became of the trace. -/
lemma aborts_of_finish (h : s.finish.Ends ws result) : Aborts ws := by
  obtain ⟨ws₁, ws₂, _, rfl, -, h₂⟩ := ends_bind_iff.1 h
  obtain ⟨ws₃, ws₄, outcome, rfl, h₃, -⟩ := ends_bind_iff.1 h₂
  obtain rfl := ends_request_iff.1 h₃
  exact ⟨outcome, by simp⟩

/-- A look at a sweep is followed by another one, or the sweep was aborted. -/
lemma turn_cases (h : s.turn.Ends ws result) : result = .again s ∨ Aborts ws := by
  have hfinish {before during : List (Exchange WorkSurroundings)}
      (hf : s.finish.Ends during result) : Aborts (before ++ during) := by
    obtain ⟨outcome, hm⟩ := aborts_of_finish hf
    exact ⟨outcome, List.mem_append_right _ hm⟩
  obtain ⟨ws₁, ws₂, passed, rfl, -, h₂⟩ := ends_bind_iff.1 h
  cases passed with
  | false =>
    obtain ⟨ws₃, ws₄, _, rfl, -, hf⟩ := ends_bind_iff.1 h₂
    rw [← List.append_assoc]
    exact .inr (hfinish hf)
  | true =>
    obtain ⟨ws₃, ws₄, looked, rfl, -, h₄⟩ := ends_bind_iff.1 h₂
    rw [← List.append_assoc]
    rcases looked with fault | (status : DeltaStatus)
    · obtain ⟨_, _, _, -, -, hend⟩ := ends_bind_iff.1 h₄
      exact .inl (ends_pure_iff.1 hend).2.symm
    · change (if status.finished then s.finish else pure (.again s)).Ends ws₄ result at h₄
      split at h₄
      · exact .inr (hfinish h₄)
      · exact .inl (ends_pure_iff.1 h₄).2.symm

/-- So it is when the look is carried out at a refrigerator. -/
lemma turnOf_cases {es : List (Exchange RigSurroundings)} {result : Turn Job Ending}
    (hid : w.currentSource = some id)
    (h : (Rig.turnOf (refrigerator w) (.supervision s)).Ends es result) :
    result = .again (.supervision s) ∨ Commands id "SOUR:SWE:ABOR" es := by
  obtain ⟨blocks, rfl, hwork, hby⟩ := ends_translate_iff.1 h
  obtain ⟨turn, hturn, rfl⟩ := ends_map_iff.1 hwork
  rcases turn_cases hturn with rfl | ⟨outcome, hm⟩
  · exact .inl rfl
  · obtain ⟨⟨exchange, path⟩, hb, rfl⟩ := List.mem_map.1 hm
    refine .inr ((commands_of_abortSweep hid (hby _ hb)).mono fun e he => ?_)
    exact List.mem_flatMap.2 ⟨_, hb, he⟩

/-- **A supervision that is over has aborted the sweep**, whatever the source replied and whenever
it was stopped.

**Proof sketch.** By induction on the turns. A turn that is not followed by the same one again has
sent the abort. -/
theorem aborts_of_rounds {turns : List (Job × List (Exchange RigSurroundings))}
    {result : Turn Job Ending} (hid : w.currentSource = some id)
    (h : Rounds (Rig.turnOf (refrigerator w)) (.supervision s) turns result) :
    result = .again (.supervision s) ∨ Commands id "SOUR:SWE:ABOR" (exchanges turns) := by
  induction h with
  | start => exact .inl rfl
  | @next turns t es result _ ht ih =>
    rw [exchanges_append, exchanges_singleton]
    rcases ih with hagain | hsent
    · cases hagain
      rcases turnOf_cases hid ht with rfl | hsent
      · exact .inl rfl
      · exact .inr (hsent.mono (List.subset_append_right ..))
    · exact .inr (hsent.mono (List.subset_append_left ..))

end Supervision

/-! ## Starting -/

variable {tuning : Tuning} {name : String} {plan : DeltaPlan} {a : Acquisition}

/-- Preparing a differential sweep arms the source, if it succeeds. -/
lemma mem_of_prepareJob {I : Interface} {site : Site I} {paths : DataPaths} {token : Nat}
    {job : Job} {ws : List (Exchange WorkSurroundings)}
    (h : (prepareJob site tuning paths token (.differential plan)).run.Ends ws (.ok job)) :
    ∃ file, job = .supervision ⟨plan, token, file⟩ ∧
      (⟨.act (.armSweep plan), (.ok () : Except DeviceFault Unit)⟩ :
        Exchange WorkSurroundings) ∈ ws := by
  rcases ends_run_bind_iff.1 h with ⟨_, -, ⟨⟩⟩ | ⟨ws₁, ws₂, file, rfl, -, h₂⟩
  rcases ends_run_bind_iff.1 h₂ with ⟨_, -, ⟨⟩⟩ | ⟨ws₃, ws₄, _, rfl, -, h₄⟩
  rcases ends_run_bind_iff.1 h₄ with ⟨_, -, ⟨⟩⟩ | ⟨ws₅, ws₆, _, rfl, harm, h₆⟩
  obtain ⟨rfl, hjob⟩ := ends_run_pure_iff.1 h₆
  cases hjob
  obtain ⟨ws₇, ws₈, outcome, rfl, hact, hdone⟩ := ends_bind_iff.1 harm
  obtain rfl := ends_request_iff.1 hact
  rcases outcome with fault | (⟨⟩ : Unit)
  · obtain ⟨-, hdone⟩ := ends_pure_iff.1 hdone
    cases hdone
  · refine ⟨file, rfl, List.mem_append_right _ (List.mem_append_right _ ?_)⟩
    exact List.mem_append_left _ (List.mem_append_left _ List.mem_cons_self)

/-- A start of a differential sweep that succeeds has armed the source, and the last thing it does
is to start the supervision. -/
lemma mem_of_startAcquisition {I : Interface} {site : Site I}
    {ws : List (Exchange WorkSurroundings)}
    (h : (startAcquisition site tuning name (.differential plan)).run.Ends ws (.ok a)) :
    ∃ before file, ws = before ++ [⟨.rig (.spawn (.supervision ⟨plan, a.token, file⟩)), a.job⟩] ∧
      (⟨.act (.armSweep plan), (.ok () : Except DeviceFault Unit)⟩ :
        Exchange WorkSurroundings) ∈ before := by
  obtain ⟨ws₁, ws₂, calendar, rfl, -, h₂⟩ := ends_run_lift_bind_iff.1 h
  obtain ⟨ws₃, ws₄, token, rfl, -, h₄⟩ := ends_run_lift_bind_iff.1 h₂
  obtain ⟨ws₅, ws₆, _, rfl, -, h₆⟩ := ends_run_lift_bind_iff.1 h₄
  rcases ends_run_bind_iff.1 h₆ with ⟨_, -, ⟨⟩⟩ | ⟨ws₇, ws₈, job, rfl, hjob, h₈⟩
  obtain ⟨ws₉, ws₁₀, number, rfl, hspawn, h₁₀⟩ := ends_run_lift_bind_iff.1 h₈
  obtain ⟨rfl, ha⟩ := ends_run_pure_iff.1 h₁₀
  cases ha
  obtain rfl := ends_request_iff.1 hspawn
  obtain ⟨file, rfl, hm⟩ := mem_of_prepareJob hjob
  refine ⟨ws₁ ++ (ws₃ ++ (ws₅ ++ ws₇)), file, by simp, ?_⟩
  simp [hm]

/-- What starting a differential sweep asks a rig with a refrigerator for. -/
abbrev startOnRig (w : Site.RefrigeratorWiring) (tuning : Tuning) (name : String)
    (plan : DeltaPlan) : RigWork (Except Fault Acquisition) :=
  carryOut (refrigerator w) (startAcquisition (refrigerator w) tuning name (.differential plan)).run

/-- So it is when the start is carried out at a refrigerator. -/
theorem ends_startOnRig {es : List (Exchange RigSurroundings)} (hid : w.currentSource = some id)
    (h : (startOnRig w tuning name plan).Ends es (.ok a)) :
    ∃ before file, es = before ++ [⟨.spawn (.supervision ⟨plan, a.token, file⟩), a.job⟩] ∧
      Commands id "SOUR:DCON:ARM" before := by
  obtain ⟨blocks, rfl, hwork, hby⟩ := ends_translate_iff.1 h
  obtain ⟨before, file, hblocks, hm⟩ := mem_of_startAcquisition hwork
  obtain ⟨first, last, rfl, rfl, hlast⟩ := List.map_eq_append_iff.1 hblocks
  obtain ⟨⟨exchange, path⟩, rest, rfl, rfl, hrest⟩ := List.map_eq_cons_iff.1 hlast
  obtain rfl := List.map_eq_nil_iff.1 hrest
  have hspawn : (request (I := RigSurroundings) (.spawn (.supervision ⟨plan, a.token, file⟩))).Ends
      path a.job := hby _ (List.mem_append_right _ List.mem_cons_self)
  obtain rfl := ends_request_iff.1 hspawn
  refine ⟨first.flatMap Block.path, file, by simp, ?_⟩
  obtain ⟨⟨exchange, path⟩, hb, rfl⟩ := List.mem_map.1 hm
  refine (commands_of_armSweep hid (hby _ (List.mem_append_left _ hb))).mono fun e he => ?_
  exact List.mem_flatMap.2 ⟨_, hb, he⟩

/-! ## What no start does -/

/-- A request of a start: the site is asked for nothing but to prepare and to arm a sweep. -/
def Arming : WorkRequest → Prop
  | .act (.prepare .differential) | .act (.armSweep _) => True
  | .act _ => False
  | .rig (.device (.write ..)) | .rig (.join ..) => False
  | .rig _ => True

lemma arming_openTable (path : String) (columns : List Channel) :
    (openTable path columns).run.AsksOnly Arming := by
  have hrows (file : Nat) (rows : List (List String)) :
      (appendRows file rows).run.AsksOnly Arming := by
    induction rows with
    | nil => trivial
    | cons fields rest ih =>
      refine AsksOnly.run_bind (asksOnly_request.2 trivial).run_lift fun written => ?_
      cases written with
      | ok => exact ih
      | error => trivial
  refine AsksOnly.run_bind (asksOnly_request.2 trivial).run_lift fun made => ?_
  cases made with
  | error => trivial
  | ok file =>
    refine AsksOnly.run_bind (asksOnly_request.2 trivial).run_lift fun _ => ?_
    exact (hrows _ _).run_bind fun _ => trivial

lemma arming_actOrFail {action : Action} (h : Arming (.act action)) :
    (actOrFail action).run.AsksOnly Arming := by
  refine (asksOnly_request.2 h).bind fun outcome => ?_
  cases outcome <;> trivial

lemma arming_startAcquisition {I : Interface} (site : Site I) (tuning : Tuning) (name : String)
    (plan : DeltaPlan) :
    (startAcquisition site tuning name (.differential plan)).run.AsksOnly Arming := by
  refine AsksOnly.run_bind (asksOnly_request.2 trivial).run_lift fun _ => ?_
  refine AsksOnly.run_bind (asksOnly_request.2 trivial).run_lift fun _ => ?_
  refine AsksOnly.run_bind (asksOnly_request.2 trivial).run_lift fun _ => ?_
  refine AsksOnly.run_bind ?_ fun _ =>
    AsksOnly.run_bind (asksOnly_request.2 trivial).run_lift fun _ => trivial
  have hready : Arming (.act (.prepare .differential)) := trivial
  have harm : Arming (.act (.armSweep plan)) := trivial
  refine (arming_openTable _ _).run_bind fun _ => ?_
  refine (arming_actOrFail hready).run_bind fun _ => ?_
  exact (arming_actOrFail harm).run_bind fun _ => trivial

/-- A request of a driver that does not tell an instrument to abort a sweep. -/
def NoAbort : Instrument.Request → Prop
  | .write _ command => command ≠ "SOUR:SWE:ABOR"
  | _ => True

lemma noAbort_write (h : command ≠ "SOUR:SWE:ABOR") :
    (Instrument.write id command).run.AsksOnly NoAbort :=
  asksOnly_withBus trivial trivial (asksOnly_write h)

lemma noAbort_setup (plan : DeltaPlan) :
    ∀ command ∈ CurrentSource.setup plan, command ≠ "SOUR:SWE:ABOR" := by
  have hne {head : String} (tail : String) (h : ¬head.toList <+: "SOUR:SWE:ABOR".toList) :
      head ++ tail ≠ "SOUR:SWE:ABOR" := by
    intro he
    refine h ?_
    rw [← he, String.toList_append]
    exact List.prefix_append _ _
  simp only [CurrentSource.setup, List.forall_mem_cons, List.not_mem_nil, false_implies,
    implies_true, and_true]
  refine ⟨by decide, by decide, hne _ (by decide), hne _ (by decide), hne _ (by decide),
    hne _ (by decide), by decide, by decide, hne _ (by decide), by decide⟩

/-- Starting a sweep never sends the abort. -/
lemma noAbort_startSweep (plan : DeltaPlan) :
    (CurrentSource.startSweep id plan).run.AsksOnly NoAbort := by
  have hwrites (commands : List String) (h : ∀ c ∈ commands, c ≠ "SOUR:SWE:ABOR") :
      (CurrentSource.writeAll id commands).run.AsksOnly NoAbort := by
    induction commands with
    | nil => trivial
    | cons first rest ih =>
      obtain ⟨hfirst, hrest⟩ := List.forall_mem_cons.1 h
      exact (noAbort_write hfirst).run_bind fun _ => ih hrest
  have htrigger (attempts : Nat) : (CurrentSource.trigger id attempts).run.AsksOnly NoAbort := by
    induction attempts with
    | zero => trivial
    | succ attempts ih =>
      have hquery : (Instrument.query id "SOUR:DCON:ARM?").run.AsksOnly NoAbort :=
        asksOnly_withBus trivial trivial (asksOnly_query trivial)
      refine hquery.run_bind fun reply => ?_
      split
      · exact noAbort_write (by decide)
      · exact AsksOnly.run_bind ⟨trivial, fun _ => trivial⟩ fun _ => ih
  exact (hwrites _ (noAbort_setup plan)).run_bind fun _ => htrigger _

/-- **No start aborts the sweep by itself.** If it fails after the source was armed, then nobody
tells the source to abort.

**Proof sketch.** The site is asked for nothing but to prepare and to arm the sweep, and neither
sends the abort. -/
theorem start_never_aborts {es : List (Exchange RigSurroundings)}
    {result : Except Fault Acquisition} (h : (startOnRig w tuning name plan).Ends es result) :
    ¬Commands id "SOUR:SWE:ABOR" es := by
  have hdrive {α : Type} {work : Driving α} (hw : work.run.AsksOnly NoAbort) :
      (work.run.translate ofDriver).AsksOnly (· ≠ Request.device (.write id "SOUR:SWE:ABOR")) := by
    refine hw.translate fun r hr => asksOnly_request.2 ?_
    rintro ⟨⟩
    exact hr rfl
  have hsource {α : Type} {work : String → Driving α} (hw : ∀ id, (work id).run.AsksOnly NoAbort) :
      (w.onCurrentSource work).run.AsksOnly NoAbort := by
    unfold Site.RefrigeratorWiring.onCurrentSource
    split
    · exact hw _
    · trivial
  have hstart : (startOnRig w tuning name plan).AsksOnly
      (· ≠ Request.device (.write id "SOUR:SWE:ABOR")) := by
    refine (arming_startAcquisition _ tuning name plan).translate fun r hr => ?_
    unfold Arming at hr
    split at hr
    · exact hdrive (hsource fun _ => trivial)
    · exact hdrive (hsource fun _ => noAbort_startSweep _)
    · exact hr.elim
    · exact hr.elim
    · exact hr.elim
    · next hwrite _ =>
      refine asksOnly_request.2 ?_
      rintro rfl
      exact hwrite _ _ rfl
  rintro ⟨reply, hm⟩
  exact hstart.of_leads h _ hm rfl

end Control

/-! ## The whole rig -/

namespace Rig.Scene

open Control Sampling

variable {α : Type} {c d : Scene α} {p : Party} {told : List (Party × Exchange RigSurroundings)}
  {w : Site.RefrigeratorWiring} {id : String} {tuning : Tuning} {name : String} {plan : DeltaPlan}
  {a : Acquisition}

/-- **A sweep that was started is aborted before it is over.** Whoever starts a differential sweep
and whatever happens meanwhile: if the start succeeds, then it has armed the source, and once the
acquisition is over the source was told to abort after that.

**Proof sketch.** The last thing a start does is to start the supervision (`ends_startOnRig`). From
there on that job goes through its turns (`Shift.rounds`), and it is over only after it has sent the
abort (`Supervision.aborts_of_rounds`). -/
theorem Shift.armed_then_aborted {es₀ es es₁ : List (Exchange RigSurroundings)}
    (h : Shift (refrigerator w) c told d) (hid : w.currentSource = some id)
    (htold : toldTo p told = es₀ ++ es ++ es₁)
    (hstart : (startOnRig w tuning name plan).Ends es (.ok a)) :
    ∃ before job after, told = before ++ (p, ⟨.spawn job, a.job⟩) :: after ∧
      Commands id "SOUR:DCON:ARM" (toldTo p before) ∧ a.job < d.state.jobs.size ∧
      (d.state.ending? a.job ≠ none →
        Commands id "SOUR:SWE:ABOR" (toldTo (.job a.job) after)) := by
  obtain ⟨during, file, rfl, harm⟩ := ends_startOnRig hid hstart
  obtain ⟨before, after, rfl, hbefore⟩ : ∃ before after, told =
      before ++ (p, ⟨.spawn (.supervision ⟨plan, a.token, file⟩), a.job⟩) :: after ∧
        toldTo p before = es₀ ++ during := by
    refine exists_of_toldTo (by simpa using htold)
  obtain ⟨e, f, asked, -, hspawn, hafter⟩ := h.split rfl
  refine ⟨before, _, after, rfl, hbefore ▸ harm.mono (List.subset_append_right ..), ?_⟩
  rcases hafter.rounds hspawn.spawned with ⟨y, hy, -⟩ | ⟨turns, ending, -, hlt, hrounds, hes⟩
  · exact ⟨lt_size_of_at? hy, fun hover => absurd (ending?_eq_none hy) hover⟩
  · refine ⟨hlt, fun _ => ?_⟩
    rw [hes]
    rcases Supervision.aborts_of_rounds hid hrounds with hagain | hsent
    · cases hagain
    · exact hsent

end Rig.Scene

/-! ## A sweep that is finished at once -/

namespace Rig

open Control Sampling

/-- A refrigerator with nothing but a current source. -/
def sourceWiring : Site.RefrigeratorWiring :=
  ⟨[], none, "bridge", none, none, some "source", false, false, false⟩

/-- What is to be done once an acquisition was started: wait for its end. -/
def joined : Except Fault Acquisition → RigWork Unit
  | .ok a => .ask (.join a.job none) fun _ => .done ()
  | .error _ => .done ()

/-- Settings of acquisitions. -/
def plainTuning : Tuning := ⟨.ofSeconds 1, 10, 3, 0.1, false, "data", "sample"⟩

/-- A short differential sweep. -/
def shortPlan : DeltaPlan := ⟨-1e-6, 1e-6, 10, 1e-7⟩

/-- A differential sweep is about to be started, on a source that is armed at once and finished when
it is looked at. -/
def sweepAhead : Scene Unit where
  state := { State.initial ⟨2024, 1, 1, 0, 0⟩ with
    attached := [("source", ⟨0, [("SOUR:DCON:ARM?", [.reply "1"]),
      ("STAT:OPER:COND?", [.reply "10"])], .nothing⟩)] }
  foreground := .running (startOnRig sourceWiring plainTuning "didv" shortPlan >>= joined)
  current := none
  fresh := false

/-- Whether it is waited for the end of a job. -/
def Foreground.joins : Foreground Unit → Bool
  | .waiting ⟨.join .., _, _, _⟩ => true
  | _ => false

/-- No start waits for the end of a job. -/
lemma startOnRig_asks {w : Site.RefrigeratorWiring} {tuning : Tuning} {name : String}
    {plan : DeltaPlan} :
    (startOnRig w tuning name plan).AsksOnly fun r => ¬∃ n limit, r = Request.join n limit := by
  refine (arming_startAcquisition _ tuning name plan).translate fun r hr => ?_
  cases r with
  | act a =>
    refine (confined_ofDriver _ a).mono fun r hr => ?_
    rintro ⟨n, limit, rfl⟩
    exact hr
  | rig r =>
    refine asksOnly_request.2 ?_
    rintro ⟨n, limit, rfl⟩
    exact hr

/-- Work that waits for the end of an acquisition has started it. -/
lemma ends_of_joins {es : List (Exchange RigSurroundings)} {x : Foreground Unit}
    (h : (startOnRig sourceWiring plainTuning "didv" shortPlan >>= joined).Leads es x.work)
    (hx : x.joins = true) :
    ∃ es₁ es₂ a, es = es₁ ++ es₂ ∧
      (startOnRig sourceWiring plainTuning "didv" shortPlan).Ends es₁ (.ok a) := by
  obtain ⟨n, limit, next, hwork⟩ : ∃ n limit next, x.work = .ask (.join n limit) next := by
    unfold Foreground.joins at hx
    split at hx
    · exact ⟨_, _, _, rfl⟩
    · cases hx
  rw [hwork] at h
  rcases leads_bind_cases h with ⟨rest, hl, hrest⟩ | ⟨es₁, es₂, result, rfl, hend, hl⟩
  · cases rest with
    | done result =>
      cases result with
      | ok a => exact ⟨es, [], a, (List.append_nil _).symm, hl⟩
      | error => cases hrest
    | ask r next' =>
      cases hrest
      have hwaits : (startOnRig sourceWiring plainTuning "didv" shortPlan).AtWaits
          (fun r => ∃ n limit, r = Request.join n limit) fun _ => False := startOnRig_asks.atWaits
      exact (hwaits.of_leads hl ⟨n, limit, rfl⟩).elim
  · cases result with
    | ok a => exact ⟨es₁, es₂, a, rfl, hend⟩
    | error => cases (leads_done_iff.1 hl).2

/-- A sweep that is finished when it is first looked at was armed, and then aborted by its
supervision. -/
theorem armed_then_aborted_sweepAhead :
    ∃ told before job after,
      Scene.Shift (refrigerator sourceWiring) sweepAhead told
        (sweepAhead.follow (refrigerator sourceWiring) 61) ∧
      told = before ++ (.foreground, ⟨.spawn job, (0 : Nat)⟩) :: after ∧
      Commands "source" "SOUR:DCON:ARM" (toldTo .foreground before) ∧
      Commands "source" "SOUR:SWE:ABOR" (toldTo (.job 0) after) := by
  obtain ⟨told, h⟩ := Scene.shift_follow (refrigerator sourceWiring) sweepAhead 61
  have hjoins : (sweepAhead.follow (refrigerator sourceWiring) 61).foreground.joins = true := by
    decide +kernel
  have hover : ((sweepAhead.follow (refrigerator sourceWiring) 61).state.ending? 0).isSome := by
    decide +kernel
  have hsize : (sweepAhead.follow (refrigerator sourceWiring) 61).state.jobs.size = 1 := by
    decide +kernel
  obtain ⟨es, es₁, a, htold, hstart⟩ := ends_of_joins h.leads_foreground hjoins
  rw [← List.nil_append es] at htold
  obtain ⟨before, job, after, rfl, harm, hlt, habort⟩ :=
    Scene.Shift.armed_then_aborted h rfl htold hstart
  have hzero : a.job = 0 := by omega
  rw [hzero] at habort h
  refine ⟨_, before, job, after, h, rfl, harm, habort ?_⟩
  exact Option.isSome_iff_ne_none.1 hover

end Rig

end CryoRig
