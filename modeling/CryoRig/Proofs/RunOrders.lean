import CryoRig.Proofs.Rehearsal

/-!
# What a program has the site do

A program begins its lines one after the other, and has the site do what they say. What it asks of
the site besides are the preparations of an acquisition, and questions whether something is still
ramping. If anything fails, a program reports it, publishes that it has failed, and is over.

## Main definitions

* `CryoRig.Script.Line.action?`: what a line says that the site is to do.
* `CryoRig.Control.fault?`: the fault that a reply reports.
* `CryoRig.Control.Faithful`: work that ends with the first fault that is reported to it.
* `CryoRig.Control.Mark`, `CryoRig.Control.marks`: lines that are begun, and what the site is to do.
* `CryoRig.Control.ProgramRun.Course`: what a turn comes to.
* `CryoRig.Control.ProgramRun.Seen`, `CryoRig.Control.ProgramRun.Fails`: what is seen of a run, and
  what is left of one in which something fails.

## Main results

* `CryoRig.Control.ProgramRun.course_of_ends`: a turn comes to nothing else.
* `CryoRig.Control.ProgramRun.seen_of_underway`: what a program has begun and ordered so far.
-/

namespace CryoRig.Script

/-! ## The actions of lines -/

/-- What a command says that the site is to do. -/
def Command.action? : Command → Option Action
  | .setGateVoltage volts => some (.setGateVoltage volts)
  | .setGateCurrent amps => some (.setGateCurrent amps)
  | .setGateState on => some (.setGateOutput on)
  | .setTargetField tesla rate => some (.setTargetField tesla rate)
  | .setTargetTemperature kelvin rate => some (.setTargetTemperature kelvin rate)
  | .setAmplitude volts => some (.setAmplitude 0 volts)
  | .setFrequency hertz => some (.setFrequency 0 hertz)
  | .setOffsetExpand lockin expand => some (.setOffsetExpand lockin expand)
  | .tcChannel channel => some (.selectChannel channel false)
  | .tcCurrent direction => some (.stepExcitation direction)
  | .setRange channel direction => some (.stepRange channel direction)
  | _ => none

/-- What a line says that the site is to do. -/
def Line.action? (l : Line) : Option Action := l.command.toOption.bind Command.action?

/-- What the site does for a line. -/
def Deed.action? : Deed → Option Action
  | .act a => some a
  | _ => none

lemma action?_of_plan {c : RunConfig} {command : Command} {step : Step}
    (h : Script.plan c command = .ok step) : step.deed.action? = command.action? := by
  cases command with
  | startStep name parameter targets =>
    obtain ⟨_, _, -, -, rfl⟩ := plan_startStep_eq_ok_iff.1 h
    rfl
  | setTargetField tesla rate =>
    obtain ⟨_, -, rfl⟩ := plan_setTargetField_eq_ok_iff.1 h
    rfl
  | setTargetTemperature kelvin rate =>
    obtain ⟨_, -, rfl⟩ := plan_setTargetTemperature_eq_ok_iff.1 h
    rfl
  | _ =>
    cases h
    rfl

/-- The plan of a line has the site do what the line says. -/
lemma Line.action?_of_plan {l : Line} {c : RunConfig} {step : Step} (h : l.plan c = .ok step) :
    step.deed.action? = l.action? := by
  obtain ⟨command, hcommand, hplan⟩ := Line.plan_eq_ok_iff.1 h
  rw [Line.action?, hcommand]
  exact Script.action?_of_plan hplan

end CryoRig.Script

namespace CryoRig.Action

/-- Whether an action neither prepares an acquisition nor asks whether something is ramping. -/
def isOrder : Action → Bool
  | prepare _ | armSweep _ | magnetRamping | temperatureRamping => false
  | _ => true

end CryoRig.Action

namespace CryoRig.Control

open Script Process

/-! ## Faults and marks -/

/-- The fault that a reply reports. -/
def fault? : Exchange WorkSurroundings → Option Fault
  | ⟨WorkRequest.act _, (outcome : Except DeviceFault _)⟩ =>
    match outcome with
    | .error fault => some (.device fault)
    | .ok _ => none
  | ⟨WorkRequest.rig (.create _), (made : Except StorageFault Nat)⟩ =>
    match made with
    | .error cause => some (.storage cause)
    | .ok _ => none
  | ⟨WorkRequest.rig (.append ..), (written : Except StorageFault Unit)⟩ =>
    match written with
    | .error cause => some (.storage cause)
    | .ok _ => none
  | _ => none

/-- What is seen of a program: it begins a line, or has the site do something. -/
inductive Mark where
  /-- A line is begun. -/
  | line (number : Nat)
  /-- The site is to do something. -/
  | order (a : Action)

/-- What is seen of a line that is begun and done. -/
def lineMarks (l : Line) : List Mark := .line l.number :: (l.action?.map Mark.order).toList

/-- What is seen of an exchange. -/
def mark? (console : Nat) : Exchange WorkSurroundings → Option Mark
  | ⟨WorkRequest.rig (.publish console' (.running number)), _⟩ =>
    if console' = console then some (.line number) else none
  | ⟨WorkRequest.act a, _⟩ => if a.isOrder then some (.order a) else none
  | _ => none

/-- What is seen of a program on a console, in order. -/
def marks (console : Nat) (es : List (Exchange WorkSurroundings)) : List Mark :=
  es.filterMap (mark? console)

/-- No fault was reported. -/
def Sound (es : List (Exchange WorkSurroundings)) : Prop := ∀ e ∈ es, fault? e = none

/-- A request that reports no fault and of which nothing is seen. -/
def Aside : WorkRequest → Prop
  | .rig (.publish ..) | .rig (.create _) | .rig (.append ..) | .act _ => False
  | .rig _ => True

/-- Whatever is asked, something can be replied. -/
lemma nonempty_reply (r : WorkRequest) : Nonempty r.Reply := by
  cases r with
  | act a => exact ⟨(.error (.notAttached "") : Except DeviceFault a.Result)⟩
  | rig r =>
    cases r with
    | device r =>
      cases r with
      | write => exact ⟨(none : Option (Except DeviceFault Unit))⟩
      | query => exact ⟨(none : Option (Except DeviceFault String))⟩
      | _ => exact ⟨()⟩
    | bench a => exact ⟨(.error (.notAttached "") : Except DeviceFault a.Result)⟩
    | calendar => exact ⟨(⟨0, 0, 0, 0, 0⟩ : Calendar)⟩
    | clock | newToken | spawn | programToken => exact ⟨(0 : Nat)⟩
    | fired | pause | ended | tryDesk | takeDesk => exact ⟨true⟩
    | join => exact ⟨(none : Option Ending)⟩
    | slot => exact ⟨(none : Option Acquisition)⟩
    | program => exact ⟨(none : Option Nat)⟩
    | published => exact ⟨ProgramState.idle⟩
    | create => exact ⟨(.error (.other "") : Except StorageFault Nat)⟩
    | append => exact ⟨(.error (.other "") : Except StorageFault Unit)⟩
    | _ => exact ⟨()⟩

/-- Work comes to an end if there is a reply to each of its requests, and so with replies of any
kind that there always is. -/
lemma exists_ends_of {α : Type} {P : Exchange WorkSurroundings → Prop}
    (hP : ∀ r : WorkRequest, ∃ reply : r.Reply, P ⟨r, reply⟩) (w : Working α) :
    ∃ es a, w.Ends es a ∧ ∀ e ∈ es, P e := by
  induction w with
  | done a => exact ⟨[], a, ends_done_iff.2 ⟨rfl, rfl⟩, List.forall_mem_nil _⟩
  | ask r next ih =>
    obtain ⟨reply, hreply⟩ := hP r
    obtain ⟨es, a, h, hes⟩ := ih reply
    exact ⟨_, a, .step h, List.forall_mem_cons.2 ⟨hreply, hes⟩⟩

/-- Work can always come to an end. -/
lemma exists_ends {α : Type} (w : Working α) : ∃ es a, w.Ends es a := by
  obtain ⟨es, a, h, -⟩ := exists_ends_of (P := fun _ => True)
    (fun r => (nonempty_reply r).elim fun reply => ⟨reply, trivial⟩) w
  exact ⟨es, a, h⟩

section Marks

variable {α β : Type} {es es' : List (Exchange WorkSurroundings)} {κ : Nat}

@[simp] lemma marks_nil : marks κ [] = [] := rfl

@[simp] lemma marks_append : marks κ (es ++ es') = marks κ es ++ marks κ es' :=
  List.filterMap_append

lemma sound_append : Sound (es ++ es') ↔ Sound es ∧ Sound es' := List.forall_mem_append

lemma Aside.mark {e : Exchange WorkSurroundings} (h : Aside e.request) (κ : Nat) :
    mark? κ e = none := by
  obtain ⟨r, reply⟩ := e
  cases r with
  | act => exact h.elim
  | rig r => cases r <;> first | rfl | exact h.elim

lemma Aside.fault {e : Exchange WorkSurroundings} (h : Aside e.request) : fault? e = none := by
  obtain ⟨r, reply⟩ := e
  cases r with
  | act => exact h.elim
  | rig r => cases r <;> first | rfl | exact h.elim

/-- Work aside reports no fault, and nothing is seen of it. -/
lemma aside_of_leads {p q : Working α} (hp : p.AsksOnly Aside) (h : p.Leads es q) (κ : Nat) :
    Sound es ∧ marks κ es = [] :=
  ⟨fun e he => (hp.of_leads h e he).fault,
    List.filterMap_eq_nil_iff.2 fun e he => (hp.of_leads h e he).mark κ⟩

/-- The line that is begun. -/
def Mark.line? : Mark → Option Nat
  | .line number => some number
  | .order _ => none

lemma begun_eq_marks (κ : Nat) (es : List (Exchange WorkSurroundings)) :
    begun κ es = (marks κ es).filterMap Mark.line? := by
  unfold begun published marks
  rw [List.filterMap_filterMap, List.filterMap_filterMap]
  congr 1
  funext ⟨r, reply⟩
  cases r with
  | act a => cases h : a.isOrder <;> simp [publishes, mark?, h, Mark.line?]
  | rig r =>
    cases r with
    | publish κ' state =>
      by_cases hκ : κ' = κ <;> cases state <;> simp [publishes, mark?, hκ, begins, Mark.line?]
    | _ => rfl

lemma line?_orders {action? : Option Action} {orders : List Mark}
    (h : orders <+: (action?.map Mark.order).toList) : orders.filterMap Mark.line? = [] := by
  refine List.filterMap_eq_nil_iff.2 fun mark hm => ?_
  obtain ⟨a, -, rfl⟩ := Option.map_eq_some_iff.1 (Option.mem_toList.1 (h.subset hm))
  rfl

lemma lines_lineMarks (lines : List Line) :
    (lines.flatMap lineMarks).filterMap Mark.line? = lines.map Line.number := by
  induction lines with
  | nil => rfl
  | cons l lines ih =>
    rw [List.flatMap_cons, List.filterMap_append, ih]
    cases h : l.action? <;> simp [lineMarks, h, Mark.line?]

/-! ## Work that ends with the first fault -/

/-- What is reported on the way to a result: no fault if the work went well, and else the fault in
the last reply. -/
def Reports (es : List (Exchange WorkSurroundings)) : Except Fault α → Prop
  | .ok _ => Sound es
  | .error fault => ∃ es' e, es = es' ++ [e] ∧ Sound es' ∧ fault? e = some fault

/-- Work ends with the first fault that is reported to it, and nothing is seen of it. -/
def Faithful (x : Risky α) : Prop :=
  ∀ es result, x.run.Ends es result → Reports es result ∧ ∀ κ, marks κ es = []

lemma Reports.append {result : Except Fault α} (h : Sound es) (h' : Reports es' result) :
    Reports (es ++ es') result := by
  cases result with
  | ok a => exact sound_append.2 ⟨h, h'⟩
  | error fault =>
    obtain ⟨es₁, e, rfl, hes, he⟩ := h'
    exact ⟨es ++ es₁, e, (List.append_assoc ..).symm, sound_append.2 ⟨h, hes⟩, he⟩

lemma faithful_pure (a : α) : Faithful (pure a) := by
  intro es result h
  obtain ⟨rfl, rfl⟩ := ends_run_pure_iff.1 h
  exact ⟨List.forall_mem_nil _, fun _ => rfl⟩

lemma faithful_lift {p : Working α} (hp : p.AsksOnly Aside) : Faithful (liftM p) := by
  intro es result h
  obtain ⟨a, ha, rfl⟩ := ends_run_lift_iff.1 h
  exact ⟨(aside_of_leads hp ha 0).1, fun κ => (aside_of_leads hp ha κ).2⟩

lemma Faithful.bind {x : Risky α} {f : α → Risky β} (hx : Faithful x)
    (hf : ∀ a, Faithful (f a)) : Faithful (x >>= f) := by
  intro es result h
  rcases ends_run_bind_iff.1 h with ⟨fault, hfault, rfl⟩ | ⟨es₁, es₂, a, rfl, h₁, h₂⟩
  · exact hx es _ hfault
  · obtain ⟨hrep₁, hm₁⟩ := hx es₁ _ h₁
    obtain ⟨hrep₂, hm₂⟩ := hf a es₂ _ h₂
    exact ⟨hrep₂.append hrep₁, fun κ => by rw [marks_append, hm₁, hm₂, List.append_nil]⟩

/-- What the site is to do is done, or it fails with the fault that is reported. -/
lemma ends_actOrFail {a : Action} {result : Except Fault a.Result}
    (h : (actOrFail a).run.Ends es result) : ∃ e, es = [e] ∧ e.request = .act a ∧
      Reports es result := by
  obtain ⟨es₁, es₂, outcome, rfl, h₁, h₂⟩ := ends_bind_iff.1 h
  obtain rfl := ends_request_iff.1 h₁
  cases outcome with
  | ok value =>
    obtain ⟨rfl, rfl⟩ := ends_pure_iff.1 h₂
    exact ⟨_, rfl, rfl, List.forall_mem_singleton.2 rfl⟩
  | error fault =>
    obtain ⟨rfl, rfl⟩ := ends_pure_iff.1 h₂
    exact ⟨_, rfl, rfl, [], _, rfl, List.forall_mem_nil _, rfl⟩

lemma actOrFail_faithful {a : Action} (ha : a.isOrder = false) : Faithful (actOrFail a) := by
  intro es result h
  obtain ⟨⟨r, reply⟩, rfl, hr, hrep⟩ := ends_actOrFail h
  obtain rfl : r = .act a := hr
  refine ⟨hrep, fun κ => ?_⟩
  simp [marks, mark?, ha]

lemma aside_log (event : Event) : (log event).AsksOnly Aside := asksOnly_request.2 trivial

lemma aside_logAll (events : List Event) : (logAll events).AsksOnly Aside := by
  induction events with
  | nil => trivial
  | cons event rest ih => exact (aside_log event).bind fun _ => ih

lemma aside_now : now.AsksOnly Aside := AsksOnly.bind (asksOnly_request.2 trivial) fun _ => trivial

lemma appendRows_faithful (file : Nat) (rows : List (List String)) :
    Faithful (appendRows file rows) := by
  induction rows with
  | nil => exact faithful_pure ()
  | cons fields rest ih =>
    intro es result h
    obtain ⟨es₁, es₂, written, rfl, h₁, h₂⟩ := ends_run_lift_bind_iff.1 h
    obtain rfl := ends_request_iff.1 h₁
    match written with
    | .ok _ =>
      obtain ⟨hrep, hm⟩ := ih _ _ h₂
      exact ⟨hrep.append (List.forall_mem_singleton.2 rfl), fun κ => hm κ⟩
    | .error cause =>
      obtain ⟨rfl, rfl⟩ := ends_run_throw_iff.1 h₂
      exact ⟨⟨[], _, rfl, List.forall_mem_nil _, rfl⟩, fun κ => rfl⟩

lemma openTable_faithful (path : String) (columns : List Channel) :
    Faithful (openTable path columns) := by
  intro es result h
  obtain ⟨es₁, es₂, made, rfl, h₁, h₂⟩ := ends_run_lift_bind_iff.1 h
  obtain rfl := ends_request_iff.1 h₁
  match made with
  | .ok file =>
    have hrest : Faithful (do
        log .fileCreated
        appendRows file (Sampling.Table.header columns)
        pure file : Risky Nat) :=
      (faithful_lift (aside_log _)).bind fun _ =>
        (appendRows_faithful _ _).bind fun _ => faithful_pure _
    obtain ⟨hrep, hm⟩ := hrest _ _ h₂
    exact ⟨hrep.append (List.forall_mem_singleton.2 rfl), fun κ => hm κ⟩
  | .error cause =>
    obtain ⟨rfl, rfl⟩ := ends_run_throw_iff.1 h₂
    exact ⟨⟨[], _, rfl, List.forall_mem_nil _, rfl⟩, fun κ => rfl⟩

variable {I : Interface} {site : Site I}

lemma prepareJob_faithful (tuning : Sampling.Tuning) (paths : Sampling.DataPaths) (token : Nat)
    (protocol : Sampling.Protocol) : Faithful (prepareJob site tuning paths token protocol) := by
  have hready (mode : Mode) (samples : Nat) (aggregates : Option Nat)
      (sweep : Option (Sampling.Sweep Float)) :
      Faithful (prepareJob.ticking site tuning token mode samples aggregates sweep) :=
    (actOrFail_faithful rfl).bind fun _ => faithful_pure _
  have hplain (mode : Mode) : Faithful (prepareJob.plain site tuning paths token mode) :=
    (openTable_faithful _ _).bind fun _ => hready _ _ _ _
  cases protocol with
  | differential plan =>
    refine (openTable_faithful _ _).bind fun _ => (actOrFail_faithful rfl).bind fun _ => ?_
    exact (actOrFail_faithful rfl).bind fun _ => faithful_pure _
  | stepped sweep =>
    exact (openTable_faithful _ _).bind fun _ => (openTable_faithful _ _).bind fun _ =>
      hready _ _ _ _
  | continuous => exact hplain _
  | autoscan => exact hplain _

lemma aside_acquisitionActive (console : Nat) : (acquisitionActive console).AsksOnly Aside := by
  refine AsksOnly.bind (asksOnly_request.2 trivial) fun a? => ?_
  cases a? with
  | none => trivial
  | some a =>
    refine AsksOnly.bind (asksOnly_request.2 trivial) fun hasEnded => ?_
    cases hasEnded with
    | false => trivial
    | true =>
      exact (aside_log _).bind fun _ => AsksOnly.bind (asksOnly_request.2 trivial) fun _ => trivial

lemma startInSlot_faithful (console : Nat) (tuning : Sampling.Tuning) (name : String)
    (protocol : Sampling.Protocol) : Faithful (startInSlot site console tuning name protocol) := by
  refine (faithful_lift (aside_acquisitionActive console)).bind fun active => ?_
  cases active with
  | true => exact faithful_lift (aside_log _)
  | false =>
    have hstart : Faithful (startAcquisition site tuning name protocol) := by
      refine Faithful.bind (faithful_lift (asksOnly_request.2 trivial)) fun _ => ?_
      refine Faithful.bind (faithful_lift (asksOnly_request.2 trivial)) fun _ => ?_
      refine (faithful_lift (aside_log _)).bind fun _ => ?_
      refine (prepareJob_faithful _ _ _ _).bind fun _ => ?_
      exact Faithful.bind (faithful_lift (asksOnly_request.2 trivial)) fun _ => faithful_pure _
    refine hstart.bind fun _ => (faithful_lift (aside_log _)).bind fun _ => ?_
    exact faithful_lift (asksOnly_request.2 trivial)

lemma aside_stopInSlot (console : Nat) (limit : Duration) (line : Nat) :
    (stopInSlot console limit line).AsksOnly Aside := by
  refine AsksOnly.bind (asksOnly_request.2 trivial) fun a? => ?_
  refine AsksOnly.bind (asksOnly_request.2 trivial) fun _ => ?_
  cases a? with
  | none => exact aside_log _
  | some a =>
    refine AsksOnly.bind ?_ fun _ => trivial
    refine AsksOnly.bind (asksOnly_request.2 trivial) fun _ => ?_
    refine aside_now.bind fun _ => ?_
    refine AsksOnly.bind (asksOnly_request.2 trivial) fun ending => ?_
    cases ending <;> exact (aside_log _).bind fun _ => trivial

lemma underWay_faithful (console : Nat) (what : Awaited) : Faithful (underWay console what) := by
  cases what with
  | field => exact actOrFail_faithful rfl
  | temperature => exact actOrFail_faithful rfl
  | acquisition => exact faithful_lift (aside_acquisitionActive console)

lemma isOrder_of_action? {command : Command} {a : Action} (h : command.action? = some a) :
    a.isOrder = true := by
  cases command <;> cases h <;> rfl

/-- What the plan of a line says is done, or it fails with the fault that is reported. -/
lemma perform_reports {conduct : Conduct} {line : Nat} {deed : Deed} {result : Except Fault Phase}
    (hdeed : ∀ a, deed.action? = some a → a.isOrder = true)
    (h : (perform site conduct line deed).run.Ends es result) :
    Reports es result ∧ ∀ κ, marks κ es = (deed.action?.map Mark.order).toList := by
  have of_faithful {x : Risky Phase} (hx : Faithful x) (h : x.run.Ends es result) :
      Reports es result ∧ ∀ κ, marks κ es = [] := hx es result h
  cases deed with
  | nothing => exact of_faithful (faithful_pure _) h
  | start name protocol autorange =>
    exact of_faithful ((startInSlot_faithful _ _ _ _).bind fun _ => faithful_pure _) h
  | stop =>
    exact of_faithful ((faithful_lift (aside_stopInSlot _ _ _)).bind fun _ => faithful_pure _) h
  | wait seconds =>
    exact of_faithful ((faithful_lift (aside_log _)).bind fun _ =>
      (faithful_lift aside_now).bind fun _ => faithful_pure _) h
  | waitFor what =>
    exact of_faithful ((faithful_lift (aside_log _)).bind fun _ => faithful_pure _) h
  | act a =>
    have hrest (value : a.Result) : Faithful (do
        logAll (resultEvents a value)
        pure Phase.between : Risky Phase) :=
      (faithful_lift (aside_logAll _)).bind fun _ => faithful_pure _
    have order {e : Exchange WorkSurroundings} (he : e.request = .act a) (κ : Nat) :
        marks κ [e] = [.order a] := by
      obtain ⟨r, reply⟩ := e
      obtain rfl : r = .act a := he
      simp [marks, mark?, hdeed a rfl]
    rcases ends_run_bind_iff.1 h with ⟨fault, hfault, rfl⟩ | ⟨es₁, es₂, value, rfl, h₁, h₂⟩
    · obtain ⟨e, rfl, he, hrep⟩ := ends_actOrFail hfault
      exact ⟨hrep, order he⟩
    · obtain ⟨e, rfl, he, hrep⟩ := ends_actOrFail h₁
      obtain ⟨hrep₂, hm⟩ := hrest value _ _ h₂
      refine ⟨hrep₂.append hrep, fun κ => ?_⟩
      rw [marks_append, order he, hm]
      rfl

end Marks

namespace ProgramRun

variable {I : Interface} {site : Site I} {r : ProgramRun} {es : List (Exchange WorkSurroundings)}
  {result : Turn ProgramRun Ending}

/-! ## Turns -/

/-- What one turn of a run may come to: what is asked and replied, and how it ends. -/
inductive Course (r : ProgramRun) :
    List (Exchange WorkSurroundings) → Turn ProgramRun Ending → Prop where
  /-- The run is still where it was. -/
  | waits {es : List (Exchange WorkSurroundings)} (phase : Phase) (hs : Sound es)
      (hm : marks r.conduct.console es = []) : Course r es (.again { r with phase := phase })
  /-- A line is begun and done. -/
  | begins {es : List (Exchange WorkSurroundings)} {l : Line} {rest : List Line} {step : Step}
      (phase : Phase) (hl : r.lines = l :: rest) (hp : l.plan r.config = .ok step) (hs : Sound es)
      (hm : marks r.conduct.console es = lineMarks l) :
      Course r es (.again
        { r with
          phase := phase, line := l.number, lines := rest, config := step.config
          sum := r.sum + step.charge })
  /-- A line is begun and refused. -/
  | refuses {es : List (Exchange WorkSurroundings)} {l : Line} {rest : List Line}
      {fault : LineFault} (hl : r.lines = l :: rest) (hp : l.plan r.config = .error fault)
      (hs : Sound es) (hm : marks r.conduct.console es = [.line l.number]) :
      Course r es (.over (.program (.error (.line fault))))
  /-- A line is begun and what it says fails. -/
  | fails {es : List (Exchange WorkSurroundings)} {e : Exchange WorkSurroundings} {l : Line}
      {rest : List Line} {fault : Fault} (hl : r.lines = l :: rest) (hs : Sound es)
      (he : fault? e = some fault) (hm : marks r.conduct.console (es ++ [e]) = lineMarks l) :
      Course r (es ++ e :: closing r.conduct.console l.number fault)
        (.over (.program (.error fault)))
  /-- A wait fails. -/
  | failsWaiting {es : List (Exchange WorkSurroundings)} {e : Exchange WorkSurroundings}
      {fault : Fault} (hs : Sound es) (he : fault? e = some fault)
      (hm : marks r.conduct.console (es ++ [e]) = []) :
      Course r (es ++ e :: closing r.conduct.console r.line fault) (.over (.program (.error fault)))
  /-- The token was fired, or no line is left. -/
  | closes {es : List (Exchange WorkSurroundings)} (hs : Sound es)
      (hm : marks r.conduct.console es = []) : Course r es (.over (.program (.ok r.sum)))

variable {α : Type} {κ : Nat}

/-- No fault was reported, and nothing is seen. -/
def Quiet (κ : Nat) (es : List (Exchange WorkSurroundings)) : Prop := Sound es ∧ marks κ es = []

lemma Quiet.append {es' : List (Exchange WorkSurroundings)} (h : Quiet κ es) (h' : Quiet κ es') :
    Quiet κ (es ++ es') :=
  ⟨sound_append.2 ⟨h.1, h'.1⟩, by rw [marks_append, h.2, h'.2, List.append_nil]⟩

/-- What is published at the end is not seen. -/
lemma quiet_close {event : Event} {state : ProgramState} (hstate : begins state = none) :
    Quiet κ [reported event, stated κ state] := by
  refine ⟨by simp [Sound, fault?, reported, stated], ?_⟩
  cases state <;> first | rfl | cases hstate

lemma quiet_closing (line : Nat) (fault : Fault) : Quiet κ (closing κ line fault) := quiet_close rfl

lemma marks_closing (line : Nat) (fault : Fault) : marks κ (closing κ line fault) = [] :=
  (quiet_closing line fault).2

lemma marks_stated (number : Nat) : marks κ [stated κ (.running number)] = [.line number] := by
  simp [marks, mark?, stated]

/-- A line is taken up, and nothing is done for it yet. -/
lemma takingUp_seen (l : Line) (hq : Quiet r.conduct.console es) :
    Sound (r.takingUp l ++ es) ∧
      marks r.conduct.console (r.takingUp l ++ es) = [.line l.number] := by
  constructor
  · exact sound_append.2 ⟨by simp [takingUp, Sound, fault?, stated, reported], hq.1⟩
  · change marks _ ([_] ++ ([stated _ _] ++ [_]) ++ es) = _
    rw [marks_append, hq.2, List.append_nil, marks_append, marks_append, marks_stated]
    rfl

/-- A run has looked at its token and is over. -/
lemma course_of_close {event : Event} {state : ProgramState} (isFired : Bool)
    (hstate : begins state = none) :
    Course r [⟨.rig (.fired r.token), isFired⟩, reported event, stated r.conduct.console state]
      (.over (.program (.ok r.sum))) := by
  have hfired : Quiet r.conduct.console [⟨.rig (.fired r.token), isFired⟩] :=
    ⟨List.forall_mem_singleton.2 rfl, rfl⟩
  have hclose : Quiet r.conduct.console [reported event, stated r.conduct.console state] :=
    quiet_close hstate
  obtain ⟨hs, hm⟩ := hfired.append hclose
  exact .closes hs hm

/-- After a pause a run is still where it was. -/
lemma paused_course (passed : Bool) (hq : Quiet r.conduct.console es) :
    Course r es (if passed then .again r else r.resume) := by
  cases passed with
  | true => exact .waits r.phase hq.1 hq.2
  | false => exact .waits .between hq.1 hq.2

/-- Nothing that a run does while it sleeps is seen. -/
lemma Sleeps.course (h : Sleeps r es result) : Course r es result := by
  cases h with
  | rested => exact .waits .between (List.forall_mem_singleton.2 rfl) rfl
  | stopped => exact .waits .between (by simp [Sound, fault?]) rfl
  | pauses _ _ passed => exact paused_course passed ⟨by simp [Sound, fault?], rfl⟩

/-- What the plan of a line says is done, or it fails with the fault that is reported. -/
lemma perform_seen {conduct : Conduct} {number : Nat} {l : Line} {c : RunConfig} {step : Step}
    {result : Except Fault Phase} (hp : l.plan c = .ok step)
    (h : (perform site conduct number step.deed).run.Ends es result) :
    Reports es result ∧ marks κ es = (l.action?.map Mark.order).toList := by
  have hdeed : step.deed.action? = l.action? := Line.action?_of_plan hp
  obtain ⟨hreports, hm⟩ := perform_reports (fun a ha => by
    obtain ⟨command, -, hc⟩ := Option.bind_eq_some_iff.1 (hdeed ▸ ha)
    exact isOrder_of_action? hc) h
  exact ⟨hreports, hdeed ▸ hm κ⟩

/-- A turn comes to one of its courses, whatever is replied during it.

**Proof sketch.** By the ways in which a turn goes. What it looks at first is quiet unless the site
fails. -/
theorem course_of_ends (h : (turn site r).Ends es result) : Course r es result := by
  cases goes_of_ends h with
  | announces _ hlog =>
    obtain ⟨hs, hm⟩ := aside_of_leads (aside_logAll _) hlog r.conduct.console
    exact .waits .between hs hm
  | interrupted | completed => exact course_of_close _ rfl
  | refused _ hl hp =>
    obtain ⟨hs, hm⟩ := takingUp_seen _ (quiet_closing _ _)
    exact .refuses hl hp hs hm
  | @failed l _ _ _ es₁ _ _ _ hl hp hnotes hdeed =>
    obtain ⟨hs, hm⟩ := takingUp_seen l (aside_of_leads (aside_logAll _) hnotes _)
    obtain ⟨⟨es₂, e, rfl, hs₂, he⟩, hm₂⟩ := perform_seen hp hdeed
    have hfails := Course.fails hl (sound_append.2 ⟨hs, hs₂⟩) he (by
      rw [List.append_assoc, marks_append, hm, hm₂]
      rfl)
    simpa only [List.append_assoc, List.singleton_append] using hfails
  | begun _ hl hp hnotes hdeed =>
    obtain ⟨hs, hm⟩ := takingUp_seen _ (aside_of_leads (aside_logAll _) hnotes _)
    obtain ⟨hs₂, hm₂⟩ := perform_seen hp hdeed
    rw [← List.append_assoc]
    refine .begins _ hl hp (sound_append.2 ⟨hs, hs₂⟩) ?_
    rw [marks_append, hm, hm₂]
    rfl
  | slept _ hsleeps => exact hsleeps.course
  | failedWaiting _ hgoing =>
    obtain ⟨⟨es₁, e, rfl, hs, he⟩, hm⟩ := underWay_faithful _ _ _ _ hgoing
    rw [List.append_assoc]
    exact .failsWaiting hs he (hm _)
  | settled _ hgoing =>
    obtain ⟨hs, hm⟩ := underWay_faithful _ _ _ _ hgoing
    exact .waits .between hs (hm _)
  | paused passed _ hgoing =>
    obtain ⟨hs, hm⟩ := underWay_faithful _ _ _ _ hgoing
    exact paused_course passed (Quiet.append ⟨hs, hm _⟩ ⟨List.forall_mem_singleton.2 rfl, rfl⟩)

/-! ## Whole runs -/

/-- A run between two turns has begun the first lines of its script and done what they say, and
nothing has failed. -/
structure Heeds (s : Script) (first : List Line) (r : ProgramRun)
    (es : List (Exchange WorkSurroundings)) : Prop where
  /-- The lines that are left come after those that were begun. -/
  program_eq : s.program = first ++ r.lines
  /-- Those that were begun have left these settings behind. -/
  accumulated : accumulate .empty 0 first = .ok (r.config, r.sum)
  /-- They were begun one after the other, and what they say was done. -/
  marks_eq : marks r.conduct.console es = first.flatMap lineMarks
  /-- Nothing has failed. -/
  sound : Sound es

variable {s : Script} {first : List Line} {conduct : Conduct} {token : Nat}
  {rest : Working (Turn ProgramRun Ending)}

lemma Heeds.again {r' : ProgramRun} {es' : List (Exchange WorkSurroundings)}
    (h : Heeds s first r es) (hc : Course r es' (.again r')) :
    r'.conduct = r.conduct ∧ r'.token = r.token ∧ ∃ first', Heeds s first' r' (es ++ es') := by
  cases hc with
  | waits phase hs hm =>
    refine ⟨rfl, rfl, first, h.program_eq, h.accumulated, ?_, sound_append.2 ⟨h.sound, hs⟩⟩
    rw [marks_append, h.marks_eq, hm, List.append_nil]
  | @begins _ l lines _ phase hl hp hs hm =>
    refine ⟨rfl, rfl, first ++ [l], ?_, accumulate_concat h.accumulated hp, ?_,
      sound_append.2 ⟨h.sound, hs⟩⟩
    · rw [h.program_eq, hl, List.append_assoc]
      rfl
    · rw [marks_append, h.marks_eq, hm, List.flatMap_append, List.flatMap_singleton]

/-- Between turns a run has done what the lines say that it has begun. -/
theorem heeds_of_rounds {turns : List (ProgramRun × List (Exchange WorkSurroundings))}
    (h : Rounds (turn site) (start conduct token s) turns (.again r)) :
    r.conduct = conduct ∧ r.token = token ∧ ∃ first, Heeds s first r (exchanges turns) := by
  generalize hr : Turn.again r = result at h
  induction h generalizing r with
  | start =>
    cases hr
    exact ⟨rfl, rfl, [], rfl, rfl, rfl, List.forall_mem_nil _⟩
  | next h ht ih =>
    subst hr
    obtain ⟨hc, htoken, first, hheeds⟩ := ih rfl
    obtain ⟨hc', htoken', first', hheeds'⟩ := hheeds.again (course_of_ends ht)
    refine ⟨hc'.trans hc, htoken'.trans htoken, first', ?_⟩
    simpa using hheeds'

/-- A line is refused: it is the last one that was begun, and nothing was done for it. -/
def Refused (κ : Nat) (es : List (Exchange WorkSurroundings))
    (first : List Line) (fault : LineFault) : Prop :=
  ∃ before l c sum, first = before ++ [l] ∧ accumulate .empty 0 before = .ok (c, sum) ∧
    l.plan c = .error fault ∧ marks κ es = before.flatMap lineMarks ++ [.line l.number]

/-- Nothing but the end of the run comes after a fault. -/
lemma Course.closing_of_fault {es₁ es₂ : List (Exchange WorkSurroundings)}
    {e : Exchange WorkSurroundings} {fault : Fault} (h : Course r (es₁ ++ e :: es₂) result)
    (he : fault? e = some fault) :
    (∃ line, es₂ = closing r.conduct.console line fault) ∧
      result = .over (.program (.error fault)) := by
  have loud {es : List (Exchange WorkSurroundings)} (hs : Sound es) (hmem : e ∈ es) : False := by
    rw [hs e hmem] at he
    cases he
  have cut {es₃ : List (Exchange WorkSurroundings)} {e' : Exchange WorkSurroundings}
      {fault' : Fault} {line : Nat} (hs : Sound es₃)
      (heq : es₁ ++ e :: es₂ = es₃ ++ e' :: closing r.conduct.console line fault') :
      e = e' ∧ es₂ = closing r.conduct.console line fault' := by
    rcases List.append_eq_append_iff.1 heq with ⟨es₄, rfl, h'⟩ | ⟨es₄, -, h'⟩
    · cases es₄ with
      | nil => simpa using h'
      | cons e'' es₄ =>
        obtain ⟨rfl, -⟩ : e = e'' ∧ _ := by simpa using h'
        exact (loud hs (by simp)).elim
    · cases es₄ with
      | nil => simpa [eq_comm] using h'
      | cons e'' es₄ =>
        -- the fault would be reported while the run ends
        obtain ⟨-, h'⟩ : e' = e'' ∧ closing r.conduct.console line fault' = es₄ ++ e :: es₂ := by
          simpa using h'
        have hq : Quiet r.conduct.console (closing _ line fault') := quiet_closing line fault'
        exact (loud hq.1 (by simp [h'])).elim
  generalize hes : es₁ ++ e :: es₂ = es at h
  cases h with
  | waits _ hs | begins _ _ _ hs | refuses _ _ hs | closes hs =>
    subst hes
    exact (loud hs (by simp)).elim
  | fails _ hs he' | failsWaiting hs he' =>
    obtain ⟨rfl, rfl⟩ := cut hs hes
    rw [he] at he'
    cases he'
    exact ⟨⟨_, rfl⟩, rfl⟩

/-- What is seen of a turn is nothing, or a first part of what is seen of the next line. -/
lemma Course.marks_prefix (h : Course r es result) : marks r.conduct.console es = [] ∨
    ∃ l rest, r.lines = l :: rest ∧ marks r.conduct.console es <+: lineMarks l := by
  cases h with
  | waits _ _ hm | closes _ hm => exact .inl hm
  | begins _ hl _ _ hm => exact .inr ⟨_, _, hl, hm ▸ List.prefix_refl _⟩
  | refuses hl _ _ hm => exact .inr ⟨_, _, hl, hm ▸ ⟨_, rfl⟩⟩
  | fails hl _ _ hm =>
    rw [List.append_cons, marks_append, marks_closing, List.append_nil]
    exact .inr ⟨_, _, hl, hm ▸ List.prefix_refl _⟩
  | failsWaiting _ _ hm =>
    rw [List.append_cons, marks_append, marks_closing, List.append_nil]
    exact .inl hm

/-- What is seen of a run so far: the lines it has begun, and what they say that was done. -/
structure Seen (s : Script) (κ : Nat) (es : List (Exchange WorkSurroundings))
    (rest : Working (Turn ProgramRun Ending)) (first : List Line) : Prop where
  /-- The lines are the first ones of the script. -/
  lines : first <+: s.program
  /-- These were begun, in this order. -/
  begun_eq : begun κ es = first.map Line.number
  /-- What they say is done in this order, and nothing else. -/
  marks_prefix : marks κ es <+: first.flatMap lineMarks
  /-- After a turn all of it was done, unless the last line was refused. -/
  marks_eq : ∀ t, rest = .done t → marks κ es = first.flatMap lineMarks ∨
    ∃ fault, t = .over (.program (.error (.line fault))) ∧ Refused κ es first fault

/-- What is seen of a run between two turns and in the middle of the next one. -/
lemma Heeds.seen {es' : List (Exchange WorkSurroundings)} (h : Heeds s first r es)
    (hl : (turn site r).Leads es' rest) :
    ∃ first', Seen s r.conduct.console (es ++ es') rest first' := by
  obtain ⟨es'', result, he⟩ := exists_ends rest
  have hcourse : Course r (es' ++ es'') result := course_of_ends (hl.trans he)
  have hbefore : begun r.conduct.console es = first.map Line.number := by
    rw [begun_eq_marks, h.marks_eq, lines_lineMarks]
  by_cases hnil : marks r.conduct.console es' = []
  · have hm : marks r.conduct.console (es ++ es') = first.flatMap lineMarks := by
      rw [marks_append, h.marks_eq, hnil, List.append_nil]
    refine ⟨first, ⟨r.lines, h.program_eq.symm⟩, ?_, hm ▸ List.prefix_refl _, fun t ht => .inl hm⟩
    rw [begun_append, hbefore, begun_eq_marks, hnil]
    exact List.append_nil _
  -- something is seen of the turn, so it has begun the next line
  obtain ⟨l, lines, hlines, hpre⟩ : ∃ l lines, r.lines = l :: lines ∧
      marks r.conduct.console es' <+: lineMarks l := by
    rcases hcourse.marks_prefix with hm | ⟨l, lines, hlines, hpre⟩
    · exact (hnil (List.append_eq_nil_iff.1 (marks_append ▸ hm)).1).elim
    · rw [marks_append] at hpre
      exact ⟨l, lines, hlines, (List.prefix_append _ _).trans hpre⟩
  obtain ⟨orders, hm, horders⟩ : ∃ orders, marks r.conduct.console es' = .line l.number :: orders ∧
      orders <+: (l.action?.map Mark.order).toList :=
    (List.prefix_cons_iff.1 hpre).resolve_left hnil
  refine ⟨first ++ [l], ⟨lines, ?_⟩, ?_, ?_, ?_⟩
  · rw [h.program_eq, hlines, List.append_assoc]
    rfl
  · rw [begun_append, hbefore, begun_eq_marks, hm, List.filterMap_cons, List.map_append]
    simp [Mark.line?, line?_orders horders]
  · rw [marks_append, h.marks_eq, List.flatMap_append, List.flatMap_singleton]
    exact (List.prefix_append_right_inj _).2 hpre
  · rintro t rfl
    obtain ⟨rfl, rfl⟩ := ends_done_iff.1 he
    rw [List.append_nil] at hcourse
    rw [marks_append, h.marks_eq, List.flatMap_append, List.flatMap_singleton]
    cases hcourse with
    | waits _ _ hm' | closes _ hm' => exact (hnil hm').elim
    | begins _ hl' _ _ hm' =>
      obtain ⟨rfl, rfl⟩ := List.cons.inj (hlines.symm.trans hl')
      exact .inl (hm' ▸ rfl)
    | refuses hl' hp _ hm' =>
      obtain ⟨rfl, rfl⟩ := List.cons.inj (hlines.symm.trans hl')
      refine .inr ⟨_, rfl, first, _, r.config, r.sum, rfl, h.accumulated, hp, ?_⟩
      rw [marks_append, h.marks_eq, hm']
    | fails hl' _ _ hm' =>
      obtain ⟨rfl, rfl⟩ := List.cons.inj (hlines.symm.trans hl')
      rw [List.append_cons, marks_append, hm', marks_closing, List.append_nil]
      exact .inl rfl
    | failsWaiting _ _ hm' =>
      rw [List.append_cons, marks_append, hm', marks_closing] at hnil
      exact (hnil rfl).elim

/-- A fault has been reported, and since then at most the end of the run. -/
def Fails (κ : Nat) (fault : Fault) (es : List (Exchange WorkSurroundings))
    (rest : Working (Turn ProgramRun Ending)) : Prop :=
  ∃ line, es <+: closing κ line fault ∧ ∀ t, rest = .done t →
    es = closing κ line fault ∧ t = .over (.program (.error fault))

/-- Whatever fails in the middle of a turn is the last thing before the end of the run. -/
lemma Heeds.fails {es' es₁ es₂ : List (Exchange WorkSurroundings)}
    {e : Exchange WorkSurroundings} {fault : Fault} (h : Heeds s first r es)
    (hl : (turn site r).Leads es' rest) (hsplit : es ++ es' = es₁ ++ e :: es₂)
    (he : fault? e = some fault) : Fails r.conduct.console fault es₂ rest := by
  -- nothing has failed before this turn
  obtain ⟨es₃, rfl⟩ : ∃ es₃, es' = es₃ ++ e :: es₂ := by
    rcases List.append_eq_append_iff.1 hsplit with ⟨es₃, -, h'⟩ | ⟨es₃, rfl, h'⟩
    · exact ⟨es₃, h'⟩
    · cases es₃ with
      | nil => exact ⟨[], h'.symm⟩
      | cons e' es₃ =>
        obtain ⟨rfl, -⟩ : e = e' ∧ _ := by simpa using h'
        rw [h.sound e (by simp)] at he
        cases he
  obtain ⟨es₄, result, hends⟩ := exists_ends rest
  have hcourse := course_of_ends (hl.trans hends)
  rw [List.append_assoc] at hcourse
  obtain ⟨⟨line, hclosing⟩, rfl⟩ := hcourse.closing_of_fault he
  refine ⟨line, ⟨es₄, hclosing⟩, ?_⟩
  rintro t rfl
  obtain ⟨rfl, rfl⟩ := ends_done_iff.1 hends
  exact ⟨by simpa using hclosing, rfl⟩

/-- A run begins the first lines of its script one after the other, and has the site do what they
say and nothing else; if anything fails, that is the last thing it does. -/
theorem seen_of_underway (h : Underway (turn site) (start conduct token s) es rest) :
    (∃ first, Seen s conduct.console es rest first) ∧
      ∀ es₁ e es₂ fault, es = es₁ ++ e :: es₂ → fault? e = some fault →
        Fails conduct.console fault es₂ rest := by
  obtain ⟨turns, r, es', hturns, hlead, rfl⟩ := h
  obtain ⟨rfl, -, first, hheeds⟩ := heeds_of_rounds hturns
  exact ⟨hheeds.seen hlead, fun es₁ e es₂ fault hsplit he => hheeds.fails hlead hsplit he⟩

end ProgramRun

end CryoRig.Control
