import CryoRig.Proofs.ProgramTurns
import CryoRig.Proofs.Requests

/-!
# Runs keep to what was checked

A check and a run go through the same plans, but a run may be held up, cancelled or fail at any
line. Whatever the site, the clock, the slot and the token do, the lines a run has taken up are a
first part of the script, and the settings and the sum it has got to are those of the check at the
same place.

## Main definitions

* `CryoRig.Script.charges`: the durations that a check charges for lines.
* `CryoRig.Control.published`, `CryoRig.Control.begun`: the states that are published, and the lines
  among them that are begun.
* `CryoRig.Control.ProgramRun.Outcome`: what one turn of a run may come to.

## Main results

* `CryoRig.Script.charges_of_estimate`: the charges add up to the duration a check ends with.
* `CryoRig.Control.ProgramRun.outcome_of_ends`: a turn comes to nothing else.
* `CryoRig.Control.ProgramRun.follows_of_rounds`: between turns a run is at a place of the check.
* `CryoRig.Control.ProgramRun.agrees_with_check`: how a run may end, given what the check ends with.
-/

namespace CryoRig.Script

variable {c c' : RunConfig} {sum sum' : Float} {first rest : List Line} {l : Line} {step : Step}
  {fault : LineFault}

/-! ## Places in a check -/

/-- The durations that a check charges for lines, up to the first complaint. -/
def charges : RunConfig → List Line → List Float
  | _, [] => []
  | c, l :: rest =>
    match l.plan c with
    | .error _ => []
    | .ok step => step.charge :: charges step.config rest

lemma accumulate_cons :
    accumulate c sum (l :: rest) =
      l.plan c >>= fun step => accumulate step.config (sum + step.charge) rest := rfl

/-- Lines without a complaint are charged for one by one, and what was charged adds up to the sum
from the left. -/
lemma charges_of_accumulate (rest : List Line) (h : accumulate c sum first = .ok (c', sum')) :
    (charges c first).length = first.length ∧ sum' = (charges c first).foldl (· + ·) sum ∧
      charges c (first ++ rest) = charges c first ++ charges c' rest := by
  induction first generalizing c sum with
  | nil =>
    obtain ⟨rfl, rfl⟩ : c = c' ∧ sum = sum' := by simpa [accumulate] using h
    exact ⟨rfl, rfl, rfl⟩
  | cons l first ih =>
    rw [accumulate_cons] at h
    cases hl : l.plan c with
    | error fault =>
      rw [hl] at h
      cases h
    | ok step =>
      rw [hl] at h
      obtain ⟨hlen, hsum, happ⟩ := ih h
      refine ⟨?_, ?_, ?_⟩
      · simp [charges, hl, hlen]
      · simp [charges, hl, hsum]
      · simp [charges, hl, happ]

/-- One more line without a complaint. -/
lemma accumulate_concat (h : accumulate c sum first = .ok (c', sum')) (hl : l.plan c' = .ok step) :
    accumulate c sum (first ++ [l]) = .ok (step.config, sum' + step.charge) := by
  induction first generalizing c sum with
  | nil =>
    obtain ⟨rfl, rfl⟩ : c = c' ∧ sum = sum' := by simpa [accumulate] using h
    rw [List.nil_append, accumulate_cons, hl]
    rfl
  | cons k first ih =>
    rw [accumulate_cons] at h
    rw [List.cons_append, accumulate_cons]
    cases hk : k.plan c with
    | error fault =>
      rw [hk] at h
      cases h
    | ok step' =>
      rw [hk] at h
      exact ih h

/-- A check of lines that have no complaint ends with their sum. -/
lemma rehearse_of_accumulate (h : accumulate c sum first = .ok (c', sum')) :
    (rehearse c sum first).2 = .ok sum' := by
  have := rehearse_append c sum first []
  rw [h, List.append_nil] at this
  exact this

/-- The duration that a check of a script ends with is what it charges for the lines, one by one and
added up from the left. -/
theorem charges_of_estimate {s : Script} {seconds : Float} (h : estimate s = .ok seconds) :
    (charges .empty s.program).length = s.program.length ∧
      seconds = (charges .empty s.program).foldl (· + ·) 0 := by
  have happ := rehearse_append .empty 0 s.program []
  rw [List.append_nil] at happ
  unfold estimate at h
  cases hacc : accumulate .empty 0 s.program with
  | error fault =>
    rw [happ, hacc] at h
    cases h
  | ok reached =>
    obtain ⟨hlen, hsum, -⟩ := charges_of_accumulate [] hacc
    rw [happ, hacc] at h
    cases h
    exact ⟨hlen, hsum⟩

/-- A check ends with the complaint about a line if the lines before have none. -/
lemma rehearse_of_refused (h : accumulate c sum first = .ok (c', sum'))
    (hl : l.plan c' = .error fault) :
    (rehearse c sum (first ++ l :: rest)).2 = .error fault := by
  rw [rehearse_append, h]
  simp [rehearse, hl]

/-- A check that ends with a complaint has come to a line it is about. -/
lemma exists_of_rehearse_error {lines : List Line} (h : (rehearse c sum lines).2 = .error fault) :
    ∃ first l rest c' sum', lines = first ++ l :: rest ∧
      accumulate c sum first = .ok (c', sum') ∧ l.plan c' = .error fault := by
  induction lines generalizing c sum with
  | nil => cases h
  | cons l lines ih =>
    cases hl : l.plan c with
    | error fault' =>
      obtain rfl : fault' = fault := by simpa [rehearse, hl] using h
      exact ⟨[], l, lines, c, sum, rfl, rfl, hl⟩
    | ok step =>
      have h' : (rehearse step.config (sum + step.charge) lines).2 = .error fault := by
        simpa [rehearse, hl] using h
      obtain ⟨first, k, rest, c', sum', rfl, hf, hk⟩ := ih h'
      refine ⟨l :: first, k, rest, c', sum', rfl, ?_, hk⟩
      rw [accumulate_cons, hl]
      exact hf

/-! ## Line numbers -/

lemma line_of_mapError_onLine {α : Type} {x : Except Complaint α} {number : Nat}
    (h : (x.mapError fun complaint => complaint.onLine number) = .error fault) :
    fault.line = number := by
  cases x <;> cases h
  rfl

/-- A complaint about a line carries its number. -/
lemma Line.line_of_plan_error (h : l.plan c = .error fault) : fault.line = l.number := by
  unfold Line.plan at h
  cases hc : l.command with
  | error fault' =>
    obtain rfl : fault' = fault := by simpa [hc, bind, Except.bind] using h
    exact line_of_mapError_onLine hc
  | ok command =>
    rw [hc] at h
    exact line_of_mapError_onLine h

lemma number_of_mem_ofText? {number : Nat} {text : String}
    (h : l ∈ (Line.ofText? number text).toList) : l.number = number := by
  cases hw : Text.words text with
  | nil => simp [Line.ofText?, hw] at h
  | cons operation arguments =>
    obtain rfl : l = ⟨number, operation, arguments⟩ := by simpa [Line.ofText?, hw] using h
    rfl

lemma le_number_of_mem_programFrom {number : Nat} {texts : List String}
    (h : l ∈ programFrom number texts) : number ≤ l.number := by
  induction texts generalizing number with
  | nil => cases h
  | cons text texts ih =>
    rcases List.mem_append.1 h with h | h
    · exact Nat.le_of_eq (number_of_mem_ofText? h).symm
    · exact Nat.le_of_succ_le (ih h)

/-- The lines of a script are numbered upwards. -/
lemma programFrom_pairwise (number : Nat) (texts : List String) :
    (programFrom number texts).Pairwise fun k l => k.number < l.number := by
  induction texts generalizing number with
  | nil => exact .nil
  | cons text texts ih =>
    refine List.pairwise_append.2 ⟨?_, ih (number + 1), fun k hk l hl => ?_⟩
    · cases h : Line.ofText? number text <;> simp
    · rw [number_of_mem_ofText? hk]
      exact le_number_of_mem_programFrom hl

end CryoRig.Script

namespace CryoRig.Control

open Script Process

/-! ## What is published -/

/-- The state that an exchange publishes on a console. -/
def publishes (console : Nat) (e : Exchange WorkSurroundings) : Option ProgramState :=
  match (e.request : WorkRequest) with
  | .rig (.publish console' state) => if console' = console then some state else none
  | _ => none

/-- The states that are published on a console, in order. -/
def published (console : Nat) (es : List (Exchange WorkSurroundings)) : List ProgramState :=
  es.filterMap (publishes console)

/-- The line that is begun when a state is published. -/
def begins : ProgramState → Option Nat
  | .running line => some line
  | _ => none

/-- The numbers of the lines that are begun on a console, in order. -/
def begun (console : Nat) (es : List (Exchange WorkSurroundings)) : List Nat :=
  (published console es).filterMap begins

@[simp] lemma published_nil (console : Nat) : published console [] = [] := rfl

@[simp] lemma published_append (console : Nat) (es es' : List (Exchange WorkSurroundings)) :
    published console (es ++ es') = published console es ++ published console es' :=
  List.filterMap_append

@[simp] lemma begun_append (console : Nat) (es es' : List (Exchange WorkSurroundings)) :
    begun console (es ++ es') = begun console es ++ begun console es' := by
  simp [begun]

lemma mem_begun {console n : Nat} {es : List (Exchange WorkSurroundings)} :
    n ∈ begun console es ↔ .running n ∈ published console es := by
  constructor
  · intro h
    obtain ⟨state, hs, hn⟩ := List.mem_filterMap.1 h
    cases state <;> cases hn
    exact hs
  · exact fun h => List.mem_filterMap.2 ⟨_, h, rfl⟩

/-- Whether a request publishes nothing but states with a property. -/
def Publishing (P : ProgramState → Prop) : WorkRequest → Prop
  | .rig (.publish _ state) => P state
  | _ => True

/-- Whether a request publishes nothing. -/
def Silent : WorkRequest → Prop := Publishing fun _ => False

variable {I : Interface} {site : Site I} {α : Type} {console : Nat}
  {es : List (Exchange WorkSurroundings)}

lemma Silent.publishing (P : ProgramState → Prop) (q : WorkRequest) (h : Silent q) :
    Publishing P q := by
  unfold Silent Publishing at *
  split at h <;> simp_all

lemma of_mem_published (console : Nat) {P : ProgramState → Prop} {p q : Working α}
    (hp : p.AsksOnly (Publishing P)) (h : p.Leads es q) :
    ∀ state ∈ published console es, P state := by
  intro state hs
  obtain ⟨e, he, hs⟩ := List.mem_filterMap.1 hs
  have hr := hp.of_leads h e he
  unfold publishes at hs
  split at hs
  · next console' state' hq =>
    obtain ⟨-, rfl⟩ : console' = console ∧ state' = state := by simpa using hs
    rw [hq] at hr
    exact hr
  · cases hs

lemma published_eq_nil (console : Nat) {p q : Working α} (hp : p.AsksOnly Silent)
    (h : p.Leads es q) : published console es = [] :=
  List.eq_nil_iff_forall_not_mem.2 fun state hs => of_mem_published console hp h state hs

/-! ## Work that publishes nothing -/

/-- Work that keeps to itself publishes nothing. -/
lemma silent_of_plain {w : Working α} (h : w.AsksOnly WorkRequest.Plain) : w.AsksOnly Silent := by
  refine h.mono fun r hr => ?_
  cases r with
  | act => trivial
  | rig r => cases r <;> trivial

lemma log_silent (event : Event) : (log event).AsksOnly Silent := silent_of_plain (log_plain event)

lemma logAll_silent (events : List Event) : (logAll events).AsksOnly Silent :=
  silent_of_plain (logAll_plain events)

lemma actOrFail_silent (a : Action) : (actOrFail a).run.AsksOnly Silent :=
  silent_of_plain (actOrFail_plain a)

lemma fired_silent (token : Nat) : (fired token).AsksOnly Silent :=
  silent_of_plain (fired_plain token)

lemma now_silent : now.AsksOnly Silent := silent_of_plain now_plain

lemma acquisitionActive_silent : (acquisitionActive console).AsksOnly Silent := by
  refine AsksOnly.bind (asksOnly_request.2 trivial) fun a? => ?_
  cases a? with
  | none => trivial
  | some a =>
    refine AsksOnly.bind (asksOnly_request.2 trivial) fun hasEnded => ?_
    cases hasEnded with
    | false => trivial
    | true =>
      exact (log_silent _).bind fun _ => AsksOnly.bind (asksOnly_request.2 trivial) fun _ => trivial

lemma startAcquisition_silent (tuning : Sampling.Tuning) (name : String)
    (protocol : Sampling.Protocol) :
    (startAcquisition site tuning name protocol).run.AsksOnly Silent := by
  refine AsksOnly.run_bind (asksOnly_request.2 trivial).run_lift fun _ => ?_
  refine AsksOnly.run_bind (asksOnly_request.2 trivial).run_lift fun _ => ?_
  refine (log_silent _).run_lift.run_bind fun _ => ?_
  refine (silent_of_plain (prepareJob_yields _ _ _ _).asksOnly).run_bind fun _ => ?_
  exact AsksOnly.run_bind (asksOnly_request.2 trivial).run_lift fun _ => trivial

lemma startInSlot_silent (tuning : Sampling.Tuning) (name : String)
    (protocol : Sampling.Protocol) :
    (startInSlot site console tuning name protocol).run.AsksOnly Silent := by
  refine acquisitionActive_silent.run_lift.run_bind fun active => ?_
  cases active with
  | true => exact (log_silent _).run_lift
  | false =>
    refine (startAcquisition_silent _ _ _).run_bind fun _ => ?_
    exact (log_silent _).run_lift.run_bind fun _ => (asksOnly_request.2 trivial).run_lift

lemma stop_silent (a : Acquisition) (limit : Duration) : (a.stop limit).AsksOnly Silent := by
  refine AsksOnly.bind (asksOnly_request.2 trivial) fun _ => ?_
  refine now_silent.bind fun _ => ?_
  refine AsksOnly.bind (asksOnly_request.2 trivial) fun ending => ?_
  cases ending <;> exact (log_silent _).bind fun _ => trivial

lemma stopInSlot_silent (limit : Duration) (line : Nat) :
    (stopInSlot console limit line).AsksOnly Silent := by
  refine AsksOnly.bind (asksOnly_request.2 trivial) fun a? => ?_
  refine AsksOnly.bind (asksOnly_request.2 trivial) fun _ => ?_
  cases a? with
  | none => exact log_silent _
  | some a => exact (stop_silent a limit).bind fun _ => trivial

lemma perform_silent (conduct : Conduct) (line : Nat) (deed : Deed) :
    (perform site conduct line deed).run.AsksOnly Silent := by
  cases deed with
  | nothing => trivial
  | start name protocol autorange => exact (startInSlot_silent _ _ _).run_bind fun _ => trivial
  | stop => exact (stopInSlot_silent _ _).run_lift.run_bind fun _ => trivial
  | wait seconds =>
    refine (log_silent _).run_lift.run_bind fun _ => ?_
    exact now_silent.run_lift.run_bind fun _ => trivial
  | waitFor what => exact (log_silent _).run_lift.run_bind fun _ => trivial
  | act a =>
    refine (actOrFail_silent a).run_bind fun _ => ?_
    exact (logAll_silent _).run_lift.run_bind fun _ => trivial

lemma underWay_silent (what : Awaited) : (underWay console what).run.AsksOnly Silent := by
  cases what with
  | field => exact actOrFail_silent _
  | temperature => exact actOrFail_silent _
  | acquisition => exact acquisitionActive_silent.run_lift

/-! ## Work that never complains about a line -/

/-- Whether a fault is not about the text of a script. -/
def OffScript (fault : Fault) : Prop := fault.isLine = false

lemma actOrFail_offScript (a : Action) : FailsOnly OffScript (actOrFail a) := by
  intro es fault h
  obtain ⟨es₁, es₂, outcome, -, -, h⟩ := ends_bind_iff.1 h
  cases outcome with
  | ok result => cases (ends_pure_iff.1 h).2
  | error cause =>
    cases (ends_pure_iff.1 h).2
    rfl

lemma appendRows_offScript (file : Nat) (rows : List (List String)) :
    FailsOnly OffScript (appendRows file rows) := by
  induction rows with
  | nil => exact failsOnly_pure ()
  | cons fields rest ih =>
    refine (failsOnly_lift _).bind fun written => ?_
    cases written with
    | ok => exact ih
    | error cause => exact failsOnly_throw rfl

lemma openTable_offScript (path : String) (columns : List Channel) :
    FailsOnly OffScript (openTable path columns) := by
  refine (failsOnly_lift _).bind fun made => ?_
  cases made with
  | error cause => exact failsOnly_throw rfl
  | ok file =>
    exact (failsOnly_lift _).bind fun _ => (appendRows_offScript _ _).bind fun _ => failsOnly_pure _

lemma prepareJob_offScript (tuning : Sampling.Tuning) (paths : Sampling.DataPaths) (token : Nat)
    (protocol : Sampling.Protocol) :
    FailsOnly OffScript (prepareJob site tuning paths token protocol) := by
  have hready (mode : Mode) (samples : Nat) (aggregates : Option Nat)
      (sweep : Option (Sampling.Sweep Float)) :
      FailsOnly OffScript
        (prepareJob.ticking site tuning token mode samples aggregates sweep) :=
    (actOrFail_offScript _).bind fun _ => failsOnly_pure _
  have hplain (mode : Mode) :
      FailsOnly OffScript (prepareJob.plain site tuning paths token mode) :=
    (openTable_offScript _ _).bind fun _ => hready _ _ _ _
  cases protocol with
  | differential plan =>
    refine (openTable_offScript _ _).bind fun _ => (actOrFail_offScript _).bind fun _ => ?_
    exact (actOrFail_offScript _).bind fun _ => failsOnly_pure _
  | stepped sweep =>
    exact (openTable_offScript _ _).bind fun _ => (openTable_offScript _ _).bind fun _ =>
      hready _ _ _ _
  | continuous => exact hplain _
  | autoscan => exact hplain _

lemma startInSlot_offScript (tuning : Sampling.Tuning) (name : String)
    (protocol : Sampling.Protocol) :
    FailsOnly OffScript (startInSlot site console tuning name protocol) := by
  refine (failsOnly_lift _).bind fun active => ?_
  cases active with
  | true => exact failsOnly_lift _
  | false =>
    have hstart : FailsOnly OffScript (startAcquisition site tuning name protocol) :=
      (failsOnly_lift _).bind fun _ => (failsOnly_lift _).bind fun _ => (failsOnly_lift _).bind
        fun _ => (prepareJob_offScript _ _ _ _).bind fun _ => (failsOnly_lift _).bind fun _ =>
        failsOnly_pure _
    exact hstart.bind fun _ => (failsOnly_lift _).bind fun _ => failsOnly_lift _

lemma perform_offScript (conduct : Conduct) (line : Nat) (deed : Deed) :
    FailsOnly OffScript (perform site conduct line deed) := by
  cases deed with
  | nothing => exact failsOnly_pure _
  | start name protocol autorange =>
    exact (startInSlot_offScript _ _ _).bind fun _ => failsOnly_pure _
  | stop => exact (failsOnly_lift _).bind fun _ => failsOnly_pure _
  | wait seconds =>
    exact (failsOnly_lift _).bind fun _ => (failsOnly_lift _).bind fun _ => failsOnly_pure _
  | waitFor what => exact (failsOnly_lift _).bind fun _ => failsOnly_pure _
  | act a =>
    exact (actOrFail_offScript a).bind fun _ => (failsOnly_lift _).bind fun _ => failsOnly_pure _

lemma underWay_offScript (what : Awaited) : FailsOnly OffScript (underWay console what) := by
  cases what with
  | field => exact actOrFail_offScript _
  | temperature => exact actOrFail_offScript _
  | acquisition => exact failsOnly_lift _

namespace ProgramRun

variable {r : ProgramRun} {result : Turn ProgramRun Ending}

/-! ## Turns -/

/-- What one turn of a run may come to: the states it publishes and how it ends. -/
inductive Outcome (r : ProgramRun) : List ProgramState → Turn ProgramRun Ending → Prop where
  /-- The run is still where it was. -/
  | waits (phase : Phase) : Outcome r [] (.again { r with phase := phase })
  /-- A line is taken up and its plan is done. -/
  | begins {l : Line} {rest : List Line} {step : Step} (phase : Phase) (hl : r.lines = l :: rest)
      (hp : l.plan r.config = .ok step) :
      Outcome r [.running l.number] (.again
        { r with
          phase := phase, line := l.number, lines := rest, config := step.config
          sum := r.sum + step.charge })
  /-- A line is taken up and refused. -/
  | refuses {l : Line} {rest : List Line} {fault : LineFault} (hl : r.lines = l :: rest)
      (hp : l.plan r.config = .error fault) :
      Outcome r [.running l.number, .failed] (.over (.program (.error (.line fault))))
  /-- A line is taken up and what its plan says fails. -/
  | fails {l : Line} {rest : List Line} {step : Step} {fault : Fault} (hl : r.lines = l :: rest)
      (hp : l.plan r.config = .ok step) (hf : OffScript fault) :
      Outcome r [.running l.number, .failed] (.over (.program (.error fault)))
  /-- A wait fails. -/
  | failsWaiting {fault : Fault} (hf : OffScript fault) :
      Outcome r [.failed] (.over (.program (.error fault)))
  /-- The token was fired. -/
  | interrupts : Outcome r [.interrupted] (.over (.program (.ok r.sum)))
  /-- No line is left. -/
  | completes (hl : r.lines = []) : Outcome r [.complete] (.over (.program (.ok r.sum)))

lemma publishes_stated (state : ProgramState) :
    publishes console (stated console state) = some state := if_pos rfl

/-- What is published at the end of a run. -/
lemma published_close (κ : Nat) (event : Event) (state : ProgramState) :
    published κ [reported event, stated κ state] = [state] := by
  rw [published, List.filterMap_cons_none rfl, List.filterMap_cons_some (publishes_stated state)]
  rfl

/-- What is published with a line that is taken up. -/
lemma published_takingUp (l : Line) :
    published r.conduct.console (r.takingUp l) = [.running l.number] := by
  rw [takingUp, published, List.filterMap_cons_none rfl,
    List.filterMap_cons_some (publishes_stated (.running l.number))]
  rfl

lemma resume_outcome : Outcome r [] r.resume := .waits .between

/-- After a pause a run is still where it was. -/
lemma paused_outcome (passed : Bool) : Outcome r [] (if passed then .again r else r.resume) := by
  cases passed with
  | true => exact .waits r.phase
  | false => exact resume_outcome

lemma Sleeps.outcome (h : Sleeps r es result) :
    Outcome r (published r.conduct.console es) result := by
  cases h with
  | rested | stopped => exact resume_outcome
  | pauses _ _ passed => exact paused_outcome passed

/-- A turn comes to one of its outcomes, whatever is replied during it.

**Proof sketch.** By the ways in which a turn goes. What is published in it besides the line that is
taken up and the end of the run is nothing. -/
theorem outcome_of_ends (h : (turn site r).Ends es result) :
    Outcome r (published r.conduct.console es) result := by
  have hclose (event : Event) (state : ProgramState) :
      published r.conduct.console [reported event, stated r.conduct.console state] = [state] :=
    published_close ..
  cases goes_of_ends h with
  | announces _ hlog =>
    rw [published_eq_nil _ (logAll_silent _) hlog]
    exact resume_outcome
  | interrupted =>
    rw [← List.singleton_append, published_append, hclose]
    exact .interrupts
  | completed _ hl =>
    rw [← List.singleton_append, published_append, hclose]
    exact .completes hl
  | @refused l _ _ _ hl hp =>
    rw [published_append, published_takingUp, closing, hclose]
    exact .refuses hl hp
  | @failed l _ _ _ es₁ es₂ _ _ hl hp hnotes hdeed =>
    rw [published_append, published_append, published_append, published_takingUp, closing, hclose,
      published_eq_nil _ (logAll_silent _) hnotes, published_eq_nil _ (perform_silent _ _ _) hdeed]
    exact .fails hl hp (perform_offScript _ _ _ _ _ hdeed)
  | @begun l _ _ phase es₁ es₂ _ _ hl hp hnotes hdeed =>
    rw [published_append, published_append, published_takingUp,
      published_eq_nil _ (logAll_silent _) hnotes, published_eq_nil _ (perform_silent _ _ _) hdeed]
    exact .begins phase hl hp
  | slept _ hsleeps => exact hsleeps.outcome
  | failedWaiting _ hgoing =>
    rw [published_append, published_eq_nil _ (underWay_silent _) hgoing, closing, hclose]
    exact .failsWaiting (underWay_offScript _ _ _ hgoing)
  | settled _ hgoing =>
    rw [published_eq_nil _ (underWay_silent _) hgoing]
    exact resume_outcome
  | paused passed _ hgoing =>
    rw [published_append, published_eq_nil _ (underWay_silent _) hgoing]
    exact paused_outcome passed

/-- What a turn may publish, finished or not. -/
def MayPublish (r : ProgramRun) (state : ProgramState) : Prop :=
  (∃ l rest, r.lines = l :: rest ∧ state = .running l.number) ∨
    (r.lines = [] ∧ state = .complete) ∨ state = .interrupted ∨ state = .failed

/-- A turn asks to publish nothing else. -/
lemma turn_publishing : (turn site r).AsksOnly (Publishing (MayPublish r)) := by
  have silent {β : Type} {p : Working β} (h : p.AsksOnly Silent) :
      p.AsksOnly (Publishing (MayPublish r)) := h.mono (Silent.publishing _)
  have report {state : ProgramState} {event : Event} {a : Turn ProgramRun Ending}
      {console : Nat} (h : MayPublish r state) :
      (do log event; publish console state; pure a : Working _).AsksOnly
        (Publishing (MayPublish r)) :=
    (silent (log_silent event)).bind fun _ => AsksOnly.bind (asksOnly_request.2 h) fun _ => trivial
  have hint : (r.interrupted).AsksOnly (Publishing (MayPublish r)) :=
    report (.inr (.inr (.inl rfl)))
  have habort (r' : ProgramRun) (fault : Fault) :
      (r'.abort fault).AsksOnly (Publishing (MayPublish r)) := report (.inr (.inr (.inr rfl)))
  have hpause (span : Duration) : (r.pauseFor span).AsksOnly (Publishing (MayPublish r)) :=
    (silent (silent_of_plain (pause_plain _ _))).bind fun passed => by cases passed <;> trivial
  cases hphase : r.phase with
  | opening announcements =>
    rw [turn_of_opening site hphase]
    exact (silent (logAll_silent _)).bind fun _ => trivial
  | between =>
    cases hl : r.lines with
    | nil =>
      rw [turn_of_nil site hphase hl]
      refine (silent (fired_silent _)).bind fun isFired => ?_
      cases isFired with
      | true => exact hint
      | false => exact report (.inr (.inl ⟨hl, rfl⟩))
    | cons l rest =>
      rw [turn_of_cons site hphase hl]
      refine (silent (fired_silent _)).bind fun isFired => ?_
      cases isFired with
      | true => exact hint
      | false =>
        refine AsksOnly.bind (asksOnly_request.2 (.inl ⟨l, rest, hl, rfl⟩)) fun _ => ?_
        refine (silent (log_silent _)).bind fun _ => ?_
        cases hp : l.plan r.config with
        | error fault => simpa only [hp] using habort _ _
        | ok step =>
          refine (silent (logAll_silent _)).bind fun _ => ?_
          refine (silent (perform_silent _ _ _)).bind fun phase? => ?_
          cases phase? with
          | error fault => exact habort _ _
          | ok phase => trivial
  | sleeping until? =>
    exact (sleeping_yields (Q := fun _ => True) hphase trivial trivial (fun _ => trivial) trivial
      trivial).asksOnly
  | settling what =>
    rw [turn_of_settling site hphase]
    refine (silent (underWay_silent what)).bind fun going => ?_
    match going with
    | .error fault => exact habort _ _
    | .ok false => trivial
    | .ok true => exact hpause _

/-! ## Whole runs -/

/-- A run between two turns is at a place of the check of a script: the lines it has begun have no
complaint, and it has got to the settings and the sum they leave behind. -/
structure Follows (s : Script) (first : List Line) (r : ProgramRun) (states : List ProgramState) :
    Prop where
  /-- The lines that are left come after those that were begun. -/
  program_eq : s.program = first ++ r.lines
  /-- A check has got to the same settings and the same sum there. -/
  accumulated : accumulate .empty 0 first = .ok (r.config, r.sum)
  /-- Nothing but the lines was published. -/
  states_eq : states = first.map fun l => .running l.number

variable {s : Script} {first : List Line} {states : List ProgramState} {conduct : Conduct}
  {token : Nat} {rest : Working (Turn ProgramRun Ending)}

lemma follows_start : Follows s [] (start conduct token s) [] := ⟨rfl, rfl, rfl⟩

/-- A turn that does not end the run leaves it at a place of the check. -/
lemma Follows.outcome {r' : ProgramRun} {more : List ProgramState} (hf : Follows s first r states)
    (h : Outcome r more (.again r')) :
    r'.conduct = r.conduct ∧ ∃ first', Follows s first' r' (states ++ more) := by
  cases h with
  | waits phase => exact ⟨rfl, first, hf.program_eq, hf.accumulated, by simp [hf.states_eq]⟩
  | begins phase hl hp =>
    refine ⟨rfl, first ++ [_], ?_, accumulate_concat hf.accumulated hp, ?_⟩
    · rw [hf.program_eq, hl, List.append_assoc]
      rfl
    · simp [hf.states_eq]

/-- Between turns a run is at a place of the check.

**Proof sketch.** Induction on the turns. The first one begins at the first line; a turn that is
not the last has one of two outcomes, and either keeps the run at a place of the check. -/
theorem follows_of_rounds {turns : List (ProgramRun × List (Exchange WorkSurroundings))}
    (h : Rounds (turn site) (start conduct token s) turns (.again r)) :
    r.conduct = conduct ∧
      ∃ first, Follows s first r (published conduct.console (exchanges turns)) := by
  generalize hr : Turn.again r = result at h
  induction h generalizing r with
  | start =>
    cases hr
    exact ⟨rfl, [], follows_start⟩
  | next h ht ih =>
    subst hr
    obtain ⟨rfl, first, hf⟩ := ih rfl
    simpa using hf.outcome (outcome_of_ends ht)

/-- A run in the middle of a turn has begun that turn at a place of the check. -/
lemma exists_follows_of_underway (h : Underway (turn site) (start conduct token s) es rest) :
    ∃ r first es₀ es', r.conduct = conduct ∧ Follows s first r (published conduct.console es₀) ∧
      es = es₀ ++ es' ∧ (turn site r).Leads es' rest := by
  obtain ⟨turns, r, es', hturns, hlead, rfl⟩ := h
  obtain ⟨hc, first, hf⟩ := follows_of_rounds hturns
  exact ⟨r, first, exchanges turns, es', hc, hf, rfl, hlead⟩

/-- The lines before the one a check refuses are all that a run can have begun between turns, and
that line is among those that are left. -/
lemma Follows.exists_lines {fault : LineFault} (hf : Follows s first r states)
    (hs : estimate s = .error fault) :
    ∃ ahead l rest, r.lines = ahead ++ l :: rest ∧ l.number = fault.line ∧
      ∀ k ∈ first ++ ahead, k.number < l.number := by
  obtain ⟨first₀, l, rest, c, sum, hp, hacc, hl⟩ := exists_of_rehearse_error hs
  have hsorted := programFrom_pairwise 1 s.lines
  change s.program.Pairwise _ at hsorted
  have hbefore : ∀ k ∈ first₀, k.number < l.number := by
    rw [hp] at hsorted
    exact fun k hk => (List.pairwise_append.1 hsorted).2.2 k hk l List.mem_cons_self
  rcases List.append_eq_append_iff.1 (hf.program_eq.symm.trans hp) with
    ⟨ahead, rfl, hlines⟩ | ⟨beyond, rfl, hlines⟩
  · exact ⟨ahead, l, rest, hlines, (Line.line_of_plan_error hl).symm, hbefore⟩
  · cases beyond with
    | nil =>
      refine ⟨[], l, rest, by simpa using hlines.symm, (Line.line_of_plan_error hl).symm, ?_⟩
      simpa using hbefore
    | cons k beyond =>
      -- the run is past the refused line, but it could not plan it
      obtain ⟨rfl, -⟩ : l = k ∧ rest = beyond ++ r.lines := by simpa using hlines
      have hok := rehearse_of_accumulate hf.accumulated
      rw [rehearse_of_refused hacc hl] at hok
      cases hok

/-- What a run may have published at any moment if its script is refused. -/
lemma le_of_refused {fault : LineFault} (hs : estimate s = .error fault)
    (h : Underway (turn site) (start conduct token s) es rest) :
    .complete ∉ published conduct.console es ∧ ∀ n ∈ begun conduct.console es, n ≤ fault.line := by
  obtain ⟨r, first, es₀, es', rfl, hf, rfl, hlead⟩ := exists_follows_of_underway h
  obtain ⟨ahead, l, rest, hlines, hl, hbefore⟩ := hf.exists_lines hs
  have hmay := of_mem_published r.conduct.console turn_publishing hlead
  simp only [mem_begun, published_append, hf.states_eq, List.mem_append]
  refine ⟨?_, ?_⟩
  · rintro (hc | hc)
    · simp at hc
    · rcases hmay _ hc with ⟨_, _, _, h⟩ | ⟨hnil, _⟩ | h | h
      · cases h
      · simp [hlines] at hnil
      · cases h
      · cases h
  · rintro n (hn | hn)
    · obtain ⟨k, hk, hkn⟩ := List.mem_map.1 hn
      cases hkn
      have := hbefore k (List.mem_append_left _ hk)
      omega
    · rcases hmay _ hn with ⟨k, lines, hk, h⟩ | ⟨_, h⟩ | h | h <;> cases h
      cases ahead with
      | nil =>
        obtain ⟨rfl, -⟩ : l = k ∧ rest = lines := by simpa [hlines] using hk
        omega
      | cons k' ahead =>
        obtain ⟨rfl, -⟩ : k' = k ∧ ahead ++ l :: rest = lines := by simpa [hlines] using hk
        have := hbefore k' (by simp)
        omega

/-- A run returns a result after the turns so far. -/
def Returns (site : Site I) (conduct : Conduct) (token : Nat) (s : Script)
    (es : List (Exchange WorkSurroundings)) (result : Except Fault Float) : Prop :=
  Underway (turn site) (start conduct token s) es (done (.over (.program result)))

/-- How a run returns: by the outcome of its last turn, begun at a place of the check. -/
lemma exists_outcome_of_returns {result : Except Fault Float}
    (h : Returns site conduct token s es result) :
    ∃ r first more, Follows s first r (first.map fun l => .running l.number) ∧
      published conduct.console es = (first.map fun l => .running l.number) ++ more ∧
      Outcome r more (.over (.program result)) := by
  obtain ⟨r, first, es₀, es', rfl, hf, rfl, hlead⟩ := exists_follows_of_underway h
  refine ⟨r, first, published r.conduct.console es', hf.states_eq ▸ hf, ?_, outcome_of_ends hlead⟩
  rw [published_append, hf.states_eq]

/-- A complaint that a run returns is the one a check ends with. -/
lemma estimate_of_returns_line {fault : LineFault}
    (h : Returns site conduct token s es (.error (.line fault))) : estimate s = .error fault := by
  obtain ⟨r, first, more, hf, -, hout⟩ := exists_outcome_of_returns h
  cases hout with
  | refuses hl hp =>
    unfold estimate
    rw [hf.program_eq, hl]
    exact rehearse_of_refused hf.accumulated hp
  | fails _ _ hf => cases hf
  | failsWaiting hf => cases hf

/-- A run that gets to the end of its script returns what a check ends with. -/
lemma estimate_of_returns_complete {result : Except Fault Float}
    (h : Returns site conduct token s es result)
    (hc : (published conduct.console es).getLast? = some .complete) :
    ∃ seconds, estimate s = .ok seconds ∧ result = .ok seconds := by
  obtain ⟨r, first, more, hf, hpub, hout⟩ := exists_outcome_of_returns h
  rw [hpub] at hc
  cases hout with
  | completes hl =>
    refine ⟨r.sum, ?_, rfl⟩
    unfold estimate
    rw [hf.program_eq, hl, List.append_nil]
    exact rehearse_of_accumulate hf.accumulated
  | _ => simp at hc

/-- A run that is cancelled returns the sum of what a check charges for the lines it began. -/
lemma charges_of_returns_interrupted {result : Except Fault Float}
    (h : Returns site conduct token s es result)
    (hc : (published conduct.console es).getLast? = some .interrupted) :
    ∃ count ≤ (charges .empty s.program).length,
      begun conduct.console es = (s.program.take count).map Line.number ∧
      result = .ok (((charges .empty s.program).take count).foldl (· + ·) 0) := by
  obtain ⟨r, first, more, hf, hpub, hout⟩ := exists_outcome_of_returns h
  rw [hpub] at hc
  cases hout with
  | interrupts =>
    obtain ⟨hlen, hsum, happ⟩ := charges_of_accumulate r.lines hf.accumulated
    refine ⟨first.length, ?_, ?_, ?_⟩
    · simp [hf.program_eq, happ, hlen]
    · simp [begun, hpub, hf.program_eq, List.filterMap_map, begins, Function.comp_def]
    · rw [hf.program_eq, happ, ← hlen, List.take_left, ← hsum]
  | _ => simp at hc

/-- A check ends with the estimate of the script, whatever is replied during it. -/
lemma checkScript_ends {checked : Except Fault Float} {console : Nat}
    (h : (checkScript console s).run.Ends es checked) : checked = (estimate s).mapError .line := by
  unfold checkScript at h
  obtain ⟨_, _, previous, rfl, -, h⟩ := ends_run_lift_bind_iff.1 h
  obtain ⟨_, _, _, rfl, -, h⟩ := ends_run_lift_bind_iff.1 h
  obtain ⟨_, _, _, rfl, -, h⟩ := ends_run_lift_bind_iff.1 h
  obtain ⟨_, _, _, rfl, -, h⟩ := ends_run_lift_bind_iff.1 h
  unfold estimate
  cases hr : (rehearse .empty 0 s.program).2 with
  | ok seconds =>
    rw [hr] at h
    obtain ⟨_, _, _, rfl, -, h⟩ := ends_run_lift_bind_iff.1 h
    exact (ends_run_pure_iff.1 h).2
  | error fault =>
    rw [hr] at h
    obtain ⟨_, _, _, rfl, -, h⟩ := ends_run_lift_bind_iff.1 h
    exact (ends_run_throw_iff.1 h).2

/-- A run keeps to what a check of the same script ends with, whatever is replied to either: by the
site, the clock, the slot, the token or the files.

If the check ends with a duration, the run returns no complaint about a line, and returns that
duration if it gets to the end. If the check ends with a complaint, the run never gets to the end,
begins no line after the one complained about, and returns no other complaint. If the run is
cancelled, it returns the sum, from the left, of what the check charges for the lines it began. -/
theorem agrees_with_check {J : Interface} (site : Site J) (conduct : Conduct) (token console : Nat)
    (s : Script) {ds : List (Exchange WorkSurroundings)} {checked : Except Fault Float}
    (hd : (checkScript console s).run.Ends ds checked) :
    (∀ seconds, checked = .ok seconds →
      ∀ es result, Returns site conduct token s es result →
        (∀ fault, result ≠ .error (.line fault)) ∧
        ((published conduct.console es).getLast? = some .complete → result = .ok seconds)) ∧
    (∀ error, checked = .error error → ∃ fault, error = .line fault ∧
      (∀ es rest, Underway (turn site) (start conduct token s) es rest →
        .complete ∉ published conduct.console es ∧
        ∀ n ∈ begun conduct.console es, n ≤ fault.line) ∧
      ∀ es fault', Returns site conduct token s es (.error (.line fault')) → fault' = fault) ∧
    (∀ es result, Returns site conduct token s es result →
      (published conduct.console es).getLast? = some .interrupted →
      ∃ count ≤ (charges .empty s.program).length,
        begun conduct.console es = (s.program.take count).map Line.number ∧
        result = .ok (((charges .empty s.program).take count).foldl (· + ·) 0)) := by
  obtain rfl := checkScript_ends hd
  refine ⟨fun seconds hok es result hr => ?_, fun error herror => ?_,
    fun es result hr => charges_of_returns_interrupted hr⟩
  · refine ⟨?_, fun hc => ?_⟩
    · rintro fault rfl
      rw [estimate_of_returns_line hr] at hok
      cases hok
    · obtain ⟨seconds', hs, rfl⟩ := estimate_of_returns_complete hr hc
      rw [hs] at hok
      cases hok
      rfl
  · cases hs : estimate s with
    | ok seconds =>
      rw [hs] at herror
      cases herror
    | error fault =>
      rw [hs] at herror
      cases herror
      refine ⟨fault, rfl, fun es rest => le_of_refused hs, fun es fault' hr => ?_⟩
      have := estimate_of_returns_line hr
      rw [hs] at this
      cases this
      rfl

/-- A script whose second line is no command. -/
def haltScript : Script := ⟨["stop", "halt"]⟩

/-- What a check says of its second line. -/
def haltFault : LineFault := ⟨2, .unknownCommand "halt", .list⟩

lemma checkScript_ends_halt :
    (checkScript 0 haltScript).run.Ends
      [⟨.rig (.published 0), ProgramState.idle⟩, stated 0 .checking, reported .rule,
        reported (.scriptLine "stop"), reported (.scriptLine "halt"), reported .rule,
        reported (.processing 1 "stop" []), reported (.processing 2 "halt" []),
        reported (.programAborted 2 (.line haltFault)), stated 0 .failed]
      (.error (.line haltFault)) :=
  .step (.step (.step (.step (.step (.step (.step (.step (.step (.step (.refl _))))))))))

lemma exists_returns_halt :
    ∃ es, Returns site conduct token haltScript es (.error (.line haltFault)) := by
  have opening : Rounds (turn site) (start conduct token haltScript)
      [(_, [reported .rule, reported (.scriptLine "stop"), reported (.scriptLine "halt"),
        reported .rule])]
      (.again ⟨conduct, token, .between, 0, haltScript.program, .empty, 0⟩) :=
    .next .start (.step (.step (.step (.step (.refl _)))))
  have first : Rounds (turn site) (start conduct token haltScript)
      (_ ++ [(_, [⟨.rig (.fired token), false⟩, stated conduct.console (.running 1),
        reported (.processing 1 "stop" []), ⟨.rig (.slot conduct.console), none⟩,
        ⟨.rig (.setSlot conduct.console none), ()⟩, reported (.cannotStop 1 .notStarted)])])
      (.again ⟨conduct, token, .between, 1, [⟨2, "halt", []⟩], .empty, 0 + 0⟩) :=
    .next opening (.step (.step (.step (.step (.step (.step (.refl _)))))))
  exact ⟨_, _, _, [⟨.rig (.fired token), false⟩, stated conduct.console (.running 2),
    reported (.processing 2 "halt" []), reported (.programAborted 2 (.line haltFault)),
    stated conduct.console .failed], first, .step (.step (.step (.step (.step (.refl _))))), rfl⟩

/-- The check of a script refuses its second line; so does a run, and no run goes beyond it. -/
theorem agrees_with_check_halt :
    ∃ ds, (checkScript 0 haltScript).run.Ends ds (.error (.line haltFault)) ∧
      ∀ (site : Site RigSurroundings) (conduct : Conduct) (token : Nat),
        (∃ es, Returns site conduct token haltScript es (.error (.line haltFault))) ∧
        ∀ es rest, Underway (turn site) (start conduct token haltScript) es rest →
          .complete ∉ published conduct.console es ∧ ∀ n ∈ begun conduct.console es, n ≤ 2 := by
  refine ⟨_, checkScript_ends_halt, fun site conduct token => ⟨exists_returns_halt, ?_⟩⟩
  obtain ⟨fault, hf, h, -⟩ :=
    (agrees_with_check site conduct token 0 _ checkScript_ends_halt).2.1 _ rfl
  cases hf
  exact h

end ProgramRun

end CryoRig.Control
