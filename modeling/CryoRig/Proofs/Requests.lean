import CryoRig.Control.Program
import CryoRig.Proofs.Paths
import CryoRig.Proofs.SamplingTurns
import CryoRig.Site.Bench

/-!
# Work that keeps to itself

Most of what programs and acquisitions ask for concerns nobody else: what the site does, the clock,
files, the journal. A few requests touch what all parties share, and it is on those that the
statements about programs and sessions turn. Here is what asks for nothing of the kind.

## Main definitions

* `CryoRig.Control.Request.Plain`: a request that touches nothing that is shared.
* `CryoRig.Control.jobFor`: the job that runs a protocol.

## Main results

* `CryoRig.Control.prepareJob_gives`: so is all that prepares an acquisition, and what comes of it.
* `CryoRig.Control.yields_carryOut`: what a site adds to work.
-/

namespace CryoRig.Control

open Process

/-- A request that touches nothing that is shared. It may read a token. -/
def Request.Plain : Request → Prop
  | .device _ | .bench _ | .clock | .calendar | .fired _ | .pause .. | .present .. | .create _
  | .append .. => True
  | _ => False

/-- A request of work that asks the rig only for what has a property. -/
def WorkRequest.Asks (P : Request → Prop) : WorkRequest → Prop
  | .rig r => P r
  | .act _ => True

/-- A request that leaves the bus alone. -/
def Request.OffBus : Request → Prop
  | .device .seize | .device .release | .device (.write ..) | .device (.query ..) => False
  | _ => True

/-- A request of work that touches nothing that is shared. Only actions use the bus. -/
def WorkRequest.Plain : WorkRequest → Prop
  | .act _ | .rig (.device (.sleep _)) | .rig (.device (.log _)) => True
  | .rig (.device _) => False
  | .rig r => r.Plain

lemma WorkRequest.Plain.asks {q : WorkRequest} (h : q.Plain) :
    q.Asks Request.Plain ∧ q.Asks Request.OffBus := by
  cases q with
  | act => exact ⟨trivial, trivial⟩
  | rig r =>
    cases r with
    | device r => cases r <;> first | exact ⟨trivial, trivial⟩ | exact h.elim
    | _ => exact ⟨h, trivial⟩

/-- A request that tends to an instrument: an action that is no reading, or a report that is not
about a step. -/
def WorkRequest.Tends : WorkRequest → Prop
  | .act (.readChannels _) => False
  | .act _ => True
  | .rig (.device (.log (.stepClosed ..))) | .rig (.device (.log (.stepEntered ..))) => False
  | .rig (.device (.log _)) => True
  | _ => False

/-- A request that looks after a lock-in: its status, its range, or a report that is not about a
step. -/
def WorkRequest.Checks : WorkRequest → Prop
  | .act (.lockinStatus _) | .act (.rangeUp _) => True
  | .rig r => WorkRequest.Tends (.rig r)
  | _ => False

lemma WorkRequest.Checks.tends (r : WorkRequest) (h : r.Checks) : r.Tends := by
  unfold Checks at h
  split at h
  · trivial
  · trivial
  · exact h
  · exact h.elim

lemma WorkRequest.Tends.plain (r : WorkRequest) (h : r.Tends) : r.Plain := by
  unfold Tends at h
  split at h <;> trivial

variable {I : Interface} {site : Site I}

lemma log_plain (event : Event) : (log event).AsksOnly WorkRequest.Plain :=
  asksOnly_request.2 trivial

lemma logAll_plain (events : List Event) : (logAll events).AsksOnly WorkRequest.Plain := by
  induction events with
  | nil => trivial
  | cons event rest ih => exact (log_plain event).bind fun _ => ih

lemma act_plain (a : Action) : (act a).AsksOnly WorkRequest.Plain := asksOnly_request.2 trivial

lemma actOrFail_plain (a : Action) : (actOrFail a).run.AsksOnly WorkRequest.Plain := by
  refine (act_plain a).bind fun outcome => ?_
  cases outcome <;> trivial

lemma pause_plain (token : Nat) (span : Duration) : (pause token span).AsksOnly WorkRequest.Plain :=
  asksOnly_request.2 trivial

lemma fired_plain (token : Nat) : (fired token).AsksOnly WorkRequest.Plain :=
  asksOnly_request.2 trivial

lemma clock_plain : clock.AsksOnly WorkRequest.Plain := asksOnly_request.2 trivial

lemma now_plain : now.AsksOnly WorkRequest.Plain := clock_plain.bind fun _ => trivial

lemma appendRows_plain (file : Nat) (rows : List (List String)) :
    (appendRows file rows).run.AsksOnly WorkRequest.Plain := by
  induction rows with
  | nil => trivial
  | cons fields rest ih =>
    refine AsksOnly.run_bind (asksOnly_request.2 trivial).run_lift fun written => ?_
    cases written with
    | ok => exact ih
    | error => trivial

lemma openTable_plain (path : String) (columns : List Channel) :
    (openTable path columns).run.AsksOnly WorkRequest.Plain := by
  refine AsksOnly.run_bind (asksOnly_request.2 trivial).run_lift fun made => ?_
  cases made with
  | error => trivial
  | ok file =>
    refine (log_plain _).run_lift.run_bind fun _ => ?_
    exact (appendRows_plain _ _).run_bind fun _ => trivial

/-- Sampling before its first tick. -/
def Ticking.fresh (site : Site I) (tuning : Sampling.Tuning) (token : Nat) (mode : Mode)
    (samples : Nat) (aggregates : Option Nat) (sweep : Option (Sampling.Sweep Float)) : Ticking where
  tuning := tuning
  mode := mode
  lockins := site.lockins
  token := token
  samples := samples
  aggregates := aggregates
  overload := .start site.lockins tuning.overloadThreshold tuning.autorange
  ledger := .start (site.layout mode).length sweep
  attempted := 0
  origin := none

/-- The job that runs a protocol, on files that were made for it. -/
def jobFor (site : Site I) (tuning : Sampling.Tuning) (token samples aggregates : Nat) :
    Sampling.Protocol → Job
  | .differential plan => .supervision ⟨plan, token, samples⟩
  | .stepped sweep =>
    .ticking (.fresh site tuning token .stepped samples (some aggregates) (some sweep))
  | .continuous => .ticking (.fresh site tuning token .continuous samples none none)
  | .autoscan => .ticking (.fresh site tuning token .autoscan samples none none)

/-- All that prepares an acquisition keeps to itself, and what comes of it is the job that runs the
protocol. -/
lemma prepareJob_gives (tuning : Sampling.Tuning) (paths : Sampling.DataPaths) (token : Nat)
    (protocol : Sampling.Protocol) :
    (prepareJob site tuning paths token protocol).run.Yields WorkRequest.Plain fun result =>
      ∀ job, result = .ok job →
        ∃ samples aggregates, job = jobFor site tuning token samples aggregates protocol := by
  have herr {P : Job → Prop} (fault : Fault) :
      ∀ job, (.error fault : Except Fault Job) = .ok job → P job := by
    rintro job ⟨⟩
  have hready (mode : Mode) (samples : Nat) (aggregates : Option Nat)
      (sweep : Option (Sampling.Sweep Float)) :
      (prepareJob.ticking site tuning token mode samples aggregates sweep).run.Yields
        WorkRequest.Plain fun result => ∀ job, result = .ok job →
          job = .ticking (.fresh site tuning token mode samples aggregates sweep) := by
    refine (actOrFail_plain _).run_bind_yields herr fun _ => ?_
    rintro job ⟨⟩
    rfl
  cases protocol with
  | differential plan =>
    refine (openTable_plain _ _).run_bind_yields herr fun file => ?_
    refine (actOrFail_plain _).run_bind_yields herr fun _ => ?_
    refine (actOrFail_plain _).run_bind_yields herr fun _ => ?_
    rintro job ⟨⟩
    exact ⟨file, 0, rfl⟩
  | stepped sweep =>
    refine (openTable_plain _ _).run_bind_yields herr fun samples => ?_
    refine (openTable_plain _ _).run_bind_yields herr fun aggregates => ?_
    exact (hready _ _ _ _).mono (fun _ => id) fun _ h job hjob => ⟨samples, aggregates, h job hjob⟩
  | continuous | autoscan =>
    refine (openTable_plain _ _).run_bind_yields herr fun samples => ?_
    exact (hready _ _ _ _).mono (fun _ => id) fun _ h job hjob => ⟨samples, 0, h job hjob⟩

/-- A job that samples until a token is fired. -/
def Job.Samples (token : Nat) : Job → Prop
  | .program _ => False
  | .ticking state => state.token = token
  | .supervision state => state.token = token

lemma jobFor_samples (tuning : Sampling.Tuning) (token samples aggregates : Nat)
    (protocol : Sampling.Protocol) :
    (jobFor site tuning token samples aggregates protocol).Samples token := by
  cases protocol <;> rfl

/-- The job that is prepared is one that the token stops. -/
lemma prepareJob_yields (tuning : Sampling.Tuning) (paths : Sampling.DataPaths) (token : Nat)
    (protocol : Sampling.Protocol) :
    (prepareJob site tuning paths token protocol).run.Yields WorkRequest.Plain fun result =>
      ∀ job, result = .ok job → job.Samples token := by
  refine (prepareJob_gives tuning paths token protocol).mono (fun _ => id) fun _ h job hjob => ?_
  obtain ⟨samples, aggregates, rfl⟩ := h job hjob
  exact jobFor_samples tuning token samples aggregates protocol

/-! ## The turns of acquisitions -/

/-- How a turn ends that may be followed by another one under the same token. -/
def KeepsToken {σ : Type} (token : σ → Nat) (s : σ) (t : Turn σ Ending) : Prop :=
  ∀ s', t = .again s' → token s' = token s

namespace Ticking

variable {t : Ticking}

lemma checkLockin_checks (m : Sampling.OverloadMonitor) (index : Nat) :
    (checkLockin m index).AsksOnly WorkRequest.Checks := by
  have hlog {β : Type} {event : Event} (h : WorkRequest.Checks (.rig (.device (.log event))))
      (b : β) : (do log event; pure b : Working β).AsksOnly WorkRequest.Checks :=
    AsksOnly.bind (asksOnly_request.2 h) fun _ => trivial
  have hmaybe {β : Type} {event : Event} {w : Working β} {c : Bool}
      (h : WorkRequest.Checks (.rig (.device (.log event)))) (hw : w.AsksOnly WorkRequest.Checks) :
      (if c = true then do log event; w else w).AsksOnly WorkRequest.Checks := by
    cases c with
    | true => exact AsksOnly.bind (asksOnly_request.2 h) fun _ => hw
    | false => exact hw
  unfold checkLockin
  refine AsksOnly.bind (asksOnly_request.2 trivial) fun outcome => ?_
  rcases outcome with fault | (status : LockinStatus)
  · trivial
  refine hmaybe trivial ?_
  obtain ⟨verdict, m'⟩ := m.record index status
  cases verdict with
  | rangeUp =>
    refine AsksOnly.bind (asksOnly_request.2 trivial) fun _ => ?_
    refine AsksOnly.bind (asksOnly_request.2 trivial) fun raised => ?_
    rcases raised with fault | (range : Option Nat)
    · trivial
    · cases range <;> exact hlog (by trivial) _
  | report => exact hlog (by trivial) _
  | clear | counting => trivial

/-- Looking at lock-ins that may be overloaded is no more than looking after them. -/
lemma checkLockins_checks (m : Sampling.OverloadMonitor) (indices : List Nat) :
    (checkLockins m indices).AsksOnly WorkRequest.Checks := by
  induction indices generalizing m with
  | nil => trivial
  | cons index rest ih =>
    refine (checkLockin_checks m index).bind fun checked => ?_
    rcases checked with ⟨_ | ⟨⟩, m'⟩
    · trivial
    · exact ih m'

lemma checkLockins_tends (m : Sampling.OverloadMonitor) (indices : List Nat) :
    (checkLockins m indices).AsksOnly WorkRequest.Tends :=
  (checkLockins_checks m indices).mono WorkRequest.Checks.tends

lemma setAmplitudes_tends (volts : Float) (indices : List Nat) :
    (setAmplitudes volts indices).AsksOnly WorkRequest.Tends := by
  induction indices with
  | nil => trivial
  | cons index rest ih =>
    refine AsksOnly.bind (asksOnly_request.2 trivial) fun outcome => ?_
    cases outcome with
    | ok => exact ih
    | error => trivial

/-- So is putting a target to the device. -/
lemma applyStep_tends (t : Ticking) (parameter : Parameter) (value : Float) :
    (t.applyStep parameter value).AsksOnly WorkRequest.Tends := by
  cases parameter with
  | allAmplitudes => exact setAmplitudes_tends _ _
  | _ => exact asksOnly_request.2 trivial

lemma acquire_plain : t.acquire.AsksOnly WorkRequest.Plain :=
  acquire_asksOnly (fun _ _ => (checkLockins_tends _ _).mono WorkRequest.Tends.plain) trivial

lemma commit_plain (x : Sample) : (t.commit x).AsksOnly WorkRequest.Plain := by
  refine AsksOnly.bind (asksOnly_request.2 trivial) fun written => ?_
  cases written with
  | ok => exact asksOnly_request.2 trivial
  | error => exact (log_plain _).bind fun _ => asksOnly_request.2 trivial

lemma writeStep_plain (parameter : Parameter) (target : Float)
    (aggregates : List Sampling.Aggregate) :
    (t.writeStep parameter target aggregates).AsksOnly WorkRequest.Plain := by
  unfold writeStep
  cases t.aggregates with
  | none => exact log_plain _
  | some file =>
    refine AsksOnly.bind (asksOnly_request.2 trivial) fun written => ?_
    cases written with
    | ok => exact log_plain _
    | error => exact (log_plain _).bind fun _ => log_plain _

/-- The same acquisition, but for what it counts and collects. -/
def Fixed (t t' : Ticking) : Prop :=
  t' = { t with
    overload := t'.overload
    ledger := t'.ledger
    attempted := t'.attempted
    origin := t'.origin }

lemma Fixed.trans {t' t'' : Ticking} (h : t.Fixed t') (h' : t'.Fixed t'') : t.Fixed t'' := by
  unfold Fixed at h h' ⊢
  rw [h] at h'
  exact h'

lemma Fixed.token {t' : Ticking} (h : t.Fixed t') : t'.token = t.token := by
  rw [h]

lemma Fixed.mode {t' : Ticking} (h : t.Fixed t') : t'.mode = t.mode := by
  rw [h]

lemma fixed_taking (x : Sample) (overload : Sampling.OverloadMonitor) :
    t.Fixed (t.taking x overload) := rfl

lemma enterStep_yields (parameter : Parameter) (target : Float) :
    (t.enterStep parameter target).Yields WorkRequest.Plain t.Fixed := by
  refine ((applyStep_tends _ _ _).mono WorkRequest.Tends.plain).bind_yields fun outcome => ?_
  cases outcome with
  | ok => exact (log_plain _).bind_yields fun _ => rfl
  | error => exact (log_plain _).bind_yields fun _ => rfl

lemma followUp_yields (parameter : Parameter) (verdict : Sampling.Verdict) :
    (t.followUp parameter verdict).Yields WorkRequest.Plain t.Fixed :=
  followUp_yields_of (fun _ _ => writeStep_plain _ _ _) (fun _ => enterStep_yields _ _) rfl

lemma tick_yields (now : Float) :
    (t.tick now).Yields WorkRequest.Plain fun result => t.Fixed result.2 := by
  rw [tick_eq]
  refine acquire_plain.bind_yields fun read => ?_
  rcases read with ⟨fault | values, overload⟩
  · exact (log_plain _).bind_yields fun _ => rfl
  refine AsksOnly.bind_yields ?_ fun _ => ?_
  · unfold retain
    split
    · exact commit_plain _
    · trivial
  · unfold afterVerdict
    split
    · exact rfl
    · exact (followUp_yields _ _).bind fun t₂ h => (fixed_taking _ overload).trans h

/-- A turn of sampling keeps to itself, and is followed by one of the same acquisition. -/
lemma turn_fixed :
    t.turn.Yields WorkRequest.Plain fun result => ∀ t', result = .again t' → t.Fixed t' := by
  refine (fired_plain _).bind_yields fun isFired => ?_
  cases isFired with
  | true => rintro _ ⟨⟩
  | false =>
    refine clock_plain.bind_yields fun ms => (tick_yields _).bind fun result ht => ?_
    obtain ⟨finished, t₁⟩ := result
    cases finished with
    | true => exact (log_plain _).bind_yields fun _ => by rintro _ ⟨⟩
    | false =>
      refine (pause_plain _ _).bind_yields fun passed => ?_
      cases passed with
      | true =>
        rintro _ ⟨⟩
        exact Fixed.trans ht rfl
      | false => rintro _ ⟨⟩

lemma turn_yields : t.turn.Yields WorkRequest.Plain (KeepsToken Ticking.token t) :=
  turn_fixed.mono (fun _ => id) fun _ h t' ht => (h t' ht).token

end Ticking

namespace Supervision

variable {s : Supervision}

lemma writePoints_plain (index : Nat) (points : List DeltaPoint) :
    (s.writePoints index points).AsksOnly WorkRequest.Plain := by
  induction points generalizing index with
  | nil => trivial
  | cons point rest ih =>
    refine AsksOnly.bind (asksOnly_request.2 trivial) fun written => ?_
    cases written with
    | ok => exact ih _
    | error => trivial

lemma exportTrace_plain : s.exportTrace.AsksOnly WorkRequest.Plain := by
  refine (act_plain _).bind fun outcome => ?_
  rcases outcome with fault | (trace : DeltaTrace)
  · exact log_plain _
  · refine (log_plain _).bind fun _ => (writePoints_plain _ _).bind fun written => ?_
    cases written with
    | ok => trivial
    | error => exact log_plain _

lemma finish_yields : s.finish.Yields WorkRequest.Plain (KeepsToken Supervision.token s) := by
  refine exportTrace_plain.bind_yields fun _ => (act_plain _).bind_yields fun outcome => ?_
  cases outcome with
  | ok => rintro _ ⟨⟩
  | error => exact (log_plain _).bind_yields fun _ => by rintro _ ⟨⟩

/-- A look at a differential sweep keeps to itself, and so does the next one. -/
lemma turn_yields : s.turn.Yields WorkRequest.Plain (KeepsToken Supervision.token s) := by
  refine (pause_plain _ _).bind_yields fun passed => ?_
  cases passed with
  | false => exact (log_plain _).bind_yields fun _ => finish_yields
  | true =>
    refine (act_plain _).bind_yields fun outcome => ?_
    have hagain : KeepsToken Supervision.token s (.again s) := by
      rintro _ ⟨⟩
      rfl
    rcases outcome with fault | (status : DeltaStatus)
    · exact (log_plain _).bind_yields fun _ => hagain
    · dsimp only
      split
      · exact finish_yields
      · exact hagain

end Supervision

/-! ## Sites -/

/-- The drivers and the bench of a site are all that its actions ask for. -/
def Confined (site : Site RigSurroundings) : Prop :=
  ∀ a, (site.perform a).AsksOnly Request.Plain

/-- A site whose actions are drivers' work is confined to that. -/
theorem confined_ofDriver (site : Site Instrument.Surroundings) :
    Confined (site.translate ofDriver) := by
  intro a
  change ((site.perform a).translate ofDriver).AsksOnly _
  induction site.perform a with
  | done => trivial
  | ask r next ih => exact ⟨trivial, ih⟩

/-- So is a site that leaves its actions to the bench. -/
theorem confined_ofBench (site : Site Site.BenchRequests) :
    Confined (site.translate ofBench) := by
  intro a
  change ((site.perform a).translate ofBench).AsksOnly _
  induction site.perform a with
  | done => trivial
  | ask r next ih => exact ⟨trivial, ih⟩

lemma carryOut_bind {α β : Type} (site : Site RigSurroundings) (w : Working α)
    (f : α → Working β) :
    carryOut site (w >>= f) = carryOut site w >>= fun a => carryOut site (f a) :=
  translate_bind ..

lemma carryOut_ask_bind {β : Type} (site : Site RigSurroundings) (r : Request)
    (f : r.Reply → Working β) :
    carryOut site (ask r >>= f) = .ask r fun reply => carryOut site (f reply) := rfl

/-- What a site adds to work keeps to itself. -/
lemma yields_carryOut {α : Type} {site : Site RigSurroundings} (hs : Confined site)
    {P : Request → Prop} (hP : ∀ r : Request, r.Plain → P r) {Q : α → Prop} {w : Working α}
    (h : w.Yields (WorkRequest.Asks P) Q) : (carryOut site w).Yields P Q := by
  change (w.translate (ofWork site)).Yields P Q
  induction w with
  | done a => exact h
  | ask r next ih =>
    cases r with
    | rig r => exact ⟨h.1, fun reply => ih reply (h.2 reply)⟩
    | act a =>
      exact (((hs a).mono hP).yields).bind fun reply _ => ih reply (h.2 reply)

end CryoRig.Control
