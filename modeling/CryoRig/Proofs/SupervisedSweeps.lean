import CryoRig.Proofs.DataFiles
import CryoRig.Proofs.SweepAborted

/-!
# What a supervision asks for

The supervision of a differential sweep looks at the current source again and again, until a look
shows the end of the sweep or the pause before it is cut short. Then it fetches the trace once,
writes it into its file as far as that goes, and tells the source to abort. So it is whatever the
source replies. Of what it sends the source, each look is one command, the trace takes one or two,
and the abort comes last.

## Main definitions

* `CryoRig.DeltaPlan.table`: the lines of the file of a trace.
* `CryoRig.Control.Supervision.Over`: all that a supervision has asked for when it is over.
* `CryoRig.Control.deviceCommands`: what was sent to instruments or asked of the bench.
* `CryoRig.Control.Station.sweepCommands?`: what the actions of a supervision send.
* `CryoRig.Control.Supervision.Completes`: all that a supervision has sent when it is over.

## Main results

* `CryoRig.Control.Supervision.over_of_rounds`: a supervision has gone through all of this when it
  is over, and it is looking before.
* `CryoRig.Control.Supervision.rows_of_over`: the rows that it writes.
* `CryoRig.Control.Supervision.completes_of_rounds`: the commands that it sends.
-/

namespace CryoRig

open Process

/-! ## The file of a trace -/

namespace DeltaPlan

open Sampling

variable {plan : DeltaPlan}

/-- The fields of the row of a point: its current, its time and its resistance. -/
def fields (plan : DeltaPlan) (index : Nat) (point : DeltaPoint) : List String :=
  [plan.start + Float.ofNat index * plan.step, point.time, point.ohms].map Number.plain

/-- The lines of the file of a trace: names, units, and one row for each point. -/
def table (plan : DeltaPlan) (points : List DeltaPoint) : List (List String) :=
  Table.header Table.traceColumns ++ points.mapIdx plan.fields

/-- The step of a plan is the distance of its ends, divided by the number of its points. -/
lemma step_eq (h : 0 < plan.points) :
    plan.step = (plan.stop - plan.start) / Float.ofNat plan.points := by
  rw [step, Nat.max_eq_left h]

/-- The lines of the file of a trace are read back from it. -/
theorem cells_table (plan : DeltaPlan) (points : List DeltaPoint) :
    Table.cells (String.join ((plan.table points).map Table.row)) = plan.table points := by
  refine Table.cells_join_rows (List.forall_mem_append.2 ⟨?_, fun fields hf => ?_⟩)
  · refine Table.sound_header (by decide) (by decide) ?_
    decide
  · obtain ⟨index, hlt, rfl⟩ := List.mem_mapIdx.1 hf
    exact Table.sound_values _ [some _, some _]

end DeltaPlan

namespace Control

open Instrument Sampling ProgramRun

/-! ## The course of a supervision -/

namespace Supervision

variable {s : Supervision} {ws : List (Exchange WorkSurroundings)}

/-- A look at the source after a pause, with the report if it failed. -/
def look (s : Supervision) (outcome : Except DeviceFault DeltaStatus) :
    List (Exchange WorkSurroundings) :=
  ⟨.rig (.pause s.token poll), true⟩ :: ⟨.act .sweepStatus, outcome⟩ ::
    match outcome with
    | .ok _ => []
    | .error fault => [reported (.cannotReadSweepStatus fault)]

/-- A look that does not show the end of the sweep. -/
def Unfinished : Except DeviceFault DeltaStatus → Prop
  | .ok status => status.finished = false
  | .error _ => True

/-- How looking comes to its end: a look shows the end of the sweep, or the pause before it is cut
short. -/
inductive Stops (s : Supervision) : List (Exchange WorkSurroundings) → Prop where
  | finished {status : DeltaStatus} (h : status.finished = true) : Stops s (s.look (.ok status))
  | interrupted :
    Stops s [⟨.rig (.pause s.token poll), false⟩, reported .differentialInterrupted]

/-- A row is put into the file. -/
def put (s : Supervision) (index : Nat) (point : DeltaPoint) (reply : Except StorageFault Unit) :
    Exchange WorkSurroundings :=
  ⟨.rig (.append s.file (Table.row (s.plan.fields index point))), reply⟩

/-- The rows of some points are put into the file, the first of them number `index`. -/
def puts (s : Supervision) (index : Nat) (points : List DeltaPoint) :
    List (Exchange WorkSurroundings) :=
  points.mapIdx fun k point => s.put (index + k) point (.ok ())

/-- The trace is fetched, and that is reported. -/
def fetched (trace : DeltaTrace) : List (Exchange WorkSurroundings) :=
  [⟨.act .fetchTrace, (.ok trace : Except DeviceFault DeltaTrace)⟩,
    reported (.differentialExported trace.zeroVoltage trace.points.length)]

/-- What comes of an export: the trace cannot be fetched, a row cannot be written and no more are,
or all rows are. The trace is given in the last case only. -/
inductive Exports (s : Supervision) :
    Option DeltaTrace → List (Exchange WorkSurroundings) → Prop where
  | refused (fault : DeviceFault) : Exports s none
      [⟨.act .fetchTrace, (.error fault : Except DeviceFault DeltaTrace)⟩,
        reported (.cannotExport fault)]
  | stuck {trace : DeltaTrace} {first last : List DeltaPoint} {point : DeltaPoint}
      (cause : StorageFault) (h : trace.points = first ++ point :: last) : Exports s none
      (fetched trace ++ s.puts 0 first ++ [s.put first.length point (.error cause),
        reported (.cannotExport (.storage (Fault.storage cause).message))])
  | complete (trace : DeltaTrace) : Exports s (some trace) (fetched trace ++ s.puts 0 trace.points)

/-- The sweep is aborted, with the report if that failed. -/
def aborting (outcome : Except DeviceFault Unit) : List (Exchange WorkSurroundings) :=
  ⟨.act .abortSweep, outcome⟩ ::
    match outcome with
    | .ok _ => []
    | .error fault => [reported (.cannotAbort fault)]

/-- The end of a supervision: it stops looking, exports the trace and aborts the sweep. -/
inductive Closes (s : Supervision) :
    Option DeltaTrace → List (Exchange WorkSurroundings) → Prop where
  | mk {trace? : Option DeltaTrace} {stop exported : List (Exchange WorkSurroundings)}
      (hstop : s.Stops stop) (hexport : s.Exports trace? exported)
      (outcome : Except DeviceFault Unit) : Closes s trace? (stop ++ exported ++ aborting outcome)

/-- All that a supervision has asked for when it is over: looks that do not show the end of the
sweep, and what comes at the end. -/
inductive Over (s : Supervision) :
    Option DeltaTrace → List (Exchange WorkSurroundings) → Prop where
  | mk {trace? : Option DeltaTrace} {looks : List (Except DeviceFault DeltaStatus)}
      {close : List (Exchange WorkSurroundings)} (hlooks : ∀ outcome ∈ looks, Unfinished outcome)
      (hclose : s.Closes trace? close) : Over s trace? (looks.flatMap s.look ++ close)

lemma puts_cons (index : Nat) (point : DeltaPoint) (rest : List DeltaPoint) :
    s.puts index (point :: rest) = s.put index point (.ok ()) :: s.puts (index + 1) rest := by
  simp only [puts, List.mapIdx_cons, Nat.add_zero, Nat.add_assoc, Nat.add_comm 1]

lemma ends_log_iff {event : Event} {u : Unit} :
    (log event).Ends ws u ↔ ws = [reported event] := ends_request_iff

/-- The rows of points are written one after the other, until one cannot be. -/
lemma ends_writePoints {index : Nat} {points : List DeltaPoint}
    {result : Except StorageFault Unit} (h : (s.writePoints index points).Ends ws result) :
    (result = .ok () ∧ ws = s.puts index points) ∨ ∃ first point last cause,
      points = first ++ point :: last ∧ result = .error cause ∧
      ws = s.puts index first ++ [s.put (index + first.length) point (.error cause)] := by
  induction points generalizing index ws with
  | nil =>
    obtain ⟨rfl, rfl⟩ := ends_pure_iff.1 h
    exact .inl ⟨rfl, rfl⟩
  | cons point rest ih =>
    obtain ⟨ws₁, ws₂, reply, rfl, h₁, h₂⟩ := ends_bind_iff.1 h
    obtain rfl := ends_request_iff.1 h₁
    rcases reply with cause | (⟨⟩ : Unit)
    · obtain ⟨rfl, rfl⟩ := ends_pure_iff.1 h₂
      exact .inr ⟨[], point, rest, cause, rfl, rfl, rfl⟩
    · rcases ih h₂ with ⟨rfl, rfl⟩ | ⟨first, stuck, last, cause, rfl, rfl, rfl⟩
      · exact .inl ⟨rfl, (puts_cons ..).symm⟩
      · refine .inr ⟨point :: first, stuck, last, cause, rfl, rfl, ?_⟩
        rw [puts_cons, List.length_cons, Nat.add_comm first.length, ← Nat.add_assoc]
        rfl

/-- The trace is fetched once. -/
lemma exports_of_exportTrace {u : Unit} (h : s.exportTrace.Ends ws u) :
    ∃ trace?, s.Exports trace? ws := by
  obtain ⟨ws₁, ws₂, outcome, rfl, h₁, h₂⟩ := ends_bind_iff.1 h
  obtain rfl := ends_request_iff.1 h₁
  rcases outcome with fault | (trace : DeltaTrace)
  · obtain rfl := ends_log_iff.1 h₂
    exact ⟨none, .refused fault⟩
  · obtain ⟨ws₃, ws₄, _, rfl, h₃, h₄⟩ := ends_bind_iff.1 h₂
    obtain rfl := ends_log_iff.1 h₃
    obtain ⟨ws₅, ws₆, result, rfl, h₅, h₆⟩ := ends_bind_iff.1 h₄
    rcases ends_writePoints h₅ with ⟨rfl, rfl⟩ | ⟨first, point, last, cause, hpoints, rfl, rfl⟩
    · obtain ⟨rfl, -⟩ := ends_pure_iff.1 h₆
      rw [List.append_nil]
      exact ⟨some trace, .complete trace⟩
    · obtain rfl := ends_log_iff.1 h₆
      have hstuck := Exports.stuck (s := s) cause hpoints
      rw [List.append_assoc] at hstuck
      rw [Nat.zero_add, List.append_assoc (s.puts 0 first)]
      exact ⟨none, hstuck⟩

/-- Then the sweep is aborted once, whatever came of that. -/
lemma exports_of_finish {result : Turn Supervision Ending} (h : s.finish.Ends ws result) :
    ∃ trace? exported outcome, s.Exports trace? exported ∧ ws = exported ++ aborting outcome ∧
      result = .over .acquisition := by
  obtain ⟨ws₁, ws₂, _, rfl, h₁, h₂⟩ := ends_bind_iff.1 h
  obtain ⟨trace?, hexport⟩ := exports_of_exportTrace h₁
  obtain ⟨ws₃, ws₄, outcome, rfl, h₃, h₄⟩ := ends_bind_iff.1 h₂
  obtain rfl := ends_request_iff.1 h₃
  refine ⟨trace?, ws₁, outcome, hexport, ?_⟩
  rcases outcome with fault | (⟨⟩ : Unit)
  · obtain ⟨ws₅, ws₆, _, rfl, h₅, h₆⟩ := ends_bind_iff.1 h₄
    obtain rfl := ends_log_iff.1 h₅
    obtain ⟨rfl, rfl⟩ := ends_pure_iff.1 h₆
    exact ⟨rfl, rfl⟩
  · obtain ⟨rfl, rfl⟩ := ends_pure_iff.1 h₄
    exact ⟨rfl, rfl⟩

/-- One turn is a look that does not show the end of the sweep, or it is the last one. -/
lemma turn_ends {result : Turn Supervision Ending} (h : s.turn.Ends ws result) :
    (∃ outcome, Unfinished outcome ∧ ws = s.look outcome ∧ result = .again s) ∨
      (∃ trace?, s.Closes trace? ws) ∧ result = .over .acquisition := by
  have hcloses {before during : List (Exchange WorkSurroundings)} (hstop : s.Stops before)
      (hf : s.finish.Ends during result) :
      (∃ trace?, s.Closes trace? (before ++ during)) ∧ result = .over .acquisition := by
    obtain ⟨trace?, exported, outcome, hexport, rfl, hresult⟩ := exports_of_finish hf
    rw [← List.append_assoc]
    exact ⟨⟨trace?, .mk hstop hexport outcome⟩, hresult⟩
  obtain ⟨ws₁, ws₂, passed, rfl, h₁, h₂⟩ := ends_bind_iff.1 h
  obtain rfl := ends_request_iff.1 h₁
  cases passed with
  | false =>
    obtain ⟨ws₃, ws₄, _, rfl, h₃, hf⟩ := ends_bind_iff.1 h₂
    obtain rfl := ends_log_iff.1 h₃
    rw [← List.append_assoc]
    exact .inr (hcloses .interrupted hf)
  | true =>
    obtain ⟨ws₃, ws₄, outcome, rfl, h₃, h₄⟩ := ends_bind_iff.1 h₂
    obtain rfl := ends_request_iff.1 h₃
    rw [← List.append_assoc]
    rcases outcome with fault | (status : DeltaStatus)
    · obtain ⟨ws₅, ws₆, _, rfl, h₅, h₆⟩ := ends_bind_iff.1 h₄
      obtain rfl := ends_log_iff.1 h₅
      obtain ⟨rfl, rfl⟩ := ends_pure_iff.1 h₆
      exact .inl ⟨.error fault, trivial, rfl, rfl⟩
    · change (if status.finished then s.finish else pure (.again s)).Ends ws₄ result at h₄
      split at h₄
      · next hfinished => exact .inr (hcloses (.finished hfinished) h₄)
      · next hfinished =>
        obtain ⟨rfl, rfl⟩ := ends_pure_iff.1 h₄
        exact .inl ⟨.ok status, Bool.eq_false_iff.2 hfinished, rfl, rfl⟩

/-- **A supervision is looking, or it has gone through all that comes at the end.**

**Proof sketch.** By induction on the turns. Every turn that is followed by another one is a look
that does not show the end of the sweep. -/
theorem over_of_rounds {turns : List (Supervision × List (Exchange WorkSurroundings))}
    {result : Turn Supervision Ending} (h : Rounds turn s turns result) :
    (∃ looks : List (Except DeviceFault DeltaStatus), (∀ outcome ∈ looks, Unfinished outcome) ∧
      exchanges turns = looks.flatMap s.look ∧ result = .again s) ∨
    (∃ trace?, s.Over trace? (exchanges turns)) ∧ result = .over .acquisition := by
  induction h with
  | start => exact .inl ⟨[], List.forall_mem_nil _, rfl, rfl⟩
  | @next turns t ws result _ ht ih =>
    rw [exchanges_append, exchanges_singleton]
    rcases ih with ⟨looks, hlooks, hturns, hagain⟩ | ⟨-, hover⟩
    · cases hagain
      rw [hturns]
      rcases turn_ends ht with ⟨outcome, hlook, rfl, rfl⟩ | ⟨⟨trace?, hclose⟩, hresult⟩
      · refine .inl ⟨looks ++ [outcome], ?_, by simp, rfl⟩
        exact List.forall_mem_append.2 ⟨hlooks, List.forall_mem_singleton.2 hlook⟩
      · exact .inr ⟨⟨trace?, .mk hlooks hclose⟩, hresult⟩
    · cases hover

/-! ## The rows -/

@[simp] lemma rows_look (outcome : Except DeviceFault DeltaStatus) :
    rows s.file (s.look outcome) = [] := by
  cases outcome <;> rfl

@[simp] lemma rows_looks (looks : List (Except DeviceFault DeltaStatus)) :
    rows s.file (looks.flatMap s.look) = [] := by
  induction looks with
  | nil => rfl
  | cons outcome rest ih => rw [List.flatMap_cons, rows_append, rows_look, ih, List.append_nil]

lemma rows_of_stops (h : s.Stops ws) : rows s.file ws = [] := by
  cases h with
  | finished => exact rows_look _
  | interrupted => rfl

@[simp] lemma rows_aborting (outcome : Except DeviceFault Unit) :
    rows s.file (aborting outcome) = [] := by
  cases outcome <;> rfl

@[simp] lemma rows_puts (index : Nat) (points : List DeltaPoint) :
    rows s.file (s.puts index points) =
      points.mapIdx fun k point => Table.row (s.plan.fields (index + k) point) := by
  induction points generalizing index with
  | nil => rfl
  | cons point rest ih =>
    have hput : rows s.file [s.put index point (.ok ())] =
        [Table.row (s.plan.fields index point)] := by
      simp [rows, sightings, sighting, Sighting.row?, put]
    rw [puts_cons, ← List.singleton_append, rows_append, ih, hput, List.mapIdx_cons]
    simp only [List.singleton_append, Nat.add_zero, Nat.add_assoc, Nat.add_comm 1]

/-- **If all of a trace is written, one row is put into the file for each of its points**, in
order. -/
theorem rows_of_over {trace : DeltaTrace} (h : s.Over (some trace) ws) :
    rows s.file ws = (trace.points.mapIdx s.plan.fields).map Table.row := by
  obtain ⟨-, ⟨hstop, hexport, outcome⟩⟩ := h
  cases hexport
  have hfetched : rows s.file (fetched trace) = [] := rfl
  simp [rows_of_stops hstop, hfetched, List.mapIdx_eq_zipIdx_map]

/-- Otherwise a row cannot be written, or none is put into the file. -/
lemma rows_of_over_none (h : s.Over none ws) :
    (∃ index point cause, s.put index point (.error cause) ∈ ws) ∨ rows s.file ws = [] := by
  obtain ⟨-, ⟨hstop, hexport, outcome⟩⟩ := h
  cases hexport with
  | refused fault =>
    have hrefused : rows s.file [⟨.act .fetchTrace, (.error fault : Except DeviceFault DeltaTrace)⟩,
      reported (.cannotExport fault)] = [] := rfl
    exact .inr (by simp only [rows_append, rows_looks, rows_of_stops hstop, hrefused, rows_aborting,
      List.append_nil])
  | @stuck trace first last point cause =>
    exact .inl ⟨first.length, point, cause, by simp⟩

end Supervision

/-! ## What is sent -/

/-- Whether something is sent to an instrument or asked of the bench. -/
def Request.isForDevice : Request → Bool
  | .device (.write ..) | .device (.query ..) | .bench _ => true
  | _ => false

/-- What was sent to instruments or asked of the bench, in order. -/
def deviceCommands (es : List (Exchange RigSurroundings)) : List Request :=
  es.filterMap fun e => if Request.isForDevice e.request then some e.request else none

/-- What the actions of a supervision send. -/
structure SweepCommands where
  /-- For a look. -/
  poll : Request
  /-- For the trace, if nothing fails. -/
  fetch : List Request
  /-- For the abort. -/
  abort : Request

/-- What the actions of a supervision send to a current source. -/
def sourceCommands (id : String) : SweepCommands where
  poll := .device (.query id "STAT:OPER:COND?")
  fetch := [.device (.query id "SOUR:DCON:NVZ?"), .device (.query id "TRAC:DATA?")]
  abort := .device (.write id "SOUR:SWE:ABOR")

/-- What they ask of the bench. -/
def benchCommands : SweepCommands := ⟨.bench .sweepStatus, [.bench .fetchTrace], .bench .abortSweep⟩

namespace Station

/-- What the actions of a supervision send at a station, if it has the means for a differential
sweep. -/
def sweepCommands? : Station → Option SweepCommands
  | facility (.refrigerator w) => w.currentSource.map sourceCommands
  | facility _ => none
  | bench => some benchCommands

/-- Where a trace comes from: the current source replied with the resistance and the time of each
point in turn, or the bench gave the trace. -/
def Gave (s : Station) (trace : DeltaTrace) (es : List (Exchange RigSurroundings)) : Prop :=
  match s with
  | facility f => ∃ w id reply values, f = .refrigerator w ∧ w.currentSource = some id ∧
      ⟨.device (.query id "TRAC:DATA?"), reply⟩ ∈ es ∧ Shows reply values ∧
      values.toList = trace.points.flatMap fun point => [point.ohms, point.time]
  | bench => ⟨.bench .fetchTrace, (.ok trace : Except DeviceFault DeltaTrace)⟩ ∈ es

lemma Gave.mono {s : Station} {trace : DeltaTrace} {es es' : List (Exchange RigSurroundings)}
    (h : s.Gave trace es) (hs : es ⊆ es') : s.Gave trace es' := by
  cases s with
  | bench => exact hs h
  | facility f =>
    obtain ⟨w, id, reply, values, hf, hid, hm, hshows, hpoints⟩ := h
    exact ⟨w, id, reply, values, hf, hid, hs hm, hshows, hpoints⟩

end Station

section Commands

variable {es es' : List (Exchange RigSurroundings)} {said : List (Exchange Surroundings)}
  {id command : String}

@[simp] lemma deviceCommands_nil : deviceCommands [] = [] := rfl

@[simp] lemma deviceCommands_append :
    deviceCommands (es ++ es') = deviceCommands es ++ deviceCommands es' := List.filterMap_append

lemma deviceCommands_cons_of_not {e : Exchange RigSurroundings}
    (h : Request.isForDevice e.request = false) :
    deviceCommands (e :: es) = deviceCommands es := by
  simp [deviceCommands, h]

/-- Taking the bus and giving it back sends nothing. -/
lemma deviceCommands_hold :
    deviceCommands ((hold said).map onRig) = deviceCommands (said.map onRig) := by
  have hends : deviceCommands ([released].map onRig) = [] := rfl
  rw [hold, List.map_cons, List.map_append, deviceCommands_cons_of_not rfl, deviceCommands_append,
    hends, List.append_nil]

/-- A query that is sent on its own. -/
lemma deviceCommands_query {result : Except DeviceFault String}
    (h : (Instrument.query id command).run.Ends said result) :
    deviceCommands (said.map onRig) = [.device (.query id command)] := by
  obtain ⟨sent, rfl, hsent⟩ := ends_withBus_iff.1 h
  obtain ⟨reply, rfl, -⟩ := ends_query hsent
  exact deviceCommands_hold

/-- A query for numbers, with the reply that shows them. -/
lemma deviceCommands_values {result : Except DeviceFault Values}
    (h : (Instrument.values id command).run.Ends said result) :
    deviceCommands (said.map onRig) = [.device (.query id command)] ∧
      ∀ values, result = .ok values →
        ∃ reply, ⟨.query id command, reply⟩ ∈ said ∧ Shows reply values := by
  obtain ⟨sent, rfl, hsent⟩ := ends_withBus_iff.1 h
  obtain ⟨reply, rfl, hshows⟩ := ends_values hsent
  exact ⟨deviceCommands_hold, fun values hv => ⟨reply, by simp [hold], hshows values hv⟩⟩

/-- A command that is sent on its own. -/
lemma deviceCommands_write {result : Except DeviceFault Unit}
    (h : (Instrument.write id command).run.Ends said result) :
    deviceCommands (said.map onRig) = [.device (.write id command)] := by
  obtain ⟨sent, rfl, hsent⟩ := ends_withBus_iff.1 h
  obtain ⟨reply, rfl⟩ := ends_write hsent
  exact deviceCommands_hold

/-- The status of a source is one query. -/
lemma deviceCommands_status {outcome : Except DeviceFault DeltaStatus}
    (h : (CurrentSource.status id).run.Ends said outcome) :
    deviceCommands (said.map onRig) = [(sourceCommands id).poll] := by
  have hwhole {outcome : Except DeviceFault Nat} {said : List (Exchange Surroundings)}
      (hw : (whole id "STAT:OPER:COND?" Number.wordMax).run.Ends said outcome) :
      deviceCommands (said.map onRig) = [(sourceCommands id).poll] := by
    rcases ends_run_bind_iff.1 hw with ⟨fault, hquery, -⟩ | ⟨es₁, es₂, reply, rfl, hquery, hend⟩
    · exact deviceCommands_query hquery
    · obtain ⟨rfl, -⟩ := ends_settled_iff.1 hend
      rw [List.append_nil]
      exact deviceCommands_query hquery
  rcases ends_run_bind_iff.1 h with ⟨fault, hw, -⟩ | ⟨es₁, es₂, word, rfl, hw, hend⟩
  · exact hwhole hw
  · obtain ⟨rfl, -⟩ := ends_run_pure_iff.1 hend
    rw [List.append_nil]
    exact hwhole hw

lemma toList_of_pairs {numbers : List Float} {points : List DeltaPoint}
    (h : CurrentSource.pairs numbers = some points) :
    numbers = points.flatMap fun point => [point.ohms, point.time] := by
  fun_induction CurrentSource.pairs numbers generalizing points with
  | case1 =>
    cases h
    rfl
  | case2 => cases h
  | case3 ohms time rest ih =>
    obtain ⟨points, hrest, rfl⟩ := Option.map_eq_some_iff.1 h
    rw [ih hrest]
    rfl

/-- The trace of a source is two queries, the second one only if the first one goes well. -/
lemma deviceCommands_trace {outcome : Except DeviceFault DeltaTrace}
    (h : (CurrentSource.trace id).run.Ends said outcome) :
    deviceCommands (said.map onRig) ≠ [] ∧
    deviceCommands (said.map onRig) <+: (sourceCommands id).fetch ∧
    ∀ trace, outcome = .ok trace → deviceCommands (said.map onRig) = (sourceCommands id).fetch ∧
      ∃ reply values, ⟨.query id "TRAC:DATA?", reply⟩ ∈ said ∧ Shows reply values ∧
        values.toList = trace.points.flatMap fun point => [point.ohms, point.time] := by
  have hnumber {outcome : Except DeviceFault Float} {said : List (Exchange Surroundings)}
      (hn : (number id "SOUR:DCON:NVZ?").run.Ends said outcome) :
      deviceCommands (said.map onRig) = [.device (.query id "SOUR:DCON:NVZ?")] := by
    rcases ends_run_bind_iff.1 hn with ⟨fault, hvalues, -⟩ | ⟨es₁, es₂, values, rfl, hvalues, hend⟩
    · exact (deviceCommands_values hvalues).1
    · obtain ⟨rfl, -⟩ := ends_run_pure_iff.1 hend
      rw [List.append_nil]
      exact (deviceCommands_values hvalues).1
  rcases ends_run_bind_iff.1 h with ⟨fault, hn, rfl⟩ | ⟨es₁, es₂, zero, rfl, hn, hrest⟩
  · rw [hnumber hn]
    exact ⟨by simp, by simp [sourceCommands], by rintro _ ⟨⟩⟩
  rw [List.map_append, deviceCommands_append, hnumber hn]
  rcases ends_run_bind_iff.1 hrest with ⟨fault, hv, rfl⟩ | ⟨es₃, es₄, values, rfl, hv, hend⟩
  · rw [(deviceCommands_values hv).1]
    exact ⟨by simp, by simp [sourceCommands], by rintro _ ⟨⟩⟩
  · obtain ⟨hcommands, hshown⟩ := deviceCommands_values hv
    obtain ⟨reply, hreply, hshows⟩ := hshown values rfl
    have hnil : es₄ = [] := by
      split at hend
      · exact (ends_run_pure_iff.1 hend).1
      · exact (ends_run_throw_iff.1 hend).1
    subst hnil
    rw [List.append_nil, hcommands]
    refine ⟨by simp, by simp [sourceCommands], fun trace htrace => ⟨rfl, reply, values, ?_⟩⟩
    refine ⟨List.mem_append_right _ hreply, hshows, ?_⟩
    subst htrace
    split at hend
    · next points hpairs =>
      cases (ends_run_pure_iff.1 hend).2
      exact toList_of_pairs hpairs
    · cases (ends_run_throw_iff.1 hend).2

end Commands

namespace Station

variable {s : Station} {k : SweepCommands} {es : List (Exchange RigSurroundings)}

lemma sweepCommands?_cases (h : s.sweepCommands? = some k) :
    (∃ w id, s = facility (.refrigerator w) ∧ w.currentSource = some id ∧ k = sourceCommands id) ∨
      s = bench ∧ k = benchCommands := by
  cases s with
  | bench => exact .inr ⟨rfl, (Option.some.inj h).symm⟩
  | facility f =>
    cases f with
    | refrigerator w =>
      obtain ⟨id, hid, rfl⟩ := Option.map_eq_some_iff.1 h
      exact .inl ⟨w, id, rfl, hid, rfl⟩
    | _ => cases h

/-- A bench is asked for an action as it is. -/
lemma ends_bench_iff {a : Action} {outcome : a.Outcome} :
    (bench.site.perform a).Ends es outcome ↔ es = [⟨.bench a, outcome⟩] :=
  ends_request_iff (I := RigSurroundings)

/-- Where a sweep can be started there are the means for it. -/
lemma exists_sweepCommands {plan : DeltaPlan}
    (h : (s.site.perform (.armSweep plan)).Ends es (.ok ())) : ∃ k, s.sweepCommands? = some k := by
  cases s with
  | bench => exact ⟨_, rfl⟩
  | facility f =>
    obtain ⟨said, -, hsaid⟩ := ends_ofDriver_iff.1 h
    cases f with
    | refrigerator w =>
      change (w.onCurrentSource fun id => CurrentSource.startSweep id plan).run.Ends said (.ok ())
        at hsaid
      cases hid : w.currentSource with
      | some id => exact ⟨sourceCommands id, by rw [sweepCommands?, hid, Option.map_some]⟩
      | none =>
        rw [Site.RefrigeratorWiring.onCurrentSource, hid] at hsaid
        cases (ends_run_throw_iff.1 hsaid).2
    | _ => cases (ends_run_throw_iff.1 hsaid).2

/-- A look is one command. -/
lemma deviceCommands_poll (hk : s.sweepCommands? = some k)
    {outcome : Except DeviceFault DeltaStatus}
    (h : (s.site.perform .sweepStatus).Ends es outcome) : deviceCommands es = [k.poll] := by
  rcases sweepCommands?_cases hk with ⟨w, id, rfl, hid, rfl⟩ | ⟨rfl, rfl⟩
  · obtain ⟨said, rfl, hsaid⟩ := ends_ofDriver_iff.1 h
    change (w.onCurrentSource CurrentSource.status).run.Ends said outcome at hsaid
    rw [Site.RefrigeratorWiring.onCurrentSource, hid] at hsaid
    exact deviceCommands_status hsaid
  · obtain rfl := ends_bench_iff.1 h
    rfl

/-- To fetch the trace is to send some of its commands, and all if nothing fails. -/
lemma deviceCommands_fetch (hk : s.sweepCommands? = some k)
    {outcome : Except DeviceFault DeltaTrace} (h : (s.site.perform .fetchTrace).Ends es outcome) :
    deviceCommands es ≠ [] ∧ deviceCommands es <+: k.fetch ∧
      ∀ trace, outcome = .ok trace → deviceCommands es = k.fetch ∧ s.Gave trace es := by
  rcases sweepCommands?_cases hk with ⟨w, id, rfl, hid, rfl⟩ | ⟨rfl, rfl⟩
  · obtain ⟨said, rfl, hsaid⟩ := ends_ofDriver_iff.1 h
    change (w.onCurrentSource CurrentSource.trace).run.Ends said outcome at hsaid
    rw [Site.RefrigeratorWiring.onCurrentSource, hid] at hsaid
    obtain ⟨hne, hprefix, hall⟩ := deviceCommands_trace hsaid
    refine ⟨hne, hprefix, fun trace htrace => ?_⟩
    obtain ⟨hfetch, reply, values, hreply, hshows, hpoints⟩ := hall trace htrace
    exact ⟨hfetch, w, id, reply, values, rfl, hid, List.mem_map_of_mem (f := onRig) hreply, hshows,
      hpoints⟩
  · obtain rfl := ends_bench_iff.1 h
    refine ⟨by rintro ⟨⟩, List.prefix_rfl, ?_⟩
    rintro trace rfl
    exact ⟨rfl, List.mem_cons_self⟩

/-- The abort is one command. -/
lemma deviceCommands_abort (hk : s.sweepCommands? = some k) {outcome : Except DeviceFault Unit}
    (h : (s.site.perform .abortSweep).Ends es outcome) : deviceCommands es = [k.abort] := by
  rcases sweepCommands?_cases hk with ⟨w, id, rfl, hid, rfl⟩ | ⟨rfl, rfl⟩
  · obtain ⟨said, rfl, hsaid⟩ := ends_ofDriver_iff.1 h
    change (w.onCurrentSource CurrentSource.abort).run.Ends said outcome at hsaid
    rw [Site.RefrigeratorWiring.onCurrentSource, hid] at hsaid
    exact deviceCommands_write hsaid
  · obtain rfl := ends_bench_iff.1 h
    rfl

end Station

namespace Supervision

variable {s : Station} {k : SweepCommands} {v : Supervision} {trace? : Option DeltaTrace}
  {ws : List (Exchange WorkSurroundings)} {es : List (Exchange RigSurroundings)}

/-- All that a supervision has sent when it is over: some looks, part of what fetches the trace, and
the abort. If the trace was exported, it is the one that came from the source. -/
structure Completes (s : Station) (k : SweepCommands) (v : Supervision)
    (trace? : Option DeltaTrace) (es : List (Exchange RigSurroundings)) : Prop where
  /-- It has gone through all of its course. -/
  course : ∃ ws, v.Over trace? ws ∧ CarriedOut s.site ws es
  /-- These are all the commands. -/
  commands : ∃ polls fetching, deviceCommands es =
    List.replicate polls k.poll ++ fetching ++ [k.abort] ∧
    fetching ≠ [] ∧ fetching <+: k.fetch ∧ (trace? ≠ none → fetching = k.fetch)
  /-- This is where the trace came from. -/
  gave : ∀ trace, trace? = some trace → s.Gave trace es

/-- A request that sends nothing. -/
def Aside : WorkRequest → Prop
  | .rig r => r.isForDevice = false
  | .act _ => False

lemma deviceCommands_of_aside (h : CarriedOut s.site ws es)
    (hws : ∀ w ∈ ws, Aside w.request) : deviceCommands es = [] := by
  induction ws generalizing es with
  | nil => rw [carriedOut_nil_iff.1 h, deviceCommands_nil]
  | cons w rest ih =>
    obtain ⟨hw, hrest⟩ := List.forall_mem_cons.1 hws
    obtain ⟨r, reply⟩ := w
    cases r with
    | act => exact hw.elim
    | rig r =>
      obtain ⟨es', rfl, h'⟩ := carriedOut_rig_iff.1 h
      exact (deviceCommands_cons_of_not (e := ⟨r, reply⟩) hw).trans (ih h' hrest)

lemma deviceCommands_of_look (hk : s.sweepCommands? = some k)
    {outcome : Except DeviceFault DeltaStatus} (h : CarriedOut s.site (v.look outcome) es) :
    deviceCommands es = [k.poll] := by
  obtain ⟨es', rfl, h'⟩ := carriedOut_rig_iff.1 h
  obtain ⟨es₁, es₂, rfl, hlook, hreport⟩ := carriedOut_cons_iff.1 h'
  have hnone : deviceCommands es₂ = [] := by
    refine deviceCommands_of_aside hreport ?_
    cases outcome with
    | ok => exact List.forall_mem_nil _
    | error => exact List.forall_mem_singleton.2 rfl
  rw [deviceCommands_cons_of_not rfl, deviceCommands_append, Station.deviceCommands_poll hk hlook,
    hnone, List.append_nil]

lemma deviceCommands_of_looks (hk : s.sweepCommands? = some k)
    {looks : List (Except DeviceFault DeltaStatus)}
    (h : CarriedOut s.site (looks.flatMap v.look) es) :
    deviceCommands es = List.replicate looks.length k.poll := by
  induction looks generalizing es with
  | nil => rw [carriedOut_nil_iff.1 h, deviceCommands_nil, List.length_nil, List.replicate_zero]
  | cons outcome rest ih =>
    obtain ⟨es₁, es₂, rfl, hlook, hrest⟩ := carriedOut_append_iff.1 h
    rw [deviceCommands_append, deviceCommands_of_look hk hlook, ih hrest]
    rfl

lemma deviceCommands_of_stops (hk : s.sweepCommands? = some k) (hstop : v.Stops ws)
    (h : CarriedOut s.site ws es) : ∃ polls, deviceCommands es = List.replicate polls k.poll := by
  cases hstop with
  | finished => exact ⟨1, deviceCommands_of_look hk h⟩
  | interrupted =>
    refine ⟨0, deviceCommands_of_aside h ?_⟩
    exact List.forall_mem_cons.2 ⟨rfl, List.forall_mem_singleton.2 rfl⟩

lemma aside_puts (index : Nat) (points : List DeltaPoint) :
    ∀ w ∈ v.puts index points, Aside w.request := by
  intro w hw
  obtain ⟨_, _, rfl⟩ := List.mem_mapIdx.1 hw
  rfl

/-- However an export goes, only fetching the trace sends something. -/
lemma exports_cases (h : v.Exports trace? ws) :
    ∃ (outcome : Except DeviceFault DeltaTrace) (rest : List (Exchange WorkSurroundings)),
      ws = ⟨.act .fetchTrace, outcome⟩ :: rest ∧ (∀ w ∈ rest, Aside w.request) ∧
      ∀ trace, trace? = some trace → outcome = .ok trace := by
  cases h with
  | refused fault =>
    exact ⟨.error fault, _, rfl, List.forall_mem_singleton.2 rfl, by rintro _ ⟨⟩⟩
  | @stuck trace first last point cause hpoints =>
    refine ⟨.ok trace, _, rfl, ?_, by rintro _ ⟨⟩⟩
    refine List.forall_mem_append.2 ⟨List.forall_mem_cons.2 ⟨rfl, aside_puts 0 first⟩, ?_⟩
    exact List.forall_mem_cons.2 ⟨rfl, List.forall_mem_singleton.2 rfl⟩
  | complete trace =>
    refine ⟨.ok trace, _, rfl, List.forall_mem_cons.2 ⟨rfl, aside_puts 0 _⟩, ?_⟩
    rintro _ ⟨⟩
    rfl

lemma deviceCommands_of_exports (hk : s.sweepCommands? = some k) (hexport : v.Exports trace? ws)
    (h : CarriedOut s.site ws es) :
    deviceCommands es ≠ [] ∧ deviceCommands es <+: k.fetch ∧
      ∀ trace, trace? = some trace → deviceCommands es = k.fetch ∧ s.Gave trace es := by
  obtain ⟨outcome, rest, rfl, haside, hall⟩ := exports_cases hexport
  obtain ⟨es₁, es₂, rfl, hfetch, hrest⟩ := carriedOut_cons_iff.1 h
  obtain ⟨hne, hprefix, hok⟩ := Station.deviceCommands_fetch hk hfetch
  rw [deviceCommands_append, deviceCommands_of_aside hrest haside, List.append_nil]
  refine ⟨hne, hprefix, fun trace htrace => ?_⟩
  obtain ⟨hcommands, hgave⟩ := hok trace (hall trace htrace)
  exact ⟨hcommands, hgave.mono (List.subset_append_left ..)⟩

lemma deviceCommands_of_aborting (hk : s.sweepCommands? = some k)
    {outcome : Except DeviceFault Unit} (h : CarriedOut s.site (aborting outcome) es) :
    deviceCommands es = [k.abort] := by
  obtain ⟨es₁, es₂, rfl, habort, hreport⟩ := carriedOut_cons_iff.1 h
  have hnone : deviceCommands es₂ = [] := by
    refine deviceCommands_of_aside hreport ?_
    cases outcome with
    | ok => exact List.forall_mem_nil _
    | error => exact List.forall_mem_singleton.2 rfl
  rw [deviceCommands_append, Station.deviceCommands_abort hk habort, hnone]
  rfl

/-- Whoever has gone through the course of a supervision has sent all that belongs to it. -/
theorem Completes.of_over (hk : s.sweepCommands? = some k) (h : v.Over trace? ws)
    (hout : CarriedOut s.site ws es) : v.Completes s k trace? es := by
  have hcourse : ∃ ws, v.Over trace? ws ∧ CarriedOut s.site ws es := ⟨ws, h, hout⟩
  obtain ⟨-, ⟨hstop, hexport, outcome⟩⟩ := h
  obtain ⟨es₁, es₂, rfl, hlooks, hclose⟩ := carriedOut_append_iff.1 hout
  obtain ⟨es₃, es₄, rfl, hexported, habort⟩ := carriedOut_append_iff.1 hclose
  obtain ⟨es₅, es₆, rfl, hstopped, hfetch⟩ := carriedOut_append_iff.1 hexported
  obtain ⟨polls, hpolls⟩ : ∃ polls, deviceCommands es₁ = List.replicate polls k.poll :=
    ⟨_, deviceCommands_of_looks hk hlooks⟩
  obtain ⟨last, hlast⟩ := deviceCommands_of_stops hk hstop hstopped
  obtain ⟨hne, hprefix, hall⟩ := deviceCommands_of_exports hk hexport hfetch
  refine ⟨hcourse, ⟨polls + last, deviceCommands es₆, ?_, hne, hprefix, fun hsome => ?_⟩,
    fun trace htrace => ?_⟩
  · rw [← List.replicate_append_replicate, ← hpolls, ← hlast,
      ← deviceCommands_of_aborting hk habort]
    simp only [deviceCommands_append, List.append_assoc]
  · obtain ⟨trace, htrace⟩ := Option.ne_none_iff_exists'.1 hsome
    exact (hall trace htrace).1
  · exact (hall trace htrace).2.mono fun e he => by simp [he]

/-- Its turns on a rig are its own turns, carried out at the site. -/
lemma turnOf_supervision (v : Supervision) :
    Rig.turnOf s.site (.supervision v) =
      carryOut s.site (Rig.mapTurn .supervision <$> v.turn) := by
  rw [← bind_pure_comp]
  rfl

/-- **A supervision on a rig is looking, or it has sent all that belongs to it.** -/
theorem completes_of_rounds (hk : s.sweepCommands? = some k)
    {turns : List (Job × List (Exchange RigSurroundings))} {result : Turn Job Ending}
    (h : Rounds (Rig.turnOf s.site) (.supervision v) turns result) :
    (∃ looks : List (Except DeviceFault DeltaStatus), (∀ outcome ∈ looks, Unfinished outcome) ∧
      CarriedOut s.site (looks.flatMap v.look) (exchanges turns) ∧
      result = .again (.supervision v)) ∨
    (∃ trace?, v.Completes s k trace? (exchanges turns)) ∧ result = .over .acquisition := by
  obtain ⟨own, ended, hrounds, rfl, hout⟩ := Rig.exists_own_rounds turnOf_supervision h
  rcases over_of_rounds hrounds with ⟨looks, hlooks, hown, rfl⟩ | ⟨⟨trace?, hover⟩, rfl⟩
  · exact .inl ⟨looks, hlooks, hown ▸ hout, rfl⟩
  · exact .inr ⟨⟨trace?, .of_over hk hover hout⟩, rfl⟩

/-- A turn is followed by another one only if the pause at its beginning was not cut short. -/
lemma paused_of_again {job : Job}
    (h : (Rig.turnOf s.site (.supervision v)).Ends es (.again job)) :
    (⟨.pause v.token poll, true⟩ : Exchange RigSurroundings) ∈ es := by
  rw [turnOf_supervision] at h
  obtain ⟨ws, hout, hwork⟩ := ends_carryOut_iff.1 h
  obtain ⟨result, hturn, hresult⟩ := ends_map_iff.1 hwork
  rcases turn_ends hturn with ⟨outcome, -, rfl, -⟩ | ⟨-, rfl⟩
  · obtain ⟨rest, rfl, -⟩ := carriedOut_rig_iff.1 hout
    exact List.mem_cons_self
  · cases hresult

/-- Whatever it has sent so far, it goes on so that it sends all that belongs to it: in the midst of
its turns it can come to the end of one, and if the next pause is cut short it is over. -/
theorem exists_completes_of_begun (hk : s.sweepCommands? = some k)
    {rest : RigWork (Turn Job Ending)}
    (h : Begun (Rig.turnOf s.site) (.supervision v) es rest) :
    ∃ more trace?, v.Completes s k trace? (es ++ more) := by
  obtain ⟨turns, result, hrounds, hes⟩ := h.exists_rounds fun r => ProgramRun.readily (.rig r)
  rcases completes_of_rounds hk hrounds with ⟨-, -, -, rfl⟩ | ⟨⟨trace?, hcompletes⟩, -⟩
  · have hlast := ends_answered (fun r => ProgramRun.readily (.rig r))
      (Rig.turnOf s.site (.supervision v))
    rcases completes_of_rounds hk (hrounds.next hlast) with ⟨-, -, -, hagain⟩ |
      ⟨⟨trace?, hcompletes⟩, -⟩
    · rw [hagain] at hlast
      cases reply_of_mem_answered (paused_of_again hlast)
    · rw [exchanges_append, hes, List.append_assoc] at hcompletes
      exact ⟨_, trace?, hcompletes⟩
  · exact ⟨_, trace?, hes ▸ hcompletes⟩

end Supervision

end Control

end CryoRig
