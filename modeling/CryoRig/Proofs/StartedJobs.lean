import CryoRig.Proofs.LatestSettings

/-!
# What an acquisition is started with

A run starts an acquisition for a line of its script and for nothing else. How long it relaxes and
measures, and whether it raises ranges, is what was said last on the lines before that one; whether
ranges are raised falls back on what the rig is told if no line says anything.

## Main definitions

* `CryoRig.Script.protocol?`: the protocol of the acquisition that a command starts.
* `CryoRig.Control.tuningAfter`: the settings it is started with.
* `CryoRig.Control.StartedInLine`: every acquisition was started for the line begun last.

## Main results

* `CryoRig.Control.ProgramRun.startedInLine_of_underway`: a run starts no other acquisitions.
* `CryoRig.Control.ProgramRun.latest_settings`: what a check comes to, and what a run starts, told
  from the lines of a text.
-/

namespace CryoRig.Script

variable {before : List String} {command : Command} {step : Step} {name : String}
  {protocol : Sampling.Protocol} {autorange : Option Bool}

/-- The protocol of the acquisition that a command starts after given texts. -/
def protocol? (before : List String) : Command → Option Sampling.Protocol
  | .startSimple _ => some .continuous
  | .startCooldown _ => some .autoscan
  | .startStep _ parameter targets => do
    let relax ← latest Command.relax? before
    let measure ← latest Command.measure? before
    some (.stepped (.start parameter targets relax measure))
  | .startDidv _ plan => some (.differential plan)
  | _ => none

/-- An acquisition is planned with what was said last. -/
lemma start_of_plan (h : Script.plan (configAfter before) command = .ok step)
    (hd : step.deed = .start name protocol autorange) :
    protocol? before command = some protocol ∧ autorange = latest Command.autorange? before := by
  cases command with
  | startStep name' parameter targets =>
    obtain ⟨_, _, hrelax, hmeasure, rfl⟩ := plan_startStep_eq_ok_iff.1 h
    simp only [configAfter] at hrelax hmeasure
    cases hd
    rw [protocol?, hrelax, hmeasure]
    exact ⟨rfl, rfl⟩
  | setTargetField tesla rate =>
    obtain ⟨_, -, rfl⟩ := plan_setTargetField_eq_ok_iff.1 h
    cases hd
  | setTargetTemperature kelvin rate =>
    obtain ⟨_, -, rfl⟩ := plan_setTargetTemperature_eq_ok_iff.1 h
    cases hd
  | startSimple | startCooldown | startDidv =>
    cases h
    cases hd
    exact ⟨rfl, rfl⟩
  | _ =>
    cases h
    cases hd

end CryoRig.Script

namespace CryoRig.Control

open Script Process

variable {I : Interface} {site : Site I} {tuning : Sampling.Tuning} {name : String}
  {protocol : Sampling.Protocol}

/-! ## Jobs that are started -/

/-- Every job that is started has a property, and the program desk, the token of the program and the
bus are left alone. -/
def SpawnsOnly (P : Job → Prop) : WorkRequest → Prop
  | .rig (.spawn job) => P job
  | .rig (.device r) => Request.OffBus (.device r)
  | .rig .tryDesk | .rig (.takeDesk _) | .rig .leaveDesk | .rig .program
  | .rig (.setProgram _) | .rig .programToken | .rig (.setProgramToken _) => False
  | _ => True

/-- Whatever is started, the bus is left alone. -/
lemma SpawnsOnly.offBus {P : Job → Prop} {q : WorkRequest} (h : SpawnsOnly P q) :
    q.Asks Request.OffBus := by
  cases q with
  | act => trivial
  | rig r =>
    cases r with
    | device r => exact h
    | _ => trivial

/-- The job runs a protocol under given settings. -/
def Job.Runs (site : Site I) (tuning : Sampling.Tuning) (protocol : Sampling.Protocol)
    (job : Job) : Prop :=
  ∃ token samples aggregates, job = jobFor site tuning token samples aggregates protocol

section Spawns

variable {P : Job → Prop} {α : Type} {console : Nat}

lemma SpawnsOnly.of_plain (q : WorkRequest) (h : q.Plain) : SpawnsOnly P q := by
  cases q with
  | act => trivial
  | rig r =>
    cases r with
    | device r => exact h.asks.2
    | _ => trivial

lemma spawns_of_plain {w : Working α} (h : w.AsksOnly WorkRequest.Plain) :
    w.AsksOnly (SpawnsOnly P) := h.mono SpawnsOnly.of_plain

lemma acquisitionActive_spawns : (acquisitionActive console).AsksOnly (SpawnsOnly P) := by
  refine AsksOnly.bind (asksOnly_request.2 trivial) fun a? => ?_
  cases a? with
  | none => trivial
  | some a =>
    refine AsksOnly.bind (asksOnly_request.2 trivial) fun hasEnded => ?_
    cases hasEnded with
    | false => trivial
    | true =>
      refine (spawns_of_plain (log_plain _)).bind fun _ => ?_
      exact AsksOnly.bind (asksOnly_request.2 trivial) fun _ => trivial

/-- The job that is started for an acquisition runs its protocol. -/
lemma startAcquisition_spawns :
    (startAcquisition site tuning name protocol).run.AsksOnly
      (SpawnsOnly (Job.Runs site tuning protocol)) := by
  refine AsksOnly.run_bind (asksOnly_request.2 trivial).run_lift fun _ => ?_
  refine AsksOnly.run_bind (asksOnly_request.2 trivial).run_lift fun token => ?_
  refine (spawns_of_plain (log_plain _)).run_lift.run_bind fun _ => ?_
  rw [ExceptT.run_bind]
  refine ((prepareJob_gives tuning _ token protocol).mono SpawnsOnly.of_plain
    fun _ => id).bind_asksOnly fun result hresult => ?_
  cases result with
  | error => trivial
  | ok job =>
    obtain ⟨samples, aggregates, hjob⟩ := hresult job rfl
    refine AsksOnly.run_bind (AsksOnly.run_lift (asksOnly_request.2 ?_)) fun _ => trivial
    exact ⟨token, samples, aggregates, hjob⟩

lemma startInSlot_spawns :
    (startInSlot site console tuning name protocol).run.AsksOnly
      (SpawnsOnly (Job.Runs site tuning protocol)) := by
  refine acquisitionActive_spawns.run_lift.run_bind fun active => ?_
  cases active with
  | true => exact (spawns_of_plain (log_plain _)).run_lift
  | false =>
    refine startAcquisition_spawns.run_bind fun _ => ?_
    refine (spawns_of_plain (log_plain _)).run_lift.run_bind fun _ => ?_
    exact AsksOnly.run_lift (asksOnly_request.2 trivial)

lemma stop_spawns (a : Acquisition) (limit : Duration) :
    (a.stop limit).AsksOnly (SpawnsOnly P) := by
  refine AsksOnly.bind (asksOnly_request.2 trivial) fun _ => ?_
  refine (spawns_of_plain now_plain).bind fun _ => ?_
  refine AsksOnly.bind (asksOnly_request.2 trivial) fun ending => ?_
  cases ending <;> exact (spawns_of_plain (log_plain _)).bind fun _ => trivial

lemma stopInSlot_spawns (limit : Duration) (line : Nat) :
    (stopInSlot console limit line).AsksOnly (SpawnsOnly P) := by
  refine AsksOnly.bind (asksOnly_request.2 trivial) fun a? => ?_
  refine AsksOnly.bind (asksOnly_request.2 trivial) fun _ => ?_
  cases a? with
  | none => exact spawns_of_plain (log_plain _)
  | some a => exact (stop_spawns a limit).bind fun _ => trivial

lemma underWay_spawns (what : Awaited) :
    (underWay console what).run.AsksOnly (SpawnsOnly P) := by
  cases what with
  | field => exact spawns_of_plain (actOrFail_plain _)
  | temperature => exact spawns_of_plain (actOrFail_plain _)
  | acquisition => exact acquisitionActive_spawns.run_lift

/-- The job runs what a deed starts. -/
def Job.StartedBy (site : Site I) (tuning : Sampling.Tuning) (deed : Deed) (job : Job) : Prop :=
  ∃ name protocol autorange, deed = .start name protocol autorange ∧
    job.Runs site { tuning with autorange := autorange.getD tuning.autorange } protocol

lemma perform_spawns (conduct : Conduct) (line : Nat) (deed : Deed) :
    (perform site conduct line deed).run.AsksOnly
      (SpawnsOnly (Job.StartedBy site conduct.tuning deed)) := by
  cases deed with
  | nothing => trivial
  | start name protocol autorange =>
    refine AsksOnly.run_bind (startInSlot_spawns.mono fun q hq => ?_) fun _ => trivial
    cases q with
    | act => trivial
    | rig r =>
      cases r with
      | spawn job => exact ⟨name, protocol, autorange, rfl, hq⟩
      | _ => exact hq
  | stop => exact (stopInSlot_spawns _ _).run_lift.run_bind fun _ => trivial
  | wait seconds =>
    refine (spawns_of_plain (log_plain _)).run_lift.run_bind fun _ => ?_
    exact (spawns_of_plain now_plain).run_lift.run_bind fun _ => trivial
  | waitFor what => exact (spawns_of_plain (log_plain _)).run_lift.run_bind fun _ => trivial
  | act a =>
    refine (spawns_of_plain (actOrFail_plain a)).run_bind fun _ => ?_
    exact (spawns_of_plain (logAll_plain _)).run_lift.run_bind fun _ => trivial

end Spawns

/-! ## Turns -/

/-- The settings that acquisitions are started with after given texts. -/
def tuningAfter (tuning : Sampling.Tuning) (before : List String) : Sampling.Tuning :=
  { tuning with autorange := (latest Command.autorange? before).getD tuning.autorange }

/-- Every acquisition was started for the line that was begun last: it runs the protocol that this
line asks for, with the settings that the lines before leave in force. -/
def StartedInLine (site : Site I) (conduct : Conduct) (texts : List String)
    (es : List (Exchange WorkSurroundings)) : Prop :=
  ∀ es₁ job (number : Nat) es₂, es = es₁ ++ ⟨.rig (.spawn job), number⟩ :: es₂ →
    ∃ before text after command protocol, texts = before ++ text :: after ∧
      (begun conduct.console es₁).getLast? = some (before.length + 1) ∧
      asked? text = some command ∧ protocol? before command = some protocol ∧
      job.Runs site (tuningAfter conduct.tuning before) protocol

namespace ProgramRun

variable {r : ProgramRun} {es es₁ es₂ : List (Exchange WorkSurroundings)} {job : Job}
  {number : Nat} {result : Turn ProgramRun Ending} {s : Script} {conduct : Conduct} {token : Nat}
  {texts : List String} {rest : Working (Turn ProgramRun Ending)}

/-- The job runs what the line that is next asks for. -/
def Starts (site : Site I) (r : ProgramRun) (l : Line) (job : Job) : Prop :=
  ∃ step, l.plan r.config = .ok step ∧ job.StartedBy site r.conduct.tuning step.deed

lemma report_spawns {P : Job → Prop} {event : Event} {state : ProgramState}
    {t : Turn ProgramRun Ending} {console : Nat} :
    (do log event; publish console state; pure t : Working (Turn ProgramRun Ending)).AsksOnly
      (SpawnsOnly P) :=
  (spawns_of_plain (log_plain event)).bind fun _ =>
    AsksOnly.bind (asksOnly_request.2 trivial) fun _ => trivial

lemma pauseFor_spawns {P : Job → Prop} {span : Duration} :
    (r.pauseFor span).AsksOnly (SpawnsOnly P) :=
  (spawns_of_plain (pause_plain _ _)).bind fun passed => by cases passed <;> trivial

/-- A line that is begun starts what its plan says and nothing else. -/
lemma begin_spawns {l : Line} {lines : List Line} :
    (r.begin site l lines).AsksOnly (SpawnsOnly (Starts site r l)) := by
  refine AsksOnly.bind (asksOnly_request.2 trivial) fun _ => ?_
  refine (spawns_of_plain (log_plain _)).bind fun _ => ?_
  cases hp : l.plan r.config with
  | error fault => exact report_spawns
  | ok step =>
    refine (spawns_of_plain (logAll_plain _)).bind fun _ => ?_
    refine ((perform_spawns _ _ _).mono fun q hq => ?_).bind fun phase? => ?_
    · cases q with
      | act => trivial
      | rig q =>
        cases q with
        | spawn job => exact ⟨step, hp, hq⟩
        | _ => exact hq
    · cases phase? with
      | error fault => exact report_spawns
      | ok phase => trivial

/-- In its other phases a run starts nothing. -/
lemma turn_spawns (h : r.phase ≠ .between ∨ r.lines = []) :
    (turn site r).AsksOnly (SpawnsOnly fun _ => False) := by
  cases hphase : r.phase with
  | opening announcements =>
    rw [turn_of_opening site hphase]
    exact (spawns_of_plain (logAll_plain _)).bind fun _ => trivial
  | between =>
    rw [turn_of_nil site hphase (h.resolve_left fun hne => hne hphase)]
    refine (spawns_of_plain (fired_plain _)).bind fun isFired => ?_
    cases isFired <;> exact report_spawns
  | sleeping until? =>
    exact (sleeping_yields (Q := fun _ => True) hphase trivial trivial (fun _ => trivial) trivial
      trivial).asksOnly
  | settling what =>
    rw [turn_of_settling site hphase]
    refine (underWay_spawns what).bind fun going => ?_
    match going with
    | .error fault => exact report_spawns
    | .ok false => trivial
    | .ok true => exact pauseFor_spawns

/-- No turn starts a program. -/
lemma turn_acquires : (turn site r).AsksOnly (SpawnsOnly fun job => ∀ run, job ≠ .program run) := by
  by_cases hnone : r.phase ≠ .between ∨ r.lines = []
  · refine (turn_spawns hnone).mono fun q hq => ?_
    cases q with
    | act => trivial
    | rig q =>
      cases q with
      | spawn job => exact hq.elim
      | _ => exact hq
  obtain ⟨hphase, hlines⟩ := not_or.1 hnone
  obtain ⟨l, lines, hl⟩ := List.exists_cons_of_ne_nil hlines
  rw [turn_of_cons site (not_not.1 hphase) hl]
  refine (spawns_of_plain (fired_plain _)).bind fun isFired => ?_
  cases isFired with
  | true => exact report_spawns
  | false =>
    refine begin_spawns.mono fun q hq => ?_
    cases q with
    | act => trivial
    | rig q =>
      cases q with
      | spawn job =>
        obtain ⟨-, -, -, protocol, -, -, -, -, -, rfl⟩ := hq
        cases protocol <;> rintro run ⟨⟩
      | _ => exact hq

/-- A turn begins the next line at most. -/
lemma Course.begun_prefix {l : Line} {lines : List Line} (h : Course r es result)
    (hl : r.lines = l :: lines) : begun r.conduct.console es <+: [l.number] := by
  rw [begun_eq_marks]
  rcases h.marks_prefix with hm | ⟨l', lines', hl', hm⟩
  · rw [hm]
    exact List.nil_prefix
  · obtain ⟨rfl, -⟩ := List.cons.inj (hl.symm.trans hl')
    have hline : (lineMarks l).filterMap Mark.line? = [l.number] := by
      simpa using lines_lineMarks [l]
    exact hline ▸ hm.filterMap Mark.line?

lemma begun_stated {κ line token : Nat} {isFired : Bool} :
    begun κ (⟨.rig (.fired token), isFired⟩ :: stated κ (.running line) :: es) =
      line :: begun κ es := by
  have hpublish : publishes κ (stated κ (.running line)) = some (.running line) := if_pos rfl
  rw [begun, published, List.filterMap_cons_none rfl, List.filterMap_cons_some hpublish]
  rfl

/-- A turn that starts an acquisition has begun the next line, and starts what its plan says. -/
lemma starts_of_ends (h : (turn site r).Ends es result)
    (hes : es = es₁ ++ ⟨.rig (.spawn job), number⟩ :: es₂) :
    ∃ l lines, r.lines = l :: lines ∧ begun r.conduct.console es₁ = [l.number] ∧
      Starts site r l job := by
  have hmem : (⟨.rig (.spawn job), number⟩ : Exchange WorkSurroundings) ∈ es := by simp [hes]
  by_cases hnone : r.phase ≠ .between ∨ r.lines = []
  · exact ((turn_spawns hnone).of_leads h _ hmem).elim
  obtain ⟨hphase, hlines⟩ := not_or.1 hnone
  obtain ⟨l, lines, hl⟩ := List.exists_cons_of_ne_nil hlines
  have hbegun := Course.begun_prefix (course_of_ends h) hl
  rw [turn_of_cons site (not_not.1 hphase) hl] at h
  obtain ⟨es₃, es₄, isFired, rfl, h₁, h₂⟩ := ends_bind_iff.1 h
  obtain rfl := ends_request_iff.1 h₁
  cases isFired with
  | true =>
    rcases List.mem_cons.1 hmem with heq | hmem
    · cases heq
    · exact ((report_spawns (P := fun _ => False)).of_leads h₂ _ hmem).elim
  | false =>
    obtain ⟨es₅, es₆, _, rfl, h₃, -⟩ := ends_bind_iff.1 h₂
    obtain rfl : es₅ = [stated r.conduct.console (.running l.number)] := ends_request_iff.1 h₃
    refine ⟨l, lines, hl, ?_, ?_⟩
    · -- the token was looked at and the line was published before
      obtain ⟨es₇, rfl⟩ : ∃ es₇, es₁ = ⟨.rig (.fired r.token), false⟩ ::
          stated r.conduct.console (.running l.number) :: es₇ := by
        match es₁, hes with
        | [], hes => cases hes
        | [_], hes => cases hes
        | _ :: _ :: es₇, hes =>
          cases hes
          exact ⟨es₇, rfl⟩
      rw [hes, begun_append] at hbegun
      have hle := (List.prefix_append _ _).trans hbegun
      rw [begun_stated] at hle ⊢
      rw [List.prefix_nil.1 (List.cons_prefix_cons.1 hle).2]
    · rcases List.mem_cons.1 hmem with heq | hmem
      · cases heq
      · exact begin_spawns.of_leads h₂ _ hmem

/-! ## Whole runs -/

/-- What holds between turns goes on to hold in the middle of the next one. -/
lemma Heeds.startedInLine {first : List Line} {es' : List (Exchange WorkSurroundings)}
    (hs : s.program = programFrom 1 texts) (h : Heeds s first r es)
    (hstarted : StartedInLine site r.conduct texts es) (hl : (turn site r).Leads es' rest) :
    StartedInLine site r.conduct texts (es ++ es') := by
  intro es₁ job number es₂ hsplit
  rcases append_eq_append_cons hsplit with ⟨es₃, rfl, h'⟩ | ⟨es₃, h'⟩
  · -- the acquisition is started in this turn
    obtain ⟨es'', result, he⟩ := exists_ends rest
    have hes : es' ++ es'' = es₃ ++ ⟨.rig (.spawn job), number⟩ :: (es₂ ++ es'') := by
      rw [h', List.append_assoc]
      rfl
    obtain ⟨l, lines, hlines, hbegun, step, hplan, name, protocol, autorange, hdeed, hruns⟩ :=
      starts_of_ends (hl.trans he) hes
    obtain ⟨before, text, after, htexts, rfl, hline⟩ :=
      exists_of_programFrom_eq (hs.symm.trans (hlines ▸ h.program_eq))
    obtain ⟨hnumber, hw⟩ := words_of_ofText? hline
    obtain ⟨-, hconfig, -⟩ := of_accumulate allInOrder_nil h.accumulated
    rw [hconfig, List.nil_append] at hplan
    obtain ⟨command, hread, hstep⟩ := exists_read_of_plan hplan
    obtain ⟨hprotocol, rfl⟩ := start_of_plan hstep hdeed
    refine ⟨before, text, after, command, protocol, htexts, ?_, ?_, hprotocol, hruns⟩
    · rw [begun_append, hbegun, List.getLast?_concat, hnumber, Nat.add_comm]
    · rw [asked?_of_words hw, hread]
      rfl
  · exact hstarted es₁ job number es₃ h'

lemma startedInLine_of_rounds {turns : List (ProgramRun × List (Exchange WorkSurroundings))}
    {t : Turn ProgramRun Ending} (hs : s.program = programFrom 1 texts)
    (h : Rounds (turn site) (start conduct token s) turns t) :
    StartedInLine site conduct texts (exchanges turns) := by
  induction h with
  | start => simp [StartedInLine]
  | next h ht ih =>
    obtain ⟨rfl, -, first, hheeds⟩ := heeds_of_rounds h
    rw [exchanges_append, exchanges_singleton]
    exact hheeds.startedInLine hs ih ht

/-- A run starts an acquisition for the line it has begun last and for nothing else, with what was
said last on the lines before. -/
theorem startedInLine_of_underway (hs : s.program = programFrom 1 texts)
    (h : Underway (turn site) (start conduct token s) es rest) :
    StartedInLine site conduct texts es := by
  obtain ⟨turns, r, es', hturns, hlead, rfl⟩ := h
  obtain ⟨rfl, -, first, hheeds⟩ := heeds_of_rounds hturns
  exact hheeds.startedInLine hs (startedInLine_of_rounds hs hturns) hlead

/-- What a check comes to and what a run starts can be told from the lines of a text.

A check ends with a duration exactly if every line can be read and has the settings it needs made on
lines before it. Else it complains about the first line of which that is not so, by its number in
the text. The duration is what the commands are charged for, added up from the left; a wait is
charged for the time it waits, a stepped sweep and a ramp for what follows from the lines before
them that said something last of the settings they need. Whatever a run starts, it starts for the
line begun last, and by the same rule. -/
theorem latest_settings (text : String) :
    (∀ console,
      (∃ es checked, (checkScript console (.load text)).run.Ends es checked) ∧
      ∀ es checked, (checkScript console (.load text)).run.Ends es checked →
        ((∃ seconds, checked = .ok seconds) ↔ AllInOrder (Text.lines text)) ∧
        (∀ fault, checked = .error fault → ∃ before line after complaint,
          Text.lines text = before ++ line :: after ∧ AllInOrder before ∧ ¬InOrder before line ∧
            fault = .line ⟨before.length + 1, complaint⟩) ∧
        (∀ seconds, checked = .ok seconds → ∃ charges : List Float,
          (commands [] (Text.lines text)).map (fun p => seconds? p.1 p.2) = charges.map some ∧
            seconds = charges.foldl (· + ·) 0)) ∧
    (∀ {J : Interface} (site : Site J) (conduct : Conduct) (token : Nat)
      (es : List (Exchange WorkSurroundings)) (rest : Working (Turn ProgramRun Ending)),
      Underway (turn site) (start conduct token (.load text)) es rest →
        StartedInLine site conduct (Text.lines text) es) := by
  have hs := program_load text
  refine ⟨fun console => ⟨exists_ends _, fun es checked h => ?_⟩,
    fun site conduct token es rest h => startedInLine_of_underway hs h⟩
  obtain rfl := checkScript_ends h
  refine ⟨?_, fun fault hfault => ?_, fun seconds hseconds => ?_⟩
  · rw [← exists_estimate_iff hs]
    cases estimate (.load text) <;> simp [Except.mapError]
  · cases he : estimate (.load text) with
    | ok seconds =>
      rw [he] at hfault
      cases hfault
    | error cause =>
      obtain ⟨before, line, after, hlines, hb, hnot, hnumber⟩ := exists_of_estimate_error hs he
      rw [he] at hfault
      cases hfault
      exact ⟨before, line, after, cause.complaint, hlines, hb, hnot, by rw [← hnumber]⟩
  · exact (of_estimate hs (exists_ok_of_mapError hseconds)).2

/-- Replies with which an acquisition is started. -/
def readily : (r : WorkRequest) → r.Reply
  | .act (.prepare _) => (.ok () : Except DeviceFault Unit)
  | .act a => (.error (.notAttached "") : Except DeviceFault a.Result)
  | .rig r =>
    match r with
    | .device r =>
      match r with
      | .write .. => (none : Option (Except DeviceFault Unit))
      | .query .. => (none : Option (Except DeviceFault String))
      | .seize | .release | .sleep _ | .log _ => ()
    | .bench a => (.error (.notAttached "") : Except DeviceFault a.Result)
    | .calendar => (⟨2026, 1, 1, 0, 0⟩ : Calendar)
    | .clock | .newToken | .spawn _ | .programToken => (0 : Nat)
    | .fired _ | .pause .. | .ended _ | .tryDesk | .takeDesk _ => false
    | .join .. => (none : Option Ending)
    | .slot _ => (none : Option Acquisition)
    | .program => (none : Option Nat)
    | .published _ => ProgramState.idle
    | .create _ => (.ok 0 : Except StorageFault Nat)
    | .append .. => (.ok () : Except StorageFault Unit)
    | .fire _ | .publish .. | .present .. | .setSlot .. | .leaveDesk | .setProgram _
    | .setProgramToken _ => ()

/-- Whether a job is started. -/
def isSpawn (e : Exchange WorkSurroundings) : Bool :=
  match (e.request : WorkRequest) with
  | .rig (.spawn _) => true
  | _ => false

/-- A script that has ranges raised for the acquisition it starts. -/
def raisingText : String := "config autorange on\nstart-simple R"

/-- How it is run: without raising ranges, unless the script says so. -/
def raisingConduct : Conduct where
  console := 0
  poll := .ofSeconds 1
  stopLimit := .ofSeconds 1
  tuning :=
    { tickInterval := .ofSeconds 1
      statusCheckEvery := 1
      overloadThreshold := 1
      fieldStepRate := 0
      autorange := false
      dataDir := "data"
      sample := "S" }

lemma lines_raisingText :
    Text.lines raisingText = ["config autorange on", "start-simple R"] := by decide

lemma words_autorange : Text.words "config autorange on" = ["config", "autorange", "on"] := by
  decide

lemma words_simple : Text.words "start-simple R" = ["start-simple", "R"] := by decide

lemma read_autorange :
    Command.read "config" ["autorange", "on"] = .ok (.config (.autorange true)) := by
  have hlower : "on".toLower = "on" := by decide +kernel
  have hname : Operation.ofName? "config" = some .config := Operation.ofName?_name .config
  simp [Command.read, hname, Command.ofArguments, readSetting, hlower, Except.mapError, bind,
    Except.bind, pure, Except.pure]

lemma asked?_autorange : asked? "config autorange on" = some (.config (.autorange true)) := by
  rw [asked?_of_words words_autorange, read_autorange]
  rfl

lemma asked?_simple : asked? "start-simple R" = some (.startSimple "R") :=
  asked?_of_words words_simple

lemma allInOrder_raisingText : AllInOrder (Text.lines raisingText) := by
  have hfirst : InOrder [] "config autorange on" := by
    constructor <;> simp [words_autorange, asked?_autorange]
    exact ⟨_, read_autorange⟩
  have hsecond : InOrder ["config autorange on"] "start-simple R" := by
    constructor <;> simp [words_simple, asked?_simple]
    exact ⟨_, rfl⟩
  rw [lines_raisingText]
  exact (allInOrder_nil.concat hfirst).concat hsecond

/-- A run of the script starts an acquisition. -/
lemma exists_underway_raising : ∃ es₁ job number es₂ rest,
    Underway (turn Site.bench) (start raisingConduct 0 (.load raisingText))
      (es₁ ++ ⟨.rig (.spawn job), (number : Nat)⟩ :: es₂) rest := by
  have hload : Script.load raisingText = ⟨["config autorange on", "start-simple R"]⟩ := by
    decide
  rw [hload]
  have opening : (turn Site.bench
      (start raisingConduct 0 ⟨["config autorange on", "start-simple R"]⟩)).Ends
      [reported .rule, reported (.scriptLine "config autorange on"),
        reported (.scriptLine "start-simple R"), reported .rule]
      (.again ⟨raisingConduct, 0, .between, 0,
        [⟨1, "config", ["autorange", "on"]⟩, ⟨2, "start-simple", ["R"]⟩], .empty, 0⟩) :=
    .step (.step (.step (.step (.refl _))))
  have hplan : (Line.mk 1 "config" ["autorange", "on"]).plan .empty =
      .ok ⟨[], .nothing, 0, RunConfig.empty.set (.autorange true)⟩ := by
    rw [plan_of_read read_autorange]
    rfl
  have first : (turn Site.bench ⟨raisingConduct, 0, .between, 0,
      [⟨1, "config", ["autorange", "on"]⟩, ⟨2, "start-simple", ["R"]⟩], .empty, 0⟩).Ends
      [⟨.rig (.fired 0), false⟩, stated 0 (.running 1),
        reported (.processing 1 "config" ["autorange", "on"])]
      (.again ⟨raisingConduct, 0, .between, 1, [⟨2, "start-simple", ["R"]⟩],
        RunConfig.empty.set (.autorange true), 0 + 0⟩) := by
    refine .step (.step (.step ?_))
    dsimp only [Process.bind]
    rw [hplan]
    exact .refl _
  have second := ends_answered readily (turn Site.bench ⟨raisingConduct, 0, .between, 1,
    [⟨2, "start-simple", ["R"]⟩], RunConfig.empty.set (.autorange true), 0 + 0⟩)
  have hany : ((turn Site.bench ⟨raisingConduct, 0, .between, 1, [⟨2, "start-simple", ["R"]⟩],
      RunConfig.empty.set (.autorange true), 0 + 0⟩).answered readily).1.any isSpawn = true := by
    decide +kernel
  obtain ⟨⟨q, number⟩, he, hspawn⟩ := List.any_eq_true.1 hany
  obtain ⟨job, rfl⟩ : ∃ job, q = .rig (.spawn job) := by
    unfold isSpawn at hspawn
    split at hspawn
    · exact ⟨_, ‹_›⟩
    · cases hspawn
  obtain ⟨es₁, es₂, hes⟩ := List.append_of_mem he
  rw [hes] at second
  exact ⟨_, job, number, es₂, _, _, _, _, .next (.next .start opening) first, second,
    (List.append_assoc ..).trans rfl⟩

/-- A check of the script ends with a duration, and a run of it starts an acquisition that raises
ranges though the rig is told not to. -/
theorem latest_settings_raising :
    (∃ es seconds, (checkScript 0 (.load raisingText)).run.Ends es (.ok seconds)) ∧
      raisingConduct.tuning.autorange = false ∧
      ∃ es t number es' rest,
        Underway (turn Site.bench) (start raisingConduct 0 (.load raisingText))
          (es ++ ⟨.rig (.spawn (.ticking t)), (number : Nat)⟩ :: es') rest ∧
        t.tuning.autorange = true := by
  obtain ⟨hcheck, hrun⟩ := latest_settings raisingText
  refine ⟨?_, rfl, ?_⟩
  · obtain ⟨⟨es, checked, hes⟩, h⟩ := hcheck 0
    obtain ⟨seconds, rfl⟩ := (h es checked hes).1.2 allInOrder_raisingText
    exact ⟨es, seconds, hes⟩
  · obtain ⟨es, job, number, es', rest, hunder⟩ := exists_underway_raising
    obtain ⟨before, text, after, command, protocol, hlines, -, hasked, hprotocol, token, samples,
      aggregates, rfl⟩ := hrun _ _ _ _ _ hunder es job number es' rfl
    rw [lines_raisingText] at hlines
    rcases before with _ | ⟨first, _ | ⟨second, before⟩⟩
    · obtain ⟨rfl, -⟩ : "config autorange on" = text ∧ _ := by simpa using hlines
      rw [asked?_autorange] at hasked
      cases hasked
      cases hprotocol
    · obtain ⟨rfl, rfl, -⟩ : "config autorange on" = first ∧ "start-simple R" = text ∧ _ := by
        simpa using hlines
      rw [asked?_simple] at hasked
      cases hasked
      cases hprotocol
      refine ⟨es, _, number, es', rest, hunder, ?_⟩
      simp [Ticking.fresh, tuningAfter, latest, asked?_autorange, Command.autorange?]
    · simp at hlines

end ProgramRun

end CryoRig.Control
