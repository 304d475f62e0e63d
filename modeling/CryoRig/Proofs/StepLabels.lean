import CryoRig.Proofs.DataFiles
import CryoRig.Proofs.JobTurns
import CryoRig.Proofs.RowsKept
import CryoRig.Proofs.StepCommands
import CryoRig.Proofs.SweepAborted

/-!
# The commands behind a row of aggregates

A row of aggregates is labelled with a value. The last commands that the acquisition has sent for
the quantity before it puts the row into its file have set this value, on every instrument that is
addressed; or it was reported that there is no gate source, or that it does not put out a voltage.

## Main results

* `CryoRig.Control.row_of_rounds`: so it is with every row of a run.
* `CryoRig.Control.row_after_setting`: so it is in every acquisition that was prepared.
* `CryoRig.Rig.Scene.Shift.row_of_spawned`: and whatever else happens on the rig meanwhile.
-/

namespace CryoRig

open Process

namespace Control

open Instrument Sampling

variable {f : Settings.Facility} {es es' : List (Exchange RigSurroundings)}

/-- The turns of sampling on a rig are its own turns, carried out at the site. -/
lemma exists_rounds_of_ticking {site : Site RigSurroundings} {t₀ : Ticking}
    {turns : List (Job × List (Exchange RigSurroundings))} {result : Turn Job Ending}
    (h : Rounds (Rig.turnOf site) (.ticking t₀) turns result) :
    ∃ (ticks : List (Ticking × List (Exchange WorkSurroundings))) (ticked : Turn Ticking Ending)
      (blocks : List (Block WorkSurroundings RigSurroundings)),
      Rounds Ticking.turn t₀ ticks ticked ∧ result = Rig.mapTurn .ticking ticked ∧
      exchanges turns = blocks.flatMap Block.path ∧
      exchanges ticks = blocks.map Block.exchange ∧ ∀ b ∈ blocks, b.By (ofWork site) := by
  have hturn (t : Ticking) : Rig.turnOf site (.ticking t) =
      carryOut site (Rig.mapTurn .ticking <$> t.turn) := by
    rw [← bind_pure_comp]
    rfl
  obtain ⟨ticks, ticked, hrounds, rfl, blocks, hexchange, hpath, hby⟩ :=
    Rig.exists_own_rounds hturn h
  exact ⟨ticks, ticked, blocks, hrounds, rfl, hpath, hexchange, hby⟩

/-- An element of lists in sequence is in one of them. -/
lemma flatMap_eq_append_cons {β γ : Type} {bs : List β} {g : β → List γ} {before after : List γ}
    {e : γ} (h : bs.flatMap g = before ++ e :: after) :
    ∃ first b last zs zs', bs = first ++ b :: last ∧ g b = zs ++ e :: zs' ∧
      before = first.flatMap g ++ zs := by
  induction bs generalizing before with
  | nil => simp at h
  | cons b bs ih =>
    rw [List.flatMap_cons] at h
    rcases append_eq_append_cons h with ⟨zs, rfl, hzs⟩ | ⟨zs, hb⟩
    · obtain ⟨first, b', last, ys, ys', rfl, hb', rfl⟩ := ih hzs
      exact ⟨b :: first, b', last, ys, ys', rfl, hb', by simp⟩
    · exact ⟨[], b, bs, before, zs, rfl, hb, rfl⟩

variable {t₀ : Ticking} {parameter : Parameter} {value rate : Float} {file : Nat}

lemma SetTo.append (h : SetTo f rate parameter value es)
    (hnone : commands (f.header parameter) es' = []) :
    SetTo f rate parameter value (es ++ es') := by
  have happend : commands (f.header parameter) (es ++ es') =
      commands (f.header parameter) es := by
    rw [commands_append, hnone, List.append_nil]
  rcases h with ⟨hset, hempty⟩ | ⟨rfl, hset, hreported⟩
  · exact .inl ⟨happend.trans hset, hempty⟩
  · refine .inr ⟨rfl, happend.trans hset, ?_⟩
    rcases hreported with ⟨hg, hm⟩ | ⟨id, actual, hg, hne, hm⟩
    · exact .inl ⟨hg, List.mem_append_left _ hm⟩
    · exact .inr ⟨id, actual, hg, hne, List.mem_append_left _ hm⟩

/-- A row that sampling puts into a file is a block of its own. -/
lemma path_eq_of_append {b : Block WorkSurroundings RigSurroundings}
    {zs zs' : List (Exchange RigSurroundings)} {text : String} {reply : Except StorageFault Unit}
    (hb : b.By (ofWork (onSite f))) (h : b.path = zs ++ ⟨.append file text, reply⟩ :: zs') :
    zs = [] ∧ b.exchange = ⟨.rig (.append file text), reply⟩ := by
  obtain ⟨⟨r, r'⟩, path⟩ := b
  cases r with
  | rig r =>
    obtain rfl : path = [⟨r, r'⟩] := ends_request_iff.1 hb
    cases zs with
    | nil =>
      cases h
      exact ⟨rfl, rfl⟩
    | cons z zs => cases zs <;> cases h
  | act a =>
    obtain ⟨said, rfl, -⟩ := exists_said hb
    have hm : (⟨.append file text, reply⟩ : Exchange RigSurroundings) ∈ said.map onRig := by
      rw [show said.map onRig = _ from h]
      exact List.mem_append_right _ List.mem_cons_self
    obtain ⟨e, -, he⟩ := List.mem_map.1 hm
    cases he

/-- In a run of a stepped acquisition at a facility, every row of aggregates is labelled with the
value that the last commands before it have set.

**Proof sketch.** The turns on the rig are those of the acquisition, carried out at the facility
(`exists_rounds_of_ticking`). There the row is labelled with a target that the device took, and
nothing was set since (`Ticking.labelled_of_rounds`). Taking it has sent the commands
(`setTo_of_applyStep`), and what came after it has sent none (`commands_of_watches`). -/
lemma row_of_rounds {width : Nat} {targets : List Float} {relax measure : Float}
    {turns : List (Job × List (Exchange RigSurroundings))} {result : Turn Job Ending}
    {before after : List (Exchange RigSurroundings)} {text : String}
    {reply : Except StorageFault Unit}
    (hl : t₀.ledger = .start width (some (.start parameter targets relax measure)))
    (ha : t₀.aggregates = some file) (hf : t₀.samples ≠ file)
    (hn : t₀.lockins = f.lockins.length)
    (h : Rounds (Rig.turnOf (onSite f)) (.ticking t₀) turns result)
    (hrow : exchanges turns = before ++ ⟨.append file text, reply⟩ :: after) :
    ∃ target readings early since, text = Table.values target readings ∧
      before = early ++ since ∧ SetTo f t₀.tuning.fieldStepRate parameter target since := by
  obtain ⟨ticks, ticked, blocks, hrounds, -, hpath, hexchange, hby⟩ := exists_rounds_of_ticking h
  obtain ⟨first, b, last, zs, zs', rfl, hb, rfl⟩ :=
    flatMap_eq_append_cons (hpath.symm.trans hrow)
  obtain ⟨hfirst, hrest⟩ := List.forall_mem_append.1 hby
  obtain ⟨rfl, hwrite⟩ := path_eq_of_append (hrest b List.mem_cons_self) hb
  rw [List.map_append, List.map_cons, hwrite] at hexchange
  obtain ⟨target, readings, htext, early, entry, late, hsplit, hentry, hlate⟩ :=
    Ticking.labelled_of_rounds hl ha hf hrounds _ _ _ _ hexchange
  obtain ⟨b₁, b₂₃, rfl, rfl, hmap⟩ := List.map_eq_append_iff.1 hsplit
  obtain ⟨b₂, b₃, rfl, rfl, rfl⟩ := List.map_eq_append_iff.1 hmap
  obtain ⟨-, hby₂₃⟩ := List.forall_mem_append.1 hfirst
  obtain ⟨hby₂, hby₃⟩ := List.forall_mem_append.1 hby₂₃
  have hquiet : ∀ b ∈ b₃, WorkRequest.Watches file b.exchange.request :=
    fun b hb => hlate _ (List.mem_map_of_mem hb)
  refine ⟨target, readings, b₁.flatMap Block.path, (b₂ ++ b₃).flatMap Block.path, htext,
    by simp, ?_⟩
  rw [List.flatMap_append]
  exact (setTo_of_applyStep hn hby₂ hentry).append (commands_of_watches parameter hby₃ hquiet)

section Prepared

variable {tuning : Tuning} {paths : DataPaths} {token : Nat} {targets : List Float}
  {relax measure : Float}

/-- An acquisition that was prepared for a sweep is at its beginning. -/
lemma exists_fresh_of_ends {es₀ : List (Exchange WorkSurroundings)}
    (h : (prepareJob (onSite f) tuning paths token
      (.stepped (.start parameter targets relax measure))).run.Ends es₀ (.ok (.ticking t₀))) :
    ∃ samples aggregates, t₀ = .fresh (onSite f) tuning token .stepped samples (some aggregates)
      (some (.start parameter targets relax measure)) := by
  obtain ⟨samples, aggregates, hjob⟩ := ((prepareJob_gives _ _ _ _).of_ends h).2 _ rfl
  exact ⟨samples, aggregates, Job.ticking.inj hjob⟩

/-- A facility has as many lock-ins as it is wired to. -/
lemma lockins_onSite (f : Settings.Facility) : (onSite f).lockins = f.lockins.length := by
  cases f <;> rfl

lemma row_of_fresh {samples : Nat} {turns : List (Job × List (Exchange RigSurroundings))}
    {result : Turn Job Ending} {before after : List (Exchange RigSurroundings)} {text : String}
    {reply : Except StorageFault Unit}
    (ht₀ : t₀ = .fresh (onSite f) tuning token .stepped samples (some file)
      (some (.start parameter targets relax measure)))
    (hf : samples ≠ file) (h : Rounds (Rig.turnOf (onSite f)) (.ticking t₀) turns result)
    (hrow : exchanges turns = before ++ ⟨.append file text, reply⟩ :: after) :
    ∃ target readings early since, text = Table.values target readings ∧
      before = early ++ since ∧ SetTo f tuning.fieldStepRate parameter target since := by
  have hledger : t₀.ledger = .start ((onSite f).layout .stepped).length
      (some (.start parameter targets relax measure)) := by rw [ht₀]; rfl
  have haggregates : t₀.aggregates = some file := by rw [ht₀]; rfl
  have hsamples : t₀.samples ≠ file := by rw [ht₀]; exact hf
  have hlockins : t₀.lockins = f.lockins.length := by rw [ht₀]; exact lockins_onSite f
  have htuning : t₀.tuning = tuning := by rw [ht₀]; rfl
  rw [← htuning]
  exact row_of_rounds hledger haggregates hsamples hlockins h hrow

/-- **Every row of aggregates is labelled with what was set.** At any facility, for any quantity
that is stepped, in any run of the acquisition that was prepared for it and whatever the instruments
reply: a row that it puts into the file of the aggregates is labelled with a value, and the last
commands for the quantity that it has sent before are those that set this value, one for each
instrument that is addressed and in order, and all of them were taken. There are such commands,
unless all lock-ins are addressed and there is none. Only for the gate voltage there may be none
instead, and then it was reported that there is no gate source, or that it does not put out a
voltage. -/
theorem row_after_setting {es₀ : List (Exchange WorkSurroundings)}
    {turns : List (Job × List (Exchange RigSurroundings))} {result : Turn Job Ending}
    {before after : List (Exchange RigSurroundings)} {text : String}
    {reply : Except StorageFault Unit}
    (hprep : (prepareJob (onSite f) tuning paths token
      (.stepped (.start parameter targets relax measure))).run.Ends es₀ (.ok (.ticking t₀)))
    (ha : t₀.aggregates = some file) (hf : t₀.samples ≠ file)
    (h : Rounds (Rig.turnOf (onSite f)) (.ticking t₀) turns result)
    (hrow : exchanges turns = before ++ ⟨.append file text, reply⟩ :: after) :
    ∃ target readings early since, text = Table.values target readings ∧
      before = early ++ since ∧ SetTo f tuning.fieldStepRate parameter target since := by
  obtain ⟨samples, aggregates, ht₀⟩ := exists_fresh_of_ends hprep
  rw [ht₀] at ha hf
  cases ha
  exact row_of_fresh ht₀ hf h hrow

end Prepared

/-! ## A sweep of a gate -/

/-- A refrigerator with a bridge and nothing else, but for a gate source. -/
def gateWiring (gate : Option String) : Site.RefrigeratorWiring :=
  ⟨[], none, "bridge", gate, none, none, false, false, false⟩

/-- Replies of a rig where everything goes well: the gate source puts out a voltage, and the bridge
shows a temperature. -/
def gateReplies : (r : RigSurroundings.Request) → RigSurroundings.Reply r
  | .device (.write ..) => (some (.ok ()) : Option (Except DeviceFault Unit))
  | .device (.query _ command) =>
    (some (.ok (if command = ":SOUR:FUNC?" then "VOLT" else if command = "SCAN?" then "6,0"
      else "4.2")) : Option (Except DeviceFault String))
  | .pause .. => true
  | r => ProgramRun.readily (.rig r)

/-- The preparation of a sweep of the gate over one target. -/
def gatePreparation : Risky Job :=
  prepareJob (onSite (.refrigerator (gateWiring (some "gate"))))
    ⟨.ofSeconds 1, 10, 3, 0.1, false, "data", "sample"⟩ ⟨"raw", "proc", "didv"⟩ 7
    (.stepped (.start .gateVoltage [0.5] 0 0))

/-- The sweep before its first tick. -/
def gateSampling : Ticking :=
  .fresh (onSite (.refrigerator (gateWiring (some "gate"))))
    ⟨.ofSeconds 1, 10, 3, 0.1, false, "data", "sample"⟩ 7 .stepped 0 (some 1)
    (some (.start .gateVoltage [0.5] 0 0))

/-- A turn of a job, with these replies. -/
def gateTurn (job : Job) : List (Exchange RigSurroundings) × Turn Job Ending :=
  (Rig.turnOf (onSite (.refrigerator (gateWiring (some "gate")))) job).answered gateReplies

lemma ends_gateTurn (job : Job) :
    (Rig.turnOf (onSite (.refrigerator (gateWiring (some "gate")))) job).Ends (gateTurn job).1
      (gateTurn job).2 := ends_answered gateReplies _

/-- Whether a row is put into the second file. -/
def isRow (e : Exchange RigSurroundings) : Bool :=
  match (e.request : Request) with
  | .append 1 _ => true
  | _ => false

/-- Whether a row is put into the second file on the turn that comes next. -/
def rowNext : Turn Job Ending → Bool
  | .again job => (gateTurn job).1.any isRow
  | .over _ => false

lemma exists_of_rowNext {next : Turn Job Ending} (h : rowNext next = true) :
    ∃ job text reply before after, next = .again job ∧
      (gateTurn job).1 = before ++ ⟨.append 1 text, reply⟩ :: after := by
  unfold rowNext at h
  split at h
  · next job =>
    obtain ⟨⟨r, reply⟩, he, hrow⟩ := List.any_eq_true.1 h
    obtain ⟨text, rfl⟩ : ∃ text, r = .append 1 text := by
      unfold isRow at hrow
      split at hrow
      · exact ⟨_, ‹_›⟩
      · cases hrow
    obtain ⟨before, after, hsplit⟩ := List.append_of_mem he
    exact ⟨job, text, reply, before, after, rfl, hsplit⟩
  · cases h

/-- A sweep of the gate sets its target on the first tick and writes its row on the second. The row
is labelled with what was set. -/
theorem row_after_setting_gate :
    ∃ es₀ turns result before text reply after,
      gatePreparation.run.Ends es₀ (.ok (.ticking gateSampling)) ∧
      Rounds (Rig.turnOf (onSite (.refrigerator (gateWiring (some "gate")))))
        (.ticking gateSampling) turns result ∧
      exchanges turns = before ++ ⟨.append 1 text, reply⟩ :: after ∧
      ∃ target readings early since, text = Table.values target readings ∧
        before = early ++ since ∧
        SetTo (.refrigerator (gateWiring (some "gate"))) 0.1 .gateVoltage target since := by
  have hprep : gatePreparation.run.Ends _ (.ok (.ticking gateSampling)) :=
    ends_answered benchReplies gatePreparation.run
  have hnext : rowNext (gateTurn (.ticking gateSampling)).2 = true := by decide +kernel
  obtain ⟨job, text, reply, before, after, hjob, hrow⟩ := exists_of_rowNext hnext
  have first : (Rig.turnOf (onSite (.refrigerator (gateWiring (some "gate"))))
      (.ticking gateSampling)).Ends (gateTurn (.ticking gateSampling)).1 (.again job) := by
    rw [← hjob]
    exact ends_gateTurn _
  have second : Rounds (Rig.turnOf (onSite (.refrigerator (gateWiring (some "gate")))))
      (.ticking gateSampling) _ (gateTurn job).2 :=
    .next (.next .start first) (ends_gateTurn job)
  have hsplit : exchanges ([] ++ [(Job.ticking gateSampling,
      (gateTurn (.ticking gateSampling)).1)] ++ [(job, (gateTurn job).1)]) =
      ((gateTurn (.ticking gateSampling)).1 ++ before) ++ ⟨.append 1 text, reply⟩ :: after := by
    rw [List.nil_append, exchanges_append, exchanges_singleton, exchanges_singleton, hrow,
      List.append_assoc]
  exact ⟨_, _, _, _, _, _, _, hprep, second, hsplit,
    row_after_setting hprep rfl (by decide) second hsplit⟩

end Control

/-! ## The whole rig -/

namespace Rig

open Control Sampling

/-- **On the whole rig a row is labelled with what was set.** Whatever else happens meanwhile, and
whether or not the acquisition has ended: before it puts a row into the file of its aggregates, the
last commands that it has sent for the quantity are those that set the value in the label. -/
theorem Scene.Shift.row_of_spawned {α : Type} {c d : Scene α} {f : Settings.Facility}
    {told first rest : List (Party × Exchange RigSurroundings)} {p : Party} {tuning : Tuning}
    {token samples file : Nat} {parameter : Parameter} {targets : List Float}
    {relax measure : Float} {number : Nat} {before after : List (Exchange RigSurroundings)}
    {text : String} {reply : Except StorageFault Unit} (h : Shift (onSite f) c told d)
    (htold : told = first ++ (p, ⟨.spawn (jobFor (onSite f) tuning token samples file
      (.stepped (.start parameter targets relax measure))), number⟩) :: rest)
    (hf : samples ≠ file)
    (hrow : toldTo (.job number) rest = before ++ ⟨.append file text, reply⟩ :: after) :
    ∃ target readings early since, text = Table.values target readings ∧
      before = early ++ since ∧ SetTo f tuning.fieldStepRate parameter target since := by
  obtain ⟨e, e', asked, -, hspawn, hafter⟩ := h.split htold
  obtain ⟨turns, result, more, hrounds, hes⟩ : ∃ turns result more,
      Rounds (turnOf (onSite f)) (jobFor (onSite f) tuning token samples file
        (.stepped (.start parameter targets relax measure))) turns result ∧
      exchanges turns = toldTo (.job number) rest ++ more := by
    rcases hafter.rounds hspawn.spawned with ⟨y, -, hbegun⟩ | ⟨turns, ending, -, -, hrounds, hes⟩
    · obtain ⟨turns, result, hrounds, hes⟩ :=
        hbegun.exists_rounds fun r => ProgramRun.readily (.rig r)
      exact ⟨turns, result, _, hrounds, hes⟩
    · exact ⟨turns, _, [], hrounds, by rw [hes, List.append_nil]⟩
  rw [hrow, List.append_assoc, List.cons_append] at hes
  exact row_of_fresh rfl hf hrounds hes

/-! ## A sweep without a gate -/

/-- A sweep of the gate is about to be started on a refrigerator that has none. -/
def gateless : Scene Unit where
  state := { State.initial ⟨2024, 1, 1, 0, 0⟩ with
    attached := [("bridge", ⟨0, [("SCAN?", [.reply "6,0"]), ("RDGK? 6", [.reply "4.2"])],
      .nothing⟩)] }
  foreground := .running (carryOut (onSite (.refrigerator (gateWiring none)))
    (startAcquisition (onSite (.refrigerator (gateWiring none))) plainTuning "g"
      (.stepped (.start .gateVoltage [0.5] 0 0))).run >>= joined)
  current := none
  fresh := false

/-- The file of its aggregates. -/
def gatelessPath : String := "data/2024-01-01/20240101-0000-sample-g-proc.txt"

/-- What is in that file before the first row. -/
def gatelessHead : String :=
  String.join ((Table.header (Table.aggregateColumns .gateVoltage
    ((onSite (.refrigerator (gateWiring none))).layout .stepped))).map Table.row)

/-- Its first row: only the temperature was read. -/
def gatelessRow : String :=
  Table.values 0.5 (List.replicate 20 none ++ [some 4.2, some 0] ++ List.replicate 6 none)

/-- On a refrigerator without a gate source a sweep of the gate comes to its end. A row is labelled
with its target, and no level was ever sent over the bus. -/
theorem row_unset_gateless :
    (gateless.follow (onSite (.refrigerator (gateWiring none))) 40).foreground =
      .running (.done ()) ∧
    (gateless.follow (onSite (.refrigerator (gateWiring none))) 40).state.files.read gatelessPath =
      .ok (gatelessHead ++ gatelessRow) ∧
    ∀ t ∈ (gateless.follow (onSite (.refrigerator (gateWiring none))) 40).state.traffic,
      ¬":SOURCE:LEVEL ".toList <+: t.command.toList := by
  refine ⟨Foreground.eq_of_isDone ?_, FileStore.read_of_toOption ?_, ?_⟩ <;> decide +kernel

end Rig

end CryoRig
