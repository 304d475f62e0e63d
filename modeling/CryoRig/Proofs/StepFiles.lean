import CryoRig.Control.Sampling
import CryoRig.Proofs.Requests
import CryoRig.Proofs.StepBlocks

/-!
# What a stepped acquisition writes

The ticks of an acquisition are told from what it asks and what is replied: when the clock is read,
what the channels are, which targets the device took. So are the rows it puts into its files. In a
stepped acquisition the rows of the first file are the ticks that belong to a step, and the rows of
the second are the aggregates of the blocks these ticks are cut into.

## Main definitions

* `CryoRig.Control.Sighting`: what is seen of an exchange.
* `CryoRig.Control.Ticking.ticks`: the ticks of a run in which every channel was read.
* `CryoRig.Control.rows`: the rows that are put into a file.

## Main results

* `CryoRig.Control.Ticking.turn_sightings`: what is seen of one turn, and what it leaves behind.
* `CryoRig.Control.Ticking.writes_blocks`: what is written in the whole run.
-/

namespace CryoRig.Control

open Sampling Process

/-! ## Sightings -/

/-- What is seen of an exchange. -/
inductive Sighting where
  /-- The clock was read. -/
  | clock (ms : Nat)
  /-- Every channel was read. -/
  | read (values : List (Option Float))
  /-- A row was put into a file. -/
  | row (file : Nat) (text : String)
  /-- A step was closed. -/
  | closed (target : Float)
  /-- The device took a target. -/
  | entered (target : Float)

namespace Sighting

/-- The step that is closed. -/
def closed? : Sighting → Option Float
  | closed target => some target
  | _ => none

/-- The target that the device took. -/
def entered? : Sighting → Option Float
  | entered target => some target
  | _ => none

/-- The row that is put into a file. -/
def row? (file : Nat) : Sighting → Option String
  | row file' text => if file' = file then some text else none
  | _ => none

end Sighting

/-- What is seen of an exchange, if anything. -/
def sighting : Exchange WorkSurroundings → Option Sighting
  | ⟨WorkRequest.rig .clock, (ms : Nat)⟩ => some (.clock ms)
  | ⟨WorkRequest.act (.readChannels _), (outcome : Except DeviceFault (List (Option Float)))⟩ =>
    match outcome with
    | .ok values => some (.read values)
    | .error _ => none
  | ⟨WorkRequest.rig (.append file text), _⟩ => some (.row file text)
  | ⟨WorkRequest.rig (.device (.log (.stepClosed _ target))), _⟩ => some (.closed target)
  | ⟨WorkRequest.rig (.device (.log (.stepEntered _ target))), _⟩ => some (.entered target)
  | _ => none

/-- What is seen of exchanges, in order. -/
def sightings (es : List (Exchange WorkSurroundings)) : List Sighting := es.filterMap sighting

/-- Whether nothing is seen of a request, whatever the reply. -/
def Unseen (r : WorkRequest) : Prop := ∀ reply : r.Reply, sighting ⟨r, reply⟩ = none

/-- Nothing is seen of what tends to an instrument. -/
lemma WorkRequest.Tends.unseen (r : WorkRequest) (h : r.Tends) : Unseen r := by
  intro reply
  cases r with
  | act a => cases a <;> first | rfl | exact h.elim
  | rig r =>
    cases r with
    | device r =>
      cases r with
      | log event => cases event <;> first | rfl | exact h.elim
      | _ => exact h.elim
    | _ => exact h.elim

/-- The rows that are put into a file, in order. -/
def rows (file : Nat) (es : List (Exchange WorkSurroundings)) : List String :=
  (sightings es).filterMap (Sighting.row? file)

section Sightings

variable {α : Type} {es : List (Exchange WorkSurroundings)}

@[simp] lemma sightings_nil : sightings [] = [] := rfl

@[simp] lemma sightings_append (es es' : List (Exchange WorkSurroundings)) :
    sightings (es ++ es') = sightings es ++ sightings es' := List.filterMap_append

@[simp] lemma rows_append (file : Nat) (es es' : List (Exchange WorkSurroundings)) :
    rows file (es ++ es') = rows file es ++ rows file es' := by
  simp [rows]

lemma sightings_eq_nil {p q : Working α} (hp : p.AsksOnly Unseen) (h : p.Leads es q) :
    sightings es = [] :=
  List.filterMap_eq_nil_iff.2 fun e he => hp.of_leads h e he e.reply

lemma log_unseen {event : Event} (h : Unseen (.rig (.device (.log event)))) :
    (log event).AsksOnly Unseen := asksOnly_request.2 h

end Sightings

namespace Ticking

variable {t : Ticking} {es : List (Exchange WorkSurroundings)} {sweep : Sweep Float} {file : Nat}

/-! ## Parts of a tick -/

/-- What is seen of reading the channels are the values, if they were read. -/
lemma acquire_sightings {result : Except DeviceFault (List (Option Float))}
    {overload : OverloadMonitor} (h : t.acquire.Ends es (result, overload)) :
    (∃ values, result = .ok values ∧ sightings es = [.read values]) ∨
      ∃ fault, result = .error fault ∧ sightings es = [] := by
  have hcheck : t.check.AsksOnly Unseen :=
    check_asksOnly fun _ _ => (checkLockins_tends _ _).mono WorkRequest.Tends.unseen
  rcases ends_acquire h with ⟨fault, hlooks, rfl⟩ | ⟨es', hlooks, rfl⟩
  · exact .inr ⟨fault, rfl, sightings_eq_nil hcheck hlooks⟩
  · rw [sightings_append, sightings_eq_nil hcheck hlooks]
    cases result with
    | ok values => exact .inl ⟨values, rfl, rfl⟩
    | error fault => exact .inr ⟨fault, rfl, rfl⟩

/-- What is seen of writing a sample is its row. -/
lemma commit_sightings {x : Sample} {u : Unit} (h : (t.commit x).Ends es u) :
    sightings es = [.row t.samples (Table.values x.time x.values)] := by
  unfold commit at h
  obtain ⟨es₁, es₂, written, rfl, h₁, h₂⟩ := ends_bind_iff.1 h
  obtain rfl := ends_request_iff.1 h₁
  have hrest : sightings es₂ = [] := by
    refine sightings_eq_nil ?_ h₂
    match written with
    | .ok _ => exact asksOnly_request.2 fun _ => rfl
    | .error _ => exact (log_unseen fun _ => rfl).bind fun _ => asksOnly_request.2 fun _ => rfl
  rw [sightings_append, hrest]
  rfl

/-- What is seen of writing a step is its row, and that it is closed. -/
lemma writeStep_sightings {parameter : Parameter} {target : Float} {aggregates : List Aggregate}
    {u : Unit} (ha : t.aggregates = some file)
    (h : (t.writeStep parameter target aggregates).Ends es u) :
    sightings es = [.row file (Table.values target (aggregates.flatMap Aggregate.entries)),
      .closed target] := by
  unfold writeStep at h
  simp only [ha] at h
  obtain ⟨es₁, es₂, written, rfl, h₁, h₂⟩ := ends_bind_iff.1 h
  obtain rfl := ends_request_iff.1 h₁
  have hlog {es : List (Exchange WorkSurroundings)} {u : Unit}
      (h : (log (.stepClosed parameter target)).Ends es u) : sightings es = [.closed target] := by
    obtain rfl := ends_request_iff.1 h
    rfl
  match written with
  | .ok _ =>
    rw [sightings_append, hlog h₂]
    rfl
  | .error _ =>
    obtain ⟨es₃, es₄, _, rfl, h₃, h₄⟩ := ends_bind_iff.1 h₂
    rw [sightings_append, sightings_append, hlog h₄, sightings_eq_nil (log_unseen fun _ => rfl) h₃]
    rfl

/-- The device takes a target, and that is seen, or it refuses it. -/
lemma enterStep_sightings {parameter : Parameter} {target : Float} {t' : Ticking}
    (h : (t.enterStep parameter target).Ends es t') :
    (sightings es = [.entered target] ∧ t' = t) ∨
      (sightings es = [] ∧ t' = { t with ledger := t.ledger.entryFailed }) := by
  unfold enterStep at h
  obtain ⟨es₁, es₂, outcome, rfl, h₁, h₂⟩ := ends_bind_iff.1 h
  have happly : (t.applyStep parameter target).AsksOnly Unseen :=
    (applyStep_tends _ _ _).mono WorkRequest.Tends.unseen
  rw [sightings_append, sightings_eq_nil happly h₁, List.nil_append]
  match outcome with
  | .ok () =>
    obtain ⟨es₃, es₄, _, rfl, h₃, h₄⟩ := ends_bind_iff.1 h₂
    obtain rfl := ends_request_iff.1 h₃
    obtain ⟨rfl, rfl⟩ := ends_pure_iff.1 h₄
    exact .inl ⟨rfl, rfl⟩
  | .error fault =>
    obtain ⟨es₃, es₄, _, rfl, h₃, h₄⟩ := ends_bind_iff.1 h₂
    obtain ⟨rfl, rfl⟩ := ends_pure_iff.1 h₄
    rw [sightings_append, sightings_eq_nil (log_unseen fun _ => rfl) h₃]
    exact .inr ⟨rfl, rfl⟩

/-- What is seen of closing a step. -/
def closing (file : Nat) (verdict : Verdict) : List Sighting :=
  match verdict.closed with
  | none => []
  | some (target, aggregates) =>
    [.row file (Table.values target (aggregates.flatMap Aggregate.entries)), .closed target]

/-- What is seen of entering a step. -/
def entering (refused : Bool) (verdict : Verdict) : List Sighting :=
  if refused then [] else (verdict.enter.map .entered).toList

lemma followUp_sightings {parameter : Parameter} {verdict : Verdict} {t' : Ticking}
    (ha : t.aggregates = some file) (h : (t.followUp parameter verdict).Ends es t') :
    ∃ refused, sightings es = closing file verdict ++ entering refused verdict ∧
      t' = if verdict.enter.isSome && refused then { t with ledger := t.ledger.entryFailed }
        else t := by
  rw [followUp_eq] at h
  obtain ⟨es₁, es₂, _, rfl, hwrite, henter⟩ := ends_bind_iff.1 h
  have hclosed : sightings es₁ = closing file verdict := by
    unfold writeClosed at hwrite
    unfold closing
    cases hc : verdict.closed with
    | none =>
      simp only [hc] at hwrite
      rw [(ends_pure_iff.1 hwrite).1]
      rfl
    | some c =>
      simp only [hc] at hwrite
      exact writeStep_sightings ha hwrite
  rw [sightings_append, hclosed]
  -- the device takes or refuses the target, if one is offered
  unfold enterNext at henter
  cases he : verdict.enter with
  | none =>
    simp only [he] at henter
    obtain ⟨rfl, rfl⟩ := ends_pure_iff.1 henter
    exact ⟨false, by simp [entering, he], by simp⟩
  | some target =>
    simp only [he] at henter
    rcases enterStep_sightings henter with ⟨hs, rfl⟩ | ⟨hs, rfl⟩
    · exact ⟨false, by simp [entering, he, hs], by simp⟩
    · exact ⟨true, by simp [entering, hs], by simp⟩

/-- What is seen of keeping a sample is its row. -/
lemma retain_sightings {x : Sample} {u : Unit} (h : (t.retain x).Ends es u) :
    sightings es = if (t.ledger.take x).1.keep then
      [.row t.samples (Table.values x.time x.values)] else [] := by
  rcases ends_retain h with ⟨hkeep, h⟩ | ⟨hkeep, rfl⟩
  · rw [commit_sightings h, if_pos hkeep]
  · rw [if_neg (by simp [hkeep])]
    rfl

/-- What is seen of one tick, and what it leaves behind. -/
lemma tick_sightings {now : Float} {finished : Bool} {t' : Ticking}
    (hs : t.ledger.sweep = some sweep) (ha : t.aggregates = some file)
    (h : (t.tick now).Ends es (finished, t')) :
    (sightings es = [] ∧ ∃ overload, t' = { t with overload := overload }) ∨
    ∃ values refused overload,
      let b : Sweep.Beat Float := ⟨now, t.ledger.series.push ⟨now, values⟩, refused⟩
      let verdict := (sweep.beat b).1
      sightings es = .read values ::
        ((if verdict.keep then [.row t.samples (Table.values now values)] else []) ++
          (closing file verdict ++ entering refused verdict)) ∧
      t' = { t with
        overload := overload
        ledger := ⟨if verdict.keep then t.ledger.series.push ⟨now, values⟩ else t.ledger.series,
          some (sweep.beat b).2⟩ } := by
  cases tickGoes_of_ends h with
  | @failed es fault overload hread =>
    have hnone : sightings es = [] := by
      rcases acquire_sightings hread with ⟨_, hr, -⟩ | ⟨_, -, hs⟩
      · cases hr
      · exact hs
    exact .inl ⟨by rw [sightings_append, hnone]; rfl, overload, rfl⟩
  | @taken values overload es₁ es₂ es₃ _ _ hread hkeep hrest =>
    have hvalues : sightings es₁ = [.read values] := by
      rcases acquire_sightings hread with ⟨_, hr, hs⟩ | ⟨_, hr, -⟩ <;> cases hr
      exact hs
    have hsweep := Ledger.sweep_take (x := ⟨now, values⟩) hs
    obtain ⟨-, hfollow⟩ := ends_afterVerdict_some hsweep hrest
    obtain ⟨refused, hse, ht'⟩ := followUp_sightings (t := t.taking ⟨now, values⟩ overload) ha
      hfollow
    -- what the sweep makes of the sample
    have hverdict := Ledger.verdict_take (x := ⟨now, values⟩) hs
    refine .inr ⟨values, refused, overload, ?_, ?_⟩
    · rw [sightings_append, sightings_append, hvalues, retain_sightings hkeep, hse, hverdict]
      rfl
    · have hledger : (t.ledger.take ⟨now, values⟩).2 =
          ⟨if (t.ledger.take ⟨now, values⟩).1.keep then t.ledger.series.push ⟨now, values⟩
            else t.ledger.series,
            some (sweep.onTick now (t.ledger.series.push ⟨now, values⟩)).2⟩ := by
        rw [← Ledger.series_take, ← hsweep]
      rw [ht', taking, hledger, hverdict]
      unfold Sweep.beat
      dsimp only
      split <;> rfl

/-- What is remembered of an acquisition from one turn to the next, apart from its counters. -/
def Keeps (t t' : Ticking) (ledger : Ledger) : Prop :=
  t'.ledger = ledger ∧ t'.samples = t.samples ∧ t'.aggregates = t.aggregates

/-- What is seen of one turn, and what it leaves behind: the token was fired, the channels were not
read, or they were and the sweep had its say on the sample. -/
theorem turn_sightings {result : Turn Ticking Ending} (hs : t.ledger.sweep = some sweep)
    (ha : t.aggregates = some file) (h : t.turn.Ends es result) :
    (sightings es = [] ∧ result = .over .acquisition) ∨
    (∃ ms, sightings es = [.clock ms] ∧ ∀ t', result = .again t' → Keeps t t' t.ledger) ∨
    ∃ ms values refused,
      let x : Sample := ⟨t.timeAt ms, values⟩
      let b : Sweep.Beat Float := ⟨x.time, t.ledger.series.push x, refused⟩
      let verdict := (sweep.beat b).1
      sightings es = .clock ms :: .read values ::
        ((if verdict.keep then [.row t.samples (Table.values x.time x.values)] else []) ++
          (closing file verdict ++ entering refused verdict)) ∧
      ∀ t', result = .again t' →
        Keeps t t' ⟨if verdict.keep then t.ledger.series.push x else t.ledger.series,
          some (sweep.beat b).2⟩ := by
  cases goes_of_ends h with
  | stopped => exact .inl ⟨rfl, rfl⟩
  | @ticked ms es₁ es₂ finished left _ htick hwind =>
    -- after the tick nothing more is seen, and what it left behind is only counted
    have hrest : sightings es₂ = [] ∧ ∀ t', result = .again t' → Keeps left t' left.ledger := by
      cases hwind with
      | finished => exact ⟨rfl, by rintro _ ⟨⟩⟩
      | cut => exact ⟨rfl, by rintro _ ⟨⟩⟩
      | passed =>
        refine ⟨rfl, ?_⟩
        rintro _ ⟨⟩
        exact ⟨rfl, rfl, rfl⟩
    obtain ⟨hnil, hagain⟩ := hrest
    have hclock : sightings (⟨.rig (.fired t.token), false⟩ :: ⟨.rig .clock, ms⟩ :: (es₁ ++ es₂)) =
        .clock ms :: sightings es₁ := by
      change .clock ms :: sightings (es₁ ++ es₂) = _
      rw [sightings_append, hnil, List.append_nil]
    rw [hclock]
    rcases tick_sightings hs ha htick with ⟨hs₁, overload, rfl⟩ |
      ⟨values, refused, overload, hs₁, rfl⟩
    · exact .inr (.inl ⟨ms, by rw [hs₁], hagain⟩)
    · exact .inr (.inr ⟨ms, values, refused, by rw [hs₁], hagain⟩)

/-! ## Runs -/

/-- The tick of a turn that began in a given state, if every channel was read in it. -/
def tickOf (t : Ticking) : List Sighting → Option Tick
  | .clock ms :: .read values :: rest =>
    some ⟨⟨t.timeAt ms, values⟩, rest.findSome? Sighting.closed?, rest.findSome? Sighting.entered?⟩
  | _ => none

/-- The ticks of a run in which every channel was read. -/
def ticks (turns : List (Ticking × List (Exchange WorkSurroundings))) : List Tick :=
  turns.filterMap fun turn => tickOf turn.1 (sightings turn.2)

/-- The row of a sample. -/
def sampleRow (x : Sample) : String := Table.values x.time x.values

/-- The row of the aggregates of a block. -/
def blockRow (width : Nat) (b : Block) : String :=
  Table.values b.target ((b.aggregates width).flatMap Aggregate.entries)

/-- What a run has written so far: the ticks that belong to a step, and the aggregates of the blocks
they are cut into. -/
structure Written (width : Nat) (relax : Float) (samples file : Nat)
    (turns : List (Ticking × List (Exchange WorkSurroundings))) (blocks : List Block)
    (trailing : List Tick) (series : Series) (sweep : Sweep Float) : Prop where
  /-- The series and the sweep are what the ticks so far make of them. -/
  books : Books width relax (ticks turns) blocks trailing series sweep
  /-- The rows of the samples are the ticks that belong to a step. -/
  samples_eq : rows samples (exchanges turns) =
    (Tick.kept relax (ticks turns)).map fun k => sampleRow k.2.sample
  /-- The rows of the aggregates are those of the blocks. -/
  aggregates_eq : rows file (exchanges turns) = blocks.map (blockRow width)

variable {width : Nat} {relax : Float} {samples : Nat} {blocks : List Block} {trailing : List Tick}
  {series : Series} {turns : List (Ticking × List (Exchange WorkSurroundings))}

lemma ticks_concat (turns : List (Ticking × List (Exchange WorkSurroundings))) (t : Ticking)
    (es : List (Exchange WorkSurroundings)) :
    ticks (turns ++ [(t, es)]) = ticks turns ++ (tickOf t (sightings es)).toList := by
  simp only [ticks, List.filterMap_append]
  cases h : tickOf t (sightings es) <;> simp [h]

/-- A turn in which the channels are not read writes nothing. -/
lemma Written.quiet (hw : Written width relax samples file turns blocks trailing series sweep)
    (ht : tickOf t (sightings es) = none) (hr : ∀ file, rows file es = []) :
    Written width relax samples file (turns ++ [(t, es)]) blocks trailing series sweep where
  books := by simpa [ticks_concat, ht] using hw.books
  samples_eq := by simpa [ticks_concat, ht, hr] using hw.samples_eq
  aggregates_eq := by simpa [hr] using hw.aggregates_eq

/-- What is seen of a verdict tells the step it closes and the target the device took, and the rows
that are written for it. -/
lemma sightings_of_verdict (verdict : Verdict) (refused : Bool) (text : String)
    (hf : file ≠ samples) :
    let seen := (if verdict.keep then [.row samples text] else []) ++
      (closing file verdict ++ entering refused verdict)
    seen.findSome? Sighting.closed? = verdict.closed.map Prod.fst ∧
    seen.findSome? Sighting.entered? = (if refused then none else verdict.enter) ∧
    seen.filterMap (Sighting.row? samples) = (if verdict.keep then [text] else []) ∧
    seen.filterMap (Sighting.row? file) = (verdict.closed.map fun c =>
      Table.values c.1 (c.2.flatMap Aggregate.entries)).toList := by
  obtain ⟨keep, closed, enter, finished⟩ := verdict
  cases keep <;> rcases closed with - | ⟨target, aggregates⟩ <;> cases enter <;> cases refused <;>
    simp [closing, entering, List.findSome?_cons, Sighting.closed?, Sighting.entered?,
      Sighting.row?, hf, hf.symm]

/-- A turn in which the channels are read writes its sample if it belongs to a step, and the
aggregates of a block if it closes one. -/
lemma Written.tick (hw : Written width relax samples file turns blocks trailing series sweep)
    (hf : file ≠ samples) (ht : t.samples = samples) {ms : Nat} {values : List (Option Float)}
    {refused : Bool} {verdict : Verdict} {after : Sweep Float}
    (hb : sweep.beat ⟨t.timeAt ms, series.push ⟨t.timeAt ms, values⟩, refused⟩ = (verdict, after))
    (hs : sightings es = .clock ms :: .read values ::
      ((if verdict.keep then [.row t.samples (Table.values (t.timeAt ms) values)] else []) ++
        (closing file verdict ++ entering refused verdict))) :
    ∃ blocks trailing, Written width relax samples file (turns ++ [(t, es)]) blocks trailing
      (if verdict.keep then series.push ⟨t.timeAt ms, values⟩ else series) after := by
  obtain ⟨hclosed, hentered, hrow, haggregate⟩ := sightings_of_verdict verdict refused
    (Table.values (t.timeAt ms) values) hf
  rw [ht] at hs
  have htick : tickOf t (sightings es) = some ⟨⟨t.timeAt ms, values⟩, verdict.closed.map Prod.fst,
      if refused then none else verdict.enter⟩ := by
    rw [hs, tickOf, hclosed, hentered]
  have hrows : rows samples es =
      if verdict.keep then [Table.values (t.timeAt ms) values] else [] := by
    rw [← hrow, rows, hs]
    rfl
  have haggregates : rows file es = (verdict.closed.map fun c =>
      Table.values c.1 (c.2.flatMap Aggregate.entries)).toList := by
    rw [← haggregate, rows, hs]
    rfl
  obtain ⟨hkeep, more, trailing', hmore, hbooks⟩ := hw.books.tick ⟨t.timeAt ms, values⟩ refused
  rw [hb] at hkeep hmore hbooks
  refine ⟨blocks ++ more, trailing', ?_, ?_, ?_⟩
  · simpa [ticks_concat, htick] using hbooks
  · rw [ticks_concat, htick, Option.toList_some, kept_concat, exchanges_append, exchanges_singleton,
      rows_append, hw.samples_eq, hrows, List.map_append]
    rw [show verdict.keep = _ from hkeep]
    split <;> rfl
  · rw [exchanges_append, exchanges_singleton, rows_append, hw.aggregates_eq, haggregates,
      List.map_append]
    rcases hmore with ⟨hnone, rfl⟩ | ⟨c, hsome, rfl⟩
    · rw [show verdict.closed = none from hnone]
      rfl
    · rw [show verdict.closed = some (c.target, c.aggregates width) from hsome]
      rfl

/-- A run writes the ticks that belong to a step, and the aggregates of the blocks they are cut
into.

**Proof sketch.** Induction on the turns. In a turn the channels are read or they are not; if they
are, the books are kept by `Books.tick`, and the rows of the turn are those it says. -/
lemma exists_written {t₀ : Ticking} {parameter : Parameter} {targets : List Float} {measure : Float}
    {result : Turn Ticking Ending}
    (hl : t₀.ledger = .start width (some (.start parameter targets relax measure)))
    (ha : t₀.aggregates = some file) (hf : file ≠ t₀.samples)
    (h : Rounds turn t₀ turns result) :
    ∃ blocks trailing series sweep,
      Written width relax t₀.samples file turns blocks trailing series sweep ∧
      ∀ t, result = .again t → Keeps t₀ t ⟨series, some sweep⟩ := by
  induction h with
  | start =>
    refine ⟨[], [], _, _, ⟨books_start width parameter targets relax measure, rfl, rfl⟩, ?_⟩
    rintro _ ⟨⟩
    exact ⟨hl, rfl, rfl⟩
  | @next turns t es result h ht ih =>
    obtain ⟨blocks, trailing, series, sweep, hw, hk⟩ := ih
    obtain ⟨hledger, hsamples, hagg⟩ := hk t rfl
    have hs : t.ledger.sweep = some sweep := by rw [hledger]
    rcases turn_sightings hs (hagg.trans ha) ht with ⟨hsee, rfl⟩ | ⟨ms, hsee, hnext⟩ |
      ⟨ms, values, refused, hsee, hnext⟩
    · refine ⟨blocks, trailing, series, sweep, ?_, by rintro _ ⟨⟩⟩
      exact hw.quiet (by rw [hsee]; rfl) fun file => by rw [rows, hsee]; rfl
    · refine ⟨blocks, trailing, series, sweep, ?_, fun t' ht' => ?_⟩
      · exact hw.quiet (by rw [hsee]; rfl) fun file => by rw [rows, hsee]; rfl
      · obtain ⟨h₁, h₂, h₃⟩ := hnext t' ht'
        exact ⟨h₁.trans hledger, h₂.trans hsamples, h₃.trans hagg⟩
    · have hseries : t.ledger.series = series := by rw [hledger]
      rw [hseries] at hsee hnext
      obtain ⟨blocks', trailing', hw'⟩ := hw.tick hf hsamples rfl hsee
      refine ⟨blocks', trailing', _, _, hw', fun t' ht' => ?_⟩
      obtain ⟨h₁, h₂, h₃⟩ := hnext t' ht'
      exact ⟨h₁, h₂.trans hsamples, h₃.trans hagg⟩

/-- In a stepped acquisition, whichever reads and whichever targets fail and whenever the ticks
are, the rows of the samples are the ticks that belong to a step: those on which a window is open
and the time since it was entered is not less than `relax`. They are cut into blocks, one for each
window that was closed, in the order in which they were, and what is left over belongs to the
window that is open. The rows of the aggregates are, for every channel, those of the values of the
blocks. Between turns the series holds the same ticks and no others. -/
theorem writes_blocks {t₀ : Ticking} {parameter : Parameter} {targets : List Float}
    {measure : Float} {result : Turn Ticking Ending}
    (hl : t₀.ledger = .start width (some (.start parameter targets relax measure)))
    (ha : t₀.aggregates = some file) (hf : file ≠ t₀.samples)
    (h : Rounds turn t₀ turns result) :
    ∃ (blocks : List Block) (trailing : List Tick),
      Tick.kept relax (ticks turns) =
        Block.numbered 1 blocks ++ trailing.map (blocks.length + 1, ·) ∧
      (∀ x ∈ trailing, x.closed = none) ∧
      (trailing ≠ [] → (Windows.of (ticks turns)).since.isSome) ∧
      (ticks turns).filterMap Tick.closed = blocks.map Block.target ∧
      rows t₀.samples (exchanges turns) =
        (Tick.kept relax (ticks turns)).map (fun k => sampleRow k.2.sample) ∧
      rows file (exchanges turns) = blocks.map (blockRow width) ∧
      ∀ t, result = .again t → t.ledger.series =
        .collect width ((Tick.kept relax (ticks turns)).map fun k => k.2.sample) := by
  obtain ⟨blocks, trailing, series, sweep, hw, hk⟩ := exists_written hl ha hf h
  refine ⟨blocks, trailing, hw.books.kept_eq, hw.books.closed_trailing, fun hne => ?_,
    hw.books.closed_eq, hw.samples_eq, hw.aggregates_eq, fun t ht => ?_⟩
  · rw [← hw.books.since_eq, Option.isSome_map]
    cases hwindow : sweep.window with
    | none => exact absurd (hw.books.trailing_of_none hwindow) hne
    | some w => rfl
  · have hkept : (Tick.kept relax (ticks turns)).map Prod.snd =
        blocks.flatMap Block.ticks ++ trailing := by
      rw [hw.books.kept_eq, List.map_append, Block.map_snd_numbered]
      simp [Function.comp_def]
    rw [(hk t ht).1, hw.books.series_eq, ← hkept, List.map_map]
    rfl

/-- A sweep of the gate voltage over one target, before its first tick. -/
def gateSweep : Ticking where
  tuning := ⟨.ofSeconds 1, 10, 3, 0.1, false, "data", "sample"⟩
  mode := .stepped
  lockins := 0
  token := 7
  samples := 0
  aggregates := some 1
  overload := .start 0 3 false
  ledger := .start 1 (some (.start .gateVoltage [0.5] 1 2))
  attempted := 0
  origin := none

/-- A run that is cancelled after the device took its first target. -/
lemma exists_rounds_gateSweep : ∃ turns, Rounds turn gateSweep turns (.over .acquisition) ∧
    ticks turns = [⟨⟨(Duration.ofMillis (3 - 3)).seconds, [some 1.5]⟩, none, some 0.5⟩] := by
  have first : Rounds turn gateSweep
      [(_, [⟨.rig (.fired 7), false⟩, ⟨.rig .clock, (3 : Nat)⟩,
        ⟨.act (.readChannels .stepped), (.ok [some 1.5] : Except DeviceFault _)⟩,
        ⟨.act (.setGateVoltage 0.5), (.ok () : Except DeviceFault Unit)⟩,
        ⟨.rig (.device (.log (.stepEntered .gateVoltage 0.5))), ()⟩,
        ⟨.rig (.pause 7 (.ofSeconds 1)), true⟩])] (.again _) :=
    .next .start (.step (.step (.step (.step (.step (.step (.refl _)))))))
  have second : Rounds turn gateSweep (_ ++ [(_, [⟨.rig (.fired 7), true⟩])])
      (.over .acquisition) :=
    .next first (.step (.refl _))
  exact ⟨_, second, rfl⟩

/-- What that run writes: a row for each tick that belongs to a step, and one for each block. -/
theorem writes_blocks_gateSweep :
    ∃ turns, ∃ blocks : List Block,
      Rounds turn gateSweep turns (.over .acquisition) ∧ (ticks turns).length = 1 ∧
      (ticks turns).filterMap Tick.closed = blocks.map Block.target ∧
      rows 0 (exchanges turns) =
        (Tick.kept 1 (ticks turns)).map (fun k => sampleRow k.2.sample) ∧
      rows 1 (exchanges turns) = blocks.map (blockRow 1) := by
  obtain ⟨turns, h, hticks⟩ := exists_rounds_gateSweep
  have hl : gateSweep.ledger = .start 1 (some (.start .gateVoltage [0.5] 1 2)) := rfl
  obtain ⟨blocks, _, -, -, -, hclosed, hsamples, haggregates, -⟩ :=
    writes_blocks hl rfl (by decide) h
  exact ⟨turns, blocks, h, by rw [hticks]; rfl, hclosed, hsamples, haggregates⟩

end Ticking

end CryoRig.Control
