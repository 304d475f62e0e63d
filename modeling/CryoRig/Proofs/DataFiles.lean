import CryoRig.Proofs.ReadingWidth
import CryoRig.Proofs.StartedJobs
import CryoRig.Proofs.TableText
import CryoRig.Proofs.TickRecords

/-!
# The columns of data files

The names at the head of a file are written when an acquisition is prepared, and the rows below them
tick by tick from whatever the site reads. Nothing compares the two. Still every line of a file has
a field for each name, because the site reads as much as its layout says, a sweep aggregates every
channel, and nothing that is written needs quotes.

## Main definitions

* `CryoRig.Control.Prepared`: what an acquisition finds when it begins.
* `CryoRig.Control.Station.Gives`: an exchange that work may have at a station.
* `CryoRig.Control.FieldsEach`: rows that have so many fields on every line.
* `CryoRig.Control.Tabulated`: files of a stepped acquisition whose columns belong together.

## Main results

* `CryoRig.Control.prepared_of_ends`: what the preparation of an acquisition writes.
* `CryoRig.Control.Ticking.rows_of_rounds`: every row of the samples is one that was read.
* `CryoRig.Control.Station.columns_line_up`: what is read and what is written fits the layout.
-/

namespace CryoRig.Control

open Process Sampling

variable {I : Interface} {site : Site I} {es : List (Exchange WorkSurroundings)}

/-! ## Rows -/

/-- The rows that are put into a file are told from the records. -/
lemma rows_eq_written (file : Nat) (es : List (Exchange WorkSurroundings)) :
    rows file es = written file (records es) := by
  unfold rows sightings written records
  rw [List.filterMap_filterMap, List.filterMap_filterMap]
  refine congrArg (List.filterMap · es) (funext fun e => ?_)
  obtain ⟨r, reply⟩ := e
  cases r with
  | act a =>
    cases a with
    | readChannels => cases (reply : Except DeviceFault _) <;> rfl
    | _ => rfl
  | rig r =>
    cases r with
    | device r =>
      cases r with
      | log event => cases event <;> rfl
      | _ => rfl
    | _ => rfl

/-! ## Preparation -/

lemma rows_appendRows {file : Nat} {texts : List (List String)} {u : Unit}
    (h : (appendRows file texts).run.Ends es (.ok u)) (g : Nat) :
    rows g es = if file = g then texts.map Table.row else [] := by
  induction texts generalizing es with
  | nil =>
    obtain ⟨rfl, -⟩ := ends_run_pure_iff.1 h
    split <;> rfl
  | cons fields rest ih =>
    obtain ⟨es₁, es₂, result, rfl, h₁, h₂⟩ := ends_run_lift_bind_iff.1 h
    obtain rfl := ends_request_iff.1 h₁
    match result with
    | .error cause =>
      obtain ⟨-, he⟩ := ends_run_throw_iff.1 h₂
      cases he
    | .ok _ =>
      have hrow : rows g [⟨.rig (.append file (Table.row fields)), (.ok () : Except _ _)⟩] =
          if file = g then [Table.row fields] else [] := by
        by_cases hg : file = g <;> simp [rows, sightings, sighting, Sighting.row?, hg]
      rw [rows_append, ih h₂, hrow]
      split <;> rfl

/-- A file that was made for a table holds its head. -/
lemma rows_openTable {path : String} {columns : List Channel} {file : Nat}
    (h : (openTable path columns).run.Ends es (.ok file)) (g : Nat) :
    rows g es = if file = g then (Table.header columns).map Table.row else [] := by
  obtain ⟨es₁, es₂, made, rfl, h₁, h₂⟩ := ends_run_lift_bind_iff.1 h
  obtain rfl := ends_request_iff.1 h₁
  match made with
  | .error cause =>
    obtain ⟨-, he⟩ := ends_run_throw_iff.1 h₂
    cases he
  | .ok (file' : Nat) =>
    obtain ⟨es₃, es₄, _, rfl, h₃, h₄⟩ := ends_run_lift_bind_iff.1 h₂
    obtain rfl := ends_request_iff.1 h₃
    obtain ⟨_, -, he⟩ | ⟨es₅, es₆, _, rfl, h₅, h₆⟩ := ends_run_bind_iff.1 h₄
    · cases he
    · obtain ⟨rfl, he⟩ := ends_run_pure_iff.1 h₆
      cases he
      rw [rows_append, rows_append, rows_append, rows_appendRows h₅]
      exact List.append_nil _

/-- The sweep of a protocol, if it has one. -/
def sweepOf : Protocol → Option (Sweep Float)
  | .stepped sweep => some sweep
  | _ => none

/-- What an acquisition finds when it begins: its files hold their heads and nothing else. -/
structure Prepared (site : Site I) (protocol : Protocol) (es : List (Exchange WorkSurroundings))
    (t : Ticking) : Prop where
  /-- Channels are read in the mode of the protocol. -/
  mode_eq : t.mode = protocol.mode
  /-- There are no samples yet. -/
  ledger_eq : t.ledger = .start (site.layout protocol.mode).length (sweepOf protocol)
  /-- The names and units of the samples were written. -/
  samples_eq : rows t.samples es =
    (Table.header (Table.sampleColumns (site.layout protocol.mode))).map Table.row
  /-- If there is a file of aggregates, the protocol steps something, and the names and units of the
  aggregates were written. -/
  aggregates_eq : ∀ file, t.aggregates = some file → ∃ sweep, protocol = .stepped sweep ∧
    rows file es = (Table.header
      (Table.aggregateColumns sweep.parameter (site.layout .stepped))).map Table.row

/-- Getting ready for ticks writes nothing. -/
lemma ends_ticking {tuning : Tuning} {token samples : Nat} {mode : Mode} {aggregates : Option Nat}
    {sweep : Option (Sweep Float)} {job : Job}
    (h : (prepareJob.ticking site tuning token mode samples aggregates sweep).run.Ends es
      (.ok job)) :
    job = .ticking (.fresh site tuning token mode samples aggregates sweep) ∧
      ∀ file, rows file es = [] := by
  rcases ends_run_bind_iff.1 h with ⟨_, -, ⟨⟩⟩ | ⟨es₁, es₂, result, rfl, h₁, h₂⟩
  obtain ⟨rfl, he⟩ := ends_run_pure_iff.1 h₂
  cases he
  obtain ⟨es₃, es₄, outcome, rfl, h₃, h₄⟩ := ends_bind_iff.1 h₁
  obtain rfl := ends_request_iff.1 h₃
  refine ⟨rfl, fun file => ?_⟩
  rcases outcome with fault | done
  · obtain ⟨-, he⟩ := ends_pure_iff.1 h₄
    cases he
  · obtain ⟨rfl, -⟩ := ends_pure_iff.1 h₄
    rfl

/-- An acquisition that was prepared finds the heads of its files. -/
theorem prepared_of_ends {tuning : Tuning} {paths : DataPaths} {token : Nat} {protocol : Protocol}
    {t : Ticking}
    (h : (prepareJob site tuning paths token protocol).run.Ends es (.ok (.ticking t)))
    (hne : t.aggregates ≠ some t.samples) : Prepared site protocol es t := by
  have hplain {mode : Mode} (h : (prepareJob.plain site tuning paths token mode).run.Ends es
      (.ok (.ticking t))) :
      ∃ samples, t = .fresh site tuning token mode samples none none ∧ rows samples es =
        (Table.header (Table.sampleColumns (site.layout mode))).map Table.row := by
    rcases ends_run_bind_iff.1 h with ⟨_, -, ⟨⟩⟩ | ⟨es₁, es₂, samples, rfl, h₁, h₂⟩
    obtain ⟨hjob, hquiet⟩ := ends_ticking h₂
    cases hjob
    refine ⟨samples, rfl, ?_⟩
    rw [rows_append, rows_openTable h₁, if_pos rfl, hquiet, List.append_nil]
  cases protocol with
  | differential plan =>
    rcases ends_run_bind_iff.1 h with ⟨_, -, ⟨⟩⟩ | ⟨_, _, _, -, -, h⟩
    rcases ends_run_bind_iff.1 h with ⟨_, -, ⟨⟩⟩ | ⟨_, _, _, -, -, h⟩
    rcases ends_run_bind_iff.1 h with ⟨_, -, ⟨⟩⟩ | ⟨_, _, _, -, -, h⟩
    obtain ⟨-, he⟩ := ends_run_pure_iff.1 h
    cases he
  | continuous | autoscan =>
    obtain ⟨samples, rfl, hrows⟩ := hplain h
    exact ⟨rfl, rfl, hrows, by rintro file ⟨⟩⟩
  | stepped sweep =>
    rcases ends_run_bind_iff.1 h with ⟨_, -, ⟨⟩⟩ | ⟨es₁, es₂, samples, rfl, h₁, h₂⟩
    rcases ends_run_bind_iff.1 h₂ with ⟨_, -, ⟨⟩⟩ | ⟨es₃, es₄, aggregates, rfl, h₃, h₄⟩
    obtain ⟨hjob, hquiet⟩ := ends_ticking h₄
    cases hjob
    have hother : aggregates ≠ samples := fun he => hne (congrArg some he)
    refine ⟨rfl, rfl, ?_, ?_⟩
    · change rows samples _ = _
      rw [rows_append, rows_append, rows_openTable h₁, rows_openTable h₃, hquiet, if_pos rfl,
        if_neg hother]
      simp [Protocol.mode]
    · rintro file ⟨⟩
      refine ⟨sweep, rfl, ?_⟩
      rw [rows_append, rows_append, rows_openTable h₁, rows_openTable h₃, hquiet, if_pos rfl,
        if_neg hother.symm]
      simp

/-! ## Ticks -/

namespace Ticking

variable {t t₀ : Ticking} {result : Turn Ticking Ending}

/-- What a turn records is what its tick records, if its sample was taken. -/
lemma turn_records (h : t.turn.Ends es result) :
    records es = [] ∨ ∃ ms values es' t', t.Takes ⟨t.timeAt ms, values⟩ es' t' ∧
      (∀ e ∈ es', e ∈ es) ∧ records es = records es' := by
  rw [turn_eq] at h
  obtain ⟨es₁, es₂, isFired, rfl, h₁, h₂⟩ := ends_bind_iff.1 h
  obtain rfl := ends_request_iff.1 h₁
  cases isFired with
  | true =>
    obtain ⟨rfl, -⟩ := ends_pure_iff.1 h₂
    exact .inl rfl
  | false =>
    obtain ⟨es₃, es₄, ms, rfl, h₃, h₄⟩ := ends_bind_iff.1 h₂
    obtain rfl := ends_request_iff.1 h₃
    obtain ⟨es₅, es₆, ⟨finished, left⟩, rfl, h₅, h₆⟩ := ends_bind_iff.1 h₄
    obtain ⟨hquiet, -⟩ := windUp_quiet h₆
    have hall : records ([⟨.rig (.fired t.token), false⟩] ++
        ([⟨.rig .clock, ms⟩] ++ (es₅ ++ es₆))) = records es₅ := by
      change records (es₅ ++ es₆) = _
      rw [records_append, hquiet, List.append_nil]
    rcases tick_records h₅ with ⟨hnil, -⟩ | ⟨values, ht⟩
    · exact .inl (hall.trans hnil)
    · exact .inr ⟨ms, values, es₅, left, ht, fun e he => by simp [he], hall⟩

/-- A row of samples that a turn writes is one that was read in it. -/
lemma rows_of_turn (h : t.turn.Ends es result) (hne : t.aggregates ≠ some t.samples) :
    ∀ text ∈ rows t.samples es, ∃ time values, text = Table.values time values ∧
      ⟨.act (.readChannels t.mode), (.ok values : Except DeviceFault _)⟩ ∈ es := by
  intro text htext
  rw [rows_eq_written] at htext
  rcases turn_records h with hnil | ⟨ms, values, es', t', ht, hsub, hrec⟩
  · rw [hnil] at htext
    exact absurd htext List.not_mem_nil
  · refine ⟨t.timeAt ms, values, ?_, hsub _ ht.read⟩
    obtain ⟨more, hmore, hagg⟩ := ht.records_eq
    have hother : written t.samples more = [] := by
      refine List.filterMap_eq_nil_iff.2 fun r hr => ?_
      obtain ⟨file, text, ha, rfl⟩ := hagg r hr
      exact if_neg fun hf => hne (by rw [ha, hf])
    rw [hrec, hmore, written_append, hother, List.append_nil] at htext
    split at htext
    · simpa [written, sampleRow] using htext
    · exact absurd htext List.not_mem_nil

/-- Every row of samples that a run writes is one that was read. -/
theorem rows_of_rounds {turns : List (Ticking × List (Exchange WorkSurroundings))}
    (h : Rounds turn t₀ turns result) (hne : t₀.aggregates ≠ some t₀.samples) :
    ∀ text ∈ rows t₀.samples (exchanges turns), ∃ time values, text = Table.values time values ∧
      ⟨.act (.readChannels t₀.mode), (.ok values : Except DeviceFault _)⟩ ∈ exchanges turns := by
  have hrun : (∀ text ∈ rows t₀.samples (exchanges turns), ∃ time values,
      text = Table.values time values ∧ ⟨.act (.readChannels t₀.mode),
        (.ok values : Except DeviceFault _)⟩ ∈ exchanges turns) ∧
      ∀ t, result = .again t → t₀.Fixed t := by
    induction h with
    | start =>
      refine ⟨List.forall_mem_nil _, ?_⟩
      rintro t ⟨⟩
      rfl
    | @next turns t es result h ht ih =>
      obtain ⟨hrows, hfixed⟩ := ih
      have ht₀ := hfixed t rfl
      have hne' : t.aggregates ≠ some t.samples := by
        rw [ht₀]
        exact hne
      have hturn := rows_of_turn ht hne'
      rw [ht₀.mode, show t.samples = t₀.samples by rw [ht₀]] at hturn
      refine ⟨fun text htext => ?_, fun t' ht' => ?_⟩
      · rw [exchanges_append, exchanges_singleton] at htext ⊢
        rw [rows_append] at htext
        rcases List.mem_append.1 htext with hmem | hmem
        · obtain ⟨time, values, htime, he⟩ := hrows text hmem
          exact ⟨time, values, htime, List.mem_append_left _ he⟩
        · obtain ⟨time, values, htime, he⟩ := hturn text hmem
          exact ⟨time, values, htime, List.mem_append_right _ he⟩
      · exact ht₀.trans ((turn_fixed.of_ends ht).2 t' ht')
  exact hrun.1

end Ticking

/-! ## Columns -/

namespace Station

/-- An exchange that work may have at a station: its actions come to what they may come to. -/
def Gives (s : Station) : Exchange WorkSurroundings → Prop
  | ⟨.act a, outcome⟩ => MayGive s.site a outcome
  | _ => True

/-- No name and no unit of a column needs quotes. -/
lemma bare_layout (s : Station) (mode : Mode) :
    ∀ c ∈ s.site.layout mode, Table.Bare c.name ∧ Table.Bare c.unit := by
  cases s with
  | facility f =>
    cases f with
    | refrigerator w =>
      change ∀ c ∈ w.layout mode, _
      unfold Site.RefrigeratorWiring.layout
      cases w.firstMeasuresCurrent <;> cases mode <;> decide +kernel
    | cryogenFree w =>
      change ∀ c ∈ Site.CryogenFreeWiring.layout, _
      decide +kernel
    | insert w =>
      change ∀ c ∈ Site.InsertWiring.layout, _
      decide +kernel
  | bench =>
    change ∀ c ∈ Site.benchLayout, _
    decide +kernel

end Station

lemma sound_sampleColumns {layout : Layout}
    (h : ∀ c ∈ layout, Table.Bare c.name ∧ Table.Bare c.unit) :
    ∀ fields ∈ Table.header (Table.sampleColumns layout), Table.Sound fields :=
  Table.sound_header (by decide) (by decide) (List.forall_mem_cons.2 ⟨by decide, h⟩)

lemma sound_aggregateColumns {layout : Layout} (parameter : Parameter)
    (h : ∀ c ∈ layout, Table.Bare c.name ∧ Table.Bare c.unit) :
    ∀ fields ∈ Table.header (Table.aggregateColumns parameter layout), Table.Sound fields := by
  refine Table.sound_header ?_ ?_ (List.forall_mem_cons.2 ⟨?_, fun c hc => ?_⟩)
  · cases parameter <;> decide
  · cases parameter <;> decide
  · cases parameter <;> decide
  · obtain ⟨d, hd, hc⟩ := List.mem_flatMap.1 hc
    rcases List.mem_cons.1 hc with rfl | hc
    · exact h _ hd
    · obtain rfl := List.mem_singleton.1 hc
      exact ⟨(by decide : Table.Bare "delta").append (h d hd).1, (h d hd).2⟩

/-- The fields of the row of a sample. -/
def sampleFields (x : Sample) : List String := Number.plain x.time :: x.values.map Table.value

/-- The fields of the row of the aggregates of a block. -/
def blockFields (width : Nat) (b : Block) : List String :=
  Number.plain b.target :: ((b.aggregates width).flatMap Aggregate.entries).map Table.value

/-- What is at the places of a pair if every entry of a list is made into a pair. -/
lemma getElem?_flatMap_pair {α β : Type} (f g : α → β) (as : List α) (k : Nat) :
    (as.flatMap fun a => [f a, g a])[2 * k]? = as[k]?.map f ∧
      (as.flatMap fun a => [f a, g a])[2 * k + 1]? = as[k]?.map g := by
  induction as generalizing k with
  | nil => simp
  | cons a rest ih =>
    cases k with
    | zero => simp
    | succ k =>
      obtain ⟨hf, hg⟩ := ih k
      simpa [Nat.mul_succ] using And.intro hf hg

lemma length_flatMap_pair {α β : Type} (f g : α → β) (as : List α) :
    (as.flatMap fun a => [f a, g a]).length = 2 * as.length := by
  induction as with
  | nil => rfl
  | cons a rest ih => simp [ih, Nat.mul_succ]

lemma length_aggregateColumns (parameter : Parameter) (layout : Layout) :
    (Table.aggregateColumns parameter layout).length = 1 + 2 * layout.length := by
  rw [Table.aggregateColumns, List.length_cons, length_flatMap_pair, Nat.add_comm]

lemma length_blockFields (width : Nat) (b : Block) :
    (blockFields width b).length = 1 + 2 * width := by
  have hentries : ((b.aggregates width).flatMap Aggregate.entries).length = 2 * width := by
    refine (length_flatMap_pair Aggregate.mean Aggregate.deviation _).trans ?_
    simp [Block.aggregates, Series.aggregates]
  rw [blockFields, List.length_cons, List.length_map, hentries, Nat.add_comm]

/-- Whichever of some rows are written, each line of what is written has so many fields. -/
def FieldsEach (n : Nat) (rows : List String) : Prop :=
  ∀ kept : List String, kept.Sublist rows →
    ∀ fields ∈ Table.cells (String.join kept), fields.length = n

lemma fieldsEach_of_isRow {n : Nat} {rows : List String}
    (h : ∀ text ∈ rows, Table.IsRow n text) : FieldsEach n rows :=
  fun _ hk => Table.length_of_mem_cells fun text ht => h text (hk.subset ht)

/-- The files of a stepped acquisition belong together. The samples are cut into blocks, one for
each row of aggregates, and what is left over. Below the name of a channel, and below its name with
`delta` in front of it, stand the mean and the deviation of its values in the block. -/
structure Tabulated (layout : Layout) (samples aggregates : List String) (blocks : List Block)
    (trailing : List Tick) : Prop where
  /-- The lines of the samples. -/
  samples_eq : Table.cells (String.join samples) = Table.header (Table.sampleColumns layout) ++
    (blocks.flatMap Block.ticks ++ trailing).map fun x => sampleFields x.sample
  /-- The lines of the aggregates. -/
  aggregates_eq : ∃ names units,
    Table.cells (String.join aggregates) = names :: units :: blocks.map (blockFields layout.length) ∧
    ∀ k c, layout[k]? = some c →
      names[1 + 2 * k]? = some c.name ∧ names[2 + 2 * k]? = some ("delta" ++ c.name)
  /-- What stands below the names. -/
  values_eq : ∀ b ∈ blocks, ∀ k < layout.length,
    let a := Aggregate.of (b.ticks.map fun x => Series.valueAt k x.sample)
    (blockFields layout.length b)[1 + 2 * k]? = some (Table.value a.mean) ∧
      (blockFields layout.length b)[2 + 2 * k]? = some (Table.value a.deviation)

lemma values_blockFields {width k : Nat} (b : Block) (hk : k < width) :
    let a := Aggregate.of (b.ticks.map fun x => Series.valueAt k x.sample)
    (blockFields width b)[1 + 2 * k]? = some (Table.value a.mean) ∧
      (blockFields width b)[2 + 2 * k]? = some (Table.value a.deviation) := by
  have hpair := getElem?_flatMap_pair (fun a : Aggregate => Table.value a.mean)
    (fun a => Table.value a.deviation) (b.aggregates width) k
  have hentries : ((b.aggregates width).flatMap Aggregate.entries).map Table.value =
      (b.aggregates width).flatMap fun a => [Table.value a.mean, Table.value a.deviation] := by
    rw [List.map_flatMap]
    rfl
  have hget : (b.aggregates width)[k]? =
      some (Aggregate.of (b.ticks.map fun x => Series.valueAt k x.sample)) := by
    simp [Block.aggregates, Series.aggregates, hk, Function.comp_def]
  rw [hget] at hpair
  dsimp only
  rw [blockFields, hentries, Nat.add_comm 1, Nat.add_comm 2]
  exact hpair

lemma names_aggregateColumns {parameter : Parameter} {layout : Layout} {k : Nat} {c : Channel}
    (h : layout[k]? = some c) :
    let names := (Table.aggregateColumns parameter layout).map Channel.name
    names[1 + 2 * k]? = some c.name ∧ names[2 + 2 * k]? = some ("delta" ++ c.name) := by
  have hpair := getElem?_flatMap_pair Channel.name (fun c => "delta" ++ c.name) layout k
  rw [h] at hpair
  dsimp only
  rw [Table.aggregateColumns, List.map_cons, List.map_flatMap, Nat.add_comm 1, Nat.add_comm 2]
  exact hpair

section Prepared

variable {s : Station} {protocol : Protocol} {es₀ : List (Exchange WorkSurroundings)}
  {t₀ : Ticking} {turns : List (Ticking × List (Exchange WorkSurroundings))}
  {result : Turn Ticking Ending}

/-- Every row of samples has a field for the time and one for each channel. -/
lemma Prepared.isRow_samples (hp : Prepared s.site protocol es₀ t₀)
    (hne : t₀.aggregates ≠ some t₀.samples) (h : Rounds Ticking.turn t₀ turns result)
    (hgives : ∀ e ∈ exchanges turns, s.Gives e) :
    ∀ text ∈ rows t₀.samples (es₀ ++ exchanges turns),
      Table.IsRow (1 + (s.site.layout protocol.mode).length) text := by
  have hbare := s.bare_layout protocol.mode
  rw [rows_append, hp.samples_eq]
  refine List.forall_mem_append.2 ⟨List.forall_mem_map.2 fun fields hf => ?_, fun text ht => ?_⟩
  · refine ⟨fields, rfl, sound_sampleColumns hbare fields hf, ?_⟩
    simp only [Table.header, List.mem_cons, List.not_mem_nil, or_false] at hf
    rcases hf with rfl | rfl <;> simp [Table.sampleColumns, Nat.add_comm]
  · obtain ⟨time, values, rfl, he⟩ := Ticking.rows_of_rounds h hne text ht
    refine ⟨_, rfl, Table.sound_values time values, ?_⟩
    rw [hp.mode_eq] at he
    have hwidth := Station.length_of_mayGive (hgives _ he)
    simp [hwidth, Nat.add_comm]

variable {parameter : Parameter} {targets : List Float} {relax measure : Float} {file : Nat}

/-- The rows of a stepped acquisition, and the blocks that its samples are cut into. -/
lemma Prepared.exists_blocks
    (hp : Prepared s.site (.stepped (.start parameter targets relax measure)) es₀ t₀)
    (hne : t₀.aggregates ≠ some t₀.samples) (hfile : t₀.aggregates = some file)
    (h : Rounds Ticking.turn t₀ turns result) :
    ∃ (blocks : List Block) (trailing : List Tick),
      rows t₀.samples (es₀ ++ exchanges turns) =
        (Table.header (Table.sampleColumns (s.site.layout .stepped)) ++
          (blocks.flatMap Block.ticks ++ trailing).map fun x => sampleFields x.sample).map
            Table.row ∧
      rows file (es₀ ++ exchanges turns) =
        (Table.header (Table.aggregateColumns parameter (s.site.layout .stepped)) ++
          blocks.map (blockFields (s.site.layout .stepped).length)).map Table.row := by
  obtain ⟨blocks, trailing, hkept, -, -, -, hsamples, haggregates, -⟩ :=
    Ticking.writes_blocks hp.ledger_eq hfile (fun he => hne (by rw [hfile, he])) h
  have hticks : (Tick.kept relax (Ticking.ticks turns)).map Prod.snd =
      blocks.flatMap Block.ticks ++ trailing := by
    rw [hkept, List.map_append, Block.map_snd_numbered]
    simp [Function.comp_def]
  obtain ⟨sweep, hsweep, hhead⟩ := hp.aggregates_eq file hfile
  obtain rfl : sweep = .start parameter targets relax measure := by
    cases hsweep
    rfl
  refine ⟨blocks, trailing, ?_, ?_⟩
  · rw [rows_append, hp.samples_eq, hsamples, ← hticks, List.map_append, List.map_map, List.map_map]
    rfl
  · rw [rows_append, hhead, haggregates, List.map_append, List.map_map]
    rfl

/-- The files of a stepped acquisition belong together, and every row of aggregates has a field for
the target and two for each channel. -/
lemma Prepared.tabulated
    (hp : Prepared s.site (.stepped (.start parameter targets relax measure)) es₀ t₀)
    (hne : t₀.aggregates ≠ some t₀.samples) (hfile : t₀.aggregates = some file)
    (h : Rounds Ticking.turn t₀ turns result) :
    (∀ text ∈ rows file (es₀ ++ exchanges turns),
      Table.IsRow (1 + 2 * (s.site.layout .stepped).length) text) ∧
    ∃ blocks trailing, Tabulated (s.site.layout .stepped)
      (rows t₀.samples (es₀ ++ exchanges turns)) (rows file (es₀ ++ exchanges turns))
      blocks trailing := by
  have hbare := s.bare_layout .stepped
  obtain ⟨blocks, trailing, hsamples, haggregates⟩ := hp.exists_blocks hne hfile h
  have hsound : ∀ fields ∈
      Table.header (Table.aggregateColumns parameter (s.site.layout .stepped)) ++
        blocks.map (blockFields (s.site.layout .stepped).length), Table.Sound fields :=
    List.forall_mem_append.2 ⟨sound_aggregateColumns parameter hbare,
      List.forall_mem_map.2 fun b _ => Table.sound_values b.target _⟩
  rw [haggregates, hsamples]
  refine ⟨List.forall_mem_map.2 fun fields hf => ⟨fields, rfl, hsound fields hf, ?_⟩, blocks,
    trailing, ?_, ?_, fun b _ k hk => values_blockFields b hk⟩
  · rcases List.mem_append.1 hf with hf | hf
    · simp only [Table.header, List.mem_cons, List.not_mem_nil, or_false] at hf
      rcases hf with rfl | rfl <;> rw [List.length_map, length_aggregateColumns]
    · obtain ⟨b, -, rfl⟩ := List.mem_map.1 hf
      exact length_blockFields _ b
  · rw [Table.cells_join_rows (List.forall_mem_append.2 ⟨sound_sampleColumns hbare,
      List.forall_mem_map.2 fun x _ => Table.sound_values x.sample.time _⟩)]
  · rw [Table.cells_join_rows hsound]
    exact ⟨_, _, rfl, fun k c hc => names_aggregateColumns hc⟩

end Prepared

/-- Whether the sweep of a protocol, if it has one, is still to begin. -/
def Unbegun : Protocol → Prop
  | .stepped sweep => ∃ parameter targets relax measure,
      sweep = .start parameter targets relax measure
  | _ => True

/-- Whatever a rig has for a site, however it is wired and whatever its instruments reply: if all
channels are read, there are as many readings as columns. So in a run of an acquisition, whichever
of its rows are written, every line of the file of the samples has a field for the time and one for
each channel. In a stepped acquisition every line of the file of the aggregates has a field for the
target and two for each channel, and these are the mean and the deviation of the channel that they
are named for. -/
theorem Station.columns_line_up (s : Station) :
    (∀ mode values, MayGive s.site (.readChannels mode) (.ok values) →
      values.length = (s.site.layout mode).length) ∧
    ∀ (tuning : Tuning) (paths : DataPaths) (token : Nat) (protocol : Protocol)
      (es₀ : List (Exchange WorkSurroundings)) (t₀ : Ticking)
      (turns : List (Ticking × List (Exchange WorkSurroundings))) (result : Turn Ticking Ending),
      Unbegun protocol →
      (prepareJob s.site tuning paths token protocol).run.Ends es₀ (.ok (.ticking t₀)) →
      t₀.aggregates ≠ some t₀.samples → Rounds Ticking.turn t₀ turns result →
      (∀ e ∈ exchanges turns, s.Gives e) →
      let layout := s.site.layout protocol.mode
      let written := fun file => rows file (es₀ ++ exchanges turns)
      FieldsEach (1 + layout.length) (written t₀.samples) ∧
      ∀ file, t₀.aggregates = some file →
        FieldsEach (1 + 2 * layout.length) (written file) ∧
        ∃ blocks trailing, Tabulated layout (written t₀.samples) (written file) blocks trailing := by
  refine ⟨fun mode values h => s.length_of_mayGive h, ?_⟩
  intro tuning paths token protocol es₀ t₀ turns result hbegin hprep hne hrun hgives
  have hp := prepared_of_ends hprep hne
  refine ⟨fieldsEach_of_isRow (hp.isRow_samples hne hrun hgives), fun file hfile => ?_⟩
  obtain ⟨sweep, rfl, -⟩ := hp.aggregates_eq file hfile
  obtain ⟨parameter, targets, relax, measure, rfl⟩ := hbegin
  obtain ⟨hrows, htable⟩ := hp.tabulated hne hfile hrun
  exact ⟨fieldsEach_of_isRow hrows, htable⟩

/-- Replies of a bench that was told nothing, on a rig where everything goes well. -/
def benchReplies : (r : WorkRequest) → r.Reply
  | .act a => (Site.Bench.initial.perform a).1
  | .rig (.create path) => (.ok (if path = "raw" then 0 else 1) : Except StorageFault Nat)
  | .rig (.pause ..) => true
  | .rig r => ProgramRun.readily (.rig r)

lemma gives_benchReplies {α : Type} (w : Working α) :
    ∀ e ∈ (w.answered benchReplies).1, Station.bench.Gives e := by
  intro e he
  have hreply := reply_of_mem_answered he
  obtain ⟨r, reply⟩ := e
  cases r with
  | rig r => trivial
  | act a =>
    refine ⟨[⟨.bench a, reply⟩], ends_request_iff.2 rfl, List.forall_mem_singleton.2 ?_⟩
    exact ⟨Site.Bench.initial, hreply.symm⟩

/-- The preparation of a sweep of the gate voltage on a bench. -/
def benchSweep : Risky Job :=
  prepareJob Station.bench.site ⟨.ofSeconds 1, 10, 3, 0.1, false, "data", "sample"⟩
    ⟨"raw", "proc", "didv"⟩ 7 (.stepped (.start .gateVoltage [0.5] 0 0))

/-- A sweep of the gate voltage on a bench, before its first tick. -/
def benchTicking : Ticking :=
  .fresh Station.bench.site ⟨.ofSeconds 1, 10, 3, 0.1, false, "data", "sample"⟩ 7 .stepped 0 (some 1)
    (some (.start .gateVoltage [0.5] 0 0))

/-- A sweep on a bench goes through two turns. Three fields stand on each line of its samples, and
five on each line of its aggregates. -/
theorem Station.columns_line_up_bench :
    ∃ es₀ turns result, benchSweep.run.Ends es₀ (.ok (.ticking benchTicking)) ∧
      Rounds Ticking.turn benchTicking turns result ∧ turns.length = 2 ∧
      FieldsEach 3 (rows 0 (es₀ ++ exchanges turns)) ∧
      FieldsEach 5 (rows 1 (es₀ ++ exchanges turns)) := by
  have hprep : benchSweep.run.Ends _ (.ok (.ticking benchTicking)) :=
    ends_answered benchReplies benchSweep.run
  obtain ⟨t, ht⟩ : ∃ t, (benchTicking.turn.answered benchReplies).2 = .again t := ⟨_, rfl⟩
  have first : Rounds Ticking.turn benchTicking
      [(benchTicking, (benchTicking.turn.answered benchReplies).1)] (.again t) :=
    .next .start (ht ▸ ends_answered benchReplies benchTicking.turn)
  have second := first.next (ends_answered benchReplies t.turn)
  have hgives : ∀ e ∈ exchanges ([(benchTicking, (benchTicking.turn.answered benchReplies).1)] ++
      [(t, (t.turn.answered benchReplies).1)]), Station.bench.Gives e := by
    rw [exchanges_append, exchanges_singleton, exchanges_singleton]
    exact List.forall_mem_append.2 ⟨gives_benchReplies _, gives_benchReplies _⟩
  have hbegin : Unbegun (.stepped (.start .gateVoltage [0.5] 0 0)) :=
    ⟨.gateVoltage, [0.5], 0, 0, rfl⟩
  obtain ⟨-, hfiles⟩ := Station.bench.columns_line_up
  obtain ⟨hsamples, htable⟩ :=
    hfiles _ _ _ _ _ _ _ _ hbegin hprep (by decide) second hgives
  exact ⟨_, _, _, hprep, second, rfl, hsamples, (htable 1 rfl).1⟩

end CryoRig.Control
