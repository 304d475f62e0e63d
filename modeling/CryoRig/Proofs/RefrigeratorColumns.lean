import Mathlib.Tactic.Lemma
import CryoRig.Proofs.Operations
import CryoRig.Proofs.ReadingWidth

/-!
# Which reading stands in which column

The names of the columns of a refrigerator and the readings below them are put together in different
places. Here the readings are looked up by name, and each one is traced to the query that it comes
from: every instrument that is wired has its part of what was sent, in a fixed order, and the
reading in a column is a number of the reply in the part of its instrument. Of an instrument that is
not wired there is no part, and nothing in its column.

The bridge says itself which channel its scanner is on, and that decides what is read from it and
where the reading goes. With the scanner moving by itself there is a column for each channel.
Otherwise there are three, and one of them may stand for a thermometer on another channel.

## Main definitions

* `CryoRig.Layout.reading?`: the reading below a name.
* `CryoRig.Instrument.Asked`: what is sent for a query for numbers.
* `CryoRig.Site.SlotRead`, `WiredRead`, `ScannerRead`: what is sent for a lock-in, for an instrument
  that may not be there, and for the bridge, and the readings that come of it.
* `CryoRig.Site.scanCommand`, `parkedCommand`: the query for a channel of the bridge.

## Main results

* `CryoRig.Site.parts_of_readSlots`: the lock-ins.
* `CryoRig.Site.refrigerator_columns`: every column of a refrigerator.
-/

namespace CryoRig

open Process

/-- The reading below a name. -/
def Layout.reading? (l : Layout) (readings : List (Option Float)) (name : String) :
    Option (Option Float) :=
  (l.indexOf? name).bind fun i => readings[i]?

lemma Layout.reading?_eq {l : Layout} {readings : List (Option Float)} {name : String} {i : Nat}
    (h : l.indexOf? name = some i) : l.reading? readings name = readings[i]? := by
  rw [Layout.reading?, h, Option.bind_some]

/-! ## Queries for numbers -/

namespace Instrument

variable {es : List (Exchange Surroundings)} {id command : String}

/-- What is sent for a query for numbers, and the numbers that it was answered with. -/
def Asked (id command : String) (values : Values) (es : List (Exchange Surroundings)) : Prop :=
  ∃ reply, es = hold [⟨.query id command, reply⟩] ∧ Shows reply values

lemma asked_of_ends {numbers : Values} (h : (values id command).run.Ends es (.ok numbers)) :
    Asked id command numbers es := by
  obtain ⟨sent, rfl, hbody⟩ := ends_withBus_iff.1 h
  obtain ⟨reply, rfl, hshows⟩ := ends_values hbody
  exact ⟨reply, rfl, hshows numbers rfl⟩

lemma asked_of_number {x : Float} (h : (number id command).run.Ends es (.ok x)) :
    ∃ numbers, Asked id command numbers es ∧ numbers.toList[0]? = some x := by
  rcases ends_run_bind_iff.1 h with ⟨_, -, ⟨⟩⟩ | ⟨es₁, es₂, numbers, rfl, h₁, h₂⟩
  obtain ⟨rfl, he⟩ := ends_run_pure_iff.1 h₂
  cases he
  exact ⟨numbers, by rw [List.append_nil]; exact asked_of_ends h₁, rfl⟩

/-- The signal of a lock-in is all of the reply to one query. -/
lemma asked_of_signal {amplitude phase : Float}
    (h : (Lockin.signal id).run.Ends es (.ok (amplitude, phase))) :
    ∃ numbers, Asked id "SNAP? 3,4" numbers es ∧ numbers.toList = [amplitude, phase] := by
  rcases ends_run_bind_iff.1 h with ⟨_, -, ⟨⟩⟩ | ⟨es₁, es₂, numbers, rfl, h₁, h₂⟩
  split at h₂
  · next phase' hrest =>
    obtain ⟨rfl, he⟩ := ends_run_pure_iff.1 h₂
    cases he
    refine ⟨numbers, by rw [List.append_nil]; exact asked_of_ends h₁, ?_⟩
    rw [Values.toList, hrest]
  · obtain ⟨-, he⟩ := ends_run_throw_iff.1 h₂
    cases he

/-- A resistance is the third number of the reply. -/
lemma asked_of_resistance {ohms : Float}
    (h : (ResistanceMeter.ohms id).run.Ends es (.ok ohms)) :
    ∃ numbers, Asked id ":READ?" numbers es ∧ numbers.toList[2]? = some ohms := by
  rcases ends_run_bind_iff.1 h with ⟨_, -, ⟨⟩⟩ | ⟨es₁, es₂, numbers, rfl, h₁, h₂⟩
  split at h₂
  · next current ohms' more hrest =>
    obtain ⟨rfl, he⟩ := ends_run_pure_iff.1 h₂
    cases he
    refine ⟨numbers, by rw [List.append_nil]; exact asked_of_ends h₁, ?_⟩
    rw [Values.toList, hrest]
    rfl
  · obtain ⟨-, he⟩ := ends_run_throw_iff.1 h₂
    cases he

end Instrument

namespace Site

open Instrument

variable {es : List (Exchange Surroundings)} {readings : List (Option Float)}

/-! ## Instruments that may not be there -/

/-- What is sent for the place of a lock-in, and the amplitude and phase that come of it. -/
inductive SlotRead : Option String → List (Exchange Surroundings) → Option Float → Option Float →
    Prop
  /-- Nothing is sent for a place without a lock-in. -/
  | absent : SlotRead none [] none none
  /-- A lock-in replies amplitude and phase. -/
  | present {id : String} {numbers : Values} {es : List (Exchange Surroundings)}
    {amplitude phase : Float} (asked : Asked id "SNAP? 3,4" numbers es)
    (reply : numbers.toList = [amplitude, phase]) :
    SlotRead (some id) es (some amplitude) (some phase)

/-- What is sent for an instrument that is asked for one number, and the number that comes of it. -/
inductive WiredRead (command : String) (place : Nat) :
    Option String → List (Exchange Surroundings) → Option Float → Prop
  /-- Nothing is sent for an instrument that is not there. -/
  | absent : WiredRead command place none [] none
  /-- The number stands at its place in the reply. -/
  | present {id : String} {numbers : Values} {es : List (Exchange Surroundings)} {x : Float}
    (asked : Asked id command numbers es) (reply : numbers.toList[place]? = some x) :
    WiredRead command place (some id) es (some x)

/-- **The places of the lock-ins.** The part of each place comes in its turn, and its readings stand
in its two columns.

**Proof sketch.** By induction on the places, as the places are gone through. -/
theorem parts_of_readSlots {places : Nat} {ids : List String}
    (h : (readSlots places ids).run.Ends es (.ok readings)) :
    ∃ parts : List (List (Exchange Surroundings)), parts.length = places ∧ es = parts.flatten ∧
      readings.length = 2 * places ∧ ∀ k < places, ∃ part amplitude phase,
        parts[k]? = some part ∧ SlotRead ids[k]? part amplitude phase ∧
          readings[2 * k]? = some amplitude ∧ readings[2 * k + 1]? = some phase := by
  induction places generalizing ids es readings with
  | zero =>
    obtain ⟨rfl, he⟩ := ends_run_pure_iff.1 h
    cases he
    exact ⟨[], rfl, rfl, rfl, fun k hk => absurd hk (Nat.not_lt_zero k)⟩
  | succ places ih =>
    -- the first place, whatever is there, and those behind it
    have next : ∀ {ids' : List String} {part rest : List (Exchange Surroundings)}
        {amplitude phase : Option Float} {others : List (Option Float)},
        SlotRead ids.head? part amplitude phase → ids' = ids.tail →
        (readSlots places ids').run.Ends rest (.ok others) →
        ∃ parts : List (List (Exchange Surroundings)), parts.length = places + 1 ∧
          part ++ rest = parts.flatten ∧
          (amplitude :: phase :: others).length = 2 * (places + 1) ∧
          ∀ k < places + 1, ∃ part amplitude' phase', parts[k]? = some part ∧
            SlotRead ids[k]? part amplitude' phase' ∧
            (amplitude :: phase :: others)[2 * k]? = some amplitude' ∧
            (amplitude :: phase :: others)[2 * k + 1]? = some phase' := by
      rintro _ part rest amplitude phase others hfirst rfl hrest
      obtain ⟨parts, hparts, rfl, hlength, hplaces⟩ := ih hrest
      refine ⟨part :: parts, by rw [List.length_cons, hparts], rfl, ?_, fun k hk => ?_⟩
      · rw [List.length_cons, List.length_cons, hlength, Nat.mul_succ]
      cases k with
      | zero => exact ⟨part, amplitude, phase, rfl, by rwa [← List.head?_eq_getElem?], rfl, rfl⟩
      | succ k =>
        obtain ⟨part', amplitude', phase', hpart, hslot, ha, hp⟩ :=
          hplaces k (Nat.lt_of_succ_lt_succ hk)
        rw [List.getElem?_tail] at hslot
        exact ⟨part', amplitude', phase', hpart, hslot, ha, hp⟩
    cases ids with
    | nil =>
      rcases ends_run_bind_iff.1 h with ⟨_, -, ⟨⟩⟩ | ⟨es₁, es₂, others, rfl, h₁, h₂⟩
      obtain ⟨rfl, he⟩ := ends_run_pure_iff.1 h₂
      cases he
      have hnone : SlotRead ([] : List String).head? [] none none := .absent
      simpa using next hnone rfl h₁
    | cons id ids =>
      rcases ends_run_bind_iff.1 h with ⟨_, -, ⟨⟩⟩ | ⟨es₁, es₂, signal, rfl, h₁, h₂⟩
      rcases ends_run_bind_iff.1 h₂ with ⟨_, -, ⟨⟩⟩ | ⟨es₃, es₄, others, rfl, h₃, h₄⟩
      obtain ⟨rfl, he⟩ := ends_run_pure_iff.1 h₄
      cases he
      obtain ⟨numbers, hasked, hreply⟩ := asked_of_signal h₁
      rw [List.append_nil]
      exact next (.present hasked hreply) rfl h₃

/-- An instrument that may not be there is asked for a number if it is. -/
lemma wiredRead_of_reading {instrument : Option String} {read : String → Driving Float}
    {command : String} {place : Nat} {x : Option Float}
    (hread : ∀ id es x, (read id).run.Ends es (.ok x) →
      ∃ numbers, Asked id command numbers es ∧ numbers.toList[place]? = some x)
    (h : (RefrigeratorWiring.reading instrument read).run.Ends es (.ok x)) :
    WiredRead command place instrument es x := by
  cases instrument with
  | none =>
    obtain ⟨rfl, he⟩ := ends_run_pure_iff.1 h
    cases he
    exact .absent
  | some id =>
    rcases ends_run_bind_iff.1 h with ⟨_, -, ⟨⟩⟩ | ⟨es₁, es₂, x', rfl, h₁, h₂⟩
    obtain ⟨rfl, he⟩ := ends_run_pure_iff.1 h₂
    cases he
    obtain ⟨numbers, hasked, hreply⟩ := hread id es₁ x' h₁
    rw [List.append_nil]
    exact .present hasked hreply

/-! ## The bridge -/

/-- The query for the channel that a moving scanner is on: five thermometers and two resistances. -/
def scanCommand (channel : Nat) : Option String :=
  if channel ∈ [1, 2, 3, 5, 6] then some ("RDGK? " ++ toString channel)
  else if channel ∈ [7, 8] then some ("RDGR? " ++ toString channel)
  else none

/-- The query for the channel that a parked scanner is on: the mixing chamber, or another flange
instead of it, and two resistances. -/
def parkedCommand (ptFlange : Bool) (channel : Nat) : Option String :=
  if channel = 6 then some (if ptFlange then "RDGK? 2" else "RDGK? 6")
  else if channel ∈ [7, 8] then some ("RDGR? " ++ toString channel)
  else none

/-- What is sent to a bridge under one hold of the bus, the channel that its scanner is on by its
own reply, and the reading that comes of it. -/
inductive ScannerRead (bridge : String) (command : Nat → Option String) :
    List (Exchange Surroundings) → Nat → Option Float → Prop
  /-- The channel has a query, and its reply is the reading. -/
  | reading {scan reply : Option (Except DeviceFault String)} {numbers result : Values}
    {channel autoscan : Float} {text : String} (scanner : Shows scan numbers)
    (on : numbers.toList = [channel, autoscan])
    (asks : command (Number.toByte channel) = some text) (shows : Shows reply result) :
    ScannerRead bridge command (hold [⟨.query bridge "SCAN?", scan⟩, ⟨.query bridge text, reply⟩])
      (Number.toByte channel) (some result.first)
  /-- The channel has no query. -/
  | nothing {scan : Option (Except DeviceFault String)} {numbers : Values}
    {channel autoscan : Float} (scanner : Shows scan numbers)
    (on : numbers.toList = [channel, autoscan])
    (asks : command (Number.toByte channel) = none) :
    ScannerRead bridge command (hold [⟨.query bridge "SCAN?", scan⟩]) (Number.toByte channel) none

/-- A scanner is read as its channel says. -/
lemma scannerRead_of_ends {bridge : String} {pick : Nat → Option (Nat × Bridge.Reading)}
    {command : Nat → Option String} {channel : Nat} {x : Option Float}
    (hpick : ∀ c, (pick c).map (fun p => p.2.command p.1) = command c)
    (h : (Bridge.readScanned bridge pick).run.Ends es (.ok (channel, x))) :
    ScannerRead bridge command es channel x := by
  obtain ⟨sent, rfl, hbody⟩ := ends_withBus_iff.1 h
  rcases ends_run_bind_iff.1 hbody with ⟨_, -, ⟨⟩⟩ | ⟨es₁, es₂, numbers, rfl, h₁, h₂⟩
  obtain ⟨scan, rfl, hshows⟩ := ends_values h₁
  rcases ends_settled_bind_iff.1 h₂ with ⟨_, -, -, ⟨⟩⟩ | ⟨⟨c, autoscan⟩, hparse, h₃⟩
  obtain ⟨on, hon, rfl⟩ : ∃ on, numbers.toList = [numbers.first, on] ∧
      Number.toByte numbers.first = c := by
    unfold Bridge.parseScan at hparse
    split at hparse
    · next on hrest =>
      cases hparse
      exact ⟨on, by rw [Values.toList, hrest], rfl⟩
    · cases hparse
  have hcommand := hpick (Number.toByte numbers.first)
  cases hp : pick (Number.toByte numbers.first) with
  | none =>
    simp only [hp] at h₃
    obtain ⟨rfl, he⟩ := ends_run_pure_iff.1 h₃
    cases he
    rw [hp] at hcommand
    exact .nothing (hshows numbers rfl) hon hcommand.symm
  | some picked =>
    obtain ⟨target, quantity⟩ := picked
    simp only [hp] at h₃
    rcases ends_run_bind_iff.1 h₃ with ⟨_, -, ⟨⟩⟩ | ⟨es₃, es₄, result, rfl, h₄, h₅⟩
    obtain ⟨reply, rfl, hresult⟩ := ends_values h₄
    obtain ⟨rfl, he⟩ := ends_run_pure_iff.1 h₅
    cases he
    rw [hp] at hcommand
    exact .reading (hshows numbers rfl) hon hcommand.symm (hresult result rfl)

lemma command_scanReading (channel : Nat) :
    (scanReading channel).map (fun p => p.2.command p.1) = scanCommand channel := by
  unfold scanReading scanCommand
  split
  · rfl
  · have hmem : (channel = 7 ∨ channel = 8) ↔ channel ∈ [7, 8] := by simp
    simp only [hmem]
    split <;> rfl

lemma command_parkedReading (ptFlange : Bool) (channel : Nat) :
    (parkedReading ptFlange channel).map (fun p => p.2.command p.1) =
      parkedCommand ptFlange channel := by
  unfold parkedReading parkedCommand mixingChamber ptFlangeChannel
  split
  · cases ptFlange <;> rfl
  · have hmem : (channel = 7 ∨ channel = 8) ↔ channel ∈ [7, 8] := by simp
    simp only [hmem]
    split <;> rfl

/-! ## The refrigerator -/

namespace RefrigeratorWiring

/-- The name of the column of an amplitude. -/
def amplitudeName (w : RefrigeratorWiring) (k : Nat) : String :=
  if k = 0 ∧ w.firstMeasuresCurrent then "I1" else "U" ++ toString (k + 1)

/-- What stands in the columns for the bridge and the resistance meter, by the mode. -/
def Thermometry (w : RefrigeratorWiring) (mode : Mode) (column : String → Option (Option Float))
    (bridgePart rest : List (Exchange Surroundings)) : Prop :=
  ∃ channel x, if mode = .autoscan then
    ScannerRead w.bridge scanCommand bridgePart channel x ∧
      (∀ c ∈ [1, 2, 3, 5, 6, 7, 8],
        column ("T" ++ toString c) = some (if c = channel then x else none)) ∧
      rest = if channel ∈ [1, 2, 3, 5, 6, 7, 8] then []
        else [⟨.log (.unknownScannerChannel channel), ()⟩]
  else
    ScannerRead w.bridge (parkedCommand w.ptFlange) bridgePart channel x ∧
      column "T" = some (if 6 = channel then x else none) ∧
      column "T7" = some (if 7 = channel then x else none) ∧
      column "T8" = some (if 8 = channel then x else none) ∧
      ∃ ohms, WiredRead ":READ?" 2 w.resistanceMeter rest ohms ∧ column "RK" = some ohms

variable {w : RefrigeratorWiring} {mode : Mode}

lemma indexOf_amplitude {k : Nat} (hk : k < 4) :
    (w.layout mode).indexOf? (w.amplitudeName k) = some (2 * k) := by
  unfold layout amplitudeName
  generalize w.firstMeasuresCurrent = first
  revert k
  cases first <;> cases mode <;> decide +kernel

lemma indexOf_phase {k : Nat} (hk : k < 4) :
    (w.layout mode).indexOf? ("Phase" ++ toString (k + 1)) = some (2 * k + 1) := by
  unfold layout
  generalize w.firstMeasuresCurrent = first
  revert k
  cases first <;> cases mode <;> decide +kernel

/-- Field and Hall sensor stand behind the lock-ins. -/
lemma indexOf_common :
    (w.layout mode).indexOf? "H" = some 8 ∧ (w.layout mode).indexOf? "Hall" = some 9 := by
  unfold layout
  generalize w.firstMeasuresCurrent = first
  cases first <;> cases mode <;> decide +kernel

/-- Along the scanner there is a column for each of its channels, in their order. -/
lemma indexOf_scan :
    ∀ i < 7, ∀ c ∈ scanOrder[i]?,
      (w.layout .autoscan).indexOf? ("T" ++ toString c) = some (10 + i) := by
  unfold layout
  generalize w.firstMeasuresCurrent = first
  cases first <;> decide +kernel

/-- Off the scanner there are three columns for the bridge and one for the resistance meter. -/
lemma indexOf_parked (hmode : mode ≠ .autoscan) :
    (w.layout mode).indexOf? "T" = some 10 ∧ (w.layout mode).indexOf? "T7" = some 11 ∧
      (w.layout mode).indexOf? "T8" = some 12 ∧ (w.layout mode).indexOf? "RK" = some 13 := by
  unfold layout
  generalize w.firstMeasuresCurrent = first
  cases mode with
  | autoscan => exact absurd rfl hmode
  | continuous | stepped | differential => cases first <;> decide +kernel

lemma nodup_names : (w.layout mode).names.Nodup := by
  unfold layout
  generalize w.firstMeasuresCurrent = first
  cases first <;> cases mode <;> decide +kernel

/-- What is read in every mode: the lock-ins, then the field, then the Hall sensor. -/
lemma parts_of_readCommon {es : List (Exchange Surroundings)} {readings : List (Option Float)}
    (h : w.readCommon.run.Ends es (.ok readings)) :
    ∃ (signals : List (Option Float)) (tesla ohms : Option Float)
      (lockinParts : List (List (Exchange Surroundings)))
      (fieldPart hallPart : List (Exchange Surroundings)),
      readings = signals ++ [tesla, ohms] ∧ signals.length = 8 ∧
      es = lockinParts.flatten ++ fieldPart ++ hallPart ∧ lockinParts.length = 4 ∧
      (∀ k < 4, ∃ part amplitude phase, lockinParts[k]? = some part ∧
        SlotRead w.lockins[k]? part amplitude phase ∧ signals[2 * k]? = some amplitude ∧
          signals[2 * k + 1]? = some phase) ∧
      WiredRead "FIELD:MAG?" 0 w.magnet fieldPart tesla ∧
      WiredRead "RDGR? 8" 0 (if w.measureHall then some w.bridge else none) hallPart ohms := by
  rcases ends_run_bind_iff.1 h with ⟨_, -, ⟨⟩⟩ | ⟨es₁, es₂, signals, rfl, h₁, h₂⟩
  rcases ends_run_bind_iff.1 h₂ with ⟨_, -, ⟨⟩⟩ | ⟨es₃, es₄, tesla, rfl, h₃, h₄⟩
  rcases ends_run_bind_iff.1 h₄ with ⟨_, -, ⟨⟩⟩ | ⟨es₅, es₆, ohms, rfl, h₅, h₆⟩
  obtain ⟨rfl, he⟩ := ends_run_pure_iff.1 h₆
  cases he
  obtain ⟨parts, hparts, rfl, hlength, hplaces⟩ := parts_of_readSlots h₁
  refine ⟨signals, tesla, ohms, parts, es₃, es₅, rfl, hlength, by simp, hparts, hplaces, ?_, ?_⟩
  · exact wiredRead_of_reading (fun _ _ _ => asked_of_number) h₃
  · exact wiredRead_of_reading (fun _ _ _ => asked_of_number) h₅

/-- The readings of the bridge and the resistance meter come behind the others. -/
lemma ends_thermometry {es : List (Exchange Surroundings)} {common readings : List (Option Float)}
    (h : (do
      let thermometry ← if mode = .autoscan then w.readScan else w.readParked
      pure (common ++ thermometry) : Driving (List (Option Float))).run.Ends es (.ok readings)) :
    ∃ others, readings = common ++ others ∧
      (if mode = .autoscan then w.readScan else w.readParked).run.Ends es (.ok others) := by
  have hbehind : ∀ {first : Driving (List (Option Float))},
      (first >>= fun thermometry => pure (common ++ thermometry)).run.Ends es (.ok readings) →
      ∃ others, readings = common ++ others ∧ first.run.Ends es (.ok others) := fun h => by
    rcases ends_run_bind_iff.1 h with ⟨_, -, ⟨⟩⟩ | ⟨es₁, es₂, others, rfl, h₁, h₂⟩
    obtain ⟨rfl, he⟩ := ends_run_pure_iff.1 h₂
    cases he
    exact ⟨others, rfl, by rwa [List.append_nil]⟩
  dsimp only at h
  split at h
  · next hmode =>
    rw [if_pos hmode]
    exact hbehind h
  · next hmode =>
    rw [if_neg hmode]
    exact hbehind h

/-- What is read along the scanner. -/
lemma thermometry_of_readScan {es : List (Exchange Surroundings)}
    {common readings : List (Option Float)} (hcommon : common.length = 10)
    (h : w.readScan.run.Ends es (.ok readings)) :
    ∃ bridgePart rest, es = bridgePart ++ rest ∧
      w.Thermometry .autoscan ((w.layout .autoscan).reading? (common ++ readings))
        bridgePart rest := by
  rcases ends_run_bind_iff.1 h with ⟨_, -, ⟨⟩⟩ | ⟨es₁, es₂, ⟨channel, x⟩, rfl, h₁, h₂⟩
  have hscan := scannerRead_of_ends command_scanReading h₁
  have hend : es₂ = (if channel ∈ scanOrder then []
      else [⟨.log (.unknownScannerChannel channel), ()⟩]) ∧ readings = scanColumns channel x := by
    dsimp only at h₂
    split at h₂
    · next hmem =>
      rcases ends_run_bind_iff.1 h₂ with ⟨_, -, ⟨⟩⟩ | ⟨es₃, es₄, u, rfl, h₃, h₄⟩
      obtain ⟨rfl, he⟩ := ends_run_pure_iff.1 h₄
      cases he
      obtain ⟨reply, rest, rfl, h₅⟩ := ends_ask_iff.1 h₃
      obtain ⟨rfl, -⟩ := ends_done_iff.1 h₅
      rw [if_neg hmem]
      exact ⟨rfl, rfl⟩
    · next hmem =>
      obtain ⟨rfl, he⟩ := ends_run_pure_iff.1 h₂
      cases he
      rw [if_pos (Decidable.not_not.1 hmem)]
      exact ⟨rfl, rfl⟩
  obtain ⟨rfl, rfl⟩ := hend
  refine ⟨es₁, _, rfl, channel, x, ?_⟩
  rw [if_pos rfl]
  refine ⟨hscan, fun c hc => ?_, rfl⟩
  obtain ⟨i, hi⟩ := List.mem_iff_getElem?.1 (show c ∈ scanOrder from hc)
  have hlt : i < 7 := (List.getElem?_eq_some_iff.1 hi).1
  rw [Layout.reading?_eq (indexOf_scan i hlt c hi), List.getElem?_append_right (by omega), hcommon,
    Nat.add_sub_cancel_left, scanColumns, List.getElem?_map, hi, Option.map_some]

/-- What is read off the scanner. -/
lemma thermometry_of_readParked {es : List (Exchange Surroundings)}
    {common readings : List (Option Float)} (hcommon : common.length = 10)
    (hmode : mode ≠ .autoscan) (h : w.readParked.run.Ends es (.ok readings)) :
    ∃ bridgePart rest, es = bridgePart ++ rest ∧
      w.Thermometry mode ((w.layout mode).reading? (common ++ readings)) bridgePart rest := by
  rcases ends_run_bind_iff.1 h with ⟨_, -, ⟨⟩⟩ | ⟨es₁, es₂, ⟨channel, x⟩, rfl, h₁, h₂⟩
  rcases ends_run_bind_iff.1 h₂ with ⟨_, -, ⟨⟩⟩ | ⟨es₃, es₄, ohms, rfl, h₃, h₄⟩
  obtain ⟨rfl, he⟩ := ends_run_pure_iff.1 h₄
  cases he
  have hmeter := wiredRead_of_reading (fun _ _ _ => asked_of_resistance) h₃
  obtain ⟨hT, hT7, hT8, hRK⟩ := indexOf_parked (w := w) hmode
  have hat : ∀ {name : String} {i : Nat}, (w.layout mode).indexOf? name = some (10 + i) →
      (w.layout mode).reading? (common ++ (parkedColumns channel x ++ [ohms])) name =
        (parkedColumns channel x ++ [ohms])[i]? := fun h => by
    rw [Layout.reading?_eq h, List.getElem?_append_right (by omega), hcommon,
      Nat.add_sub_cancel_left]
  refine ⟨es₁, es₃, by rw [List.append_nil], channel, x, ?_⟩
  rw [if_neg hmode]
  exact ⟨scannerRead_of_ends (command_parkedReading w.ptFlange) h₁, hat (i := 0) hT,
    hat (i := 1) hT7, hat (i := 2) hT8, ohms, hmeter, hat (i := 3) hRK⟩

end RefrigeratorWiring

/-- **Every reading of a refrigerator stands in the column of its name.** Whatever its instruments
reply, if all channels are read then what was sent are the parts of its instruments, one behind the
other: the places of the lock-ins, the magnet, the Hall sensor, the bridge, and in the end the
resistance meter. Each reading is looked up by name, and the names are all different.

* Below `U` and `Phase` with the number of a place, or below `I1` for the first one if that measures
  a current, stand amplitude and phase of the lock-in at that place, and nothing if there is none.
* Below `H` stands the field if there is a magnet, below `Hall` the Hall sensor if it is read.
* Along the scanner, below `T` with the number of the channel that the bridge says it is on stands
  what that channel was asked for, if it is one of the seven; nothing stands below the others.
* Off the scanner, below `T`, `T7` or `T8` stands what was asked for on the channel that the scanner
  is parked on, and below `RK` the resistance if there is a meter.

**Proof sketch.** The reading is cut where one instrument comes after another. The parts of the
lock-ins are by induction on the places. Where a name stands in the layout does not depend on the
wiring, but for the first lock-in, and is looked up for both cases and each mode. -/
theorem refrigerator_columns (w : RefrigeratorWiring) {mode : Mode}
    {es : List (Exchange Surroundings)} {readings : List (Option Float)}
    (h : ((refrigerator w).perform (.readChannels mode)).Ends es (.ok readings)) :
    let layout := (refrigerator w).layout mode
    let column := layout.reading? readings
    layout.names.Nodup ∧ readings.length = layout.length ∧
    ∃ (lockinParts : List (List (Exchange Surroundings)))
      (fieldPart hallPart bridgePart rest : List (Exchange Surroundings)),
      es = lockinParts.flatten ++ fieldPart ++ hallPart ++ bridgePart ++ rest ∧
      lockinParts.length = 4 ∧
      (∀ k < 4, ∃ part amplitude phase, lockinParts[k]? = some part ∧
        SlotRead w.lockins[k]? part amplitude phase ∧
          column (w.amplitudeName k) = some amplitude ∧
          column ("Phase" ++ toString (k + 1)) = some phase) ∧
      (∃ tesla, WiredRead "FIELD:MAG?" 0 w.magnet fieldPart tesla ∧ column "H" = some tesla) ∧
      (∃ ohms, WiredRead "RDGR? 8" 0 (if w.measureHall then some w.bridge else none) hallPart ohms ∧
        column "Hall" = some ohms) ∧
      w.Thermometry mode column bridgePart rest := by
  dsimp only
  refine ⟨RefrigeratorWiring.nodup_names, w.reads_readChannels mode es readings h, ?_⟩
  rcases ends_run_bind_iff.1 h with ⟨_, -, ⟨⟩⟩ | ⟨es₁, es₂, common, rfl, h₁, h₂⟩
  obtain ⟨others, rfl, h₃⟩ := RefrigeratorWiring.ends_thermometry h₂
  obtain ⟨signals, tesla, ohms, lockinParts, fieldPart, hallPart, rfl, hsignals, rfl, hparts,
    hplaces, hfield, hhall⟩ := RefrigeratorWiring.parts_of_readCommon h₁
  have hcommon : (signals ++ [tesla, ohms]).length = 10 := by simp [hsignals]
  obtain ⟨bridgePart, rest, rfl, hthermo⟩ : ∃ bridgePart rest, es₂ = bridgePart ++ rest ∧
      w.Thermometry mode ((w.layout mode).reading? (signals ++ [tesla, ohms] ++ others))
        bridgePart rest := by
    split at h₃
    · next hmode =>
      subst hmode
      exact RefrigeratorWiring.thermometry_of_readScan hcommon h₃
    · next hmode => exact RefrigeratorWiring.thermometry_of_readParked hcommon hmode h₃
  obtain ⟨hH, hHall⟩ := @RefrigeratorWiring.indexOf_common w mode
  -- the readings of the lock-ins stand in front, at the places of their names
  have hat : ∀ {name : String} {i : Nat} {x : Option Float},
      (w.layout mode).indexOf? name = some i → signals[i]? = some x →
      (w.layout mode).reading? (signals ++ [tesla, ohms] ++ others) name = some x :=
    fun hi hx => by
      have hlt := (List.getElem?_eq_some_iff.1 hx).1
      rw [Layout.reading?_eq hi, List.append_assoc, List.getElem?_append_left hlt, hx]
  have hbehind : ∀ {name : String} {i : Nat},
      (w.layout mode).indexOf? name = some (8 + i) →
      (w.layout mode).reading? (signals ++ [tesla, ohms] ++ others) name =
        ([tesla, ohms] ++ others)[i]? := fun hi => by
    rw [Layout.reading?_eq hi, List.append_assoc, List.getElem?_append_right (by omega), hsignals,
      Nat.add_sub_cancel_left]
  refine ⟨lockinParts, fieldPart, hallPart, bridgePart, rest, by simp, hparts, fun k hk => ?_,
    ⟨tesla, hfield, hbehind (i := 0) hH⟩, ⟨ohms, hhall, hbehind (i := 1) hHall⟩, hthermo⟩
  obtain ⟨part, amplitude, phase, hpart, hslot, ha, hp⟩ := hplaces k hk
  exact ⟨part, amplitude, phase, hpart, hslot, hat (RefrigeratorWiring.indexOf_amplitude hk) ha,
    hat (RefrigeratorWiring.indexOf_phase hk) hp⟩

/-! ### A refrigerator with two lock-ins -/

/-- A refrigerator with two lock-ins, a magnet, a Hall sensor and a resistance meter. -/
def twoLockins : RefrigeratorWiring :=
  ⟨["near", "far"], some "magnet", "bridge", none, some "meter", none, true, true, false⟩

/-- Replies of its instruments while the scanner is on the last channel. -/
def lastChannel : (r : Request) → r.Reply
  | .query _ "SCAN?" => some (.ok "8,1")
  | .query _ "SNAP? 3,4" => some (.ok "1.5,90")
  | .query _ ":READ?" => some (.ok "1,2,3")
  | .query .. => some (.ok "0.25")
  | .write .. => some (.ok ())
  | .seize | .release | .sleep _ | .log _ => ()

/-- With two lock-ins the second place has an amplitude and the third one has none. There is a
field, and of the last two channels along the scanner the one that it is on has a reading. -/
theorem refrigerator_columns_twoLockins :
    ∃ es readings, ((refrigerator twoLockins).perform (.readChannels .autoscan)).Ends es
      (.ok readings) ∧
      let column := ((refrigerator twoLockins).layout .autoscan).reading? readings
      (∃ x, column "U2" = some (some x)) ∧ column "U3" = some none ∧
      (∃ x, column "H" = some (some x)) ∧
      column "T7" = some none ∧ ∃ x, column "T8" = some (some x) := by
  obtain ⟨readings, hr⟩ : ∃ readings, (((refrigerator twoLockins).perform
      (.readChannels .autoscan)).answered lastChannel).2 = .ok readings := ⟨_, rfl⟩
  have h := ends_answered lastChannel ((refrigerator twoLockins).perform (.readChannels .autoscan))
  rw [hr] at h
  refine ⟨_, readings, h, ?_⟩
  obtain ⟨-, -, lockinParts, fieldPart, hallPart, bridgePart, rest, -, -, hlockins,
    ⟨tesla, hfield, hH⟩, -, channel, x, hthermo⟩ := refrigerator_columns twoLockins h
  rw [if_pos rfl] at hthermo
  obtain ⟨-, hcolumns, -⟩ := hthermo
  obtain ⟨part, amplitude, phase, -, hslot, hU, -⟩ := hlockins 1 (by decide)
  obtain ⟨part', amplitude', phase', -, hslot', hU', -⟩ := hlockins 2 (by decide)
  refine ⟨?_, ?_, ?_, ?_⟩
  · cases hslot with
    | present asked reply => exact ⟨_, hU⟩
  · cases hslot' with
    | absent => exact hU'
  · cases hfield with
    | present asked reply => exact ⟨_, hH⟩
  · cases hr
    exact ⟨rfl, _, rfl⟩

end Site

end CryoRig
