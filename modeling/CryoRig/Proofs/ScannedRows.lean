import CryoRig.Proofs.ScannerReadings
import CryoRig.Proofs.StepEntries
import CryoRig.Proofs.StoppedTicks

/-!
# Rows along a scanner

An acquisition that goes along the scanner of a bridge writes a row for every reading that succeeds.
The reading was told where the scanner is, and the row has a value for that place only. A reading
that fails has no row, and it was not told any place either. So the rows that were put into the file
are those of the places that the scanner was at, one by one, and only the tick in progress may be
told of a place that there is no row for yet.

## Main definitions

* `CryoRig.Site.RefrigeratorWiring.ShowsOnly`: a row with a value for one place.
* `CryoRig.Site.RefrigeratorWiring.RowsFor`: rows for the places that the scanner was at.
* `CryoRig.Control.Ticking.AlongScanner`: an acquisition that goes along the scanner.

## Main results

* `CryoRig.Control.Ticking.rowsFor_of_beat`: a tick writes the row for the place that it is told of.
* `CryoRig.Control.Ticking.rowsFor_of_begun`: and so does an acquisition, tick by tick.
-/

namespace CryoRig

open Process

/-! ## Rows for places -/

namespace Site.RefrigeratorWiring

open Control Sampling Instrument.Bridge Simulated.Bridge

variable {w : RefrigeratorWiring} {es es' : List (Exchange RigSurroundings)} {file channel : Nat}
  {more : List (Option (Except DeviceFault String))}

/-- A row has a value below one channel of the scanner, the one that the bridge holds for it, and
none below the others. -/
structure ShowsOnly (w : RefrigeratorWiring) (channel : Nat) (fields : List String) : Prop where
  /-- The fields make up a row without quotes. -/
  sound : Table.Sound fields
  /-- What stands below each channel. -/
  field : ∀ c ∈ scanOrder, ∃ i,
    Layout.indexOf? (Table.sampleColumns (w.layout .autoscan)) ("T" ++ toString c) = some i ∧
      fields[i]? = some (if c = channel then Number.plain (held c) else Table.missing)
  /-- What stands below the one channel is not the mark for a missing value. -/
  present : Number.plain (held channel) ≠ Table.missing

/-- What the bridge holds is written as a number. -/
lemma plain_held_ne_missing (h : channel ∈ thermometers) :
    Number.plain (held channel) ≠ Table.missing := by
  have hall : ∀ c ∈ thermometers, Number.plain (held c) ≠ Table.missing := by decide +kernel
  exact hall channel h

/-- Readings with a value for one channel make up such a row. -/
lemma showsOnly_values {readings : List (Option Float)} (time : Float) (hc : channel ∈ thermometers)
    (h : ∀ c ∈ scanOrder, (w.layout .autoscan).reading? readings ("T" ++ toString c) =
      some (if c = channel then some (held channel) else none)) :
    w.ShowsOnly channel (Number.plain time :: readings.map Table.value) where
  sound := Table.sound_values time readings
  field c hc := by
    obtain ⟨i, hi⟩ := List.mem_iff_getElem?.1 hc
    have hlt : i < 7 := (List.getElem?_eq_some_iff.1 hi).1
    have hindex := indexOf_scan (w := w) i hlt c hi
    have hreading := h c hc
    rw [Layout.reading?_eq hindex] at hreading
    refine ⟨10 + i + 1, ?_, ?_⟩
    · have htime : ("time" == "T" ++ toString c) = false := by
        refine beq_eq_false_iff_ne.2 fun heq => ?_
        have hchars := congrArg String.toList heq
        simp at hchars
      change List.findIdx? _ (_ :: w.layout .autoscan) = _
      rw [List.findIdx?_cons, htime]
      change Option.map (· + 1) ((w.layout .autoscan).indexOf? ("T" ++ toString c)) = _
      rw [hindex]
      rfl
    · rw [List.getElem?_cons_succ, List.getElem?_map, hreading, Option.map_some]
      split
      · next heq =>
        rw [heq]
        rfl
      · rfl
  present := plain_held_ne_missing hc

/-- For each place that the scanner was at, in order, there is a row in a file with a value for this
place only; there is none yet for the last places `more`. -/
def RowsFor (w : RefrigeratorWiring) (file : Nat) (es : List (Exchange RigSurroundings))
    (more : List (Option (Except DeviceFault String))) : Prop :=
  ∃ shown : List (Nat × List String),
    scannerReplies w.bridge es = shown.map (fun x => some (.ok (placeText x.1))) ++ more ∧
    appended file es = shown.map (fun x => Table.row x.2) ∧
    ∀ x ∈ shown, x.1 ∈ thermometers ∧ w.ShowsOnly x.1 x.2

/-- What was asked neither put a row into a file nor concerned a scanner. -/
def Apart (r : Request) : Prop := OnDevices OffScanner r ∧ ∀ file text, r ≠ .append file text

lemma rowsFor_nil : w.RowsFor file [] [] := ⟨[], rfl, rfl, List.forall_mem_nil _⟩

lemma RowsFor.append (h : w.RowsFor file es []) (h' : w.RowsFor file es' more) :
    w.RowsFor file (es ++ es') more := by
  obtain ⟨shown, hplaces, hrows, hshown⟩ := h
  obtain ⟨shown', hplaces', hrows', hshown'⟩ := h'
  refine ⟨shown ++ shown', ?_, ?_, List.forall_mem_append.2 ⟨hshown, hshown'⟩⟩
  · rw [scannerReplies_append, hplaces, hplaces', List.append_nil, List.map_append,
      List.append_assoc]
  · rw [appended_append, hrows, hrows', List.map_append]

lemma rowsFor_of_apart (h : ∀ e ∈ es, Apart e.request) : w.RowsFor file es [] := by
  refine ⟨[], ?_, ?_, List.forall_mem_nil _⟩
  · exact scannerReplies_eq_nil fun e he => (h e he).1
  · exact appended_eq_nil fun text reply hmem => (h _ hmem).2 file text rfl

end Site.RefrigeratorWiring

namespace Control.Ticking

open Sampling Site Instrument.Bridge Simulated.Bridge RefrigeratorWiring

variable {w : RefrigeratorWiring} {t t₀ : Ticking} {file : Nat} {now : Float}
  {es : List (Exchange RigSurroundings)}

/-! ## A tick along the scanner -/

/-- An acquisition goes along the scanner and writes its samples into a file. -/
structure AlongScanner (t : Ticking) (file : Nat) : Prop where
  /-- It samples along the scanner. -/
  mode : t.mode = .autoscan
  /-- It belongs to no sweep. -/
  sweep : t.ledger.sweep = none
  /-- That is its file. -/
  samples : t.samples = file

/-- What a tick without a sweep makes of a reading. -/
def takeIn (t : Ticking) (now : Float) :
    Except DeviceFault (List (Option Float)) × OverloadMonitor → Working (Bool × Ticking)
  | (.error fault, overload) => do
    log (.cannotObtainPoint fault)
    pure (false, { t with overload := overload })
  | (.ok values, overload) => do
    let t := { t with overload := overload, ledger := (t.ledger.take ⟨now, values⟩).2 }
    t.commit ⟨now, values⟩
    pure (false, t)

/-- Without a sweep every sample is kept. -/
lemma tick_eq_takeIn (h : t.ledger.sweep = none) : t.tick now = t.acquire >>= t.takeIn now := by
  rw [tick_eq]
  congr 1
  funext ⟨result, overload⟩
  cases result with
  | error fault => rfl
  | ok values =>
    have htake : t.ledger.take ⟨now, values⟩ =
        (Ledger.kept, { t.ledger with series := t.ledger.series.push ⟨now, values⟩ }) := by
      simp only [Ledger.take, h]
    have hrest : (t.taking ⟨now, values⟩ overload).afterVerdict (t.ledger.take ⟨now, values⟩).1 =
        pure (false, t.taking ⟨now, values⟩ overload) := by
      simp only [afterVerdict, taking, htake, h]
    dsimp only [digest, retain]
    rw [hrest, if_pos (by rw [htake]; rfl), ← commit_taking t ⟨now, values⟩ ⟨now, values⟩ overload]
    rfl

/-- A request is no row for a file. -/
def NoRow (file : Nat) (r : Request) : Prop := ∀ text, r ≠ .append file text

/-- Work that writes no row into a file writes none on a rig. -/
lemma noRow_carryOut {α : Type} {s : Station} {work : Working α}
    (h : work.AsksOnly (WorkRequest.Spares file)) :
    (carryOut s.site work).AsksOnly (NoRow file) := by
  refine h.translate fun q hq => ?_
  cases q with
  | rig r =>
    refine asksOnly_request.2 ?_
    rintro text rfl
    exact hq text rfl
  | act a =>
    cases s with
    | bench => exact asksOnly_request.2 fun text => by rintro ⟨⟩
    | facility f =>
      have hsite : (f.site.perform a).AsksOnly fun _ => True := by
        induction f.site.perform a with
        | done => trivial
        | ask r next ih => exact ⟨trivial, ih⟩
      exact hsite.translate fun r _ => asksOnly_request.2 fun text => by rintro ⟨⟩

/-- The looks at lock-ins that a tick begins with leave the scanner alone. -/
lemma offScanner_check :
    (carryOut (refrigerator w) t.check).AsksOnly (OnDevices OffScanner) := by
  have hchecks : t.check.AsksOnly WorkRequest.Checks :=
    check_asksOnly fun _ _ => checkLockins_checks _ _
  refine hchecks.translate fun q hq => ?_
  cases q with
  | act a => exact (offScanner_perform hq).translate fun r hr => asksOnly_request.2 hr
  | rig r =>
    refine asksOnly_request.2 ?_
    cases r with
    | device r =>
      cases r with
      | write | query => exact hq.elim
      | _ => trivial
    | _ => trivial

/-- The channels are read after the looks at the lock-ins. -/
lemma readAlong_of_acquire (ht : t.AlongScanner file)
    {read : Except DeviceFault (List (Option Float)) × OverloadMonitor}
    (hscan : ∀ e ∈ es, Scanning w.bridge e)
    (h : (carryOut (refrigerator w) t.acquire).Ends es read) : w.ReadAlong es read.1 := by
  rw [acquire_eq, carryOut_bind] at h
  obtain ⟨es₁, es₂, ⟨checked, overload⟩, rfl, h₁, h₂⟩ := ends_bind_iff.1 h
  have hcheck : scannerReplies w.bridge es₁ = [] :=
    scannerReplies_eq_nil (offScanner_check.of_leads h₁)
  cases checked with
  | error fault =>
    obtain ⟨rfl, rfl⟩ := ends_pure_iff.1 h₂
    exact .failed fault (by rw [List.append_nil, hcheck])
  | ok =>
    dsimp only at h₂
    rw [ht.mode] at h₂
    change ((refrigerator w).perform (.readChannels .autoscan) >>= fun outcome =>
      pure (outcome, overload)).Ends es₂ read at h₂
    obtain ⟨es₃, es₄, outcome, rfl, h₃, h₄⟩ := ends_bind_iff.1 h₂
    obtain ⟨rfl, rfl⟩ := ends_pure_iff.1 h₄
    obtain ⟨said, rfl, hsaid⟩ := ends_ofDriver_iff.1 h₃
    have hread := readAlong_of_readChannels hsaid fun e he => hscan _
      (List.mem_append_right _ (List.mem_append_left _ (List.mem_map_of_mem he)))
    rw [List.append_nil]
    exact hread.of_eq (by rw [scannerReplies_append, hcheck, List.nil_append])

/-- Without a reading nothing is written. -/
lemma takeIn_error (fault : DeviceFault) (overload : OverloadMonitor) :
    (carryOut (refrigerator w) (t.takeIn now (.error fault, overload))).AsksOnly Apart :=
  ⟨⟨trivial, fun file text => by rintro ⟨⟩⟩, fun _ => trivial⟩

/-- With a reading its row is written first. -/
lemma takeIn_ok (w : RefrigeratorWiring) (ht : t.AlongScanner file) (now : Float)
    (values : List (Option Float)) (overload : OverloadMonitor) :
    ∃ next, carryOut (refrigerator w) (t.takeIn now (.ok values, overload)) =
        .ask (.append file (Table.values now values)) next ∧
      ∀ reply, (next reply).AsksOnly Apart := by
  have hpresent (token : Nat) (x : Sample) : Apart (.present token x) :=
    ⟨trivial, fun file text => by rintro ⟨⟩⟩
  rw [← ht.samples]
  refine ⟨_, rfl, fun written => ?_⟩
  cases written with
  | ok => exact ⟨hpresent _ _, fun _ => trivial⟩
  | error cause =>
    refine ⟨⟨trivial, fun file text => by rintro ⟨⟩⟩, fun _ => ?_⟩
    exact ⟨hpresent _ _, fun _ => trivial⟩

/-- It is the same acquisition once what was read is taken in. -/
lemma yields_takeIn (ht : t.AlongScanner file)
    (read : Except DeviceFault (List (Option Float)) × OverloadMonitor) :
    (carryOut (refrigerator w) (t.takeIn now read)).Yields (OnDevices OnlyScans)
      fun x => x.2.AlongScanner file := by
  obtain ⟨fault | values, overload⟩ := read
  · exact ⟨trivial, fun _ => ⟨ht.mode, ht.sweep, ht.samples⟩⟩
  have hsweep : (t.ledger.take ⟨now, values⟩).2.sweep = none := by
    simp only [Ledger.take, ht.sweep]
  refine ⟨trivial, fun written => ?_⟩
  cases written with
  | ok => exact ⟨trivial, fun _ => ⟨ht.mode, hsweep, ht.samples⟩⟩
  | error cause =>
    refine ⟨trivial, fun _ => ?_⟩
    exact ⟨trivial, fun _ => ⟨ht.mode, hsweep, ht.samples⟩⟩

/-- A tick along the scanner looks at the clock, reads the channels, and takes in what was read. -/
lemma beat_eq_takeIn (ht : t.AlongScanner file) (site : Site RigSurroundings) :
    t.beat site = .ask .clock fun (ms : Nat) => carryOut site t.acquire >>= fun read =>
      (fun x => (x.1, t.afterTick ms x.2)) <$> carryOut site (t.takeIn (t.timeAt ms) read) := by
  change Process.ask _ _ = Process.ask _ _
  congr 1
  funext ms
  simp only [← bind_pure_comp]
  rw [← LawfulMonad.bind_assoc, ← carryOut_bind, ← tick_eq_takeIn ht.sweep]
  rfl

/-- There is no row yet while the channels are read. -/
lemma appended_of_acquire
    {left : RigWork (Except DeviceFault (List (Option Float)) × OverloadMonitor)}
    (h : (carryOut (refrigerator w) t.acquire).Leads es left) : appended file es = [] := by
  have hspares : t.acquire.AsksOnly (WorkRequest.Spares file) :=
    acquire_watches.mono WorkRequest.Watches.spares
  exact appended_eq_nil fun text reply hmem =>
    (noRow_carryOut (s := .facility (.refrigerator w)) hspares).of_leads h _ hmem text rfl

/-- Taking in what was read takes a request. -/
lemma carryOut_takeIn_ne_done (site : Site RigSurroundings)
    (read : Except DeviceFault (List (Option Float)) × OverloadMonitor) (x : Bool × Ticking) :
    carryOut site (t.takeIn now read) ≠ .done x := by
  obtain ⟨fault | values, overload⟩ := read <;> rintro ⟨⟩

lemma exists_of_map_eq_done {α β : Type} {f : α → β} {p : RigWork α} {b : β}
    (h : f <$> p = .done b) : ∃ a, p = .done a ∧ f a = b := by
  cases p with
  | done a => exact ⟨a, rfl, Process.done.inj h⟩
  | ask r next => cases h

/-- What was read is taken in: there is a row if a place was told. -/
lemma rowsFor_of_takeIn (ht : t.AlongScanner file)
    {read : Except DeviceFault (List (Option Float)) × OverloadMonitor}
    {es' : List (Exchange RigSurroundings)} {left : RigWork (Bool × Ticking)}
    (hread : w.ReadAlong es read.1) (hnone : appended file es = [])
    (h : (carryOut (refrigerator w) (t.takeIn now read)).Leads es' left) :
    ∃ more, w.RowsFor file (es ++ es') more ∧ ∀ x, left = .done x → more = [] := by
  obtain ⟨result, overload⟩ := read
  cases hread with
  | failed fault unasked =>
    have hrows : w.RowsFor file es' [] :=
      rowsFor_of_apart ((takeIn_error fault overload).of_leads h)
    have hfirst : w.RowsFor file es [] := ⟨[], unasked, hnone, List.forall_mem_nil _⟩
    exact ⟨[], hfirst.append hrows, fun _ _ => rfl⟩
  | @reading channel values thermometer place columns =>
    obtain ⟨next, htake, hnext⟩ := takeIn_ok w ht now values overload
    rw [htake] at h
    rcases leads_ask_iff.1 h with ⟨rfl, rfl⟩ | ⟨written, es', rfl, hl⟩
    · -- the place was told, and its row is to be written next
      rw [List.append_nil]
      exact ⟨_, ⟨[], place, hnone, List.forall_mem_nil _⟩, by rintro x ⟨⟩⟩
    · have hrows : w.RowsFor file es' [] :=
        rowsFor_of_apart ((hnext written).of_leads hl)
      have hfirst :
          w.RowsFor file (es ++ [⟨.append file (Table.values now values), written⟩]) [] := by
        refine ⟨[(channel, _)], ?_, ?_,
          List.forall_mem_singleton.2 ⟨thermometer, showsOnly_values now thermometer columns⟩⟩
        · rw [scannerReplies_append, place]
          rfl
        · rw [appended_append, hnone, List.nil_append]
          exact List.filterMap_cons_some (if_pos rfl)
      have hall := hfirst.append hrows
      rw [List.append_assoc] at hall
      exact ⟨[], hall, fun _ _ => rfl⟩

/-- **A tick writes the row for the place that it is told of.** In between it may have been told of
a place without having written the row. -/
theorem rowsFor_of_beat (ht : t.AlongScanner file) {left : RigWork (Bool × Ticking)}
    (hscan : ∀ e ∈ es, Scanning w.bridge e) (h : (t.beat (refrigerator w)).Leads es left) :
    ∃ more, w.RowsFor file es more ∧ ∀ x, left = .done x → more = [] := by
  rw [beat_eq_takeIn ht] at h
  rcases leads_ask_iff.1 h with ⟨rfl, rfl⟩ | ⟨ms, es, rfl, hl⟩
  · exact ⟨[], rowsFor_nil, by rintro x ⟨⟩⟩
  have hclock : w.RowsFor file [⟨.clock, ms⟩] [] :=
    rowsFor_of_apart (List.forall_mem_singleton.2 ⟨trivial, fun file text => by rintro ⟨⟩⟩)
  rcases leads_bind_cases hl with ⟨inner, hinner, rfl⟩ | ⟨es₁, es₂, read, rfl, hread, htaken⟩
  · -- the channels are read
    have hrows : w.RowsFor file es _ := ⟨[], rfl, appended_of_acquire hinner, List.forall_mem_nil _⟩
    refine ⟨_, hclock.append hrows, fun x hx => ?_⟩
    cases inner with
    | done read =>
      obtain ⟨x', hx', -⟩ := exists_of_map_eq_done hx
      exact absurd hx' (carryOut_takeIn_ne_done _ _ x')
    | ask r next => cases hx
  · obtain ⟨inner, hinner, rfl⟩ := exists_of_leads_map htaken
    have halong := readAlong_of_acquire ht
      (fun e he => hscan e (List.mem_cons_of_mem _ (List.mem_append_left _ he))) hread
    obtain ⟨more, hrows, hdone⟩ := rowsFor_of_takeIn ht halong (appended_of_acquire hread) hinner
    refine ⟨more, hclock.append hrows, fun x hx => ?_⟩
    obtain ⟨x', rfl, rfl⟩ := exists_of_map_eq_done hx
    exact hdone x' rfl

/-- A tick along the scanner at most asks where the scanner is, and goes on along it. -/
lemma yields_beat (ht : t.AlongScanner file) :
    (t.beat (refrigerator w)).Yields (OnDevices OnlyScans) fun x => x.2.AlongScanner file := by
  have hread : (carryOut (refrigerator w) t.acquire).AsksOnly (OnDevices OnlyScans) := by
    rw [acquire_eq, carryOut_bind]
    refine (offScanner_check.mono fun r hr => ?_).bind fun checked => ?_
    · cases r with
      | device r => exact hr.onlyScans
      | _ => trivial
    obtain ⟨fault | _, overload⟩ := checked
    · trivial
    · dsimp only
      rw [ht.mode]
      have hreads : ((refrigerator w).perform (.readChannels .autoscan)).AsksOnly
          (OnDevices OnlyScans) :=
        onlyScans_readChannels.translate fun r hr => asksOnly_request.2 hr
      exact hreads.bind fun _ => trivial
  rw [beat_eq_takeIn ht]
  refine ⟨trivial, fun ms => hread.bind_yields fun read => ?_⟩
  rw [← bind_pure_comp]
  exact (yields_takeIn ht read).bind fun x hx => ⟨hx.mode, hx.sweep, hx.samples⟩

/-! ## The turns of an acquisition -/

variable {left : RigWork (Turn Ticking Ending)} {result : Turn Ticking Ending}

/-- What closes a turn is neither a row nor of the scanner. -/
lemma Closes.apart {token : Nat} {e : Exchange RigSurroundings} (h : Closes token e) :
    Apart e.request := by
  cases h <;> exact ⟨trivial, fun file text => by rintro ⟨⟩⟩

/-- A turn writes the row for the place that it is told of. -/
lemma rowsFor_of_turnOn (ht : t.AlongScanner file) (hscan : ∀ e ∈ es, Scanning w.bridge e)
    (h : (t.turnOn (refrigerator w)).Leads es left) :
    ∃ more, w.RowsFor file es more ∧ ∀ result, left = .done result → more = [] := by
  have hfired (b : Bool) : w.RowsFor file [⟨.fired t.token, b⟩] [] :=
    rowsFor_of_apart (List.forall_mem_singleton.2 ⟨trivial, fun file text => by rintro ⟨⟩⟩)
  rcases turnOn_cases h with ⟨rfl, -⟩ | ⟨rfl, -⟩ | ⟨inner, ⟨during, rfl, hinner⟩, rfl⟩ |
    ⟨during, finished, t', last, rfl, hend, hlast⟩
  · exact ⟨[], rowsFor_nil, fun _ _ => rfl⟩
  · exact ⟨[], hfired true, fun _ _ => rfl⟩
  · obtain ⟨more, hrows, -⟩ := rowsFor_of_beat ht
      (fun e he => hscan e (List.mem_cons_of_mem _ he)) hinner
    refine ⟨more, (hfired false).append hrows, fun result hdone => ?_⟩
    exact absurd hdone (bind_rest_ne_done inner result)
  · obtain ⟨more, hrows, hdone⟩ := rowsFor_of_beat ht
      (fun e he => hscan e (List.mem_cons_of_mem _ (List.mem_append_left _ he))) hend
    obtain rfl := hdone _ rfl
    have hrest : w.RowsFor file last [] := by
      refine rowsFor_of_apart ?_
      rcases rest_cases hlast with rfl | ⟨e, rfl, ⟨rfl, -⟩ | ⟨hcloses, -⟩⟩
      · exact List.forall_mem_nil _
      · exact List.forall_mem_singleton.2 ⟨trivial, fun file text => by rintro ⟨⟩⟩
      · exact List.forall_mem_singleton.2 hcloses.apart
    exact ⟨[], (hfired false).append (hrows.append hrest), fun _ _ => rfl⟩

/-- It at most asks where the scanner is, and goes on along it. -/
lemma yields_turnOn (ht : t.AlongScanner file) :
    (t.turnOn (refrigerator w)).Yields (OnDevices OnlyScans)
      fun result => ∀ t', result = .again t' → t'.AlongScanner file := by
  rw [turnOn_eq]
  refine ⟨trivial, fun isFired => ?_⟩
  cases isFired with
  | true => rintro t' ⟨⟩
  | false =>
    refine (yields_beat ht).bind fun x hx => ?_
    obtain ⟨finished, t'⟩ := x
    cases finished with
    | true => exact ⟨trivial, fun _ => by rintro t'' ⟨⟩⟩
    | false =>
      refine ⟨trivial, fun passed => ?_⟩
      cases passed with
      | true =>
        rintro _ ⟨⟩
        exact hx
      | false => rintro t'' ⟨⟩

variable {turns : List (Ticking × List (Exchange RigSurroundings))}

/-- Turn by turn an acquisition goes along the scanner, and asks nothing else of it. -/
lemma alongScanner_of_rounds (ht : t₀.AlongScanner file)
    (h : Rounds (turnOn (refrigerator w)) t₀ turns result) :
    (∀ e ∈ exchanges turns, OnDevices OnlyScans e.request) ∧
      ∀ t, result = .again t → t.AlongScanner file := by
  induction h with
  | start =>
    refine ⟨List.forall_mem_nil _, ?_⟩
    rintro t ⟨⟩
    exact ht
  | @next turns t es result _ hturn ih =>
    obtain ⟨hasked, hnext⟩ := (yields_turnOn (ih.2 t rfl)).of_ends hturn
    rw [exchanges_append, exchanges_singleton]
    exact ⟨List.forall_mem_append.2 ⟨ih.1, hasked⟩, hnext⟩

/-- Turn by turn it writes the rows for the places that it is told of. -/
lemma rowsFor_of_rounds (ht : t₀.AlongScanner file)
    (h : Rounds (turnOn (refrigerator w)) t₀ turns result)
    (hscan : ∀ e ∈ exchanges turns, Scanning w.bridge e) :
    w.RowsFor file (exchanges turns) [] := by
  induction h with
  | start => exact rowsFor_nil
  | @next turns t es result hrounds hturn ih =>
    rw [exchanges_append, exchanges_singleton] at hscan ⊢
    have halong := (alongScanner_of_rounds ht hrounds).2 t rfl
    obtain ⟨more, hrows, hdone⟩ :=
      rowsFor_of_turnOn halong (fun e he => hscan e (List.mem_append_right _ he)) hturn
    obtain rfl := hdone result rfl
    exact (ih fun e he => hscan e (List.mem_append_left _ he)).append hrows

/-- **An acquisition along the scanner asks only where the scanner is, and writes a row for each
place that it is told of**, one after the other. Only in the midst of a tick there may be a place
without a row. -/
theorem rowsFor_of_begun (ht : t₀.AlongScanner file)
    (h : Begun (turnOn (refrigerator w)) t₀ es left) :
    (∀ e ∈ es, OnDevices OnlyScans e.request) ∧
      ((∀ e ∈ es, Scanning w.bridge e) → ∃ more, w.RowsFor file es more) := by
  rcases h with ⟨rfl, -⟩ | ⟨turns, t, during, hrounds, hl, rfl⟩
  · exact ⟨List.forall_mem_nil _, fun _ => ⟨[], rowsFor_nil⟩⟩
  obtain ⟨hasked, hagain⟩ := alongScanner_of_rounds ht hrounds
  refine ⟨List.forall_mem_append.2 ⟨hasked, ?_⟩, fun hscan => ?_⟩
  · exact (yields_turnOn (hagain t rfl)).asksOnly.of_leads hl
  · have hrows := rowsFor_of_rounds ht hrounds fun e he => hscan e (List.mem_append_left _ he)
    obtain ⟨more, hlast, -⟩ :=
      rowsFor_of_turnOn (hagain t rfl) (fun e he => hscan e (List.mem_append_right _ he)) hl
    exact ⟨more, hrows.append hlast⟩

end Control.Ticking

end CryoRig
