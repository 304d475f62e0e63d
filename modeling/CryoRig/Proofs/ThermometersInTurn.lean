import CryoRig.Proofs.ScannedRows
import CryoRig.Proofs.ScannerVisits

/-!
# Thermometers in turn

An acquisition that goes along the scanner puts it on the first thermometer when it is started. If
nobody else uses the scanner from then on, the rows that come to its file have their values for one
thermometer after the other, round and round, and none is left out.

## Main definitions

* `CryoRig.Site.RefrigeratorWiring.ShowsInTurn`: rows for one thermometer after the other.

## Main results

* `CryoRig.Control.started_autoscan`: a start puts the scanner on the first thermometer.
* `CryoRig.Rig.Scene.thermometers_in_turn`: the rows are those of the thermometers in their order.
-/

namespace CryoRig

open Process

namespace Control

open Sampling Instrument

/-! ## How an acquisition along the scanner is started -/

section Starting

variable {tuning : Tuning} {name : String} {a : Acquisition} {ws : List (Exchange WorkSurroundings)}

/-- To prepare one is to make its file with its head, and to put the scanner on the first
thermometer. -/
lemma prepared_autoscan {I : Interface} {site : Site I} {paths : DataPaths} {token : Nat}
    {job : Job} (h : (prepareJob site tuning paths token .autoscan).run.Ends ws (.ok job)) :
    ∃ file head, job = .ticking (.fresh site tuning token .autoscan file none none) ∧
      ws = ⟨.rig (.create paths.samples), (.ok file : Except StorageFault Nat)⟩ ::
        (head ++ [⟨.act (.prepare .autoscan), (.ok () : Except DeviceFault Unit)⟩]) ∧
      rows file head =
        (Table.header (Table.sampleColumns (site.layout .autoscan))).map Table.row := by
  rcases ends_run_bind_iff.1 h with ⟨_, -, ⟨⟩⟩ | ⟨ws₁, ws₂, file, rfl, hopen, h₂⟩
  obtain ⟨head, rfl, hhead⟩ := exists_of_openTable hopen
  rcases ends_run_bind_iff.1 h₂ with ⟨_, -, ⟨⟩⟩ | ⟨ws₃, ws₄, _, rfl, hready, h₄⟩
  obtain ⟨rfl, hjob⟩ := ends_run_pure_iff.1 h₄
  cases hjob
  obtain ⟨ws₅, ws₆, outcome, rfl, hprepared, hdone⟩ := ends_bind_iff.1 hready
  obtain rfl := ends_request_iff.1 hprepared
  match outcome with
  | .error fault => cases (ends_pure_iff.1 hdone).2
  | .ok () =>
    obtain ⟨rfl, -⟩ := ends_pure_iff.1 hdone
    rw [List.append_nil, List.append_nil]
    exact ⟨file, head, rfl, rfl, hhead⟩

/-- To start one is to prepare it, and then to start its ticks. -/
lemma work_started_autoscan {I : Interface} {site : Site I}
    (h : (startAcquisition site tuning name .autoscan).run.Ends ws (.ok a)) :
    ∃ first file head,
      ws = first ++ ⟨.rig (.create a.paths.samples), (.ok file : Except StorageFault Nat)⟩ ::
        (head ++ [⟨.act (.prepare .autoscan), (.ok () : Except DeviceFault Unit)⟩,
          ⟨.rig (.spawn (.ticking (.fresh site tuning a.token .autoscan file none none))),
            a.job⟩]) ∧
      rows file head =
        (Table.header (Table.sampleColumns (site.layout .autoscan))).map Table.row := by
  obtain ⟨ws₁, ws₂, calendar, rfl, -, h₂⟩ := ends_run_lift_bind_iff.1 h
  obtain ⟨ws₃, ws₄, token, rfl, -, h₄⟩ := ends_run_lift_bind_iff.1 h₂
  obtain ⟨ws₅, ws₆, _, rfl, -, h₆⟩ := ends_run_lift_bind_iff.1 h₄
  rcases ends_run_bind_iff.1 h₆ with ⟨_, -, ⟨⟩⟩ | ⟨ws₇, ws₈, job, rfl, hjob, h₈⟩
  obtain ⟨ws₉, ws₁₀, number, rfl, hspawn, h₁₀⟩ := ends_run_lift_bind_iff.1 h₈
  obtain ⟨rfl, ha⟩ := ends_run_pure_iff.1 h₁₀
  cases ha
  obtain rfl := ends_request_iff.1 hspawn
  obtain ⟨file, head, rfl, rfl, hhead⟩ := prepared_autoscan hjob
  exact ⟨ws₁ ++ (ws₃ ++ ws₅), file, head, by simp, hhead⟩

/-- **A start puts the scanner on the first thermometer.** Before, it makes a file and writes its
head, and what it does last is to start the ticks. -/
theorem started_autoscan {w : Site.RefrigeratorWiring} {es : List (Exchange RigSurroundings)}
    (h : (carryOut (refrigerator w)
      (startAcquisition (refrigerator w) tuning name .autoscan).run).Ends es (.ok a)) :
    ∃ first file head t₀ reply,
      es = first ++ ⟨.create a.paths.samples, (.ok file : Except StorageFault Nat)⟩ ::
        (head ++ onRig seized :: ⟨.device (.write w.bridge "SCAN 1,1"), reply⟩ ::
          [onRig released, ⟨.spawn (.ticking t₀), a.job⟩]) ∧
      appended file head =
        (Table.header (Table.sampleColumns (w.layout .autoscan))).map Table.row ∧
      t₀.AlongScanner file := by
  obtain ⟨ws, hout, hwork⟩ := ends_carryOut_iff.1 h
  obtain ⟨first, file, head, rfl, hhead⟩ := work_started_autoscan hwork
  obtain ⟨es₁, es₂, rfl, -, hout₂⟩ := carriedOut_append_iff.1 hout
  obtain ⟨es₃, rfl, hout₃⟩ := carriedOut_rig_iff.1 hout₂
  obtain ⟨es₄, es₅, rfl, hout₄, hout₅⟩ := carriedOut_append_iff.1 hout₃
  obtain ⟨es₆, es₇, rfl, hprepare, hout₇⟩ := carriedOut_cons_iff.1 hout₅
  obtain ⟨es₈, rfl, hnil⟩ := carriedOut_rig_iff.1 hout₇
  obtain rfl := carriedOut_nil_iff.1 hnil
  obtain ⟨said, rfl, hsaid⟩ := ends_ofDriver_iff.1 hprepare
  obtain ⟨sent, rfl, hsent⟩ := ends_withBus_iff.1 hsaid
  obtain ⟨reply, rfl⟩ := ends_write hsent
  refine ⟨es₁, file, es₄, _, reply, rfl, ?_, rfl, rfl, rfl⟩
  exact (appended_of_carriedOut (s := .facility (.refrigerator w)) hout₄).trans hhead

end Starting

end Control

/-! ## Rows in turn -/

namespace Site.RefrigeratorWiring

open Control Sampling Instrument Instrument.Bridge Simulated.Bridge

variable {w : RefrigeratorWiring} {data : List (List String)} {es : List (Exchange RigSurroundings)}
  {more : List (Option (Except DeviceFault String))} {file : Nat}

/-- Each row has its value below the channel whose turn it is, and none below the others. -/
def ShowsInTurn (w : RefrigeratorWiring) (data : List (List String)) : Prop :=
  ∀ n fields, data[n]? = some fields →
    ∃ channel, scanOrder[n % 7]? = some channel ∧ w.ShowsOnly channel fields

/-- Such rows have no quotes. -/
lemma ShowsInTurn.sound (h : w.ShowsInTurn data) : ∀ fields ∈ data, Table.Sound fields := by
  intro fields hfields
  obtain ⟨n, hn⟩ := List.mem_iff_getElem?.1 hfields
  obtain ⟨channel, -, hshows⟩ := h n fields hn
  exact hshows.sound

/-- Rows for the places of a scanner are in turn if the places are. -/
lemma RowsFor.showsInTurn (h : w.RowsFor file es more)
    (hplaces : ∀ n (reply : Option (Except DeviceFault String)),
      (scannerReplies w.bridge es)[n]? = some reply →
        reply = some (.ok (placeText (visited n)))) :
    ∃ data, appended file es = data.map Table.row ∧ w.ShowsInTurn data := by
  have hplace : ∀ c ∈ thermometers, ∀ d ∈ thermometers, placeText c = placeText d → c = d := by
    decide
  obtain ⟨shown, hreplies, hrows, hshown⟩ := h
  refine ⟨shown.map Prod.snd, by rw [hrows, List.map_map]; rfl, fun n fields hn => ?_⟩
  rw [List.getElem?_map] at hn
  obtain ⟨⟨channel, fields'⟩, hx, heq⟩ := Option.map_eq_some_iff.1 hn
  obtain rfl : fields' = fields := heq
  obtain ⟨hmem, hshows⟩ := hshown _ (List.mem_of_getElem? hx)
  -- the reply that the row is for is that of the question before it
  have hreply : (scannerReplies w.bridge es)[n]? = some (some (.ok (placeText channel))) := by
    have hlt : n < (shown.map fun x => some (Except.ok (placeText x.1) :
        Except DeviceFault String)).length := by
      rw [List.length_map]
      exact (List.getElem?_eq_some_iff.1 hx).1
    rw [hreplies, List.getElem?_append_left hlt, List.getElem?_map, hx]
    rfl
  have htext := Except.ok.inj (Option.some.inj (hplaces n _ hreply))
  obtain rfl := hplace channel hmem _ (visited_mem n) htext
  exact ⟨visited n, getElem?_visited n, hshows⟩

end Site.RefrigeratorWiring

namespace Rig

open Control Sampling Instrument Instrument.Bridge Simulated.Bridge

namespace Scene

variable {α : Type} {site : Site RigSurroundings} {c d : Scene α} {n : Nat}
  {asked : Option (Party × Control.Request)} {reply? : Option (Party × Exchange RigSurroundings)}
  {told : List (Party × Exchange RigSurroundings)}

/-! ## Jobs that are not there yet -/

/-- A job that is there stays there. -/
lemma Happens.lt_size (h : Happens site c asked reply? d) (hn : n < c.state.jobs.size) :
    n < d.state.jobs.size := by
  cases hat : c.at? (.job n) with
  | none => exact (h.over hat hn).2.1
  | some x =>
    rcases h.leads_or_turnsOver hat with
      ⟨y, hy, -⟩ | ⟨k, hk, -, ⟨job, -, hnext⟩ | ⟨ending, -, -, hlt⟩⟩
    · exact lt_size_of_at? hy
    · cases hk
      exact lt_size_of_at? hnext
    · cases hk
      exact hlt

/-- A job that is not there is told nothing. -/
lemma Happens.idle (h : Happens site c asked reply? d) (hn : c.state.jobs.size ≤ n) :
    toldTo (.job n) reply?.toList = [] := by
  have hne {q : Party} {x : Foreground (q.Result α)} (hq : c.at? q = some x) :
      q ≠ .job n := by
    rintro rfl
    exact absurd (lt_size_of_at? hq) (Nat.not_lt.2 hn)
  cases h with
  | answer hq ha => exact toldTo_cons_of_ne (hne hq)
  | resume hq ha => exact toldTo_cons_of_ne (hne hq)
  | _ => rfl

lemma Shift.idle (h : Shift site c told d) (hn : d.state.jobs.size ≤ n) :
    toldTo (.job n) told = [] := by
  induction h with
  | start => rfl
  | more _ hd ih =>
    have hbefore := Nat.le_of_not_lt fun hlt => absurd (hd.lt_size hlt) (Nat.not_lt.2 hn)
    rw [toldTo_append, ih hbefore, hd.idle hbefore, List.append_nil]

/-! ## An acquisition along the scanner -/

section Acquisitions

variable {w : Site.RefrigeratorWiring} {c : Nat → Scene α} {i j k l n number file latency : Nat}
  {p : Party} {b : Simulated.Bridge} {tuning : Tuning} {name : String} {a : Acquisition}
  {t₀ : Ticking} {es : List (Exchange RigSurroundings)} {reply : Option (Except DeviceFault Unit)}
  {last later after : List (Party × Exchange RigSurroundings)}

/-- What an acquisition was told is the beginning of its turns. -/
lemma CameTo.exists_begun {d : Scene α} (h : d.CameTo site number (.ticking t₀) es) :
    ∃ work, Begun (Ticking.turnOn site) t₀ es work := by
  rcases h with ⟨y, -, hbegun⟩ | ⟨turns, ending, -, hrounds, rfl⟩
  · obtain ⟨own, hown, -⟩ := Ticking.exists_begun_of_job hbegun
    exact ⟨own, hown⟩
  · obtain ⟨-, own, hown, hexchanges⟩ := Ticking.exists_over_of_job hrounds
    rw [hexchanges]
    exact ⟨_, begun_of_over hown⟩

/-- Where in a course an acquisition along the scanner was started: the file was made, the scanner
was put on the first thermometer, and then the ticks were started. -/
lemma Tells.started_autoscan (ht : Tells (refrigerator w) c i j told)
    (hstart : (carryOut (refrigerator w) (startAcquisition (refrigerator w) tuning name
      .autoscan).run).Ends (toldTo p told) (.ok a)) :
    ∃ file t₀ reply m n l before during last after, i ≤ m ∧ m < l ∧ l < j ∧
      t₀.AlongScanner file ∧
      Hears (refrigerator w) c m p
        ⟨.create a.paths.samples, (.ok file : Except StorageFault Nat)⟩ ∧
      Hears (refrigerator w) c n p ⟨.device (.write w.bridge "SCAN 1,1"), reply⟩ ∧
      Hears (refrigerator w) c l p ⟨.spawn (.ticking t₀), a.job⟩ ∧
      Tells (refrigerator w) c i n before ∧ Tells (refrigerator w) c (m + 1) (l + 1) during ∧
      Tells (refrigerator w) c (n + 1) l last ∧ Tells (refrigerator w) c (l + 1) j after ∧
      appended file (toldTo p during) =
        (Table.header (Table.sampleColumns (w.layout .autoscan))).map Table.row ∧
      toldTo p last = [onRig released] ∧ toldTo p after = [] ∧
      ∀ x ∈ last ++ after, x ∈ told := by
  obtain ⟨first, file, head, t₀, reply, hes, hhead, halong⟩ := Control.started_autoscan hstart
  obtain ⟨m, before, rest, htold, him, -, hbefore, -, hmade, hrest, htail⟩ := ht.split_at hes
  rw [List.append_cons] at htail
  obtain ⟨n, before', rest', hrest_eq, hmn, -, hbefore', hhead', hput, hrest', htail'⟩ :=
    hrest.split_at htail
  change toldTo p rest' = [onRig released] ++ _ :: [] at htail'
  obtain ⟨l, last, after, hrest_eq', hnl, hlj, hlast, hreleased, hspawned, hafter, hnone⟩ :=
    hrest'.split_at htail'
  have hduring := ((hbefore'.hears hput).trans hlast).hears hspawned
  refine ⟨file, t₀, reply, m, n, l, _, _, last, after, him, by omega, hlj, halong, hmade, hput,
    hspawned, (hbefore.hears hmade).trans hbefore', hduring, hlast, hafter, ?_, hreleased, hnone,
    fun x hx => ?_⟩
  · simp only [toldTo_append, hhead', hreleased, toldTo_cons_self, toldTo_nil, appended_append,
      hhead]
    exact List.append_nil _
  · rw [htold, hrest_eq, hrest_eq']
    rcases List.mem_append.1 hx with hx | hx <;> simp [hx]

/-- The rows of an acquisition along the scanner are in turn, if nobody but its job uses the scanner
since it was put on the first thermometer. -/
lemma Hears.rows_in_turn (h : BusCourse (refrigerator w) c)
    (hleft : LeftAlone (refrigerator w) c w.bridge) (halong : t₀.AlongScanner file)
    (hbridge : (c n).state.attached.lookup w.bridge = some (attached latency b))
    (hput : Hears (refrigerator w) c n p ⟨.device (.write w.bridge "SCAN 1,1"), reply⟩)
    (hlast : Tells (refrigerator w) c (n + 1) l last)
    (hspawned : Hears (refrigerator w) c l p ⟨.spawn (.ticking t₀), number⟩)
    (hafter : Tells (refrigerator w) c (l + 1) k after)
    (halone : ∀ x ∈ last ++ after, ConcernsScanner w.bridge x.2.request → x.1 = .job number) :
    ∃ data, appended file (toldTo (.job number) after) = data.map Table.row ∧
      w.ShowsInTurn data := by
  -- before it was started the job was told nothing, and since then it has gone through its turns
  obtain ⟨_, asked, hspawn⟩ := id hspawned
  obtain ⟨hnumber, -, hne⟩ := hspawn.cameTo_new
  have hidle : toldTo (.job number) last = [] :=
    (h.shift (s := .facility (.refrigerator w)) hlast).idle (Nat.le_of_eq hnumber.symm)
  have hown : toldTo (.job number) (last ++ [(p, ⟨.spawn (.ticking t₀), number⟩)] ++ after) =
      toldTo (.job number) after := by
    simp [hidle, toldTo_cons_of_ne hne]
  obtain ⟨work, hbegun⟩ :=
    (hafter.cameTo_started (s := .facility (.refrigerator w)) h.goes hspawned).exists_begun
  obtain ⟨honly, hrows⟩ := Ticking.rowsFor_of_begun halong hbegun
  -- so the places that it is told are those of the thermometers in their order
  obtain ⟨b', hb', hscans, hchannel⟩ :=
    hput.starts_scan (s := .facility (.refrigerator w)) h hbridge
  have hscanner : ∀ x ∈ last ++ [(p, ⟨.spawn (.ticking t₀), number⟩)] ++ after,
      ConcernsScanner w.bridge x.2.request → x.1 = .job number := by
    intro x hx hconcerns
    simp only [List.mem_append, List.mem_singleton] at hx
    rcases hx with (hx | rfl) | hx
    · exact halone x (List.mem_append_left _ hx) hconcerns
    · obtain ⟨q, ⟨⟩, -⟩ := hconcerns
    · exact halone x (List.mem_append_right _ hx) hconcerns
  obtain ⟨hscanning, hplaces⟩ := ((hlast.hears hspawned).trans hafter).visits
    (s := .facility (.refrigerator w)) h hleft hb' hscans hchannel hscanner (by rwa [hown])
  rw [hown] at hscanning hplaces
  obtain ⟨more, hfor⟩ := hrows hscanning
  exact hfor.showsInTurn hplaces

/-- **Along the scanner the thermometers have their turns.** On whatever course, somebody starts an
acquisition along the scanner of a simulated bridge, which nothing but conversations changes,
however the refrigerator is wired otherwise. While it is started nobody but the starter and the job
uses the scanner, and after that nobody but the job does. Then the file gets its head, and the rows
that the job puts into it from then on are in turn, at whatever time one looks: the row with the
number `n`, counted from zero, has a value below the thermometer with the number `n % 7` in the
order of the scanner and below no other, and it is the one that the bridge holds for it. These are
also the lines of the file itself, if it was left to the starter and then to the job. It makes no
difference how long a reply takes, or which readings fail in between.

**Proof sketch.** The last thing before the ticks are started is to put the scanner on the first
thermometer (`started_autoscan`). Only the question where it is makes it go on, and then it is on
the next thermometer (`Tells.visits`). The job at most asks that, and writes one row for each reply
(`Ticking.rowsFor_of_begun`). -/
theorem thermometers_in_turn (h : BusCourse (refrigerator w) c)
    (hleft : LeftAlone (refrigerator w) c w.bridge)
    (hbridge : (c i).state.attached.lookup w.bridge = some (attached latency b))
    (ht : Tells (refrigerator w) c i j told) (hlater : Tells (refrigerator w) c j k later)
    (hstart : (carryOut (refrigerator w)
      (startAcquisition (refrigerator w) tuning name .autoscan).run).Ends (toldTo p told) (.ok a))
    (htold : ∀ x ∈ told, ConcernsScanner w.bridge x.2.request → x.1 = p ∨ x.1 = .job a.job)
    (halone : ∀ x ∈ later, ConcernsScanner w.bridge x.2.request → x.1 = .job a.job) :
    ∃ file t₀ m l during after data, i ≤ m ∧ m < l ∧ l < j ∧
      Hears (refrigerator w) c m p
        ⟨.create a.paths.samples, (.ok file : Except StorageFault Nat)⟩ ∧
      Hears (refrigerator w) c l p ⟨.spawn (.ticking t₀), a.job⟩ ∧
      Tells (refrigerator w) c (m + 1) (l + 1) during ∧
      Tells (refrigerator w) c (l + 1) k after ∧
      appended file (toldTo p during) =
        (Table.header (Table.sampleColumns (w.layout .autoscan))).map Table.row ∧
      appended file (toldTo (.job a.job) after) = data.map Table.row ∧
      w.ShowsInTurn data ∧
      ((∀ n, m < n → n ≤ l → LeavesTo c p file n) →
        (∀ n, l < n → n < k → LeavesTo c (.job a.job) file n) →
        ∃ text, (c k).state.files.read a.paths.samples = .ok text ∧
          Table.cells text =
            Table.header (Table.sampleColumns (w.layout .autoscan)) ++ data) := by
  obtain ⟨file, t₀, reply, m, n, l, before, during, last, after, him, hml, hlj, halong, hmade, hput,
    hspawned, hbefore, hduring, hlast, hafter, hheader, hreleased, hnone, hmem⟩ :=
    ht.started_autoscan hstart
  -- the starter does not use the scanner any more once it has put it on the first thermometer
  have hscanner : ∀ x ∈ last ++ (after ++ later), ConcernsScanner w.bridge x.2.request →
      x.1 = .job a.job := by
    intro x hx hconcerns
    rw [← List.append_assoc] at hx
    rcases List.mem_append.1 hx with hx | hx
    · refine (htold x (hmem x hx) hconcerns).resolve_left fun hp => ?_
      rcases List.mem_append.1 hx with hx | hx
      · have hreply := mem_toldTo hx hp
        rw [hreleased, List.mem_singleton] at hreply
        obtain ⟨q, heq, huses⟩ := hconcerns
        rw [hreply] at heq
        cases heq
        exact huses
      · have hreply := mem_toldTo hx hp
        rw [hnone] at hreply
        cases hreply
    · exact halone x hx hconcerns
  obtain ⟨_, hall, hn⟩ := hbefore.attends (s := .facility (.refrigerator w)) h hleft hbridge
  obtain ⟨b', rfl⟩ := hall.bridge
  have hafter := hafter.trans hlater
  obtain ⟨data, hdata, hturns⟩ := hput.rows_in_turn h hleft halong hn hlast hspawned hafter hscanner
  refine ⟨file, t₀, m, l, during, _, data, him, hml, hlj, hmade, hspawned, hduring, hafter, hheader,
    hdata, hturns, fun hstarter hjob => ?_⟩
  obtain ⟨place, hempty⟩ := hmade.exists_writes
  have hheaded := hduring.writes h.goes
    (fun n hmn hnl => hstarter n hmn (Nat.le_of_lt_succ hnl)) hempty
  have hwritten := hafter.writes h.goes hjob hheaded
  rw [hdata, hheader, String.empty_append, ← String.join_append, ← List.map_append] at hwritten
  refine ⟨_, hwritten.read, Table.cells_join_rows (List.forall_mem_append.2 ⟨?_, hturns.sound⟩)⟩
  exact sound_sampleColumns (Station.bare_layout (.facility (.refrigerator w)) .autoscan)

end Acquisitions

end Scene

/-! ## Two samples along the scanner -/

/-- Start an acquisition along the scanner, and let it go on for a while. -/
def startedCooldown : Except Fault Acquisition → RigWork Bool
  | .ok _ => .ask (.pause 0 (.ofMillis 1500)) fun _ => .done true
  | .error _ => .done false

/-- An acquisition along the scanner of a simulated bridge is about to be started. -/
def cooldown : Scene Bool where
  state := { State.initial ⟨2024, 1, 1, 0, 0⟩ with
    attached := [("bridge", attached 0 .initial)] }
  foreground := .running (carryOut (refrigerator sourceWiring)
    (startAcquisition (refrigerator sourceWiring) plainTuning "cooldown" .autoscan).run >>=
      startedCooldown)
  current := none
  fresh := false

/-- What the rig does by itself from there on. -/
def cooldownCourse : Nat → Scene Bool := cooldown.follow (refrigerator sourceWiring)

/-- The file of the samples. -/
def cooldownPath : String := "data/2024-01-01/20240101-0000-sample-cooldown.txt"

lemma busCourse_cooldown : BusCourse (refrigerator sourceWiring) cooldownCourse := by
  have hstart : Mannerly (carryOut (refrigerator sourceWiring)
      (startAcquisition (refrigerator sourceWiring) plainTuning "cooldown" .autoscan).run) :=
    mannerly_carryOut (Station.mannerly (.facility (.refrigerator sourceWiring)))
      (startAcquisition_spawns.mono fun _ => SpawnsOnly.offBus)
  refine BusCourse.busCourse_follow ⟨rfl, fun p x hx => ?_⟩
  cases p with
  | foreground =>
    cases hx
    refine ⟨_, rfl, hstart.bind fun result => ?_⟩
    cases result with
    | ok a => exact .aside trivial fun _ => .done _
    | error fault => exact .done _
  | job n => cases hx

lemma leftAlone_cooldown : Scene.LeftAlone (refrigerator sourceWiring) cooldownCourse "bridge" := by
  intro n hs
  rcases Scene.step_follow (refrigerator sourceWiring) cooldown n with hstep | heq
  · exact absurd hstep hs
  · exact congrArg (fun d => d.state.attached.lookup "bridge") heq

/-- The row of the sample that is taken so many seconds after the start. -/
def cooldownRow (n : Nat) : List String :=
  let columns := Site.scanColumns (visited n) (some (Simulated.Bridge.held (visited n)))
  Number.plain (Float.ofNat n) :: (List.replicate 10 none ++ columns).map Table.value

/-- What is in the file in the end: two samples. -/
def cooldownRows : List (List String) :=
  Table.header (Table.sampleColumns (sourceWiring.layout .autoscan)) ++
    (List.range 2).map cooldownRow

lemma cells_cooldownRows : Table.cells (String.join (cooldownRows.map Table.row)) =
    cooldownRows := by
  refine Table.cells_join_rows (List.forall_mem_append.2 ⟨?_, List.forall_mem_map.2 fun n _ => ?_⟩)
  · exact sound_sampleColumns
      (Station.bare_layout (.facility (.refrigerator sourceWiring)) .autoscan)
  · exact Table.sound_values _ _

/-- The eleventh step starts the job, and in the end there are this job and one file. -/
lemma facts_cooldownCourse : (∀ n < 37,
      handsOver 10 cooldownPath n (cooldownCourse n) (cooldownCourse (n + 1)) = true) ∧
    (cooldownCourse 37).foreground.succeeds = true ∧
    (cooldownCourse 37).state.jobs.size = 1 ∧ (cooldownCourse 37).state.writers.size = 1 ∧
    ((cooldownCourse 37).state.files.read cooldownPath).toOption =
      some (String.join (cooldownRows.map Table.row)) := by
  decide +kernel

section Cooldown

variable {told : List (Party × Exchange RigSurroundings)}

/-- There are only the foreground and the job that it starts. -/
lemma parties_cooldown {x : Party × Exchange RigSurroundings}
    (ht : Scene.Tells (refrigerator sourceWiring) cooldownCourse 0 37 told) (hx : x ∈ told) :
    x.1 = .foreground ∨ x.1 = .job 0 := by
  obtain ⟨p, e⟩ := x
  cases p with
  | foreground => exact .inl rfl
  | job m =>
    refine .inr (congrArg Party.job (Nat.eq_zero_of_not_pos fun hm => ?_))
    have hsize : (cooldownCourse 37).state.jobs.size ≤ m := by
      rw [facts_cooldownCourse.2.2.1]
      exact hm
    have hnone := (busCourse_cooldown.shift
      (s := .facility (.refrigerator sourceWiring)) ht).idle hsize
    have he : e ∈ toldTo (.job m) told := mem_toldTo hx rfl
    rw [hnone] at he
    cases he

/-- The start has come to a good end, and after it the foreground has waited. -/
lemma exists_started_cooldown
    (ht : Scene.Tells (refrigerator sourceWiring) cooldownCourse 0 37 told) :
    ∃ a es passed, toldTo .foreground told = es ++ [⟨.pause 0 (.ofMillis 1500), passed⟩] ∧
      (carryOut (refrigerator sourceWiring) (startAcquisition (refrigerator sourceWiring)
        plainTuning "cooldown" .autoscan).run).Ends es (.ok a) := by
  have hl := ht.leads_foreground fun n hs => ((busCourse_cooldown.goes n).drifts hs).1
  rw [Foreground.eq_of_succeeds facts_cooldownCourse.2.1] at hl
  obtain ⟨es, es₂, result, hes, hstart, h₂⟩ := ends_bind_iff.1
    (hl : (carryOut (refrigerator sourceWiring) (startAcquisition (refrigerator sourceWiring)
      plainTuning "cooldown" .autoscan).run >>= startedCooldown).Ends
        (toldTo .foreground told) true)
  match result with
  | .error fault => cases (ends_done_iff.1 h₂).2
  | .ok a =>
    obtain ⟨passed, es₃, rfl, h₃⟩ := ends_ask_iff.1 h₂
    obtain ⟨rfl, -⟩ := ends_done_iff.1 h₃
    exact ⟨a, es, passed, hes, hstart⟩

/-- The foreground starts the acquisition, and from then on only its job uses the scanner. -/
lemma exists_parts_cooldown : ∃ n told later a, n < 37 ∧
    Scene.Tells (refrigerator sourceWiring) cooldownCourse 0 n told ∧
    Scene.Tells (refrigerator sourceWiring) cooldownCourse n 37 later ∧
    (carryOut (refrigerator sourceWiring) (startAcquisition (refrigerator sourceWiring)
      plainTuning "cooldown" .autoscan).run).Ends (toldTo .foreground told) (.ok a) ∧
    a.job = 0 ∧ (∀ x ∈ told, x.1 = .foreground ∨ x.1 = .job 0) ∧
    ∀ x ∈ later, ConcernsScanner "bridge" x.2.request → x.1 = .job 0 := by
  obtain ⟨told, ht⟩ :=
    Scene.exists_tells (refrigerator sourceWiring) cooldownCourse (Nat.zero_le 37)
  obtain ⟨a, es, passed, htold, hstart⟩ := exists_started_cooldown ht
  obtain ⟨n, before, after, rfl, -, hn, hbefore, rfl, hpause, hafter, hnone⟩ := ht.split_at htold
  obtain ⟨_, _, _, _, _, l, _, _, _, _, -, -, hl, -, -, -, hspawned, -⟩ :=
    hbefore.started_autoscan hstart
  obtain ⟨-, hzero⟩ :=
    spawned_of_handsOver facts_cooldownCourse.1 (Nat.lt_trans hl hn) hspawned
  refine ⟨n, before, _, a, hn, hbefore, (Scene.Tells.start.hears hpause).trans hafter, hstart,
    hzero, fun x hx => parties_cooldown ht (List.mem_append_left _ hx), fun x hx hconcerns => ?_⟩
  rw [List.nil_append, List.singleton_append] at hx
  rcases List.mem_cons.1 hx with rfl | hx
  · obtain ⟨q, ⟨⟩, -⟩ := hconcerns
  · refine (parties_cooldown ht (List.mem_append_right _
      (List.mem_cons_of_mem _ hx))).resolve_left fun hp => ?_
    have hreply := mem_toldTo hx hp
    rw [hnone] at hreply
    cases hreply

end Cooldown

/-- A simulated bridge scans while two samples are taken, one for each of the first two
thermometers. -/
theorem thermometers_in_turn_cooldown :
    ∃ n told later a data,
      Scene.Tells (refrigerator sourceWiring) cooldownCourse 0 n told ∧
      Scene.Tells (refrigerator sourceWiring) cooldownCourse n 37 later ∧
      (carryOut (refrigerator sourceWiring) (startAcquisition (refrigerator sourceWiring)
        plainTuning "cooldown" .autoscan).run).Ends (toldTo .foreground told) (.ok a) ∧
      sourceWiring.ShowsInTurn data ∧
      (cooldownCourse 37).state.files.read cooldownPath =
        .ok (String.join (cooldownRows.map Table.row)) ∧
      Table.header (Table.sampleColumns (sourceWiring.layout .autoscan)) ++ data =
        cooldownRows := by
  obtain ⟨n, told, later, a, hn, ht, hlater, hstart, hzero, hbefore, halone⟩ :=
    exists_parts_cooldown
  obtain ⟨file, t₀, m, l, during, after, data, -, hml, hlj, hmade, hspawned, -, -, -, -, hturns,
    hfile⟩ := Scene.thermometers_in_turn (b := .initial) busCourse_cooldown leftAlone_cooldown rfl
      ht hlater hstart (fun x hx _ => hzero ▸ hbefore x hx) (hzero ▸ halone)
  obtain ⟨hsteps, -, -, hone, hread⟩ := facts_cooldownCourse
  obtain ⟨rfl, hpath⟩ := created_of_handsOver busCourse_cooldown.goes hsteps hone
    (Nat.lt_trans (Nat.lt_trans hml hlj) hn) hmade
  obtain ⟨rfl, -⟩ := spawned_of_handsOver hsteps (Nat.lt_trans hlj hn) hspawned
  rw [hzero, hpath] at hfile
  obtain ⟨text, htext, hcells⟩ := hfile
    (fun n _ hn => leavesTo_of_handsOver hsteps (by omega) (if_pos hn).symm)
    (fun n hn hnj => leavesTo_of_handsOver hsteps hnj (if_neg (Nat.not_le.2 hn)).symm)
  obtain rfl : text = String.join (cooldownRows.map Table.row) := by
    rw [htext] at hread
    exact Option.some.inj hread
  exact ⟨n, told, later, a, data, ht, hlater, hstart, hturns, htext,
    hcells.symm.trans cells_cooldownRows⟩

end Rig

end CryoRig
