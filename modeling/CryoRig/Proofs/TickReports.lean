import CryoRig.Proofs.Company
import CryoRig.Proofs.TickRecords
import CryoRig.Proofs.Writers

/-!
# What is written and shown of an acquisition

An acquisition runs in company, and the others leave its files and its latest sample alone. Then
what lies in the file of the samples, what is shown, and what a report says are the samples that the
series holds, whenever the acquisition is not in a tick.

## Main definitions

* `CryoRig.Rig.State.Holds`: files that lie in different places, with their writers at their ends.
* `CryoRig.Rig.State.Leaves`: others have left an acquisition alone.
* `CryoRig.Rig.lastRow`: what a report says of the channels.

## Main results

* `CryoRig.Rig.Lives.holds`: what an acquisition writes comes to the end of its files, and what it
  shows last is seen.
* `CryoRig.Rig.records_agree`: the file, the series and the report agree.
-/

namespace CryoRig.Rig

open Control Process Sampling

/-! ## What requests leave behind -/

namespace State

variable {s t : State} {files : List Nat} {path : Nat → String} {place : Nat → List String}
  {content : Nat → String} {p : Party} {alarm : Option Nat} {r : Request} {reply : r.Reply}
  {token : Nat}

/-- Files that lie in different places, with their writers at their ends. -/
structure Holds (s : State) (files : List Nat) (path : Nat → String) (place : Nat → List String)
    (content : Nat → String) : Prop where
  /-- What is in them. -/
  writes : ∀ f ∈ files, s.Writes f (path f) (place f) (content f)
  /-- Where they lie. -/
  apart : ∀ f ∈ files, ∀ g ∈ files, f ≠ g → place f ≠ place g

lemma Holds.of_still (h : s.Holds files path place content) (hs : Still s t) :
    t.Holds files path place content :=
  ⟨fun f hf => (h.writes f hf).of_still hs, h.apart⟩

/-- What is written into a file comes to its end. -/
lemma Holds.of_answer? (h : s.Holds files path place content) (hc : ∀ path, r ≠ .create path)
    (hg : ∀ g text, r = .append g text → g ∈ files)
    (ha : s.answer? p alarm r = some (reply, t)) :
    t.Holds files path place fun f => content f ++ String.join (written f [r]) := by
  by_cases hrec : Records r
  · cases r with
    | create path => exact absurd rfl (hc path)
    | append g text =>
      obtain rfl : (s.appendFile g text).2 = t := congrArg Prod.snd (Option.some.inj ha)
      refine ⟨fun f hf => ?_, h.apart⟩
      by_cases hfg : g = f
      · subst hfg
        simpa [written] using ((h.writes g hf).append text).2
      · have happart (w : Writer) (hw : s.writers[g]? = some w) :
            s.files.locate w.path ≠ .ok (place f) := by
          have hwg := h.writes g (hg g text rfl)
          obtain rfl := Option.some.inj (hw.symm.trans hwg.writer)
          rw [hwg.locate_eq]
          intro he
          exact h.apart f hf g (hg g text rfl) (Ne.symm hfg) (Except.ok.inj he).symm
        simpa [written, hfg] using (h.writes f hf).append_of_ne hfg happart text
    | present token x =>
      cases ha
      refine ⟨fun f hf => ?_, h.apart⟩
      rw [show written f [.present token x] = [] from rfl, String.join_nil, String.append_empty]
      exact (h.writes f hf).of_eq rfl rfl
    | _ => exact hrec.elim
  · have hnone (f : Nat) : written f [r] = [] := by
      cases r <;> first | rfl | exact absurd trivial hrec
    simpa [hnone] using h.of_still (still_of_answer? hrec ha)

lemma latest_createFile (s : State) (path : String) : (s.createFile path).2.latest = s.latest := by
  unfold createFile
  split
  · rfl
  · split <;> rfl

lemma latest_appendFile (s : State) (file : Nat) (text : String) :
    (s.appendFile file text).2.latest = s.latest := by
  unfold appendFile
  split
  · rfl
  · split <;> rfl

lemma lookup_filter_of_ne {token' : Nat} (h : token' ≠ token) (latest : List (Nat × Sample)) :
    (latest.filter fun y => y.1 ≠ token').lookup token = latest.lookup token := by
  induction latest with
  | nil => rfl
  | cons y rest ih =>
    obtain ⟨n, x⟩ := y
    by_cases hn : n = token'
    · subst hn
      have hne : (token == n) = false := by simpa using Ne.symm h
      rw [List.filter_cons_of_neg (by simp), ih, List.lookup_cons, hne]
    · rw [List.filter_cons_of_pos (by simpa using hn), List.lookup_cons, List.lookup_cons, ih]

/-- What is seen of an acquisition is the sample that was shown last. -/
lemma latest_of_answer? (ha : s.answer? p alarm r = some (reply, t)) :
    t.latest.lookup token = (shown token [r]).getLast?.or (s.latest.lookup token) := by
  by_cases hrec : Records r
  · cases r with
    | create path =>
      obtain rfl : (s.createFile path).2 = t := congrArg Prod.snd (Option.some.inj ha)
      exact congrArg _ (latest_createFile s path)
    | append g text =>
      obtain rfl : (s.appendFile g text).2 = t := congrArg Prod.snd (Option.some.inj ha)
      exact congrArg _ (latest_appendFile s g text)
    | present token' x =>
      cases ha
      by_cases ht : token' = token
      · subst ht
        simp [shown]
      · have hne : (token == token') = false := by simpa using Ne.symm ht
        rw [List.lookup_cons, hne]
        simpa [shown, ht] using lookup_filter_of_ne ht s.latest
    | _ => exact hrec.elim
  · have hnone : shown token [r] = [] := by
      cases r <;> first | rfl | exact absurd trivial hrec
    rw [hnone, (still_of_answer? hrec ha).latest]
    rfl

/-- The files and the latest sample of an acquisition are left alone. -/
structure Leaves (t : Ticking) (s s' : State) : Prop where
  /-- Its files. -/
  writes : ∀ f ∈ t.files, ∀ path place content, s.Writes f path place content →
    s'.Writes f path place content
  /-- Its sample. -/
  latest : s'.latest.lookup t.token = s.latest.lookup t.token

end State

/-! ## What an acquisition leaves behind -/

section Lives

variable {σ ε : Type} {p : Party} {turn : σ → Working (Turn σ ε)} {X Y : Standing (Turn σ ε)}
  {n : Nat} {es : List (Exchange WorkSurroundings)} {t₀ : Ticking} {path : Nat → String}
  {place : Nat → List String} {content : Nat → String}

lemma records_rig {r : Request} (h : Records r) (reply : r.Reply) :
    records [⟨.rig r, reply⟩] = [r] := by
  cases r <;> first | rfl | exact h.elim

lemma records_rig_of_not {r : Request} (h : ¬Records r) (reply : r.Reply) :
    records [⟨.rig r, reply⟩] = [] := by
  cases r <;> first | rfl | exact absurd trivial h

/-- What one exchange leaves behind. -/
lemma Standing.Move.holds (h : X.Move p (State.Leaves t₀) es Y)
    (howns : ∀ r ∈ records es, t₀.Owns r) (hX : X.rig.Holds t₀.files path place content) :
    (Y.rig.Holds t₀.files path place fun f =>
        content f ++ String.join (written f (records es))) ∧
      Y.rig.latest.lookup t₀.token =
        (shown t₀.token (records es)).getLast?.or (X.rig.latest.lookup t₀.token) := by
  have hstill {t : State} (hs : Still X.rig t) :
      (t.Holds t₀.files path place fun f => content f ++ String.join (written f [])) ∧
        t.latest.lookup t₀.token =
          (shown t₀.token []).getLast?.or (X.rig.latest.lookup t₀.token) := by
    refine ⟨by simpa [written] using hX.of_still hs, ?_⟩
    rw [hs.latest]
    rfl
  revert howns
  refine Standing.Move.rig_cases (P := fun es t => (∀ r ∈ records es, t₀.Owns r) →
    (t.Holds t₀.files path place fun f => content f ++ String.join (written f (records es))) ∧
      t.latest.lookup t₀.token =
        (shown t₀.token (records es)).getLast?.or (X.rig.latest.lookup t₀.token))
    h ?_ ?_ ?_ ?_ ?_ ?_
  · intro t ht _
    refine ⟨?_, ht.latest⟩
    rw [show (fun f => content f ++ String.join (written f (records []))) = content by
      simp [written]]
    exact ⟨fun f hf => ht.writes f hf _ _ _ (hX.writes f hf), hX.apart⟩
  · exact fun _ => hstill (.refl _)
  · exact fun r _ => hstill ((still_enter X.rig p r).trans ⟨rfl, rfl, rfl⟩)
  · exact fun a outcome _ => hstill (.refl _)
  · exact fun token span _ => hstill (.refl _)
  · intro r s alarm reply t hs ha howns
    have hstill' : Still X.rig s := by
      rcases hs with rfl | rfl
      · exact .refl _
      · exact still_enter ..
    by_cases hrec : Records r
    · rw [records_rig hrec] at howns ⊢
      have hown := howns r List.mem_cons_self
      refine ⟨(hX.of_still hstill').of_answer? ?_ ?_ ha, ?_⟩
      · rintro path rfl
        exact hown.elim
      · rintro g text rfl
        exact hown
      · rw [State.latest_of_answer? ha, hstill'.latest]
    · rw [records_rig_of_not hrec]
      exact hstill (hstill'.trans (still_of_answer? hrec ha))

/-- What an acquisition writes comes to the end of its files, and the sample that it shows last is
seen. -/
theorem Lives.holds (h : Lives p (State.Leaves t₀) turn X n es Y)
    (howns : ∀ r ∈ records es, t₀.Owns r) (hX : X.rig.Holds t₀.files path place content) :
    (Y.rig.Holds t₀.files path place fun f =>
        content f ++ String.join (written f (records es))) ∧
      Y.rig.latest.lookup t₀.token =
        (shown t₀.token (records es)).getLast?.or (X.rig.latest.lookup t₀.token) := by
  induction h with
  | refl => exact ⟨by simpa [written] using hX, rfl⟩
  | turn _ ih => exact ih howns
  | move _ hm ih =>
    rw [records_append] at howns ⊢
    obtain ⟨hY, hlatest⟩ := ih fun r hr => howns r (List.mem_append_left _ hr)
    obtain ⟨hZ, hlatest'⟩ := hm.holds (fun r hr => howns r (List.mem_append_right _ hr)) hY
    refine ⟨?_, ?_⟩
    · simpa only [written_append, String.join_append, String.append_assoc] using hZ
    · rw [hlatest', hlatest, shown_append, List.getLast?_append, Option.or_assoc]

end Lives

/-! ## Reports -/

/-- What a report says of the channels: the readings of a sample, or that nothing was read. -/
def lastRow (layout : Layout) : Option Sample → List (String × Option Float)
  | some x => layout.names.zip x.values
  | none => layout.names.map fun name => (name, none)

lemma readings_eq {layout : Layout} {x : Sample} {index : Nat}
    (h : x.values.length = index + layout.length) :
    Report.readings (some x) index layout = layout.names.zip (x.values.drop index) := by
  induction layout generalizing index with
  | nil => rfl
  | cons c rest ih =>
    have hlt : index < x.values.length := by
      rw [h, List.length_cons]
      omega
    have hrest : x.values.length = index + 1 + rest.length := by
      rw [h, List.length_cons]
      omega
    rw [Report.readings, ih hrest, List.drop_eq_getElem_cons hlt, Option.bind_some,
      List.getElem?_eq_getElem hlt]
    rfl

lemma readings_none (layout : Layout) (index : Nat) :
    Report.readings none index layout = layout.names.map fun name => (name, none) := by
  induction layout generalizing index with
  | nil => rfl
  | cons c rest ih =>
    rw [Report.readings, ih]
    rfl

/-- While the acquisition in the slot is running, the report gives its latest sample. -/
lemma State.channels_report {s : State} {κ : Nat} {a : Acquisition}
    (hslot : (s.console κ).slot = some a) (hended : s.ending? a.job = none)
    (hwide : ∀ x, s.latestSample a = some x → x.values.length = a.layout.length) :
    (s.report κ).channels = lastRow a.layout (s.latestSample a) := by
  unfold State.report
  simp only [hslot, hended, Option.isSome_none, Bool.false_eq_true, if_false]
  unfold Report.of
  cases hl : s.latestSample a with
  | none => exact readings_none a.layout 0
  | some x =>
    have hx : x.values.length = 0 + a.layout.length := by
      rw [hwide x hl, Nat.zero_add]
    simpa [lastRow] using readings_eq hx

/-! ## Agreement -/

section Agreement

variable {p : Party} {s₀ : State} {t₀ : Ticking} {width : Nat} {sweep : Option (Sweep Float)}
  {path : Nat → String} {place : Nat → List String} {header : Nat → String}
  {n : Nat} {es : List (Exchange WorkSurroundings)} {Y : Standing (Turn Ticking Ending)}

/-- Between turns an acquisition is not in a tick. -/
lemma Lives.boundary {t : Ticking}
    (h : Lives p (State.Leaves t₀) Ticking.turn ⟨.done (.again t₀), .going, s₀⟩ n es Y)
    (hY : Y.work = .done (.again t)) : t₀.Boundary es t := by
  rcases h.path with ⟨-, hl⟩ | ⟨es₁, s, turns, u, es₂, h₁, hr, h₂, -, rfl⟩
  · obtain ⟨rfl, he⟩ := leads_done_iff.1 hl
    rw [hY] at he
    cases he
    exact Ticking.boundary_of_rounds .start
  · obtain ⟨rfl, he⟩ := ends_done_iff.1 h₁
    cases he
    rw [hY] at h₂
    have hb := Ticking.boundary_of_rounds (hr.next h₂)
    simpa using hb

/-- The three records of an acquisition. -/
structure Agree (t₀ : Ticking) (path header : Nat → String) (width : Nat) (s : State)
    (xs : List Sample) : Prop where
  /-- The data rows of the file are the samples. -/
  file : s.files.read (path t₀.samples) =
    .ok (header t₀.samples ++ String.join (xs.map Ticking.sampleRow))
  /-- The sample that is shown is the last one of them. -/
  latest : s.latest.lookup t₀.token = xs.getLast?
  /-- So is the one in a report, as long as the acquisition is in the slot and has not ended. -/
  report : ∀ κ a, (s.console κ).slot = some a → a.token = t₀.token → a.layout.length = width →
    s.ending? a.job = none → (s.report κ).channels = lastRow a.layout xs.getLast?

/-- An acquisition runs in company, and the others leave its files and its latest sample alone.
Whatever fails and whenever the ticks are: outside the ticks, the data rows in the file of the
samples are the samples that the series holds, the one that is shown and reported is the last of
them, and none is if there is none. If a look at an instrument fails in a tick, the tick changes
neither these nor the file of the aggregates nor the sweep, and the next tick follows unless the
pause before it is cut short. -/
theorem records_agree (hledger : t₀.ledger = .start width sweep)
    (hagg : t₀.aggregates ≠ some t₀.samples) (hfiles : s₀.Holds t₀.files path place header)
    (hlatest : s₀.latest.lookup t₀.token = none)
    (h : Lives p (State.Leaves t₀) Ticking.turn ⟨.done (.again t₀), .going, s₀⟩ n es Y)
    (hwide : Ticking.ReadsWide width es) :
    (∀ t, t₀.Boundary es t → Agree t₀ path header width Y.rig t.ledger.series.rows) ∧
      ∀ t t' es' Z, Y.work = .done (.again t) →
        Lives p (State.Leaves t₀) Ticking.turn Y 1 es' Z → t.Pauses es' t' →
        (∃ e ∈ es', lookFailed e = true) →
        t'.ledger = t.ledger ∧
        (∀ f ∈ t₀.files, Z.rig.files.read (path f) = Y.rig.files.read (path f)) ∧
        Z.rig.latest.lookup t₀.token = Y.rig.latest.lookup t₀.token ∧
        ∀ result, Z.work = .done result → result = .again t' ∨
          ⟨.rig (.pause t.token t.tuning.tickInterval), false⟩ ∈ es' := by
  refine ⟨fun t ht => ?_, fun t t' es' Z hY hZ hp hfail => ?_⟩
  · obtain ⟨xs, hxs⟩ := Ticking.recorded_of_boundary hledger hagg hwide ht
    obtain ⟨hholds, hlast⟩ := h.holds hxs.owns hfiles
    have hrows : t.ledger.series.rows = xs := by
      rw [hxs.series_eq, Series.rows_collect hxs.wide]
    rw [hxs.shown_eq, hlatest, Option.or_none] at hlast
    rw [hrows]
    refine ⟨?_, hlast, fun κ a hslot htoken hlayout hended => ?_⟩
    · rw [(hholds.writes _ List.mem_cons_self).read, hxs.written_eq]
    · have hsample : Y.rig.latestSample a = xs.getLast? := by
        rw [State.latestSample, htoken, hlast]
      rw [State.channels_report hslot hended, hsample]
      intro x hx
      rw [hsample] at hx
      rw [hlayout]
      exact hxs.wide x (List.mem_of_getLast? hx)
  · obtain ⟨hnil, hsame, hgoes⟩ := Ticking.turn_of_lookFailed (hZ.leads hY) hp hfail
    obtain ⟨xs, hxs⟩ := Ticking.recorded_of_boundary hledger hagg hwide (h.boundary hY)
    obtain ⟨hholds, -⟩ := h.holds hxs.owns hfiles
    have howns : ∀ r ∈ records es', t₀.Owns r := by
      rw [hnil]
      exact List.forall_mem_nil _
    obtain ⟨hholds', hlast'⟩ := hZ.holds howns hholds
    refine ⟨hsame, fun f hf => ?_, ?_, hgoes⟩
    · rw [(hholds'.writes f hf).read, (hholds.writes f hf).read, hnil]
      simp [written]
    · rw [hlast', hnil]
      rfl

end Agreement

/-- Sampling of one channel, before its first tick. -/
def plainSampling : Ticking where
  tuning := ⟨.ofSeconds 1, 10, 3, 0.1, false, "data", "sample"⟩
  mode := .continuous
  lockins := 0
  token := 0
  samples := 0
  aggregates := none
  overload := .start 0 3 false
  ledger := .start 1 none
  attempted := 0
  origin := none

/-- A rig with one file, and its writer. -/
def oneFile : State :=
  { State.initial ⟨2024, 1, 1, 0, 0⟩ with
    files := ⟨[(["a.txt"], .file "")]⟩
    writers := #[⟨"a.txt", 0⟩] }

lemma holds_oneFile :
    oneFile.Holds plainSampling.files (fun _ => "a.txt") (fun _ => ["a.txt"]) fun _ => "" := by
  refine ⟨fun f hf => ?_, fun f hf g hg hne => ?_⟩
  · obtain rfl := List.mem_singleton.1 hf
    exact ⟨by decide, by with_unfolding_all rfl, by with_unfolding_all rfl,
      by decide +kernel⟩
  · exact absurd ((List.mem_singleton.1 hf).trans (List.mem_singleton.1 hg).symm) hne

/-- The sample of the first tick. -/
def firstSample : Sample := ⟨plainSampling.timeAt 0, [some 1.5]⟩

/-- What is asked and replied up to the end of the first tick. -/
def firstTick : List (Exchange WorkSurroundings) :=
  [⟨.rig (.fired 0), false⟩, ⟨.rig .clock, (0 : Nat)⟩,
    ⟨.act (.readChannels .continuous), (.ok [some 1.5] : Except DeviceFault _)⟩,
    ⟨.rig (.append 0 (Ticking.sampleRow firstSample)), (.ok () : Except StorageFault Unit)⟩,
    ⟨.rig (.present 0 firstSample), ()⟩]

lemma lives_firstTick : ∃ Y, Lives (.job 0) (State.Leaves plainSampling) Ticking.turn
    ⟨.done (.again plainSampling), .going, oneFile⟩ 1 firstTick Y := by
  have hbegun : Lives (.job 0) (State.Leaves plainSampling) Ticking.turn
      ⟨.done (.again plainSampling), .going, oneFile⟩ 1 [] ⟨plainSampling.turn, .going, oneFile⟩ :=
    .turn .refl
  have hfired := hbegun.move (.answered (p := .job 0) (r := .fired 0) (t := oneFile) rfl)
  have hclock := hfired.move (.answered (r := .clock) (t := oneFile) rfl)
  have hasked := hclock.move (.acts (a := .readChannels .continuous))
  have hread := hasked.move
    (.acted (a := .readChannels .continuous) (.ok [some 1.5] : Except DeviceFault _))
  have happend : oneFile.appendFile 0 (Ticking.sampleRow firstSample) =
      (.ok (), (oneFile.appendFile 0 (Ticking.sampleRow firstSample)).2) := by
    rw [← ((holds_oneFile.writes 0 List.mem_cons_self).append _).1]
  have hwritten := hread.move
    (.answered (r := .append 0 (Ticking.sampleRow firstSample)) (congrArg some happend))
  exact ⟨_, hwritten.move (.answered (r := .present 0 firstSample) rfl)⟩

lemma boundary_firstTick : ∃ t, plainSampling.Boundary firstTick t ∧
    t.ledger.series.rows = [firstSample] := by
  have htick : (plainSampling.tick (plainSampling.timeAt 0)).Ends (firstTick.drop 2)
      (false, { plainSampling with ledger := ⟨.collect 1 [firstSample], none⟩ }) :=
    .step (.step (.step (.refl _)))
  refine ⟨_, Ticking.boundary_of_tick .start htick, ?_⟩
  exact Series.rows_collect (List.forall_mem_singleton.2 rfl)

lemma readsWide_firstTick : Ticking.ReadsWide 1 firstTick := by
  intro e he values hread
  simp only [firstTick, List.mem_cons, List.not_mem_nil, or_false] at he
  rcases he with rfl | rfl | rfl | rfl | rfl <;> cases hread
  rfl

/-- After the first tick of an acquisition its sample is in the file, and it is shown. -/
theorem records_agree_firstTick :
    ∃ Y t, Lives (.job 0) (State.Leaves plainSampling) Ticking.turn
        ⟨.done (.again plainSampling), .going, oneFile⟩ 1 firstTick Y ∧
      plainSampling.Boundary firstTick t ∧ t.ledger.series.rows = [firstSample] ∧
      Agree plainSampling (fun _ => "a.txt") (fun _ => "") 1 Y.rig [firstSample] := by
  obtain ⟨Y, hY⟩ := lives_firstTick
  obtain ⟨t, ht, hrows⟩ := boundary_firstTick
  have hagree := (records_agree rfl (by decide) holds_oneFile rfl hY readsWide_firstTick).1 t ht
  rw [hrows] at hagree
  exact ⟨Y, t, hY, ht, hrows, hagree⟩

end CryoRig.Rig
