import CryoRig.Proofs.Requests
import CryoRig.Proofs.StepBlocks

/-!
# What a row of aggregates is labelled with

A row of aggregates begins with the target of a step. That target was set when the window of the
step was opened, and since then nothing else was set: all that is done meanwhile is to look after
lock-ins, to read channels and to write samples.

## Main definitions

* `CryoRig.Control.WorkRequest.Watches`: a request that leaves what is stepped as it is.
* `CryoRig.Control.Ticking.Took`: the device took a target, and nothing was set since.
* `CryoRig.Control.Ticking.Labelled`: every row of aggregates is labelled with such a target.

## Main results

* `CryoRig.Control.Ticking.Tracks.tick`: a tick labels its row with what was set, and keeps track.
* `CryoRig.Control.Ticking.labelled_of_rounds`: so does a whole run.
-/

namespace CryoRig

open Process

/-! ## Windows -/

namespace Sampling.Sweep

variable {τ : Type} [Add τ] [Sub τ] [LT τ] [DecidableLT τ] {s : Sweep τ} {now : τ} {series : Series}

/-- A tick leaves it at what is stepped. -/
lemma onTick_parameter : (s.onTick now series).2.parameter = s.parameter := by
  have hadvance (s : Sweep τ) (keep : Bool) (more : Option (Float × List Aggregate)) :
      (s.advance now keep more).2.parameter = s.parameter := by
    rcases advance_cases s now keep more with ⟨-, h⟩ | ⟨_, _, -, h⟩ <;> rw [h]
  rcases onTick_cases s now series with ⟨-, h⟩ | ⟨_, -, -, h⟩ | ⟨_, -, -, -, h⟩ | ⟨_, -, -, -, h⟩ <;>
    rw [h]
  · exact hadvance ..
  · exact hadvance ..

/-- What a tick closes is the window that was open. -/
lemma window_of_closed {c : Float × List Aggregate}
    (h : (s.onTick now series).1.closed = some c) : ∃ w, s.window = some w ∧ c.1 = w.target := by
  rcases onTick_cases s now series with
    ⟨-, ht⟩ | ⟨_, -, -, ht⟩ | ⟨_, -, -, -, ht⟩ | ⟨w, hw, -, -, ht⟩ <;> rw [ht] at h
  · rw [advance_closed] at h
    cases h
  · cases h
  · cases h
  · rw [advance_closed] at h
    cases h
    exact ⟨w, hw, rfl⟩

/-- The window that is open after a tick is that of the target it offers; or it is the one that was
open before, and the tick offers and closes nothing. -/
lemma window_of_onTick {w' : Window τ} (h : (s.onTick now series).2.window = some w') :
    (s.onTick now series).1.enter = some w'.target ∨
      (s.onTick now series).1.enter = none ∧ (s.onTick now series).1.closed = none ∧
        ∃ w, s.window = some w ∧ w.target = w'.target := by
  have hadvance {s : Sweep τ} {keep : Bool} {more : Option (Float × List Aggregate)}
      (h : (s.advance now keep more).2.window = some w') :
      (s.advance now keep more).1.enter = some w'.target := by
    rcases advance_cases s now keep more with ⟨-, ha⟩ | ⟨target, _, -, ha⟩ <;> rw [ha] at h ⊢
    · cases h
    · cases h
      rfl
  rcases onTick_cases s now series with
    ⟨-, ht⟩ | ⟨w, hw, -, ht⟩ | ⟨w, hw, -, -, ht⟩ | ⟨w, -, -, -, ht⟩ <;> rw [ht] at h ⊢
  · exact .inl (hadvance h)
  · exact .inr ⟨rfl, rfl, w', h, rfl⟩
  · cases h
    exact .inr ⟨rfl, rfl, w, hw, rfl⟩
  · exact .inl (hadvance h)

end Sampling.Sweep

namespace Control

open Sampling

/-! ## Requests -/

/-- A request that leaves what is stepped as it is, and writes nothing into a file. -/
def WorkRequest.Watches (file : Nat) : WorkRequest → Prop
  | .act (.readChannels _) | .act (.lockinStatus _) | .act (.rangeUp _) => True
  | .act _ => False
  | .rig (.device (.log _)) => True
  | .rig (.device _) => False
  | .rig (.append other _) => other ≠ file
  | .rig _ => True

/-- A request that writes nothing into a file. -/
def WorkRequest.Spares (file : Nat) (r : WorkRequest) : Prop :=
  ∀ text, r ≠ .rig (.append file text)

lemma WorkRequest.Watches.spares {file : Nat} (r : WorkRequest) (h : r.Watches file) :
    r.Spares file := by
  rintro text rfl
  exact h rfl

lemma WorkRequest.Tends.spares {file : Nat} (r : WorkRequest) (h : r.Tends) : r.Spares file := by
  rintro text rfl
  exact h

lemma WorkRequest.Checks.watches {file : Nat} (r : WorkRequest) (h : r.Checks) :
    r.Watches file := by
  cases r with
  | act a => cases a <;> trivial
  | rig r =>
    cases r with
    | device r =>
      cases r with
      | log => trivial
      | _ => exact h.elim
    | _ => exact h.elim

namespace Ticking

variable {t t₀ : Ticking} {parameter : Parameter} {target : Float} {file : Nat}
  {es es' : List (Exchange WorkSurroundings)}

lemma log_watches {event : Event} : (log event).AsksOnly (WorkRequest.Watches file) :=
  asksOnly_request.2 trivial

lemma acquire_watches : t.acquire.AsksOnly (WorkRequest.Watches file) :=
  acquire_asksOnly (fun _ _ => (checkLockins_checks _ _).mono WorkRequest.Checks.watches) trivial

lemma commit_watches (hf : t.samples ≠ file) (x : Sample) :
    (t.commit x).AsksOnly (WorkRequest.Watches file) := by
  refine AsksOnly.bind (asksOnly_request.2 hf) fun written => ?_
  cases written with
  | ok => exact asksOnly_request.2 trivial
  | error => exact log_watches.bind fun _ => asksOnly_request.2 trivial

/-! ## What was set -/

/-- With these exchanges the device took a target, and nothing was set since. -/
def Took (t : Ticking) (parameter : Parameter) (file : Nat) (target : Float)
    (es : List (Exchange WorkSurroundings)) : Prop :=
  ∃ early entry late, es = early ++ (entry ++ late) ∧
    (t.applyStep parameter target).Ends entry (.ok ()) ∧ ∀ e ∈ late, e.request.Watches file

lemma Took.watched (h : Took t parameter file target es)
    (hw : ∀ e ∈ es', e.request.Watches file) : Took t parameter file target (es ++ es') := by
  obtain ⟨early, entry, late, rfl, hentry, hlate⟩ := h
  refine ⟨early, entry, late ++ es', by simp, hentry, ?_⟩
  exact List.forall_mem_append.2 ⟨hlate, hw⟩

/-- Every row that is put into a file is labelled with a target that the device took, and nothing
was set since. -/
def Labelled (t : Ticking) (parameter : Parameter) (file : Nat)
    (es : List (Exchange WorkSurroundings)) : Prop :=
  ∀ before text reply after, es = before ++ ⟨.rig (.append file text), reply⟩ :: after →
    ∃ target readings, text = Table.values target readings ∧ Took t parameter file target before

lemma Labelled.spared (h : Labelled t parameter file es)
    (hs : ∀ e ∈ es', e.request.Spares file) : Labelled t parameter file (es ++ es') := by
  intro before text reply after he
  rcases append_eq_append_cons he with ⟨zs, -, rfl⟩ | ⟨zs, rfl⟩
  · exact absurd rfl (hs _ (List.mem_append_right _ List.mem_cons_self) text)
  · exact h _ _ _ _ rfl

lemma Labelled.row (h : Labelled t parameter file es) (ht : Took t parameter file target es)
    (readings : List (Option Float)) (reply : Except StorageFault Unit) :
    Labelled t parameter file
      (es ++ [⟨.rig (.append file (Table.values target readings)), reply⟩]) := by
  intro before text' reply' after he
  rcases append_eq_append_cons he with ⟨zs, rfl, hzs⟩ | ⟨zs, rfl⟩
  · cases zs with
    | nil =>
      cases hzs
      exact ⟨target, readings, rfl, by rwa [List.append_nil]⟩
    | cons z zs => cases zs <;> cases hzs
  · exact h _ _ _ _ rfl

/-- What is known of an acquisition after some exchanges: its rows are labelled with what was set,
and the window that is open belongs to what was set last. -/
structure Tracks (t₀ : Ticking) (parameter : Parameter) (file : Nat)
    (es : List (Exchange WorkSurroundings)) (t : Ticking) : Prop where
  /-- It is the same acquisition. -/
  fixed : t₀.Fixed t
  /-- Its rows are labelled with what was set. -/
  labelled : Labelled t₀ parameter file es
  /-- Its open window belongs to what was set last. -/
  open_window : ∃ sweep, t.ledger.sweep = some sweep ∧ sweep.parameter = parameter ∧
    ∀ w, sweep.window = some w → Took t₀ parameter file w.target es

lemma tracks_start {width : Nat} {targets : List Float} {relax measure : Float}
    (hl : t₀.ledger = .start width (some (.start parameter targets relax measure))) :
    Tracks t₀ parameter file [] t₀ where
  fixed := rfl
  labelled before text reply after he := by simp at he
  open_window := ⟨_, by rw [hl]; rfl, rfl, by rintro w ⟨⟩⟩

/-- Watching leaves it at what is known, also if other things are counted and collected. -/
lemma Tracks.watched {t' : Ticking} (h : Tracks t₀ parameter file es t)
    (hw : ∀ e ∈ es', e.request.Watches file) (ht : t.Fixed t')
    (hs : t'.ledger.sweep = t.ledger.sweep) : Tracks t₀ parameter file (es ++ es') t' where
  fixed := h.fixed.trans ht
  labelled := h.labelled.spared fun e he => (hw e he).spares
  open_window := by
    obtain ⟨sweep, hsweep, hparameter, hopen⟩ := h.open_window
    exact ⟨sweep, hs.trans hsweep, hparameter, fun w hwindow => (hopen w hwindow).watched hw⟩

lemma Fixed.applyStep (h : t₀.Fixed t) : t.applyStep = t₀.applyStep := by
  rw [h]
  rfl

/-! ## Steps -/

/-- Writing a step puts its row into the file first. -/
lemma ends_writeStep {aggregates : List Aggregate} {u : Unit} (ha : t.aggregates = some file)
    (h : (t.writeStep parameter target aggregates).Ends es u) :
    ∃ (reply : Except StorageFault Unit) (late : List (Exchange WorkSurroundings)),
      es = ⟨.rig (.append file
        (Table.values target (aggregates.flatMap Aggregate.entries))), reply⟩ :: late ∧
      ∀ e ∈ late, e.request.Watches file := by
  unfold writeStep at h
  simp only [ha] at h
  obtain ⟨es₁, es₂, written, rfl, h₁, h₂⟩ := ends_bind_iff.1 h
  obtain rfl := ends_request_iff.1 h₁
  refine ⟨written, es₂, rfl, AsksOnly.of_leads ?_ h₂⟩
  match written with
  | .ok _ => exact log_watches
  | .error _ => exact log_watches.bind fun _ => log_watches

/-- The device takes a target, or the window of it is closed again. -/
lemma ends_enterStep (file : Nat) {t' : Ticking}
    (h : (t.enterStep parameter target).Ends es t') :
    ∃ entry late result, es = entry ++ late ∧ (t.applyStep parameter target).Ends entry result ∧
      (∀ e ∈ late, e.request.Watches file) ∧
      (result = .ok () ∧ t' = t ∨ t' = { t with ledger := t.ledger.entryFailed }) := by
  obtain ⟨entry, late, result, rfl, hentry, hlate⟩ := ends_bind_iff.1 h
  refine ⟨entry, late, result, rfl, hentry, ?_⟩
  match result with
  | .ok () =>
    obtain ⟨es₁, es₂, _, rfl, h₁, h₂⟩ := ends_bind_iff.1 hlate
    obtain rfl := ends_request_iff.1 h₁
    obtain ⟨rfl, rfl⟩ := ends_pure_iff.1 h₂
    exact ⟨List.forall_mem_singleton.2 trivial, .inl ⟨rfl, rfl⟩⟩
  | .error fault =>
    obtain ⟨es₁, es₂, _, rfl, h₁, h₂⟩ := ends_bind_iff.1 hlate
    obtain rfl := ends_request_iff.1 h₁
    obtain ⟨rfl, rfl⟩ := ends_pure_iff.1 h₂
    exact ⟨List.forall_mem_singleton.2 trivial, .inr rfl⟩

/-- A target that is offered is set, and then its window is open; or no window is. -/
lemma Tracks.enterStep {t' : Ticking} (hfixed : t₀.Fixed t)
    (hlabelled : Labelled t₀ parameter file es)
    (hsweep : ∃ sweep, t.ledger.sweep = some sweep ∧ sweep.parameter = parameter ∧
      ∀ w, sweep.window = some w → w.target = target)
    (h : (t.enterStep parameter target).Ends es' t') :
    Tracks t₀ parameter file (es ++ es') t' := by
  obtain ⟨entry, late, result, rfl, hentry, hlate, hresult⟩ := ends_enterStep file h
  obtain ⟨sweep, hs, hparameter, hopen⟩ := hsweep
  rw [hfixed.applyStep] at hentry
  have hspared : ∀ e ∈ entry ++ late, e.request.Spares file := by
    refine List.forall_mem_append.2 ⟨fun e he => ?_, fun e he => (hlate e he).spares⟩
    exact ((applyStep_tends _ _ _).of_leads hentry e he).spares
  rcases hresult with ⟨rfl, rfl⟩ | rfl
  · refine ⟨hfixed, hlabelled.spared hspared, sweep, hs, hparameter, fun w hw => ?_⟩
    rw [hopen w hw]
    exact ⟨es, entry, late, rfl, hentry, hlate⟩
  · refine ⟨hfixed.trans rfl, hlabelled.spared hspared, sweep.entryFailed, ?_, hparameter, ?_⟩
    · simp [Ledger.entryFailed, hs]
    · rintro w ⟨⟩

/-- What follows from a verdict labels its row with what was set, and keeps track. -/
lemma Tracks.followUp {t' : Ticking} {verdict : Verdict} {sweep : Sweep Float}
    (hfixed : t₀.Fixed t) (hlabelled : Labelled t₀ parameter file es)
    (ha : t₀.aggregates = some file) (hs : t.ledger.sweep = some sweep)
    (hparameter : sweep.parameter = parameter)
    (hclosed : ∀ c, verdict.closed = some c → Took t₀ parameter file c.1 es)
    (hopen : ∀ w, sweep.window = some w → verdict.enter = some w.target ∨
      verdict.enter = none ∧ verdict.closed = none ∧ Took t₀ parameter file w.target es)
    (h : (t.followUp parameter verdict).Ends es' t') : Tracks t₀ parameter file (es ++ es') t' := by
  rw [followUp_eq] at h
  obtain ⟨es₁, es₂, _, rfl, hwrite, henter⟩ := ends_bind_iff.1 h
  have haggregates : t.aggregates = some file := by rw [hfixed, ha]
  -- the row of what was closed is written first
  have hrow : Labelled t₀ parameter file (es ++ es₁) := by
    unfold writeClosed at hwrite
    cases hc : verdict.closed with
    | none =>
      simp only [hc] at hwrite
      rw [(ends_pure_iff.1 hwrite).1, List.append_nil]
      exact hlabelled
    | some c =>
      simp only [hc] at hwrite
      obtain ⟨reply, late, rfl, hlate⟩ := ends_writeStep haggregates hwrite
      rw [List.append_cons]
      exact (hlabelled.row (hclosed c hc) (c.2.flatMap Aggregate.entries) reply).spared
        fun e he => (hlate e he).spares
  rw [← List.append_assoc]
  unfold enterNext at henter
  cases he : verdict.enter with
  | some target =>
    simp only [he] at henter
    refine Tracks.enterStep hfixed hrow ⟨sweep, hs, hparameter, fun w hw => ?_⟩ henter
    rcases hopen w hw with hw | ⟨hw, -⟩ <;> rw [he] at hw <;> cases hw
    rfl
  | none =>
    -- nothing is set, and the window that is open was open before
    simp only [he] at henter
    obtain ⟨rfl, rfl⟩ := ends_pure_iff.1 henter
    rw [List.append_nil]
    refine ⟨hfixed, hrow, sweep, hs, hparameter, fun w hw => ?_⟩
    rcases hopen w hw with hw | ⟨-, hnone, htook⟩
    · rw [he] at hw
      cases hw
    · simp only [writeClosed, hnone] at hwrite
      rw [(ends_pure_iff.1 hwrite).1, List.append_nil]
      exact htook

/-- A tick labels its row with what was set, and keeps track of what is set. -/
theorem Tracks.tick {now : Float} {finished : Bool} {t' : Ticking}
    (h : Tracks t₀ parameter file es t) (ha : t₀.aggregates = some file) (hf : t₀.samples ≠ file)
    (ht : (t.tick now).Ends es' (finished, t')) : Tracks t₀ parameter file (es ++ es') t' := by
  obtain ⟨sweep, hs, hparameter, hopen⟩ := h.open_window
  have hsamples : t.samples ≠ file := by rwa [h.fixed]
  cases tickGoes_of_ends ht with
  | failed hread =>
    refine h.watched (List.forall_mem_append.2 ⟨acquire_watches.of_leads hread, ?_⟩) rfl rfl
    exact List.forall_mem_singleton.2 trivial
  | @taken values overload es₁ es₂ es₃ _ _ hread hkeep hrest =>
    have hw : ∀ e ∈ es₁ ++ es₂, e.request.Watches file := by
      refine List.forall_mem_append.2 ⟨acquire_watches.of_leads hread, ?_⟩
      rcases ends_retain hkeep with ⟨-, hcommit⟩ | ⟨-, rfl⟩
      · exact (commit_watches hsamples _).of_leads hcommit
      · exact List.forall_mem_nil _
    have hsweep := Ledger.sweep_take (x := ⟨now, values⟩) hs
    obtain ⟨-, hfollow⟩ := ends_afterVerdict_some hsweep hrest
    rw [Ledger.verdict_take hs, Sweep.onTick_parameter, hparameter] at hfollow
    rw [← List.append_assoc es₁, ← List.append_assoc]
    refine Tracks.followUp (h.fixed.trans (fixed_taking _ _))
      (h.labelled.spared fun e he => (hw e he).spares) ha hsweep
      (Sweep.onTick_parameter.trans hparameter) (fun c hc => ?_) (fun w hwindow => ?_) hfollow
    · obtain ⟨w, hwindow, hc⟩ := Sweep.window_of_closed hc
      exact hc ▸ (hopen w hwindow).watched hw
    · refine (Sweep.window_of_onTick hwindow).imp_right ?_
      rintro ⟨hnone, hclosed, w₀, hw₀, htarget⟩
      exact ⟨hnone, hclosed, htarget ▸ (hopen w₀ hw₀).watched hw⟩

/-- So does a turn. -/
lemma Tracks.turn {result : Turn Ticking Ending} (h : Tracks t₀ parameter file es t)
    (ha : t₀.aggregates = some file) (hf : t₀.samples ≠ file) (ht : t.turn.Ends es' result) :
    Labelled t₀ parameter file (es ++ es') ∧
      ∀ t', result = .again t' → Tracks t₀ parameter file (es ++ es') t' := by
  have hover {es es' : List (Exchange WorkSurroundings)} {t : Ticking}
      (h : Tracks t₀ parameter file es t) (hw : ∀ e ∈ es', e.request.Watches file) :
      Labelled t₀ parameter file (es ++ es') := h.labelled.spared fun e he => (hw e he).spares
  cases goes_of_ends ht with
  | stopped => exact ⟨hover h (List.forall_mem_singleton.2 trivial), by rintro _ ⟨⟩⟩
  | @ticked ms es₁ es₂ finished left _ htick hwind =>
    have hlooked : Tracks t₀ parameter file
        (es ++ [⟨.rig (.fired t.token), false⟩, ⟨.rig .clock, ms⟩]) t :=
      h.watched (List.forall_mem_cons.2 ⟨trivial, List.forall_mem_singleton.2 trivial⟩) rfl rfl
    have hticked := hlooked.tick ha hf htick
    have hend : ∀ e ∈ es₂, e.request.Watches file := by
      cases hwind <;> exact List.forall_mem_singleton.2 trivial
    have hes : es ++ ⟨.rig (.fired t.token), false⟩ :: ⟨.rig .clock, ms⟩ :: (es₁ ++ es₂) =
        es ++ [⟨.rig (.fired t.token), false⟩, ⟨.rig .clock, ms⟩] ++ es₁ ++ es₂ := by simp
    rw [hes]
    refine ⟨hover hticked hend, fun t' hagain => ?_⟩
    cases hwind with
    | passed =>
      cases hagain
      exact hticked.watched hend rfl rfl
    | finished | cut => cases hagain

/-- In a run of a stepped acquisition every row of aggregates is labelled with a target that the
device took, and between that and the row nothing was set.

**Proof sketch.** Induction on the turns. Each of them keeps track of what was set: it watches, it
writes the row of the window that was open, and it sets the next target, which opens the next
window. -/
theorem labelled_of_rounds {width : Nat} {targets : List Float} {relax measure : Float}
    {turns : List (Ticking × List (Exchange WorkSurroundings))} {result : Turn Ticking Ending}
    (hl : t₀.ledger = .start width (some (.start parameter targets relax measure)))
    (ha : t₀.aggregates = some file) (hf : t₀.samples ≠ file)
    (h : Rounds Ticking.turn t₀ turns result) :
    Labelled t₀ parameter file (exchanges turns) := by
  have hrun : Labelled t₀ parameter file (exchanges turns) ∧
      ∀ t, result = .again t → Tracks t₀ parameter file (exchanges turns) t := by
    induction h with
    | start =>
      refine ⟨(tracks_start hl).labelled, ?_⟩
      rintro _ ⟨⟩
      exact tracks_start hl
    | @next turns t es result h ht ih =>
      rw [exchanges_append, exchanges_singleton]
      exact (ih.2 t rfl).turn ha hf ht
  exact hrun.1

end Ticking

end Control

end CryoRig
