import CryoRig.Proofs.StepFiles

/-!
# What a tick leaves behind

A tick leaves its sample behind in three places: in the series, in the file of the samples, and as
the latest sample that is shown. It does so in all three of them or in none, whether the samples
belong to a sweep or not.

What is recorded is told from the requests of the acquisition: those that make files, write into
them, or show a sample.

## Main definitions

* `CryoRig.Sampling.Series.rows`: the samples that a series holds.
* `CryoRig.Control.records`: the requests that concern files or samples.
* `CryoRig.Control.Ticking.Boundary`: what an acquisition remembers when it is not in a tick.
* `CryoRig.Control.Ticking.Recorded`: an acquisition that has recorded some samples.

## Main results

* `CryoRig.Sampling.Series.rows_collect_fitted`, `CryoRig.Sampling.Series.rows_collect`: a series
  holds the samples that were put into it.
* `CryoRig.Control.Ticking.tick_records`: what one tick records.
* `CryoRig.Control.Ticking.recorded_of_boundary`: between ticks, the same samples were recorded in
  every place.
-/

namespace CryoRig.Sampling.Series

/-! ## The samples of a series -/

/-- The samples that a series holds, the oldest one first. -/
def rows (s : Series) : List Sample :=
  s.times.toList.zipIdx.map fun (time, i) => ⟨time, s.columns.map fun column => column[i]?.join⟩

/-- A sample with as many values as there are channels: what it has too many is left out, what it has
too few is missing. -/
def fitted (width : Nat) (x : Sample) : Sample :=
  ⟨x.time, (List.range width).map (valueAt · x)⟩

lemma fitted_eq_self {width : Nat} {x : Sample} (h : x.values.length = width) :
    fitted width x = x := by
  have hvalues : (List.range width).map (valueAt · x) = x.values := by
    apply List.ext_getElem
    · simp [h]
    · intro j hj hj'
      simp [valueAt, List.getElem?_eq_getElem hj']
  rw [fitted, hvalues]

/-- A series holds the samples that were put into it, each with one value for every channel. -/
theorem rows_collect_fitted (width : Nat) (xs : List Sample) :
    (collect width xs).rows = xs.map (fitted width) := by
  have htimes : (collect width xs).times.toList = xs.map Sample.time := by
    simp [collect, times_foldl_push, empty]
  apply List.ext_getElem
  · simp [rows, htimes]
  · intro i hi hi'
    simp only [List.length_map] at hi'
    simp [rows, htimes, columns_collect, Function.comp_def, fitted, List.getElem?_eq_getElem hi']

/-- A series holds the samples that were put into it. -/
theorem rows_collect {width : Nat} {xs : List Sample} (h : ∀ x ∈ xs, x.values.length = width) :
    (collect width xs).rows = xs := by
  rw [rows_collect_fitted, List.map_congr_left fun x hx => fitted_eq_self (h x hx), List.map_id']

end CryoRig.Sampling.Series

namespace CryoRig.Control

open Process Sampling

/-! ## Records -/

/-- The request of an exchange, if it concerns files or samples. -/
def recorded? : Exchange WorkSurroundings → Option Request
  | ⟨WorkRequest.rig (.create path), _⟩ => some (.create path)
  | ⟨WorkRequest.rig (.append file text), _⟩ => some (.append file text)
  | ⟨WorkRequest.rig (.present token x), _⟩ => some (.present token x)
  | _ => none

/-- The requests that concern files or samples, in order. -/
def records (es : List (Exchange WorkSurroundings)) : List Request := es.filterMap recorded?

/-- A request that concerns neither files nor samples. -/
def Unrecorded (r : WorkRequest) : Prop := ∀ reply : r.Reply, recorded? ⟨r, reply⟩ = none

/-- The texts that are written into a file. -/
def written (file : Nat) (rs : List Request) : List String :=
  rs.filterMap fun r =>
    match r with
    | .append file' text => if file' = file then some text else none
    | _ => none

/-- The samples that are shown under a token. -/
def shown (token : Nat) (rs : List Request) : List Sample :=
  rs.filterMap fun r =>
    match r with
    | .present token' x => if token' = token then some x else none
    | _ => none

section Records

variable {es es' : List (Exchange WorkSurroundings)} {rs rs' : List Request} {file token : Nat}

@[simp] lemma records_nil : records [] = [] := rfl

@[simp] lemma records_append : records (es ++ es') = records es ++ records es' :=
  List.filterMap_append

@[simp] lemma written_append : written file (rs ++ rs') = written file rs ++ written file rs' :=
  List.filterMap_append

@[simp] lemma shown_append : shown token (rs ++ rs') = shown token rs ++ shown token rs' :=
  List.filterMap_append

lemma records_eq_nil (h : ∀ e ∈ es, Unrecorded e.request) : records es = [] :=
  List.filterMap_eq_nil_iff.2 fun e he => h e he e.reply

lemma WorkRequest.Tends.unrecorded (r : WorkRequest) (h : r.Tends) : Unrecorded r := by
  intro reply
  unfold Tends at h
  split at h <;> first | rfl | exact h.elim

end Records

/-! ## Looks at instruments -/

end CryoRig.Control

namespace CryoRig.Action

/-- Whether an action looks at an instrument, or raises its range because of what was seen. -/
def looks : Action → Bool
  | readChannels _ | lockinStatus _ | rangeUp _ => true
  | _ => false

end CryoRig.Action

namespace CryoRig.Control

open Process Sampling

/-- Whether a look at an instrument failed. -/
def lookFailed : Exchange WorkSurroundings → Bool
  | ⟨WorkRequest.act a, (outcome : Except DeviceFault a.Result)⟩ =>
    match outcome with
    | .error _ => a.looks
    | .ok _ => false
  | _ => false

namespace Ticking

variable {t t' : Ticking} {es : List (Exchange WorkSurroundings)} {now : Float}
  {rest : Working (Turn Ticking Ending)}

/-- If a lock-in was looked at with success, nothing failed on the way. -/
lemma checkLockin_looks {m m' : OverloadMonitor} {index : Nat}
    (h : (checkLockin m index).Ends es (.ok (), m')) : ∀ e ∈ es, lookFailed e = false := by
  have hlog {es : List (Exchange WorkSurroundings)} {β : Type} {event : Event} {w : Working β}
      {b : β} (h : (do log event; w).Ends es b) (hw : ∀ es, w.Ends es b →
        ∀ e ∈ es, lookFailed e = false) : ∀ e ∈ es, lookFailed e = false := by
    obtain ⟨es₁, es₂, _, rfl, h₁, h₂⟩ := ends_bind_iff.1 h
    obtain rfl := ends_request_iff.1 h₁
    exact List.forall_mem_cons.2 ⟨rfl, hw es₂ h₂⟩
  have hpure {es : List (Exchange WorkSurroundings)} {β : Type} {b b' : β}
      (h : (pure b : Working β).Ends es b') : ∀ e ∈ es, lookFailed e = false := by
    obtain ⟨rfl, -⟩ := ends_pure_iff.1 h
    exact List.forall_mem_nil _
  have hmaybe {es : List (Exchange WorkSurroundings)} {β : Type} {event : Event} {w : Working β}
      {b : β} {c : Bool} (h : (if c = true then do log event; w else w).Ends es b)
      (hw : ∀ es, w.Ends es b → ∀ e ∈ es, lookFailed e = false) :
      ∀ e ∈ es, lookFailed e = false := by
    cases c with
    | true => exact hlog h hw
    | false => exact hw es h
  unfold checkLockin at h
  obtain ⟨es₁, es₂, outcome, rfl, h₁, h₂⟩ := ends_bind_iff.1 h
  obtain rfl := ends_request_iff.1 h₁
  rcases outcome with fault | (status : LockinStatus)
  · obtain ⟨-, he⟩ := ends_pure_iff.1 h₂
    cases he
  refine List.forall_mem_cons.2 ⟨rfl, hmaybe h₂ fun es h => ?_⟩
  generalize m.record index status = recorded at h
  obtain ⟨verdict, m₁⟩ := recorded
  cases verdict with
  | rangeUp =>
    refine hlog h fun es h => ?_
    obtain ⟨es₃, es₄, raised, rfl, h₃, h₄⟩ := ends_bind_iff.1 h
    obtain rfl := ends_request_iff.1 h₃
    rcases raised with fault | (range : Option Nat)
    · obtain ⟨-, he⟩ := ends_pure_iff.1 h₄
      cases he
    · exact List.forall_mem_cons.2 ⟨rfl, hlog h₄ fun es h => hpure h⟩
  | report => exact hlog h fun es h => hpure h
  | clear | counting => exact hpure h

lemma checkLockins_looks {m m' : OverloadMonitor} {indices : List Nat}
    (h : (checkLockins m indices).Ends es (.ok (), m')) : ∀ e ∈ es, lookFailed e = false := by
  induction indices generalizing m es with
  | nil =>
    obtain ⟨rfl, -⟩ := ends_pure_iff.1 h
    exact List.forall_mem_nil _
  | cons index rest ih =>
    obtain ⟨es₁, es₂, ⟨checked, m₁⟩, rfl, h₁, h₂⟩ := ends_bind_iff.1 h
    cases checked with
    | error fault =>
      obtain ⟨-, he⟩ := ends_pure_iff.1 h₂
      cases he
    | ok => exact List.forall_mem_append.2 ⟨checkLockin_looks h₁, ih h₂⟩

lemma check_looks {checked : Except DeviceFault Unit} {m : OverloadMonitor}
    (h : t.check.Ends es (checked, m)) : (∀ e ∈ es, Unrecorded e.request) ∧
      (checked = .ok () → ∀ e ∈ es, lookFailed e = false) := by
  unfold check at h
  split at h
  · refine ⟨((checkLockins_tends _ _).mono WorkRequest.Tends.unrecorded).of_leads h, ?_⟩
    rintro rfl
    exact checkLockins_looks h
  · obtain ⟨rfl, -⟩ := ends_pure_iff.1 h
    exact ⟨List.forall_mem_nil _, fun _ => List.forall_mem_nil _⟩

/-- Something failed, or all channels are read and nothing failed on the way. -/
lemma acquire_looks {result : Except DeviceFault (List (Option Float))}
    {overload : OverloadMonitor} (h : t.acquire.Ends es (result, overload)) :
    (∀ e ∈ es, Unrecorded e.request) ∧
      ((∃ fault, result = .error fault) ∨ ∃ values, result = .ok values ∧
        ⟨.act (.readChannels t.mode), (.ok values : Except DeviceFault _)⟩ ∈ es ∧
        ∀ e ∈ es, lookFailed e = false) := by
  rcases ends_acquire h with ⟨fault, hcheck, rfl⟩ | ⟨es', hcheck, rfl⟩
  · exact ⟨(check_looks hcheck).1, .inl ⟨fault, rfl⟩⟩
  · obtain ⟨hrec, hlook⟩ := check_looks hcheck
    refine ⟨List.forall_mem_append.2 ⟨hrec, List.forall_mem_singleton.2 fun _ => rfl⟩, ?_⟩
    cases result with
    | error fault => exact .inl ⟨fault, rfl⟩
    | ok values =>
      refine .inr ⟨values, rfl, by simp, List.forall_mem_append.2 ⟨hlook rfl, ?_⟩⟩
      exact List.forall_mem_singleton.2 rfl

/-! ## What a tick records -/

/-- Two states of one acquisition: it has the same token and the same files. -/
structure Same (t t' : Ticking) : Prop where
  token : t'.token = t.token
  samples : t'.samples = t.samples
  aggregates : t'.aggregates = t.aggregates

lemma Same.refl (t : Ticking) : t.Same t := ⟨rfl, rfl, rfl⟩

lemma Same.trans {t'' : Ticking} (h : t.Same t') (h' : t'.Same t'') : t.Same t'' :=
  ⟨h'.token.trans h.token, h'.samples.trans h.samples, h'.aggregates.trans h.aggregates⟩

/-- What is asked of the rig and the site once a sample was taken: aggregates are written, and
nothing is looked at. -/
def FollowsUp (t : Ticking) : WorkRequest → Prop
  | .act a => a.looks = false
  | .rig (.append file _) => t.aggregates = some file
  | .rig (.device (.log _)) => True
  | _ => False

lemma FollowsUp.lookFailed {e : Exchange WorkSurroundings} (h : t.FollowsUp e.request) :
    lookFailed e = false := by
  obtain ⟨r, reply⟩ := e
  cases r with
  | act a =>
    rcases reply with fault | result
    · exact h
    · rfl
  | rig r => rfl

lemma FollowsUp.record {e : Exchange WorkSurroundings} {r : Request} (h : t.FollowsUp e.request)
    (hr : recorded? e = some r) :
    ∃ file text, t.aggregates = some file ∧ r = .append file text := by
  unfold recorded? at hr
  split at hr <;> cases hr
  · exact h.elim
  · exact ⟨_, _, h, rfl⟩
  · exact h.elim

lemma followsUp_log {event : Event} : (log event).AsksOnly t.FollowsUp :=
  asksOnly_request.2 trivial

lemma writeStep_followsUp {parameter : Parameter} {target : Float} {aggregates : List Aggregate} :
    (t.writeStep parameter target aggregates).AsksOnly t.FollowsUp := by
  unfold writeStep
  cases ha : t.aggregates with
  | none => exact followsUp_log
  | some file =>
    refine AsksOnly.bind (asksOnly_request.2 ha) fun result => ?_
    cases result with
    | ok => exact followsUp_log
    | error => exact followsUp_log.bind fun _ => followsUp_log

lemma setAmplitudes_followsUp {volts : Float} {indices : List Nat} :
    (setAmplitudes volts indices).AsksOnly t.FollowsUp := by
  induction indices with
  | nil => trivial
  | cons index rest ih =>
    refine AsksOnly.bind (asksOnly_request.2 rfl) fun outcome => ?_
    cases outcome with
    | ok => exact ih
    | error => trivial

lemma applyStep_followsUp {parameter : Parameter} {value : Float} :
    (t.applyStep parameter value).AsksOnly t.FollowsUp := by
  cases parameter with
  | allAmplitudes => exact setAmplitudes_followsUp
  | _ => exact asksOnly_request.2 rfl

/-- The series is what it was, and the acquisition is the same. -/
def KeepsSeries (t t' : Ticking) : Prop := t'.ledger.series = t.ledger.series ∧ t.Same t'

lemma enterStep_followsUp {parameter : Parameter} {target : Float} :
    (t.enterStep parameter target).Yields t.FollowsUp t.KeepsSeries := by
  refine applyStep_followsUp.bind_yields fun outcome => ?_
  cases outcome with
  | ok => exact followsUp_log.bind_yields fun _ => ⟨rfl, .refl t⟩
  | error => exact followsUp_log.bind_yields fun _ => ⟨rfl, rfl, rfl, rfl⟩

lemma followUp_followsUp {parameter : Parameter} {verdict : Verdict} :
    (t.followUp parameter verdict).Yields t.FollowsUp t.KeepsSeries :=
  followUp_yields_of (fun _ _ => writeStep_followsUp) (fun _ => enterStep_followsUp) ⟨rfl, .refl t⟩

/-- A sample that is kept is written, and then shown. -/
lemma commit_records {x : Sample} {u : Unit} (h : (t.commit x).Ends es u) :
    records es = [.append t.samples (sampleRow x), .present t.token x] ∧
      ∀ e ∈ es, lookFailed e = false := by
  unfold commit at h
  obtain ⟨es₁, es₂, result, rfl, h₁, h₂⟩ := ends_bind_iff.1 h
  obtain rfl := ends_request_iff.1 h₁
  have hshow {es : List (Exchange WorkSurroundings)} {u : Unit}
      (h : (ask (.present t.token x)).Ends es u) :
      records es = [.present t.token x] ∧ ∀ e ∈ es, lookFailed e = false := by
    obtain rfl := ends_request_iff.1 h
    exact ⟨rfl, List.forall_mem_singleton.2 rfl⟩
  match result with
  | .ok _ =>
    obtain ⟨hrec, hlook⟩ := hshow h₂
    refine ⟨?_, List.forall_mem_cons.2 ⟨rfl, hlook⟩⟩
    rw [records_append, hrec]
    rfl
  | .error _ =>
    obtain ⟨es₃, es₄, _, rfl, h₃, h₄⟩ := ends_bind_iff.1 h₂
    obtain rfl := ends_request_iff.1 h₃
    obtain ⟨hrec, hlook⟩ := hshow h₄
    refine ⟨?_, List.forall_mem_cons.2 ⟨rfl, List.forall_mem_cons.2 ⟨rfl, hlook⟩⟩⟩
    rw [records_append, records_append, hrec]
    rfl

/-- What a tick records when every channel was read. -/
structure Takes (t : Ticking) (x : Sample) (es : List (Exchange WorkSurroundings)) (t' : Ticking) :
    Prop where
  /-- The channels were read. -/
  read : ⟨.act (.readChannels t.mode), (.ok x.values : Except DeviceFault _)⟩ ∈ es
  /-- Nothing that was looked at failed. -/
  looks : ∀ e ∈ es, lookFailed e = false
  /-- The sample is written and shown if it is kept; nothing else is, but for aggregates. -/
  records_eq : ∃ more, records es = (if (t.ledger.take x).1.keep then
      [.append t.samples (sampleRow x), .present t.token x] else []) ++ more ∧
    ∀ r ∈ more, ∃ file text, t.aggregates = some file ∧ r = .append file text
  /-- It is in the series if it is kept. -/
  series_eq : t'.ledger.series =
    if (t.ledger.take x).1.keep then t.ledger.series.push x else t.ledger.series
  /-- It is the same acquisition. -/
  same : t.Same t'

lemma ends_afterVerdict {verdict : Verdict} {finished : Bool} {u : Ticking}
    (h : (u.afterVerdict verdict).Ends es (finished, t')) :
    (∀ e ∈ es, u.FollowsUp e.request) ∧ t'.ledger.series = u.ledger.series ∧ u.Same t' := by
  cases hs : u.ledger.sweep with
  | none =>
    obtain ⟨rfl, -, rfl⟩ := ends_afterVerdict_none hs h
    exact ⟨List.forall_mem_nil _, rfl, .refl _⟩
  | some sweep => exact followUp_followsUp.of_ends (ends_afterVerdict_some hs h).2

/-- A sample is recorded if it is kept. -/
lemma retain_records {x : Sample} {u : Unit} (h : (t.retain x).Ends es u) :
    records es = (if (t.ledger.take x).1.keep then
        [.append t.samples (sampleRow x), .present t.token x] else []) ∧
      ∀ e ∈ es, lookFailed e = false := by
  rcases ends_retain h with ⟨hkeep, h⟩ | ⟨hkeep, rfl⟩
  · rw [if_pos hkeep]
    exact commit_records h
  · rw [if_neg (by simp [hkeep])]
    exact ⟨rfl, List.forall_mem_nil _⟩

/-- A tick records nothing, and nothing has changed but the counters of overloads, or its sample
was taken. -/
theorem tick_records {finished : Bool} (h : (t.tick now).Ends es (finished, t')) :
    (records es = [] ∧ finished = false ∧ ∃ overload, t' = { t with overload := overload }) ∨
      ∃ values, t.Takes ⟨now, values⟩ es t' := by
  cases tickGoes_of_ends h with
  | @failed es fault overload hread =>
    refine .inl ⟨?_, rfl, overload, rfl⟩
    rw [records_append, records_eq_nil (acquire_looks hread).1]
    rfl
  | @taken values overload es₁ es₂ es₃ _ _ hread hkeep hrest =>
    obtain ⟨hrec, ⟨_, hr⟩ | ⟨_, hr, hread, hlook⟩⟩ := acquire_looks hread <;> cases hr
    obtain ⟨hrec', hlook'⟩ := retain_records hkeep
    obtain ⟨hreq, hseries, hsame⟩ := ends_afterVerdict hrest
    refine .inr ⟨values, List.mem_append_left _ hread, ?_, ⟨records es₃, ?_, ?_⟩, ?_, ?_⟩
    · exact List.forall_mem_append.2 ⟨hlook, List.forall_mem_append.2
        ⟨hlook', fun e he => (hreq e he).lookFailed⟩⟩
    · rw [records_append, records_append, records_eq_nil hrec, hrec', List.nil_append]
    · intro r hr
      obtain ⟨e, he, hre⟩ := List.mem_filterMap.1 hr
      exact (hreq e he).record hre
    · exact hseries.trans (t.ledger.series_take _)
    · exact ⟨hsame.token, hsame.samples, hsame.aggregates⟩

/-! ## Between ticks -/

/-- With these exchanges since it began, a turn is not in its tick. It remembers what it began with,
or what the tick has left behind. -/
inductive Pauses (t : Ticking) : List (Exchange WorkSurroundings) → Ticking → Prop where
  /-- The tick is still to come. -/
  | before {es : List (Exchange WorkSurroundings)}
      (h : ∀ e ∈ es, e.request = .rig (.fired t.token) ∨ e.request = .rig .clock) : Pauses t es t
  /-- The tick is over. -/
  | after {ms : Nat} {es es' : List (Exchange WorkSurroundings)} {finished : Bool} {left : Ticking}
      (h : (t.tick (t.timeAt ms)).Ends es (finished, left)) :
      Pauses t (⟨.rig (.fired t.token), false⟩ :: ⟨.rig .clock, ms⟩ :: (es ++ es'))
        (t.afterTick ms left)

/-- With these exchanges an acquisition that began with `t₀` is not in a tick, and `t` is what it
remembers. -/
def Boundary (t₀ : Ticking) (es : List (Exchange WorkSurroundings)) (t : Ticking) : Prop :=
  ∃ turns u es' rest, Rounds turn t₀ turns (.again u) ∧ u.turn.Leads es' rest ∧
    es = exchanges turns ++ es' ∧ u.Pauses es' t

/-- After its tick a turn records nothing and looks at nothing. -/
lemma windUp_quiet {finished : Bool} (h : (t.windUp finished).Leads es rest) :
    records es = [] ∧ ∀ e ∈ es, lookFailed e = false := by
  have hasks : (t.windUp finished).AsksOnly fun r =>
      Unrecorded r ∧ ∃ r', r = WorkRequest.rig r' := by
    unfold windUp
    split
    · exact AsksOnly.bind (asksOnly_request.2 ⟨fun _ => rfl, _, rfl⟩) fun _ => trivial
    · refine AsksOnly.bind (asksOnly_request.2 ⟨fun _ => rfl, _, rfl⟩) fun passed => ?_
      cases passed <;> trivial
  refine ⟨records_eq_nil fun e he => (hasks.of_leads h e he).1, fun e he => ?_⟩
  obtain ⟨r, reply⟩ := e
  obtain ⟨-, r', rfl⟩ := hasks.of_leads h _ he
  rfl

lemma pauses_of_ends (h : t.turn.Ends es (.again t')) : t.Pauses es t' := by
  cases goes_of_ends h with
  | ticked htick hwind =>
    cases hwind
    exact .after htick

/-- After the tick of a turn there is the rest of the turn. -/
lemma leads_windUp {ms : Nat} {es' : List (Exchange WorkSurroundings)} {finished : Bool}
    {left : Ticking}
    (h : (t.tick (t.timeAt ms)).Ends es (finished, left))
    (hl : t.turn.Leads (⟨.rig (.fired t.token), false⟩ :: ⟨.rig .clock, ms⟩ :: (es ++ es')) rest) :
    ((t.afterTick ms left).windUp finished).Leads es' rest := by
  obtain ⟨he, -⟩ | ⟨_, _, he, hclock⟩ := leads_ask_iff.1 hl
  · cases he
  cases he
  obtain ⟨he, -⟩ | ⟨_, _, he, htick⟩ := leads_ask_iff.1 hclock
  · cases he
  cases he
  change (t.tickAt ms).Leads (es ++ es') rest at htick
  unfold tickAt at htick
  have hrest := leads_of_ends h htick
  exact hrest

/-- A boundary is reached right after every tick. -/
lemma boundary_of_tick {turns : List (Ticking × List (Exchange WorkSurroundings))} {t₀ : Ticking}
    {ms : Nat} {finished : Bool} {left : Ticking} (h : Rounds turn t₀ turns (.again t))
    (ht : (t.tick (t.timeAt ms)).Ends es (finished, left)) :
    t₀.Boundary (exchanges turns ++ ⟨.rig (.fired t.token), false⟩ :: ⟨.rig .clock, ms⟩ :: es)
      (t.afterTick ms left) := by
  have hfired : (fired t.token).Ends [⟨.rig (.fired t.token), false⟩] false :=
    ends_request_iff.2 rfl
  have hclock : clock.Ends [⟨.rig .clock, ms⟩] ms := ends_request_iff.2 rfl
  have hl : t.turn.Leads ([⟨.rig (.fired t.token), false⟩] ++ ([⟨.rig .clock, ms⟩] ++ es))
      ((t.afterTick ms left).windUp finished) := by
    rw [turn_eq]
    exact (hfired.leads_bind _).trans ((hclock.leads_bind _).trans (ht.leads_bind _))
  refine ⟨turns, t, _, _, h, hl, rfl, ?_⟩
  rw [← List.append_nil es]
  change t.Pauses (⟨.rig (.fired t.token), false⟩ :: ⟨.rig .clock, ms⟩ :: (es ++ [])) _
  exact .after ht

/-- A boundary is reached whenever a turn is over that another one may follow. -/
lemma boundary_of_rounds {turns : List (Ticking × List (Exchange WorkSurroundings))}
    {t₀ : Ticking} (h : Rounds turn t₀ turns (.again t)) : t₀.Boundary (exchanges turns) t :=
  ⟨turns, t, [], t.turn, h, .refl _, by simp, .before (List.forall_mem_nil _)⟩

/-! ## What a run records -/

/-- The files of an acquisition. -/
def files (t : Ticking) : List Nat := t.samples :: t.aggregates.toList

/-- The requests that concern files or samples and are an acquisition's own. -/
def Owns (t : Ticking) : Request → Prop
  | .append file _ => file ∈ t.files
  | .present token _ => token = t.token
  | _ => False

/-- The readings that were taken are as wide as the layout. -/
def ReadsWide (width : Nat) (es : List (Exchange WorkSurroundings)) : Prop :=
  ∀ e ∈ es, ∀ values, sighting e = some (.read values) → values.length = width

lemma ReadsWide.of_append {width : Nat} {es es' : List (Exchange WorkSurroundings)}
    (h : ReadsWide width (es ++ es')) : ReadsWide width es ∧ ReadsWide width es' :=
  ⟨fun e he => h e (List.mem_append_left _ he), fun e he => h e (List.mem_append_right _ he)⟩

/-- An acquisition has recorded some samples: the series holds them, their rows were written, they
were shown, and nothing else was, but for aggregates. -/
structure Recorded (t₀ : Ticking) (width : Nat) (es : List (Exchange WorkSurroundings))
    (t : Ticking) (xs : List Sample) : Prop where
  /-- It is the same acquisition. -/
  same : t₀.Same t
  /-- The series. -/
  series_eq : t.ledger.series = .collect width xs
  /-- The samples are as wide as the layout. -/
  wide : ∀ x ∈ xs, x.values.length = width
  /-- The rows. -/
  written_eq : written t₀.samples (records es) = xs.map sampleRow
  /-- The samples that were shown. -/
  shown_eq : shown t₀.token (records es) = xs
  /-- There is nothing else. -/
  owns : ∀ r ∈ records es, t₀.Owns r

variable {t₀ : Ticking} {width : Nat} {es' : List (Exchange WorkSurroundings)} {xs : List Sample}

lemma recorded_start {sweep : Option (Sweep Float)} (h : t₀.ledger = .start width sweep) :
    t₀.Recorded width [] t₀ [] where
  same := .refl t₀
  series_eq := by rw [h]; rfl
  wide := List.forall_mem_nil _
  written_eq := rfl
  shown_eq := rfl
  owns := List.forall_mem_nil _

/-- Nothing more was recorded. -/
lemma Recorded.quiet (h : t₀.Recorded width es t xs) (hes : records es' = []) (hs : t.Same t')
    (hl : t'.ledger.series = t.ledger.series) : t₀.Recorded width (es ++ es') t' xs where
  same := h.same.trans hs
  series_eq := hl.trans h.series_eq
  wide := h.wide
  written_eq := by rw [records_append, hes, List.append_nil, h.written_eq]
  shown_eq := by rw [records_append, hes, List.append_nil, h.shown_eq]
  owns := by rw [records_append, hes, List.append_nil]; exact h.owns

/-- A tick whose sample was taken recorded it in every place, or in none. -/
lemma Recorded.takes {x : Sample} (h : t₀.Recorded width es t xs) (ht : t.Takes x es' t')
    (hx : x.values.length = width) (hagg : t₀.aggregates ≠ some t₀.samples) :
    ∃ ys, t₀.Recorded width (es ++ es') t' (xs ++ ys) := by
  obtain ⟨more, hrec, hmore⟩ := ht.records_eq
  have hown (r : Request) (hr : r ∈ more) :
      ∃ file text, t₀.aggregates = some file ∧ r = .append file text := by
    obtain ⟨file, text, ha, hr'⟩ := hmore r hr
    exact ⟨file, text, h.same.aggregates ▸ ha, hr'⟩
  have hwritten : written t₀.samples more = [] := by
    refine List.filterMap_eq_nil_iff.2 fun r hr => ?_
    obtain ⟨file, text, ha, rfl⟩ := hown r hr
    exact if_neg fun hf => hagg (by rw [ha, hf])
  have hshown : shown t₀.token more = [] := by
    refine List.filterMap_eq_nil_iff.2 fun r hr => ?_
    obtain ⟨file, text, -, rfl⟩ := hown r hr
    rfl
  have howns (r : Request) (hr : r ∈ more) : t₀.Owns r := by
    obtain ⟨file, text, ha, rfl⟩ := hown r hr
    exact List.mem_cons_of_mem _ (Option.mem_toList.2 ha)
  cases hkeep : (t.ledger.take x).1.keep with
  | true =>
    rw [if_pos hkeep, h.same.samples, h.same.token] at hrec
    refine ⟨[x], h.same.trans ht.same, ?_, ?_, ?_, ?_, ?_⟩
    · rw [ht.series_eq, if_pos hkeep, h.series_eq, Series.collect_concat]
    · exact List.forall_mem_append.2 ⟨h.wide, List.forall_mem_singleton.2 hx⟩
    · rw [records_append, hrec, written_append, written_append, h.written_eq, hwritten]
      simp [written]
    · rw [records_append, hrec, shown_append, shown_append, h.shown_eq, hshown]
      simp [shown]
    · rw [records_append, hrec]
      refine List.forall_mem_append.2 ⟨h.owns, List.forall_mem_append.2 ⟨?_, howns⟩⟩
      exact List.forall_mem_cons.2 ⟨List.mem_cons_self, List.forall_mem_singleton.2 rfl⟩
  | false =>
    rw [if_neg (by simp [hkeep]), List.nil_append] at hrec
    refine ⟨[], h.same.trans ht.same, ?_, ?_, ?_, ?_, ?_⟩
    · rw [ht.series_eq, if_neg (by simp [hkeep]), h.series_eq, List.append_nil]
    · rw [List.append_nil]
      exact h.wide
    · rw [records_append, hrec, written_append, h.written_eq, hwritten]
      simp
    · rw [records_append, hrec, shown_append, h.shown_eq, hshown]
    · rw [records_append, hrec]
      exact List.forall_mem_append.2 ⟨h.owns, howns⟩

/-- Outside its tick a turn has recorded the sample of the tick in every place, or in none. -/
lemma Recorded.pauses (h : t₀.Recorded width es t xs)
    (hl : t.turn.Leads es' rest) (hp : t.Pauses es' t') (hwide : ReadsWide width es')
    (hagg : t₀.aggregates ≠ some t₀.samples) :
    ∃ ys, t₀.Recorded width (es ++ es') t' (xs ++ ys) := by
  cases hp with
  | before hes =>
    refine ⟨[], ?_⟩
    rw [List.append_nil]
    refine h.quiet (records_eq_nil fun e he => ?_) (.refl t) rfl
    rcases hes e he with hr | hr
    all_goals
      rw [hr]
      exact fun _ => rfl
  | @after ms es₁ es₂ finished left htick =>
    obtain ⟨hrest, -⟩ := windUp_quiet (leads_windUp htick hl)
    have hall : records (⟨.rig (.fired t.token), false⟩ :: ⟨.rig .clock, ms⟩ :: (es₁ ++ es₂)) =
        records es₁ := by
      change records (es₁ ++ es₂) = _
      rw [records_append, hrest, List.append_nil]
    rcases tick_records htick with ⟨hnil, -, overload, rfl⟩ | ⟨values, ht⟩
    · refine ⟨[], ?_⟩
      rw [List.append_nil]
      exact h.quiet (hall.trans hnil) ⟨rfl, rfl, rfl⟩ rfl
    · have hx : values.length = width := by
        refine hwide ⟨.act (.readChannels t.mode), (.ok values : Except DeviceFault _)⟩ ?_ values
          rfl
        exact List.mem_cons_of_mem _ (List.mem_cons_of_mem _ (List.mem_append_left _ ht.read))
      obtain ⟨ys, h'⟩ := h.takes ht hx hagg
      refine ⟨ys, ⟨h'.same.trans ⟨rfl, rfl, rfl⟩, h'.series_eq, h'.wide, ?_, ?_, ?_⟩⟩
      · rw [records_append, hall, ← records_append, h'.written_eq]
      · rw [records_append, hall, ← records_append, h'.shown_eq]
      · rw [records_append, hall, ← records_append]
        exact h'.owns

/-- Between ticks, whatever has failed so far, the same samples were put into the series, written
into the file and shown.

**Proof sketch.** Induction on the turns, and one more step for the turn that is under way. -/
theorem recorded_of_boundary {sweep : Option (Sweep Float)}
    (hledger : t₀.ledger = .start width sweep) (hagg : t₀.aggregates ≠ some t₀.samples)
    (hwide : ReadsWide width es) (h : t₀.Boundary es t) : ∃ xs, t₀.Recorded width es t xs := by
  obtain ⟨turns, u, es', rest, hturns, hl, rfl, hp⟩ := h
  have hrounds {turns : List (Ticking × List (Exchange WorkSurroundings))}
      {result : Turn Ticking Ending} (h : Rounds turn t₀ turns result)
      (hwide : ReadsWide width (exchanges turns)) (u : Ticking) (hu : result = .again u) :
      ∃ xs, t₀.Recorded width (exchanges turns) u xs := by
    induction h generalizing u with
    | start =>
      cases hu
      exact ⟨[], recorded_start hledger⟩
    | next h ht ih =>
      subst hu
      rw [exchanges_append, exchanges_singleton] at hwide ⊢
      obtain ⟨xs, hxs⟩ := ih hwide.of_append.1 _ rfl
      obtain ⟨ys, hys⟩ := hxs.pauses ht (pauses_of_ends ht) hwide.of_append.2 hagg
      exact ⟨_, hys⟩
  obtain ⟨xs, hxs⟩ := hrounds hturns hwide.of_append.1 u rfl
  obtain ⟨ys, hys⟩ := hxs.pauses hl hp hwide.of_append.2 hagg
  exact ⟨_, hys⟩

/-! ## Ticks in which something fails -/

/-- If a look at an instrument fails, a tick records nothing, and nothing has changed but the
counters of overloads. -/
theorem tick_of_lookFailed {finished : Bool} (h : (t.tick now).Ends es (finished, t'))
    (hf : ∃ e ∈ es, lookFailed e = true) :
    records es = [] ∧ finished = false ∧ ∃ overload, t' = { t with overload := overload } := by
  rcases tick_records h with hquiet | ⟨values, ht⟩
  · exact hquiet
  · obtain ⟨e, he, hfail⟩ := hf
    rw [ht.looks e he] at hfail
    cases hfail

/-- After a tick that has not finished the sweep there is another one, unless the pause between them
is cut short. -/
lemma again_or_cut {result : Turn Ticking Ending} (h : (t.windUp false).Ends es result) :
    result = .again t ∨ ⟨.rig (.pause t.token t.tuning.tickInterval), false⟩ ∈ es := by
  obtain ⟨es₁, es₂, passed, rfl, h₁, h₂⟩ := ends_bind_iff.1 h
  obtain rfl := ends_request_iff.1 h₁
  cases passed with
  | true =>
    obtain ⟨-, rfl⟩ := ends_pure_iff.1 h₂
    exact .inl rfl
  | false => exact .inr List.mem_cons_self

/-- If a look at an instrument has failed in the tick of a turn, the turn has recorded nothing, and
nothing has changed but counters. Another turn follows unless the pause between them is cut
short. -/
theorem turn_of_lookFailed (hl : t.turn.Leads es rest) (hp : t.Pauses es t')
    (hf : ∃ e ∈ es, lookFailed e = true) :
    records es = [] ∧ t'.ledger = t.ledger ∧ ∀ result, rest = .done result →
      result = .again t' ∨ ⟨.rig (.pause t.token t.tuning.tickInterval), false⟩ ∈ es := by
  obtain ⟨e, he, hfail⟩ := hf
  cases hp with
  | before hes =>
    obtain ⟨r, reply⟩ := e
    rcases hes _ he with rfl | rfl <;> cases hfail
  | @after ms es₁ es₂ finished left htick =>
    have hrest := leads_windUp htick hl
    obtain ⟨hquiet, hlooks⟩ := windUp_quiet hrest
    -- it was in the tick itself that a look failed
    have hmem : e ∈ es₁ := by
      rcases List.mem_cons.1 he with rfl | he
      · cases hfail
      rcases List.mem_cons.1 he with rfl | he
      · cases hfail
      rcases List.mem_append.1 he with he | he
      · exact he
      · rw [hlooks e he] at hfail
        cases hfail
    obtain ⟨hnil, rfl, overload, rfl⟩ := tick_of_lookFailed htick ⟨e, hmem, hfail⟩
    refine ⟨?_, rfl, ?_⟩
    · change records (es₁ ++ es₂) = []
      rw [records_append, hnil, hquiet]
      rfl
    · rintro result rfl
      rcases again_or_cut hrest with hagain | hcut
      · exact .inl hagain
      · refine .inr (List.mem_cons_of_mem _ (List.mem_cons_of_mem _ ?_))
        exact List.mem_append_right _ hcut

end Ticking

end CryoRig.Control
