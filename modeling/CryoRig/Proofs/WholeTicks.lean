import CryoRig.Proofs.SweepFiles

/-!
# Turns that are not cut short

A turn of an acquisition looks at its token, ticks, and pauses. A token that is fired is seen by the
look and ends the pause, and the tick does not concern itself with it. So whoever knows where a turn
was when its token was fired knows what is still to come of it: the rest of its tick, if it was in
one, and after that nothing that touches an instrument or a file.

## Main definitions

* `CryoRig.Control.Ticking.beat`: a tick, as it is carried out on a rig.
* `CryoRig.Control.Ticking.rowsOf`: the rows that a tick writes when it took a sample.
* `CryoRig.Control.Ticking.Whole`: the turns with a whole tick, and those that were stopped before.
* `CryoRig.Control.Ticking.RunsOut`: what comes of a turn once no other one may begin.

## Main results

* `CryoRig.Control.Ticking.rows_of_tick`: a tick writes all of its rows, or none.
* `CryoRig.Control.Ticking.tick_heedless`: it does not concern itself with tokens.
* `CryoRig.Control.Ticking.whole_of_rounds`: an acquisition that is over has gone through whole
  ticks.
* `CryoRig.Control.Ticking.runsOut_of_begun`: an acquisition that begins no tick any more goes to
  the end of the one it is in.
-/

namespace CryoRig.Control

open Process Sampling Rig

namespace Ticking

variable {t t' : Ticking} {file : Nat} {now : Float}

/-! ## The rows of a tick -/

section Rows

variable {es : List (Exchange WorkSurroundings)}

/-- The rows that are written into a file for a verdict that closes a step. -/
def closedRows (t : Ticking) (file : Nat) (verdict : Verdict) : List String :=
  match verdict.closed with
  | none => []
  | some (target, aggregates) =>
    if t.aggregates = some file then [Table.values target (aggregates.flatMap Aggregate.entries)]
    else []

/-- The rows that a tick writes into a file when it took a sample: that of the sample if it is kept,
and that of the aggregates if a step is closed. -/
def rowsOf (t : Ticking) (file : Nat) (x : Sample) : List String :=
  let verdict := (t.ledger.take x).1
  (if verdict.keep ∧ t.samples = file then [sampleRow x] else []) ++ t.closedRows file verdict

lemma rows_of_writeStep {parameter : Parameter} {target : Float} {aggregates : List Aggregate}
    {u : Unit} (h : (t.writeStep parameter target aggregates).Ends es u) : rows file es =
      if t.aggregates = some file then [Table.values target (aggregates.flatMap Aggregate.entries)]
      else [] := by
  cases ha : t.aggregates with
  | some file' =>
    rw [rows, writeStep_sightings ha h]
    by_cases hf : file' = file <;> simp [Sighting.row?, hf]
  | none =>
    simp only [writeStep, ha] at h
    obtain rfl := ends_request_iff.1 h
    rfl

lemma rows_of_followUp {parameter : Parameter} {verdict : Verdict}
    (h : (t.followUp parameter verdict).Ends es t') :
    rows file es = t.closedRows file verdict := by
  rw [followUp_eq] at h
  obtain ⟨es₁, es₂, _, rfl, hwrite, henter⟩ := ends_bind_iff.1 h
  have hclosed : rows file es₁ = t.closedRows file verdict := by
    unfold writeClosed at hwrite
    unfold closedRows
    cases hc : verdict.closed with
    | none =>
      simp only [hc] at hwrite
      rw [(ends_pure_iff.1 hwrite).1]
      rfl
    | some c =>
      simp only [hc] at hwrite
      exact rows_of_writeStep hwrite
  -- the device is told of a target, or of none, and that writes no row
  have hentered : rows file es₂ = [] := by
    unfold enterNext at henter
    split at henter
    · rcases enterStep_sightings henter with ⟨hs, -⟩ | ⟨hs, -⟩ <;> rw [rows, hs] <;> rfl
    · rw [(ends_pure_iff.1 henter).1]
      rfl
  rw [rows_append, hclosed, hentered, List.append_nil]

/-- Without a sweep no step is closed. -/
lemma closed_of_sweep {x : Sample} (h : (t.ledger.take x).2.sweep = none) :
    (t.ledger.take x).1.closed = none := by
  unfold Ledger.take at h ⊢
  cases hs : t.ledger.sweep with
  | none => rfl
  | some sweep =>
    rw [hs] at h
    cases h

/-- What follows the verdict on a sample writes the row of the step that is closed. -/
lemma rows_of_afterVerdict {x : Sample} {overload : OverloadMonitor} {finished : Bool}
    (h : ((t.taking x overload).afterVerdict (t.ledger.take x).1).Ends es (finished, t')) :
    rows file es = t.closedRows file (t.ledger.take x).1 := by
  cases hs : (t.ledger.take x).2.sweep with
  | none =>
    obtain ⟨rfl, -⟩ := ends_afterVerdict_none hs h
    rw [closedRows, closed_of_sweep hs]
    rfl
  | some sweep =>
    exact rows_of_followUp (t := t.taking x overload) (ends_afterVerdict_some hs h).2

/-- **A tick writes all of its rows, or none.** Either something failed before a sample was taken,
or the rows are those of its sample. -/
theorem rows_of_tick {finished : Bool} (h : (t.tick now).Ends es (finished, t')) :
    ∃ x? : Option Sample, ∀ file, rows file es = x?.elim [] (t.rowsOf file) := by
  have hlook {es : List (Exchange WorkSurroundings)}
      {read : Except DeviceFault (List (Option Float)) × OverloadMonitor}
      (h : t.acquire.Ends es read) (file : Nat) : rows file es = [] := by
    rcases acquire_sightings h with ⟨values, -, hs⟩ | ⟨fault, -, hs⟩ <;> rw [rows, hs] <;> rfl
  cases tickGoes_of_ends h with
  | failed hread =>
    refine ⟨none, fun file => ?_⟩
    rw [rows_append, hlook hread]
    rfl
  | @taken values overload es₁ es₂ es₃ _ _ hread hkeep hrest =>
    refine ⟨some ⟨now, values⟩, fun file => ?_⟩
    rw [rows_append, rows_append, hlook hread, List.nil_append, rows_of_afterVerdict hrest,
      Option.elim_some, rowsOf]
    congr 1
    rw [rows, retain_sightings hkeep]
    cases (t.ledger.take ⟨now, values⟩).1.keep with
    | true => by_cases hf : t.samples = file <;> simp [hf, Sighting.row?, sampleRow]
    | false => simp

end Rows

end Ticking

/-! ## What a tick has in mind -/

/-- A request that no token has a say in. -/
def Request.Heedless : Request → Prop
  | .fired _ | .pause .. => False
  | _ => True

lemma WorkRequest.Tends.heedless (r : WorkRequest) (h : r.Tends) : r.Asks Request.Heedless := by
  cases r with
  | act => trivial
  | rig r => cases r <;> trivial

lemma Station.heedless (s : Station) (a : Action) : (s.site.perform a).AsksOnly Request.Heedless := by
  cases s with
  | bench => exact ⟨trivial, fun _ => trivial⟩
  | facility f =>
    change ((f.site.perform a).translate ofDriver).AsksOnly _
    induction f.site.perform a with
    | done => trivial
    | ask r next ih => exact ⟨trivial, ih⟩

namespace Ticking

variable {t t' : Ticking} {file : Nat} {now : Float}

lemma FollowsUp.heedless (r : WorkRequest) (h : t.FollowsUp r) : r.Asks Request.Heedless := by
  cases r with
  | act => trivial
  | rig r => cases r <;> trivial

lemma log_heedless (event : Event) : (log event).AsksOnly (WorkRequest.Asks Request.Heedless) :=
  asksOnly_request.2 trivial

lemma acquire_heedless : t.acquire.AsksOnly (WorkRequest.Asks Request.Heedless) :=
  acquire_asksOnly (fun _ _ => (checkLockins_tends _ _).mono WorkRequest.Tends.heedless) trivial

lemma commit_heedless (x : Sample) : (t.commit x).AsksOnly (WorkRequest.Asks Request.Heedless) := by
  refine AsksOnly.bind (asksOnly_request.2 trivial) fun written => ?_
  match written with
  | .ok _ => exact asksOnly_request.2 trivial
  | .error _ => exact (log_heedless _).bind fun _ => asksOnly_request.2 trivial

/-- A tick does not concern itself with tokens: it neither looks at one nor pauses. -/
theorem tick_heedless : (t.tick now).AsksOnly (WorkRequest.Asks Request.Heedless) := by
  rw [tick_eq]
  refine acquire_heedless.bind fun read => ?_
  rcases read with ⟨fault | values, overload⟩
  · exact (log_heedless _).bind fun _ => trivial
  refine AsksOnly.bind ?_ fun _ => ?_
  · unfold retain
    split
    · exact commit_heedless _
    · trivial
  · unfold afterVerdict
    split
    · trivial
    · exact (followUp_followsUp.asksOnly.mono FollowsUp.heedless).bind fun _ => trivial

/-! ## Turns on a rig -/

section Turns

variable {site : Site RigSurroundings} {es es' : List (Exchange RigSurroundings)}
  {left : RigWork (Turn Ticking Ending)} {finished : Bool}

/-- A tick on a rig, from its look at the clock on: whether it ends the sweep, and what is
remembered after it. -/
def beat (site : Site RigSurroundings) (t : Ticking) : RigWork (Bool × Ticking) := do
  let ms ← Process.request (I := RigSurroundings) .clock
  let (finished, left) ← carryOut site (t.tick (t.timeAt ms))
  pure (finished, t.afterTick ms left)

/-- What comes after a tick on a rig: that the sweep has finished is reported, or it is paused. -/
def rest (site : Site RigSurroundings) (x : Bool × Ticking) : RigWork (Turn Ticking Ending) :=
  carryOut site (x.2.windUp x.1)

/-- A turn on a rig. -/
def turnOn (site : Site RigSurroundings) (t : Ticking) : RigWork (Turn Ticking Ending) :=
  carryOut site t.turn

lemma turnOn_eq (site : Site RigSurroundings) (t : Ticking) :
    t.turnOn site = .ask (.fired t.token) fun (isFired : Bool) =>
      if isFired then pure (.over .acquisition) else t.beat site >>= rest site := by
  rw [turnOn, turn_eq]
  change Process.ask _ _ = Process.ask _ _
  congr 1
  funext isFired
  cases isFired with
  | true => rfl
  | false =>
    change Process.ask _ _ = Process.ask _ _
    congr 1
    funext ms
    change carryOut site (t.tick (t.timeAt ms) >>= fun x => (t.afterTick ms x.2).windUp x.1) =
      (carryOut site (t.tick (t.timeAt ms)) >>= fun x =>
        pure (x.1, t.afterTick ms x.2)) >>= rest site
    rw [carryOut_bind, LawfulMonad.bind_assoc]
    rfl

/-- A turn that is over began no tick, or it went through its tick; and then it has looked at its
token, has paused, or has reported the end of the sweep. -/
inductive Closes (token : Nat) : Exchange RigSurroundings → Prop where
  /-- The token was fired. -/
  | looks : Closes token ⟨.fired token, true⟩
  /-- The pause was cut short. -/
  | cut (span : Duration) : Closes token ⟨.pause token span, false⟩
  /-- The sweep has finished. -/
  | finishes (attempted : Nat) : Closes token ⟨.device (.log (.sweepFinished attempted)), ()⟩

/-- After a tick there is one request at most. Either a whole pause has passed and there is another
turn, or the acquisition is over. -/
lemma rest_cases (h : (rest site (finished, t)).Leads es left) :
    es = [] ∨ ∃ e, es = [e] ∧
      ((e = ⟨.pause t.token t.tuning.tickInterval, true⟩ ∧ left = .done (.again t)) ∨
        (Closes t.token e ∧ left = .done (.over .acquisition))) := by
  cases finished with
  | true =>
    have hrest : rest site (true, t) = .ask (.device (.log (.sweepFinished t.attempted)))
        fun _ => .done (.over .acquisition) := rfl
    rw [hrest] at h
    rcases leads_ask_iff.1 h with ⟨rfl, -⟩ | ⟨_, _, rfl, hl⟩
    · exact .inl rfl
    · obtain ⟨rfl, rfl⟩ := leads_done_iff.1 hl
      exact .inr ⟨_, rfl, .inr ⟨.finishes _, rfl⟩⟩
  | false =>
    have hrest : rest site (false, t) = .ask (.pause t.token t.tuning.tickInterval)
        fun (passed : Bool) => carryOut site
          (if passed then pure (.again t) else pure (.over .acquisition)) := rfl
    rw [hrest] at h
    rcases leads_ask_iff.1 h with ⟨rfl, -⟩ | ⟨passed, _, rfl, hl⟩
    · exact .inl rfl
    cases passed with
    | true =>
      obtain ⟨rfl, rfl⟩ := leads_done_iff.1 hl
      exact .inr ⟨_, rfl, .inl ⟨rfl, rfl⟩⟩
    | false =>
      obtain ⟨rfl, rfl⟩ := leads_done_iff.1 hl
      exact .inr ⟨_, rfl, .inr ⟨.cut _, rfl⟩⟩

/-- A tick is a look at the clock, and then what a tick does at that time. -/
lemma ends_beat_iff : (t.beat site).Ends es (finished, t') ↔ ∃ ms ws es' left,
    es = ⟨.clock, ms⟩ :: es' ∧ CarriedOut site ws es' ∧
      (t.tick (t.timeAt ms)).Ends ws (finished, left) ∧ t' = t.afterTick ms left := by
  constructor
  · intro h
    obtain ⟨es₁, es₂, ms, rfl, h₁, h₂⟩ := ends_bind_iff.1 h
    obtain rfl := ends_request_iff.1 h₁
    obtain ⟨es₃, es₄, ⟨finished', left⟩, rfl, h₃, h₄⟩ := ends_bind_iff.1 h₂
    obtain ⟨rfl, he⟩ := ends_pure_iff.1 h₄
    cases he
    obtain ⟨ws, hout, htick⟩ := ends_carryOut_iff.1 h₃
    rw [List.append_nil]
    exact ⟨ms, ws, es₃, left, rfl, hout, htick, rfl⟩
  · rintro ⟨ms, ws, es', left, rfl, hout, htick, rfl⟩
    refine ends_bind_iff.2 ⟨_, es', ms, rfl, ends_request_iff.2 rfl, ?_⟩
    refine ends_bind_iff.2 ⟨es', [], _, (List.append_nil _).symm,
      ends_carryOut_iff.2 ⟨ws, hout, htick⟩, ends_pure_iff.2 ⟨rfl, rfl⟩⟩

/-- Nor does it on a rig. -/
lemma beat_heedless (s : Station) (t : Ticking) : (t.beat s.site).AsksOnly Request.Heedless := by
  refine AsksOnly.bind (asksOnly_request.2 trivial) fun ms => ?_
  refine AsksOnly.bind (tick_heedless.translate fun r hr => ?_) fun _ => trivial
  cases r with
  | rig r => exact asksOnly_request.2 hr
  | act a => exact s.heedless a

lemma same_of_beat (h : (t.beat site).Ends es (finished, t')) : t.Same t' := by
  obtain ⟨ms, ws, es', left, -, -, htick, rfl⟩ := ends_beat_iff.1 h
  rcases tick_records htick with ⟨-, -, overload, rfl⟩ | ⟨values, ht⟩
  · exact ⟨rfl, rfl, rfl⟩
  · exact ht.same.trans ⟨rfl, rfl, rfl⟩

/-- A turn is in a tick: it has looked at its token and goes through the tick. -/
def InTick (site : Site RigSurroundings) (t : Ticking) (es : List (Exchange RigSurroundings))
    (left : RigWork (Bool × Ticking)) : Prop :=
  ∃ during, es = ⟨.fired t.token, false⟩ :: during ∧ (t.beat site).Leads during left

/-- A turn is in no tick: it has yet to look at its token, it has found that the token was fired, or
its tick is over. -/
def OutOfTick (site : Site RigSurroundings) (t : Ticking)
    (es : List (Exchange RigSurroundings)) : Prop :=
  es = [] ∨ es = [⟨.fired t.token, true⟩] ∨ ∃ during finished t' more,
    es = ⟨.fired t.token, false⟩ :: (during ++ more) ∧ (t.beat site).Ends during (finished, t')

/-- A turn that has gone through a whole tick, or has begun none as its token was fired. -/
def Whole (site : Site RigSurroundings) (t : Ticking) (es : List (Exchange RigSurroundings)) :
    Prop :=
  es = [⟨.fired t.token, true⟩] ∨ ∃ during e finished t',
    es = ⟨.fired t.token, false⟩ :: (during ++ [e]) ∧
      (t.beat site).Ends during (finished, t') ∧
      (e = ⟨.pause t.token t'.tuning.tickInterval, true⟩ ∨ Closes t.token e)

/-- A turn has yet to look at its token, has found that it was fired, is in its tick, or has gone
through it. -/
lemma turnOn_cases (h : (t.turnOn site).Leads es left) :
    (es = [] ∧ left = t.turnOn site) ∨
    (es = [⟨.fired t.token, true⟩] ∧ left = .done (.over .acquisition)) ∨
    (∃ left', t.InTick site es left' ∧ left = left' >>= rest site) ∨
    ∃ during finished t' more, es = ⟨.fired t.token, false⟩ :: (during ++ more) ∧
      (t.beat site).Ends during (finished, t') ∧ (rest site (finished, t')).Leads more left := by
  rw [turnOn_eq] at h ⊢
  rcases leads_ask_iff.1 h with ⟨rfl, rfl⟩ | ⟨isFired, es', rfl, hl⟩
  · exact .inl ⟨rfl, rfl⟩
  cases isFired with
  | true =>
    obtain ⟨rfl, rfl⟩ := leads_done_iff.1 hl
    exact .inr (.inl ⟨rfl, rfl⟩)
  | false =>
    rcases leads_bind_cases hl with ⟨left', hl', rfl⟩ | ⟨es₁, es₂, ⟨finished, t'⟩, rfl, hend, hr⟩
    · exact .inr (.inr (.inl ⟨left', ⟨es', rfl, hl'⟩, rfl⟩))
    · exact .inr (.inr (.inr ⟨es₁, finished, t', es₂, rfl, hend, hr⟩))

/-- What comes after a tick does not come to its end at once. -/
lemma rest_ne_done (x : Bool × Ticking) (result : Turn Ticking Ending) :
    rest site x ≠ .done result := by
  obtain ⟨finished, t⟩ := x
  cases finished <;> exact fun h => by cases h

/-- In a tick a turn is not over. -/
lemma bind_rest_ne_done (left : RigWork (Bool × Ticking)) (result : Turn Ticking Ending) :
    left >>= rest site ≠ .done result := by
  cases left with
  | done x => exact rest_ne_done x result
  | ask r next => exact fun h => by cases h

/-- A turn that is over has gone through a whole tick or has begun none. If there is another turn, a
whole pause has passed. -/
lemma whole_of_ends {result : Turn Ticking Ending} (h : (t.turnOn site).Ends es result) :
    t.Whole site es ∧ (result = .over .acquisition ∨ ∃ t' span init, result = .again t' ∧
      t.Same t' ∧ es = init ++ [⟨.pause t.token span, true⟩]) := by
  rcases turnOn_cases h with ⟨-, hdone⟩ | ⟨rfl, hdone⟩ | ⟨left', -, hdone⟩ |
    ⟨during, finished, t', more, rfl, hend, hr⟩
  · rw [turnOn_eq] at hdone
    cases hdone
  · cases hdone
    exact ⟨.inl rfl, .inl rfl⟩
  · exact absurd hdone.symm (bind_rest_ne_done left' result)
  · have hsame := same_of_beat hend
    rcases rest_cases hr with rfl | ⟨e, rfl, ⟨rfl, hdone⟩ | ⟨hcloses, hdone⟩⟩
    · exact absurd (eq_of_leads_nil hr).symm (rest_ne_done _ result)
    · cases hdone
      rw [hsame.token]
      exact ⟨.inr ⟨during, _, finished, t', rfl, hend, .inl rfl⟩,
        .inr ⟨t', _, _, rfl, hsame, (List.cons_append ..).symm⟩⟩
    · cases hdone
      rw [hsame.token] at hcloses
      exact ⟨.inr ⟨during, e, finished, t', rfl, hend, .inr hcloses⟩, .inl rfl⟩

/-! ## The turns of an acquisition -/

variable {t₀ : Ticking} {turns : List (Ticking × List (Exchange RigSurroundings))}
  {result : Turn Ticking Ending} {work : RigWork (Turn Ticking Ending)}

/-- An acquisition goes through turns with whole ticks, and only the last of them may have begun
none. While it goes on, a whole pause has passed last. -/
theorem whole_of_rounds (h : Rounds (turnOn site) t₀ turns result) :
    (∀ turn ∈ turns, turn.1.Whole site turn.2) ∧ (result = .over .acquisition ∨
      ∃ t, result = .again t ∧ t₀.Same t ∧ (turns = [] ∨ ∃ init span,
        exchanges turns = init ++ [⟨.pause t₀.token span, true⟩])) := by
  induction h with
  | start => exact ⟨List.forall_mem_nil _, .inr ⟨t₀, rfl, .refl t₀, .inl rfl⟩⟩
  | @next turns t es result h ht ih =>
    obtain ⟨hall, hover | ⟨u, hu, hsame, -⟩⟩ := ih
    · cases hover
    cases hu
    obtain ⟨hwhole, hresult⟩ := whole_of_ends ht
    refine ⟨List.forall_mem_append.2 ⟨hall, List.forall_mem_singleton.2 hwhole⟩, ?_⟩
    refine hresult.imp_right ?_
    rintro ⟨t', span, init, rfl, hsame', rfl⟩
    refine ⟨t', rfl, hsame.trans hsame', .inr ⟨exchanges turns ++ init, span, ?_⟩⟩
    rw [exchanges_append, exchanges_singleton, hsame.token, List.append_assoc]

/-- What comes of a turn that has come somewhere with some exchanges, if after that no tick begins
and no pause comes to its end; `work` is what is left of it. -/
inductive RunsOut (site : Site RigSurroundings) (t : Ticking)
    (es : List (Exchange RigSurroundings)) :
    List (Exchange RigSurroundings) → RigWork (Turn Ticking Ending) → Prop where
  /-- It was in no tick, and nothing is asked of an instrument or a file. -/
  | outside (last? : Option (Exchange RigSurroundings)) {work : RigWork (Turn Ticking Ending)}
    (h : t.OutOfTick site es) (hlast : ∀ e ∈ last?, Closes t.token e) :
    RunsOut site t es last?.toList work
  /-- It was in a tick, and still is. -/
  | inside {left left' : RigWork (Bool × Ticking)} {es' : List (Exchange RigSurroundings)}
    (h : t.InTick site es left) (hl : left.Leads es' left') :
    RunsOut site t es es' (left' >>= rest site)
  /-- It was in a tick and has gone through the rest of it. -/
  | through {left : RigWork (Bool × Ticking)} {es' : List (Exchange RigSurroundings)}
    {x : Bool × Ticking} {last? : Option (Exchange RigSurroundings)}
    {work : RigWork (Turn Ticking Ending)} (h : t.InTick site es left) (hend : left.Ends es' x)
    (hlast : ∀ e ∈ last?, Closes t.token e) : RunsOut site t es (es' ++ last?.toList) work

/-- Whoever begins no tick and has no pause come to its end. -/
def Subsides (token : Nat) (es : List (Exchange RigSurroundings)) : Prop :=
  ∀ e ∈ es, e ≠ ⟨.fired token, false⟩ ∧ ∀ span, e ≠ ⟨.pause token span, true⟩

/-- A turn runs out if no tick begins and no pause comes to its end. -/
lemma runsOut_of_leads (h : (t.turnOn site).Leads (es ++ es') work)
    (hsub : Subsides t.token es') : t.RunsOut site es es' work := by
  rcases turnOn_cases h with ⟨hnil, -⟩ | ⟨hone, -⟩ | ⟨left', ⟨during, hes, hl⟩, rfl⟩ |
    ⟨during, finished, t', more, hes, hend, hr⟩
  · obtain ⟨rfl, rfl⟩ := List.append_eq_nil_iff.1 hnil
    exact .outside none (.inl rfl) (by simp)
  · rcases List.append_eq_singleton_iff.1 hone with ⟨rfl, rfl⟩ | ⟨rfl, rfl⟩
    · refine .outside (some _) (.inl rfl) ?_
      rintro _ ⟨⟩
      exact .looks
    · exact .outside none (.inr (.inl rfl)) (by simp)
  · cases es with
    | nil =>
      rw [List.nil_append] at hes
      exact absurd rfl (hsub _ (hes ▸ List.mem_cons_self)).1
    | cons e es =>
      rw [List.cons_append, List.cons.injEq] at hes
      obtain ⟨rfl, rfl⟩ := hes
      obtain ⟨left, hleft, hrest⟩ := hl.split
      exact .inside ⟨es, rfl, hleft⟩ hrest
  · cases es with
    | nil =>
      rw [List.nil_append] at hes
      exact absurd rfl (hsub _ (hes ▸ List.mem_cons_self)).1
    | cons e es =>
      rw [List.cons_append, List.cons.injEq] at hes
      obtain ⟨rfl, hes⟩ := hes
      have hlast {last : List (Exchange RigSurroundings)} (hm : last <:+ more)
          (hl : Subsides t.token last) :
          ∃ last? : Option (Exchange RigSurroundings), last = last?.toList ∧
            ∀ e ∈ last?, Closes t.token e := by
        rcases rest_cases hr with rfl | ⟨e, rfl, he⟩
        · exact ⟨none, List.suffix_nil.1 hm, by simp⟩
        rcases List.suffix_cons_iff.1 hm with rfl | hnil
        · refine ⟨some e, rfl, ?_⟩
          rintro _ ⟨⟩
          rw [← (same_of_beat hend).token]
          rcases he with ⟨rfl, -⟩ | ⟨hcloses, -⟩
          · rw [(same_of_beat hend).token] at hl
            exact absurd rfl ((hl _ List.mem_cons_self).2 _)
          · exact hcloses
        · exact ⟨none, List.suffix_nil.1 hnil, by simp⟩
      rcases List.append_eq_append_iff.1 hes with ⟨zs, rfl, rfl⟩ | ⟨zs, rfl, rfl⟩
      · obtain ⟨left, hleft, hrest⟩ := Leads.split hend
        obtain ⟨last?, rfl, hcloses⟩ := hlast (List.suffix_refl more)
          fun e he => hsub e (List.mem_append_right _ he)
        exact .through ⟨es, rfl, hleft⟩ hrest hcloses
      · obtain ⟨last?, rfl, hcloses⟩ := hlast ⟨zs, rfl⟩ hsub
        exact .outside last? (.inr (.inr ⟨during, finished, t', zs, rfl, hend⟩)) hcloses

/-- **An acquisition that begins no tick any more goes to the end of the one it is in.** -/
theorem runsOut_of_begun (h : Begun (turnOn site) t₀ (es ++ es') work)
    (hsub : Subsides t₀.token es') :
    ∃ turns t during, Rounds (turnOn site) t₀ turns (.again t) ∧
      es = exchanges turns ++ during ∧ t.RunsOut site during es' work := by
  rcases h with ⟨hnil, -⟩ | ⟨turns, t, during, hrounds, hl, hes⟩
  · obtain ⟨rfl, rfl⟩ := List.append_eq_nil_iff.1 hnil
    exact ⟨[], t₀, [], .start, rfl, .outside none (.inl rfl) (by simp)⟩
  obtain ⟨-, hover | ⟨t', ht', hsame, hpause⟩⟩ := whole_of_rounds hrounds
  · cases hover
  cases ht'
  rcases List.append_eq_append_iff.1 hes with ⟨zs, hturns, rfl⟩ | ⟨zs, rfl, rfl⟩
  · -- a whole turn ends with a pause that has passed, so the turns were over before
    rcases List.eq_nil_or_concat zs with rfl | ⟨zs, e, rfl⟩
    · rw [List.append_nil] at hturns
      refine ⟨turns, t, [], hrounds, by rw [hturns, List.append_nil], ?_⟩
      exact runsOut_of_leads hl fun e he => hsame.token ▸ hsub e he
    · rcases hpause with rfl | ⟨init, span, hlast⟩
      · simp at hturns
      · rw [hturns, List.concat_eq_append, ← List.append_assoc] at hlast
        obtain ⟨-, he⟩ := List.append_inj' hlast rfl
        cases he
        exact absurd rfl ((hsub _ (by simp)).2 span)
  · exact ⟨turns, t, zs, hrounds, rfl, runsOut_of_leads hl
      fun e he => hsame.token ▸ hsub e he⟩

end Turns

/-! ## Acquisitions among other jobs -/

section Jobs

variable {site : Site RigSurroundings} {t₀ : Ticking} {es : List (Exchange RigSurroundings)}

lemma turnOf_ticking (site : Site RigSurroundings) (t : Ticking) :
    turnOf site (.ticking t) = mapTurn .ticking <$> t.turnOn site := by
  rw [turnOf, carryOut_bind, ← bind_pure_comp]
  rfl

/-- The turns of an acquisition are those of its job. -/
lemma exists_rounds_of_job {turns : List (Job × List (Exchange RigSurroundings))}
    {result : Turn Job Ending} (h : Rounds (turnOf site) (.ticking t₀) turns result) :
    ∃ own ended, Rounds (turnOn site) t₀ own ended ∧ result = mapTurn .ticking ended ∧
      exchanges turns = exchanges own := by
  induction h with
  | start => exact ⟨[], .again t₀, .start, rfl, rfl⟩
  | @next turns job es result _ ht ih =>
    obtain ⟨own, ended, hrounds, hjob, hes⟩ := ih
    obtain ⟨t, rfl, rfl⟩ : ∃ t, ended = .again t ∧ job = .ticking t := by
      cases ended with
      | again t => exact ⟨t, rfl, Turn.again.inj hjob⟩
      | _ => cases hjob
    rw [turnOf_ticking] at ht
    obtain ⟨ended, hended, rfl⟩ := ends_map_iff.1 ht
    exact ⟨_, _, hrounds.next hended, rfl, by simp [hes]⟩

/-- An acquisition has come as far as its job. -/
lemma exists_begun_of_job {work : RigWork (Turn Job Ending)}
    (h : Begun (turnOf site) (.ticking t₀) es work) :
    ∃ own, Begun (turnOn site) t₀ es own ∧ work = mapTurn .ticking <$> own := by
  rcases h with ⟨rfl, rfl⟩ | ⟨turns, job, during, hrounds, hl, rfl⟩
  · exact ⟨.done (.again t₀), .inl ⟨rfl, rfl⟩, rfl⟩
  obtain ⟨own, ended, hown, hjob, hes⟩ := exists_rounds_of_job hrounds
  obtain ⟨t, rfl, rfl⟩ : ∃ t, ended = .again t ∧ job = .ticking t := by
    cases ended with
    | again t => exact ⟨t, rfl, Turn.again.inj hjob⟩
    | _ => cases hjob
  rw [turnOf_ticking] at hl
  obtain ⟨left, hleft, rfl⟩ := exists_of_leads_map hl
  exact ⟨left, .inr ⟨own, t, during, hown, hleft, by rw [hes]⟩, rfl⟩

/-- When its job has ended, an acquisition is over. -/
lemma exists_over_of_job {turns : List (Job × List (Exchange RigSurroundings))} {ending : Ending}
    (h : Rounds (turnOf site) (.ticking t₀) turns (.over ending)) : ending = .acquisition ∧
      ∃ own, Rounds (turnOn site) t₀ own (.over .acquisition) ∧ exchanges turns = exchanges own := by
  obtain ⟨own, ended, hown, hended, hes⟩ := exists_rounds_of_job h
  obtain ⟨-, rfl | ⟨t, rfl, -⟩⟩ := whole_of_rounds hown
  · cases hended
    exact ⟨rfl, own, hown, hes⟩
  · cases hended

end Jobs

end Ticking

end CryoRig.Control
