import CryoRig.Proofs.CollectedResults
import CryoRig.Proofs.WholeTicks

/-!
# Acquisitions that are stopped

Whenever the token of an acquisition is fired, in the midst of a tick or between two of them, no
tick begins any more, and one that is in progress goes on to its end. So the acquisition ends
between ticks, and what it has written are the rows of whole ticks. Whoever was told that it has
ended may be sure that it asks for nothing any more.

## Main results

* `CryoRig.Control.Ticking.exists_rows_of_whole`: the rows of a turn are those of one sample, or
  there are none.
* `CryoRig.Rig.Scene.Goes.ending?`: a job that has ended stays so.
* `CryoRig.Rig.Scene.stopped_between_ticks`: an acquisition whose token was fired ends between
  ticks.
-/

namespace CryoRig

open Process

namespace Control

open Sampling

/-! ## The rows of whole turns -/

namespace Ticking

variable {s : Station} {t : Ticking} {es : List (Exchange RigSurroundings)}

lemma exists_rows_of_beat {x : Bool × Ticking} (h : (t.beat s.site).Ends es x) :
    ∃ x? : Option Sample, ∀ file, appended file es = x?.elim [] (t.rowsOf file) := by
  obtain ⟨ms, ws, es', left, rfl, hout, htick, -⟩ := ends_beat_iff.1 h
  obtain ⟨x?, hrows⟩ := rows_of_tick htick
  refine ⟨x?, fun file => ?_⟩
  rw [← hrows, ← appended_of_carriedOut hout]
  rfl

/-- What is told to a turn after its tick is of no file. -/
lemma Closes.appended_eq {token file : Nat} {e : Exchange RigSurroundings} (h : Closes token e) :
    appended file [e] = [] := by
  cases h <;> rfl

/-- In a turn with a whole tick the rows of its sample are written, all of them, or none if there is
no sample. In a turn without a tick nothing is written. -/
theorem exists_rows_of_whole (h : t.Whole s.site es) :
    ∃ x? : Option Sample, ∀ file, appended file es = x?.elim [] (t.rowsOf file) := by
  rcases h with rfl | ⟨during, e, finished, t', rfl, hend, he⟩
  · exact ⟨none, fun _ => rfl⟩
  obtain ⟨x?, hrows⟩ := exists_rows_of_beat hend
  refine ⟨x?, fun file => ?_⟩
  have hlast : appended file [e] = [] := by
    rcases he with rfl | hcloses
    · rfl
    · exact hcloses.appended_eq
  rw [← hrows]
  change appended file (during ++ [e]) = _
  rw [appended_append, hlast, List.append_nil]

end Ticking

lemma appended_exchanges {σ : Type} (file : Nat)
    (turns : List (σ × List (Exchange RigSurroundings))) :
    appended file (exchanges turns) = turns.flatMap fun turn => appended file turn.2 := by
  induction turns with
  | nil => rfl
  | cons turn turns ih =>
    rw [List.flatMap_cons, ← ih, ← appended_append]
    rfl

/-- To have stopped an acquisition is to have been told that its job has ended. -/
lemma exists_joined_of_stop {site : Site RigSurroundings} {a : Acquisition} {limit : Duration}
    {es : List (Exchange RigSurroundings)} (h : (carryOut site (a.stop limit)).Ends es true) :
    ∃ first until? ending more, es =
      first ++ ⟨.join a.job until?, (some ending : Option Ending)⟩ :: more := by
  obtain ⟨ws, hout, hwork⟩ := ends_carryOut_iff.1 h
  obtain ⟨ws₁, ws₂, _, rfl, -, h₂⟩ := ends_bind_iff.1 hwork
  obtain ⟨ws₃, ws₄, moment, rfl, -, h₄⟩ := ends_bind_iff.1 h₂
  obtain ⟨ws₅, ws₆, ending?, rfl, h₅, h₆⟩ := ends_bind_iff.1 h₄
  obtain rfl := ends_request_iff.1 h₅
  cases ending? with
  | none =>
    obtain ⟨_, _, _, -, -, h₈⟩ := ends_bind_iff.1 h₆
    obtain ⟨-, hfalse⟩ := ends_pure_iff.1 h₈
    cases hfalse
  | some ending =>
    obtain ⟨es₁, es₂, rfl, -, hout₂⟩ := carriedOut_append_iff.1 hout
    obtain ⟨es₃, es₄, rfl, -, hout₄⟩ := carriedOut_append_iff.1 hout₂
    obtain ⟨es₅, rfl, -⟩ := carriedOut_rig_iff.1 hout₄
    exact ⟨es₁ ++ es₃, _, ending, es₅, by rw [List.append_assoc]⟩

end Control

namespace Rig

open Control Sampling

variable {α : Type}

namespace Scene

/-! ## Jobs that have ended -/

section Ended

variable {site : Site RigSurroundings} {c d : Scene α} {k : Nat} {ending : Ending} {r : Request}

/-- A job that has ended stays so. -/
lemma Goes.ending? (h : c.Goes site d) (hk : c.state.ending? k = some ending) :
    d.state.ending? k = some ending := by
  cases h with
  | step h =>
    obtain ⟨asked, reply?, hp⟩ := proceeds_of_step h
    exact hp.ending? hk
  | drift _ _ _ hs =>
    obtain ⟨_, _, _, _, _, rfl⟩ := hs
    exact hk
  | stay => exact hk

/-- It asks for nothing. -/
lemma not_asks_of_ending? (hk : c.state.ending? k = some ending) : ¬c.Asks (.job k) r := by
  intro ha
  obtain ⟨next, hat⟩ := ha.at?
  rw [ending?_eq_none hat] at hk
  cases hk

end Ended

section Courses

variable {s : Station} {c : Nat → Scene α} {l m n j k token : Nat} {p : Party}
  {t₀ : Ticking} {before after : List (Party × Exchange RigSurroundings)} {ending : Ending}

lemma ending?_of_le (hgoes : ∀ n, (c n).Goes s.site (c (n + 1)))
    (hk : (c m).state.ending? k = some ending) (hmn : m ≤ n) :
    (c n).state.ending? k = some ending := by
  induction hmn with
  | refl => exact hk
  | step _ ih => exact (hgoes _).ending? ih

/-- Who looks at a token that was fired finds that. -/
lemma not_hears_fired (hgoes : ∀ n, (c n).Goes s.site (c (n + 1)))
    (hf : (c m).state.isFired token = true) (hmn : m ≤ n) :
    ¬Hears s.site c n p ⟨.fired token, false⟩ := by
  rintro ⟨-, asked, hp⟩
  obtain ⟨u, v, alarm, ha, htokens, -, -⟩ := hp.exists_answer
  have hu : u.isFired token = true := by
    rw [State.isFired, htokens]
    exact isFired_of_le hgoes hf hmn
  simp only [State.answer?, hu] at ha
  cases ha

/-- Whoever has a token that was fired begins no tick, and no pause of it comes to its end. -/
lemma Tells.subsides (hgoes : ∀ n, (c n).Goes s.site (c (n + 1)))
    (hf : (c n).state.isFired token = true) (h : Tells s.site c n j after) :
    Ticking.Subsides token (toldTo p after) := by
  intro e he
  obtain ⟨es, es', hes⟩ := List.append_of_mem he
  obtain ⟨m, -, -, hnm, -, -, -, hm, -⟩ := h.split_toldTo es hes
  constructor
  · rintro rfl
    exact not_hears_fired hgoes hf hnm hm
  · rintro span rfl
    exact not_hears_of_isFired hgoes hnm hf span hm

/-- A job that has ended is told nothing. -/
lemma not_hears_of_ending? {e : Exchange RigSurroundings}
    (hk : (c m).state.ending? k = some ending) : ¬Hears s.site c m (.job k) e := by
  rintro ⟨-, asked, hp⟩
  obtain ⟨d, f, hd, hf, -, -⟩ := hp.happens
  obtain ⟨hnone, hlt⟩ := at?_of_ending? hk
  obtain ⟨hnone, hlt, -⟩ := hd.over hnone hlt
  have htold := (hf.over hnone hlt).2.2
  rw [Option.toList_some, toldTo_cons_self] at htold
  cases htold

/-- An acquisition that was started comes as far as what it is told takes it. -/
lemma Tells.cameTo_started (hgoes : ∀ n, (c n).Goes s.site (c (n + 1)))
    (hstart : Hears s.site c l p ⟨.spawn (.ticking t₀), k⟩)
    (h : Tells s.site c (l + 1) j before) :
    (c j).CameTo s.site k (.ticking t₀) (toldTo (.job k) before) := by
  obtain ⟨-, asked, hp⟩ := hstart
  simpa using h.cameTo hgoes hp.cameTo_new.2.1

/-- **A stop that has come to its end leaves the acquisition silent.** If it was told that the job
has ended, the job asks for nothing from then on and is told nothing: no command, no row. -/
theorem silent_of_stop (hgoes : ∀ n, (c n).Goes s.site (c (n + 1))) {i : Nat}
    {told : List (Party × Exchange RigSurroundings)} {a : Acquisition} {limit : Duration}
    {es₀ es es₁ : List (Exchange RigSurroundings)} (h : Tells s.site c i j told)
    (htold : toldTo p told = es₀ ++ es ++ es₁)
    (hstop : (carryOut s.site (a.stop limit)).Ends es true) :
    ∃ m, i ≤ m ∧ m < j ∧ ∀ n, m ≤ n → (c n).state.ending? a.job ≠ none ∧
      (∀ r, ¬(c n).Asks (.job a.job) r) ∧ ∀ e, ¬Hears s.site c n (.job a.job) e := by
  obtain ⟨first, until?, ending, more, rfl⟩ := exists_joined_of_stop hstop
  obtain ⟨m, -, -, him, hmj, -, -, hm, -⟩ :=
    h.split_toldTo (es₀ ++ first) (by simpa using htold)
  have hended := hm.ending?
  refine ⟨m, him, hmj, fun n hmn => ?_⟩
  have hn := ending?_of_le hgoes hended hmn
  exact ⟨by simp [hn], fun r => not_asks_of_ending? hn, fun e => not_hears_of_ending? hn⟩

/-- **An acquisition whose token was fired ends between ticks.** On whatever course, take an
acquisition that goes through ticks, and any moment at which its token has been fired, be it within
a tick or between two of them. No tick begins from then on, as none does without a look at the token.
If the acquisition was in a tick, it goes on with it, and no request of a tick depends on a token:
what is left of it is still to be asked, or it was gone through to its end, and then there is at
most one more reply, which is of no instrument and no file. When the acquisition has ended it has
gone through whole ticks only, in each of which all rows of its sample were written or none, and if
a file was left to the acquisition these rows are what came to it. If a stop has come to a good end,
the acquisition asks for nothing any more.

**Proof sketch.** The job goes through its turns (`Tells.cameTo`). A token that was fired stays so,
so neither a look at it nor a pause under it has the reply that another tick needs
(`Tells.subsides`), and a turn that has no such reply runs out (`Ticking.runsOut_of_begun`). -/
theorem stopped_between_ticks (hgoes : ∀ n, (c n).Goes s.site (c (n + 1)))
    (hstart : Hears s.site c l p ⟨.spawn (.ticking t₀), k⟩)
    (hbefore : Tells s.site c (l + 1) n before) (hfired : (c n).state.isFired t₀.token = true)
    (hafter : Tells s.site c n j after) :
    (∀ m, n ≤ m → ¬Hears s.site c m (.job k) ⟨.fired t₀.token, false⟩) ∧
    (∀ t : Ticking, (t.beat s.site).AsksOnly Request.Heedless) ∧
    (∃ turns t during work, Rounds (Ticking.turnOn s.site) t₀ turns (.again t) ∧
      toldTo (.job k) before = exchanges turns ++ during ∧
      t.RunsOut s.site during (toldTo (.job k) after) work ∧
      ((∃ y, (c j).at? (.job k) = some y ∧ y.work = mapTurn .ticking <$> work) ∨
        (c j).state.ending? k = some .acquisition ∧ work = .done (.over .acquisition))) ∧
    ((c j).state.ending? k ≠ none → ∃ turns,
      Rounds (Ticking.turnOn s.site) t₀ turns (.over .acquisition) ∧
      toldTo (.job k) (before ++ after) = exchanges turns ∧
      (∀ turn ∈ turns, turn.1.Whole s.site turn.2 ∧
        ∃ x? : Option Sample, ∀ file, appended file turn.2 = x?.elim [] (turn.1.rowsOf file)) ∧
      ∀ file path place content, (c (l + 1)).state.Writes file path place content →
        (∀ m, l < m → m < j → LeavesTo c (.job k) file m) →
        (c j).state.files.read path =
          .ok (content ++ String.join (turns.flatMap fun turn => appended file turn.2))) ∧
    ∀ q i told (a : Acquisition) limit es₀ es es₁, a.job = k → Tells s.site c i j told →
      toldTo q told = es₀ ++ es ++ es₁ → (carryOut s.site (a.stop limit)).Ends es true →
      ∃ m, i ≤ m ∧ m < j ∧ ∀ n, m ≤ n → (c n).state.ending? k ≠ none ∧
        (∀ r, ¬(c n).Asks (.job k) r) ∧ ∀ e, ¬Hears s.site c n (.job k) e := by
  have htold := hbefore.trans hafter
  have hcame := htold.cameTo_started hgoes hstart
  have hsub := hafter.subsides (p := .job k) hgoes hfired
  refine ⟨fun m hnm => not_hears_fired hgoes hfired hnm, Ticking.beat_heedless s, ?_,
    fun hended => ?_, ?_⟩
  · rw [toldTo_append] at hcame
    rcases hcame with ⟨y, hy, hbegun⟩ | ⟨turns, ending, he, hrounds, hes⟩
    · obtain ⟨own, hown, hwork⟩ := Ticking.exists_begun_of_job hbegun
      obtain ⟨turns, t, during, hrounds, hes, hruns⟩ := Ticking.runsOut_of_begun hown hsub
      exact ⟨turns, t, during, own, hrounds, hes, hruns, .inl ⟨y, hy, hwork⟩⟩
    · obtain ⟨rfl, own, hown, hexch⟩ := Ticking.exists_over_of_job hrounds
      have hbegun := begun_of_over hown
      rw [← hexch, ← hes] at hbegun
      obtain ⟨turns, t, during, hrounds, hes, hruns⟩ := Ticking.runsOut_of_begun hbegun hsub
      exact ⟨turns, t, during, _, hrounds, hes, hruns, .inr ⟨he, rfl⟩⟩
  · rcases hcame with ⟨y, hy, -⟩ | ⟨turns, ending, he, hrounds, hes⟩
    · exact absurd (ending?_eq_none hy) hended
    · obtain ⟨rfl, own, hown, hexch⟩ := Ticking.exists_over_of_job hrounds
      have hall := (Ticking.whole_of_rounds hown).1
      rw [hexch] at hes
      refine ⟨own, hown, hes, fun turn hturn => ?_, fun file path place content hw hleft => ?_⟩
      · exact ⟨hall turn hturn, Ticking.exists_rows_of_whole (hall turn hturn)⟩
      · have hwritten := htold.writes hgoes (fun m hlm hmj => hleft m hlm hmj) hw
        rw [hes, appended_exchanges] at hwritten
        exact hwritten.read
  · rintro q i told a limit es₀ es es₁ rfl ht htold hstop
    exact silent_of_stop hgoes ht htold hstop

/-- Who asks to start a job has started it after the step. -/
lemma hears_spawn {job : Job} (ha : (c n).Asks p (.spawn job))
    (hs : (c n).step s.site = .more (c (n + 1))) :
    Hears s.site c n p ⟨.spawn job, (c n).state.jobs.size⟩ := by
  obtain ⟨asked, reply?, hp⟩ := proceeds_of_step hs
  refine ⟨hs, asked, ?_⟩
  have hasked := (hp.asks_iff p _).2 ha
  generalize c (n + 1) = d at hp ⊢
  cases hp with
  | answer hr hat hanswer =>
    cases hasked
    cases hanswer
    exact .answer hr hat rfl
  | wait _ _ hnone =>
    cases hasked
    cases hnone
  | _ => cases hasked

end Courses

end Scene

/-! ## A stop within a tick -/

/-- Start an acquisition, let it go on for a while, and stop it: whether it has stopped. -/
def startThenStop (site : Site RigSurroundings) : RigWork Bool :=
  carryOut site (startAcquisition site plainTuning "a" .continuous).run >>= fun
    | .error _ => .done false
    | .ok a => .ask (.pause 0 (.ofMillis 50)) fun _ => carryOut site (a.stop (.ofSeconds 5))

/-- An acquisition is about to be started, and its bridge takes its time for a reply. -/
def slowBridge : Scene Bool where
  state := { State.initial ⟨2024, 1, 1, 0, 0⟩ with
    attached := [("bridge", ⟨100, [("SCAN?", [.reply "1,0"])], .nothing⟩)] }
  foreground := .running (startThenStop (refrigerator sourceWiring))
  current := none
  fresh := false

/-- What the rig does by itself from there on. -/
def slowCourse : Nat → Scene Bool := slowBridge.follow (refrigerator sourceWiring)

/-- The file of the samples. -/
def slowPath : String := "data/2024-01-01/20240101-0000-sample-a.txt"

/-- What is in that file before the first row. -/
def slowHead : String :=
  String.join ((Table.header (Table.sampleColumns ((refrigerator sourceWiring).layout
    .continuous))).map Table.row)

/-- The row of the first sample: the scanner is on a channel that is not read. -/
def slowRow : String := Table.values (Duration.ofMillis 0).seconds (List.replicate 14 none)

/-- Whether an acquisition is started that a given token stops. -/
def startsTicking (token : Nat) : Request → Bool
  | .spawn (.ticking t) => t.token == token
  | _ => false

/-- Whether a job waits for an instrument. -/
def Scene.waitsForDevice (c : Scene Bool) (n : Nat) : Bool :=
  match c.state.jobs[n]? with
  | some (.waiting ⟨.device _, _, _, _⟩) => true
  | _ => false

/-- Whether the work in the foreground has come to a good end. -/
def Foreground.succeeds : Foreground Bool → Bool
  | .running (.done b) => b
  | _ => false

lemma Foreground.eq_of_succeeds {f : Foreground Bool} (h : f.succeeds = true) :
    f = .running (.done true) := by
  unfold succeeds at h
  split at h
  · rw [h]
  · cases h

/-- The job is started by the eighth step, its token is fired while it waits for the bridge, and
eleven steps later it has ended. -/
lemma facts_slowCourse : (slowCourse 7).isAt (startsTicking 1) = true ∧
    (slowCourse 7).state.jobs.size = 0 ∧ (slowCourse 18).waitsForDevice 0 = true ∧
    (slowCourse 18).state.isFired 1 = true ∧ (slowCourse 29).foreground.succeeds = true ∧
    ((slowCourse 29).state.ending? 0).isSome = true ∧
    ((slowCourse 29).state.files.read slowPath).toOption = some (slowHead ++ slowRow) := by
  decide +kernel

lemma goes_slowCourse (n : Nat) :
    (slowCourse n).Goes (refrigerator sourceWiring) (slowCourse (n + 1)) :=
  Scene.goes_follow ..

lemma leavesTo_slowCourse {n : Nat} (hn : 7 < n) (hj : n < 29) :
    Scene.LeavesTo slowCourse (.job 0) 0 n := by
  have h : ∀ n < 29, 7 < n → leavesFirst (.job 0) (slowCourse n) (slowCourse (n + 1)) = true := by
    decide +kernel
  exact leavesTo_of_leavesFirst (h n hj hn)

lemma writes_slowCourse : ∃ place, (slowCourse 8).state.Writes 0 slowPath place slowHead := by
  have hlocate : ∃ place, (slowCourse 8).state.files.locate slowPath = .ok place ∧
      (slowCourse 8).state.files.get? place = some (.file slowHead) :=
    ⟨["data", "2024-01-01", "20240101-0000-sample-a.txt"], by decide +kernel, by decide +kernel⟩
  obtain ⟨place, hplace, hentry⟩ := hlocate
  exact ⟨place, by decide +kernel, hplace, hentry, by decide +kernel⟩

/-- The acquisition is started in the foreground. -/
lemma exists_started_slowCourse : ∃ t₀ : Ticking, t₀.token = 1 ∧
    Scene.Hears (refrigerator sourceWiring) slowCourse 7 .foreground
      ⟨.spawn (.ticking t₀), (0 : Nat)⟩ := by
  obtain ⟨hstarts, hzero, -⟩ := facts_slowCourse
  obtain ⟨r, hr, hasks⟩ := Scene.asks_of_isAt hstarts
  unfold startsTicking at hr
  split at hr
  · next t₀ =>
    refine ⟨t₀, eq_of_beq hr, ?_⟩
    obtain ⟨d, hd⟩ := Scene.exists_step_of_asks (refrigerator sourceWiring) hasks
    have hnext : slowCourse 8 = d := Scene.follow_succ_of_step hd
    have h := Scene.hears_spawn (s := .facility (.refrigerator sourceWiring)) hasks
      (hnext ▸ hd : (slowCourse 7).step _ = .more (slowCourse (7 + 1)))
    rwa [hzero] at h
  · cases hr

/-- The stop that was made has come to a good end, and it is that of the job. -/
lemma exists_stopped_slowCourse {told : List (Party × Exchange RigSurroundings)}
    (h : Scene.Tells (refrigerator sourceWiring) slowCourse 0 29 told) :
    ∃ a es₀ es, a.job = 0 ∧ toldTo .foreground told = es₀ ++ es ++ [] ∧
      (carryOut (refrigerator sourceWiring) (Acquisition.stop a (.ofSeconds 5))).Ends es true := by
  have hend := Foreground.eq_of_succeeds facts_slowCourse.2.2.2.2.1
  have hl := h.leads_foreground fun n hs => ((goes_slowCourse n).drifts hs).1
  rw [hend] at hl
  obtain ⟨es₁, es₂, result, hes, -, h₂⟩ := ends_bind_iff.1
    (hl : (startThenStop (refrigerator sourceWiring)).Ends (toldTo .foreground told) true)
  match result with
  | .error fault => cases (ends_done_iff.1 h₂).2
  | .ok a =>
    obtain ⟨passed, es₃, rfl, h₃⟩ := ends_ask_iff.1 h₂
    have htold : toldTo .foreground told =
        (es₁ ++ [⟨.pause 0 (.ofMillis 50), passed⟩]) ++ es₃ ++ [] := by
      rw [hes]
      simp
    refine ⟨a, _, es₃, ?_, htold, h₃⟩
    obtain ⟨m, -, hm, hsilent⟩ := Scene.silent_of_stop
      (s := .facility (.refrigerator sourceWiring)) goes_slowCourse h htold h₃
    obtain ⟨ending, hended⟩ := Option.ne_none_iff_exists'.1 (hsilent 29 (Nat.le_of_lt hm)).1
    have hone : (slowCourse 29).state.jobs.size = 1 := by decide +kernel
    have hlt := (Scene.at?_of_ending? hended).2
    omega

/-- A bridge takes its time, and the acquisition is stopped while the first tick waits for it. The
tick goes on to its end, its row comes to the file, there is no other tick, and in the end the
acquisition is silent. -/
theorem stopped_between_ticks_slowBridge :
    ∃ (t₀ : Ticking) (before after : List (Party × Exchange RigSurroundings)),
      Scene.Hears (refrigerator sourceWiring) slowCourse 7 .foreground
        ⟨.spawn (.ticking t₀), (0 : Nat)⟩ ∧
      Scene.Tells (refrigerator sourceWiring) slowCourse 8 18 before ∧
      (slowCourse 18).waitsForDevice 0 = true ∧
      (slowCourse 18).state.isFired t₀.token = true ∧
      Scene.Tells (refrigerator sourceWiring) slowCourse 18 29 after ∧
      (∀ m, 18 ≤ m → ¬Scene.Hears (refrigerator sourceWiring) slowCourse m (.job 0)
        ⟨.fired t₀.token, false⟩) ∧
      (∃ turns, Rounds (Ticking.turnOn (refrigerator sourceWiring)) t₀ turns
          (.over .acquisition) ∧
        toldTo (.job 0) (before ++ after) = exchanges turns ∧
        (∀ turn ∈ turns, turn.1.Whole (refrigerator sourceWiring) turn.2) ∧
        slowHead ++ String.join (turns.flatMap fun turn => appended 0 turn.2) =
          slowHead ++ slowRow) ∧
      ∃ m < 29, ∀ n, m ≤ n → ∀ r, ¬(slowCourse n).Asks (.job 0) r := by
  obtain ⟨-, -, hwaits, hfired, -, hended, hread⟩ := facts_slowCourse
  obtain ⟨t₀, htoken, hstart⟩ := exists_started_slowCourse
  obtain ⟨before, hbefore⟩ :=
    Scene.exists_tells (refrigerator sourceWiring) slowCourse (by decide : 8 ≤ 18)
  obtain ⟨after, hafter⟩ :=
    Scene.exists_tells (refrigerator sourceWiring) slowCourse (by decide : 18 ≤ 29)
  obtain ⟨told, htold⟩ :=
    Scene.exists_tells (refrigerator sourceWiring) slowCourse (by decide : 0 ≤ 29)
  rw [← htoken] at hfired
  obtain ⟨hnone, -, -, hwhole, hstop⟩ := Scene.stopped_between_ticks
    (s := .facility (.refrigerator sourceWiring)) goes_slowCourse hstart hbefore hfired hafter
  obtain ⟨turns, hrounds, hes, hall, hfile⟩ := hwhole (Option.isSome_iff_ne_none.1 hended)
  obtain ⟨a, es₀, es, hjob, hes', hstopped⟩ := exists_stopped_slowCourse htold
  obtain ⟨m, -, hm, hsilent⟩ := hstop _ _ _ a _ _ _ _ hjob htold hes' hstopped
  obtain ⟨place, hw⟩ := writes_slowCourse
  have htext := hfile 0 _ _ _ hw fun m hm hmj => leavesTo_slowCourse hm hmj
  rw [htext] at hread
  exact ⟨t₀, before, after, hstart, hbefore, hwaits, hfired, hafter, hnone,
    ⟨turns, hrounds, hes, fun turn hturn => (hall turn hturn).1, Option.some.inj hread⟩,
    m, hm, fun n hn => (hsilent n hn).2.1⟩

end Rig

end CryoRig
