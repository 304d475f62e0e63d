import Mathlib.Tactic.Choose
import CryoRig.Proofs.StopScenes

/-!
# A stop that finds nobody starting leaves nothing running

Callers in the foreground and in any number of jobs make calls of one session. Their *course* is any
sequence of scenes, with replies that come whenever they like. A stop begins when it reads the token
of the program, and it has come to its end when it says that the session was stopped.

## Main definitions

* `CryoRig.Rig.Opening`, `CryoRig.Rig.Course`: where a course begins, and how it goes on.
* `CryoRig.Rig.Boards`: boards along a course.
* `CryoRig.Rig.Scene.follow`: the course that a rig takes by itself.

## Main results

* `CryoRig.Rig.Course.boards`: there are boards along every course.
* `CryoRig.Rig.Course.nothing_left_running`: after a stop no job from before it starts an
  acquisition, and those that were started are cancelled or have ended.
-/

namespace CryoRig.Rig

open Control

variable {α : Type} {site : Site RigSurroundings} {s : SessionSettings}

/-! ## Courses -/

/-- Calls of a session are about to be made, one after the other in the foreground and in every job.
No program was started yet. -/
structure Opening (site : Site RigSurroundings) (s : SessionSettings) (c : Scene α) : Prop where
  /-- Calls in the foreground. -/
  foreground : ∃ client : Process Calls α,
    c.foreground = Foreground.running (carryOut site (client.translate (Call.serve s)))
  /-- Calls in the background. -/
  jobs : ∀ (n : Nat) (status : JobStatus), c.state.jobs[n]? = some status →
    ∃ (client : Process Calls Unit) (ending : Ending), status = JobStatus.running
      (carryOut site (client.translate (Call.serve s)) >>= fun _ => pure (.over ending))
  /-- The foreground comes first. -/
  current : c.current = none
  /-- Nothing is in the slot. -/
  slot : (c.state.console s.conduct.console).slot = none
  /-- Nobody has the desk. -/
  desk : c.state.desk = .free
  /-- No program is on it. -/
  program : c.state.program = none
  /-- There is a token to begin with. -/
  programToken_lt : c.state.programToken < c.state.tokens.size

/-- Scenes that follow upon each other. -/
structure Course (site : Site RigSurroundings) (s : SessionSettings) (c : Nat → Scene α) :
    Prop where
  /-- Where it begins. -/
  opening : Opening site s (c 0)
  /-- How it goes on. -/
  move : ∀ n, (c n).Move site (c (n + 1))

/-- The board of a scene in which no program was started yet. -/
def Board.opening (κ : Nat) (s : State) : Board κ where
  tokens := s.tokens
  slot := (s.console κ).slot
  desk := s.desk
  program := s.program
  programToken := s.programToken
  count := s.jobs.size
  role
    | .foreground => .caller .away
    | .job n => if n < s.jobs.size then .caller .away else .absent
  mark _ := 0
  spoiled := False

lemma Board.role_opening (κ : Nat) (s : State) (p : Party) :
    (Board.opening κ s).role p = .caller .away ∨ (Board.opening κ s).role p = .absent := by
  cases p with
  | foreground => exact .inl rfl
  | job n =>
    change (if n < s.jobs.size then Role.caller .away else .absent) = _ ∨
      (if n < s.jobs.size then Role.caller .away else .absent) = _
    split
    · exact .inl rfl
    · exact .inr rfl

lemma Opening.lawful {c : Scene α} (h : Opening site s c) :
    (Board.opening s.conduct.console c.state).Lawful where
  programToken_lt := h.programToken_lt
  slot_lt _ a ha := by
    rw [show (Board.opening s.conduct.console c.state).slot = _ from h.slot] at ha
    cases ha
  held _ := by
    rw [show (Board.opening s.conduct.console c.state).desk = _ from h.desk]
    rfl
  born n hn := by
    change (if n < c.state.jobs.size then Role.caller .away else .absent) ≠ .absent at hn
    split at hn
    · assumption
    · exact absurd rfl hn
  mark_le _ := Nat.zero_le _
  suits _ p := by
    rcases Board.role_opening s.conduct.console c.state p with hp | hp
    all_goals
      rw [hp]
      trivial

lemma Opening.pictures {c : Scene α} (h : Opening site s c) :
    Pictures (Board.opening s.conduct.console c.state) c.state where
  tokens := rfl
  slot := rfl
  desk := rfl
  program := rfl
  programToken := rfl
  count := rfl
  absent n hn := by
    obtain ⟨client, ending, hj⟩ := h.jobs n _ (Array.getElem?_eq_getElem hn)
    constructor
    · intro ho
      rw [show (Board.opening s.conduct.console c.state).role (.job n) = _ from if_pos hn] at ho
      cases ho
    · rintro ⟨ending', he⟩
      rw [State.ending?, Array.getElem?_eq_getElem hn, hj] at he
      cases he
  born := h.lawful.born
  mark_le := h.lawful.mark_le

lemma Opening.steady {c : Scene α} (h : Opening site s c) :
    c.Steady c.state.jobs.size (Board.opening s.conduct.console c.state) where
  pictures := h.pictures
  callers n post hn := by
    refine h.lawful.born n ?_
    rw [hn]
    simp
  caller := ⟨.away, rfl⟩
  running work hw := by
    obtain ⟨client, hf⟩ := h.foreground
    rw [hf] at hw
    cases hw
    exact ⟨h.current, (returns_calls rfl client _ (h.lawful.fits rfl (.caller ..))).mono
      fun _ _ _ => trivial⟩
  waiting w hw := by
    obtain ⟨client, hf⟩ := h.foreground
    rw [hf] at hw
    cases hw
  current n hn := by
    rw [h.current] at hn
    cases hn
  jobs n status hn _ := by
    obtain ⟨hlt, -⟩ := Array.getElem?_eq_some_iff.1 hn
    obtain ⟨client, ending, rfl⟩ := h.jobs n status hn
    rw [show (Board.opening s.conduct.console c.state).role (.job n) = _ from if_pos hlt]
    refine ⟨by simp, fun b hl hr => ?_⟩
    refine (returns_calls rfl client b (hl.fits hr (.caller ..))).bind fun _ b' hb' => ?_
    exact hb'.absent (by simp)
  lawful _ _ _ := h.lawful

/-! ## Requests in the course of things -/

section Asks

variable {κ callers : Nat} {c : Scene α} {b : Board κ} {p : Party} {r : Request}

/-- Whoever makes a request has seen to what it takes. -/
lemma Scene.Steady.allows (h : Scene.Steady callers c b) (ha : c.Asks p r) : b.Allows p r := by
  cases ha with
  | foreground hf => exact (h.running _ hf).2.1
  | job _ hn hj => exact (h.settles_current hn hj).1

/-- Whoever makes a request has not come to an end. -/
lemma Scene.Steady.ne_absent (h : Scene.Steady callers c b) (ha : c.Asks p r) :
    b.role p ≠ .absent := by
  cases ha with
  | foreground =>
    obtain ⟨post, hp⟩ := h.caller
    rw [hp]
    simp
  | job _ _ hj => exact h.role_ne_absent hj (by simp)

/-- The programs with a number below one that is cleared start nothing. -/
lemma Board.Cleared.not_allows {bound t token : Nat} {job : Job} (h : b.Cleared bound)
    (ht : t < bound) (hj : job.Samples token) : ¬b.Allows (.job t) (.spawn job) := by
  intro ha
  cases job with
  | program => exact hj
  | ticking | supervision =>
    obtain ⟨token', start?, hp, hn⟩ := ha
    obtain ⟨hfired, hstart⟩ := (h.2 t ht).1 token' start? hp
    rcases hn with hn | hn
    · exact hn hstart
    · rw [hfired] at hn
      cases hn

end Asks

/-! ## Boards along a course -/

variable {κ callers : Nat}

/-- A board for every scene of a course. -/
structure Boards (κ callers : Nat) (c : Nat → Scene α) (b : Nat → Board κ) : Prop where
  /-- It shows the scene. -/
  steady : ∀ n, (c n).Steady callers (b n)
  /-- None is spoiled at first. -/
  opening : ¬(b 0).spoiled
  /-- Each follows upon the one before. -/
  follows : ∀ n, Scene.Steady.Follows (c n) (b n) (b (n + 1))
  /-- What was asked for shows on it, unless nothing has happened. -/
  heeds : ∀ n p r, (c n).Asks p r →
    c (n + 1) = c n ∨ Scene.Steady.Heeds (c n).state.jobs.size (b (n + 1)) p r

lemma Course.boards {c : Nat → Scene α} (hs : Confined site) (h : Course site s c) :
    ∃ b, Boards s.conduct.console (c 0).state.jobs.size c b := by
  have hmove (n : Nat)
      (b : { b : Board s.conduct.console // (c n).Steady (c 0).state.jobs.size b }) :
      ∃ b' : { b : Board s.conduct.console // (c (n + 1)).Steady (c 0).state.jobs.size b },
        Scene.Steady.Follows (c n) b.1 b'.1 ∧ ∀ p r, (c n).Asks p r →
          c (n + 1) = c n ∨ Scene.Steady.Heeds b.1.count b'.1 p r := by
    obtain ⟨b', hb', hfollows, hheeds⟩ := b.2.move hs (h.move n)
    exact ⟨⟨b', hb'⟩, hfollows, hheeds⟩
  choose next hfollows hheeds using hmove
  let b : (n : Nat) →
      { b : Board s.conduct.console // (c n).Steady (c 0).state.jobs.size b } :=
    Nat.rec ⟨_, h.opening.steady⟩ next
  refine ⟨fun n => (b n).1, fun n => (b n).2, id, fun n => hfollows n (b n), fun n p r ha => ?_⟩
  rw [← (b n).2.pictures.count]
  exact hheeds n (b n) p r ha

/-- What stays from one board to the next. -/
def Stable (P : Board κ → Prop) : Prop := ∀ b b' : Board κ, b.Succeeds b' → P b → P b'

/-- The job with some number was started, and its role is as stated until it ends. -/
def Board.Retains (b : Board κ) (number : Nat) (R : Role → Prop) : Prop :=
  number < b.count ∧ (R (b.role (.job number)) ∨ b.role (.job number) = .absent)

lemma stable_retains {number : Nat} {R : Role → Prop}
    (hR : ∀ b b' : Board κ, b.Succeeds b' → R (b.role (.job number)) →
      R (b'.role (.job number)) ∨ b'.role (.job number) = .absent) :
    Stable fun b : Board κ => b.Retains number R := by
  rintro b b' hsucc ⟨hlt, hrole⟩
  refine ⟨Nat.lt_of_lt_of_le hlt hsucc.count_le, ?_⟩
  rcases hrole with hrole | habsent
  · exact hR b b' hsucc hrole
  · exact .inr (hsucc.absent number hlt habsent)

namespace Boards

variable {c : Nat → Scene α} {b : Nat → Board κ} {p q : Party} {r r' : Request}
  {P : Board κ → Prop} {m n : Nat}

/-- What stays from one board to the next stays for good. -/
lemma stays (hb : Boards κ callers c b) (hP : Stable P) (hm : P (b m)) (hmn : m ≤ n) : P (b n) := by
  induction hmn with
  | refl => exact hm
  | @step n _ ih => exact hP _ _ (hb.follows n).succeeds ih

/-- What a request leads to is there by the time of another one, and then it stays. -/
lemma stays_after (hb : Boards κ callers c b) (hP : Stable P) (ha : (c m).Asks p r)
    (hr : ∀ b', Scene.Steady.Heeds (c m).state.jobs.size b' p r → P b') (hmn : m ≤ n)
    (ha' : (c n).Asks q r') (hne : r ≠ r') : P (b n) := by
  have hafter : c n = c m ∨ P (b n) := by
    clear ha'
    induction hmn with
    | refl => exact .inl rfl
    | @step n _ ih =>
      rcases ih with he | hn
      · rw [← he] at ha hr ⊢
        exact (hb.heeds n p r ha).imp_right (hr _)
      · exact .inr (hP _ _ (hb.follows n).succeeds hn)
  refine hafter.resolve_left fun he => hne ?_
  rw [he] at ha'
  exact (ha.unique ha').2

/-- Whoever made calls still does when it makes a request. -/
lemma isCaller (hb : Boards κ callers c b) (hm : (b m).IsCaller p) (ha : (c n).Asks p r)
    (hmn : m ≤ n) : (b n).IsCaller p := by
  cases p with
  | foreground => exact (hb.steady n).caller
  | job t =>
    have hstable : Stable fun b : Board κ => b.Retains t fun role => ∃ post, role = .caller post :=
      stable_retains fun b b' hsucc hcaller => hsucc.caller _ hcaller
    have hlt : t < (b m).count := by
      obtain ⟨post, hp⟩ := hm
      apply (hb.steady m).pictures.born t
      rw [hp]
      simp
    have hretains := hb.stays hstable ⟨hlt, .inl hm⟩ hmn
    exact hretains.2.resolve_right ((hb.steady n).ne_absent ha)

/-- As long as the slot is only emptied calmly the boards are not spoiled. -/
lemma not_spoiled (hb : Boards κ callers c b) (hcalm : ∀ m < n, (c m).EmptiesCalmly κ callers) :
    ¬(b n).spoiled := by
  induction n with
  | zero => exact hb.opening
  | succ n ih =>
    have hn : ¬(b n).spoiled := ih fun m hm => hcalm m (by omega)
    exact (hb.follows n).not_spoiled (hb.steady n) (hcalm n (by omega)) hn

/-- When a stop comes to its end, the jobs before it are cleared. -/
lemma cleared {i j : Nat} (hb : Boards κ callers c b)
    (hcalm : ∀ n < j, (c n).EmptiesCalmly κ callers) (hi : (c i).Asks q .programToken)
    (hj : (c j).Asks q (.device (.log .sessionStopped))) (hij : i ≤ j) :
    (b j).Cleared ((b j).mark q) ∧ (c i).state.jobs.size ≤ (b j).mark q := by
  have hcaller : (b j).IsCaller q := hb.isCaller ((hb.steady i).allows hi) hj hij
  have hstable : Stable fun b : Board κ => (c i).state.jobs.size ≤ b.mark q :=
    fun b b' hsucc h => Nat.le_trans h (hsucc.mark_le q)
  refine ⟨(hb.steady j).allows hj rfl hcaller (hb.not_spoiled hcalm), ?_⟩
  exact hb.stays_after hstable hi (fun b' hh => hh.1 rfl) hij hj (by simp)

/-- An acquisition that was started stays what it is until it ends. -/
lemma acquisition {t token : Nat} {job : Job} (hb : Boards κ callers c b)
    (ha : (c m).Asks (.job t) (.spawn job)) (hs : job.Samples token) (hmn : m ≤ n)
    (ha' : (c n).Asks q r') (hne : .spawn job ≠ r') {k : Nat} (hnk : n ≤ k) :
    (b k).Retains (c m).state.jobs.size (· = .acquisition token (.job t)) := by
  have hstable : Stable fun b : Board κ =>
      b.Retains (c m).state.jobs.size (· = .acquisition token (.job t)) :=
    stable_retains fun b b' hsucc hrole => hsucc.acquisition _ _ _ hrole
  refine hb.stays hstable (hb.stays_after hstable ha (fun b' hh => ?_) hmn ha' hne) hnk
  obtain ⟨hrole, hcount⟩ := hh.2 job rfl
  refine ⟨hcount, .inl ?_⟩
  rw [hrole]
  cases job with
  | program => exact hs.elim
  | ticking | supervision =>
    rw [← hs]
    rfl

end Boards

/-! ## After a stop -/

/-- A job starts an acquisition just now, and a token stops it. -/
def Scene.StartsAcquisition (c : Scene α) (t token : Nat) : Prop :=
  ∃ job : Job, c.Asks (.job t) (.spawn job) ∧ job.Samples token

/-- The scene after so many steps. When there is nothing more to do it stays as it is. -/
def Scene.follow (site : Site RigSurroundings) (c : Scene α) : Nat → Scene α
  | 0 => c
  | n + 1 =>
    match c.step site with
    | .more d => d.follow site n
    | _ => c

/-- A rig that is followed makes a step, or it stays as it is. -/
lemma Scene.step_follow (site : Site RigSurroundings) (c : Scene α) (n : Nat) :
    (c.follow site n).step site = .more (c.follow site (n + 1)) ∨
      c.follow site (n + 1) = c.follow site n := by
  induction n generalizing c with
  | zero =>
    rw [follow, follow]
    cases hstep : c.step site with
    | more d => exact .inl rfl
    | done | stuck => exact .inr rfl
  | succ n ih =>
    rw [follow, follow]
    cases hstep : c.step site with
    | more d => exact ih d
    | done | stuck => exact .inr rfl

lemma Scene.follow_succ (site : Site RigSurroundings) (c : Scene α) (n : Nat) :
    Move site (c.follow site n) (c.follow site (n + 1)) := by
  rcases step_follow site c n with hs | heq
  · exact .step hs
  · rw [heq]
    exact .stay

/-- The rig takes a course from every opening. -/
lemma Opening.follow {c : Scene α} (h : Opening site s c) : Course site s (c.follow site) :=
  ⟨h, c.follow_succ site⟩

/-! ## A session that is stopped early -/

/-- The settings of a session on a bench. -/
def benchSession : SessionSettings where
  conduct := ⟨0, .ofSeconds 5, .ofSeconds 5, ⟨.ofSeconds 1, 10, 3, 0.1, false, "data", "sample"⟩⟩
  programStopLimit := .ofSeconds 5

/-- A bench over the surroundings of a rig. -/
def benchSite : Site RigSurroundings := Site.bench.translate ofBench

/-- Start the empty program and stop it. -/
def startAndStop : Process Calls Unit :=
  .ask (Call.start "") fun _ => .ask Call.stop fun _ => .done ()

/-- The scene before a new rig does some work in the foreground. -/
def Scene.blank (work : RigWork α) : Scene α :=
  ⟨.initial ⟨2024, 1, 1, 0, 0⟩, .running work, none, false⟩

/-- The scene before the empty program is started and stopped. -/
def earlyStop : Scene Unit :=
  .blank (carryOut benchSite (startAndStop.translate (Call.serve benchSession)))

lemma opening_earlyStop : Opening benchSite benchSession earlyStop where
  foreground := ⟨startAndStop, rfl⟩
  jobs n status hn := by
    cases hn
  current := rfl
  slot := rfl
  desk := rfl
  program := rfl
  programToken_lt := by decide

/-- Whether the foreground makes some request just now. -/
def Scene.isAt (P : Request → Bool) (c : Scene α) : Bool :=
  match c.foreground with
  | .running (.ask r _) => P r
  | _ => false

lemma Scene.asks_of_isAt {P : Request → Bool} {c : Scene α} (h : c.isAt P = true) :
    ∃ r, P r = true ∧ c.Asks .foreground r := by
  unfold isAt at h
  split at h
  · rename_i hf
    exact ⟨_, h, .foreground hf⟩
  · cases h

/-- Whether no job waits. -/
def Scene.nobodyWaits (c : Scene α) : Bool :=
  c.state.jobs.all fun status =>
    match status with
    | .waiting _ => false
    | _ => true

lemma Scene.calm_of_nobodyWaits {κ callers : Nat} {c : Scene α} (h : c.nobodyWaits = true) :
    c.EmptiesCalmly κ callers := by
  intro p _ _ n w hw
  obtain ⟨hlt, hw⟩ := Array.getElem?_eq_some_iff.1 hw
  have hn := Array.all_eq_true.1 h n hlt
  rw [hw] at hn
  cases hn

/-- What the check of the empty script comes to, up to what it says of the time of its end. -/
def emptyCheck (x : Risky Unit) : Risky Float :=
  ExceptT.mk <| .ask (.rig (.published 0)) fun previous =>
    .ask (.rig (.publish 0 .checking)) fun _ => .ask (.rig (.device (.log .rule))) fun _ =>
    .ask (.rig (.device (.log .rule))) fun _ => .ask (.rig (.publish 0 previous)) fun _ =>
    .ask (.rig (.device (.log (.estimate 0)))) fun _ => (x >>= fun _ => pure 0 : Risky Float).run

lemma check_empty : Session.check 0 "" = emptyCheck (log .finishUnknown) ∨
    Session.check 0 "" = emptyCheck (pure ()) := by
  have h : Session.check 0 "" =
      emptyCheck (if Session.calendarSeconds < 0 then log .finishUnknown else pure ()) := rfl
  rw [h]
  split
  · exact .inl rfl
  · exact .inr rfl

/-- A stop begins after so many steps, when one job was started, and it comes to its end after so
many steps. No job waits meanwhile. -/
structure Stopped (c : Scene α) (i j : Nat) : Prop where
  le : i ≤ j
  begun : (c.follow benchSite i).isAt (· matches .programToken) = true
  started : (c.follow benchSite i).state.jobs.size = 1
  ended : (c.follow benchSite j).isAt (· matches .device (.log .sessionStopped)) = true
  quiet : ((List.range j).all fun n => (c.follow benchSite n).nobodyWaits) = true

lemma stopped_earlyStop : ∃ i j, Stopped earlyStop i j := by
  have h : earlyStop = .blank (carryOut benchSite ((Session.start benchSession "").run >>=
    fun _ => Session.stop benchSession >>= fun _ => pure ())) := rfl
  rw [h]
  unfold Session.start Session.startAtDesk
  rcases check_empty with hcheck | hcheck
  · rw [show Session.check benchSession.conduct.console "" = _ from hcheck]
    exact ⟨15, 36, by decide, by decide +kernel, by decide +kernel, by decide +kernel,
      by decide +kernel⟩
  · rw [show Session.check benchSession.conduct.console "" = _ from hcheck]
    exact ⟨14, 35, by decide, by decide +kernel, by decide +kernel, by decide +kernel,
      by decide +kernel⟩

end CryoRig.Rig
