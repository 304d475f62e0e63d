import CryoRig.Proofs.StopRig

/-!
# Scenes in which everybody can go on

The rig runs by single steps, and while everybody waits anything may happen to its clock and its
instruments. A scene is *steady* if there is a board for it on which everybody can go on. Steady
scenes lead to steady scenes, and the board is not spoiled as long as no caller empties the slot
while a program waits in the middle of a start.

This may well happen. A stop does not wait for a program any longer than its limit. If it gives up
on a program that is just starting an acquisition, the slot is still empty, and the acquisition gets
into it when the stop has already returned.

## Main definitions

* `CryoRig.Rig.Scene.Move`: what a scene may lead to.
* `CryoRig.Rig.Scene.EmptiesCalmly`: no job waits in the middle of a start when a caller empties the
  slot.
* `CryoRig.Rig.Scene.Steady`: the invariant of scenes.

## Main results

* `CryoRig.Rig.Scene.Steady.move`: steady scenes lead to steady scenes.
* `CryoRig.Rig.Scene.Steady.Follows.not_spoiled`: what spoils a board.
-/

namespace CryoRig.Rig

open Control

variable {κ : Nat} {α β : Type} {site : Site RigSurroundings}

namespace Scene

/-- A party makes a request just now. -/
inductive Asks (c : Scene α) : Party → Request → Prop where
  /-- In the foreground. -/
  | foreground {r : Request} {next : r.Reply → RigWork α}
    (h : c.foreground = .running (.ask r next)) : Asks c .foreground r
  /-- In the background. -/
  | job {w : Waiting α} {n : Nat} {r : Request} {next : r.Reply → RigWork (Turn Job Ending)}
    (hw : c.foreground = .waiting w) (hn : c.current = some n)
    (hj : c.state.jobs[n]? = some (.running (.ask r next))) : Asks c (.job n) r

/-- One request is made at a time. -/
lemma Asks.unique {c : Scene α} {p q : Party} {r r' : Request} (h : c.Asks p r)
    (h' : c.Asks q r') : p = q ∧ r = r' := by
  cases h with
  | foreground hf =>
    cases h' with
    | foreground hf' =>
      rw [hf] at hf'
      cases hf'
      exact ⟨rfl, rfl⟩
    | job hw =>
      rw [hf] at hw
      cases hw
  | job hw hn hj =>
    cases h' with
    | foreground hf =>
      rw [hw] at hf
      cases hf
    | job _ hn' hj' =>
      rw [hn] at hn'
      cases hn'
      rw [hj] at hj'
      cases hj'
      exact ⟨rfl, rfl⟩

lemma not_asks_of_idle {c : Scene α} {w : Waiting α} (hf : c.foreground = .waiting w)
    (hn : c.current = none) (p : Party) (r : Request) : ¬c.Asks p r := by
  intro h
  cases h with
  | foreground hf' =>
    rw [hf] at hf'
    cases hf'
  | job _ hn' _ =>
    rw [hn] at hn'
    cases hn'

/-- A scene leads to another one. Besides the steps of the rig, anything may happen to its clock and
its instruments while everybody waits, and any job may be the next one to go on. -/
inductive Move (site : Site RigSurroundings) (c : Scene α) : Scene α → Prop where
  /-- A step. -/
  | step {d : Scene α} (h : c.step site = .more d) : Move site c d
  /-- Something happens meanwhile. -/
  | meanwhile {w : Waiting α} {s : State} (fresh : Bool) (hw : c.foreground = .waiting w)
    (hn : c.current = none) (hs : Alike c.state s) :
    Move site c { c with state := s, fresh := fresh }
  /-- Nothing happens. -/
  | stay : Move site c c

/-- A party makes calls from the beginning. -/
def IsCaller (callers : Nat) (p : Party) : Prop := ∀ n, p = .job n → n < callers

/-- If a caller empties the slot just now, then no job waits in the middle of a start: no reply that
one of them waits for can still make it start an acquisition in its turn. -/
def EmptiesCalmly (κ callers : Nat) (c : Scene α) : Prop :=
  ∀ p, IsCaller callers p → c.Asks p (.setSlot κ none) →
    ∀ (n : Nat) (w : Waiting (Turn Job Ending)), c.state.jobs[n]? = some (.waiting w) →
      ∀ reply, ¬MayLaunch (w.next reply)

/-- A board shows a scene, and everybody in it can go on. -/
structure Steady (callers : Nat) (c : Scene α) (b : Board κ) : Prop where
  /-- The board shows the rig. -/
  pictures : Pictures b c.state
  /-- No job is a caller that was not one from the beginning. -/
  callers : ∀ n post, b.role (.job n) = .caller post → n < callers
  /-- The foreground makes calls. -/
  caller : b.IsCaller .foreground
  /-- Its work goes on. -/
  running : ∀ work, c.foreground = .running work →
    c.current = none ∧ Settles .foreground (fun _ _ => True) work b
  /-- Its work can go on. -/
  waiting : ∀ w, c.foreground = .waiting w →
    Waits .foreground (b.role .foreground) (fun _ (_ : Board κ) => True) w
  /-- The running job goes on. -/
  current : ∀ n, c.current = some n → ∃ work, c.state.jobs[n]? = some (.running work) ∧
    Settles (.job n) (Continues (.job n)) work b
  /-- The others can go on. -/
  jobs : AllRest b c.state c.current
  /-- While everybody waits the board is lawful. -/
  lawful : ∀ w, c.foreground = .waiting w → c.current = none → b.Lawful

namespace Steady

variable {callers : Nat} {c d : Scene α} {b : Board κ}

lemma of_alike {s : State} {fresh : Bool} (h : Steady callers c b) (hs : Alike c.state s) :
    Steady callers { c with state := s, fresh := fresh } b where
  pictures := h.pictures.of_alike hs
  callers := h.callers
  caller := h.caller
  running := h.running
  waiting := h.waiting
  current n hn := by
    obtain ⟨work, hj, hset⟩ := h.current n hn
    exact ⟨work, by rw [hs.jobs, hj], hset⟩
  jobs n status hn hc := by
    rw [hs.jobs] at hn
    exact h.jobs n status hn hc
  lawful := h.lawful

lemma role_ne_absent (h : Steady callers c b) {n : Nat} {status : JobStatus}
    (hj : c.state.jobs[n]? = some status) (hs : ∀ ending, status ≠ .ended ending) :
    b.role (.job n) ≠ .absent := by
  intro ho
  obtain ⟨hlt, -⟩ := Array.getElem?_eq_some_iff.1 hj
  obtain ⟨ending, he⟩ := (h.pictures.absent n hlt).1 ho
  rw [State.ending?, hj] at he
  cases status with
  | ended ending' => exact hs ending' rfl
  | _ => cases he

lemma settles_current (h : Steady callers c b) {n : Nat} {work : RigWork (Turn Job Ending)}
    (hn : c.current = some n) (hj : c.state.jobs[n]? = some (.running work)) :
    Settles (.job n) (Continues (.job n)) work b := by
  obtain ⟨work', hj', hset⟩ := h.current n hn
  rw [hj] at hj'
  cases hj'
  exact hset

/-- A caller that empties the slot finds no program about to start an acquisition. -/
lemma calm (h : Steady callers c b) (hc : EmptiesCalmly κ callers c) {p : Party}
    (ha : c.Asks p (.setSlot κ none)) (hp : b.IsCaller p) : b.Calm := by
  have hcaller : IsCaller callers p := by
    rintro n rfl
    obtain ⟨post, hp⟩ := hp
    exact h.callers n post hp
  have hcalm := hc p hcaller ha
  intro t token start? ht
  cases start? with
  | none => rfl
  | some a =>
    exfalso
    cases t with
    | foreground =>
      obtain ⟨post, hf⟩ := h.caller
      rw [hf] at ht
      cases ht
    | job n =>
      have hlt : n < c.state.jobs.size := by
        rw [← h.pictures.count]
        exact h.pictures.born n (by simp [ht])
      have hj := Array.getElem?_eq_getElem hlt
      have hne : c.current ≠ some n := by
        intro hn
        cases ha with
        | foreground hf =>
          rw [(h.running _ hf).1] at hn
          cases hn
        | job hw hn' hj' =>
          rw [hn'] at hn
          cases hn
          obtain ⟨post, hp⟩ := hp
          rw [hp] at ht
          cases ht
      have hrest := h.jobs n _ hj hne
      rw [ht] at hrest
      generalize c.state.jobs[n] = status at hj hrest
      cases status with
      | running => exact hrest.1 token a rfl
      | waiting w =>
        obtain ⟨reply, hm⟩ := hrest.1.2.1 token (some a) rfl (by simp)
        exact hcalm n w hj reply hm
      | ended ending =>
        have ho := (h.pictures.absent n hlt).2 ⟨ending, by rw [State.ending?, hj]⟩
        rw [ho] at ht
        cases ht

/-- What becomes of a board in a move. It is only spoiled by a request that a caller makes. -/
structure Follows (c : Scene α) (b b' : Board κ) : Prop where
  /-- What stays does so. -/
  succeeds : b.Succeeds b'
  /-- The board is spoiled just now. -/
  spoiled : b'.spoiled → b.spoiled ∨ ∃ p r, c.Asks p r ∧ b.SpoiledBy p r

lemma Follows.refl (c : Scene α) (b : Board κ) : Follows c b b := ⟨.refl b, .inl⟩

lemma Follows.put {p : Party} {r : Role} (hr : b.Becomes (b.role p) r) :
    Follows c b (b.put p r) :=
  ⟨.put hr, .inl⟩

/-- A board that was not spoiled is not spoiled by a caller that empties the slot calmly. -/
lemma Follows.not_spoiled {b' : Board κ} (hb : Follows c b b') (h : Steady callers c b)
    (hc : EmptiesCalmly κ callers c) (hn : ¬b.spoiled) : ¬b'.spoiled := by
  intro hs
  rcases hb.spoiled hs with hs | ⟨p, r, ha, rfl, hp, hcalm⟩
  · exact hn hs
  · exact hcalm (h.calm hc ha hp)

/-- What a board says of a request that was made when there were so many jobs: a stop was begun with
that mark, and a job was started with that number. -/
def Heeds (count : Nat) (b' : Board κ) (p : Party) (r : Request) : Prop :=
  (r = .programToken → count ≤ b'.mark p) ∧
    ∀ job, r = .spawn job → b'.role (.job count) = .ofJob p job ∧ count < b'.count

lemma heeds_of_answers {b' : Board κ} {p : Party} {r : Request} {reply : r.Reply}
    (ha : (b.enter p r).Answers p r reply b') : Heeds b.count b' p r := by
  constructor
  · rintro rfl
    obtain ⟨-, rfl⟩ := ha
    exact Nat.le_of_eq (if_pos rfl).symm
  · rintro job rfl
    obtain ⟨-, rfl⟩ := ha
    exact ⟨b.role_spawn_self p job, Nat.lt_succ_self _⟩

lemma spoiled_of_asks {p : Party} {r : Request} {reply : r.Reply} {b' : Board κ}
    (hr : c.Asks p r) (ha : (b.enter p r).Answers p r reply b') (hs : b'.spoiled) :
    b.spoiled ∨ ∃ p r, c.Asks p r ∧ b.SpoiledBy p r := by
  rcases spoiled_of_answers ha hs with hs | hs
  · exact .inl ((b.spoiled_enter p r).1 hs)
  · obtain ⟨rfl, hs⟩ := hs
    exact .inr ⟨p, _, hr, rfl, hs⟩

lemma heeds_of_mayWait {b' : Board κ} {p : Party} {r : Request} (h : MayWait r) :
    Heeds b.count b' p r :=
  ⟨by rintro rfl; exact h.elim, by rintro job rfl; exact h.elim⟩

lemma ne_new (h : Steady callers c b) {n : Nat} {status : JobStatus}
    (hj : c.state.jobs[n]? = some status) : Party.job n ≠ .job b.count := by
  obtain ⟨hlt, -⟩ := Array.getElem?_eq_some_iff.1 hj
  simp only [ne_eq, Party.job.injEq, h.pictures.count]
  omega

lemma callers_put {p : Party} {r : Role}
    (h : ∀ n post, b.role (.job n) = .caller post → n < callers) (hr : b.Becomes (b.role p) r) :
    ∀ n post, (b.put p r).role (.job n) = .caller post → n < callers := by
  intro n post hn
  rw [Board.role_put] at hn
  split at hn
  · rename_i hp
    subst hp hn
    generalize hb : b.role (.job n) = role at hr
    cases hr
    exact h n _ hb
  · exact h n post hn

/-- While the foreground waits, whatever the jobs do is no concern of it. -/
lemma background {b' : Board κ} {w : Waiting α} (h : Steady callers c b)
    (hf : c.foreground = .waiting w) (hd : d.foreground = .waiting w)
    (hrole : b'.role .foreground = b.role .foreground) (hb : Pictures b' d.state)
    (hcallers : ∀ n post, b'.role (.job n) = .caller post → n < callers)
    (hcurrent : ∀ n, d.current = some n → ∃ work, d.state.jobs[n]? = some (.running work) ∧
      Settles (.job n) (Continues (.job n)) work b')
    (hjobs : AllRest b' d.state d.current) (hl : d.current = none → b'.Lawful) :
    Steady callers d b' where
  pictures := hb
  callers := hcallers
  caller := by
    rw [Board.IsCaller, hrole]
    exact h.caller
  running work hwork := by
    rw [hd] at hwork
    cases hwork
  waiting w' hw' := by
    rw [hd] at hw'
    cases hw'
    rw [hrole]
    exact h.waiting w hf
  current := hcurrent
  jobs := hjobs
  lawful _ _ := hl

/-- A job has had a reply and goes on running. -/
lemma goesOn {b' : Board κ} {w : Waiting α} {n : Nat} {t : State} {status : JobStatus}
    {work : RigWork (Turn Job Ending)} (h : Steady callers c b) (hf : c.foreground = .waiting w)
    (hj : c.state.jobs[n]? = some status) (hstatus : ∀ ending, status ≠ .ended ending)
    (hb : Pictures b' t) (hsucc : b.Succeeds b') (hsame : b.SameRoles b')
    (hset : Settles (.job n) (Continues (.job n)) work b') (hrest : AllRest b' t (some n))
    (fresh : Bool) :
    Steady callers ⟨t.setJob n (.running work), c.foreground, some n, fresh⟩ b' := by
  have hpresent : b.role (.job n) ≠ .absent := h.role_ne_absent hj hstatus
  have hrole : b'.role (.job n) = b.role (.job n) := hsame.role_eq (h.ne_new hj)
  have hput : b'.put (.job n) (b'.role (.job n)) = b' := b'.put_self _
  refine h.background hf hf (hsame.role_eq (by simp)) ?_
    (fun m post hm => h.callers m post (hsame.role_eq_caller hm)) ?_ ?_ (by rintro ⟨⟩)
  · have hpic := hb.setJob (n := n) (b'.role (.job n)) (.running work) (by rwa [hrole])
      (by rw [hrole]; simp [hpresent])
    rwa [hput] at hpic
  · rintro m ⟨⟩
    refine ⟨work, ?_, hset⟩
    have hlt : n < t.jobs.size := by
      rw [← hb.count]
      exact Nat.lt_of_lt_of_le (h.pictures.born n hpresent) hsucc.count_le
    rw [State.setJob, Array.getElem?_setIfInBounds, if_pos rfl, if_pos hlt]
  · have hrun := hrest.run (b'.role (.job n)) (.running work)
    rwa [hput] at hrun

/-- The foreground makes a request. -/
lemma stepForeground {r : Request} {next : r.Reply → RigWork α} (h : Steady callers c b)
    (hf : c.foreground = .running (.ask r next))
    (hs : c.step site = .more d) :
    ∃ b', Steady callers d b' ∧ Follows c b b' ∧ Heeds b.count b' .foreground r := by
  obtain ⟨hcur, hset⟩ := h.running _ hf
  have hjobs := h.jobs
  rw [hcur] at hjobs
  simp only [step, hf] at hs
  rcases ask_cases h.pictures hset with
    ⟨reply, t, b', hask, hb', hset', hsucc, ha, hsame, hrest⟩ |
    ⟨w, t, role, hask, hmay, ht, hb', hfit, hw⟩
  · rw [hask] at hs
    cases hs
    refine ⟨b', ⟨hb', fun n post hn => h.callers n post (hsame.role_eq_caller hn), ?_, ?_, ?_, ?_,
      hrest _ h.jobs, ?_⟩, ⟨hsucc, spoiled_of_asks (.foreground hf) ha⟩, heeds_of_answers ha⟩
    · rw [Board.IsCaller, hsame.role_eq (by simp)]
      exact h.caller
    · rintro _ ⟨⟩
      exact ⟨hcur, hset'⟩
    · rintro _ ⟨⟩
    · intro n hn
      rw [hcur] at hn
      cases hn
    · rintro _ ⟨⟩
  · rw [hask] at hs
    cases hs
    refine ⟨(b.enter .foreground r).put .foreground role, ⟨hb'.put_foreground role, ?_, ?_, ?_, ?_,
      ?_, ?_, ?_⟩, ⟨(Board.Succeeds.put hfit.1).of_enter,
        fun hs => .inl ((b.spoiled_enter _ _).1 hs)⟩, heeds_of_mayWait hmay⟩
    · intro n post hn
      rw [Board.role_put_of_ne _ _ (by simp), Board.role_enter] at hn
      exact h.callers n post hn
    · obtain ⟨post, hp⟩ := h.caller
      have hr := hfit.1
      rw [Board.role_enter, hp] at hr
      cases hr with
      | caller _ post' => exact ⟨post', Board.role_put_self ..⟩
      | finish => exact absurd rfl hw.1.1
    · rintro _ ⟨⟩
    · rintro _ ⟨⟩
      rwa [Board.role_put_self]
    · intro n hn
      rw [hcur] at hn
      cases hn
    · refine h.jobs.of_eq ht fun n => ?_
      rw [Board.role_put_of_ne _ _ (by simp), Board.role_enter]
    · exact fun _ _ _ => hfit.2

/-- The running job makes a request. -/
lemma stepAsk {w₀ : Waiting α} {n : Nat} {r : Request}
    {next : r.Reply → RigWork (Turn Job Ending)} (h : Steady callers c b)
    (hf : c.foreground = .waiting w₀) (hn : c.current = some n)
    (hj : c.state.jobs[n]? = some (.running (.ask r next))) :
    ∃ b', Steady callers (c.stepJob site n) b' ∧ Follows c b b' ∧ Heeds b.count b' (.job n) r := by
  have hset := h.settles_current hn hj
  have hpresent : b.role (.job n) ≠ .absent := h.role_ne_absent hj (by simp)
  have hjobs := h.jobs
  rw [hn] at hjobs
  rcases ask_cases h.pictures hset with
    ⟨reply, t, b', hask, hb', hset', hsucc, ha, hsame, hrest⟩ |
    ⟨w, t, role, hask, hmay, ht, hb', hfit, hw⟩
  · have hstep : c.stepJob site n =
        ⟨t.setJob n (.running (next reply)), c.foreground, some n, c.fresh⟩ := by
      rw [← hn]
      simp only [stepJob, hj, hask]
    rw [hstep]
    refine ⟨b', ?_, ⟨hsucc, spoiled_of_asks (.job hf hn hj) ha⟩, heeds_of_answers ha⟩
    exact h.goesOn hf hj (by simp) hb' hsucc hsame hset' (hrest _ hjobs) c.fresh
  · have hstep : c.stepJob site n =
        { c with state := t.setJob n (.waiting w), current := none } := by
      simp only [stepJob, hj, hask]
    rw [hstep]
    have hforeground : ((b.enter (.job n) r).put (.job n) role).role .foreground =
        b.role .foreground := by
      rw [Board.role_put_of_ne _ _ (by simp), Board.role_enter]
    refine ⟨(b.enter (.job n) r).put (.job n) role, h.background hf hf hforeground ?_ ?_ ?_ ?_ ?_,
      ⟨(Board.Succeeds.put hfit.1).of_enter, fun hs => .inl ((b.spoiled_enter _ _).1 hs)⟩,
      heeds_of_mayWait hmay⟩
    · exact hb'.setJob _ _ (by rwa [Board.role_enter]) (by simp [hw.1.1])
    · exact callers_put (fun m post hm => h.callers m post (by rwa [Board.role_enter] at hm)) hfit.1
    · rintro _ ⟨⟩
    · refine AllRest.rest (hjobs.of_eq ht fun m => ?_) hw
      rw [Board.role_enter]
    · exact fun _ => hfit.2

/-- The running job has come to the end of a turn. -/
lemma stepDone (hs : Confined site) {w₀ : Waiting α} {n : Nat} {turn : Turn Job Ending}
    (h : Steady callers c b) (hf : c.foreground = .waiting w₀) (hn : c.current = some n)
    (hj : c.state.jobs[n]? = some (.running (.done turn))) :
    ∃ b', Steady callers (c.stepJob site n) b' ∧ Follows c b b' := by
  have hset : Continues (.job n) turn b := h.settles_current hn hj
  have hpresent : b.role (.job n) ≠ .absent := h.role_ne_absent hj (by simp)
  have hlt : n < c.state.jobs.size := by
    rw [← h.pictures.count]
    exact h.pictures.born n hpresent
  have hjobs := h.jobs
  rw [hn] at hjobs
  have hforeground (r : Role) : (b.put (.job n) r).role .foreground = b.role .foreground :=
    Board.role_put_of_ne _ _ (by simp)
  cases turn with
  | again job =>
    obtain ⟨hruns, starter, hfit⟩ := hset
    have hstep : c.stepJob site n =
        { c with state := c.state.setJob n (.running (turnOf site job)) } := by
      simp only [stepJob, hj]
    rw [hstep]
    refine ⟨b.put (.job n) (.ofJob starter job), h.background hf hf (hforeground _) ?_
      (callers_put h.callers hfit.1) ?_ ?_ ?_, .put hfit.1⟩
    · exact h.pictures.setJob _ _ hpresent (by cases job <;> simp [Role.ofJob])
    · intro m hm
      rw [hn] at hm
      cases hm
      refine ⟨turnOf site job, ?_, ?_⟩
      · rw [State.setJob, Array.getElem?_setIfInBounds, if_pos rfl, if_pos hlt]
      · refine keeps_turnOf hs hruns starter _ (hfit.2.fits (Board.role_put_self ..) ?_)
        cases job with
        | program => exact .go ..
        | ticking | supervision => exact .sample ..
    · have hrun := hjobs.run (.ofJob starter job) (.running (turnOf site job))
      rwa [← hn] at hrun
    · intro hm
      rw [hn] at hm
      cases hm
  | _ ending =>
    have hfit : b.Fits (.job n) .absent := hset
    have hstep : c.stepJob site n =
        { c with state := (c.state.setJob n (.ended ending)).wake (State.isJoinOf n)
                 current := none } := by
      simp only [stepJob, hj]
    have hpic := h.pictures.setJob .absent (.ended ending) hpresent (by simp)
    rw [hstep]
    refine ⟨b.put (.job n) .absent, h.background hf hf (hforeground _)
      (hpic.of_alike ⟨rfl, rfl, rfl, rfl, rfl, rfl⟩) (callers_put h.callers hfit.1) ?_ ?_ ?_,
      .put hfit.1⟩
    · rintro _ ⟨⟩
    · exact hjobs.rest trivial
    · exact fun _ => hfit.2

/-- A job that was waiting or has just been started goes on. -/
lemma takeJob {w : Waiting α} (h : Steady callers c b) (hf : c.foreground = .waiting w)
    (hn : c.current = none) (number : Nat) (rest : List Nat) :
    ∃ b', Steady callers { c.takeJob number rest with fresh := false } b' ∧ Follows c b b' := by
  have hl := h.lawful w hf hn
  have hs : Alike c.state { c.state with ready := rest } := ⟨rfl, rfl, rfl, rfl, rfl, rfl⟩
  have hidle :
      Steady callers { c with state := { c.state with ready := rest }, fresh := false } b :=
    h.of_alike hs
  have hjobs := hidle.jobs
  rw [hn] at hjobs
  unfold Scene.takeJob
  dsimp only
  cases hj : c.state.jobs[number]? with
  | none => exact ⟨b, hidle, .refl c b⟩
  | some status =>
    have hrest := hjobs number status hj (by simp)
    cases status with
    | ended => exact ⟨b, hidle, .refl c b⟩
    | running work =>
      refine ⟨b, h.background hf hf rfl hidle.pictures h.callers ?_
        (fun n status hn' _ => hjobs n status hn' (by simp)) (by rintro ⟨⟩), .refl c b⟩
      rintro n ⟨⟩
      exact ⟨work, hj, hrest.2 b hl rfl⟩
    | waiting w' =>
      dsimp only
      cases hr : resume? { c.state with ready := rest } (.job number) w' with
      | none => exact ⟨b, hidle, .refl c b⟩
      | some resumed =>
        obtain ⟨work, t⟩ := resumed
        obtain ⟨b', hb', hset, hsucc, hspoiled, hsame, hall⟩ :=
          resume_cases hidle.pictures hl hrest hr
        have hsome : AllRest b' t (some number) :=
          fun n status hn' _ => hall _ hjobs n status hn' (by simp)
        exact ⟨b', h.goesOn hf hj (by simp) hb' hsucc hsame hset hsome false,
          ⟨hsucc, fun hs => .inl (hspoiled hs)⟩⟩

/-- A step while everybody waits. -/
lemma stepIdle {w : Waiting α} (h : Steady callers c b) (hf : c.foreground = .waiting w)
    (hn : c.current = none) (hs : c.stepIdle w = .more d) :
    ∃ b', Steady callers d b' ∧ Follows c b b' := by
  have hl := h.lawful w hf hn
  unfold Scene.stepIdle at hs
  dsimp only at hs
  split at hs
  · rename_i work t hr
    cases hs
    have hresume : resume? c.state .foreground w = some (work, t) := by
      split at hr
      · exact hr
      · cases hr
    obtain ⟨b', hb', hset, hsucc, hspoiled, hsame, hall⟩ :=
      resume_cases h.pictures hl (h.waiting w hf) hresume
    refine ⟨b', ⟨hb', fun m post hm => h.callers m post (hsame.role_eq_caller hm), ?_, ?_, ?_, ?_,
      hall _ h.jobs, ?_⟩, ⟨hsucc, fun hs => .inl (hspoiled hs)⟩⟩
    · rw [Board.IsCaller, hsame.role_eq (by simp)]
      exact h.caller
    · rintro _ ⟨⟩
      exact ⟨hn, hset⟩
    · rintro _ ⟨⟩
    · intro n hn'
      rw [hn] at hn'
      cases hn'
    · rintro _ ⟨⟩
  · split at hs
    · cases hs
      exact h.takeJob hf hn _ _
    · split at hs
      · cases hs
        exact ⟨b, h.of_alike ⟨rfl, rfl, rfl, rfl, rfl, rfl⟩, .refl c b⟩
      · cases hs

/-- Whatever a scene leads to, everybody in it can go on again. -/
theorem move (hs : Confined site) (h : Steady callers c b) (hm : Move site c d) :
    ∃ b', Steady callers d b' ∧ Follows c b b' ∧
      ∀ p r, c.Asks p r → d = c ∨ Heeds b.count b' p r := by
  cases hm with
  | stay => exact ⟨b, h, .refl c b, fun _ _ _ => .inl rfl⟩
  | meanwhile fresh hw hn ha =>
    exact ⟨b, h.of_alike ha, .refl c b, fun p r hr => absurd hr (not_asks_of_idle hw hn p r)⟩
  | step hstep =>
    cases hf : c.foreground with
    | running work =>
      cases work with
      | done value =>
        simp only [step, hf] at hstep
        cases hstep
      | ask r next =>
        obtain ⟨b', hd, hsucc, hheeds⟩ := h.stepForeground hf hstep
        refine ⟨b', hd, hsucc, fun p r' hr => .inr ?_⟩
        obtain ⟨rfl, rfl⟩ := hr.unique (.foreground hf)
        exact hheeds
    | waiting w =>
      simp only [step, hf] at hstep
      cases hn : c.current with
      | none =>
        simp only [hn] at hstep
        obtain ⟨b', hd, hsucc⟩ := h.stepIdle hf hn hstep
        exact ⟨b', hd, hsucc, fun p r hr => absurd hr (not_asks_of_idle hf hn p r)⟩
      | some n =>
        simp only [hn] at hstep
        cases hstep
        obtain ⟨work, hj, -⟩ := h.current n hn
        cases work with
        | done turn =>
          obtain ⟨b', hd, hsucc⟩ := h.stepDone hs hf hn hj
          refine ⟨b', hd, hsucc, fun p r hr => ?_⟩
          -- the running job is between two turns, so nobody makes a request
          cases hr with
          | foreground hf' =>
            rw [hf] at hf'
            cases hf'
          | job _ hn' hj' =>
            rw [hn] at hn'
            cases hn'
            rw [hj] at hj'
            cases hj'
        | ask r next =>
          obtain ⟨b', hd, hsucc, hheeds⟩ := h.stepAsk hf hn hj
          refine ⟨b', hd, hsucc, fun p r' hr => .inr ?_⟩
          obtain ⟨rfl, rfl⟩ := hr.unique (.job hf hn hj)
          exact hheeds

end Steady

end Scene

end CryoRig.Rig
