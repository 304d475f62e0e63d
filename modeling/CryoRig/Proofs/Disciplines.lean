import CryoRig.Proofs.Happenings

/-!
# Working under a discipline

Whoever works on a rig keeps something in mind of what it has asked for. A *discipline* says what
that is, and which requests may be made with what in mind. If no request that it allows for breaks
an invariant of the rig, then nothing does that happens on a rig on which everybody works under that
discipline, whatever the replies are and however the parties take turns.

## Main definitions

* `CryoRig.Rig.Discipline`: what is kept in mind, and which requests may be made.
* `CryoRig.Rig.Discipline.Obeys`: work under a discipline.
* `CryoRig.Rig.Memory`: what everybody has in mind, which jobs were started, and what was told.
* `CryoRig.Rig.Discipline.Sound`: a discipline that preserves an invariant of the rig.
* `CryoRig.Rig.Scene.Orderly`: everybody in a scene works under a discipline.

## Main results

* `CryoRig.Rig.Scene.Orderly.happens`, `CryoRig.Rig.Scene.Orderly.step`: orderly scenes lead to
  orderly scenes.
* `CryoRig.Rig.Scene.Follows.started_iff`: the jobs that were started are those that were asked for.
-/

namespace CryoRig.Rig

open Control Process

variable {G α β : Type} {site : Site RigSurroundings}

/-- A reply that may come. Whoever waits without a limit for a place or an end does not give up. -/
def Possible : (r : Request) → r.Reply → Prop
  | .join _ limit, (ending : Option Ending) => limit = none → ending ≠ none
  | .takeDesk limit, (taken : Bool) => limit = none → taken = true
  | _, _ => True

/-- What is kept in mind of requests, and which requests may be made with what in mind. -/
structure Discipline (G : Type) where
  /-- A request may be made. -/
  Allows : G → Request → Prop
  /-- What is kept in mind while a reply is waited for. -/
  entered : G → Request → G
  /-- What is kept in mind once a reply is there. -/
  after : G → (r : Request) → r.Reply → G
  /-- What somebody has in mind who has asked for nothing yet, as every turn of a job begins. -/
  idle : G
  /-- A job may end. -/
  Rests : G → Prop

namespace Discipline

variable (D : Discipline G)

/-- Wherever some work comes to with something in mind it makes only requests that it may make, and
it ends with a result and something in mind that are as stated. -/
def Obeys (Q : β → G → Prop) : RigWork β → G → Prop
  | .done b, g => Q b g
  | .ask r next, g =>
    D.Allows g r ∧ ∀ reply, Possible r reply → Obeys Q (next reply) (D.after g r reply)

/-- A request that may be made, and of which nothing is kept in mind. -/
def Ignores (g : G) (r : Request) : Prop := D.Allows g r ∧ ∀ reply, D.after g r reply = g

variable {D} {Q : β → G → Prop} {g : G}

lemma Obeys.mono {Q' : β → G → Prop} {w : RigWork β} (h : D.Obeys Q w g)
    (hQ : ∀ b g, Q b g → Q' b g) : D.Obeys Q' w g := by
  induction w generalizing g with
  | done b => exact hQ b g h
  | ask r next ih => exact ⟨h.1, fun reply hr => ih reply (h.2 reply hr)⟩

/-- Work in sequence. -/
lemma Obeys.bind {P : α → G → Prop} {w : RigWork α} {f : α → RigWork β} (h : D.Obeys P w g)
    (hf : ∀ a g, P a g → D.Obeys Q (f a) g) : D.Obeys Q (w >>= f) g := by
  change D.Obeys Q (w.bind f) g
  induction w generalizing g with
  | done a => exact hf a g h
  | ask r next ih => exact ⟨h.1, fun reply hr => ih reply (h.2 reply hr)⟩

/-- Work of which nothing is kept in mind. -/
lemma obeys_of_yields {P : β → Prop} {w : RigWork β} (h : w.Yields (D.Ignores g) P)
    (hP : ∀ b, P b → Q b g) : D.Obeys Q w g := by
  induction w with
  | done b => exact hP b h
  | ask r next ih =>
    refine ⟨h.1.1, fun reply _ => ?_⟩
    rw [h.1.2 reply]
    exact ih reply (h.2 reply)

end Discipline

/-! ## What everybody has in mind -/

/-- What everybody has in mind, which jobs were started, and what was told. -/
structure Memory (G : Type) where
  /-- What a party has in mind. -/
  mind : Party → G
  /-- What a job was started as. -/
  started : Nat → Option Job
  /-- All replies, each with the party that had it. -/
  told : List (Party × Exchange RigSurroundings)

namespace Memory

/-- A party has something else in mind. -/
def set (m : Memory G) (p : Party) (g : G) : Memory G :=
  { m with mind := fun q => if q = p then g else m.mind q }

/-- A job may be started, there being so many of them. -/
def start (m : Memory G) (count : Nat) : Request → Memory G
  | .spawn job => { m with started := fun k => if k = count then some job else m.started k }
  | _ => m

/-- A party is told something. -/
def tell (m : Memory G) (p : Party) (e : Exchange RigSurroundings) : Memory G :=
  { m with told := m.told ++ [(p, e)] }

/-- A party that had something in mind has a reply, there being so many jobs. -/
def reply (D : Discipline G) (m : Memory G) (p : Party) (g : G) (count : Nat) (r : Request)
    (answer : r.Reply) : Memory G :=
  ((m.set p (D.after g r answer)).start count r).tell p ⟨r, answer⟩

variable {D : Discipline G} {m : Memory G} {p q : Party} {g : G} {count : Nat} {r : Request}
  {answer : r.Reply}

@[simp] lemma mind_set_self : (m.set p g).mind p = g := if_pos rfl

lemma mind_set_of_ne (h : q ≠ p) : (m.set p g).mind q = m.mind q := if_neg h

lemma mind_set_mind : (m.set p (m.mind p)).mind = m.mind := by
  funext q
  by_cases hq : q = p
  · rw [hq, mind_set_self]
  · exact mind_set_of_ne hq

@[simp] lemma started_set : (m.set p g).started = m.started := rfl

@[simp] lemma told_set : (m.set p g).told = m.told := rfl

@[simp] lemma mind_start : (m.start count r).mind = m.mind := by
  cases r <;> rfl

@[simp] lemma told_start : (m.start count r).told = m.told := by
  cases r <;> rfl

/-- A reply is kept in mind by the party that has it. -/
lemma mind_reply :
    (m.reply D p g count r answer).mind = (m.set p (D.after g r answer)).mind := mind_start

@[simp] lemma mind_reply_self : (m.reply D p g count r answer).mind p = D.after g r answer := by
  rw [mind_reply, mind_set_self]

lemma mind_reply_of_ne (h : q ≠ p) : (m.reply D p g count r answer).mind q = m.mind q := by
  rw [mind_reply, mind_set_of_ne h]

lemma told_reply : (m.reply D p g count r answer).told = m.told ++ [(p, ⟨r, answer⟩)] :=
  congrArg (· ++ _) told_start

lemma started_reply (hr : ∀ job, r ≠ .spawn job) :
    (m.reply D p g count r answer).started = m.started := by
  cases r with
  | spawn job => exact absurd rfl (hr job)
  | _ => rfl

end Memory

/-! ## Waits -/

/-- A party began to wait for the reply to a request, with that alarm. -/
def Began (p : Party) (r : Request) (alarm : Option Nat) : Prop :=
  ∃ s : State, (s.enter p r).1 = alarm ∧ (s.enter p r).2.answer? p alarm r = none

/-- Work that waits was allowed to make its request, and it obeys when it goes on. -/
def Discipline.Waits (D : Discipline G) (p : Party) (Q : β → G → Prop) (w : Waiting β) (g : G) :
    Prop :=
  Began p w.request w.alarm ∧ ∃ g₀, g = D.entered g₀ w.request ∧ D.Allows g₀ w.request ∧
    ∀ reply, Possible w.request reply → D.Obeys Q (w.next reply) (D.after g₀ w.request reply)

section Waits

variable {s t : State} {p : Party} {r : Request} {alarm : Option Nat} {reply : r.Reply}

lemma Began.mayWait (h : Began p r alarm) : MayWait r := by
  obtain ⟨s, -, h⟩ := h
  exact mayWait_of_answer?_eq_none h

lemma Began.ne_spawn (h : Began p r alarm) (job : Job) : r ≠ .spawn job := by
  rintro rfl
  exact h.mayWait

lemma Began.untimed (h : Began p r alarm) (hr : Untimed r) : alarm = none := by
  obtain ⟨s, rfl, -⟩ := h
  exact alarm_enter_of_untimed hr

/-- Nothing but a possible reply comes. -/
lemma possible_of_answer? (h : s.answer? p alarm r = some (reply, t))
    (hr : Untimed r → alarm = none) : Possible r reply := by
  cases r with
  | join job limit =>
    rintro rfl
    cases hr rfl
    simp only [State.answer?, State.rung, Option.any_none, Bool.false_eq_true, if_false] at h
    split at h
    · cases h
      simp
    · cases h
  | takeDesk limit =>
    rintro rfl
    cases hr rfl
    simp only [State.answer?, State.rung, Option.any_none, Bool.false_eq_true, if_false] at h
    split at h
    · cases h
      rfl
    · cases h
  | _ => trivial

end Waits

/-! ## Sound disciplines -/

/-- Nothing that is asked under a discipline breaks an invariant, as long as it is in order. -/
structure Discipline.Sound (D : Discipline G) (Inv : State → Memory G → Prop)
    (InOrder : State → Memory G → Party → Request → Prop) : Prop where
  /-- A request is made, and the reply is there. -/
  answers : ∀ {s t : State} {m : Memory G} {p : Party} {r : Request} {reply : r.Reply},
    Inv s m → D.Allows (m.mind p) r → InOrder s m p r →
    (s.enter p r).2.answer? p (s.enter p r).1 r = some (reply, t) →
    Inv t (m.reply D p (m.mind p) s.jobs.size r reply)
  /-- A request is made, and the reply is not there yet. -/
  waits : ∀ {s : State} {m : Memory G} {p : Party} {r : Request},
    Inv s m → D.Allows (m.mind p) r → InOrder s m p r →
    (s.enter p r).2.answer? p (s.enter p r).1 r = none →
    Inv (s.enter p r).2 (m.set p (D.entered (m.mind p) r))
  /-- A reply has come. -/
  resumes : ∀ {s t : State} {m : Memory G} {p : Party} {g : G} {r : Request} {alarm : Option Nat}
    {reply : r.Reply}, Inv s m → m.mind p = D.entered g r → D.Allows g r → Began p r alarm →
    s.answer? p alarm r = some (reply, t) → Inv t (m.reply D p g s.jobs.size r reply)
  /-- Nothing is asked. -/
  quiet : ∀ {s t : State} {m : Memory G}, Inv s m → Quiet s t → Inv t m

/-! ## What a request passes on -/

/-- What is kept in mind when a party makes a request, with its reply or without it. -/
structure Passes (s t : State) (p : Party) (r : Request) (m m' : Memory G) :
    Prop where
  /-- It is no concern of the others. -/
  others : ∀ q, q ≠ p → m'.mind q = m.mind q
  /-- No job is started unless it was asked for. -/
  jobs : (t.jobs = s.jobs ∧ m'.started = m.started) ∨
    ∃ job, r = .spawn job ∧ t.jobs = s.jobs.push (.running (.done (.again job))) ∧
      m'.started = fun k => if k = s.jobs.size then some job else m.started k

/-- How a turn of a job may end. -/
def Discipline.TurnEnds (D : Discipline G) : Turn Job Ending → G → Prop
  | .again _, g => g = D.idle
  | .over _, g => D.Rests g

/-- How work may end. -/
def Discipline.Ends (D : Discipline G) : (p : Party) → p.Result α → G → Prop
  | .foreground, _, g => D.Rests g
  | .job _, turn, g => D.TurnEnds turn g

/-- A party works under a discipline. -/
def Discipline.Fares (D : Discipline G) (p : Party) : Foreground (p.Result α) → G → Prop
  | .running work, g => D.Obeys (D.Ends p) work g
  | .waiting w, g => D.Waits p (D.Ends p) w g

section Passes

variable {D : Discipline G} {s t u : State} {p : Party} {r : Request} {m : Memory G} {g : G}

lemma Passes.set (ht : t.jobs = s.jobs) : Passes s t p r m (m.set p g) :=
  ⟨fun _ hq => Memory.mind_set_of_ne hq, .inl ⟨ht, rfl⟩⟩

lemma Passes.reply {reply : r.Reply} {alarm : Option Nat} (hu : u.jobs = s.jobs)
    (h : u.answer? p alarm r = some (reply, t)) :
    Passes s t p r m (m.reply D p g s.jobs.size r reply) := by
  refine ⟨fun q hq => Memory.mind_reply_of_ne hq, ?_⟩
  · rcases jobs_of_answer? h with ht | ⟨job, rfl, ht⟩
    · refine .inl ⟨ht.trans hu, Memory.started_reply ?_⟩
      rintro job rfl
      cases h
      simpa using congrArg Array.size ht
    · exact .inr ⟨job, rfl, by rw [ht, hu], rfl⟩

end Passes

/-! ## Orderly scenes -/

namespace Scene

/-- Everybody in a scene works under a discipline, and an invariant holds of the rig. -/
structure Orderly (D : Discipline G) (Inv : State → Memory G → Prop) (c : Scene α)
    (m : Memory G) : Prop where
  /-- The invariant. -/
  inv : Inv c.state m
  /-- Whoever is at something. -/
  fares : ∀ p x, c.at? p = some x → D.Fares p x (m.mind p)
  /-- Whoever is at nothing. -/
  rests : ∀ p, c.at? p = none → D.Rests (m.mind p)
  /-- Jobs that are not there have asked for nothing. -/
  idle : ∀ n, c.state.jobs.size ≤ n → m.mind (.job n) = D.idle
  /-- Nor were they started. -/
  started : ∀ n, c.state.jobs.size ≤ n → m.started n = none

/-- What becomes of the jobs that were started, when something is asked. -/
def Follows (asks : Party → Request → Prop) (c d : Scene α) (m m' : Memory G) : Prop :=
  (d.state.jobs.size = c.state.jobs.size ∧ m'.started = m.started) ∨
    ∃ p job, asks p (.spawn job) ∧ d.state.jobs.size = c.state.jobs.size + 1 ∧
      m'.started = fun k => if k = c.state.jobs.size then some job else m.started k

section Orderly

variable {D : Discipline G} {Inv : State → Memory G → Prop}
  {InOrder : State → Memory G → Party → Request → Prop} {c d : Scene α} {m m' : Memory G}
  {asks : Party → Request → Prop} {p : Party} {r : Request} {t : State}

lemma Follows.of_passes (hr : asks p r) (h : Passes c.state t p r m m')
    (hd : d.state.jobs.size = t.jobs.size) : Follows asks c d m m' := by
  rcases h.jobs with ⟨ht, hm⟩ | ⟨job, rfl, ht, hm⟩
  · exact .inl ⟨by rw [hd, ht], hm⟩
  · exact .inr ⟨p, job, hr, by rw [hd, ht, Array.size_push], hm⟩

namespace Orderly

/-- What is asked may be asked. -/
lemma allows (h : Orderly D Inv c m) (hr : c.Asks p r) : D.Allows (m.mind p) r := by
  obtain ⟨next, hp⟩ := hr.at?
  exact (h.fares p _ hp).1

/-- Whoever is at something is still at it when others have been told something, and there may be
a new job. -/
lemma fares_of_passes (h : Orderly D Inv c m) (hp : Passes c.state t p r m m') {q : Party}
    {x : Foreground (q.Result α)} (hq : q ≠ p)
    (hx : ({ c with state := t } : Scene α).at? q = some x) : D.Fares q x (m'.mind q) := by
  rw [hp.others q hq]
  rcases hp.jobs with ⟨ht, -⟩ | ⟨job, -, ht, -⟩
  · exact h.fares q x ((at?_mk ht q).symm.trans hx)
  · by_cases hnew : q = .job c.state.jobs.size
    · subst hnew
      cases (at?_push_self ht).symm.trans hx
      exact h.idle _ (Nat.le_refl _)
    · exact h.fares q x ((at?_push_of_ne ht hnew).symm.trans hx)

/-- Whoever is at nothing then was at nothing before. -/
lemma rests_of_passes (h : Orderly D Inv c m) (hp : Passes c.state t p r m m') {q : Party}
    (hq : q ≠ p) (hx : ({ c with state := t } : Scene α).at? q = none) : D.Rests (m'.mind q) := by
  rw [hp.others q hq]
  rcases hp.jobs with ⟨ht, -⟩ | ⟨job, -, ht, -⟩
  · exact h.rests q ((at?_mk ht q).symm.trans hx)
  · refine h.rests q ((at?_push_of_ne ht ?_).symm.trans hx)
    rintro rfl
    cases (at?_push_self ht).symm.trans hx

/-- A party turns to something else. -/
lemma goes (hD : D.Sound Inv InOrder) (h : Orderly D Inv c m) {x y : Foreground (p.Result α)}
    (hx : c.at? p = some x) (hp : Passes c.state t p r m m') (ht : Inv t m')
    (hy : D.Fares p y (m'.mind p)) : Orderly D Inv ({ c with state := t }.put p y) m' := by
  have hx' : ({ c with state := t } : Scene α).at? p = some x := by
    rcases hp.jobs with ⟨hj, -⟩ | ⟨job, -, hj, -⟩
    · exact (at?_mk hj p).trans hx
    · refine (at?_push_of_ne hj ?_).trans hx
      rintro rfl
      exact absurd (lt_size_of_at? hx) (Nat.lt_irrefl _)
  have hsize : c.state.jobs.size ≤ t.jobs.size := by
    rcases hp.jobs with ⟨hj, -⟩ | ⟨job, -, hj, -⟩
    · exact Nat.le_of_eq (congrArg Array.size hj).symm
    · rw [hj, Array.size_push]
      omega
  refine ⟨hD.quiet ht (quiet_put hx'), fun q z hz => ?_, fun q hq => ?_, fun n hn => ?_,
    fun n hn => ?_⟩
  · by_cases hq : q = p
    · subst hq
      cases (at?_put_self hx').symm.trans hz
      exact hy
    · exact h.fares_of_passes hp hq ((at?_put_of_ne hq).symm.trans hz)
  · have hne : q ≠ p := by
      rintro rfl
      cases (at?_put_self hx').symm.trans hq
    exact h.rests_of_passes hp hne ((at?_put_of_ne hne).symm.trans hq)
  · rw [size_put] at hn
    rw [hp.others, h.idle n (Nat.le_trans hsize hn)]
    rintro rfl
    exact absurd (lt_size_of_at? hx) (Nat.not_lt.2 (Nat.le_trans hsize hn))
  · rw [size_put] at hn
    rcases hp.jobs with ⟨hj, hm⟩ | ⟨job, -, hj, hm⟩
    · rw [hm]
      exact h.started n (Nat.le_trans hsize hn)
    · change t.jobs.size ≤ n at hn
      rw [hj, Array.size_push] at hn
      rw [hm]
      dsimp only
      rw [if_neg (by omega)]
      exact h.started n (by omega)

/-- When nobody asks and nobody is told anything, everybody keeps in mind what they had. -/
lemma quietly (hD : D.Sound Inv InOrder)
    (hsite : ∀ job, D.Obeys D.TurnEnds (turnOf site job) D.idle) (h : Orderly D Inv c m)
    (hh : Happens site c none none d) :
    Orderly D Inv d m ∧ d.state.jobs.size = c.state.jobs.size := by
  cases hh with
  | @turn n job hn =>
    have hg : m.mind (.job n) = D.idle := h.fares _ _ hn
    have hpass : Passes c.state c.state (.job n) .clock m m := ⟨fun _ _ => rfl, .inl ⟨rfl, rfl⟩⟩
    refine ⟨h.goes hD hn hpass h.inv ?_, size_put ..⟩
    rw [hg]
    exact hsite job
  | @finish n ending hn =>
    have hsize : (c.state.setJob n (.ended ending)).jobs.size = c.state.jobs.size :=
      Array.size_setIfInBounds
    refine ⟨⟨hD.quiet h.inv (quiet_end hn ending), fun q x hx => ?_, fun q hq => ?_,
      fun k hk => h.idle k (hsize ▸ hk), fun k hk => h.started k (hsize ▸ hk)⟩, hsize⟩
    · by_cases hqn : q = .job n
      · subst hqn
        cases (at?_end_self hn).symm.trans hx
      · exact h.fares q x ((at?_end_of_ne hqn).symm.trans hx)
    · by_cases hqn : q = .job n
      · subst hqn
        exact h.fares _ _ hn
      · exact h.rests q ((at?_end_of_ne hqn).symm.trans hq)
  | meanwhile current fresh hs hj =>
    have hsize := congrArg Array.size hj
    exact ⟨⟨hD.quiet h.inv hs, fun q x hx => h.fares q x ((at?_mk hj q).symm.trans hx),
      fun q hq => h.rests q ((at?_mk hj q).symm.trans hq),
      fun n hn => h.idle n (hsize ▸ hn), fun n hn => h.started n (hsize ▸ hn)⟩, hsize⟩

/-- Orderly scenes lead to orderly scenes, if what is asked just now is in order. -/
theorem happens (hD : D.Sound Inv InOrder)
    (hsite : ∀ job, D.Obeys D.TurnEnds (turnOf site job) D.idle) (h : Orderly D Inv c m)
    {asked : Option (Party × Request)} {reply? : Option (Party × Exchange RigSurroundings)}
    (hr : ∀ p r, asked = some (p, r) → InOrder c.state m p r)
    (hh : Happens site c asked reply? d) :
    ∃ m', Orderly D Inv d m' ∧ m'.told = m.told ++ reply?.toList ∧
      Follows (fun p r => asked = some (p, r)) c d m m' := by
  have hquietly (hh : Happens site c none none d) : ∃ m', Orderly D Inv d m' ∧
      m'.told = m.told ++ [] ∧ Follows (fun p r => none = some (p, r)) c d m m' := by
    obtain ⟨hd, hsize⟩ := h.quietly hD hsite hh
    exact ⟨m, hd, (List.append_nil _).symm, .inl ⟨hsize, rfl⟩⟩
  cases hh with
  | @answer p r next reply t hp ha =>
    obtain ⟨hallow, hnext⟩ := h.fares p _ hp
    have hpass := Passes.reply (D := D) (g := m.mind p) (m := m) (jobs_enter c.state p r) ha
    refine ⟨_, h.goes hD hp hpass (hD.answers h.inv hallow (hr p r rfl) ha) ?_, Memory.told_reply,
      .of_passes rfl hpass (size_put ..)⟩
    rw [Memory.mind_reply_self]
    exact hnext reply (possible_of_answer? ha alarm_enter_of_untimed)
  | @wait p r next hp ha =>
    obtain ⟨hallow, hnext⟩ := h.fares p _ hp
    have hpass : Passes c.state (c.state.enter p r).2 p r m (m.set p (D.entered (m.mind p) r)) :=
      .set (jobs_enter ..)
    refine ⟨_, h.goes hD hp hpass (hD.waits h.inv hallow (hr p r rfl) ha) ?_,
      (List.append_nil _).symm, .of_passes rfl hpass (size_put ..)⟩
    rw [Memory.mind_set_self]
    exact ⟨⟨c.state, rfl, ha⟩, m.mind p, rfl, hallow, hnext⟩
  | @resume p w reply t hp ha =>
    obtain ⟨hbegan, g₀, hg, hallow, hnext⟩ := h.fares p _ hp
    have hpass := Passes.reply (D := D) (g := g₀) (m := m) rfl ha
    refine ⟨_, h.goes hD hp hpass (hD.resumes h.inv hg hallow hbegan ha) ?_, Memory.told_reply, ?_⟩
    · rw [Memory.mind_reply_self]
      exact hnext reply (possible_of_answer? ha hbegan.untimed)
    · refine .inl ⟨(size_put ..).trans ?_, Memory.started_reply hbegan.ne_spawn⟩
      rcases hpass.jobs with ⟨hj, -⟩ | ⟨job, hspawn, -⟩
      · exact congrArg Array.size hj
      · exact absurd hspawn (hbegan.ne_spawn job)
  | turn hn => exact hquietly (.turn hn)
  | finish hn => exact hquietly (.finish hn)
  | meanwhile current fresh hs hj => exact hquietly (.meanwhile current fresh hs hj)

/-- A step leads from an orderly scene to an orderly scene, if what is asked just now is in
order. -/
theorem step (hD : D.Sound Inv InOrder)
    (hsite : ∀ job, D.Obeys D.TurnEnds (turnOf site job) D.idle) (h : Orderly D Inv c m)
    (hr : ∀ p r, c.Asks p r → InOrder c.state m p r) (hs : c.step site = .more d) :
    ∃ m', Orderly D Inv d m' ∧ Follows c.Asks c d m m' := by
  obtain ⟨e, f, asked, reply?, he, hf, hd, hasks⟩ := happens_of_step hs
  obtain ⟨hme, hsize⟩ := h.quietly hD hsite he
  obtain ⟨m', hmf, -, hfollow⟩ := hme.happens hD hsite (fun p r ha => by
    obtain ⟨rfl, hpr⟩ := hasks p r ha
    exact hr p r hpr) hf
  obtain ⟨hmd, hsize'⟩ := hmf.quietly hD hsite hd
  refine ⟨m', hmd, ?_⟩
  rcases hfollow with ⟨hn, hm⟩ | ⟨p, job, ha, hn, hm⟩
  · exact .inl ⟨by rw [hsize', hn, hsize], hm⟩
  · exact .inr ⟨p, job, (hasks p _ ha).2, by rw [hsize', hn, hsize], by rw [hm, hsize]⟩

end Orderly

end Orderly

/-! ## The jobs that were started -/

/-- A job was started among these scenes before a certain one. -/
def Started (c : Nat → Scene α) (n k : Nat) (job : Job) : Prop :=
  ∃ i < n, ∃ p, (c i).Asks p (.spawn job) ∧ (c i).state.jobs.size = k ∧
    k < (c (i + 1)).state.jobs.size

lemma started_succ_iff {c : Nat → Scene α} {n k : Nat} {job : Job} :
    Started c (n + 1) k job ↔ Started c n k job ∨ ∃ p, (c n).Asks p (.spawn job) ∧
      (c n).state.jobs.size = k ∧ k < (c (n + 1)).state.jobs.size := by
  constructor
  · rintro ⟨i, hi, h⟩
    by_cases hin : i = n
    · subst hin
      exact .inr h
    · exact .inl ⟨i, by omega, h⟩
  · rintro (⟨i, hi, h⟩ | h)
    · exact ⟨i, by omega, h⟩
    · exact ⟨n, by omega, h⟩

/-- If the memory of a scene knows which jobs were started, so does that of the next one. -/
lemma Follows.started_iff {D : Discipline G} {Inv : State → Memory G → Prop}
    {c : Nat → Scene α} {n : Nat} {m m' : Memory G} (h : Follows (c n).Asks (c n) (c (n + 1)) m m')
    (hm : Orderly D Inv (c n) m) (hs : ∀ k job, m.started k = some job ↔ Started c n k job)
    (k : Nat) (job : Job) : m'.started k = some job ↔ Started c (n + 1) k job := by
  rw [started_succ_iff, ← hs]
  rcases h with ⟨hsize, hstarted⟩ | ⟨p, job', hasks, hsize, hstarted⟩
  · rw [hstarted, hsize]
    constructor
    · exact .inl
    · rintro (h | ⟨p, -, rfl, hlt⟩)
      · exact h
      · exact absurd hlt (Nat.lt_irrefl _)
  · rw [hstarted]
    dsimp only
    split
    · rename_i hk
      rw [hm.started k (Nat.le_of_eq hk.symm)]
      constructor
      · rintro ⟨⟩
        exact .inr ⟨p, hasks, hk.symm, by omega⟩
      · rintro (h | ⟨q, hq, -, -⟩)
        · cases h
        · obtain ⟨-, he⟩ := hasks.unique hq
          cases he
          rfl
    · rename_i hk
      constructor
      · exact .inl
      · rintro (h | ⟨q, -, hq, -⟩)
        · exact h
        · exact absurd hq.symm hk

end Scene

end CryoRig.Rig
