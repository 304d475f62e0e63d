import CryoRig.Proofs.StopScenes

/-!
# What happens in a scene

A step of a rig is made of happenings. Somebody makes a request, and has the reply or waits for it;
a reply comes to somebody who waited; a turn of a job ends. Which of them comes next is left open
here, and between them the clock and the instruments may do whatever they like. What holds through
every such sequence holds however the parties take turns and however long each reply takes.

## Main definitions

* `CryoRig.Rig.Scene.at?`: what a party is at.
* `CryoRig.Rig.Quiet`: what may be different of a rig when nobody asked for anything.
* `CryoRig.Rig.Scene.Happens`: what may happen next, with the request that is made and the reply
  that comes.
* `CryoRig.Rig.Scene.Shift`: what happens for a while, with all the replies that come.
* `CryoRig.Rig.Scene.Runs`, `CryoRig.Rig.Scene.Proceeds`: who runs just now, and what goes on in a
  step.

## Main results

* `CryoRig.Rig.Scene.happens_of_step`: every step is made of happenings.
* `CryoRig.Rig.Scene.Shift.leads`: the work of a party goes down its path.
-/

namespace CryoRig.Rig

open Control Process

variable {α β : Type} {site : Site RigSurroundings}

/-! ## What a party is at -/

/-- What the work of a party ends with. -/
@[reducible] def Party.Result (α : Type) : Party → Type
  | .foreground => α
  | .job _ => Turn Job Ending

/-- The status of a job that is at something. -/
def Foreground.status : Foreground (Turn Job Ending) → JobStatus
  | .running work => .running work
  | .waiting w => .waiting w

/-- What is left of the work that somebody is at. -/
def Foreground.work : Foreground β → RigWork β
  | .running work => work
  | .waiting w => .ask w.request w.next

/-- What a job is at, unless it has ended. -/
def JobStatus.doing? : JobStatus → Option (Foreground (Turn Job Ending))
  | .running work => some (.running work)
  | .waiting w => some (.waiting w)
  | .ended _ => none

lemma JobStatus.doing?_eq_some_iff {status : JobStatus} {x : Foreground (Turn Job Ending)} :
    status.doing? = some x ↔ status = x.status := by
  cases status <;> cases x <;> simp [doing?, Foreground.status]

namespace Scene

/-- What a party is at. -/
def at? (c : Scene α) : (p : Party) → Option (Foreground (p.Result α))
  | .foreground => some c.foreground
  | .job n => c.state.jobs[n]?.bind JobStatus.doing?

/-- A party turns to something. -/
def put (c : Scene α) : (p : Party) → Foreground (p.Result α) → Scene α
  | .foreground, x => { c with foreground := x }
  | .job n, x => { c with state := c.state.setJob n x.status }

section At

variable {c d : Scene α} {p q : Party} {n : Nat}

lemma at?_job_iff {x : Foreground (Turn Job Ending)} :
    c.at? (.job n) = some x ↔ c.state.jobs[n]? = some x.status := by
  change c.state.jobs[n]?.bind JobStatus.doing? = some x ↔ _
  rw [Option.bind_eq_some_iff]
  simp [JobStatus.doing?_eq_some_iff]

lemma Asks.at? {r : Request} (h : c.Asks p r) :
    ∃ next, c.at? p = some (.running (.ask r next)) := by
  cases h with
  | foreground hf => exact ⟨_, congrArg some hf⟩
  | job hw hn hj => exact ⟨_, at?_job_iff.2 hj⟩

/-- Only jobs that are there are at something. -/
lemma lt_size_of_at? {x : Foreground (Turn Job Ending)} (h : c.at? (.job n) = some x) :
    n < c.state.jobs.size :=
  (Array.getElem?_eq_some_iff.1 (at?_job_iff.1 h)).1

lemma ending?_eq_none {x : Foreground (Turn Job Ending)} (h : c.at? (.job n) = some x) :
    c.state.ending? n = none := by
  rw [State.ending?, at?_job_iff.1 h]
  cases x <;> rfl

/-- Nobody is at something else as long as the work in the foreground and the jobs are the same. -/
lemma at?_mk {s : State} {current : Option Nat} {fresh : Bool} (hj : s.jobs = c.state.jobs)
    (p : Party) : (⟨s, c.foreground, current, fresh⟩ : Scene α).at? p = c.at? p := by
  cases p with
  | foreground => rfl
  | job n =>
    change s.jobs[n]?.bind _ = c.state.jobs[n]?.bind _
    rw [hj]

lemma at?_put_self {x y : Foreground (p.Result α)} (h : c.at? p = some y) :
    (c.put p x).at? p = some x := by
  cases p with
  | foreground => rfl
  | job n =>
    rw [at?_job_iff]
    change (c.state.jobs.setIfInBounds n x.status)[n]? = _
    rw [Array.getElem?_setIfInBounds, if_pos rfl, if_pos (lt_size_of_at? h)]

lemma at?_put_of_ne {x : Foreground (p.Result α)} (h : q ≠ p) : (c.put p x).at? q = c.at? q := by
  cases p with
  | foreground =>
    cases q with
    | foreground => exact absurd rfl h
    | job => rfl
  | job n =>
    cases q with
    | foreground => rfl
    | job k =>
      change (c.state.jobs.setIfInBounds n x.status)[k]?.bind _ = c.state.jobs[k]?.bind _
      rw [Array.getElem?_setIfInBounds, if_neg]
      rintro rfl
      exact h rfl

lemma at?_end_self {ending : Ending} {x : Foreground (Turn Job Ending)}
    (h : c.at? (.job n) = some x) :
    ({ c with state := c.state.setJob n (.ended ending) } : Scene α).at? (.job n) = none := by
  change (c.state.jobs.setIfInBounds n (.ended ending))[n]?.bind _ = _
  rw [Array.getElem?_setIfInBounds, if_pos rfl, if_pos (lt_size_of_at? h)]
  rfl

lemma at?_end_of_ne {ending : Ending} (h : q ≠ .job n) :
    ({ c with state := c.state.setJob n (.ended ending) } : Scene α).at? q = c.at? q := by
  cases q with
  | foreground => rfl
  | job k =>
    change (c.state.jobs.setIfInBounds n (.ended ending))[k]?.bind _ = c.state.jobs[k]?.bind _
    rw [Array.getElem?_setIfInBounds, if_neg]
    rintro rfl
    exact h rfl

/-- Nothing but the jobs is different when a party turns to something. -/
lemma state_put (c : Scene α) (p : Party) (x : Foreground (p.Result α)) :
    (c.put p x).state = { c.state with jobs := (c.put p x).state.jobs } := by
  cases p <;> rfl

@[simp] lemma size_put (c : Scene α) (p : Party) (x : Foreground (p.Result α)) :
    (c.put p x).state.jobs.size = c.state.jobs.size := by
  cases p with
  | foreground => rfl
  | job n => exact Array.size_setIfInBounds

lemma ending?_put {x y : Foreground (p.Result α)} (h : c.at? p = some y) (n : Nat)
    (hn : c.state.ending? n ≠ none) : (c.put p x).state.ending? n ≠ none := by
  cases p with
  | foreground => exact hn
  | job k =>
    have hne : k ≠ n := by
      rintro rfl
      exact hn (ending?_eq_none h)
    change State.ending? (c.state.setJob k x.status) n ≠ none
    rwa [State.ending?, State.setJob, Array.getElem?_setIfInBounds, if_neg hne]

/-- A job that was started begins with its first turn. -/
lemma at?_push_self {s : State} {job : Job}
    (hj : s.jobs = c.state.jobs.push (.running (.done (.again job)))) :
    ({ c with state := s } : Scene α).at? (.job c.state.jobs.size) =
      some (.running (.done (.again job))) := by
  rw [at?_job_iff]
  change s.jobs[c.state.jobs.size]? = _
  rw [hj, Array.getElem?_push_size]
  rfl

lemma at?_push_of_ne {s : State} {status : JobStatus} (hj : s.jobs = c.state.jobs.push status)
    (hq : q ≠ .job c.state.jobs.size) : ({ c with state := s } : Scene α).at? q = c.at? q := by
  cases q with
  | foreground => rfl
  | job n =>
    change s.jobs[n]?.bind _ = c.state.jobs[n]?.bind _
    rw [hj, Array.getElem?_push, if_neg]
    rintro rfl
    exact hq rfl

end At

end Scene

/-! ## While nobody asks for anything -/

/-- Nobody asked for anything. Jobs may have gone on or have ended, time may have passed and the
instruments may be different, but the bus, what was sent over it and the program desk are as they
were. -/
structure Quiet (s t : State) : Prop where
  /-- The bus. -/
  bus : t.bus = s.bus
  /-- What was sent over it. -/
  traffic : t.traffic = s.traffic
  /-- Which instruments are on it. -/
  attached : ∀ id, (t.attached.lookup id).isSome = (s.attached.lookup id).isSome
  /-- The program desk. -/
  desk : t.desk = s.desk
  /-- The program on it. -/
  program : t.program = s.program
  /-- No job was started. -/
  size : t.jobs.size = s.jobs.size
  /-- What has ended stays so. -/
  ended : ∀ n, s.ending? n ≠ none → t.ending? n ≠ none

section Quiet

variable {s t : State} {c : Scene α} {p : Party}

/-- The clock, the line of jobs and the number of waits do not matter. -/
lemma quiet_of_eq (h : t = { s with clock := t.clock, ready := t.ready, waits := t.waits }) :
    Quiet s t := by
  rw [h]
  exact ⟨rfl, rfl, fun _ => rfl, rfl, rfl, rfl, fun _ hn => hn⟩

/-- A party that is at something turns to something else. -/
lemma quiet_put {x y : Foreground (p.Result α)} (h : c.at? p = some y) :
    Quiet c.state (c.put p x).state where
  bus := by rw [Scene.state_put]
  traffic := by rw [Scene.state_put]
  attached id := by rw [Scene.state_put]
  desk := by rw [Scene.state_put]
  program := by rw [Scene.state_put]
  size := Scene.size_put ..
  ended := Scene.ending?_put h

/-- A job that is at something ends. -/
lemma quiet_end {n : Nat} {y : Foreground (Turn Job Ending)} (h : c.at? (.job n) = some y)
    (ending : Ending) : Quiet c.state (c.state.setJob n (.ended ending)) := by
  refine ⟨rfl, rfl, fun _ => rfl, rfl, rfl, Array.size_setIfInBounds, fun k hk => ?_⟩
  have hne : n ≠ k := by
    rintro rfl
    exact hk (Scene.ending?_eq_none h)
  rwa [State.ending?, State.setJob, Array.getElem?_setIfInBounds, if_neg hne]

end Quiet

/-! ## What was told -/

/-- What one party was told. -/
def toldTo {ε : Type} (p : Party) (told : List (Party × ε)) : List ε :=
  told.filterMap fun x => if x.1 = p then some x.2 else none

section Told

variable {ε : Type} {p q : Party} {told told' : List (Party × ε)} {e : ε}

@[simp] lemma toldTo_nil : toldTo p ([] : List (Party × ε)) = [] := rfl

@[simp] lemma toldTo_append : toldTo p (told ++ told') = toldTo p told ++ toldTo p told' :=
  List.filterMap_append

@[simp] lemma toldTo_cons_self : toldTo p ((p, e) :: told) = e :: toldTo p told := by
  simp [toldTo]

lemma toldTo_cons_of_ne (h : q ≠ p) : toldTo p ((q, e) :: told) = toldTo p told := by
  simp [toldTo, h]

end Told

/-! ## Happenings -/

namespace Scene

/-- What may happen next: the request that is made, and the reply that somebody has. -/
inductive Happens (site : Site RigSurroundings) (c : Scene α) :
    Option (Party × Request) → Option (Party × Exchange RigSurroundings) → Scene α → Prop where
  /-- A party makes a request, and the reply is there. -/
  | answer {p : Party} {r : Request} {next : r.Reply → RigWork (p.Result α)} {reply : r.Reply}
    {t : State} (hp : c.at? p = some (.running (.ask r next)))
    (ha : (c.state.enter p r).2.answer? p (c.state.enter p r).1 r = some (reply, t)) :
    Happens site c (some (p, r)) (some (p, ⟨r, reply⟩))
      ({ c with state := t }.put p (.running (next reply)))
  /-- A party makes a request, and waits for the reply. -/
  | wait {p : Party} {r : Request} {next : r.Reply → RigWork (p.Result α)}
    (hp : c.at? p = some (.running (.ask r next)))
    (ha : (c.state.enter p r).2.answer? p (c.state.enter p r).1 r = none) :
    Happens site c (some (p, r)) none
      ({ c with state := (c.state.enter p r).2 }.put p
        (.waiting ⟨r, next, (c.state.enter p r).1, (c.state.enter p r).2.waits⟩))
  /-- The reply that a party waits for has come. -/
  | resume {p : Party} {w : Waiting (p.Result α)} {reply : w.request.Reply} {t : State}
    (hp : c.at? p = some (.waiting w))
    (ha : c.state.answer? p w.alarm w.request = some (reply, t)) :
    Happens site c none (some (p, ⟨w.request, reply⟩))
      ({ c with state := t }.put p (.running (w.next reply)))
  /-- A job goes on with its next turn. -/
  | turn {n : Nat} {job : Job} (hn : c.at? (.job n) = some (.running (.done (.again job)))) :
    Happens site c none none (c.put (.job n) (.running (turnOf site job)))
  /-- A job ends. -/
  | finish {n : Nat} {ending : Ending}
    (hn : c.at? (.job n) = some (.running (.done (.over ending)))) :
    Happens site c none none { c with state := c.state.setJob n (.ended ending) }
  /-- Nobody asks for anything. -/
  | meanwhile {s : State} (current : Option Nat) (fresh : Bool) (hs : Quiet c.state s)
    (hj : s.jobs = c.state.jobs) :
    Happens site c none none ⟨s, c.foreground, current, fresh⟩

/-- What happens for a while, with the replies that somebody has. -/
inductive Shift (site : Site RigSurroundings) (c : Scene α) :
    List (Party × Exchange RigSurroundings) → Scene α → Prop where
  /-- Nothing has happened yet. -/
  | start : Shift site c [] c
  /-- One more thing happens. -/
  | more {told : List (Party × Exchange RigSurroundings)} {d e : Scene α}
    {asked : Option (Party × Request)} {reply? : Option (Party × Exchange RigSurroundings)}
    (h : Shift site c told d) (hd : Happens site d asked reply? e) :
    Shift site c (told ++ reply?.toList) e

section Steps

variable {c d e : Scene α} {told told' : List (Party × Exchange RigSurroundings)}

lemma Shift.trans (h : Shift site c told d) (h' : Shift site d told' e) :
    Shift site c (told ++ told') e := by
  induction h' with
  | start => rwa [List.append_nil]
  | more _ hd ih =>
    rw [← List.append_assoc]
    exact ih.more hd

/-- A party runs just now: it is the next one to do something. -/
inductive Runs (c : Scene α) : Party → Prop where
  /-- In the foreground. -/
  | foreground {work : RigWork α} (h : c.foreground = .running work) : Runs c .foreground
  /-- In the background. -/
  | job {w : Waiting α} {n : Nat} {work : RigWork (Turn Job Ending)}
    (hw : c.foreground = .waiting w) (hn : c.current = some n)
    (hj : c.state.jobs[n]? = some (.running work)) : Runs c (.job n)

/-- What goes on in a step: the request that is made, and the reply that somebody has. -/
inductive Proceeds (site : Site RigSurroundings) (c : Scene α) :
    Option (Party × Request) → Option (Party × Exchange RigSurroundings) → Scene α → Prop where
  /-- Whoever runs makes a request, has the reply and goes on. -/
  | answer {p : Party} {r : Request} {next : r.Reply → RigWork (p.Result α)} {reply : r.Reply}
    {t : State} (hr : c.Asks p r) (hp : c.at? p = some (.running (.ask r next)))
    (ha : (c.state.enter p r).2.answer? p (c.state.enter p r).1 r = some (reply, t)) :
    Proceeds site c (some (p, r)) (some (p, ⟨r, reply⟩))
      ({ c with state := t }.put p (.running (next reply)))
  /-- Whoever runs makes a request and waits for the reply. -/
  | wait {p : Party} {r : Request} {next : r.Reply → RigWork (p.Result α)} {current : Option Nat}
    (hr : c.Asks p r) (hp : c.at? p = some (.running (.ask r next)))
    (ha : (c.state.enter p r).2.answer? p (c.state.enter p r).1 r = none)
    (hn : current = none ∨ p = .foreground ∧ current = c.current) :
    Proceeds site c (some (p, r)) none
      ({ c with
        state := { (c.state.enter p r).2 with waits := (c.state.enter p r).2.waits + 1 }
        current := current }.put p
          (.waiting ⟨r, next, (c.state.enter p r).1, (c.state.enter p r).2.waits⟩))
  /-- While nobody runs, the reply that a party waits for has come, and it goes on. -/
  | resume {p : Party} {w : Waiting (p.Result α)} {reply : w.request.Reply} {t : State}
    {ready : List Nat} {current : Option Nat} (hr : ∀ q, ¬c.Runs q)
    (hp : c.at? p = some (.waiting w))
    (ha : { c.state with ready := ready }.answer? p w.alarm w.request = some (reply, t))
    (hn : ∀ n, current = some n ↔ p = .job n) :
    Proceeds site c none (some (p, ⟨w.request, reply⟩))
      ({ c with state := t, current := current, fresh := false }.put p (.running (w.next reply)))
  /-- While nobody runs, a job that does not wait is taken up. -/
  | take {n : Nat} {work : RigWork (Turn Job Ending)} {ready : List Nat} (hr : ∀ q, ¬c.Runs q)
    (hn : c.at? (.job n) = some (.running work)) :
    Proceeds site c none none ⟨{ c.state with ready := ready }, c.foreground, some n, false⟩
  /-- The job that runs goes on with its next turn. -/
  | turn {n : Nat} {job : Job} (hr : c.Runs (.job n))
    (hn : c.at? (.job n) = some (.running (.done (.again job)))) :
    Proceeds site c none none (c.put (.job n) (.running (turnOf site job)))
  /-- The job that runs ends. -/
  | finish {n : Nat} {ending : Ending} (hr : c.Runs (.job n))
    (hn : c.at? (.job n) = some (.running (.done (.over ending)))) :
    Proceeds site c none none
      { c with
        state := (c.state.setJob n (.ended ending)).wake (State.isJoinOf n)
        current := none }
  /-- Nobody runs, and nobody is taken up. -/
  | idle {s : State} {fresh : Bool} (hr : ∀ q, ¬c.Runs q)
    (hs : s = { c.state with clock := s.clock, ready := s.ready }) :
    Proceeds site c none none ⟨s, c.foreground, none, fresh⟩

lemma Asks.runs {p : Party} {r : Request} (h : c.Asks p r) : c.Runs p := by
  cases h with
  | foreground hf => exact .foreground hf
  | job hw hn hj => exact .job hw hn hj

lemma Runs.unique {p q : Party} (h : c.Runs p) (h' : c.Runs q) : p = q := by
  cases h with
  | foreground hf =>
    cases h' with
    | foreground => rfl
    | job hw => cases hf.symm.trans hw
  | job hw hn _ =>
    cases h' with
    | foreground hf => cases hf.symm.trans hw
    | job _ hn' _ =>
      cases hn.symm.trans hn'
      rfl

/-- While everybody waits nobody runs. -/
lemma not_runs_of_idle {w : Waiting α} (hf : c.foreground = .waiting w)
    (hj : ∀ n, c.current = some n → ∀ work, c.state.jobs[n]? ≠ some (.running work)) (p : Party) :
    ¬c.Runs p := by
  intro h
  cases h with
  | foreground hf' => cases hf.symm.trans hf'
  | job _ hn hj' => exact hj _ hn _ hj'

/-- Nobody runs, and no job either. -/
lemma not_runs_of_current {w : Waiting α} (hf : c.foreground = .waiting w) (hn : c.current = none)
    (p : Party) : ¬c.Runs p :=
  not_runs_of_idle hf (fun n hn' => by rw [hn] at hn'; cases hn') p

lemma proceeds_takeJob {w : Waiting α} (hf : c.foreground = .waiting w) (hn : c.current = none)
    (number : Nat) (rest : List Nat) :
    ∃ reply?, Proceeds site c none reply? { c.takeJob number rest with fresh := false } := by
  have hr := not_runs_of_current hf hn
  have hidle : Proceeds site c none none
      ⟨{ c.state with ready := rest }, c.foreground, c.current, false⟩ := by
    rw [hn]
    exact .idle hr rfl
  unfold takeJob
  dsimp only
  cases hj : c.state.jobs[number]? with
  | none => exact ⟨_, hidle⟩
  | some status =>
    cases status with
    | ended => exact ⟨_, hidle⟩
    | running work => exact ⟨_, .take hr (at?_job_iff.2 hj)⟩
    | waiting w' =>
      dsimp only
      cases h : resume? { c.state with ready := rest } (.job number) w' with
      | none => exact ⟨_, hidle⟩
      | some resumed =>
        obtain ⟨⟨reply, t⟩, ha, rfl⟩ := Option.map_eq_some_iff.1 h
        exact ⟨_, .resume (p := .job number) hr (at?_job_iff.2 hj) ha fun n => by simp⟩

lemma proceeds_stepIdle {w : Waiting α} (hf : c.foreground = .waiting w) (hn : c.current = none)
    (hs : c.stepIdle w = .more d) : ∃ reply?, Proceeds site c none reply? d := by
  have hr := not_runs_of_current hf hn
  unfold stepIdle at hs
  dsimp only at hs
  split at hs
  · rename_i work t h
    cases hs
    have hresume : resume? c.state .foreground w = some (work, t) := by
      split at h
      · exact h
      · cases h
    obtain ⟨⟨reply, u⟩, ha, he⟩ := Option.map_eq_some_iff.1 hresume
    cases he
    exact ⟨_, .resume (p := .foreground) hr (congrArg some hf) ha fun n => by simp [hn]⟩
  · split at hs
    · cases hs
      exact proceeds_takeJob hf hn _ _
    · split at hs
      · cases hs
        rw [hn]
        exact ⟨_, .idle hr rfl⟩
      · cases hs

lemma proceeds_stepJob {w : Waiting α} {n : Nat} (hf : c.foreground = .waiting w)
    (hn : c.current = some n) :
    ∃ asked reply?, Proceeds site c asked reply? (c.stepJob site n) := by
  have hidle (hj : ∀ work, c.state.jobs[n]? ≠ some (.running work)) :
      ∃ asked reply?, Proceeds site c asked reply? { c with current := none } := by
    refine ⟨_, _, .idle (not_runs_of_idle hf fun k hk => ?_) rfl⟩
    cases hn.symm.trans hk
    exact hj
  cases hj : c.state.jobs[n]? with
  | none =>
    simp only [stepJob, hj]
    exact hidle (by simp [hj])
  | some status =>
    cases status with
    | waiting | ended =>
      simp only [stepJob, hj]
      exact hidle (by simp [hj])
    | running work =>
      have hp : c.at? (.job n) = some (.running work) := at?_job_iff.2 hj
      cases work with
      | ask r next =>
        have hr : c.Asks (.job n) r := .job hf hn hj
        cases ha : (c.state.enter (.job n) r).2.answer? (.job n) (c.state.enter (.job n) r).1 r with
        | some answer =>
          refine ⟨some (.job n, r), some (.job n, ⟨r, answer.1⟩), ?_⟩
          simp only [stepJob, hj, ask, ha]
          exact .answer hr hp ha
        | none =>
          refine ⟨some (.job n, r), none, ?_⟩
          simp only [stepJob, hj, ask, ha]
          exact .wait hr hp ha (.inl rfl)
      | done turn =>
        have hr : c.Runs (.job n) := .job hf hn hj
        cases turn with
        | again job =>
          simp only [stepJob, hj]
          exact ⟨_, _, .turn hr hp⟩
        | _ ending =>
          simp only [stepJob, hj]
          exact ⟨_, _, .finish hr hp⟩

/-- What goes on in a step is one of these things. -/
theorem proceeds_of_step (h : c.step site = .more d) :
    ∃ asked reply?, Proceeds site c asked reply? d := by
  cases hf : c.foreground with
  | running work =>
    cases work with
    | done value =>
      simp only [step, hf] at h
      cases h
    | ask r next =>
      have hp : c.at? .foreground = some (.running (.ask r next)) := congrArg some hf
      have hr : c.Asks .foreground r := .foreground hf
      cases ha : (c.state.enter .foreground r).2.answer? .foreground
          (c.state.enter .foreground r).1 r with
      | some answer =>
        simp only [step, hf, ask, ha] at h
        cases h
        exact ⟨_, _, .answer hr hp ha⟩
      | none =>
        simp only [step, hf, ask, ha] at h
        cases h
        exact ⟨_, _, .wait hr hp ha (.inr ⟨rfl, rfl⟩)⟩
  | waiting w =>
    simp only [step, hf] at h
    cases hn : c.current with
    | none =>
      simp only [hn] at h
      exact ⟨_, proceeds_stepIdle hf hn h⟩
    | some n =>
      simp only [hn] at h
      cases h
      exact proceeds_stepJob hf hn

/-- The clock, the line of jobs and which job comes next are nobody's doing. -/
lemma happens_quietly (hf : d.foreground = c.foreground)
    (hs : d.state = { c.state with
      clock := d.state.clock
      ready := d.state.ready
      waits := d.state.waits }) : Happens site c none none d := by
  obtain ⟨s, foreground, current, fresh⟩ := d
  cases hf
  have hj := congrArg State.jobs hs
  exact .meanwhile current fresh (quiet_of_eq hs) hj

lemma happens_refl (c : Scene α) : Happens site c none none c := happens_quietly rfl rfl

/-- A request is only made by whoever runs. -/
lemma Proceeds.asks_iff {asked : Option (Party × Request)}
    {reply? : Option (Party × Exchange RigSurroundings)} (h : Proceeds site c asked reply? d)
    (p : Party) (r : Request) : asked = some (p, r) ↔ c.Asks p r := by
  cases h with
  | answer hr | wait hr =>
    constructor
    · rintro ⟨⟩
      exact hr
    · intro hr'
      obtain ⟨rfl, rfl⟩ := hr.unique hr'
      rfl
  | resume hr | take hr | idle hr => simpa using fun ha => hr _ ha.runs
  | turn hr hn | finish hr hn =>
    simp only [reduceCtorEq, false_iff]
    intro ha
    cases hr.unique ha.runs
    obtain ⟨next, hnext⟩ := ha.at?
    cases hn.symm.trans hnext

/-- What goes on in a step happens, in the midst of what nobody does. -/
theorem Proceeds.happens {asked : Option (Party × Request)}
    {reply? : Option (Party × Exchange RigSurroundings)} (h : Proceeds site c asked reply? d) :
    ∃ e f, Happens site c none none e ∧ Happens site e asked reply? f ∧
      Happens site f none none d ∧ (asked ≠ none → e = c) := by
  cases h with
  | answer hr hp ha => exact ⟨c, _, happens_refl c, .answer hp ha, happens_refl _, fun _ => rfl⟩
  | @wait p r next current hr hp ha hn =>
    refine ⟨c, _, happens_refl c, .wait hp ha, happens_quietly ?_ ?_, fun _ => rfl⟩ <;>
      cases p <;> rfl
  | @resume p w reply t ready current hr hp ha hn =>
    refine ⟨{ c with state := { c.state with ready := ready } }, _, happens_quietly rfl rfl,
      .resume hp ha, happens_quietly ?_ ?_, fun h => absurd rfl h⟩ <;> cases p <;> rfl
  | take => exact ⟨c, c, happens_refl c, happens_refl c, happens_quietly rfl rfl, fun _ => rfl⟩
  | turn hr hn => exact ⟨c, _, happens_refl c, .turn hn, happens_refl _, fun _ => rfl⟩
  | finish hr hn =>
    exact ⟨c, _, happens_refl c, .finish hn, happens_quietly rfl rfl, fun _ => rfl⟩
  | idle hr hs =>
    refine ⟨c, c, happens_refl c, happens_refl c, happens_quietly rfl ?_, fun _ => rfl⟩
    rw [hs]

/-- Every step is made of happenings. -/
theorem happens_of_step (h : c.step site = .more d) :
    ∃ e f asked reply?, Happens site c none none e ∧ Happens site e asked reply? f ∧
      Happens site f none none d ∧ ∀ p r, asked = some (p, r) → e = c ∧ c.Asks p r := by
  obtain ⟨asked, reply?, hp⟩ := proceeds_of_step h
  obtain ⟨e, f, he, hf, hd, hec⟩ := hp.happens
  refine ⟨e, f, asked, reply?, he, hf, hd, ?_⟩
  rintro p r rfl
  exact ⟨hec (by simp), (hp.asks_iff p r).1 rfl⟩

/-- So what a rig does by itself is what may happen for a while. -/
lemma shift_of_step (h : c.step site = .more d) : ∃ told, Shift site c told d := by
  obtain ⟨e, f, asked, reply?, he, hf, hd, -⟩ := happens_of_step h
  exact ⟨_, ((Shift.start.more he).more hf).more hd⟩

end Steps

/-! ## The path of a party -/

section Paths

variable {c d : Scene α} {p q : Party} {told : List (Party × Exchange RigSurroundings)}

/-- What a party is at when a reply comes, it is still at when it has come. -/
lemma at?_of_answer? {s t : State} {r : Request} {reply : r.Reply} {alarm : Option Nat}
    {x : Foreground (q.Result α)} (hs : s.jobs = c.state.jobs)
    (h : s.answer? p alarm r = some (reply, t)) (hx : c.at? q = some x) :
    ({ c with state := t } : Scene α).at? q = some x := by
  rcases jobs_of_answer? h with ht | ⟨job, rfl, ht⟩
  · exact (at?_mk (ht.trans hs) q).trans hx
  · rw [hs] at ht
    refine (at?_push_of_ne ht ?_).trans hx
    rintro rfl
    exact absurd (lt_size_of_at? hx) (Nat.lt_irrefl _)

/-- A job comes to the end of a turn: it begins the next one, or ends. -/
def TurnsOver (site : Site RigSurroundings) (c d : Scene α) (n : Nat) : Prop :=
  (∃ job, c.at? (.job n) = some (.running (.done (.again job))) ∧
    d.at? (.job n) = some (.running (turnOf site job))) ∨
  ∃ ending, c.at? (.job n) = some (.running (.done (.over ending))) ∧
    d.at? (.job n) = none ∧ n < d.state.jobs.size

/-- A party goes down the path of its work when it is told something, or it is a job that comes to
the end of a turn. -/
lemma Happens.leads_or_turnsOver {asked : Option (Party × Request)}
    {reply? : Option (Party × Exchange RigSurroundings)} (h : Happens site c asked reply? d)
    {x : Foreground (p.Result α)} (hx : c.at? p = some x) :
    (∃ y, d.at? p = some y ∧ x.work.Leads (toldTo p reply?.toList) y.work) ∨
      ∃ n, p = .job n ∧ reply? = none ∧ TurnsOver site c d n := by
  cases h with
  | @answer q r next reply t hq ha =>
    have hat {p : Party} {x : Foreground (p.Result α)} (hx : c.at? p = some x) :=
      at?_of_answer? (jobs_enter c.state q r) ha hx
    by_cases hpq : p = q
    · subst hpq
      cases hq.symm.trans hx
      refine .inl ⟨_, at?_put_self (hat hq), ?_⟩
      rw [Option.toList_some, toldTo_cons_self]
      exact .step (.refl _)
    · refine .inl ⟨x, (at?_put_of_ne hpq).trans (hat hx), ?_⟩
      rw [Option.toList_some, toldTo_cons_of_ne (Ne.symm hpq)]
      exact .refl _
  | @wait q r next hq ha =>
    have hat (p : Party) : ({ c with state := (c.state.enter q r).2 } : Scene α).at? p =
        c.at? p := at?_mk (jobs_enter ..) p
    by_cases hpq : p = q
    · subst hpq
      cases hq.symm.trans hx
      exact .inl ⟨_, at?_put_self ((hat p).trans hq), .refl _⟩
    · exact .inl ⟨x, (at?_put_of_ne hpq).trans ((hat p).trans hx), .refl _⟩
  | @resume q w reply t hq ha =>
    have hat {p : Party} {x : Foreground (p.Result α)} (hx : c.at? p = some x) :=
      at?_of_answer? rfl ha hx
    by_cases hpq : p = q
    · subst hpq
      cases hq.symm.trans hx
      refine .inl ⟨_, at?_put_self (hat hq), ?_⟩
      rw [Option.toList_some, toldTo_cons_self]
      exact .step (.refl _)
    · refine .inl ⟨x, (at?_put_of_ne hpq).trans (hat hx), ?_⟩
      rw [Option.toList_some, toldTo_cons_of_ne (Ne.symm hpq)]
      exact .refl _
  | @turn n job hn =>
    by_cases hpn : p = .job n
    · exact .inr ⟨n, hpn, rfl, .inl ⟨job, hn, at?_put_self hn⟩⟩
    · exact .inl ⟨x, (at?_put_of_ne hpn).trans hx, .refl _⟩
  | @finish n ending hn =>
    by_cases hpn : p = .job n
    · refine .inr ⟨n, hpn, rfl, .inr ⟨ending, hn, at?_end_self hn, ?_⟩⟩
      rw [(quiet_end hn ending).size]
      exact lt_size_of_at? hn
    · exact .inl ⟨x, (at?_end_of_ne hpn).trans hx, .refl _⟩
  | meanwhile current fresh hs hj => exact .inl ⟨x, (at?_mk hj p).trans hx, .refl _⟩

/-- A party goes down the path of its work when it is told something, or its work was done. -/
lemma Happens.leads {asked : Option (Party × Request)}
    {reply? : Option (Party × Exchange RigSurroundings)} (h : Happens site c asked reply? d)
    {x : Foreground (p.Result α)} (hx : c.at? p = some x) :
    (∃ y, d.at? p = some y ∧ x.work.Leads (toldTo p reply?.toList) y.work) ∨
      ∃ a, x = .running (.done a) := by
  rcases h.leads_or_turnsOver hx with hl | ⟨n, rfl, -, ⟨job, hn, -⟩ | ⟨ending, hn, -⟩⟩
  · exact .inl hl
  · exact .inr ⟨_, Option.some.inj (hx.symm.trans hn)⟩
  · exact .inr ⟨_, Option.some.inj (hx.symm.trans hn)⟩

/-- The work of a party goes down its path, until it is done. -/
theorem Shift.leads (h : Shift site c told d) {x : Foreground (p.Result α)}
    (hx : c.at? p = some x) :
    (∃ y, d.at? p = some y ∧ x.work.Leads (toldTo p told) y.work) ∨
      ∃ es es' a, toldTo p told = es ++ es' ∧ x.work.Ends es a := by
  induction h with
  | start => exact .inl ⟨x, hx, .refl _⟩
  | more _ hd ih =>
    rw [toldTo_append]
    rcases ih with ⟨y, hy, hl⟩ | ⟨es, es', a, hes, hend⟩
    · rcases hd.leads hy with ⟨z, hz, hl'⟩ | ⟨a, rfl⟩
      · exact .inl ⟨z, hz, hl.trans hl'⟩
      · exact .inr ⟨_, _, a, rfl, hl⟩
    · exact .inr ⟨es, es' ++ _, a, by rw [hes, List.append_assoc], hend⟩

end Paths

end Scene

end CryoRig.Rig
