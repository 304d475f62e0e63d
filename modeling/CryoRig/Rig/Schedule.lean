import CryoRig.Control.Session
import CryoRig.Rig.Answer

/-!
# What runs when

One thing runs at a time and goes on until it has to wait. Jobs that can go on stand in a line.
The foreground goes on when no job can, except right after the clock has moved: then it comes
first. The clock only moves when everything waits, and it moves to the next alarm.

Running goes by single steps, as many as are allowed for.

## Main definitions

* `CryoRig.Rig.turnOf`: the next turn of a job on a given site.
* `CryoRig.Rig.Scene`: the rig together with the work in the foreground.
* `CryoRig.Rig.Scene.step`: one step.
* `CryoRig.Rig.run`: do work in the foreground.

## Main results

* `CryoRig.Rig.Scene.clock_le_of_step`, `CryoRig.Rig.clock_le_of_run`: the clock never goes back.
-/

namespace CryoRig.Rig

open Control

/-- Mark which job the turn belongs to. -/
def mapTurn {σ τ : Type} (wrap : σ → τ) : Turn σ Ending → Turn τ Ending
  | .again state => .again (wrap state)
  | .over ending => .over ending

/-- The next turn of a job on a given site. -/
def turnOf (site : Site RigSurroundings) (job : Job) :
    RigWork (Turn Job Ending) :=
  carryOut site (match job with
    | .program run => run.turn site >>= fun t => pure (mapTurn .program t)
    | .ticking state => state.turn >>= fun t => pure (mapTurn .ticking t)
    | .supervision state => state.turn >>= fun t => pure (mapTurn .supervision t))

/-! ## Time -/

namespace State

/-- The alarms of the jobs that wait, each with the rank of the wait and the number of the job. -/
def alarms (s : State) : List (Nat × Nat × Nat) :=
  s.waiting.filterMap fun (number, w) => w.alarm.map fun a => (a, w.rank, number)

/-- Move the clock to a moment, if it is later, and wake the jobs whose alarm has rung, in the
order of their alarms. -/
def advance (s : State) (moment : Nat) : State :=
  let clock := max s.clock moment
  let due := (s.alarms.filter fun a => a.1 ≤ clock).mergeSort fun a b =>
    a.1 < b.1 ∨ (a.1 = b.1 ∧ a.2.1 ≤ b.2.1)
  { s with clock := clock
           ready := s.ready ++ (due.map fun a => a.2.2).filter (· ∉ s.ready) }

/-- The clock never goes back. -/
theorem clock_le_advance (s : State) (moment : Nat) : s.clock ≤ (s.advance moment).clock :=
  Nat.le_max_left ..

/-- Set the status of a job. -/
def setJob (s : State) (number : Nat) (status : JobStatus) : State :=
  { s with jobs := s.jobs.setIfInBounds number status }

/-- Whether a request waits for the end of a job. -/
def isJoinOf (job : Nat) : Request → Bool
  | .join j _ => j == job
  | _ => false

end State

/-! ## Steps -/

/-- The work in the foreground. -/
inductive Foreground (α : Type) where
  | running (work : RigWork α)
  | waiting (wait : Waiting α)

/-- The rig together with the work in the foreground. -/
structure Scene (α : Type) where
  /-- The rig. -/
  state : State
  /-- The work in the foreground. -/
  foreground : Foreground α
  /-- The job that is running. -/
  current : Option Nat
  /-- The clock has just moved. -/
  fresh : Bool

/-- What a step leads to. -/
inductive Progress (α : Type) where
  /-- There is more to do. -/
  | more (scene : Scene α)
  /-- The work in the foreground is done. -/
  | done (value : α) (state : State)
  /-- The work in the foreground waits for something that will not happen. -/
  | stuck

/-- Make a request: the reply with the rig after it, or the wait for it. -/
def ask {β : Type} (s : State) (p : Party) (r : Request)
    (next : r.Reply → RigWork β) :
    (RigWork β ⊕ Waiting β) × State :=
  let (alarm, s) := s.enter p r
  match s.answer? p alarm r with
  | some (reply, s) => (.inl (next reply), s)
  | none => (.inr ⟨r, next, alarm, s.waits⟩, { s with waits := s.waits + 1 })

/-- Go on with a wait if the reply is there. -/
def resume? {β : Type} (s : State) (p : Party) (w : Waiting β) :
    Option (RigWork β × State) :=
  (s.answer? p w.alarm w.request).map fun (reply, s) => (w.next reply, s)

namespace Scene

variable {α : Type}

/-- One step of the running job. -/
def stepJob (site : Site RigSurroundings) (c : Scene α) (number : Nat) : Scene α :=
  match c.state.jobs[number]? with
  | some (.running work) =>
    match work with
    | .done (.again job) =>
      { c with state := c.state.setJob number (.running (turnOf site job)) }
    | .done (.over ending) =>
      let s := (c.state.setJob number (.ended ending)).wake (State.isJoinOf number)
      { c with state := s, current := none }
    | .ask r next =>
      match ask c.state (.job number) r next with
      | (.inl work, s) => { c with state := s.setJob number (.running work) }
      | (.inr wait, s) => { c with state := s.setJob number (.waiting wait), current := none }
  | _ => { c with current := none }

/-- Take the next job of the line. -/
def takeJob (c : Scene α) (number : Nat) (rest : List Nat) : Scene α :=
  let s : State := { c.state with ready := rest }
  match s.jobs[number]? with
  | some (.running _) => { c with state := s, current := some number }
  | some (.waiting w) =>
    match resume? s (.job number) w with
    | some (work, s) =>
      { c with state := s.setJob number (.running work), current := some number }
    | none => { c with state := s }
  | _ => { c with state := s }

/-- The next alarm of anything that waits. -/
def nextAlarm? (c : Scene α) (w : Waiting α) : Option Nat :=
  (w.alarm.toList ++ c.state.alarms.map Prod.fst).min?

/-- One step while the foreground waits and no job is running. -/
def stepIdle (c : Scene α) (w : Waiting α) : Progress α :=
  let resumed := if c.fresh ∨ c.state.ready = [] then resume? c.state .foreground w else none
  match resumed with
  | some (work, s) => .more { c with state := s, foreground := .running work, fresh := false }
  | none =>
    match c.state.ready with
    | number :: rest => .more { c.takeJob number rest with fresh := false }
    | [] =>
      match c.nextAlarm? w with
      | some moment => .more { c with state := c.state.advance moment, fresh := true }
      | none => .stuck

/-- One step. -/
def step (site : Site RigSurroundings) (c : Scene α) : Progress α :=
  match c.foreground with
  | .running work =>
    match work with
    | .done value => .done value c.state
    | .ask r next =>
      match ask c.state .foreground r next with
      | (.inl work, s) => .more { c with state := s, foreground := .running work }
      | (.inr wait, s) => .more { c with state := s, foreground := .waiting wait }
  | .waiting w =>
    match c.current with
    | some number => .more (c.stepJob site number)
    | none => c.stepIdle w

/-- Up to so many steps. -/
def steps (site : Site RigSurroundings) : Nat → Scene α → Option (α × State)
  | 0, _ => none
  | n + 1, c =>
    match c.step site with
    | .more c => c.steps site n
    | .done value s => some (value, s)
    | .stuck => none

end Scene

/-- How many steps are allowed for. -/
def patience : Nat := 1000000000000000

/-- Do work in the foreground; `none` if it does not come to an end. -/
def run {α : Type} (site : Site RigSurroundings) (s : State) (work : RigWork α) :
    Option (α × State) :=
  Scene.steps site patience ⟨s, .running work, none, false⟩

/-! ## Time only goes forward -/

theorem clock_ask {β : Type} (s : State) (p : Party) (r : Request) (next : r.Reply → RigWork β) :
    (ask s p r next).2.clock = s.clock := by
  unfold ask
  dsimp only
  split
  · rename_i h
    exact (State.clock_of_answer? h).trans (State.clock_enter ..)
  · exact State.clock_enter ..

theorem clock_of_resume? {β : Type} {s t : State} {p : Party} {w : Waiting β} {work : RigWork β}
    (h : resume? s p w = some (work, t)) : t.clock = s.clock := by
  obtain ⟨⟨reply, u⟩, ha, he⟩ := Option.map_eq_some_iff.1 h
  cases he
  exact State.clock_of_answer? ha

namespace Scene
variable {α : Type}

theorem clock_stepJob (site : Site RigSurroundings) (c : Scene α) (number : Nat) :
    (c.stepJob site number).state.clock = c.state.clock := by
  unfold stepJob
  split
  · split
    · rfl
    · rfl
    · rename_i r next _
      have h := clock_ask c.state (.job number) r next
      split <;> rename_i he <;> simpa [he, State.setJob] using h
  · rfl

theorem clock_takeJob (c : Scene α) (number : Nat) (rest : List Nat) :
    (c.takeJob number rest).state.clock = c.state.clock := by
  unfold takeJob
  dsimp only
  split
  · rfl
  · split
    · rename_i h
      simpa [State.setJob] using clock_of_resume? h
    · rfl
  · rfl

theorem clock_le_of_stepIdle {c d : Scene α} {w : Waiting α} (h : c.stepIdle w = .more d) :
    c.state.clock ≤ d.state.clock := by
  unfold stepIdle at h
  dsimp only at h
  split at h
  · rename_i hr
    cases h
    split at hr
    · exact Nat.le_of_eq (clock_of_resume? hr).symm
    · cases hr
  · split at h
    · cases h
      exact Nat.le_of_eq (clock_takeJob ..).symm
    · split at h
      · cases h
        exact State.clock_le_advance ..
      · cases h

theorem state_of_step_done {site : Site RigSurroundings} {c : Scene α} {a : α} {s : State}
    (h : c.step site = .done a s) : s = c.state := by
  unfold step at h
  split at h
  · split at h
    · cases h
      rfl
    · split at h <;> cases h
  · split at h
    · cases h
    · unfold stepIdle at h
      dsimp only at h
      split at h
      · cases h
      · split at h
        · cases h
        · split at h <;> cases h

/-- No step turns the clock back. -/
theorem clock_le_of_step {site : Site RigSurroundings} {c d : Scene α} (h : c.step site = .more d) :
    c.state.clock ≤ d.state.clock := by
  unfold step at h
  split at h
  · split at h
    · cases h
    · rename_i r next _
      have ht := clock_ask c.state .foreground r next
      split at h <;> rename_i he <;> cases h <;> simp [he] at ht <;> simp [ht]
  · split at h
    · cases h
      exact Nat.le_of_eq (clock_stepJob ..).symm
    · exact clock_le_of_stepIdle h

theorem clock_le_of_steps {site : Site RigSurroundings} {n : Nat} {c : Scene α} {a : α} {t : State}
    (h : c.steps site n = some (a, t)) : c.state.clock ≤ t.clock := by
  induction n generalizing c with
  | zero => cases h
  | succ n ih =>
    simp only [steps] at h
    split at h
    · rename_i hs
      exact Nat.le_trans (clock_le_of_step hs) (ih h)
    · rename_i hs
      cases h
      exact Nat.le_of_eq (congrArg State.clock (state_of_step_done hs).symm)
    · cases h

end Scene

/-- Work never turns the clock back. -/
theorem clock_le_of_run {α : Type} {site : Site RigSurroundings} {s t : State} {work : RigWork α}
    {a : α} (h : run site s work = some (a, t)) : s.clock ≤ t.clock :=
  Scene.clock_le_of_steps h

end CryoRig.Rig
