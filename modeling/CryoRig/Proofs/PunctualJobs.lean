import CryoRig.Proofs.SweepFiles

/-!
# The clock waits for the jobs

A rig that is left to itself moves its clock only while everybody waits, and no further than to the
next alarm. So no time passes while a job can go on: while it runs or stands in the line, which is
where a job comes to as soon as its alarm has rung or the token of its pause was fired. A pause
that nobody cancels therefore lasts to the millisecond, and a pause that is cancelled is over at
once.

## Main definitions

* `CryoRig.Rig.Heeds`: whoever waits for what a request brings about comes into the line.
* `CryoRig.Rig.Scene.InLine`: a job can go on.
* `CryoRig.Rig.Scene.Punctual`: the invariant of scenes.
* `CryoRig.Rig.Scene.Ensues`, `CryoRig.Rig.Scene.Timeline`: courses of a rig that is left to itself.
* `CryoRig.Rig.Scene.Moves`: what becomes of one job in a step.
* `CryoRig.Rig.Scene.Pauses`: a job pauses since a moment.

## Main results

* `CryoRig.Rig.Scene.Punctual.step`: punctual scenes lead to punctual scenes.
* `CryoRig.Rig.Scene.clock_of_inLine`: no time passes while a job can go on.
* `CryoRig.Rig.Scene.Pauses.step`: how a pause goes on, and when it is over.
-/

namespace CryoRig.Rig

open Control Process

variable {α : Type} {site : Site RigSurroundings}

/-! ## Who comes into the line -/

namespace State

variable {s : State} {n : Nat} {w : Waiting (Turn Job Ending)}

lemma mem_waitingFrom {l : List JobStatus} {first k : Nat} (h : l[k]? = some (.waiting w)) :
    (first + k, w) ∈ waitingFrom first l := by
  induction l generalizing first k with
  | nil => simp at h
  | cons status rest ih =>
    cases k with
    | zero =>
      cases Option.some.inj h
      exact List.mem_cons_self ..
    | succ k =>
      have hrest : (first + (k + 1), w) ∈ waitingFrom (first + 1) rest := by
        have hk : (first + 1 + k, w) ∈ waitingFrom (first + 1) rest := ih h
        rwa [Nat.add_right_comm, Nat.add_assoc] at hk
      cases status with
      | waiting => exact List.mem_cons_of_mem _ hrest
      | running | ended => exact hrest

lemma mem_waiting (h : s.jobs[n]? = some (.waiting w)) : (n, w) ∈ s.waiting := by
  have hlist : s.jobs.toList[n]? = some (.waiting w) := by rwa [Array.getElem?_toList]
  have hmem : (0 + n, w) ∈ waitingFrom 0 s.jobs.toList := mem_waitingFrom hlist
  rwa [Nat.zero_add] at hmem

/-- A job that stands in the line stays there when others join. -/
lemma mem_join {line others : List Nat} (h : n ∈ line ∨ n ∈ others) :
    n ∈ line ++ others.filter (· ∉ line) := by
  by_cases hn : n ∈ line
  · exact List.mem_append_left _ hn
  · exact List.mem_append_right _ (List.mem_filter.2 ⟨h.resolve_left hn, by simpa using hn⟩)

lemma mem_ready_wake {concerned : Request → Bool} (h : n ∈ s.ready) :
    n ∈ (s.wake concerned).ready :=
  mem_join (.inl h)

/-- A job that waits for what has come about is woken. -/
lemma mem_ready_wake_of_waiting {concerned : Request → Bool}
    (h : s.jobs[n]? = some (.waiting w)) (hw : concerned w.request = true) :
    n ∈ (s.wake concerned).ready := by
  refine mem_join (.inr (List.mem_map.2 ⟨(n, w), ?_, rfl⟩))
  exact List.mem_mergeSort.2 (List.mem_filter.2 ⟨mem_waiting h, hw⟩)

/-- A job whose alarm has rung when the clock has moved is woken. -/
lemma mem_ready_advance {moment a : Nat} (h : s.jobs[n]? = some (.waiting w))
    (ha : w.alarm = some a) (hle : a ≤ max s.clock moment) : n ∈ (s.advance moment).ready := by
  refine mem_join (.inr (List.mem_map.2 ⟨(a, w.rank, n), ?_, rfl⟩))
  refine List.mem_mergeSort.2 (List.mem_filter.2 ⟨?_, by simpa using hle⟩)
  exact List.mem_filterMap.2 ⟨(n, w), mem_waiting h, by simp [ha]⟩

end State

/-- What one request does to those who wait: no time passes, nobody leaves the line, no job is lost
or changed and a new one stands in the line, and so does every job that pauses under a token that
was fired. -/
structure Heeds (s t : State) : Prop where
  /-- The clock. -/
  clock : t.clock = s.clock
  /-- The line. -/
  ready : ∀ n ∈ s.ready, n ∈ t.ready
  /-- The jobs that are there. -/
  kept : ∀ (n : Nat) (status : JobStatus), s.jobs[n]? = some status → t.jobs[n]? = some status
  /-- The jobs that are new. -/
  new : ∀ (n : Nat) (status : JobStatus), t.jobs[n]? = some status →
    s.jobs[n]? = some status ∨ (∃ work, status = .running work) ∧ n ∈ t.ready
  /-- The jobs that pause. -/
  fired : ∀ (n : Nat) (w : Waiting (Turn Job Ending)) (token : Nat) (span : Duration),
    s.jobs[n]? = some (.waiting w) → w.request = .pause token span → t.isFired token = true →
      s.isFired token = true ∨ n ∈ t.ready

section Heeds

variable {s t u : State} {p : Party} {r : Request} {alarm : Option Nat} {reply : r.Reply}

lemma Heeds.trans (h : Heeds s t) (h' : Heeds t u) : Heeds s u where
  clock := h'.clock.trans h.clock
  ready n hn := h'.ready n (h.ready n hn)
  kept n status hn := h'.kept n status (h.kept n status hn)
  new n status hn := by
    rcases h'.new n status hn with ht | hu
    · exact (h.new n status ht).imp_right fun hs => ⟨hs.1, h'.ready n hs.2⟩
    · exact .inr hu
  fired n w token span hn hw hu := by
    rcases h'.fired n w token span (h.kept n _ hn) hw hu with ht | hready
    · exact (h.fired n w token span hn hw ht).imp_right (h'.ready n)
    · exact .inr hready

/-- Nothing concerns those who wait if the line only grows. -/
lemma heeds_of_eq (hclock : t.clock = s.clock) (hjobs : t.jobs = s.jobs)
    (htokens : t.tokens = s.tokens) (hready : ∀ n ∈ s.ready, n ∈ t.ready) : Heeds s t where
  clock := hclock
  ready := hready
  kept n status hn := by rwa [hjobs]
  new n status hn := .inl (by rwa [hjobs] at hn)
  fired n w token span _ _ hf := .inl (by rwa [State.isFired, htokens] at hf)

lemma heeds_refl (s : State) : Heeds s s := heeds_of_eq rfl rfl rfl fun _ => id

lemma ready_enter (s : State) (p : Party) (r : Request) : (s.enter p r).2.ready = s.ready := by
  unfold State.enter
  split <;> first | rfl | (unfold State.send; split <;> rfl)

/-- Making a request concerns nobody who waits. -/
lemma heeds_enter (s : State) (p : Party) (r : Request) : Heeds s (s.enter p r).2 :=
  heeds_of_eq (State.clock_enter ..) (jobs_enter ..) (tokens_enter ..)
    fun n hn => by rwa [ready_enter]

lemma ready_wakeParty {p : Option Party} {n : Nat} (h : n ∈ s.ready) :
    n ∈ (s.wakeParty p).ready := by
  unfold State.wakeParty
  split
  · split
    · exact h
    · exact List.mem_append_left _ h
  · exact h

lemma heeds_wakeParty (s : State) (p : Option Party) : Heeds s (s.wakeParty p) :=
  have h := alike_wakeParty s p
  heeds_of_eq (State.clock_wakeParty s p) h.jobs h.tokens fun _ => ready_wakeParty

lemma heeds_wake (s : State) (concerned : Request → Bool) : Heeds s (s.wake concerned) :=
  heeds_of_eq rfl rfl rfl fun _ => State.mem_ready_wake

/-- A token that was not there is not fired when it is made. -/
lemma isFired_push {token : Nat}
    (h : State.isFired { s with tokens := s.tokens.push false } token = true) :
    s.isFired token = true := by
  unfold State.isFired at h ⊢
  rw [Array.getElem?_push] at h
  split at h
  · cases h
  · exact h

/-- Firing a token fires no other. -/
lemma isFired_set {token other : Nat} (hne : other ≠ token)
    (h : State.isFired { s with tokens := s.tokens.setIfInBounds token true } other = true) :
    s.isFired other = true := by
  unfold State.isFired at h ⊢
  rwa [Array.getElem?_setIfInBounds, if_neg hne.symm] at h

/-- Whoever pauses under a token is woken when it is fired. -/
lemma heeds_fire (s : State) (token : Nat) :
    Heeds s ({ s with tokens := s.tokens.setIfInBounds token true }.wake
      (State.isPauseUnder token)) where
  clock := rfl
  ready _ := State.mem_ready_wake
  kept _ _ hn := hn
  new _ _ hn := .inl hn
  fired n w other span hn hw hf := by
    by_cases hne : other = token
    · refine .inr (State.mem_ready_wake_of_waiting hn ?_)
      rw [hw, hne]
      exact beq_self_eq_true token
    · exact .inl (isFired_set hne hf)

/-- Who is started joins the line. -/
lemma heeds_spawn (s : State) (job : Job) :
    Heeds s { s with
      jobs := s.jobs.push (.running (.done (.again job)))
      ready := s.ready ++ [s.jobs.size] } where
  clock := rfl
  ready _ := List.mem_append_left _
  kept n status hn := by
    rw [Array.getElem?_push, if_neg (Nat.ne_of_lt (Array.getElem?_eq_some_iff.1 hn).1)]
    exact hn
  new n status hn := by
    rw [Array.getElem?_push] at hn
    split at hn
    · next heq =>
      cases hn
      exact .inr ⟨⟨_, rfl⟩, by simp [heq]⟩
    · exact .inl hn
  fired _ _ _ _ _ _ hf := .inl hf

lemma heeds_receiveInTime {δ : Type} {id command : String} {expected : Bool}
    {outcome : Transport.Answer → Except DeviceFault δ} {answer : Option (Except DeviceFault δ)}
    (h : s.receiveInTime alarm id command expected outcome = some (answer, t)) : Heeds s t := by
  unfold State.receiveInTime at h
  split at h
  · cases h
    exact heeds_refl s
  · split at h
    · cases h
      split
      · exact heeds_of_eq rfl rfl rfl fun _ hn => hn
      · exact heeds_refl s
    · cases h

/-- Answering a request concerns nobody but those who come into the line. -/
lemma heeds_of_answer? (h : s.answer? p alarm r = some (reply, t)) : Heeds s t := by
  cases r with
  | device r =>
    cases r with
    | write | query => exact heeds_receiveInTime h
    | release =>
      cases h
      exact (heeds_of_eq rfl rfl rfl fun _ => id : Heeds s { s with bus := s.bus.leave }).trans
        (heeds_wakeParty ..)
    | log =>
      cases h
      exact heeds_of_eq rfl rfl rfl fun _ => id
    | seize | sleep =>
      simp only [State.answer?, State.answerDevice?] at h
      split at h <;> cases h
      exact heeds_refl s
  | newToken =>
    cases h
    exact ⟨rfl, fun _ => id, fun _ _ => id, fun _ _ => .inl, fun _ _ _ _ _ _ hf =>
      .inl (isFired_push hf)⟩
  | fire token =>
    cases h
    exact heeds_fire s token
  | spawn job =>
    cases h
    exact heeds_spawn s job
  | leaveDesk =>
    cases h
    exact (heeds_of_eq rfl rfl rfl fun _ => id : Heeds s { s with desk := s.desk.leave }).trans
      (heeds_wakeParty ..)
  | create path =>
    have ht : s.createFile path = (reply, t) := Option.some.inj h
    rw [show t = (s.createFile path).2 by rw [ht]]
    unfold State.createFile
    split
    · exact heeds_refl s
    · split <;> exact heeds_of_eq rfl rfl rfl fun _ => id
  | append file text =>
    have ht : s.appendFile file text = (reply, t) := Option.some.inj h
    rw [show t = (s.appendFile file text).2 by rw [ht]]
    unfold State.appendFile
    split
    · exact heeds_refl s
    · split
      · exact heeds_refl s
      · exact heeds_of_eq rfl rfl rfl fun _ => id
  | pause | join | tryDesk | takeDesk =>
    simp only [State.answer?] at h
    repeat' split at h
    all_goals cases h
    all_goals exact heeds_of_eq rfl rfl rfl fun _ => id
  | _ =>
    cases h
    exact heeds_of_eq rfl rfl rfl fun _ => id

/-- Whoever goes on waiting waits for an alarm that has not rung, and for no token that was
fired. -/
lemma Began.not_rung (hb : Began p r alarm) (h : s.answer? p alarm r = none) :
    (∀ a, alarm = some a → s.clock < a) ∧
      ∀ token span, r = .pause token span → s.isFired token = false := by
  have hrung (hr : s.rung alarm ≠ true) : ∀ a, alarm = some a → s.clock < a := by
    rintro a rfl
    exact Nat.lt_of_not_le fun hle => hr (by simpa [State.rung] using hle)
  cases r with
  | device r =>
    refine ⟨?_, fun _ _ hr => by cases hr⟩
    cases r with
    | seize =>
      obtain ⟨u, rfl, -⟩ := hb
      rintro a ⟨⟩
    | sleep =>
      simp only [State.answer?, State.answerDevice?] at h
      split at h
      · cases h
      · next hr => exact hrung hr
    | write | query =>
      simp only [State.answer?, State.answerDevice?, State.receiveInTime] at h
      split at h
      · cases h
      · split at h
        · cases h
        · next hr => exact hrung hr
    | release | log => cases h
  | pause token span =>
    simp only [State.answer?] at h
    split at h
    · cases h
    · next hf =>
      split at h
      · cases h
      · next hr =>
        refine ⟨hrung hr, ?_⟩
        rintro _ _ ⟨⟩
        simpa using hf
  | join | takeDesk =>
    refine ⟨?_, fun _ _ hr => by cases hr⟩
    simp only [State.answer?] at h
    split at h
    · cases h
    · split at h
      · cases h
      · next hr => exact hrung hr
  | _ => exact absurd hb.mayWait id

end Heeds

/-! ## Jobs that can go on -/

/-- A job can go on: it is the one that runs, or it stands in the line. -/
def InLine (s : State) (current : Option Nat) (n : Nat) : Prop := current = some n ∨ n ∈ s.ready

/-- A job that can go on runs or stands in the line. Whoever waits does so for an alarm that is not
over yet. -/
def Covered (s : State) (current : Option Nat) (n : Nat) : JobStatus → Prop
  | .running _ => InLine s current n
  | .waiting w => Began (.job n) w.request w.alarm ∧
      (∀ a, w.alarm = some a → s.clock ≤ a ∧ (s.clock = a → InLine s current n)) ∧
      ∀ token span, w.request = .pause token span → s.isFired token = true → InLine s current n
  | .ended _ => True

/-- Every job that can go on runs or stands in the line. -/
def AllCovered (s : State) (current : Option Nat) : Prop :=
  ∀ (n : Nat) (status : JobStatus), s.jobs[n]? = some status → Covered s current n status

section Covered

variable {s t : State} {current current' : Option Nat} {n : Nat} {status : JobStatus}

lemma Covered.mono (h : Covered s current n status) (hclock : t.clock = s.clock)
    (hline : InLine s current n → InLine t current' n)
    (hfired : ∀ w token span, status = .waiting w → w.request = .pause token span →
      t.isFired token = true → s.isFired token = true ∨ InLine t current' n) :
    Covered t current' n status := by
  cases status with
  | running => exact hline h
  | ended => trivial
  | waiting w =>
    obtain ⟨hbegan, halarm, hpause⟩ := h
    refine ⟨hbegan, fun a ha => ?_, fun token span hw hf => ?_⟩
    · rw [hclock]
      exact ⟨(halarm a ha).1, fun heq => hline ((halarm a ha).2 heq)⟩
    · exact (hfired w token span rfl hw hf).elim (fun hs => hline (hpause token span hw hs)) id

lemma AllCovered.heeds (h : AllCovered s current) (ht : Heeds s t) : AllCovered t current := by
  intro n status hn
  rcases ht.new n status hn with hs | ⟨⟨work, rfl⟩, hready⟩
  · refine (h n status hs).mono ht.clock (Or.imp_right (ht.ready n)) ?_
    rintro w token span rfl hw hf
    exact (ht.fired n w token span hs hw hf).imp_right .inr
  · exact .inr hready

/-- A job turns to something else, and possibly runs no longer. -/
lemma AllCovered.set (h : AllCovered s current) (hstatus : Covered s current' n status)
    (hcurrent : ∀ k, k ≠ n → current = some k → current' = some k) :
    AllCovered (s.setJob n status) current' := by
  intro k other hk
  change (s.jobs.setIfInBounds n status)[k]? = some other at hk
  rw [Array.getElem?_setIfInBounds] at hk
  have hsame {x : JobStatus} (hx : Covered s current' k x) :
      Covered (s.setJob n status) current' k x :=
    hx.mono rfl id fun _ _ _ _ _ hf => .inl hf
  split at hk
  · next heq =>
    subst heq
    split at hk
    · cases hk
      exact hsame hstatus
    · cases hk
  · next hne =>
    refine hsame ((h k other hk).mono rfl ?_ fun _ _ _ _ _ hf => .inl hf)
    exact Or.imp_left (hcurrent k (Ne.symm hne))

/-- The job that is taken from the line runs. -/
lemma AllCovered.take {rest : List Nat} (h : AllCovered s none) (hready : s.ready = n :: rest) :
    AllCovered { s with ready := rest } (some n) := by
  intro k status hk
  refine (h k status hk).mono rfl ?_ fun _ _ _ _ _ hf => .inl hf
  rintro (hnone | hmem)
  · cases hnone
  · rw [hready, List.mem_cons] at hmem
    rcases hmem with rfl | hrest
    · exact .inl rfl
    · exact .inr hrest

/-- A job that cannot go on runs no longer. -/
lemma AllCovered.leave (h : AllCovered s (some n))
    (hn : ∀ status, s.jobs[n]? = some status → Covered s none n status) : AllCovered s none := by
  intro k status hk
  by_cases hkn : k = n
  · subst hkn
    exact hn status hk
  · refine (h k status hk).mono rfl (Or.imp_left fun hsome => ?_) fun _ _ _ _ _ hf => .inl hf
    exact absurd (Option.some.inj hsome).symm hkn

/-- While nobody can go on the clock moves to the next alarm, and whose alarm it is can go on. -/
lemma AllCovered.advance {moment : Nat} (h : AllCovered s none) (hready : s.ready = [])
    (hmoment : ∀ a ∈ s.alarms, moment ≤ a.1) : AllCovered (s.advance moment) none := by
  have hnobody (k : Nat) : ¬InLine s none k := by
    rintro (hnone | hmem)
    · cases hnone
    · simp [hready] at hmem
  intro k status hk
  cases status with
  | running => exact absurd (h k _ hk) (hnobody k)
  | ended => trivial
  | waiting w =>
    obtain ⟨hbegan, halarm, hpause⟩ := h k _ hk
    refine ⟨hbegan, fun a ha => ⟨?_, fun heq => ?_⟩, fun token span hw hf => ?_⟩
    · have hmem : (a, w.rank, k) ∈ s.alarms :=
        List.mem_filterMap.2 ⟨(k, w), State.mem_waiting hk, by simp [ha]⟩
      exact Nat.max_le.2 ⟨(halarm a ha).1, hmoment _ hmem⟩
    · exact .inr (State.mem_ready_advance hk ha (Nat.le_of_eq heq.symm))
    · exact absurd (hpause token span hw hf) (hnobody k)

end Covered

namespace Scene

/-- A job of a scene can go on. -/
def InLine (c : Scene α) (n : Nat) : Prop := Rig.InLine c.state c.current n

/-- Every job that can go on runs or stands in the line, and only a job that can go on runs. -/
structure Punctual (c : Scene α) : Prop where
  /-- While the foreground goes on no job runs. -/
  foreground : ∀ work, c.foreground = .running work → c.current = none
  /-- The job that runs. -/
  current : ∀ n, c.current = some n → ∃ work, c.state.jobs[n]? = some (.running work)
  /-- All jobs. -/
  jobs : AllCovered c.state c.current

section Punctual

variable {c d : Scene α} {n : Nat}

/-- The foreground makes a request. -/
lemma Punctual.foreground_ask {r : Request} {next : r.Reply → RigWork α}
    (h : c.Punctual) (hf : c.foreground = .running (.ask r next))
    (hs : c.step site = .more d) : d.Punctual := by
  have hnone := h.foreground _ hf
  have hentered := h.jobs.heeds (heeds_enter c.state .foreground r)
  unfold step at hs
  simp only [hf, ask] at hs
  cases ha : (c.state.enter .foreground r).2.answer? .foreground
      (c.state.enter .foreground r).1 r with
  | some answer =>
    simp only [ha] at hs
    cases hs
    exact ⟨fun _ _ => hnone, fun n hn => (by rw [hnone] at hn; cases hn),
      hentered.heeds (heeds_of_answer? ha)⟩
  | none =>
    simp only [ha] at hs
    cases hs
    exact ⟨fun _ _ => hnone, fun n hn => (by rw [hnone] at hn; cases hn),
      hentered.heeds (heeds_of_eq rfl rfl rfl fun _ => id)⟩

/-- Whoever is covered runs no longer than it can. -/
lemma punctual_of_none {w : Waiting α} {fresh : Bool} {s : State} (h : AllCovered s none) :
    Punctual (⟨s, .waiting w, none, fresh⟩ : Scene α) :=
  ⟨fun _ hf => (by cases hf), fun _ hn => (by cases hn), h⟩

/-- A job turns to something else and goes on running. -/
lemma punctual_of_some {w : Waiting α} {fresh : Bool} {s : State} {work work' : RigWork _}
    (h : AllCovered s (some n)) (hn : s.jobs[n]? = some (.running work)) :
    Punctual (⟨s.setJob n (.running work'), .waiting w, some n, fresh⟩ : Scene α) := by
  have hset : AllCovered (s.setJob n (.running work')) (some n) :=
    h.set (Or.inl rfl) fun _ _ hk => hk
  refine ⟨fun _ hf => (by cases hf), fun k hk => ?_, hset⟩
  cases hk
  refine ⟨work', ?_⟩
  change (s.jobs.setIfInBounds n _)[n]? = _
  rw [Array.getElem?_setIfInBounds, if_pos rfl, if_pos (Array.getElem?_eq_some_iff.1 hn).1]

/-- The job that runs goes on. -/
lemma Punctual.stepJob {w : Waiting α} (h : c.Punctual) (hf : c.foreground = .waiting w)
    (hn : c.current = some n) : (c.stepJob site n).Punctual := by
  obtain ⟨s, foreground, current, fresh⟩ := c
  cases hf
  cases hn
  obtain ⟨work, hj⟩ := h.current n rfl
  have hjobs : AllCovered s (some n) := h.jobs
  have hothers (k : Nat) (hk : k ≠ n) (hsome : some n = some k) : none = some k :=
    absurd (Option.some.inj hsome).symm hk
  cases work with
  | done turn =>
    cases turn with
    | again job =>
      simp only [Scene.stepJob, hj]
      exact punctual_of_some hjobs hj
    | _ ending =>
      simp only [Scene.stepJob, hj]
      have hended : AllCovered (s.setJob n (.ended ending)) none :=
        hjobs.set trivial hothers
      exact punctual_of_none (hended.heeds (heeds_wake ..))
  | ask r next =>
    have hentered := hjobs.heeds (heeds_enter s (.job n) r)
    cases ha : (s.enter (.job n) r).2.answer? (.job n) (s.enter (.job n) r).1 r with
    | some answer =>
      simp only [Scene.stepJob, hj, ask, ha]
      have hheeds := heeds_of_answer? ha
      exact punctual_of_some (hentered.heeds hheeds)
        (hheeds.kept n _ ((heeds_enter s (.job n) r).kept n _ hj))
    | none =>
      simp only [Scene.stepJob, hj, ask, ha]
      have hbegan : Began (.job n) r (s.enter (.job n) r).1 := ⟨s, rfl, ha⟩
      obtain ⟨halarm, hpause⟩ := hbegan.not_rung ha
      have hwaits := hentered.heeds (heeds_of_eq rfl rfl rfl fun _ => id :
        Heeds (s.enter (.job n) r).2
          { (s.enter (.job n) r).2 with waits := (s.enter (.job n) r).2.waits + 1 })
      refine punctual_of_none (hwaits.set ⟨hbegan, fun a ha => ?_, fun token span hr hf => ?_⟩
        hothers)
      · exact ⟨Nat.le_of_lt (halarm a ha), fun heq => absurd heq (Nat.ne_of_lt (halarm a ha))⟩
      · cases (hpause token span hr).symm.trans hf

/-- The next job of the line is taken up. -/
lemma Punctual.takeJob {w : Waiting α} {rest : List Nat} (h : c.Punctual)
    (hf : c.foreground = .waiting w) (hn : c.current = none) (hready : c.state.ready = n :: rest) :
    ({ c.takeJob n rest with fresh := false } : Scene α).Punctual := by
  obtain ⟨s, foreground, current, fresh⟩ := c
  cases hf
  cases hn
  have htaken : AllCovered { s with ready := rest } (some n) := AllCovered.take h.jobs hready
  cases hj : s.jobs[n]? with
  | none =>
    simp only [Scene.takeJob, hj]
    exact punctual_of_none (htaken.leave fun status hn => by cases hj.symm.trans hn)
  | some status =>
    cases status with
    | ended ending =>
      simp only [Scene.takeJob, hj]
      refine punctual_of_none (htaken.leave fun status hn => ?_)
      cases hj.symm.trans hn
      trivial
    | running work =>
      simp only [Scene.takeJob, hj]
      refine ⟨fun _ hf => (by cases hf), fun k hk => ?_, htaken⟩
      cases hk
      exact ⟨work, hj⟩
    | waiting w' =>
      cases ha : ({ s with ready := rest } : State).answer? (.job n) w'.alarm w'.request with
      | some answer =>
        simp only [Scene.takeJob, hj, resume?, ha]
        have hheeds := heeds_of_answer? ha
        have hset : AllCovered (answer.2.setJob n (.running (w'.next answer.1))) (some n) :=
          (htaken.heeds hheeds).set (Or.inl rfl) fun _ _ hk => hk
        refine ⟨fun _ hf => (by cases hf), fun k hk => ?_, hset⟩
        cases hk
        have hkept := hheeds.kept n _ hj
        refine ⟨w'.next answer.1, ?_⟩
        change (answer.2.jobs.setIfInBounds n _)[n]? = _
        rw [Array.getElem?_setIfInBounds, if_pos rfl,
          if_pos (Array.getElem?_eq_some_iff.1 hkept).1]
      | none =>
        simp only [Scene.takeJob, hj, resume?, ha]
        refine punctual_of_none (htaken.leave fun status hn => ?_)
        cases hj.symm.trans hn
        obtain ⟨hbegan, -, -⟩ := htaken n _ hj
        obtain ⟨halarm, hpause⟩ := hbegan.not_rung ha
        refine ⟨hbegan, fun a ha => ?_, fun token span hr hf => ?_⟩
        · exact ⟨Nat.le_of_lt (halarm a ha), fun heq => absurd heq (Nat.ne_of_lt (halarm a ha))⟩
        · cases (hpause token span hr).symm.trans hf

lemma le_of_nextAlarm? {w : Waiting α} {moment : Nat} (h : c.nextAlarm? w = some moment) :
    ∀ a ∈ c.state.alarms, moment ≤ a.1 := by
  intro a ha
  refine (List.min?_eq_some_iff.1 h).2 a.1 (List.mem_append_right _ ?_)
  exact List.mem_map.2 ⟨a, ha, rfl⟩

/-- While no job runs the foreground goes on, or a job of the line, or the clock moves. -/
lemma Punctual.stepIdle {w : Waiting α} (h : c.Punctual) (hf : c.foreground = .waiting w)
    (hn : c.current = none) (hs : c.stepIdle w = .more d) : d.Punctual := by
  unfold Scene.stepIdle at hs
  dsimp only at hs
  split at hs
  · next work t hr =>
    cases hs
    have hresume : resume? c.state .foreground w = some (work, t) := by
      split at hr
      · exact hr
      · cases hr
    obtain ⟨⟨reply, u⟩, ha, he⟩ := Option.map_eq_some_iff.1 hresume
    cases he
    exact ⟨fun _ _ => hn, fun n hc => (by rw [hn] at hc; cases hc),
      h.jobs.heeds (heeds_of_answer? ha)⟩
  · split at hs
    · next hready =>
      cases hs
      exact h.takeJob hf hn hready
    · next hready =>
      split at hs
      · next moment hm =>
        cases hs
        have hjobs := h.jobs
        rw [hn] at hjobs
        refine ⟨fun _ _ => hn, fun n hc => (by rw [hn] at hc; cases hc), ?_⟩
        change AllCovered (c.state.advance moment) c.current
        rw [hn]
        exact hjobs.advance hready (le_of_nextAlarm? hm)
      · cases hs

/-- **Punctual scenes lead to punctual scenes.**

**Proof sketch.** A reply takes nobody out of the line, and whoever it concerns comes into it
(`heeds_of_answer?`). A job only leaves the line to run, and it only stops running if it ends or
waits for what has not come about (`Began.not_rung`). The clock moves while the line is empty, and
no further than to the next alarm (`AllCovered.advance`). -/
theorem Punctual.step (h : c.Punctual) (hs : c.step site = .more d) : d.Punctual := by
  cases hf : c.foreground with
  | running work =>
    cases work with
    | done value =>
      simp only [Scene.step, hf] at hs
      cases hs
    | ask r next => exact h.foreground_ask hf hs
  | waiting w =>
    simp only [Scene.step, hf] at hs
    cases hn : c.current with
    | none =>
      simp only [hn] at hs
      exact h.stepIdle hf hn hs
    | some n =>
      simp only [hn] at hs
      cases hs
      exact h.stepJob hf hn

/-- A job that runs can go on. -/
lemma Punctual.inLine_of_running (h : c.Punctual) {work : RigWork (Turn Job Ending)}
    (hat : c.at? (.job n) = some (.running work)) : c.InLine n :=
  h.jobs n _ (at?_job_iff.1 hat)

/-- **No time passes while a job can go on.** -/
theorem clock_of_inLine (hn : c.InLine n) (hs : c.step site = .more d) :
    d.state.clock = c.state.clock := by
  cases hf : c.foreground with
  | running work =>
    cases work with
    | done value =>
      simp only [Scene.step, hf] at hs
      cases hs
    | ask r next =>
      simp only [Scene.step, hf] at hs
      have hclock := clock_ask c.state .foreground r next
      split at hs
      all_goals
        next he =>
          cases hs
          rw [he] at hclock
          exact hclock
  | waiting w =>
    simp only [Scene.step, hf] at hs
    cases hc : c.current with
    | some k =>
      simp only [hc] at hs
      cases hs
      exact clock_stepJob ..
    | none =>
      have hready : n ∈ c.state.ready := by
        rcases hn with hsome | hready
        · cases hc.symm.trans hsome
        · exact hready
      simp only [hc, Scene.stepIdle] at hs
      split at hs
      · next work t hr =>
        cases hs
        split at hr
        · exact clock_of_resume? hr
        · cases hr
      · split at hs
        · cases hs
          exact clock_takeJob ..
        · next hnil => simp [hnil] at hready

/-- A rig does not get stuck while a job can go on or waits for an alarm. -/
lemma step_ne_stuck (h : c.InLine n ∨ ∃ w a, c.state.jobs[n]? = some (.waiting w) ∧
    w.alarm = some a) : c.step site ≠ .stuck := by
  intro hs
  cases hf : c.foreground with
  | running work =>
    cases work with
    | done value =>
      simp only [Scene.step, hf] at hs
      cases hs
    | ask r next =>
      simp only [Scene.step, hf] at hs
      split at hs <;> cases hs
  | waiting w =>
    cases hcurrent : c.current with
    | some k =>
      simp only [Scene.step, hf, hcurrent] at hs
      cases hs
    | none =>
      simp only [Scene.step, hf, hcurrent, Scene.stepIdle] at hs
      split at hs
      · cases hs
      · split at hs
        · cases hs
        · next hready =>
          split at hs
          · cases hs
          · next halarm =>
            rcases h with (hsome | hline) | ⟨w', a, hj, ha⟩
            · cases hcurrent.symm.trans hsome
            · simp [hready] at hline
            · have hmem : (a, w'.rank, n) ∈ c.state.alarms :=
                List.mem_filterMap.2 ⟨(n, w'), State.mem_waiting hj, by simp [ha]⟩
              have hnil := List.min?_eq_none_iff.1 halarm
              simp only [List.append_eq_nil_iff, List.map_eq_nil_iff] at hnil
              rw [hnil.2] at hmem
              cases hmem

end Punctual

/-! ## Courses of a rig that is left to itself -/

/-- What a scene leads to if the rig is left to itself: a step, or nothing more, or new work in the
foreground when the work there is done. -/
inductive Ensues (site : Site RigSurroundings) (c : Scene α) : Scene α → Prop where
  /-- A step. -/
  | step {d : Scene α} (h : c.step site = .more d) : Ensues site c d
  /-- The work in the foreground is done, and the next one begins. -/
  | next {value : α} (work : RigWork α) (h : c.foreground = .running (.done value)) :
    Ensues site c ⟨c.state, .running work, none, false⟩
  /-- Nothing happens. -/
  | stay : Ensues site c c

/-- A course of a rig that is left to itself, from where no job was started yet. -/
structure Timeline (site : Site RigSurroundings) (c : Nat → Scene α) : Prop where
  /-- Where it begins. -/
  opening : ∃ s work, s.jobs = #[] ∧ c 0 = ⟨s, .running work, none, false⟩
  /-- How it goes on. -/
  ensues : ∀ n, (c n).Ensues site (c (n + 1))

lemma Punctual.ensues {c d : Scene α} (h : c.Punctual) (hd : c.Ensues site d) : d.Punctual := by
  cases hd with
  | step hs => exact h.step hs
  | stay => exact h
  | next work hf =>
    have hjobs := h.jobs
    rw [h.foreground _ hf] at hjobs
    exact ⟨fun _ _ => rfl, fun _ hn => (by cases hn), hjobs⟩

/-- All scenes of the course are punctual. -/
lemma Timeline.punctual {c : Nat → Scene α} (h : Timeline site c) (n : Nat) : (c n).Punctual := by
  induction n with
  | zero =>
    obtain ⟨s, work, hjobs, hc⟩ := h.opening
    rw [hc]
    refine ⟨fun _ _ => rfl, fun _ hn => (by cases hn), fun n status hn => ?_⟩
    rw [hjobs] at hn
    cases hn
  | succ n ih => exact ih.ensues (h.ensues n)

section Timeline

variable {c : Nat → Scene α} {i j token : Nat}

/-- Where there is no step the rig is as it was. -/
lemma Timeline.state_eq (h : Timeline site c) (hs : (c i).step site ≠ .more (c (i + 1))) :
    (c (i + 1)).state = (c i).state := by
  have hi := h.ensues i
  generalize c (i + 1) = d at hi hs ⊢
  cases hi with
  | step hstep => exact absurd hstep hs
  | next | stay => rfl

lemma Timeline.isFired_succ (h : Timeline site c) (hf : (c i).state.isFired token = true) :
    (c (i + 1)).state.isFired token = true := by
  by_cases hs : (c i).step site = .more (c (i + 1))
  · obtain ⟨asked, reply?, hp⟩ := proceeds_of_step hs
    exact hp.isFired hf
  · rwa [h.state_eq hs]

/-- A token that was fired stays so. -/
lemma Timeline.isFired_of_le (h : Timeline site c) (hf : (c i).state.isFired token = true)
    (hij : i ≤ j) : (c j).state.isFired token = true := by
  induction hij with
  | refl => exact hf
  | step _ ih => exact h.isFired_succ ih

lemma Timeline.clock_le (h : Timeline site c) (hij : i ≤ j) :
    (c i).state.clock ≤ (c j).state.clock := by
  induction hij with
  | refl => exact le_rfl
  | @step j _ ih =>
    by_cases hs : (c j).step site = .more (c (j + 1))
    · exact ih.trans (clock_le_of_step hs)
    · rwa [h.state_eq hs]

/-- While a job can go on no time passes. -/
lemma Timeline.clock_succ (h : Timeline site c) {n : Nat} (hn : (c i).InLine n) :
    (c (i + 1)).state.clock = (c i).state.clock := by
  by_cases hs : (c i).step site = .more (c (i + 1))
  · exact clock_of_inLine hn hs
  · rw [h.state_eq hs]

/-- What the clock shows still holds in the next scene of every scene since which a token was fired,
if a job can go on once it was. -/
lemma Timeline.since_fired (h : Timeline site c) {n : Nat} {P : Nat → Nat → Prop}
    (hfired : ∀ k, k ≤ j → (c k).state.isFired token = true → P (c j).state.clock k)
    (hline : (c j).state.isFired token = true → (c j).InLine n)
    (hself : P (c (j + 1)).state.clock (j + 1)) :
    ∀ k, k ≤ j + 1 → (c k).state.isFired token = true → P (c (j + 1)).state.clock k := by
  intro k hkj hk
  rcases Nat.le_succ_iff.1 hkj with hle | rfl
  · rw [h.clock_succ (hline (h.isFired_of_le hk hle))]
    exact hfired k hle hk
  · exact hself

end Timeline

/-- A rig that is left to itself takes a course. -/
lemma ensues_follow (site : Site RigSurroundings) (c : Scene α) (n : Nat) :
    (c.follow site n).Ensues site (c.follow site (n + 1)) := by
  rcases step_follow site c n with hs | heq
  · exact .step hs
  · rw [heq]
    exact .stay

/-! ## What becomes of one job -/

/-- What a job is at before and after a step of a rig, with what it is told. -/
inductive Moves (site : Site RigSurroundings) (s : State) (n : Nat) :
    Foreground (Turn Job Ending) → List (Exchange RigSurroundings) →
      Foreground (Turn Job Ending) → Prop where
  /-- It is somebody else's step. -/
  | still (x : Foreground (Turn Job Ending)) : Moves site s n x [] x
  /-- It makes a request, and the reply is there. -/
  | answer {r : Request} {next : r.Reply → RigWork (Turn Job Ending)} {reply : r.Reply} {t : State}
    (h : (s.enter (.job n) r).2.answer? (.job n) (s.enter (.job n) r).1 r = some (reply, t)) :
    Moves site s n (.running (.ask r next)) [⟨r, reply⟩] (.running (next reply))
  /-- It makes a request, and waits for the reply. -/
  | wait {r : Request} {next : r.Reply → RigWork (Turn Job Ending)} (rank : Nat)
    (h : (s.enter (.job n) r).2.answer? (.job n) (s.enter (.job n) r).1 r = none) :
    Moves site s n (.running (.ask r next)) []
      (.waiting ⟨r, next, (s.enter (.job n) r).1, rank⟩)
  /-- The reply that it waits for has come. -/
  | resume {w : Waiting (Turn Job Ending)} {reply : w.request.Reply} {t : State}
    (ready : List Nat)
    (h : { s with ready := ready }.answer? (.job n) w.alarm w.request = some (reply, t)) :
    Moves site s n (.waiting w) [⟨w.request, reply⟩] (.running (w.next reply))
  /-- It goes on with its next turn. -/
  | turn (job : Job) :
    Moves site s n (.running (.done (.again job))) [] (.running (turnOf site job))

section Moves

variable {c d : Scene α} {n : Nat} {asked : Option (Party × Request)}
  {reply? : Option (Party × Exchange RigSurroundings)} {x : Foreground (Turn Job Ending)}

/-- In a step a job moves, or it comes to its end. -/
theorem Proceeds.moves (h : Proceeds site c asked reply? d) (hx : c.at? (.job n) = some x) :
    (∃ y, d.at? (.job n) = some y ∧ Moves site c.state n x (toldTo (.job n) reply?.toList) y) ∨
      ∃ ending, x = .running (.done (.over ending)) ∧ reply? = none ∧
        d.state.ending? n = some ending := by
  have hstill {e : Scene α} {told : List (Exchange RigSurroundings)} (he : e.at? (.job n) = some x)
      (htold : told = []) :
      ∃ y, e.at? (.job n) = some y ∧ Moves site c.state n x told y :=
    ⟨x, he, htold ▸ .still x⟩
  cases h with
  | @answer p r next reply t hr hp ha =>
    have hat := at?_of_answer? (jobs_enter c.state p r) ha hx
    by_cases hpn : Party.job n = p
    · subst hpn
      cases hp.symm.trans hx
      refine .inl ⟨_, at?_put_self hat, ?_⟩
      rw [Option.toList_some, toldTo_cons_self]
      exact .answer ha
    · exact .inl (hstill ((at?_put_of_ne hpn).trans hat) (toldTo_cons_of_ne (Ne.symm hpn)))
  | @wait p r next current hr hp ha hn =>
    have hat : ({ c with
        state := { (c.state.enter p r).2 with waits := (c.state.enter p r).2.waits + 1 }
        current := current } : Scene α).at? (.job n) = some x := by
      rw [← hx]
      exact at?_mk
        (s := { (c.state.enter p r).2 with waits := (c.state.enter p r).2.waits + 1 })
        (jobs_enter c.state p r) (.job n)
    by_cases hpn : Party.job n = p
    · subst hpn
      cases hp.symm.trans hx
      exact .inl ⟨_, at?_put_self hat, .wait _ ha⟩
    · exact .inl (hstill ((at?_put_of_ne hpn).trans hat) rfl)
  | @resume p w reply t ready current hr hp ha hn =>
    have hat : ({ c with state := t, current := current, fresh := false } : Scene α).at?
        (.job n) = some x := at?_of_answer? (s := { c.state with ready := ready }) rfl ha hx
    by_cases hpn : Party.job n = p
    · subst hpn
      cases hp.symm.trans hx
      refine .inl ⟨_, at?_put_self hat, ?_⟩
      rw [Option.toList_some, toldTo_cons_self]
      exact .resume ready ha
    · exact .inl (hstill ((at?_put_of_ne hpn).trans hat) (toldTo_cons_of_ne (Ne.symm hpn)))
  | take hr hn => exact .inl (hstill ((at?_mk rfl _).trans hx) rfl)
  | @turn k job hr hn =>
    by_cases hkn : n = k
    · subst hkn
      cases hn.symm.trans hx
      exact .inl ⟨_, at?_put_self hn, .turn job⟩
    · refine .inl (hstill ((at?_put_of_ne ?_).trans hx) rfl)
      rintro ⟨⟩
      exact hkn rfl
  | @finish k ending hr hn =>
    by_cases hkn : n = k
    · subst hkn
      cases hn.symm.trans hx
      refine .inr ⟨ending, rfl, rfl, ?_⟩
      change State.ending? (c.state.setJob n (.ended ending)) n = some ending
      rw [State.ending?, State.setJob, Array.getElem?_setIfInBounds, if_pos rfl,
        if_pos (lt_size_of_at? hx)]
    · have hne : Party.job n ≠ .job k := by
        rintro ⟨⟩
        exact hkn rfl
      have hend : ({ c with state := c.state.setJob k (.ended ending) } : Scene α).at? (.job n) =
          some x := (at?_end_of_ne hne).trans hx
      exact .inl (hstill hend rfl)
  | idle hr hs => exact .inl (hstill ((at?_mk (by rw [hs]) _).trans hx) rfl)

/-- It takes no time to have a reply. -/
lemma Proceeds.clock_eq {told : Party × Exchange RigSurroundings}
    (h : Proceeds site c asked (some told) d) : d.state.clock = c.state.clock := by
  generalize hx : some told = reply? at h
  cases h with
  | answer _ _ ha =>
    rw [state_put]
    exact (State.clock_of_answer? ha).trans (State.clock_enter ..)
  | @resume _ _ _ t ready _ _ _ ha =>
    have ht : t.clock = c.state.clock :=
      State.clock_of_answer? (s := { c.state with ready := ready }) ha
    rw [state_put]
    exact ht
  | _ => cases hx

/-- What becomes of a job that makes a request or waits for the reply. -/
lemma Moves.of_asks {s : State} {es : List (Exchange RigSurroundings)}
    {y : Foreground (Turn Job Ending)} {r : Request} {next : r.Reply → RigWork (Turn Job Ending)}
    (h : Moves site s n x es y) (hx : x.work = .ask r next) :
    (es = [] ∧ y.work = .ask r next) ∨
      ∃ reply, es = [⟨r, reply⟩] ∧ y = .running (next reply) := by
  cases h with
  | still => exact .inl ⟨rfl, hx⟩
  | @answer _ _ reply =>
    cases hx
    exact .inr ⟨reply, rfl, rfl⟩
  | wait =>
    cases hx
    exact .inl ⟨rfl, rfl⟩
  | @resume w reply =>
    obtain ⟨request, next', alarm, rank⟩ := w
    cases hx
    exact .inr ⟨reply, rfl, rfl⟩
  | turn => cases hx

/-- A request that does not wait is answered as the rig is. -/
lemma Moves.quick {s : State} {es : List (Exchange RigSurroundings)}
    {y : Foreground (Turn Job Ending)} {r : Request} {next : r.Reply → RigWork (Turn Job Ending)}
    (h : Moves site s n (.running (.ask r next)) es y) (hr : ¬MayWait r) :
    (es = [] ∧ y = .running (.ask r next)) ∨ ∃ reply t,
      s.answer? (.job n) none r = some (reply, t) ∧ es = [⟨r, reply⟩] ∧
        y = .running (next reply) := by
  cases h with
  | still => exact .inl ⟨rfl, rfl⟩
  | @answer _ _ reply t ha =>
    rw [enter_of_not_mayWait hr] at ha
    exact .inr ⟨reply, t, ha, rfl, rfl⟩
  | wait rank ha => exact absurd (mayWait_of_answer?_eq_none ha) hr

/-- At the end of a turn a job goes on with the next one. -/
lemma Moves.of_again {s : State} {es : List (Exchange RigSurroundings)}
    {y : Foreground (Turn Job Ending)} {job : Job}
    (h : Moves site s n (.running (.done (.again job))) es y) :
    es = [] ∧ (y = .running (.done (.again job)) ∨ y = .running (turnOf site job)) := by
  cases h with
  | still => exact ⟨rfl, .inl rfl⟩
  | turn => exact ⟨rfl, .inr rfl⟩

/-- Jobs are at the same things if the rig is the same. -/
lemma at?_of_state_eq (h : d.state = c.state) (n : Nat) : d.at? (.job n) = c.at? (.job n) := by
  change d.state.jobs[n]?.bind _ = c.state.jobs[n]?.bind _
  rw [h]

end Moves

/-! ## Pauses -/

/-- A job pauses since the clock showed `t`: it is about to, or waits for the pause to be over. -/
inductive Pauses (c : Scene α) (n token : Nat) (span : Duration)
    (next : Bool → RigWork (Turn Job Ending)) (t : Nat) : Prop where
  /-- It is about to. -/
  | begins (hat : c.at? (.job n) = some (.running (.ask (.pause token span) next)))
    (hclock : c.state.clock = t)
  /-- It waits. -/
  | waits (rank : Nat)
    (hat : c.at? (.job n) = some (.waiting ⟨.pause token span, next, some (span.ringsAt t), rank⟩))
    (hclock : t ≤ c.state.clock)

section Pauses

variable {c d : Scene α} {n token t : Nat} {span : Duration}
  {next : Bool → RigWork (Turn Job Ending)} {asked : Option (Party × Request)}
  {reply? : Option (Party × Exchange RigSurroundings)}

lemma Pauses.at? (h : c.Pauses n token span next t) :
    ∃ x, c.at? (.job n) = some x ∧ x.work = .ask (.pause token span) next := by
  cases h with
  | begins hat => exact ⟨_, hat, rfl⟩
  | waits rank hat => exact ⟨_, hat, rfl⟩

/-- A timer does not ring before its span is over. -/
lemma nanos_le_ringsAt (span : Duration) (t : Nat) :
    t * nanosPerMilli + span.nanos ≤ span.ringsAt t * nanosPerMilli := by
  simp only [Duration.ringsAt, Instant.tick, Instant.ofMillis, nanosPerMilli]
  omega

/-- A timer never rings before it was set. -/
lemma le_ringsAt (span : Duration) (t : Nat) : t ≤ span.ringsAt t := by
  simp only [Duration.ringsAt, Instant.tick, Instant.ofMillis, nanosPerMilli]
  omega

/-- A job that pauses under a token that was fired can go on, and so can one whose pause has lasted
long enough. -/
lemma Pauses.inLine (h : c.Pauses n token span next t) (hc : c.Punctual)
    (hover : c.state.isFired token = true ∨ span.ringsAt t ≤ c.state.clock) : c.InLine n := by
  cases h with
  | begins hat => exact hc.inLine_of_running hat
  | waits rank hat hclock =>
    obtain ⟨-, halarm, hpause⟩ := hc.jobs n _ (at?_job_iff.1 hat)
    rcases hover with hf | hle
    · exact hpause token span rfl hf
    · exact (halarm _ rfl).2 (Nat.le_antisymm (halarm _ rfl).1 hle)

/-- A rig does not get stuck while a job pauses. -/
lemma Pauses.step_ne_stuck (h : c.Pauses n token span next t) (hc : c.Punctual) :
    c.step site ≠ .stuck := by
  cases h with
  | begins hat => exact Scene.step_ne_stuck (.inl (hc.inLine_of_running hat))
  | waits rank hat => exact Scene.step_ne_stuck (.inr ⟨_, _, at?_job_iff.1 hat, rfl⟩)

/-- No pause lasts longer than it should. -/
lemma Pauses.clock_le (h : c.Pauses n token span next t) (hc : c.Punctual) :
    c.state.clock ≤ span.ringsAt t := by
  cases h with
  | begins _ hclock => exact hclock ▸ le_ringsAt span _
  | waits rank hat => exact ((hc.jobs n _ (at?_job_iff.1 hat)).2.1 _ rfl).1

lemma Pauses.le_clock (h : c.Pauses n token span next t) : t ≤ c.state.clock := by
  cases h with
  | begins _ hclock => exact Nat.le_of_eq hclock.symm
  | waits _ _ hclock => exact hclock

lemma Pauses.of_state_eq (h : c.Pauses n token span next t) (hd : d.state = c.state) :
    d.Pauses n token span next t := by
  cases h with
  | begins hat hclock => exact .begins ((at?_of_state_eq hd n).trans hat) (by rwa [hd])
  | waits rank hat hclock => exact .waits rank ((at?_of_state_eq hd n).trans hat) (by rwa [hd])

/-- What a pause is told: it has lasted as long as it should, or its token was fired. -/
structure PauseOver (c d : Scene α) (n token : Nat) (span : Duration)
    (next : Bool → RigWork (Turn Job Ending)) (t : Nat) (passed : Bool) : Prop where
  /-- The job goes on. -/
  at_eq : d.at? (.job n) = some (.running (next passed))
  /-- At once. -/
  clock_eq : d.state.clock = c.state.clock
  /-- The pause has lasted as long as it should. -/
  of_passed : passed = true → c.state.clock = span.ringsAt t ∧ c.state.isFired token = false
  /-- The token was fired. -/
  of_fired : passed = false → c.state.isFired token = true

lemma rung_some_iff {s : State} {a : Nat} : s.rung (some a) = true ↔ a ≤ s.clock := by
  simp [State.rung]

/-- The reply to a pause. -/
lemma pause_cases {s u : State} {p : Party} {a : Nat} {passed : Bool}
    (h : s.answer? p (some a) (.pause token span) = some (passed, u)) :
    (passed = true → a ≤ s.clock ∧ s.isFired token = false) ∧
      (passed = false → s.isFired token = true) := by
  simp only [State.answer?] at h
  split at h
  · next hf =>
    cases h
    exact ⟨fun hp => (by cases hp), fun _ => hf⟩
  · next hf =>
    split at h
    · next hr =>
      cases h
      exact ⟨fun _ => ⟨rung_some_iff.1 hr, by simpa using hf⟩, fun hp => (by cases hp)⟩
    · cases h

/-- **How a pause goes on.** Either it is not over after a step, and time passes in the step only if
the token was not fired. Or it is over, to the millisecond if it was not cancelled. -/
theorem Pauses.step (h : c.Pauses n token span next t) (hc : c.Punctual)
    (hs : c.step site = .more d) (hp : Proceeds site c asked reply? d) :
    (d.Pauses n token span next t ∧ toldTo (.job n) reply?.toList = []) ∨
      ∃ passed, PauseOver c d n token span next t passed ∧
        toldTo (.job n) reply?.toList = [⟨.pause token span, passed⟩] := by
  have hle := h.clock_le hc
  cases h with
  | begins hat hclock =>
    have hstay := clock_of_inLine (hc.inLine_of_running hat) hs
    rcases hp.moves hat with ⟨y, hy, hmove⟩ | ⟨ending, hx, -⟩
    · generalize toldTo (.job n) reply?.toList = told at hmove
      cases hmove with
      | still => exact .inl ⟨.begins hy (hstay.trans hclock), rfl⟩
      | wait rank ha => exact .inl ⟨.waits rank (hclock ▸ hy) (by rw [hstay, hclock]), rfl⟩
      | @answer _ _ passed _ ha =>
        obtain ⟨htrue, hfalse⟩ := pause_cases ha
        refine .inr ⟨passed, ⟨hy, hstay, fun hpassed => ⟨?_, (htrue hpassed).2⟩, hfalse⟩, rfl⟩
        have hrung : span.ringsAt c.state.clock ≤ c.state.clock := (htrue hpassed).1
        exact Nat.le_antisymm hle (hclock ▸ hrung)
    · cases hx
  | waits rank hat hclock =>
    rcases hp.moves hat with ⟨y, hy, hmove⟩ | ⟨ending, hx, -⟩
    · have hquick (hne : toldTo (.job n) reply?.toList ≠ []) :
          d.state.clock = c.state.clock := by
        cases reply? with
        | none => exact absurd rfl hne
        | some told => exact hp.clock_eq
      generalize toldTo (.job n) reply?.toList = told at hmove hquick
      cases hmove with
      | still => exact .inl ⟨.waits rank hy (hclock.trans (clock_le_of_step hs)), rfl⟩
      | @resume _ passed _ ready ha =>
        obtain ⟨htrue, hfalse⟩ := pause_cases ha
        refine .inr ⟨passed, ⟨hy, hquick (List.cons_ne_nil _ _), fun hpassed => ?_, hfalse⟩, rfl⟩
        exact ⟨Nat.le_antisymm hle (htrue hpassed).1, (htrue hpassed).2⟩
    · cases hx

end Pauses

end Scene

end CryoRig.Rig
