import CryoRig.Proofs.ErrandCalls
import CryoRig.Proofs.PublishedState

/-!
# How jobs end

Along a course every job that is started has a number of its own. What it is told takes it through
its turns, and when it has ended, the last of its turns has ended so. In particular the ending of a
program is what its run has returned.

## Main definitions

* `CryoRig.Rig.startedJobs`: the jobs that were started.
* `CryoRig.Rig.Scene.CameTo`: how far a job has come, and with which ending.

## Main results

* `CryoRig.Rig.Course.cameTo`: every job comes as far as what it is told takes it.
* `CryoRig.Rig.Course.rounds_of_ending?`: a job has ended as its last turn has.
-/

namespace CryoRig.Rig

open Control Process

variable {α : Type} {site : Site RigSurroundings}

/-! ## The jobs that were started -/

/-- The job that was started, with its number, if a reply says so. -/
def jobStarted? : (r : Request) → r.Reply → Option (Nat × Job)
  | .spawn job, (number : Nat) => some (number, job)
  | _, _ => none

/-- The jobs that were started, with their numbers. -/
def startedJobs (told : List (Party × Exchange RigSurroundings)) : List (Nat × Job) :=
  told.filterMap fun x => jobStarted? x.2.request x.2.reply

section Jobs

variable {told told' : List (Party × Exchange RigSurroundings)} {x : Nat × ProgramRun}
  {r : Request} {reply : r.Reply}

lemma startedJobs_append : startedJobs (told ++ told') = startedJobs told ++ startedJobs told' :=
  List.filterMap_append

/-- Who is not collected yet was not before, or was started. -/
lemma uncollectedAfter_cases {run? : Option (Nat × ProgramRun)}
    (h : uncollectedAfter run? r reply = some x) :
    run? = some x ∨ jobStarted? r reply = some (x.1, .program x.2) := by
  by_cases hkeeps : KeepsRuns r
  · rw [uncollectedAfter_of_keeps hkeeps] at h
    exact .inl h
  cases r with
  | spawn job =>
    cases job with
    | program run =>
      cases h
      exact .inr rfl
    | _ => exact absurd trivial hkeeps
  | setProgram job? =>
    cases job? with
    | none => cases h
    | some => exact absurd trivial hkeeps
  | _ => exact absurd trivial hkeeps

lemma uncollected_append_cases (told : List (Party × Exchange RigSurroundings))
    (h : uncollected (told ++ told') = some x) :
    uncollected told = some x ∨ (x.1, Job.program x.2) ∈ startedJobs told' := by
  induction told' using List.reverseRecOn with
  | nil =>
    rw [List.append_nil] at h
    exact .inl h
  | append_singleton told' y ih =>
    rw [← List.append_assoc, uncollected_append] at h
    rw [startedJobs_append]
    rcases uncollectedAfter_cases h with h | h
    · exact (ih h).imp_right (List.mem_append_left _)
    · exact .inr (List.mem_append_right _ (by simp [startedJobs, h]))

lemma mem_startedJobs_of_uncollected (h : uncollected told = some x) :
    (x.1, Job.program x.2) ∈ startedJobs told :=
  (uncollected_append_cases [] h).resolve_left (Option.some_ne_none x).symm

end Jobs

/-! ## How jobs end -/

namespace Scene

variable {c d : Scene α} {p : Party} {k : Nat} {job : Job} {ending : Ending}
  {asked : Option (Party × Request)} {reply? : Option (Party × Exchange RigSurroundings)}
  {es : List (Exchange RigSurroundings)}

/-- How far a job has come with what it was told: it is in the midst of its turns, or it has ended
as the last one did. -/
def CameTo (site : Site RigSurroundings) (c : Scene α) (k : Nat) (job : Job)
    (es : List (Exchange RigSurroundings)) : Prop :=
  (∃ y, c.at? (.job k) = some y ∧ Begun (turnOf site) job es y.work) ∨
  ∃ turns ending, c.state.ending? k = some ending ∧
    Rounds (turnOf site) job turns (.over ending) ∧ es = exchanges turns

/-- All that matters are the jobs. -/
lemma CameTo.of_jobs (h : c.CameTo site k job es) (hj : d.state.jobs = c.state.jobs) :
    d.CameTo site k job es := by
  have hat : d.at? (.job k) = c.at? (.job k) := by
    change d.state.jobs[k]?.bind _ = c.state.jobs[k]?.bind _
    rw [hj]
  unfold CameTo State.ending?
  rw [hat, hj]
  exact h

/-- A job that has ended is at nothing. -/
lemma at?_of_ending? (h : c.state.ending? k = some ending) :
    c.at? (.job k) = none ∧ k < c.state.jobs.size := by
  unfold State.ending? at h
  split at h
  · rename_i hj
    cases h
    refine ⟨?_, (Array.getElem?_eq_some_iff.1 hj).1⟩
    change c.state.jobs[k]?.bind _ = none
    rw [hj]
    rfl
  · cases h

/-- What a job has come to stays so. -/
lemma Happens.ending? (h : Happens site c asked reply? d)
    (hk : c.state.ending? k = some ending) : d.state.ending? k = some ending := by
  have hreply {q : Party} {s t : State} {r : Request} {reply : r.Reply} {alarm : Option Nat}
      {x y : Foreground (q.Result α)} (hs : s.jobs = c.state.jobs)
      (ha : s.answer? q alarm r = some (reply, t)) (hq : c.at? q = some y) :
      (({ c with state := t } : Scene α).put q x).state.ending? k = some ending := by
    refine (unasked_put (at?_of_answer? hs ha hq) rfl).ended k ending (ending?_of_answer? ha ?_)
    rwa [State.ending?, hs]
  cases h with
  | answer hq ha => exact hreply (jobs_enter ..) ha hq
  | resume hq ha => exact hreply rfl ha hq
  | @wait q r next hq ha =>
    have hat : ({ c with state := (c.state.enter q r).2 } : Scene α).at? q = _ :=
      (at?_mk (jobs_enter ..) q).trans hq
    refine (unasked_put hat rfl).ended k ending ?_
    rwa [State.ending?, jobs_enter]
  | turn hq => exact (unasked_put hq rfl).ended k ending hk
  | @finish n last hq =>
    have hne : n ≠ k := by
      rintro rfl
      rw [ending?_eq_none hq] at hk
      cases hk
    change State.ending? (c.state.setJob n (.ended last)) k = some ending
    rwa [State.ending?, State.setJob, Array.getElem?_setIfInBounds, if_neg hne]
  | meanwhile current fresh hs hj => rwa [State.ending?, hj]

/-- A job ends with the ending of its last turn. -/
lemma Happens.ending?_of_over (h : Happens site c asked reply? d)
    (hover : c.at? (.job k) = some (.running (.done (.over ending))))
    (hnone : d.at? (.job k) = none) : d.state.ending? k = some ending := by
  rcases h.leads_or_turnsOver hover with ⟨y, hy, -⟩ | ⟨n, hn, rfl, -⟩
  · cases hy.symm.trans hnone
  cases hn
  cases h with
  | @wait q r next hq ha =>
    by_cases hqk : Party.job k = q
    · subst hqk
      cases hq.symm.trans hover
    · cases ((at?_put_of_ne hqk).trans ((at?_mk (jobs_enter ..) _).trans hover)).symm.trans hnone
  | @turn n job hq =>
    by_cases hqk : Party.job k = .job n
    · cases hqk
      cases hq.symm.trans hover
    · cases ((at?_put_of_ne hqk).trans hover).symm.trans hnone
  | @finish n last hq =>
    by_cases hqk : Party.job k = .job n
    · cases hqk
      cases hq.symm.trans hover
      change State.ending? (c.state.setJob k (.ended ending)) k = some ending
      rw [State.ending?, State.setJob, Array.getElem?_setIfInBounds, if_pos rfl,
        if_pos (lt_size_of_at? hover)]
    · cases ((at?_end_of_ne hqk).trans hover).symm.trans hnone
  | meanwhile current fresh hs hj => cases ((at?_mk hj _).trans hover).symm.trans hnone

/-- A job comes as far as what it is told takes it. -/
lemma Happens.cameTo (h : Happens site c asked reply? d) (hc : c.CameTo site k job es) :
    d.CameTo site k job (es ++ toldTo (.job k) reply?.toList) := by
  rcases hc with ⟨y, hy, hbegun⟩ | ⟨turns, ending, he, hrounds, hes⟩
  · rcases h.leads_or_turnsOver hy with
      ⟨z, hz, hl⟩ | ⟨n, hn, rfl, ⟨next, hnext, hz⟩ | ⟨ending, hover, hz, -⟩⟩
    · exact .inl ⟨z, hz, hbegun.leads hl⟩
    · cases hn
      cases hy.symm.trans hnext
      refine .inl ⟨_, hz, ?_⟩
      rw [Option.toList_none, toldTo_nil, List.append_nil]
      exact hbegun.again
    · cases hn
      cases hy.symm.trans hover
      obtain ⟨turns, hrounds, hes⟩ := hbegun.rounds
      refine .inr ⟨turns, ending, h.ending?_of_over hover hz, hrounds, ?_⟩
      rw [Option.toList_none, toldTo_nil, List.append_nil, hes]
  · obtain ⟨hnone, hlt⟩ := at?_of_ending? he
    obtain ⟨-, -, htold⟩ := h.over hnone hlt
    exact .inr ⟨turns, ending, h.ending? he, hrounds, by rw [htold, List.append_nil, hes]⟩

lemma Proceeds.cameTo (h : Proceeds site c asked reply? d) (hc : c.CameTo site k job es) :
    d.CameTo site k job (es ++ toldTo (.job k) reply?.toList) := by
  obtain ⟨e, f, he, hf, hd, -⟩ := h.happens
  simpa using hd.cameTo (hf.cameTo (he.cameTo hc))

/-- Who is started is a new job. -/
lemma Proceeds.cameTo_new {number : (Request.spawn job).Reply}
    (h : Proceeds site c asked (some (p, ⟨.spawn job, number⟩)) d) :
    number = c.state.jobs.size ∧ d.CameTo site number job [] ∧ p ≠ .job number := by
  have hnew : number = c.state.jobs.size ∧ p ≠ .job number := by
    generalize hx : some (p, (⟨.spawn job, number⟩ : Exchange RigSurroundings)) = reply? at h
    cases h with
    | answer hr hp ha =>
      cases hx
      obtain rfl : number = c.state.jobs.size := by
        cases ha
        rfl
      refine ⟨rfl, ?_⟩
      rintro rfl
      exact absurd (lt_size_of_at? hp) (Nat.lt_irrefl _)
    | @resume _ w _ _ _ _ hr hp ha hn =>
      obtain ⟨request, next, alarm, rank⟩ := w
      cases hx
      obtain rfl : number = c.state.jobs.size := by
        cases ha
        rfl
      refine ⟨rfl, ?_⟩
      rintro rfl
      exact absurd (lt_size_of_at? hp) (Nat.lt_irrefl _)
    | _ => cases hx
  obtain ⟨e, f, he, hf, hd, -⟩ := h.happens
  exact ⟨hnew.1, hd.cameTo (.inl ⟨_, hf.spawned, .inl ⟨rfl, rfl⟩⟩), hnew.2⟩

end Scene

section Courses

variable {s : SessionSettings} {c : Nat → Scene α} {n k : Nat} {p : Party}
  {told : List (Party × Exchange RigSurroundings)}

/-- No number is given twice, and every job has come as far as what it was told takes it.

**Proof sketch.** Induction on the steps. A job that is started just now has a number that no job
had, and it was told nothing yet. -/
lemma Course.cameTo (hs : Confined site) (h : Course site s c)
    (ht : Scene.Tells site c 0 n told) : ((startedJobs told).map Prod.fst).Nodup ∧
    ∀ x ∈ startedJobs told, x.1 < (c n).state.jobs.size ∧
      (c n).CameTo site x.1 x.2 (toldTo (.job x.1) told) := by
  induction ht with
  | start => exact ⟨List.nodup_nil, List.forall_mem_nil _⟩
  | @step n told asked reply? ht hstep hp ih =>
    obtain ⟨hnodup, hall⟩ := ih
    have hold (x : Nat × Job) (hx : x ∈ startedJobs told) :
        x.1 < (c (n + 1)).state.jobs.size ∧ (c (n + 1)).CameTo site x.1 x.2
          (toldTo (.job x.1) (told ++ reply?.toList)) := by
      obtain ⟨hlt, hcame⟩ := hall x hx
      rw [toldTo_append]
      exact ⟨Nat.lt_of_lt_of_le hlt (h.size_le hs (Nat.le_succ n)), hp.cameTo hcame⟩
    rw [startedJobs_append]
    cases hnew : startedJobs reply?.toList with
    | nil => exact ⟨by rwa [List.append_nil], by rwa [List.append_nil]⟩
    | cons y rest =>
      obtain ⟨q, ⟨r, reply⟩, rfl⟩ : ∃ q e, reply? = some (q, e) := by
        cases reply? with
        | none => cases hnew
        | some x => exact ⟨x.1, x.2, rfl⟩
      cases r with
      | spawn job =>
        obtain ⟨hnumber, hcame, hne⟩ := hp.cameTo_new
        cases hnew
        have hfresh (x : Nat × Job) (hx : x ∈ startedJobs told) : x.1 ≠ reply := by
          rw [hnumber]
          exact Nat.ne_of_lt (hall x hx).1
        refine ⟨?_, fun x hx => ?_⟩
        · rw [List.map_append, List.nodup_append]
          refine ⟨hnodup, List.pairwise_singleton _ _, fun a ha b hb => ?_⟩
          obtain ⟨x, hx, rfl⟩ := List.mem_map.1 ha
          rw [List.mem_singleton.1 hb]
          exact hfresh x hx
        · rcases List.mem_append.1 hx with hx | hx
          · exact hold x hx
          · obtain rfl := List.mem_singleton.1 hx
            have hnothing : toldTo (.job reply) told = [] :=
              (h.paired hs ht).idle _ (Nat.le_of_eq hnumber.symm)
            rw [toldTo_append, Option.toList_some, toldTo_cons_of_ne hne, hnothing]
            refine ⟨?_, hcame⟩
            rcases hcame with ⟨y, hy, -⟩ | ⟨_, _, he, -⟩
            · exact Scene.lt_size_of_at? hy
            · exact (Scene.at?_of_ending? he).2
      | _ => cases hnew
  | @rest n told _ hs ih =>
    have hsame : (c (n + 1)).state.jobs = (c n).state.jobs := by
      have hmove := h.move n
      generalize c (n + 1) = d at hmove hs ⊢
      cases hmove with
      | step hstep => exact absurd hstep hs
      | stay => rfl
      | meanwhile fresh hw hn ha => exact ha.jobs
    refine ⟨ih.1, fun x hx => ?_⟩
    obtain ⟨hlt, hcame⟩ := ih.2 x hx
    exact ⟨by rwa [hsame], hcame.of_jobs hsame⟩

/-- **A job has ended as the last of its turns has**, and it was told nothing else than on its way
through them. -/
theorem Course.rounds_of_ending? (hs : Confined site) (h : Course site s c)
    (ht : Scene.Tells site c 0 n told) {job : Job} {ending : Ending}
    (hk : (k, job) ∈ startedJobs told) (he : (c n).state.ending? k = some ending) :
    ∃ turns, Rounds (turnOf site) job turns (.over ending) ∧
      exchanges turns = toldTo (.job k) told := by
  rcases ((h.cameTo hs ht).2 _ hk).2 with ⟨y, hy, -⟩ | ⟨turns, ending', he', hrounds, hes⟩
  · rw [Scene.ending?_eq_none hy] at he
    cases he
  · cases he'.symm.trans he
    exact ⟨turns, hrounds, hes.symm⟩

/-- A program ends with an expected duration or a fault. -/
lemma program_of_rounds (hs : Confined site) {run : ProgramRun} {ending : Ending}
    {turns : List (Job × List (Exchange RigSurroundings))}
    (h : Rounds (turnOf site) (.program run) turns (.over ending)) :
    ∃ result, ending = .program result := by
  generalize hover : (Turn.over ending : Turn Job Ending) = turn at h
  cases h with
  | start => cases hover
  | next h ht =>
    rcases took_of_rounds hs h with ⟨r, _, hr, -⟩ | ⟨-, _, hr⟩
    · cases hr
      obtain ⟨result, ho, rfl⟩ := outcome_of_turnOf hs ht
      generalize statesOn r.conduct.console _ = states at ho
      cases ho <;> cases hover <;> exact ⟨_, rfl⟩
    · cases hr

end Courses

end CryoRig.Rig
