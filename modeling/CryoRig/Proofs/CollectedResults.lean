import CryoRig.Proofs.JobEndings

/-!
# Results are collected once

However calls follow upon each other, the program on the desk, its result and the token that is
noted stay together. A start that is refused leaves them alone. A wait brings the result of the
program that was started last, unless it was collected before. A stop fires the token of the
program that was started last. Stops may give up on programs meanwhile.

## Main definitions

* `CryoRig.Control.WorkRequest.Discreet`: what leaves programs, results and tokens alone.
* `CryoRig.Rig.Scene.Serves`: a party makes a call and has the reply.
* `CryoRig.Rig.Scene.Collects`: a program is taken off the desk.
* `CryoRig.Rig.Scene.Returned`: the run of a program has returned.

## Main results

* `CryoRig.Rig.Course.collected_once`: no program is taken off the desk twice.
* `CryoRig.Rig.Course.serves_start`, `serves_wait`, `serves_stop`: what a call does among others.
* `CryoRig.Rig.Course.paired_calls`: programs, results and tokens stay together.
-/

namespace CryoRig.Control

open Process

/-! ## The paths of calls -/

/-- What leaves programs, results and tokens alone, and calls nothing of the instruments: to come to
the desk at once and to leave it, to look at the program, at the end of a job or at a console, to
publish and to report. -/
def WorkRequest.Discreet : WorkRequest → Prop
  | .rig .tryDesk | .rig .leaveDesk | .rig .program | .rig (.ended _) | .rig (.published _)
  | .rig (.publish ..) | .rig (.device (.log _)) => True
  | _ => False

lemma OfDryRun.discreet {κ : Nat} {q : WorkRequest} (h : OfDryRun κ q) : q.Discreet := by
  cases q with
  | act => exact h.elim
  | rig r =>
    cases r with
    | device r => cases r <;> trivial
    | published | publish => trivial
    | _ => exact h.elim

section Starts

variable {s : SessionSettings} {text : String} {es : List (Exchange WorkSurroundings)}
  {fault : Fault}

/-- A start at the desk that is refused has only been discreet. -/
lemma startAtDesk_refused (h : (Session.startAtDesk s text).run.Ends es (.error fault)) :
    (∀ e ∈ es, e.request.Discreet) ∧ (fault = .state .programRunning ∨
      ∃ ds, (Session.check s.conduct.console text).run.Ends ds (.error fault)) := by
  have hactive : Session.programActive.AsksOnly WorkRequest.Discreet := by
    refine AsksOnly.bind (asksOnly_request.2 trivial) fun job? => ?_
    change Option Nat at job?
    cases job? with
    | none => trivial
    | some job => exact AsksOnly.bind (asksOnly_request.2 trivial) fun _ => trivial
  unfold Session.startAtDesk at h
  obtain ⟨es₁, es₂, active, rfl, h₁, h₂⟩ := ends_run_lift_bind_iff.1 h
  cases active with
  | true =>
    rcases ends_run_bind_iff.1 h₂ with ⟨e, h₃, he⟩ | ⟨_, _, _, -, h₃, -⟩
    · obtain ⟨rfl, hfault⟩ := ends_run_throw_iff.1 h₃
      cases he
      cases hfault
      exact ⟨List.forall_mem_append.2 ⟨hactive.of_leads h₁, List.forall_mem_nil _⟩, .inl rfl⟩
    · cases (ends_run_throw_iff.1 h₃).2
  | false =>
    rw [if_neg (by simp)] at h₂
    rcases ends_run_bind_iff.1 h₂ with ⟨e, h₃, he⟩ | ⟨es₃, es₄, seconds, -, -, h₃⟩
    · cases he
      refine ⟨List.forall_mem_append.2 ⟨hactive.of_leads h₁, fun e he => ?_⟩, .inr ⟨_, h₃⟩⟩
      exact ((Rig.Errand.asksOnly_check _ _).of_leads h₃ e he).discreet
    · obtain ⟨_, _, token, -, -, h₄⟩ := ends_run_lift_bind_iff.1 h₃
      obtain ⟨_, _, _, -, -, h₅⟩ := ends_run_lift_bind_iff.1 h₄
      obtain ⟨_, _, number, -, -, h₆⟩ := ends_run_lift_bind_iff.1 h₅
      obtain ⟨_, _, _, -, -, h₇⟩ := ends_run_lift_bind_iff.1 h₆
      obtain ⟨_, -, h₈⟩ := ends_run_lift_iff.1 h₇
      cases h₈

/-- A start that is refused has only been discreet. A program was running, or something else was
done at the desk, or the check has failed. -/
theorem start_refused (h : (Session.start s text).run.Ends es (.error fault)) :
    (∀ e ∈ es, e.request.Discreet) ∧ (fault = .state .programRunning ∨
      ∃ ds, (Session.check s.conduct.console text).run.Ends ds (.error fault)) := by
  obtain ⟨es₁, es₂, free, rfl, h₁, h₂⟩ := ends_bind_iff.1 h
  obtain rfl := ends_request_iff.1 h₁
  have hfirst : ∀ e ∈ [(⟨.rig .tryDesk, free⟩ : Exchange WorkSurroundings)],
      e.request.Discreet := by
    intro e he
    rw [List.mem_singleton.1 he]
    trivial
  cases free with
  | false =>
    obtain ⟨rfl, hfault⟩ := ends_pure_iff.1 h₂
    cases hfault
    exact ⟨List.forall_mem_append.2 ⟨hfirst, List.forall_mem_nil _⟩, .inl rfl⟩
  | true =>
    obtain ⟨es₃, es₄, result, rfl, hstart, h₄⟩ := ends_bind_iff.1 h₂
    obtain ⟨es₅, es₆, _, rfl, h₅, h₆⟩ := ends_bind_iff.1 h₄
    obtain ⟨rfl, rfl⟩ := ends_pure_iff.1 h₆
    obtain rfl := ends_request_iff.1 h₅
    obtain ⟨hdiscreet, hfault⟩ := startAtDesk_refused hstart
    refine ⟨List.forall_mem_append.2 ⟨hfirst, List.forall_mem_append.2 ⟨hdiscreet, ?_⟩⟩, hfault⟩
    intro e he
    rw [List.append_nil] at he
    rw [List.mem_singleton.1 he]
    trivial

end Starts

end CryoRig.Control

namespace CryoRig.Rig

open Control Process

variable {α β : Type} {site : Site RigSurroundings}

section Paths

variable {w : Working β} {b : β} {es : List (Exchange RigSurroundings)}

/-- What is discreet is so when it is carried out. -/
lemma discreet_carryOut (hw : ∀ ws, w.Ends ws b → ∀ e ∈ ws, e.request.Discreet)
    (h : (carryOut site w).Ends es b) : ∀ e ∈ es, WorkRequest.Discreet (.rig e.request) := by
  obtain ⟨blocks, rfl, hpath, hby⟩ := ends_translate_iff.1 h
  intro e he
  obtain ⟨block, hblock, he⟩ := List.mem_flatMap.1 he
  have hdiscreet := hw _ hpath _ (List.mem_map_of_mem hblock)
  obtain ⟨⟨q, reply⟩, path⟩ := block
  cases q with
  | act => exact hdiscreet.elim
  | rig r =>
    have hone : path = [⟨r, reply⟩] := ends_request_iff.1 (hby _ hblock)
    subst hone
    rw [List.mem_singleton.1 he]
    exact hdiscreet

/-- The path of a wait. -/
lemma ends_wait {reply : Except Fault (Option Float)}
    (h : (carryOut site Session.wait.run).Ends es reply) : ∃ taken : Bool,
    es = [⟨.takeDesk none, taken⟩, ⟨.program, (none : Option Nat)⟩, ⟨.leaveDesk, ()⟩] ∧
      reply = .ok none ∨
    ∃ (job : Nat) (ending : Option Ending), es = [⟨.takeDesk none, taken⟩, ⟨.program, some job⟩,
      ⟨.join job none, ending⟩, ⟨.setProgram none, ()⟩, ⟨.leaveDesk, ()⟩] ∧
      reply = Session.programResult ending := by
  obtain ⟨taken, es₁, rfl, h₁⟩ := ends_ask_iff.1 h
  obtain ⟨job?, es₂, rfl, h₂⟩ := ends_ask_iff.1 h₁
  change Option Nat at job?
  cases job? with
  | none =>
    obtain ⟨_, es₃, rfl, h₃⟩ := ends_ask_iff.1 h₂
    obtain ⟨rfl, rfl⟩ := ends_done_iff.1 h₃
    exact ⟨taken, .inl ⟨rfl, rfl⟩⟩
  | some job =>
    obtain ⟨ending, es₃, rfl, h₃⟩ := ends_ask_iff.1 h₂
    obtain ⟨_, es₄, rfl, h₄⟩ := ends_ask_iff.1 h₃
    obtain ⟨_, es₅, rfl, h₅⟩ := ends_ask_iff.1 h₄
    obtain ⟨rfl, rfl⟩ := ends_done_iff.1 h₅
    exact ⟨taken, .inr ⟨job, ending, rfl, rfl⟩⟩

/-- How the path of a stop begins. -/
lemma ends_stop {s : SessionSettings} (h : (carryOut site (Session.stop s)).Ends es ()) :
    ∃ (token : Nat) (rest : List (Exchange RigSurroundings)),
      es = ⟨.programToken, token⟩ :: ⟨.fire token, ()⟩ :: rest := by
  obtain ⟨token, es₁, rfl, h₁⟩ := ends_ask_iff.1 h
  obtain ⟨_, es₂, rfl, -⟩ := ends_ask_iff.1 h₁
  exact ⟨token, es₂, rfl⟩

end Paths

/-! ## What discreet requests leave alone -/

/-- Something discreet was done: nothing is different but what was reported, what the consoles show,
and who has the desk or waits for it. -/
structure DoneDiscreetly (s t : State) : Prop where
  /-- No time has passed, and no program, token, job, instrument or file is different. -/
  rest : t = { s with
    journal := t.journal, consoles := t.consoles, desk := t.desk, ready := t.ready }
  /-- The slots have the acquisitions that they had. -/
  slot : ∀ κ, (t.console κ).slot = (s.console κ).slot

lemma doneDiscreetly_of_answer? {s t : State} {p : Party} {alarm : Option Nat} {r : Request}
    {reply : r.Reply} (hr : WorkRequest.Discreet (.rig r))
    (h : s.answer? p alarm r = some (reply, t)) : DoneDiscreetly s t := by
  cases r with
  | device r =>
    cases r with
    | log =>
      cases h
      exact ⟨rfl, fun _ => rfl⟩
    | _ => exact hr.elim
  | ended | published | program =>
    cases h
    exact ⟨rfl, fun _ => rfl⟩
  | publish κ state =>
    cases h
    refine ⟨rfl, fun κ' => ?_⟩
    rw [State.console_setConsole]
    split
    · next hκ => rw [hκ]
    · rfl
  | tryDesk =>
    simp only [State.answer?] at h
    split at h <;> cases h <;> exact ⟨rfl, fun _ => rfl⟩
  | leaveDesk =>
    cases h
    unfold State.wakeParty
    split
    · split <;> exact ⟨rfl, fun _ => rfl⟩
    · exact ⟨rfl, fun _ => rfl⟩
  | _ => exact hr.elim

lemma not_mayWait_of_discreet {r : Request} (hr : WorkRequest.Discreet (.rig r)) :
    ¬MayWait r := by
  cases r with
  | device r => cases r <;> first | exact id | exact hr.elim
  | _ => first | exact id | exact hr.elim

lemma keepsRuns_of_discreet {r : Request} (hr : WorkRequest.Discreet (.rig r)) :
    KeepsRuns r := by
  cases r with
  | spawn | setProgram => exact hr.elim
  | _ => trivial

/-! ## Calls along a course -/

namespace Scene

variable {s : SessionSettings} {c : Nat → Scene α}

/-- A party makes a call and has the reply: in one scene it is about to make the call, and what it
is told until another one is a path through the call to the reply. -/
structure Serves (site : Site RigSurroundings) (s : SessionSettings) (c : Nat → Scene α) (p : Party)
    (call : Call) (i j : Nat) (es : List (Exchange RigSurroundings)) (reply : call.Reply) :
    Prop where
  /-- It is about to make the call. -/
  calls : ∃ next, (c i).at? p = some (.running (carryOut site (call.serve s) >>= next))
  /-- What it is told. -/
  told : ∃ told, Tells site c i j told ∧ toldTo p told = es
  /-- That takes it to the reply. -/
  ends : (carryOut site (call.serve s)).Ends es reply

/-- A party does something discreet, and everybody else is at what it was at. -/
structure Discreetly (p : Party) (c d : Scene α) : Prop where
  /-- Nothing is different but what the party is at, and what is shown or reported. -/
  done : DoneDiscreetly c.state { d.state with jobs := c.state.jobs }
  /-- The others. -/
  others : ∀ q, q ≠ p → d.at? q = c.at? q
  /-- What has ended. -/
  ended : ∀ k ending, c.state.ending? k = some ending → d.state.ending? k = some ending
  /-- No job was started. -/
  size : d.state.jobs.size = c.state.jobs.size

/-- A party takes a program off the desk. -/
def Collects (site : Site RigSurroundings) (c : Nat → Scene α) (n : Nat) (p : Party) (k : Nat) :
    Prop :=
  (c n).state.program = some k ∧ Hears site c n p ⟨.setProgram none, ()⟩

/-- The run of a program that was started as some job has returned before some scene: all that it
was told is a path through its turns, and the last of them has ended with that result. -/
def Returned (site : Site RigSurroundings) (c : Nat → Scene α) (n k : Nat) (run : ProgramRun)
    (result : Except Fault Float) : Prop :=
  ∃ m told turns, m < n ∧ Tells site c 0 m told ∧ (k, Job.program run) ∈ startedJobs told ∧
    (c m).state.ending? k = some (.program result) ∧ exchanges turns = toldTo (.job k) told ∧
    Rounds (turnOf site) (.program run) turns (.over (.program result))

end Scene

section Calls

variable {s : SessionSettings} {c : Nat → Scene α} {i j k m n : Nat} {p q : Party}
  {es : List (Exchange RigSurroundings)} {e : Exchange RigSurroundings}
  {told : List (Party × Exchange RigSurroundings)}

/-- Whoever is told something discreet has done nothing else. -/
lemma Course.discreetly (hs : Confined site) (h : Course site s c)
    (hn : Scene.Hears site c n p e) (he : WorkRequest.Discreet (.rig e.request)) :
    (c n).Discreetly p (c (n + 1)) := by
  obtain ⟨told, ht⟩ := Scene.exists_tells site c (Nat.zero_le n)
  obtain ⟨next, t, -, hat, ha, hnext⟩ := (h.paired hs ht).answered hn (not_mayWait_of_discreet he)
  have hdone := doneDiscreetly_of_answer? he ha
  have hjobs : t.jobs = (c n).state.jobs := by rw [hdone.rest]
  have hat' : ({ c n with state := t } : Scene α).at? p = _ := (Scene.at?_mk hjobs p).trans hat
  rw [hnext]
  refine ⟨?_, fun q hq => (Scene.at?_put_of_ne hq).trans (Scene.at?_mk hjobs q),
    fun k ending hk => (Scene.unasked_put hat' rfl).ended k ending ?_, ?_⟩
  · rw [Scene.state_put]
    exact ⟨by rw [hdone.rest], hdone.slot⟩
  · rwa [State.ending?, hjobs]
  · rw [Scene.size_put]
    exact congrArg Array.size hjobs

/-- The program on the desk when somebody is told of it is the one that nobody has collected. -/
lemma Course.program_eq (hs : Confined site) (h : Course site s c)
    (ht : Scene.Tells site c 0 n told) (hn : Scene.Hears site c n p e) (hr : ¬MayWait e.request)
    (hopen : (errandRules.mindAfter p told).Open) :
    (c n).state.program = (uncollected told).map Prod.fst := by
  have hpaired := h.paired hs ht
  obtain ⟨next, t, -, hat, -⟩ := hpaired.answered hn hr
  obtain ⟨-, hcalm⟩ := hpaired.allows hn
  refine hpaired.inv.program_eq hcalm ?_
  rwa [Scene.mind_of_running hat]

/-- Whoever takes a program off the desk knows that it has ended or was told to stop. -/
lemma Course.collects (hs : Confined site) (h : Course site s c)
    (ht : Scene.Tells site c 0 n told) {reply : Unit}
    (hn : Scene.Hears site c n p ⟨.setProgram none, reply⟩) :
    (errandRules.mindAfter p told).Holds (c n).state p ∧
    (errandRules.mindAfter p told = .stops ∨ ∃ job, errandRules.mindAfter p told = .knows job) ∧
    (c n).state.program = (uncollected told).map Prod.fst := by
  have hpaired := h.paired hs ht
  obtain ⟨next, t, -, hat, -⟩ := hpaired.answered hn id
  have hallow : errandRules.mindAfter p told = .stops ∨
      ∃ job, errandRules.mindAfter p told = .knows job := (hpaired.allows hn).1
  refine ⟨?_, hallow, h.program_eq hs ht hn id ?_⟩
  · have hholds := hpaired.inv.holds p
    rwa [Scene.mind_of_running hat] at hholds
  · rcases hallow with hg | ⟨job, hg⟩ <;> rw [hg] <;> trivial

/-- **No program is taken off the desk twice.** -/
theorem Course.collected_once (hs : Confined site) (h : Course site s c)
    (hm : Scene.Collects site c m p k) (hn : Scene.Collects site c n q k) : m = n ∧ p = q := by
  have hlt {m n : Nat} {p q : Party} (hm : Scene.Collects site c m p k)
      (hn : Scene.Collects site c n q k) : ¬m < n := by
    intro hmn
    obtain ⟨before, hbefore⟩ := Scene.exists_tells site c (Nat.zero_le m)
    obtain ⟨after, hafter⟩ := Scene.exists_tells site c (Nat.succ_le_of_lt hmn)
    have htold := (hbefore.hears hm.2).trans hafter
    obtain ⟨-, -, hprogram⟩ := h.collects hs hbefore hm.2
    obtain ⟨-, -, hprogram'⟩ := h.collects hs htold hn.2
    rw [hm.1] at hprogram
    rw [hn.1] at hprogram'
    obtain ⟨x, hx, rfl⟩ := Option.map_eq_some_iff.1 hprogram.symm
    obtain ⟨y, hy, hxy⟩ := Option.map_eq_some_iff.1 hprogram'.symm
    have hnone : uncollected (before ++ [(p, ⟨.setProgram none, ()⟩)]) = none := uncollected_append
    have hagain := (uncollected_append_cases _ hy).resolve_left (by simp [hnone])
    have hnodup := (h.cameTo hs htold).1
    rw [startedJobs_append, startedJobs_append, List.map_append, List.map_append,
      List.nodup_append] at hnodup
    refine hnodup.2.2 x.1 (List.mem_append_left _ ?_) y.1 ?_ hxy.symm
    · exact List.mem_map_of_mem (f := Prod.fst) (mem_startedJobs_of_uncollected hx)
    · exact List.mem_map_of_mem (f := Prod.fst) hagain
  obtain rfl : m = n := Nat.le_antisymm (Nat.le_of_not_lt (hlt hn hm))
    (Nat.le_of_not_lt (hlt hm hn))
  obtain ⟨told, ht⟩ := Scene.exists_tells site c (Nat.zero_le m)
  obtain ⟨_, _, hp, -⟩ := (h.paired hs ht).answered hm.2 id
  obtain ⟨_, _, hq, -⟩ := (h.paired hs ht).answered hn.2 id
  exact ⟨rfl, (hp.unique hq).1⟩

/-- A job whose end was waited for has ended as the reply says. -/
lemma Scene.Hears.ending? {limit : Option Instant} {ending : Ending}
    (h : Scene.Hears site c n p ⟨.join k limit, some ending⟩) :
    (c n).state.ending? k = some ending := by
  have hanswer {s t : State} {alarm : Option Nat}
      (ha : s.answer? p alarm (.join k limit) = some (some ending, t)) :
      s.ending? k = some ending := by
    simp only [State.answer?] at ha
    split at ha
    · cases ha
      assumption
    · split at ha <;> cases ha
  obtain ⟨-, asked, hp⟩ := h
  generalize hx : some (p, (⟨.join k limit, some ending⟩ : Exchange RigSurroundings)) = reply? at hp
  generalize c (n + 1) = d at hp
  cases hp with
  | answer _ _ ha =>
    cases hx
    exact hanswer ha
  | @resume _ w _ _ ready _ _ _ ha =>
    obtain ⟨request, next, alarm, rank⟩ := w
    cases hx
    exact hanswer (s := { (c n).state with ready := ready }) ha
  | _ => cases hx

/-- Whoever is told of the program on the desk is told of the one that nobody has collected. -/
lemma Course.program_told (hs : Confined site) (h : Course site s c) {job? : Option Nat}
    (hn : Scene.Hears site c n p ⟨.program, job?⟩) :
    (c n).state.program = job? ∧
      ∀ told, Scene.Tells site c 0 n told → (uncollected told).map Prod.fst = job? := by
  have hprogram {told : List (Party × Exchange RigSurroundings)}
      (ht : Scene.Tells site c 0 n told) : (c n).state.program = job? := by
    obtain ⟨next, t, -, -, ha, -⟩ := (h.paired hs ht).answered hn id
    cases ha
    rfl
  obtain ⟨told, ht⟩ := Scene.exists_tells site c (Nat.zero_le n)
  refine ⟨hprogram ht, fun told ht => ?_⟩
  rw [← hprogram ht]
  refine (h.program_eq hs ht hn id ?_).symm
  rcases ((h.paired hs ht).allows hn).1 with hg | hg | hg <;> rw [hg] <;> trivial

/-- Whoever was told of a program and then waits for its end has seen this program. -/
lemma Course.mind_sees (hs : Confined site) (h : Course site s c) {ending : Option Ending}
    {between : List (Party × Exchange RigSurroundings)} (ht : Scene.Tells site c 0 m told)
    (hm : Scene.Hears site c m p ⟨.program, some k⟩)
    (hbetween : Scene.Tells site c (m + 1) n between) (hnothing : toldTo p between = [])
    (hn : Scene.Hears site c n p ⟨.join k none, ending⟩) :
    errandRules.mindAfter p (told ++ [(p, ⟨.program, some k⟩)] ++ between) = .sees k := by
  have hg := ((h.paired hs ht).allows hm).1
  have hcalm := ((h.paired hs ((ht.hears hm).trans hbetween)).allows hn).1
  rw [Discipline.mindAfter_append_of_toldTo_nil hnothing,
    Discipline.mindAfter_append_self] at hcalm ⊢
  change Errand.Calm ((errandRules.mindAfter p told).look (some k)) at hcalm
  change (errandRules.mindAfter p told).look (some k) = .sees k
  rcases hg with hg | hg | hg <;> rw [hg] at hcalm ⊢
  · exact hcalm.elim
  · rfl
  · exact hcalm.elim

/-- A program that was started, and whose end somebody is told of, has returned. -/
lemma Course.exists_returned (hs : Confined site) (h : Course site s c) {run : ProgramRun}
    {limit : Option Instant} {ending : Ending} (ht : Scene.Tells site c 0 m told)
    (hstarted : (k, Job.program run) ∈ startedJobs told)
    (hm : Scene.Hears site c m p ⟨.join k limit, some ending⟩) (hmn : m < n) :
    ∃ result, ending = .program result ∧ Scene.Returned site c n k run result := by
  obtain ⟨turns, hrounds, hturns⟩ := h.rounds_of_ending? hs ht hstarted hm.ending?
  obtain ⟨result, rfl⟩ := program_of_rounds hs hrounds
  exact ⟨result, rfl, m, told, turns, hmn, ht, hstarted, hm.ending?, hturns, hrounds⟩

/-- **A wait brings the result of the program that was started last, unless it was collected.** -/
theorem Course.serves_wait (hs : Confined site) (h : Course site s c)
    {reply : Except Fault (Option Float)} (hserve : Scene.Serves site s c p .wait i j es reply) :
    ∃ l, i ≤ l ∧ l < j ∧ Scene.Hears site c l p ⟨.program, (c l).state.program⟩ ∧
      ∀ told, Scene.Tells site c 0 l told →
        (uncollected told = none → reply = .ok none) ∧
        ∀ k run, uncollected told = some (k, run) → ∃ m result, l < m ∧ m < j ∧
          Scene.Collects site c m p k ∧ Scene.Returned site c m k run result ∧
          reply = result.map some := by
  obtain ⟨between, hbetween, htold⟩ := hserve.told
  obtain ⟨taken, ⟨hes, hreply⟩ | ⟨job, ending, hes, hreply⟩⟩ := ends_wait hserve.ends
  · rw [hes] at htold
    obtain ⟨l, -, -, hil, hlj, -, -, hl, -⟩ := hbetween.split_toldTo [_] htold
    obtain ⟨hprogram, hcollected⟩ := h.program_told hs hl
    refine ⟨l, hil, hlj, hprogram.symm ▸ hl, fun told ht => ⟨fun _ => hreply, fun k run hk => ?_⟩⟩
    have hnone := hcollected told ht
    rw [hk] at hnone
    cases hnone
  · rw [hes] at htold
    obtain ⟨l, -, after, hil, hlj, -, -, hl, hafter, htold'⟩ :=
      hbetween.split_toldTo [_] htold
    obtain ⟨l', before, after', hll', -, hbefore, hnothing, hl', hafter', htold''⟩ :=
      hafter.split_toldTo [] htold'
    obtain ⟨m, before', -, hlm, hmj, hbefore', hnothing', hm, -, -⟩ :=
      hafter'.split_toldTo [] htold''
    obtain ⟨hprogram, hcollected⟩ := h.program_told hs hl
    refine ⟨l, hil, hlj, hprogram.symm ▸ hl, fun told ht => ⟨fun hnone => ?_, fun k run hk => ?_⟩⟩
    · have hsome := hcollected told ht
      rw [hnone] at hsome
      cases hsome
    obtain rfl : k = job := by
      have hsome := hcollected told ht
      rw [hk] at hsome
      exact Option.some.inj hsome
    have htl := (ht.hears hl).trans hbefore
    have htm := (htl.hears hl').trans hbefore'
    -- it has seen this program when it waits for the end, and it knows of the end afterwards
    have hknows : errandRules.mindAfter p (told ++ [(p, ⟨.program, some k⟩)] ++ before ++
        [(p, ⟨.join k none, ending⟩)] ++ before') =
          if ending.isSome then (Errand.sees k).learn k else .sees k := by
      rw [Discipline.mindAfter_append_of_toldTo_nil hnothing',
        Discipline.mindAfter_append_self, h.mind_sees hs ht hl hbefore hnothing hl']
      rfl
    obtain ⟨hholds, hover, -⟩ := h.collects hs htm hm
    rw [hknows] at hholds hover
    cases ending with
    | none => rcases hover with hover | ⟨_, hover⟩ <;> cases hover
    | some ending =>
      rw [Option.isSome_some, if_pos rfl, Errand.learn_sees] at hholds
      have hstarted : (k, Job.program run) ∈
          startedJobs (told ++ [(p, ⟨.program, some k⟩)] ++ before) := by
        rw [startedJobs_append, startedJobs_append]
        exact List.mem_append_left _ (List.mem_append_left _ (mem_startedJobs_of_uncollected hk))
      obtain ⟨result, rfl, hreturned⟩ := h.exists_returned hs htl hstarted hl' (by omega : l' < m)
      exact ⟨m, result, by omega, hmj, ⟨hholds.2.1, hm⟩, hreturned, hreply⟩

/-- What was fired stays so. -/
lemma Course.fired_stays (hs : Confined site) (h : Course site s c) (hij : i ≤ j) {token : Nat}
    (hf : (c i).state.isFired token = true) : (c j).state.isFired token = true := by
  obtain ⟨b, hb⟩ := h.boards hs
  have hstable : Stable fun b : Board s.conduct.console => b.isFired token = true :=
    fun b b' hsucc => hsucc.fired token
  rw [← (hb.steady j).pictures.isFired]
  rw [← (hb.steady i).pictures.isFired] at hf
  exact hb.stays hstable hf hij

/-- **A stop fires the token of the program that was started last.** -/
theorem Course.serves_stop (hs : Confined site) (h : Course site s c)
    (hserve : Scene.Serves site s c p .stop i j es ()) :
    ∃ l token, i ≤ l ∧ l < j ∧ Scene.Hears site c l p ⟨.fire token, ()⟩ ∧
      (∀ told, Scene.Tells site c 0 l told → ∀ k run, startedLast told = some (k, run) →
        run.token = token) ∧
      ∀ n, l < n → (c n).state.isFired token = true := by
  obtain ⟨between, hbetween, htold⟩ := hserve.told
  obtain ⟨token, rest, hes⟩ := ends_stop hserve.ends
  rw [hes] at htold
  obtain ⟨l, before, after, hil, -, hbefore, hnothing, hl, hafter, htold'⟩ :=
    hbetween.split_toldTo [] htold
  obtain ⟨m, before', -, hlm, hmj, hbefore', hnothing', hm, -, -⟩ :=
    hafter.split_toldTo [] htold'
  obtain ⟨told, ht⟩ := Scene.exists_tells site c (Nat.zero_le l)
  have htm := (ht.hears hl).trans hbefore'
  have hpaired := h.paired hs htm
  obtain ⟨next, t, -, hat, ha, hnext⟩ := hpaired.answered hm id
  have haims : errandRules.mindAfter p (told ++ [(p, ⟨.programToken, token⟩)] ++ before') =
      .aims token := by
    rw [Discipline.mindAfter_append_of_toldTo_nil hnothing', Discipline.mindAfter_append_self]
    rfl
  have htoken : (c m).state.programToken = token := by
    have hholds := hpaired.inv.holds p
    rwa [Scene.mind_of_running hat, haims] at hholds
  refine ⟨m, token, by omega, hmj, hm, fun told ht k run hrun => ?_, fun n hn => ?_⟩
  · have hpaired := h.paired hs ht
    obtain ⟨hopen, hcalm⟩ := hpaired.allows hm
    rw [← htoken]
    refine (hpaired.inv.token_eq hcalm ?_ hrun).symm
    rwa [Scene.mind_of_running hat]
  · refine h.fired_stays hs (Nat.succ_le_of_lt hn) ?_
    have hlt : token < (c m).state.tokens.size := htoken ▸ hpaired.inv.token_lt
    rw [hnext, Scene.state_put]
    cases ha
    change ((c m).state.tokens.setIfInBounds token true)[token]?.getD false = true
    rw [Array.getElem?_setIfInBounds, if_pos rfl, if_pos hlt]
    rfl

/-- **A start that is refused leaves everything alone.** -/
theorem Course.serves_start (hs : Confined site) (h : Course site s c) {text : String}
    {fault : Fault} (hserve : Scene.Serves site s c p (.start text) i j es (.error fault)) :
    ∀ before e after, es = before ++ e :: after → ∃ n, i ≤ n ∧ n < j ∧ Scene.Hears site c n p e ∧
      WorkRequest.Discreet (.rig e.request) ∧ (c n).Discreetly p (c (n + 1)) ∧
      ∀ told, Scene.Tells site c 0 n told →
        uncollected (told ++ [(p, e)]) = uncollected told ∧
        startedLast (told ++ [(p, e)]) = startedLast told := by
  rintro before e after rfl
  obtain ⟨between, hbetween, htold⟩ := hserve.told
  obtain ⟨n, -, -, hin, hnj, -, -, hn, -, -⟩ := hbetween.split_toldTo before htold
  have he : WorkRequest.Discreet (.rig e.request) :=
    discreet_carryOut (fun ws hws => (start_refused hws).1) hserve.ends e (by simp)
  refine ⟨n, hin, hnj, hn, he, h.discreetly hs hn he, fun told ht => ⟨?_, ?_⟩⟩
  · exact uncollected_append.trans (uncollectedAfter_of_keeps (keepsRuns_of_discreet he))
  · exact startedLast_append.trans (startedAfter_of_keeps (keepsRuns_of_discreet he))

/-- Whoever takes a program off the desk has waited for its end, or has told it to stop. -/
lemma Course.collects_ended (hs : Confined site) (h : Course site s c)
    (ht : Scene.Tells site c 0 n told) (hn : Scene.Collects site c n p k) :
    ∃ run, uncollected told = some (k, run) ∧
      ((c n).state.ending? k ≠ none ∨ (c n).state.isFired run.token = true) := by
  obtain ⟨hholds, hg, hprogram⟩ := h.collects hs ht hn.2
  rw [hn.1] at hprogram
  obtain ⟨⟨number, run⟩, hrun, rfl⟩ := Option.map_eq_some_iff.1 hprogram.symm
  refine ⟨run, hrun, ?_⟩
  rcases hg with hg | ⟨job, hg⟩
  · right
    have hpaired := h.paired hs ht
    obtain ⟨next, t, -, hat, -⟩ := hpaired.answered hn.2 id
    have htoken : (c n).state.programToken = run.token := by
      refine hpaired.inv.token_eq (hpaired.allows hn.2).2 ?_ (startedLast_of_uncollected hrun)
      rw [Scene.mind_of_running hat, hg]
      trivial
    rw [hg] at hholds
    rw [← htoken]
    exact hholds.2
  · left
    rw [hg] at hholds
    obtain ⟨-, hjob, he⟩ := hholds
    rw [hn.1] at hjob
    cases hjob
    exact he

/-- **Programs, results and tokens stay together**, in whatever order callers start, wait and stop.

A start that is refused is refused as a program was running or as the check has failed. It starts
nothing and has the site do nothing, and whenever it has a reply nothing is different but what is
reported and shown, and who has the desk: the program, its result and the token that the next stop
fires are as they were.

A wait looks for the program at some point. It brings the result of the run that was started last,
which has returned with that result, if nobody had taken its program off the desk before, and takes
it off; otherwise it brings nothing. No program is taken off the desk twice, so no result is brought
twice.

A stop fires the token of the run that was started last, and it stays fired. No program is taken off
the desk that neither has ended nor was told to stop. -/
theorem Course.paired_calls (hs : Confined site) (h : Course site s c) :
    (∀ text fault ws, (Session.start s text).run.Ends ws (.error fault) →
      (∀ e ∈ ws, e.request.Discreet) ∧ (fault = .state .programRunning ∨
        ∃ ds, (Session.check s.conduct.console text).run.Ends ds (.error fault))) ∧
    (∀ p text i j es fault, Scene.Serves site s c p (.start text) i j es (.error fault) →
      ∀ before e after, es = before ++ e :: after → ∃ n, i ≤ n ∧ n < j ∧
        Scene.Hears site c n p e ∧ WorkRequest.Discreet (.rig e.request) ∧
        (c n).Discreetly p (c (n + 1)) ∧ ∀ told, Scene.Tells site c 0 n told →
          uncollected (told ++ [(p, e)]) = uncollected told ∧
          startedLast (told ++ [(p, e)]) = startedLast told) ∧
    (∀ p i j es reply, Scene.Serves site s c p .wait i j es reply → ∃ l, i ≤ l ∧ l < j ∧
      Scene.Hears site c l p ⟨.program, (c l).state.program⟩ ∧
      ∀ told, Scene.Tells site c 0 l told →
        (uncollected told = none → reply = .ok none) ∧
        ∀ k run, uncollected told = some (k, run) → ∃ m result, l < m ∧ m < j ∧
          Scene.Collects site c m p k ∧ Scene.Returned site c m k run result ∧
          reply = Except.map some result) ∧
    (∀ k m n p q, Scene.Collects site c m p k → Scene.Collects site c n q k → m = n ∧ p = q) ∧
    (∀ p i j es, Scene.Serves site s c p .stop i j es () → ∃ l token, i ≤ l ∧ l < j ∧
      Scene.Hears site c l p ⟨.fire token, ()⟩ ∧
      (∀ told, Scene.Tells site c 0 l told → ∀ k run, startedLast told = some (k, run) →
        run.token = token) ∧
      ∀ n, l < n → (c n).state.isFired token = true) ∧
    ∀ n p k told, Scene.Tells site c 0 n told → Scene.Collects site c n p k →
      ∃ run, uncollected told = some (k, run) ∧
        ((c n).state.ending? k ≠ none ∨ (c n).state.isFired run.token = true) :=
  ⟨fun _ _ _ => start_refused, fun _ _ _ _ _ _ => h.serves_start hs,
    fun _ _ _ _ _ => h.serves_wait hs, fun _ _ _ _ _ => h.collected_once hs,
    fun _ _ _ _ => h.serves_stop hs, fun _ _ _ _ => h.collects_ended hs⟩

/-! ## A program that is waited for -/

/-- The work in the foreground goes down its path. -/
lemma Course.leads_foreground (h : Course site s c) (ht : Scene.Tells site c i j told) :
    (c i).foreground.work.Leads (toldTo .foreground told) (c j).foreground.work := by
  refine ht.leads_foreground fun n hs => ?_
  have hmove := h.move n
  generalize c (n + 1) = d at hmove hs ⊢
  cases hmove with
  | step hstep => exact absurd hstep hs
  | stay | meanwhile => rfl

/-- A call that was made in the foreground was served if the foreground has come to its end. -/
lemma Course.exists_serves (h : Course site s c) {call : Call}
    {next : call.Reply → RigWork α} {a : α} (hij : i ≤ j)
    (hi : (c i).foreground = .running (carryOut site (call.serve s) >>= next))
    (hj : (c j).foreground = .running (.done a)) :
    ∃ n es reply, i ≤ n ∧ n ≤ j ∧ Scene.Serves site s c .foreground call i n es reply ∧
      (c n).foreground = .running (next reply) := by
  obtain ⟨told, ht⟩ := Scene.exists_tells site c hij
  have hl := h.leads_foreground ht
  rw [hi, hj] at hl
  obtain ⟨es, es', reply, hes, hend, -⟩ := ends_bind_iff.1 hl
  rcases List.eq_nil_or_concat es with rfl | ⟨es, e, rfl⟩
  · refine ⟨i, [], reply, Nat.le_refl i, hij,
      ⟨⟨next, congrArg some hi⟩, ⟨[], .start, rfl⟩, hend⟩, ?_⟩
    rw [hi, eq_of_leads_nil (hend.leads_bind next)]
  · rw [List.concat_eq_append, List.append_assoc] at hes
    obtain ⟨n, before, -, hin, hnj, hbefore, hnothing, hn, -, -⟩ := ht.split_toldTo es hes
    have htn := hbefore.hears hn
    have htold : toldTo .foreground (before ++ [(.foreground, e)]) = es ++ [e] := by
      rw [toldTo_append, hnothing, toldTo_cons_self, toldTo_nil]
    refine ⟨n + 1, es ++ [e], reply, Nat.le_succ_of_le hin, Nat.succ_le_of_lt hnj,
      ⟨⟨next, congrArg some hi⟩, ⟨_, htn, htold⟩, by simpa using hend⟩, ?_⟩
    have hrunning : ∃ work, (c (n + 1)).foreground = .running work := by
      obtain ⟨-, asked, hp⟩ := hn
      generalize hx : some (Party.foreground, e) = reply? at hp
      generalize c (n + 1) = d at hp ⊢
      cases hp with
      | answer | resume =>
        cases hx
        exact ⟨_, rfl⟩
      | _ => cases hx
    obtain ⟨work, hwork⟩ := hrunning
    have hl := h.leads_foreground htn
    rw [hi, hwork, htold] at hl
    have hend' : (carryOut site (call.serve s)).Ends (es ++ [e]) reply := by
      rwa [List.concat_eq_append] at hend
    rw [← List.append_nil (es ++ [e])] at hl
    rw [hwork, show work = next reply from eq_of_leads_nil (leads_of_ends hend' hl)]

end Calls

/-- Start the empty program and wait for it. -/
def startAndWait : Process Calls (Except Fault (Option Float)) :=
  .ask (Call.start "") fun _ => .ask Call.wait fun result => .done result

/-- The scene before that. -/
def steadyWait : Scene (Except Fault (Option Float)) :=
  .blank (carryOut benchSite (startAndWait.translate (Call.serve benchSession)))

lemma opening_steadyWait : Opening benchSite benchSession steadyWait where
  foreground := ⟨startAndWait, rfl⟩
  jobs n status hn := by
    cases hn
  current := rfl
  slot := rfl
  desk := rfl
  program := rfl
  programToken_lt := by decide

/-- Whether the foreground has come to its end with an expected duration. -/
def Scene.bringsSome (c : Scene (Except Fault (Option Float))) : Bool :=
  match c.foreground with
  | .running (.done (.ok (some _))) => true
  | _ => false

lemma brings_steadyWait : ∃ n, (steadyWait.follow benchSite n).bringsSome = true := by
  have h : steadyWait = .blank (carryOut benchSite ((Session.start benchSession "").run >>=
    fun _ => Session.wait.run >>= fun result => pure result)) := rfl
  rw [h]
  unfold Session.start Session.startAtDesk
  rcases check_empty with hcheck | hcheck
  · rw [show Session.check benchSession.conduct.console "" = _ from hcheck]
    exact ⟨31, by decide +kernel⟩
  · rw [show Session.check benchSession.conduct.console "" = _ from hcheck]
    exact ⟨29, by decide +kernel⟩

/-- The wait brings what the run of the empty program has returned. -/
theorem paired_calls_steadyWait :
    ∃ i j es seconds k run, Scene.Serves benchSite benchSession (steadyWait.follow benchSite)
        .foreground .wait i j es (.ok (some seconds)) ∧
      Scene.Returned benchSite (steadyWait.follow benchSite) j k run (.ok seconds) := by
  have hsite : Control.Confined benchSite := confined_ofBench Site.bench
  have hcourse := opening_steadyWait.follow
  obtain ⟨n, hn⟩ := brings_steadyWait
  obtain ⟨seconds, hdone⟩ : ∃ seconds,
      (steadyWait.follow benchSite n).foreground = .running (.done (.ok (some seconds))) := by
    unfold Scene.bringsSome at hn
    split at hn
    · exact ⟨_, ‹_›⟩
    · cases hn
  have hbegin : (steadyWait.follow benchSite 0).foreground = .running
      (carryOut benchSite ((Call.start "").serve benchSession) >>= fun _ =>
        carryOut benchSite (Call.wait.serve benchSession) >>= pure) := by
    change Foreground.running (carryOut benchSite ((Call.start "").serve benchSession >>= fun _ =>
      Call.wait.serve benchSession >>= pure)) = _
    simp only [carryOut_bind]
    rfl
  obtain ⟨i, _, _, -, hin, -, hi⟩ := hcourse.exists_serves (Nat.zero_le n) hbegin hdone
  obtain ⟨j, es, reply, hij, hjn, hserve, hj⟩ := hcourse.exists_serves hin hi hdone
  obtain rfl : reply = .ok (some seconds) := by
    obtain ⟨told, ht⟩ := Scene.exists_tells benchSite (steadyWait.follow benchSite) hjn
    have hl := hcourse.leads_foreground ht
    rw [hj, hdone] at hl
    exact (done.inj (leads_done_iff.1 hl).2).symm
  obtain ⟨-, -, hwait, -⟩ := Course.paired_calls hsite hcourse
  obtain ⟨l, hil, hlj, -, hbrings⟩ := hwait _ _ _ _ _ hserve
  obtain ⟨told, ht⟩ := Scene.exists_tells benchSite (steadyWait.follow benchSite) (Nat.zero_le l)
  obtain ⟨hnone, hsome⟩ := hbrings told ht
  cases hrun : uncollected told with
  | none => cases hnone hrun
  | some x =>
    obtain ⟨m, result, -, hmj, -, ⟨m', told', turns, hm', hreturned⟩, hreply⟩ := hsome x.1 x.2 hrun
    cases result with
    | error => cases hreply
    | ok seconds' =>
      cases hreply
      exact ⟨i, j, es, seconds, x.1, x.2, hserve, m', told', turns, by omega, hreturned⟩

end CryoRig.Rig
