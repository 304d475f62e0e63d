import CryoRig.Proofs.CheckEffects
import CryoRig.Proofs.ProgramErrands
import CryoRig.Proofs.StartedJobs

/-!
# Calls on errands

Every call of a session begins and ends away from the program desk, and so does every turn of a job.
In between a call does at the desk only what its errand allows. So along every course the program on
the desk is the one that was started last, unless it was collected, and the token that is noted is
its token.

## Main results

* `CryoRig.Rig.Errand.obeys_serve`: a call keeps to the rules of its errand.
* `CryoRig.Rig.Course.paired`: what is on the desk is what was started last.
-/

namespace CryoRig.Rig

open Control Process

variable {α β : Type} {site : Site RigSurroundings}

/-! ## Work away from the desk -/

namespace Errand

section Obeys

variable {Q : β → Errand → Prop} {g : Errand}

lemma obeys_ask {r : Request} {next : r.Reply → RigWork β} (h : errandRules.Allows g r)
    (hnext : ∀ reply, Possible r reply → errandRules.Obeys Q (next reply) (g.after r reply)) :
    errandRules.Obeys Q (.ask r next) g := ⟨h, hnext⟩

/-- Whoever is not at the desk may ask for all that is no concern of the desk. -/
lemma ignores_of_plain {r : Request} (hr : r.Plain) : errandRules.Ignores .away r := by
  cases r with
  | device r => cases r <;> exact ⟨trivial, fun _ => rfl⟩
  | bench | clock | calendar | fired | pause | present | create | append =>
    exact ⟨trivial, fun _ => rfl⟩
  | _ => cases hr

lemma asks_ignores_away {q : WorkRequest}
    (h : SpawnsOnly (fun job => ∀ run, job ≠ .program run) q) :
    q.Asks (errandRules.Ignores .away) := by
  cases q with
  | act => trivial
  | rig r =>
    cases r with
    | device r => cases r <;> exact ⟨trivial, fun _ => rfl⟩
    | join => exact ⟨trivial, fun reply => ite_self _⟩
    | spawn job =>
      cases job with
      | program run => exact absurd rfl (h run)
      | _ => exact ⟨trivial, fun _ => rfl⟩
    | tryDesk | takeDesk | leaveDesk | program | setProgram | programToken | setProgramToken =>
      exact h.elim
    | _ => exact ⟨trivial, fun _ => rfl⟩

lemma obeys_away (hs : Confined site) {w : Working β}
    (hw : w.AsksOnly (SpawnsOnly fun job => ∀ run, job ≠ .program run)) :
    errandRules.Obeys (fun _ g => g = .away) (carryOut site w) .away :=
  Discipline.obeys_of_yields (yields_carryOut hs (fun _ => ignores_of_plain)
    (hw.mono fun _ => asks_ignores_away).yields) fun _ _ => rfl

/-- Jobs keep away from the desk. -/
lemma obeys_turnOf (hs : Confined site) (job : Job) :
    errandRules.Obeys errandRules.TurnEnds (turnOf site job) .away := by
  have hturn {w : Working (Turn Job Ending)}
      (hw : w.AsksOnly (SpawnsOnly fun job => ∀ run, job ≠ .program run)) :
      errandRules.Obeys errandRules.TurnEnds (carryOut site w) .away := by
    refine (obeys_away hs hw).mono fun t g hg => ?_
    cases t <;> exact hg
  cases job with
  | program run => exact hturn (ProgramRun.turn_acquires.bind fun _ => trivial)
  | ticking state =>
    exact hturn ((spawns_of_plain Ticking.turn_yields.asksOnly).bind fun _ => trivial)
  | supervision state =>
    exact hturn ((spawns_of_plain Supervision.turn_yields.asksOnly).bind fun _ => trivial)

/-! ## Calls of a session -/

/-- A check only asks for what is displayed. -/
lemma asksOnly_check (κ : Nat) (text : String) :
    (Session.check κ text).run.AsksOnly (OfDryRun κ) := by
  unfold Session.check
  refine (asksOnly_checkScript κ _).run_bind fun seconds => ?_
  refine (asksOnly_logAll κ [.estimate seconds]).run_lift.run_bind fun _ => ?_
  split
  · exact (asksOnly_logAll κ [.finishUnknown]).run_lift.run_bind fun _ => trivial
  · trivial

/-- So it is no concern of the desk. -/
lemma obeys_check (κ : Nat) (text : String) :
    errandRules.Obeys (fun _ g' => g' = g) (carryOut site (Session.check κ text).run) g := by
  have hcheck := asksOnly_check κ text
  generalize (Session.check κ text).run = w at hcheck
  induction w with
  | done => exact rfl
  | ask q next ih =>
    obtain ⟨hq, hnext⟩ := hcheck
    cases q with
    | act => exact hq.elim
    | rig r =>
      cases r with
      | device r =>
        cases r with
        | log => exact obeys_ask trivial fun reply _ => ih reply (hnext reply)
        | _ => exact hq.elim
      | published | publish => exact obeys_ask trivial fun reply _ => ih reply (hnext reply)
      | _ => exact hq.elim

/-- Whoever has the desk to start a program leaves it with the program on it, or as it was. -/
lemma obeys_startAtDesk (s : SessionSettings) (text : String) :
    errandRules.Obeys (fun _ g => g = .tries) (carryOut site (Session.startAtDesk s text).run)
      .tries := by
  unfold Session.startAtDesk
  rw [run_lift_bind, carryOut_bind]
  have hactive : errandRules.Obeys (fun _ g => g = .tries)
      (carryOut site Session.programActive) .tries := by
    refine obeys_ask (.inl rfl) fun job? _ => ?_
    change Option Nat at job?
    cases job? with
    | none => exact rfl
    | some job => exact obeys_ask trivial fun _ _ => rfl
  refine hactive.bind fun active g hg => ?_
  subst hg
  cases active with
  | true => exact rfl
  | false =>
    rw [if_neg (by simp), ExceptT.run_bind, carryOut_bind]
    refine (obeys_check _ _).bind fun result g hg => ?_
    obtain rfl := hg
    cases result with
    | error => exact rfl
    | ok seconds =>
      refine obeys_ask trivial fun token _ => ?_
      refine obeys_ask rfl fun _ _ => ?_
      refine obeys_ask rfl fun number _ => ?_
      refine obeys_ask rfl fun _ _ => ?_
      exact obeys_ask trivial fun _ _ => rfl

/-- A start begins and ends away from the desk. -/
lemma obeys_start (s : SessionSettings) (text : String) :
    errandRules.Obeys (fun _ g => g = .away) (carryOut site (Session.start s text).run) .away := by
  refine obeys_ask rfl fun free _ => ?_
  change Bool at free
  cases free with
  | true =>
    change errandRules.Obeys _ (carryOut site ((Session.startAtDesk s text).run >>= fun _ => _))
      .tries
    rw [carryOut_bind]
    refine (obeys_startAtDesk s text).bind fun _ g hg => ?_
    subst hg
    exact obeys_ask trivial fun _ _ => rfl
  | false => exact rfl

/-- A wait for the program begins and ends away from the desk. -/
lemma obeys_wait :
    errandRules.Obeys (fun _ g => g = .away) (carryOut site Session.wait.run) .away := by
  refine obeys_ask (.inl rfl) fun taken htaken => ?_
  obtain rfl : taken = true := htaken rfl
  refine obeys_ask (.inr (.inl rfl)) fun job? _ => ?_
  change Option Nat at job?
  cases job? with
  | none => exact obeys_ask trivial fun _ _ => rfl
  | some job =>
    refine obeys_ask trivial fun ending hending => ?_
    obtain ⟨e, rfl⟩ := Option.ne_none_iff_exists'.1 (hending rfl)
    change errandRules.Obeys _ _ ((Errand.sees job).learn job)
    rw [Errand.learn_sees]
    refine obeys_ask (.inr ⟨job, rfl⟩) fun _ _ => ?_
    exact obeys_ask trivial fun _ _ => rfl

/-- Whoever has fired the token that is noted takes the program off the desk. -/
lemma obeys_stopProgram (limit : Option Instant) :
    errandRules.Obeys (fun _ g => g = .away) (carryOut site (Session.stopProgram limit))
      .fired := by
  refine obeys_ask (.inr rfl) fun taken _ => ?_
  change Bool at taken
  cases taken with
  | false => exact rfl
  | true =>
    refine obeys_ask (.inr (.inr rfl)) fun job? _ => ?_
    change Option Nat at job?
    refine obeys_ask (.inl rfl) fun _ _ => ?_
    cases job? with
    | none => exact obeys_ask trivial fun _ _ => rfl
    | some job =>
      refine obeys_ask trivial fun ending _ => ?_
      change errandRules.Obeys _ _ (if ending.isSome then Errand.has else Errand.has)
      rw [ite_self]
      exact obeys_ask trivial fun _ _ => rfl

/-- A stop begins and ends away from the desk. -/
lemma obeys_stop (hs : Confined site) (s : SessionSettings) :
    errandRules.Obeys (fun _ g => g = .away) (carryOut site (Session.stop s)) .away := by
  refine obeys_ask rfl fun token _ => ?_
  change Nat at token
  refine obeys_ask trivial fun _ _ => ?_
  change errandRules.Obeys _ _ ((Errand.aims token).fire token)
  rw [Errand.fire_aims]
  refine obeys_ask trivial fun _ _ => ?_
  refine obeys_ask trivial fun ms _ => ?_
  change errandRules.Obeys _ (carryOut site (Session.stopProgram _ >>= fun inTime => _)) .fired
  rw [carryOut_bind]
  refine (obeys_stopProgram _).bind fun inTime g hg => ?_
  obtain rfl := hg
  refine obeys_away hs ?_
  cases inTime
  case' false => refine AsksOnly.bind (spawns_of_plain (log_plain _)) fun _ => ?_
  all_goals
    refine AsksOnly.bind (asksOnly_request.2 trivial) fun a? => ?_
    refine AsksOnly.bind (asksOnly_request.2 trivial) fun _ => ?_
    cases a? with
    | none => exact spawns_of_plain (log_plain _)
    | some a =>
      refine AsksOnly.bind (spawns_of_plain (log_plain _)) fun _ => ?_
      exact (stop_spawns a _).bind fun _ => spawns_of_plain (log_plain _)

/-- Every call begins and ends away from the desk. -/
lemma obeys_serve (hs : Confined site) (s : SessionSettings) (call : Call) :
    errandRules.Obeys (fun _ g => g = .away) (carryOut site (call.serve s)) .away := by
  cases call with
  | check text => exact obeys_check _ _
  | start text => exact obeys_start s text
  | wait => exact obeys_wait
  | stop => exact obeys_stop hs s
  | rest span => exact obeys_ask trivial fun _ _ => rfl

/-- So does any sequence of calls. -/
lemma obeys_calls (hs : Confined site) {s : SessionSettings} (client : Process Calls α) :
    errandRules.Obeys (fun _ g => g = .away) (carryOut site (client.translate (Call.serve s)))
      .away := by
  induction client with
  | done a => exact rfl
  | ask c next ih =>
    change errandRules.Obeys _ (carryOut site (Call.serve s c >>= fun reply =>
      (next reply).translate (Call.serve s))) .away
    rw [carryOut_bind]
    refine (obeys_serve hs s c).bind fun reply g hg => ?_
    obtain rfl := hg
    exact ih reply

end Obeys

end Errand

/-! ## Courses -/

/-- Before anything is started nobody is at the desk. -/
lemma Opening.paired {s : SessionSettings} {c : Scene α} (hs : Confined site)
    (h : Opening site s c) : c.Undisturbed errandRules Errand.Calm Paired [] := by
  have hrunning (p : Party) (x : Foreground (p.Result α)) (hx : c.at? p = some x) :
      (∃ w, x = .running w) ∧ errandRules.Obeys (errandRules.Ends p) x.work .away := by
    cases p with
    | foreground =>
      obtain ⟨client, hf⟩ := h.foreground
      rw [Scene.at?, hf] at hx
      cases hx
      exact ⟨⟨_, rfl⟩, (Errand.obeys_calls hs client).mono fun _ _ hg => hg⟩
    | job n =>
      obtain ⟨client, ending, hj⟩ := h.jobs n _ (Scene.at?_job_iff.1 hx)
      cases x with
      | running =>
        cases hj
        exact ⟨⟨_, rfl⟩, (Errand.obeys_calls hs client).bind fun _ _ hg => hg⟩
      | waiting => cases hj
  have hmind : c.mind errandRules [] = fun _ => .away := by
    funext p
    cases hx : c.at? p with
    | none => exact Scene.mind_of_none hx
    | some x =>
      obtain ⟨⟨w, rfl⟩, -⟩ := hrunning p x hx
      exact Scene.mind_of_running hx
  refine ⟨?_, fun p x hx => (hrunning p x hx).2, fun p w hw => ?_, fun _ _ => rfl,
    fun p _ => ?_, fun _ _ => rfl⟩
  · rw [hmind]
    refine ⟨fun _ => congrArg Desk.line h.desk, h.programToken_lt, fun _ => trivial,
      fun _ => h.program, fun _ _ hbegan => ?_, fun _ x hx => ?_⟩
    · cases hbegan
    · exact absurd hx.symm (Option.some_ne_none x)
  · obtain ⟨⟨w', hw'⟩, -⟩ := hrunning p _ hw
    cases hw'
  · rw [hmind]
    trivial

/-- **What is on the desk is what was started last**, along every course. -/
theorem Course.paired {s : SessionSettings} {c : Nat → Scene α} {n : Nat}
    {told : List (Party × Exchange RigSurroundings)} (hs : Confined site) (h : Course site s c)
    (ht : Scene.Tells site c 0 n told) :
    (c n).Undisturbed errandRules Errand.Calm Paired told :=
  h.undisturbed upholds_errandRules (Errand.obeys_turnOf hs) (h.opening.paired hs) ht

end CryoRig.Rig
