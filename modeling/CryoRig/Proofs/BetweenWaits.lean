import CryoRig.Proofs.Company
import CryoRig.Proofs.DryRuns
import CryoRig.Proofs.Disciplines
import CryoRig.Proofs.JobTurns

/-!
# Nobody interferes between two waits

Whoever runs goes on until it has to wait, and nobody else does anything meanwhile. So a party may
leave things half done, as long as it does not wait in the midst of that: whoever does something
next finds the others *calm*. An invariant has to hold only when all parties but one are calm, and
it may speak of everything that was told so far.

## Main definitions

* `CryoRig.Rig.Scene.Hears`, `CryoRig.Rig.Scene.Tells`: what is told in a step of a course, and from
  one scene to another.
* `CryoRig.Rig.Discipline.mindAfter`: what a party has in mind that was told some things.
* `CryoRig.Rig.Discipline.Upholds`: a discipline that preserves an invariant while all others are
  calm.
* `CryoRig.Rig.Scene.Undisturbed`: everybody works under a discipline, and whoever does not run is
  calm.

## Main results

* `CryoRig.Rig.Scene.Tells.split`: a reply is had in some step.
* `CryoRig.Rig.Scene.Undisturbed.proceeds`: the invariant holds after every step.
-/

namespace CryoRig.Rig

open Control Process

variable {G α : Type} {site : Site RigSurroundings}

/-! ## What is told along a course -/

namespace Scene

variable {c : Nat → Scene α} {i j k n : Nat} {p : Party} {e : Exchange RigSurroundings}
  {told told' before after : List (Party × Exchange RigSurroundings)}

/-- In the step after a scene of a course a party has the reply to a request. -/
def Hears (site : Site RigSurroundings) (c : Nat → Scene α) (n : Nat) (p : Party)
    (e : Exchange RigSurroundings) : Prop :=
  (c n).step site = .more (c (n + 1)) ∧
    ∃ asked, Proceeds site (c n) asked (some (p, e)) (c (n + 1))

/-- What is told from one scene of a course to another, in order. -/
inductive Tells (site : Site RigSurroundings) (c : Nat → Scene α) (i : Nat) :
    Nat → List (Party × Exchange RigSurroundings) → Prop where
  /-- Nothing yet. -/
  | start : Tells site c i i []
  /-- What is told in one more step. -/
  | step {n : Nat} {told : List (Party × Exchange RigSurroundings)}
    {asked : Option (Party × Request)} {reply? : Option (Party × Exchange RigSurroundings)}
    (h : Tells site c i n told) (hs : (c n).step site = .more (c (n + 1)))
    (hp : Proceeds site (c n) asked reply? (c (n + 1))) :
    Tells site c i (n + 1) (told ++ reply?.toList)
  /-- Nothing, as there is no step. -/
  | rest {n : Nat} {told : List (Party × Exchange RigSurroundings)} (h : Tells site c i n told)
    (hs : (c n).step site ≠ .more (c (n + 1))) : Tells site c i (n + 1) told

lemma Tells.le (h : Tells site c i j told) : i ≤ j := by
  induction h with
  | start => exact Nat.le_refl i
  | step _ _ _ ih | rest _ _ ih => exact Nat.le_succ_of_le ih

lemma exists_tells (site : Site RigSurroundings) (c : Nat → Scene α) (hij : i ≤ j) :
    ∃ told, Tells site c i j told := by
  induction hij with
  | refl => exact ⟨[], .start⟩
  | @step n _ ih =>
    obtain ⟨told, h⟩ := ih
    by_cases hs : (c n).step site = .more (c (n + 1))
    · obtain ⟨asked, reply?, hp⟩ := proceeds_of_step hs
      exact ⟨_, h.step hs hp⟩
    · exact ⟨_, h.rest hs⟩

/-- What is told in sequence. -/
lemma Tells.trans (h : Tells site c i j told) (h' : Tells site c j k told') :
    Tells site c i k (told ++ told') := by
  induction h' with
  | start => rwa [List.append_nil]
  | step _ hs hp ih =>
    rw [← List.append_assoc]
    exact ih.step hs hp
  | rest _ hs ih => exact ih.rest hs

/-- Whatever is told is told in some step, with what is told before and after it. -/
theorem Tells.split {x : Party × Exchange RigSurroundings} (h : Tells site c i j told)
    (htold : told = before ++ x :: after) :
    ∃ n, i ≤ n ∧ n < j ∧ Tells site c i n before ∧ Hears site c n x.1 x.2 ∧
      Tells site c (n + 1) j after := by
  induction h generalizing after with
  | start => simp at htold
  | @rest n told h hs ih =>
    obtain ⟨l, hil, hln, hbefore, hl, hafter⟩ := ih htold
    exact ⟨l, hil, Nat.lt_succ_of_lt hln, hbefore, hl, hafter.rest hs⟩
  | @step n told asked reply? h hs hp ih =>
    cases reply? with
    | none =>
      rw [Option.toList_none, List.append_nil] at htold
      obtain ⟨l, hil, hln, hbefore, hl, hafter⟩ := ih htold
      exact ⟨l, hil, Nat.lt_succ_of_lt hln, hbefore, hl, by simpa using hafter.step hs hp⟩
    | some y =>
      rcases List.eq_nil_or_concat after with rfl | ⟨after, z, rfl⟩
      · obtain ⟨rfl, hy⟩ := List.append_inj' htold rfl
        cases hy
        exact ⟨n, h.le, Nat.lt_succ_self n, h, ⟨hs, asked, hp⟩, .start⟩
      · have hlast : told ++ [y] = (before ++ x :: after) ++ [z] := by simpa using htold
        obtain ⟨hinit, hy⟩ := List.append_inj' hlast rfl
        cases hy
        obtain ⟨l, hil, hln, hbefore, hl, hafter⟩ := ih hinit
        exact ⟨l, hil, Nat.lt_succ_of_lt hln, hbefore, hl, by simpa using hafter.step hs hp⟩

/-- Whatever a party is told it is told in some step, with what is told before and after it. -/
theorem Tells.split_at {es es' : List (Exchange RigSurroundings)} (h : Tells site c i j told)
    (htold : toldTo p told = es ++ e :: es') :
    ∃ n before after, told = before ++ (p, e) :: after ∧ i ≤ n ∧ n < j ∧
      Tells site c i n before ∧ toldTo p before = es ∧ Hears site c n p e ∧
      Tells site c (n + 1) j after ∧ toldTo p after = es' := by
  obtain ⟨before, after, rfl, hbefore⟩ := exists_of_toldTo htold
  obtain ⟨n, hin, hnj, hi, hn, hj⟩ := h.split rfl
  rw [toldTo_append, hbefore, toldTo_cons_self] at htold
  exact ⟨n, before, after, rfl, hin, hnj, hi, hbefore, hn, hj,
    (List.cons.inj (List.append_cancel_left htold)).2⟩

/-- Whatever a party is told it is told in some step. -/
theorem Tells.split_toldTo {es' : List (Exchange RigSurroundings)} (h : Tells site c i j told)
    (es : List (Exchange RigSurroundings)) (htold : toldTo p told = es ++ e :: es') :
    ∃ n before after, i ≤ n ∧ n < j ∧ Tells site c i n before ∧ toldTo p before = es ∧
      Hears site c n p e ∧ Tells site c (n + 1) j after ∧ toldTo p after = es' := by
  obtain ⟨n, before, after, -, h⟩ := h.split_at htold
  exact ⟨n, before, after, h⟩

/-- The work in the foreground goes down its path, if it is the same where there is no step. -/
lemma Tells.leads_foreground (h : Tells site c i j told)
    (hrest : ∀ n, (c n).step site ≠ .more (c (n + 1)) →
      (c (n + 1)).foreground = (c n).foreground) :
    (c i).foreground.work.Leads (toldTo .foreground told) (c j).foreground.work := by
  induction h with
  | start => exact .refl _
  | step _ _ hp ih =>
    obtain ⟨e, f, he, hf, hd, -⟩ := hp.happens
    have hl := (((Shift.start.more he).more hf).more hd).leads_foreground
    rw [toldTo_append]
    exact ih.trans (by simpa using hl)
  | rest _ hs ih => rwa [hrest _ hs]

/-- What is told in one more step. -/
lemma Tells.hears (h : Tells site c i n told) (hn : Hears site c n p e) :
    Tells site c i (n + 1) (told ++ [(p, e)]) := by
  obtain ⟨hs, asked, hp⟩ := hn
  exact h.step hs hp

end Scene

/-! ## What a party has in mind -/

namespace Discipline

variable {D : Discipline G} {p q : Party} {e : Exchange RigSurroundings}
  {told : List (Party × Exchange RigSurroundings)}

/-- What a party has in mind that was told some things. -/
def mindAfter (D : Discipline G) (p : Party) (told : List (Party × Exchange RigSurroundings)) : G :=
  (toldTo p told).foldl (fun g e => D.after g e.request e.reply) D.idle

@[simp] lemma mindAfter_nil : D.mindAfter p [] = D.idle := rfl

lemma mindAfter_of_toldTo_nil (h : toldTo p told = []) : D.mindAfter p told = D.idle := by
  rw [mindAfter, h, List.foldl_nil]

@[simp] lemma mindAfter_append_self :
    D.mindAfter p (told ++ [(p, e)]) = D.after (D.mindAfter p told) e.request e.reply := by
  simp [mindAfter]

lemma mindAfter_append_of_toldTo_nil {told' : List (Party × Exchange RigSurroundings)}
    (h : toldTo p told' = []) : D.mindAfter p (told ++ told') = D.mindAfter p told := by
  rw [mindAfter, mindAfter, toldTo_append, h, List.append_nil]

end Discipline

/-- What a party has in mind in a scene: that it waits for a reply, too. -/
def Scene.mind (D : Discipline G) (c : Scene α) (told : List (Party × Exchange RigSurroundings))
    (p : Party) : G :=
  match c.at? p with
  | some (.waiting w) => D.entered (D.mindAfter p told) w.request
  | _ => D.mindAfter p told

/-- Nobody asked for anything. Jobs may have gone on or have ended, but the tokens and the program
desk are as they were. -/
structure Unasked (s t : State) : Prop where
  /-- The tokens. -/
  tokens : t.tokens = s.tokens
  /-- The program desk. -/
  desk : t.desk = s.desk
  /-- The program on it. -/
  program : t.program = s.program
  /-- Its token. -/
  programToken : t.programToken = s.programToken
  /-- What has ended stays so. -/
  ended : ∀ n ending, s.ending? n = some ending → t.ending? n = some ending

/-- Nothing that is asked under a discipline breaks an invariant of the rig, of what everybody has
in mind and of what was told, as long as everybody else is calm; and whoever waits is calm. -/
structure Discipline.Upholds (D : Discipline G) (Calm : G → Prop)
    (Inv : State → (Party → G) → List (Party × Exchange RigSurroundings) → Prop) : Prop where
  /-- A request is made, and the reply is there. -/
  answers : ∀ {s t : State} {mind : Party → G} {told : List (Party × Exchange RigSurroundings)}
    {p : Party} {r : Request} {reply : r.Reply}, Inv s mind told → D.Allows (mind p) r →
    (∀ q, q ≠ p → Calm (mind q)) →
    (s.enter p r).2.answer? p (s.enter p r).1 r = some (reply, t) →
    Inv t (Function.update mind p (D.after (mind p) r reply)) (told ++ [(p, ⟨r, reply⟩)])
  /-- A request is made, and the reply is not there yet. -/
  waits : ∀ {s : State} {mind : Party → G} {told : List (Party × Exchange RigSurroundings)}
    {p : Party} {r : Request}, Inv s mind told → D.Allows (mind p) r →
    (∀ q, q ≠ p → Calm (mind q)) →
    (s.enter p r).2.answer? p (s.enter p r).1 r = none →
    Inv (s.enter p r).2 (Function.update mind p (D.entered (mind p) r)) told ∧
      Calm (D.entered (mind p) r)
  /-- A reply has come. -/
  resumes : ∀ {s t : State} {mind : Party → G} {told : List (Party × Exchange RigSurroundings)}
    {p : Party} {g : G} {r : Request} {alarm : Option Nat} {reply : r.Reply}, Inv s mind told →
    (∀ q, Calm (mind q)) → mind p = D.entered g r → D.Allows g r → Began p r alarm →
    s.answer? p alarm r = some (reply, t) →
    Inv t (Function.update mind p (D.after g r reply)) (told ++ [(p, ⟨r, reply⟩)])
  /-- Nothing is asked. -/
  unasked : ∀ {s t : State} {mind : Party → G}
    {told : List (Party × Exchange RigSurroundings)}, Inv s mind told → Unasked s t →
    Inv t mind told
  /-- Who has asked for nothing yet is calm. -/
  idle : Calm D.idle
  /-- So is a job that has ended. -/
  rests : ∀ {g : G}, D.Rests g → Calm g

/-! ## Undisturbed scenes -/

namespace Scene

/-- Everybody works under a discipline, whoever does not run is calm, and an invariant holds. -/
structure Undisturbed (D : Discipline G) (Calm : G → Prop)
    (Inv : State → (Party → G) → List (Party × Exchange RigSurroundings) → Prop) (c : Scene α)
    (told : List (Party × Exchange RigSurroundings)) : Prop where
  /-- The invariant. -/
  inv : Inv c.state (c.mind D told) told
  /-- Whoever is at something. -/
  fares : ∀ p x, c.at? p = some x → D.Obeys (D.Ends p) x.work (D.mindAfter p told)
  /-- Whoever waits. -/
  began : ∀ p w, c.at? p = some (.waiting w) → Began p w.request w.alarm
  /-- Whoever is at nothing. -/
  rests : ∀ p, c.at? p = none → D.Rests (D.mindAfter p told)
  /-- Whoever does not run. -/
  calm : ∀ p, ¬c.Runs p → Calm (c.mind D told p)
  /-- Jobs that are not there were told nothing. -/
  idle : ∀ n, c.state.jobs.size ≤ n → toldTo (.job n) told = []

section Undisturbed

variable {D : Discipline G} {Calm : G → Prop}
  {Inv : State → (Party → G) → List (Party × Exchange RigSurroundings) → Prop}
  {c d : Scene α} {p q : Party} {told told' : List (Party × Exchange RigSurroundings)}
  {asked : Option (Party × Request)} {reply? : Option (Party × Exchange RigSurroundings)}

lemma mind_of_running {work : RigWork (p.Result α)} (h : c.at? p = some (.running work)) :
    c.mind D told p = D.mindAfter p told := by
  rw [mind, h]

lemma mind_of_waiting {w : Waiting (p.Result α)} (h : c.at? p = some (.waiting w)) :
    c.mind D told p = D.entered (D.mindAfter p told) w.request := by
  rw [mind, h]

lemma mind_of_none (h : c.at? p = none) : c.mind D told p = D.mindAfter p told := by
  rw [mind, h]

lemma mind_congr (hat : d.at? p = c.at? p) (hr : D.mindAfter p told' = D.mindAfter p told) :
    d.mind D told' p = c.mind D told p := by
  unfold mind
  rw [hat, hr]

/-- A party turns to something when nobody asks. -/
lemma unasked_put {s : State} {x y : Foreground (p.Result α)} (h : c.at? p = some y)
    (hs : c.state = s) : Unasked s (c.put p x).state := by
  subst hs
  refine ⟨by rw [state_put], by rw [state_put], by rw [state_put], by rw [state_put], ?_⟩
  intro n ending hn
  cases p with
  | foreground => exact hn
  | job k =>
    have hne : k ≠ n := by
      rintro rfl
      rw [ending?_eq_none h] at hn
      cases hn
    change State.ending? (c.state.setJob k x.status) n = some ending
    rwa [State.ending?, State.setJob, Array.getElem?_setIfInBounds, if_neg hne]

/-- Whoever has no reply is at what it was at, or it is a new job. -/
lemma at?_of_answer?_or_new {s t : State} {r : Request} {reply : r.Reply} {alarm : Option Nat}
    (hs : s.jobs = c.state.jobs) (ha : s.answer? p alarm r = some (reply, t)) (q : Party) :
    ({ c with state := t } : Scene α).at? q = c.at? q ∨ ∃ job, q = .job c.state.jobs.size ∧
      ({ c with state := t } : Scene α).at? (.job c.state.jobs.size) =
        some (.running (.done (.again job))) := by
  rcases jobs_of_answer? ha with ht | ⟨job, -, ht⟩
  · exact .inl (at?_mk (ht.trans hs) q)
  · rw [hs] at ht
    by_cases hq : q = .job c.state.jobs.size
    · exact .inr ⟨job, hq, at?_push_self ht⟩
    · exact .inl (at?_push_of_ne ht hq)

namespace Undisturbed

/-- Whoever is not there yet has nothing in mind. -/
lemma mind_of_size_le (h : Undisturbed D Calm Inv c told) {n : Nat}
    (hn : c.state.jobs.size ≤ n) : c.mind D told (.job n) = D.idle := by
  have hnone : c.at? (.job n) = none := by
    cases hx : c.at? (.job n) with
    | none => rfl
    | some x => exact absurd (lt_size_of_at? hx) (Nat.not_lt.2 hn)
  rw [mind_of_none hnone, Discipline.mindAfter_of_toldTo_nil (h.idle n hn)]

/-- A party turns to something else, and nobody else runs. -/
lemma goes (h : Undisturbed D Calm Inv c told)
    {x y : Foreground (p.Result α)} (honly : ∀ q, c.Runs q → q = p) (hx : c.at? p = some x)
    (hy : d.at? p = some y)
    (hothers : ∀ q, q ≠ p → d.at? q = c.at? q ∨ ∃ job, q = .job c.state.jobs.size ∧
      d.at? (.job c.state.jobs.size) = some (.running (.done (.again job))))
    (hsize : c.state.jobs.size ≤ d.state.jobs.size)
    (htold : ∀ q, q ≠ p → toldTo q told' = toldTo q told)
    (hobeys : D.Obeys (D.Ends p) y.work (D.mindAfter p told'))
    (hbegan : ∀ w, y = .waiting w → Began p w.request w.alarm)
    (hinv : Inv d.state (Function.update (c.mind D told) p (d.mind D told' p)) told')
    (hcalm : ¬d.Runs p → Calm (d.mind D told' p)) : Undisturbed D Calm Inv d told' := by
  have hrecall (q : Party) (hq : q ≠ p) : D.mindAfter q told' = D.mindAfter q told := by
    rw [Discipline.mindAfter, Discipline.mindAfter, htold q hq]
  have hmind (q : Party) (hq : q ≠ p) : d.mind D told' q = c.mind D told q := by
    rcases hothers q hq with hat | ⟨job, rfl, hat⟩
    · exact mind_congr hat (hrecall q hq)
    · rw [mind_of_running hat, hrecall _ hq, h.mind_of_size_le (Nat.le_refl _),
        Discipline.mindAfter_of_toldTo_nil (h.idle _ (Nat.le_refl _))]
  have hminds : d.mind D told' = Function.update (c.mind D told) p (d.mind D told' p) := by
    funext q
    by_cases hq : q = p
    · rw [hq, Function.update_self]
    · rw [Function.update_of_ne hq, hmind q hq]
  refine ⟨hminds ▸ hinv, fun q z hz => ?_, fun q w hw => ?_, fun q hq => ?_, fun q hq => ?_,
    fun n hn => ?_⟩
  · by_cases hq : q = p
    · subst hq
      cases hy.symm.trans hz
      exact hobeys
    · rw [hrecall q hq]
      rcases hothers q hq with hat | ⟨job, rfl, hat⟩
      · exact h.fares q z (hat.symm.trans hz)
      · cases hat.symm.trans hz
        exact Discipline.mindAfter_of_toldTo_nil (h.idle _ (Nat.le_refl _))
  · by_cases hq : q = p
    · subst hq
      cases hy.symm.trans hw
      exact hbegan w rfl
    · rcases hothers q hq with hat | ⟨job, rfl, hat⟩
      · exact h.began q w (hat.symm.trans hw)
      · cases hat.symm.trans hw
  · have hne : q ≠ p := by
      rintro rfl
      cases hy.symm.trans hq
    rw [hrecall q hne]
    rcases hothers q hne with hat | ⟨job, rfl, hat⟩
    · exact h.rests q (hat.symm.trans hq)
    · cases hat.symm.trans hq
  · by_cases hqp : q = p
    · subst hqp
      exact hcalm hq
    · rw [hmind q hqp]
      exact h.calm q fun hr => hqp (honly q hr)
  · have hne : Party.job n ≠ p := by
      rintro rfl
      exact absurd (lt_size_of_at? hy) (Nat.not_lt.2 hn)
    rw [htold _ hne]
    exact h.idle n (Nat.le_trans hsize hn)

/-- Whoever has a reply was allowed to ask for it, and the others are calm. -/
lemma allows {c : Nat → Scene α} {n : Nat} {e : Exchange RigSurroundings}
    (h : Undisturbed D Calm Inv (c n) told) (hh : Hears site c n p e) :
    D.Allows (D.mindAfter p told) e.request ∧ ∀ q, q ≠ p → Calm ((c n).mind D told q) := by
  obtain ⟨-, asked, hp⟩ := hh
  generalize hx : some (p, e) = reply? at hp
  generalize c (n + 1) = d at hp
  cases hp with
  | answer hr hp ha =>
    cases hx
    exact ⟨(h.fares p _ hp).1, fun q hq => h.calm q fun hrun => hq (hrun.unique hr.runs)⟩
  | @resume _ w _ _ _ _ hr hp ha hn =>
    obtain ⟨request, next, alarm, rank⟩ := w
    cases hx
    exact ⟨(h.fares p _ hp).1, fun q _ => h.calm q (hr q)⟩
  | _ => cases hx

/-- What needs no wait is answered in the scene in which it is asked. -/
lemma answered {c : Nat → Scene α} {n : Nat} {e : Exchange RigSurroundings}
    (h : Undisturbed D Calm Inv (c n) told) (hh : Hears site c n p e) (hr : ¬MayWait e.request) :
    ∃ next t, (c n).Asks p e.request ∧ (c n).at? p = some (.running (.ask e.request next)) ∧
      (c n).state.answer? p none e.request = some (e.reply, t) ∧
      c (n + 1) = ({ c n with state := t } : Scene α).put p (.running (next e.reply)) := by
  obtain ⟨-, asked, hp⟩ := hh
  generalize hx : some (p, e) = reply? at hp
  generalize hd : c (n + 1) = d at hp
  cases hp with
  | answer hasks hp ha =>
    cases hx
    rw [enter_of_not_mayWait hr] at ha
    exact ⟨_, _, hasks, hp, ha, rfl⟩
  | @resume _ w _ _ _ _ _ hp ha hn =>
    obtain ⟨request, next, alarm, rank⟩ := w
    cases hx
    exact absurd (h.began p _ hp).mayWait hr
  | _ => cases hx

/-- A party has a reply and goes on. -/
lemma hears (hD : D.Upholds Calm Inv) (h : Undisturbed D Calm Inv c told) {s t : State}
    {x : Foreground (p.Result α)} {r : Request} {reply : r.Reply} {alarm : Option Nat}
    {next : r.Reply → RigWork (p.Result α)} (current : Option Nat) (fresh : Bool)
    (honly : ∀ q, c.Runs q → q = p) (hx : c.at? p = some x) (hs : s.jobs = c.state.jobs)
    (ha : s.answer? p alarm r = some (reply, t))
    (hobeys : D.Obeys (D.Ends p) (next reply) (D.after (D.mindAfter p told) r reply))
    (hinv : Inv t (Function.update (c.mind D told) p (D.after (D.mindAfter p told) r reply))
      (told ++ [(p, ⟨r, reply⟩)]))
    (hruns : (({ c with state := t, current := current, fresh := fresh } : Scene α).put p
      (.running (next reply))).Runs p) :
    Undisturbed D Calm Inv (({ c with state := t, current := current, fresh := fresh } :
      Scene α).put p (.running (next reply))) (told ++ [(p, ⟨r, reply⟩)]) := by
  have hat : ({ c with state := t, current := current, fresh := fresh } : Scene α).at? p =
      some x := at?_of_answer? hs ha hx
  have hy := at?_put_self (x := .running (next reply)) hat
  refine h.goes honly hx hy (fun q hq => ?_) ?_ (fun q hq => ?_) ?_ (fun w hw => ?_) ?_
    fun hr => absurd hruns hr
  · rw [at?_put_of_ne hq]
    rcases at?_of_answer?_or_new hs ha q with hsame | ⟨job, rfl, hnew⟩
    · exact .inl hsame
    · exact .inr ⟨job, rfl, (at?_put_of_ne hq).trans hnew⟩
  · rw [size_put]
    exact le_size_of_answer? (Nat.le_of_eq (congrArg Array.size hs).symm) ha
  · rw [toldTo_append, toldTo_cons_of_ne (Ne.symm hq), toldTo_nil, List.append_nil]
  · rwa [Discipline.mindAfter_append_self]
  · cases hw
  · rw [mind_of_running hy, Discipline.mindAfter_append_self]
    exact hD.unasked hinv (unasked_put hat rfl)

/-- A party that has made a request begins to wait for the reply. -/
lemma awaits (hD : D.Upholds Calm Inv) (h : Undisturbed D Calm Inv c told) {s : State}
    {x : Foreground (p.Result α)} {w : Waiting (p.Result α)} {current : Option Nat} {fresh : Bool}
    (hx : c.at? p = some x) (hw : x.work = .ask w.request w.next)
    (hinv : Inv s (Function.update (c.mind D told) p
      (D.entered (D.mindAfter p told) w.request)) told)
    (hcalm : Calm (D.entered (D.mindAfter p told) w.request)) (hj : s.jobs = c.state.jobs)
    {u : State} (hu : u = { s with waits := u.waits }) (honly : ∀ q, c.Runs q → q = p)
    (hbegan : Began p w.request w.alarm) :
    Undisturbed D Calm Inv ((⟨u, c.foreground, current, fresh⟩ : Scene α).put p (.waiting w))
      told := by
  have hju : u.jobs = c.state.jobs := by rw [hu, ← hj]
  have hat : (⟨u, c.foreground, current, fresh⟩ : Scene α).at? p = some x :=
    (at?_mk hju p).trans hx
  have hy := at?_put_self (x := .waiting w) hat
  have hfares := h.fares p x hx
  rw [hw] at hfares
  refine h.goes honly hx hy (fun q hq => .inl ?_) ?_ (fun _ _ => rfl) hfares
    (fun w' hw' => ?_) ?_ fun _ => ?_
  · rw [at?_put_of_ne hq]
    exact at?_mk hju q
  · rw [size_put]
    exact Nat.le_of_eq (congrArg Array.size hju).symm
  · cases hw'
    exact hbegan
  · rw [mind_of_waiting hy]
    refine hD.unasked (hD.unasked hinv ?_) (unasked_put hat rfl)
    rw [hu]
    exact ⟨rfl, rfl, rfl, rfl, fun _ _ hn => hn⟩
  · rw [mind_of_waiting hy]
    exact hcalm

/-- Nobody turns to anything else, and nobody runs who did not. -/
lemma same (hD : D.Upholds Calm Inv) (h : Undisturbed D Calm Inv c told)
    (hat : ∀ q, d.at? q = c.at? q) (hs : Unasked c.state d.state)
    (hsize : d.state.jobs.size = c.state.jobs.size) (hruns : ∀ q, c.Runs q → d.Runs q) :
    Undisturbed D Calm Inv d told := by
  have hminds : d.mind D told = c.mind D told := funext fun q => mind_congr (hat q) rfl
  exact ⟨hminds ▸ hD.unasked h.inv hs, fun q x hx => h.fares q x ((hat q).symm.trans hx),
    fun q w hw => h.began q w ((hat q).symm.trans hw),
    fun q hq => h.rests q ((hat q).symm.trans hq),
    fun q hq => hminds ▸ h.calm q fun hr => hq (hruns q hr), fun n hn => h.idle n (hsize ▸ hn)⟩

/-- The job that runs ends. -/
lemma ends (hD : D.Upholds Calm Inv) (h : Undisturbed D Calm Inv c told) {n : Nat}
    {ending : Ending} (hr : c.Runs (.job n))
    (hn : c.at? (.job n) = some (.running (.done (.over ending)))) :
    Undisturbed D Calm Inv
      { c with
        state := (c.state.setJob n (.ended ending)).wake (State.isJoinOf n)
        current := none } told := by
  have hover : D.Rests (D.mindAfter (.job n) told) := h.fares _ _ hn
  let d : Scene α :=
    { c with
      state := (c.state.setJob n (.ended ending)).wake (State.isJoinOf n)
      current := none }
  have hnone : d.at? (.job n) = none := at?_end_self hn
  have hat {q : Party} (hq : q ≠ .job n) : d.at? q = c.at? q := at?_end_of_ne hq
  have hmind : d.mind D told = c.mind D told := by
    funext q
    by_cases hq : q = .job n
    · rw [hq, mind_of_none hnone, mind_of_running hn]
    · exact mind_congr (hat hq) rfl
  have hasked : Unasked c.state d.state := by
    refine ⟨rfl, rfl, rfl, rfl, fun k e hk => ?_⟩
    have hne : n ≠ k := by
      rintro rfl
      rw [ending?_eq_none hn] at hk
      cases hk
    change State.ending? (c.state.setJob n (.ended ending)) k = some e
    rwa [State.ending?, State.setJob, Array.getElem?_setIfInBounds, if_neg hne]
  have hsize : d.state.jobs.size = c.state.jobs.size := Array.size_setIfInBounds
  refine ⟨?_, fun q x hx => ?_, fun q w hw => ?_, fun q hq => ?_, fun q hq => ?_,
    fun k hk => h.idle k (hsize ▸ hk)⟩
  · exact hmind ▸ hD.unasked h.inv hasked
  · by_cases hqn : q = .job n
    · subst hqn
      cases hnone.symm.trans hx
    · exact h.fares q x ((hat hqn).symm.trans hx)
  · by_cases hqn : q = .job n
    · subst hqn
      cases hnone.symm.trans hw
    · exact h.began q w ((hat hqn).symm.trans hw)
  · by_cases hqn : q = .job n
    · rw [hqn]
      exact hover
    · exact h.rests q ((hat hqn).symm.trans hq)
  · by_cases hqn : q = .job n
    · rw [hqn, mind_of_none hnone]
      exact hD.rests hover
    · change Calm (d.mind D told q)
      rw [hmind]
      exact h.calm q fun hrun => hqn (hrun.unique hr)

/-- **An invariant that holds while others are calm holds after every step.** -/
theorem proceeds (hD : D.Upholds Calm Inv)
    (hsite : ∀ job, D.Obeys D.TurnEnds (turnOf site job) D.idle)
    (h : Undisturbed D Calm Inv c told) (hp : Proceeds site c asked reply? d) :
    Undisturbed D Calm Inv d (told ++ reply?.toList) := by
  cases hp with
  | @answer p r next reply t hr hp ha =>
    obtain ⟨hallow, hnext⟩ := h.fares p _ hp
    have hmind : c.mind D told p = D.mindAfter p told := mind_of_running hp
    have honly (q : Party) (hq : c.Runs q) : q = p := hq.unique hr.runs
    have hinv := hD.answers h.inv (hmind ▸ hallow)
      (fun q hq => h.calm q fun hrun => hq (honly q hrun)) ha
    rw [hmind] at hinv
    refine h.hears hD c.current c.fresh honly hp (jobs_enter ..) ha
      (hnext reply (possible_of_answer? ha alarm_enter_of_untimed)) hinv ?_
    refine runs_put (at?_of_answer? (jobs_enter ..) ha hp) ?_
    rintro n rfl
    exact hr.runs.job_current
  | @wait p r next current hr hp ha hn =>
    obtain ⟨hallow, hnext⟩ := h.fares p _ hp
    have hmind : c.mind D told p = D.mindAfter p told := mind_of_running hp
    have honly (q : Party) (hq : c.Runs q) : q = p := hq.unique hr.runs
    obtain ⟨hinv, hcalm⟩ := hD.waits h.inv (hmind ▸ hallow)
      (fun q hq => h.calm q fun hrun => hq (honly q hrun)) ha
    rw [hmind] at hinv hcalm
    rw [Option.toList_none, List.append_nil]
    exact h.awaits hD hp rfl hinv hcalm (jobs_enter ..) rfl honly ⟨c.state, rfl, ha⟩
  | @resume p w reply t ready current hr hp ha hn =>
    obtain ⟨hallow, hnext⟩ := h.fares p _ hp
    have hbegan := h.began p w hp
    have hat : ({ c with state := t } : Scene α).at? p = some (.waiting w) := by
      refine at?_of_answer? ?_ ha hp
      rfl
    have hinv : Inv { c.state with ready := ready } (c.mind D told) told :=
      hD.unasked h.inv ⟨rfl, rfl, rfl, rfl, fun _ _ hn => hn⟩
    have hcalm (q : Party) : Calm (c.mind D told q) := h.calm q (hr q)
    refine h.hears hD (s := { c.state with ready := ready }) current false
      (fun q hq => absurd hq (hr q)) hp rfl ha
      (hnext reply (possible_of_answer? ha hbegan.untimed))
      (hD.resumes hinv hcalm (mind_of_waiting hp) hallow hbegan ha) ?_
    refine runs_put (c := ⟨t, c.foreground, current, false⟩) hat fun n hpn => ?_
    exact ⟨exists_waiting (c := c) hr, (hn n).2 hpn⟩
  | @take n work ready hr hn =>
    rw [Option.toList_none, List.append_nil]
    refine h.same hD (fun q => ?_) ⟨rfl, rfl, rfl, rfl, fun _ _ hn => hn⟩ rfl
      fun q hq => absurd hq (hr q)
    exact at?_mk (c := c) rfl q
  | @turn n job hr hn =>
    have hidle : D.mindAfter (.job n) told = D.idle := h.fares _ _ hn
    have hy : (c.put (.job n) (.running (turnOf site job))).at? (.job n) =
        some (.running (turnOf site job)) := at?_put_self hn
    rw [Option.toList_none, List.append_nil]
    refine h.goes (fun q hq => hq.unique hr) hn hy (fun q hq => .inl (at?_put_of_ne hq)) ?_
      (fun _ _ => rfl) ?_ (fun w hw => ?_) ?_ fun hno => absurd (runs_put hn ?_) hno
    · exact Nat.le_of_eq (size_put ..).symm
    · rw [hidle]
      exact hsite job
    · cases hw
    · have hmind : c.mind D told (.job n) = D.mindAfter (.job n) told := mind_of_running hn
      rw [mind_of_running hy, ← hmind, Function.update_eq_self]
      exact hD.unasked h.inv (unasked_put hn rfl)
    · rintro k ⟨⟩
      exact hr.job_current
  | @finish n ending hr hn =>
    rw [Option.toList_none, List.append_nil]
    exact h.ends hD hr hn
  | @idle s fresh hr hs =>
    rw [Option.toList_none, List.append_nil]
    have hj : s.jobs = c.state.jobs := by rw [hs]
    refine h.same hD (fun q => at?_mk hj q) ?_ (congrArg Array.size hj) fun q hq => absurd hq (hr q)
    rw [hs]
    exact ⟨rfl, rfl, rfl, rfl, fun _ _ hn => hn⟩

end Undisturbed

end Undisturbed

end Scene

/-- **An invariant that holds while others are calm holds along a course.** -/
theorem Course.undisturbed {D : Discipline G} {Calm : G → Prop}
    {Inv : State → (Party → G) → List (Party × Exchange RigSurroundings) → Prop}
    {s : SessionSettings} {c : Nat → Scene α} {n : Nat}
    {told : List (Party × Exchange RigSurroundings)} (hD : D.Upholds Calm Inv)
    (hsite : ∀ job, D.Obeys D.TurnEnds (turnOf site job) D.idle) (h : Course site s c)
    (hopen : (c 0).Undisturbed D Calm Inv []) (ht : Scene.Tells site c 0 n told) :
    (c n).Undisturbed D Calm Inv told := by
  induction ht with
  | start => exact hopen
  | step _ _ hp ih => exact ih.proceeds hD hsite hp
  | @rest n told _ hs ih =>
    have hmove := h.move n
    generalize c (n + 1) = d at hmove hs ⊢
    cases hmove with
    | step hstep => exact absurd hstep hs
    | stay => exact ih
    | @meanwhile w t fresh hw hn ha =>
      refine ih.same hD (fun q => Scene.at?_mk ha.jobs q) ?_ (congrArg Array.size ha.jobs)
        fun q hq => absurd hq (Scene.not_runs_of_current hw hn q)
      refine ⟨ha.tokens, ha.desk, ha.program, ha.programToken, fun k ending hk => ?_⟩
      rwa [State.ending?, ha.jobs]

end CryoRig.Rig
