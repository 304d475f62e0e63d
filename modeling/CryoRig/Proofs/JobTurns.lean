import CryoRig.Proofs.Carried
import CryoRig.Proofs.Happenings

/-!
# The turns of a job

A job that is started in the background goes through its turns one after the other, whatever the
other parties do meanwhile. So what it is told from its start on is a path through its turns, and if
it has ended, a path to the end of them.

## Main definitions

* `CryoRig.Begun`: how far a loop has come with some exchanges.
* `CryoRig.Rig.Scene.Comes`: how far a job has come.

## Main results

* `CryoRig.Rig.exists_own_rounds`: the turns of a job are its own turns, carried out at the site.
* `CryoRig.Rig.Scene.Shift.split`: what happens before and after one reply.
* `CryoRig.Rig.Scene.Happens.spawned`: who is started begins with its first turn.
* `CryoRig.Rig.Scene.Happens.comes`, `CryoRig.Rig.Scene.Shift.rounds`: a job goes through its turns,
  and has ended only after the last.
-/

namespace CryoRig

open Process

/-- With these exchanges a loop is about to begin its first turn, or has come into a turn; `rest` is
what is left of it. -/
def Begun {I : Interface} {σ ε : Type} (turn : σ → Process I (Turn σ ε)) (s : σ)
    (es : List (Exchange I)) (rest : Process I (Turn σ ε)) : Prop :=
  (es = [] ∧ rest = .done (.again s)) ∨ Underway turn s es rest

section Begun

variable {I : Interface} {σ ε : Type} {turn : σ → Process I (Turn σ ε)} {s : σ}
  {es es' : List (Exchange I)} {rest rest' : Process I (Turn σ ε)}

lemma Begun.leads (h : Begun turn s es rest) (hl : rest.Leads es' rest') :
    Begun turn s (es ++ es') rest' := by
  rcases h with ⟨rfl, rfl⟩ | ⟨turns, t, during, hrounds, ht, rfl⟩
  · obtain ⟨rfl, rfl⟩ := leads_done_iff.1 hl
    exact .inl ⟨rfl, rfl⟩
  · exact .inr ⟨turns, t, during ++ es', hrounds, ht.trans hl, List.append_assoc ..⟩

/-- At the end of a turn a loop has gone through whole turns. -/
lemma Begun.rounds {result : Turn σ ε} (h : Begun turn s es (.done result)) :
    ∃ turns, Rounds turn s turns result ∧ es = exchanges turns := by
  rcases h with ⟨rfl, hs⟩ | ⟨turns, t, during, hrounds, ht, rfl⟩
  · cases hs
    exact ⟨[], .start, rfl⟩
  · exact ⟨turns ++ [(t, during)], hrounds.next ht, by simp⟩

/-- A loop that is over has come to the end of its last turn. -/
lemma begun_of_over {turns : List (σ × List (Exchange I))} {e : ε}
    (h : Rounds turn s turns (.over e)) : Begun turn s (exchanges turns) (.done (.over e)) := by
  cases h with
  | @next turns t es _ h ht => exact .inr ⟨turns, t, es, h, ht, by simp⟩

/-- And is about to begin the next one. -/
lemma Begun.again {t : σ} (h : Begun turn s es (.done (.again t))) : Begun turn s es (turn t) := by
  obtain ⟨turns, hrounds, rfl⟩ := h.rounds
  exact .inr ⟨turns, t, [], hrounds, .refl _, (List.append_nil _).symm⟩

/-- With some replies or other a loop comes to the end of the turn it is in. -/
lemma Begun.exists_rounds (h : Begun turn s es rest) (reply : (r : I.Request) → I.Reply r) :
    ∃ turns result, Rounds turn s turns result ∧
      exchanges turns = es ++ (rest.answered reply).1 := by
  obtain ⟨turns, hrounds, hes⟩ := (h.leads (ends_answered reply rest)).rounds
  exact ⟨turns, _, hrounds, hes.symm⟩

end Begun

namespace Rig

open Control

variable {α : Type} {site : Site RigSurroundings}

/-- The turns of a job on a rig are its own turns, carried out at the site. -/
lemma exists_own_rounds {σ : Type} {wrap : σ → Job} {turn : σ → Working (Turn σ Ending)}
    {s : σ} {turns : List (Job × List (Exchange RigSurroundings))} {result : Turn Job Ending}
    (hturn : ∀ t, turnOf site (wrap t) = carryOut site (mapTurn wrap <$> turn t))
    (h : Rounds (turnOf site) (wrap s) turns result) :
    ∃ own ended, Rounds turn s own ended ∧ result = mapTurn wrap ended ∧
      CarriedOut site (exchanges own) (exchanges turns) := by
  induction h with
  | start => exact ⟨[], .again s, .start, rfl, carriedOut_nil_iff.2 rfl⟩
  | @next turns job es result _ ht ih =>
    obtain ⟨own, ended, hrounds, hjob, hout⟩ := ih
    obtain ⟨t, rfl, rfl⟩ : ∃ t, ended = .again t ∧ job = wrap t := by
      cases ended with
      | again t => exact ⟨t, rfl, Turn.again.inj hjob⟩
      | _ => cases hjob
    rw [hturn] at ht
    obtain ⟨ws, hws, hwork⟩ := ends_carryOut_iff.1 ht
    obtain ⟨ended, hended, rfl⟩ := ends_map_iff.1 hwork
    refine ⟨_, _, hrounds.next hended, rfl, ?_⟩
    rw [exchanges_append, exchanges_append, exchanges_singleton, exchanges_singleton]
    exact carriedOut_append_iff.2 ⟨_, _, rfl, hout, hws⟩

/-- What one party was told in the midst of other things. -/
lemma exists_of_toldTo {ε : Type} {p : Party} {told : List (Party × ε)} {es es' : List ε} {e : ε}
    (h : toldTo p told = es ++ e :: es') :
    ∃ before after, told = before ++ (p, e) :: after ∧ toldTo p before = es := by
  induction told generalizing es with
  | nil => simp at h
  | cons x told ih =>
    obtain ⟨q, e₁⟩ := x
    by_cases hq : q = p
    · subst hq
      rw [toldTo_cons_self] at h
      cases es with
      | nil =>
        cases h
        exact ⟨[], told, rfl, rfl⟩
      | cons e₂ es =>
        rw [List.cons_append, List.cons.injEq] at h
        obtain ⟨rfl, hrest⟩ := h
        obtain ⟨before, after, rfl, hbefore⟩ := ih hrest
        exact ⟨(q, e₁) :: before, after, rfl, by rw [toldTo_cons_self, hbefore]⟩
    · rw [toldTo_cons_of_ne hq] at h
      obtain ⟨before, after, rfl, hbefore⟩ := ih h
      exact ⟨(q, e₁) :: before, after, rfl, by rw [toldTo_cons_of_ne hq, hbefore]⟩

namespace Scene

variable {c d : Scene α} {p : Party} {n : Nat} {told : List (Party × Exchange RigSurroundings)}

/-- What happens before and after somebody has a reply. -/
lemma Shift.split {before after : List (Party × Exchange RigSurroundings)}
    {x : Party × Exchange RigSurroundings} (h : Shift site c told d)
    (htold : told = before ++ x :: after) :
    ∃ e f asked, Shift site c before e ∧ Happens site e asked (some x) f ∧
      Shift site f after d := by
  induction h generalizing after with
  | start => simp at htold
  | @more told d e asked reply? hs hd ih =>
    cases reply? with
    | none =>
      rw [Option.toList_none, List.append_nil] at htold
      obtain ⟨e', f, asked', he, hf, hafter⟩ := ih htold
      refine ⟨e', f, asked', he, hf, ?_⟩
      simpa using hafter.more hd
    | some y =>
      rw [Option.toList_some] at htold
      rcases List.eq_nil_or_concat after with rfl | ⟨after, z, rfl⟩
      · obtain ⟨rfl, hy⟩ := List.append_inj' htold rfl
        cases hy
        exact ⟨_, _, _, hs, hd, .start⟩
      · have hlast : told ++ [y] = (before ++ x :: after) ++ [z] := by simpa using htold
        obtain ⟨hinit, hy⟩ := List.append_inj' hlast rfl
        cases hy
        obtain ⟨e', f, asked', he, hf, hafter⟩ := ih hinit
        exact ⟨e', f, asked', he, hf, by simpa using hafter.more hd⟩

/-- The work in the foreground goes down its path. -/
lemma Shift.leads_foreground (h : Shift site c told d) :
    c.foreground.work.Leads (toldTo .foreground told) d.foreground.work := by
  induction h with
  | start => exact .refl _
  | more _ hd ih =>
    rw [toldTo_append]
    rcases hd.leads_or_turnsOver (p := .foreground) rfl with ⟨y, hy, hl⟩ | ⟨n, hn, -⟩
    · cases hy
      exact ih.trans hl
    · cases hn

/-- Who is started is a new job, which is about to begin its first turn. -/
lemma Happens.spawned {asked : Option (Party × Request)} {job : Job}
    {number : (Request.spawn job).Reply}
    (h : Happens site c asked (some (p, ⟨.spawn job, number⟩)) d) :
    d.at? (.job number) = some (.running (.done (.again job))) := by
  have hborn {s t : State} {alarm : Option Nat} {x y : Foreground (p.Result α)}
      (hs : s.jobs = c.state.jobs) (ha : s.answer? p alarm (.spawn job) = some (number, t))
      (hp : c.at? p = some y) : (({ c with state := t } : Scene α).put p x).at? (.job number) =
        some (.running (.done (.again job))) := by
    cases ha
    have hne : Party.job s.jobs.size ≠ p := by
      rintro rfl
      exact absurd (hs ▸ lt_size_of_at? hp) (Nat.lt_irrefl _)
    rw [at?_put_of_ne hne, hs]
    exact at?_push_self rfl
  generalize hx : some (p, (⟨.spawn job, number⟩ : Exchange RigSurroundings)) = reply? at h
  cases h with
  | answer hp ha =>
    cases hx
    exact hborn (jobs_enter ..) ha hp
  | @resume _ w _ _ hp ha =>
    obtain ⟨request, next, alarm, rank⟩ := w
    cases hx
    exact hborn rfl ha hp
  | wait | turn | finish | meanwhile => cases hx

/-- A job that has ended stays at nothing, and is told nothing more. -/
lemma Happens.over {asked : Option (Party × Request)}
    {reply? : Option (Party × Exchange RigSurroundings)} (h : Happens site c asked reply? d)
    (hn : c.at? (.job n) = none) (hlt : n < c.state.jobs.size) :
    d.at? (.job n) = none ∧ n < d.state.jobs.size ∧ toldTo (.job n) reply?.toList = [] := by
  have hne {q : Party} {y : Foreground (q.Result α)} (hq : c.at? q = some y) : Party.job n ≠ q := by
    rintro rfl
    rw [hn] at hq
    cases hq
  have hreply {q : Party} {s t : State} {r : Request} {reply : r.Reply} {alarm : Option Nat}
      {x y : Foreground (q.Result α)} (hs : s.jobs = c.state.jobs)
      (ha : s.answer? q alarm r = some (reply, t)) (hq : c.at? q = some y) :
      (({ c with state := t } : Scene α).put q x).at? (.job n) = none ∧
        n < (({ c with state := t } : Scene α).put q x).state.jobs.size := by
    rw [at?_put_of_ne (hne hq), size_put]
    rcases jobs_of_answer? ha with ht | ⟨job, -, ht⟩
    · exact ⟨(at?_mk (ht.trans hs) _).trans hn, by rw [ht, hs]; exact hlt⟩
    · rw [hs] at ht
      refine ⟨(at?_push_of_ne ht ?_).trans hn, ?_⟩
      · rintro ⟨⟩
        exact absurd hlt (Nat.lt_irrefl _)
      · change n < t.jobs.size
        rw [ht, Array.size_push]
        exact Nat.lt_succ_of_lt hlt
  cases h with
  | answer hq ha =>
    obtain ⟨hat, hsize⟩ := hreply (jobs_enter ..) ha hq
    exact ⟨hat, hsize, toldTo_cons_of_ne (hne hq).symm⟩
  | resume hq ha =>
    obtain ⟨hat, hsize⟩ := hreply rfl ha hq
    exact ⟨hat, hsize, toldTo_cons_of_ne (hne hq).symm⟩
  | wait hq ha =>
    refine ⟨(at?_put_of_ne (hne hq)).trans ((at?_mk (jobs_enter ..) _).trans hn), ?_, rfl⟩
    rw [size_put, jobs_enter]
    exact hlt
  | turn hq =>
    refine ⟨(at?_put_of_ne (hne hq)).trans hn, ?_, rfl⟩
    rw [size_put]
    exact hlt
  | finish hq =>
    refine ⟨(at?_end_of_ne (hne hq)).trans hn, ?_, rfl⟩
    rw [(quiet_end hq _).size]
    exact hlt
  | meanwhile current fresh hs hj =>
    exact ⟨(at?_mk hj _).trans hn, by rw [hj]; exact hlt, rfl⟩

/-- How far a job has come with what it was told: it is about to begin its first turn, in the midst
of a turn, or at the end of the last one. -/
def Comes (site : Site RigSurroundings) (c : Scene α) (n : Nat) (job : Job)
    (es : List (Exchange RigSurroundings)) : Prop :=
  (∃ y, c.at? (.job n) = some y ∧ Begun (turnOf site) job es y.work) ∨
  ∃ turns ending, c.at? (.job n) = none ∧ n < c.state.jobs.size ∧
    Rounds (turnOf site) job turns (.over ending) ∧ es = exchanges turns

/-- A job comes as far as what it is told takes it. While it is at something it goes down the path
of its turn; at the end of a turn it begins the next one or ends; and when it has ended it is told
nothing more. -/
lemma Happens.comes {asked : Option (Party × Request)}
    {reply? : Option (Party × Exchange RigSurroundings)} {job : Job}
    {es : List (Exchange RigSurroundings)} (h : Happens site c asked reply? d)
    (hc : c.Comes site n job es) : d.Comes site n job (es ++ toldTo (.job n) reply?.toList) := by
  rcases hc with ⟨y, hy, hbegun⟩ | ⟨turns, ending, hnone, hlt, hrounds, hes⟩
  · rcases h.leads_or_turnsOver hy with
      ⟨z, hz, hl⟩ | ⟨k, hk, rfl, ⟨next, hnext, hz⟩ | ⟨ending, hover, hz, hsize⟩⟩
    · exact .inl ⟨z, hz, hbegun.leads hl⟩
    · cases hk
      cases hy.symm.trans hnext
      refine .inl ⟨_, hz, ?_⟩
      rw [Option.toList_none, toldTo_nil, List.append_nil]
      exact hbegun.again
    · cases hk
      cases hy.symm.trans hover
      obtain ⟨turns, hrounds, hes⟩ := hbegun.rounds
      refine .inr ⟨turns, ending, hz, hsize, hrounds, ?_⟩
      rw [Option.toList_none, toldTo_nil, List.append_nil, hes]
  · obtain ⟨hat, hsize, htold⟩ := h.over hnone hlt
    exact .inr ⟨turns, ending, hat, hsize, hrounds, by rw [htold, List.append_nil, hes]⟩

/-- **A job goes through its turns.** Whatever else happens, what a job is told from its start on is
a path through its turns, and it has ended only at the end of the last one. -/
theorem Shift.rounds {job : Job} (h : Shift site c told d)
    (hc : c.at? (.job n) = some (.running (.done (.again job)))) :
    (∃ y, d.at? (.job n) = some y ∧
      Begun (turnOf site) job (toldTo (.job n) told) y.work) ∨
    ∃ turns ending, d.at? (.job n) = none ∧ n < d.state.jobs.size ∧
      Rounds (turnOf site) job turns (.over ending) ∧ toldTo (.job n) told = exchanges turns := by
  change d.Comes site n job (toldTo (.job n) told)
  induction h with
  | start => exact .inl ⟨_, hc, .inl ⟨rfl, rfl⟩⟩
  | more _ hd ih =>
    rw [toldTo_append]
    exact hd.comes ih

end Scene

end Rig

end CryoRig
