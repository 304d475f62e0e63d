import CryoRig.Proofs.StopRig

/-!
# A loop in company

A loop runs on a rig beside others. It goes on until it asks for something that is not there yet, or
has the site do something; then it waits, and meanwhile the others may change the rig. What they may
change is a relation between rigs, and what is stated of a loop holds for everything they may do.

When the alarm of a pause has rung, the pause may be over even if its token was fired meanwhile.

## Main definitions

* `CryoRig.Control.WorkRequest.Waits`: a request whose reply may not be there yet.
* `CryoRig.Rig.Standing`: work, whether it goes on or waits, and the rig.
* `CryoRig.Rig.Standing.Move`: what may happen next.
* `CryoRig.Rig.Lives`: what may have happened to a loop, with the number of turns that it has begun
  and what was asked and replied.

## Main results

* `CryoRig.Rig.Standing.Move.rig_cases`: all that can happen to the rig.
* `CryoRig.Rig.Lives.path`: a loop in company goes through its turns one after the other.
* `CryoRig.Rig.Lives.prompt`, `CryoRig.Rig.Lives.of_leads`: what is answered at once is gone through
  without giving way to others.
-/

namespace CryoRig.Control

/-- Work may have to wait for the reply to a request. -/
def WorkRequest.Waits : WorkRequest → Prop
  | .rig r => Rig.MayWait r
  | .act _ => True

end CryoRig.Control

namespace CryoRig.Rig

open Control Process

/-! ## Tokens -/

section Tokens

variable {s t : State} {p : Party} {alarm : Option Nat} {r : Request} {reply : r.Reply}

lemma tokens_enter (s : State) (p : Party) (r : Request) : (s.enter p r).2.tokens = s.tokens := by
  unfold State.enter
  split <;> first | rfl | (unfold State.send; split <;> rfl)

/-- Answering a request changes no token, makes a new one or fires one. -/
lemma tokens_of_answer? (h : s.answer? p alarm r = some (reply, t)) :
    t.tokens = s.tokens ∨ t.tokens = s.tokens.push false ∨
      ∃ token, t.tokens = s.tokens.setIfInBounds token true := by
  by_cases hr : r.Plain
  · exact .inl (alike_of_plain hr h).tokens
  cases r with
  | newToken =>
    cases h
    exact .inr (.inl rfl)
  | fire token =>
    cases h
    exact .inr (.inr ⟨token, rfl⟩)
  | leaveDesk =>
    cases h
    exact .inl (alike_wakeParty _ _).tokens
  | join | tryDesk | takeDesk =>
    simp only [State.answer?] at h
    repeat' split at h
    all_goals cases h
    all_goals exact .inl rfl
  | device | create | append | pause | bench | clock | calendar | fired | present =>
    exact absurd trivial hr
  | _ =>
    cases h
    exact .inl rfl

/-- A token that was fired stays so, whatever is asked. -/
lemma isFired_of_answer? {token : Nat} (h : s.answer? p alarm r = some (reply, t))
    (hs : s.isFired token = true) : t.isFired token = true := by
  have hlt : token < s.tokens.size := by
    refine Nat.lt_of_not_le fun hge => ?_
    simp [State.isFired, hge] at hs
  rcases tokens_of_answer? h with ht | ht | ⟨other, ht⟩
  · rwa [State.isFired, ht]
  · rw [State.isFired, ht, Array.getElem?_push, if_neg (Nat.ne_of_lt hlt)]
    exact hs
  · rw [State.isFired, ht, Array.getElem?_setIfInBounds]
    by_cases hother : other = token
    · subst hother
      rw [if_pos rfl, if_pos hlt]
      rfl
    · rw [if_neg hother]
      exact hs

end Tokens

/-! ## Looks -/

section Looks

variable {s t u : State} {p : Party} {alarm : Option Nat} {r : Request} {reply : r.Reply}

/-- A request that looks at what is running, or reports or publishes something. -/
def Looks : WorkRequest → Prop
  | .rig (.device (.log _)) | .rig (.publish ..) | .rig (.fired _) | .rig (.slot _)
  | .rig (.ended _) => True
  | _ => False

lemma Looks.not_mayWait (h : Looks (.rig r)) : ¬MayWait r := by
  cases r with
  | device r => cases r <;> first | exact id | exact h.elim
  | _ => first | exact id | exact h.elim

lemma enter_of_not_mayWait (hr : ¬MayWait r) (s : State) (p : Party) :
    s.enter p r = (none, s) := by
  cases r with
  | device r => cases r <;> first | rfl | exact absurd trivial hr
  | pause | join | takeDesk => exact absurd trivial hr
  | _ => rfl

/-- What is looked at is as it was. -/
structure Steady (s t : State) : Prop where
  /-- Which tokens were fired. -/
  tokens : t.tokens = s.tokens
  /-- The jobs. -/
  jobs : t.jobs = s.jobs
  /-- The acquisitions in the slots. -/
  slot : ∀ κ, (t.console κ).slot = (s.console κ).slot

lemma Steady.refl (s : State) : Steady s s := ⟨rfl, rfl, fun _ => rfl⟩

lemma Steady.trans (h : Steady s t) (h' : Steady t u) : Steady s u :=
  ⟨h'.tokens.trans h.tokens, h'.jobs.trans h.jobs, fun κ => (h'.slot κ).trans (h.slot κ)⟩

lemma Looks.steady (hr : Looks (.rig r)) (h : s.answer? p alarm r = some (reply, t)) :
    Steady s t := by
  cases r with
  | device r =>
    cases r with
    | log =>
      cases h
      exact ⟨rfl, rfl, fun _ => rfl⟩
    | _ => exact hr.elim
  | publish number state =>
    cases h
    refine ⟨rfl, rfl, fun κ => ?_⟩
    rw [State.console_setConsole]
    split
    · next hκ => rw [hκ]
    · rfl
  | fired | slot | ended =>
    cases h
    exact .refl s
  | _ => exact hr.elim

/-- A look, a report or a publication, with the reply that a rig gives at once. -/
def Prompt (s : State) : Exchange WorkSurroundings → Prop
  | ⟨WorkRequest.rig (.device (.log _)), _⟩ | ⟨WorkRequest.rig (.publish ..), _⟩ => True
  | ⟨WorkRequest.rig (.fired token), (isFired : Bool)⟩ => isFired = s.isFired token
  | ⟨WorkRequest.rig (.slot κ), (a? : Option Acquisition)⟩ => a? = (s.console κ).slot
  | ⟨WorkRequest.rig (.ended job), (hasEnded : Bool)⟩ => hasEnded = (s.ending? job).isSome
  | _ => False

lemma Prompt.looks {e : Exchange WorkSurroundings} (h : Prompt s e) : Looks e.request := by
  obtain ⟨q, reply⟩ := e
  cases q with
  | act => exact h.elim
  | rig r =>
    cases r with
    | device r => cases r <;> trivial
    | _ => trivial

lemma Prompt.answer? (h : Prompt s ⟨.rig r, reply⟩) (p : Party) :
    ∃ t, s.answer? p none r = some (reply, t) := by
  cases r with
  | device r => cases r <;> first | exact ⟨_, rfl⟩ | exact h.elim
  | publish => exact ⟨_, rfl⟩
  | fired token =>
    obtain rfl : reply = s.isFired token := h
    exact ⟨s, rfl⟩
  | slot κ =>
    obtain rfl : reply = (s.console κ).slot := h
    exact ⟨s, rfl⟩
  | ended job =>
    obtain rfl : reply = (s.ending? job).isSome := h
    exact ⟨s, rfl⟩
  | _ => exact h.elim

lemma Prompt.of_steady {e : Exchange WorkSurroundings} (h : Prompt s e) (hs : Steady s t) :
    Prompt t e := by
  obtain ⟨q, reply⟩ := e
  cases q with
  | act => exact h.elim
  | rig r =>
    cases r with
    | device r => cases r <;> trivial
    | publish => trivial
    | fired token =>
      have hreply : reply = s.isFired token := h
      exact hreply.trans (by rw [State.isFired, State.isFired, hs.tokens])
    | slot κ =>
      have hreply : reply = (s.console κ).slot := h
      exact hreply.trans (hs.slot κ).symm
    | ended job =>
      have hreply : reply = (s.ending? job).isSome := h
      exact hreply.trans (by rw [State.ending?, State.ending?, hs.jobs])
    | _ => exact h.elim

end Looks

/-! ## Standings -/

/-- Whether work goes on, or waits for a reply until an alarm rings at the latest. -/
inductive Pace where
  | going
  | waiting (alarm : Option Nat)

/-- Work on a rig. -/
structure Standing (α : Type) where
  /-- What is left of the work. -/
  work : Working α
  /-- Whether it goes on. -/
  pace : Pace
  /-- The rig. -/
  rig : State

namespace Standing

variable {α : Type}

/-- The work gives way to others. -/
def Rests (X : Standing α) : Prop := X.pace ≠ .going ∨ ∃ a, X.work = .done a

/-- What may happen next, with what is asked and replied thereby. -/
inductive Move (p : Party) (others : State → State → Prop) :
    Standing α → List (Exchange WorkSurroundings) → Standing α → Prop where
  /-- The reply to a request is there. -/
  | answered {r : Request} {next : r.Reply → Working α} {s t : State} {reply : r.Reply}
      (h : (s.enter p r).2.answer? p (s.enter p r).1 r = some (reply, t)) :
      Move p others ⟨.ask (.rig r) next, .going, s⟩ [⟨.rig r, reply⟩] ⟨next reply, .going, t⟩
  /-- It is not there yet. -/
  | waits {r : Request} {next : r.Reply → Working α} {s : State}
      (h : (s.enter p r).2.answer? p (s.enter p r).1 r = none) :
      Move p others ⟨.ask (.rig r) next, .going, s⟩ []
        ⟨.ask (.rig r) next, .waiting (s.enter p r).1,
          { (s.enter p r).2 with waits := (s.enter p r).2.waits + 1 }⟩
  /-- The reply has come. -/
  | resumes {r : Request} {next : r.Reply → Working α} {s t : State} {alarm : Option Nat}
      {reply : r.Reply} (h : s.answer? p alarm r = some (reply, t)) :
      Move p others ⟨.ask (.rig r) next, .waiting alarm, s⟩ [⟨.rig r, reply⟩]
        ⟨next reply, .going, t⟩
  /-- The alarm of a pause has rung. -/
  | rings {token : Nat} {span : Duration} {next : Bool → Working α} {s : State}
      {alarm : Option Nat} (h : s.rung alarm = true) :
      Move p others ⟨.ask (.rig (.pause token span)) next, .waiting alarm, s⟩
        [⟨WorkRequest.rig (.pause token span), true⟩] ⟨next true, .going, s⟩
  /-- The site is to do something. -/
  | acts {a : Action} {next : a.Outcome → Working α} {s : State} :
      Move p others ⟨.ask (.act a) next, .going, s⟩ [] ⟨.ask (.act a) next, .waiting none, s⟩
  /-- The site has done it, or failed. -/
  | acted {a : Action} {next : a.Outcome → Working α} {s : State} {alarm : Option Nat}
      (outcome : a.Outcome) :
      Move p others ⟨.ask (.act a) next, .waiting alarm, s⟩ [⟨.act a, outcome⟩]
        ⟨next outcome, .going, s⟩
  /-- The others do something. -/
  | others {X : Standing α} {t : State} (hX : X.Rests) (h : others X.rig t) :
      Move p others X [] { X with rig := t }

variable {p : Party} {others : State → State → Prop} {X Y : Standing α}
  {es : List (Exchange WorkSurroundings)}

/-- All that can happen to the rig: the others do something, or nothing happens to it, or a request
is made, or a reply is there. -/
lemma Move.rig_cases {P : List (Exchange WorkSurroundings) → State → Prop}
    (h : X.Move p others es Y) (hothers : ∀ t, others X.rig t → P [] t) (hsame : P [] X.rig)
    (henter : ∀ r, P [] { (X.rig.enter p r).2 with waits := (X.rig.enter p r).2.waits + 1 })
    (hact : ∀ (a : Action) (outcome : a.Outcome), P [⟨WorkRequest.act a, outcome⟩] X.rig)
    (hring : ∀ token span, P [⟨WorkRequest.rig (.pause token span), true⟩] X.rig)
    (hreply : ∀ (r : Request) (s : State) (alarm : Option Nat) (reply : r.Reply) (t : State),
      s = X.rig ∨ s = (X.rig.enter p r).2 → s.answer? p alarm r = some (reply, t) →
      P [⟨WorkRequest.rig r, reply⟩] t) : P es Y.rig := by
  cases h with
  | answered h => exact hreply _ _ _ _ _ (.inr rfl) h
  | waits => exact henter _
  | resumes h => exact hreply _ _ _ _ _ (.inl rfl) h
  | rings => exact hring _ _
  | acts => exact hsame
  | acted outcome => exact hact _ outcome
  | others _ h => exact hothers _ h

/-- Whatever happens, the work goes down one of its paths. -/
lemma Move.leads (h : X.Move p others es Y) : X.work.Leads es Y.work := by
  cases h with
  | answered | resumes | rings | acted => exact .step (.refl _)
  | waits | acts | others => exact .refl _

end Standing

/-- A loop has begun so many turns and has come from one standing to another one by what was asked
and replied. -/
inductive Lives {σ ε : Type} (p : Party) (others : State → State → Prop)
    (turn : σ → Working (Turn σ ε)) (X : Standing (Turn σ ε)) :
    Nat → List (Exchange WorkSurroundings) → Standing (Turn σ ε) → Prop where
  /-- Nothing has happened. -/
  | refl : Lives p others turn X 0 [] X
  /-- Something has happened. -/
  | move {n : Nat} {es es' : List (Exchange WorkSurroundings)} {Y Z : Standing (Turn σ ε)}
      (h : Lives p others turn X n es Y) (hm : Y.Move p others es' Z) :
      Lives p others turn X n (es ++ es') Z
  /-- A turn is begun. -/
  | turn {n : Nat} {es : List (Exchange WorkSurroundings)} {s : σ} {pace : Pace} {rig : State}
      (h : Lives p others turn X n es ⟨.done (.again s), pace, rig⟩) :
      Lives p others turn X (n + 1) es ⟨turn s, .going, rig⟩

section Lives

variable {σ ε : Type} {p : Party} {others : State → State → Prop} {turn : σ → Working (Turn σ ε)}
  {X Y Z : Standing (Turn σ ε)} {m n : Nat} {es es' : List (Exchange WorkSurroundings)} {s : σ}

/-- What has happened before, and what has happened after. -/
lemma Lives.trans (h : Lives p others turn X m es Y) (h' : Lives p others turn Y n es' Z) :
    Lives p others turn X (m + n) (es ++ es') Z := by
  induction h' with
  | refl => simpa using h
  | move _ hm ih =>
    rw [← List.append_assoc]
    exact ih.move hm
  | turn _ ih => exact ih.turn

/-- What is left of the turn that a loop is in is gone through first; then it goes through whole
turns, until the one that it is in now. -/
theorem Lives.path (h : Lives p others turn X n es Y) :
    (n = 0 ∧ X.work.Leads es Y.work) ∨
      ∃ es₁ s turns t es₂, X.work.Ends es₁ (.again s) ∧ Rounds turn s turns (.again t) ∧
        (turn t).Leads es₂ Y.work ∧ turns.length + 1 = n ∧ es = es₁ ++ exchanges turns ++ es₂ := by
  induction h with
  | refl => exact .inl ⟨rfl, .refl _⟩
  | move _ hm ih =>
    rcases ih with ⟨rfl, hl⟩ | ⟨es₁, s, turns, t, es₂, h₁, hr, h₂, hn, rfl⟩
    · exact .inl ⟨rfl, hl.trans hm.leads⟩
    · refine .inr ⟨es₁, s, turns, t, _, h₁, hr, h₂.trans hm.leads, hn, ?_⟩
      simp
  | turn _ ih =>
    rcases ih with ⟨rfl, hl⟩ | ⟨es₁, s, turns, t, es₂, h₁, hr, h₂, hn, rfl⟩
    · exact .inr ⟨_, _, [], _, [], hl, .start, .refl _, rfl, by simp⟩
    · refine .inr ⟨es₁, s, turns ++ [(t, es₂)], _, [], h₁, hr.next h₂, .refl _, ?_, ?_⟩
      · simp [← hn]
      · simp

/-- A loop that has begun a turn is in the middle of one. -/
theorem Lives.underway (h : Lives p others turn X n es Y) (hX : X.work = .done (.again s)) :
    (n = 0 ∧ es = [] ∧ Y.work = .done (.again s)) ∨ Underway turn s es Y.work := by
  rcases h.path with ⟨hn, hl⟩ | ⟨es₁, s', turns, t, es₂, h₁, hr, h₂, -, rfl⟩
  · rw [hX] at hl
    exact .inl ⟨hn, leads_done_iff.1 hl⟩
  · rw [hX] at h₁
    obtain ⟨rfl, he⟩ := ends_done_iff.1 h₁
    cases he
    exact .inr ⟨turns, t, es₂, hr, h₂, by simp⟩

/-- A loop that has begun one turn is in that one. -/
lemma Lives.leads (h : Lives p others turn X 1 es Y) (hX : X.work = .done (.again s)) :
    (turn s).Leads es Y.work := by
  rcases h.path with ⟨hn, -⟩ | ⟨es₁, s', turns, t, es₂, h₁, hr, h₂, hn, rfl⟩
  · cases hn
  · rw [hX] at h₁
    obtain ⟨rfl, he⟩ := ends_done_iff.1 h₁
    cases he
    obtain rfl := List.eq_nil_of_length_eq_zero (Nat.succ.inj hn)
    cases hr.eq_of_nil
    exact h₂

/-- A request whose reply is there is answered at once. -/
lemma Lives.prompt {r : Request} {next : r.Reply → Working (Turn σ ε)} {a b : State}
    {reply : r.Reply}
    (h : Lives p others turn ⟨.ask (.rig r) next, .going, a⟩ n es Y)
    (ha : (a.enter p r).2.answer? p (a.enter p r).1 r = some (reply, b)) :
    (n = 0 ∧ es = [] ∧ Y = ⟨.ask (.rig r) next, .going, a⟩) ∨
      ∃ es', es = ⟨.rig r, reply⟩ :: es' ∧
        Lives p others turn ⟨next reply, .going, b⟩ n es' Y := by
  induction h with
  | refl => exact .inl ⟨rfl, rfl, rfl⟩
  | move _ hm ih =>
    rcases ih with ⟨rfl, rfl, rfl⟩ | ⟨es', rfl, hl⟩
    · right
      cases hm with
      | answered h =>
        rw [h] at ha
        cases ha
        exact ⟨[], rfl, .refl⟩
      | waits h =>
        rw [h] at ha
        cases ha
      | others hX =>
        rcases hX with hX | ⟨_, hX⟩
        · exact absurd rfl hX
        · cases hX
    · exact .inr ⟨_, rfl, hl.move hm⟩
  | turn _ ih =>
    rcases ih with ⟨-, -, h⟩ | ⟨es', rfl, hl⟩
    · cases h
    · exact .inr ⟨es', rfl, hl.turn⟩

/-- A loop that waits has asked for something that may not be there yet. -/
lemma Lives.waits (h : Lives p others turn X n es Y) (hX : ∃ t, X.work = .done t)
    (hY : Y.Rests) :
    (∃ t, Y.work = .done t) ∨ ∃ (q : WorkRequest) (next : q.Reply → Working (Turn σ ε)),
      Y.work = .ask q next ∧ q.Waits := by
  refine hY.elim (fun hpace => ?_) .inl
  clear hY
  induction h with
  | refl => exact .inl hX
  | move _ hm ih =>
    cases hm with
    | waits h => exact .inr ⟨_, _, rfl, mayWait_of_answer?_eq_none h⟩
    | acts => exact .inr ⟨_, _, rfl, trivial⟩
    | others => exact ih hpace
    | answered | resumes | rings | acted => exact absurd rfl hpace
  | turn => exact absurd rfl hpace

/-- Work that is answered at once is gone through without giving way to others. -/
lemma Lives.of_leads {w w' : Working (Turn σ ε)} {s : State} (h : w.Leads es w')
    (hes : ∀ e ∈ es, Prompt s e) :
    ∃ t, Steady s t ∧ Lives p others turn ⟨w, .going, s⟩ 0 es ⟨w', .going, t⟩ := by
  induction h generalizing s with
  | refl => exact ⟨s, .refl s, .refl⟩
  | @step q next reply es w' h ih =>
    obtain ⟨he, hrest⟩ := List.forall_mem_cons.1 hes
    cases q with
    | act => exact he.elim
    | rig r =>
      obtain ⟨t, ht⟩ := he.answer? p
      have hs : Steady s t := he.looks.steady ht
      obtain ⟨u, hu, hl⟩ := ih fun e he' => (hrest e he').of_steady hs
      have hmove : Standing.Move p others ⟨.ask (.rig r) next, .going, s⟩ [⟨.rig r, reply⟩]
          ⟨next reply, .going, t⟩ :=
        .answered (by rwa [enter_of_not_mayWait he.looks.not_mayWait])
      have hl' := (Lives.refl.move hmove).trans hl
      exact ⟨u, hs.trans hu, by simpa using hl'⟩

end Lives

end CryoRig.Rig
