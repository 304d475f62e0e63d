import CryoRig.Proofs.Company

/-!
# Work that relies on the others

While work waits, the others may change the rig, but only in ways that the work relies on. What
holds of the rig and of everything that was asked and replied is then shown along the work itself:
each request is followed by its reply, possibly after the others have changed the rig.

## Main definitions

* `CryoRig.Rig.Answered`: how a request may be answered, and the rig after it.
* `CryoRig.Rig.Meets`: work keeps to what is to hold while it goes on, while it waits, and at its
  end.
* `CryoRig.Rig.Reliance`: what changes of the rig can be relied on.

## Main results

* `CryoRig.Rig.Meets.bind`, `CryoRig.Rig.Meets.mono`: the rules for work in sequence, and for what
  is weaker.
* `CryoRig.Rig.Lives.meets`: a loop whose turns keep to it keeps to it in company.
-/

namespace CryoRig.Rig

open Control Process

variable {α β : Type} {p : Party} {G : State → State → Prop}

/-- How a request may be answered, and the rig after it, if meanwhile the others only do what is
relied on. -/
inductive Answered (p : Party) (G : State → State → Prop) (s : State) :
    (q : WorkRequest) → q.Reply → State → Prop where
  /-- The reply is there. -/
  | prompt {r : Request} {reply : r.Reply} {t : State}
      (h : (s.enter p r).2.answer? p (s.enter p r).1 r = some (reply, t)) :
      Answered p G s (.rig r) reply t
  /-- The reply comes later. -/
  | late {r : Request} {reply : r.Reply} {t u : State} {alarm : Option Nat} (hr : MayWait r)
      (ht : G s t) (h : t.answer? p alarm r = some (reply, u)) : Answered p G s (.rig r) reply u
  /-- The alarm of a pause has rung. -/
  | rings {token : Nat} {span : Duration} {t : State} (ht : G s t) :
      Answered p G s (.rig (.pause token span)) true t
  /-- The site has done something, or failed. -/
  | acted {a : Action} {t : State} (outcome : a.Outcome) (ht : G s t) :
      Answered p G s (.act a) outcome t

/-- Work on a rig, after what was asked and replied before: `I` holds while it goes on, `J` while
it waits, and `Q` at its end. -/
def Meets (p : Party) (G : State → State → Prop)
    (I J : List (Exchange WorkSurroundings) → State → Prop)
    (Q : α → List (Exchange WorkSurroundings) → State → Prop) :
    Working α → List (Exchange WorkSurroundings) → State → Prop
  | .done a, es, s => Q a es s
  | .ask q next, es, s => I es s ∧ (q.Waits → ∀ t, G s t → J es t) ∧
      ∀ reply t, Answered p G s q reply t → Meets p G I J Q (next reply) (es ++ [⟨q, reply⟩]) t

section Rules

variable {I J : List (Exchange WorkSurroundings) → State → Prop}
  {Q R : α → List (Exchange WorkSurroundings) → State → Prop}
  {es : List (Exchange WorkSurroundings)} {s : State} {w : Working α}

lemma Meets.mono (h : Meets p G I J Q w es s) (hQ : ∀ a es t, Q a es t → R a es t) :
    Meets p G I J R w es s := by
  induction w generalizing es s with
  | done a => exact hQ a es s h
  | ask q next ih =>
    obtain ⟨hI, hJ, hnext⟩ := h
    exact ⟨hI, hJ, fun reply t ht => ih reply (hnext reply t ht)⟩

/-- Work in sequence: what the first part ends with is what the second part begins with. -/
lemma Meets.bind {Q : β → List (Exchange WorkSurroundings) → State → Prop} {w : Working β}
    {f : β → Working α} (h : Meets p G I J Q w es s)
    (hf : ∀ b es t, Q b es t → Meets p G I J R (f b) es t) :
    Meets p G I J R (w >>= f) es s := by
  change Meets p G I J R (w.bind f) es s
  induction w generalizing es s with
  | done b => exact hf b es s h
  | ask q next ih =>
    obtain ⟨hI, hJ, hnext⟩ := h
    exact ⟨hI, hJ, fun reply t ht => ih reply (hnext reply t ht)⟩

/-- Work that may fail, in sequence. -/
lemma Meets.run_bind {ε : Type}
    {Q : Except ε β → List (Exchange WorkSurroundings) → State → Prop}
    {R : Except ε α → List (Exchange WorkSurroundings) → State → Prop}
    {x : ExceptT ε Working β} {f : β → ExceptT ε Working α} (h : Meets p G I J Q x.run es s)
    (he : ∀ e es t, Q (.error e) es t → R (.error e) es t)
    (hf : ∀ b es t, Q (.ok b) es t → Meets p G I J R (f b).run es t) :
    Meets p G I J R (x >>= f).run es s := by
  rw [ExceptT.run_bind]
  refine h.bind fun result es t hQ => ?_
  cases result with
  | error e => exact he e es t hQ
  | ok b => exact hf b es t hQ

/-- Work that cannot fail, in sequence with work that may. -/
lemma Meets.lift_bind {ε : Type} {Q : β → List (Exchange WorkSurroundings) → State → Prop}
    {R : Except ε α → List (Exchange WorkSurroundings) → State → Prop} {w : Working β}
    {f : β → ExceptT ε Working α} (h : Meets p G I J Q w es s)
    (hf : ∀ b es t, Q b es t → Meets p G I J R (f b).run es t) :
    Meets p G I J R ((liftM w : ExceptT ε Working β) >>= f).run es s := by
  rw [run_lift_bind]
  exact h.bind hf

lemma Meets.lift {ε : Type} {R : Except ε α → List (Exchange WorkSurroundings) → State → Prop}
    (h : Meets p G I J Q w es s) (hR : ∀ a es t, Q a es t → R (.ok a) es t) :
    Meets p G I J R (liftM w : ExceptT ε Working α).run es s := by
  rw [ExceptT.run_liftM, map_eq_pure_bind]
  exact h.bind hR

/-- The end of work is the end of one of its paths. -/
lemma Meets.ends (h : Meets p G I J Q w es s) :
    Meets p G I J (fun a es' t => Q a es' t ∧ ∃ es₁, w.Ends es₁ a) w es s := by
  induction w generalizing es s with
  | done a => exact ⟨h, [], ends_done_iff.2 ⟨rfl, rfl⟩⟩
  | ask q next ih =>
    obtain ⟨hI, hJ, hnext⟩ := h
    refine ⟨hI, hJ, fun reply t ht => (ih reply (hnext reply t ht)).mono ?_⟩
    rintro a es' u ⟨hQ, es₁, hends⟩
    exact ⟨hQ, _, .step hends⟩

/-- A request that is answered at once. -/
lemma meets_ask {r : Request} {next : r.Reply → Working α} (hr : ¬MayWait r) (hI : I es s)
    (h : ∀ reply t, s.answer? p none r = some (reply, t) →
      Meets p G I J Q (next reply) (es ++ [⟨.rig r, reply⟩]) t) :
    Meets p G I J Q (.ask (.rig r) next) es s := by
  refine ⟨hI, fun hw => absurd hw hr, fun reply t ht => ?_⟩
  cases ht with
  | prompt hanswer =>
    rw [enter_of_not_mayWait hr] at hanswer
    exact h reply t hanswer
  | late hw => exact absurd hw hr
  | rings => exact absurd trivial hr

/-- Work that asks for nothing that matters: what is to hold outlasts its requests and their
replies. -/
lemma meets_of_yields {P : WorkRequest → Prop} {A : α → Prop}
    {K : State → State → Prop} (hw : w.Yields P A) (hK : ∀ q reply t u, P q → K s t →
      Answered p G t q reply u → K s u) (hrefl : K s s)
    (hI : ∀ es' t, (∀ e ∈ es', P e.request) → K s t → I (es ++ es') t)
    (hJ : ∀ q es' t u, P q → q.Waits → (∀ e ∈ es', P e.request) → K s t → G t u →
      J (es ++ es') u)
    (hQ : ∀ a es' t, A a → (∀ e ∈ es', P e.request) → K s t → Q a (es ++ es') t) :
    Meets p G I J Q w es s := by
  suffices h : ∀ es' t, (∀ e ∈ es', P e.request) → K s t → Meets p G I J Q w (es ++ es') t by
    simpa using h [] s (List.forall_mem_nil _) hrefl
  induction w with
  | done a => exact fun es' t hes' ht => hQ a es' t hw hes' ht
  | ask q next ih =>
    intro es' t hes' ht
    refine ⟨hI es' t hes' ht, fun hq u hu => hJ q es' t u hw.1 hq hes' ht hu,
      fun reply u hu => ?_⟩
    have hlast : ∀ e ∈ es' ++ [⟨q, reply⟩], P e.request :=
      List.forall_mem_append.2 ⟨hes', List.forall_mem_singleton.2 hw.1⟩
    simpa using ih reply (hw.2 reply) _ u hlast (hK q reply t u hw.1 ht hu)

end Rules

/-! ## Loops -/

/-- What changes of the rig can be relied on: none at all, one after the other, and that work begins
to wait. -/
structure Reliance (p : Party) (G : State → State → Prop) : Prop where
  refl : ∀ s, G s s
  trans : ∀ {s t u}, G s t → G t u → G s u
  enter : ∀ (s : State) (r : Request),
    G s { (s.enter p r).2 with waits := (s.enter p r).2.waits + 1 }

variable {σ ε : Type} {others : State → State → Prop} {turn : σ → Working (Turn σ ε)}
  {X Y : Standing (Turn σ ε)} {n : Nat} {es₀ es : List (Exchange WorkSurroundings)}
  {I J : List (Exchange WorkSurroundings) → State → Prop}
  {Q : Turn σ ε → List (Exchange WorkSurroundings) → State → Prop}

/-- Work keeps to what is to hold: as it stands, or, while it rests, before the others have changed
the rig. -/
inductive Standing.Keeps (p : Party) (G : State → State → Prop)
    (I J : List (Exchange WorkSurroundings) → State → Prop)
    (Q : α → List (Exchange WorkSurroundings) → State → Prop)
    (es : List (Exchange WorkSurroundings)) : Standing α → Prop where
  /-- It goes on. -/
  | going {w : Working α} {s : State} (h : Meets p G I J Q w es s) :
      Keeps p G I J Q es ⟨w, .going, s⟩
  /-- It waits. -/
  | waiting {q : WorkRequest} {next : q.Reply → Working α} {alarm : Option Nat} {s t : State}
      (h : Meets p G I J Q (.ask q next) es s) (hq : q.Waits) (ht : G s t) :
      Keeps p G I J Q es ⟨.ask q next, .waiting alarm, t⟩
  /-- It is at its end. -/
  | done {a : α} {pace : Pace} {s t : State} (h : Q a es s) (ht : G s t) :
      Keeps p G I J Q es ⟨.done a, pace, t⟩

/-- Whatever happens, work keeps to what is to hold. -/
lemma Standing.Keeps.move {Q : α → List (Exchange WorkSurroundings) → State → Prop}
    {X Y : Standing α} (hG : Reliance p G) (hothers : ∀ s t, others s t → G s t)
    (h : X.Keeps p G I J Q es₀) (hm : X.Move p others es Y) : Y.Keeps p G I J Q (es₀ ++ es) := by
  cases hm with
  | answered ha =>
    cases h with
    | going h => exact .going (h.2.2 _ _ (.prompt ha))
  | waits ha =>
    rw [List.append_nil]
    cases h with
    | going h => exact .waiting h (mayWait_of_answer?_eq_none ha) (hG.enter _ _)
  | resumes ha =>
    cases h with
    | waiting h hq ht => exact .going (h.2.2 _ _ (.late hq ht ha))
  | rings =>
    cases h with
    | waiting h _ ht => exact .going (h.2.2 _ _ (.rings ht))
  | acts =>
    rw [List.append_nil]
    cases h with
    | going h => exact .waiting h trivial (hG.refl _)
  | acted outcome =>
    cases h with
    | waiting h _ ht => exact .going (h.2.2 _ _ (.acted outcome ht))
  | others hrests ho =>
    rw [List.append_nil]
    cases h with
    | @going w s h =>
      cases w with
      | done a => exact .done h (hothers _ _ ho)
      | ask q next => rcases hrests with hpace | ⟨a, ha⟩ <;> contradiction
    | waiting h hq ht => exact .waiting h hq (hG.trans ht (hothers _ _ ho))
    | done h ht => exact .done h (hG.trans ht (hothers _ _ ho))

/-- A loop whose turns keep to what is to hold keeps to it in company.

**Proof sketch.** Induction on what happens. A turn is begun at the end of the one before, when the
others may have changed the rig; what holds at the end of a turn outlasts that. -/
theorem Lives.meets (hG : Reliance p G) (hothers : ∀ s t, others s t → G s t)
    (hQ : ∀ a es s t, Q a es s → G s t → Q a es t) (hX : X.Keeps p G I J Q es₀)
    (h : Lives p others turn X n es Y)
    (hturn : 0 < n → ∀ s es t, Q (.again s) es t → Meets p G I J Q (turn s) es t) :
    Y.Keeps p G I J Q (es₀ ++ es) := by
  induction h with
  | refl => rwa [List.append_nil]
  | move _ hm ih =>
    rw [← List.append_assoc]
    exact (ih hturn).move hG hothers hm
  | @turn n es s pace rig _ ih =>
    have hkeeps := ih fun _ => hturn (Nat.succ_pos _)
    have hend : Q (.again s) (es₀ ++ es) rig := by
      cases hkeeps with
      | going h => exact h
      | done h ht => exact hQ _ _ _ _ h ht
    exact .going (hturn (Nat.succ_pos _) s _ rig hend)

/-- What is left of a turn keeps to what is to hold until its end. -/
lemma Lives.meets_going {w : Working (Turn σ ε)} {s : State} (hG : Reliance p G)
    (hothers : ∀ s t, others s t → G s t) (hQ : ∀ a es s t, Q a es s → G s t → Q a es t)
    (hw : Meets p G I J Q w [] s) (h : Lives p others turn ⟨w, .going, s⟩ 0 es Y) :
    Y.Keeps p G I J Q es := by
  have hX : Standing.Keeps p G I J Q [] ⟨w, .going, s⟩ := .going hw
  exact Lives.meets hG hothers hQ hX h fun hn => absurd hn (Nat.lt_irrefl 0)

section Kept

variable {Q : α → List (Exchange WorkSurroundings) → State → Prop} {X : Standing α}
  {es : List (Exchange WorkSurroundings)} {K : State → Prop}

/-- What holds while work goes on, while it waits and at its end holds at every moment. -/
lemma Standing.Keeps.always (hG : Reliance p G) (h : X.Keeps p G I J Q es)
    (hI : ∀ s, I es s → K s) (hJ : ∀ s, J es s → K s)
    (hQ : ∀ a s t, Q a es s → G s t → K t) : K X.rig := by
  cases h with
  | @going w s h =>
    cases w with
    | done a => exact hQ a s s h (hG.refl s)
    | ask q next => exact hI s h.1
  | waiting h hq ht => exact hJ _ (h.2.1 hq _ ht)
  | done h ht => exact hQ _ _ _ h ht

/-- What holds while work waits and at its end holds whenever it gives way to others. -/
lemma Standing.Keeps.at_rest (hG : Reliance p G) (h : X.Keeps p G I J Q es) (hX : X.Rests)
    (hJ : ∀ s, J es s → K s) (hQ : ∀ a s t, Q a es s → G s t → K t) : K X.rig := by
  cases h with
  | @going w s h =>
    cases w with
    | done a => exact hQ a s s h (hG.refl s)
    | ask q next => rcases hX with hpace | ⟨a, ha⟩ <;> contradiction
  | waiting h hq ht => exact hJ _ (h.2.1 hq _ ht)
  | done h ht => exact hQ _ _ _ h ht

lemma Standing.Keeps.of_done {a : α} (hQ : ∀ s t, Q a es s → G s t → Q a es t)
    (h : X.Keeps p G I J Q es) (hX : X.work = .done a) : Q a es X.rig := by
  cases h with
  | going h =>
    cases hX
    exact h
  | waiting => cases hX
  | done h ht =>
    cases hX
    exact hQ _ _ h ht

end Kept

end CryoRig.Rig
