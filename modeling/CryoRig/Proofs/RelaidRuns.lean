import CryoRig.Proofs.ScriptLayout

/-!
# Runs of a script in different layouts

What a program asks of the rig and of its site depends on the words of its script alone. Two runs of
the same script in different layouts, which get the same replies, do the same in the same order.
They differ in what they report, for the text of the script is reported, and in the numbers of the
lines: in the states they publish and in the complaint they may end with.

## Main definitions

* `CryoRig.Control.Renumbered`: exchanges that differ in the number of a line only.
* `CryoRig.Control.SameDoings`: the same is done, apart from what is reported.
* `CryoRig.Control.Matches`: two pieces of work that do the same, whatever is replied.
* `CryoRig.Script.SameResult`: results that differ in the number of a line only.

## Main results

* `CryoRig.Control.Matches.exists_leads`: what one does the other can do.
* `CryoRig.Control.exists_underway_of_matches`: and so for loops, turn by turn.
* `CryoRig.Control.ProgramRun.matches_turn`: the turns of two runs match.
* `CryoRig.Control.ProgramRun.same_in_any_layout`: layout makes no difference.
-/

namespace CryoRig.Control

open Script Process ProgramRun

variable {N : Nat → Nat → Prop} {α β γ δ σ ε : Type}

/-! ## Doing the same -/

/-- Whether an exchange only reports something. -/
def isReport (e : Exchange WorkSurroundings) : Bool :=
  match (e.request : WorkRequest) with
  | .rig (.device (.log _)) => true
  | _ => false

/-- Exchanges that are the same, up to the number of the line that is begun. -/
inductive Renumbered (N : Nat → Nat → Prop) :
    Exchange WorkSurroundings → Exchange WorkSurroundings → Prop where
  /-- They are the same. -/
  | same (e : Exchange WorkSurroundings) : Renumbered N e e
  /-- A line is begun. -/
  | running {console n m : Nat} (h : N n m) :
    Renumbered N (stated console (.running n)) (stated console (.running m))

/-- What was asked and replied, without the reports. -/
def unreported (es : List (Exchange WorkSurroundings)) : List (Exchange WorkSurroundings) :=
  es.filter fun e => !isReport e

@[simp] lemma unreported_append (es es' : List (Exchange WorkSurroundings)) :
    unreported (es ++ es') = unreported es ++ unreported es' :=
  List.filter_append es es'

lemma unreported_cons (e : Exchange WorkSurroundings) (es : List (Exchange WorkSurroundings)) :
    unreported (e :: es) = if isReport e then unreported es else e :: unreported es := by
  cases h : isReport e <;> simp [unreported, h]

/-- The same was asked and replied, apart from the reports. -/
def SameDoings (N : Nat → Nat → Prop) (es es' : List (Exchange WorkSurroundings)) : Prop :=
  List.Forall₂ (Renumbered N) (unreported es) (unreported es')

/-- Two pieces of work that do the same, whatever is replied, and end with results that are
related. Either may report something on its own. -/
inductive Matches (N : Nat → Nat → Prop) (R : α → β → Prop) : Working α → Working β → Prop where
  /-- Both are done. -/
  | done {a : α} {b : β} (h : R a b) : Matches N R (.done a) (.done b)
  /-- Both ask for the same. -/
  | ask {r : WorkRequest} {p : r.Reply → Working α} {q : r.Reply → Working β}
    (h : ∀ reply, Matches N R (p reply) (q reply)) :
    Matches N R (.ask (I := WorkSurroundings) r p) (.ask (I := WorkSurroundings) r q)
  /-- Both begin a line. -/
  | running {console n m : Nat} {p : Unit → Working α} {q : Unit → Working β} (hn : N n m)
    (h : Matches N R (p ()) (q ())) :
    Matches N R (.ask (I := WorkSurroundings) (.rig (.publish console (.running n))) p)
      (.ask (I := WorkSurroundings) (.rig (.publish console (.running m))) q)
  /-- The first one reports something. -/
  | left {event : Event} {p : Unit → Working α} {q : Working β} (h : Matches N R (p ()) q) :
    Matches N R (.ask (I := WorkSurroundings) (.rig (.device (.log event))) p) q
  /-- The second one reports something. -/
  | right {event : Event} {p : Working α} {q : Unit → Working β} (h : Matches N R p (q ())) :
    Matches N R p (.ask (I := WorkSurroundings) (.rig (.device (.log event))) q)

namespace Matches

variable {R : α → β → Prop} {S : γ → δ → Prop} {p p' : Working α} {q : Working β}
  {f : α → Working γ} {g : β → Working δ}

/-- Every piece of work does the same as itself. -/
lemma refl_of {Q : α → Prop} {p : Working α} (h : ∀ es a, p.Ends es a → Q a) :
    Matches N (fun a b => a = b ∧ Q a) p p := by
  induction p with
  | done a => exact .done ⟨rfl, h [] a (.refl _)⟩
  | ask r next ih => exact .ask fun reply => ih reply fun es a he => h _ a (.step he)

lemma mono {R' : α → β → Prop} (h : Matches N R p q) (hR : ∀ a b, R a b → R' a b) :
    Matches N R' p q := by
  induction h with
  | done h => exact .done (hR _ _ h)
  | ask _ ih => exact .ask ih
  | running hn _ ih => exact .running hn ih
  | left _ ih => exact .left ih
  | right _ ih => exact .right ih

lemma refl (p : Working α) : Matches N Eq p p :=
  (refl_of (Q := fun _ => True) fun _ _ _ => trivial).mono fun _ _ h => h.1

/-- Work in sequence. -/
lemma bind (h : Matches N R p q) (hf : ∀ a b, R a b → Matches N S (f a) (g b)) :
    Matches N S (p >>= f) (q >>= g) := by
  change Matches N S (p.bind f) (q.bind g)
  induction h with
  | done h => exact hf _ _ h
  | ask _ ih => exact .ask ih
  | running hn _ ih => exact .running hn ih
  | left _ ih => exact .left ih
  | right _ ih => exact .right ih

/-- Reports make no difference. -/
lemma logAll_bind_left {f : Unit → Working α} (events : List Event) (h : Matches N R (f ()) q) :
    Matches N R (logAll events >>= f) q := by
  induction events with
  | nil => exact h
  | cons event events ih => exact .left ih

lemma logAll_bind_right {g : Unit → Working β} (events : List Event) (h : Matches N R p (g ())) :
    Matches N R p (logAll events >>= g) := by
  induction events with
  | nil => exact h
  | cons event events ih => exact .right ih

/-- Work that cannot fail, followed by work that may. -/
lemma run_lift_bind {κ : Type} {f : α → ExceptT κ Working γ} {g : β → ExceptT κ Working δ}
    {S : Except κ γ → Except κ δ → Prop} (h : Matches N R p q)
    (hf : ∀ a b, R a b → Matches N S (f a).run (g b).run) :
    Matches N S (liftM p >>= f).run (liftM q >>= g).run := by
  rw [Process.run_lift_bind, Process.run_lift_bind]
  exact h.bind hf

lemma run_logAll_bind {κ : Type} {f : Unit → ExceptT κ Working γ} {g : Unit → ExceptT κ Working δ}
    {S : Except κ γ → Except κ δ → Prop} (events events' : List Event)
    (h : Matches N S (f ()).run (g ()).run) :
    Matches N S (liftM (logAll events) >>= f).run (liftM (logAll events') >>= g).run := by
  rw [Process.run_lift_bind, Process.run_lift_bind]
  exact logAll_bind_left events (logAll_bind_right events' h)

/-- What one piece of work does, the other can do if it gets the same replies.

**Proof sketch.** Induction on the match. Where both ask, the second one gets the reply that the
first one got. A report of the second one is done before, and one of the first one leaves the
second where it is. -/
theorem exists_leads {es : List (Exchange WorkSurroundings)} (h : Matches N R p q)
    (hl : p.Leads es p') :
    ∃ es' q', q.Leads es' q' ∧ Matches N R p' q' ∧ SameDoings N es es' := by
  induction h generalizing es with
  | done h =>
    obtain ⟨rfl, rfl⟩ := leads_done_iff.1 hl
    exact ⟨[], _, .refl _, .done h, .nil⟩
  | @ask r p q h ih =>
    rcases leads_ask_iff.1 hl with ⟨rfl, rfl⟩ | ⟨reply, rest, rfl, hnext⟩
    · exact ⟨[], _, .refl _, .ask h, .nil⟩
    · obtain ⟨es', q', hq, hm, hsame⟩ := ih reply hnext
      refine ⟨⟨r, reply⟩ :: es', q', .step hq, hm, ?_⟩
      rw [SameDoings, unreported_cons, unreported_cons]
      split
      · exact hsame
      · exact .cons (.same _) hsame
  | @running console n m p q hn h ih =>
    rcases leads_ask_iff.1 hl with ⟨rfl, rfl⟩ | ⟨⟨⟩, rest, rfl, hnext⟩
    · exact ⟨[], _, .refl _, .running hn h, .nil⟩
    · obtain ⟨es', q', hq, hm, hsame⟩ := ih hnext
      exact ⟨stated console (.running m) :: es', q', .step hq, hm, .cons (.running hn) hsame⟩
  | left h ih =>
    rcases leads_ask_iff.1 hl with ⟨rfl, rfl⟩ | ⟨⟨⟩, rest, rfl, hnext⟩
    · exact ⟨[], _, .refl _, .left h, .nil⟩
    · obtain ⟨es', q', hq, hm, hsame⟩ := ih hnext
      exact ⟨es', q', hq, hm, hsame⟩
  | @right event p q h ih =>
    obtain ⟨es', q', hq, hm, hsame⟩ := ih hl
    exact ⟨reported event :: es', q', .step hq, hm, hsame⟩

/-- Where the first one is done, the second one only has to report something. -/
lemma exists_ends_of_done {a : α} (h : Matches N R (.done a) q) :
    ∃ es b, q.Ends es b ∧ R a b ∧ unreported es = [] := by
  generalize hp : Process.done a = p at h
  induction h with
  | done h =>
    cases hp
    exact ⟨[], _, .refl _, h, rfl⟩
  | ask | running | left => cases hp
  | @right event p q h ih =>
    obtain ⟨es, b, hq, hab, hnone⟩ := ih hp
    exact ⟨reported event :: es, b, .step hq, hab, hnone⟩

lemma exists_ends {es : List (Exchange WorkSurroundings)} {a : α} (h : Matches N R p q)
    (he : p.Ends es a) : ∃ es' b, q.Ends es' b ∧ R a b ∧ SameDoings N es es' := by
  obtain ⟨es₁, q', hq, hm, hsame⟩ := h.exists_leads he
  obtain ⟨es₂, b, hq', hab, hnone⟩ := hm.exists_ends_of_done
  refine ⟨es₁ ++ es₂, b, hq.trans hq', hab, ?_⟩
  rwa [SameDoings, unreported_append, hnone, List.append_nil]

end Matches

lemma SameDoings.append {es₁ es₂ es₁' es₂' : List (Exchange WorkSurroundings)}
    (h₁ : SameDoings N es₁ es₁') (h₂ : SameDoings N es₂ es₂') :
    SameDoings N (es₁ ++ es₂) (es₁' ++ es₂') := by
  rw [SameDoings, unreported_append, unreported_append]
  exact List.rel_append h₁ h₂

/-! ## Loops -/

/-- Two turns end alike: both loops go on from states that are related, or both are over. -/
inductive SameTurn (S : σ → σ → Prop) (R : ε → ε → Prop) : Turn σ ε → Turn σ ε → Prop where
  /-- Both go on. -/
  | again {s t : σ} (h : S s t) : SameTurn S R (.again s) (.again t)
  /-- Both are over. -/
  | over {a b : ε} (h : R a b) : SameTurn S R (.over a) (.over b)

section Loops

variable {S : σ → σ → Prop} {R : ε → ε → Prop} {turn : σ → Working (Turn σ ε)} {s t : σ}

/-- Loops whose turns match go through as many turns, and do the same in them. -/
lemma exists_rounds_of_matches {turns : List (σ × List (Exchange WorkSurroundings))}
    {result : Turn σ ε}
    (hturn : ∀ s t, S s t → Matches N (SameTurn S R) (turn s) (turn t)) (hs : S s t)
    (h : Rounds turn s turns result) :
    ∃ turns' result', Rounds turn t turns' result' ∧ SameTurn S R result result' ∧
      SameDoings N (exchanges turns) (exchanges turns') := by
  induction h with
  | start => exact ⟨[], _, .start, .again hs, .nil⟩
  | next h ht ih =>
    obtain ⟨turns', result', hrounds, hresult, hsame⟩ := ih
    cases hresult with
    | again hs' =>
      obtain ⟨es', b, hends, hb, hsame'⟩ := (hturn _ _ hs').exists_ends ht
      refine ⟨_, b, .next hrounds hends, hb, ?_⟩
      simpa using hsame.append hsame'

/-- What one loop does up to somewhere in a turn, the other can do. -/
lemma exists_underway_of_matches {es : List (Exchange WorkSurroundings)}
    {rest : Working (Turn σ ε)}
    (hturn : ∀ s t, S s t → Matches N (SameTurn S R) (turn s) (turn t)) (hs : S s t)
    (h : Underway turn s es rest) :
    ∃ es' rest', Underway turn t es' rest' ∧ Matches N (SameTurn S R) rest rest' ∧
      SameDoings N es es' := by
  obtain ⟨turns, s', es', hrounds, hlead, rfl⟩ := h
  obtain ⟨turns', result', hrounds', hresult, hsame⟩ := exists_rounds_of_matches hturn hs hrounds
  cases hresult with
  | again hs' =>
    obtain ⟨es'', rest', hlead', hm, hsame'⟩ := (hturn _ _ hs').exists_leads hlead
    exact ⟨_, rest', ⟨turns', _, es'', hrounds', hlead', rfl⟩, hm, hsame.append hsame'⟩

end Loops

end CryoRig.Control

namespace CryoRig.Script

variable {N : Nat → Nat → Prop} {α ε : Type} {k l : Line} {ks ls : List Line} {c : RunConfig}
  {sum : Float} {s s' : Script}

/-! ## Checking -/

/-- Results that are the same, up to what is said of a fault. -/
inductive SameResult (E : ε → ε → Prop) : Except ε α → Except ε α → Prop where
  /-- The same success. -/
  | ok (a : α) : SameResult E (.ok a) (.ok a)
  /-- Faults that are related. -/
  | error {e e' : ε} (h : E e e') : SameResult E (.error e) (.error e')

/-- Complaints about two lines are the same. -/
structure SameComplaint (N : Nat → Nat → Prop) (f f' : LineFault) : Prop where
  /-- They have the same reason and the same usage. -/
  complaint_eq : f.complaint = f'.complaint
  /-- The numbers of the lines are related. -/
  line : N f.line f'.line

/-- Two lines ask for the same. -/
structure Line.Alike (N : Nat → Nat → Prop) (k l : Line) : Prop where
  /-- They have the same words. -/
  words_eq : k.words = l.words
  /-- Their numbers are related. -/
  number : N k.number l.number

lemma Line.Alike.plan (h : Line.Alike N k l) (c : RunConfig) :
    SameResult (SameComplaint N) (k.plan c) (l.plan c) := by
  obtain ⟨hoperation, harguments⟩ := List.cons.inj h.words_eq
  rw [Line.plan_eq, Line.plan_eq, hoperation, harguments]
  cases Command.read l.operation l.arguments >>= Script.plan c with
  | ok step => exact .ok step
  | error complaint => exact .error ⟨rfl, h.number⟩

/-- A check of lines that ask for the same ends in the same way. -/
lemma rehearse_of_alike (h : List.Forall₂ (Line.Alike N) ks ls) :
    SameResult (SameComplaint N) (rehearse c sum ks).2 (rehearse c sum ls).2 := by
  induction h generalizing c sum with
  | nil => exact .ok sum
  | @cons k l ks ls h _ ih =>
    rw [rehearse, rehearse]
    have hplan := h.plan c
    generalize k.plan c = planned at hplan
    generalize l.plan c = planned' at hplan
    cases hplan with
    | ok step => exact ih
    | error h => exact .error h

/-- Programs with the same words ask for the same, line by line. -/
lemma alike_of_words_eq (h : s.program.map Line.words = s'.program.map Line.words) :
    List.Forall₂ (Line.Alike (SameCommand s s')) s.program s'.program := by
  have hwords : List.Forall₂ (fun k l : Line => k.words = l.words) s.program s'.program := by
    rw [← List.forall₂_eq_eq_eq, List.forall₂_map_left_iff, List.forall₂_map_right_iff] at h
    exact h
  refine List.forall₂_iff_zip.2 ⟨hwords.length_eq, fun {k l} hkl => ⟨?_, ?_⟩⟩
  · exact (List.forall₂_iff_zip.1 hwords).2 hkl
  · rw [SameCommand, ← map_number_program, ← map_number_program, List.zip_map]
    exact List.mem_map_of_mem hkl

end CryoRig.Script

namespace CryoRig.Control

open Script Process

variable {N : Nat → Nat → Prop} {I : Interface} {site : Site I} {s s' : Script}

/-- Faults that are the same, up to the number of the line a complaint is about. -/
inductive SameFault (N : Nat → Nat → Prop) : Fault → Fault → Prop where
  /-- Both are complaints about a line. -/
  | line {f f' : LineFault} (h : SameComplaint N f f') : SameFault N (.line f) (.line f')
  /-- Neither is. -/
  | same {fault : Fault} (h : fault.isLine = false) : SameFault N fault fault

namespace ProgramRun

/-! ## Running -/

/-- Two runs have come equally far: they differ in the numbers of their lines, and before the first
line in the texts that they are about to report. -/
inductive Abreast (N : Nat → Nat → Prop) (r : ProgramRun) : ProgramRun → Prop where
  /-- Neither has begun its first line. -/
  | opening {announcements announcements' : List Event} {line : Nat} {lines : List Line}
    (hphase : r.phase = .opening announcements)
    (hlines : List.Forall₂ (Line.Alike N) r.lines lines) :
    Abreast N r { r with phase := .opening announcements', line := line, lines := lines }
  /-- They are at the same place. -/
  | same {line : Nat} {lines : List Line} (hlines : List.Forall₂ (Line.Alike N) r.lines lines) :
    Abreast N r { r with line := line, lines := lines }

/-- Two runs end with results that are the same up to the number of a line. -/
inductive SameEnding (N : Nat → Nat → Prop) : Ending → Ending → Prop where
  /-- These are the results. -/
  | program {result result' : Except Fault Float} (h : SameResult (SameFault N) result result') :
    SameEnding N (.program result) (.program result')

/-- Two turns of programs end alike. -/
abbrev SameStep (N : Nat → Nat → Prop) : Turn ProgramRun Ending → Turn ProgramRun Ending → Prop :=
  SameTurn (Abreast N) (SameEnding N)

section Turns

variable {r : ProgramRun} {line : Nat} {lines : List Line}

/-- The same is given twice, and it is no complaint about a line. -/
def SameOffScript {α : Type} (a b : Except Fault α) : Prop :=
  a = b ∧ ∀ fault, a = .error fault → OffScript fault

lemma matches_of_failsOnly {α : Type} {x : Risky α} (h : FailsOnly OffScript x) :
    Matches N SameOffScript x.run x.run := by
  refine .refl_of fun es a he => ?_
  rintro fault rfl
  exact h es fault he

lemma matches_stopInSlot (console : Nat) (limit : Duration) (n m : Nat) :
    Matches N Eq (stopInSlot console limit n) (stopInSlot console limit m) := by
  refine .ask fun a? => .ask fun _ => ?_
  cases a? with
  | none => exact .left (.right (.done rfl))
  | some a => exact .refl _

/-- What is done for a line does not depend on its number. -/
lemma matches_perform (conduct : Conduct) (n m : Nat) (deed : Deed) :
    Matches N SameOffScript (perform site conduct n deed).run
      (perform site conduct m deed).run := by
  have hoff : FailsOnly OffScript (perform site conduct n deed) := perform_offScript conduct n deed
  cases deed with
  | stop =>
    rw [perform, perform, run_lift_bind, run_lift_bind]
    refine (matches_stopInSlot _ _ n m).bind fun _ _ _ => .done ⟨rfl, ?_⟩
    rintro fault ⟨⟩
  | nothing | start | wait | waitFor | act => exact matches_of_failsOnly hoff

lemma matches_abort {fault fault' : Fault} (hf : SameFault N fault fault') :
    Matches N (SameStep N) (r.abort fault)
      (abort { r with line := line, lines := lines } fault') :=
  .left (.right (.ask fun _ => .done (.over (.program (.error hf)))))

lemma matches_pauseFor {span : Duration} (hlines : List.Forall₂ (Line.Alike N) r.lines lines) :
    Matches N (SameStep N) (r.pauseFor span)
      (pauseFor { r with line := line, lines := lines } span) := by
  refine .ask fun passed => ?_
  cases passed with
  | true => exact .done (.again (.same hlines))
  | false => exact .done (.again (.same hlines))

lemma matches_begin {k l : Line} {ks ls : List Line} (hkl : Line.Alike N k l)
    (hrest : List.Forall₂ (Line.Alike N) ks ls) :
    Matches N (SameStep N) (r.begin site k ks)
      (begin site { r with line := line, lines := lines } l ls) := by
  have hplan := hkl.plan r.config
  unfold ProgramRun.begin
  dsimp only
  refine .running hkl.number (.left (.right ?_))
  generalize k.plan r.config = planned at hplan
  generalize l.plan r.config = planned' at hplan
  cases hplan with
  | error hf => exact matches_abort (.line hf)
  | ok step =>
    refine Matches.logAll_bind_left _ (Matches.logAll_bind_right _ ?_)
    refine (matches_perform r.conduct k.number l.number step.deed).bind fun a b hab => ?_
    obtain ⟨rfl, hoff⟩ := hab
    cases a with
    | error fault => exact matches_abort (.same (hoff fault rfl))
    | ok phase => exact .done (.again (.same hrest))

/-- The turns of two runs that have come equally far match. -/
theorem matches_turn {r' : ProgramRun} (h : Abreast N r r') :
    Matches N (SameStep N) (turn site r) (turn site r') := by
  obtain ⟨conduct, token, phase, number, left, config, sum⟩ := r
  cases h with
  | opening hphase hlines =>
    obtain rfl : phase = _ := hphase
    exact Matches.logAll_bind_left _ (Matches.logAll_bind_right _ (.done (.again (.same hlines))))
  | @same line lines hlines =>
    cases phase with
    | opening announcements =>
      refine Matches.logAll_bind_left _ (Matches.logAll_bind_right _ ?_)
      exact .done (.again (.same hlines))
    | between =>
      cases hlines with
      | nil =>
        refine .ask fun isFired => ?_
        cases isFired with
        | true => exact .left (.right (.ask fun _ => .done (.over (.program (.ok sum)))))
        | false => exact .left (.right (.ask fun _ => .done (.over (.program (.ok sum)))))
      | cons hkl hrest =>
        refine .ask fun isFired => ?_
        cases isFired with
        | true => exact .left (.right (.ask fun _ => .done (.over (.program (.ok sum)))))
        | false => exact matches_begin hkl hrest
    | sleeping until? =>
      refine Matches.bind (.refl now) fun t t' ht => ?_
      obtain rfl : t = t' := ht
      dsimp only
      generalize (match until? with
        | some moment => moment.since t
        | none => conduct.poll) = left
      split_ifs with hzero
      · exact .done (.again (.same hlines))
      · refine .ask fun isFired => ?_
        cases isFired with
        | true => exact .done (.again (.same hlines))
        | false => exact matches_pauseFor hlines
    | settling what =>
      refine (matches_of_failsOnly (underWay_offScript what)).bind fun a b hab => ?_
      obtain ⟨rfl, hoff⟩ := hab
      match a with
      | .error fault => exact matches_abort (.same (hoff fault rfl))
      | .ok false => exact .done (.again (.same hlines))
      | .ok true => exact matches_pauseFor hlines

end Turns

/-! ## Whole runs -/

section Runs

variable {source source' : String} {conduct : Conduct} {token : Nat}

/-- Two runs begin equally far. -/
lemma abreast_start (h : s.program.map Line.words = s'.program.map Line.words) :
    Abreast (SameCommand s s') (start conduct token s) (start conduct token s') :=
  .opening rfl (alike_of_words_eq h)

/-- Two checks do the same, and end alike. -/
lemma matches_checkScript (console : Nat)
    (h : s.program.map Line.words = s'.program.map Line.words) :
    Matches (SameCommand s s') (SameResult (SameFault (SameCommand s s')))
      (checkScript console s).run (checkScript console s').run := by
  have hresult : SameResult (SameComplaint (SameCommand s s')) (rehearse .empty 0 s.program).2
      (rehearse .empty 0 s'.program).2 := rehearse_of_alike (alike_of_words_eq h)
  unfold checkScript
  refine Matches.run_lift_bind (.refl _) fun previous previous' hprevious => ?_
  subst hprevious
  refine Matches.run_lift_bind (.refl _) fun _ _ _ => ?_
  refine Matches.run_logAll_bind _ _ (Matches.run_logAll_bind _ _ ?_)
  generalize (rehearse .empty 0 s.program).2 = result at hresult
  generalize (rehearse .empty 0 s'.program).2 = result' at hresult
  cases hresult with
  | ok seconds => exact .ask fun _ => .done (.ok seconds)
  | error hf => exact .ask fun _ => .done (.error (.line hf))

/-- What a run returns in one layout, it returns in the other. -/
lemma exists_returns_of_words_eq {es : List (Exchange WorkSurroundings)}
    {result : Except Fault Float} (h : s.program.map Line.words = s'.program.map Line.words)
    (hr : Returns site conduct token s es result) :
    ∃ es' result', Returns site conduct token s' es' result' ∧
      SameDoings (SameCommand s s') es es' ∧
      SameResult (SameFault (SameCommand s s')) result result' := by
  obtain ⟨es₁, rest, ⟨turns, r, es₂, hrounds, hlead, rfl⟩, hm, hsame⟩ :=
    exists_underway_of_matches (fun _ _ => matches_turn) (abreast_start h) hr
  obtain ⟨es₃, ending, hends, hending, hnone⟩ := hm.exists_ends_of_done
  cases hending with
  | _ hending =>
    obtain ⟨hresult⟩ := hending
    refine ⟨exchanges turns ++ (es₂ ++ es₃), _,
      ⟨turns, r, es₂ ++ es₃, hrounds, hlead.trans hends, rfl⟩, ?_, hresult⟩
    rwa [← List.append_assoc, SameDoings, unreported_append, hnone, List.append_nil]

/-- **Layout makes no difference.** Let a script be written in two layouts. Its lines that are not
blank have the same words, one by one. The estimate is the same, and a complaint has the same reason
and the same usage and is about the same command. Whatever a check or a run does in one layout, it
does in the other if it gets the same replies: the same requests, of actions, jobs and all else, in
the same order, up to the number in the state that is published when a line is begun, which is that
of the same command. It ends with the same result, or with the same fault on the line of the same
command.

A script that is put together of lines holds just these, without the blanks around them. -/
theorem same_in_any_layout :
    (∀ source source', Text.Relaid source source' →
      let s := load source
      let s' := load source'
      s.program.map Line.words = s'.program.map Line.words ∧
      SameResult (SameComplaint (SameCommand s s')) (estimate s) (estimate s') ∧
      (∀ console ds checked, (checkScript console s).run.Ends ds checked →
        ∃ ds' checked', (checkScript console s').run.Ends ds' checked' ∧
          SameDoings (SameCommand s s') ds ds' ∧
          SameResult (SameFault (SameCommand s s')) checked checked') ∧
      ∀ (I : Interface) (site : Site I) (conduct : Conduct) (token : Nat),
        (∀ es rest, Underway (turn site) (start conduct token s) es rest →
          ∃ es' rest', Underway (turn site) (start conduct token s') es' rest' ∧
            SameDoings (SameCommand s s') es es') ∧
        ∀ es result, Returns site conduct token s es result →
          ∃ es' result', Returns site conduct token s' es' result' ∧
            SameDoings (SameCommand s s') es es' ∧
            SameResult (SameFault (SameCommand s s')) result result') ∧
    ∀ texts : List String, (∀ text ∈ texts, '\n' ∉ text.toList) →
      (load (String.join (texts.map (· ++ "\n")))).lines = texts.map Text.trim := by
  refine ⟨fun source source' h => ?_, fun texts => lines_load_join⟩
  have hwords := words_program_of_relaid h
  refine ⟨hwords, rehearse_of_alike (alike_of_words_eq hwords), fun console ds checked hends => ?_,
    fun I site conduct token => ⟨fun es rest hrun => ?_, fun es result hr => ?_⟩⟩
  · obtain ⟨ds', checked', hends', hchecked, hsame⟩ :=
      (matches_checkScript console hwords).exists_ends hends
    exact ⟨ds', checked', hends', hsame, hchecked⟩
  · obtain ⟨es', rest', hrun', -, hsame⟩ :=
      exists_underway_of_matches (fun _ _ => matches_turn) (abreast_start hwords) hrun
    exact ⟨es', rest', hrun', hsame⟩
  · exact exists_returns_of_words_eq hwords hr

/-- The script that is refused on its second line, with more room. -/
def looseHalt : String := "\n stop\r\n\nhalt"

lemma relaid_looseHalt : Text.Relaid "stop\nhalt" looseHalt := by
  have hnone : Text.Blanks [] := nofun
  have hspace : Text.Blanks [' '] := by
    intro c hc
    obtain rfl := List.mem_singleton.1 hc
    decide
  have hfirst : Text.Relaid "stop\nhalt" "\nstop\nhalt" :=
    .rel _ _ (@Text.Inserted.blankLine [] [] "stop\nhalt".toList nofun hnone)
  have hstart : ∀ c ∈ ['\n'].getLast?, Text.isBlank c = true := by
    rintro c ⟨⟩
    rfl
  have hblank : Text.Relaid "\nstop\nhalt" "\n stop\nhalt" :=
    .rel _ _ (@Text.Inserted.blanks ['\n'] [' '] "stop\nhalt".toList (.inl hstart) hspace)
  have hend : Text.Relaid "\n stop\nhalt" "\n stop\r\nhalt" :=
    .rel _ _ (.lineEnd "\n stop".toList "halt".toList)
  have hline : ∀ c ∈ "\n stop\r\n".toList.getLast?, c = '\n' := by
    rintro c ⟨⟩
    rfl
  have hthird : Text.Relaid "\n stop\r\nhalt" looseHalt :=
    .rel _ _ (@Text.Inserted.blankLine "\n stop\r\n".toList [] "halt".toList hline hnone)
  exact ((hfirst.trans _ _ _ hblank).trans _ _ _ hend).trans _ _ _ hthird

/-- In the loose layout the command that is refused stands on the fourth line. -/
theorem same_in_any_layout_looseHalt :
    Text.Relaid "stop\nhalt" looseHalt ∧
    estimate (load looseHalt) = .error ⟨4, .unknownCommand "halt", .list⟩ ∧
    (∀ (site : Site RigSurroundings) (conduct : Conduct) (token : Nat),
      ∃ es, Returns site conduct token (load looseHalt) es
        (.error (.line ⟨4, .unknownCommand "halt", .list⟩))) ∧
    (load " stop\n\t\r\n").lines = ["stop", ""] := by
  have hload : load "stop\nhalt" = haltScript := by decide +kernel
  have hlines : haltScript.nonBlank.zip (load looseHalt).nonBlank = [(1, 2), (2, 4)] := by
    decide +kernel
  have hfault {f : LineFault}
      (h : SameComplaint (SameCommand haltScript (load looseHalt)) haltFault f) :
      f = ⟨4, .unknownCommand "halt", .list⟩ := by
    obtain ⟨line, complaint⟩ := f
    obtain ⟨rfl, hline⟩ := h
    rw [SameCommand, hlines] at hline
    simpa [haltFault] using hline
  obtain ⟨hlayout, hjoin⟩ := same_in_any_layout
  obtain ⟨-, hestimate, -, hruns⟩ := hlayout _ _ relaid_looseHalt
  simp only [hload] at hestimate hruns
  refine ⟨relaid_looseHalt, ?_, fun site conduct token => ?_, ?_⟩
  · rw [show estimate haltScript = .error haltFault from rfl] at hestimate
    generalize estimate (load looseHalt) = result at hestimate
    cases hestimate with
    | error h => rw [hfault h]
  · obtain ⟨es, hr⟩ : ∃ es, Returns site conduct token haltScript es (.error (.line haltFault)) :=
      exists_returns_halt
    obtain ⟨es', result', hr', -, hresult⟩ := (hruns _ site conduct token).2 es _ hr
    cases hresult with
    | error h =>
      cases h with
      | line h => exact ⟨es', hfault h ▸ hr'⟩
      | same h => cases h
  · exact hjoin [" stop", "\t\r"] (by decide)

end Runs

end ProgramRun

end CryoRig.Control
