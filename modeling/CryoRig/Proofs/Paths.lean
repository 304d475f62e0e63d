import Mathlib.Tactic.Lemma
import CryoRig.Process

/-!
# What a process may come to

A process is a tree of requests, and whatever its surroundings reply, it goes down one path of
that tree. A statement about every run of a process is a statement about every path. Nothing is
assumed of the replies, so it holds whatever the surroundings are, whoever else runs beside the
process and however long each reply takes.

A loop is a process for each turn. What it has been through is the list of its turns, each with
the state it began in and what was asked and replied during it.

## Main definitions

* `CryoRig.Exchange`: a request with its reply.
* `CryoRig.Process.Leads`, `CryoRig.Process.Ends`: what a process comes to by given exchanges.
* `CryoRig.Process.AsksOnly`: every request a process can come to has a property.
* `CryoRig.Process.Yields`: and so has every result.
* `CryoRig.Process.AtWaits`: what is left of a process has a property wherever it may have to wait.
* `CryoRig.Process.FailsOnly`, `CryoRig.Process.Gives`: every fault that work can end with has a
  property, and every result.
* `CryoRig.Rounds`, `CryoRig.Underway`: the turns of a loop, and a loop in the middle of one.

## Main results

* `CryoRig.Process.ends_bind_iff`: a path through two processes in sequence is a path through the
  first and a path through the second.
* `CryoRig.Process.AsksOnly.of_leads`: what holds of every request holds along every path.
-/

namespace CryoRig

/-- An element of two lists in sequence is in the second one or in the first one. -/
lemma append_eq_append_cons {α : Type} {as bs xs ys : List α} {y : α}
    (h : as ++ bs = xs ++ y :: ys) :
    (∃ zs, xs = as ++ zs ∧ bs = zs ++ y :: ys) ∨ ∃ zs, as = xs ++ y :: zs := by
  rcases List.append_eq_append_iff.1 h with ⟨zs, rfl, h'⟩ | ⟨zs, rfl, h'⟩
  · exact .inl ⟨zs, rfl, h'⟩
  · cases zs with
    | nil => exact .inl ⟨[], by simp, h'.symm⟩
    | cons z zs =>
      obtain ⟨rfl, -⟩ := List.cons.inj h'
      exact .inr ⟨zs, rfl⟩

/-- A request with the reply it got. -/
structure Exchange (I : Interface) where
  /-- What was asked. -/
  request : I.Request
  /-- What came back. -/
  reply : I.Reply request

namespace Process

variable {I : Interface} {α β ε : Type}

/-! ## Paths -/

/-- With these exchanges, one after the other, a process comes to another one. -/
inductive Leads : Process I α → List (Exchange I) → Process I α → Prop where
  /-- Nothing was asked yet. -/
  | refl (p : Process I α) : Leads p [] p
  /-- The first request got a reply, and so on. -/
  | step {r : I.Request} {next : I.Reply r → Process I α} {reply : I.Reply r}
      {es : List (Exchange I)} {q : Process I α} (h : Leads (next reply) es q) :
      Leads (ask r next) (⟨r, reply⟩ :: es) q

/-- With these exchanges a process ends with a result. -/
def Ends (p : Process I α) (es : List (Exchange I)) (a : α) : Prop := p.Leads es (done a)

@[simp] theorem leads_done_iff {a : α} {es : List (Exchange I)} {q : Process I α} :
    (done a).Leads es q ↔ es = [] ∧ q = done a := by
  constructor
  · intro h
    cases h
    exact ⟨rfl, rfl⟩
  · rintro ⟨rfl, rfl⟩
    exact .refl _

theorem leads_ask_iff {r : I.Request} {next : I.Reply r → Process I α} {es : List (Exchange I)}
    {q : Process I α} :
    (ask r next).Leads es q ↔ es = [] ∧ q = ask r next ∨
      ∃ reply rest, es = ⟨r, reply⟩ :: rest ∧ (next reply).Leads rest q := by
  constructor
  · intro h
    cases h with
    | refl => exact .inl ⟨rfl, rfl⟩
    | step h => exact .inr ⟨_, _, rfl, h⟩
  · rintro (⟨rfl, rfl⟩ | ⟨reply, rest, rfl, h⟩)
    · exact .refl _
    · exact .step h

@[simp] theorem ends_done_iff {a b : α} {es : List (Exchange I)} :
    (done a).Ends es b ↔ es = [] ∧ a = b := by
  simp [Ends, eq_comm]

@[simp] theorem ends_ask_iff {r : I.Request} {next : I.Reply r → Process I α}
    {es : List (Exchange I)} {a : α} :
    (ask r next).Ends es a ↔
      ∃ reply rest, es = ⟨r, reply⟩ :: rest ∧ (next reply).Ends rest a := by
  simp [Ends, leads_ask_iff]

/-- Once its first request got its reply, work goes on from there. -/
lemma ends_ask_cons_iff {r : I.Request} {next : I.Reply r → Process I α} {reply : I.Reply r}
    {es : List (Exchange I)} {a : α} :
    (ask r next).Ends (⟨r, reply⟩ :: es) a ↔ (next reply).Ends es a := by
  rw [ends_ask_iff]
  constructor
  · rintro ⟨_, _, heq, h⟩
    cases heq
    exact h
  · exact fun h => ⟨reply, es, rfl, h⟩

@[simp] theorem ends_pure_iff {a b : α} {es : List (Exchange I)} :
    (pure a : Process I α).Ends es b ↔ es = [] ∧ a = b := ends_done_iff

@[simp] theorem ends_request_iff {r : I.Request} {es : List (Exchange I)} {a : I.Reply r} :
    (request r).Ends es a ↔ es = [⟨r, a⟩] := by
  simp only [request, ends_ask_iff, ends_done_iff]
  constructor
  · rintro ⟨reply, rest, rfl, rfl, rfl⟩
    rfl
  · rintro rfl
    exact ⟨a, [], rfl, rfl, rfl⟩

/-- A path through two processes in sequence is a path through the first and a path through the
second. -/
theorem ends_bind_iff {p : Process I α} {f : α → Process I β} {es : List (Exchange I)} {b : β} :
    (p >>= f).Ends es b ↔ ∃ es₁ es₂ a, es = es₁ ++ es₂ ∧ p.Ends es₁ a ∧ (f a).Ends es₂ b := by
  change (p.bind f).Ends es b ↔ _
  induction p generalizing es with
  | done a =>
    simp only [Process.bind, ends_done_iff]
    constructor
    · exact fun h => ⟨[], es, a, rfl, ⟨rfl, rfl⟩, h⟩
    · rintro ⟨es₁, es₂, a', rfl, ⟨rfl, rfl⟩, h⟩
      exact h
  | ask r next ih =>
    simp only [Process.bind, ends_ask_iff]
    constructor
    · rintro ⟨reply, rest, rfl, h⟩
      obtain ⟨es₁, es₂, a, rfl, h₁, h₂⟩ := (ih reply).1 h
      exact ⟨⟨r, reply⟩ :: es₁, es₂, a, rfl, ⟨reply, es₁, rfl, h₁⟩, h₂⟩
    · rintro ⟨_, es₂, a, rfl, ⟨reply, es₁, rfl, h₁⟩, h₂⟩
      exact ⟨reply, es₁ ++ es₂, rfl, (ih reply).2 ⟨es₁, es₂, a, rfl, h₁, h₂⟩⟩

theorem ends_map_iff {p : Process I α} {f : α → β} {es : List (Exchange I)} {b : β} :
    (f <$> p).Ends es b ↔ ∃ a, p.Ends es a ∧ f a = b := by
  rw [← bind_pure_comp, ends_bind_iff]
  constructor
  · rintro ⟨es₁, es₂, a, rfl, h, h'⟩
    obtain ⟨rfl, rfl⟩ := ends_pure_iff.1 h'
    exact ⟨a, by simpa using h, rfl⟩
  · rintro ⟨a, h, rfl⟩
    exact ⟨es, [], a, by simp, h, by simp⟩

/-- What a process asks, and what comes of it, if every request gets a given reply. -/
def answered (reply : (r : I.Request) → I.Reply r) : Process I α → List (Exchange I) × α
  | done a => ([], a)
  | ask r next =>
    let (es, a) := (next (reply r)).answered reply
    (⟨r, reply r⟩ :: es, a)

lemma ends_answered (reply : (r : I.Request) → I.Reply r) (p : Process I α) :
    p.Ends (p.answered reply).1 (p.answered reply).2 := by
  induction p with
  | done a => exact .refl _
  | ask r next ih => exact .step (ih _)

lemma reply_of_mem_answered {reply : (r : I.Request) → I.Reply r} {p : Process I α}
    {e : Exchange I} (h : e ∈ (p.answered reply).1) : e.reply = reply e.request := by
  induction p with
  | done a => exact absurd h List.not_mem_nil
  | ask r next ih =>
    rcases List.mem_cons.1 h with rfl | h
    · rfl
    · exact ih _ h

/-- Two paths after each other. -/
theorem Leads.trans {p q r : Process I α} {es es' : List (Exchange I)} (h : p.Leads es q)
    (h' : q.Leads es' r) : p.Leads (es ++ es') r := by
  induction h with
  | refl => exact h'
  | step _ ih => exact .step (ih h')

lemma eq_of_leads_nil {p q : Process I α} (h : p.Leads [] q) : q = p := by
  cases h
  rfl

/-- Whoever has come somewhere was on the way there before. -/
lemma Leads.split {p q : Process I α} {es es' : List (Exchange I)} (h : p.Leads (es ++ es') q) :
    ∃ r, p.Leads es r ∧ r.Leads es' q := by
  induction es generalizing p with
  | nil => exact ⟨p, .refl p, h⟩
  | cons e es ih =>
    cases h with
    | step h =>
      obtain ⟨r, hr, hq⟩ := ih h
      exact ⟨r, .step hr, hq⟩

/-- Where the first part of work ends, the second one begins. -/
lemma Ends.leads_bind {p : Process I α} {es : List (Exchange I)} {a : α} (h : p.Ends es a)
    (f : α → Process I β) : (p >>= f).Leads es (f a) := by
  change (p.bind f).Leads es (f a)
  induction p generalizing es with
  | done b =>
    obtain ⟨rfl, rfl⟩ := ends_done_iff.1 h
    exact .refl _
  | ask r next ih =>
    obtain ⟨reply, rest, rfl, hnext⟩ := ends_ask_iff.1 h
    exact .step (ih reply hnext)

/-- Where the first part of work has ended, the second one has begun. -/
lemma leads_of_ends {p : Process I α} {f : α → Process I β} {q : Process I β}
    {es es' : List (Exchange I)} {a : α} (h : p.Ends es a)
    (hl : (p >>= f).Leads (es ++ es') q) : (f a).Leads es' q := by
  change (p.bind f).Leads (es ++ es') q at hl
  induction p generalizing es with
  | done b =>
    obtain ⟨rfl, rfl⟩ := ends_done_iff.1 h
    exact hl
  | ask r next ih =>
    obtain ⟨reply, rest, rfl, hnext⟩ := ends_ask_iff.1 h
    rcases leads_ask_iff.1 hl with ⟨he, -⟩ | ⟨reply', rest', he, hl'⟩
    · cases he
    · cases he
      exact ih reply hnext hl'

/-- Work in sequence is in its first part, or has gone through it. -/
lemma leads_bind_cases {p : Process I α} {f : α → Process I β} {q : Process I β}
    {es : List (Exchange I)} (h : (p >>= f).Leads es q) :
    (∃ p', p.Leads es p' ∧ q = p' >>= f) ∨
      ∃ es₁ es₂ a, es = es₁ ++ es₂ ∧ p.Ends es₁ a ∧ (f a).Leads es₂ q := by
  change (p.bind f).Leads es q at h
  induction p generalizing es with
  | done a => exact .inr ⟨[], es, a, rfl, .refl _, h⟩
  | ask r next ih =>
    rcases leads_ask_iff.1 h with ⟨rfl, rfl⟩ | ⟨reply, rest, rfl, hnext⟩
    · exact .inl ⟨ask r next, .refl _, rfl⟩
    · rcases ih reply hnext with ⟨p', hp, rfl⟩ | ⟨es₁, es₂, a, rfl, hend, hl⟩
      · exact .inl ⟨p', .step hp, rfl⟩
      · exact .inr ⟨⟨r, reply⟩ :: es₁, es₂, a, rfl, .step hend, hl⟩

/-- What is left of work whose result is changed in the end. -/
lemma exists_of_leads_map {p : Process I α} {f : α → β} {q : Process I β} {es : List (Exchange I)}
    (h : (f <$> p).Leads es q) : ∃ r, p.Leads es r ∧ q = f <$> r := by
  rw [← bind_pure_comp] at h
  rcases leads_bind_cases h with ⟨r, hr, rfl⟩ | ⟨es₁, es₂, a, rfl, hend, hl⟩
  · exact ⟨r, hr, bind_pure_comp f r⟩
  · obtain ⟨rfl, rfl⟩ := leads_done_iff.1 hl
    exact ⟨.done a, by rwa [List.append_nil], rfl⟩

/-! ## Work that may fail -/

/-- Work in sequence either fails in its first part or goes through it. -/
theorem ends_run_bind_iff {x : ExceptT ε (Process I) α} {f : α → ExceptT ε (Process I) β}
    {es : List (Exchange I)} {b : Except ε β} :
    (x >>= f).run.Ends es b ↔ (∃ e, x.run.Ends es (.error e) ∧ b = .error e) ∨
      ∃ es₁ es₂ a, es = es₁ ++ es₂ ∧ x.run.Ends es₁ (.ok a) ∧ (f a).run.Ends es₂ b := by
  rw [ExceptT.run_bind, ends_bind_iff]
  constructor
  · rintro ⟨es₁, es₂, a | a, rfl, h₁, h₂⟩
    · obtain ⟨rfl, rfl⟩ := ends_pure_iff.1 h₂
      exact .inl ⟨a, by simpa using h₁, rfl⟩
    · exact .inr ⟨es₁, es₂, a, rfl, h₁, h₂⟩
  · rintro (⟨e, h, rfl⟩ | ⟨es₁, es₂, a, rfl, h₁, h₂⟩)
    · exact ⟨es, [], .error e, by simp, h, by simp⟩
    · exact ⟨es₁, es₂, .ok a, rfl, h₁, h₂⟩

/-- Work that cannot fail ends well. -/
theorem ends_run_lift_iff {p : Process I α} {es : List (Exchange I)} {b : Except ε α} :
    (liftM p : ExceptT ε (Process I) α).run.Ends es b ↔ ∃ a, p.Ends es a ∧ b = .ok a := by
  rw [ExceptT.run_liftM, ends_map_iff]
  simp only [eq_comm]

/-- Work that cannot fail is gone through before what comes after it. -/
theorem ends_run_lift_bind_iff {p : Process I α} {f : α → ExceptT ε (Process I) β}
    {es : List (Exchange I)} {b : Except ε β} :
    ((liftM p : ExceptT ε (Process I) α) >>= f).run.Ends es b ↔
      ∃ es₁ es₂ a, es = es₁ ++ es₂ ∧ p.Ends es₁ a ∧ (f a).run.Ends es₂ b := by
  rw [ends_run_bind_iff]
  simp only [ends_run_lift_iff]
  constructor
  · rintro (⟨_, ⟨_, _, ⟨⟩⟩, _⟩ | ⟨es₁, es₂, a, rfl, ⟨_, h₁, ⟨⟩⟩, h₂⟩)
    exact ⟨es₁, es₂, a, rfl, h₁, h₂⟩
  · rintro ⟨es₁, es₂, a, rfl, h₁, h₂⟩
    exact .inr ⟨es₁, es₂, a, rfl, ⟨a, h₁, rfl⟩, h₂⟩

theorem ends_run_pure_iff {a : α} {es : List (Exchange I)} {b : Except ε α} :
    (pure a : ExceptT ε (Process I) α).run.Ends es b ↔ es = [] ∧ b = .ok a := by
  rw [ExceptT.run_pure, ends_pure_iff, eq_comm (b := b)]

theorem ends_run_throw_iff {e : ε} {es : List (Exchange I)} {b : Except ε α} :
    (throw e : ExceptT ε (Process I) α).run.Ends es b ↔ es = [] ∧ b = .error e := by
  rw [ExceptT.run_throw, ends_pure_iff, eq_comm (b := b)]

/-- Every fault that work can end with has a property. -/
def FailsOnly (F : ε → Prop) (x : ExceptT ε (Process I) α) : Prop :=
  ∀ es e, x.run.Ends es (.error e) → F e

section FailsOnly

variable {F : ε → Prop} {x : ExceptT ε (Process I) α} {f : α → ExceptT ε (Process I) β}

theorem failsOnly_pure (a : α) : FailsOnly F (pure a : ExceptT ε (Process I) α) := by
  intro es e h
  obtain ⟨-, h⟩ := ends_run_pure_iff.1 h
  cases h

theorem failsOnly_throw {e : ε} (he : F e) :
    FailsOnly F (throw e : ExceptT ε (Process I) α) := by
  intro es e' h
  obtain ⟨-, h⟩ := ends_run_throw_iff.1 h
  cases h
  exact he

theorem failsOnly_lift (p : Process I α) :
    FailsOnly F (liftM p : ExceptT ε (Process I) α) := by
  intro es e h
  obtain ⟨a, -, h⟩ := ends_run_lift_iff.1 h
  cases h

theorem FailsOnly.bind (hx : FailsOnly F x) (hf : ∀ a, FailsOnly F (f a)) :
    FailsOnly F (x >>= f) := by
  intro es e h
  rcases ends_run_bind_iff.1 h with ⟨_, h, ⟨⟩⟩ | ⟨es₁, es₂, a, rfl, -, h⟩
  · exact hx es e h
  · exact hf a es₂ e h

end FailsOnly

/-- Every result that work can succeed with has a property. -/
def Gives (Q : α → Prop) (x : ExceptT ε (Process I) α) : Prop :=
  ∀ es a, x.run.Ends es (.ok a) → Q a

section Gives

variable {Q : α → Prop} {R : β → Prop} {x : ExceptT ε (Process I) α}
  {f : α → ExceptT ε (Process I) β}

theorem gives_pure {a : α} (ha : Q a) : Gives Q (pure a : ExceptT ε (Process I) α) := by
  intro es b h
  obtain ⟨-, h⟩ := ends_run_pure_iff.1 h
  cases h
  exact ha

theorem gives_true (x : ExceptT ε (Process I) α) : Gives (fun _ => True) x :=
  fun _ _ _ => trivial

theorem Gives.bind (hx : Gives Q x) (hf : ∀ a, Q a → Gives R (f a)) : Gives R (x >>= f) := by
  intro es b h
  rcases ends_run_bind_iff.1 h with ⟨_, -, ⟨⟩⟩ | ⟨es₁, es₂, a, rfl, h₁, h₂⟩
  exact hf a (hx es₁ a h₁) es₂ b h₂

end Gives

/-! ## What may be asked -/

/-- Every request that a process can come to has a property. -/
def AsksOnly (P : I.Request → Prop) : Process I α → Prop
  | done _ => True
  | ask r next => P r ∧ ∀ reply, (next reply).AsksOnly P

variable {P : I.Request → Prop}

@[simp] theorem asksOnly_pure (a : α) : (pure a : Process I α).AsksOnly P := trivial

@[simp] theorem asksOnly_request {r : I.Request} : (request r).AsksOnly P ↔ P r :=
  ⟨fun h => h.1, fun h => ⟨h, fun _ => trivial⟩⟩

theorem AsksOnly.bind {p : Process I α} {f : α → Process I β} (hp : p.AsksOnly P)
    (hf : ∀ a, (f a).AsksOnly P) : (p >>= f).AsksOnly P := by
  change (p.bind f).AsksOnly P
  induction p with
  | done a => exact hf a
  | ask r next ih => exact ⟨hp.1, fun reply => ih reply (hp.2 reply)⟩

/-- What holds of every request of two processes in sequence holds of those of the first one. -/
lemma AsksOnly.of_bind {p : Process I α} {f : α → Process I β} (h : (p >>= f).AsksOnly P) :
    p.AsksOnly P := by
  change (p.bind f).AsksOnly P at h
  induction p with
  | done => trivial
  | ask r next ih => exact ⟨h.1, fun reply => ih reply (h.2 reply)⟩

theorem AsksOnly.map {p : Process I α} (f : α → β) (hp : p.AsksOnly P) : (f <$> p).AsksOnly P := by
  rw [← bind_pure_comp]
  exact hp.bind fun _ => trivial

theorem AsksOnly.mono {Q : I.Request → Prop} (h : ∀ r, P r → Q r) {p : Process I α}
    (hp : p.AsksOnly P) : p.AsksOnly Q := by
  induction p with
  | done => trivial
  | ask r next ih => exact ⟨h r hp.1, fun reply => ih reply (hp.2 reply)⟩

theorem AsksOnly.run_bind {x : ExceptT ε (Process I) α} {f : α → ExceptT ε (Process I) β}
    (hx : x.run.AsksOnly P) (hf : ∀ a, (f a).run.AsksOnly P) : (x >>= f).run.AsksOnly P := by
  rw [ExceptT.run_bind]
  refine hx.bind fun result => ?_
  cases result with
  | error => trivial
  | ok a => exact hf a

theorem AsksOnly.run_lift {p : Process I α} (hp : p.AsksOnly P) :
    (liftM p : ExceptT ε (Process I) α).run.AsksOnly P := by
  rw [ExceptT.run_liftM]
  exact hp.map _

/-- What holds of every request holds along every path. -/
theorem AsksOnly.of_leads {p q : Process I α} {es : List (Exchange I)} (hp : p.AsksOnly P)
    (h : p.Leads es q) : ∀ e ∈ es, P e.request := by
  induction h with
  | refl => simp
  | step _ ih =>
    intro e he
    rcases List.mem_cons.1 he with rfl | he
    · exact hp.1
    · exact ih (hp.2 _) e he

/-- Every request that a process can come to has a property, and every result another one. -/
def Yields (P : I.Request → Prop) (Q : α → Prop) : Process I α → Prop
  | done a => Q a
  | ask r next => P r ∧ ∀ reply, (next reply).Yields P Q

lemma AsksOnly.yields {p : Process I α} (hp : p.AsksOnly P) : p.Yields P fun _ => True := by
  induction p with
  | done => trivial
  | ask r next ih => exact ⟨hp.1, fun reply => ih reply (hp.2 reply)⟩

lemma Yields.asksOnly {Q : α → Prop} {p : Process I α} (hp : p.Yields P Q) : p.AsksOnly P := by
  induction p with
  | done => trivial
  | ask r next ih => exact ⟨hp.1, fun reply => ih reply (hp.2 reply)⟩

lemma Yields.mono {P' : I.Request → Prop} {Q Q' : α → Prop} {p : Process I α} (hp : p.Yields P Q)
    (hP : ∀ r, P r → P' r) (hQ : ∀ a, Q a → Q' a) : p.Yields P' Q' := by
  induction p with
  | done a => exact hQ a hp
  | ask r next ih => exact ⟨hP r hp.1, fun reply => ih reply (hp.2 reply)⟩

lemma Yields.bind {Q : α → Prop} {R : β → Prop} {p : Process I α} {f : α → Process I β}
    (hp : p.Yields P Q) (hf : ∀ a, Q a → (f a).Yields P R) : (p >>= f).Yields P R := by
  change (p.bind f).Yields P R
  induction p with
  | done a => exact hf a hp
  | ask r next ih => exact ⟨hp.1, fun reply => ih reply (hp.2 reply)⟩

lemma AsksOnly.bind_yields {R : β → Prop} {p : Process I α} {f : α → Process I β}
    (hp : p.AsksOnly P) (hf : ∀ a, (f a).Yields P R) : (p >>= f).Yields P R :=
  hp.yields.bind fun a _ => hf a

lemma Yields.bind_asksOnly {Q : α → Prop} {p : Process I α} {f : α → Process I β}
    (hp : p.Yields P Q) (hf : ∀ a, Q a → (f a).AsksOnly P) : (p >>= f).AsksOnly P :=
  (hp.bind fun a ha => (hf a ha).yields).asksOnly

/-- What holds of every request and every result holds along a path and at its end. -/
lemma Yields.of_ends {Q : α → Prop} {p : Process I α} {es : List (Exchange I)} {a : α}
    (hp : p.Yields P Q) (h : p.Ends es a) :
    (∀ e ∈ es, P e.request) ∧ Q a := by
  refine ⟨hp.asksOnly.of_leads h, ?_⟩
  induction p generalizing es with
  | done b =>
    obtain ⟨-, rfl⟩ := ends_done_iff.1 h
    exact hp
  | ask r next ih =>
    obtain ⟨reply, rest, -, hnext⟩ := ends_ask_iff.1 h
    exact ih reply (hp.2 reply) hnext

/-- Work that may fail: what its results have need not be had by its faults. -/
lemma AsksOnly.run_bind_yields {x : ExceptT ε (Process I) α} {f : α → ExceptT ε (Process I) β}
    {R : Except ε β → Prop} (hx : x.run.AsksOnly P) (he : ∀ e, R (.error e))
    (hf : ∀ a, (f a).run.Yields P R) : (x >>= f).run.Yields P R := by
  rw [ExceptT.run_bind]
  refine hx.bind_yields fun result => ?_
  cases result with
  | error e => exact he e
  | ok a => exact hf a

/-- Work that cannot fail, followed by work that may. -/
lemma run_lift_bind {p : Process I α} {f : α → ExceptT ε (Process I) β} :
    ((liftM p : ExceptT ε (Process I) α) >>= f).run = p >>= fun a => (f a).run := by
  simp [ExceptT.run_bind, ExceptT.run_liftM]

/-! ## Where a process may have to wait -/

section AtWaits

variable {W : I.Request → Prop} {P : Process I α → Prop}

/-- Wherever a process comes to one of certain requests, what is left of it has a property. -/
def AtWaits (W : I.Request → Prop) (P : Process I α → Prop) : Process I α → Prop
  | done _ => True
  | ask r next => (W r → P (ask r next)) ∧ ∀ reply, (next reply).AtWaits W P

lemma AtWaits.of_leads {p : Process I α} {es : List (Exchange I)} {r : I.Request}
    {next : I.Reply r → Process I α} (hp : p.AtWaits W P) (h : p.Leads es (ask r next))
    (hr : W r) : P (ask r next) := by
  generalize hq : ask r next = q at h
  induction h with
  | refl =>
    subst hq
    exact hp.1 hr
  | step _ ih => exact ih (hp.2 _) hq

/-- Work that never has to wait, followed by work that may. -/
lemma AsksOnly.bind_atWaits {p : Process I β} {f : β → Process I α}
    (hp : p.AsksOnly fun r => ¬W r) (hf : ∀ b, (f b).AtWaits W P) : (p >>= f).AtWaits W P := by
  change (p.bind f).AtWaits W P
  induction p with
  | done b => exact hf b
  | ask r next ih => exact ⟨fun hr => absurd hr hp.1, fun reply => ih reply (hp.2 reply)⟩

lemma AsksOnly.atWaits {p : Process I α} (hp : p.AsksOnly fun r => ¬W r) : p.AtWaits W P := by
  induction p with
  | done => trivial
  | ask r next ih => exact ⟨fun hr => absurd hr hp.1, fun reply => ih reply (hp.2 reply)⟩

lemma Yields.atWaits {R : I.Request → Prop} {Q : α → Prop} {p : Process I α} (hp : p.Yields R Q) :
    p.AtWaits W (Yields R Q) := by
  induction p with
  | done => trivial
  | ask r next ih => exact ⟨fun _ => hp, fun reply => ih reply (hp.2 reply)⟩

lemma AtWaits.mono {P' : Process I α → Prop} {p : Process I α} (hp : p.AtWaits W P)
    (h : ∀ q, P q → P' q) : p.AtWaits W P' := by
  induction p with
  | done => trivial
  | ask r next ih => exact ⟨fun hr => h _ (hp.1 hr), fun reply => ih reply (hp.2 reply)⟩

end AtWaits

end Process

/-! ## Loops -/

section Loops

variable {I : Interface} {σ ε : Type}

/-- The turns a loop has been through, each with the state it began in and its exchanges, and what
the last of them ended with. -/
inductive Rounds (turn : σ → Process I (Turn σ ε)) (s : σ) :
    List (σ × List (Exchange I)) → Turn σ ε → Prop where
  /-- No turn was begun. -/
  | start : Rounds turn s [] (.again s)
  /-- One more turn. -/
  | next {turns : List (σ × List (Exchange I))} {t : σ} {es : List (Exchange I)}
      {result : Turn σ ε} (h : Rounds turn s turns (.again t)) (ht : (turn t).Ends es result) :
      Rounds turn s (turns ++ [(t, es)]) result

lemma Rounds.eq_of_nil {turn : σ → Process I (Turn σ ε)} {s : σ} {result : Turn σ ε}
    (h : Rounds turn s [] result) : result = .again s := by
  generalize hturns : ([] : List (σ × List (Exchange I))) = turns at h
  cases h with
  | start => rfl
  | next => simp at hturns

/-- What was asked and replied in some turns. -/
def exchanges (turns : List (σ × List (Exchange I))) : List (Exchange I) :=
  turns.flatMap Prod.snd

@[simp] theorem exchanges_nil : exchanges ([] : List (σ × List (Exchange I))) = [] := rfl

@[simp] theorem exchanges_append (turns turns' : List (σ × List (Exchange I))) :
    exchanges (turns ++ turns') = exchanges turns ++ exchanges turns' := by
  simp [exchanges]

@[simp] theorem exchanges_singleton (t : σ) (es : List (Exchange I)) :
    exchanges [(t, es)] = es := by
  simp [exchanges]

/-- With these exchanges a loop has come into the middle of a turn; `rest` is what is left of that
turn. -/
def Underway (turn : σ → Process I (Turn σ ε)) (s : σ) (es : List (Exchange I))
    (rest : Process I (Turn σ ε)) : Prop :=
  ∃ turns t es', Rounds turn s turns (.again t) ∧ (turn t).Leads es' rest ∧
    es = exchanges turns ++ es'

end Loops

end CryoRig
