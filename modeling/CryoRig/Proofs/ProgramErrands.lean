import Mathlib.Data.List.Induction
import CryoRig.Proofs.BetweenWaits

/-!
# Errands at the program desk

A start notes the token of a program, starts the program and puts it onto the desk, all without
waiting. A wait takes a program off the desk that has ended. A stop fires the token that was noted
last and gets into the line in the same breath; so no program is started between that and its turn
at the desk. Whoever is asked in the midst of a wait finds the program that was started last on the
desk, unless it was collected, and its token noted.

## Main definitions

* `CryoRig.Rig.startedLast`, `CryoRig.Rig.uncollected`: the run that was started last, and the one
  that nobody has taken off the desk yet.
* `CryoRig.Rig.Errand`: what a party is about at the desk.
* `CryoRig.Rig.errandRules`: what may be asked on which errand.
* `CryoRig.Rig.Paired`: the program on the desk and the token are those of the run that was started
  last.

## Main results

* `CryoRig.Rig.upholds_errandRules`: they stay so.
-/

namespace CryoRig.Rig

open Control Process

variable {α β : Type} {site : Site RigSurroundings}

/-! ## The runs that were started -/

/-- What a reply makes of the run that was started last, with its job. -/
def startedAfter (last? : Option (Nat × ProgramRun)) :
    (r : Request) → r.Reply → Option (Nat × ProgramRun)
  | .spawn (.program run), (number : Nat) => some (number, run)
  | _, _ => last?

/-- What a reply makes of the run that nobody has taken off the desk yet. -/
def uncollectedAfter (run? : Option (Nat × ProgramRun)) :
    (r : Request) → r.Reply → Option (Nat × ProgramRun)
  | .spawn (.program run), (number : Nat) => some (number, run)
  | .setProgram none, _ => none
  | _, _ => run?

/-- The run that was started last, with its job. -/
def startedLast (told : List (Party × Exchange RigSurroundings)) : Option (Nat × ProgramRun) :=
  told.foldl (fun last? x => startedAfter last? x.2.request x.2.reply) none

/-- The run that was started last, with its job, unless its program was taken off the desk since. -/
def uncollected (told : List (Party × Exchange RigSurroundings)) : Option (Nat × ProgramRun) :=
  told.foldl (fun run? x => uncollectedAfter run? x.2.request x.2.reply) none

section Runs

variable {told : List (Party × Exchange RigSurroundings)} {y : Party × Exchange RigSurroundings}
  {r : Request} {reply : r.Reply} {x : Nat × ProgramRun}

@[simp] lemma startedLast_append :
    startedLast (told ++ [y]) = startedAfter (startedLast told) y.2.request y.2.reply := by
  simp [startedLast]

@[simp] lemma uncollected_append :
    uncollected (told ++ [y]) = uncollectedAfter (uncollected told) y.2.request y.2.reply := by
  simp [uncollected]

/-- A request that starts no program and takes none off the desk. -/
def KeepsRuns : Request → Prop
  | .spawn (.program _) | .setProgram none => False
  | _ => True

lemma startedAfter_of_keeps {last? : Option (Nat × ProgramRun)} (h : KeepsRuns r) :
    startedAfter last? r reply = last? := by
  cases r with
  | spawn job =>
    cases job with
    | program => exact h.elim
    | _ => rfl
  | _ => rfl

lemma uncollectedAfter_of_keeps {run? : Option (Nat × ProgramRun)} (h : KeepsRuns r) :
    uncollectedAfter run? r reply = run? := by
  cases r with
  | spawn job =>
    cases job with
    | program => exact h.elim
    | _ => rfl
  | setProgram job? =>
    cases job? with
    | none => exact h.elim
    | some => rfl
  | _ => rfl

lemma startedAfter_of_uncollectedAfter {last? run? : Option (Nat × ProgramRun)}
    (h : run? = some x → last? = some x) (hr : uncollectedAfter run? r reply = some x) :
    startedAfter last? r reply = some x := by
  by_cases hkeeps : KeepsRuns r
  · rw [uncollectedAfter_of_keeps hkeeps] at hr
    rw [startedAfter_of_keeps hkeeps, h hr]
  cases r with
  | spawn job =>
    cases job with
    | program run => exact hr
    | _ => exact absurd trivial hkeeps
  | setProgram job? =>
    cases job? with
    | none => cases hr
    | some => exact absurd trivial hkeeps
  | _ => exact absurd trivial hkeeps

/-- Whoever is not collected yet was started last. -/
lemma startedLast_of_uncollected (h : uncollected told = some x) : startedLast told = some x := by
  induction told using List.reverseRecOn with
  | nil => cases h
  | append_singleton told y ih =>
    rw [uncollected_append] at h
    rw [startedLast_append]
    exact startedAfter_of_uncollectedAfter ih h

end Runs

/-! ## Errands -/

/-- What a party is about at the program desk. -/
inductive Errand where
  /-- Nothing. -/
  | away
  /-- It has the desk, to start a program. -/
  | tries
  /-- It has drawn a token for the program. -/
  | drew (token : Nat)
  /-- The token is noted. -/
  | noted (token : Nat)
  /-- The program was started, and is not on the desk yet. -/
  | began (job : Nat)
  /-- It has the desk. -/
  | has
  /-- It has seen this program on the desk. -/
  | sees (job : Nat)
  /-- This program is on the desk and has ended. -/
  | knows (job : Nat)
  /-- It is about to fire this token, which is noted. -/
  | aims (token : Nat)
  /-- The token that is noted was fired. -/
  | fired
  /-- So it was, and it is in the line. -/
  | queues
  /-- So it was, and it has the desk. -/
  | stops
  deriving DecidableEq

namespace Errand

/-- It may wait. -/
def Calm : Errand → Prop
  | away | has | sees _ | queues => True
  | _ => False

/-- It is not in the midst of a start of which the others do not know yet. -/
def Open : Errand → Prop
  | noted _ | began _ => False
  | _ => True

/-- It may leave the desk. -/
def Leaves : Errand → Prop
  | tries | has | sees _ | knows _ | stops => True
  | _ => False

/-- It comes to the desk. -/
def arrives : Errand → Errand
  | fired => stops
  | _ => has

/-- It is told which program is on the desk. -/
def look (job? : Option Nat) : Errand → Errand
  | has => match job? with
    | some job => sees job
    | none => has
  | g => g

/-- It learns that a job has ended. -/
def learn (job : Nat) : Errand → Errand
  | sees n => if n = job then knows n else sees n
  | g => g

/-- It draws a token. -/
def draw (token : Nat) : Errand → Errand
  | tries => drew token
  | g => g

/-- It fires a token. -/
def fire (token : Nat) : Errand → Errand
  | aims n => if n = token then fired else aims n
  | g => g

@[simp] lemma learn_sees (job : Nat) : (sees job).learn job = knows job := if_pos rfl

@[simp] lemma fire_aims (token : Nat) : (aims token).fire token = fired := if_pos rfl

/-- It gets into the line. -/
def queue : Errand → Errand
  | fired => queues
  | g => g

/-- What a party is about when it has a reply. -/
def after (g : Errand) : (r : Request) → r.Reply → Errand
  | .tryDesk, (taken : Bool) => if taken then tries else g
  | .takeDesk _, (taken : Bool) => if taken then g.arrives else away
  | .leaveDesk, _ => away
  | .program, (job? : Option Nat) => g.look job?
  | .join job _, (ending : Option Ending) => if ending.isSome then g.learn job else g
  | .newToken, (token : Nat) => g.draw token
  | .setProgramToken token, _ => noted token
  | .spawn (.program _), (number : Nat) => began number
  | .setProgram (some _), _ => tries
  | .setProgram none, _ => has
  | .programToken, (token : Nat) => aims token
  | .fire token, _ => g.fire token
  | _, _ => g

end Errand

/-- A program is only started when its token is noted, and then it is put onto the desk. It is only
taken off by whoever knows that it has ended, or has fired its token. Nobody waits in the midst of a
start, nor between the shot and the line. -/
def errandRules : Discipline Errand where
  Allows g
    | .device (.log _) => True
    | .device _ | .pause .. | .join .. => g.Calm
    | .tryDesk | .programToken => g = .away
    | .takeDesk _ => g = .away ∨ g = .fired
    | .leaveDesk => g.Leaves
    | .program => g = .tries ∨ g = .has ∨ g = .stops
    | .fire _ => g.Open
    | .setProgramToken token => g = .drew token
    | .spawn (.program run) => g = .noted run.token
    | .setProgram (some job) => g = .began job
    | .setProgram none => g = .stops ∨ ∃ job, g = .knows job
    | _ => True
  entered g
    | .takeDesk _ => g.queue
    | _ => g
  after := Errand.after
  idle := .away
  Rests g := g = .away

/-! ## What is known is so -/

/-- What a party relies on. -/
def Errand.Holds (s : State) (p : Party) : Errand → Prop
  | away => True
  | tries | began _ => s.desk.holder = some p ∧ s.desk.line = []
  | drew token => s.desk.holder = some p ∧ s.desk.line = [] ∧ token < s.tokens.size
  | noted token => s.desk.holder = some p ∧ s.desk.line = [] ∧ s.programToken = token
  | has => s.desk.holder = some p
  | sees job => s.desk.holder = some p ∧ s.program = some job
  | knows job => s.desk.holder = some p ∧ s.program = some job ∧ s.ending? job ≠ none
  | aims token => s.programToken = token
  | fired => s.isFired s.programToken = true
  | queues => (s.desk.holder = some p ∨ p ∈ s.desk.line) ∧ s.isFired s.programToken = true
  | stops => s.desk.holder = some p ∧ s.isFired s.programToken = true

/-- The program on the desk is the run that was started last, unless it was collected, and the token
that is noted is that of the run that was started last; only a party in the midst of a start knows
better. -/
structure Paired (s : State) (mind : Party → Errand)
    (told : List (Party × Exchange RigSurroundings)) : Prop where
  /-- Nobody waits for a free desk. -/
  line : s.desk.holder = none → s.desk.line = []
  /-- There is a token. -/
  token_lt : s.programToken < s.tokens.size
  /-- What everybody relies on. -/
  holds : ∀ p, (mind p).Holds s p
  /-- The program on the desk. -/
  program : (∀ p job, mind p ≠ .began job) → s.program = (uncollected told).map Prod.fst
  /-- The program that is not there yet. -/
  began : ∀ p job, mind p = .began job → (uncollected told).map Prod.fst = some job
  /-- The token that is noted. -/
  token : (∀ p token, mind p ≠ .noted token) → ∀ x, startedLast told = some x →
    s.programToken = x.2.token

/-- The program desk is as it was, and what was fired or has ended stays so. -/
structure Preserves (s t : State) : Prop where
  desk : t.desk = s.desk
  program : t.program = s.program
  programToken : t.programToken = s.programToken
  size_le : s.tokens.size ≤ t.tokens.size
  fired : ∀ token, s.isFired token = true → t.isFired token = true
  ended : ∀ n ending, s.ending? n = some ending → t.ending? n = some ending

section Preserves

variable {s t u : State} {p q : Party} {g : Errand}

lemma Preserves.refl (s : State) : Preserves s s :=
  ⟨rfl, rfl, rfl, Nat.le_refl _, fun _ => id, fun _ _ => id⟩

lemma Unasked.preserves (h : Unasked s t) : Preserves s t where
  desk := h.desk
  program := h.program
  programToken := h.programToken
  size_le := Nat.le_of_eq (congrArg Array.size h.tokens).symm
  fired token hf := by rwa [State.isFired, h.tokens]
  ended := h.ended

lemma Alike.unasked (h : Alike s t) : Unasked s t :=
  ⟨h.tokens, h.desk, h.program, h.programToken, fun n ending hn => by
    rwa [State.ending?, h.jobs]⟩

lemma Alike.preserves (h : Alike s t) : Preserves s t := h.unasked.preserves

/-- What has ended stays so, whatever is asked. -/
lemma ending?_of_answer? {r : Request} {reply : r.Reply} {alarm : Option Nat} {n : Nat}
    {ending : Ending} (h : s.answer? p alarm r = some (reply, t))
    (hn : s.ending? n = some ending) : t.ending? n = some ending := by
  rcases jobs_of_answer? h with ht | ⟨job, -, ht⟩
  · rwa [State.ending?, ht]
  · have hne : n ≠ s.jobs.size := by
      rintro rfl
      rw [State.ending?, Array.getElem?_size] at hn
      cases hn
    rwa [State.ending?, ht, Array.getElem?_push, if_neg hne]

/-- A reply that leaves the desk alone. -/
lemma preserves_of_answer? {r : Request} {reply : r.Reply} {alarm : Option Nat}
    (h : s.answer? p alarm r = some (reply, t)) (hdesk : t.desk = s.desk)
    (hprogram : t.program = s.program) (htoken : t.programToken = s.programToken) :
    Preserves s t where
  desk := hdesk
  program := hprogram
  programToken := htoken
  size_le := by
    rcases tokens_of_answer? h with ht | ht | ⟨token, ht⟩ <;> rw [ht] <;> simp
  fired _ := isFired_of_answer? h
  ended _ _ := ending?_of_answer? h

/-- Everybody may go on to rely on what they did. -/
lemma Errand.Holds.mono (h : g.Holds s p) (ht : Preserves s t) : g.Holds t p := by
  cases g with
  | away => trivial
  | tries | began | has => simpa only [Holds, ht.desk] using h
  | drew token => exact ⟨ht.desk ▸ h.1, ht.desk ▸ h.2.1, Nat.lt_of_lt_of_le h.2.2 ht.size_le⟩
  | noted token => exact ⟨ht.desk ▸ h.1, ht.desk ▸ h.2.1, ht.programToken.trans h.2.2⟩
  | sees job => exact ⟨ht.desk ▸ h.1, ht.program.trans h.2⟩
  | knows job =>
    obtain ⟨hd, hprogram, he⟩ := h
    obtain ⟨ending, he⟩ := Option.ne_none_iff_exists'.1 he
    exact ⟨ht.desk ▸ hd, ht.program.trans hprogram, by simp [ht.ended job ending he]⟩
  | aims token => exact ht.programToken.trans h
  | fired => exact ht.fired _ (ht.programToken ▸ h)
  | queues => exact ⟨ht.desk ▸ h.1, ht.fired _ (ht.programToken ▸ h.2)⟩
  | stops => exact ⟨ht.desk ▸ h.1, ht.fired _ (ht.programToken ▸ h.2)⟩

end Preserves

section Paired

variable {s t : State} {mind : Party → Errand} {p q : Party} {g : Errand} {r : Request}
  {reply : r.Reply} {told told' : List (Party × Exchange RigSurroundings)}

namespace Errand

lemma Open.ne_noted (h : g.Open) (token : Nat) : g ≠ noted token := by
  rintro rfl
  exact h

lemma Open.ne_began (h : g.Open) (job : Nat) : g ≠ began job := by
  rintro rfl
  exact h

lemma Calm.open (h : g.Calm) : g.Open := by
  cases g <;> trivial

lemma Leaves.open (h : g.Leaves) : g.Open := by
  cases g <;> trivial

/-- Whoever may leave the desk has it. -/
lemma Leaves.holder (h : g.Leaves) (hs : g.Holds s p) : s.desk.holder = some p := by
  cases g with
  | tries | sees | knows | stops => exact hs.1
  | has => exact hs
  | _ => exact h.elim

/-- Whoever is calm while somebody else has the desk is away or in the line. -/
lemma Calm.elsewhere (h : g.Calm) (hg : g.Holds s q) (hp : s.desk.holder = some p) (hq : q ≠ p) :
    g = away ∨ g = queues ∧ q ∈ s.desk.line ∧ s.isFired s.programToken = true := by
  have hne : s.desk.holder ≠ some q := by
    rw [hp]
    exact fun he => hq (Option.some.inj he).symm
  cases g with
  | away => exact .inl rfl
  | has => exact absurd hg hne
  | sees => exact absurd hg.1 hne
  | queues => exact .inr ⟨rfl, hg.1.resolve_left hne, hg.2⟩
  | _ => exact h.elim

end Errand

namespace Paired

/-- A party turns to something else while the others are calm. -/
lemma turn (hcalm : ∀ q, q ≠ p → (mind q).Calm) (hline : t.desk.holder = none → t.desk.line = [])
    (hlt : t.programToken < t.tokens.size) (hg : g.Holds t p)
    (hothers : ∀ q, q ≠ p → (mind q).Holds t q)
    (hprogram : (∀ job, g ≠ .began job) → t.program = (uncollected told).map Prod.fst)
    (hbegan : ∀ job, g = .began job → (uncollected told).map Prod.fst = some job)
    (htoken : (∀ token, g ≠ .noted token) → ∀ x, startedLast told = some x →
      t.programToken = x.2.token) : Paired t (Function.update mind p g) told where
  line := hline
  token_lt := hlt
  holds q := by
    by_cases hq : q = p
    · subst hq
      rwa [Function.update_self]
    · rw [Function.update_of_ne hq]
      exact hothers q hq
  program hall := hprogram fun job => by simpa using hall p job
  began q job hq := by
    by_cases hqp : q = p
    · subst hqp
      rw [Function.update_self] at hq
      exact hbegan job hq
    · rw [Function.update_of_ne hqp] at hq
      exact absurd hq ((hcalm q hqp).open.ne_began job)
  token hall := htoken fun token => by simpa using hall p token

/-- The program on the desk, when nobody is in the midst of a start. -/
lemma program_eq (h : Paired s mind told) (hcalm : ∀ q, q ≠ p → (mind q).Calm)
    (hp : (mind p).Open) : s.program = (uncollected told).map Prod.fst := by
  refine h.program fun q job => ?_
  by_cases hq : q = p
  · exact hq ▸ hp.ne_began job
  · exact (hcalm q hq).open.ne_began job

/-- The token that is noted, when nobody is in the midst of a start. -/
lemma token_eq (h : Paired s mind told) (hcalm : ∀ q, q ≠ p → (mind q).Calm)
    (hp : (mind p).Open) {x : Nat × ProgramRun} (hx : startedLast told = some x) :
    s.programToken = x.2.token := by
  refine h.token (fun q token => ?_) x hx
  by_cases hq : q = p
  · exact hq ▸ hp.ne_noted token
  · exact (hcalm q hq).open.ne_noted token

/-- Everything is as it was. -/
lemma mono (h : Paired s mind told) (ht : Preserves s t)
    (huncollected : uncollected told' = uncollected told)
    (hstarted : startedLast told' = startedLast told) : Paired t mind told' where
  line := by
    rw [ht.desk]
    exact h.line
  token_lt := by
    rw [ht.programToken]
    exact Nat.lt_of_lt_of_le h.token_lt ht.size_le
  holds q := (h.holds q).mono ht
  program := by
    rw [ht.program, huncollected]
    exact h.program
  began := by
    rw [huncollected]
    exact h.began
  token := by
    rw [ht.programToken, hstarted]
    exact h.token

/-- A party turns to something else, and the program and its token are as they were. -/
lemma moves (h : Paired s mind told) (hcalm : ∀ q, q ≠ p → (mind q).Calm) (hp : (mind p).Open)
    (hopen : g.Open) (hline : t.desk.holder = none → t.desk.line = [])
    (hlt : t.programToken < t.tokens.size) (hprogram : t.program = s.program)
    (htoken : t.programToken = s.programToken) (hg : g.Holds t p)
    (hothers : ∀ q, q ≠ p → (mind q).Holds t q)
    (huncollected : uncollected told' = uncollected told)
    (hstarted : startedLast told' = startedLast told) :
    Paired t (Function.update mind p g) told' := by
  refine turn hcalm hline hlt hg hothers (fun _ => ?_)
    (fun job hj => absurd hj (hopen.ne_began job)) fun _ x hx => ?_
  · rw [hprogram, huncollected]
    exact h.program_eq hcalm hp
  · rw [hstarted] at hx
    rw [htoken]
    exact h.token_eq hcalm hp hx

/-- A party turns to something else, and the desk is as it was. -/
lemma turns (h : Paired s mind told) (hcalm : ∀ q, q ≠ p → (mind q).Calm) (ht : Preserves s t)
    (hg : g.Holds t p) (hopen : g.Open) (hp : (mind p).Open)
    (huncollected : uncollected told' = uncollected told)
    (hstarted : startedLast told' = startedLast told) :
    Paired t (Function.update mind p g) told' := by
  have hsame := h.mono ht huncollected hstarted
  exact h.moves hcalm hp hopen hsame.line hsame.token_lt ht.program ht.programToken hg
    (fun q _ => hsame.holds q) huncollected hstarted

/-- A party gets into the line, or comes to the free desk. -/
lemma arrives (h : Paired s mind told) (hcalm : ∀ q, q ≠ p → (mind q).Calm)
    (hp : mind p = .away ∨ mind p = .fired) :
    Paired { s with desk := s.desk.arrive p } (Function.update mind p (mind p).queue) told := by
  have hheld : (s.desk.arrive p).holder ≠ none := by
    cases hd : s.desk.holder <;> simp [Desk.arrive, hd]
  have hopen : (mind p).Open := by rcases hp with hp | hp <;> rw [hp] <;> trivial
  have hqueue : (mind p).queue.Calm := by rcases hp with hp | hp <;> rw [hp] <;> trivial
  refine h.moves hcalm hopen hqueue.open (fun hn => absurd hn hheld) h.token_lt rfl rfl ?_
    (fun q hq => ?_) rfl rfl
  · have hholds := h.holds p
    rcases hp with hp | hp <;> rw [hp] at hholds ⊢
    · trivial
    · exact ⟨s.desk.holder_arrive_or_mem_line p, hholds⟩
  · have hholds := h.holds q
    have hq := hcalm q hq
    generalize mind q = g at hholds hq
    cases g with
    | away => trivial
    | has => exact Desk.holder_arrive hholds p
    | sees => exact ⟨Desk.holder_arrive hholds.1 p, hholds.2⟩
    | queues =>
      refine ⟨hholds.1.imp (fun hd => Desk.holder_arrive hd p) fun hl => ?_, hholds.2⟩
      cases hd : s.desk.holder with
      | none =>
        rw [h.line hd] at hl
        cases hl
      | some => simp [Desk.arrive, hd, hl]
    | _ => exact hq.elim

/-- A party in the line comes to the desk, or leaves the line. -/
lemma takes {limit : Option Instant} {taken : (Request.takeDesk limit).Reply}
    {alarm : Option Nat} (h : Paired s mind told) (hcalm : ∀ q, q ≠ p → (mind q).Calm)
    (hg : g = .away ∨ g = .fired) (hp : mind p = g.queue)
    (ha : s.answer? p alarm (.takeDesk limit) = some (taken, t)) :
    Paired t (Function.update mind p (g.after (.takeDesk limit) taken))
      (told ++ [(p, ⟨.takeDesk limit, taken⟩)]) := by
  have huncollected : uncollected (told ++ [(p, ⟨.takeDesk limit, taken⟩)]) = uncollected told :=
    uncollected_append
  have hstarted : startedLast (told ++ [(p, ⟨.takeDesk limit, taken⟩)]) = startedLast told :=
    startedLast_append
  have hopen : (mind p).Open := by rcases hg with rfl | rfl <;> rw [hp] <;> trivial
  simp only [State.answer?] at ha
  split at ha
  · rename_i hd
    cases ha
    refine h.turns hcalm (.refl s) ?_ ?_ hopen huncollected hstarted
    · have hholds := h.holds p
      rcases hg with rfl | rfl <;> rw [hp] at hholds
      · exact hd
      · exact ⟨hd, hholds.2⟩
    · rcases hg with rfl | rfl <;> trivial
  · split at ha
    · cases ha
      refine h.moves hcalm hopen trivial (fun hn => ?_) h.token_lt rfl rfl trivial
        (fun q hq => ?_) huncollected hstarted
      · change s.desk.line.filter (· ≠ p) = []
        rw [h.line hn, List.filter_nil]
      · have hholds := h.holds q
        have hcalm' := hcalm q hq
        generalize mind q = g' at hholds hcalm'
        cases g' with
        | away => trivial
        | has => exact hholds
        | sees => exact hholds
        | queues =>
          exact ⟨hholds.1.imp_right fun hl => List.mem_filter.2 ⟨hl, by simpa using hq⟩, hholds.2⟩
        | _ => exact hcalm'.elim
    · cases ha

/-- A party goes on with what it is about. -/
lemma stays (h : Paired s mind told) (ht : Preserves s t) (hr : KeepsRuns r)
    (hg : g = mind p) : Paired t (Function.update mind p g) (told ++ [(p, ⟨r, reply⟩)]) := by
  rw [hg, Function.update_eq_self]
  refine h.mono ht ?_ ?_
  · exact uncollected_append.trans (uncollectedAfter_of_keeps hr)
  · exact startedLast_append.trans (startedAfter_of_keeps hr)

/-- Something is asked that starts no program and takes none off the desk. -/
lemma goes (h : Paired s mind told) (hcalm : ∀ q, q ≠ p → (mind q).Calm) (ht : Preserves s t)
    (hr : KeepsRuns r) (hg : g.Holds t p) (hopen : g.Open) (hp : (mind p).Open) :
    Paired t (Function.update mind p g) (told ++ [(p, ⟨r, reply⟩)]) :=
  h.turns hcalm ht hg hopen hp (uncollected_append.trans (uncollectedAfter_of_keeps hr))
    (startedLast_append.trans (startedAfter_of_keeps hr))

/-- Whoever has the desk while nobody is in the line is alone. -/
lemma alone (h : Paired s mind told) (hcalm : ∀ q, q ≠ p → (mind q).Calm)
    (hline : s.desk.line = []) (hd : s.desk.holder = some p ∨ s.desk.holder = none)
    (hq : q ≠ p) : mind q = .away := by
  have hholds := h.holds q
  have hcalm := hcalm q hq
  have hne : s.desk.holder ≠ some q := by
    rcases hd with hd | hd <;> rw [hd]
    · exact fun he => hq (Option.some.inj he).symm
    · exact Option.some_ne_none q |>.symm
  generalize mind q = g at hholds hcalm
  cases g with
  | away => rfl
  | has => exact absurd hholds hne
  | sees => exact absurd hholds.1 hne
  | queues =>
    have hmem : q ∈ s.desk.line := hholds.1.resolve_left hne
    rw [hline] at hmem
    cases hmem
  | _ => exact hcalm.elim

/-- A party at the desk turns to something that only it relies on. -/
lemma alters (h : Paired s mind told) (hcalm : ∀ q, q ≠ p → (mind q).Calm)
    (halone : ∀ q, q ≠ p → mind q = .away) (hdesk : t.desk = s.desk)
    (htokens : s.tokens.size ≤ t.tokens.size) (hlt : t.programToken < s.tokens.size)
    (hg : g.Holds t p)
    (hprogram : (∀ job, g ≠ .began job) → t.program = (uncollected told').map Prod.fst)
    (hbegan : ∀ job, g = .began job → (uncollected told').map Prod.fst = some job)
    (htoken : (∀ token, g ≠ .noted token) → ∀ x, startedLast told' = some x →
      t.programToken = x.2.token) : Paired t (Function.update mind p g) told' := by
  refine turn hcalm (by rw [hdesk]; exact h.line) (Nat.lt_of_lt_of_le hlt htokens) hg
    (fun q hq => ?_) hprogram hbegan htoken
  rw [halone q hq]
  trivial

/-- A party that comes to the desk at once finds nobody in the line. -/
lemma tries {free : Request.tryDesk.Reply} {alarm : Option Nat} (h : Paired s mind told)
    (hcalm : ∀ q, q ≠ p → (mind q).Calm) (hg : mind p = .away)
    (ha : s.answer? p alarm .tryDesk = some (free, t)) :
    Paired t (Function.update mind p ((mind p).after .tryDesk free))
      (told ++ [(p, ⟨.tryDesk, free⟩)]) := by
  simp only [State.answer?] at ha
  split at ha
  · rename_i hd
    cases ha
    have hline := h.line hd
    have halone (q : Party) (hq : q ≠ p) : mind q = .away := h.alone hcalm hline (.inr hd) hq
    have hopen : (mind p).Open := by
      rw [hg]
      trivial
    have harrive : s.desk.arrive p = ⟨some p, []⟩ := by
      rw [Desk.arrive, hd, hline]
    refine h.moves hcalm hopen trivial (fun hn => ?_) h.token_lt rfl rfl
      ⟨congrArg Desk.holder harrive, congrArg Desk.line harrive⟩ (fun q hq => ?_)
      uncollected_append startedLast_append
    · rw [harrive] at hn
      cases hn
    · rw [halone q hq]
      trivial
  · cases ha
    exact h.stays (.refl s) trivial rfl

/-- A party leaves the desk to the next one in the line. -/
lemma leaves {reply : Request.leaveDesk.Reply} {u : State} (h : Paired s mind told)
    (hcalm : ∀ q, q ≠ p → (mind q).Calm) (hg : (mind p).Leaves)
    (hu : Alike { s with desk := s.desk.leave } u) :
    Paired u (Function.update mind p .away) (told ++ [(p, ⟨.leaveDesk, reply⟩)]) := by
  have hd := hg.holder (h.holds p)
  have hdesk : u.desk = s.desk.leave := hu.desk
  have hfired : u.isFired u.programToken = s.isFired s.programToken := by
    rw [State.isFired, hu.tokens, hu.programToken]
    rfl
  refine h.moves hcalm hg.open trivial (fun hn => ?_) ?_ hu.program hu.programToken trivial
    (fun q hq => ?_) uncollected_append startedLast_append
  · rw [hdesk, Desk.leave] at hn ⊢
    cases hl : s.desk.line with
    | nil => rfl
    | cons => simp [hl] at hn
  · rw [hu.programToken, hu.tokens]
    exact h.token_lt
  · rcases (hcalm q hq).elsewhere (h.holds q) hd hq with hq | ⟨hq, hl, hf⟩
    · rw [hq]
      trivial
    · rw [hq]
      refine ⟨?_, hfired.trans hf⟩
      rw [hdesk, Desk.leave]
      cases hline : s.desk.line with
      | nil =>
        rw [hline] at hl
        cases hl
      | cons next rest =>
        rw [hline] at hl
        exact (List.mem_cons.1 hl).imp (fun he => congrArg some he.symm) id

/-- A program whose end is known, or that was told to stop, is taken off the desk. -/
lemma takesOff {reply : (Request.setProgram none).Reply} (h : Paired s mind told)
    (hcalm : ∀ q, q ≠ p → (mind q).Calm) (hg : mind p = .stops ∨ ∃ job, mind p = .knows job) :
    Paired { s with program := none } (Function.update mind p .has)
      (told ++ [(p, ⟨.setProgram none, reply⟩)]) := by
  have hopen : (mind p).Open := by rcases hg with hg | ⟨job, hg⟩ <;> rw [hg] <;> trivial
  have hd : s.desk.holder = some p := by
    have hholds := h.holds p
    rcases hg with hg | ⟨job, hg⟩ <;> rw [hg] at hholds <;> exact hholds.1
  refine turn hcalm h.line h.token_lt hd (fun q hq => ?_) (fun _ => ?_)
    (fun _ hbegan => absurd hbegan (by simp)) fun _ x hx => ?_
  · rcases (hcalm q hq).elsewhere (h.holds q) hd hq with hq | ⟨hq, hl, hf⟩
    · rw [hq]
      trivial
    · rw [hq]
      exact ⟨.inr hl, hf⟩
  · rw [show uncollected _ = _ from uncollected_append]
    rfl
  · rw [show startedLast _ = _ from startedLast_append] at hx
    exact h.token_eq hcalm hopen hx

/-- Nobody else is at the desk, nor in the line, in the midst of a start. -/
lemma alone_of_start (h : Paired s mind told) (hcalm : ∀ q, q ≠ p → (mind q).Calm)
    (hp : s.desk.holder = some p ∧ s.desk.line = []) (q : Party) (hq : q ≠ p) : mind q = .away :=
  h.alone hcalm hp.2 (.inl hp.1) hq

/-- The token of a program is noted before the program is started. -/
lemma notes {token : Nat} {reply : (Request.setProgramToken token).Reply}
    (h : Paired s mind told) (hcalm : ∀ q, q ≠ p → (mind q).Calm) (hg : mind p = .drew token) :
    Paired { s with programToken := token } (Function.update mind p (.noted token))
      (told ++ [(p, ⟨.setProgramToken token, reply⟩)]) := by
  have hholds := h.holds p
  rw [hg] at hholds
  obtain ⟨hd, hline, hlt⟩ := hholds
  refine h.alters hcalm (h.alone_of_start hcalm ⟨hd, hline⟩) rfl (Nat.le_refl _) hlt
    ⟨hd, hline, rfl⟩ (fun _ => ?_) (fun _ hbegan => absurd hbegan (by simp))
    fun hno => absurd rfl (hno token)
  rw [show uncollected _ = _ from uncollected_append]
  exact h.program_eq hcalm (by rw [hg]; trivial)

/-- A program is started whose token is noted. -/
lemma spawns {run : ProgramRun} {ready : List Nat} {jobs : Array JobStatus}
    {number : (Request.spawn (.program run)).Reply} (h : Paired s mind told)
    (hcalm : ∀ q, q ≠ p → (mind q).Calm) (hg : mind p = .noted run.token) :
    Paired { s with jobs := jobs, ready := ready } (Function.update mind p (.began number))
      (told ++ [(p, ⟨.spawn (.program run), number⟩)]) := by
  have hholds := h.holds p
  rw [hg] at hholds
  obtain ⟨hd, hline, htoken⟩ := hholds
  refine h.alters hcalm (h.alone_of_start hcalm ⟨hd, hline⟩) rfl (Nat.le_refl _) h.token_lt
    ⟨hd, hline⟩ (fun hno => absurd rfl (hno number)) (fun job hjob => ?_) fun _ x hx => ?_
  · cases hjob
    rw [show uncollected _ = _ from uncollected_append]
    rfl
  · rw [show startedLast _ = _ from startedLast_append] at hx
    cases hx
    exact htoken

/-- The program that was started is put onto the desk. -/
lemma putsOn {job : Nat} {reply : (Request.setProgram (some job)).Reply} (h : Paired s mind told)
    (hcalm : ∀ q, q ≠ p → (mind q).Calm) (hg : mind p = .began job) :
    Paired { s with program := some job } (Function.update mind p .tries)
      (told ++ [(p, ⟨.setProgram (some job), reply⟩)]) := by
  have hholds := h.holds p
  rw [hg] at hholds
  refine h.alters hcalm (h.alone_of_start hcalm hholds) rfl (Nat.le_refl _) h.token_lt hholds
    (fun _ => ?_) (fun _ hbegan => absurd hbegan (by simp)) fun _ x hx => ?_
  · rw [show uncollected _ = _ from uncollected_append]
    exact (h.began p job hg).symm
  · rw [show startedLast _ = _ from startedLast_append] at hx
    refine h.token (fun q token => ?_) x hx
    by_cases hq : q = p
    · rw [hq, hg]
      simp
    · exact (hcalm q hq).open.ne_noted token

/-- A party looks which program is on the desk. -/
lemma looks {reply : Request.program.Reply} (h : Paired s mind told)
    (hcalm : ∀ q, q ≠ p → (mind q).Calm) :
    Paired s (Function.update mind p ((mind p).look s.program))
      (told ++ [(p, ⟨.program, reply⟩)]) := by
  by_cases hg : mind p = .has
  · have hholds := h.holds p
    have hopen : (mind p).Open := by
      rw [hg]
      trivial
    rw [hg] at hholds ⊢
    cases hprogram : s.program with
    | none => exact h.goes hcalm (.refl s) trivial hholds trivial hopen
    | some job => exact h.goes hcalm (.refl s) trivial ⟨hholds, hprogram⟩ trivial hopen
  · refine h.stays (.refl s) trivial ?_
    generalize mind p = g at hg
    cases g with
    | has => exact absurd rfl hg
    | _ => rfl

/-- A party learns that a job has ended. -/
lemma learns {job : Nat} {limit : Option Instant} {reply : (Request.join job limit).Reply}
    (h : Paired s mind told) (hcalm : ∀ q, q ≠ p → (mind q).Calm) (he : s.ending? job ≠ none) :
    Paired s (Function.update mind p ((mind p).learn job))
      (told ++ [(p, ⟨.join job limit, reply⟩)]) := by
  by_cases hg : mind p = .sees job
  · have hholds := h.holds p
    have hopen : (mind p).Open := by
      rw [hg]
      trivial
    rw [hg] at hholds ⊢
    rw [Errand.learn_sees]
    exact h.goes hcalm (.refl s) trivial ⟨hholds.1, hholds.2, he⟩ trivial hopen
  · refine h.stays (.refl s) trivial ?_
    generalize mind p = g at hg
    cases g with
    | sees n => exact if_neg fun hn => hg (congrArg _ hn)
    | _ => rfl

/-- A party draws a token. -/
lemma draws {reply : Request.newToken.Reply} {alarm : Option Nat} (h : Paired s mind told)
    (hcalm : ∀ q, q ≠ p → (mind q).Calm) (ha : s.answer? p alarm .newToken = some (reply, t)) :
    Paired t (Function.update mind p ((mind p).after .newToken reply))
      (told ++ [(p, ⟨.newToken, reply⟩)]) := by
  have ht : Preserves s t := preserves_of_answer? ha (by cases ha; rfl) (by cases ha; rfl)
    (by cases ha; rfl)
  by_cases hg : mind p = .tries
  · have hholds := h.holds p
    have hopen : (mind p).Open := by
      rw [hg]
      trivial
    rw [hg] at hholds ⊢
    cases ha
    refine h.goes hcalm ht trivial ⟨hholds.1, hholds.2, ?_⟩ trivial hopen
    simp
  · refine h.stays ht trivial ?_
    generalize mind p = g at hg
    cases g with
    | tries => exact absurd rfl hg
    | _ => rfl

/-- A party fires a token. -/
lemma fires {token : Nat} {reply : (Request.fire token).Reply} {alarm : Option Nat}
    (h : Paired s mind told) (hcalm : ∀ q, q ≠ p → (mind q).Calm)
    (ha : s.answer? p alarm (.fire token) = some (reply, t)) :
    Paired t (Function.update mind p ((mind p).fire token))
      (told ++ [(p, ⟨.fire token, reply⟩)]) := by
  have ht : Preserves s t := preserves_of_answer? ha (by cases ha; rfl) (by cases ha; rfl)
    (by cases ha; rfl)
  by_cases hg : mind p = .aims token
  · have hholds : s.programToken = token := by
      have hholds := h.holds p
      rwa [hg] at hholds
    have hopen : (mind p).Open := by
      rw [hg]
      trivial
    rw [hg, Errand.fire_aims]
    refine h.goes hcalm ht trivial ?_ trivial hopen
    change t.isFired t.programToken = true
    rw [ht.programToken, hholds]
    have hlt : token < s.tokens.size := hholds ▸ h.token_lt
    cases ha
    change (s.tokens.setIfInBounds token true)[token]?.getD false = true
    rw [Array.getElem?_setIfInBounds, if_pos rfl, if_pos hlt]
    rfl
  · refine h.stays ht trivial ?_
    generalize mind p = g at hg
    cases g with
    | aims n => exact if_neg fun hn => hg (congrArg _ hn)
    | _ => rfl

/-- A request is made, to which the reply is there, other than to take the desk. -/
lemma answers {alarm : Option Nat} (h : Paired s mind told) (hcalm : ∀ q, q ≠ p → (mind q).Calm)
    (hallow : errandRules.Allows (mind p) r) (hr : ∀ limit, r ≠ .takeDesk limit)
    (ha : s.answer? p alarm r = some (reply, t)) :
    Paired t (Function.update mind p ((mind p).after r reply)) (told ++ [(p, ⟨r, reply⟩)]) := by
  cases r with
  | device | bench | clock | calendar | fired | pause | present | create | append =>
    exact h.stays (alike_of_plain (by trivial) ha).preserves trivial rfl
  | newToken => exact h.draws hcalm ha
  | fire token => exact h.fires hcalm ha
  | spawn job =>
    cases job with
    | program run =>
      cases ha
      exact h.spawns hcalm hallow
    | ticking | supervision =>
      exact h.stays (preserves_of_answer? ha (by cases ha; rfl) (by cases ha; rfl)
        (by cases ha; rfl)) trivial rfl
  | ended | published | slot =>
    cases ha
    exact h.stays (.refl s) trivial rfl
  | join job limit =>
    simp only [State.answer?] at ha
    split at ha
    · rename_i ending he
      cases ha
      exact h.learns hcalm (by simp [he])
    · split at ha
      · cases ha
        exact h.stays (.refl s) trivial rfl
      · cases ha
  | publish | setSlot =>
    cases ha
    exact h.stays ⟨rfl, rfl, rfl, Nat.le_refl _, fun _ => id, fun _ _ => id⟩ trivial rfl
  | tryDesk => exact h.tries hcalm hallow ha
  | takeDesk limit => exact absurd rfl (hr limit)
  | leaveDesk =>
    cases ha
    exact h.leaves hcalm hallow (alike_wakeParty ..)
  | program =>
    cases ha
    exact h.looks hcalm
  | setProgram job? =>
    cases ha
    cases job? with
    | none => exact h.takesOff hcalm hallow
    | some job => exact h.putsOn hcalm hallow
  | programToken =>
    cases ha
    have hg : mind p = .away := hallow
    exact h.goes hcalm (.refl s) trivial rfl trivial (by rw [hg]; trivial)
  | setProgramToken token =>
    cases ha
    exact h.notes hcalm hallow

end Paired

/-- A request other than to take the desk leaves the desk alone when it is made. -/
lemma preserves_enter (hr : ∀ limit, r ≠ .takeDesk limit) : Preserves s (s.enter p r).2 := by
  have hsend (name command : String) (sending : Sending) :
      Preserves s (s.send name command sending).2 := by
    unfold State.send
    split
    · exact ⟨rfl, rfl, rfl, Nat.le_refl _, fun _ => id, fun _ _ => id⟩
    · exact .refl s
  unfold State.enter
  split
  case h_7 limit => exact absurd rfl (hr limit)
  all_goals
    first
    | exact hsend ..
    | exact ⟨rfl, rfl, rfl, Nat.le_refl _, fun _ => id, fun _ _ => id⟩

end Paired

/-- **What is on the desk stays what was started last.** -/
theorem upholds_errandRules : errandRules.Upholds Errand.Calm Paired where
  answers {s t mind told p r reply} h hallow hcalm ha := by
    by_cases hr : ∃ limit, r = .takeDesk limit
    · obtain ⟨limit, rfl⟩ := hr
      have hnext := (h.arrives hcalm hallow).takes (g := mind p) (p := p) (fun q hq => ?_) hallow
        (Function.update_self ..) ha
      · rwa [Function.update_idem] at hnext
      · rw [Function.update_of_ne hq]
        exact hcalm q hq
    · have hr (limit : Option Instant) : r ≠ .takeDesk limit := fun he => hr ⟨limit, he⟩
      exact (h.mono (preserves_enter hr) rfl rfl).answers hcalm hallow hr ha
  waits {s mind told p r} h hallow hcalm ha := by
    have hwait := mayWait_of_answer?_eq_none ha
    cases r with
    | takeDesk limit =>
      refine ⟨h.arrives hcalm hallow, ?_⟩
      change (mind p).queue.Calm
      rcases hallow with hg | hg <;> rw [hg] <;> trivial
    | device r =>
      cases r with
      | log => exact hwait.elim
      | release => exact hwait.elim
      | _ =>
        refine ⟨?_, hallow⟩
        change Paired _ (Function.update mind p (mind p)) told
        rw [Function.update_eq_self]
        exact h.mono (preserves_enter (by simp)) rfl rfl
    | pause | join =>
      refine ⟨?_, hallow⟩
      change Paired _ (Function.update mind p (mind p)) told
      rw [Function.update_eq_self]
      exact h.mono (preserves_enter (by simp)) rfl rfl
    | _ => exact hwait.elim
  resumes {s t mind told p g r alarm reply} h hcalm hg hallow hbegan ha := by
    by_cases hr : ∃ limit, r = .takeDesk limit
    · obtain ⟨limit, rfl⟩ := hr
      exact h.takes (fun q _ => hcalm q) hallow hg ha
    · have hr (limit : Option Instant) : r ≠ .takeDesk limit := fun he => hr ⟨limit, he⟩
      obtain rfl : mind p = g := by
        rw [hg]
        cases r with
        | takeDesk limit => exact absurd rfl (hr limit)
        | _ => rfl
      exact h.answers (fun q _ => hcalm q) hallow hr ha
  unasked h hu := h.mono hu.preserves rfl rfl
  idle := trivial
  rests {g} hg := by
    obtain rfl : g = .away := hg
    trivial

end CryoRig.Rig
