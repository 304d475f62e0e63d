import CryoRig.Proofs.Requests
import CryoRig.Proofs.StopBoard

/-!
# Work on a board

A party may only make a request that its board allows, and it may only wait in a role in which it
can go on from every lawful board it may find then. Work *settles* if it keeps to these rules
whatever the replies are. Nothing is said of how long a wait takes or of what happens meanwhile, so
work that settles does so however the parties take turns.

## Main definitions

* `CryoRig.Rig.Board.Answers`: the replies to a request that a board allows for.
* `CryoRig.Rig.Board.Allows`: what a party has to see to before it makes a request.
* `CryoRig.Rig.Settles`, `CryoRig.Rig.Keeps`: work that keeps to the rules from a board, and from
  every board on which its party may be in a role.
* `CryoRig.Rig.MayLaunch`: work that can still come to start an acquisition.

## Main results

* `CryoRig.Rig.changes_of_answers`: what a reply changes on a board.
* `CryoRig.Rig.Settles.bind`: work in sequence.
* `CryoRig.Rig.Keeps.of_yields`: work that changes nothing on a board settles.
-/

namespace CryoRig.Rig

open Control Process

/-! ## Requests -/

/-- A request to start the job of an acquisition. -/
def Launches : Request → Prop
  | .spawn (.program _) => False
  | .spawn _ => True
  | _ => False

/-- Work that can still come to start an acquisition. -/
def MayLaunch {β : Type} (work : RigWork β) : Prop := ¬work.AsksOnly fun r => ¬Launches r

/-- A request whose reply may not be there yet. -/
def MayWait : Request → Prop
  | .device .seize | .device (.sleep _) | .device (.write ..) | .device (.query ..) | .pause ..
  | .join .. | .takeDesk _ => True
  | _ => False

namespace Board

variable {κ : Nat}

/-- A request is made. -/
def enter (b : Board κ) (p : Party) : Request → Board κ
  | .takeDesk _ => b.setDesk (b.desk.arrive p)
  | _ => b

/-- The replies that a board allows for, each with the board after it. Either a caller that empties
the slot finds no program about to start an acquisition, or this spoils the board. -/
def Answers (b : Board κ) (p : Party) : (r : Request) → r.Reply → Board κ → Prop
  | .newToken, (token : Nat), b' => token = b.tokens.size ∧ b' = b.newToken
  | .fire token, _, b' => b' = b.fire token
  | .fired token, (reply : Bool), b' => reply = b.isFired token ∧ b' = b
  | .spawn job, (number : Nat), b' => number = b.count ∧ b' = b.spawn p job
  | .ended job, (reply : Bool), b' => (reply = true → b.role (.job job) = .absent) ∧ b' = b
  | .join job limit, (reply : Option Ending), b' =>
    (reply ≠ none → b.role (.job job) = .absent) ∧ (limit = none → reply ≠ none) ∧ b' = b
  | .slot console, (a? : Option Acquisition), b' => (console = κ → a? = b.slot) ∧ b' = b
  | .setSlot console a?, _, b' =>
    (console = κ → (b' = b.setSlot a? ∧ (b.IsCaller p → a? = none → b.Calm)) ∨
      (b.IsCaller p ∧ a? = none ∧ ¬b.Calm ∧ b' = (b.setSlot none).spoil)) ∧
      (console ≠ κ → b' = b)
  | .tryDesk, (reply : Bool), b' =>
    (b.desk.holder = none ∧ reply = true ∧ b' = b.setDesk (b.desk.arrive p)) ∨
      (reply = false ∧ b' = b)
  | .takeDesk limit, (reply : Bool), b' =>
    (b.desk.holder = some p ∧ reply = true ∧ b' = b) ∨
      (limit ≠ none ∧ reply = false ∧ b' = b.setDesk (b.desk.giveUp p))
  | .leaveDesk, _, b' => b' = b.setDesk b.desk.leave
  | .program, (job? : Option Nat), b' => job? = b.program ∧ b' = b
  | .setProgram job?, _, b' => b' = b.setProgram job?
  | .programToken, (token : Nat), b' => token = b.programToken ∧ b' = b.setMark p
  | .setProgramToken token, _, b' => b' = b.setProgramToken token
  | _, _, b' => b' = b

/-- What a party has to see to before it makes a request. Only a program that is about to start an
acquisition, or that is not cancelled, starts one. Unless the board is spoiled, a caller that says
it has stopped the session has cleared the jobs before the stop. -/
def Allows (b : Board κ) (p : Party) : Request → Prop
  | .spawn (.program run) => run.conduct.console = κ ∧ b.IsCaller p
  | .spawn _ => ∃ token start?, b.role p = .program token start? ∧
    (start? ≠ none ∨ b.isFired token = false)
  | .programToken => b.IsCaller p
  | .device r => r = .log .sessionStopped → b.IsCaller p → ¬b.spoiled → b.Cleared (b.mark p)
  | _ => True

/-! ## Waits -/

/-- Whoever waits for a reply in a role can go on from every board that it may find then. -/
def Resumes (p : Party) (r : Request) (may : Prop) (K : r.Reply → Board κ → Prop) (role : Role) :
    Prop :=
  role ≠ .absent ∧ (∀ token start?, role = .program token start? → start? ≠ none → may) ∧
    ∀ b : Board κ, b.Lawful → b.role p = role → ∀ reply b', b.Answers p r reply b' → K reply b'

/-- A party may make a request: it can go on if the reply is there, and otherwise there is a role in
which it can wait. -/
def Meets (b : Board κ) (p : Party) (r : Request) (may : Prop) (K : r.Reply → Board κ → Prop) :
    Prop :=
  b.Allows p r ∧ (∀ reply b', (b.enter p r).Answers p r reply b' → K reply b') ∧
    (MayWait r → ∃ role, (b.enter p r).Fits p role ∧ Resumes p r may K role)

end Board

variable {κ : Nat} {α β : Type}

/-- Wherever some work of a party comes to from a board, it keeps to the rules, and it ends with a
result and a board that are as stated. -/
def Settles (p : Party) (D : β → Board κ → Prop) : RigWork β → Board κ → Prop
  | .done a, b => D a b
  | .ask r next, b =>
    b.Meets p r (∃ reply, MayLaunch (next reply)) fun reply b' => Settles p D (next reply) b'

/-- From every board on which a party may be in a role, some work settles. -/
def Keeps (p : Party) (role : Role) (D : β → Board κ → Prop) (w : RigWork β) : Prop :=
  ∀ b : Board κ, b.Fits p role → Settles p D w b

/-! ## Rules -/

lemma MayLaunch.bind {x : RigWork α} {f : α → RigWork β} (h : MayLaunch x) : MayLaunch (x >>= f) :=
  fun hx => h hx.of_bind

lemma Board.Meets.mono {b : Board κ} {p : Party} {r : Request} {may may' : Prop}
    {K K' : r.Reply → Board κ → Prop} (h : b.Meets p r may K) (hm : may → may')
    (hK : ∀ reply b', K reply b' → K' reply b') : b.Meets p r may' K' := by
  refine ⟨h.1, fun reply b' ha => hK _ _ (h.2.1 reply b' ha), fun hw => ?_⟩
  obtain ⟨role, hf, ho, hs, hr⟩ := h.2.2 hw
  exact ⟨role, hf, ho, fun token start? he hn => hm (hs token start? he hn),
    fun b₂ hl he reply b' ha => hK _ _ (hr b₂ hl he reply b' ha)⟩

lemma Settles.mono {p : Party} {D E : β → Board κ → Prop} {w : RigWork β} {b : Board κ}
    (hw : Settles p D w b) (hD : ∀ a b, D a b → E a b) : Settles p E w b := by
  induction w generalizing b with
  | done a => exact hD a b hw
  | ask r next ih => exact Board.Meets.mono hw id fun reply b' h => ih reply h

/-- Work in sequence settles if its second part does from wherever the first one ends. -/
lemma Settles.bind {p : Party} {D : α → Board κ → Prop} {E : β → Board κ → Prop} {x : RigWork α}
    {f : α → RigWork β} {b : Board κ} (hx : Settles p D x b)
    (hf : ∀ a b, D a b → Settles p E (f a) b) : Settles p E (x >>= f) b := by
  change Settles p E (x.bind f) b
  induction x generalizing b with
  | done a => exact hf a b hx
  | ask r next ih =>
    refine Board.Meets.mono hx ?_ fun reply b' h => ih reply h
    rintro ⟨reply, hm⟩
    exact ⟨reply, hm.bind⟩

/-- A request that is answered at once. -/
lemma settles_ask {p : Party} {D : β → Board κ → Prop} {r : Request}
    {next : r.Reply → RigWork β} {b : Board κ} (hw : ¬MayWait r) (ha : b.Allows p r)
    (hK : ∀ reply b', b.Answers p r reply b' → Settles p D (next reply) b') :
    Settles p D (.ask r next) b := by
  have he : b.enter p r = b := by
    cases r with
    | takeDesk => exact absurd trivial hw
    | _ => rfl
  refine ⟨ha, ?_, fun h => absurd h hw⟩
  rwa [he]

/-- Only a caller that empties the slot may spoil a board. -/
lemma eq_setSlot_of_answers {b b' : Board κ} {p : Party} {a? : Option Acquisition} {reply : Unit}
    (ha : b.Answers p (.setSlot κ a?) reply b') (h : ¬b.IsCaller p ∨ a? ≠ none) :
    b' = b.setSlot a? := by
  rcases ha.1 rfl with ⟨he, -⟩ | ⟨hcaller, hnone, -⟩
  · exact he
  · rcases h with h | h
    · exact absurd hcaller h
    · exact absurd hnone h

/-- A request that changes nothing on a board. -/
def Tame : Request → Prop
  | .publish .. | .published _ | .ended _ | .join .. | .slot _ | .program => True
  | r => r.Plain

lemma Tame.of_plain {r : Request} (h : r.Plain) : Tame r := by
  cases r <;> first | exact h | trivial

lemma Tame.enter {r : Request} (h : Tame r) (b : Board κ) (p : Party) : b.enter p r = b := by
  cases r <;> first | rfl | cases h

lemma Tame.eq_of_answers {r : Request} (h : Tame r) {b b' : Board κ} {p : Party} {reply : r.Reply}
    (ha : b.Answers p r reply b') : b' = b := by
  cases r <;> first | exact ha | exact ha.2 | exact ha.2.2 | cases h

/-- A caller empties the slot while a program is about to start an acquisition. -/
def Board.SpoiledBy (b : Board κ) (p : Party) (r : Request) : Prop :=
  r = .setSlot κ none ∧ b.IsCaller p ∧ ¬b.Calm

/-- Two boards that differ in nothing but places and tokens. -/
structure Board.KeepsRoles (b : Board κ) (p : Party) (r : Request) (b' : Board κ) : Prop where
  role : b'.role = b.role
  count : b'.count = b.count
  mark : b'.mark = b.mark
  fired : ∀ token, b.isFired token = true → b'.isFired token = true
  spoiled : b'.spoiled → b.spoiled ∨ b.SpoiledBy p r

/-- What a reply changes on a board: there is a new job, or a stop begins, or the roles are kept. -/
lemma changes_of_answers {b b' : Board κ} {p : Party} {r : Request} {reply : r.Reply}
    (ha : b.Answers p r reply b') :
    (∃ job, r = .spawn job ∧ b' = b.spawn p job) ∨ (r = .programToken ∧ b' = b.setMark p) ∨
      b.KeepsRoles p r b' := by
  have hkeep (b' : Board κ) (hr : b'.role = b.role) (hc : b'.count = b.count)
      (hm : b'.mark = b.mark) (ht : b'.tokens = b.tokens) (hs : b'.spoiled → b.spoiled) :
      b.KeepsRoles p r b' :=
    ⟨hr, hc, hm, fun token h => by rwa [Board.isFired, ht], fun h => .inl (hs h)⟩
  by_cases hr : Tame r
  · obtain rfl := hr.eq_of_answers ha
    exact .inr (.inr (hkeep _ rfl rfl rfl rfl id))
  cases r with
  | device | bench | clock | calendar | fired | pause | present | create | append | publish
  | published | ended | join | slot | program => exact absurd trivial hr
  | spawn job =>
    obtain ⟨-, rfl⟩ := ha
    exact .inl ⟨job, rfl, rfl⟩
  | programToken =>
    obtain ⟨-, rfl⟩ := ha
    exact .inr (.inl ⟨rfl, rfl⟩)
  | newToken =>
    obtain ⟨-, rfl⟩ := ha
    exact .inr (.inr ⟨rfl, rfl, rfl, fun token h => (b.isFired_newToken token).trans h, .inl⟩)
  | fire token =>
    obtain rfl : b' = _ := ha
    exact .inr (.inr ⟨rfl, rfl, rfl, fun _ => b.isFired_fire_of token, .inl⟩)
  | setSlot console a? =>
    right; right
    by_cases hn : console = κ
    · subst hn
      rcases ha.1 rfl with ⟨rfl, -⟩ | ⟨hp, rfl, hcalm, rfl⟩
      · exact hkeep _ rfl rfl rfl rfl id
      · exact ⟨rfl, rfl, rfl, fun _ h => h, fun _ => .inr ⟨rfl, hp, hcalm⟩⟩
    · obtain rfl := ha.2 hn
      exact hkeep _ rfl rfl rfl rfl id
  | tryDesk =>
    right; right
    rcases ha with ⟨-, -, rfl⟩ | ⟨-, rfl⟩ <;> exact hkeep _ rfl rfl rfl rfl id
  | takeDesk =>
    right; right
    rcases ha with ⟨-, -, rfl⟩ | ⟨-, -, rfl⟩ <;> exact hkeep _ rfl rfl rfl rfl id
  | leaveDesk | setProgram | setProgramToken =>
    obtain rfl : b' = _ := ha
    exact .inr (.inr (hkeep _ rfl rfl rfl rfl id))

lemma spoiled_of_answers {b b' : Board κ} {p : Party} {r : Request} {reply : r.Reply}
    (ha : b.Answers p r reply b') (hs : b'.spoiled) : b.spoiled ∨ b.SpoiledBy p r := by
  rcases changes_of_answers ha with ⟨job, -, rfl⟩ | ⟨-, rfl⟩ | h
  · exact .inl hs
  · exact .inl hs
  · exact h.spoiled hs

/-- A request that changes nothing on a board and that a party in a role may make. -/
def TameIn (role : Role) (r : Request) : Prop :=
  Tame r ∧ (r = .device (.log .sessionStopped) → ∀ post, role ≠ .caller post)

lemma TameIn.allows {role : Role} {r : Request} (h : TameIn role r) {b : Board κ} {p : Party}
    (hp : b.Becomes (b.role p) role) (ho : role ≠ .absent) : b.Allows p r := by
  obtain ⟨ht, hs⟩ := h
  cases r with
  | device r =>
    rintro rfl ⟨post, hpost⟩
    rw [hpost] at hp
    cases hp with
    | caller _ post' => exact absurd rfl (hs rfl post')
    | finish => exact absurd rfl ho
  | spawn | programToken => cases ht
  | _ => trivial

/-- A role that a party may keep. -/
def Lasting (κ : Nat) (role : Role) : Prop :=
  (∀ b : Board κ, b.Becomes role role) ∧ role ≠ .absent ∧ ∀ token a, role ≠ .program token (some a)

/-- Work that changes nothing on a board settles in any role but that of a program about to start an
acquisition. -/
lemma Keeps.of_yields {p : Party} {role : Role} {D : β → Board κ → Prop} {w : RigWork β}
    {Q : β → Prop} (hr : Lasting κ role) (hw : w.Yields (TameIn role) Q)
    (hD : ∀ a (b : Board κ), Q a → b.Fits p role → D a b) : Keeps p role D w := by
  induction w with
  | done a => exact fun b hb => hD a b hw hb
  | ask r next ih =>
    intro b hb
    obtain ⟨hlast, hpresent, hstart⟩ := hr
    refine ⟨hw.1.allows hb.1 hpresent, fun reply b' ha => ?_, fun _ => ⟨role, ?_, hpresent, ?_, ?_⟩⟩
    · rw [hw.1.1.enter] at ha
      obtain rfl := hw.1.1.eq_of_answers ha
      exact ih reply (hw.2 reply) b' hb
    · rwa [hw.1.1.enter]
    · intro token start? he hn
      cases start? with
      | none => exact absurd rfl hn
      | some a => exact absurd he (hstart token a)
    · intro b₂ hl he reply b' ha
      obtain rfl := hw.1.1.eq_of_answers ha
      exact ih reply (hw.2 reply) b' (hl.fits he (hlast b'))

lemma lasting_caller (post : Post) : Lasting κ (.caller post) :=
  ⟨fun _ => .caller .., by simp, by simp⟩

lemma lasting_program (token : Nat) : Lasting κ (.program token none) :=
  ⟨fun _ => .go .., by simp, by simp⟩

lemma lasting_acquisition (token : Nat) (starter : Party) :
    Lasting κ (.acquisition token starter) :=
  ⟨fun _ => .sample .., by simp, by simp⟩

/-- Work that changes nothing on a board, and whose replies are all there at once, may precede
anything. -/
lemma Settles.quick {p : Party} {role : Role} {D : β → Board κ → Prop} {x : RigWork α}
    {f : α → RigWork β} {b : Board κ} (hp : b.Becomes (b.role p) role) (ho : role ≠ .absent)
    (hx : x.AsksOnly fun r => TameIn role r ∧ ¬MayWait r) (hf : ∀ a, Settles p D (f a) b) :
    Settles p D (x >>= f) b := by
  change Settles p D (x.bind f) b
  induction x with
  | done a => exact hf a
  | ask r next ih =>
    refine settles_ask hx.1.2 (hx.1.1.allows hp ho) fun reply b' ha => ?_
    obtain rfl := hx.1.1.1.eq_of_answers ha
    exact ih reply (hx.2 reply)

end CryoRig.Rig
