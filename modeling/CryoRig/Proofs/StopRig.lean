import CryoRig.Proofs.StopCalls

/-!
# Boards of a rig

A board *pictures* a rig if it shows what matters of it. Every reply of the rig is one that the
board allows for, and the board after the reply pictures the rig after it. What is cleared on a
board, what has ended and what was fired stays so.

## Main definitions

* `CryoRig.Rig.Pictures`: a board shows what matters of a rig.
* `CryoRig.Rig.Board.Succeeds`: what of a board stays as it is.
* `CryoRig.Rig.AllRest`: all jobs but the one that is running can go on.

## Main results

* `CryoRig.Rig.Pictures.answers`: replies of a rig are replies that its board allows for.
* `CryoRig.Rig.ask_cases`: whoever makes a request goes on with the reply, or can wait for it.
* `CryoRig.Rig.resume_cases`: whoever waited goes on with the reply.
-/

namespace CryoRig.Rig

open Control

variable {κ : Nat} {α β : Type} {site : Site RigSurroundings}

lemma State.console_setConsole (s : State) (number other : Nat) (c : Console) :
    (s.setConsole number c).console other = if other = number then c else s.console other := by
  simp only [console, setConsole, List.getElem?_set, List.length_append, List.length_replicate]
  by_cases h : other = number
  · subst h
    have hlt : other < s.consoles.length + (other + 1 - s.consoles.length) := by omega
    simp [hlt]
  · simp only [if_neg h, if_neg (Ne.symm h), List.getElem?_append, List.getElem?_replicate]
    split
    · rfl
    · rename_i hlt
      have hnone : s.consoles[other]? = none := List.getElem?_eq_none (by omega)
      rw [hnone]
      split <;> rfl

/-- A board shows what matters of a rig. -/
structure Pictures (b : Board κ) (s : State) : Prop where
  /-- The tokens. -/
  tokens : b.tokens = s.tokens
  /-- The slot of the console. -/
  slot : b.slot = (s.console κ).slot
  /-- The program desk. -/
  desk : b.desk = s.desk
  /-- The program on it. -/
  program : b.program = s.program
  /-- Its token. -/
  programToken : b.programToken = s.programToken
  /-- The number of jobs. -/
  count : b.count = s.jobs.size
  /-- The jobs that have ended. -/
  absent : ∀ n < s.jobs.size, b.role (.job n) = .absent ↔ ∃ ending, s.ending? n = some ending
  /-- Only jobs that were started have a part to play. -/
  born : ∀ n, b.role (.job n) ≠ .absent → n < b.count
  /-- Stops began in the past. -/
  mark_le : ∀ p, b.mark p ≤ b.count

/-- Two rigs that differ in nothing that matters. -/
structure Alike (s t : State) : Prop where
  tokens : t.tokens = s.tokens
  jobs : t.jobs = s.jobs
  consoles : t.consoles = s.consoles
  desk : t.desk = s.desk
  program : t.program = s.program
  programToken : t.programToken = s.programToken

lemma Alike.refl (s : State) : Alike s s := ⟨rfl, rfl, rfl, rfl, rfl, rfl⟩

lemma Pictures.of_alike {b : Board κ} {s t : State} (h : Pictures b s) (ha : Alike s t) :
    Pictures b t where
  tokens := h.tokens.trans ha.tokens.symm
  slot := by
    rw [h.slot, State.console, State.console, ha.consoles]
  desk := h.desk.trans ha.desk.symm
  program := h.program.trans ha.program.symm
  programToken := h.programToken.trans ha.programToken.symm
  count := by rw [h.count, ha.jobs]
  absent n hn := by
    rw [ha.jobs] at hn
    rw [h.absent n hn, State.ending?, State.ending?, ha.jobs]
  born := h.born
  mark_le := h.mark_le

/-- A request to wait for a place or an end without a limit. -/
def Untimed : Request → Prop
  | .takeDesk limit | .join _ limit => limit = none
  | _ => False

/-! ## What is answered -/

section Answers

variable {s t : State} {p : Party} {alarm : Option Nat} {b : Board κ}

lemma alike_wakeParty (s : State) (p : Option Party) : Alike s (s.wakeParty p) := by
  unfold State.wakeParty
  split
  · split <;> exact ⟨rfl, rfl, rfl, rfl, rfl, rfl⟩
  · exact .refl s

lemma Alike.trans {u : State} (h : Alike s t) (h' : Alike t u) : Alike s u :=
  ⟨h'.tokens.trans h.tokens, h'.jobs.trans h.jobs, h'.consoles.trans h.consoles,
    h'.desk.trans h.desk, h'.program.trans h.program, h'.programToken.trans h.programToken⟩

lemma alike_receiveInTime {δ : Type} {id command : String} {expected : Bool}
    {outcome : Transport.Answer → Except DeviceFault δ} {reply : Option (Except DeviceFault δ)}
    (h : s.receiveInTime alarm id command expected outcome = some (reply, t)) : Alike s t := by
  unfold State.receiveInTime State.receive at h
  split at h
  · cases h
    exact .refl s
  · split at h
    · cases h
      split <;> exact ⟨rfl, rfl, rfl, rfl, rfl, rfl⟩
    · cases h

lemma alike_of_answerDevice? {r : Instrument.Request} {reply : r.Reply}
    (h : s.answerDevice? p alarm r = some (reply, t)) : Alike s t := by
  cases r with
  | write | query => exact alike_receiveInTime h
  | release =>
    cases h
    have hbus : Alike s { s with bus := s.bus.leave } := ⟨rfl, rfl, rfl, rfl, rfl, rfl⟩
    exact hbus.trans (alike_wakeParty ..)
  | log =>
    cases h
    exact ⟨rfl, rfl, rfl, rfl, rfl, rfl⟩
  | seize | sleep =>
    simp only [State.answerDevice?] at h
    split at h <;> cases h
    exact .refl s

lemma alike_createFile (s : State) (path : String) : Alike s (s.createFile path).2 := by
  unfold State.createFile
  split
  · exact .refl s
  · split <;> exact ⟨rfl, rfl, rfl, rfl, rfl, rfl⟩

lemma alike_appendFile (s : State) (file : Nat) (text : String) :
    Alike s (s.appendFile file text).2 := by
  unfold State.appendFile
  split
  · exact .refl s
  · split
    · exact .refl s
    · exact ⟨rfl, rfl, rfl, rfl, rfl, rfl⟩

/-- What keeps to itself changes nothing that matters. -/
lemma alike_of_plain {r : Request} {reply : r.Reply} (hr : r.Plain)
    (h : s.answer? p alarm r = some (reply, t)) : Alike s t := by
  cases r with
  | device r => exact alike_of_answerDevice? h
  | create path =>
    have ht : s.createFile path = (reply, t) := Option.some.inj h
    simpa [ht] using alike_createFile s path
  | append file text =>
    have ht : s.appendFile file text = (reply, t) := Option.some.inj h
    simpa [ht] using alike_appendFile s file text
  | pause =>
    simp only [State.answer?] at h
    repeat' split at h
    all_goals cases h
    all_goals exact .refl s
  | bench | clock | calendar | fired | present =>
    cases h
    exact ⟨rfl, rfl, rfl, rfl, rfl, rfl⟩
  | _ => cases hr

lemma Pictures.isFired (hb : Pictures b s) (token : Nat) : b.isFired token = s.isFired token := by
  rw [Board.isFired, State.isFired, hb.tokens]

lemma Pictures.absent_of_ending? (hb : Pictures b s) {n : Nat} {ending : Ending}
    (h : s.ending? n = some ending) : b.role (.job n) = .absent := by
  refine (hb.absent n ?_).2 ⟨ending, h⟩
  by_cases hn : n < s.jobs.size
  · exact hn
  · rw [State.ending?, Array.getElem?_eq_none (by omega)] at h
    cases h

lemma Pictures.spawn (hb : Pictures b s) {job : Job} {ready : List Nat} :
    Pictures (b.spawn p job)
      { s with jobs := s.jobs.push (.running (.done (.again job))), ready := ready } where
  tokens := hb.tokens
  slot := hb.slot
  desk := hb.desk
  program := hb.program
  programToken := hb.programToken
  count := by
    rw [Array.size_push, ← hb.count]
    rfl
  absent n hn := by
    rw [Array.size_push] at hn
    by_cases hlt : n < s.jobs.size
    · have hne : Party.job n ≠ .job b.count := by
        simp only [ne_eq, Party.job.injEq, hb.count]
        omega
      rw [Board.role_spawn_of_ne _ _ hne, hb.absent n hlt, State.ending?, State.ending?,
        Array.getElem?_push_lt hlt, Array.getElem?_eq_getElem hlt]
    · obtain rfl : n = b.count := by
        rw [hb.count]
        omega
      rw [Board.role_spawn_self, State.ending?, hb.count, Array.getElem?_push_size]
      constructor
      · intro he
        cases job <;> cases he
      · rintro ⟨ending, he⟩
        cases he
  born n hn := by
    by_cases hnn : n = b.count
    · exact Nat.lt_succ_of_le (Nat.le_of_eq hnn)
    · rw [Board.role_spawn_of_ne _ _ (by simpa using hnn)] at hn
      exact Nat.lt_succ_of_lt (hb.born n hn)
  mark_le q := Nat.le_succ_of_le (hb.mark_le q)

/-- Whoever joins a job is told that it has ended, or is no longer waiting. -/
lemma Pictures.join (hb : Pictures b s) {job : Nat} {limit : Option Instant}
    {reply : (Request.join job limit).Reply} (h : s.answer? p alarm (.join job limit) =
      some (reply, t)) (hu : Untimed (.join job limit) → alarm = none) :
    ∃ b', b.Answers p (.join job limit) reply b' ∧ Pictures b' t := by
  simp only [State.answer?] at h
  split at h
  · rename_i ending he
    cases h
    exact ⟨b, ⟨fun _ => hb.absent_of_ending? he, fun _ => by simp, rfl⟩, hb⟩
  · split at h
    · rename_i hrung
      cases h
      refine ⟨b, ⟨fun hn => absurd rfl hn, fun hl => ?_, rfl⟩, hb⟩
      rw [hu hl] at hrung
      cases hrung
    · cases h

/-- A slot of another console does not matter. A caller that empties the one that does spoils the
board unless it is calm. -/
lemma Pictures.setSlot (hb : Pictures b s) (p : Party) (console : Nat) (a? : Option Acquisition) :
    ∃ b', b.Answers p (.setSlot console a?) () b' ∧
      Pictures b' (s.setConsole console { s.console console with slot := a? }) := by
  by_cases hn : console = κ
  · subst hn
    have hslot : (b.setSlot a?).slot =
        ((s.setConsole console { s.console console with slot := a? }).console console).slot := by
      rw [State.console_setConsole, if_pos rfl]
      rfl
    by_cases hc : b.IsCaller p ∧ a? = none ∧ ¬b.Calm
    · obtain ⟨hp, rfl, hcalm⟩ := hc
      exact ⟨(b.setSlot none).spoil, ⟨fun _ => .inr ⟨hp, rfl, hcalm, rfl⟩,
        fun hne => absurd rfl hne⟩, { hb with slot := hslot }⟩
    · refine ⟨b.setSlot a?, ⟨fun _ => .inl ⟨rfl, fun hp ha => ?_⟩, fun hne => absurd rfl hne⟩,
        { hb with slot := hslot }⟩
      exact Classical.not_not.1 fun hn => hc ⟨hp, ha, hn⟩
  · refine ⟨b, ⟨fun he => absurd he hn, fun _ => rfl⟩, { hb with slot := ?_ }⟩
    rw [State.console_setConsole, if_neg (Ne.symm hn), hb.slot]

lemma Pictures.tryDesk (hb : Pictures b s) {reply : Request.tryDesk.Reply}
    (h : s.answer? p alarm .tryDesk = some (reply, t)) :
    ∃ b', b.Answers p .tryDesk reply b' ∧ Pictures b' t := by
  simp only [State.answer?] at h
  split at h
  · rename_i hd
    cases h
    refine ⟨b.setDesk (b.desk.arrive p), .inl ⟨by rw [hb.desk, hd], rfl, rfl⟩, ?_⟩
    exact { hb with desk := by rw [Board.setDesk, hb.desk] }
  · cases h
    exact ⟨b, .inr ⟨rfl, rfl⟩, hb⟩

/-- Whoever takes the desk has it, or gives up and leaves the queue. -/
lemma Pictures.takeDesk (hb : Pictures b s) {limit : Option Instant}
    {reply : (Request.takeDesk limit).Reply} (h : s.answer? p alarm (.takeDesk limit) =
      some (reply, t)) (hu : Untimed (.takeDesk limit) → alarm = none) :
    ∃ b', b.Answers p (.takeDesk limit) reply b' ∧ Pictures b' t := by
  simp only [State.answer?] at h
  split at h
  · rename_i hd
    cases h
    exact ⟨b, .inl ⟨by rw [hb.desk, hd], rfl, rfl⟩, hb⟩
  · split at h
    · rename_i hrung
      cases h
      refine ⟨b.setDesk (b.desk.giveUp p), .inr ⟨fun hl => ?_, rfl, rfl⟩, ?_⟩
      · rw [hu hl] at hrung
        cases hrung
      · exact { hb with desk := by rw [Board.setDesk, hb.desk] }
    · cases h

/-- The reply of a rig is one that its board allows for. -/
lemma Pictures.answers (hb : Pictures b s) {r : Request} {reply : r.Reply}
    (h : s.answer? p alarm r = some (reply, t)) (hu : Untimed r → alarm = none) :
    ∃ b', b.Answers p r reply b' ∧ Pictures b' t := by
  by_cases hr : r.Plain
  · refine ⟨b, ?_, hb.of_alike (alike_of_plain hr h)⟩
    cases r with
    | fired token =>
      cases h
      exact ⟨(hb.isFired token).symm, rfl⟩
    | device | bench | clock | calendar | pause | present | create | append => exact rfl
    | _ => cases hr
  cases r with
  | device | bench | clock | calendar | fired | pause | present | create | append =>
    exact absurd trivial hr
  | newToken =>
    cases h
    refine ⟨b.newToken, ⟨by rw [hb.tokens], rfl⟩, ?_⟩
    exact { hb with tokens := by rw [Board.newToken, Board.setTokens, hb.tokens] }
  | fire token =>
    cases h
    refine ⟨b.fire token, rfl, ?_⟩
    exact { hb with tokens := by rw [Board.fire, Board.setTokens, hb.tokens]; rfl }
  | spawn job =>
    cases h
    exact ⟨b.spawn p job, ⟨hb.count.symm, rfl⟩, hb.spawn⟩
  | ended job =>
    cases h
    refine ⟨b, ⟨fun he => ?_, rfl⟩, hb⟩
    obtain ⟨ending, he⟩ := Option.isSome_iff_exists.1 he
    exact hb.absent_of_ending? he
  | join => exact hb.join h hu
  | publish console state =>
    cases h
    refine ⟨b, rfl, { hb with slot := ?_ }⟩
    rw [State.console_setConsole, hb.slot]
    split
    · rename_i hn
      rw [hn]
    · rfl
  | published console =>
    cases h
    exact ⟨b, rfl, hb⟩
  | slot console =>
    cases h
    refine ⟨b, ⟨fun hn => ?_, rfl⟩, hb⟩
    rw [hn, hb.slot]
  | setSlot =>
    cases h
    exact hb.setSlot ..
  | tryDesk => exact hb.tryDesk h
  | takeDesk => exact hb.takeDesk h hu
  | leaveDesk =>
    cases h
    refine ⟨b.setDesk b.desk.leave, rfl, ?_⟩
    have hd : Pictures (b.setDesk b.desk.leave) { s with desk := s.desk.leave } :=
      { hb with desk := by rw [Board.setDesk, hb.desk] }
    exact hd.of_alike (alike_wakeParty ..)
  | program =>
    cases h
    exact ⟨b, ⟨hb.program.symm, rfl⟩, hb⟩
  | setProgram job? =>
    cases h
    exact ⟨b.setProgram job?, rfl, { hb with program := rfl }⟩
  | programToken =>
    cases h
    refine ⟨b.setMark p, ⟨hb.programToken.symm, rfl⟩, { hb with mark_le := fun q => ?_ }⟩
    change (if q = p then b.count else b.mark q) ≤ b.count
    split
    · exact Nat.le_refl _
    · exact hb.mark_le q
  | setProgramToken token =>
    cases h
    exact ⟨b.setProgramToken token, rfl, { hb with programToken := rfl }⟩

lemma Pictures.enter (hb : Pictures b s) (p : Party) (r : Request) :
    Pictures (b.enter p r) (s.enter p r).2 := by
  have hsend (id command : String) (sending : Sending) : Alike s (s.send id command sending).2 := by
    unfold State.send
    split
    · exact ⟨rfl, rfl, rfl, rfl, rfl, rfl⟩
    · exact .refl s
  cases r with
  | device r =>
    refine hb.of_alike ?_
    cases r with
    | write | query => exact hsend ..
    | _ => exact ⟨rfl, rfl, rfl, rfl, rfl, rfl⟩
  | takeDesk => exact { hb with desk := by rw [Board.enter, Board.setDesk, hb.desk]; rfl }
  | _ => exact hb

lemma jobs_enter (s : State) (p : Party) (r : Request) : (s.enter p r).2.jobs = s.jobs := by
  unfold State.enter
  split <;> first | rfl | (unfold State.send; split <;> rfl)

lemma consoles_enter (s : State) (p : Party) (r : Request) :
    (s.enter p r).2.consoles = s.consoles := by
  unfold State.enter
  split <;> first | rfl | (unfold State.send; split <;> rfl)

lemma alarm_enter_of_untimed {r : Request} (h : Untimed r) : (s.enter p r).1 = none := by
  cases r with
  | takeDesk | join =>
    cases h
    rfl
  | _ => cases h

lemma mayWait_of_answer?_eq_none {r : Request} (h : s.answer? p alarm r = none) : MayWait r := by
  cases r with
  | device r => cases r with
    | release | log => cases h
    | _ => trivial
  | pause | join | takeDesk => trivial
  | tryDesk =>
    simp only [State.answer?] at h
    split at h <;> cases h
  | _ => cases h

lemma jobs_of_answer? {r : Request} {reply : r.Reply}
    (h : s.answer? p alarm r = some (reply, t)) :
    t.jobs = s.jobs ∨
      ∃ job, r = .spawn job ∧ t.jobs = s.jobs.push (.running (.done (.again job))) := by
  by_cases hr : r.Plain
  · exact .inl (alike_of_plain hr h).jobs
  cases r with
  | device | bench | clock | calendar | fired | pause | present | create | append =>
    exact absurd trivial hr
  | spawn job =>
    cases h
    exact .inr ⟨job, rfl, rfl⟩
  | leaveDesk =>
    cases h
    exact .inl (alike_wakeParty ..).jobs
  | join | tryDesk | takeDesk =>
    simp only [State.answer?] at h
    repeat' split at h
    all_goals cases h
    all_goals exact .inl rfl
  | _ =>
    cases h
    exact .inl rfl

end Answers

/-! ## What stays -/

/-- What of a board stays as it is. -/
structure Board.Succeeds (b b' : Board κ) : Prop where
  /-- A token that was fired stays so. -/
  fired : ∀ token, b.isFired token = true → b'.isFired token = true
  /-- There are more and more jobs. -/
  count_le : b.count ≤ b'.count
  /-- Later stops are later. -/
  mark_le : ∀ p, b.mark p ≤ b'.mark p
  /-- A caller calls until its end. -/
  caller : ∀ p, b.IsCaller p → b'.IsCaller p ∨ b'.role p = .absent
  /-- An acquisition samples until its end. -/
  acquisition : ∀ p token starter, b.role p = .acquisition token starter →
    b'.role p = .acquisition token starter ∨ b'.role p = .absent
  /-- The end is the end. -/
  absent : ∀ n < b.count, b.role (.job n) = .absent → b'.role (.job n) = .absent
  /-- What is cleared stays cleared. -/
  cleared : ∀ bound, b.Cleared bound → b'.Cleared bound

namespace Board

variable {b b' b'' : Board κ} {p : Party}

lemma Succeeds.refl (b : Board κ) : b.Succeeds b :=
  ⟨fun _ h => h, Nat.le_refl _, fun _ => Nat.le_refl _, fun _ h => .inl h, fun _ _ _ h => .inl h,
    fun _ _ h => h, fun _ h => h⟩

lemma Succeeds.put {r : Role} (hr : b.Becomes (b.role p) r) : b.Succeeds (b.put p r) where
  fired _ h := h
  count_le := Nat.le_refl _
  mark_le _ := Nat.le_refl _
  caller q := by
    rintro ⟨post, hq⟩
    by_cases hqp : q = p
    · subst hqp
      rw [hq] at hr
      cases hr with
      | caller _ post' => exact .inl ⟨post', b.role_put_self ..⟩
      | finish => exact .inr (b.role_put_self ..)
    · exact .inl ⟨post, by rw [role_put_of_ne _ _ hqp, hq]⟩
  acquisition q token starter hq := by
    by_cases hqp : q = p
    · subst hqp
      rw [hq] at hr
      cases hr with
      | sample => exact .inl (b.role_put_self ..)
      | finish => exact .inr (b.role_put_self ..)
    · exact .inl (by rw [role_put_of_ne _ _ hqp, hq])
  absent n _ hn := by
    by_cases hqp : Party.job n = p
    · subst hqp
      rw [hn] at hr
      cases hr
      exact b.role_put_self ..
    · rw [role_put_of_ne _ _ hqp, hn]
  cleared _ h := h.put hr

/-- Nothing but tokens is at stake if the roles stay. -/
lemma Succeeds.of_role_eq (hrole : b'.role = b.role) (hcount : b'.count = b.count)
    (hf : ∀ token, b.isFired token = true → b'.isFired token = true)
    (hmark : ∀ p, b.mark p ≤ b'.mark p) : b.Succeeds b' where
  fired := hf
  count_le := Nat.le_of_eq hcount.symm
  mark_le := hmark
  caller p h := .inl (by rwa [IsCaller, hrole])
  acquisition p token starter h := .inl (by rw [hrole, h])
  absent n _ h := by rw [hrole, h]
  cleared bound h := by
    refine ⟨hcount ▸ h.1, fun t ht => ⟨fun token start? hp => ?_, fun e token he => ?_⟩⟩
    · rw [hrole] at hp
      exact ((h.2 t ht).1 token start? hp).imp_left (hf _)
    · rw [hrole] at he
      exact hf _ ((h.2 t ht).2 e token he)

lemma Succeeds.spawn {job : Job} (hborn : ∀ n, b.role (.job n) ≠ .absent → n < b.count)
    (ha : b.Allows p (.spawn job)) : b.Succeeds (b.spawn p job) where
  fired _ h := h
  count_le := Nat.le_succ _
  mark_le _ := Nat.le_refl _
  caller q := by
    rintro ⟨post, hq⟩
    refine .inl ⟨post, ?_⟩
    rw [role_spawn_of_ne, hq]
    rintro rfl
    exact absurd (hborn b.count (by simp [hq])) (Nat.lt_irrefl _)
  acquisition q token starter hq := by
    refine .inl ?_
    rw [role_spawn_of_ne, hq]
    rintro rfl
    exact absurd (hborn b.count (by simp [hq])) (Nat.lt_irrefl _)
  absent n hn h := by
    rw [role_spawn_of_ne, h]
    simp only [ne_eq, Party.job.injEq]
    omega
  cleared bound h := by
    refine h.spawn fun t ht token he => ?_
    cases job with
    | program => cases he
    | ticking | supervision =>
      obtain ⟨token', start?, hp, hn⟩ := ha
      cases he
      have hc := (h.2 t ht).1 _ _ hp
      rcases hn with hn | hn
      · exact hn hc.2
      · rw [hc.1] at hn
        cases hn

lemma Succeeds.of_enter {r : Request} (h : (b.enter p r).Succeeds b') : b.Succeeds b' := by
  cases r with
  | takeDesk => exact ⟨h.fired, h.count_le, h.mark_le, h.caller, h.acquisition, h.absent, h.cleared⟩
  | _ => exact h

/-- A board and the one after a reply. -/
lemma Succeeds.of_answers {r : Request} {reply : r.Reply}
    (hborn : ∀ n, b.role (.job n) ≠ .absent → n < b.count) (hmark : ∀ p, b.mark p ≤ b.count)
    (hallow : b.Allows p r) (ha : b.Answers p r reply b') : b.Succeeds b' := by
  rcases changes_of_answers ha with ⟨job, rfl, rfl⟩ | ⟨-, rfl⟩ | h
  · exact .spawn hborn hallow
  · refine .of_role_eq rfl rfl (fun _ h => h) fun q => ?_
    change b.mark q ≤ if q = p then b.count else b.mark q
    split
    · exact hmark q
    · exact Nat.le_refl _
  · exact .of_role_eq h.role h.count h.fired fun q => Nat.le_of_eq (by rw [h.mark])

end Board

/-! ## Who rests -/

/-- Work that waits in a role can go on. -/
def Waits (p : Party) (role : Role) (D : β → Board κ → Prop) (w : Waiting β) : Prop :=
  Board.Resumes p w.request (∃ reply, MayLaunch (w.next reply))
    (fun reply b' => Settles p D (w.next reply) b') role ∧
    MayWait w.request ∧ (Untimed w.request → w.alarm = none)

/-- A job that is not running just now can go on. -/
def Rests (κ n : Nat) (role : Role) : JobStatus → Prop
  | .running work => (∀ token a, role ≠ .program token (some a)) ∧
    ∀ b : Board κ, b.Lawful → b.role (.job n) = role →
      Settles (.job n) (Continues (.job n)) work b
  | .waiting w => Waits (κ := κ) (.job n) role (Continues (.job n)) w
  | .ended _ => True

/-- All jobs but the one that is running can go on. -/
def AllRest (b : Board κ) (s : State) (current : Option Nat) : Prop :=
  ∀ n status, s.jobs[n]? = some status → current ≠ some n → Rests κ n (b.role (.job n)) status

lemma rests_new {n : Nat} {starter : Party} {job : Job} (hj : RunsOn κ job) :
    Rests κ n (.ofJob starter job) (.running (.done (.again job))) := by
  refine ⟨fun token a he => ?_, fun b hl hr => ⟨hj, starter, hl.fits hr ?_⟩⟩
  · cases job <;> cases he
  · cases job with
    | program => exact .go ..
    | ticking | supervision => exact .sample ..

section Step

variable {s t : State} {p : Party} {alarm : Option Nat} {b b' : Board κ}

/-- Roles stay as they are, but for that of a new job. -/
def Board.SameRoles (b b' : Board κ) : Prop :=
  ∀ q, b'.role q = b.role q ∨ q = .job b.count ∧ ∃ starter job, b'.role q = .ofJob starter job

lemma Board.SameRoles.role_eq (h : b.SameRoles b') {q : Party} (hq : q ≠ .job b.count) :
    b'.role q = b.role q :=
  (h q).resolve_right fun hn => hq hn.1

lemma Board.SameRoles.role_eq_caller (h : b.SameRoles b') {q : Party} {post : Post}
    (hq : b'.role q = .caller post) : b.role q = .caller post := by
  rcases h q with hr | ⟨-, starter, job, hr⟩
  · rw [← hr, hq]
  · rw [hq] at hr
    cases job <;> cases hr

lemma Board.Answers.sameRoles {r : Request} {reply : r.Reply} (ha : b.Answers p r reply b') :
    b.SameRoles b' := by
  intro q
  rcases changes_of_answers ha with ⟨job, -, rfl⟩ | ⟨-, rfl⟩ | h
  · by_cases hq : q = .job b.count
    · subst hq
      exact .inr ⟨rfl, p, job, b.role_spawn_self p job⟩
    · exact .inl (b.role_spawn_of_ne job hq)
  · exact .inl rfl
  · exact .inl (by rw [h.role])

/-- After a reply all jobs can go on that could before, and so can a new one. -/
lemma AllRest.answers {current : Option Nat} {r : Request} {reply : r.Reply}
    (h : AllRest b s current) (hb : Pictures b s) (hs : s.answer? p alarm r = some (reply, t))
    (hallow : b.Allows p r) (ha : b.Answers p r reply b') : AllRest b' t current := by
  have hold {n : Nat} {status : JobStatus} (hn : s.jobs[n]? = some status)
      (hc : current ≠ some n) : Rests κ n (b'.role (.job n)) status := by
    rw [ha.sameRoles.role_eq]
    · exact h n status hn hc
    · obtain ⟨hlt, -⟩ := Array.getElem?_eq_some_iff.1 hn
      simp only [ne_eq, Party.job.injEq, hb.count]
      omega
  intro n status hn hc
  rcases jobs_of_answer? hs with ht | ⟨job, rfl, ht⟩
  · rw [ht] at hn
    exact hold hn hc
  · rw [ht, Array.getElem?_push] at hn
    split at hn
    · rename_i he
      cases hn
      obtain ⟨-, rfl⟩ := ha
      rw [he, ← hb.count, Board.role_spawn_self]
      refine rests_new ?_
      cases job with
      | program run => exact hallow.1
      | _ => trivial
    · exact hold hn hc

lemma AllRest.of_eq {current : Option Nat} (h : AllRest b s current) (hj : t.jobs = s.jobs)
    (hr : ∀ n, b'.role (.job n) = b.role (.job n)) : AllRest b' t current := by
  intro n status hn hc
  rw [hj] at hn
  rw [hr]
  exact h n status hn hc

/-- A job goes on to rest. -/
lemma AllRest.rest {n : Nat} {r : Role} {status : JobStatus} (h : AllRest b s (some n))
    (hr : Rests κ n r status) : AllRest (b.put (.job n) r) (s.setJob n status) none := by
  intro m status' hm _
  rw [State.setJob, Array.getElem?_setIfInBounds] at hm
  by_cases hmn : m = n
  · subst hmn
    rw [if_pos rfl] at hm
    split at hm
    · cases hm
      rwa [Board.role_put_self]
    · cases hm
  · rw [if_neg (Ne.symm hmn)] at hm
    rw [Board.role_put_of_ne _ _ (by simpa using hmn)]
    exact h m status' hm (by simpa using Ne.symm hmn)

/-- A job goes on running. -/
lemma AllRest.run {n : Nat} (h : AllRest b s (some n)) (r : Role) (status : JobStatus) :
    AllRest (b.put (.job n) r) (s.setJob n status) (some n) := by
  intro m status' hm hmn
  have hne : m ≠ n := by
    rintro rfl
    exact hmn rfl
  rw [State.setJob, Array.getElem?_setIfInBounds, if_neg (Ne.symm hne)] at hm
  rw [Board.role_put_of_ne _ _ (by simpa using hne)]
  exact h m status' hm hmn

lemma Pictures.setJob (hb : Pictures b s) {n : Nat} (r : Role) (status : JobStatus)
    (hn : b.role (.job n) ≠ .absent) (hr : r = .absent ↔ ∃ ending, status = .ended ending) :
    Pictures (b.put (.job n) r) (s.setJob n status) where
  tokens := hb.tokens
  slot := hb.slot
  desk := hb.desk
  program := hb.program
  programToken := hb.programToken
  count := by
    rw [State.setJob, Array.size_setIfInBounds]
    exact hb.count
  absent m hm := by
    rw [State.setJob, Array.size_setIfInBounds] at hm
    rw [State.ending?, State.setJob, Array.getElem?_setIfInBounds]
    by_cases hmn : m = n
    · subst hmn
      rw [Board.role_put_self, if_pos rfl, if_pos hm, hr]
      cases status <;> simp
    · rw [Board.role_put_of_ne _ _ (by simpa using hmn), if_neg (Ne.symm hmn), hb.absent m hm,
        State.ending?]
  born m hm := by
    by_cases hmn : m = n
    · subst hmn
      exact hb.born m hn
    · rw [Board.role_put_of_ne _ _ (by simpa using hmn)] at hm
      exact hb.born m hm
  mark_le := hb.mark_le

lemma Pictures.put_foreground (hb : Pictures b s) (r : Role) :
    Pictures (b.put .foreground r) s where
  tokens := hb.tokens
  slot := hb.slot
  desk := hb.desk
  program := hb.program
  programToken := hb.programToken
  count := hb.count
  absent n hn := by
    rw [Board.role_put_of_ne _ _ (by simp)]
    exact hb.absent n hn
  born n hn := by
    rw [Board.role_put_of_ne _ _ (by simp)] at hn
    exact hb.born n hn
  mark_le := hb.mark_le

lemma Board.role_enter (b : Board κ) (p : Party) (r : Request) : (b.enter p r).role = b.role := by
  cases r <;> rfl

lemma Board.spoiled_enter (b : Board κ) (p : Party) (r : Request) :
    (b.enter p r).spoiled ↔ b.spoiled := by
  cases r <;> rfl

lemma Board.count_enter (b : Board κ) (p : Party) (r : Request) :
    (b.enter p r).count = b.count := by
  cases r <;> rfl

/-- A party that makes a request goes on with the reply, or can wait for it. -/
lemma ask_cases {D : β → Board κ → Prop} {r : Request} {next : r.Reply → RigWork β}
    (hb : Pictures b s) (hset : Settles p D (.ask r next) b) :
    (∃ reply t b', ask s p r next = (.inl (next reply), t) ∧ Pictures b' t ∧
        Settles p D (next reply) b' ∧ b.Succeeds b' ∧ (b.enter p r).Answers p r reply b' ∧
        b.SameRoles b' ∧ ∀ current, AllRest b s current → AllRest b' t current) ∨
      ∃ w t role, ask s p r next = (.inr w, t) ∧ MayWait r ∧ t.jobs = s.jobs ∧
        Pictures (b.enter p r) t ∧ (b.enter p r).Fits p role ∧ Waits p role D w := by
  obtain ⟨hallow, hgo, hwait⟩ := hset
  have henter := hb.enter p r
  have hallow' : (b.enter p r).Allows p r := by
    cases r with
    | takeDesk => trivial
    | _ => exact hallow
  cases h : (s.enter p r).2.answer? p (s.enter p r).1 r with
  | some answer =>
    obtain ⟨reply, t⟩ := answer
    obtain ⟨b', ha, hb'⟩ := henter.answers h alarm_enter_of_untimed
    refine .inl ⟨reply, t, b', ?_, hb', hgo reply b' ha, ?_, ha, ?_, fun current hrest => ?_⟩
    · rw [ask]
      simp only [h]
    · exact (Board.Succeeds.of_answers henter.born henter.mark_le hallow' ha).of_enter
    · intro q
      have hq := ha.sameRoles q
      rwa [Board.role_enter, Board.count_enter] at hq
    · refine AllRest.answers (fun n status hn hc => ?_) henter h hallow' ha
      rw [jobs_enter] at hn
      rw [Board.role_enter]
      exact hrest n status hn hc
  | none =>
    obtain ⟨role, hfit, hresume⟩ := hwait (mayWait_of_answer?_eq_none h)
    refine .inr ⟨⟨r, next, (s.enter p r).1, (s.enter p r).2.waits⟩,
      { (s.enter p r).2 with waits := (s.enter p r).2.waits + 1 }, role, ?_,
      mayWait_of_answer?_eq_none h, ?_, ?_, hfit, hresume, mayWait_of_answer?_eq_none h,
      alarm_enter_of_untimed⟩
    · rw [ask]
      simp only [h]
    · exact jobs_enter ..
    · exact henter.of_alike ⟨rfl, rfl, rfl, rfl, rfl, rfl⟩

lemma MayWait.allows {r : Request} (h : MayWait r) (b : Board κ) (p : Party) : b.Allows p r := by
  cases r with
  | device r =>
    rintro rfl
    cases h
  | spawn | programToken => cases h
  | _ => trivial

/-- A party that waited goes on with the reply. -/
lemma resume_cases {D : β → Board κ → Prop} {w : Waiting β} {work : RigWork β} (hb : Pictures b s)
    (hl : b.Lawful) (hw : Waits p (b.role p) D w) (h : resume? s p w = some (work, t)) :
    ∃ b', Pictures b' t ∧ Settles p D work b' ∧ b.Succeeds b' ∧ (b'.spoiled → b.spoiled) ∧
      b.SameRoles b' ∧ ∀ current, AllRest b s current → AllRest b' t current := by
  obtain ⟨⟨reply, u⟩, ha, he⟩ := Option.map_eq_some_iff.1 h
  cases he
  obtain ⟨⟨-, -, hresume⟩, hwait, hu⟩ := hw
  have hallow := hwait.allows b p
  obtain ⟨b', hA, hb'⟩ := hb.answers ha hu
  have hspoiled (hs : b'.spoiled) : b.spoiled := by
    rcases spoiled_of_answers hA hs with hs | ⟨hr, -⟩
    · exact hs
    · rw [hr] at hwait
      cases hwait
  exact ⟨b', hb', hresume b hl rfl reply b' hA,
    .of_answers hb.born hb.mark_le hallow hA, hspoiled, hA.sameRoles,
    fun current hrest => hrest.answers hb ha hallow hA⟩

end Step

end CryoRig.Rig
