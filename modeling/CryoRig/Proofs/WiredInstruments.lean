import CryoRig.Proofs.BusBlocks
import CryoRig.Proofs.Carried
import CryoRig.Proofs.WiredCommands
import CryoRig.Rig.Setup
import CryoRig.Settings.Logging

/-!
# Every instrument is found

Three lists of names have to agree: the ones that are looked up when settings are checked, the ones
that drivers send their commands to, and the ones that are attached to the bus when a rig is set up.
If the settings are accepted and every instrument that is used is a simulated one, the rig is set
up, and from then on no command is ever sent to an instrument that is not there, whoever sends it,
however the parties take turns and however long the replies take.

## Main definitions

* `CryoRig.Rig.wiredRules`: commands are only sent to given instruments.
* `CryoRig.Rig.Scene.Poised`: everybody is about to do work that leaves the bus to a site.

## Main results

* `CryoRig.Rig.sound_wiredRules`: given instruments stay attached, and whoever sends them commands
  finds them.
* `CryoRig.Rig.State.setUp_simulated`: rigs of simulated instruments are set up, with all of them.
* `CryoRig.Settings.Rig.instruments_found`: from then on every instrument is found.
-/

namespace CryoRig

namespace Rig

open Control Process Instrument

variable {α β : Type} {W : String → Prop}

/-! ## Commands to given instruments -/

/-- A command is for one of the given instruments. -/
def ToWired (W : String → Prop) : Control.Request → Prop
  | .device r => r.Within W
  | _ => True

/-- If a command was sent, its instrument was found. -/
def Heard : Exchange RigSurroundings → Prop
  | ⟨.device r, reply⟩ => Found r reply
  | _ => True

/-- Commands are only sent to given instruments. -/
def wiredRules (W : String → Prop) : Discipline Unit where
  Allows _ r := ToWired W r
  entered g _ := g
  after g _ _ := g
  idle := ()
  Rests _ := True

lemma obeys_of_toWired {w : RigWork β} {Q : β → Unit → Prop} (h : w.AsksOnly (ToWired W))
    (hQ : ∀ b g, Q b g) : (wiredRules W).Obeys Q w () := by
  induction w with
  | done b => exact hQ b ()
  | ask r next ih => exact ⟨h.1, fun reply _ => ih reply (h.2 reply)⟩

/-- The given instruments are attached, and all of them were found so far. -/
structure AllFound (W : String → Prop) (s : State) (m : Memory Unit) : Prop where
  /-- They are attached. -/
  attached : ∀ id, W id → (s.attached.lookup id).isSome
  /-- They were found. -/
  heard : ∀ x ∈ m.told, Heard x.2

section Sound

variable {s t : State} {m : Memory Unit} {p : Party} {r : Control.Request} {reply : r.Reply}
  {alarm : Option Nat} {id command : String}

/-- An instrument that is attached and takes its time for a reply is found. -/
lemma foundWith_of_receiveInTime {expected : Bool}
    {outcome : Transport.Answer → Except DeviceFault β} {reply : Option (Except DeviceFault β)}
    (h : s.receiveInTime alarm id command expected outcome = some (reply, t))
    (halarm : alarm ≠ none) (hattached : (s.attached.lookup id).isSome)
    (houtcome : ∀ answer, (∀ fault, answer = .fault fault → fault.Own) → Owned (outcome answer)) :
    FoundWith reply := by
  obtain ⟨a, ha⟩ := Option.isSome_iff_exists.1 hattached
  unfold State.receiveInTime at h
  split at h
  · exact absurd rfl halarm
  · split at h
    · simp only [State.receive, ha, Option.some.injEq, Prod.mk.injEq, Option.map_some] at h
      exact ⟨_, h.1.symm, houtcome _ fun fault => Transport.Attachment.own_answer⟩
    · cases h

/-- Whatever is asked for, the same instruments stay attached. -/
lemma attached_of_answer? (h : s.answer? p alarm r = some (reply, t)) (id : String) :
    (t.attached.lookup id).isSome = (s.attached.lookup id).isSome := by
  rcases offBus_or r with hr | rfl | rfl | ⟨id', command, rfl⟩ | ⟨id', command, rfl⟩
  · rw [(sameBus_of_answer? hr h).attached]
  · simp only [State.answer?, State.answerDevice?] at h
    split at h <;> cases h
    rfl
  · cases h
    rw [(sameBus_wakeParty _ _).attached]
  · rcases receiveInTime_cases h with ⟨-, -, rfl⟩ | ⟨-, -, -, -, hsame⟩
    · rfl
    · exact hsame id
  · rcases receiveInTime_cases h with ⟨-, -, rfl⟩ | ⟨-, -, -, -, hsame⟩
    · rfl
    · exact hsame id

lemma attached_enter (s : State) (p : Party) (r : Control.Request) :
    (s.enter p r).2.attached = s.attached := by
  rcases offBus_or r with hr | rfl | rfl | ⟨id, command, rfl⟩ | ⟨id, command, rfl⟩
  · exact (sameBus_enter hr).attached
  · rfl
  · rfl
  all_goals
    change (s.send id command _).2.attached = s.attached
    unfold State.send
    split <;> rfl

/-- A request is a command, whose reply has an alarm. -/
def AlarmSet (r : Control.Request) (alarm : Option Nat) : Prop :=
  ∀ id command, r = .device (.write id command) ∨ r = .device (.query id command) → alarm ≠ none

/-- The alarm for the reply to a command is set if the instrument is attached. -/
lemma alarmSet_enter (hattached : ∀ id, W id → (s.attached.lookup id).isSome) (hr : ToWired W r) :
    AlarmSet r (s.enter p r).1 := by
  rintro id command (rfl | rfl)
  all_goals exact alarm_send_ne_none_iff.2 (hattached id hr)

/-- It is set if anybody waits for the reply. -/
lemma Began.alarmSet (h : Began p r alarm) : AlarmSet r alarm := by
  obtain ⟨s, -, hnone⟩ := h
  rintro id command (rfl | rfl) rfl
  all_goals cases hnone

/-- Whoever sends a command to a given instrument finds it. -/
lemma heard_of_answer? (h : s.answer? p alarm r = some (reply, t)) (hr : ToWired W r)
    (hattached : ∀ id, W id → (s.attached.lookup id).isSome) (halarm : AlarmSet r alarm) :
    Heard ⟨r, reply⟩ := by
  cases r with
  | device r =>
    cases r with
    | write id command =>
      exact foundWith_of_receiveInTime h (halarm id command (.inl rfl)) (hattached id hr)
        fun _ hown _ => Transport.Answer.own_toWrite hown
    | query id command =>
      exact foundWith_of_receiveInTime h (halarm id command (.inr rfl)) (hattached id hr)
        fun _ hown _ => Transport.Answer.own_toQuery hown
    | seize | release | sleep | log => trivial
  | _ => trivial

/-- As long as commands are only sent to given instruments that are attached, these stay attached
and are found. -/
theorem sound_wiredRules :
    (wiredRules W).Sound (AllFound W) fun _ _ _ _ => True where
  answers {s t m p r reply} hm hr _ h := by
    have hattached (id : String) (hid : W id) : ((s.enter p r).2.attached.lookup id).isSome := by
      rw [attached_enter]
      exact hm.attached id hid
    refine ⟨fun id hid => (attached_of_answer? h id).trans (hattached id hid), fun x hx => ?_⟩
    rw [Memory.told_reply, List.mem_append, List.mem_singleton] at hx
    rcases hx with hx | rfl
    · exact hm.heard x hx
    · exact heard_of_answer? h hr hattached (alarmSet_enter hm.attached hr)
  waits hm _ _ _ := by
    refine ⟨fun id hid => ?_, hm.heard⟩
    rw [attached_enter]
    exact hm.attached id hid
  resumes {s t m p g r alarm reply} hm _ hr hbegan h := by
    refine ⟨fun id hid => (attached_of_answer? h id).trans (hm.attached id hid), fun x hx => ?_⟩
    rw [Memory.told_reply, List.mem_append, List.mem_singleton] at hx
    rcases hx with hx | rfl
    · exact hm.heard x hx
    · exact heard_of_answer? h hr hm.attached hbegan.alarmSet
  quiet hm hs := ⟨fun id hid => (hs.attached id).trans (hm.attached id hid), hm.heard⟩

end Sound

/-! ## Work on a facility -/

section Work

variable {f : Settings.Facility}

/-- Work that leaves the bus to a facility sends commands to what that is wired to. -/
lemma toWired_carryOut {w : Working α} (h : w.AsksOnly (WorkRequest.Asks Request.OffBus)) :
    (carryOut (Station.facility f).site w).AsksOnly (ToWired f.WiredTo) := by
  refine h.translate fun q hq => ?_
  cases q with
  | rig r =>
    refine asksOnly_request.2 ?_
    cases r with
    | device r => cases r <;> trivial
    | _ => trivial
  | act a =>
    exact (f.keepsTo_perform a).asks.translate fun r hr => asksOnly_request.2 hr

lemma toWired_turnOf (job : Job) :
    (turnOf (Station.facility f).site job).AsksOnly (ToWired f.WiredTo) := by
  obtain ⟨w, hw, hturn⟩ := turnOf_offBus (Station.facility f).site job
  rw [hturn]
  exact toWired_carryOut hw

end Work

namespace Scene

/-- Everybody is about to do work that leaves the bus to a site. -/
structure Poised (site : Site RigSurroundings) (c : Scene α) : Prop where
  /-- In the foreground. -/
  foreground : ∃ work : Working α, work.AsksOnly (WorkRequest.Asks Request.OffBus) ∧
    c.foreground = .running (carryOut site work)
  /-- In the background. -/
  jobs : ∀ (n : Nat) (status : JobStatus), c.state.jobs[n]? = some status →
    ∃ work : Working (Turn Job Ending), work.AsksOnly (WorkRequest.Asks Request.OffBus) ∧
      status = .running (carryOut site work)

variable {f : Settings.Facility} {c d : Scene α} {m : Memory Unit}
  {told : List (Party × Exchange RigSurroundings)}

/-- So is everybody who is about to make calls of a session. -/
lemma poised_of_opening {site : Site RigSurroundings} {session : SessionSettings}
    (h : Opening site session c) : c.Poised site where
  foreground := by
    obtain ⟨client, hf⟩ := h.foreground
    exact ⟨_, calls_offBus client, hf⟩
  jobs n status hn := by
    obtain ⟨client, ending, rfl⟩ := h.jobs n status hn
    refine ⟨client.translate (Call.serve session) >>= fun _ => pure (.over ending),
      (calls_offBus client).bind fun _ => asksOnly_pure _, ?_⟩
    rw [carryOut_bind]
    rfl

lemma Poised.orderly (h : c.Poised (Station.facility f).site)
    (hattached : ∀ id, f.WiredTo id → (c.state.attached.lookup id).isSome) :
    c.Orderly (wiredRules f.WiredTo) (AllFound f.WiredTo) ⟨fun _ => (), fun _ => none, []⟩ where
  inv := ⟨hattached, fun _ hx => absurd hx List.not_mem_nil⟩
  fares p x hx := by
    cases p with
    | foreground =>
      obtain ⟨work, hwork, hf⟩ := h.foreground
      rw [at?, hf] at hx
      cases hx
      exact obeys_of_toWired (toWired_carryOut hwork) fun _ _ => trivial
    | job n =>
      obtain ⟨work, hwork, hj⟩ := h.jobs n _ (at?_job_iff.1 hx)
      cases x with
      | running =>
        cases hj
        refine obeys_of_toWired (toWired_carryOut hwork) fun turn _ => ?_
        cases turn <;> trivial
      | waiting => cases hj
  rests _ _ := trivial
  idle _ _ := rfl
  started _ _ := rfl

/-- Whatever happens, the instruments of a facility stay attached and are found. -/
lemma Orderly.allFound (h : c.Orderly (wiredRules f.WiredTo) (AllFound f.WiredTo) m)
    (hd : Shift (Station.facility f).site c told d) :
    ∃ m', d.Orderly (wiredRules f.WiredTo) (AllFound f.WiredTo) m' ∧ m'.told = m.told ++ told := by
  have hsite (job : Job) : (wiredRules f.WiredTo).Obeys (wiredRules f.WiredTo).TurnEnds
      (turnOf (Station.facility f).site job) (wiredRules f.WiredTo).idle := by
    refine obeys_of_toWired (toWired_turnOf job) fun turn _ => ?_
    cases turn <;> trivial
  induction hd with
  | start => exact ⟨m, h, (List.append_nil _).symm⟩
  | more _ hd ih =>
    obtain ⟨m₁, h₁, htold₁⟩ := ih
    obtain ⟨m₂, h₂, htold₂, -⟩ :=
      h₁.happens sound_wiredRules hsite (fun _ _ _ => trivial) hd
    exact ⟨m₂, h₂, by rw [htold₂, htold₁, List.append_assoc]⟩

/-- Work that a party has begun with is still underway, or it has ended. -/
lemma Shift.ended_or_underway {site : Site RigSurroundings} {p : Party} {work : RigWork β}
    {f : β → RigWork (p.Result α)} (h : Shift site c told d)
    (hp : c.at? p = some (.running (work >>= f))) :
    (∃ rest, work.Leads (toldTo p told) rest) ∨
      ∃ during after b, toldTo p told = during ++ after ∧ work.Ends during b := by
  rcases h.leads hp with ⟨y, -, hl⟩ | ⟨es, es', a, hes, hend⟩
  · rcases leads_bind_cases hl with ⟨rest, hl, -⟩ | ⟨es₁, es₂, b, hes, hend, -⟩
    · exact .inl ⟨rest, hl⟩
    · exact .inr ⟨es₁, es₂, b, hes, hend⟩
  · obtain ⟨es₁, es₂, b, rfl, hend, -⟩ := ends_bind_iff.1 hend
    exact .inr ⟨es₁, es₂ ++ es', b, by rw [hes, List.append_assoc], hend⟩

end Scene

lemma mem_of_mem_toldTo {ε : Type} {p : Party} {told : List (Party × ε)} {e : ε}
    (h : e ∈ toldTo p told) : (p, e) ∈ told := by
  obtain ⟨⟨q, e'⟩, hmem, heq⟩ := List.mem_filterMap.1 h
  split at heq
  · next hq =>
    cases hq
    cases heq
    exact hmem
  · cases heq

/-! ## Setting up -/

section SetUp

variable {s : State} {id : String}

lemma lookup_attach {a : Transport.Attachment} {k : String} :
    ((s.attach k a).attached.lookup id).isSome ↔ id = k ∨ (s.attached.lookup id).isSome := by
  simp only [State.attach, List.lookup_isSome_iff, List.mem_cons, List.mem_filter, beq_iff_eq,
    decide_eq_true_eq]
  grind

/-- Simulated instruments are all attached, to what was attached before. -/
lemma attachAll_simulated (network : Transport.Network) {is : List Settings.Instrument}
    (h : ∀ i ∈ is, ∃ model, i.connection = .simulated model) (s : State) :
    ∃ t, attachAll network s is = (.ok (), t) ∧
      ∀ id, (∃ i ∈ is, i.id = id) ∨ (s.attached.lookup id).isSome →
        (t.attached.lookup id).isSome := by
  induction is generalizing s with
  | nil => exact ⟨s, rfl, fun id hid => hid.resolve_left (by simp)⟩
  | cons i is ih =>
    obtain ⟨⟨model, hmodel⟩, his⟩ := List.forall_mem_cons.1 h
    obtain ⟨t, ht, hattached⟩ := ih his
      ((s.note .foreground (.instrumentAttached i.id
        (Transport.Endpoint.simulated (.initial model)).describe)).attach i.id
          (.plain (.simulated (.initial model))))
    refine ⟨t, by rw [attachAll, hmodel]; exact ht, fun id hid => hattached id ?_⟩
    rw [lookup_attach]
    rcases hid with ⟨j, hj, rfl⟩ | hid
    · rcases List.mem_cons.1 hj with rfl | hj
      · exact .inr (.inl rfl)
      · exact .inl ⟨j, hj, rfl⟩
    · exact .inr (.inr hid)

/-- A rig of simulated instruments is set up, with every instrument that is used. -/
lemma State.setUp_simulated (network : Transport.Network) {r : Settings.Rig}
    (h : ∀ i ∈ r.enabled, ∃ model, i.connection = .simulated model) (s : State) :
    ∃ t, s.setUp network r = (.ok (), t) ∧ ∀ id, r.Uses id → (t.attached.lookup id).isSome := by
  obtain ⟨t, ht, hattached⟩ := attachAll_simulated network h s
  refine ⟨t.note .foreground (.sessionOpened r.facility.site.name r.labels.sample),
    by rw [setUp, ht], fun id hid => hattached id (.inl ?_)⟩
  exact List.mem_map.1 (Settings.Rig.mem_enabled_iff.2 hid)

end SetUp

end Rig

namespace Settings.Rig

open Control Process CryoRig.Rig

/-- There are settings of the log for consistent settings. -/
lemma Consistent.exists_logSettings {r : Rig} (h : r.Consistent) :
    ∃ log, LogSettings.ofRig r = .ok log := by
  obtain ⟨level, -, hlevel⟩ :=
    List.mem_map.1 (show _ ∈ LogLevel.all.map LogLevel.name from h.logLevel)
  obtain ⟨format, -, hformat⟩ :=
    List.mem_map.1 (show _ ∈ LogFormat.all.map LogFormat.name from h.logFormat)
  exact ⟨_, by rw [LogSettings.ofRig, ← hlevel, ← hformat, LogSettings.read_names]⟩

/-- If settings are accepted and every instrument that is used is a simulated one, there are
settings of the log, and the rig is set up. From then on, whatever work is done on the facility,
whoever does it, however they take turns and however long the replies take: whoever sends a command
finds the instrument, and no action of the facility ever fails because an instrument is not on the
bus.

**Proof sketch.** Accepted settings are consistent (`Rig.consistent_of_validate`), so everything the
facility is wired to is used, and what is used is attached (`State.setUp_simulated`). The actions of
the facility send commands only to what it is wired to (`Facility.keepsTo_perform`), and jobs and
sessions send none of their own, so nobody ever sends a command to anything that is not attached
(`sound_wiredRules`). And an instrument that is found never says that one is missing
(`Attachment.own_answer`). -/
theorem instruments_found {r : Rig} (hr : r.validate = .ok ())
    (hsim : ∀ i ∈ r.enabled, ∃ model, i.connection = .simulated model)
    (network : Transport.Network) (calendar : Calendar) :
    (∃ log, LogSettings.ofRig r = .ok log) ∧
    ∃ t, (State.initial calendar).setUp network r = (.ok (), t) ∧
      ∀ {α : Type} (c d : Scene α) (told : List (Party × Exchange RigSurroundings)),
        c.Poised (Station.facility r.facility).site → c.state.attached = t.attached →
        Scene.Shift (Station.facility r.facility).site c told d →
        (∀ x ∈ told, Heard x.2) ∧
        ∀ (p : Party) (a : Action) (f : a.Outcome → RigWork (p.Result α))
          (told' : List (Party × Exchange RigSurroundings)) (e : Scene α),
          d.at? p = some (.running ((Station.facility r.facility).site.perform a >>= f)) →
          Scene.Shift (Station.facility r.facility).site d told' e →
          (∃ rest, ((Station.facility r.facility).site.perform a).Leads (toldTo p told') rest) ∨
            ∃ during after outcome, toldTo p told' = during ++ after ∧
              ((Station.facility r.facility).site.perform a).Ends during outcome ∧
              ∀ fault id, outcome = .error fault → fault.root ≠ .notAttached id := by
  have hc := consistent_of_validate hr
  obtain ⟨t, ht, hattached⟩ := State.setUp_simulated network hsim (State.initial calendar)
  refine ⟨hc.exists_logSettings, t, ht, fun c d told hpoised hstate h => ?_⟩
  have hwired (id : String) (hid : r.facility.WiredTo id) :
      (c.state.attached.lookup id).isSome := by
    rw [hstate]
    exact hattached id (hc.wired id hid)
  obtain ⟨m, hd, htold⟩ := (hpoised.orderly hwired).allFound h
  refine ⟨fun x hx => hd.inv.heard x (by simpa [htold] using hx),
    fun p a f told' e hp h' => (h'.ended_or_underway hp).imp_right ?_⟩
  obtain ⟨m', he, htold'⟩ := hd.allFound h'
  rintro ⟨during, after, outcome, hduring, hend⟩
  refine ⟨during, after, outcome, hduring, hend, fun fault id hfault => ?_⟩
  obtain ⟨said, rfl, hsaid⟩ := ends_ofDriver_iff.1 hend
  refine (r.facility.keepsTo_perform a).owned said outcome hsaid (fun x hx => ?_) fault hfault id
  have hmem : (p, onRig x) ∈ told' :=
    mem_of_mem_toldTo (hduring ▸ List.mem_append_left _ (List.mem_map_of_mem hx))
  exact he.inv.heard (p, onRig x) (by rw [htold']; exact List.mem_append_right _ hmem)

/-- The channels of an insert are about to be read, just after its rig was set up. -/
def reading : Scene (Except DeviceFault (List (Option Float))) where
  state := ((State.initial ⟨2024, 1, 1, 0, 0⟩).setUp Transport.isolated dipstick).2
  foreground := .running
    (carryOut (Station.facility dipstick.facility).site (act (.readChannels .continuous)))
  current := none
  fresh := false

lemma poised_reading : reading.Poised (Station.facility dipstick.facility).site where
  foreground := ⟨_, asksOnly_request.2 trivial, rfl⟩
  jobs n status hn := by cases hn

/-- All instruments of an insert are asked, and found. -/
theorem instruments_found_dipstick :
    ∃ told, Scene.Shift (Station.facility dipstick.facility).site reading told
        (reading.follow (Station.facility dipstick.facility).site 12) ∧
      ((reading.follow (Station.facility dipstick.facility).site 12).state.log.map Prod.fst =
        ["dmm", "tc", "tc", "r1"]) ∧
      ∀ x ∈ told, Heard x.2 := by
  obtain ⟨told, h⟩ := Scene.shift_follow (Station.facility dipstick.facility).site reading 12
  have hsim (i : Instrument) (hi : i ∈ dipstick.enabled) :
      ∃ model, i.connection = .simulated model := by
    have hi : i ∈ dipstick.instruments := (List.mem_filter.1 hi).1
    simp only [dipstick, List.mem_cons, List.not_mem_nil, or_false] at hi
    rcases hi with rfl | rfl | rfl <;> exact ⟨_, rfl⟩
  obtain ⟨-, t, ht, hfound⟩ := instruments_found (validate_of_consistent consistent_dipstick) hsim
    Transport.isolated ⟨2024, 1, 1, 0, 0⟩
  have hstate : reading.state.attached = t.attached := by rw [reading, ht]
  exact ⟨told, h, by decide +kernel, (hfound reading _ told poised_reading hstate h).1⟩

end Settings.Rig

end CryoRig
