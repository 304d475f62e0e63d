import CryoRig.Proofs.BusLine
import CryoRig.Proofs.ExcitationSteps
import CryoRig.Proofs.ScannerReadings
import CryoRig.Proofs.WiredInstruments

/-!
# Where a scanner has been

Along a course of a rig an instrument has all of the conversations that are for it, one after the
other, and nothing else changes it. So a simulated bridge that scans goes on with its scanner each
time that it is asked where it is, whoever asks. As long as nobody puts the scanner elsewhere it
goes round the thermometers, and names the next one in each reply.

## Main definitions

* `CryoRig.Rig.Attends`, `CryoRig.Rig.AttendsAll`: how exchanges go where an instrument is attached.
* `CryoRig.Rig.Scene.LeftAlone`: nothing but conversations changes an instrument.
* `CryoRig.Rig.ConcernsScanner`: requests for a scanner.
* `CryoRig.Rig.GoesOn`: what comes of an exchange where a bridge scans.

## Main results

* `CryoRig.Rig.Scene.Tells.attends`: an instrument attends to what is for it, and to nothing else.
* `CryoRig.Rig.AttendsAll.visits`: a scanner goes round the thermometers.
-/

namespace CryoRig.Rig

open Control Process Instrument Transport Instrument.Bridge Simulated.Bridge

variable {α : Type} {id : String} {a a' : Attachment} {s t : State} {p : Party}
  {r : Control.Request} {reply : r.Reply} {alarm : Option Nat}

/-! ## An instrument on a rig -/

/-- A request is a command for an instrument. -/
def Addresses (id : String) (r : Control.Request) : Prop :=
  ∃ command, r = .device (.write id command) ∨ r = .device (.query id command)

/-- How an exchange goes where an instrument is attached, and what the instrument is then. -/
inductive Attends (id : String) (a : Attachment) :
    Exchange RigSurroundings → Attachment → Prop where
  /-- The instrument answers. -/
  | addressed {r : Instrument.Request} (h : Addresses id (.device r)) :
    Attends id a ⟨.device r, (answerAt id a r).1⟩ (answerAt id a r).2
  /-- It is not concerned. -/
  | other {e : Exchange RigSurroundings} (h : ¬Addresses id e.request) : Attends id a e a

/-- How exchanges go one after the other. -/
inductive AttendsAll (id : String) (a : Attachment) :
    List (Exchange RigSurroundings) → Attachment → Prop where
  /-- There is none. -/
  | nil : AttendsAll id a [] a
  /-- One more. -/
  | snoc {es : List (Exchange RigSurroundings)} {e : Exchange RigSurroundings}
    {a' a'' : Attachment} (h : AttendsAll id a es a') (he : Attends id a' e a'') :
    AttendsAll id a (es ++ [e]) a''

/-- The others stay as they are when an instrument answers. -/
lemma lookup_receive_of_ne {id' : String} (h : id' ≠ id) (s : State) (command : String)
    (expected : Bool) :
    (s.receive id' command expected).2.attached.lookup id = s.attached.lookup id := by
  have hmap (a' : Attachment) (attached : List (String × Attachment)) :
      (attached.map fun x => if x.1 = id' then (id', a') else x).lookup id =
        attached.lookup id := by
    induction attached with
    | nil => rfl
    | cons x attached ih =>
      obtain ⟨k, a''⟩ := x
      have hid : (id == id') = false := beq_eq_false_iff_ne.2 fun heq => h heq.symm
      rw [List.map_cons]
      by_cases hk : k = id'
      · rw [if_pos hk, List.lookup_cons, List.lookup_cons, hid, hk, hid, ih]
      · rw [if_neg hk, List.lookup_cons, List.lookup_cons, ih]
  unfold State.receive
  split
  · exact hmap _ _
  · rfl

lemma lookup_of_receiveInTime {β : Type} {id' command : String} {expected : Bool}
    {outcome : Answer → Except DeviceFault β} {reply : Option (Except DeviceFault β)}
    (h : s.receiveInTime alarm id' command expected outcome = some (reply, t)) (hid : id' ≠ id) :
    t.attached.lookup id = s.attached.lookup id := by
  unfold State.receiveInTime at h
  split at h
  · cases h
    rfl
  · split at h
    · cases h
      exact lookup_receive_of_ne hid s command expected
    · cases h

/-- Whoever has a reply has had it from the instrument if it was for that one. -/
lemma attends_of_answer? (ha : s.attached.lookup id = some a)
    (halarm : Addresses id r → alarm ≠ none) (h : s.answer? p alarm r = some (reply, t)) :
    ∃ a', Attends id a ⟨r, reply⟩ a' ∧ t.attached.lookup id = some a' := by
  by_cases hr : Addresses id r
  · obtain ⟨moment, rfl⟩ := Option.ne_none_iff_exists'.1 (halarm hr)
    obtain ⟨command, rfl | rfl⟩ := hr
    · obtain ⟨rfl, ht⟩ := answerAt_of_answerDevice? (r := .write id command) (p := p) ha
        (fun _ _ heq => by rcases heq with heq | heq <;> cases heq; rfl) h
      exact ⟨_, .addressed ⟨command, .inl rfl⟩, ht⟩
    · obtain ⟨rfl, ht⟩ := answerAt_of_answerDevice? (r := .query id command) (p := p) ha
        (fun _ _ heq => by rcases heq with heq | heq <;> cases heq; rfl) h
      exact ⟨_, .addressed ⟨command, .inr rfl⟩, ht⟩
  refine ⟨a, .other hr, ?_⟩
  rw [← ha]
  rcases offBus_or r with hoff | rfl | rfl | ⟨id', command, rfl⟩ | ⟨id', command, rfl⟩
  · rw [(sameBus_of_answer? hoff h).attached]
  · simp only [State.answer?, State.answerDevice?] at h
    split at h <;> cases h
    rfl
  · cases h
    rw [(sameBus_wakeParty _ _).attached]
  all_goals
    refine lookup_of_receiveInTime h ?_
    rintro rfl
    exact hr ⟨command, by simp⟩

namespace Scene

variable {site : Site RigSurroundings} {c d : Scene α} {asked : Option (Party × Control.Request)}
  {reply? : Option (Party × Exchange RigSurroundings)}

lemma attached_put (c : Scene α) (p : Party) (x : Foreground (p.Result α)) :
    (c.put p x).state.attached = c.state.attached := by
  rw [state_put]

/-- **An instrument has all conversations that are for it**, and nothing else changes it. -/
theorem Proceeds.attends (h : Proceeds site c asked reply? d)
    (hbegan : ∀ p w, c.at? p = some (.waiting w) → Began p w.request w.alarm)
    (ha : c.state.attached.lookup id = some a) :
    (reply? = none ∧ d.state.attached.lookup id = some a) ∨
      ∃ p e a', reply? = some (p, e) ∧ Attends id a e a' ∧
        d.state.attached.lookup id = some a' := by
  cases h with
  | @answer p r next reply t hr hp hanswer =>
    rw [attached_put]
    have hentered : (c.state.enter p r).2.attached.lookup id = some a := by rwa [attached_enter]
    obtain ⟨a', hattends, ht⟩ := attends_of_answer? hentered (fun haddr => by
      obtain ⟨command, rfl | rfl⟩ := haddr
      all_goals exact alarm_send_ne_none_iff.2 (by rw [ha]; rfl)) hanswer
    exact .inr ⟨p, _, a', rfl, hattends, ht⟩
  | @wait p r next current hr hp hanswer hn =>
    rw [attached_put]
    refine .inl ⟨rfl, ?_⟩
    change (c.state.enter p r).2.attached.lookup id = some a
    rwa [attached_enter]
  | @resume p w reply t ready current hr hp hanswer hn =>
    rw [attached_put]
    have hw := (hbegan p w hp).alarmSet
    obtain ⟨a', hattends, ht⟩ := attends_of_answer? (s := { c.state with ready := ready }) ha
      (fun ⟨command, haddr⟩ => hw id command haddr) hanswer
    exact .inr ⟨p, _, a', rfl, hattends, ht⟩
  | turn =>
    rw [attached_put]
    exact .inl ⟨rfl, ha⟩
  | take | finish => exact .inl ⟨rfl, ha⟩
  | idle hr hs =>
    refine .inl ⟨rfl, ?_⟩
    rw [hs]
    exact ha

variable {s : Station} {c : Nat → Scene α} {i j n : Nat} {a : Attachment}
  {told : List (Party × Exchange RigSurroundings)}

/-- Whoever waits on such a course has begun to. -/
lemma began_of_busCourse (h : BusCourse s.site c) (n : Nat) (p : Party) (w : Waiting (p.Result α))
    (hp : (c n).at? p = some (.waiting w)) : Began p w.request w.alarm := by
  obtain ⟨told, ht⟩ := exists_tells s.site c (Nat.zero_le n)
  obtain ⟨m, hm, -⟩ := h.orderly ht
  exact (hm.fares p _ hp).1

/-- Nothing but conversations changes an instrument: it is the same where there is no step. -/
def LeftAlone (site : Site RigSurroundings) (c : Nat → Scene α) (id : String) : Prop :=
  ∀ n, (c n).step site ≠ .more (c (n + 1)) →
    (c (n + 1)).state.attached.lookup id = (c n).state.attached.lookup id

/-- **Along a course an instrument attends to what is for it, and to nothing else.** -/
theorem Tells.attends (h : BusCourse s.site c) (hleft : LeftAlone s.site c id)
    (ht : Tells s.site c i j told) (ha : (c i).state.attached.lookup id = some a) :
    ∃ a', AttendsAll id a (told.map Prod.snd) a' ∧
      (c j).state.attached.lookup id = some a' := by
  induction ht with
  | start => exact ⟨a, .nil, ha⟩
  | @step n told asked reply? _ _ hp ih =>
    obtain ⟨a', hall, hn⟩ := ih
    rw [List.map_append]
    rcases hp.attends (began_of_busCourse h n) hn with ⟨rfl, hnext⟩ | ⟨p, e, a'', rfl, he, hnext⟩
    · exact ⟨a', by simpa using hall, hnext⟩
    · exact ⟨a'', hall.snoc he, hnext⟩
  | rest _ hs ih =>
    obtain ⟨a', hall, hn⟩ := ih
    exact ⟨a', hall, (hleft _ hs).trans hn⟩

end Scene

/-! ## A scanner on a rig -/

section Scanner

variable {e : Exchange RigSurroundings} {latency n : Nat} {b : Simulated.Bridge}

/-- A request is a command for the scanner of a bridge. -/
def ConcernsScanner (id : String) (r : Control.Request) : Prop :=
  ∃ q, r = .device q ∧ UsesScanner id q

lemma forScanner_iff {command : String} :
    ForScanner command ↔ command = "SCAN?" ∨ ∃ values, command = "SCAN " ++ values := by
  refine or_congr_right ⟨fun ⟨rest, hrest⟩ => ?_, fun ⟨values, hvalues⟩ => ?_⟩
  · exact ⟨String.ofList rest, String.toList_inj.1 (by simpa using hrest.symm)⟩
  · rw [hvalues, String.toList_append]
    exact List.prefix_append _ _

/-- Whoever at most asks where a scanner is does so if the request is for the scanner. -/
lemma eq_place_of_onlyScans {r : Control.Request} (h : OnDevices OnlyScans r)
    (hconcerns : ConcernsScanner id r) : r = .device (.query id "SCAN?") := by
  obtain ⟨q, rfl, huses⟩ := hconcerns
  cases q with
  | write id' command => exact absurd (forScanner_iff.2 huses.2) h
  | query id' command =>
    obtain ⟨rfl, hcommand⟩ := huses
    rw [h (forScanner_iff.2 hcommand)]
  | _ => exact huses.elim

/-! ### A bridge that is told something -/

/-- What comes of a command for a bridge. -/
lemma answerAt_write (command : String) :
    answerAt id (attached latency b) (.write id command) =
      (some (spoken ((handle command).run.run b).1).toWrite,
        attached latency ((handle command).run.run b).2) := by
  rw [answerAt, writeTo, if_pos rfl, answer_attached]

/-- What comes of a query. -/
lemma answerAt_query (command : String) :
    answerAt id (attached latency b) (.query id command) =
      (some ((spoken ((handle command).run.run b).1).toQuery command),
        attached latency ((handle command).run.run b).2) := by
  rw [answerAt, queryTo, if_pos rfl, answer_attached]

/-- Whatever a bridge is told, it is one. -/
lemma Attends.bridge (h : Attends id (attached latency b) e a') :
    ∃ b', a' = attached latency b' := by
  cases h with
  | other => exact ⟨b, rfl⟩
  | addressed haddressed =>
    obtain ⟨command, heq | heq⟩ := haddressed <;> cases heq
    · exact ⟨_, by rw [answerAt_write]⟩
    · exact ⟨_, by rw [answerAt_query]⟩

lemma AttendsAll.bridge {es : List (Exchange RigSurroundings)}
    (h : AttendsAll id (attached latency b) es a') : ∃ b', a' = attached latency b' := by
  induction h with
  | nil => exact ⟨b, rfl⟩
  | snoc _ he ih =>
    obtain ⟨b', rfl⟩ := ih
    exact he.bridge

/-- Put on the first channel, it scans from there on. -/
lemma Attends.starts {reply : Option (Except DeviceFault Unit)}
    (h : Attends id (attached latency b) ⟨.device (.write id "SCAN 1,1"), reply⟩ a') :
    ∃ b', a' = attached latency b' ∧ b'.autoscan = true ∧ b'.channel = visited 0 := by
  generalize he : (⟨.device (.write id "SCAN 1,1"), reply⟩ : Exchange RigSurroundings) = e at h
  cases h with
  | other hother =>
    subst he
    exact absurd ⟨_, .inl rfl⟩ hother
  | addressed haddressed =>
    cases he
    rw [answerAt_write, handle_start]
    exact ⟨_, rfl, rfl, rfl⟩

/-! ### A bridge that scans -/

/-- What comes of an exchange where a bridge scans whose scanner has gone on so many times. What it
says is what it holds, and where the scanner is. -/
inductive GoesOn (id : String) (latency n : Nat) :
    Exchange RigSurroundings → Attachment → Prop where
  /-- It was not asked where the scanner is, and leaves it there. -/
  | stays {e : Exchange RigSurroundings} {b : Simulated.Bridge} (scanning : Scanning id e)
    (unasked : scannerReplies id [e] = []) (scans : b.autoscan = true)
    (channel : b.channel = visited n) : GoesOn id latency n e (attached latency b)
  /-- It has said where the scanner is, and goes on. -/
  | moves {e : Exchange RigSurroundings} {b : Simulated.Bridge} (scanning : Scanning id e)
    (asked : scannerReplies id [e] = [some (.ok (placeText (visited n)))])
    (scans : b.autoscan = true) (channel : b.channel = visited (n + 1)) :
    GoesOn id latency n e (attached latency b)

lemma scannerReplies_of_ne (h : e.request ≠ .device (.query id "SCAN?")) :
    scannerReplies id [e] = [] :=
  List.filterMap_eq_nil_iff.2 (List.forall_mem_singleton.2 (scannerReply?_eq_none h))

/-- An exchange of somebody else. -/
lemma goesOn_other (hscans : b.autoscan = true) (hchannel : b.channel = visited n)
    (h : ¬Addresses id e.request) : GoesOn id latency n e (attached latency b) := by
  refine .stays ⟨?_, ?_⟩ (scannerReplies_of_ne fun heq => h ⟨_, .inr heq⟩) hscans hchannel
  · rintro reply rfl
    exact absurd ⟨_, .inr rfl⟩ h
  · rintro quantity c reply - rfl
    exact absurd ⟨_, .inr rfl⟩ h

/-- A command that is not for the scanner. -/
lemma goesOn_write {command : String} (hscans : b.autoscan = true)
    (hchannel : b.channel = visited n) (h : ¬ForScanner command) :
    GoesOn id latency n ⟨.device (.write id command),
      (answerAt id (attached latency b) (.write id command)).1⟩
      (answerAt id (attached latency b) (.write id command)).2 := by
  obtain ⟨hkept, hautoscan⟩ := scanner_handle (b := b) (fun hplace => h (.inl hplace))
    (fun hset => h (.inr hset))
  rw [answerAt_write]
  refine .stays ⟨?_, ?_⟩ rfl (hautoscan.trans hscans) (hkept.trans hchannel)
  · rintro reply ⟨⟩
  · rintro quantity c reply - ⟨⟩

/-- A query that is not for the scanner. -/
lemma goesOn_query {command : String} (hscans : b.autoscan = true)
    (hchannel : b.channel = visited n) (h : ¬ForScanner command) :
    GoesOn id latency n ⟨.device (.query id command),
      (answerAt id (attached latency b) (.query id command)).1⟩
      (answerAt id (attached latency b) (.query id command)).2 := by
  obtain ⟨hkept, hautoscan⟩ := scanner_handle (b := b) (fun hplace => h (.inl hplace))
    (fun hset => h (.inr hset))
  rw [answerAt_query]
  refine .stays ⟨?_, ?_⟩ (scannerReplies_of_ne fun heq => ?_) (hautoscan.trans hscans)
    (hkept.trans hchannel)
  · rintro reply heq
    cases heq
    exact absurd (.inl rfl) h
  · rintro quantity c reply hc heq
    cases heq
    rw [handle_reading quantity hc]
    rfl
  · cases heq
    exact h (.inl rfl)

/-- The question where the scanner is. -/
lemma goesOn_place (hscans : b.autoscan = true) (hchannel : b.channel = visited n) :
    GoesOn id latency n ⟨.device (.query id "SCAN?"),
      (answerAt id (attached latency b) (.query id "SCAN?")).1⟩
      (answerAt id (attached latency b) (.query id "SCAN?")).2 := by
  rw [answerAt_query, handle_place hscans, hchannel]
  refine .moves ⟨?_, ?_⟩ (scannerReplies_place _) hscans rfl
  · rintro reply heq
    cases heq
    exact ⟨visited n, visited_mem n, rfl⟩
  · rintro quantity c reply - heq
    have hcommand := (Request.query.inj (Control.Request.device.inj
      (congrArg Exchange.request heq))).2
    exact absurd (.inl hcommand.symm) (offScanner_reading quantity)

/-- Only if a bridge that scans was asked where the scanner is, the scanner goes on. -/
lemma Attends.goesOn (h : Attends id (attached latency b) e a') (hscans : b.autoscan = true)
    (hchannel : b.channel = visited n)
    (hplace : ConcernsScanner id e.request → e.request = .device (.query id "SCAN?")) :
    GoesOn id latency n e a' := by
  cases h with
  | other hother => exact goesOn_other hscans hchannel hother
  | addressed haddressed =>
    obtain ⟨command, heq | heq⟩ := haddressed <;> cases heq
    · refine goesOn_write hscans hchannel fun hfor => ?_
      cases hplace ⟨_, rfl, ⟨rfl, forScanner_iff.1 hfor⟩⟩
    by_cases hfor : ForScanner command
    · cases hplace ⟨_, rfl, ⟨rfl, forScanner_iff.1 hfor⟩⟩
      exact goesOn_place hscans hchannel
    · exact goesOn_query hscans hchannel hfor

/-- **A scanner goes round the thermometers**, and names the next one in each reply, if all that it
is asked is where it is. What the bridge says of a channel is what it holds. -/
theorem AttendsAll.visits {es : List (Exchange RigSurroundings)}
    (h : AttendsAll id (attached latency b) es a') (hscans : b.autoscan = true)
    (hchannel : b.channel = visited 0)
    (hplace : ∀ e ∈ es, ConcernsScanner id e.request → e.request = .device (.query id "SCAN?")) :
    (∀ e ∈ es, Scanning id e) ∧
      (∀ n (reply : Option (Except DeviceFault String)),
        (scannerReplies id es)[n]? = some reply →
          reply = some (.ok (placeText (visited n)))) ∧
      ∃ b', a' = attached latency b' ∧ b'.autoscan = true ∧
        b'.channel = visited (scannerReplies id es).length := by
  induction h with
  | nil => exact ⟨List.forall_mem_nil _, by rintro n reply ⟨⟩, b, rfl, hscans, hchannel⟩
  | @snoc es e a' a'' _ he ih =>
    obtain ⟨hbefore, hlast⟩ := List.forall_mem_append.1 hplace
    obtain ⟨hscan, hreplies, b', rfl, hautoscan, hat⟩ := ih hbefore
    rw [scannerReplies_append]
    cases he.goesOn hautoscan hat (List.forall_mem_singleton.1 hlast) with
    | stays hsaid hnone hautoscan hkept =>
      rw [hnone, List.append_nil]
      exact ⟨List.forall_mem_append.2 ⟨hscan, List.forall_mem_singleton.2 hsaid⟩, hreplies, _, rfl,
        hautoscan, hkept⟩
    | moves hsaid hone hautoscan hmoved =>
      rw [hone]
      refine ⟨List.forall_mem_append.2 ⟨hscan, List.forall_mem_singleton.2 hsaid⟩,
        fun n reply hn => ?_, _, rfl, hautoscan, by rw [hmoved, List.length_append]; rfl⟩
      rw [List.getElem?_append] at hn
      split at hn
      · exact hreplies n reply hn
      · next hlt =>
        obtain ⟨hn, hreply⟩ := List.getElem?_eq_some_iff.1 hn
        obtain rfl : n = (scannerReplies id es).length := by
          simp only [List.length_singleton] at hn
          omega
        simpa using hreply.symm

lemma mem_toldTo {ε : Type} {told : List (Party × ε)} {x : Party × ε} (hx : x ∈ told)
    (hp : x.1 = p) : x.2 ∈ toldTo p told :=
  List.mem_filterMap.2 ⟨x, hx, if_pos hp⟩

/-- Only who is concerned with the scanner has a reply from it. -/
lemma scannerReplies_toldTo {told : List (Party × Exchange RigSurroundings)}
    (h : ∀ x ∈ told, ConcernsScanner id x.2.request → x.1 = p) :
    scannerReplies id (toldTo p told) = scannerReplies id (told.map Prod.snd) := by
  induction told with
  | nil => rfl
  | cons x told ih =>
    obtain ⟨q, e⟩ := x
    obtain ⟨hx, htold⟩ := List.forall_mem_cons.1 h
    have hcons (es : List (Exchange RigSurroundings)) : scannerReplies id (e :: es) =
        scannerReplies id [e] ++ scannerReplies id es := by
      rw [← scannerReplies_append, List.singleton_append]
    rw [List.map_cons, hcons, ← ih htold]
    by_cases hq : q = p
    · rw [hq, toldTo_cons_self, hcons]
    · rw [toldTo_cons_of_ne hq, scannerReplies_of_ne fun heq => hq (hx ⟨_, heq, rfl, .inl rfl⟩),
        List.nil_append]

namespace Scene

variable {s : Station} {c : Nat → Scene α} {i j n : Nat} {q : Party}
  {told : List (Party × Exchange RigSurroundings)}

/-- Whoever puts the scanner on the first channel has done so. -/
lemma Hears.starts_scan {reply : Option (Except DeviceFault Unit)} (h : BusCourse s.site c)
    (hb : (c n).state.attached.lookup id = some (attached latency b))
    (hh : Hears s.site c n p ⟨.device (.write id "SCAN 1,1"), reply⟩) :
    ∃ b', (c (n + 1)).state.attached.lookup id = some (attached latency b') ∧
      b'.autoscan = true ∧ b'.channel = visited 0 := by
  obtain ⟨-, asked, hp⟩ := hh
  rcases hp.attends (began_of_busCourse h n) hb with ⟨⟨⟩, -⟩ | ⟨p', e, a', heq, he, hnext⟩
  cases heq
  obtain ⟨b', rfl, hscans, hchannel⟩ := he.starts
  exact ⟨b', hnext, hscans, hchannel⟩

/-- **If only one party uses a scanner, it is told the places of the thermometers in their order**,
provided that it only asks where the scanner is. -/
theorem Tells.visits (h : BusCourse s.site c) (hleft : LeftAlone s.site c id)
    (ht : Tells s.site c i j told)
    (hb : (c i).state.attached.lookup id = some (attached latency b))
    (hscans : b.autoscan = true) (hchannel : b.channel = visited 0)
    (halone : ∀ x ∈ told, ConcernsScanner id x.2.request → x.1 = q)
    (honly : ∀ e ∈ toldTo q told, OnDevices OnlyScans e.request) :
    (∀ e ∈ toldTo q told, Scanning id e) ∧
      ∀ n (reply : Option (Except DeviceFault String)),
        (scannerReplies id (toldTo q told))[n]? = some reply →
          reply = some (.ok (placeText (visited n))) := by
  obtain ⟨a', hall, -⟩ := ht.attends h hleft hb
  have hplace : ∀ e ∈ told.map Prod.snd, ConcernsScanner id e.request →
      e.request = .device (.query id "SCAN?") := by
    intro e he hconcerns
    obtain ⟨x, hx, rfl⟩ := List.mem_map.1 he
    refine eq_place_of_onlyScans (honly x.2 ?_) hconcerns
    exact mem_toldTo hx (halone x hx hconcerns)
  obtain ⟨hscanning, hreplies, -⟩ := hall.visits hscans hchannel hplace
  rw [scannerReplies_toldTo halone]
  exact ⟨fun e he => hscanning e (List.mem_map.2 ⟨_, mem_of_mem_toldTo he, rfl⟩), hreplies⟩

end Scene

end Scanner

end CryoRig.Rig
