import Mathlib.Tactic.Lemma
import CryoRig.Instrument.Bridge
import CryoRig.Proofs.TableText
import CryoRig.Transport.Attachment

/-!
# What a bridge is told and what it says

The settings of a channel go over the bus as text. The driver reads them out of five fields of a
reply and puts them into six fields of a command, the simulated bridge does it the other way round,
and both read every number as a floating point number and make a byte of it. Nothing is lost on the
way: what the driver reads are the indices the bridge keeps, and what it sets are those the bridge
keeps from then on.

## Main definitions

* `CryoRig.Instrument.Bridge.bytes`: bytes with commas between them.
* `CryoRig.Instrument.Bridge.attached`: a simulated bridge on the bus.

## Main results

* `CryoRig.Number.toByte_readChars`: a byte is read back from its digits.
* `CryoRig.Instrument.Bridge.handle_question`, `CryoRig.Instrument.Bridge.ofValues_bytes`: the bridge
  says which indices it keeps, and the driver reads them.
* `CryoRig.Instrument.Bridge.handle_command`: the bridge keeps the indices that the driver sets.
* `CryoRig.Instrument.Bridge.ranges_handle`: it keeps them over every other command.
-/

namespace CryoRig

/-! ## Digits -/

namespace Number

/-- A byte is read back from its digits. -/
lemma toByte_readChars {n : Nat} (h : n ≤ byteMax) :
    ∃ x, readChars (Nat.toDigits 10 n) = .ok x ∧ toByte x = n := by
  have hall : ∀ n < 256,
      ((readChars (Nat.toDigits 10 n)).map toByte).toOption = some n := by decide +kernel
  have hread := hall n (Nat.lt_succ_of_le h)
  cases hx : readChars (Nat.toDigits 10 n) with
  | error fault => simp [hx, Except.map, Except.toOption] at hread
  | ok x => exact ⟨x, rfl, by simpa [hx, Except.map, Except.toOption] using hread⟩

end Number

namespace Text

/-- Blanks are no digits. -/
lemma not_isBlank_of_isDigit {c : Char} (h : c.isDigit = true) : isBlank c = false := by
  obtain ⟨hlow, hhigh⟩ : 48 ≤ c.toNat ∧ c.toNat ≤ 57 := by
    simpa [Char.isDigit, Char.le_def, UInt32.le_iff_toNat_le] using h
  simp only [isBlank, Bool.or_eq_false_iff, Bool.and_eq_false_iff, decide_eq_false_iff_not,
    beq_eq_false_iff_ne]
  omega

lemma dropWhile_eq_self {p : Char → Bool} {cs : List Char} (h : ∀ c ∈ cs, p c = false) :
    cs.dropWhile p = cs := by
  cases cs with
  | nil => rfl
  | cons c cs => simp [h c List.mem_cons_self]

/-- A text without blanks is left as it is. -/
lemma trimChars_eq_self {cs : List Char} (h : ∀ c ∈ cs, isBlank c = false) : trimChars cs = cs := by
  rw [trimChars, trimLeft, dropWhile_eq_self h, trimRight, dropWhile_eq_self (by simpa using h),
    List.reverse_reverse]

lemma eq_or_mem_of_mem_cut (mark : Char) {cs : List Char} {c : Char} (h : c ∈ cs) :
    c = mark ∨ ∃ f ∈ cut mark cs, c ∈ f := by
  induction cs with
  | nil => cases h
  | cons d cs ih =>
    unfold cut
    split
    · rename_i hd
      rcases List.mem_cons.1 h with rfl | h
      · exact .inl hd
      · rcases ih h with rfl | ⟨f, hf, hc⟩
        · exact .inl rfl
        · exact .inr ⟨f, List.mem_cons_of_mem _ hf, hc⟩
    · split
      · rename_i hnil
        exact absurd hnil (cut_ne_nil mark cs)
      · rename_i field rest hcut
        rw [hcut] at ih
        rcases List.mem_cons.1 h with rfl | h
        · exact .inr ⟨_, List.mem_cons_self, List.mem_cons_self⟩
        rcases ih h with rfl | ⟨f, hf, hc⟩
        · exact .inl rfl
        rcases List.mem_cons.1 hf with rfl | hf
        · exact .inr ⟨_, List.mem_cons_self, List.mem_cons_of_mem _ hc⟩
        · exact .inr ⟨f, List.mem_cons_of_mem _ hf, hc⟩

end Text

namespace Instrument.Bridge

open Transport

variable {n : Nat} {ns : List Nat}

/-! ## Bytes with commas between them -/

/-- Bytes with commas between them. -/
def bytes (ns : List Nat) : String := ",".intercalate (ns.map toString)

lemma cut_bytes (hne : ns ≠ []) :
    Text.cut ',' (bytes ns).toList = ns.map (Nat.toDigits 10) := by
  have hdigits (n : Nat) : ',' ∉ Nat.toDigits 10 n := fun hmem =>
    absurd (Nat.isDigit_of_mem_toDigits (by decide) (by decide) hmem) (by decide)
  have h : Text.cut ',' ([','].intercalate (ns.map (Nat.toDigits 10))) =
      ns.map (Nat.toDigits 10) :=
    Text.cut_intercalate (by simpa using hne) (by simpa using fun n _ => hdigits n)
  have htext : (bytes ns).toList = [','].intercalate (ns.map (Nat.toDigits 10)) := by
    simp [bytes, String.toList_intercalate, Function.comp_def]
  rw [htext, h]

lemma not_isBlank_of_mem_digits : ∀ c ∈ Nat.toDigits 10 n, Text.isBlank c = false := fun _ hc =>
  Text.not_isBlank_of_isDigit (Nat.isDigit_of_mem_toDigits (by decide) (by decide) hc)

lemma not_isBlank_of_mem_bytes : ∀ c ∈ (bytes ns).toList, Text.isBlank c = false := by
  intro c hc
  rcases Text.eq_or_mem_of_mem_cut ',' hc with rfl | ⟨f, hf, hcf⟩
  · decide
  rcases Decidable.em (ns = []) with rfl | hne
  · simp [bytes] at hc
  · rw [cut_bytes hne] at hf
    obtain ⟨n, -, rfl⟩ := List.mem_map.1 hf
    exact not_isBlank_of_mem_digits c hcf

/-- The driver reads back bytes from a reply. -/
lemma parseValues_bytes (h : ∀ m ∈ n :: ns, m ≤ Number.byteMax) :
    ∃ v, parseValues (bytes (n :: ns)) = .ok v ∧ Number.toByte v.first = n ∧
      v.rest.map Number.toByte = ns := by
  have hfield (m : Nat) (hm : m ≤ Number.byteMax) :
      ∃ x, parseField (Nat.toDigits 10 m) = .ok x ∧ Number.toByte x = m := by
    obtain ⟨x, hx, hbyte⟩ := Number.toByte_readChars hm
    refine ⟨x, ?_, hbyte⟩
    rw [parseField, Text.trimChars_eq_self not_isBlank_of_mem_digits, hx]
    rfl
  have hfields (ms : List Nat) (hms : ∀ m ∈ ms, m ≤ Number.byteMax) :
      ∃ xs, (ms.map (Nat.toDigits 10)).mapM parseField = .ok xs ∧
        xs.map Number.toByte = ms := by
    induction ms with
    | nil => exact ⟨[], rfl, rfl⟩
    | cons m ms ih =>
      obtain ⟨hm, hms⟩ := List.forall_mem_cons.1 hms
      obtain ⟨x, hx, hbyte⟩ := hfield m hm
      obtain ⟨xs, hxs, hbytes⟩ := ih hms
      refine ⟨x :: xs, ?_, by simp [hbyte, hbytes]⟩
      rw [List.map_cons, List.mapM_cons, hx, hxs]
      rfl
  obtain ⟨hn, hns⟩ := List.forall_mem_cons.1 h
  obtain ⟨x, hx, hbyte⟩ := hfield n hn
  obtain ⟨xs, hxs, hbytes⟩ := hfields ns hns
  refine ⟨⟨x, xs⟩, ?_, hbyte, hbytes⟩
  have hcut := cut_bytes (List.cons_ne_nil n ns)
  unfold parseValues
  rw [Text.trimChars_eq_self not_isBlank_of_mem_bytes]
  cases hcs : (bytes (n :: ns)).toList with
  | nil => simp [hcs, Text.cut] at hcut
  | cons c cs =>
    rw [hcs] at hcut
    simp only [hcut, List.map_cons, hx, hxs]
    rfl

/-- So does a simulated bridge, from one argument of a command or from several. -/
lemma number_digits (h : n ≤ Number.byteMax) :
    ∃ x, Simulated.number (toString n) = .ok x ∧ Number.toByte x = n := by
  obtain ⟨x, hx, hbyte⟩ := Number.toByte_readChars h
  refine ⟨x, ?_, hbyte⟩
  have hdigits : (toString n).toList = Nat.toDigits 10 n := by simp
  have hlast : Simulated.dropSemicolons (Nat.toDigits 10 n) = Nat.toDigits 10 n := by
    rw [Simulated.dropSemicolons, Text.dropWhile_eq_self fun c hc => ?_, List.reverse_reverse]
    have hdigit := Nat.isDigit_of_mem_toDigits (by decide) (by decide) (List.mem_reverse.1 hc)
    exact beq_eq_false_iff_ne.2 fun heq => absurd (heq ▸ hdigit) (by decide)
  rw [Simulated.number, hdigits, Text.trimChars_eq_self not_isBlank_of_mem_digits, hlast, hx]

lemma mapM_number_bytes (hne : ns ≠ []) (h : ∀ m ∈ ns, m ≤ Number.byteMax) :
    ∃ xs : List Float, xs.map Number.toByte = ns ∧
      ((Simulated.fields (bytes ns)).mapM fun text =>
        (liftM (Simulated.number text) : Simulated.Answering Simulated.Bridge Float)) = pure xs := by
  have hfields : Simulated.fields (bytes ns) = ns.map toString := by
    rw [Simulated.fields, Text.fields, cut_bytes hne, List.map_map]
    exact List.map_congr_left fun n _ => String.toList_inj.1 (by simp)
  rw [hfields]
  clear hfields hne
  induction ns with
  | nil => exact ⟨[], rfl, rfl⟩
  | cons n ns ih =>
    obtain ⟨hn, hns⟩ := List.forall_mem_cons.1 h
    obtain ⟨x, hx, hbyte⟩ := number_digits hn
    obtain ⟨xs, hbytes, hxs⟩ := ih hns
    refine ⟨x :: xs, by simp [hbyte, hbytes], ?_⟩
    rw [List.map_cons, List.mapM_cons, hx, hxs]
    rfl

/-! ## A simulated bridge -/

/-- A simulated bridge on the bus. -/
def attached (latency : Nat) (b : Simulated.Bridge) : Attachment :=
  ⟨latency, [], .simulated (.bridge b)⟩

variable {latency channel : Nat} {b b' : Simulated.Bridge} {expected : Bool}
  {command text : String}

lemma argument?_append (name text : String) : Simulated.argument? (name ++ text) name =
    some (String.ofList (Text.trimChars text.toList)) := by
  simp [Simulated.argument?]

lemma argument?_eq_none {name : String} (h : ¬name.toList <+: command.toList) :
    Simulated.argument? command name = none := by
  rw [Simulated.argument?, if_neg (by simpa using h)]

/-- How a bridge says what came of a command. -/
def spoken : Except DeviceFault (Option String) → Answer
  | .ok (some text) => .reply text
  | .ok none => .silence Simulated.Model.bridge.name
  | .error cause => .fault cause

lemma answer_attached : (attached latency b).answer expected command =
    (spoken ((Simulated.Bridge.handle command).run.run b).1,
      attached latency ((Simulated.Bridge.handle command).run.run b).2) := by
  change (((Endpoint.simulated (.bridge b)).exchange expected command).1,
    Attachment.mk latency [] ((Endpoint.simulated (.bridge b)).exchange expected command).2) = _
  simp only [Endpoint.exchange, Simulated.Device.handle, Simulated.Device.answerWith]
  generalize (Simulated.Bridge.handle command).run.run b = r
  rcases r with ⟨_ | _ | _, b'⟩ <;> rfl

/-- Asked for the indices of a channel, the bridge says which it keeps. -/
lemma handle_question (h : channel ≤ Number.byteMax) :
    (Simulated.Bridge.handle s!"RDGRNG? {channel}").run.run b =
      (.ok (some (bytes [0, (b.ranges channel).1, (b.ranges channel).2, 0, 0])), b) := by
  obtain ⟨x, hx, hbyte⟩ := number_digits h
  have hcommand : s!"RDGRNG? {channel}" = "RDGRNG? " ++ toString channel := rfl
  have hdigits : String.ofList (Text.trimChars (toString channel).toList) = toString channel := by
    rw [Text.trimChars_eq_self, String.ofList_toList]
    simpa using fun c hc => not_isBlank_of_mem_digits (n := channel) c hc
  have hother (name : String) (hn : ¬name.toList <+: "RDGRNG? ".toList ++ (toString channel).toList) :
      Simulated.argument? ("RDGRNG? " ++ toString channel) name = none :=
    argument?_eq_none (by simpa using hn)
  have hscan : "RDGRNG? " ++ toString channel ≠ "SCAN?" := fun heq => by
    simpa using congrArg String.toList heq
  have hramp : "RDGRNG? " ++ toString channel ≠ "RAMPST?" := fun heq => by
    simpa using congrArg String.toList heq
  have hheater : "RDGRNG? " ++ toString channel ≠ "MOUT?" := fun heq => by
    simpa using congrArg String.toList heq
  rw [hcommand]
  unfold Simulated.Bridge.handle
  simp only [hscan, hramp, hheater, if_false, hother "RDGK? " (by simp),
    hother "RDGR? " (by simp), argument?_append, hdigits, hx]
  rw [← hbyte]
  refine Prod.ext (congrArg (Except.ok ∘ some) (String.toList_inj.1 ?_)) rfl
  simp [bytes]
  rfl

/-- Told the settings of a channel, the bridge keeps the indices. -/
lemma handle_command {s : ChannelSettings}
    (h : ∀ m ∈ [channel, s.mode, s.excitation, s.range, s.autorange, s.excitationOff],
      m ≤ Number.byteMax) :
    (Simulated.Bridge.handle (s.command channel)).run.run b =
      (.ok none, b.setRange channel (s.excitation, s.range)) := by
  obtain ⟨xs, hbytes, hxs⟩ := mapM_number_bytes (List.cons_ne_nil _ _) h
  have hcommand : s.command channel = "RDGRNG " ++ bytes
      [channel, s.mode, s.excitation, s.range, s.autorange, s.excitationOff] := rfl
  generalize hns : [channel, s.mode, s.excitation, s.range, s.autorange, s.excitationOff] = ns at *
  have hdigits : String.ofList (Text.trimChars (bytes ns).toList) = bytes ns := by
    rw [Text.trimChars_eq_self not_isBlank_of_mem_bytes, String.ofList_toList]
  have hother (name : String) (hn : ¬name.toList <+: "RDGRNG ".toList ++ (bytes ns).toList) :
      Simulated.argument? ("RDGRNG " ++ bytes ns) name = none :=
    argument?_eq_none (by simpa using hn)
  have hscan : "RDGRNG " ++ bytes ns ≠ "SCAN?" := fun heq => by
    simpa using congrArg String.toList heq
  have hramp : "RDGRNG " ++ bytes ns ≠ "RAMPST?" := fun heq => by
    simpa using congrArg String.toList heq
  have hheater : "RDGRNG " ++ bytes ns ≠ "MOUT?" := fun heq => by
    simpa using congrArg String.toList heq
  rw [hcommand]
  unfold Simulated.Bridge.handle
  simp only [hscan, hramp, hheater, if_false, hother "RDGK? " (by simp),
    hother "RDGR? " (by simp), hother "RDGRNG? " (by simp), argument?_append,
    hdigits, hxs]
  subst hns
  obtain ⟨x₁, xs, rfl, hchannel, hbytes⟩ := List.map_eq_cons_iff.1 hbytes
  obtain ⟨x₂, xs, rfl, -, hbytes⟩ := List.map_eq_cons_iff.1 hbytes
  obtain ⟨x₃, xs, rfl, hexcitation, hbytes⟩ := List.map_eq_cons_iff.1 hbytes
  obtain ⟨x₄, xs, rfl, hrange, hbytes⟩ := List.map_eq_cons_iff.1 hbytes
  obtain ⟨x₅, xs, rfl, -, hbytes⟩ := List.map_eq_cons_iff.1 hbytes
  obtain ⟨x₆, xs, rfl, -, hbytes⟩ := List.map_eq_cons_iff.1 hbytes
  obtain rfl := List.map_eq_nil_iff.1 hbytes
  rw [← hchannel, ← hexcitation, ← hrange]
  rfl

lemma ranges_scanned : b.scanned.ranges = b.ranges := by
  unfold Simulated.Bridge.scanned
  split <;> rfl

/-- Told anything else, the bridge keeps the indices of every channel. -/
theorem ranges_handle (h : ¬"RDGRNG ".toList <+: command.toList) :
    ((Simulated.Bridge.handle command).run.run b).2.ranges = b.ranges := by
  have hset : Simulated.argument? command "RDGRNG " = none := argument?_eq_none h
  unfold Simulated.Bridge.handle
  simp only [hset]
  change ((if command = "SCAN?" then _ else _ :
    Simulated.Answering Simulated.Bridge (Option String)).run.run b).2.ranges = _
  split
  · exact ranges_scanned
  split
  · rfl
  split
  · rfl
  split
  · next channel _ => cases Simulated.number channel <;> rfl
  split
  · next channel _ => cases Simulated.number channel <;> rfl
  split
  · next channel _ => cases Simulated.number channel <;> rfl
  split
  · next values _ =>
    -- the channel has changed when the second number is read
    cases Simulated.number ((Simulated.fields values)[0]?.getD "6") with
    | error => rfl
    | ok => cases Simulated.number ((Simulated.fields values)[1]?.getD "0") <;> rfl
  split
  · next value _ => cases Simulated.number value <;> rfl
  split
  · next value _ => cases Simulated.number value <;> rfl
  split <;> rfl

/-! ## What the driver makes of a reply -/

/-- The driver reads the settings that make up a reply. -/
lemma ofValues_bytes (id : String) {s : ChannelSettings}
    (h : ∀ m ∈ [s.mode, s.excitation, s.range, s.autorange, s.excitationOff],
      m ≤ Number.byteMax) :
    ∃ v, parseValues (bytes [s.mode, s.excitation, s.range, s.autorange, s.excitationOff]) = .ok v ∧
      ChannelSettings.ofValues id v = .ok s := by
  obtain ⟨⟨x₁, xs⟩, hv, hmode, hbytes⟩ := parseValues_bytes h
  refine ⟨_, hv, ?_⟩
  obtain ⟨x₂, xs, rfl, hexcitation, hbytes⟩ := List.map_eq_cons_iff.1 hbytes
  obtain ⟨x₃, xs, rfl, hrange, hbytes⟩ := List.map_eq_cons_iff.1 hbytes
  obtain ⟨x₄, xs, rfl, hautorange, hbytes⟩ := List.map_eq_cons_iff.1 hbytes
  obtain ⟨x₅, xs, rfl, hoff, hbytes⟩ := List.map_eq_cons_iff.1 hbytes
  obtain rfl := List.map_eq_nil_iff.1 hbytes
  change Except.ok (ChannelSettings.mk (Number.toByte x₁) (Number.toByte x₂) (Number.toByte x₃)
    (Number.toByte x₄) (Number.toByte x₅)) = _
  rw [hmode, hexcitation, hrange, hautorange, hoff]

end Instrument.Bridge

end CryoRig
