import CryoRig.Proofs.Requests

/-!
# Work as it is carried out

A site carries out actions by asking for other things. So the path of work that is carried out is
cut into blocks, one for each request of the work: what carries it out, and the reply that comes of
it.

## Main definitions

* `CryoRig.Process.Block`: a request with its reply, and what carried it out.
* `CryoRig.Control.onRig`: an exchange of a driver, as the rig sees it.
* `CryoRig.Control.CarriedOut`: what is asked of a rig when work is carried out at a site.

## Main results

* `CryoRig.Process.ends_translate_iff`: the path of work that is carried out is made of blocks.
* `CryoRig.Control.ends_drive_iff`: the path of a driver's work is the same on the rig.
* `CryoRig.Control.ends_carryOut_iff`: so is the path of work, but for its actions.
-/

namespace CryoRig

namespace Process

variable {I J : Interface} {α : Type}

/-- A request with its reply, and what carried it out. -/
structure Block (I J : Interface) where
  /-- The request and the reply. -/
  exchange : Exchange I
  /-- What was asked and replied to carry it out. -/
  path : List (Exchange J)

/-- The path of a block is one of what its request is replaced by, and ends with its reply. -/
def Block.By (h : (r : I.Request) → Process J (I.Reply r)) (b : Block I J) : Prop :=
  (h b.exchange.request).Ends b.path b.exchange.reply

/-- The path of work that is carried out is made of blocks, one for each request. -/
theorem ends_translate_iff {h : (r : I.Request) → Process J (I.Reply r)} {p : Process I α}
    {es : List (Exchange J)} {a : α} :
    (p.translate h).Ends es a ↔ ∃ blocks : List (Block I J),
      es = blocks.flatMap Block.path ∧ p.Ends (blocks.map Block.exchange) a ∧
        ∀ b ∈ blocks, b.By h := by
  induction p generalizing es with
  | done b =>
    constructor
    · intro hend
      obtain ⟨rfl, rfl⟩ := ends_done_iff.1 hend
      exact ⟨[], rfl, .refl _, by simp⟩
    · rintro ⟨blocks, rfl, hend, -⟩
      obtain ⟨hnil, rfl⟩ := ends_done_iff.1 hend
      obtain rfl := List.map_eq_nil_iff.1 hnil
      exact .refl _
  | ask r next ih =>
    constructor
    · intro hend
      obtain ⟨es₁, es₂, reply, rfl, h₁, h₂⟩ := ends_bind_iff.1 hend
      obtain ⟨blocks, rfl, hpath, hby⟩ := (ih reply).1 h₂
      refine ⟨⟨⟨r, reply⟩, es₁⟩ :: blocks, rfl, .step hpath, ?_⟩
      simpa [Block.By, h₁] using hby
    · rintro ⟨blocks, rfl, hend, hby⟩
      obtain ⟨reply, rest, hrest, hnext⟩ := ends_ask_iff.1 hend
      obtain ⟨⟨exchange, path⟩, blocks, rfl, rfl, rfl⟩ := List.map_eq_cons_iff.1 hrest
      obtain ⟨hb, hby⟩ := List.forall_mem_cons.1 hby
      exact ends_bind_iff.2 ⟨path, _, reply, rfl, hb, (ih reply).2 ⟨blocks, rfl, hnext, hby⟩⟩

/-- What work asks for when it is carried out, if every request of it asks for that. -/
lemma AsksOnly.translate {R : I.Request → Prop} {P : J.Request → Prop}
    {h : (r : I.Request) → Process J (I.Reply r)} {p : Process I α} (hp : p.AsksOnly R)
    (hh : ∀ r, R r → (h r).AsksOnly P) : (p.translate h).AsksOnly P := by
  induction p with
  | done => trivial
  | ask r next ih => exact (hh r hp.1).bind fun reply => ih reply (hp.2 reply)

end Process

namespace Control

open Process

variable {α : Type} {es : List (Exchange RigSurroundings)}

/-- An exchange of a driver, as the rig sees it. -/
def onRig (e : Exchange Instrument.Surroundings) : Exchange RigSurroundings :=
  ⟨.device e.request, e.reply⟩

lemma ends_ofDriver_iff {p : Process Instrument.Surroundings α} {a : α} :
    (p.translate ofDriver).Ends es a ↔ ∃ said, es = said.map onRig ∧ p.Ends said a := by
  induction p generalizing es with
  | done b =>
    constructor
    · intro h
      obtain ⟨rfl, rfl⟩ := ends_done_iff.1 h
      exact ⟨[], rfl, .refl _⟩
    · rintro ⟨said, rfl, h⟩
      obtain ⟨rfl, rfl⟩ := ends_done_iff.1 h
      exact .refl _
  | ask r next ih =>
    have hask : (translate ofDriver (.ask r next)) =
        (.ask (.device r) fun reply => (next reply).translate ofDriver : RigWork α) := rfl
    rw [hask]
    constructor
    · intro h
      obtain ⟨reply, rest, rfl, hnext⟩ := ends_ask_iff.1 h
      obtain ⟨said, rfl, hsaid⟩ := (ih reply).1 hnext
      exact ⟨⟨r, reply⟩ :: said, rfl, .step hsaid⟩
    · rintro ⟨said, rfl, h⟩
      obtain ⟨reply, rest, rfl, hnext⟩ := ends_ask_iff.1 h
      exact ends_ask_iff.2 ⟨reply, _, rfl, (ih reply).2 ⟨rest, rfl, hnext⟩⟩

/-- The path of a driver's work is the same on the rig. -/
theorem ends_drive_iff {work : Instrument.Driving α} {result : Except DeviceFault α} :
    (drive work).Ends es result ↔ ∃ said, es = said.map onRig ∧ work.run.Ends said result :=
  ends_ofDriver_iff

/-- What a rig is asked for, and what it replies, when exchanges of work are carried out at a site
one after the other. -/
def CarriedOut (site : Site RigSurroundings) (ws : List (Exchange WorkSurroundings))
    (es : List (Exchange RigSurroundings)) : Prop :=
  ∃ blocks : List (Block WorkSurroundings RigSurroundings), ws = blocks.map Block.exchange ∧
    es = blocks.flatMap Block.path ∧ ∀ b ∈ blocks, b.By (ofWork site)

section CarriedOut

variable {site : Site RigSurroundings} {ws ws' : List (Exchange WorkSurroundings)}
  {w : Exchange WorkSurroundings}

/-- The path of work is the same on the rig, but for its actions. -/
theorem ends_carryOut_iff {work : Working α} {a : α} :
    (carryOut site work).Ends es a ↔ ∃ ws, CarriedOut site ws es ∧ work.Ends ws a := by
  refine ends_translate_iff.trans ⟨?_, ?_⟩
  · rintro ⟨blocks, rfl, hwork, hby⟩
    exact ⟨_, ⟨blocks, rfl, rfl, hby⟩, hwork⟩
  · rintro ⟨_, ⟨blocks, rfl, rfl, hby⟩, hwork⟩
    exact ⟨blocks, rfl, hwork, hby⟩

@[simp] lemma carriedOut_nil_iff : CarriedOut site [] es ↔ es = [] := by
  constructor
  · rintro ⟨blocks, hnil, rfl, -⟩
    rw [List.map_eq_nil_iff.1 hnil.symm]
    rfl
  · rintro rfl
    exact ⟨[], rfl, rfl, List.forall_mem_nil _⟩

lemma carriedOut_append_iff : CarriedOut site (ws ++ ws') es ↔
    ∃ es₁ es₂, es = es₁ ++ es₂ ∧ CarriedOut site ws es₁ ∧ CarriedOut site ws' es₂ := by
  constructor
  · rintro ⟨blocks, hblocks, rfl, hby⟩
    obtain ⟨first, last, rfl, rfl, rfl⟩ := List.map_eq_append_iff.1 hblocks.symm
    obtain ⟨hfirst, hlast⟩ := List.forall_mem_append.1 hby
    exact ⟨_, _, List.flatMap_append, ⟨first, rfl, rfl, hfirst⟩, ⟨last, rfl, rfl, hlast⟩⟩
  · rintro ⟨_, _, rfl, ⟨first, rfl, rfl, hfirst⟩, ⟨last, rfl, rfl, hlast⟩⟩
    exact ⟨first ++ last, List.map_append.symm, List.flatMap_append.symm,
      List.forall_mem_append.2 ⟨hfirst, hlast⟩⟩

/-- One exchange is carried out on a path of its own. -/
lemma carriedOut_singleton_iff :
    CarriedOut site [w] es ↔ (ofWork site w.request).Ends es w.reply := by
  constructor
  · rintro ⟨blocks, hblocks, rfl, hby⟩
    obtain ⟨b, rest, rfl, rfl, hrest⟩ := List.map_eq_cons_iff.1 hblocks.symm
    obtain rfl := List.map_eq_nil_iff.1 hrest
    rw [List.flatMap_singleton]
    exact hby b List.mem_cons_self
  · intro h
    exact ⟨[⟨w, es⟩], rfl, by simp, List.forall_mem_singleton.2 h⟩

lemma carriedOut_cons_iff : CarriedOut site (w :: ws) es ↔
    ∃ es₁ es₂, es = es₁ ++ es₂ ∧ (ofWork site w.request).Ends es₁ w.reply ∧
      CarriedOut site ws es₂ := by
  rw [← List.singleton_append, carriedOut_append_iff]
  simp only [carriedOut_singleton_iff]

/-- What is asked of the rig itself is asked as it is. -/
lemma carriedOut_rig_iff {r : Request} {reply : r.Reply} :
    CarriedOut site (⟨.rig r, reply⟩ :: ws) es ↔
      ∃ rest, es = ⟨r, reply⟩ :: rest ∧ CarriedOut site ws rest := by
  rw [carriedOut_cons_iff]
  constructor
  · rintro ⟨es₁, es₂, rfl, hrig, hrest⟩
    obtain rfl := ends_request_iff.1 hrig
    exact ⟨es₂, rfl, hrest⟩
  · rintro ⟨rest, rfl, hrest⟩
    exact ⟨[⟨r, reply⟩], rest, rfl, ends_request_iff.2 rfl, hrest⟩

lemma CarriedOut.mem_of_rig {r : Request} {reply : r.Reply} (h : CarriedOut site ws es)
    (hm : (⟨.rig r, reply⟩ : Exchange WorkSurroundings) ∈ ws) :
    (⟨r, reply⟩ : Exchange RigSurroundings) ∈ es := by
  obtain ⟨ws₁, ws₂, rfl⟩ := List.append_of_mem hm
  obtain ⟨es₁, es₂, rfl, -, h₂⟩ := carriedOut_append_iff.1 h
  obtain ⟨rest, rfl, -⟩ := carriedOut_rig_iff.1 h₂
  exact List.mem_append_right _ List.mem_cons_self

end CarriedOut

end Control

end CryoRig
