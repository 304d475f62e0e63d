import Mathlib.Tactic.Lemma
import Mathlib.Tactic.SplitIfs
import CryoRig.Transport.Attachment

/-!
# What instruments complain about

A fault carries its cause, and at the root of it there is what went wrong in the first place. That
no such instrument is on the bus is for the bus to say: no instrument ever says so, be it a
simulated one, a peer on the network or one that follows a rehearsal.

## Main definitions

* `CryoRig.DeviceFault.root`: what went wrong in the first place.
* `CryoRig.DeviceFault.Own`: a fault whose root is not that an instrument is missing.
* `CryoRig.Simulated.Answering.Own`: an answer whose faults are of this kind.

## Main results

* `CryoRig.Simulated.Device.own_handle`: the faults of a simulated instrument are of this kind.
* `CryoRig.Transport.Attachment.own_answer`: so are those of whatever is attached to the bus.
-/

namespace CryoRig

/-- What went wrong in the first place. -/
def DeviceFault.root : DeviceFault → DeviceFault
  | during _ cause => cause.root
  | fault => fault

/-- What went wrong in the first place is not that an instrument is missing. -/
def DeviceFault.Own (fault : DeviceFault) : Prop := ∀ id, fault.root ≠ .notAttached id

/-! ## Simulated instruments -/

namespace Simulated

variable {σ α β : Type}

/-- Whatever the state, a fault is of one's own. -/
def Answering.Own (x : Answering σ α) : Prop :=
  ∀ s fault t, x.run.run s = (.error fault, t) → fault.Own

namespace Answering

lemma own_pure (a : α) : Own (pure a : Answering σ α) := fun _ _ _ h => nomatch h

lemma own_throw {fault : DeviceFault} (h : fault.Own) : Own (throw fault : Answering σ α) := by
  rintro s fault' t ⟨⟩
  exact h

lemma own_get : Own (get : Answering σ σ) := fun _ _ _ h => nomatch h

lemma own_set (s : σ) : Own (set s : Answering σ PUnit) := fun _ _ _ h => nomatch h

lemma own_modify (f : σ → σ) : Own (modify f : Answering σ PUnit) := fun _ _ _ h => nomatch h

lemma Own.bind {x : Answering σ α} {f : α → Answering σ β} (hx : x.Own) (hf : ∀ a, (f a).Own) :
    (x >>= f).Own := by
  intro s fault t h
  rw [ExceptT.run_bind, StateT.run_bind] at h
  have hfails := hx s
  generalize x.run.run s = result at h hfails
  obtain ⟨fault' | a, s'⟩ := result
  · cases h
    exact hfails _ _ rfl
  · exact hf a s' fault t h

lemma own_number (text : String) : Own (liftM (number text) : Answering σ Float) := by
  unfold number
  split
  · exact own_pure _
  · exact own_throw nofun

lemma own_mapM {f : α → Answering σ β} (h : ∀ a, (f a).Own) (as : List α) : (as.mapM f).Own := by
  induction as with
  | nil => exact own_pure _
  | cons a as ih =>
    rw [List.mapM_cons]
    exact (h a).bind fun _ => ih.bind fun _ => own_pure _

end Answering

open Answering

lemma own_reply (text : String) : (reply text : Answering σ (Option String)).Own := own_pure _

lemma own_silence : (silence : Answering σ (Option String)).Own := own_pure _

lemma own_unknown (model command : String) :
    (throw (.unknownCommand model command) : Answering σ (Option String)).Own := own_throw nofun

/-- The state is changed. -/
lemma own_setThen (s : σ) : (set s >>= fun _ => silence : Answering σ (Option String)).Own :=
  (own_set s).bind fun _ => own_silence

/-- An argument is read, and with it the state is changed. -/
lemma own_numberThen {f : Float → Answering σ PUnit} (text : String) (h : ∀ x, (f x).Own) :
    (number text >>= fun x => f x >>= fun _ => silence : Answering σ (Option String)).Own :=
  (own_number _).bind fun x => (h x).bind fun _ => own_silence

lemma Lockin.own_set (command : String) : (Lockin.set command).Own := by
  unfold Lockin.set
  repeat' split
  · exact own_numberThen _ fun _ => own_modify _
  · exact own_numberThen _ fun _ => own_modify _
  · exact own_numberThen _ fun _ => own_modify _
  · exact (own_number _).bind fun _ => (own_modify _).bind fun _ =>
      own_numberThen _ fun _ => own_modify _
  · exact own_unknown _ _

lemma Lockin.own_handle (command : String) : (Lockin.handle command).Own := by
  refine own_get.bind fun l => ?_
  split
  all_goals with_reducible first
    | exact own_reply _
    | exact own_silence
    | exact own_set command
    | exact (own_modify _).bind fun _ => own_silence

lemma Bridge.own_handle (command : String) : (Bridge.handle command).Own := by
  refine own_get.bind fun b => ?_
  repeat' split
  all_goals with_reducible first
    | exact own_reply _
    | exact own_silence
    | exact own_unknown _ _
    | exact (Answering.own_set _).bind fun _ => own_reply _
    | exact (own_number _).bind fun _ => own_reply _
    | exact own_numberThen _ fun _ => own_set _
    | skip
  · refine (own_mapM (fun text => own_number text) _).bind fun values => ?_
    split
    · exact own_setThen _
    · exact own_throw nofun
  · exact (own_number _).bind fun _ => (own_modify _).bind fun _ =>
      own_numberThen _ fun _ => own_modify _

lemma Magnet.own_handle (command : String) : (Magnet.handle command).Own := by
  refine own_get.bind fun m => ?_
  repeat' split
  all_goals with_reducible first
    | exact own_reply _
    | exact own_silence
    | exact own_unknown _ _
    | exact own_numberThen _ fun _ => own_set _

lemma Gate.own_handle (command : String) : (Gate.handle command).Own := by
  refine own_get.bind fun g => ?_
  repeat' split
  all_goals with_reducible first
    | exact own_reply _
    | exact own_unknown _ _
    | exact own_setThen _
    | exact own_numberThen _ fun _ => own_set _

lemma CurrentSource.own_handle (command : String) : (CurrentSource.handle command).Own := by
  refine own_get.bind fun s => ?_
  repeat' split
  all_goals with_reducible first
    | exact own_reply _
    | exact own_silence
    | exact own_unknown _ _
    | exact own_setThen _
    | exact own_numberThen _ fun _ => own_set _

lemma ControlProgram.own_handle (command : String) : (ControlProgram.handle command).Own := by
  refine own_get.bind fun p => ?_
  repeat' split
  all_goals with_reducible first
    | exact own_reply _
    | exact own_unknown _ _
    | exact own_numberThen _ fun _ => own_set _

lemma own_temperatureController (command : String) :
    (temperatureController command : Answering σ (Option String)).Own := by
  unfold temperatureController
  split
  · exact own_reply _
  · exact own_reply _
  · exact own_unknown _ _

lemma own_multimeter (command : String) :
    (multimeter command : Answering σ (Option String)).Own := by
  unfold multimeter
  split
  · exact own_reply _
  · exact own_unknown _ _

lemma own_resistanceMeter (command : String) :
    (resistanceMeter command : Answering σ (Option String)).Own := by
  unfold resistanceMeter
  split
  · exact own_reply _
  · exact own_unknown _ _

/-- A simulated instrument has no fault that is not its own. -/
theorem Device.own_handle (command : String) (device : Device) {fault : DeviceFault}
    (h : (device.handle command).1 = .error fault) : fault.Own := by
  have hown {σ : Type} {wrap : σ → Device} {handler : Handler σ} {state : σ}
      (hhandler : (handler command).Own)
      (h : (answerWith wrap handler command state).1 = .error fault) : fault.Own :=
    hhandler state fault _ (Prod.ext h rfl)
  cases device with
  | lockin => exact hown (Lockin.own_handle command) h
  | bridge => exact hown (Bridge.own_handle command) h
  | temperatureController => exact hown (own_temperatureController command) h
  | magnet => exact hown (Magnet.own_handle command) h
  | gate => exact hown (Gate.own_handle command) h
  | multimeter => exact hown (own_multimeter command) h
  | resistanceMeter => exact hown (own_resistanceMeter command) h
  | currentSource => exact hown (CurrentSource.own_handle command) h
  | controlProgram => exact hown (ControlProgram.own_handle command) h

end Simulated

/-! ## Whatever is attached -/

namespace Transport

variable {fault : DeviceFault} {command : String}

lemma own_lineReply {address : String} {received : Received}
    (h : lineReply address command received = .error fault) : fault.Own := by
  unfold lineReply at h
  split at h <;> cases h <;> exact nofun

lemma Frame.own_read {bs : List UInt8} (h : Frame.read bs = .error fault) : fault.Own := by
  unfold Frame.read at h
  split at h
  · dsimp only at h
    split_ifs at h <;> cases h <;> exact nofun
  · cases h
    exact nofun

lemma Endpoint.own_callReply {limit : Nat} {r : Response}
    (h : callReply command limit r = .error fault) : fault.Own := by
  unfold callReply at h
  dsimp only at h
  split at h
  · cases h
    exact nofun
  · exact Frame.own_read h

lemma Answer.eq_error_of_ofExcept {result : Except DeviceFault String}
    (h : Answer.ofExcept result = .fault fault) : result = .error fault := by
  cases result with
  | ok => cases h
  | error => cases h; rfl

/-- Whatever is at the other end has no fault that is not its own. -/
lemma Endpoint.own_exchange {e : Endpoint} {expected : Bool}
    (h : (e.exchange expected command).1 = .fault fault) : fault.Own := by
  cases e with
  | nothing => cases h
  | simulated device =>
    refine Simulated.Device.own_handle command device ?_
    simp only [exchange] at h
    split at h
    · cases h
    · cases h
    · cases h
      assumption
  | line l =>
    cases expected with
    | false => cases h
    | true => exact own_lineReply (Answer.eq_error_of_ofExcept h)
  | caller address limit peer =>
    cases peer with
    | unreachable cause =>
      cases h
      exact nofun
    | answering responses =>
      cases expected with
      | false => cases h
      | true => exact Endpoint.own_callReply (Answer.eq_error_of_ofExcept h)

/-- Whatever is attached to the bus has no fault that is not its own. -/
theorem Attachment.own_answer {a : Attachment} {expected : Bool}
    (h : (a.answer expected command).1 = .fault fault) : fault.Own := by
  unfold answer at h
  split at h
  · cases h
  · cases h
  · cases h
    exact nofun
  · exact Endpoint.own_exchange h
  · exact Endpoint.own_exchange h

lemma Answer.own_toWrite {answer : Answer} (hown : ∀ fault, answer = .fault fault → fault.Own)
    (h : answer.toWrite = .error fault) : fault.Own := by
  cases answer with
  | reply | silence => cases h
  | fault cause =>
    cases h
    exact hown _ rfl

lemma Answer.own_toQuery {answer : Answer} (hown : ∀ fault, answer = .fault fault → fault.Own)
    (h : answer.toQuery command = .error fault) : fault.Own := by
  cases answer with
  | reply => cases h
  | silence =>
    cases h
    exact nofun
  | fault cause =>
    cases h
    exact hown _ rfl

end Transport

end CryoRig
