/-!
# Processes as trees of requests

Everything the rig does in time, driving an instrument, sampling, running a script, is written as
a *process*: a finite tree whose inner nodes ask the surroundings for something and go on with the
reply, and whose leaves hold a result. What a process does is then data. A scheduler answers its
requests one at a time, and a statement about a process is a statement about every reply.

A loop without a bound is no finite tree. Such a loop is written as one turn, a process that ends
with `Turn.again`, and whoever runs it starts the next turn.

## Main definitions

* `CryoRig.Interface`: the requests a process may make and the type of each reply.
* `CryoRig.Process`: trees of requests, with their sequencing as a monad.
* `CryoRig.Process.translate`: the same process with every request replaced by a process over
  another interface.
* `CryoRig.Turn`: how one turn of a loop ends.

## Main results

* `CryoRig.Process.bind_assoc`, `CryoRig.Process.bind_done`: the monad laws.
* `CryoRig.Process.translate_bind`: translation goes through sequencing.
-/

namespace CryoRig

/-- The requests a process may make, each with the type of its reply. -/
structure Interface where
  /-- What may be asked for. -/
  Request : Type
  /-- What comes back. -/
  Reply : Request → Type

/-- A finite tree of requests over `I` that ends with a value of type `α`. -/
inductive Process (I : Interface) (α : Type) : Type where
  /-- Nothing more is asked. -/
  | done (value : α) : Process I α
  /-- Ask `request`, then go on with the reply. -/
  | ask (request : I.Request) (next : I.Reply request → Process I α) : Process I α

namespace Process

variable {I J : Interface} {α β γ : Type}

/-- Run `p`, then `f` on its result. -/
protected def bind : Process I α → (α → Process I β) → Process I β
  | done a, f => f a
  | ask r next, f => ask r fun reply => (next reply).bind f

instance : Monad (Process I) where
  pure := done
  bind := Process.bind

/-- The process that makes one request and ends with its reply. -/
def request (r : I.Request) : Process I (I.Reply r) :=
  ask r done

/-- Replace each request by a process over another interface. -/
def translate (h : (r : I.Request) → Process J (I.Reply r)) : Process I α → Process J α
  | done a => done a
  | ask r next => (h r).bind fun reply => (next reply).translate h

/-! ## Laws -/

@[simp] theorem bind_done (p : Process I α) : p.bind done = p := by
  induction p with
  | done a => rfl
  | ask r next ih => simp only [Process.bind]; congr 1; funext reply; exact ih reply

@[simp] theorem bind_assoc (p : Process I α) (f : α → Process I β) (g : β → Process I γ) :
    (p.bind f).bind g = p.bind fun a => (f a).bind g := by
  induction p with
  | done a => rfl
  | ask r next ih => simp only [Process.bind]; congr 1; funext reply; exact ih reply

theorem translate_bind (h : (r : I.Request) → Process J (I.Reply r)) (p : Process I α)
    (f : α → Process I β) :
    (p.bind f).translate h = (p.translate h).bind fun a => (f a).translate h := by
  induction p with
  | done a => rfl
  | ask r next ih =>
    simp only [Process.bind, translate, bind_assoc]
    congr 1; funext reply; exact ih reply

instance : LawfulMonad (Process I) :=
  LawfulMonad.mk' (Process I) bind_done (fun _ _ => rfl) bind_assoc

end Process

/-- How one turn of a loop ends: with the state for the next turn, or with the loop's result. -/
inductive Turn (σ α : Type) where
  /-- The loop goes round once more from `state`. -/
  | again (state : σ)
  /-- The loop is over. -/
  | over (result : α)

end CryoRig
