/-!
Programs as dialogues with their surroundings. A dialogue either is over or asks a request and goes
on with the answer, whatever it may be; so a program says nothing about who answers. The same
program can be run on a machine kept in memory, have some of its requests answered by another
program, or be reasoned about for all answers at once.
-/

namespace TraceOverhead

/-- What can be asked, and what kind of answer each request has. -/
structure Interface where
  Request : Type
  Answer : Request → Type

inductive Dialogue (interface : Interface) (α : Type) where
  | done (result : α)
  | ask (request : interface.Request) (next : interface.Answer request → Dialogue interface α)

namespace Dialogue

variable {interface : Interface} {α β γ : Type}

def bind : Dialogue interface α → (α → Dialogue interface β) → Dialogue interface β
  | done result, continuation => continuation result
  | ask request next, continuation => ask request fun answer => (next answer).bind continuation

instance : Monad (Dialogue interface) where
  pure := done
  bind := bind

theorem bind_done (dialogue : Dialogue interface α) : dialogue.bind done = dialogue := by
  induction dialogue with
  | done => rfl
  | ask request next induction => exact congrArg (ask request) (funext induction)

theorem bind_bind (dialogue : Dialogue interface α) (first : α → Dialogue interface β)
    (second : β → Dialogue interface γ) :
    (dialogue.bind first).bind second = dialogue.bind fun result =>
      (first result).bind second := by
  induction dialogue with
  | done => rfl
  | ask request next induction => exact congrArg (ask request) (funext induction)

instance : LawfulMonad (Dialogue interface) :=
  LawfulMonad.mk' _ bind_done (fun _ _ => rfl) bind_bind

def request (request : interface.Request) : Dialogue interface (interface.Answer request) :=
  ask request done

/-- Runs a dialogue with every request answered in a monad. -/
def interpret {m : Type → Type} [Monad m]
    (answer : (request : interface.Request) → m (interface.Answer request)) :
    Dialogue interface α → m α
  | done result => pure result
  | ask request next => do
    let reply ← answer request
    (next reply).interpret answer

section Interpretation

variable {m : Type → Type} [Monad m] [LawfulMonad m]
  (answer : (request : interface.Request) → m (interface.Answer request))

/-- A dialogue in two parts may be interpreted part by part. -/
theorem interpret_bind (dialogue : Dialogue interface α)
    (continuation : α → Dialogue interface β) :
    (dialogue >>= continuation).interpret answer =
      dialogue.interpret answer >>= fun result => (continuation result).interpret answer := by
  induction dialogue with
  | done result =>
    change (continuation result).interpret answer =
      pure result >>= fun result => (continuation result).interpret answer
    rw [pure_bind]
  | ask request next induction =>
    change (ask request fun reply => (next reply).bind continuation).interpret answer = _
    simp only [interpret, bind_assoc]
    exact congrArg (answer request >>= ·) (funext induction)

end Interpretation

end Dialogue
end TraceOverhead
