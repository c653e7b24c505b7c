import TraceOverhead.Proofs.Dialogue.Attempt
/-!
What a dialogue can ask for at most. The requests of a program are read off its text, whatever it
is answered; that they bound the requests of every course is proved once for all dialogues.
-/

namespace TraceOverhead

namespace Dialogue

variable {interface : Interface} {α β : Type} {allowed : interface.Request → Prop}

/-- All requests are allowed ones, whatever is answered. -/
def Asks (allowed : interface.Request → Prop) : Dialogue interface α → Prop
  | .done _ => True
  | .ask request next => allowed request ∧ ∀ answer, Asks allowed (next answer)

theorem asks_bind {dialogue : Dialogue interface α} {continuation : α → Dialogue interface β}
    (first : Asks allowed dialogue) (second : ∀ value, Asks allowed (continuation value)) :
    Asks allowed (dialogue >>= continuation) := by
  induction dialogue with
  | done value => exact second value
  | ask request next induction =>
      exact ⟨first.1, fun answer => induction answer (first.2 answer)⟩

theorem asks_discard {dialogue : Dialogue interface α} (asks : Asks allowed dialogue) :
    Asks allowed (discard dialogue) := by
  change Asks allowed (dialogue >>= fun _ => .done ())
  exact asks_bind asks fun _ => trivial

theorem asks_of_forall (all : ∀ request, allowed request) (dialogue : Dialogue interface α) :
    Asks allowed dialogue := by
  induction dialogue with
  | done value => trivial
  | ask request next induction => exact ⟨all request, induction⟩

theorem asks_mono {wider : interface.Request → Prop} {dialogue : Dialogue interface α}
    (asks : Asks allowed dialogue) (implies : ∀ request, allowed request → wider request) :
    Asks wider dialogue := by
  induction dialogue with
  | done value => trivial
  | ask request next induction =>
      exact ⟨implies request asks.1, fun answer => induction answer (asks.2 answer)⟩

theorem allowed_of_course {dialogue : Dialogue interface α} {exchanges : List (Exchange interface)}
    {result : α} (course : Course dialogue exchanges result) (asks : Asks allowed dialogue) :
    ∀ exchange ∈ exchanges, allowed exchange.request := by
  induction course with
  | done => simp
  | ask answer rest induction =>
      intro exchange member
      rcases List.mem_cons.1 member with first | later
      · rw [first]
        exact asks.1
      · exact induction (asks.2 answer) exchange later

end Dialogue

namespace Attempt

open Dialogue

variable {interface : Interface} {α β : Type} {allowed : interface.Request → Prop}

theorem asks_bind {attempt : Attempt interface α} {continuation : α → Attempt interface β}
    (first : Asks allowed attempt.outcome) (second : ∀ value, Asks allowed (continuation value).outcome) :
    Asks allowed (attempt >>= continuation).outcome := by
  change Asks allowed (attempt.outcome >>= ExceptT.bindCont continuation)
  apply Dialogue.asks_bind first
  intro outcome
  cases outcome with
  | error failure => trivial
  | ok value => exact second value

theorem asks_lift {dialogue : Dialogue interface α} (asks : Asks allowed dialogue) :
    Asks allowed (liftM dialogue : Attempt interface α).outcome :=
  Dialogue.asks_bind asks fun _ => trivial

end Attempt

open Dialogue

/-- A request that is passed on to the operating system stays what it is. -/
theorem asks_on_host {α : Type} {allowed : Instruments.Request → Prop} {dialogue : Dialogue host α}
    (asks : Asks (fun request : Host.Request => allowed (.host request)) dialogue) :
    Asks allowed (Instruments.onHost dialogue) := by
  induction dialogue with
  | done value => trivial
  | ask request next induction =>
      exact ⟨asks.1, fun answer => induction answer (asks.2 answer)⟩

end TraceOverhead
