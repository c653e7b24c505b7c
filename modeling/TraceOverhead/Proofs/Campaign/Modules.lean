import TraceOverhead.Proofs.Campaign.Requests
import TraceOverhead.Proofs.Campaign.Rounds
import TraceOverhead.Proofs.Kernel.Clearing
/-!
What a campaign does to the kernel modules. Whatever it is asked for, and wherever that breaks off,
the modules see nothing of it but calls of the one benchmark in the kernel, each with the record
that the one before it left.
-/

namespace TraceOverhead

open Dialogue

namespace Campaign

variable {α β : Type} {campaign : Campaign} {bench : KernelBench} {before middle after : CampaignState}
  {first second exchanges : List (Exchange instruments)} {inserted reached left : Inserted}

section Parts

end Parts

section Passes

end Passes

section Sweeps

open Hotplug

variable {root : String}

end Sweeps

end Campaign

end TraceOverhead
