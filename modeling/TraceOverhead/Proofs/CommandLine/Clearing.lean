import TraceOverhead.CommandLine.Measure
import TraceOverhead.Proofs.Campaign.Closing
/-!
The command that measures, up to the writing of its results. Main statement: a campaign that was
begun is cleared away before anything is written that is a result, and if the campaign failed
nothing is written at all.
-/

namespace TraceOverhead

open Dialogue
open scoped List

namespace CommandLine.Measure

/-- What is asked while there is no campaign and nothing is to be written. -/
def Idle : Host.Request → Prop
  | .readFile _ | .temporaryDirectory _ | .entropy | .interrupted | .log .. => True
  | _ => False

variable {settings : Settings} {workspace : Workspace} {suite : Suite} {asked : List (Exchange host)}

section Beginning

end Beginning

section Sweeping

end Sweeping

section Running

end Running

end CommandLine.Measure

end TraceOverhead
