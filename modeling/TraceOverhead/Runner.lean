import TraceOverhead.Session
import TraceOverhead.Timing
/-!
The runner, the program that starts a benchmarked program once for every CPU and prints the
timestamps of all of them, run by itself or inside a tracing session.
-/

namespace TraceOverhead.Runner

open Instruments

def run (runner : String) (arguments : List String) : Attempt host (List TimingRecord) := do
  let output ← Host.output runner arguments
  (TimingRecord.readOutput output : Except Error (List TimingRecord))

/-- What a run inside a session gave; events are counted if there is a reader. -/
structure TracedRun where
  records : List TimingRecord
  eventCount : Option UInt64

/-- Runs inside a session, which is over by the time its trace is read. -/
def runTraced {m : Type → Type} [Monad m] [MonadLiftT (Dialogue instruments) m] (runner : String)
    (arguments : List String) (config : SessionConfig) (hasReader : Bool) :
    ExceptT Error m TracedRun := do
  let records ← Session.during config
    (ExceptT.mk (liftM (attemptOnHost (run runner arguments)).outcome : m _))
  if hasReader then
    let count ← ExceptT.mk (liftM (countEvents config.tracePath).outcome : m _)
    return ⟨records, some count⟩
  else return ⟨records, none⟩

end TraceOverhead.Runner
