/-!
What a tracing session is to record, and where to.
-/

namespace TraceOverhead

inductive Domain where
  | user
  | kernel
  deriving DecidableEq, Repr

def Domain.name : Domain → String
  | .user => "Ust"
  | .kernel => "Kernel"

structure SessionConfig where
  name : String
  tracePath : String
  domain : Domain
  channel : String
  /-- Names or patterns of tracepoints. -/
  events : List String
  /-- A snapshot session keeps events in memory and never writes its trace. -/
  snapshot : Bool
  deriving DecidableEq, Repr

def SessionConfig.standardChannel : String := "channel0"

end TraceOverhead
