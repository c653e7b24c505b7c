import TraceOverhead.Host
import TraceOverhead.Tracepoint.Source
/-!
The files that tracepoints are written to: a template for each, and after them the header, so that a
header is there only with all the templates that it includes.
-/

namespace TraceOverhead.Tracepoint

def templateFile (directory : String) (tracepoint : Tracepoint) : String × String :=
  (Path.join directory tracepoint.fileName, tracepoint.definition)

def headerFile (directory : String) (tracepoints : List Tracepoint) : String × String :=
  (Path.join directory headerName, header tracepoints)

def writeAll (directory : String) (tracepoints : List Tracepoint) : Attempt host Unit := do
  Host.makeDirectories directory
  Host.writeTexts
    (tracepoints.map (templateFile directory) ++ [headerFile directory tracepoints])

end TraceOverhead.Tracepoint
