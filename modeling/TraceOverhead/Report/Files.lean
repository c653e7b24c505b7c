import TraceOverhead.Flatten
import TraceOverhead.Host
/-!
The files that results are written to: one small property file for every plotted value, a combined
property text, and the whole report as JSON.
-/

namespace TraceOverhead.ReportFiles

def plotLine (value : Json) : String := "YVALUE=" ++ renderValue value ++ "\n"

def plotPath (directory key : String) : String := Path.join directory (key ++ ".properties")

def plotFile (directory : String) (entry : String × Json) : String × String :=
  (plotPath directory entry.1, plotLine entry.2)

/-- One file for every entry, in the order of the keys. -/
def writePlotProperties (entries : FlatMap) (directory : String) : Attempt host Unit := do
  Host.makeDirectories directory
  Host.writeTexts (entries.toList.map (plotFile directory))
  Host.info ("wrote " ++ Number.decimal entries.size ++ " plot property files to " ++ directory)

def propertyLine (entry : String × Json) : String :=
  entry.1 ++ " = " ++ renderValue entry.2 ++ "\n"

def propertiesText (entries : FlatMap) : String :=
  String.join (entries.toList.map propertyLine)

/-- One line for every entry, in the order of the keys. -/
def writePropertiesText (entries : FlatMap) (path : String) : Attempt host Unit := do
  match Path.parent? path with
  | none | some "" => pure ()
  | some directory => Host.makeDirectories directory
  Host.writeText path (propertiesText entries)

def writeJson (document : Json) (path : String) : Attempt host Unit :=
  Host.writeText path (document.indented ++ "\n")

end TraceOverhead.ReportFiles
