import TraceOverhead.Tracepoint.Basic
/-!
The C sources of tracepoints: a template file for each, and one header that includes what is
generated from the templates and calls every tracepoint from a single macro.
-/

namespace TraceOverhead.Tracepoint

def fileName (tracepoint : Tracepoint) : String := tracepoint.name ++ ".tp"

def headerName : String := "generated_tp.h"

def declaration (argument : Argument) : String := argument.cType ++ ", " ++ argument.name

def definition (tracepoint : Tracepoint) : String :=
  "TRACEPOINT_EVENT(\n\t" ++ tracepoint.provider ++ ",\n\t" ++ tracepoint.name ++
    ",\n\tTP_ARGS(" ++ ", ".intercalate (tracepoint.arguments.map declaration) ++
    "),\n\tTP_FIELDS(\n\t\t" ++ "\n\t\t".intercalate tracepoint.fieldTexts ++ "\n\t)\n)"

/-- The statement that passes the tracepoint. -/
def call (tracepoint : Tracepoint) : String :=
  "tracepoint(" ++ tracepoint.provider ++ ", " ++ tracepoint.name ++ ", " ++
    ", ".intercalate tracepoint.values ++ ");"

def includeLine (tracepoint : Tracepoint) : String :=
  "#include \"" ++ tracepoint.name ++ ".tp.h\""

/-- The lines of the macro end in a backslash, which joins them into one. -/
def header (tracepoints : List Tracepoint) : String :=
  "\n".intercalate (tracepoints.map includeLine) ++ "\n\n#define GENERATED_TP\\\n\t" ++
    "\\\n\t".intercalate (tracepoints.map call) ++ "\n"

end TraceOverhead.Tracepoint
