import TraceOverhead.Text.Pieces
/-!
Paths as texts: joining, the directory above, the name without its extension, and the steps that
following a path takes.
-/

namespace TraceOverhead.Path

/-- An absolute second path stands for itself. -/
def join (base name : String) : String :=
  if name.startsWith "/" || base.isEmpty then name
  else if base.endsWith "/" then base ++ name
  else base ++ "/" ++ name

/-- The path of what names lead to from a base. -/
def extend (base : String) (names : List String) : String := names.foldl join base

/-- The named steps of a path: empty pieces say nothing, and a dot only at the very start. -/
def components (path : String) : List (List Char) :=
  let pieces := Text.pieces '/' path.toList
  match pieces with
  | ['.'] :: rest => ['.'] :: rest.filter fun piece => !piece.isEmpty && piece ≠ ['.']
  | _ => pieces.filter fun piece => !piece.isEmpty && piece ≠ ['.']

def isAbsolute (path : String) : Bool := path.startsWith "/"

def ofComponents (absolute : Bool) (components : List (List Char)) : String :=
  (if absolute then "/" else "") ++ "/".intercalate (components.map String.ofList)

/-- The path without its last step; the root and the empty path have none. -/
def parent? (path : String) : Option String :=
  match components path with
  | [] => none
  | steps => some (ofComponents (isAbsolute path) steps.dropLast)

/-- The last step, unless it leads upwards or nowhere. -/
def fileName? (path : String) : Option (List Char) :=
  match (components path).getLast? with
  | some ['.', '.'] | some ['.'] | none => none
  | some name => some name

/-- The part of a name before its last dot. A dot at the start of a name is part of it. -/
def stem (name : List Char) : List Char :=
  match name.reverse.dropWhile (· ≠ '.') with
  | [] | ['.'] => name
  | _ :: before => before.reverse

/-- The last step of a path without its extension, or nothing. -/
def fileStem (path : String) : String :=
  match fileName? path with
  | none => ""
  | some name => String.ofList (stem name)

end TraceOverhead.Path
