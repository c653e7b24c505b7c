import Std.Data.TreeMap.Basic
import TraceOverhead.File.Path
import TraceOverhead.Text.Bytes
import TraceOverhead.Error
/-!
A tree of directories, regular files and symbolic links. Following a path has the usual rules: `..`
leads up, links are followed a limited number of times, names and paths have a largest length, and
the place that a path names may be vacant while its directory is there. What becomes of the last
name, and of a slash behind it, depends on what the path is followed for.
-/

namespace TraceOverhead

inductive FileEntry where
  | directory
  | file (content : Bytes)
  | link (target : String)
  deriving DecidableEq

/-- The names that lead from the root to an entry, without links. -/
abbrev Location := List String

/-- Entries by location. The root is a directory although it has no entry. -/
abbrev FileTree := Std.TreeMap Location FileEntry

/-- Where a path leads. -/
inductive Arrival where
  | directory (location : Location)
  | file (location : Location) (content : Bytes)
  /-- Nothing is there, but its directory is. -/
  | vacant (location : Location)
  /-- A link on the way or at the end, with the steps that are left behind it. -/
  | link (location : Location) (target : String) (rest : List String)

/-- What a walk finds at one place, or why that cannot be opened by its path. -/
inductive Finding where
  | directory (failure : Option IoFailure)
  | file (content : Except IoFailure Bytes)
  | link

/-- What a path is followed for. -/
inductive Purpose where
  /-- To see what is there. A link at the end is followed, and a slash asks for a directory. -/
  | look
  /-- To write a file. A link at the end is followed, and a slash asks for what no file can be. -/
  | write
  /-- To make or remove the entry itself. A link at the end is that entry, and a slash says
  nothing. -/
  | entry
  deriving DecidableEq

namespace FileTree

def nameLimit : Nat := 255

def pathLimit : Nat := 4096

def linkLimit : Nat := 40

/-- The steps of a path, between its slashes. -/
def steps (path : String) : List String :=
  ((Text.pieces '/' path.toList).filter fun piece => !piece.isEmpty).map String.ofList

def byteLength (text : String) : Nat := (Text.toBytes text).length

/-- Takes steps from a directory until the path ends or comes to a link. A dot behind a name needs a
directory there; the slash at the end of a path is kept apart as `slashed`. -/
def descend (tree : FileTree) (purpose : Purpose) (slashed : Bool) :
    Location → List String → Except IoFailure Arrival
  | here, [] => .ok (.directory here)
  | here, "." :: rest => descend tree purpose slashed here rest
  | here, ".." :: rest => descend tree purpose slashed here.dropLast rest
  | here, name :: rest =>
    let there := here ++ [name]
    if rest.isEmpty && slashed && purpose = .write then .error .isADirectory
    else if nameLimit < byteLength name then .error .nameTooLong
    else match tree[there]? with
      | some .directory => descend tree purpose slashed there rest
      | some (.file content) =>
        if rest.isEmpty && !(slashed && purpose = .look) then .ok (.file there content)
        else .error .notADirectory
      | some (.link target) => .ok (.link there target rest)
      | none => if rest.isEmpty then .ok (.vacant there) else .error .notFound

theorem descend_directory {tree : FileTree} {purpose : Purpose} {slashed : Bool} {here : Location}
    {name : String} {rest : List String} (proper : name ≠ "." ∧ name ≠ "..")
    (unwritten : purpose ≠ .write) (short : ¬ nameLimit < byteLength name)
    (found : tree[here ++ [name]]? = some .directory) :
    tree.descend purpose slashed here (name :: rest) =
      tree.descend purpose slashed (here ++ [name]) rest := by
  rw [descend.eq_4 tree purpose slashed here name rest proper.1 proper.2,
    if_neg (by simp [unwritten]), if_neg short, found]

/-- Takes steps and follows links. A slash at the end of a link's target counts like one at the end
of the path if the link is the last step. -/
def follow (tree : FileTree) (purpose : Purpose) :
    (links : Nat) → Location → List String → (slashed : Bool) → Except IoFailure Arrival
  | links, here, names, slashed =>
    match tree.descend purpose slashed here names with
    | .ok (.link location target rest) =>
      if rest.isEmpty && purpose = .entry then .ok (.link location target rest)
      else match links with
        | 0 => .error .tooManyLinks
        | links + 1 =>
          follow tree purpose links (if Path.isAbsolute target then [] else location.dropLast)
            (steps target ++ rest) (slashed || (rest.isEmpty && target.endsWith "/"))
    | arrival => arrival

def arrive (tree : FileTree) (purpose : Purpose) (directory : Location) (path : String) :
    Except IoFailure Arrival :=
  if path.toList.contains '\x00' then .error .nulInPath
  else if path.isEmpty then .error .notFound
  else if pathLimit ≤ byteLength path then .error .nameTooLong
  else
    tree.follow purpose linkLimit (if Path.isAbsolute path then [] else directory) (steps path)
      (path.endsWith "/")

def exists? (tree : FileTree) (directory : Location) (path : String) : Bool :=
  match tree.arrive .look directory path with
  | .ok (.directory _) | .ok (.file ..) => true
  | _ => false

def isDirectory (tree : FileTree) (directory : Location) (path : String) : Bool :=
  match tree.arrive .look directory path with
  | .ok (.directory _) => true
  | _ => false

def read (tree : FileTree) (directory : Location) (path : String) : Except IoFailure Bytes := do
  match ← tree.arrive .look directory path with
  | .file _ content => .ok content
  | .directory _ => .error .isADirectory
  | .vacant _ | .link .. => .error .notFound

/-- Where writing to a path puts its content. -/
def writable (tree : FileTree) (directory : Location) (path : String) :
    Except IoFailure Location := do
  match ← tree.arrive .write directory path with
  | .file location _ | .vacant location => .ok location
  | .directory _ => .error .isADirectory
  | .link .. => .error .notFound

/-- Replaces the whole content of a file, which is made if it is not there. -/
def write (tree : FileTree) (directory : Location) (path : String) (content : Bytes) :
    Except IoFailure FileTree := do
  return tree.insert (← tree.writable directory path) (.file content)

def makeDirectory (tree : FileTree) (directory : Location) (path : String) :
    Except IoFailure FileTree := do
  match ← tree.arrive .entry directory path with
  | .vacant location => .ok (tree.insert location .directory)
  | .directory _ | .file .. | .link .. => .error .alreadyExists

def makeLink (tree : FileTree) (directory : Location) (path target : String) :
    Except IoFailure FileTree := do
  match ← tree.arrive .entry directory path with
  | .vacant location =>
    if path.endsWith "/" then .error .notFound else .ok (tree.insert location (.link target))
  | .directory _ | .file .. | .link .. => .error .alreadyExists

/-- A path and the directories above it, upwards. -/
def ancestry : (fuel : Nat) → String → List String
  | 0, _ => []
  | fuel + 1, path => path :: match Path.parent? path with
    | none => []
    | some parent => ancestry fuel parent

/-- Makes the first of the directories, each of which lies in the next, after those that it needs.
What was made stays when a later one fails. -/
def makeAncestry (tree : FileTree) (directory : Location) :
    List String → FileTree × Except IoFailure Unit
  | [] => (tree, .error .notFound)
  | path :: above =>
    if path.isEmpty then (tree, .ok ())
    else match tree.makeDirectory directory path with
      | .ok made => (made, .ok ())
      | .error .notFound =>
        match makeAncestry tree directory above with
        | (tree, .error failure) => (tree, .error failure)
        | (tree, .ok ()) =>
          match tree.makeDirectory directory path with
          | .ok made => (made, .ok ())
          | .error failure =>
            (tree, if tree.isDirectory directory path then .ok () else .error failure)
      | .error failure =>
        (tree, if tree.isDirectory directory path then .ok () else .error failure)

def makeDirectories (tree : FileTree) (directory : Location) (path : String) :
    FileTree × Except IoFailure Unit :=
  tree.makeAncestry directory (ancestry ((Path.components path).length + 1) path)

/-- What lies below a location, with the names that lead there from it. -/
def below (tree : FileTree) (location : Location) : List (Location × FileEntry) :=
  tree.toList.filterMap fun (place, entry) =>
    if location.isPrefixOf place && place ≠ location then
      some (place.drop location.length, entry)
    else none

/-- Why what is there cannot be opened by a path that leads to it, if it cannot. -/
def openingFailure? (path : String) : Option IoFailure :=
  if pathLimit ≤ byteLength path then some .nameTooLong else none

/-- What a walk that comes to an entry by a path finds. -/
def finding (path : String) : FileEntry → Finding
  | .directory => .directory (openingFailure? path)
  | .file content => .file (match openingFailure? path with
    | some failure => .error failure
    | none => .ok content)
  | .link _ => .link

/-- A walk through the directory that a path names, in the order of the locations. An entry is
opened by the path that leads to it through the walk, which may be too long although the entry is
there; below a directory that cannot be opened nothing is found. -/
def walk (tree : FileTree) (directory : Location) (path : String) : List (Location × Finding) :=
  match tree.arrive .look directory path with
  | .ok (.directory here) =>
    let reached := (tree.below here).filter fun (place, _) =>
      (openingFailure? (Path.extend path place.dropLast)).isNone
    ([], .directory none) :: reached.map fun (place, entry) =>
      (place, finding (Path.extend path place) entry)
  | .ok (.file ..) => [([], .directory (some .notADirectory))]
  | .ok (.vacant _) | .ok (.link ..) => [([], .directory (some .notFound))]
  | .error failure => [([], .directory (some failure))]

/-- Puts an entry at a location, and directories above it where nothing is yet. -/
def place (tree : FileTree) (location : Location) (entry : FileEntry) : FileTree :=
  let above := (List.range location.length).map location.take
  let tree := above.foldl (fun tree place =>
    if place.isEmpty || tree.contains place then tree else tree.insert place .directory) tree
  tree.insert location entry

/-- Takes a location away with all that lies below it. -/
def removeBelow (tree : FileTree) (location : Location) : FileTree :=
  tree.filter fun place _ => !location.isPrefixOf place

def makeParents (tree : FileTree) (directory : Location) (path : String) : FileTree :=
  match Path.parent? path with
  | some above => (tree.makeDirectories directory above).1
  | none => tree

/-- Lays an entry out at a path: the directories above it are made first, and content is written
through a link. What cannot be laid out there leaves only the directories. -/
def lay (tree : FileTree) (directory : Location) (path : String) (entry : FileEntry) : FileTree :=
  let parented := tree.makeParents directory path
  match entry with
  | .directory => (parented.makeDirectories directory path).1
  | .file content => (parented.write directory path content).toOption.getD parented
  | .link target => (parented.makeLink directory path target).toOption.getD parented

/-- Takes the entry that a path names away, with all that lies below it. -/
def remove (tree : FileTree) (directory : Location) (path : String) : FileTree :=
  match tree.arrive .entry directory path with
  | .ok (.directory location) | .ok (.file location _) | .ok (.link location ..) =>
    tree.removeBelow location
  | .ok (.vacant _) | .error _ => tree

end FileTree
end TraceOverhead
