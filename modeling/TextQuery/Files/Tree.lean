import TextQuery.Files.Path

/-!
# Trees of files

A tree of files tells what stands at each location, that is, at each list of names from the root, and what the program
may do with it.  Paths are followed one step at a time, and a step needs a directory to start from.

Links are left out: nothing stands at two locations, and a path leads where its names say.
-/

namespace TextQuery

/-- What a file holds: a text, or bytes that are none. -/
inductive Contents where
  | text (t : Text)
  | undecodable
  deriving DecidableEq, Repr

/-- What the program may do with a file or directory. -/
structure Access where
  readable : Bool := true
  /-- For a directory: whether new files can be put in it. -/
  writable : Bool := true
  /-- For a directory: whether the names in it can be followed. -/
  searchable : Bool := true
  deriving DecidableEq, Repr

/-- What stands at a location. -/
inductive Entry where
  | directory (access : Access := {})
  | file (contents : Contents) (access : Access := {})
  deriving DecidableEq, Repr

/-- The names from the root to a file or directory. -/
abbrev Location := List Text

/-- What stands at every location. -/
structure FileTree where
  entryAt : Location → Option Entry

/-- Why a file could not be read or written. -/
inductive FileError where
  | notFound
  | isDirectory
  | notDirectory
  | permissionDenied
  | nameTooLong
  /-- A path with a character that ends the paths of the system. -/
  | strayNul
  | undecodable
  deriving DecidableEq, Repr

/-- How an error is reported. -/
def FileError.message : FileError → Text
  | notFound => "No such file or directory (os error 2)".toList
  | isDirectory => "Is a directory (os error 21)".toList
  | notDirectory => "Not a directory (os error 20)".toList
  | permissionDenied => "Permission denied (os error 13)".toList
  | nameTooLong => "File name too long (os error 36)".toList
  | strayNul => "file name contained an unexpected NUL byte".toList
  | undecodable => "stream did not contain valid UTF-8".toList

/-- The text that a file holds. -/
def Contents.read : Contents → Except FileError Text
  | text t => .ok t
  | undecodable => .error .undecodable

namespace FileTree

/-- How many bytes the name of a file may have. -/
def nameLimit : Nat := 255

/-- How many bytes a path may have. -/
def pathLimit : Nat := 4095

/-- What stands at a location.  The root of all files is a directory in any case. -/
def found? (tree : FileTree) (location : Location) : Option Entry :=
  match tree.entryAt location with
  | some (.directory access) => some (.directory access)
  | other => if location = [] then some .directory else other

/-- Follows segments from a location. -/
def follow (tree : FileTree) (location : Location) : List Text → Except FileError Location
  | [] => .ok location
  | s :: rest =>
    match tree.found? location with
    | none => .error .notFound
    | some (.file _ _) => .error .notDirectory
    | some (.directory access) =>
      if s = [] then tree.follow location rest
      else if !access.searchable then .error .permissionDenied
      else if s = ['.'] then tree.follow location rest
      else if s = ['.', '.'] then tree.follow location.dropLast rest
      else if nameLimit < s.utf8Size then .error .nameTooLong
      else tree.follow (location ++ [s]) rest

/-- The location that a path leads to from a working directory. -/
def locate (tree : FileTree) (cwd : Location) (p : Path) : Except FileError Location := do
  if '\x00' ∈ p.toText then throw .strayNul
  if pathLimit < p.toText.utf8Size then throw .nameTooLong
  match p.anchor with
  | .root => tree.follow [] p.segments
  | .here => tree.follow cwd p.segments
  | .relative => if p.toText = [] then .error .notFound else tree.follow cwd p.segments

/-- What stands where a path leads. -/
def entry (tree : FileTree) (cwd : Location) (p : Path) : Except FileError Entry := do
  let location ← tree.locate cwd p
  match tree.found? location with
  | some e => return e
  | none => throw .notFound

/-- Whether a path leads to anything. -/
def isThere (tree : FileTree) (cwd : Location) (p : Path) : Bool := (tree.entry cwd p).isOk

/-- Whether a path leads to a file. -/
def isFile (tree : FileTree) (cwd : Location) (p : Path) : Bool :=
  match tree.entry cwd p with
  | .ok (.file _ _) => true
  | _ => false

/-- The text of the file that a path leads to. -/
def read (tree : FileTree) (cwd : Location) (p : Path) : Except FileError Text := do
  match ← tree.entry cwd p with
  | .directory access => throw (if access.readable then .isDirectory else .permissionDenied)
  | .file contents access => if access.readable then contents.read else throw .permissionDenied

/-- The tree with something put at one location. -/
def put (tree : FileTree) (location : Location) (e : Entry) : FileTree :=
  ⟨fun l => if l = location then some e else tree.entryAt l⟩

/-- Whether new files can be put in what stands at a location. -/
def takesFiles (tree : FileTree) (location : Location) : Bool :=
  match tree.found? location with
  | some (.directory access) => access.writable
  | _ => false

/-- What may be done with the file at a location when a text has been written to it.  A file that is there keeps its
rights; a new one has all. -/
def accessWritten (tree : FileTree) (location : Location) : Except FileError Access :=
  match tree.found? location with
  | some (.directory _) => .error .isDirectory
  | some (.file _ access) => if access.writable then .ok access else .error .permissionDenied
  | none => if tree.takesFiles location.dropLast then .ok {} else .error .permissionDenied

/-- Writes a text to the file that a path leads to, which need not be there. -/
def write (tree : FileTree) (cwd : Location) (p : Path) (t : Text) : Except FileError FileTree := do
  let location ← tree.locate cwd p
  let access ← tree.accessWritten location
  return tree.put location (.file (.text t) access)

end FileTree

end TextQuery
