import MerkleLog.Text.Character
import MerkleLog.Text.Utf8

/-!
# Files

What a command sees of the disk: files and directories, each at its place.  A path leads from the
working directory or the root to a place, name by name.  A file holds bytes; it is read only if they
are the UTF-8 form of a text.
-/

namespace MerkleLog.Console

/-! ## Paths -/

/-- A path as it is handed to the system. -/
structure Path where
  text : String
deriving DecidableEq

namespace Path

/-- The parts of a text between its slashes. -/
def parts (s : String) : List String :=
  (s.toList.splitOn '/').map String.ofList

/-- The path that a text names, written without needless slashes and without the names that denote
the directory they stand in. -/
def ofString (s : String) : Path :=
  let names := (parts s).filter fun name => name ≠ "" && name ≠ "."
  let text := "/".intercalate names
  if s.startsWith "/" then ⟨"/" ++ text⟩ else if names.isEmpty then ⟨"."⟩ else ⟨text⟩

/-- Whether a path starts at the root. -/
def isAbsolute (p : Path) : Bool := p.text.startsWith "/"

/-- The names of a path.  A slash at its end stands for the directory that the path leads to. -/
def names (p : Path) : List String :=
  let parts := parts p.text
  let names := parts.filter (· ≠ "")
  if !names.isEmpty && parts.getLast? == some "" then names ++ ["."] else names

end Path

/-! ## Places -/

/-- A place on the disk: the names on the way to it from the root. -/
abbrev Location := List String

/-- What is found at a place. -/
inductive Entry where
  | file (content : Bytes)
  | directory
deriving DecidableEq

/-- Why a file cannot be read or written. -/
inductive FileError where
  | notFound
  | isDirectory
  | notDirectory
  | nameTooLong
  | nullInPath
  /-- The bytes of the file are no text. -/
  | undecodable (fault : Utf8.Fault)
deriving DecidableEq

/-- The disk: the working directory, and entries by place, newest first.  The working directory and
those above it are always there. -/
structure Files where
  working : Location
  entries : List (Location × Entry)
deriving DecidableEq

/-- What a path leads to. -/
inductive Target where
  | found (place : Location) (entry : Entry)
  /-- Nothing yet, in a directory that is there. -/
  | free (place : Location)
deriving DecidableEq

/-- How many bytes a name may have. -/
def maxName : Nat := 255

/-- How many bytes a path may have. -/
def maxPath : Nat := 4095

/-- Where a name leads from a directory. -/
def Location.step (here : Location) (name : String) : Location :=
  if name = "." then here else if name = ".." then here.dropLast else here ++ [name]

namespace Files

/-- What is found at a place. -/
def lookup? (f : Files) (place : Location) : Option Entry :=
  if place.isPrefixOf f.working then some .directory else f.entries.lookup place

/-- What names lead to from a directory. -/
def walk (f : Files) (here : Location) : List String → Except FileError Target
  | [] => .ok (.found here .directory)
  | name :: rest =>
    if maxName < name.utf8ByteSize then .error .nameTooLong
    else
      let next := Location.step here name
      match f.lookup? next, rest with
      | some .directory, rest => walk f next rest
      | some (.file content), [] => .ok (.found next (.file content))
      | some (.file _), _ => .error .notDirectory
      | none, [] => .ok (.free next)
      | none, _ => .error .notFound

/-- Where a path starts. -/
def start (f : Files) (path : Path) : Location :=
  if path.isAbsolute then [] else f.working

/-- What a path leads to. -/
def resolve (f : Files) (path : Path) : Except FileError Target :=
  if path.text.toList.contains '\x00' then .error .nullInPath
  else if path.text = "" then .error .notFound
  else if maxPath < path.text.utf8ByteSize then .error .nameTooLong
  else f.walk (f.start path) path.names

/-- Whether a path leads to something.  Only a path that is too long cannot be asked about. -/
def contains (f : Files) (path : Path) : Except FileError Bool :=
  match f.resolve path with
  | .ok (.found _ _) => .ok true
  | .ok (.free _) => .ok false
  | .error .nameTooLong => .error .nameTooLong
  | .error _ => .ok false

/-- The bytes that a path leads to. -/
def bytes (f : Files) (path : Path) : Except FileError Bytes := do
  match ← f.resolve path with
  | .found _ (.file content) => return content
  | .found _ .directory => throw .isDirectory
  | .free _ => throw .notFound

/-- The text that a path leads to, with every line end read as a line feed. -/
def read (f : Files) (path : Path) : Except FileError String := do
  let text ← (Utf8.decode (← f.bytes path)).mapError .undecodable
  return String.ofList (Text.unifyLineEnds text.toList)

/-- Write bytes to where a path leads. -/
def write (f : Files) (path : Path) (content : Bytes) : Except FileError Files := do
  match ← f.resolve path with
  | .found place (.file _) | .free place =>
    return { f with entries := (place, .file content) :: f.entries }
  | .found _ .directory => throw .isDirectory

/-- The places that may be asked about on the way along a path. -/
def placesOn (f : Files) (path : Path) : List Location :=
  let visit := fun (here, seen) name =>
    let next := Location.step here name
    (next, next :: seen)
  (path.names.foldl visit (f.start path, [])).2.reverse

end Files

end MerkleLog.Console
