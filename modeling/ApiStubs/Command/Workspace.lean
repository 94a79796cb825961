/-!
# Files and directories

A `Workspace` holds directories and files. A run starts in one directory, of which it is
known that it lies in others, up to the root; nothing else is in these at first.

* `Workspace.find` follows a path.
* `Workspace.read` and `Workspace.write` read and replace whole files. A write either
  fails and changes nothing, or replaces or makes one file.
* `Workspace.changesFrom` lists what has changed below the starting directory.
-/

namespace ApiStubs
namespace Command

/-- Why a file could not be read or written. -/
inductive FileFault where
  | notFound
  | notDirectory
  | isDirectory
  | nameTooLong
  | notUtf8
  | other (text : String)
  deriving DecidableEq, Repr

namespace FileFault

/-- A fault in words. -/
def message : FileFault → String
  | notFound => "No such file or directory (os error 2)"
  | notDirectory => "Not a directory (os error 20)"
  | isDirectory => "Is a directory (os error 21)"
  | nameTooLong => "File name too long (os error 36)"
  | notUtf8 => "stream did not contain valid UTF-8"
  | other text => text

end FileFault

/-- A directory that exists by its place: the one so many levels above the directory in
which a run starts, or the root. -/
inductive Base where
  | above (levels : Nat)
  | root
  deriving DecidableEq, Repr

namespace Base

/-- The directory in which a run starts. -/
def start : Base := above 0

/-- The directory around a base. The root lies in itself. -/
def outer : Base → Base
  | above levels => above (levels + 1)
  | root => root

end Base

/-- The place of a directory or file: the names on the way from a base. -/
structure Location where
  base : Base
  names : List String
  deriving DecidableEq, Repr

namespace Location

/-- The directory around a place. -/
def outer (location : Location) : Location :=
  match location.names with
  | [] => ⟨location.base.outer, []⟩
  | _ :: _ => ⟨location.base, location.names.dropLast⟩

/-- The place of a name in a directory. -/
def inner (location : Location) (name : String) : Location :=
  ⟨location.base, location.names ++ [name]⟩

/-- Whether a place is another one or around it. -/
def contains (location other : Location) : Bool :=
  location.base = other.base && location.names.isPrefixOf other.names

/-- The names in a path. -/
def namesOf (path : String) : List String :=
  (path.toList.splitOn '/').map String.ofList

/-- Where a path starts. -/
def origin (path : String) : Location :=
  ⟨if path.toList.head? = some '/' then .root else .start, []⟩

/-- The place below the starting directory that some names spell. -/
def below (path : String) : Location := ⟨.start, namesOf path⟩

end Location

/-- Directories and files. -/
structure Workspace where
  directories : List Location
  files : List (Location × ByteArray)

/-- What a path leads to. A missing file could be made where it is missing. -/
inductive Found where
  | directory (location : Location)
  | file (location : Location) (content : ByteArray)
  | missing (location : Location)

namespace Workspace

/-- The longest name of a file or directory, in bytes. -/
def maxNameSize : Nat := 255

/-- The longest path, in bytes. -/
def maxPathSize : Nat := 4095

/-- The bytes of a file. -/
def file? (w : Workspace) (location : Location) : Option ByteArray :=
  (w.files.find? (·.1 == location)).map (·.2)

/-- Whether there is a directory, perhaps as that of another directory or file. -/
def hasDirectory (w : Workspace) (location : Location) : Bool :=
  location.names.isEmpty || w.directories.any (location.contains ·) ||
    w.files.any fun file => location.contains file.1.outer

/-- Follows names from a directory. An empty name or a dot stays there, and two dots go
to the directory around it. -/
def findFrom (w : Workspace) (location : Location) : List String → Except FileFault Found
  | [] => .ok (.directory location)
  | name :: rest =>
    if name = "" ∨ name = "." then findFrom w location rest
    else if name = ".." then findFrom w location.outer rest
    -- A long name is refused whether there is such a file or not.
    else if maxNameSize < name.utf8ByteSize then .error .nameTooLong
    else
      let inner := location.inner name
      if w.hasDirectory inner then findFrom w inner rest
      else
        match w.file? inner, rest with
        | some content, [] => .ok (.file inner content)
        | some _, _ :: _ => .error .notDirectory
        | none, [] => .ok (.missing inner)
        | none, _ :: _ => .error .notFound

/-- Follows names from where a path starts. An empty path leads nowhere, and a path that
is too long is not followed at all. -/
def follow (w : Workspace) (path : String) (names : List String) : Except FileFault Found :=
  if path = "" then .error .notFound
  else if maxPathSize < path.utf8ByteSize then .error .nameTooLong
  else w.findFrom (.origin path) names

/-- Follows a path. -/
def find (w : Workspace) (path : String) : Except FileFault Found :=
  w.follow path (Location.namesOf path)

/-- Follows a path up to the directory of the last name in it. -/
def findAround (w : Workspace) (path : String) : Except FileFault Found :=
  let names := (Location.namesOf path).filter (· ≠ "")
  -- The dot asks for a directory.
  w.follow path (names.dropLast ++ ["."])

/-- Reads a file. -/
def read (w : Workspace) (path : String) : Except FileFault ByteArray :=
  match w.find path with
  | .error fault => .error fault
  | .ok (.directory _) => .error .isDirectory
  | .ok (.file _ content) => .ok content
  | .ok (.missing _) => .error .notFound

/-- The workspace with a file of that content. -/
def put (w : Workspace) (location : Location) (content : ByteArray) : Workspace :=
  { w with files := (location, content) :: w.files.filter (·.1 != location) }

/-- Writes a file. A path that ends in a slash can only mean a directory: it is followed
no further than to the directory around that. -/
def write (w : Workspace) (path : String) (content : ByteArray) :
    Except FileFault Workspace :=
  if path.toList.getLast? = some '/' then
    (w.findAround path).bind fun _ => .error .isDirectory
  else
    match w.find path with
    | .error fault => .error fault
    | .ok (.directory _) => .error .isDirectory
    | .ok (.file location _) => .ok (w.put location content)
    | .ok (.missing location) => .ok (w.put location content)

/-- The files below the starting directory that are not in another workspace with the
same bytes, each with the names on the way to it. -/
def changesFrom (after before : Workspace) : List (List String × ByteArray) :=
  (after.files.filter fun file =>
    file.1.base = .start && before.file? file.1 != some file.2).map fun file =>
      (file.1.names, file.2)

end Workspace
end Command
end ApiStubs
