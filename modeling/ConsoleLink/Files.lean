import ConsoleLink.Fault

/-!
# A small file system

* `Node` is what stands at a place: a directory, a link, a program or a text.
* `Files` is a table of places and the working directory.  A place is given by the
  names that lead to it.
* `Files.resolve` follows a path.  Empty parts and dots stay where they are, two dots go
  up, and each of them needs a directory.
* `Files.enter` changes the working directory, `Files.read` reads a file and
  `Files.program` finds a program, along the search path if it is only a name.
-/

namespace ConsoleLink

/-- What stands at a place; `π` are the programs. -/
inductive Node (π : Type)
  | directory
  /-- Another name for a place. -/
  | link (target : List String)
  | program (p : π)
  | text (content : String)

/-- A file system. -/
structure Files (π : Type) where
  nodes : List (List String × Node π)
  workingDirectory : List String := []
  /-- The directories in which programs are looked for. -/
  searchPath : List String := []

namespace Files

variable {π : Type}

/-- The most bytes of a name in a path. -/
def longestName : Nat := 255

/-- The least number of bytes that is too many for a path. -/
def pathLimit : Nat := 4096

/-- What stands at a place; the root is a directory. -/
def node? (f : Files π) : List String → Option (Node π)
  | [] => some .directory
  | place => f.nodes.lookup place

/-- Whether a place is a directory. -/
def isDirectory (f : Files π) (place : List String) : Bool :=
  match f.node? place with
  | some .directory => true
  | _ => false

/-- Goes on from a place by one part of a path. -/
def follow (f : Files π) (place : List String) (part : String) : Except SystemFault (List String) :=
  if !f.isDirectory place then .error .notDirectory
  else if part = "" || part = "." then .ok place
  else if part = ".." then .ok place.dropLast
  else if longestName < part.utf8ByteSize then .error .nameTooLong
  else
    let next := place ++ [part]
    match f.node? next with
    | none => .error .noEntry
    | some (.link target) => .ok target
    | some _ => .ok next

/-- The place that a path leads to. -/
def resolve (f : Files π) (path : String) : Except SystemFault (List String) :=
  if path = "" then .error .noEntry
  else if pathLimit ≤ path.utf8ByteSize then .error .nameTooLong
  else
    (path.splitOn "/").foldlM f.follow (if path.startsWith "/" then [] else f.workingDirectory)

/-- The file system with another working directory. -/
def enter (f : Files π) (path : String) : Except SystemFault (Files π) := do
  let place ← f.resolve path
  if f.isDirectory place then .ok { f with workingDirectory := place } else .error .notDirectory

/-- The path of the working directory. -/
def currentPath (f : Files π) : String := "/" ++ "/".intercalate f.workingDirectory

/-- Reads a file; a program is no text. -/
def read (f : Files π) (path : String) : Except SystemFault String := do
  match f.node? (← f.resolve path) with
  | some (.text content) => .ok content
  | some (.program _) => .error .notUtf8
  | _ => .error .isDirectory

/-- The program at a path; what is no program must not be started. -/
def programAt (f : Files π) (path : String) : Except SystemFault π := do
  match f.node? (← f.resolve path) with
  | some (.program p) => .ok p
  | _ => .error .denied

/-- The first program of a name in some directories.  That one of them must not be started
is only a reason if there is no other. -/
def searched (f : Files π) (name : String) (fault : SystemFault) :
    List String → Except SystemFault π
  | [] => .error fault
  | directory :: rest =>
    match f.programAt (directory ++ "/" ++ name) with
    | .ok p => .ok p
    | .error .denied => f.searched name .denied rest
    | .error _ => f.searched name fault rest

/-- The program that is meant by a path, or by a name along the search path. -/
def program (f : Files π) (name : String) : Except SystemFault π :=
  if name.toList.contains '/' then f.programAt name
  else if name = "" then .error .noEntry
  else if longestName < name.utf8ByteSize then .error .nameTooLong
  else f.searched name .noEntry f.searchPath

end Files

end ConsoleLink
