import Concordance.Files.Path
import Concordance.Files.Store

/-!
# Files in a working directory

A `FileSystem` holds what is known of a working directory: files with their bytes, and
directories.  A file or directory is known by the names that lead to it.  Above the working
directory nothing is known but that there are directories.

Paths are followed from step to step; a step from what is no directory fails, and so does a
name that is too long or unknown.

* `FileSystem.look` finds what a path leads to.
* `FileSystem.write` creates a file or replaces its bytes, in a directory that exists.
* `Sink` is a stream that text is printed to.
-/

namespace Concordance

/-- The names that lead from the working directory to a file. -/
abbrev Location := List (List Char)

/-- What is known of a working directory. -/
structure FileSystem where
  nodes : List (Location × Node)
  deriving DecidableEq, Repr

/-- Where following a path has led. -/
inductive Place where
  /-- Into the working directory. -/
  | inside (location : Location)
  /-- To a directory above. -/
  | above
  deriving DecidableEq, Repr

namespace FileSystem

/-- The largest number of bytes in a name. -/
def nameLimit : Nat := 255

/-- The largest number of bytes in a path. -/
def pathLimit : Nat := 4095

/-- What is at a location.  Whatever leads to something known is a directory. -/
def nodeAt? (fs : FileSystem) (location : Location) : Option Node :=
  match fs.nodes.find? (·.1 == location) with
  | some (_, node) => some node
  | none =>
    if location = [] ∨ fs.nodes.any (fun known => location.isPrefixOf known.1) then
      some .directory
    else none

/-- What is at a place. -/
def nodeIn? (fs : FileSystem) : Place → Option Node
  | .above => some .directory
  | .inside location => fs.nodeAt? location

/-- The place that a name leads to from a directory. -/
def enter (place : Place) (name : List Char) : Place :=
  if name = [] ∨ name = ['.'] then place
  else if name = ['.', '.'] then
    match place with
    | .above => .above
    | .inside [] => .above
    | .inside location => .inside location.dropLast
  else
    match place with
    | .above => .above
    | .inside location => .inside (location ++ [name])

/-- Whether a piece of a path is the name of something in a directory. -/
def isName (piece : List Char) : Bool := piece != [] && piece != ['.'] && piece != ['.', '.']

/-- Takes one step from a place.  The step may lead to where nothing is yet. -/
def step (fs : FileSystem) (place : Place) (piece : List Char) : Except FileFault Place :=
  match fs.nodeIn? place with
  | none => .error .notFound
  | some (.file _) => .error .notDirectory
  | some .directory =>
    if nameLimit < (Utf8.encode piece).length then .error .nameTooLong
    else if isName piece && place == .above then .error .notFound
    else .ok (enter place piece)

/-- The place and the pieces at which following a path begins. -/
def start (path : List Char) : Place × List (List Char) :=
  match Text.pieces (· == '/') path with
  | [] :: rest => (.above, rest)
  | pieces => (.inside [], pieces)

/-- Follows a path to its last step. -/
def follow (fs : FileSystem) (path : List Char) : Except FileFault Place :=
  if path.contains '\x00' then .error .nulInName
  else if path = [] then .error .notFound
  else if pathLimit < (Utf8.encode path).length then .error .nameTooLong
  else (start path).2.foldlM fs.step (start path).1

/-- What a path leads to, which must exist. -/
def look (fs : FileSystem) (path : List Char) : Except FileFault Node :=
  match fs.follow path with
  | .error fault => .error fault
  | .ok place => match fs.nodeIn? place with
    | none => .error .notFound
    | some node => .ok node

/-- The file system with other bytes at a location. -/
def put (fs : FileSystem) (location : Location) (bytes : List UInt8) : FileSystem :=
  ⟨fs.nodes.filter (·.1 != location) ++ [(location, .file bytes)]⟩

/-- Writes a file. -/
def write (fs : FileSystem) (path : List Char) (bytes : List UInt8) :
    Except FileFault FileSystem :=
  match fs.follow path with
  | .error fault => .error fault
  | .ok .above => .error .isDirectory
  | .ok (.inside location) => match fs.nodeAt? location with
    | some .directory => .error .isDirectory
    | _ => .ok (fs.put location bytes)

instance : FileStore FileSystem := ⟨look, write⟩

end FileSystem

/-- A stream of text that may be closed after some characters. -/
structure Sink where
  written : List Char
  /-- How many characters are still accepted; without it, all are. -/
  room : Option Nat
  /-- Why further characters are refused. -/
  fault : FileFault
  deriving DecidableEq, Repr

namespace Sink

/-- A stream that accepts everything. -/
def unbounded : Sink := ⟨[], none, .refused ""⟩

/-- A stream that accepts nothing. -/
def closed (fault : FileFault) : Sink := ⟨[], some 0, fault⟩

/-- Writes a text, as far as it is accepted. -/
def write (s : Sink) (text : List Char) : Except FileFault Unit × Sink :=
  match s.room with
  | none => (.ok (), { s with written := s.written ++ text })
  | some room =>
    if text.length ≤ room then
      (.ok (), { s with written := s.written ++ text, room := some (room - text.length) })
    else (.error s.fault, { s with written := s.written ++ text.take room, room := some 0 })

end Sink
end Concordance
