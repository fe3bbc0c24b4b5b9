import Concordance.Text.Blank

/-!
# Paths

A path is a text whose pieces between slashes name a file step by step.  Empty pieces mean
nothing, and neither do pieces `.` behind others.

* `Path.components` are the steps of a path.
* `Path.fileName?` is the name at its end, unless the path ends in a step of another kind.
* `Path.stem` is a name without its extension.
-/

namespace Concordance.Path

/-- A step of a path. -/
inductive Component where
  /-- The root, at the beginning of an absolute path. -/
  | root
  /-- The current directory, at the beginning of a path. -/
  | current
  /-- The directory above. -/
  | parent
  /-- A name. -/
  | normal (name : List Char)
  deriving DecidableEq, Repr

/-- The step of a piece that is not the first of its path. -/
def stepOfPiece? (piece : List Char) : Option Component :=
  if piece = [] ∨ piece = ['.'] then none
  else if piece = ['.', '.'] then some .parent
  else some (.normal piece)

/-- The steps of a path. -/
def components (path : List Char) : List Component :=
  match Text.pieces (· == '/') path with
  | [] => []
  | first :: rest =>
    let leading :=
      if first = [] then if rest = [] then [] else [.root]
      else if first = ['.'] then [.current]
      else (stepOfPiece? first).toList
    leading ++ rest.filterMap stepOfPiece?

/-- The name at the end of a path. -/
def fileName? (path : List Char) : Option (List Char) :=
  match (components path).getLast? with
  | some (.normal name) => some name
  | _ => none

/-- A name up to its last point.  A name without a point, or whose only point is its first
character, has no extension. -/
def stem (name : List Char) : List Char :=
  match (name.reverse.dropWhile (· != '.')) with
  | [] => name
  | _ :: before => if before = [] then name else before.reverse

/-- A path taken from a directory.  An absolute path leads to the same place from everywhere. -/
def join (directory path : List Char) : List Char :=
  if path.head? = some '/' then path
  else if directory = [] ∨ directory.getLast? = some '/' then directory ++ path
  else directory ++ '/' :: path

end Concordance.Path
