import Concordance.Text.Utf8

/-!
# Stores of files

A `FileStore` is whatever files are read from and written to.  It opens what a path leads to,
and it writes the bytes of a file; either may fail, and a failed write leaves the store as it
was.  A directory can be opened but not read.  `FileFault` lists the reasons for a failure.
-/

namespace Concordance

/-- What the file system, or the reader of a stream, has to object. -/
inductive FileFault where
  | notFound
  | notDirectory
  | isDirectory
  | nameTooLong
  /-- The path holds the character that ends names. -/
  | nulInName
  /-- The bytes are not those of a text. -/
  | notText
  /-- The other end refuses, and says why. -/
  | refused (reason : String)
  deriving DecidableEq, Repr

/-- The wording of a fault. -/
def FileFault.message : FileFault → String
  | notFound => "No such file or directory (os error 2)"
  | notDirectory => "Not a directory (os error 20)"
  | isDirectory => "Is a directory (os error 21)"
  | nameTooLong => "File name too long (os error 36)"
  | nulInName => "file name contained an unexpected NUL byte"
  | notText => "stream did not contain valid UTF-8"
  | refused reason => reason

/-- A file with its bytes, or a directory. -/
inductive Node where
  | file (bytes : List UInt8)
  | directory
  deriving DecidableEq, Repr

/-- Something that keeps files by their paths. -/
class FileStore (ω : Type) where
  /-- What a path leads to. -/
  openPath : ω → List Char → Except FileFault Node
  /-- Creates a file or replaces its bytes. -/
  writePath : ω → List Char → List UInt8 → Except FileFault ω

namespace FileStore

variable {ω : Type} [FileStore ω]

/-- The bytes of a file. -/
def read (store : ω) (path : List Char) : Except FileFault (List UInt8) :=
  match openPath store path with
  | .error fault => .error fault
  | .ok .directory => .error .isDirectory
  | .ok (.file bytes) => .ok bytes

/-- The text of a file. -/
def readText (store : ω) (path : List Char) : Except FileFault (List Char) :=
  match read store path with
  | .error fault => .error fault
  | .ok bytes => match Utf8.decode? bytes with
    | none => .error .notText
    | some text => .ok text

end FileStore
end Concordance
