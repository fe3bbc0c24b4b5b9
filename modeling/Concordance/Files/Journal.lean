import Concordance.Files.Store

/-!
# Journals of writes

A `Journal` stands for files that are out of reach while a comparison runs.  What its inputs
hold is known beforehand, and so are the paths that cannot be written; what is written is kept
in order, to be carried out afterwards.  If carrying it out fails at some path, the same
comparison with that path refused says how it really ends.
-/

namespace Concordance

/-- Known inputs, known refusals, and the writes so far. -/
structure Journal where
  /-- What the known paths lead to. -/
  inputs : List (List Char × Except FileFault Node)
  /-- The paths that cannot be written. -/
  refusals : List (List Char × FileFault)
  /-- The files that were written, in order. -/
  written : List (List Char × List UInt8)

namespace Journal

/-- A journal in which nothing is written or refused. -/
def ofInputs (inputs : List (List Char × Except FileFault Node)) : Journal := ⟨inputs, [], []⟩

/-- What a path leads to, as far as it is known. -/
def look (journal : Journal) (path : List Char) : Except FileFault Node :=
  (journal.inputs.lookup path).getD (.error .notFound)

/-- Keeps a write, unless its path is refused. -/
def write (journal : Journal) (path : List Char) (bytes : List UInt8) :
    Except FileFault Journal :=
  match journal.refusals.lookup path with
  | some fault => .error fault
  | none => .ok { journal with written := journal.written ++ [(path, bytes)] }

instance : FileStore Journal := ⟨look, write⟩

end Journal
end Concordance
