import Concordance.Decimal.Reader
import Concordance.Text.Blank
import Concordance.Text.Utf8
import Concordance.Trace.Source

/-!
# Text traces, line by line

Lines end at newline bytes, and bytes behind the last newline are a line too.  Empty lines and
lines that begin with `#` are skipped, blanks at the ends of a line not counted.  The first
other line holds the number of points, and every later one a record

    rank x y z material density

* `Trace.linesOfBytes` and `TraceLine.ofBytes` cut bytes into lines and tell their kinds.
* `Trace.readCount` and `Trace.readRecord` read the two kinds of data.
* `Trace.textOfPoints` writes a trace.
-/

namespace Concordance

/-- A line of a text trace. -/
inductive TraceLine where
  /-- The bytes are not those of a text. -/
  | unreadable
  /-- Nothing, or a comment. -/
  | skipped
  /-- Data, without blanks at its ends. -/
  | data (text : List Char)
  deriving DecidableEq, Repr

/-- The kind of a line, given its bytes. -/
def TraceLine.ofBytes (bytes : List UInt8) : TraceLine :=
  match Utf8.decode? bytes with
  | none => .unreadable
  | some line =>
    match Text.trim line with
    | [] => .skipped
    | c :: rest => if c = '#' then .skipped else .data (c :: rest)

namespace Trace

/-- The lines of a list of bytes, without their newlines. -/
def linesOfBytes (bytes : List UInt8) : List (List UInt8) :=
  let lines := Text.pieces (· == 10) bytes
  if lines.getLast? = some [] then lines.dropLast else lines

/-! ## Reading -/

/-- Reads the number of points from the text of line `line`. -/
def readCount (line : Nat) (text : List Char) : Except TraceFault Nat :=
  match Text.readNatural text with
  | .ok count => .ok count
  | .error fault => .error (.malformed line (.badCount text fault))

/-- Reads an integer from the field with the given number. -/
def readIntegerField (field : Nat) (text : List Char) : Except RecordFault Int64 :=
  match Text.readInteger text with
  | .ok n => .ok n
  | .error fault => .error (.badInteger field text fault)

/-- Reads a double from the field with the given number. -/
def readFloatField (field : Nat) (text : List Char) : Except RecordFault Binary64 :=
  match Binary64.ofText? text with
  | some x => .ok x
  | none => .error (.badFloat field text)

/-- Reads a record.  The rank is read last, so it is blamed last. -/
def readFields : List (List Char) → Except RecordFault SampledPoint
  | [rank, x, y, z, material, density] => do
    let x ← readFloatField 2 x
    let y ← readFloatField 3 y
    let z ← readFloatField 4 z
    let material ← readIntegerField 5 material
    let density ← readFloatField 6 density
    let rank ← readIntegerField 1 rank
    return ⟨⟨x, y, z⟩, ⟨material⟩, density, rank⟩
  | fields => .error (.fieldCount fields.length)

/-- Reads a record from the text of line `line`. -/
def readRecord (line : Nat) (text : List Char) : Except TraceFault SampledPoint :=
  match readFields (Text.words text) with
  | .ok p => .ok p
  | .error fault => .error (.malformed line fault)

/-! ## Writing -/

/-- The line of a point. -/
def recordText (p : SampledPoint) : List Char :=
  Decimal.intText p.rank.toInt ++ ' ' :: p.position.x.scientificText ++
    ' ' :: p.position.y.scientificText ++ ' ' :: p.position.z.scientificText ++
    ' ' :: p.material.text ++ ' ' :: p.density.scientificText ++ ['\n']

/-- The comment at the head of a trace. -/
def headingText : List Char := "# rank x y z material density\n".toList

/-- A trace of points, which announces their number. -/
def textOfPoints (points : List SampledPoint) : List Char :=
  headingText ++ Decimal.natText points.length ++ '\n' :: points.flatMap recordText

end Trace
end Concordance
