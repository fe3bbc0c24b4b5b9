import Concordance.Trace.Source
import Concordance.Trace.Stream

/-!
# Binary traces

A binary trace has a head of sixteen bytes, the letters `PTRC`, a version and the number of
points, and behind it a record of forty-eight bytes for each point: the six words of rank,
coordinates, material and density.

* `Trace.readHead` takes the head off a stream and checks it.
* `Trace.pointOfRecord` and `Trace.recordOfPoint` read and write one record.
* `Trace.bytesOfPoints` writes a trace.
-/

namespace Concordance.Trace

/-- The first four bytes of a binary trace. -/
def magic : List UInt8 := [0x50, 0x54, 0x52, 0x43]

/-- The version of the format. -/
def version : Nat := 1

/-- The number of bytes in the head. -/
def headLength : Nat := 16

/-- The number of bytes in a record. -/
def recordLength : Nat := 48

/-! ## Reading -/

/-- The number of points in a head, if the head is one. -/
def countOfHead (head : List UInt8) : Except TraceFault Nat :=
  let found := head.take 4
  let foundVersion := ofLittleEndian ((head.drop 4).take 4)
  if head.length < headLength then .error .missingHeader
  else if found ≠ magic then .error (.badMagic found)
  else if foundVersion ≠ version then .error (.unsupportedVersion foundVersion)
  else .ok (ofLittleEndian ((head.drop 8).take 8))

/-- Takes the head off a stream: the number of points, and the rest of the stream. -/
def readHead (s : ByteStream) : Except TraceFault (Nat × ByteStream) :=
  match s.fill headLength with
  | (head, rest) => (countOfHead head).map fun count => (count, rest)

/-- The word at a place of a record. -/
def wordAt (record : List UInt8) (place : Nat) : UInt64 :=
  UInt64.ofNat (ofLittleEndian ((record.drop (8 * place)).take 8))

/-- The point in a record of full length. -/
def pointOfRecord (record : List UInt8) : SampledPoint where
  rank := (wordAt record 0).toInt64
  position := ⟨⟨wordAt record 1⟩, ⟨wordAt record 2⟩, ⟨wordAt record 3⟩⟩
  material := ⟨(wordAt record 4).toInt64⟩
  density := ⟨wordAt record 5⟩

/-! ## Writing -/

/-- The bytes of a word. -/
def wordBytes (w : UInt64) : List UInt8 := toLittleEndian 8 w.toNat

/-- The record of a point. -/
def recordOfPoint (p : SampledPoint) : List UInt8 :=
  wordBytes p.rank.toUInt64 ++ wordBytes p.position.x.bits ++ wordBytes p.position.y.bits ++
    wordBytes p.position.z.bits ++ wordBytes p.material.value.toUInt64 ++
    wordBytes p.density.bits

/-- A trace of points, which announces their number. -/
def bytesOfPoints (points : List SampledPoint) : List UInt8 :=
  magic ++ toLittleEndian 4 version ++ toLittleEndian 8 points.length ++
    points.flatMap recordOfPoint

end Concordance.Trace
