namespace RotaryScan

/-- The six bytes that precede the samples of a scan. -/
structure Header where
  stepSize : UInt8 := 1
  lineSize : UInt8 := 1
  lineCount : UInt8
  pointCount : UInt8
  lineStart : UInt8 := 0
  pointStart : UInt8 := 0
  deriving DecidableEq, Repr

def Header.expected (h : Header) : Nat := h.lineCount.toNat * h.pointCount.toNat

structure Scan where
  header : Header
  samples : List UInt32
  deriving DecidableEq, Repr

def Scan.expected (s : Scan) : Nat := s.header.expected

inductive FormatError
  | shortHeader (found : Nat)
  | trailingBytes (count : Nat)
  deriving DecidableEq, Repr

def FormatError.message : FormatError → String
  | .shortHeader found => s!"header needs 6 bytes, file has {found}"
  | .trailingBytes count => s!"{count} trailing bytes do not form a whole sample"

namespace Header

def encode (h : Header) : List UInt8 :=
  [h.stepSize, h.lineSize, h.lineCount, h.pointCount, h.lineStart, h.pointStart]

def decode : List UInt8 → Except FormatError Header
  | step :: size :: lines :: points :: line :: point :: _ =>
    .ok ⟨step, size, lines, points, line, point⟩
  | bytes => .error (.shortHeader bytes.length)

@[simp] theorem length_encode (h : Header) : h.encode.length = 6 := rfl

end Header

namespace Scan

def encodeSample (s : UInt32) : List UInt8 :=
  [(s >>> 24).toUInt8, (s >>> 16).toUInt8, (s >>> 8).toUInt8, s.toUInt8]

def joinSample (a b c d : UInt8) : UInt32 :=
  a.toUInt32 <<< 24 ||| b.toUInt32 <<< 16 ||| c.toUInt32 <<< 8 ||| d.toUInt32

def decodeSamples (short : FormatError) : Nat → List UInt8 → Except FormatError (List UInt32)
  | 0, _ => .ok []
  | count + 1, a :: b :: c :: d :: rest =>
    (decodeSamples short count rest).map (joinSample a b c d :: ·)
  | _ + 1, _ => .error short

/-- The encoding cut into the pieces it is written in: the header, then one piece a sample. -/
def pieces (s : Scan) : List (List UInt8) := s.header.encode :: s.samples.map encodeSample

def encode (s : Scan) : List UInt8 := s.pieces.flatten

/-- The samples are read only after the bytes that follow the header are known to be whole ones. -/
def decode (bytes : List UInt8) : Except FormatError Scan := do
  let header ← Header.decode bytes
  let body := bytes.drop 6
  let remainder := body.length % 4
  if remainder ≠ 0 then .error (.trailingBytes remainder)
  else return ⟨header, ← decodeSamples (.trailingBytes remainder) (body.length / 4) body⟩

@[simp] theorem length_encodeSample (s : UInt32) : (encodeSample s).length = 4 := rfl

end Scan

end RotaryScan
