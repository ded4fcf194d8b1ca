import RotaryScan.Random.Normal
import RotaryScan.Sink
import RotaryScan.Task

namespace RotaryScan

structure MockSettings where
  header : Header := { lineCount := 30, pointCount := 60 }
  mean : Float := 1000
  deviation : Float := 25
  seed : UInt64 := 0

namespace MockSettings

/-- Rounds a distance towards zero; what a sample cannot hold is cut to the nearest it can. -/
def toSample (distance : Float) : UInt32 := distance.toUInt32

def samplesFrom {σ : Type} (draw : σ → Float × σ) (mean deviation : Float) :
    Nat → σ → List UInt32
  | 0, _ => []
  | count + 1, s =>
    let (z, s) := draw s
    toSample (mean + deviation * z) :: samplesFrom draw mean deviation count s

def check (settings : MockSettings) : Except Failure Unit :=
  if ¬ (0 ≤ settings.mean) then .error (.negativeMean settings.mean)
  else if ¬ (0 ≤ settings.deviation ∧ settings.deviation.isFinite) then
    .error (.invalidDeviation settings.deviation)
  else .ok ()

def generateFrom {σ : Type} (settings : MockSettings) (draw : σ → Float × σ) (s : σ) :
    Except Failure Scan :=
  settings.check.map fun () =>
    ⟨settings.header,
      samplesFrom draw settings.mean settings.deviation settings.header.expected s⟩

def generate (settings : MockSettings) : Except Failure Scan :=
  settings.generateFrom Random.normal (Random.Stream.ofSeed settings.seed)

end MockSettings

namespace Scan

def bufferSize : Nat := 8192

/-- Stores a scan in a new file, piece by piece; one that is there is never overwritten. -/
def store {m : Type → Type} {Handle : Type} [Monad m] [Storage m Handle] (s : Scan) (p : Path) :
    Task m Unit := do
  let handle ← Task.createNew p
  let buffer := s.pieces.foldl (Buffer.pushWithin bufferSize) {}
  Task.append handle buffer.passed.toList
  Task.append handle buffer.pending.toList
  Task.report [.scanStored s.samples.length p]

end Scan

end RotaryScan
