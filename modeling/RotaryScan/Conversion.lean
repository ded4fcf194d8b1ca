import RotaryScan.Event
import RotaryScan.Mesh

namespace RotaryScan

/-- How a scan is turned into a mesh. Raw samples are centimetres and a step is 1.8 degrees unless
said otherwise. -/
structure Settings where
  scale : Float := 0.01
  stepAngle : Float := 1.8
  winding : Winding := .consistent
  allowPartial : Bool := false
  build : Bool := false
  objectName : Option String := none

inductive ConversionError
  | emptyGrid (lineCount pointCount : UInt8)
  | noSamples
  | truncated (expected found : Nat)
  deriving DecidableEq, Repr

def ConversionError.message : ConversionError → String
  | .emptyGrid lineCount pointCount =>
    s!"header declares an empty grid ({lineCount} lines x {pointCount} points)"
  | .noSamples => "scan holds no samples"
  | .truncated expected found =>
    s!"scan is truncated: header declares {expected} samples, file has {found}"

structure Conversion where
  log : List Event
  progress : Nat
  mesh : Except ConversionError Mesh

namespace Conversion

def refused (e : ConversionError) : Conversion := ⟨[], 0, .error e⟩

end Conversion

namespace Settings

def vertex (settings : Settings) (grid : Grid) (index : Nat) (sample : UInt32) : Vertex :=
  let cell := grid.cell index
  { Sphere.position settings.scale settings.stepAngle cell.point cell.line sample with
    line := UInt8.ofNat cell.line
    point := UInt8.ofNat cell.point
    sample
    radius := sample.toFloat * settings.scale }

/-- One vertex a sample, so that a vertex has the index of its sample. -/
def vertices (settings : Settings) (grid : Grid) (samples : List UInt32) : List Vertex :=
  samples.mapIdx (settings.vertex grid)

def countEvents (grid : Grid) (found : Nat) : List Event :=
  if found < grid.cellCount then [.partialScan found grid.cellCount]
  else if grid.cellCount < found then [.surplusSamples (found - grid.cellCount) grid.lineCount]
  else []

def flipEvents (settings : Settings) (completeLines : Nat) : List Event :=
  if settings.winding = .legacy ∧ flippedLines completeLines ≠ [] then
    [.facesFlipped (flippedLines completeLines)]
  else []

def mesh (settings : Settings) (grid : Grid) (samples : List UInt32) : Mesh :=
  let unnamed : Mesh :=
    { vertices := settings.vertices grid samples
      faces := grid.faces (samples.length / grid.points) settings.winding
      build := if settings.build then some (.ofSampleCount samples.length) else none }
  { unnamed with objectName := settings.objectName.getD unnamed.objectName }

end Settings

namespace Scan

def grid (s : Scan) : Grid := ⟨s.header.lineCount, s.header.pointCount⟩

/-- Samples beyond the declared grid are ignored, and faces cover complete lines only. -/
def convert (s : Scan) (settings : Settings) : Conversion :=
  let grid := s.grid
  let found := s.samples.length
  if grid.isEmpty then .refused (.emptyGrid grid.lineCount grid.pointCount)
  else if found = 0 then .refused .noSamples
  else if found < grid.cellCount ∧ ¬ settings.allowPartial then
    .refused (.truncated grid.cellCount found)
  else
    let samples := s.samples.take grid.cellCount
    let mesh := settings.mesh grid samples
    { log := Settings.countEvents grid found ++
        settings.flipEvents (samples.length / grid.points) ++
        [.meshBuilt grid.lineCount grid.pointCount mesh.vertexCount mesh.faceCount]
      progress := samples.length
      mesh := .ok mesh }

end Scan

end RotaryScan
