import RotaryScan.Path
import RotaryScan.Scan

namespace RotaryScan

inductive Level
  | debug
  | info
  | warn
  | error
  deriving DecidableEq, Repr

def Level.label : Level → String
  | .debug => "DEBUG"
  | .info => "INFO"
  | .warn => "WARN"
  | .error => "ERROR"

inductive Event
  | headerRead (header : Header)
  | scanRead (input : String) (header : Header) (samples : Nat)
  | partialScan (found expected : Nat)
  | surplusSamples (count : Nat) (lineCount : UInt8)
  | facesFlipped (lines : List Nat)
  | meshBuilt (lineCount pointCount : UInt8) (vertices faces : Nat)
  | objWritten (vertices faces : Nat)
  | plyWritten (vertices faces : Nat)
  | csvWritten (rows : Nat)
  | cloudWritten (points : Nat) (path : Path)
  | scanConverted (vertices : Nat) (output : Path)
  | scanStored (samples : Nat) (path : Path)
  deriving DecidableEq, Repr

namespace Event

def level : Event → Level
  | headerRead .. | objWritten .. | plyWritten .. | csvWritten .. | cloudWritten .. => .debug
  | partialScan .. | surplusSamples .. | facesFlipped .. => .warn
  | scanRead .. | meshBuilt .. | scanConverted .. | scanStored .. => .info

def lineList (lines : List Nat) : String :=
  "[" ++ String.intercalate ", " (lines.map Nat.repr) ++ "]"

/-- The text of an event; `elapsed` is the time that a whole conversion took. -/
def message (elapsed : String) : Event → String
  | headerRead h =>
    s!"header: step_size={h.stepSize} line_size={h.lineSize} line_start={h.lineStart} " ++
      s!"point_start={h.pointStart}"
  | scanRead input h samples =>
    s!"{input}: {h.lineCount} lines x {h.pointCount} points, {samples} samples"
  | partialScan found expected =>
    s!"partial scan: {found} of {expected} samples, faces cover complete lines only"
  | surplusSamples count lineCount =>
    s!"ignoring {count} samples beyond the declared {lineCount} lines"
  | facesFlipped lines =>
    s!"legacy winding: faces between lines {lineList lines} and the next are flipped"
  | meshBuilt lineCount pointCount vertices faces =>
    s!"{lineCount} lines x {pointCount} points: {vertices} vertices, {faces} faces"
  | objWritten vertices faces => s!"wrote obj with {vertices} vertices and {faces} faces"
  | plyWritten vertices faces => s!"wrote ply with {vertices} vertices and {faces} faces"
  | csvWritten rows => s!"wrote {rows} csv rows"
  | cloudWritten points path => s!"wrote {points} points to {path.text}"
  | scanConverted vertices output =>
    s!"{vertices} samples have been processed in {elapsed}, wrote {output.text}"
  | scanStored samples path => s!"wrote {samples} samples to {path.text}"

def line (elapsed : String) (e : Event) : String := e.level.label ++ " " ++ e.message elapsed

end Event

end RotaryScan
