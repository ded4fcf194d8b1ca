import RotaryScan.Event
import RotaryScan.Format.Lines
import RotaryScan.Sink

namespace RotaryScan

inductive StreamFormat
  | obj
  | ply
  | csv
  deriving DecidableEq, Repr

/-- Formats of output files. A point cloud file begins with its count and is written as a whole. -/
inductive OutputFormat
  | stream (format : StreamFormat)
  | cloud
  deriving DecidableEq, Repr

namespace StreamFormat

def lines : StreamFormat → Mesh → List String
  | obj => Format.Obj.lines
  | ply => Format.Ply.lines
  | csv => Format.Csv.lines

def event (format : StreamFormat) (m : Mesh) : Event :=
  match format with
  | obj => .objWritten m.vertexCount m.faceCount
  | ply => .plyWritten m.vertexCount m.faceCount
  | csv => .csvWritten m.vertexCount

def render (format : StreamFormat) (m : Mesh) : String := Format.unlines (format.lines m)

/-- The rendering cut into pieces, here one a line. The program cuts it finer, but the division does not
matter: a sink with a limit takes the same bytes of each (`Sink.acceptAll_limited_congr`), and so does a
buffer together with what has passed it (`Buffer.contents_foldl_pushWithin`). -/
def pieces (format : StreamFormat) (m : Mesh) : List (List UInt8) :=
  (format.lines m).map fun line => Format.utf8 (line ++ "\n")

/-- Writes a mesh into a sink; the event is there only if the sink took it all. -/
def writeTo (format : StreamFormat) (m : Mesh) (sink : Sink) : Sink × Option Event :=
  let (sink, whole) := sink.acceptAll (format.pieces m)
  (sink, if whole then some (format.event m) else none)

end StreamFormat

namespace OutputFormat

def extension : OutputFormat → String
  | stream .obj => "obj"
  | stream .ply => "ply"
  | stream .csv => "csv"
  | cloud => "pcd"

def ofName? (name : String) : Option OutputFormat :=
  [stream .obj, stream .ply, stream .csv, cloud].find? (·.extension == name)

@[simp] theorem ofName?_extension (format : OutputFormat) : ofName? format.extension = some format := by
  cases format with
  | stream format => cases format <;> rfl
  | cloud => rfl

theorem extension_injective {format format' : OutputFormat} (h : format.extension = format'.extension) :
    format = format' := by
  have hsome : some format = some format' := by
    rw [← ofName?_extension format, h, ofName?_extension]
  exact Option.some.inj hsome

end OutputFormat

end RotaryScan
