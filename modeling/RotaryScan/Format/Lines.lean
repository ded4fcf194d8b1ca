import RotaryScan.Decimal.Printer
import RotaryScan.Mesh

namespace RotaryScan.Format

def record (tokens : List String) : String := String.intercalate " " tokens

def unlines (lines : List String) : String := String.join (lines.map (· ++ "\n"))

def utf8 (s : String) : List UInt8 := s.toUTF8.data.toList

def text? (bytes : List UInt8) : Option String := String.fromUTF8? ⟨bytes.toArray⟩

def coordinates (p : Position) : List String :=
  [Decimal.text p.x, Decimal.text p.y, Decimal.text p.z]

namespace Obj

/-- The format has no attributes of faces, so that a build order is only a comment. -/
def buildLines (build : Option BuildOrder) : List String :=
  build.toList.map fun b =>
    record ["#", "build", "frame_start", b.frameStart.toNat.repr, "frame_duration",
      b.frameDuration.toNat.repr]

def vertexLine (v : Vertex) : String := record ("v" :: coordinates v.toPosition)

def faceLine (face : Quad UInt32) : String :=
  record ("f" :: (face.map fun index => (index + 1).toNat.repr).corners)

def lines (m : Mesh) : List String :=
  ["# mesh " ++ m.meshName] ++ buildLines m.build ++
    ["g " ++ m.collectionName, "o " ++ m.objectName] ++
    m.vertices.map vertexLine ++ m.faces.map faceLine

end Obj

namespace Ply

def buildLines (build : Option BuildOrder) : List String :=
  build.toList.flatMap fun b =>
    ["comment build_frame_start " ++ b.frameStart.toNat.repr,
      "comment build_frame_duration " ++ b.frameDuration.toNat.repr]

def header (m : Mesh) : List String :=
  ["ply", "format ascii 1.0", "comment mesh " ++ m.meshName, "comment object " ++ m.objectName,
    "comment collection " ++ m.collectionName] ++
  buildLines m.build ++
  ["element vertex " ++ m.vertexCount.repr, "property double x", "property double y",
    "property double z", "property uchar line", "property uchar point", "property uint sample",
    "element face " ++ m.faceCount.repr, "property list uchar uint vertex_indices"] ++
  (if m.build.isSome then ["property uint frame"] else []) ++
  ["end_header"]

def vertexLine (v : Vertex) : String :=
  record (coordinates v.toPosition ++ [v.line.toNat.repr, v.point.toNat.repr, v.sample.toNat.repr])

def faceLine (face : Quad UInt32) (frame : Option UInt32) : String :=
  record ("4" :: (face.corners ++ frame.toList).map fun number => number.toNat.repr)

def faceLines (m : Mesh) : List String :=
  match m.faceFrames with
  | some frames => (m.faces.zip frames).map fun (face, frame) => faceLine face (some frame)
  | none => m.faces.map (faceLine · none)

def lines (m : Mesh) : List String := header m ++ m.vertices.map vertexLine ++ faceLines m

end Ply

namespace Csv

def columns : List String := ["index", "line", "point", "sample", "radius", "x", "y", "z"]

def fields (index : Nat) (v : Vertex) : List String :=
  [index.repr, v.line.toNat.repr, v.point.toNat.repr, v.sample.toNat.repr, Decimal.text v.radius] ++
    coordinates v.toPosition

def join (values : List String) : String := String.intercalate "," values

def header : String := join columns

def row (index : Nat) (v : Vertex) : String := join (fields index v)

/-- A point cloud, one row a sample; faces are left out. -/
def lines (m : Mesh) : List String := header :: m.vertices.mapIdx row

end Csv

namespace Pcd

/-- The point count is padded to a fixed width, so that it can be replaced in place. -/
def paddedCount (count : Nat) : String :=
  let digits := count.repr
  digits ++ String.ofList (List.replicate (20 - digits.length) ' ')

def header (count : Nat) : List String :=
  ["# .PCD v.7 - Point Cloud Data file format", "VERSION .7",
    "FIELDS x y z line point sample radius", "SIZE 8 8 8 1 1 4 8", "TYPE F F F U U U F",
    "COUNT 1 1 1 1 1 1 1", "WIDTH " ++ count.repr, "HEIGHT 1", "VIEWPOINT 0 0 0 1 0 0 0",
    "POINTS " ++ paddedCount count, "DATA ascii"]

def pointLine (v : Vertex) : String :=
  record (coordinates v.toPosition ++
    [v.line.toNat.repr, v.point.toNat.repr, v.sample.toNat.repr, Decimal.text v.radius])

def lines (points : List Vertex) : List String := header points.length ++ points.map pointLine

end Pcd

end RotaryScan.Format
