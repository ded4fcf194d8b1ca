import RotaryScan.Winding

namespace RotaryScan

/-- Reveals the faces of a mesh one after the other, spread evenly over a range of frames. -/
structure BuildOrder where
  frameStart : UInt32
  frameDuration : UInt32
  deriving DecidableEq, Repr

namespace BuildOrder

def addFrames (a b : UInt32) : UInt32 :=
  if a.toNat + b.toNat < UInt32.size then a + b else 0xffffffff

/-- One frame a sample, and one more so that the last face is seen before the range ends. -/
def ofSampleCount (count : Nat) : BuildOrder :=
  ⟨1, if count < UInt32.size then UInt32.ofNat count + 1 else 0xffffffff⟩

def frameEnd (b : BuildOrder) : UInt32 := addFrames b.frameStart b.frameDuration

def faceFrame (b : BuildOrder) (index count : Nat) : UInt32 :=
  if count = 0 then b.frameStart
  else addFrames b.frameStart (UInt32.ofNat (index * b.frameDuration.toNat / count))

end BuildOrder

structure Position where
  x : Float
  y : Float
  z : Float

namespace Sphere

def radiansPerDegree : Float := 0.017453292519943295

def radians (degrees : Float) : Float := degrees * radiansPerDegree

/-- The position of a sample: points sweep the azimuth and lines the inclination, both in steps of
`stepAngle` degrees. -/
def position (scale stepAngle : Float) (point line : Nat) (sample : UInt32) : Position :=
  let azimuth := radians (point.toFloat * stepAngle)
  let inclination := radians (line.toFloat * stepAngle)
  let distance := sample.toFloat
  { x := azimuth.sin * distance * scale * inclination.cos
    y := azimuth.cos * distance * scale * inclination.cos
    z := inclination.sin * distance * scale }

end Sphere

structure Vertex extends Position where
  line : UInt8
  point : UInt8
  sample : UInt32
  radius : Float

/-- Vertices in the order of their samples, and faces that name vertices by their index. -/
structure Mesh where
  meshName : String := "ScannedMesh"
  objectName : String := "new_object"
  collectionName : String := "new_collection"
  vertices : List Vertex
  faces : List (Quad UInt32)
  build : Option BuildOrder := none

namespace Mesh

def vertexCount (m : Mesh) : Nat := m.vertices.length

def faceCount (m : Mesh) : Nat := m.faces.length

def faceFrames (m : Mesh) : Option (List UInt32) :=
  m.build.map fun build => (List.range m.faceCount).map (build.faceFrame · m.faceCount)

end Mesh

end RotaryScan
