namespace RotaryScan

/-- A place of the scan: the line is a step of the inclination, the point one of the azimuth. -/
@[ext] structure Cell where
  line : Nat
  point : Nat
  deriving DecidableEq, Repr

/-- Lines are swept back and forth: those of even number from point 0 up, the others back down.
Samples are kept in the order they were taken. -/
structure Grid where
  lineCount : UInt8
  pointCount : UInt8
  deriving DecidableEq, Repr

namespace Grid

def lines (g : Grid) : Nat := g.lineCount.toNat

def points (g : Grid) : Nat := g.pointCount.toNat

def isEmpty (g : Grid) : Bool := g.lineCount == 0 || g.pointCount == 0

def cellCount (g : Grid) : Nat := g.lines * g.points

def cell (g : Grid) (index : Nat) : Cell :=
  let line := index / g.points
  let offset := index % g.points
  ⟨line, if line % 2 = 0 then offset else g.points - 1 - offset⟩

def vertexIndex (g : Grid) (line point : Nat) : Nat :=
  if line % 2 = 0 then line * g.points + point else line * g.points + g.points - 1 - point

@[simp] theorem line_cell (g : Grid) (index : Nat) : (g.cell index).line = index / g.points := rfl

theorem point_cell_lt (g : Grid) (index : Nat) (h : 0 < g.points) :
    (g.cell index).point < g.points := by
  have := Nat.mod_lt index h
  simp only [cell]
  split <;> omega

theorem vertexIndex_cell (g : Grid) (index : Nat) (h : 0 < g.points) :
    g.vertexIndex (g.cell index).line (g.cell index).point = index := by
  have hlt := Nat.mod_lt index h
  have hdiv := Nat.div_add_mod' index g.points
  simp only [vertexIndex, cell]
  split <;> omega

end Grid

end RotaryScan
