import RotaryScan.Proofs.Placement
import RotaryScan.Proofs.Stitching

namespace RotaryScan

/-- A face names a sample for each square that the cell of the sample is a corner of. -/
theorem Grid.countP_corner (g : Grid) (completeLines : Nat) (winding : Winding) (n : Nat) :
    (g.faces completeLines winding).countP (fun f => n ∈ f.indices.corners) =
      (squares (min completeLines g.lines) g.points).countP fun c => g.cell n ∈ c.square.corners := by
  rw [g.countP_faces completeLines winding fun f => n ∈ f.corners,
    ← g.countP_covered winding (min completeLines g.lines) fun c => g.cell n ∈ c.square.corners]
  apply List.countP_congr
  intro c hc
  rw [decide_eq_true_eq, decide_eq_true_eq, g.mem_corners_walk_index winding hc]
  exact (g.corners_walk winding c).mem_iff

namespace Mesh

def cells (m : Mesh) (f : Quad Nat) : List Cell :=
  f.corners.filterMap fun i => m.vertices[i]?.map Vertex.cell

/-- Whether the vertices that a face names are those of the four corners of a unit square. -/
def Covers (m : Mesh) (f : Quad Nat) (c : Cell) : Prop := (m.cells f).Perm c.square.corners

instance (m : Mesh) (f : Quad Nat) (c : Cell) : Decidable (m.Covers f c) :=
  inferInstanceAs (Decidable (List.Perm _ _))

/-- What it means that the faces of a mesh cover so many lines of so many points exactly once. -/
structure Tiles (m : Mesh) (lines points : Nat) : Prop where
  faceCount : m.faceCount = (lines - 1) * (points - 1)
  distinct : ∀ f ∈ m.faces, f.indices.corners.Nodup
  inside : ∀ f ∈ m.faces, ∀ i ∈ f.indices.corners, i < lines * points ∧ i < m.vertexCount
  once : ∀ c : Cell, c.line < lines - 1 → c.point < points - 1 →
    m.faces.countP (fun f => m.Covers f.indices c) = 1
  only : ∀ f ∈ m.faces, ∃ c : Cell, c.line < lines - 1 ∧ c.point < points - 1 ∧
    m.Covers f.indices c
  used : ∀ i v, m.vertices[i]? = some v →
    m.faces.countP (fun f => i ∈ f.indices.corners) =
      (squares lines points).countP fun c => v.cell ∈ c.square.corners
  shared : ∀ i v, m.vertices[i]? = some v → v.line.toNat < lines → 2 ≤ lines → 2 ≤ points →
    m.faces.countP (fun f => i ∈ f.indices.corners) =
      (if v.line.toNat = 0 ∨ v.line.toNat = lines - 1 then 1 else 2) *
        if v.point.toNat = 0 ∨ v.point.toNat = points - 1 then 1 else 2
  unused : ∀ i v, m.vertices[i]? = some v → lines ≤ v.line.toNat →
    m.faces.countP (fun f => i ∈ f.indices.corners) = 0

section Placed

/- A mesh whose vertices lie at the cells of their indices and fill the stitched lines. -/
variable {m : Mesh} {g : Grid} {lines : Nat} {winding : Winding}
  (hcell : ∀ i v, m.vertices[i]? = some v → v.cell = g.cell i)
  (hlines : lines ≤ g.lines) (hfull : lines * g.points ≤ m.vertexCount)
  (hfaces : m.faces = g.faces lines winding)

include hcell hfull in
theorem exists_vertex_at {d : Cell} (hl : d.line < lines) (hp : d.point < g.points) :
    ∃ v, m.vertices[g.index d]? = some v ∧ v.cell = d := by
  have hi : g.index d < m.vertices.length := Nat.lt_of_lt_of_le (g.index_lt d hp hl) hfull
  have hv := List.getElem?_eq_getElem hi
  refine ⟨_, hv, ?_⟩
  rw [hcell _ _ hv, g.cell_index d hp]

include hcell hfull in
theorem cells_walk {c : Cell} (hc : c ∈ squares lines g.points) :
    m.cells ((g.walk winding c).map g.index) = (g.walk winding c).corners := by
  have hd : ∀ d ∈ (g.walk winding c).corners, m.vertices[g.index d]?.map Vertex.cell = some d := by
    intro d hd
    obtain ⟨hl, hp⟩ := g.mem_walk winding hc hd
    obtain ⟨v, hv, hd⟩ := exists_vertex_at hcell hfull hl hp
    rw [hv, Option.map_some, hd]
  rw [cells, Quad.corners_map, List.filterMap_map]
  exact (List.filterMap_congr hd).trans List.filterMap_some

include hcell hfull in
theorem covers_walk_iff {c d : Cell} (hc : c ∈ squares lines g.points) :
    m.Covers ((g.walk winding c).map g.index) d ↔ g.covered winding c = d := by
  rw [Covers, cells_walk hcell hfull hc, (g.corners_walk winding c).congr_left,
    Cell.corners_square_perm_iff]

include hlines hfaces in
theorem exists_walk_of_mem {f : Quad UInt32} (hf : f ∈ m.faces) :
    ∃ c ∈ squares lines g.points, f.indices = (g.walk winding c).map g.index := by
  rw [hfaces] at hf
  have h := g.exists_walk lines winding hf
  rwa [Nat.min_eq_left hlines] at h

include hcell hlines hfull hfaces in
theorem countP_covers {c : Cell} (hc : c ∈ squares lines g.points) :
    m.faces.countP (fun f => m.Covers f.indices c) = 1 := by
  have h : m.faces.countP (fun f => m.Covers f.indices c) =
      (squares lines g.points).countP fun d => g.covered winding d == c := by
    rw [hfaces, g.countP_faces lines winding fun f => m.Covers f c, Nat.min_eq_left hlines]
    apply List.countP_congr
    intro d hd
    rw [decide_eq_true_eq, beq_iff_eq, covers_walk_iff hcell hfull hd]
  rw [h, g.countP_covered winding lines fun d => d == c]
  exact List.count_eq_one_of_mem (nodup_squares lines g.points) hc

include hcell hlines hfaces in
theorem countP_corner_vertex (i : Nat) (v : Vertex) (hv : m.vertices[i]? = some v) :
    m.faces.countP (fun f => i ∈ f.indices.corners) =
      (squares lines g.points).countP fun c => v.cell ∈ c.square.corners := by
  rw [hfaces, hcell i v hv, g.countP_corner, Nat.min_eq_left hlines]

include hcell hlines hfull hfaces in
theorem tiles_of_faces : m.Tiles lines g.points := by
  have hused := countP_corner_vertex hcell hlines hfaces
  refine ⟨?_, ?_, ?_, ?_, ?_, hused, ?_, ?_⟩
  · rw [faceCount, hfaces, g.length_faces, Nat.min_eq_left hlines]
  · intro f hf
    obtain ⟨c, hc, he⟩ := exists_walk_of_mem hlines hfaces hf
    rw [he]
    exact g.nodup_walk_index winding hc
  · intro f hf i hi
    obtain ⟨c, hc, he⟩ := exists_walk_of_mem hlines hfaces hf
    rw [he] at hi
    have hlt := g.walk_index_lt winding hc hi
    exact ⟨hlt, Nat.lt_of_lt_of_le hlt hfull⟩
  · intro c hl hp
    exact countP_covers hcell hlines hfull hfaces (mem_squares.mpr ⟨by omega, by omega⟩)
  · intro f hf
    obtain ⟨c, hc, he⟩ := exists_walk_of_mem hlines hfaces hf
    obtain ⟨hl, hp⟩ := mem_squares.mp (g.covered_mem winding hc)
    refine ⟨g.covered winding c, by omega, by omega, ?_⟩
    rw [he]
    exact (covers_walk_iff hcell hfull hc).mpr rfl
  · intro i v hv hl h2l h2p
    have hp : v.cell.point < g.points := by
      rw [hcell i v hv]
      exact g.point_cell_lt i (by omega)
    rw [hused i v hv]
    exact countP_corner_square v.cell h2l h2p hl hp
  · intro i v hv hl
    rw [hused i v hv]
    apply List.countP_eq_zero.mpr
    intro c hc hm
    have hs := mem_squares.mp hc
    have hm := (Cell.mem_corners_square _ _).mp (of_decide_eq_true hm)
    have hv : v.cell.line = v.line.toNat := rfl
    omega

end Placed

end Mesh

namespace Scan

def completeLines (s : Scan) : Nat := min s.samples.length s.expected / s.grid.points

theorem completeLines_le (s : Scan) : s.completeLines ≤ s.grid.lines := by
  have h : min s.samples.length s.expected ≤ s.grid.points * s.grid.lines := by
    rw [Nat.mul_comm]
    exact Nat.min_le_right _ _
  exact Nat.div_le_of_le_mul h

section Converted

variable {s : Scan} {settings : Settings} {mesh : Mesh} (h : (s.convert settings).mesh = .ok mesh)
include h

theorem faces_of_mesh : mesh.faces = s.grid.faces s.completeLines settings.winding := by
  rw [(mesh_of_convert h).2, completeLines, ← length_kept]
  rfl

theorem length_faces_eq : mesh.faces.length = (s.completeLines - 1) * (s.grid.points - 1) := by
  rw [faces_of_mesh h, s.grid.length_faces, Nat.min_eq_left s.completeLines_le]

theorem completeLines_mul_le : s.completeLines * s.grid.points ≤ mesh.vertices.length := by
  rw [length_vertices h]
  exact Nat.div_mul_le_self _ _

theorem corners_of_mesh {f : Quad UInt32} (hf : f ∈ mesh.faces) :
    f.indices.corners.Nodup ∧ ∀ i ∈ f.indices.corners, i < mesh.vertices.length := by
  rw [faces_of_mesh h] at hf
  obtain ⟨c, hc, he⟩ := s.grid.exists_walk s.completeLines settings.winding hf
  rw [Nat.min_eq_left s.completeLines_le] at hc
  rw [he]
  refine ⟨s.grid.nodup_walk_index settings.winding hc, fun i hi => ?_⟩
  exact Nat.lt_of_lt_of_le (s.grid.walk_index_lt settings.winding hc hi) (completeLines_mul_le h)

theorem length_faces_le : mesh.faces.length ≤ mesh.vertices.length := by
  rw [length_faces_eq h]
  calc (s.completeLines - 1) * (s.grid.points - 1)
      ≤ s.completeLines * s.grid.points := Nat.mul_le_mul (Nat.sub_le _ _) (Nat.sub_le _ _)
    _ ≤ mesh.vertices.length := completeLines_mul_le h

end Converted

/-- Under both windings the faces cover each square of the complete lines once and touch no vertex of
a line that was cut off. -/
theorem faces_tile (s : Scan) (settings : Settings) (mesh : Mesh)
    (h : (s.convert settings).mesh = .ok mesh) : mesh.Tiles s.completeLines s.grid.points := by
  have hfull : s.completeLines * s.grid.points ≤ mesh.vertexCount := by
    rw [Mesh.vertexCount, length_vertices h]
    exact Nat.div_mul_le_self _ _
  have hfaces : mesh.faces = s.grid.faces s.completeLines settings.winding := by
    rw [(mesh_of_convert h).2, completeLines, ← length_kept]
    rfl
  exact Mesh.tiles_of_faces (cell_of_mesh h) s.completeLines_le hfull hfaces

theorem faces_tile_partial : ∃ mesh,
    ((Scan.mk { lineCount := 3, pointCount := 3 } [1, 2, 3, 4, 5, 6, 7]).convert
      { winding := .legacy, allowPartial := true }).mesh = .ok mesh ∧ mesh.Tiles 2 3 :=
  ⟨_, rfl, faces_tile (Scan.mk { lineCount := 3, pointCount := 3 } [1, 2, 3, 4, 5, 6, 7])
    { winding := .legacy, allowPartial := true } _ rfl⟩

end Scan

end RotaryScan
