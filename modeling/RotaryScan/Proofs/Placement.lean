import Mathlib.Data.List.Nodup
import RotaryScan.Conversion
import RotaryScan.Proofs.Serpentine

namespace RotaryScan

def Vertex.cell (v : Vertex) : Cell := ⟨v.line.toNat, v.point.toNat⟩

namespace Scan

/-- The samples that the declared grid has cells for. -/
def kept (s : Scan) : List UInt32 := s.samples.take s.grid.cellCount

theorem length_kept (s : Scan) : s.kept.length = min s.samples.length s.expected := by
  rw [kept, List.length_take, Nat.min_comm]
  rfl

def accepted (s : Scan) (settings : Settings) : Conversion :=
  { log := Settings.countEvents s.grid s.samples.length ++
      settings.flipEvents (s.kept.length / s.grid.points) ++
      [.meshBuilt s.grid.lineCount s.grid.pointCount (settings.mesh s.grid s.kept).vertexCount
        (settings.mesh s.grid s.kept).faceCount]
    progress := s.kept.length
    mesh := .ok (settings.mesh s.grid s.kept) }

theorem convert_cases (s : Scan) (settings : Settings) :
    (s.grid.isEmpty ∧
      s.convert settings = .refused (.emptyGrid s.grid.lineCount s.grid.pointCount)) ∨
    (¬s.grid.isEmpty ∧ s.samples.length = 0 ∧ s.convert settings = .refused .noSamples) ∨
    (¬s.grid.isEmpty ∧ s.samples.length ≠ 0 ∧
      (s.samples.length < s.grid.cellCount ∧ ¬settings.allowPartial) ∧
      s.convert settings = .refused (.truncated s.grid.cellCount s.samples.length)) ∨
    (¬s.grid.isEmpty ∧ s.samples.length ≠ 0 ∧
      ¬(s.samples.length < s.grid.cellCount ∧ ¬settings.allowPartial) ∧
      s.convert settings = s.accepted settings) := by
  by_cases he : s.grid.isEmpty
  · exact .inl ⟨he, if_pos he⟩
  by_cases hn : s.samples.length = 0
  · refine .inr (.inl ⟨he, hn, ?_⟩)
    simp only [convert, if_neg he, if_pos hn]
  by_cases ht : s.samples.length < s.grid.cellCount ∧ ¬settings.allowPartial
  · refine .inr (.inr (.inl ⟨he, hn, ht, ?_⟩))
    simp only [convert, if_neg he, if_neg hn, if_pos ht]
  · refine .inr (.inr (.inr ⟨he, hn, ht, ?_⟩))
    simp only [convert, if_neg he, if_neg hn, if_neg ht]
    rfl

theorem convert_of_mesh {s : Scan} {settings : Settings} {mesh : Mesh}
    (h : (s.convert settings).mesh = .ok mesh) :
    (0 < s.grid.lines ∧ 0 < s.grid.points) ∧ s.samples.length ≠ 0 ∧
      s.convert settings = s.accepted settings := by
  obtain ⟨-, hc⟩ | ⟨-, -, hc⟩ | ⟨-, -, -, hc⟩ | ⟨he, hn, -, hc⟩ := s.convert_cases settings
  · rw [hc] at h
    cases h
  · rw [hc] at h
    cases h
  · rw [hc] at h
    cases h
  · exact ⟨s.grid.not_isEmpty_iff.mp he, hn, hc⟩

theorem mesh_of_convert {s : Scan} {settings : Settings} {mesh : Mesh}
    (h : (s.convert settings).mesh = .ok mesh) :
    0 < s.grid.points ∧ mesh = settings.mesh s.grid s.kept := by
  obtain ⟨⟨-, hp⟩, -, hc⟩ := convert_of_mesh h
  rw [hc] at h
  cases h
  exact ⟨hp, rfl⟩

end Scan

namespace Settings

theorem cell_vertex (settings : Settings) (g : Grid) (i : Nat) (sample : UInt32)
    (h : i < g.cellCount) : (settings.vertex g i sample).cell = g.cell i := by
  obtain ⟨hl, hp⟩ := g.cell_lt i h
  apply Cell.ext
  · exact UInt8.toNat_ofNat_of_lt' (Nat.lt_trans hl g.lines_lt)
  · exact UInt8.toNat_ofNat_of_lt' (Nat.lt_trans hp g.points_lt)

theorem map_cell_vertices (settings : Settings) (g : Grid) (samples : List UInt32)
    (h : samples.length ≤ g.cellCount) :
    (settings.vertices g samples).map Vertex.cell = (List.range samples.length).map g.cell := by
  apply List.ext_getElem
  · simp [vertices]
  · intro i hi _
    have hi' : i < samples.length := by simpa [vertices] using hi
    simp only [vertices, List.getElem_map, List.getElem_mapIdx, List.getElem_range]
    exact settings.cell_vertex g i samples[i] (by omega)

end Settings

namespace Scan

theorem length_kept_le (s : Scan) : s.kept.length ≤ s.grid.cellCount := by
  rw [length_kept]
  exact Nat.min_le_right _ _

section Converted

variable {s : Scan} {settings : Settings} {mesh : Mesh} (h : (s.convert settings).mesh = .ok mesh)
include h

theorem vertex_of_mesh {i : Nat} {v : Vertex} (hv : mesh.vertices[i]? = some v) :
    i < s.grid.cellCount ∧ ∃ sample, s.samples[i]? = some sample ∧
      v = settings.vertex s.grid i sample := by
  obtain ⟨-, rfl⟩ := mesh_of_convert h
  change (settings.vertices s.grid s.kept)[i]? = some v at hv
  rw [Settings.vertices, List.getElem?_mapIdx, Option.map_eq_some_iff] at hv
  obtain ⟨sample, hs, rfl⟩ := hv
  rw [kept, List.getElem?_take] at hs
  by_cases hi : i < s.grid.cellCount
  · rw [if_pos hi] at hs
    exact ⟨hi, sample, hs, rfl⟩
  · rw [if_neg hi] at hs
    cases hs

theorem cell_of_mesh (i : Nat) (v : Vertex) (hv : mesh.vertices[i]? = some v) :
    v.cell = s.grid.cell i := by
  obtain ⟨hi, sample, -, rfl⟩ := vertex_of_mesh h hv
  exact settings.cell_vertex s.grid i sample hi

theorem map_cell_mesh :
    mesh.vertices.map Vertex.cell = (List.range s.kept.length).map s.grid.cell := by
  obtain ⟨-, rfl⟩ := mesh_of_convert h
  exact settings.map_cell_vertices s.grid s.kept s.length_kept_le

theorem length_vertices : mesh.vertices.length = min s.samples.length s.expected := by
  have hl := congrArg List.length (map_cell_mesh h)
  rwa [List.length_map, List.length_map, List.length_range, length_kept] at hl

theorem vertices_ne_nil : mesh.vertices ≠ [] := by
  obtain ⟨⟨hlines, hpoints⟩, hn, -⟩ := convert_of_mesh h
  have he : 0 < s.expected := Nat.mul_pos hlines hpoints
  have hl := length_vertices h
  intro hv
  rw [hv, List.length_nil] at hl
  omega

theorem nodup_vertices : (mesh.vertices.map fun v => (v.line, v.point)).Nodup := by
  have hn : (mesh.vertices.map Vertex.cell).Nodup := by
    rw [map_cell_mesh h]
    exact List.nodup_range.map (s.grid.cell_injective (mesh_of_convert h).1)
  have hp : mesh.vertices.map Vertex.cell = (mesh.vertices.map fun v => (v.line, v.point)).map
      fun (line, point) => ⟨line.toNat, point.toNat⟩ := by
    rw [List.map_map]
    rfl
  rw [hp] at hn
  exact hn.of_map _

theorem exists_vertex_iff (hw : mesh.vertices.length = s.expected) (c : Cell) :
    (∃ v ∈ mesh.vertices, v.cell = c) ↔ c.line < s.grid.lines ∧ c.point < s.grid.points := by
  have hmem : (∃ v ∈ mesh.vertices, v.cell = c) ↔ c ∈ mesh.vertices.map Vertex.cell :=
    List.mem_map.symm
  have hlen : s.kept.length = s.grid.lines * s.grid.points := by
    rw [length_kept, ← length_vertices h, hw]
    rfl
  rw [hmem, map_cell_mesh h, s.grid.mem_map_cell_range _ c (mesh_of_convert h).1, hlen,
    and_comm (a := c.line < s.grid.lines)]
  exact and_congr_right fun hp => s.grid.index_lt_mul_iff c hp s.grid.lines

end Converted

/-- Every sample of the declared grid becomes one vertex, at the cell it was taken at. No two of them
share a cell, and a whole scan fills the grid. -/
theorem vertices_placed (s : Scan) (settings : Settings) (mesh : Mesh)
    (h : (s.convert settings).mesh = .ok mesh) :
    mesh.vertices.length = min s.samples.length s.expected ∧
    (∀ i v, mesh.vertices[i]? = some v →
      s.samples[i]? = some v.sample ∧ v.cell = s.grid.cell i ∧
        v.line < s.header.lineCount ∧ v.point < s.header.pointCount) ∧
    (mesh.vertices.map fun v => (v.line, v.point)).Nodup ∧
    (mesh.vertices.length = s.expected → ∀ c : Cell,
      (∃ v ∈ mesh.vertices, v.cell = c) ↔ c.line < s.grid.lines ∧ c.point < s.grid.points) := by
  refine ⟨length_vertices h, ?_, nodup_vertices h, exists_vertex_iff h⟩
  intro i v hv
  have hc := cell_of_mesh h i v hv
  obtain ⟨hi, sample, hs, rfl⟩ := vertex_of_mesh h hv
  obtain ⟨hl, hp⟩ := s.grid.cell_lt i hi
  rw [← hc] at hl hp
  exact ⟨hs, hc, UInt8.lt_iff_toNat_lt.mpr hl, UInt8.lt_iff_toNat_lt.mpr hp⟩

theorem vertices_placed_partial : ∃ mesh,
    ((Scan.mk { lineCount := 2, pointCount := 2 } [7, 8, 9]).convert
      { allowPartial := true }).mesh = .ok mesh ∧
    mesh.vertices.length = 3 ∧ (mesh.vertices.map fun v => (v.line, v.point)).Nodup := by
  have h := vertices_placed (Scan.mk { lineCount := 2, pointCount := 2 } [7, 8, 9])
    { allowPartial := true } _ rfl
  exact ⟨_, rfl, h.1, h.2.2.1⟩

end Scan

end RotaryScan
