import RotaryScan.Format.Output
import RotaryScan.Proofs.Computed
import RotaryScan.Proofs.Spread

namespace RotaryScan

open Computed

/- A conversion with each operation on whole numbers checked. It leaves the conversion as it is, for
none of the checks fails. -/

namespace Grid

variable (g : Grid)

def computeCell (index : Nat) : Except Fault Cell := do
  let line ← (index / g.points : Computed).value
  let offset ← (index % g.points : Computed).value
  let point : Computed := if line % 2 = 0 then offset else g.points - 1 - offset
  return ⟨line, ← point.value⟩

def computedIndex (line point : Nat) : Computed :=
  if line % 2 = 0 then line * g.points + point else line * g.points + g.points - 1 - point

def computeQuad (line point : Nat) : Winding → Except Fault (Quad Computed)
  | .consistent => do
    let above ← (line + 1 : Computed).value
    let next ← (point + 1 : Computed).value
    return ⟨g.computedIndex line point, g.computedIndex line next, g.computedIndex above next,
      g.computedIndex above point⟩
  | .legacy =>
    return ⟨line * g.points + point, line * g.points + point + 1,
      (line + 1) * g.points + g.points - point - 2, (line + 1) * g.points + g.points - point - 1⟩

def computeFace (line point : Nat) (winding : Winding) : Except Fault (Quad UInt32) := do
  (← g.computeQuad line point winding).traverse Computed.word

def computeFaces (completeLines : Nat) (winding : Winding) : Except Fault (List (Quad UInt32)) := do
  let lines := min completeLines g.lines
  if lines < 2 ∨ g.points < 2 then return []
  else
    let rows ← (lines - 1 : Computed).value
    let columns ← (g.points - 1 : Computed).value
    let faces ← (List.range rows).mapM fun line =>
      (List.range columns).mapM fun point => g.computeFace line point winding
    return faces.flatten

theorem computeCell_eq (index : Nat) (h : 0 < g.points) :
    g.computeCell index = .ok (g.cell index) := by
  have hp : g.points ≠ 0 := by omega
  have hm := Nat.mod_lt index h
  simp only [computeCell, of_div hp, of_mod hp, value_of, ok_bind, cell]
  split
  · rfl
  · rw [ofNat_eq, of_sub h, of_sub (by omega)]
    rfl

example : (Grid.mk 3 0).computeCell 0 = .error .divisionByZero := rfl

section Line

variable {line point : Nat}

theorem line_mul_lt (hl : line < g.lines) : (line + 1) * g.points < 2 ^ 16 := by
  calc (line + 1) * g.points ≤ g.cellCount := Nat.mul_le_mul_right _ hl
    _ < 2 ^ 16 := g.cellCount_lt

theorem line_mul_lt_size (hl : line < g.lines) : (line + 1) * g.points < UInt64.size :=
  Nat.lt_trans (g.line_mul_lt hl) (by decide)

/-- On a line of odd number the end of the line is computed first, so that this has to fit. -/
theorem computedIndex_eq (hend : (line + 1) * g.points < UInt64.size) (hp : point < g.points) :
    g.computedIndex line point = g.vertexIndex line point := by
  rw [Nat.succ_mul] at hend
  simp only [computedIndex, vertexIndex]
  split
  · rw [of_mul (by omega), of_add (by omega)]
  · rw [ofNat_eq, of_mul (by omega), of_add (by omega), of_sub (by omega), of_sub (by omega)]

end Line

section Face

variable {line point : Nat} (hl : line + 1 < g.lines) (hp : point + 1 < g.points)
  (winding : Winding)
include hl hp

/-- With a line above and a point to come, no difference is negative under either winding. -/
theorem computeQuad_eq :
    g.computeQuad line point winding = .ok ((g.quad line point winding).map of) := by
  have hlines := g.lines_lt
  have hpoints := g.points_lt
  have hsize : UInt64.size = 2 ^ 64 := rfl
  cases winding with
  | consistent =>
    have hend := g.line_mul_lt_size hl
    have hend' := g.line_mul_lt_size (Nat.lt_of_succ_lt hl)
    have hp' : point < g.points := Nat.lt_of_succ_lt hp
    simp only [computeQuad, quad, ofNat_eq]
    rw [of_add (by omega), of_add (by omega), value_of, value_of, ok_bind, ok_bind,
      g.computedIndex_eq hend' hp', g.computedIndex_eq hend' hp, g.computedIndex_eq hend hp,
      g.computedIndex_eq hend hp']
    rfl
  | legacy =>
    have hm := g.line_mul_lt hl
    have hle : line * g.points ≤ (line + 1) * g.points := Nat.mul_le_mul_right _ (Nat.le_succ _)
    rw [Nat.succ_mul] at hm
    simp only [computeQuad, quad, ofNat_eq]
    rw [of_mul (by omega), of_add (by omega), of_add (by omega), of_add (by omega),
      of_mul (by omega), of_add (by omega), of_sub (by omega), of_sub (by omega),
      of_sub (by omega)]
    rfl

theorem corner_lt {index : Nat} (hi : index ∈ (g.quad line point winding).corners) :
    index < UInt32.size := by
  have hc : Cell.mk line point ∈ squares g.lines g.points := mem_squares.mpr ⟨hl, hp⟩
  rw [g.quad_eq winding line point hp] at hi
  calc index < g.cellCount := g.walk_index_lt winding hc hi
    _ < 2 ^ 16 := g.cellCount_lt
    _ < UInt32.size := by decide

theorem computeFace_eq :
    g.computeFace line point winding = .ok ((g.quad line point winding).map .ofNat) := by
  rw [computeFace, g.computeQuad_eq hl hp, ok_bind, Quad.traverse_map]
  exact Quad.traverse_eq_ok fun index hi => word_of (g.corner_lt hl hp winding hi)

end Face

theorem computeFaces_eq (completeLines : Nat) (winding : Winding) :
    g.computeFaces completeLines winding = .ok (g.faces completeLines winding) := by
  by_cases h : min completeLines g.lines < 2 ∨ g.points < 2
  · simp only [computeFaces, faces, if_pos h]
    rfl
  have hrows : ∀ line ∈ List.range (min completeLines g.lines - 1),
      (List.range (g.points - 1)).mapM (g.computeFace line · winding) =
        .ok ((List.range (g.points - 1)).map fun point =>
          (g.quad line point winding).map UInt32.ofNat) := by
    intro line hline
    apply mapM_eq_ok
    intro point hpoint
    rw [List.mem_range] at hline hpoint
    exact g.computeFace_eq (by omega) (by omega) winding
  simp only [computeFaces, faces, if_neg h, ofNat_eq]
  rw [of_sub (by omega), of_sub (by omega), value_of, value_of, ok_bind, ok_bind, mapM_eq_ok hrows,
    ok_bind, List.flatMap_def]
  rfl

end Grid

namespace BuildOrder

def computeOfSampleCount (count : Nat) : Except Fault BuildOrder := do
  let count := if count < UInt32.size then count else UInt32.size - 2
  return ⟨1, ← (count + 1 : Computed).word⟩

def computeFaceFrame (b : BuildOrder) (index count : Nat) : Except Fault UInt32 := do
  if count = 0 then return b.frameStart
  else return addFrames b.frameStart (← (index * b.frameDuration.toNat / count : Computed).word)

/-- Only the largest number of 32 bits fits there and cannot be increased. -/
theorem computeOfSampleCount_eq {count : Nat} (h : count + 1 ≠ UInt32.size) :
    computeOfSampleCount count = .ok (ofSampleCount count) := by
  have hsize : UInt32.size = 2 ^ 32 := rfl
  have hsize' : UInt64.size = 2 ^ 64 := rfl
  simp only [computeOfSampleCount, ofSampleCount, ofNat_eq]
  split
  · rw [of_add (by omega), word_of (by omega), ok_bind, UInt32.ofNat_add]
    rfl
  · rw [of_add (by omega), word_of (by omega)]
    rfl

example : computeOfSampleCount (UInt32.size - 1) = .error .overflow := rfl

theorem computeFaceFrame_eq (b : BuildOrder) {index count : Nat} (h : index < count)
    (hmax : count ≤ UInt32.size) :
    b.computeFaceFrame index count = .ok (b.faceFrame index count) := by
  have hc : count ≠ 0 := by omega
  have ho : index * b.frameDuration.toNat / count < UInt32.size := b.offset_lt_size h
  rw [computeFaceFrame, faceFrame, if_neg hc, if_neg hc, of_mul (b.mul_frameDuration_lt_size h hmax),
    of_div hc, word_of ho]
  rfl

end BuildOrder

namespace Settings

variable (settings : Settings) {grid : Grid}

def computeVertex (grid : Grid) (index : Nat) (sample : UInt32) : Except Fault Vertex := do
  let cell ← grid.computeCell index
  return {
    Sphere.position settings.scale settings.stepAngle cell.point cell.line sample with
    line := ← (cell.line : Computed).byte
    point := ← (cell.point : Computed).byte
    sample
    radius := sample.toFloat * settings.scale }

def computeCountEvents (grid : Grid) (found expected : Nat) : Except Fault (List Event) := do
  if found < expected then return [.partialScan found expected]
  else if expected < found then
    return [.surplusSamples (← (found - expected : Computed).value) grid.lineCount]
  else return []

def computeMesh (grid : Grid) (samples : List UInt32) (completeLines : Nat) :
    Except Fault Mesh := do
  let vertices ← samples.zipIdx.mapM fun (sample, index) => settings.computeVertex grid index sample
  let faces ← grid.computeFaces completeLines settings.winding
  let build ← if settings.build then
      some <$> BuildOrder.computeOfSampleCount samples.length
    else pure none
  let unnamed : Mesh := { vertices, faces, build }
  return { unnamed with objectName := settings.objectName.getD unnamed.objectName }

theorem computeVertex_eq {index : Nat} (h : index < grid.cellCount) (sample : UInt32) :
    settings.computeVertex grid index sample = .ok (settings.vertex grid index sample) := by
  obtain ⟨hl, hp⟩ := grid.cell_lt index h
  have hline : (grid.cell index).line < UInt8.size := Nat.lt_trans hl grid.lines_lt
  have hpoint : (grid.cell index).point < UInt8.size := Nat.lt_trans hp grid.points_lt
  rw [computeVertex, grid.computeCell_eq index (Nat.zero_lt_of_lt hp), ok_bind, byte_of hline,
    byte_of hpoint]
  rfl

theorem computeVertices_eq {samples : List UInt32} (h : samples.length ≤ grid.cellCount) :
    samples.zipIdx.mapM (fun (sample, index) => settings.computeVertex grid index sample) =
      .ok (settings.vertices grid samples) := by
  rw [vertices, List.mapIdx_eq_zipIdx_map]
  apply mapM_eq_ok
  rintro ⟨sample, index⟩ hi
  have hlt : index < samples.length := List.snd_lt_of_mem_zipIdx hi
  exact settings.computeVertex_eq (Nat.lt_of_lt_of_le hlt h) sample

theorem computeCountEvents_eq (grid : Grid) (found : Nat) :
    computeCountEvents grid found grid.cellCount = .ok (countEvents grid found) := by
  simp only [computeCountEvents, countEvents]
  split
  · rfl
  split
  · rw [of_sub (by omega)]
    rfl
  · rfl

theorem computeMesh_eq {samples : List UInt32} (h : samples.length ≤ grid.cellCount) :
    settings.computeMesh grid samples (samples.length / grid.points) =
      .ok (settings.mesh grid samples) := by
  have hmax : grid.cellCount < 2 ^ 16 := grid.cellCount_lt
  have hsize : UInt32.size = 2 ^ 32 := rfl
  rw [computeMesh, settings.computeVertices_eq h, ok_bind, grid.computeFaces_eq, ok_bind,
    BuildOrder.computeOfSampleCount_eq (by omega), mesh]
  cases settings.build <;> rfl

end Settings

namespace Mesh

def computeFaceFrames (m : Mesh) : Except Fault (Option (List UInt32)) :=
  match m.build with
  | some build =>
    some <$> (List.range m.faceCount).mapM fun index => build.computeFaceFrame index m.faceCount
  | none => return none

theorem computeFaceFrames_eq {m : Mesh} (h : m.faces.length ≤ UInt32.size) :
    m.computeFaceFrames = .ok m.faceFrames := by
  rw [computeFaceFrames, faceFrames]
  cases m.build with
  | none => rfl
  | some b =>
    have hframes : (List.range m.faceCount).mapM (b.computeFaceFrame · m.faceCount) =
        .ok ((List.range m.faceCount).map (b.faceFrame · m.faceCount)) :=
      mapM_eq_ok fun index hi => b.computeFaceFrame_eq (List.mem_range.mp hi) h
    simp only [hframes, ok_map, Option.map_some]

end Mesh

namespace Format

def Obj.computeFaceLine (face : Quad UInt32) : Except Fault String := do
  let numbers ← face.traverse fun index => (index.toNat + 1 : Computed).word
  return record ("f" :: (numbers.map fun number => number.toNat.repr).corners)

def Obj.computeLines (m : Mesh) : Except Fault (List String) := do
  return lines { m with faces := [] } ++ (← m.faces.mapM computeFaceLine)

def Ply.computeLines (m : Mesh) : Except Fault (List String) := do
  let faceLines ← match ← m.computeFaceFrames with
    | some frames => pure ((m.faces.zip frames).map fun (face, frame) => faceLine face (some frame))
    | none => pure (m.faces.map (faceLine · none))
  return header m ++ m.vertices.map vertexLine ++ faceLines

theorem Obj.computeFaceLine_eq {face : Quad UInt32}
    (h : ∀ index ∈ face.corners, index.toNat + 1 < UInt32.size) :
    computeFaceLine face = .ok (faceLine face) := by
  have hnumbers : face.traverse (fun index => (index.toNat + 1 : Computed).word) =
      .ok (face.map (· + 1)) := by
    apply Quad.traverse_eq_ok
    intro index hi
    have hlt := h index hi
    have hsize : UInt32.size ≤ UInt64.size := by decide
    rw [ofNat_eq, of_add (by omega), word_of hlt, UInt32.ofNat_add, UInt32.ofNat_toNat]
    rfl
  rw [computeFaceLine, hnumbers]
  rfl

theorem Obj.computeLines_eq {m : Mesh}
    (h : ∀ face ∈ m.faces, ∀ index ∈ face.corners, index.toNat + 1 < UInt32.size) :
    computeLines m = .ok (lines m) := by
  rw [computeLines, mapM_eq_ok fun face hf => computeFaceLine_eq (h face hf), ok_bind]
  simp only [lines, List.map_nil, List.append_nil]
  rfl

theorem Ply.computeLines_eq {m : Mesh} (h : m.faces.length ≤ UInt32.size) :
    computeLines m = .ok (lines m) := by
  rw [computeLines, m.computeFaceFrames_eq h, ok_bind, lines, faceLines]
  cases m.faceFrames <;> rfl

end Format

namespace Scan

def computeConversion (s : Scan) (settings : Settings) : Except Fault Conversion := do
  let grid := s.grid
  let found := s.samples.length
  if grid.isEmpty then return .refused (.emptyGrid grid.lineCount grid.pointCount)
  else
    let expected ← (grid.lines * grid.points : Computed).value
    if found = 0 then return .refused .noSamples
    else if found < expected ∧ ¬settings.allowPartial then
      return .refused (.truncated expected found)
    else
      let countEvents ← Settings.computeCountEvents grid found expected
      let samples := s.samples.take expected
      let completeLines ← (samples.length / grid.points : Computed).value
      let mesh ← settings.computeMesh grid samples completeLines
      return {
        log := countEvents ++ settings.flipEvents completeLines ++
          [.meshBuilt grid.lineCount grid.pointCount mesh.vertexCount mesh.faceCount]
        progress := samples.length
        mesh := .ok mesh }

/-- The check for an empty grid is the one that later divisions rely on. -/
theorem computeConversion_eq (s : Scan) (settings : Settings) :
    s.computeConversion settings = .ok (s.convert settings) := by
  have hmax : s.grid.cellCount < 2 ^ 16 := s.grid.cellCount_lt
  have hsize : UInt64.size = 2 ^ 64 := rfl
  have hexpected : of s.grid.lines * of s.grid.points = of s.grid.cellCount :=
    of_mul (show s.grid.cellCount < _ by omega)
  obtain ⟨he, hc⟩ | ⟨he, hn, hc⟩ | ⟨he, hn, ht, hc⟩ | ⟨he, hn, ht, hc⟩ := s.convert_cases settings
  · rw [hc]
    simp only [computeConversion, if_pos he]
    rfl
  · rw [hc]
    simp only [computeConversion, if_neg he, hexpected, value_of, ok_bind, if_pos hn]
    rfl
  · rw [hc]
    simp only [computeConversion, if_neg he, hexpected, value_of, ok_bind, if_neg hn, if_pos ht]
    rfl
  · have hp : s.grid.points ≠ 0 := (s.grid.not_isEmpty_iff.mp he).2.ne'
    rw [hc]
    simp only [computeConversion, if_neg he, hexpected, value_of, ok_bind, if_neg hn, if_neg ht,
      Settings.computeCountEvents_eq, of_div hp]
    rw [← kept, settings.computeMesh_eq s.length_kept_le]
    rfl

section Converted

variable {s : Scan} {settings : Settings} {mesh : Mesh} (h : (s.convert settings).mesh = .ok mesh)
include h

theorem index_succ_lt {face : Quad UInt32} (hf : face ∈ mesh.faces) {index : UInt32}
    (hi : index ∈ face.corners) : index.toNat + 1 < UInt32.size := by
  have hlt : index.toNat < mesh.vertices.length :=
    (corners_of_mesh h hf).2 _ (List.mem_map_of_mem hi)
  have hmax : mesh.vertices.length < 2 ^ 16 := length_vertices_lt h
  have hsize : UInt32.size = 2 ^ 32 := rfl
  omega

theorem length_faces_le_size : mesh.faces.length ≤ UInt32.size := by
  calc mesh.faces.length ≤ mesh.vertices.length := length_faces_le h
    _ ≤ 2 ^ 16 := (length_vertices_lt h).le
    _ ≤ UInt32.size := by decide

end Converted

/-- In a conversion, and in rendering its mesh, nothing is divided by zero, no difference is negative
and no number is too large for its type. -/
theorem conversion_computed (s : Scan) (settings : Settings) :
    s.computeConversion settings = .ok (s.convert settings) ∧
    ∀ mesh, (s.convert settings).mesh = .ok mesh →
      Format.Obj.computeLines mesh = .ok (Format.Obj.lines mesh) ∧
      Format.Ply.computeLines mesh = .ok (Format.Ply.lines mesh) := by
  refine ⟨s.computeConversion_eq settings, fun mesh h => ⟨?_, ?_⟩⟩
  · exact Format.Obj.computeLines_eq fun face hf index hi => index_succ_lt h hf hi
  · exact Format.Ply.computeLines_eq (length_faces_le_size h)

theorem conversion_computed_partial :
    let s : Scan := ⟨{ lineCount := 3, pointCount := 3 }, [1, 2, 3, 4, 5, 6, 7]⟩
    let settings : Settings := { winding := .legacy, allowPartial := true, build := true }
    s.computeConversion settings = .ok (s.convert settings) ∧
    ∃ mesh, (s.convert settings).mesh = .ok mesh ∧ mesh.faceCount = 2 ∧
      Format.Obj.computeLines mesh = .ok (Format.Obj.lines mesh) ∧
      Format.Ply.computeLines mesh = .ok (Format.Ply.lines mesh) := by
  obtain ⟨hconversion, hmesh⟩ := conversion_computed
    ⟨{ lineCount := 3, pointCount := 3 }, [1, 2, 3, 4, 5, 6, 7]⟩
    { winding := .legacy, allowPartial := true, build := true }
  exact ⟨hconversion, _, rfl, rfl, hmesh _ rfl⟩

end Scan

end RotaryScan
