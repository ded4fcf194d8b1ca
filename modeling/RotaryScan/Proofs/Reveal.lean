import RotaryScan.Proofs.Coverage

namespace RotaryScan

namespace BuildOrder

variable {b : BuildOrder} {i j count : Nat}

theorem toNat_addFrames {a b : UInt32} (h : a.toNat + b.toNat < UInt32.size) :
    (addFrames a b).toNat = a.toNat + b.toNat := by
  rw [addFrames, if_pos h, UInt32.toNat_add, Nat.mod_eq_of_lt h]

theorem toNat_frameEnd (h : b.frameStart.toNat + b.frameDuration.toNat < UInt32.size) :
    b.frameEnd.toNat = b.frameStart.toNat + b.frameDuration.toNat :=
  toNat_addFrames h

/-- The share of the duration that has passed when face number `i` of `count` appears. -/
def offset (b : BuildOrder) (i count : Nat) : Nat := i * b.frameDuration.toNat / count

theorem offset_le (h : i ≤ count) : b.offset i count ≤ b.frameDuration.toNat :=
  Nat.div_le_of_le_mul (Nat.mul_le_mul_right _ h)

theorem offset_lt (h : i < count) (hd : 0 < b.frameDuration.toNat) :
    b.offset i count < b.frameDuration.toNat :=
  Nat.div_lt_of_lt_mul (Nat.mul_lt_mul_of_pos_right h hd)

/-- With a frame or more for every face, no two faces share one. -/
theorem offset_lt_offset (hc : 0 < count) (hd : count ≤ b.frameDuration.toNat) (h : i < j) :
    b.offset i count < b.offset j count := by
  have hm : i * b.frameDuration.toNat + count ≤ j * b.frameDuration.toNat := by
    calc i * b.frameDuration.toNat + count
        ≤ i * b.frameDuration.toNat + b.frameDuration.toNat := Nat.add_le_add_left hd _
      _ = (i + 1) * b.frameDuration.toNat := (Nat.succ_mul _ _).symm
      _ ≤ j * b.frameDuration.toNat := Nat.mul_le_mul_right _ h
  calc b.offset i count
      < i * b.frameDuration.toNat / count + 1 := Nat.lt_succ_self _
    _ = (i * b.frameDuration.toNat + count) / count := (Nat.add_div_right _ hc).symm
    _ ≤ b.offset j count := Nat.div_le_div_right hm

theorem toNat_faceFrame (h : i < count)
    (hs : b.frameStart.toNat + b.frameDuration.toNat < UInt32.size) :
    (b.faceFrame i count).toNat = b.frameStart.toNat + b.offset i count := by
  have hc : count ≠ 0 := by omega
  have ho : b.offset i count ≤ b.frameDuration.toNat := offset_le (Nat.le_of_lt h)
  have hw : (UInt32.ofNat (b.offset i count)).toNat = b.offset i count :=
    UInt32.toNat_ofNat_of_lt' (by omega)
  rw [faceFrame, if_neg hc]
  change (addFrames b.frameStart (UInt32.ofNat (b.offset i count))).toNat = _
  rw [toNat_addFrames (by omega), hw]

def frames (b : BuildOrder) (count : Nat) : List UInt32 :=
  (List.range count).map (b.faceFrame · count)

@[simp] theorem length_frames : (b.frames count).length = count := by
  simp [frames]

theorem getElem?_frames_eq_some {f : UInt32} :
    (b.frames count)[i]? = some f ↔ i < count ∧ b.faceFrame i count = f := by
  simp [frames, List.getElem?_eq_some_iff]

section Range

/- A range that ends before the largest frame number, and holds a frame or more for every face. -/
variable (hs : b.frameStart.toNat + b.frameDuration.toNat < UInt32.size)
  (hd : count ≤ b.frameDuration.toNat)
include hs

theorem head_frames {f : UInt32} (h : (b.frames count).head? = some f) : f = b.frameStart := by
  rw [List.head?_eq_getElem?, getElem?_frames_eq_some] at h
  obtain ⟨hc, rfl⟩ := h
  apply UInt32.toNat_inj.mp
  rw [toNat_faceFrame hc hs, offset, Nat.zero_mul, Nat.zero_div, Nat.add_zero]

include hd

theorem pairwise_frames : (b.frames count).Pairwise (· < ·) := by
  apply List.pairwise_map.mpr
  apply List.pairwise_lt_range.imp_of_mem
  intro i j hi hj hij
  rw [List.mem_range] at hi hj
  have ho : b.offset i count < b.offset j count := offset_lt_offset (by omega) hd hij
  rw [UInt32.lt_iff_toNat_lt, toNat_faceFrame hi hs, toNat_faceFrame hj hs]
  omega

theorem mem_frames {f : UInt32} (hf : f ∈ b.frames count) : b.frameStart ≤ f ∧ f < b.frameEnd := by
  obtain ⟨i, hi, rfl⟩ := List.mem_map.mp hf
  rw [List.mem_range] at hi
  have ho : b.offset i count < b.frameDuration.toNat := offset_lt hi (by omega)
  rw [UInt32.le_iff_toNat_le, UInt32.lt_iff_toNat_lt, toNat_faceFrame hi hs, toNat_frameEnd hs]
  omega

end Range

theorem toNat_frameDuration_ofSampleCount (h : count + 1 < UInt32.size) :
    (ofSampleCount count).frameDuration.toNat = count + 1 := by
  have hc : count < UInt32.size := by omega
  rw [ofSampleCount, if_pos hc, UInt32.toNat_add, UInt32.toNat_ofNat_of_lt' hc]
  exact Nat.mod_eq_of_lt h

end BuildOrder

theorem Mesh.faceFrames_eq (m : Mesh) : m.faceFrames = m.build.map (·.frames m.faces.length) := rfl

namespace Scan

section Converted

variable {s : Scan} {settings : Settings} {mesh : Mesh} (h : (s.convert settings).mesh = .ok mesh)
include h

theorem length_vertices_lt : mesh.vertices.length < 2 ^ 16 := by
  rw [length_vertices h]
  exact Nat.lt_of_le_of_lt (Nat.min_le_right _ _) s.grid.cellCount_lt

theorem build_of_mesh :
    mesh.build = if settings.build then some (.ofSampleCount mesh.vertices.length) else none := by
  have hl : s.kept.length = mesh.vertices.length := by
    rw [length_kept, length_vertices h]
  rw [← hl, (mesh_of_convert h).2]
  rfl

theorem isSome_build : mesh.build.isSome = settings.build := by
  rw [build_of_mesh h]
  cases settings.build <;> rfl

theorem range_of_build {b : BuildOrder} (hb : mesh.build = some b) :
    b.frameStart = 1 ∧ b.frameDuration.toNat = mesh.vertices.length + 1 := by
  have hn : mesh.vertices.length < 2 ^ 16 := length_vertices_lt h
  have hsize : UInt32.size = 2 ^ 32 := rfl
  rw [build_of_mesh h] at hb
  split at hb
  · cases hb
    exact ⟨rfl, BuildOrder.toNat_frameDuration_ofSampleCount (by omega)⟩
  · cases hb

end Converted

/-- The faces of a mesh that is built over time appear one by one, the first in frame 1 and the last
before the end of the range, and no number overflows on the way. -/
theorem frames_increase (s : Scan) (settings : Settings) (mesh : Mesh)
    (h : (s.convert settings).mesh = .ok mesh) (hb : settings.build = true) :
    ∃ b frames, mesh.build = some b ∧ mesh.faceFrames = some frames ∧
      frames.length = mesh.faces.length ∧ (∀ f, frames.head? = some f → f = 1) ∧
      frames.Pairwise (· < ·) ∧ (∀ f ∈ frames, 1 ≤ f ∧ f < b.frameEnd) ∧
      b.frameEnd.toNat = mesh.vertices.length + 2 ∧
      b.frameStart.toNat + b.frameDuration.toNat < UInt32.size ∧
      ∀ i f, frames[i]? = some f →
        i * b.frameDuration.toNat < UInt64.size ∧
        i * b.frameDuration.toNat / mesh.faces.length < UInt32.size ∧
        f.toNat = b.frameStart.toNat + i * b.frameDuration.toNat / mesh.faces.length := by
  obtain ⟨b, hbuild⟩ := Option.isSome_iff_exists.mp ((isSome_build h).trans hb)
  obtain ⟨hstart, hduration⟩ := range_of_build h hbuild
  have hn : mesh.vertices.length < 2 ^ 16 := length_vertices_lt h
  have hf : mesh.faces.length ≤ mesh.vertices.length := length_faces_le h
  have hone : b.frameStart.toNat = 1 := congrArg UInt32.toNat hstart
  have hsize : UInt32.size = 2 ^ 32 := rfl
  have hs : b.frameStart.toNat + b.frameDuration.toNat < UInt32.size := by omega
  have hd : mesh.faces.length ≤ b.frameDuration.toNat := by omega
  have hframes : mesh.faceFrames = some (b.frames mesh.faces.length) := by
    rw [mesh.faceFrames_eq, hbuild, Option.map_some]
  refine ⟨b, _, hbuild, hframes, BuildOrder.length_frames, ?_, BuildOrder.pairwise_frames hs hd, ?_, ?_,
    hs, ?_⟩
  · intro f hf
    rw [BuildOrder.head_frames hs hf, hstart]
  · intro f hf
    rw [← hstart]
    exact BuildOrder.mem_frames hs hd hf
  · rw [BuildOrder.toNat_frameEnd hs]
    omega
  · intro i f hif
    obtain ⟨hi, rfl⟩ := BuildOrder.getElem?_frames_eq_some.mp hif
    have hframe := BuildOrder.toNat_faceFrame hi hs
    have hle : b.offset i mesh.faces.length ≤ b.frameDuration.toNat := BuildOrder.offset_le (by omega)
    refine ⟨?_, ?_, hframe⟩
    · calc i * b.frameDuration.toNat
          ≤ 2 ^ 16 * 2 ^ 16 := Nat.mul_le_mul (by omega) (by omega)
        _ < UInt64.size := by decide
    · change b.offset i mesh.faces.length < _
      omega

theorem frames_increase_partial : ∃ mesh b,
    ((Scan.mk { lineCount := 3, pointCount := 3 } [1, 2, 3, 4, 5, 6, 7]).convert
      { winding := .legacy, allowPartial := true, build := true }).mesh = .ok mesh ∧
    mesh.build = some b ∧ mesh.faceFrames = some [1, 5] ∧ ∀ f ∈ [1, 5], f < b.frameEnd := by
  obtain ⟨b, frames, hb, hframes, -, -, -, hf, -⟩ :=
    frames_increase (Scan.mk { lineCount := 3, pointCount := 3 } [1, 2, 3, 4, 5, 6, 7])
      { winding := .legacy, allowPartial := true, build := true } _ rfl rfl
  obtain rfl : [1, 5] = frames := Option.some.inj hframes
  exact ⟨_, b, rfl, hb, hframes, fun f hm => (hf f hm).2⟩

end Scan

end RotaryScan
