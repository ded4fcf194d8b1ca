import Mathlib.Data.List.Infix
import RotaryScan.Proofs.FlipWarning

namespace RotaryScan

theorem squares_mono {lines lines' : Nat} (points : Nat) (h : lines ≤ lines') :
    squares lines points <+: squares lines' points := by
  obtain ⟨more, hm⟩ : ∃ more, lines' - 1 = lines - 1 + more := Nat.exists_eq_add_of_le (by omega)
  rw [squares, squares, hm, List.range_add]
  exact (List.prefix_append _ _).flatMap _

theorem le_of_mem_further {lines lines' points : Nat} {further : List Cell} {c : Cell}
    (h : squares lines points ++ further = squares lines' points) (hc : c ∈ further) :
    lines ≤ c.line + 1 := by
  have hn := nodup_squares lines' points
  have hm : c ∈ squares lines' points := by
    rw [← h]
    exact List.mem_append_right _ hc
  rw [← h] at hn
  have hnot : c ∉ squares lines points := fun hl => (List.nodup_append.mp hn).2.2 c hl c hc rfl
  rw [mem_squares] at hm hnot
  omega

theorem Settings.vertices_mono (settings : Settings) (g : Grid) {samples samples' : List UInt32}
    (h : samples <+: samples') : settings.vertices g samples <+: settings.vertices g samples' := by
  obtain ⟨more, rfl⟩ := h
  rw [vertices, vertices, List.mapIdx_append]
  exact List.prefix_append _ _

def Mesh.Touches (m : Mesh) (f : Quad UInt32) (lines : Nat → Prop) : Prop :=
  ∃ i ∈ f.indices.corners, ∃ v, m.vertices[i]? = some v ∧ lines v.line.toNat

namespace Scan

theorem expected_pos {s : Scan} (hl : s.header.lineCount ≠ 0) (hp : s.header.pointCount ≠ 0) :
    0 < s.expected :=
  Nat.pos_of_ne_zero (s.expected_eq_zero_iff.not.mpr (not_or.mpr ⟨hl, hp⟩))

def HasLine (s : Scan) (line : Nat) : Prop :=
  ∀ i, (s.grid.cell i).line = line → i < s.samples.length

theorem hasLine_iff (s : Scan) {line : Nat} (hp : 0 < s.grid.points) (hl : line < s.grid.lines) :
    s.HasLine line ↔ line < s.completeLines := by
  have he : (line + 1) * s.grid.points ≤ s.expected := Nat.mul_le_mul_right _ hl
  have hlt : line < s.completeLines ↔ (line + 1) * s.grid.points ≤ s.samples.length := by
    rw [completeLines, Nat.lt_iff_add_one_le, Nat.le_div_iff_mul_le hp]
    omega
  rw [hlt]
  constructor
  · intro hline
    let last := line * s.grid.points + (s.grid.points - 1)
    have hlast : last + 1 = (line + 1) * s.grid.points := by
      rw [Nat.succ_mul]
      omega
    have hc : (s.grid.cell last).line = line :=
      Nat.div_eq_of_lt_le (Nat.le_add_right _ _) (by omega)
    rw [← hlast]
    exact hline last hc
  · rintro h i rfl
    exact Nat.lt_of_lt_of_le ((Nat.div_lt_iff_lt_mul hp).mp (Nat.lt_succ_self _)) h

section Converted

variable {s : Scan} {settings : Settings} {mesh : Mesh} (h : (s.convert settings).mesh = .ok mesh)
include h

theorem exists_vertex {c : Cell} (hl : c.line < s.completeLines) (hp : c.point < s.grid.points) :
    ∃ v, mesh.vertices[s.grid.index c]? = some v ∧ v.cell = c :=
  Mesh.exists_vertex_at (cell_of_mesh h) (completeLines_mul_le h) hl hp

/-- A face touches the two lines that it lies between and no other. -/
theorem touches_iff {f : Quad UInt32} {winding : Winding} {c : Cell}
    (hc : c ∈ squares s.completeLines s.grid.points)
    (hf : f.indices = (s.grid.walk winding c).map s.grid.index) (lines : Nat → Prop) :
    mesh.Touches f lines ↔ lines c.line ∨ lines (c.line + 1) := by
  obtain ⟨hall, ⟨d, hd, hdl⟩, e, he, hel⟩ := (s.grid.between_walk_iff winding c c.line).mpr rfl
  have hvertex : ∀ d ∈ (s.grid.walk winding c).corners,
      ∃ v, mesh.vertices[s.grid.index d]? = some v ∧ v.line.toNat = d.line := by
    intro d hd
    obtain ⟨hl, hp⟩ := s.grid.mem_walk winding hc hd
    obtain ⟨v, hv, hcell⟩ := exists_vertex h hl hp
    exact ⟨v, hv, congrArg Cell.line hcell⟩
  rw [Mesh.Touches, hf, Quad.corners_map]
  constructor
  · rintro ⟨i, hi, v, hv, hlines⟩
    obtain ⟨d, hd, rfl⟩ := List.mem_map.mp hi
    obtain ⟨w, hw, hl⟩ := hvertex d hd
    rw [hv, Option.some.injEq] at hw
    rw [hw, hl] at hlines
    obtain hdl | hdl := hall d hd
    · exact .inl (hdl ▸ hlines)
    · exact .inr (hdl ▸ hlines)
  · rintro (hlines | hlines)
    · obtain ⟨v, hv, hl⟩ := hvertex d hd
      exact ⟨_, List.mem_map_of_mem hd, v, hv, by rwa [hl, hdl]⟩
    · obtain ⟨v, hv, hl⟩ := hvertex e he
      exact ⟨_, List.mem_map_of_mem he, v, hv, by rwa [hl, hel]⟩

end Converted

section Longer

/- Two scans of one grid, of which the second goes on where the first stops. -/
variable {s t : Scan} {settings : Settings} {m n : Mesh} (hg : s.grid = t.grid)
  (hst : s.samples <+: t.samples) (hm : (s.convert settings).mesh = .ok m)
  (hn : (t.convert settings).mesh = .ok n)
include hg hst

theorem kept_mono : s.kept <+: t.kept := by
  rw [kept, kept, hg]
  exact hst.take _

theorem completeLines_mono : s.completeLines ≤ t.completeLines := by
  have he : s.expected = t.expected := congrArg Grid.cellCount hg
  have hl := hst.length_le
  rw [completeLines, completeLines, hg, he]
  exact Nat.div_le_div_right (by omega)

include hm hn

theorem vertices_prefix_of_mesh : m.vertices <+: n.vertices := by
  rw [(mesh_of_convert hm).2, (mesh_of_convert hn).2, hg]
  exact settings.vertices_mono t.grid (kept_mono hg hst)

/-- The faces that a longer scan brings are those that touch a line which the shorter one has not
completed. -/
theorem exists_further_faces : ∃ further, n.faces = m.faces ++ further ∧
    (∀ f ∈ m.faces, ¬n.Touches f fun line => ¬s.HasLine line) ∧
    ∀ f ∈ further, n.Touches f fun line => ¬s.HasLine line := by
  have hms : min s.completeLines s.grid.lines = s.completeLines := Nat.min_eq_left s.completeLines_le
  have hmt : min t.completeLines s.grid.lines = t.completeLines := by
    rw [hg]
    exact Nat.min_eq_left t.completeLines_le
  obtain ⟨further, hf⟩ := squares_mono s.grid.points (completeLines_mono hg hst)
  have htouches : ∀ c ∈ squares t.completeLines s.grid.points,
      n.Touches ((s.grid.quad c.line c.point settings.winding).map UInt32.ofNat)
        (fun line => ¬s.HasLine line) ↔ s.completeLines ≤ c.line + 1 := by
    intro c hc
    have hl : c.line + 1 < s.grid.lines := by
      have hlt := (mem_squares.mp hc).1
      have hle := t.completeLines_le
      rw [← hg] at hle
      omega
    have hp := (mesh_of_convert hm).1
    rw [hg] at hc ⊢
    have hi := t.grid.indices_quad settings.winding t.completeLines_le hc
    rw [touches_iff hn hc hi, s.hasLine_iff hp (by omega), s.hasLine_iff hp hl]
    omega
  rw [faces_of_mesh hm, faces_of_mesh hn, ← hg, s.grid.faces_eq, s.grid.faces_eq, hms, hmt, ← hf,
    List.map_append]
  refine ⟨_, rfl, ?_, ?_⟩
  · rw [List.forall_mem_map]
    intro c hc
    rw [htouches c (hf ▸ List.mem_append_left _ hc)]
    rw [mem_squares] at hc
    omega
  · rw [List.forall_mem_map]
    intro c hc
    rw [htouches c (hf ▸ List.mem_append_right _ hc)]
    exact le_of_mem_further hf hc

end Longer

/-- Whether partial scans are accepted makes no difference to a scan that is whole. -/
theorem convert_allowPartial {s : Scan} {settings : Settings} {m : Mesh}
    (h : (s.convert { settings with allowPartial := false }).mesh = .ok m) :
    s.convert { settings with allowPartial := true } =
      s.convert { settings with allowPartial := false } := by
  obtain ⟨he, hs, -⟩ := (s.exists_mesh_iff _).mp ⟨m, h⟩
  obtain ⟨n, hn⟩ := (s.exists_mesh_iff { settings with allowPartial := true }).mpr
    ⟨he, hs, fun _ => rfl⟩
  calc s.convert { settings with allowPartial := true }
      = s.accepted { settings with allowPartial := true } := (convert_of_mesh hn).2.2
    _ = s.accepted { settings with allowPartial := false } := rfl
    _ = s.convert { settings with allowPartial := false } := (convert_of_mesh h).2.2.symm

/-- Further samples leave the vertices and faces of a partial scan as they are and add to them. The
faces that they add are those that touch a line which was not complete before. -/
theorem partial_conversion_grows :
    (∀ (header : Header) (settings : Settings) (samples longer : List UInt32),
      header.lineCount ≠ 0 → header.pointCount ≠ 0 → settings.allowPartial = true →
      samples ≠ [] → samples <+: longer →
      ∃ m n further, ((Scan.mk header samples).convert settings).mesh = .ok m ∧
        ((Scan.mk header longer).convert settings).mesh = .ok n ∧
        m.vertices <+: n.vertices ∧ n.faces = m.faces ++ further ∧
        (∀ f ∈ m.faces, ¬n.Touches f fun line => ¬(Scan.mk header samples).HasLine line) ∧
        ∀ f ∈ further, n.Touches f fun line => ¬(Scan.mk header samples).HasLine line) ∧
    ∀ (s : Scan) (settings : Settings) (m : Mesh),
      (s.convert { settings with allowPartial := false }).mesh = .ok m →
      s.convert { settings with allowPartial := true } =
        s.convert { settings with allowPartial := false } := by
  refine ⟨?_, fun s settings m => convert_allowPartial⟩
  intro header settings samples longer hl hp ha hs hst
  have he : 0 < (Scan.mk header samples).expected := expected_pos hl hp
  have hpos : 0 < samples.length := List.length_pos_iff.mpr hs
  obtain ⟨m, hm⟩ := ((Scan.mk header samples).exists_mesh_iff settings).mpr ⟨he, hpos, fun _ => ha⟩
  obtain ⟨n, hn⟩ := ((Scan.mk header longer).exists_mesh_iff settings).mpr
    ⟨he, Nat.lt_of_lt_of_le hpos hst.length_le, fun _ => ha⟩
  have hg : (Scan.mk header samples).grid = (Scan.mk header longer).grid := rfl
  obtain ⟨further, hf, hold, hnew⟩ := exists_further_faces hg hst hm hn
  exact ⟨m, n, further, hm, hn, vertices_prefix_of_mesh hg hst hm hn, hf, hold, hnew⟩

theorem partial_conversion_grows_odd_line : (∃ m n,
    ((Scan.mk { lineCount := 3, pointCount := 2 } [7, 8, 9]).convert
      { winding := .legacy, allowPartial := true }).mesh = .ok m ∧
    ((Scan.mk { lineCount := 3, pointCount := 2 } [7, 8, 9, 10, 11]).convert
      { winding := .legacy, allowPartial := true }).mesh = .ok n ∧
    m.vertices <+: n.vertices ∧ m.faces = [] ∧ n.faces = [⟨0, 1, 2, 3⟩] ∧
    ∀ f ∈ n.faces, n.Touches f fun line =>
      ¬(Scan.mk { lineCount := 3, pointCount := 2 } [7, 8, 9]).HasLine line) ∧
    (Scan.mk { lineCount := 2, pointCount := 2 } [7, 8, 9, 10]).convert { allowPartial := true } =
      (Scan.mk { lineCount := 2, pointCount := 2 } [7, 8, 9, 10]).convert {} := by
  have hwhole := partial_conversion_grows.2
    (Scan.mk { lineCount := 2, pointCount := 2 } [7, 8, 9, 10]) {} _ rfl
  obtain ⟨m, n, further, hm, hn, hv, hf, -, hnew⟩ :=
    partial_conversion_grows.1 { lineCount := 3, pointCount := 2 }
      { winding := .legacy, allowPartial := true } [7, 8, 9] [7, 8, 9, 10, 11]
      (by decide) (by decide) rfl (by decide) ⟨[10, 11], rfl⟩
  have hmf : m.faces = [] := by
    rw [faces_of_mesh hm]
    decide
  have hnf : n.faces = [⟨0, 1, 2, 3⟩] := by
    rw [faces_of_mesh hn]
    decide
  rw [hmf, List.nil_append] at hf
  exact ⟨⟨m, n, hm, hn, hv, hmf, hnf, hf ▸ hnew⟩, hwhole⟩

section Surplus

/- A scan with all samples of its grid, and perhaps more. -/
variable {s : Scan} (h : s.expected ≤ s.samples.length)
include h

theorem completeLines_of_whole (hp : 0 < s.grid.points) : s.completeLines = s.grid.lines := by
  rw [completeLines, Nat.min_eq_right h]
  exact Nat.mul_div_cancel _ hp

theorem exists_mesh_of_whole (settings : Settings) (he : 0 < s.expected) :
    ∃ m, (s.convert settings).mesh = .ok m :=
  (s.exists_mesh_iff settings).mpr
    ⟨he, Nat.lt_of_lt_of_le he h, fun hlt => absurd hlt (Nat.not_lt.mpr h)⟩

end Surplus

/-- Two scans that agree on the samples of their grid give the same mesh, whatever samples follow. All
that a conversion tells of these is how many they are. -/
theorem surplus_ignored (s t : Scan) (settings : Settings)
    (hl : s.header.lineCount = t.header.lineCount) (hp : s.header.pointCount = t.header.pointCount)
    (hlines : s.header.lineCount ≠ 0) (hpoints : s.header.pointCount ≠ 0)
    (hs : s.expected ≤ s.samples.length) (ht : t.expected ≤ t.samples.length)
    (hst : s.samples.take s.expected = t.samples.take s.expected) :
    ∃ m rest, (s.convert settings).mesh = .ok m ∧ (t.convert settings).mesh = .ok m ∧
      (s.convert settings).progress = s.expected ∧ (t.convert settings).progress = s.expected ∧
      (s.convert settings).log = Settings.countEvents s.grid s.samples.length ++ rest ∧
      (t.convert settings).log = Settings.countEvents s.grid t.samples.length ++ rest ∧
      m.vertices.length = s.expected ∧ m.faces = s.grid.faces s.grid.lines settings.winding ∧
      ∀ b, m.build = some b → b.frameStart = 1 ∧ b.frameDuration.toNat = s.expected + 1 := by
  have hg : s.grid = t.grid := by
    rw [grid, grid, hl, hp]
  have he : t.expected = s.expected := congrArg Grid.cellCount hg.symm
  have hpos : 0 < s.expected := expected_pos hlines hpoints
  have hkept : s.kept = t.kept := by
    rw [kept, kept, ← hg]
    exact hst
  obtain ⟨m, hm⟩ := exists_mesh_of_whole hs settings hpos
  obtain ⟨n, hn⟩ := exists_mesh_of_whole ht settings (he ▸ hpos)
  have hmn : n = m := by
    rw [(mesh_of_convert hn).2, (mesh_of_convert hm).2, hg, hkept]
  subst hmn
  have hc : s.completeLines = s.grid.lines := completeLines_of_whole hs (mesh_of_convert hm).1
  have hct : t.completeLines = s.completeLines := by
    rw [hc, hg, completeLines_of_whole ht (mesh_of_convert hn).1]
  have hvertices : n.vertices.length = s.expected := by
    rw [length_vertices hm, Nat.min_eq_right hs]
  refine ⟨n, _, hm, hn, ?_, ?_, (log_of_mesh hm).trans (List.append_assoc _ _ _), ?_, hvertices, ?_, ?_⟩
  · rw [(accounted_of_mesh hm).progress, Nat.min_eq_right hs]
  · rw [(accounted_of_mesh hn).progress, Nat.min_eq_right ht, he]
  · rw [log_of_mesh hn, List.append_assoc, hct, ← hg, ← hl, ← hp]
  · rw [faces_of_mesh hm, hc]
  · intro b hb
    rw [← hvertices]
    exact range_of_build hm hb

theorem surplus_ignored_other_start : ∃ m,
    ((Scan.mk { lineCount := 2, pointCount := 2 } [7, 8, 9, 10]).convert
      { build := true }).mesh = .ok m ∧
    ((Scan.mk { stepSize := 2, lineCount := 2, pointCount := 2, lineStart := 5 }
      [7, 8, 9, 10, 11, 12, 13]).convert { build := true }).mesh = .ok m ∧
    m.vertices.length = 4 ∧ m.faces = [⟨0, 1, 2, 3⟩] ∧ m.faceFrames = some [1] := by
  obtain ⟨m, -, hm, hn, -, -, -, -, hv, hf, -⟩ :=
    surplus_ignored (Scan.mk { lineCount := 2, pointCount := 2 } [7, 8, 9, 10])
      (Scan.mk { stepSize := 2, lineCount := 2, pointCount := 2, lineStart := 5 }
        [7, 8, 9, 10, 11, 12, 13])
      { build := true } rfl rfl (by decide) (by decide) (by decide) (by decide) (by decide)
  have hf : m.faces = [⟨0, 1, 2, 3⟩] := by
    rw [hf]
    decide
  have hb : m.build = some (.ofSampleCount 4) := by
    rw [build_of_mesh hm, hv]
    rfl
  refine ⟨m, hm, hn, hv, hf, ?_⟩
  rw [m.faceFrames_eq, hb, hf]
  decide

end Scan

end RotaryScan
