import RotaryScan.Proofs.Reporting

namespace RotaryScan

theorem Settings.map_sample_vertices (settings : Settings) (g : Grid) (samples : List UInt32) :
    (settings.vertices g samples).map Vertex.sample = samples := by
  apply List.ext_getElem
  · simp [vertices]
  · intro i _ _
    simp [vertices, vertex]

structure Settings.SameChoices (a b : Settings) : Prop where
  winding : a.winding = b.winding
  allowPartial : a.allowPartial = b.allowPartial
  build : a.build = b.build
  objectName : a.objectName = b.objectName

/-- Whether two meshes differ at most in the samples of their vertices and in their places in
space. -/
structure Mesh.SameLayout (m n : Mesh) : Prop where
  meshName : m.meshName = n.meshName
  objectName : m.objectName = n.objectName
  collectionName : m.collectionName = n.collectionName
  cells : m.vertices.map Vertex.cell = n.vertices.map Vertex.cell
  faces : m.faces = n.faces
  build : m.build = n.build
  faceFrames : m.faceFrames = n.faceFrames

/-- Whether two conversions report the same and come to the same end: one error, or two meshes of the
same layout. -/
structure Conversion.Matches (c d : Conversion) : Prop where
  log : c.log = d.log
  progress : c.progress = d.progress
  error : ∀ e, c.mesh = .error e ↔ d.mesh = .error e
  mesh : ∀ m, c.mesh = .ok m → ∃ n, d.mesh = .ok n ∧ m.SameLayout n

namespace Scan

section Converted

variable {s : Scan} {settings : Settings} {mesh : Mesh} (h : (s.convert settings).mesh = .ok mesh)
include h

theorem map_sample_mesh : mesh.vertices.map Vertex.sample = s.kept := by
  rw [(mesh_of_convert h).2]
  exact settings.map_sample_vertices s.grid s.kept

theorem getElem?_vertices (i : Nat) :
    mesh.vertices[i]? = s.kept[i]?.map (settings.vertex s.grid i) := by
  rw [(mesh_of_convert h).2]
  exact List.getElem?_mapIdx

theorem names_of_mesh : mesh.meshName = "ScannedMesh" ∧
    mesh.objectName = settings.objectName.getD "new_object" ∧
    mesh.collectionName = "new_collection" := by
  rw [(mesh_of_convert h).2]
  exact ⟨rfl, rfl, rfl⟩

end Converted

section Alike

/- Two scans that differ at most in the values of their samples. -/
variable {s t : Scan} {a b : Settings} (hs : s.header = t.header)
  (hl : s.samples.length = t.samples.length) (hab : a.SameChoices b)
include hs hl

theorem completeLines_eq : s.completeLines = t.completeLines := by
  rw [completeLines, completeLines, expected, expected, grid, grid, hs, hl]

include hab

theorem mesh_eq_error_iff_mesh_eq_error (e : ConversionError) :
    (s.convert a).mesh = .error e ↔ (t.convert b).mesh = .error e := by
  rw [mesh_eq_error_iff, mesh_eq_error_iff, expected, expected, hs, hl, hab.allowPartial]

section Meshes

variable {m n : Mesh} (hm : (s.convert a).mesh = .ok m) (hn : (t.convert b).mesh = .ok n)
include hm hn

theorem sameLayout_of_mesh : m.SameLayout n := by
  have hc := completeLines_eq hs hl
  have hg : s.grid = t.grid := by
    rw [grid, grid, hs]
  have hv : m.vertices.length = n.vertices.length := by
    rw [length_vertices hm, length_vertices hn, expected, expected, hs, hl]
  have hk : s.kept.length = t.kept.length := by
    rw [length_kept, length_kept, expected, expected, hs, hl]
  have hf : m.faces = n.faces := by
    rw [faces_of_mesh hm, faces_of_mesh hn, hg, hc, hab.winding]
  have hb : m.build = n.build := by
    rw [build_of_mesh hm, build_of_mesh hn, hv, hab.build]
  obtain ⟨hmesh, hobject, hcollection⟩ := names_of_mesh hm
  obtain ⟨hmesh', hobject', hcollection'⟩ := names_of_mesh hn
  refine ⟨hmesh.trans hmesh'.symm, ?_, hcollection.trans hcollection'.symm, ?_, hf, hb, ?_⟩
  · rw [hobject, hobject', hab.objectName]
  · rw [map_cell_mesh hm, map_cell_mesh hn, hg, hk]
  · rw [m.faceFrames_eq, n.faceFrames_eq, hb, hf]

theorem report_eq_of_mesh :
    (s.convert a).log = (t.convert b).log ∧ (s.convert a).progress = (t.convert b).progress := by
  have hlayout := sameLayout_of_mesh hs hl hab hm hn
  have hg : s.grid = t.grid := by
    rw [grid, grid, hs]
  have hv : m.vertices.length = n.vertices.length := by
    simpa using congrArg List.length hlayout.cells
  have hflip : a.flipEvents s.completeLines = b.flipEvents t.completeLines := by
    rw [Settings.flipEvents, Settings.flipEvents, hab.winding, completeLines_eq hs hl]
  constructor
  · rw [log_of_mesh hm, log_of_mesh hn, hflip, hg, hs, hl, hv, hlayout.faces]
  · rw [(accounted_of_mesh hm).progress, (accounted_of_mesh hn).progress, expected, expected, hs, hl]

end Meshes

/-- Outcome, report and layout depend on how many samples there are, and not on what they are. -/
theorem matches_of_alike : (s.convert a).Matches (t.convert b) := by
  have herror := mesh_eq_error_iff_mesh_eq_error hs hl hab
  cases hm : (s.convert a).mesh with
  | error e =>
    have hn := (herror e).mp hm
    rw [convert_of_error hm, convert_of_error hn]
    exact ⟨rfl, rfl, fun _ => Iff.rfl, nofun⟩
  | ok m =>
    cases hn : (t.convert b).mesh with
    | error e =>
      rw [(herror e).mpr hn] at hm
      cases hm
    | ok n =>
      obtain ⟨hlog, hprogress⟩ := report_eq_of_mesh hs hl hab hm hn
      refine ⟨hlog, hprogress, herror, ?_⟩
      intro m' hm'
      rw [hm] at hm'
      cases hm'
      exact ⟨n, hn, sameLayout_of_mesh hs hl hab hm hn⟩

end Alike

/-- A sample has a say in the vertex of its own index and in nothing else, and what places samples in
space has no say in the layout. -/
theorem samples_independent :
    (∀ (header : Header) (settings : Settings) (samples samples' : List UInt32),
      samples.length = samples'.length →
      ((Scan.mk header samples).convert settings).Matches
          ((Scan.mk header samples').convert settings) ∧
        ∀ m n, ((Scan.mk header samples).convert settings).mesh = .ok m →
          ((Scan.mk header samples').convert settings).mesh = .ok n →
          ∀ i : Nat, samples[i]? = samples'[i]? → m.vertices[i]? = n.vertices[i]?) ∧
    ∀ (s : Scan) (settings settings' : Settings), settings.SameChoices settings' →
      (s.convert settings).Matches (s.convert settings') ∧
        ∀ m n, (s.convert settings).mesh = .ok m → (s.convert settings').mesh = .ok n →
          m.vertices.map Vertex.sample = n.vertices.map Vertex.sample := by
  constructor
  · intro header settings samples samples' hl
    refine ⟨matches_of_alike rfl hl ⟨rfl, rfl, rfl, rfl⟩, ?_⟩
    intro m n hm hn i hi
    have hg : (Scan.mk header samples).grid = (Scan.mk header samples').grid := rfl
    rw [getElem?_vertices hm, getElem?_vertices hn, kept, kept, hg, List.getElem?_take,
      List.getElem?_take, hi]
  · intro s settings settings' hab
    refine ⟨matches_of_alike rfl rfl hab, ?_⟩
    intro m n hm hn
    rw [map_sample_mesh hm, map_sample_mesh hn]

theorem samples_independent_last : ∃ m n,
    ((Scan.mk { lineCount := 2, pointCount := 2 } [7, 8, 9, 10]).convert
      { build := true }).mesh = .ok m ∧
    ((Scan.mk { lineCount := 2, pointCount := 2 } [7, 8, 9, 11]).convert
      { build := true }).mesh = .ok n ∧
    m.faces = n.faces ∧ m.faceFrames = n.faceFrames ∧
    (∀ i < 3, m.vertices[i]? = n.vertices[i]?) ∧ m.vertices[3]? ≠ n.vertices[3]? := by
  obtain ⟨hmatches, hvertices⟩ := samples_independent.1 { lineCount := 2, pointCount := 2 }
    { build := true } [7, 8, 9, 10] [7, 8, 9, 11] rfl
  obtain ⟨n, hn, hlayout⟩ := hmatches.mesh _ rfl
  refine ⟨_, n, rfl, hn, hlayout.faces, hlayout.faceFrames, ?_, ?_⟩
  · intro i hi
    apply hvertices _ n rfl hn
    match i, hi with
    | 0, _ | 1, _ | 2, _ => rfl
  · intro h
    have hs := congrArg (Option.map Vertex.sample) h
    rw [← List.getElem?_map, ← List.getElem?_map, map_sample_mesh hn] at hs
    cases hs

end Scan

end RotaryScan
