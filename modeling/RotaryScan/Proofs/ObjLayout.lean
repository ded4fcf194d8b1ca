import RotaryScan.Proofs.Arguments
import RotaryScan.Proofs.ObjRecords
import RotaryScan.Proofs.Reveal
import RotaryScan.Proofs.Saving

namespace RotaryScan

namespace Format.Obj

def IsBuildLine (line : String) : Prop :=
  ∃ start duration : Nat, cut ' ' line =
    ["#", "build", "frame_start", start.repr, "frame_duration", duration.repr]

def IsVertexLine (line : String) : Prop :=
  ∃ p : Position, (∀ t ∈ coordinates p, IsToken t) ∧ cut ' ' line = "v" :: coordinates p

def IsFaceLine (vertexCount : Nat) (line : String) : Prop :=
  ∃ a b c d : Nat, [a, b, c, d].Nodup ∧ (∀ n ∈ [a, b, c, d], 1 ≤ n ∧ n ≤ vertexCount) ∧
    cut ' ' line = ["f", a.repr, b.repr, c.repr, d.repr]

theorem cut_record_cons {word : String} {tokens : List String} (hw : IsToken word)
    (h : ∀ t ∈ tokens, IsToken t) : cut ' ' (record (word :: tokens)) = word :: tokens :=
  cut_record (List.forall_mem_cons.mpr ⟨hw, h⟩) (List.cons_ne_nil _ _)

theorem isBuildLine_of_mem {build : Option BuildOrder} {line : String} (h : line ∈ buildLines build) :
    IsBuildLine line := by
  obtain ⟨b, -, rfl⟩ := List.mem_map.mp h
  exact ⟨_, _, cut_record_cons (by decide) (isToken_of_mem_buildTokens b)⟩

theorem isVertexLine_vertexLine (v : Vertex) : IsVertexLine (vertexLine v) :=
  ⟨v.toPosition, fun _ => isToken_of_mem_coordinates,
    cut_record_cons (by decide) fun _ => isToken_of_mem_coordinates⟩

theorem isFaceLine_faceLine {face : Quad UInt32} {vertexCount : Nat}
    (hn : face.indices.corners.Nodup) (hi : ∀ i ∈ face.indices.corners, i < vertexCount)
    (hc : vertexCount < UInt32.size) : IsFaceLine vertexCount (faceLine face) := by
  have hs (i : UInt32) (hlt : i.toNat < vertexCount) : (i + 1).toNat = i.toNat + 1 :=
    toNat_add_one (by omega)
  have hl : cut ' ' (faceLine face) = "f" :: numbers face :=
    cut_record_cons (by decide) fun _ => isToken_of_mem_numbers
  obtain ⟨a, b, c, d⟩ := face
  simp only [Quad.indices, Quad.map, Quad.corners, List.forall_mem_cons] at hi hn
  obtain ⟨ha, hb, hc', hd, -⟩ := hi
  refine ⟨a.toNat + 1, b.toNat + 1, c.toNat + 1, d.toNat + 1, ?_, ?_, ?_⟩
  · simpa using hn
  · simp
    omega
  · rw [← hs a ha, ← hs b hb, ← hs c hc', ← hs d hd]
    exact hl

end Format.Obj

namespace CommandLine.ConvertOptions

open Format

/-- Whatever a command line says, each line of the text of its mesh is the record that stands there in
the format, and no name breaks out of its line. -/
theorem obj_lines_of_conversion (arguments : List String) (options : ConvertOptions) (s : Scan)
    (m : Mesh) (ha : parse arguments = .ok (.run options)) (hf : options.format = .stream .obj)
    (hm : (s.convert options.settings).mesh = .ok m) :
    ∃ found text name buildLines vertexLines faceLines,
      matchOptions specs arguments = .ok found ∧
      options.format.contents m = utf8 text ∧
      cut '\n' text = ["# mesh ScannedMesh"] ++ buildLines ++ ["g new_collection", "o " ++ name] ++
        vertexLines ++ faceLines ++ [""] ∧
      (name = (found.value? "name").getD "new_object" ∧ IsToken name) ∧
      (buildLines.length = (if found.has "build" then 1 else 0) ∧
        ∀ line ∈ buildLines, Obj.IsBuildLine line) ∧
      (vertexLines.length = min s.samples.length s.expected ∧
        ∀ line ∈ vertexLines, Obj.IsVertexLine line) ∧
      faceLines.length = (s.completeLines - 1) * (s.grid.points - 1) ∧
        ∀ line ∈ faceLines, Obj.IsFaceLine (min s.samples.length s.expected) line := by
  obtain ⟨found, hfound, hname, hbuild, htoken⟩ := name_of_parse ha
  have hmesh : m.meshName = "ScannedMesh" ∧ m.objectName = options.settings.objectName.getD "new_object" ∧
      m.collectionName = "new_collection" := by
    rw [(Scan.mesh_of_convert hm).2]
    exact ⟨rfl, rfl, rfl⟩
  obtain ⟨hmeshName, hobject, hcollection⟩ := hmesh
  rw [← hobject] at htoken
  have hnames : m.NamesOnOneLine := by
    simp only [Mesh.NamesOnOneLine, hmeshName, hcollection, List.forall_mem_cons]
    exact ⟨by decide, not_mem_of_isToken htoken rfl, by decide, by simp⟩
  refine ⟨found, StreamFormat.obj.render m, m.objectName, Obj.buildLines m.build,
    m.vertices.map Obj.vertexLine, m.faces.map Obj.faceLine, hfound, ?_, ?_, ⟨?_, htoken⟩, ⟨?_, ?_⟩,
    ⟨?_, ?_⟩, ?_, ?_⟩
  · rw [hf]
    rfl
  · have hl := cut_unlines (Obj.newline_not_mem_lines hnames)
    simp only [Obj.lines, hmeshName, hcollection] at hl
    simp only [StreamFormat.render, StreamFormat.lines, Obj.lines, hmeshName, hcollection]
    exact hl
  · rw [hobject, hname]
  · rw [← hbuild, ← Scan.isSome_build hm, Obj.buildLines, List.length_map]
    cases m.build <;> rfl
  · exact fun _ => Obj.isBuildLine_of_mem
  · rw [List.length_map, Scan.length_vertices hm]
  · rw [List.forall_mem_map]
    exact fun v _ => Obj.isVertexLine_vertexLine v
  · rw [List.length_map, Scan.length_faces_eq hm]
  · rw [List.forall_mem_map, ← Scan.length_vertices hm]
    intro face hface
    obtain ⟨hn, hi⟩ := Scan.corners_of_mesh hm hface
    exact Obj.isFaceLine_faceLine hn hi (Nat.lt_trans (Scan.length_vertices_lt hm) (by decide))

theorem obj_lines_of_named_scan : ∃ options m text,
    parse ["-pb", "-n", "room_2", "s.dat"] = .ok (.run options) ∧
    ((Scan.mk { lineCount := 3, pointCount := 2 } [1, 2, 3, 4, 5]).convert options.settings).mesh =
      .ok m ∧
    options.format.contents m = utf8 text ∧ "o room_2" ∈ cut '\n' text := by
  have hm : matchOptions specs ["-pb", "-n", "room_2", "s.dat"] =
      .ok ⟨[⟨"partial", none⟩, ⟨"build", none⟩, ⟨"name", some "room_2"⟩], ["s.dat"]⟩ := by
    decide +kernel
  have hp : parse ["-pb", "-n", "room_2", "s.dat"] = .ok (.run
      { input := "s.dat"
        settings := { allowPartial := true, build := true, objectName := some "room_2" } }) := by
    rw [parse, parseWith, hm]
    rfl
  obtain ⟨found, text, name, buildLines, vertexLines, faceLines, hfound, hc, hl, ⟨rfl, -⟩, -⟩ :=
    obj_lines_of_conversion _ _ ⟨{ lineCount := 3, pointCount := 2 }, [1, 2, 3, 4, 5]⟩ _ hp rfl rfl
  rw [hm] at hfound
  cases hfound
  refine ⟨_, _, text, hp, rfl, hc, ?_⟩
  rw [hl]
  simp [Matches.value?]

end CommandLine.ConvertOptions

end RotaryScan
