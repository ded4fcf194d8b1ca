import Mathlib
import RotaryScan.Format.Output
import RotaryScan.Proofs.Records

namespace RotaryScan.Format.Obj

def buildTokens (b : BuildOrder) : List String :=
  ["build", "frame_start", b.frameStart.toNat.repr, "frame_duration", b.frameDuration.toNat.repr]

def buildRecord (b : BuildOrder) : String := record (buildTokens b)

def comments (m : Mesh) : List String :=
  ("mesh " ++ m.meshName) :: m.build.toList.map buildRecord

def vertexRecord (v : Vertex) : String := record (coordinates v.toPosition)

def numbers (face : Quad UInt32) : List String :=
  (face.map fun index => (index + 1).toNat.repr).corners

def faceRecord (face : Quad UInt32) : String := record (numbers face)

theorem isToken_of_mem_buildTokens (b : BuildOrder) : ∀ t ∈ buildTokens b, IsToken t := by
  simp only [buildTokens, List.forall_mem_cons]
  exact ⟨by decide, by decide, isToken_repr _, by decide, isToken_repr _, by simp⟩

theorem coordinates_ne_nil (p : Position) : coordinates p ≠ [] := List.cons_ne_nil _ _

theorem numbers_ne_nil (face : Quad UInt32) : numbers face ≠ [] := List.cons_ne_nil _ _

theorem isToken_of_mem_numbers {face : Quad UInt32} {s : String} (h : s ∈ numbers face) :
    IsToken s := by
  simp only [numbers, Quad.corners, Quad.map, List.mem_cons, List.not_mem_nil, or_false] at h
  obtain rfl | rfl | rfl | rfl := h <;> exact isToken_repr _

theorem toNat_add_one {i : UInt32} (h : i.toNat + 1 < UInt32.size) : (i + 1).toNat = i.toNat + 1 := by
  rw [UInt32.toNat_add]
  exact Nat.mod_eq_of_lt h

theorem cut_buildRecord (b : BuildOrder) : cut ' ' (buildRecord b) = buildTokens b :=
  cut_record (isToken_of_mem_buildTokens b) (List.cons_ne_nil _ _)

theorem cut_vertexRecord (v : Vertex) : cut ' ' (vertexRecord v) = coordinates v.toPosition :=
  cut_record (fun _ => isToken_of_mem_coordinates) (coordinates_ne_nil _)

theorem cut_faceRecord (face : Quad UInt32) : cut ' ' (faceRecord face) = numbers face :=
  cut_record (fun _ => isToken_of_mem_numbers) (numbers_ne_nil face)

theorem lines_eq (m : Mesh) : lines m =
    (comments m).map ("#" ++ " " ++ ·) ++ [m.collectionName].map ("g" ++ " " ++ ·) ++
      [m.objectName].map ("o" ++ " " ++ ·) ++ (m.vertices.map vertexRecord).map ("v" ++ " " ++ ·) ++
        (m.faces.map faceRecord).map ("f" ++ " " ++ ·) := by
  have hb : (fun b : BuildOrder => record ["#", "build", "frame_start", b.frameStart.toNat.repr,
      "frame_duration", b.frameDuration.toNat.repr]) = fun b => "#" ++ " " ++ buildRecord b := by
    funext b
    exact record_cons "#" (List.cons_ne_nil _ _)
  have hv : vertexLine = fun v => "v" ++ " " ++ vertexRecord v := by
    funext v
    exact record_cons "v" (coordinates_ne_nil _)
  have hf : faceLine = fun face => "f" ++ " " ++ faceRecord face := by
    funext face
    exact record_cons "f" (numbers_ne_nil face)
  have hm : "# mesh " ++ m.meshName = "#" ++ " " ++ ("mesh " ++ m.meshName) := by
    rw [← String.append_assoc]
    rfl
  simp only [lines, buildLines, comments, hb, hv, hf, hm, List.map_map, Function.comp_def]
  simp

theorem records_lines (word : String) (m : Mesh) : records word (lines m) =
    (if "#" = word then comments m else []) ++ (if "g" = word then [m.collectionName] else []) ++
      (if "o" = word then [m.objectName] else []) ++
        (if "v" = word then m.vertices.map vertexRecord else []) ++
          (if "f" = word then m.faces.map faceRecord else []) := by
  simp only [lines_eq, records_append]
  rw [records_map word (by decide), records_map word (by decide), records_map word (by decide),
    records_map word (by decide), records_map word (by decide)]

theorem newline_not_mem_lines {m : Mesh} (hm : m.NamesOnOneLine) :
    ∀ line ∈ lines m, '\n' ∉ line.toList := by
  simp only [Mesh.NamesOnOneLine, List.forall_mem_cons] at hm
  obtain ⟨hmesh, hobject, hcollection, -⟩ := hm
  simp only [lines_eq, List.forall_mem_append]
  refine ⟨⟨⟨⟨newline_not_mem_map (by decide) ?_, newline_not_mem_map (by decide) ?_⟩,
    newline_not_mem_map (by decide) ?_⟩, newline_not_mem_map (by decide) ?_⟩,
    newline_not_mem_map (by decide) ?_⟩
  · rw [comments, List.forall_mem_cons, List.forall_mem_map]
    exact ⟨by simp [hmesh], fun b _ => newline_not_mem_record (isToken_of_mem_buildTokens b)⟩
  · simpa using hcollection
  · simpa using hobject
  · rw [List.forall_mem_map]
    intro v _
    exact newline_not_mem_record fun _ => isToken_of_mem_coordinates
  · rw [List.forall_mem_map]
    intro face _
    exact newline_not_mem_record fun _ => isToken_of_mem_numbers

theorem buildRecord_injective : Function.Injective buildRecord := by
  intro b b' h
  have he := congrArg (cut ' ') h
  simp only [cut_buildRecord, buildTokens, List.cons.injEq, Nat.repr_inj, UInt32.toNat_inj] at he
  obtain ⟨-, -, hstart, -, hduration, -⟩ := he
  cases b
  cases b'
  exact congr (congrArg _ hstart) hduration

theorem faceRecord_injective : Function.Injective faceRecord := by
  have hg : Function.Injective fun i : UInt32 => (i + 1).toNat.repr := by
    intro i i' h
    exact (UInt32.add_left_inj 1).mp (UInt32.toNat_inj.mp (Nat.repr_inj.mp h))
  intro face face' h
  have he := congrArg (cut ' ') h
  rw [cut_faceRecord, cut_faceRecord] at he
  exact Quad.eq_of_map_corners hg he

theorem build_eq_of_map_eq {b b' : Option BuildOrder}
    (h : b.toList.map buildRecord = b'.toList.map buildRecord) : b = b' := by
  rw [List.map_eq_flatMap, List.map_eq_flatMap] at h
  apply eq_of_flatMap_toList (fun _ => List.cons_ne_nil _ _) _ h
  intro b b' he
  exact buildRecord_injective (List.cons.inj he).1

/-- The text of a mesh tells everything about it but for the places of the vertices on the grid and
their samples. -/
theorem mesh_of_render (m m' : Mesh) (hm : m.NamesOnOneLine) (hm' : m'.NamesOnOneLine)
    (h : StreamFormat.obj.render m = StreamFormat.obj.render m') :
    (m.meshName = m'.meshName ∧ m.objectName = m'.objectName ∧
      m.collectionName = m'.collectionName) ∧
    m.build = m'.build ∧ m.faces = m'.faces ∧
    m.vertices.map (coordinates ·.toPosition) = m'.vertices.map (coordinates ·.toPosition) := by
  have hl : lines m = lines m' :=
    unlines_inj (newline_not_mem_lines hm) (newline_not_mem_lines hm') h
  have hr (word : String) : records word (lines m) = records word (lines m') := by rw [hl]
  have hcomments : comments m = comments m' := by simpa [records_lines] using hr "#"
  have hcollection : m.collectionName = m'.collectionName := by simpa [records_lines] using hr "g"
  have hobject : m.objectName = m'.objectName := by simpa [records_lines] using hr "o"
  have hvertices : m.vertices.map vertexRecord = m'.vertices.map vertexRecord := by
    simpa [records_lines] using hr "v"
  have hfaces : m.faces.map faceRecord = m'.faces.map faceRecord := by
    simpa [records_lines] using hr "f"
  obtain ⟨hmesh, hbuild⟩ := List.cons.inj hcomments
  refine ⟨⟨?_, hobject, hcollection⟩, build_eq_of_map_eq hbuild, ?_, ?_⟩
  · simpa using hmesh
  · exact List.map_injective_iff.mpr faceRecord_injective hfaces
  · simpa [Function.comp_def, cut_vertexRecord] using congrArg (List.map (cut ' ')) hvertices

/-- One text for two meshes whose vertices lie in different cells; the name looks like a vertex. -/
theorem mesh_of_render_same_text : ∃ m m' : Mesh,
    (m.objectName = "v 0 0 0" ∧ m.NamesOnOneLine ∧ m'.NamesOnOneLine) ∧
    m.vertices.map Vertex.line ≠ m'.vertices.map Vertex.line ∧
    StreamFormat.obj.render m = StreamFormat.obj.render m' ∧
    m.build = m'.build ∧ m.faces = m'.faces := by
  have h := mesh_of_render
    { objectName := "v 0 0 0", build := some ⟨1, 2⟩, faces := [⟨0, 0, 0, 0⟩]
      vertices := [{ x := 0, y := 1, z := 0, line := 0, point := 0, sample := 1, radius := 1 }] }
    { objectName := "v 0 0 0", build := some ⟨1, 2⟩, faces := [⟨0, 0, 0, 0⟩]
      vertices := [{ x := 0, y := 1, z := 0, line := 1, point := 0, sample := 1, radius := 1 }] }
    (by decide) (by decide) rfl
  refine ⟨_, _, ⟨rfl, ?_, ?_⟩, ?_, ?_, h.2.1, h.2.2.1⟩
  · decide
  · decide
  · decide
  · rfl

end RotaryScan.Format.Obj
