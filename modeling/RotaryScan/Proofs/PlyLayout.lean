import Mathlib
import RotaryScan.Format.Output
import RotaryScan.Proofs.Records
import RotaryScan.Proofs.Reveal

namespace RotaryScan.Format.Ply

def buildComments (b : BuildOrder) : List String :=
  ["build_frame_start " ++ b.frameStart.toNat.repr,
    "build_frame_duration " ++ b.frameDuration.toNat.repr]

def comments (m : Mesh) : List String :=
  ["mesh " ++ m.meshName, "object " ++ m.objectName, "collection " ++ m.collectionName] ++
    m.build.toList.flatMap buildComments

def vertexProperties : List String :=
  ["double x", "double y", "double z", "uchar line", "uchar point", "uint sample"]

def faceProperties (m : Mesh) : List String :=
  "list uchar uint vertex_indices" :: if m.build.isSome then ["uint frame"] else []

def declarations (m : Mesh) : List String :=
  ["ply", "format ascii 1.0"] ++ (comments m).map ("comment" ++ " " ++ ·) ++
    ["vertex " ++ m.vertexCount.repr].map ("element" ++ " " ++ ·) ++
      vertexProperties.map ("property" ++ " " ++ ·) ++
        ["face " ++ m.faceCount.repr].map ("element" ++ " " ++ ·) ++
          (faceProperties m).map ("property" ++ " " ++ ·)

def body (m : Mesh) : List String := m.vertices.map vertexLine ++ faceLines m

def vertexTokens (v : Vertex) : List String :=
  coordinates v.toPosition ++ [v.line.toNat.repr, v.point.toNat.repr, v.sample.toNat.repr]

def faceTokens (face : Quad UInt32) (frame : Option UInt32) : List String :=
  "4" :: (face.corners ++ frame.toList).map fun number => number.toNat.repr

theorem header_eq (m : Mesh) : header m = declarations m ++ ["end_header"] := by
  cases hb : m.build with
  | none =>
    simp [header, declarations, buildLines, comments, vertexProperties, faceProperties, hb,
      ← String.append_assoc]
  | some b =>
    simp [header, declarations, buildLines, comments, buildComments, vertexProperties,
      faceProperties, hb, ← String.append_assoc]

theorem lines_eq (m : Mesh) : lines m = declarations m ++ "end_header" :: body m := by
  rw [lines, header_eq, body]
  simp

theorem records_declarations {word : String} (m : Mesh) (hp : "ply" ≠ word) (hf : "format" ≠ word) :
    records word (declarations m) = (if "comment" = word then comments m else []) ++
      (if "element" = word then ["vertex " ++ m.vertexCount.repr] else []) ++
        (if "property" = word then vertexProperties else []) ++
          (if "element" = word then ["face " ++ m.faceCount.repr] else []) ++
            (if "property" = word then faceProperties m else []) := by
  have hk : keyword "ply" = "ply" ∧ keyword "format ascii 1.0" = "format" := by decide
  have hfirst : records word ["ply", "format ascii 1.0"] = [] := by
    simp [records, hk, hp, hf]
  simp only [declarations, records_append, hfirst, List.nil_append]
  rw [records_map word (by decide), records_map word (by decide), records_map word (by decide),
    records_map word (by decide), records_map word (by decide)]

theorem end_header_not_mem_declarations (m : Mesh) : "end_header" ∉ declarations m := by
  intro h
  have hk : keyword "end_header" = "end_header" := by decide
  have hr := rest_mem_records hk h
  simp [records_declarations] at hr

theorem frame_mem_declarations (m : Mesh) :
    "property uint frame" ∈ declarations m ↔ m.build.isSome := by
  constructor
  · intro h
    have hk : keyword "property uint frame" = "property" := by decide
    have hr : rest "property uint frame" = "uint frame" := by decide
    have hm := rest_mem_records hk h
    rw [hr] at hm
    simpa [records_declarations, vertexProperties, faceProperties] using hm
  · intro h
    simp [declarations, faceProperties, h]

theorem newline_not_mem_comments {m : Mesh} (hm : m.NamesOnOneLine) :
    ∀ comment ∈ comments m, '\n' ∉ comment.toList := by
  simp only [Mesh.NamesOnOneLine, List.forall_mem_cons] at hm
  obtain ⟨hmesh, hobject, hcollection, -⟩ := hm
  cases hb : m.build with
  | none => simp [comments, hb, hmesh, hobject, hcollection]
  | some b => simp [comments, buildComments, hb, hmesh, hobject, hcollection]

theorem newline_not_mem_declarations {m : Mesh} (hm : m.NamesOnOneLine) :
    ∀ line ∈ declarations m, '\n' ∉ line.toList := by
  simp only [declarations, List.forall_mem_append]
  refine ⟨⟨⟨⟨⟨?_, newline_not_mem_map (by simp) (newline_not_mem_comments hm)⟩,
    newline_not_mem_map (by simp) ?_⟩, newline_not_mem_map (by simp) ?_⟩,
    newline_not_mem_map (by simp) ?_⟩, newline_not_mem_map (by simp) ?_⟩
  · simp
  · simp
  · simp [vertexProperties]
  · simp
  · cases hb : m.build <;> simp [faceProperties, hb]

theorem faceLines_eq (m : Mesh) : faceLines m =
    m.faces.mapIdx fun i face => faceLine face (m.build.map (·.faceFrame i m.faceCount)) := by
  rw [faceLines, m.faceFrames_eq]
  cases m.build with
  | none => apply List.ext_getElem <;> simp
  | some b => apply List.ext_getElem <;> simp [BuildOrder.frames, Mesh.faceCount]

theorem isToken_of_mem_vertexTokens {v : Vertex} {t : String} (h : t ∈ vertexTokens v) : IsToken t := by
  rw [vertexTokens, List.mem_append] at h
  obtain h | h := h
  · exact isToken_of_mem_coordinates h
  · simp only [List.mem_cons, List.not_mem_nil, or_false] at h
    obtain rfl | rfl | rfl := h <;> exact isToken_repr _

theorem isToken_of_mem_faceTokens {face : Quad UInt32} {frame : Option UInt32} {t : String}
    (h : t ∈ faceTokens face frame) : IsToken t := by
  obtain rfl | h := List.mem_cons.mp h
  · decide
  · obtain ⟨number, -, rfl⟩ := List.mem_map.mp h
    exact isToken_repr _

theorem cut_vertexLine (v : Vertex) : cut ' ' (vertexLine v) = vertexTokens v :=
  cut_record (fun _ => isToken_of_mem_vertexTokens) (List.cons_ne_nil _ _)

theorem cut_faceLine (face : Quad UInt32) (frame : Option UInt32) :
    cut ' ' (faceLine face frame) = faceTokens face frame :=
  cut_record (fun _ => isToken_of_mem_faceTokens) (List.cons_ne_nil _ _)

def HasTokens (count : Nat) (line : String) : Prop :=
  (cut ' ' line).length = count ∧ ∀ t ∈ cut ' ' line, IsToken t

theorem hasTokens_vertexLine (v : Vertex) : HasTokens 6 (vertexLine v) := by
  rw [HasTokens, cut_vertexLine]
  exact ⟨rfl, fun _ => isToken_of_mem_vertexTokens⟩

theorem hasTokens_faceLine (face : Quad UInt32) (frame : Option UInt32) :
    HasTokens (if frame.isSome then 6 else 5) (faceLine face frame) := by
  rw [HasTokens, cut_faceLine]
  refine ⟨?_, fun _ => isToken_of_mem_faceTokens⟩
  cases frame <;> rfl

theorem hasTokens_of_mem_faceLines {m : Mesh} {line : String} (h : line ∈ faceLines m) :
    HasTokens (if m.build.isSome then 6 else 5) line := by
  rw [faceLines_eq, List.mem_mapIdx] at h
  obtain ⟨i, hi, rfl⟩ := h
  simpa using hasTokens_faceLine m.faces[i] (m.build.map (·.faceFrame i m.faceCount))

theorem newline_not_mem_of_hasTokens {count : Nat} {line : String} (h : HasTokens count line) :
    '\n' ∉ line.toList := by
  rw [← record_cut line]
  exact newline_not_mem_record h.2

theorem ne_end_header_of_hasTokens {count : Nat} {line : String} (h : HasTokens count line)
    (hc : 1 < count) : line ≠ "end_header" := by
  rintro rfl
  have hl : (cut ' ' "end_header").length = 1 := by decide
  rw [← h.1, hl] at hc
  exact Nat.lt_irrefl _ hc

theorem exists_hasTokens_of_mem_body {m : Mesh} {line : String} (h : line ∈ body m) :
    ∃ count, 1 < count ∧ HasTokens count line := by
  rw [body, List.mem_append] at h
  obtain h | h := h
  · obtain ⟨v, -, rfl⟩ := List.mem_map.mp h
    exact ⟨6, by decide, hasTokens_vertexLine v⟩
  · refine ⟨_, ?_, hasTokens_of_mem_faceLines h⟩
    split <;> decide

theorem end_header_not_mem_body (m : Mesh) : "end_header" ∉ body m := by
  intro h
  obtain ⟨count, hc, ht⟩ := exists_hasTokens_of_mem_body h
  exact ne_end_header_of_hasTokens ht hc rfl

theorem newline_not_mem_lines {m : Mesh} (hm : m.NamesOnOneLine) :
    ∀ line ∈ lines m, '\n' ∉ line.toList := by
  simp only [lines_eq, List.forall_mem_append, List.forall_mem_cons]
  refine ⟨newline_not_mem_declarations hm, by simp, ?_⟩
  intro line h
  obtain ⟨count, -, ht⟩ := exists_hasTokens_of_mem_body h
  exact newline_not_mem_of_hasTokens ht

/-- The line that ends the header stands only there, so that texts agree part by part. -/
theorem lines_inj {m m' : Mesh} :
    lines m = lines m' ↔ declarations m = declarations m' ∧ body m = body m' := by
  rw [lines_eq, lines_eq, List.append_cons_inj_of_notMem (end_header_not_mem_declarations m)
    (end_header_not_mem_body m)]
  simp

theorem buildComments_injective : Function.Injective buildComments := by
  intro b b' h
  have he : b.frameStart = b'.frameStart ∧ b.frameDuration = b'.frameDuration := by
    simpa [buildComments, UInt32.toNat_inj] using h
  cases b
  cases b'
  exact congr (congrArg _ he.1) he.2

theorem names_and_build_of_comments {m m' : Mesh} (h : comments m = comments m') :
    (m.meshName = m'.meshName ∧ m.objectName = m'.objectName ∧
      m.collectionName = m'.collectionName) ∧ m.build = m'.build := by
  obtain ⟨hnames, hbuild⟩ := List.append_inj h rfl
  constructor
  · simpa using hnames
  · exact eq_of_flatMap_toList (fun _ => List.cons_ne_nil _ _) buildComments_injective hbuild

theorem vertex_of_vertexTokens {v v' : Vertex} (h : vertexTokens v = vertexTokens v') :
    coordinates v.toPosition = coordinates v'.toPosition ∧ v.line = v'.line ∧ v.point = v'.point ∧
      v.sample = v'.sample := by
  obtain ⟨hc, hr⟩ := List.append_inj h (by simp [coordinates])
  simpa [Nat.repr_inj, UInt8.toNat_inj, UInt32.toNat_inj] using And.intro hc hr

theorem face_of_faceTokens {face face' : Quad UInt32} {frame frame' : Option UInt32}
    (h : faceTokens face frame = faceTokens face' frame') : face = face' := by
  have hg : Function.Injective fun number : UInt32 => number.toNat.repr := by
    intro number number' he
    exact UInt32.toNat_inj.mp (Nat.repr_inj.mp he)
  have hc := (List.cons.inj h).2
  rw [List.map_append, List.map_append] at hc
  exact Quad.eq_of_map_corners hg (List.append_inj hc rfl).1

theorem vertices_of_vertexLines {vs vs' : List Vertex} (h : vs.map vertexLine = vs'.map vertexLine) :
    vs.map (fun v => (coordinates v.toPosition, v.line, v.point, v.sample)) =
      vs'.map fun v => (coordinates v.toPosition, v.line, v.point, v.sample) := by
  rw [← List.forall₂_eq_eq_eq, List.forall₂_map_left_iff, List.forall₂_map_right_iff] at h ⊢
  apply h.imp
  intro v v' he
  have ht := congrArg (cut ' ') he
  rw [cut_vertexLine, cut_vertexLine] at ht
  obtain ⟨hc, hl, hp, hs⟩ := vertex_of_vertexTokens ht
  rw [hc, hl, hp, hs]

theorem faces_of_faceLines {m m' : Mesh} (h : faceLines m = faceLines m') : m.faces = m'.faces := by
  apply List.ext_getElem?
  intro i
  have hi := congrArg (·[i]?) h
  simp only [faceLines_eq, List.getElem?_mapIdx] at hi
  cases hf : m.faces[i]? with
  | none =>
    rw [hf, Option.map_none] at hi
    exact (Option.map_eq_none_iff.mp hi.symm).symm
  | some face =>
    rw [hf, Option.map_some] at hi
    obtain ⟨face', hf', he⟩ := Option.map_eq_some_iff.mp hi.symm
    have ht := congrArg (cut ' ') he
    rw [cut_faceLine, cut_faceLine] at ht
    rw [hf', face_of_faceTokens ht]

/-- What the header of a text has to say about the lines behind it. -/
structure Describes (m : Mesh) (header vertexLines faceLines : List String) : Prop where
  counts : records "element" header =
    ["vertex " ++ vertexLines.length.repr, "face " ++ faceLines.length.repr]
  vertexCount : vertexLines.length = m.vertices.length
  faceCount : faceLines.length = m.faces.length
  frame : "property uint frame" ∈ header ↔ m.build.isSome
  vertex : ∀ line ∈ vertexLines, HasTokens 6 line
  face : ∀ line ∈ faceLines, HasTokens (if "property uint frame" ∈ header then 6 else 5) line
  faceTokens : ∀ i line, faceLines[i]? = some line →
    ∃ face : Quad UInt32, m.faces[i]? = some face ∧
      cut ' ' line = "4" :: face.corners.map (·.toNat.repr) ++
        m.build.toList.map fun b => (b.faceFrame i m.faces.length).toNat.repr

theorem describes_declarations (m : Mesh) :
    Describes m (declarations m) (m.vertices.map vertexLine) (faceLines m) := by
  have hf : (faceLines m).length = m.faces.length := by simp [faceLines_eq]
  refine ⟨?_, by simp, hf, frame_mem_declarations m, ?_, ?_, ?_⟩
  · simp [records_declarations, hf, Mesh.vertexCount, Mesh.faceCount]
  · rw [List.forall_mem_map]
    exact fun v _ => hasTokens_vertexLine v
  · intro line h
    simpa [frame_mem_declarations] using hasTokens_of_mem_faceLines h
  · intro i line h
    rw [faceLines_eq, List.getElem?_mapIdx, Option.map_eq_some_iff] at h
    obtain ⟨face, hface, rfl⟩ := h
    refine ⟨face, hface, ?_⟩
    rw [cut_faceLine, faceTokens]
    cases m.build <;> simp [Mesh.faceCount]

/-- The text of a mesh tells where its parts end and what their lines are, whatever its names look like,
and tells everything about the mesh but for the radii of its samples. -/
theorem text_describes_mesh (m : Mesh) (hm : m.NamesOnOneLine) :
    (∃ header vertexLines faceLines,
      cut '\n' (StreamFormat.ply.render m) =
        header ++ ["end_header"] ++ vertexLines ++ faceLines ++ [""] ∧
      (cut '\n' (StreamFormat.ply.render m)).count "end_header" = 1 ∧
      Describes m header vertexLines faceLines) ∧
    ∀ m' : Mesh, m'.NamesOnOneLine → StreamFormat.ply.render m = StreamFormat.ply.render m' →
      (m.meshName = m'.meshName ∧ m.objectName = m'.objectName ∧
        m.collectionName = m'.collectionName) ∧
      m.build = m'.build ∧ m.faces = m'.faces ∧
      m.vertices.map (fun v => (coordinates v.toPosition, v.line, v.point, v.sample)) =
        m'.vertices.map fun v => (coordinates v.toPosition, v.line, v.point, v.sample) := by
  constructor
  · have hl : cut '\n' (StreamFormat.ply.render m) = lines m ++ [""] :=
      cut_unlines (newline_not_mem_lines hm)
    refine ⟨declarations m, m.vertices.map vertexLine, faceLines m, ?_, ?_, describes_declarations m⟩
    · rw [hl, lines_eq, body]
      simp
    · rw [hl, lines_eq, List.count_append, List.count_append, List.count_cons_self,
        List.count_eq_zero_of_not_mem (end_header_not_mem_declarations m),
        List.count_eq_zero_of_not_mem (end_header_not_mem_body m)]
      rfl
  · intro m' hm' he
    have hl : lines m = lines m' :=
      unlines_inj (newline_not_mem_lines hm) (newline_not_mem_lines hm') he
    obtain ⟨hd, hb⟩ := lines_inj.mp hl
    have hr (word : String) : records word (declarations m) = records word (declarations m') := by
      rw [hd]
    have hcomments : comments m = comments m' := by simpa [records_declarations] using hr "comment"
    have hcount : m.vertexCount = m'.vertexCount := by
      have h := congrArg List.head? (hr "element")
      simpa [records_declarations] using h
    obtain ⟨hnames, hbuild⟩ := names_and_build_of_comments hcomments
    -- A face with its frame has as many tokens as a vertex; only the count keeps them apart.
    obtain ⟨hvertices, hfaces⟩ := List.append_inj hb (by simpa [Mesh.vertexCount] using hcount)
    exact ⟨hnames, hbuild, faces_of_faceLines hfaces, vertices_of_vertexLines hvertices⟩

/-- Two meshes with one text, in which names look like lines of the header. -/
theorem text_describes_disguised : ∃ m m' : Mesh,
    (m.meshName = "element vertex 7" ∧ m.objectName = "end_header" ∧ m.NamesOnOneLine ∧
      m'.NamesOnOneLine) ∧
    m.vertices.map Vertex.radius = [1] ∧ m'.vertices.map Vertex.radius = [2] ∧
    StreamFormat.ply.render m = StreamFormat.ply.render m' ∧
    (cut '\n' (StreamFormat.ply.render m)).count "end_header" = 1 ∧
    m.build = m'.build ∧ m.faces = m'.faces := by
  let mesh (radius : Float) : Mesh :=
    { meshName := "element vertex 7", objectName := "end_header", build := some ⟨3, 10⟩
      faces := [⟨0, 0, 0, 0⟩]
      vertices := [{ x := 0, y := 1, z := 0, line := 0, point := 0, sample := 1, radius }] }
  have hn (radius : Float) : (mesh radius).NamesOnOneLine := by
    simp [mesh, Mesh.NamesOnOneLine]
  have hr (radius radius' : Float) :
      StreamFormat.ply.render (mesh radius) = StreamFormat.ply.render (mesh radius') := rfl
  obtain ⟨⟨-, -, -, -, hcount, -⟩, hsame⟩ := text_describes_mesh (mesh 1) (hn 1)
  obtain ⟨-, hbuild, hfaces, -⟩ := hsame (mesh 2) (hn 2) (hr 1 2)
  exact ⟨mesh 1, mesh 2, ⟨rfl, rfl, hn 1, hn 2⟩, rfl, rfl, hr 1 2, hcount, hbuild, hfaces⟩

end RotaryScan.Format.Ply
