import RotaryScan.Proofs.CutOff
import RotaryScan.Proofs.ObjRecords
import RotaryScan.Proofs.Saving
import RotaryScan.Proofs.Squares

namespace RotaryScan

theorem getElem?_flatMap_of_split {α β : Type} (g : α → List β) (before after : List α) {a : α}
    {i : Nat} {b : β} (h : (g a)[i]? = some b) :
    ((before ++ a :: after).flatMap g)[(before.flatMap g).length + i]? = some b := by
  obtain ⟨hi, -⟩ := List.getElem?_eq_some_iff.mp h
  rw [List.flatMap_append, List.flatMap_cons, List.getElem?_append_right (Nat.le_add_right _ _),
    Nat.add_sub_cancel_left, List.getElem?_append_left hi, h]

namespace StreamFormat

variable (format : StreamFormat) (ms : List Mesh)

def written : List UInt8 :=
  (ms.foldl (fun sink m => (format.writeTo m sink).1) { room := none }).taken.toList

def text : String := Format.unlines (ms.flatMap format.lines)

theorem foldl_writeTo (taken : Array UInt8) :
    (ms.foldl (fun sink m => (format.writeTo m sink).1) ⟨none, taken⟩).taken.toList =
      taken.toList ++ Format.utf8 (format.text ms) := by
  induction ms generalizing taken with
  | nil => simp [text, Format.unlines, Format.utf8]
  | cons m ms ih =>
    have ht : format.text (m :: ms) = format.render m ++ format.text ms := by
      rw [text, List.flatMap_cons, Format.unlines_append]
      rfl
    rw [List.foldl_cons, writeTo, Sink.acceptAll_unlimited, ht, Format.utf8_append]
    simp [ih, format.flatten_pieces]

theorem written_eq : format.written ms = Format.utf8 (format.text ms) := by
  rw [written, foldl_writeTo]
  simp

end StreamFormat

namespace Format.Obj

/-- The vertex records of a text. A reader numbers them from 1. -/
def vertexRecords (text : String) : List String := records "v" (cut '\n' text)

/-- The face records of a text, each as the numbers of vertex records. -/
def faceRecords (text : String) : List (List (Option Nat)) :=
  (records "f" (cut '\n' text)).map fun r => (cut ' ' r).map String.toNat?

theorem map_toNat?_numbers {face : Quad UInt32} (h : ∀ i ∈ face.corners, i.toNat + 1 < UInt32.size) :
    (numbers face).map String.toNat? = face.corners.map fun i => some (i.toNat + 1) := by
  rw [numbers, Quad.corners_map, List.map_map]
  apply List.map_congr_left
  intro i hi
  rw [Function.comp_apply, Nat.toNat?_repr, toNat_add_one (h i hi)]

section Text

variable {ms : List Mesh} (hn : ∀ m ∈ ms, m.NamesOnOneLine)
include hn

theorem cut_text : cut '\n' (StreamFormat.obj.text ms) = ms.flatMap lines ++ [""] := by
  apply cut_unlines
  intro line hl
  obtain ⟨m, hm, hl⟩ := List.mem_flatMap.mp hl
  exact newline_not_mem_lines (hn m hm) line hl

theorem records_text {word : String} (hw : word ≠ "") :
    records word (cut '\n' (StreamFormat.obj.text ms)) = ms.flatMap fun m => records word (lines m) := by
  rw [cut_text hn, records_append, records_empty_line hw, List.append_nil, records_flatMap]

theorem vertexRecords_text : vertexRecords (StreamFormat.obj.text ms) =
    ms.flatMap fun m => m.vertices.map vertexRecord := by
  rw [vertexRecords, records_text hn (by decide)]
  simp [records_lines]

theorem faceRecords_eq : faceRecords (StreamFormat.obj.text ms) =
    ms.flatMap fun m => m.faces.map fun face => (numbers face).map String.toNat? := by
  have hr (m : Mesh) : records "f" (lines m) = m.faces.map faceRecord := by simp [records_lines]
  simp only [faceRecords, records_text hn (by decide : "f" ≠ ""), List.map_flatMap, hr, List.map_map]
  apply List.flatMap_congr
  intro m hm
  apply List.map_congr_left
  intro face hf
  rw [Function.comp_apply, cut_faceRecord]

theorem faceRecords_text (hi : ∀ m ∈ ms, ∀ face ∈ m.faces, ∀ i ∈ face.corners,
    i.toNat + 1 < UInt32.size) : faceRecords (StreamFormat.obj.text ms) =
      ms.flatMap fun m => m.faces.map fun face => face.corners.map fun i => some (i.toNat + 1) := by
  rw [faceRecords_eq hn]
  apply List.flatMap_congr
  intro m hm
  apply List.map_congr_left
  intro face hf
  exact map_toNat?_numbers (hi m hm face hf)

end Text

/-- The numbers that the vertices of a face have in a whole text, so many vertices into it. -/
def numbersFrom (start : Nat) (face : Quad UInt32) : List (Option Nat) :=
  face.corners.map fun i => some (start + i.toNat + 1)

/-- Whether the face records of a text of meshes name the vertices that the faces join in their own
meshes. -/
def KeepsFaces (ms : List Mesh) : Prop :=
  ∀ before m after, ms = before ++ m :: after → ∀ (j : Nat) (face : Quad UInt32),
    m.faces[j]? = some face →
      (faceRecords (StreamFormat.obj.text ms))[(faceRecords (StreamFormat.obj.text before)).length + j]? =
        some (numbersFrom (vertexRecords (StreamFormat.obj.text before)).length face)

theorem numbersFrom_eq_iff {start start' : Nat} {face : Quad UInt32} :
    numbersFrom start face = numbersFrom start' face ↔ start = start' := by
  constructor
  · intro h
    have hf := (List.cons.inj h).1
    rw [Option.some.injEq] at hf
    omega
  · rintro rfl
    rfl

section Written

variable {ms : List Mesh} (hn : ∀ m ∈ ms, m.NamesOnOneLine)
  (hi : ∀ m ∈ ms, ∀ face ∈ m.faces, ∀ i ∈ face.corners, i.toNat + 1 < UInt32.size)
  {before after : List Mesh} {m : Mesh} (hs : ms = before ++ m :: after)
include hn hs

theorem namesOnOneLine_before : ∀ m ∈ before, m.NamesOnOneLine := by
  subst hs
  intro m hm
  exact hn m (List.mem_append_left _ hm)

theorem vertexRecord_of_mesh {i : Nat} {v : Vertex} (hv : m.vertices[i]? = some v) :
    (vertexRecords (StreamFormat.obj.text ms))[
      (vertexRecords (StreamFormat.obj.text before)).length + i]? = some (vertexRecord v) := by
  rw [vertexRecords_text hn, vertexRecords_text (namesOnOneLine_before hn hs), hs]
  apply getElem?_flatMap_of_split
  rw [List.getElem?_map, hv, Option.map_some]

include hi

theorem faceRecord_of_mesh {j : Nat} {face : Quad UInt32} (hf : m.faces[j]? = some face) :
    (faceRecords (StreamFormat.obj.text ms))[
      (faceRecords (StreamFormat.obj.text before)).length + j]? = some (numbersFrom 0 face) := by
  have hib : ∀ m ∈ before, ∀ face ∈ m.faces, ∀ i ∈ face.corners, i.toNat + 1 < UInt32.size := by
    subst hs
    exact fun m hm => hi m (List.mem_append_left _ hm)
  rw [faceRecords_text hn hi, faceRecords_text (namesOnOneLine_before hn hs) hib, hs]
  apply getElem?_flatMap_of_split
  rw [List.getElem?_map, hf, Option.map_some]
  simp [numbersFrom]

end Written

theorem length_vertexRecords_eq_zero_iff {ms : List Mesh} (hn : ∀ m ∈ ms, m.NamesOnOneLine) :
    (vertexRecords (StreamFormat.obj.text ms)).length = 0 ↔ ∀ m ∈ ms, m.vertices = [] := by
  rw [vertexRecords_text hn, List.length_eq_zero_iff, List.flatMap_eq_nil_iff]
  simp only [List.map_eq_nil_iff]

section Several

variable (ms : List Mesh) (hn : ∀ m ∈ ms, m.NamesOnOneLine)
  (hi : ∀ m ∈ ms, ∀ face ∈ m.faces, ∀ i ∈ face.corners, i.toNat + 1 < UInt32.size)
include hn hi

theorem keepsFaces_iff : KeepsFaces ms ↔
    ∀ before m after, ms = before ++ m :: after → m.faces ≠ [] → ∀ b ∈ before, b.vertices = [] := by
  constructor
  · intro hk before m after hs hne
    obtain ⟨face, faces, hf⟩ := List.exists_cons_of_ne_nil hne
    have hj : m.faces[0]? = some face := by rw [hf, List.getElem?_cons_zero]
    have he := (hk before m after hs 0 face hj).symm.trans (faceRecord_of_mesh hn hi hs hj)
    rw [Option.some.injEq, numbersFrom_eq_iff] at he
    exact (length_vertexRecords_eq_zero_iff (namesOnOneLine_before hn hs)).mp he
  · intro h before m after hs j face hj
    have hne : m.faces ≠ [] := by
      intro hnil
      simp [hnil] at hj
    have hb := namesOnOneLine_before hn hs
    rw [(length_vertexRecords_eq_zero_iff hb).mpr (h before m after hs hne)]
    exact faceRecord_of_mesh hn hi hs hj

/-- A face names vertices as if none stood before those of its mesh. So meshes keep their faces in a
text of several exactly if no vertex stands before a mesh with faces. -/
theorem face_records_count_from_own_mesh :
    StreamFormat.obj.written ms = utf8 (StreamFormat.obj.text ms) ∧
    (∀ before m after, ms = before ++ m :: after →
      (∀ (i : Nat) (v : Vertex), m.vertices[i]? = some v →
        (vertexRecords (StreamFormat.obj.text ms))[
          (vertexRecords (StreamFormat.obj.text before)).length + i]? = some (vertexRecord v)) ∧
      ∀ (j : Nat) (face : Quad UInt32), m.faces[j]? = some face →
        (faceRecords (StreamFormat.obj.text ms))[
          (faceRecords (StreamFormat.obj.text before)).length + j]? = some (numbersFrom 0 face)) ∧
    (KeepsFaces ms ↔
      ∀ before m after, ms = before ++ m :: after → m.faces ≠ [] → ∀ b ∈ before, b.vertices = []) := by
  refine ⟨StreamFormat.obj.written_eq ms, ?_, keepsFaces_iff ms hn hi⟩
  intro before m after hs
  constructor
  · intro i v hv
    exact vertexRecord_of_mesh hn hs hv
  · intro j face hf
    exact faceRecord_of_mesh hn hi hs hf

end Several

/-- Two lines of two points at this height, and the face between them. -/
def tile (height : Float) : Mesh where
  vertices :=
    [{ x := 0, y := 1, z := height, line := 0, point := 0, sample := 100, radius := 1 },
      { x := 1, y := 1, z := height, line := 0, point := 1, sample := 100, radius := 1 },
      { x := 1, y := 2, z := height, line := 1, point := 1, sample := 100, radius := 1 },
      { x := 0, y := 2, z := height, line := 1, point := 0, sample := 100, radius := 1 }]
  faces := [⟨0, 1, 2, 3⟩]

theorem namesOnOneLine_tiles : ∀ m ∈ [tile 0, tile 1], m.NamesOnOneLine := by
  simp [Mesh.NamesOnOneLine, tile]

theorem index_succ_lt_tiles : ∀ m ∈ [tile 0, tile 1], ∀ face ∈ m.faces, ∀ i ∈ face.corners,
    i.toNat + 1 < UInt32.size := by
  simp [tile, Quad.corners, UInt32.size]

theorem face_records_of_two_tiles :
    (faceRecords (StreamFormat.obj.text [tile 0, tile 1]))[
      (faceRecords (StreamFormat.obj.text [tile 0])).length + 0]? =
        some (numbersFrom 0 ⟨0, 1, 2, 3⟩) := by
  have h := face_records_count_from_own_mesh _ namesOnOneLine_tiles index_succ_lt_tiles
  exact (h.2.1 [tile 0] (tile 1) [] rfl).2 0 ⟨0, 1, 2, 3⟩ rfl

theorem second_tile_loses_face :
    (∀ m ∈ [tile 0, tile 1], ∀ face ∈ m.faces, ∀ i ∈ face.corners, i.toNat < m.vertexCount) ∧
      ¬KeepsFaces [tile 0, tile 1] := by
  constructor
  · simp [tile, Quad.corners, Mesh.vertexCount]
  · intro hk
    have h := (keepsFaces_iff _ namesOnOneLine_tiles index_succ_lt_tiles).mp hk
    have hv := h [tile 0] (tile 1) [] rfl (List.cons_ne_nil _ _) (tile 0) List.mem_cons_self
    cases hv

end Format.Obj

end RotaryScan
