import RotaryScan.Proofs.Batches
import RotaryScan.Proofs.Delivery
import RotaryScan.Proofs.ObjNumbering
import RotaryScan.Proofs.PlyLayout

namespace RotaryScan

inductive Column
  | index
  | line
  | point
  | sample
  | radius
  | x
  | y
  | z
  deriving DecidableEq, Repr

namespace Column

def name : Column → String
  | index => "index"
  | line => "line"
  | point => "point"
  | sample => "sample"
  | radius => "radius"
  | x => "x"
  | y => "y"
  | z => "z"

def text (i : Nat) (v : Vertex) : Column → String
  | index => i.repr
  | line => v.line.toNat.repr
  | point => v.point.toNat.repr
  | sample => v.sample.toNat.repr
  | radius => Decimal.text v.radius
  | x => Decimal.text v.x
  | y => Decimal.text v.y
  | z => Decimal.text v.z

theorem name_injective : Function.Injective name := by
  intro c c' h
  cases c <;> cases c' <;> first | rfl | exact absurd h (by decide)

theorem lookup_name (g : Column → String) {columns : List Column} {c : Column} (h : c ∈ columns) :
    (columns.map fun c => (c.name, g c)).lookup c.name = some (g c) := by
  induction columns with
  | nil => cases h
  | cons first columns ih =>
    rw [List.map_cons, List.lookup_cons]
    by_cases hc : c = first
    · subst hc
      rw [beq_self_eq_true]
    · rw [beq_false_of_ne fun he => hc (name_injective he)]
      exact ih ((List.mem_cons.mp h).resolve_left hc)

end Column

/-- Rows of texts below the names of their columns. -/
structure Table where
  columns : List String
  rows : List (List String)

namespace Table

def field? (t : Table) (i : Nat) (name : String) : Option String :=
  t.rows[i]?.bind fun row => (t.columns.zip row).lookup name

def ofVertices (columns : List Column) (vertices : List Vertex) : Table where
  columns := columns.map Column.name
  rows := vertices.mapIdx fun i v => columns.map (·.text i v)

/-- Whether a table has one row a vertex, and says this of each. -/
structure Tells (t : Table) (columns : List Column) (vertices : List Vertex) : Prop where
  names : t.columns = columns.map Column.name
  rows : t.rows.length = vertices.length
  width : ∀ row ∈ t.rows, row.length = columns.length
  field : ∀ i v, vertices[i]? = some v → ∀ c ∈ columns, t.field? i c.name = some (c.text i v)

theorem tells_ofVertices (columns : List Column) (vertices : List Vertex) :
    (ofVertices columns vertices).Tells columns vertices := by
  refine ⟨rfl, List.length_mapIdx, ?_, ?_⟩
  · intro row h
    obtain ⟨i, hi, rfl⟩ := List.mem_mapIdx.mp h
    exact List.length_map _
  · intro i v hv c hc
    rw [field?, ofVertices, List.getElem?_mapIdx, hv, Option.map_some, Option.bind_some, List.zip_map']
    exact Column.lookup_name (·.text i v) hc

open Format in
theorem rows_ofVertices (columns : List Column) {separator : Char} {line : Vertex → String}
    (h : ∀ i v, cut separator (line v) = columns.map (·.text i v)) (vertices : List Vertex) :
    (ofVertices columns vertices).rows = (vertices.map line).map (cut separator) := by
  apply List.ext_getElem
  · simp [ofVertices]
  · intro i _ _
    simp [ofVertices, h i]

end Table

namespace Format

namespace Obj

/-- The vertices of a text; what their numbers mean is fixed. -/
def table (text : String) : Table := ⟨["x", "y", "z"], (vertexRecords text).map (cut ' ')⟩

theorem render_eq (m : Mesh) : StreamFormat.obj.render m = StreamFormat.obj.text [m] := by
  rw [StreamFormat.text, List.flatMap_singleton]
  rfl

theorem table_render {m : Mesh} (hm : m.NamesOnOneLine) :
    table (StreamFormat.obj.render m) = .ofVertices [.x, .y, .z] m.vertices := by
  have hrecords : vertexRecords (StreamFormat.obj.render m) = m.vertices.map vertexRecord := by
    rw [render_eq, vertexRecords_text (by simpa using hm), List.flatMap_singleton]
  have hrows := Table.rows_ofVertices [.x, .y, .z] (fun _ v => cut_vertexRecord v) m.vertices
  rw [table, hrecords, ← hrows]
  rfl

theorem faceRecords_render {m : Mesh} (hm : m.NamesOnOneLine) :
    faceRecords (StreamFormat.obj.render m) =
      m.faces.map fun face => (numbers face).map String.toNat? := by
  rw [render_eq, faceRecords_eq (by simpa using hm), List.flatMap_singleton]

end Obj

namespace Ply

def headerLines (text : String) : List String := (cut '\n' text).takeWhile (· ≠ "end_header")

def bodyLines (text : String) : List String :=
  ((cut '\n' text).dropWhile (· ≠ "end_header")).tail.dropLast

def elementCount (element text : String) : Nat :=
  ((records element (records "element" (headerLines text))).head?.bind String.toNat?).getD 0

def firstProperties (header : List String) : List String :=
  (header.dropWhile (keyword · ≠ "element")).tail.takeWhile (keyword · = "property")

def columns (text : String) : List String :=
  (firstProperties (headerLines text)).map fun line => rest (rest line)

def table (text : String) : Table :=
  ⟨columns text, ((bodyLines text).take (elementCount "vertex" text)).map (cut ' ')⟩

def listNumbers : List String → List (Option Nat)
  | [] => []
  | count :: numbers => (numbers.take (count.toNat?.getD 0)).map String.toNat?

def faceNumbers (text : String) : List (List (Option Nat)) :=
  (((bodyLines text).drop (elementCount "vertex" text)).take (elementCount "face" text)).map
    fun line => listNumbers (cut ' ' line)

theorem firstProperties_declarations (m : Mesh) :
    firstProperties (declarations m) = vertexProperties.map ("property" ++ " " ++ ·) := by
  have hkeyword (s : String) : keyword ("element" ++ " " ++ s) = "element" :=
    keyword_append (by decide) s
  have hfirst : ∀ line ∈ ["ply", "format ascii 1.0"] ++ (comments m).map ("comment" ++ " " ++ ·),
      decide (keyword line ≠ "element") = true := by
    rw [List.forall_mem_append, List.forall_mem_map]
    refine ⟨by simp; decide, ?_⟩
    intro comment _
    rw [keyword_append (by decide)]
    decide
  have hproperty : ∀ line ∈ vertexProperties.map ("property" ++ " " ++ ·),
      decide (keyword line = "property") = true := by
    rw [List.forall_mem_map]
    intro property _
    rw [keyword_append (by decide)]
    decide
  have hd : declarations m =
      ["ply", "format ascii 1.0"] ++ (comments m).map ("comment" ++ " " ++ ·) ++
        ("element" ++ " " ++ ("vertex " ++ m.vertexCount.repr)) ::
          (vertexProperties.map ("property" ++ " " ++ ·) ++
            ("element" ++ " " ++ ("face " ++ m.faceCount.repr)) ::
              (faceProperties m).map ("property" ++ " " ++ ·)) := by
    simp [declarations]
  rw [hd, firstProperties, List.dropWhile_append_of_pos hfirst,
    List.dropWhile_cons_of_neg (by rw [hkeyword]; decide), List.tail_cons,
    List.takeWhile_append_of_pos hproperty, List.takeWhile_cons_of_neg (by rw [hkeyword]; decide),
    List.append_nil]

/-- A frame behind the vertices of a face is not taken for one of them. -/
theorem listNumbers_faceLine (face : Quad UInt32) (frame : Option UInt32) :
    listNumbers (cut ' ' (faceLine face frame)) = face.corners.map fun i => some i.toNat := by
  have hcount : "4".toNat? = some 4 := Nat.toNat?_repr 4
  have htake : ((face.corners ++ frame.toList).map (·.toNat.repr)).take 4 =
      face.corners.map (·.toNat.repr) := by
    rw [List.map_append]
    exact List.take_left' (List.length_map _)
  rw [cut_faceLine, faceTokens, listNumbers, hcount, Option.getD_some, htake, List.map_map]
  apply List.map_congr_left
  intro i _
  exact Nat.toNat?_repr _

section Render

variable {m : Mesh} (hm : m.NamesOnOneLine)
include hm

theorem cut_render :
    cut '\n' (StreamFormat.ply.render m) = declarations m ++ "end_header" :: (body m ++ [""]) := by
  have hl : cut '\n' (StreamFormat.ply.render m) = lines m ++ [""] :=
    cut_unlines (newline_not_mem_lines hm)
  rw [hl, lines_eq, List.append_assoc, List.cons_append]

theorem headerLines_render : headerLines (StreamFormat.ply.render m) = declarations m := by
  rw [headerLines, cut_render hm, takeWhile_append_mark (end_header_not_mem_declarations m)]

theorem bodyLines_render : bodyLines (StreamFormat.ply.render m) = body m := by
  rw [bodyLines, cut_render hm, dropWhile_append_mark (end_header_not_mem_declarations m),
    List.tail_cons, List.dropLast_concat]

theorem columns_render :
    columns (StreamFormat.ply.render m) = ["x", "y", "z", "line", "point", "sample"] := by
  have hrest : (fun property => rest (rest ("property" ++ " " ++ property))) = rest := by
    funext property
    rw [rest_append (by decide)]
  rw [columns, headerLines_render hm, firstProperties_declarations, List.map_map]
  change vertexProperties.map (fun property => rest (rest ("property" ++ " " ++ property))) = _
  rw [hrest]
  decide

theorem elementCount_render : elementCount "vertex" (StreamFormat.ply.render m) = m.vertexCount ∧
    elementCount "face" (StreamFormat.ply.render m) = m.faceCount := by
  have he : records "element" (declarations m) =
      [m.vertexCount.repr].map ("vertex" ++ " " ++ ·) ++ [m.faceCount.repr].map ("face" ++ " " ++ ·) := by
    simp [records_declarations]
  have hr (word : String) : records word (records "element" (declarations m)) =
      (if "vertex" = word then [m.vertexCount.repr] else []) ++
        if "face" = word then [m.faceCount.repr] else [] := by
    rw [he, records_append, records_map word (by decide), records_map word (by decide)]
  rw [elementCount, elementCount, headerLines_render hm, hr, hr]
  simp [Nat.toNat?_repr]

theorem table_render : table (StreamFormat.ply.render m) =
    .ofVertices [.x, .y, .z, .line, .point, .sample] m.vertices := by
  have hrows := Table.rows_ofVertices [.x, .y, .z, .line, .point, .sample]
    (fun _ v => cut_vertexLine v) m.vertices
  have htake : (body m).take m.vertexCount = m.vertices.map vertexLine :=
    List.take_left' (List.length_map _)
  rw [table, columns_render hm, bodyLines_render hm, (elementCount_render hm).1, htake, ← hrows]
  rfl

theorem faceNumbers_render : faceNumbers (StreamFormat.ply.render m) =
    m.faces.map fun face => face.corners.map fun i => some i.toNat := by
  have hdrop : (body m).drop m.vertexCount = faceLines m := List.drop_left' (List.length_map _)
  have hlength : (faceLines m).length = m.faceCount := by
    rw [faceLines_eq, List.length_mapIdx]
    rfl
  rw [faceNumbers, bodyLines_render hm, (elementCount_render hm).1, (elementCount_render hm).2, hdrop,
    List.take_of_length_le (Nat.le_of_eq hlength), faceLines_eq]
  apply List.ext_getElem
  · simp
  · intro j _ _
    simp [listNumbers_faceLine]

end Render

end Ply

namespace Csv

def table (text : String) : Table :=
  match (cut '\n' text).dropLast with
  | [] => ⟨[], []⟩
  | header :: rows => ⟨cut ',' header, rows.map (cut ',')⟩

theorem isNumeral_of_mem_fields {i : Nat} {v : Vertex} {t : String} (h : t ∈ fields i v) :
    IsNumeral t := by
  simp only [fields, coordinates, List.mem_append, List.mem_cons, List.not_mem_nil, or_false] at h
  obtain (rfl | rfl | rfl | rfl | rfl) | rfl | rfl | rfl := h
  all_goals first | exact isNumeral_repr _ | exact isNumeral_text _

theorem cut_join {values : List String} (h : ∀ t ∈ values, ',' ∉ t.toList) (hn : values ≠ []) :
    cut ',' (join values) = values :=
  cut_intercalate rfl h hn

theorem cut_header : cut ',' header = columns :=
  cut_join (by simp [columns]) (List.cons_ne_nil _ _)

theorem cut_row (i : Nat) (v : Vertex) : cut ',' (row i v) = fields i v := by
  apply cut_join
  · intro t ht
    exact comma_not_mem_of_isNumeral (isNumeral_of_mem_fields ht)
  · exact List.cons_ne_nil _ _

theorem newline_not_mem_join {values : List String} (h : ∀ t ∈ values, '\n' ∉ t.toList) :
    '\n' ∉ (join values).toList := by
  intro hc
  obtain hc | ⟨t, ht, hc⟩ := mem_intercalate hc
  · simp at hc
  · exact h t ht hc

theorem newline_not_mem_lines (m : Mesh) : ∀ line ∈ lines m, '\n' ∉ line.toList := by
  rw [lines, List.forall_mem_cons]
  refine ⟨newline_not_mem_join (by simp [columns]), ?_⟩
  intro line hl
  obtain ⟨i, hi, rfl⟩ := List.mem_mapIdx.mp hl
  apply newline_not_mem_join
  intro t ht
  exact not_mem_of_isToken (isToken_of_isNumeral (isNumeral_of_mem_fields ht)) rfl

theorem table_render (m : Mesh) : table (StreamFormat.csv.render m) =
    .ofVertices [.index, .line, .point, .sample, .radius, .x, .y, .z] m.vertices := by
  have hl : cut '\n' (StreamFormat.csv.render m) = lines m ++ [""] :=
    cut_unlines (newline_not_mem_lines m)
  have hrows : (m.vertices.mapIdx row).map (cut ',') = m.vertices.mapIdx fields := by
    apply List.ext_getElem
    · simp
    · intro i _ _
      simp [cut_row]
  rw [table, hl, List.dropLast_concat, lines]
  dsimp only
  rw [hrows, cut_header]
  rfl

end Csv

namespace Pcd

def table (text : String) : Table :=
  ⟨(records "FIELDS" (headerLines text)).flatMap (cut ' '), (dataLines text).map (cut ' ')⟩

theorem records_fields (count : Nat) :
    records "FIELDS" (declarations count) = ["x y z line point sample radius"] := by
  have hs : records "FIELDS" ["# .PCD v.7 - Point Cloud Data file format", "VERSION .7",
      "FIELDS x y z line point sample radius", "SIZE 8 8 8 1 1 4 8", "TYPE F F F U U U F",
      "COUNT 1 1 1 1 1 1 1"] = ["x y z line point sample radius"] ∧
      records "FIELDS" ["HEIGHT 1", "VIEWPOINT 0 0 0 1 0 0 0"] = [] := by decide
  rw [declarations, records_append, records_append, records_append, hs.1, hs.2,
    records_map _ (by decide), records_map _ (by decide)]
  simp

theorem table_text (points : List Vertex) : table (text points) =
    .ofVertices [.x, .y, .z, .line, .point, .sample, .radius] points := by
  have hrows := Table.rows_ofVertices [.x, .y, .z, .line, .point, .sample, .radius]
    (fun _ v => cut_pointLine v) points
  have hnames : cut ' ' "x y z line point sample radius" =
      ["x", "y", "z", "line", "point", "sample", "radius"] := by decide
  rw [table, headerLines_text, records_fields, dataLines_text, List.flatMap_singleton, hnames, ← hrows]
  rfl

end Pcd

end Format

namespace OutputFormat

def columns : OutputFormat → List Column
  | stream .obj => [.x, .y, .z]
  | stream .ply => [.x, .y, .z, .line, .point, .sample]
  | stream .csv => [.index, .line, .point, .sample, .radius, .x, .y, .z]
  | cloud => [.x, .y, .z, .line, .point, .sample, .radius]

def text (format : OutputFormat) (m : Mesh) : String := Format.unlines (format.lines m)

/-- The vertices as a reader of the format finds them. -/
def table : OutputFormat → String → Table
  | stream .obj => Format.Obj.table
  | stream .ply => Format.Ply.table
  | stream .csv => Format.Csv.table
  | cloud => Format.Pcd.table

theorem table_text {m : Mesh} (hm : m.NamesOnOneLine) (format : OutputFormat) :
    format.table (format.text m) = .ofVertices format.columns m.vertices := by
  cases format with
  | stream format =>
    cases format with
    | obj => exact Format.Obj.table_render hm
    | ply => exact Format.Ply.table_render hm
    | csv => exact Format.Csv.table_render m
  | cloud => exact Format.Pcd.table_text m.vertices

structure FacesAgree (m : Mesh) (ply obj : List (List (Option Nat))) : Prop where
  length : ply.length = m.faces.length ∧ obj.length = m.faces.length
  numbers : ∀ (j : Nat) (face : Quad UInt32), m.faces[j]? = some face →
    (∀ i ∈ face.corners, i.toNat + 1 < UInt32.size) →
      ply[j]? = some (face.corners.map fun i => some i.toNat) ∧
      obj[j]? = some (face.corners.map fun i => some (i.toNat + 1))

theorem facesAgree_text {m : Mesh} (hm : m.NamesOnOneLine) :
    FacesAgree m (Format.Ply.faceNumbers ((stream .ply).text m))
      (Format.Obj.faceRecords ((stream .obj).text m)) := by
  have hply : Format.Ply.faceNumbers ((stream .ply).text m) = _ := Format.Ply.faceNumbers_render hm
  have hobj : Format.Obj.faceRecords ((stream .obj).text m) = _ := Format.Obj.faceRecords_render hm
  rw [hply, hobj]
  refine ⟨⟨List.length_map _, List.length_map _⟩, ?_⟩
  intro j face hj hi
  rw [List.getElem?_map, List.getElem?_map, hj, Option.map_some, Option.map_some,
    Format.Obj.map_toNat?_numbers hi]
  exact ⟨rfl, rfl⟩

theorem written_text (format : StreamFormat) (m : Mesh) :
    format.written [m] = Format.utf8 ((stream format).text m) := by
  rw [format.written_eq, StreamFormat.text, List.flatMap_singleton]
  rfl

theorem read_of_finish {p : Path} {m : Mesh} {fs after : FileSystem} {w : CloudWriter}
    (hv : m.vertices ≠ [])
    (h : CloudWriter.finish.runFrom ((CloudWriter.mk p []).write m) fs = ((.ok (), w), after)) :
    after.read p = .ok (Format.utf8 (cloud.text m)) := by
  obtain ⟨hp, -⟩ | ⟨_, -, -, hf⟩ | ⟨l, opened, -, ht, hf⟩ :=
    ((CloudWriter.mk p []).write m).finish_cases fs
  · exact absurd hp hv
  · rw [hf] at h
    cases h
  · rw [hf] at h
    cases h
    exact CloudWriter.Session.read_stored ht _

/-- A reader of any format finds the same vertices, one a line and with the same texts, under the names
of the columns that the format has. The faces of the two formats that have them differ by one in their
numbers. -/
theorem formats_agree (m : Mesh) (hm : m.NamesOnOneLine) :
    (∀ format : OutputFormat, (format.table (format.text m)).Tells format.columns m.vertices) ∧
    FacesAgree m (Format.Ply.faceNumbers ((stream .ply).text m))
      (Format.Obj.faceRecords ((stream .obj).text m)) ∧
    (∀ format : StreamFormat, format.written [m] = Format.utf8 ((stream format).text m)) ∧
    ∀ (p : Path) (fs after : FileSystem) (w : CloudWriter), m.vertices ≠ [] →
      CloudWriter.finish.runFrom ((CloudWriter.mk p []).write m) fs = ((.ok (), w), after) →
        after.read p = .ok (Format.utf8 (cloud.text m)) := by
  refine ⟨?_, facesAgree_text hm, fun format => written_text format m, ?_⟩
  · intro format
    rw [table_text hm]
    exact Table.tells_ofVertices format.columns m.vertices
  · intro p fs after w
    exact read_of_finish

theorem formats_agree_tile :
    (∃ x, ∀ format : OutputFormat, (format.table (format.text (Format.Obj.tile 0))).rows.length = 4 ∧
      (format.table (format.text (Format.Obj.tile 0))).field? 1 "x" = some x) ∧
    (Format.Csv.table ((stream .csv).text (Format.Obj.tile 0))).field? 1 "index" = some "1" ∧
    (Format.Ply.faceNumbers ((stream .ply).text (Format.Obj.tile 0)))[0]? =
      some [some 0, some 1, some 2, some 3] ∧
    (Format.Obj.faceRecords ((stream .obj).text (Format.Obj.tile 0)))[0]? =
      some [some 1, some 2, some 3, some 4] := by
  obtain ⟨htells, hfaces, -⟩ := formats_agree (Format.Obj.tile 0)
    (Format.Obj.namesOnOneLine_tiles _ List.mem_cons_self)
  refine ⟨⟨Decimal.text 1, ?_⟩, ?_, ?_⟩
  · intro format
    refine ⟨(htells format).rows, (htells format).field 1 _ rfl .x ?_⟩
    cases format with
    | stream format => cases format <;> decide
    | cloud => decide
  · exact (htells (stream .csv)).field 1 _ rfl .index (by decide)
  · exact hfaces.numbers 0 ⟨0, 1, 2, 3⟩ rfl
      (Format.Obj.index_succ_lt_tiles _ List.mem_cons_self _ List.mem_cons_self)

end OutputFormat

end RotaryScan
