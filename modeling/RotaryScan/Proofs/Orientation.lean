import Mathlib.Tactic.Ring
import RotaryScan.Proofs.Stitching

namespace RotaryScan

namespace Quad

def HasEdge {α : Type} (q : Quad α) (a b : α) : Prop := (a, b) ∈ q.sides ∨ (b, a) ∈ q.sides

instance {α : Type} [DecidableEq α] (q : Quad α) (a b : α) : Decidable (q.HasEdge a b) :=
  inferInstanceAs (Decidable (_ ∨ _))

/-- Twice the signed area of a face, its points to the right and its lines upwards. -/
def doubleArea (q : Quad Cell) : Int :=
  (q.sides.map fun (a, b) => (a.point * b.line - b.point * a.line : Int)).sum

end Quad

namespace Cell

def Adjacent (a b : Cell) : Prop :=
  (a.line = b.line ∧ (a.point + 1 = b.point ∨ b.point + 1 = a.point)) ∨
    (a.point = b.point ∧ (a.line + 1 = b.line ∨ b.line + 1 = a.line))

def OnBorder (lines points : Nat) (a b : Cell) : Prop :=
  (a.line = 0 ∧ b.line = 0) ∨ (a.line = lines - 1 ∧ b.line = lines - 1) ∨
    (a.point = 0 ∧ b.point = 0) ∨ (a.point = points - 1 ∧ b.point = points - 1)

theorem doubleArea_square (c : Cell) : c.square.doubleArea = 2 := by
  simp only [Quad.doubleArea, Quad.sides, square, List.map_cons, List.map_nil, List.sum_cons,
    List.sum_nil]
  push_cast
  ring

variable {a b : Cell} (lines points : Nat)

theorem adjacent_of_hasEdge {c : Cell} (hc : c ∈ squares lines points)
    (h : c.square.HasEdge a b) : a.Adjacent b ∧ a.line < lines ∧ b.line < lines := by
  rw [mem_squares] at hc
  rw [Quad.HasEdge, mem_sides_square, mem_sides_square] at h
  rw [Adjacent]
  omega

theorem countP_side_le_one (a b : Cell) :
    (squares lines points).countP (fun c => (a, b) ∈ c.square.sides) ≤ 1 := by
  apply countP_le_one (nodup_squares lines points)
  intro c d hc hd
  exact eq_of_mem_sides_square (of_decide_eq_true hc) (of_decide_eq_true hd)

theorem countP_hasEdge (a b : Cell) :
    (squares lines points).countP (fun c => c.square.HasEdge a b) =
      (squares lines points).countP (fun c => (a, b) ∈ c.square.sides) +
        (squares lines points).countP (fun c => (b, a) ∈ c.square.sides) := by
  apply countP_or
  intro c hc hd
  rw [mem_sides_square] at hc hd
  omega

theorem countP_side_eq (p q : Nat → Bool)
    (h : ∀ c : Cell, (a, b) ∈ c.square.sides ↔ p c.line ∧ q c.point) :
    (squares lines points).countP (fun c => (a, b) ∈ c.square.sides) =
      (List.range (lines - 1)).countP p * (List.range (points - 1)).countP q := by
  rw [← countP_squares]
  apply List.countP_congr
  intro c _
  rw [decide_eq_true_eq, Bool.and_eq_true, h]

/-- A step along a line is a side of the square above, and the step back one of the square below. -/
theorem countP_side_horizontal (hl : a.line = b.line) (hp : a.point + 1 = b.point)
    (hb : b.point < points) :
    (squares lines points).countP (fun c => (a, b) ∈ c.square.sides) =
        (if a.line < lines - 1 then 1 else 0) ∧
      (squares lines points).countP (fun c => (b, a) ∈ c.square.sides) =
        if 0 < a.line ∧ a.line ≤ lines - 1 then 1 else 0 := by
  have hs := countP_side_eq (a := a) (b := b) lines points (· = a.line) (· = a.point) fun c => by
    simp only [mem_sides_square, decide_eq_true_eq]
    omega
  have hr := countP_side_eq (a := b) (b := a) lines points (· + 1 = a.line) (· = a.point) fun c => by
    simp only [mem_sides_square, decide_eq_true_eq]
    omega
  have hp' : a.point < points - 1 := by omega
  rw [hs, hr, countP_range_start, countP_range_start, countP_range_end, if_pos hp']
  simp only [Nat.mul_one, and_self]

theorem countP_side_vertical (hp : a.point = b.point) (hl : a.line + 1 = b.line)
    (hb : b.line < lines) :
    (squares lines points).countP (fun c => (a, b) ∈ c.square.sides) =
        (if 0 < a.point ∧ a.point ≤ points - 1 then 1 else 0) ∧
      (squares lines points).countP (fun c => (b, a) ∈ c.square.sides) =
        if a.point < points - 1 then 1 else 0 := by
  have hs := countP_side_eq (a := a) (b := b) lines points (· = a.line) (· + 1 = a.point) fun c => by
    simp only [mem_sides_square, decide_eq_true_eq]
    omega
  have hr := countP_side_eq (a := b) (b := a) lines points (· = a.line) (· = a.point) fun c => by
    simp only [mem_sides_square, decide_eq_true_eq]
    omega
  have hl' : a.line < lines - 1 := by omega
  rw [hs, hr, countP_range_start, countP_range_start, countP_range_end, if_pos hl']
  simp only [Nat.one_mul, and_self]

theorem countP_hasEdge_of_adjacent (hl : 2 ≤ lines) (hp : 2 ≤ points) (h : a.Adjacent b)
    (hal : a.line < lines) (hbl : b.line < lines) (hap : a.point < points) (hbp : b.point < points) :
    (OnBorder lines points a b → (squares lines points).countP (fun c => c.square.HasEdge a b) = 1) ∧
    (¬OnBorder lines points a b → (squares lines points).countP (fun c => c.square.HasEdge a b) = 2) := by
  rw [countP_hasEdge, OnBorder]
  obtain ⟨h, h' | h'⟩ | ⟨h, h' | h'⟩ := h
  · obtain ⟨hs, hr⟩ := countP_side_horizontal lines points h h' hbp
    rw [hs, hr]
    constructor <;> intro hb <;> split <;> split <;> omega
  · obtain ⟨hs, hr⟩ := countP_side_horizontal lines points h.symm h' hap
    rw [hs, hr]
    constructor <;> intro hb <;> split <;> split <;> omega
  · obtain ⟨hs, hr⟩ := countP_side_vertical lines points h h' hbl
    rw [hs, hr]
    constructor <;> intro hb <;> split <;> split <;> omega
  · obtain ⟨hs, hr⟩ := countP_side_vertical lines points h.symm h' hal
    rw [hs, hr]
    constructor <;> intro hb <;> split <;> split <;> omega

end Cell

namespace Grid

def Joined (g : Grid) (lines n m : Nat) : Prop :=
  (g.cell n).Adjacent (g.cell m) ∧ (g.cell n).line < lines ∧ (g.cell m).line < lines

/-- What makes faces an oriented surface over the first lines of a grid: all turn the same way, and
an edge joins two faces that walk it in opposite directions, or is the border of one. -/
structure OrientedSurface (g : Grid) (lines : Nat) (faces : List (Quad UInt32)) : Prop where
  area : ∀ f ∈ faces, (f.indices.map g.cell).doubleArea = 2
  side : ∀ n m, faces.countP (fun f => (n, m) ∈ f.indices.sides) ≤ 1
  edge : ∀ n m, (∃ f ∈ faces, f.indices.HasEdge n m) ↔ g.Joined lines n m
  border : ∀ n m, g.Joined lines n m → Cell.OnBorder lines g.points (g.cell n) (g.cell m) →
    faces.countP (fun f => f.indices.HasEdge n m) = 1
  inner : ∀ n m, g.Joined lines n m → ¬Cell.OnBorder lines g.points (g.cell n) (g.cell m) →
    faces.countP (fun f => f.indices.HasEdge n m) = 2 ∧
      faces.countP (fun f => (n, m) ∈ f.indices.sides) = 1 ∧
      faces.countP (fun f => (m, n) ∈ f.indices.sides) = 1

variable (g : Grid) (completeLines n m : Nat)

theorem doubleArea_face (f : Quad UInt32) (hf : f ∈ g.faces completeLines .consistent) :
    (f.indices.map g.cell).doubleArea = 2 := by
  obtain ⟨c, hc, he⟩ := g.exists_walk completeLines .consistent hf
  rw [he, g.map_cell_walk .consistent hc, g.walk_consistent]
  exact c.doubleArea_square

theorem countP_side :
    (g.faces completeLines .consistent).countP (fun f => (n, m) ∈ f.indices.sides) =
      (squares (min completeLines g.lines) g.points).countP
        fun c => (g.cell n, g.cell m) ∈ c.square.sides := by
  rw [g.countP_faces completeLines .consistent fun f => (n, m) ∈ f.sides]
  apply List.countP_congr
  intro c hc
  rw [decide_eq_true_eq, decide_eq_true_eq, g.mem_sides_walk_index _ hc, walk_consistent]

theorem countP_edge :
    (g.faces completeLines .consistent).countP (fun f => f.indices.HasEdge n m) =
      (squares (min completeLines g.lines) g.points).countP
        fun c => c.square.HasEdge (g.cell n) (g.cell m) := by
  rw [g.countP_faces completeLines .consistent fun f => f.HasEdge n m]
  apply List.countP_congr
  intro c hc
  rw [decide_eq_true_eq, decide_eq_true_eq, Quad.HasEdge, g.mem_sides_walk_index _ hc,
    g.mem_sides_walk_index _ hc, walk_consistent]
  rfl

theorem countP_edge_eq_add :
    (g.faces completeLines .consistent).countP (fun f => f.indices.HasEdge n m) =
      (g.faces completeLines .consistent).countP (fun f => (n, m) ∈ f.indices.sides) +
        (g.faces completeLines .consistent).countP (fun f => (m, n) ∈ f.indices.sides) := by
  rw [countP_edge, countP_side, countP_side]
  exact Cell.countP_hasEdge _ _ _ _

theorem countP_side_face_le_one :
    (g.faces completeLines .consistent).countP (fun f => (n, m) ∈ f.indices.sides) ≤ 1 := by
  rw [countP_side]
  exact Cell.countP_side_le_one _ _ _ _

theorem exists_edge_iff :
    (∃ f ∈ g.faces completeLines .consistent, f.indices.HasEdge n m) ↔
      0 < (g.faces completeLines .consistent).countP (fun f => f.indices.HasEdge n m) := by
  simp only [List.countP_pos_iff, decide_eq_true_eq]

theorem joined_of_edge (h : ∃ f ∈ g.faces completeLines .consistent, f.indices.HasEdge n m) :
    g.Joined (min completeLines g.lines) n m := by
  rw [exists_edge_iff, countP_edge] at h
  obtain ⟨c, hc, h⟩ := List.countP_pos_iff.mp h
  exact Cell.adjacent_of_hasEdge _ _ hc (of_decide_eq_true h)

variable {g completeLines n m} in
theorem countP_edge_of_joined (hp : 2 ≤ g.points) (hl : 2 ≤ min completeLines g.lines)
    (h : g.Joined (min completeLines g.lines) n m) :
    (Cell.OnBorder (min completeLines g.lines) g.points (g.cell n) (g.cell m) →
      (g.faces completeLines .consistent).countP (fun f => f.indices.HasEdge n m) = 1) ∧
    (¬Cell.OnBorder (min completeLines g.lines) g.points (g.cell n) (g.cell m) →
      (g.faces completeLines .consistent).countP (fun f => f.indices.HasEdge n m) = 2) := by
  obtain ⟨ha, hn, hm⟩ := h
  have hc : ∀ n, (g.cell n).point < g.points := fun n => g.point_cell_lt n (by omega)
  rw [countP_edge]
  exact Cell.countP_hasEdge_of_adjacent _ _ hl hp ha hn hm (hc n) (hc m)

/-- The consistent winding makes the complete lines one surface, all of whose faces are walked the
same way round. -/
theorem consistent_faces_oriented (g : Grid) (completeLines : Nat) (hp : 2 ≤ g.points)
    (hl : 2 ≤ min completeLines g.lines) :
    g.OrientedSurface (min completeLines g.lines) (g.faces completeLines .consistent) := by
  refine ⟨g.doubleArea_face completeLines, g.countP_side_face_le_one completeLines,
    fun n m => ⟨g.joined_of_edge completeLines n m, fun h => ?_⟩,
    fun n m h => (countP_edge_of_joined hp hl h).1, fun n m h hb => ?_⟩
  · obtain ⟨h₁, h₂⟩ := countP_edge_of_joined hp hl h
    rw [exists_edge_iff]
    by_cases hb : Cell.OnBorder (min completeLines g.lines) g.points (g.cell n) (g.cell m)
    · rw [h₁ hb]
      decide
    · rw [h₂ hb]
      decide
  · have h₂ := (countP_edge_of_joined hp hl h).2 hb
    have hadd := g.countP_edge_eq_add completeLines n m
    have hn := g.countP_side_face_le_one completeLines n m
    have hm := g.countP_side_face_le_one completeLines m n
    exact ⟨h₂, by omega, by omega⟩

theorem consistent_faces_oriented_three :
    2 ≤ (Grid.mk 3 4).points ∧ 2 ≤ min 7 (Grid.mk 3 4).lines ∧
      (Grid.mk 3 4).OrientedSurface 3 ((Grid.mk 3 4).faces 7 .consistent) :=
  ⟨by decide, by decide, consistent_faces_oriented (Grid.mk 3 4) 7 (by decide) (by decide)⟩

end Grid

end RotaryScan
