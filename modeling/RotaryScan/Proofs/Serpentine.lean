import Mathlib.Algebra.Group.Nat.Defs
import Mathlib.Order.Interval.Set.Defs
import Mathlib.Data.Set.Function
import RotaryScan.Grid

namespace RotaryScan.Grid

theorem not_isEmpty_iff (g : Grid) : ¬g.isEmpty ↔ 0 < g.lines ∧ 0 < g.points := by
  simp only [isEmpty, lines, points, Bool.or_eq_true, beq_iff_eq, not_or, Nat.pos_iff_ne_zero,
    ← UInt8.toNat_inj, ne_eq]
  rfl

def index (g : Grid) (c : Cell) : Nat := g.vertexIndex c.line c.point

theorem index_even (g : Grid) (line point : Nat) (h : line % 2 = 0) :
    g.index ⟨line, point⟩ = line * g.points + point := if_pos h

theorem index_odd (g : Grid) (line point : Nat) (h : line % 2 = 1) :
    g.index ⟨line, point⟩ = line * g.points + g.points - 1 - point := by
  have h' : line % 2 ≠ 0 := by omega
  exact if_neg h'

def offset (g : Grid) (c : Cell) : Nat :=
  if c.line % 2 = 0 then c.point else g.points - 1 - c.point

theorem offset_lt (g : Grid) (c : Cell) (h : c.point < g.points) : g.offset c < g.points := by
  unfold offset
  split <;> omega

theorem index_eq (g : Grid) (c : Cell) (h : c.point < g.points) :
    g.index c = c.line * g.points + g.offset c := by
  unfold index vertexIndex offset
  split <;> omega

theorem index_cell (g : Grid) (n : Nat) (h : 0 < g.points) : g.index (g.cell n) = n :=
  g.vertexIndex_cell n h

theorem cell_index (g : Grid) (c : Cell) (h : c.point < g.points) : g.cell (g.index c) = c := by
  have ho := g.offset_lt c h
  have hd : g.index c / g.points = c.line := by
    rw [g.index_eq c h, Nat.add_comm, Nat.add_mul_div_right _ _ (by omega), Nat.div_eq_of_lt ho,
      Nat.zero_add]
  have hm : g.index c % g.points = g.offset c := by
    rw [g.index_eq c h, Nat.mul_add_mod_of_lt ho]
  have hc : (if c.line % 2 = 0 then g.offset c else g.points - 1 - g.offset c) = c.point := by
    unfold offset
    split <;> omega
  unfold cell
  simp only [hd, hm, hc]

theorem eq_index_iff (g : Grid) (c : Cell) (h : c.point < g.points) (n : Nat) :
    n = g.index c ↔ g.cell n = c := by
  constructor
  · rintro rfl
    exact g.cell_index c h
  · rintro rfl
    exact (g.index_cell n (by omega)).symm

theorem cell_line_lt_iff (g : Grid) (n lines : Nat) (h : 0 < g.points) :
    (g.cell n).line < lines ↔ n < lines * g.points :=
  Nat.div_lt_iff_lt_mul h

/-- Whichever way a line is swept, all of it comes before the next line. -/
theorem index_lt_mul_iff (g : Grid) (c : Cell) (h : c.point < g.points) (lines : Nat) :
    g.index c < lines * g.points ↔ c.line < lines := by
  rw [← g.cell_line_lt_iff (g.index c) lines (Nat.zero_lt_of_lt h), g.cell_index c h]

theorem index_lt (g : Grid) (c : Cell) (h : c.point < g.points) {lines : Nat}
    (hl : c.line < lines) : g.index c < lines * g.points :=
  (g.index_lt_mul_iff c h lines).mpr hl

theorem cell_lt (g : Grid) (n : Nat) {lines : Nat} (h : n < lines * g.points) :
    (g.cell n).line < lines ∧ (g.cell n).point < g.points := by
  have hp : 0 < g.points := Nat.pos_of_mul_pos_left (Nat.zero_lt_of_lt h)
  exact ⟨(g.cell_line_lt_iff n lines hp).mpr h, g.point_cell_lt n hp⟩

theorem cell_injective (g : Grid) (h : 0 < g.points) : Function.Injective g.cell := by
  intro n m he
  rw [← g.index_cell n h, he, g.index_cell m h]

theorem mem_map_cell_range (g : Grid) (n : Nat) (c : Cell) (h : 0 < g.points) :
    c ∈ (List.range n).map g.cell ↔ c.point < g.points ∧ g.index c < n := by
  simp only [List.mem_map, List.mem_range]
  constructor
  · rintro ⟨i, hi, rfl⟩
    exact ⟨g.point_cell_lt i h, (g.index_cell i h).symm ▸ hi⟩
  · rintro ⟨hp, hi⟩
    exact ⟨g.index c, hi, g.cell_index c hp⟩

theorem lines_lt (g : Grid) : g.lines < 2 ^ 8 := g.lineCount.toNat_lt

theorem points_lt (g : Grid) : g.points < 2 ^ 8 := g.pointCount.toNat_lt

theorem cellCount_lt (g : Grid) : g.cellCount < 2 ^ 16 := by
  have hl : g.lines ≤ 255 := Nat.le_of_lt_succ g.lines_lt
  have hp : g.points ≤ 255 := Nat.le_of_lt_succ g.points_lt
  calc g.lines * g.points ≤ 255 * 255 := Nat.mul_le_mul hl hp
    _ < 2 ^ 16 := by decide

def firstLines (g : Grid) (lines : Nat) : Set Cell := {c | c.line < lines ∧ c.point < g.points}

section FirstLines

variable (g : Grid) (lines : Nat)

theorem mapsTo_cell : Set.MapsTo g.cell (Set.Iio (lines * g.points)) (g.firstLines lines) :=
  fun n hn => g.cell_lt n hn

theorem mapsTo_index : Set.MapsTo g.index (g.firstLines lines) (Set.Iio (lines * g.points)) :=
  fun c hc => g.index_lt c hc.2 hc.1

variable (h : 0 < g.points)
include h

theorem invOn_index_cell :
    Set.InvOn g.index g.cell (Set.Iio (lines * g.points)) (g.firstLines lines) :=
  ⟨fun n _ => g.index_cell n h, fun c hc => g.cell_index c hc.2⟩

theorem bijOn_cell : Set.BijOn g.cell (Set.Iio (lines * g.points)) (g.firstLines lines) :=
  (g.invOn_index_cell lines h).bijOn (g.mapsTo_cell lines) (g.mapsTo_index lines)

theorem bijOn_index : Set.BijOn g.index (g.firstLines lines) (Set.Iio (lines * g.points)) :=
  (g.invOn_index_cell lines h).symm.bijOn (g.mapsTo_index lines) (g.mapsTo_cell lines)

end FirstLines

/-- The sweep can be followed in both directions: each sample has its cell, and each cell its sample,
also on lines beyond the declared ones. On the declared lines no sample and no cell is left over. -/
theorem sweep_invertible (g : Grid) (h : 0 < g.points) :
    (∀ n, (g.cell n).point < g.points ∧ g.vertexIndex (g.cell n).line (g.cell n).point = n) ∧
    (∀ line point, point < g.points → g.cell (g.vertexIndex line point) = ⟨line, point⟩) ∧
    Set.BijOn g.cell {n | n < g.cellCount} {c : Cell | c.line < g.lines ∧ c.point < g.points} ∧
    Set.BijOn (fun c : Cell => g.vertexIndex c.line c.point)
      {c : Cell | c.line < g.lines ∧ c.point < g.points} {n | n < g.cellCount} := by
  refine ⟨fun n => ⟨g.point_cell_lt n h, g.vertexIndex_cell n h⟩, fun line point hp => ?_,
    g.bijOn_cell g.lines h, g.bijOn_index g.lines h⟩
  exact g.cell_index ⟨line, point⟩ hp

theorem sweep_invertible_two :
    let g : Grid := ⟨2, 3⟩
    0 < g.points ∧
      (g.cell 22).point < 3 ∧ g.vertexIndex (g.cell 22).line (g.cell 22).point = 22 ∧
      0 < 3 ∧ g.cell (g.vertexIndex 7 0) = ⟨7, 0⟩ ∧
      Set.BijOn g.cell {n | n < 6} {c : Cell | c.line < 2 ∧ c.point < 3} ∧
      Set.BijOn (fun c : Cell => g.vertexIndex c.line c.point)
        {c : Cell | c.line < 2 ∧ c.point < 3} {n | n < 6} := by
  intro g
  have h : 0 < g.points := by decide
  obtain ⟨hindex, hcell, hcells, hindices⟩ := g.sweep_invertible h
  obtain ⟨hlt, hsample⟩ := hindex 22
  exact ⟨h, hlt, hsample, h, hcell 7 0 h, hcells, hindices⟩

end RotaryScan.Grid
