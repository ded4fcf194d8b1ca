import Mathlib.Data.List.Nodup
import RotaryScan.Winding

namespace RotaryScan

section Counting

variable {α : Type}

theorem countP_le_one {p : α → Bool} {l : List α} (hn : l.Nodup)
    (h : ∀ c d, p c → p d → c = d) : l.countP p ≤ 1 := by
  classical
  by_cases he : ∃ c, p c
  · obtain ⟨c, hc⟩ := he
    calc l.countP p ≤ l.count c := List.countP_mono_left fun d _ hd => by simp [h d c hd hc]
      _ ≤ 1 := List.nodup_iff_count_le_one.mp hn c
  · have hz : l.countP p = 0 := List.countP_eq_zero.mpr fun c _ hc => he ⟨c, hc⟩
    omega

theorem countP_or {p q : α → Prop} [DecidablePred p] [DecidablePred q] (l : List α)
    (h : ∀ c, p c → ¬q c) :
    l.countP (fun c => p c ∨ q c) = l.countP (p ·) + l.countP (q ·) := by
  induction l with
  | nil => rfl
  | cons c l ih =>
    simp only [List.countP_cons, ih, decide_eq_true_eq]
    by_cases hp : p c
    · rw [if_pos (.inl hp), if_pos hp, if_neg (h c hp)]
      omega
    · by_cases hq : q c
      · rw [if_pos (.inr hq), if_neg hp, if_pos hq]
        omega
      · rw [if_neg (not_or.mpr ⟨hp, hq⟩), if_neg hp, if_neg hq, Nat.add_zero, Nat.add_zero,
          Nat.add_zero]

theorem countP_range_start (n x : Nat) :
    (List.range n).countP (fun k => k = x) = if x < n then 1 else 0 := by
  induction n with
  | zero => rfl
  | succ n ih =>
    rw [List.range_succ, List.countP_append, ih, List.countP_singleton]
    simp only [decide_eq_true_eq]
    split <;> split <;> split <;> omega

theorem countP_range_end (n x : Nat) :
    (List.range n).countP (fun k => k + 1 = x) = if 0 < x ∧ x ≤ n then 1 else 0 := by
  induction n with
  | zero =>
    have h : ¬(0 < x ∧ x ≤ 0) := by omega
    rw [if_neg h]
    rfl
  | succ n ih =>
    rw [List.range_succ, List.countP_append, ih, List.countP_singleton]
    simp only [decide_eq_true_eq]
    split <;> split <;> split <;> omega

/-- Of the steps between `n` places, one touches the first, one the last and two any other. -/
theorem countP_range_touching {n x : Nat} (hn : 2 ≤ n) (hx : x < n) :
    (List.range (n - 1)).countP (fun k => k = x ∨ k + 1 = x) =
      if x = 0 ∨ x = n - 1 then 1 else 2 := by
  rw [countP_or _ (by omega), countP_range_start, countP_range_end]
  split <;> split <;> split <;> omega

end Counting

namespace Quad

variable {α β : Type}

def sides (q : Quad α) : List (α × α) :=
  [(q.first, q.second), (q.second, q.third), (q.third, q.fourth), (q.fourth, q.first)]

/-- The same corners from the second on, walked the other way round. -/
def reversed (q : Quad α) : Quad α := ⟨q.second, q.first, q.fourth, q.third⟩

theorem corners_reversed (q : Quad α) : q.reversed.corners.Perm q.corners :=
  (List.Perm.swap _ _ _).trans (((List.Perm.swap _ _ _).cons _).cons _)

@[simp] theorem corners_map (f : α → β) (q : Quad α) : (q.map f).corners = q.corners.map f := rfl

theorem map_congr {f h : α → β} {q : Quad α} (e : ∀ a ∈ q.corners, f a = h a) :
    q.map f = q.map h := by
  simp only [corners, List.forall_mem_cons] at e
  simp only [map, e]

theorem mem_corners_map_iff {f : α → β} {h : β → α} {q : Quad α}
    (e : ∀ a ∈ q.corners, ∀ b, b = f a ↔ h b = a) (b : β) :
    b ∈ (q.map f).corners ↔ h b ∈ q.corners := by
  simp only [corners, List.forall_mem_cons] at e
  simp [corners, map, e]

theorem mem_sides_map_iff {f : α → β} {h : β → α} {q : Quad α}
    (e : ∀ a ∈ q.corners, ∀ b, b = f a ↔ h b = a) (b b' : β) :
    (b, b') ∈ (q.map f).sides ↔ (h b, h b') ∈ q.sides := by
  simp only [corners, List.forall_mem_cons] at e
  simp [sides, map, e]

end Quad

namespace Cell

def square (c : Cell) : Quad Cell :=
  ⟨c, ⟨c.line, c.point + 1⟩, ⟨c.line + 1, c.point + 1⟩, ⟨c.line + 1, c.point⟩⟩

theorem mem_corners_square (c d : Cell) : d ∈ c.square.corners ↔
    (c.line = d.line ∨ c.line + 1 = d.line) ∧ (c.point = d.point ∨ c.point + 1 = d.point) := by
  simp only [Quad.corners, square, List.mem_cons, List.not_mem_nil, or_false, Cell.ext_iff]
  omega

theorem nodup_corners_square (c : Cell) : c.square.corners.Nodup := by
  simp [Quad.corners, square, Cell.ext_iff]

theorem corners_square_perm_iff (c d : Cell) : c.square.corners.Perm d.square.corners ↔ c = d := by
  constructor
  · intro h
    have hc : c ∈ d.square.corners := h.subset List.mem_cons_self
    have hd : d ∈ c.square.corners := h.symm.subset List.mem_cons_self
    rw [mem_corners_square] at hc hd
    apply Cell.ext <;> omega
  · rintro rfl
    rfl

theorem mem_sides_square (c a b : Cell) : (a, b) ∈ c.square.sides ↔
    ((a.line = c.line ∧ a.point = c.point) ∧ b.line = c.line ∧ b.point = c.point + 1) ∨
    ((a.line = c.line ∧ a.point = c.point + 1) ∧ b.line = c.line + 1 ∧ b.point = c.point + 1) ∨
    ((a.line = c.line + 1 ∧ a.point = c.point + 1) ∧ b.line = c.line + 1 ∧ b.point = c.point) ∨
    ((a.line = c.line + 1 ∧ a.point = c.point) ∧ b.line = c.line ∧ b.point = c.point) := by
  simp only [Quad.sides, square, List.mem_cons, List.not_mem_nil, or_false, Prod.mk.injEq,
    Cell.ext_iff]

theorem eq_of_mem_sides_square {c d a b : Cell} (hc : (a, b) ∈ c.square.sides)
    (hd : (a, b) ∈ d.square.sides) : c = d := by
  rw [mem_sides_square] at hc hd
  apply Cell.ext <;> omega

end Cell

def squares (lines points : Nat) : List Cell :=
  (List.range (lines - 1)).flatMap fun line => (List.range (points - 1)).map fun point => ⟨line, point⟩

theorem mem_squares {lines points : Nat} {c : Cell} :
    c ∈ squares lines points ↔ c.line + 1 < lines ∧ c.point + 1 < points := by
  simp only [squares, List.mem_flatMap, List.mem_map, List.mem_range, Cell.ext_iff]
  constructor
  · rintro ⟨l, hl, p, hp, rfl, rfl⟩
    omega
  · rintro ⟨hl, hp⟩
    exact ⟨c.line, by omega, c.point, by omega, rfl, rfl⟩

theorem squares_eq_nil {lines points : Nat} (h : lines < 2 ∨ points < 2) :
    squares lines points = [] := by
  apply List.eq_nil_iff_forall_not_mem.mpr
  intro c hc
  have hs := mem_squares.mp hc
  omega

theorem nodup_squares (lines points : Nat) : (squares lines points).Nodup := by
  apply List.nodup_flatMap.mpr
  constructor
  · intro l _
    apply List.nodup_range.map
    intro p q h
    exact congrArg Cell.point h
  · apply List.nodup_range.imp
    intro l m hne c hl hm
    obtain ⟨p, -, rfl⟩ := List.mem_map.mp hl
    obtain ⟨q, -, he⟩ := List.mem_map.mp hm
    exact hne (congrArg Cell.line he).symm

theorem countP_squares (lines points : Nat) (p q : Nat → Bool) :
    (squares lines points).countP (fun c => p c.line && q c.point) =
      (List.range (lines - 1)).countP p * (List.range (points - 1)).countP q := by
  rw [squares]
  induction List.range (lines - 1) with
  | nil => simp
  | cons l ls ih =>
    have hl : ((List.range (points - 1)).map fun point => (⟨l, point⟩ : Cell)).countP
        (fun c => p c.line && q c.point) = if p l then (List.range (points - 1)).countP q else 0 := by
      rw [List.countP_map]
      cases hp : p l <;> simp [Function.comp_def, hp]
    rw [List.flatMap_cons, List.countP_append, ih, hl, List.countP_cons, Nat.add_mul, Nat.add_comm]
    cases p l <;> simp

theorem length_squares (lines points : Nat) :
    (squares lines points).length = (lines - 1) * (points - 1) := by
  simpa using countP_squares lines points (fun _ => true) (fun _ => true)

theorem getElem?_rows {α : Type} (rows width : Nat) (f : Nat → Nat → α) {row column : Nat}
    (hr : row < rows) (hc : column < width) :
    ((List.range rows).flatMap fun i => (List.range width).map (f i))[row * width + column]? =
      some (f row column) := by
  induction rows with
  | zero => cases hr
  | succ rows ih =>
    have hl : ((List.range rows).flatMap fun i => (List.range width).map (f i)).length =
        rows * width := by
      simp [List.length_flatMap]
    rw [List.range_succ, List.flatMap_append, List.flatMap_singleton]
    by_cases h : row < rows
    · have hm : (row + 1) * width ≤ rows * width := Nat.mul_le_mul_right _ h
      rw [Nat.succ_mul] at hm
      rw [List.getElem?_append_left (by omega), ih h]
    · obtain rfl : row = rows := by omega
      rw [List.getElem?_append_right (by omega), hl, Nat.add_sub_cancel_left, List.getElem?_map,
        List.getElem?_range hc, Option.map_some]

theorem getElem?_squares {lines points : Nat} {c : Cell} (h : c ∈ squares lines points) :
    (squares lines points)[c.line * (points - 1) + c.point]? = some c := by
  rw [mem_squares] at h
  exact getElem?_rows (lines - 1) (points - 1) Cell.mk (by omega) (by omega)

theorem countP_corner_square {lines points : Nat} (c : Cell) (hl : 2 ≤ lines) (hp : 2 ≤ points)
    (hcl : c.line < lines) (hcp : c.point < points) :
    (squares lines points).countP (fun d => c ∈ d.square.corners) =
      (if c.line = 0 ∨ c.line = lines - 1 then 1 else 2) *
        if c.point = 0 ∨ c.point = points - 1 then 1 else 2 := by
  rw [← countP_range_touching hl hcl, ← countP_range_touching hp hcp, ← countP_squares]
  apply List.countP_congr
  intro d _
  simp only [Cell.mem_corners_square, decide_eq_true_eq, Bool.and_eq_true]

end RotaryScan
