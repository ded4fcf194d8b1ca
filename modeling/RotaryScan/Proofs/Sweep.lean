import RotaryScan.Proofs.Serpentine

namespace RotaryScan

namespace Cell

def Beside (a b : Cell) : Prop :=
  a.line = b.line ∧ (a.point + 1 = b.point ∨ b.point + 1 = a.point)

def Below (a b : Cell) : Prop := a.line + 1 = b.line ∧ a.point = b.point

end Cell

namespace Grid

variable (g : Grid) (n : Nat)

theorem turn_or_follow :
    ((n + 1) % g.points = 0 ∧ (n + 1) / g.points = n / g.points + 1 ∧
      n % g.points + 1 = g.points) ∨
    ((n + 1) % g.points ≠ 0 ∧ (n + 1) / g.points = n / g.points ∧
      (n + 1) % g.points = n % g.points + 1) := by
  have hn := Nat.div_add_mod' n g.points
  have hs := Nat.div_add_mod' (n + 1) g.points
  by_cases hm : (n + 1) % g.points = 0
  · have hd : (n + 1) / g.points = n / g.points + 1 := Nat.succ_div_of_mod_eq_zero hm
    rw [hd, hm, Nat.succ_mul] at hs
    exact .inl ⟨hm, hd, by omega⟩
  · have hd : (n + 1) / g.points = n / g.points := Nat.succ_div_of_mod_ne_zero hm
    rw [hd] at hs
    exact .inr ⟨hm, hd, by omega⟩

/-- At the end of a line the sweep stays at its point and turns round. -/
theorem below_of_turn (hd : (n + 1) / g.points = n / g.points + 1) (hm : (n + 1) % g.points = 0)
    (hl : n % g.points + 1 = g.points) : (g.cell n).Below (g.cell (n + 1)) := by
  simp only [Cell.Below, cell, hd, hm, true_and]
  split <;> split <;> omega

theorem beside_of_follow (hd : (n + 1) / g.points = n / g.points)
    (hm : (n + 1) % g.points = n % g.points + 1) (hl : n % g.points + 1 < g.points) :
    (g.cell n).Beside (g.cell (n + 1)) := by
  simp only [Cell.Beside, cell, hd, hm, true_and]
  split <;> omega

theorem beside_or_below (h : 0 < g.points) :
    ((g.cell n).Beside (g.cell (n + 1)) ∨ (g.cell n).Below (g.cell (n + 1))) ∧
      ((g.cell n).Below (g.cell (n + 1)) ↔ (n + 1) % g.points = 0) := by
  obtain ⟨hm, hd, hl⟩ | ⟨hne, hd, hm⟩ := g.turn_or_follow n
  · have hb := g.below_of_turn n hd hm hl
    exact ⟨.inr hb, iff_of_true hb hm⟩
  · have hl : n % g.points + 1 < g.points := hm ▸ Nat.mod_lt (n + 1) h
    have hb := g.beside_of_follow n hd hm hl
    have hnot : ¬(g.cell n).Below (g.cell (n + 1)) := by
      rintro ⟨hline, -⟩
      have hsame := hb.1
      omega
    exact ⟨.inl hb, iff_of_false hnot hne⟩

/-- Lines are swept one after the other, and each from the side where it is entered. -/
theorem index_lt_iff (c : Cell) (hp : c.point < g.points) :
    g.index c < n ↔ c.line < n / g.points ∨
      (c.line = n / g.points ∧ g.offset c < n % g.points) := by
  have hn := Nat.div_add_mod' n g.points
  obtain hl | hl | hl := Nat.lt_trichotomy c.line (n / g.points)
  · have hi : g.index c < n / g.points * g.points := g.index_lt c hp hl
    exact iff_of_true (by omega) (.inl hl)
  · rw [g.index_eq c hp, hl]
    omega
  · have hm : (n / g.points + 1) * g.points ≤ c.line * g.points := Nat.mul_le_mul_right _ hl
    have hlt := Nat.mod_lt n (Nat.zero_lt_of_lt hp)
    rw [Nat.succ_mul] at hm
    rw [g.index_eq c hp]
    omega

theorem offset_lt_iff (c : Cell) (hp : c.point < g.points) {k : Nat} (hk : k < g.points) :
    g.offset c < k ↔ if c.line % 2 = 0 then c.point < k else g.points - k ≤ c.point := by
  unfold offset
  split <;> omega

/-- The sweep goes from each cell to one next to it, and to the next line exactly when a line is full.
What it has passed is all full lines, and of the line it is on the part at the side where it entered:
lines of even number are entered at point 0, the others at their last point. -/
theorem sweep_fills_lines (h : 0 < g.points) :
    ((g.cell n).Beside (g.cell (n + 1)) ∨ (g.cell n).Below (g.cell (n + 1))) ∧
    ((g.cell n).Below (g.cell (n + 1)) ↔ (n + 1) % g.points = 0) ∧
    ∀ c : Cell, c ∈ (List.range n).map g.cell ↔ c.point < g.points ∧
      (c.line < n / g.points ∨ (c.line = n / g.points ∧
        if n / g.points % 2 = 0 then c.point < n % g.points
        else g.points - n % g.points ≤ c.point)) := by
  obtain ⟨hnext, hturn⟩ := g.beside_or_below n h
  refine ⟨hnext, hturn, fun c => ?_⟩
  rw [g.mem_map_cell_range n c h]
  apply and_congr_right
  intro hp
  rw [g.index_lt_iff n c hp]
  apply or_congr_right
  apply and_congr_right
  intro hl
  rw [g.offset_lt_iff c hp (Nat.mod_lt n h), hl]

theorem sweep_fills_lines_second :
    let g : Grid := ⟨2, 3⟩
    0 < g.points ∧ (g.cell 4).Beside (g.cell 5) ∧ ¬(g.cell 4).Below (g.cell 5) ∧
      ∀ c : Cell, c ∈ [g.cell 0, g.cell 1, g.cell 2, g.cell 3] ↔
        c.point < 3 ∧ (c.line < 1 ∨ (c.line = 1 ∧ 2 ≤ c.point)) := by
  intro g
  have h : 0 < g.points := by decide
  obtain ⟨hnext, hturn, hcells⟩ := g.sweep_fills_lines 4 h
  have hnot : ¬(g.cell 4).Below (g.cell 5) := mt hturn.mp (by decide)
  have hp : g.points = 3 := rfl
  simp only [hp, Nat.reduceDiv, Nat.reduceMod, if_neg Nat.one_ne_zero] at hcells
  exact ⟨h, hnext.resolve_right hnot, hnot, hcells⟩

end Grid

end RotaryScan
