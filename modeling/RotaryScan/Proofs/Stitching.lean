import RotaryScan.Proofs.Serpentine
import RotaryScan.Proofs.Squares

namespace RotaryScan

def Quad.indices (q : Quad UInt32) : Quad Nat := q.map UInt32.toNat

namespace Grid

def Backwards (winding : Winding) (line : Nat) : Prop := winding = .legacy ∧ line % 2 = 1

instance (winding : Winding) (line : Nat) : Decidable (Backwards winding line) :=
  inferInstanceAs (Decidable (_ ∧ _))

/-- The square covered by the face of a line and a point. -/
def covered (g : Grid) (winding : Winding) (c : Cell) : Cell :=
  if Backwards winding c.line then ⟨c.line, g.points - 2 - c.point⟩ else c

def walk (g : Grid) (winding : Winding) (c : Cell) : Quad Cell :=
  if Backwards winding c.line then (g.covered winding c).square.reversed else c.square

theorem walk_consistent (g : Grid) (c : Cell) : g.walk .consistent c = c.square := by
  simp [walk, Backwards]

theorem walk_legacy_even (g : Grid) (line point : Nat) (h : line % 2 = 0) :
    g.walk .legacy ⟨line, point⟩ = (Cell.mk line point).square := by
  simp [walk, Backwards, h]

theorem walk_legacy_odd (g : Grid) (line point : Nat) (h : line % 2 = 1) :
    g.walk .legacy ⟨line, point⟩ = (Cell.mk line (g.points - 2 - point)).square.reversed := by
  simp [walk, covered, Backwards, h]

theorem corners_walk (g : Grid) (winding : Winding) (c : Cell) :
    (g.walk winding c).corners.Perm (g.covered winding c).square.corners := by
  by_cases h : Backwards winding c.line
  · simp only [walk, if_pos h]
    exact Quad.corners_reversed _
  · simp only [walk, covered, if_neg h]
    exact List.Perm.refl _

/-- The legacy winding counts along the lower line and back along the upper one. On an odd line
this is the square of the mirrored point, walked the other way round. -/
theorem quad_legacy (g : Grid) (line point : Nat) (h : point + 1 < g.points) :
    g.quad line point .legacy = (g.walk .legacy ⟨line, point⟩).map g.index := by
  obtain hl | hl := Nat.mod_two_eq_zero_or_one line
  · have hl' : (line + 1) % 2 = 1 := by omega
    simp only [quad, walk_legacy_even g line point hl, Cell.square, Quad.map, Quad.mk.injEq,
      g.index_even line _ hl, g.index_odd (line + 1) _ hl', true_and]
    omega
  · have hl' : (line + 1) % 2 = 0 := by omega
    simp only [quad, walk_legacy_odd g line point hl, Cell.square, Quad.reversed, Quad.map,
      Quad.mk.injEq, g.index_odd line _ hl, g.index_even (line + 1) _ hl']
    omega

theorem quad_eq (g : Grid) (winding : Winding) (line point : Nat) (h : point + 1 < g.points) :
    g.quad line point winding = (g.walk winding ⟨line, point⟩).map g.index := by
  cases winding with
  | consistent =>
    rw [walk_consistent]
    rfl
  | legacy => exact g.quad_legacy line point h

section Squares

variable (g : Grid) (winding : Winding) {lines : Nat} {c : Cell}

theorem covered_mem (h : c ∈ squares lines g.points) :
    g.covered winding c ∈ squares lines g.points := by
  rw [mem_squares] at h ⊢
  by_cases hb : Backwards winding c.line
  · simp only [covered, if_pos hb]
    omega
  · simp only [covered, if_neg hb]
    exact h

theorem covered_covered (h : c ∈ squares lines g.points) :
    g.covered winding (g.covered winding c) = c := by
  rw [mem_squares] at h
  by_cases hb : Backwards winding c.line
  · simp only [covered, if_pos hb]
    apply Cell.ext
    · rfl
    · show g.points - 2 - (g.points - 2 - c.point) = c.point
      omega
  · simp only [covered, if_neg hb]

/-- Whatever the winding, each square is covered once. -/
theorem map_covered_perm (lines : Nat) :
    ((squares lines g.points).map (g.covered winding)).Perm (squares lines g.points) := by
  have hn : ((squares lines g.points).map (g.covered winding)).Nodup := by
    apply (nodup_squares lines g.points).map_on
    intro c hc d hd h
    rw [← g.covered_covered winding hc, h, g.covered_covered winding hd]
  apply (List.perm_ext_iff_of_nodup hn (nodup_squares lines g.points)).mpr
  intro c
  constructor
  · intro h
    obtain ⟨d, hd, rfl⟩ := List.mem_map.mp h
    exact g.covered_mem winding hd
  · intro h
    exact List.mem_map.mpr ⟨g.covered winding c, g.covered_mem winding h, g.covered_covered winding h⟩

theorem countP_covered (lines : Nat) (p : Cell → Bool) :
    (squares lines g.points).countP (fun c => p (g.covered winding c)) =
      (squares lines g.points).countP p := by
  have h := (g.map_covered_perm winding lines).countP_eq p
  rw [List.countP_map] at h
  exact h

theorem mem_walk {d : Cell} (hc : c ∈ squares lines g.points)
    (hd : d ∈ (g.walk winding c).corners) : d.line < lines ∧ d.point < g.points := by
  have hs := mem_squares.mp (g.covered_mem winding hc)
  have hd := (Cell.mem_corners_square _ _).mp ((g.corners_walk winding c).subset hd)
  omega

theorem map_cell_walk (hc : c ∈ squares lines g.points) :
    ((g.walk winding c).map g.index).map g.cell = g.walk winding c :=
  Quad.map_congr fun d hd => g.cell_index d (g.mem_walk winding hc hd).2

theorem nodup_walk_index (hc : c ∈ squares lines g.points) :
    ((g.walk winding c).map g.index).corners.Nodup := by
  have hn : (g.walk winding c).corners.Nodup :=
    (g.corners_walk winding c).nodup_iff.mpr (Cell.nodup_corners_square _)
  rw [Quad.corners_map]
  apply hn.map_on
  intro d hd e he h
  rw [← g.cell_index d (g.mem_walk winding hc hd).2, h, g.cell_index e (g.mem_walk winding hc he).2]

theorem walk_index_lt (hc : c ∈ squares lines g.points) {n : Nat}
    (hn : n ∈ ((g.walk winding c).map g.index).corners) : n < lines * g.points := by
  rw [Quad.corners_map] at hn
  obtain ⟨d, hd, rfl⟩ := List.mem_map.mp hn
  obtain ⟨hl, hp⟩ := g.mem_walk winding hc hd
  exact g.index_lt d hp hl

theorem mem_corners_walk_index (hc : c ∈ squares lines g.points) (n : Nat) :
    n ∈ ((g.walk winding c).map g.index).corners ↔ g.cell n ∈ (g.walk winding c).corners :=
  Quad.mem_corners_map_iff (fun d hd => g.eq_index_iff d (g.mem_walk winding hc hd).2) n

theorem mem_sides_walk_index (hc : c ∈ squares lines g.points) (n m : Nat) :
    (n, m) ∈ ((g.walk winding c).map g.index).sides ↔
      (g.cell n, g.cell m) ∈ (g.walk winding c).sides :=
  Quad.mem_sides_map_iff (fun d hd => g.eq_index_iff d (g.mem_walk winding hc hd).2) n m

theorem indices_quad (hl : lines ≤ g.lines) (hc : c ∈ squares lines g.points) :
    ((g.quad c.line c.point winding).map UInt32.ofNat).indices = (g.walk winding c).map g.index := by
  have hi : ∀ d ∈ (g.walk winding c).corners, (UInt32.ofNat (g.index d)).toNat = g.index d := by
    intro d hd
    obtain ⟨hdl, hdp⟩ := g.mem_walk winding hc hd
    have h : g.index d < g.cellCount := g.index_lt d hdp (Nat.lt_of_lt_of_le hdl hl)
    exact UInt32.toNat_ofNat_of_lt' (Nat.lt_trans (Nat.lt_trans h g.cellCount_lt) (by decide))
  rw [g.quad_eq winding c.line c.point (mem_squares.mp hc).2]
  exact Quad.map_congr hi

end Squares

section Faces

variable (g : Grid) (completeLines : Nat) (winding : Winding)

theorem faces_eq : g.faces completeLines winding =
    (squares (min completeLines g.lines) g.points).map
      fun c => (g.quad c.line c.point winding).map UInt32.ofNat := by
  by_cases h : min completeLines g.lines < 2 ∨ g.points < 2
  · rw [squares_eq_nil h]
    exact if_pos h
  · simp only [faces, if_neg h, squares, List.map_flatMap, List.map_map, Function.comp_def]

theorem getElem?_faces {c : Cell} (hc : c ∈ squares (min completeLines g.lines) g.points) :
    (g.faces completeLines winding)[c.line * (g.points - 1) + c.point]? =
      some (((g.walk winding c).map g.index).map UInt32.ofNat) := by
  rw [faces_eq, List.getElem?_map, getElem?_squares hc, Option.map_some,
    g.quad_eq winding c.line c.point (mem_squares.mp hc).2]

theorem length_faces : (g.faces completeLines winding).length =
    (min completeLines g.lines - 1) * (g.points - 1) := by
  rw [faces_eq, List.length_map, length_squares]

theorem map_indices_faces : (g.faces completeLines winding).map Quad.indices =
    (squares (min completeLines g.lines) g.points).map fun c => (g.walk winding c).map g.index := by
  rw [faces_eq, List.map_map]
  apply List.map_congr_left
  intro c hc
  exact g.indices_quad winding (Nat.min_le_right _ _) hc

theorem exists_walk {f : Quad UInt32} (hf : f ∈ g.faces completeLines winding) :
    ∃ c ∈ squares (min completeLines g.lines) g.points,
      f.indices = (g.walk winding c).map g.index := by
  have h := List.mem_map_of_mem (f := Quad.indices) hf
  rw [map_indices_faces] at h
  obtain ⟨c, hc, he⟩ := List.mem_map.mp h
  exact ⟨c, hc, he.symm⟩

theorem countP_faces (p : Quad Nat → Bool) :
    (g.faces completeLines winding).countP (fun f => p f.indices) =
      (squares (min completeLines g.lines) g.points).countP
        fun c => p ((g.walk winding c).map g.index) := by
  have h := congrArg (List.countP p) (g.map_indices_faces completeLines winding)
  rw [List.countP_map, List.countP_map] at h
  exact h

end Faces

end Grid

end RotaryScan
