import Mathlib.Data.Finset.Dedup
import RotaryScan.Proofs.Orientation

namespace RotaryScan

namespace Quad

variable {α β : Type} {q r : Quad α}

@[simp] theorem reversed_reversed (q : Quad α) : q.reversed.reversed = q := rfl

theorem mem_sides_reversed (q : Quad α) (a b : α) :
    (a, b) ∈ q.reversed.sides ↔ (b, a) ∈ q.sides := by
  simp only [sides, reversed, List.mem_cons, List.not_mem_nil, or_false, Prod.mk.injEq]
  constructor
  · rintro (⟨rfl, rfl⟩ | ⟨rfl, rfl⟩ | ⟨rfl, rfl⟩ | ⟨rfl, rfl⟩) <;> simp
  · rintro (⟨rfl, rfl⟩ | ⟨rfl, rfl⟩ | ⟨rfl, rfl⟩ | ⟨rfl, rfl⟩) <;> simp

theorem hasEdge_reversed (q : Quad α) (a b : α) : q.reversed.HasEdge a b ↔ q.HasEdge a b := by
  rw [HasEdge, HasEdge, mem_sides_reversed, mem_sides_reversed, or_comm]

theorem doubleArea_reversed (q : Quad Cell) : q.reversed.doubleArea = -q.doubleArea := by
  simp only [doubleArea, sides, reversed, List.map_cons, List.map_nil, List.sum_cons, List.sum_nil]
  ring

def vertexSet [DecidableEq α] (q : Quad α) : Finset α := q.corners.toFinset

/-- Whether each edge that two faces share is walked by them in opposite directions. -/
def Against (q r : Quad α) : Prop :=
  ∀ a b, (a, b) ∈ q.sides → r.HasEdge a b → (b, a) ∈ r.sides ∧ (a, b) ∉ r.sides

def Along (q r : Quad α) : Prop :=
  ∀ a b, (a, b) ∈ q.sides → r.HasEdge a b → (a, b) ∈ r.sides ∧ (b, a) ∉ r.sides

theorem along_iff : q.Along r ↔ q.Against r.reversed := by
  simp only [Along, Against, mem_sides_reversed, hasEdge_reversed]

theorem Against.reversed (h : q.Against r) : q.reversed.Against r.reversed := by
  intro a b ha hb
  rw [mem_sides_reversed] at ha
  rw [hasEdge_reversed, HasEdge, or_comm] at hb
  rw [mem_sides_reversed, mem_sides_reversed]
  exact h b a ha hb

/-- It does not matter how the corners are named, as long as they keep different names. -/
theorem Against.map {f : α → β} {h : β → α} (hq : ∀ a ∈ q.corners, ∀ b, b = f a ↔ h b = a)
    (hr : ∀ a ∈ r.corners, ∀ b, b = f a ↔ h b = a) (ha : q.Against r) :
    (q.map f).Against (r.map f) := by
  intro n m hn he
  rw [mem_sides_map_iff hq] at hn
  rw [HasEdge, mem_sides_map_iff hr, mem_sides_map_iff hr] at he
  rw [mem_sides_map_iff hr, mem_sides_map_iff hr]
  exact ha _ _ hn he

theorem Along.map {f : α → β} {h : β → α} (hq : ∀ a ∈ q.corners, ∀ b, b = f a ↔ h b = a)
    (hr : ∀ a ∈ r.corners, ∀ b, b = f a ↔ h b = a) (ha : q.Along r) :
    (q.map f).Along (r.map f) := by
  rw [along_iff] at ha ⊢
  exact ha.map hq fun a h => hr a (r.corners_reversed.subset h)

end Quad

/-- Two squares meet in at most one edge, which each has on its other side. -/
theorem Cell.against_square {c d : Cell} (h : c ≠ d) : c.square.Against d.square := by
  intro a b hc hd
  have hn : (a, b) ∉ d.square.sides := fun hd => h (Cell.eq_of_mem_sides_square hc hd)
  exact ⟨hd.resolve_left hn, hn⟩

namespace Grid

variable {g : Grid} {lines : Nat} {winding : Winding} {c d : Cell}

theorem walk_forwards (h : ¬Backwards winding c.line) :
    g.walk winding c = (g.covered winding c).square := by
  simp only [walk, covered, if_neg h]

theorem walk_backwards (h : Backwards winding c.line) :
    g.walk winding c = (g.covered winding c).square.reversed :=
  if_pos h

theorem doubleArea_walk (g : Grid) (winding : Winding) (c : Cell) :
    (g.walk winding c).doubleArea = if Backwards winding c.line then -2 else 2 := by
  by_cases hb : Backwards winding c.line
  · rw [walk_backwards hb, Quad.doubleArea_reversed, Cell.doubleArea_square, if_pos hb]
  · rw [walk_forwards hb, Cell.doubleArea_square, if_neg hb]

section Squares

variable (hc : c ∈ squares lines g.points) (hd : d ∈ squares lines g.points)

include hc in
theorem eq_index_walk (winding : Winding) :
    ∀ a ∈ (g.walk winding c).corners, ∀ n, n = g.index a ↔ g.cell n = a :=
  fun a ha => g.eq_index_iff a (g.mem_walk winding hc ha).2

include hc hd

theorem against_covered (winding : Winding) (h : c ≠ d) :
    (g.covered winding c).square.Against (g.covered winding d).square := by
  apply Cell.against_square
  intro he
  apply h
  rw [← g.covered_covered winding hc, he, g.covered_covered winding hd]

theorem against_walk (hl : c.line = d.line) (h : c ≠ d) :
    (g.walk winding c).Against (g.walk winding d) := by
  have hs := against_covered hc hd winding h
  by_cases hb : Backwards winding c.line
  · rw [walk_backwards hb, walk_backwards (hl ▸ hb)]
    exact hs.reversed
  · rw [walk_forwards hb, walk_forwards (hl ▸ hb)]
    exact hs

/-- Of two adjacent lines, the legacy winding goes backwards on one only. -/
theorem along_walk (hl : c.line + 1 = d.line) :
    (g.walk .legacy c).Along (g.walk .legacy d) := by
  have hne : c ≠ d := by
    rintro rfl
    omega
  have hs := against_covered hc hd .legacy hne
  have hb : Backwards .legacy c.line ↔ ¬Backwards .legacy d.line := by
    simp only [Backwards, true_and]
    omega
  -- Turning the second square round makes one walk of the two, and squares walked alike are against.
  rw [Quad.along_iff]
  by_cases hd : Backwards .legacy d.line
  · rw [walk_forwards (mt hb.mp (not_not_intro hd)), walk_backwards hd, Quad.reversed_reversed]
    exact hs
  · rw [walk_backwards (hb.mpr hd), walk_forwards hd]
    exact hs.reversed

end Squares

section Faces

variable {completeLines : Nat} (hc : c ∈ squares (min completeLines g.lines) g.points)
  (hd : d ∈ squares (min completeLines g.lines) g.points)

include hc in
theorem indices_of_getElem?_faces {f : Quad UInt32}
    (hf : (g.faces completeLines winding)[c.line * (g.points - 1) + c.point]? = some f) :
    f.indices = (g.walk winding c).map g.index := by
  have hi := g.indices_quad winding (Nat.min_le_right _ _) hc
  rw [g.quad_eq winding c.line c.point (mem_squares.mp hc).2] at hi
  rw [g.getElem?_faces completeLines winding hc, Option.some.injEq] at hf
  rw [← hf, hi]

include hc in
theorem legacy_face_even (he : c.line % 2 = 0) : ∃ f,
    (g.faces completeLines .consistent)[c.line * (g.points - 1) + c.point]? = some f ∧
      (g.faces completeLines .legacy)[c.line * (g.points - 1) + c.point]? = some f := by
  refine ⟨_, g.getElem?_faces completeLines .consistent hc, ?_⟩
  rw [g.getElem?_faces completeLines .legacy hc, g.walk_consistent,
    g.walk_legacy_even c.line c.point he]

include hc in
theorem legacy_face_odd (ho : c.line % 2 = 1) : ∃ i₀ i₁ i₂ i₃,
    (g.faces completeLines .consistent)[c.line * (g.points - 1) + (g.points - 2 - c.point)]? =
        some ⟨i₀, i₁, i₂, i₃⟩ ∧
      (g.faces completeLines .legacy)[c.line * (g.points - 1) + c.point]? =
        some ⟨i₁, i₀, i₃, i₂⟩ := by
  have hm : Cell.mk c.line (g.points - 2 - c.point) ∈
      squares (min completeLines g.lines) g.points := by
    rw [mem_squares] at hc ⊢
    dsimp only
    omega
  refine ⟨_, _, _, _, g.getElem?_faces completeLines .consistent hm, ?_⟩
  rw [g.getElem?_faces completeLines .legacy hc, g.walk_consistent,
    g.walk_legacy_odd c.line c.point ho]
  rfl

include hc in
theorem doubleArea_legacy_face {f : Quad UInt32}
    (hf : (g.faces completeLines .legacy)[c.line * (g.points - 1) + c.point]? = some f) :
    (f.indices.map g.cell).doubleArea = if c.line % 2 = 0 then 2 else -2 := by
  rw [indices_of_getElem?_faces hc hf, g.map_cell_walk .legacy hc, g.doubleArea_walk]
  simp only [Backwards, true_and]
  split <;> split <;> omega

include hc hd in
theorem against_of_getElem?_faces {f h : Quad UInt32} (hl : c.line = d.line) (hne : c ≠ d)
    (hf : (g.faces completeLines winding)[c.line * (g.points - 1) + c.point]? = some f)
    (hh : (g.faces completeLines winding)[d.line * (g.points - 1) + d.point]? = some h) :
    f.indices.Against h.indices := by
  rw [indices_of_getElem?_faces hc hf, indices_of_getElem?_faces hd hh]
  exact (against_walk hc hd hl hne).map (eq_index_walk hc winding) (eq_index_walk hd winding)

include hc hd in
theorem along_of_getElem?_faces {f h : Quad UInt32} (hl : c.line + 1 = d.line)
    (hf : (g.faces completeLines .legacy)[c.line * (g.points - 1) + c.point]? = some f)
    (hh : (g.faces completeLines .legacy)[d.line * (g.points - 1) + d.point]? = some h) :
    f.indices.Along h.indices := by
  rw [indices_of_getElem?_faces hc hf, indices_of_getElem?_faces hd hh]
  exact (along_walk hc hd hl).map (eq_index_walk hc .legacy) (eq_index_walk hd .legacy)

theorem map_vertexSet_faces (g : Grid) (completeLines : Nat) (winding : Winding) :
    ((g.faces completeLines winding).map Quad.vertexSet).Perm
      ((squares (min completeLines g.lines) g.points).map
        fun c => ((c.square.map g.index).map UInt32.ofNat).vertexSet) := by
  have h : (g.faces completeLines winding).map Quad.vertexSet =
      ((squares (min completeLines g.lines) g.points).map (g.covered winding)).map
        fun c => ((c.square.map g.index).map UInt32.ofNat).vertexSet := by
    rw [faces_eq, List.map_map, List.map_map]
    apply List.map_congr_left
    intro c hc
    simp only [Function.comp_apply, Quad.vertexSet, Quad.corners_map,
      g.quad_eq winding c.line c.point (mem_squares.mp hc).2]
    exact List.toFinset_eq_of_perm _ _ (((g.corners_walk winding c).map _).map _)
  rw [h]
  exact (g.map_covered_perm winding _).map _

end Faces

/-- How the faces under the legacy winding differ from those under the consistent one, over so many
first lines of a grid: not at all on even lines, and on odd lines by running through the squares
backwards, each the other way round. -/
structure Mirrors (g : Grid) (lines : Nat) (legacy consistent : List (Quad UInt32)) : Prop where
  count : legacy.length = (lines - 1) * (g.points - 1) ∧ consistent.length = legacy.length
  even : ∀ l p, l + 1 < lines → p + 1 < g.points → l % 2 = 0 → ∃ f,
    consistent[l * (g.points - 1) + p]? = some f ∧ legacy[l * (g.points - 1) + p]? = some f
  odd : ∀ l p, l + 1 < lines → p + 1 < g.points → l % 2 = 1 → ∃ i₀ i₁ i₂ i₃,
    consistent[l * (g.points - 1) + (g.points - 2 - p)]? = some ⟨i₀, i₁, i₂, i₃⟩ ∧
      legacy[l * (g.points - 1) + p]? = some ⟨i₁, i₀, i₃, i₂⟩
  area : ∀ l p f, l + 1 < lines → p + 1 < g.points → legacy[l * (g.points - 1) + p]? = some f →
    (f.indices.map g.cell).doubleArea = if l % 2 = 0 then 2 else -2
  vertexSets : (legacy.map Quad.vertexSet).Perm (consistent.map Quad.vertexSet)
  sameLine : ∀ l p q f h, l + 1 < lines → p + 1 < g.points → q + 1 < g.points → p ≠ q →
    legacy[l * (g.points - 1) + p]? = some f → legacy[l * (g.points - 1) + q]? = some h →
      f.indices.Against h.indices
  nextLine : ∀ l p q f h, l + 2 < lines → p + 1 < g.points → q + 1 < g.points →
    legacy[l * (g.points - 1) + p]? = some f → legacy[(l + 1) * (g.points - 1) + q]? = some h →
      f.indices.Along h.indices

theorem legacy_faces_mirror (g : Grid) (completeLines : Nat) :
    g.Mirrors (min completeLines g.lines) (g.faces completeLines .legacy)
      (g.faces completeLines .consistent) := by
  have hmem : ∀ l p, l + 1 < min completeLines g.lines → p + 1 < g.points →
      Cell.mk l p ∈ squares (min completeLines g.lines) g.points :=
    fun l p hl hp => mem_squares.mpr ⟨hl, hp⟩
  refine ⟨?_, ?_, ?_, ?_, ?_, ?_, ?_⟩
  · rw [g.length_faces, g.length_faces]
    exact ⟨rfl, rfl⟩
  · intro l p hl hp
    exact legacy_face_even (hmem l p hl hp)
  · intro l p hl hp
    exact legacy_face_odd (hmem l p hl hp)
  · intro l p f hl hp
    exact doubleArea_legacy_face (hmem l p hl hp)
  · exact (g.map_vertexSet_faces completeLines .legacy).trans
      (g.map_vertexSet_faces completeLines .consistent).symm
  · intro l p q f h hl hp hq hne
    exact against_of_getElem?_faces (hmem l p hl hp) (hmem l q hl hq) rfl
      fun he => hne (congrArg Cell.point he)
  · intro l p q f h hl hp hq
    exact along_of_getElem?_faces (hmem l p (Nat.lt_of_succ_lt hl) hp) (hmem (l + 1) q hl hq) rfl

example : (Grid.mk 3 3).faces 3 .legacy = [⟨0, 1, 4, 5⟩, ⟨1, 2, 3, 4⟩, ⟨3, 4, 7, 8⟩, ⟨4, 5, 6, 7⟩] ∧
    (Grid.mk 3 3).faces 3 .consistent =
      [⟨0, 1, 4, 5⟩, ⟨1, 2, 3, 4⟩, ⟨5, 4, 7, 6⟩, ⟨4, 3, 8, 7⟩] := by decide

end Grid

end RotaryScan
