import RotaryScan.Proofs.Mirror
import RotaryScan.Proofs.Reporting

namespace RotaryScan

theorem mem_flippedLines (completeLines l : Nat) :
    l ∈ flippedLines completeLines ↔ l + 1 < completeLines ∧ l % 2 = 1 := by
  rw [flippedLines, List.mem_filter, List.mem_range, decide_eq_true_eq]
  omega

theorem flippedLines_ne_nil_iff (completeLines : Nat) :
    flippedLines completeLines ≠ [] ↔ 3 ≤ completeLines := by
  constructor
  · intro h
    obtain ⟨l, hl⟩ := List.exists_mem_of_ne_nil _ h
    rw [mem_flippedLines] at hl
    omega
  · intro h
    exact List.ne_nil_of_mem ((mem_flippedLines completeLines 1).mpr ⟨h, rfl⟩)

namespace Quad

def Between (q : Quad Cell) (line : Nat) : Prop :=
  (∀ c ∈ q.corners, c.line = line ∨ c.line = line + 1) ∧
    (∃ c ∈ q.corners, c.line = line) ∧ ∃ c ∈ q.corners, c.line = line + 1

theorem between_congr {q r : Quad Cell} (h : q.corners.Perm r.corners) (line : Nat) :
    q.Between line ↔ r.Between line := by
  simp only [Between, h.mem_iff]

theorem between_square_iff (c : Cell) (line : Nat) : c.square.Between line ↔ c.line = line := by
  have hl : ∀ d ∈ c.square.corners, d.line = c.line ∨ d.line = c.line + 1 := by
    intro d hd
    rw [Cell.mem_corners_square] at hd
    omega
  constructor
  · rintro ⟨-, ⟨d, hd, hdl⟩, e, he, hel⟩
    have hd := hl d hd
    have he := hl e he
    omega
  · rintro rfl
    exact ⟨hl, ⟨c, List.mem_cons_self, rfl⟩, ⟨c.line + 1, c.point⟩, by simp [corners, Cell.square], rfl⟩

end Quad

namespace Grid

/-- Whether a face is walked the other way round than the consistent winding walks its vertices. -/
def Opposed (g : Grid) (completeLines : Nat) (f : Quad UInt32) : Prop :=
  ∃ h ∈ g.faces completeLines .consistent, h.indices.corners.Perm f.indices.corners ∧
    (f.indices.map g.cell).doubleArea = -(h.indices.map g.cell).doubleArea

variable {g : Grid} {completeLines : Nat} {c : Cell}

theorem between_walk_iff (g : Grid) (winding : Winding) (c : Cell) (line : Nat) :
    (g.walk winding c).Between line ↔ c.line = line := by
  have hl : (g.covered winding c).line = c.line := by
    unfold covered
    split <;> rfl
  rw [Quad.between_congr (g.corners_walk winding c), Quad.between_square_iff, hl]

theorem exists_face (winding : Winding) (hc : c ∈ squares (min completeLines g.lines) g.points) :
    ∃ f ∈ g.faces completeLines winding, f.indices = (g.walk winding c).map g.index := by
  have h := List.mem_map_of_mem (f := fun c => (g.walk winding c).map g.index) hc
  rwa [← g.map_indices_faces completeLines winding, List.mem_map] at h

theorem opposed_iff {winding : Winding} {f : Quad UInt32}
    (hc : c ∈ squares (min completeLines g.lines) g.points)
    (hf : f.indices = (g.walk winding c).map g.index) :
    g.Opposed completeLines f ↔ Backwards winding c.line := by
  have ha : (f.indices.map g.cell).doubleArea = if Backwards winding c.line then -2 else 2 := by
    rw [hf, g.map_cell_walk winding hc, g.doubleArea_walk]
  constructor
  -- Consistent faces have area 2, so the opposite of one is -2.
  · rintro ⟨h, hh, -, hs⟩
    rw [ha, g.doubleArea_face completeLines h hh] at hs
    by_contra hb
    rw [if_neg hb] at hs
    omega
  · intro hb
    obtain ⟨h, hh, hi⟩ := exists_face .consistent (g.covered_mem winding hc)
    refine ⟨h, hh, ?_, ?_⟩
    · rw [hi, hf, walk_consistent, Quad.corners_map, Quad.corners_map]
      exact ((g.corners_walk winding c).map g.index).symm
    · rw [ha, if_pos hb, g.doubleArea_face completeLines h hh]

end Grid

namespace Scan

def FlippedAt (s : Scan) (mesh : Mesh) (line : Nat) : Prop :=
  ∃ f ∈ mesh.faces, (f.indices.map s.grid.cell).Between line ∧ s.grid.Opposed s.completeLines f

section Converted

variable {s : Scan} {settings : Settings} {mesh : Mesh} (h : (s.convert settings).mesh = .ok mesh)
include h

theorem flippedAt_iff (line : Nat) : s.FlippedAt mesh line ↔
    Grid.Backwards settings.winding line ∧ line + 1 < s.completeLines ∧ 2 ≤ s.grid.points := by
  have hmin : min s.completeLines s.grid.lines = s.completeLines := Nat.min_eq_left s.completeLines_le
  unfold FlippedAt
  rw [faces_of_mesh h]
  constructor
  · rintro ⟨f, hf, hb, ho⟩
    obtain ⟨c, hc, hi⟩ := s.grid.exists_walk s.completeLines settings.winding hf
    rw [Grid.opposed_iff hc hi] at ho
    rw [hi, s.grid.map_cell_walk settings.winding hc, Grid.between_walk_iff] at hb
    rw [mem_squares, hmin] at hc
    subst hb
    exact ⟨ho, hc.1, by omega⟩
  · rintro ⟨hb, hl, hp⟩
    have hc : Cell.mk line 0 ∈ squares (min s.completeLines s.grid.lines) s.grid.points := by
      rw [mem_squares, hmin]
      exact ⟨hl, hp⟩
    obtain ⟨f, hf, hi⟩ := Grid.exists_face settings.winding hc
    refine ⟨f, hf, ?_, (Grid.opposed_iff hc hi).mpr hb⟩
    rw [hi, s.grid.map_cell_walk settings.winding hc, Grid.between_walk_iff]

theorem facesFlipped_mem_log_iff (lines : List Nat) :
    Event.facesFlipped lines ∈ (s.convert settings).log ↔
      settings.winding = .legacy ∧ lines = flippedLines s.completeLines ∧ 3 ≤ s.completeLines := by
  rw [mem_log_iff h, ← flippedLines_ne_nil_iff]
  simp [and_comm, and_left_comm]

end Converted

/-- On lines of two points or more the warning about the legacy winding names the lines with flipped
faces, and is left out only if there are none. Lines of a single point have no faces at all, and there
the warning is wrong from three lines on. -/
theorem flip_warning_truthful (s : Scan) (settings : Settings) (mesh : Mesh)
    (h : (s.convert settings).mesh = .ok mesh) (hw : settings.winding = .legacy) :
    (2 ≤ s.grid.points →
      (∀ lines, Event.facesFlipped lines ∈ (s.convert settings).log →
        ∀ l, l ∈ lines ↔ s.FlippedAt mesh l) ∧
      ((∃ lines, Event.facesFlipped lines ∈ (s.convert settings).log) ↔ ∃ l, s.FlippedAt mesh l)) ∧
    (s.grid.points < 2 →
      mesh.faces = [] ∧
      ((∃ lines, Event.facesFlipped lines ∈ (s.convert settings).log) ↔ 3 ≤ s.completeLines)) := by
  have hflip := flippedAt_iff h
  have hlog := facesFlipped_mem_log_iff h
  simp only [hw, Grid.Backwards, true_and] at hflip hlog
  have hwarned : (∃ lines, Event.facesFlipped lines ∈ (s.convert settings).log) ↔
      3 ≤ s.completeLines := by
    simp only [hlog, exists_eq_left]
  refine ⟨fun hp => ⟨?_, ?_⟩, fun hp => ⟨?_, hwarned⟩⟩
  · intro lines hl l
    rw [((hlog lines).mp hl).1, mem_flippedLines, hflip]
    omega
  · rw [hwarned]
    constructor
    · intro h3
      exact ⟨1, (hflip 1).mpr ⟨rfl, by omega, hp⟩⟩
    · rintro ⟨l, hl⟩
      rw [hflip] at hl
      omega
  · have hl := s.grid.length_faces s.completeLines settings.winding
    have h0 : s.grid.points - 1 = 0 := by omega
    rw [faces_of_mesh h]
    rw [h0, Nat.mul_zero] at hl
    exact List.eq_nil_of_length_eq_zero hl

theorem flip_warning_truthful_partial : ∃ mesh,
    ((Scan.mk { lineCount := 4, pointCount := 2 } [1, 2, 3, 4, 5, 6, 7]).convert
      { winding := .legacy, allowPartial := true }).mesh = .ok mesh ∧
    ∀ l, l ∈ [1] ↔ (Scan.mk { lineCount := 4, pointCount := 2 } [1, 2, 3, 4, 5, 6, 7]).FlippedAt mesh l :=
  ⟨_, rfl, ((flip_warning_truthful (Scan.mk { lineCount := 4, pointCount := 2 } [1, 2, 3, 4, 5, 6, 7])
    { winding := .legacy, allowPartial := true } _ rfl rfl).1 (by decide)).1 [1] (by decide)⟩

/-- Three lines of one point are warned about, although no face is flipped. -/
theorem flip_warning_without_faces : ∃ mesh,
    ((Scan.mk { lineCount := 3, pointCount := 1 } [1, 2, 3]).convert
      { winding := .legacy }).mesh = .ok mesh ∧
    Event.facesFlipped [1] ∈ ((Scan.mk { lineCount := 3, pointCount := 1 } [1, 2, 3]).convert
      { winding := .legacy }).log ∧
    ¬∃ l, (Scan.mk { lineCount := 3, pointCount := 1 } [1, 2, 3]).FlippedAt mesh l := by
  refine ⟨_, rfl, by decide, ?_⟩
  rintro ⟨l, f, hf, -⟩
  cases hf

end Scan

end RotaryScan
