import Mathlib.Algebra.Order.Floor.Div
import RotaryScan.Proofs.Reveal

namespace RotaryScan

/-- Whether a number is one of so many shares of a total, rounded down or up. -/
def IsShare (n total parts : Nat) : Prop := n = total / parts ∨ n = total ⌈/⌉ parts

theorem ceilDiv_of_mod_ne_zero {total parts : Nat} (hp : 0 < parts) (h : total % parts ≠ 0) :
    total ⌈/⌉ parts = total / parts + 1 := by
  have hm := Nat.div_add_mod total parts
  have hlt := Nat.mod_lt total hp
  apply Nat.le_antisymm
  · rw [ceilDiv_le_iff_le_mul hp, Nat.mul_succ]
    omega
  · apply Nat.lt_of_not_le
    rw [ceilDiv_le_iff_le_mul hp]
    omega

theorem div_le_of_isShare {n total parts : Nat} (h : IsShare n total parts) : total / parts ≤ n := by
  obtain rfl | rfl := h
  · exact Nat.le_refl _
  · rw [← Nat.floorDiv_eq_div]
    exact floorDiv_le_ceilDiv

/-- When a numerator grows, its quotient grows by the share of what was added. -/
theorem exists_share (a total : Nat) {parts : Nat} (hp : 0 < parts) :
    ∃ n, IsShare n total parts ∧ (a + total) / parts = a / parts + n := by
  have hlt := Nat.mod_lt a hp
  rw [Nat.add_div hp, Nat.add_assoc]
  split
  · have hm : total % parts ≠ 0 := by omega
    exact ⟨_, .inr (ceilDiv_of_mod_ne_zero hp hm).symm, rfl⟩
  · exact ⟨_, .inl (Nat.add_zero _), rfl⟩

theorem countP_range_between (n a b : Nat) :
    (List.range n).countP (fun i => a ≤ i ∧ i < b) = min b n - a := by
  induction n with
  | zero => simp
  | succ n ih =>
    rw [List.range_succ, List.countP_append, ih, List.countP_singleton]
    simp only [decide_eq_true_eq]
    split <;> omega

namespace BuildOrder

variable (b : BuildOrder) {i j k count : Nat}

theorem toNat_addFrames_eq_min (a b : UInt32) :
    (addFrames a b).toNat = min (a.toNat + b.toNat) (UInt32.size - 1) := by
  by_cases h : a.toNat + b.toNat < UInt32.size
  · rw [toNat_addFrames h]
    omega
  · have hmax : (0xffffffff : UInt32).toNat = UInt32.size - 1 := rfl
    rw [addFrames, if_neg h, hmax]
    omega

theorem offset_lt_max (h : i < count) : b.offset i count < max b.frameDuration.toNat 1 := by
  obtain hd | hd := Nat.eq_zero_or_pos b.frameDuration.toNat
  · rw [offset, hd, Nat.mul_zero, Nat.zero_div]
    omega
  · have ho := offset_lt h hd
    omega

theorem offset_lt_size (h : i < count) : b.offset i count < UInt32.size := by
  have ho : b.offset i count ≤ b.frameDuration.toNat := offset_le (Nat.le_of_lt h)
  have hd := b.frameDuration.toNat_lt
  have hsize : UInt32.size = 2 ^ 32 := rfl
  omega

theorem mul_frameDuration_lt_size (h : i < count) (hmax : count ≤ UInt32.size) :
    i * b.frameDuration.toNat < UInt64.size := by
  calc i * b.frameDuration.toNat
      < UInt32.size * UInt32.size :=
        Nat.mul_lt_mul'' (Nat.lt_of_lt_of_le h hmax) b.frameDuration.toNat_lt
    _ = UInt64.size := by decide

theorem toNat_offset (h : i < count) : (UInt32.ofNat (b.offset i count)).toNat = b.offset i count :=
  UInt32.toNat_ofNat_of_lt' (b.offset_lt_size h)

theorem offset_mono (h : i ≤ j) : b.offset i count ≤ b.offset j count :=
  Nat.div_le_div_right (Nat.mul_le_mul_right _ h)

theorem toNat_faceFrame_eq_min (h : i < count) :
    (b.faceFrame i count).toNat =
      min (b.frameStart.toNat + b.offset i count) (UInt32.size - 1) := by
  have hc : count ≠ 0 := by omega
  rw [faceFrame, if_neg hc, toNat_addFrames_eq_min, ← offset, b.toNat_offset h]

theorem faceFrame_mono (hij : i ≤ j) (hj : j < count) :
    b.faceFrame i count ≤ b.faceFrame j count := by
  have ho : b.offset i count ≤ b.offset j count := b.offset_mono hij
  rw [UInt32.le_iff_toNat_le, b.toNat_faceFrame_eq_min (Nat.lt_of_le_of_lt hij hj),
    b.toNat_faceFrame_eq_min hj]
  omega

theorem faceFrame_zero (count : Nat) : b.faceFrame 0 count = b.frameStart := by
  obtain rfl | hc := Nat.eq_zero_or_pos count
  · exact if_pos rfl
  · have hs := b.frameStart.toNat_lt
    have hsize : UInt32.size = 2 ^ 32 := rfl
    apply UInt32.toNat_inj.mp
    rw [b.toNat_faceFrame_eq_min hc, offset, Nat.zero_mul, Nat.zero_div]
    omega

theorem frameStart_le_faceFrame (h : i < count) : b.frameStart ≤ b.faceFrame i count := by
  rw [← b.faceFrame_zero count]
  exact b.faceFrame_mono (Nat.zero_le i) h

theorem faceFrame_le_frameEnd (h : i < count) : b.faceFrame i count ≤ b.frameEnd := by
  have ho : b.offset i count ≤ b.frameDuration.toNat := offset_le (Nat.le_of_lt h)
  rw [UInt32.le_iff_toNat_le, b.toNat_faceFrame_eq_min h, frameEnd, toNat_addFrames_eq_min]
  omega

/-- The number of the first face that appears so many frames after the start, or later. -/
def firstFace (k count : Nat) : Nat := (k * count) ⌈/⌉ b.frameDuration.toNat

section Shared

/- A range with at least one frame. -/
variable (hd : 0 < b.frameDuration.toNat)
include hd

theorem firstFace_le (hk : k ≤ b.frameDuration.toNat) : b.firstFace k count ≤ count := by
  rw [firstFace, ceilDiv_le_iff_le_mul hd]
  exact Nat.mul_le_mul_right _ hk

theorem firstFace_succ : ∃ n, IsShare n count b.frameDuration.toNat ∧
    b.firstFace (k + 1) count = b.firstFace k count + n := by
  obtain ⟨n, hn, he⟩ := exists_share (k * count + b.frameDuration.toNat - 1) count hd
  refine ⟨n, hn, ?_⟩
  rw [firstFace, firstFace, Nat.ceilDiv_eq_add_pred_div, Nat.ceilDiv_eq_add_pred_div, ← he,
    Nat.succ_mul]
  congr 1
  omega

variable (hc : 0 < count)
include hc

theorem offset_lt_iff : b.offset i count < k ↔ i < b.firstFace k count := by
  rw [offset, Nat.div_lt_iff_lt_mul hc, ← Nat.not_le, ← Nat.not_le, firstFace,
    ceilDiv_le_iff_le_mul hd, Nat.mul_comm i]

theorem countP_offset (hk : k < b.frameDuration.toNat) :
    IsShare ((List.range count).countP fun i => b.offset i count = k) count
      b.frameDuration.toNat := by
  obtain ⟨n, hn, he⟩ : ∃ n, IsShare n count b.frameDuration.toNat ∧
    b.firstFace (k + 1) count = b.firstFace k count + n := b.firstFace_succ hd
  have hle : b.firstFace (k + 1) count ≤ count := b.firstFace_le hd hk
  have hcount : (List.range count).countP (fun i => b.offset i count = k) =
      (List.range count).countP fun i => b.firstFace k count ≤ i ∧ i < b.firstFace (k + 1) count := by
    apply List.countP_congr
    intro i _
    rw [decide_eq_true_eq, decide_eq_true_eq, ← Nat.not_lt, ← b.offset_lt_iff hd hc,
      ← b.offset_lt_iff hd hc]
    omega
  have heq : min (b.firstFace (k + 1) count) count - b.firstFace k count = n := by
    omega
  rw [hcount, countP_range_between, heq]
  exact hn

end Shared

section Range

/- A range that ends before the largest frame number. -/
variable (hs : b.frameStart.toNat + b.frameDuration.toNat < UInt32.size)
include hs

theorem faceFrame_lt_frameEnd (h : i < count) (hd : 0 < b.frameDuration.toNat) :
    b.faceFrame i count < b.frameEnd := by
  have ho : b.offset i count < b.frameDuration.toNat := offset_lt h hd
  rw [UInt32.lt_iff_toNat_lt, toNat_faceFrame h hs, toNat_frameEnd hs]
  omega

theorem faceFrame_succ (h : i + 1 < count) :
    ∃ gap, IsShare gap b.frameDuration.toNat count ∧
      (b.faceFrame (i + 1) count).toNat = (b.faceFrame i count).toNat + gap := by
  obtain ⟨gap, hgap, he⟩ := exists_share (i * b.frameDuration.toNat) b.frameDuration.toNat
    (Nat.zero_lt_of_lt h)
  refine ⟨gap, hgap, ?_⟩
  rw [toNat_faceFrame h hs, toNat_faceFrame (Nat.lt_of_succ_lt h) hs, offset, offset, Nat.succ_mul,
    he, Nat.add_assoc]

theorem count_frames (hc : 0 < count) (hd : 0 < b.frameDuration.toNat) {f : UInt32}
    (hf : b.frameStart ≤ f) (hlt : f < b.frameEnd) :
    IsShare ((b.frames count).count f) count b.frameDuration.toNat := by
  rw [UInt32.lt_iff_toNat_lt, toNat_frameEnd hs] at hlt
  rw [UInt32.le_iff_toNat_le] at hf
  have hcount : (b.frames count).count f =
      (List.range count).countP fun i => b.offset i count = f.toNat - b.frameStart.toNat := by
    rw [frames, List.count, List.countP_map]
    apply List.countP_congr
    intro i hi
    rw [Function.comp_apply, beq_iff_eq, decide_eq_true_eq, ← UInt32.toNat_inj,
      toNat_faceFrame (List.mem_range.mp hi) hs]
    omega
  rw [hcount]
  exact b.countP_offset hd hc (by omega)

end Range

/-- Faces appear in their order, from the first frame of the range on and never after its end, with
no overflow on the way. Where the range ends before the largest frame number, they are spread evenly:
the frames between two of them, and the faces in one frame, are as many as even shares allow. -/
theorem faces_spread_evenly (hmax : count ≤ UInt32.size) :
    (∀ i < count,
      i * b.frameDuration.toNat < UInt64.size ∧
      i * b.frameDuration.toNat / count < max b.frameDuration.toNat 1 ∧
      (UInt32.ofNat (i * b.frameDuration.toNat / count)).toNat =
        i * b.frameDuration.toNat / count ∧
      b.frameStart ≤ b.faceFrame i count ∧ b.faceFrame i count ≤ b.frameEnd) ∧
    b.faceFrame 0 count = b.frameStart ∧
    (∀ i j, i ≤ j → j < count → b.faceFrame i count ≤ b.faceFrame j count) ∧
    (b.frameStart.toNat + b.frameDuration.toNat < UInt32.size →
      (0 < b.frameDuration.toNat → ∀ i < count, b.faceFrame i count < b.frameEnd) ∧
      (∀ i, i + 1 < count → ∃ gap, IsShare gap b.frameDuration.toNat count ∧
        (b.faceFrame (i + 1) count).toNat = (b.faceFrame i count).toNat + gap) ∧
      (0 < b.frameDuration.toNat → b.frameDuration.toNat ≤ count →
        ∀ f, b.frameStart.toNat ≤ f.toNat →
          f.toNat < b.frameStart.toNat + b.frameDuration.toNat →
          f ∈ b.frames count ∧ IsShare ((b.frames count).count f) count b.frameDuration.toNat)) := by
  refine ⟨fun i hi => ⟨b.mul_frameDuration_lt_size hi hmax, b.offset_lt_max hi, b.toNat_offset hi,
    b.frameStart_le_faceFrame hi, b.faceFrame_le_frameEnd hi⟩, b.faceFrame_zero count,
    fun i j => b.faceFrame_mono,
    fun hs => ⟨fun hd i hi => b.faceFrame_lt_frameEnd hs hi hd, fun i => b.faceFrame_succ hs, ?_⟩⟩
  intro hd hle f hf hlt
  rw [← toNat_frameEnd hs, ← UInt32.lt_iff_toNat_lt] at hlt
  have hshare := b.count_frames hs (Nat.lt_of_lt_of_le hd hle) hd (UInt32.le_iff_toNat_le.mpr hf) hlt
  have hpos : 0 < count / b.frameDuration.toNat := Nat.div_pos hle hd
  have hcount : 0 < (b.frames count).count f :=
    Nat.lt_of_lt_of_le hpos (div_le_of_isShare hshare)
  exact ⟨List.count_pos_iff.mp hcount, hshare⟩

theorem faces_spread_evenly_twenty :
    let b : BuildOrder := ⟨1, 7⟩
    20 ≤ UInt32.size ∧ (∀ i < 20, b.frameStart ≤ b.faceFrame i 20 ∧ b.faceFrame i 20 < b.frameEnd) ∧
      (∃ gap, IsShare gap 7 20 ∧ (b.faceFrame 3 20).toNat = (b.faceFrame 2 20).toNat + gap) ∧
      4 ∈ b.frames 20 ∧ (b.frames 20).count 4 = 3 ∧ IsShare 3 20 7 := by
  intro b
  have hmax : 20 ≤ UInt32.size := by decide
  obtain ⟨hrange, -, -, heven⟩ := b.faces_spread_evenly hmax
  obtain ⟨hend, hgap, hshare⟩ := heven (by decide)
  have hf := hshare (by decide) (by decide) 4 (by decide) (by decide)
  have hcount : (b.frames 20).count 4 = 3 := by decide
  rw [hcount] at hf
  exact ⟨hmax, fun i hi => ⟨(hrange i hi).2.2.2.1, hend (by decide) i hi⟩, hgap 2 (by decide), hf.1,
    hcount, hf.2⟩

end BuildOrder

end RotaryScan
