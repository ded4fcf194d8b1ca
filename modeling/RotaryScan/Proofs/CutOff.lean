import RotaryScan.Proofs.Codec
import RotaryScan.Proofs.Placement
import RotaryScan.Sink

namespace RotaryScan

namespace Sink

/-- However the bytes are divided into pieces, a limited sink takes as many of them as it has room
for, and all pieces are taken only if together they fit. -/
theorem acceptAll_limited (pieces : List (List UInt8)) (room : Nat) (taken : Array UInt8) :
    acceptAll ⟨some room, taken⟩ pieces =
      (⟨some (room - pieces.flatten.length), taken ++ pieces.flatten.take room⟩,
        decide (pieces.flatten.length ≤ room)) := by
  induction pieces generalizing room taken with
  | nil => simp [acceptAll]
  | cons piece pieces ih =>
    rw [List.flatten_cons, List.length_append]
    by_cases h : piece.length ≤ room
    · have hr : room - piece.length - pieces.flatten.length =
          room - (piece.length + pieces.flatten.length) := by omega
      have hd : pieces.flatten.length ≤ room - piece.length ↔
          piece.length + pieces.flatten.length ≤ room := by omega
      have ht : taken ++ piece.take room ++ pieces.flatten.take (room - piece.length) =
          taken ++ (piece ++ pieces.flatten).take room := by
        apply Array.toList_inj.mp
        simp only [Array.toList_appendList, List.append_assoc, List.take_append]
      simp only [acceptAll, fits, accept, decide_eq_true_eq, if_pos h, ih, hr, hd, ht]
    · have hr : room - piece.length = room - (piece.length + pieces.flatten.length) := by omega
      have hd : ¬piece.length + pieces.flatten.length ≤ room := by omega
      have ht : (piece ++ pieces.flatten).take room = piece.take room :=
        List.take_append_of_le_length (by omega)
      simp only [acceptAll, fits, accept, decide_eq_true_eq, if_neg h, hr, hd, ht, decide_false]

theorem acceptAll_unlimited (pieces : List (List UInt8)) (taken : Array UInt8) :
    acceptAll ⟨none, taken⟩ pieces = (⟨none, taken ++ pieces.flatten⟩, true) := by
  induction pieces generalizing taken with
  | nil => simp [acceptAll]
  | cons piece pieces ih => simp [acceptAll, fits, accept, ih, ← Array.toList_inj]

end Sink

namespace Scan

theorem take_flatMap_encodeSample (samples : List UInt32) (count : Nat) :
    (samples.flatMap encodeSample).take (4 * count) = (samples.take count).flatMap encodeSample := by
  induction count generalizing samples with
  | zero => simp
  | succ count ih =>
    cases samples with
    | nil => rfl
    | cons s samples =>
      have hc : 4 * (count + 1) = (encodeSample s).length + 4 * count := by
        rw [length_encodeSample]
        omega
      rw [List.flatMap_cons, hc, List.take_length_add_append, ih, List.take_succ_cons,
        List.flatMap_cons]

def cutAfter (s : Scan) (count : Nat) : Scan := ⟨s.header, s.samples.take count⟩

theorem encode_cutAfter (s : Scan) (count : Nat) :
    (s.cutAfter count).encode = s.encode.take (6 + 4 * count) := by
  have hc : 6 + 4 * count = s.header.encode.length + 4 * count := rfl
  rw [encode_eq, encode_eq, hc, List.take_length_add_append, take_flatMap_encodeSample]
  rfl

theorem length_cutAfter (s : Scan) (count : Nat) (h : count ≤ s.samples.length) :
    (s.cutAfter count).samples.length = count :=
  List.length_take_of_le h

theorem decode_take (s : Scan) (k : Nat) (h : k < s.encode.length) :
    decode (s.encode.take k) =
      if k < 6 then .error (.shortHeader k)
      else if (k - 6) % 4 ≠ 0 then .error (.trailingBytes ((k - 6) % 4))
      else .ok (s.cutAfter ((k - 6) / 4)) := by
  have hl : (s.encode.take k).length = k := List.length_take_of_le (Nat.le_of_lt h)
  have hcases := decode_cases (s.encode.take k)
  rw [hl] at hcases
  obtain ⟨h6, hd⟩ | ⟨h6, hr, hd⟩ | ⟨h6, hr, -⟩ := hcases
  · rw [hd, if_pos h6]
  · rw [hd, if_neg (by omega), if_pos hr]
  -- Cut between two samples, the file is that of a scan itself.
  · have hk : k = 6 + 4 * ((k - 6) / 4) := by omega
    have he : s.encode.take k = (s.cutAfter ((k - 6) / 4)).encode := by
      rw [encode_cutAfter, ← hk]
    rw [if_neg (by omega), if_neg (by omega), he, decode_encode]

theorem convert_cutAfter (s : Scan) (settings : Settings) (count : Nat)
    (hs : count ≤ s.samples.length) (hc : count < s.expected) (hp : settings.allowPartial = false) :
    ((s.cutAfter count).convert settings).mesh =
      .error (if (s.cutAfter count).samples = [] then .noSamples
        else .truncated s.expected count) := by
  have hl := s.length_cutAfter count hs
  obtain ⟨he, -⟩ | ⟨-, h0, hv⟩ | ⟨-, h0, -, hv⟩ | ⟨-, -, hw, -⟩ := (s.cutAfter count).convert_cases settings
  · have h0 : 0 < s.grid.lines * s.grid.points := Nat.zero_lt_of_lt hc
    exact absurd he (s.grid.not_isEmpty_iff.mpr
      ⟨Nat.pos_of_mul_pos_right h0, Nat.pos_of_mul_pos_left h0⟩)
  · rw [hv, if_pos (List.length_eq_zero_iff.mp h0)]
    rfl
  · rw [hv, hl, if_neg (mt List.length_eq_zero_iff.mpr h0)]
    rfl
  · rw [hl] at hw
    exact absurd ⟨hc, by simp [hp]⟩ hw

/-- Writing that breaks off leaves a prefix of the file and says so. What is read from a prefix is at
best a scan of fewer samples, and of a scan that was whole it is then too few to be converted. -/
theorem cut_off_detected (s : Scan) (k : Nat) :
    (Sink.acceptAll { room := some k } s.pieces).1.taken.toList =
      s.encode.take (min k s.encode.length) ∧
    ((Sink.acceptAll { room := some k } s.pieces).2 = false ↔ k < s.encode.length) ∧
    (k < s.encode.length →
      decode (s.encode.take k) =
        (if k < 6 then .error (.shortHeader k)
        else if (k - 6) % 4 ≠ 0 then .error (.trailingBytes ((k - 6) % 4))
        else .ok ⟨s.header, s.samples.take ((k - 6) / 4)⟩) ∧
      (s.samples.length = s.expected → 0 < s.expected →
        ∀ settings : Settings, settings.allowPartial = false →
          (∃ e, decode (s.encode.take k) = .error e) ∨
          ∃ t, decode (s.encode.take k) = .ok t ∧
            (t.convert settings).mesh = .error
              (if t.samples = [] then .noSamples else .truncated s.expected ((k - 6) / 4)))) := by
  have he : s.pieces.flatten = s.encode := rfl
  rw [Sink.acceptAll_limited, he]
  refine ⟨?_, ?_, fun hk => ?_⟩
  · rw [Array.toList_appendList, List.nil_append, ← List.take_eq_take_min]
  · rw [decide_eq_false_iff_not, Nat.not_le]
  · have hd := s.decode_take k hk
    refine ⟨hd, fun hw h0 settings hp => ?_⟩
    split at hd
    · exact .inl ⟨_, hd⟩
    split at hd
    · exact .inl ⟨_, hd⟩
    · rw [length_encode] at hk
      have hs : (k - 6) / 4 ≤ s.samples.length := by omega
      exact .inr ⟨_, hd, s.convert_cutAfter settings _ hs (by omega) hp⟩

/-- A cut between two samples leaves a file that can be read, and only its sample count tells. -/
theorem cut_off_detected_between_samples :
    let s : Scan := ⟨{ lineCount := 1, pointCount := 2 }, [7, 8]⟩
    10 < s.encode.length ∧ s.samples.length = s.expected ∧ 0 < s.expected ∧
      ∃ t, decode (s.encode.take 10) = .ok t ∧ t.samples = [7] ∧
        (t.convert {}).mesh = .error (.truncated 2 1) := by
  intro s
  have hk : 10 < s.encode.length := by decide
  obtain ⟨-, -, h⟩ := cut_off_detected s 10
  obtain ⟨hd, hc⟩ := h hk
  change decode (s.encode.take 10) = .ok (s.cutAfter 1) at hd
  refine ⟨hk, rfl, by decide, s.cutAfter 1, hd, rfl, ?_⟩
  obtain ⟨e, he⟩ | ⟨t, ht, hm⟩ := hc rfl (by decide) {} rfl
  · rw [hd] at he
    cases he
  · rw [hd] at ht
    cases ht
    exact hm

end Scan

end RotaryScan
