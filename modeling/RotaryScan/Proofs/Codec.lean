import Mathlib.Algebra.Group.Nat.Defs
import RotaryScan.Scan

namespace RotaryScan.Scan

theorem byte_append_lt (high : UInt8) {low shift : Nat} (h : low < 2 ^ shift) :
    high.toNat * 2 ^ shift + low < 2 ^ (8 + shift) := by
  have hm : (high.toNat + 1) * 2 ^ shift ≤ 2 ^ 8 * 2 ^ shift :=
    Nat.mul_le_mul_right _ high.toNat_lt
  rw [Nat.add_mul, Nat.one_mul] at hm
  rw [Nat.pow_add]
  omega

theorem byte_shiftLeft_or (high : UInt8) {low shift : Nat} (h : low < 2 ^ shift) :
    high.toNat <<< shift ||| low = high.toNat * 2 ^ shift + low := by
  rw [← Nat.shiftLeft_add_eq_or_of_lt h, Nat.shiftLeft_eq]

theorem byte_shiftLeft_mod (x : UInt8) {shift : Nat} (h : shift ≤ 24) :
    x.toNat <<< shift % 2 ^ 32 = x.toNat <<< shift := by
  have hx : x.toNat * 2 ^ shift < 2 ^ (8 + shift) := byte_append_lt x (Nat.two_pow_pos shift)
  have hp : 2 ^ (8 + shift) ≤ 2 ^ 32 := Nat.pow_le_pow_right (by decide) (by omega)
  rw [Nat.shiftLeft_eq]
  exact Nat.mod_eq_of_lt (Nat.lt_of_lt_of_le hx hp)

theorem toNat_joinSample (a b c d : UInt8) :
    (joinSample a b c d).toNat =
      a.toNat * 2 ^ 24 + (b.toNat * 2 ^ 16 + (c.toNat * 2 ^ 8 + d.toNat)) := by
  have hd := d.toNat_lt
  have hcd := byte_append_lt c hd
  have hbcd := byte_append_lt b hcd
  simp only [joinSample, UInt32.toNat_or, UInt32.toNat_shiftLeft, UInt8.toNat_toUInt32,
    UInt32.reduceToNat, Nat.reduceMod, byte_shiftLeft_mod a (Nat.le_refl 24),
    byte_shiftLeft_mod b (by decide : 16 ≤ 24), byte_shiftLeft_mod c (by decide : 8 ≤ 24),
    Nat.or_assoc]
  rw [byte_shiftLeft_or c hd, byte_shiftLeft_or b hcd, byte_shiftLeft_or a hbcd]

theorem joinSample_encodeSample (s : UInt32) :
    joinSample (s >>> 24).toUInt8 (s >>> 16).toUInt8 (s >>> 8).toUInt8 s.toUInt8 = s := by
  apply UInt32.toNat_inj.mp
  have hs := s.toNat_lt
  simp only [toNat_joinSample, UInt32.toNat_toUInt8, UInt32.toNat_shiftRight, UInt32.reduceToNat,
    Nat.reduceMod, Nat.shiftRight_eq_div_pow]
  omega

theorem encodeSample_joinSample (a b c d : UInt8) :
    encodeSample (joinSample a b c d) = [a, b, c, d] := by
  have ha := a.toNat_lt
  have hb := b.toNat_lt
  have hc := c.toNat_lt
  have hd := d.toNat_lt
  simp only [encodeSample, List.cons.injEq, and_true]
  refine ⟨?_, ?_, ?_, ?_⟩ <;> apply UInt8.toNat_inj.mp <;>
    simp only [toNat_joinSample, UInt32.toNat_toUInt8, UInt32.toNat_shiftRight,
      UInt32.reduceToNat, Nat.reduceMod, Nat.shiftRight_eq_div_pow] <;> omega

theorem encode_eq (s : Scan) : s.encode = s.header.encode ++ s.samples.flatMap encodeSample := by
  simp only [encode, pieces, List.flatten_cons, List.flatMap_def]

theorem length_flatMap_encodeSample (samples : List UInt32) :
    (samples.flatMap encodeSample).length = 4 * samples.length := by
  induction samples with
  | nil => rfl
  | cons s samples ih =>
    simp only [List.flatMap_cons, List.length_append, length_encodeSample, List.length_cons, ih]
    omega

theorem length_encode (s : Scan) : s.encode.length = 6 + 4 * s.samples.length := by
  rw [encode_eq, List.length_append, Header.length_encode, length_flatMap_encodeSample]

theorem decodeSamples_flatMap (short : FormatError) (samples : List UInt32) :
    decodeSamples short samples.length (samples.flatMap encodeSample) = .ok samples := by
  induction samples with
  | nil => rfl
  | cons s samples ih =>
    simp only [List.flatMap_cons, encodeSample, List.cons_append, List.nil_append,
      List.length_cons, decodeSamples, ih, Except.map, joinSample_encodeSample]

theorem decodeSamples_whole (short : FormatError) (count : Nat) (body : List UInt8)
    (h : body.length = 4 * count) :
    ∃ samples, decodeSamples short count body = .ok samples ∧
      samples.flatMap encodeSample = body := by
  induction count generalizing body with
  | zero => exact ⟨[], rfl, (List.eq_nil_of_length_eq_zero h).symm⟩
  | succ count ih =>
    match body, h with
    | a :: b :: c :: d :: rest, h =>
      have hr : rest.length = 4 * count := by
        simp only [List.length_cons] at h
        omega
      obtain ⟨samples, hd, he⟩ := ih rest hr
      refine ⟨joinSample a b c d :: samples, ?_, ?_⟩
      · simp only [decodeSamples, hd, Except.map]
      · rw [List.flatMap_cons, encodeSample_joinSample, he]
        rfl

theorem decode_header_append (header : Header) (body : List UInt8) :
    decode (header.encode ++ body) =
      if body.length % 4 ≠ 0 then .error (.trailingBytes (body.length % 4))
      else (decodeSamples (.trailingBytes (body.length % 4)) (body.length / 4) body).map
        (Scan.mk header) := by
  have hd : (header.encode ++ body).drop 6 = body := rfl
  have hh : ∀ f : Header → Except FormatError Scan,
      (Header.decode (header.encode ++ body) >>= f) = f header := fun _ => rfl
  simp only [decode, hh, hd]
  split
  · rfl
  · cases decodeSamples (.trailingBytes (body.length % 4)) (body.length / 4) body <;> rfl

theorem decode_short (bytes : List UInt8) (h : bytes.length < 6) :
    decode bytes = .error (.shortHeader bytes.length) := by
  match bytes, h with
  | [], _ | [_], _ | [_, _], _ | [_, _, _], _ | [_, _, _, _], _ | [_, _, _, _, _], _ => rfl

theorem exists_header_append (bytes : List UInt8) (h : 6 ≤ bytes.length) :
    ∃ header : Header, ∃ body, bytes = header.encode ++ body := by
  match bytes, h with
  | a :: b :: c :: d :: e :: f :: body, _ => exact ⟨⟨a, b, c, d, e, f⟩, body, rfl⟩

theorem length_header_append (header : Header) (body : List UInt8) :
    (header.encode ++ body).length - 6 = body.length := by
  rw [List.length_append, Header.length_encode, Nat.add_sub_cancel_left]

theorem decode_encode (s : Scan) : decode s.encode = .ok s := by
  rw [encode_eq, decode_header_append, length_flatMap_encodeSample, Nat.mul_mod_right,
    Nat.mul_div_cancel_left _ (by decide), decodeSamples_flatMap]
  rfl

theorem decode_cases (bytes : List UInt8) :
    (bytes.length < 6 ∧ decode bytes = .error (.shortHeader bytes.length)) ∨
    (6 ≤ bytes.length ∧ (bytes.length - 6) % 4 ≠ 0 ∧
      decode bytes = .error (.trailingBytes ((bytes.length - 6) % 4))) ∨
    (6 ≤ bytes.length ∧ (bytes.length - 6) % 4 = 0 ∧
      ∃ s, decode bytes = .ok s ∧ s.encode = bytes) := by
  by_cases h : bytes.length < 6
  · exact .inl ⟨h, decode_short bytes h⟩
  · have h6 : 6 ≤ bytes.length := by omega
    obtain ⟨header, body, rfl⟩ := exists_header_append bytes h6
    rw [length_header_append]
    by_cases hr : body.length % 4 = 0
    · have hl : body.length = 4 * (body.length / 4) := by omega
      obtain ⟨samples, hs, he⟩ :=
        decodeSamples_whole (.trailingBytes (body.length % 4)) (body.length / 4) body hl
      refine .inr (.inr ⟨h6, hr, ⟨header, samples⟩, ?_, ?_⟩)
      · rw [decode_header_append, if_neg (by simpa using hr), hs]
        rfl
      · rw [encode_eq, he]
    · refine .inr (.inl ⟨h6, hr, ?_⟩)
      rw [decode_header_append, if_pos hr]

theorem decode_ok_iff (bytes : List UInt8) (s : Scan) : decode bytes = .ok s ↔ s.encode = bytes := by
  constructor
  · intro h
    obtain ⟨-, hd⟩ | ⟨-, -, hd⟩ | ⟨-, -, s', hd, he⟩ := decode_cases bytes
    · rw [hd] at h
      cases h
    · rw [hd] at h
      cases h
    · rw [hd] at h
      cases h
      exact he
  · rintro rfl
    exact decode_encode s

theorem length_of_decode {bytes : List UInt8} {s : Scan} (h : decode bytes = .ok s) :
    bytes.length = 6 + 4 * s.samples.length := by
  rw [← (decode_ok_iff bytes s).mp h, length_encode]

theorem decodeSamples_drop (bytes : List UInt8) (hr : (bytes.length - 6) % 4 = 0)
    (short : FormatError) :
    ∃ samples, decodeSamples short ((bytes.length - 6) / 4) (bytes.drop 6) = .ok samples := by
  have hl : (bytes.drop 6).length = 4 * ((bytes.length - 6) / 4) := by
    rw [List.length_drop]
    omega
  obtain ⟨samples, hd, -⟩ := decodeSamples_whole short _ (bytes.drop 6) hl
  exact ⟨samples, hd⟩

/-- Reading inverts writing, and a byte string is read exactly if it is a header followed by whole
samples. The loop over the samples never meets one that is cut off. -/
theorem decode_exact :
    (∀ s : Scan, decode s.encode = .ok s) ∧
    ∀ bytes : List UInt8,
      ((∃ s, decode bytes = .ok s) ↔ 6 ≤ bytes.length ∧ (bytes.length - 6) % 4 = 0) ∧
      (∀ s, decode bytes = .ok s →
        s.encode = bytes ∧ s.samples.length = (bytes.length - 6) / 4) ∧
      (bytes.length < 6 → decode bytes = .error (.shortHeader bytes.length)) ∧
      (6 ≤ bytes.length → (bytes.length - 6) % 4 ≠ 0 →
        decode bytes = .error (.trailingBytes ((bytes.length - 6) % 4)) ∧
          1 ≤ (bytes.length - 6) % 4 ∧ (bytes.length - 6) % 4 ≤ 3) ∧
      (6 ≤ bytes.length → (bytes.length - 6) % 4 = 0 → ∀ short,
        ∃ samples, decodeSamples short ((bytes.length - 6) / 4) (bytes.drop 6) = .ok samples) ∧
      decode bytes ≠ .error (.trailingBytes 0) := by
  refine ⟨decode_encode, fun bytes => ⟨⟨?_, ?_⟩, ?_, decode_short bytes, ?_,
    fun _ => decodeSamples_drop bytes, ?_⟩⟩
  · rintro ⟨s, h⟩
    have hl := length_of_decode h
    omega
  · rintro ⟨h6, hr⟩
    obtain ⟨h, -⟩ | ⟨-, h, -⟩ | ⟨-, -, s, hd, -⟩ := decode_cases bytes
    · omega
    · exact absurd hr h
    · exact ⟨s, hd⟩
  · intro s h
    have hl := length_of_decode h
    exact ⟨(decode_ok_iff bytes s).mp h, by omega⟩
  · intro h6 hr
    obtain ⟨h, -⟩ | ⟨-, -, hd⟩ | ⟨-, h, -⟩ := decode_cases bytes
    · omega
    · exact ⟨hd, by omega, by omega⟩
    · exact absurd h hr
  · intro h
    obtain ⟨-, hd⟩ | ⟨-, hr, hd⟩ | ⟨-, -, s, hd, -⟩ := decode_cases bytes
    · rw [hd] at h
      cases h
    · rw [hd, Except.error.injEq, FormatError.trailingBytes.injEq] at h
      exact hr h
    · rw [hd] at h
      cases h

end RotaryScan.Scan
