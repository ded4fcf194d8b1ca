import RotaryScan.Mock
import RotaryScan.Proofs.Codec
import RotaryScan.Proofs.Independence
import RotaryScan.Proofs.SampleCount

open Float.Model in
theorem Float.zero_le_unpacked (u : UnpackedFloat) :
    (UnpackedFloat.zero .positive).le u = !(u.lt (.zero .positive) || u.isNaN) := by
  cases u with
  | notANumber => rfl
  | infinity sign | zero sign | finite sign => cases sign <;> rfl

theorem Float.le_iff_unpacked (x y : Float) : x ≤ y ↔ x.toModel.unpack.le y.toModel.unpack :=
  decide_eq_true_iff

theorem Float.lt_iff_unpacked (x y : Float) : x < y ↔ x.toModel.unpack.lt y.toModel.unpack :=
  decide_eq_true_iff

theorem Float.zero_le_iff (x : Float) : 0 ≤ x ↔ ¬(x < 0 ∨ x.isNaN) := by
  have hz : (0 : Float).toModel.unpack = .zero .positive := rfl
  have hn : x.isNaN = x.toModel.unpack.isNaN := rfl
  rw [le_iff_unpacked, lt_iff_unpacked, hn, hz, zero_le_unpacked, Bool.not_eq_true',
    Bool.or_eq_false_iff, not_or, Bool.not_eq_true, Bool.not_eq_true]

theorem Float.isFinite_iff (x : Float) : x.isFinite ↔ ¬(x.isNaN ∨ x.isInf) := by
  have hf : x.isFinite = !(x.isNaN || x.isInf) := by
    change x.toModel.unpack.isFinite = !(x.toModel.unpack.isNaN || x.toModel.unpack.isInf)
    cases x.toModel.unpack <;> rfl
  rw [hf, Bool.not_eq_true', Bool.or_eq_false_iff, not_or, Bool.not_eq_true, Bool.not_eq_true]

namespace RotaryScan

namespace Scan

/-- What is known of a scan with as many samples as a header declares. -/
structure Whole (s : Scan) (declared : Header) : Prop where
  header : s.header = declared
  length : s.samples.length = declared.lineCount.toNat * declared.pointCount.toNat
  decode : Scan.decode s.encode = .ok s
  error : ∀ settings e, (s.convert settings).mesh = .error e ↔
    (declared.lineCount = 0 ∨ declared.pointCount = 0) ∧
      e = .emptyGrid declared.lineCount declared.pointCount
  mesh : ∀ settings, declared.lineCount ≠ 0 → declared.pointCount ≠ 0 →
    ∃ m, (s.convert settings).mesh = .ok m ∧ m.vertices.map Vertex.sample = s.samples
  noPartialScan : ∀ settings found expected,
    .partialScan found expected ∉ (s.convert settings).log
  noSurplusSamples : ∀ settings count lineCount,
    .surplusSamples count lineCount ∉ (s.convert settings).log

section Counted

variable {s : Scan} (h : s.samples.length = s.expected)
include h

theorem mesh_eq_error_iff_of_whole (settings : Settings) (e : ConversionError) :
    (s.convert settings).mesh = .error e ↔
      (s.header.lineCount = 0 ∨ s.header.pointCount = 0) ∧
        e = .emptyGrid s.header.lineCount s.header.pointCount := by
  rw [s.mesh_eq_error_iff, ← s.expected_eq_zero_iff, h]
  -- No samples means no cells here, and fewer samples than cells there are never.
  simp [Nat.pos_iff_ne_zero]

theorem log_of_whole (settings : Settings) :
    (∀ found expected, .partialScan found expected ∉ (s.convert settings).log) ∧
      ∀ count lineCount, .surplusSamples count lineCount ∉ (s.convert settings).log := by
  cases hm : (s.convert settings).mesh with
  | error e =>
    rw [convert_of_error hm]
    exact ⟨fun _ _ => List.not_mem_nil, fun _ _ => List.not_mem_nil⟩
  | ok m =>
    have ha := accounted_of_mesh hm
    constructor
    · intro found expected
      rw [ha.partialScan, h]
      exact fun hlt => Nat.lt_irrefl _ hlt.1
    · intro count lineCount
      rw [ha.surplusSamples, h]
      exact fun hlt => Nat.lt_irrefl _ hlt.1

theorem whole_of_length : s.Whole s.header := by
  refine ⟨rfl, h, s.decode_encode, mesh_eq_error_iff_of_whole h, ?_,
    fun settings => (log_of_whole h settings).1, fun settings => (log_of_whole h settings).2⟩
  intro settings hl hp
  obtain ⟨m, hm⟩ := exists_mesh_of_whole (Nat.le_of_eq h.symm) settings (expected_pos hl hp)
  have hk : s.kept = s.samples := List.take_of_length_le (Nat.le_of_eq h)
  exact ⟨m, hm, (map_sample_mesh hm).trans hk⟩

end Counted

end Scan

namespace MockSettings

def BadMean (settings : MockSettings) : Prop := settings.mean < 0 ∨ settings.mean.isNaN

def BadDeviation (settings : MockSettings) : Prop :=
  settings.deviation < 0 ∨ settings.deviation.isNaN ∨ settings.deviation.isInf

theorem badMean_iff (settings : MockSettings) : settings.BadMean ↔ ¬0 ≤ settings.mean := by
  rw [Float.zero_le_iff, not_not]
  exact Iff.rfl

theorem badDeviation_iff (settings : MockSettings) : settings.BadDeviation ↔
    ¬(0 ≤ settings.deviation ∧ settings.deviation.isFinite) := by
  rw [Float.zero_le_iff, Float.isFinite_iff, ← not_or, not_not, or_assoc,
    or_self_left]
  exact Iff.rfl

theorem check_cases (settings : MockSettings) :
    (settings.BadMean ∧ settings.check = .error (.negativeMean settings.mean)) ∨
    (¬settings.BadMean ∧ settings.BadDeviation ∧
      settings.check = .error (.invalidDeviation settings.deviation)) ∨
    (¬settings.BadMean ∧ ¬settings.BadDeviation ∧ settings.check = .ok ()) := by
  by_cases hm : settings.BadMean
  · exact .inl ⟨hm, if_pos (settings.badMean_iff.mp hm)⟩
  · rw [check, if_neg (settings.badMean_iff.not.mp hm)]
    by_cases hd : settings.BadDeviation
    · exact .inr (.inl ⟨hm, hd, if_pos (settings.badDeviation_iff.mp hd)⟩)
    · exact .inr (.inr ⟨hm, hd, if_neg (settings.badDeviation_iff.not.mp hd)⟩)

section Generated

variable {σ : Type} (settings : MockSettings) (draw : σ → Float × σ)

theorem length_samplesFrom (mean deviation : Float) (count : Nat) (s : σ) :
    (samplesFrom draw mean deviation count s).length = count := by
  induction count generalizing s with
  | zero => rfl
  | succ count ih => exact congrArg Nat.succ (ih _)

variable (s : σ)

theorem generateFrom_cases :
    (settings.BadMean ∧
      settings.generateFrom draw s = .error (.negativeMean settings.mean)) ∨
    (¬settings.BadMean ∧ settings.BadDeviation ∧
      settings.generateFrom draw s = .error (.invalidDeviation settings.deviation)) ∨
    (¬settings.BadMean ∧ ¬settings.BadDeviation ∧
      ∃ scan, settings.generateFrom draw s = .ok scan ∧ scan.Whole settings.header) := by
  rw [generateFrom]
  obtain ⟨hm, hc⟩ | ⟨hm, hd, hc⟩ | ⟨hm, hd, hc⟩ := settings.check_cases
  · rw [hc]
    exact .inl ⟨hm, rfl⟩
  · rw [hc]
    exact .inr (.inl ⟨hm, hd, rfl⟩)
  · rw [hc]
    refine .inr (.inr ⟨hm, hd, _, rfl, ?_⟩)
    exact Scan.whole_of_length (length_samplesFrom draw _ _ _ s)

theorem generateFrom_eq_error_iff (e : Failure) : settings.generateFrom draw s = .error e ↔
    settings.BadMean ∧ e = .negativeMean settings.mean ∨
    (¬settings.BadMean ∧ settings.BadDeviation) ∧ e = .invalidDeviation settings.deviation := by
  obtain ⟨hm, hg⟩ | ⟨hm, hd, hg⟩ | ⟨hm, hd, scan, hg, -⟩ := settings.generateFrom_cases draw s
  · rw [hg, Except.error.injEq, @eq_comm _ _ e]
    simp [hm]
  · rw [hg, Except.error.injEq, @eq_comm _ _ e]
    simp [hm, hd]
  · simp [hg, hm, hd]

theorem exists_error_iff : (∃ e, settings.generateFrom draw s = .error e) ↔
    settings.BadMean ∨ settings.BadDeviation := by
  simp only [generateFrom_eq_error_iff]
  by_cases hm : settings.BadMean <;> simp [hm]

/-- Settings are rejected for their mean or for their deviation. All others give a whole scan, whatever
the draws. -/
theorem generated_whole :
    ((∃ e, settings.generateFrom draw s = .error e) ↔
      (settings.mean < 0 ∨ settings.mean.isNaN) ∨
        settings.deviation < 0 ∨ settings.deviation.isNaN ∨ settings.deviation.isInf) ∧
    ((∃ scan, settings.generateFrom draw s = .ok scan) ↔
      ¬((settings.mean < 0 ∨ settings.mean.isNaN) ∨
        settings.deviation < 0 ∨ settings.deviation.isNaN ∨ settings.deviation.isInf)) ∧
    ∀ scan, settings.generateFrom draw s = .ok scan → scan.Whole settings.header := by
  refine ⟨settings.exists_error_iff draw s, ?_, ?_⟩
  · apply Iff.trans _ (settings.exists_error_iff draw s).not
    cases settings.generateFrom draw s <;> simp
  · intro scan hscan
    obtain ⟨-, hg⟩ | ⟨-, -, hg⟩ | ⟨-, -, scan', hg, hwhole⟩ := settings.generateFrom_cases draw s
    all_goals
      rw [hg] at hscan
      cases hscan
    exact hwhole

end Generated

theorem generated_whole_default : ∃ scan, ({} : MockSettings).generate = .ok scan ∧
    scan.samples.length = 1800 ∧ Scan.decode scan.encode = .ok scan ∧
    ∀ settings, ∃ m, (scan.convert settings).mesh = .ok m := by
  have h := generated_whole {} Random.normal (Random.Stream.ofSeed 0)
  obtain ⟨scan, hscan⟩ := h.2.1.mpr (by decide)
  have hwhole := h.2.2 scan hscan
  refine ⟨scan, hscan, hwhole.length, hwhole.decode, ?_⟩
  intro settings
  obtain ⟨m, hm, -⟩ := hwhole.mesh settings (by decide) (by decide)
  exact ⟨m, hm⟩

end MockSettings

end RotaryScan
