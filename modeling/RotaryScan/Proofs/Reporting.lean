import RotaryScan.Proofs.Reveal

namespace RotaryScan

namespace Settings

theorem mem_countEvents_iff (g : Grid) (found : Nat) (e : Event) : e ∈ countEvents g found ↔
    found < g.cellCount ∧ e = .partialScan found g.cellCount ∨
    g.cellCount < found ∧ e = .surplusSamples (found - g.cellCount) g.lineCount := by
  rw [countEvents]
  split
  · next h => simp [h, Nat.lt_asymm h]
  · next h =>
    split
    · next h' => simp [h, h']
    · next h' => simp [h, h']

theorem mem_flipEvents_iff (settings : Settings) (completeLines : Nat) (e : Event) :
    e ∈ settings.flipEvents completeLines ↔
      (settings.winding = .legacy ∧ flippedLines completeLines ≠ []) ∧
        e = .facesFlipped (flippedLines completeLines) := by
  rw [flipEvents]
  split
  · next h => simp [h]
  · next h => simp [h]

end Settings

namespace Scan

theorem isEmpty_iff (s : Scan) : s.grid.isEmpty ↔ s.expected = 0 := by
  rw [← not_iff_not, s.grid.not_isEmpty_iff, Nat.pos_iff_ne_zero, Nat.pos_iff_ne_zero,
    ← Nat.mul_ne_zero_iff]
  rfl

theorem expected_eq_zero_iff (s : Scan) :
    s.expected = 0 ↔ s.header.lineCount = 0 ∨ s.header.pointCount = 0 := by
  rw [← s.isEmpty_iff, Grid.isEmpty, Bool.or_eq_true, beq_iff_eq, beq_iff_eq]
  rfl

/-- The outcomes of a conversion, which exclude each other. -/
theorem mesh_cases (s : Scan) (settings : Settings) :
    (s.expected = 0 ∧ (s.convert settings).mesh =
      .error (.emptyGrid s.header.lineCount s.header.pointCount)) ∨
    (0 < s.expected ∧ s.samples.length = 0 ∧ (s.convert settings).mesh = .error .noSamples) ∨
    (0 < s.samples.length ∧ s.samples.length < s.expected ∧ settings.allowPartial = false ∧
      (s.convert settings).mesh = .error (.truncated s.expected s.samples.length)) ∨
    (0 < s.expected ∧ 0 < s.samples.length ∧
      (s.samples.length < s.expected → settings.allowPartial = true) ∧
      ∃ m, (s.convert settings).mesh = .ok m) := by
  simp only [Nat.pos_iff_ne_zero, ← s.isEmpty_iff, ne_eq]
  obtain ⟨he, hc⟩ | ⟨he, hn, hc⟩ | ⟨he, hn, ⟨hlt, hp⟩, hc⟩ | ⟨he, hn, hv, hc⟩ :=
    s.convert_cases settings
  · exact .inl ⟨he, congrArg Conversion.mesh hc⟩
  · exact .inr (.inl ⟨he, hn, congrArg Conversion.mesh hc⟩)
  · exact .inr (.inr (.inl ⟨hn, hlt, Bool.eq_false_iff.mpr hp, congrArg Conversion.mesh hc⟩))
  · refine .inr (.inr (.inr ⟨he, hn, fun hlt => ?_, _, congrArg Conversion.mesh hc⟩))
    by_contra hp
    exact hv ⟨hlt, hp⟩

theorem mesh_eq_error_iff (s : Scan) (settings : Settings) (e : ConversionError) :
    (s.convert settings).mesh = .error e ↔
      s.expected = 0 ∧ e = .emptyGrid s.header.lineCount s.header.pointCount ∨
      (0 < s.expected ∧ s.samples.length = 0) ∧ e = .noSamples ∨
      (0 < s.samples.length ∧ s.samples.length < s.expected ∧ settings.allowPartial = false) ∧
        e = .truncated s.expected s.samples.length := by
  obtain ⟨he, hm⟩ | ⟨he, hn, hm⟩ | ⟨hn, ht, hp, hm⟩ | ⟨he, hn, hp, m, hm⟩ := s.mesh_cases settings
  · rw [hm, Except.error.injEq, @eq_comm _ _ e]
    simp [he]
  · rw [hm, Except.error.injEq, @eq_comm _ _ e]
    simp [he, hn, Nat.ne_of_gt he]
  · have he : s.expected ≠ 0 := by omega
    rw [hm, Except.error.injEq, @eq_comm _ _ e]
    simp [he, hn, ht, hp, Nat.ne_of_gt hn]
  · have hp : ¬(0 < s.samples.length ∧ s.samples.length < s.expected ∧
        settings.allowPartial = false) := by
      rintro ⟨-, ht, hf⟩
      rw [hp ht] at hf
      cases hf
    simp [hm, hp, Nat.ne_of_gt he, Nat.ne_of_gt hn]

theorem exists_mesh_iff (s : Scan) (settings : Settings) :
    (∃ m, (s.convert settings).mesh = .ok m) ↔
      0 < s.expected ∧ 0 < s.samples.length ∧
        (s.samples.length < s.expected → settings.allowPartial = true) := by
  obtain ⟨he, hm⟩ | ⟨he, hn, hm⟩ | ⟨hn, ht, hp, hm⟩ | ⟨he, hn, hp, m, hm⟩ := s.mesh_cases settings
  · simp [hm, he]
  · simp [hm, hn]
  · simp [hm, ht, hp]
  · exact ⟨fun _ => ⟨he, hn, hp⟩, fun _ => ⟨m, hm⟩⟩

theorem convert_of_error {s : Scan} {settings : Settings} {e : ConversionError}
    (h : (s.convert settings).mesh = .error e) : s.convert settings = .refused e := by
  obtain ⟨-, hc⟩ | ⟨-, -, hc⟩ | ⟨-, -, -, hc⟩ | ⟨-, -, -, hc⟩ := s.convert_cases settings
  all_goals
    rw [hc] at h ⊢
    cases h
  all_goals rfl

section Converted

variable {s : Scan} {settings : Settings} {mesh : Mesh} (h : (s.convert settings).mesh = .ok mesh)
include h

theorem log_of_mesh : (s.convert settings).log =
    Settings.countEvents s.grid s.samples.length ++ settings.flipEvents s.completeLines ++
      [.meshBuilt s.header.lineCount s.header.pointCount mesh.vertices.length mesh.faces.length] := by
  have hk : s.kept.length / s.grid.points = s.completeLines := by
    rw [length_kept, completeLines]
  rw [(convert_of_mesh h).2.2, accepted, hk, ← (mesh_of_convert h).2]
  rfl

/-- The events of a conversion that succeeds: at most one about the count of the samples, at most one
about flipped lines, and one about the mesh. -/
theorem mem_log_iff (e : Event) : e ∈ (s.convert settings).log ↔
    (s.samples.length < s.expected ∧ e = .partialScan s.samples.length s.expected ∨
      s.expected < s.samples.length ∧
        e = .surplusSamples (s.samples.length - s.expected) s.header.lineCount) ∨
    (settings.winding = .legacy ∧ flippedLines s.completeLines ≠ []) ∧
      e = .facesFlipped (flippedLines s.completeLines) ∨
    e = .meshBuilt s.header.lineCount s.header.pointCount mesh.vertices.length mesh.faces.length := by
  rw [log_of_mesh h, List.append_assoc, List.mem_append, List.mem_append, List.mem_singleton,
    Settings.mem_countEvents_iff, Settings.mem_flipEvents_iff]
  rfl

end Converted

/-- What a conversion says about itself when it succeeds. -/
structure Accounted (s : Scan) (settings : Settings) (m : Mesh) : Prop where
  progress : (s.convert settings).progress = min s.samples.length s.expected
  partialScan : ∀ found expected, .partialScan found expected ∈ (s.convert settings).log ↔
    s.samples.length < s.expected ∧ found = s.samples.length ∧ expected = s.expected
  surplusSamples : ∀ count lineCount, .surplusSamples count lineCount ∈ (s.convert settings).log ↔
    s.expected < s.samples.length ∧ count = s.samples.length - s.expected ∧
      lineCount = s.header.lineCount
  notBoth : ∀ found expected count lineCount,
    .partialScan found expected ∈ (s.convert settings).log →
      .surplusSamples count lineCount ∉ (s.convert settings).log
  meshBuilt : ∃ warnings, (s.convert settings).log = warnings ++
      [.meshBuilt s.header.lineCount s.header.pointCount m.vertices.length m.faces.length] ∧
    ∀ e ∈ warnings, e.level = .warn
  build : m.build.isSome = settings.build
  range : ∀ b, m.build = some b →
    b.frameStart = 1 ∧ b.frameDuration.toNat = min s.samples.length s.expected + 1
  objectName : m.objectName = settings.objectName.getD "new_object"

theorem accounted_of_mesh {s : Scan} {settings : Settings} {m : Mesh}
    (h : (s.convert settings).mesh = .ok m) : s.Accounted settings m := by
  have hpartial : ∀ found expected, .partialScan found expected ∈ (s.convert settings).log ↔
      s.samples.length < s.expected ∧ found = s.samples.length ∧ expected = s.expected := by
    intro found expected
    simp [mem_log_iff h]
  have hsurplus : ∀ count lineCount, .surplusSamples count lineCount ∈ (s.convert settings).log ↔
      s.expected < s.samples.length ∧ count = s.samples.length - s.expected ∧
        lineCount = s.header.lineCount := by
    intro count lineCount
    simp [mem_log_iff h]
  refine ⟨?_, hpartial, hsurplus, ?_, ⟨_, log_of_mesh h, ?_⟩, isSome_build h, ?_, ?_⟩
  · rw [(convert_of_mesh h).2.2, accepted, length_kept]
  · intro found expected count lineCount hf hc
    have hlt := ((hpartial found expected).mp hf).1
    have hgt := ((hsurplus count lineCount).mp hc).1
    omega
  · intro e he
    rw [List.mem_append, Settings.mem_countEvents_iff, Settings.mem_flipEvents_iff] at he
    obtain (⟨-, rfl⟩ | ⟨-, rfl⟩) | ⟨-, rfl⟩ := he <;> rfl
  · intro b hb
    rw [← length_vertices h]
    exact range_of_build h hb
  · rw [(mesh_of_convert h).2]
    rfl

/-- The faults of a scan are looked for in a fixed order, and a conversion that finds one says nothing
else. Without a fault all that it says agrees with the mesh. -/
theorem conversion_accounted (s : Scan) (settings : Settings) :
    (∀ e, (s.convert settings).mesh = .error e ↔
      (s.header.lineCount = 0 ∨ s.header.pointCount = 0) ∧
        e = .emptyGrid s.header.lineCount s.header.pointCount ∨
      (0 < s.expected ∧ s.samples.length = 0) ∧ e = .noSamples ∨
      (0 < s.samples.length ∧ s.samples.length < s.expected ∧ settings.allowPartial = false) ∧
        e = .truncated s.expected s.samples.length) ∧
    ((∃ m, (s.convert settings).mesh = .ok m) ↔
      0 < s.expected ∧ 0 < s.samples.length ∧
        (s.samples.length < s.expected → settings.allowPartial = true)) ∧
    (∀ e, (s.convert settings).mesh = .error e →
      (s.convert settings).progress = 0 ∧ (s.convert settings).log = []) ∧
    ∀ m, (s.convert settings).mesh = .ok m → s.Accounted settings m := by
  refine ⟨?_, s.exists_mesh_iff settings, ?_, fun _ => accounted_of_mesh⟩
  · rw [← s.expected_eq_zero_iff]
    exact s.mesh_eq_error_iff settings
  · intro e he
    rw [convert_of_error he]
    exact ⟨rfl, rfl⟩

theorem conversion_accounted_partial : ∃ mesh,
    ((Scan.mk { lineCount := 2, pointCount := 2 } [7, 8, 9]).convert
      { allowPartial := true, build := true }).mesh = .ok mesh ∧
    Event.partialScan 3 4 ∈ ((Scan.mk { lineCount := 2, pointCount := 2 } [7, 8, 9]).convert
      { allowPartial := true, build := true }).log ∧
    mesh.build.isSome ∧ mesh.objectName = "new_object" := by
  have h := (conversion_accounted (Scan.mk { lineCount := 2, pointCount := 2 } [7, 8, 9])
    { allowPartial := true, build := true }).2.2.2 _ rfl
  exact ⟨_, rfl, (h.partialScan 3 4).mpr (by decide), h.build, h.objectName⟩

end Scan

end RotaryScan
