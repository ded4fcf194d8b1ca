import RotaryScan.Proofs.MockScan

namespace RotaryScan.MockSettings

variable {σ : Type} (draw : σ → Float × σ)

section Samples

variable (mean deviation : Float)

theorem samplesFrom_succ (count : Nat) (s : σ) :
    samplesFrom draw mean deviation (count + 1) s =
      toSample (mean + deviation * (draw s).1) ::
        samplesFrom draw mean deviation count (draw s).2 := rfl

/-- More samples go on from the state that the first ones leave, however far those went. -/
theorem samplesFrom_add (count more : Nat) (s : σ) :
    samplesFrom draw mean deviation (count + more) s =
      samplesFrom draw mean deviation count s ++
        samplesFrom draw mean deviation more ((fun s => (draw s).2)^[count] s) := by
  induction count generalizing s with
  | zero =>
    rw [Nat.zero_add]
    rfl
  | succ count ih =>
    rw [Nat.succ_add, samplesFrom_succ, samplesFrom_succ, ih, Function.iterate_succ_apply,
      List.cons_append]

theorem samplesFrom_prefix {count count' : Nat} (h : count ≤ count') (s : σ) :
    samplesFrom draw mean deviation count s <+: samplesFrom draw mean deviation count' s := by
  obtain ⟨more, rfl⟩ := Nat.exists_eq_add_of_le h
  rw [samplesFrom_add]
  exact List.prefix_append _ _

end Samples

theorem samples_of_generateFrom {settings : MockSettings} {s : σ} {scan : Scan}
    (h : settings.generateFrom draw s = .ok scan) :
    scan.samples = samplesFrom draw settings.mean settings.deviation
      (settings.header.lineCount.toNat * settings.header.pointCount.toNat) s := by
  rw [generateFrom] at h
  cases hc : settings.check with
  | error e =>
    rw [hc] at h
    cases h
  | ok u =>
    rw [hc] at h
    cases h
    rfl

/-- Mean, deviation and seed are all that samples depend on, wherever a seed takes the source and
however it goes on from draw to draw. The rest of the settings says how many samples there are. -/
theorem one_stream (seeded : UInt64 → σ) (settings settings' : MockSettings) (scan scan' : Scan)
    (hm : settings.mean = settings'.mean) (hd : settings.deviation = settings'.deviation)
    (hs : settings.seed = settings'.seed)
    (h : settings.generateFrom draw (seeded settings.seed) = .ok scan)
    (h' : settings'.generateFrom draw (seeded settings'.seed) = .ok scan') :
    (settings.header.lineCount.toNat * settings.header.pointCount.toNat ≤
        settings'.header.lineCount.toNat * settings'.header.pointCount.toNat →
      scan.samples <+: scan'.samples) ∧
    (settings.header.lineCount.toNat * settings.header.pointCount.toNat =
        settings'.header.lineCount.toNat * settings'.header.pointCount.toNat →
      scan.samples = scan'.samples) := by
  have hscan := samples_of_generateFrom draw h
  have hscan' := samples_of_generateFrom draw h'
  rw [← hm, ← hd, ← hs] at hscan'
  constructor
  · intro hle
    rw [hscan, hscan']
    exact samplesFrom_prefix draw _ _ hle _
  · intro he
    rw [hscan, hscan', he]

theorem one_stream_narrow :
    ∃ scan scan' : Scan,
      ({ header := { lineCount := 3, pointCount := 2 }, seed := 42 } : MockSettings).generate =
        .ok scan ∧
      ({ header := { lineCount := 2, pointCount := 4, lineStart := 5 }, seed := 42 } :
        MockSettings).generate = .ok scan' ∧
      scan.samples.length = 6 ∧ scan'.samples.length = 8 ∧ scan.samples <+: scan'.samples := by
  obtain ⟨scan, h⟩ : ∃ scan,
      ({ header := { lineCount := 3, pointCount := 2 }, seed := 42 } : MockSettings).generate =
        .ok scan := ⟨_, rfl⟩
  obtain ⟨scan', h'⟩ : ∃ scan',
      ({ header := { lineCount := 2, pointCount := 4, lineStart := 5 }, seed := 42 } :
        MockSettings).generate = .ok scan' := ⟨_, rfl⟩
  have hprefix := (one_stream Random.normal Random.Stream.ofSeed
    { header := { lineCount := 3, pointCount := 2 }, seed := 42 }
    { header := { lineCount := 2, pointCount := 4, lineStart := 5 }, seed := 42 }
    scan scan' rfl rfl rfl h h').1 (by decide)
  refine ⟨scan, scan', h, h', ?_, ?_, hprefix⟩
  · rw [samples_of_generateFrom _ h, length_samplesFrom]
    rfl
  · rw [samples_of_generateFrom _ h', length_samplesFrom]
    rfl

end RotaryScan.MockSettings
