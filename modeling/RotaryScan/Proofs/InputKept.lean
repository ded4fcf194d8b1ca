import RotaryScan.Proofs.Naming
import RotaryScan.Proofs.Saving
import RotaryScan.Proofs.Spelling

namespace RotaryScan.CommandLine

namespace ConvertOptions

theorem parse_input {input : String} (h : input.toList.head? ≠ some '-') :
    parse [input] = .ok (.run { input }) := by
  have hw : matchOptions specs [input] = .ok { free := [input] } := by
    unfold matchOptions
    rw [walk, classify_of_isFree (.inr h), walk]
    rfl
  unfold parse parseWith
  rw [hw]
  rfl

variable {options : ConvertOptions} {fs fs' : FileSystem} {r : Except Failure Path}

/-- A conversion changes its input only where its output goes into the same file. -/
theorem Performed.read_input (h : options.Performed fs r fs')
    (hn : ∀ output l, r = .ok output → fs'.locate output = .ok l →
      fs'.locate (Path.ofString options.input) ≠ .ok l) :
    fs'.read (Path.ofString options.input) = fs.read (Path.ofString options.input) := by
  cases h with
  | unread => rfl
  | unconverted => rfl
  | unnamed => rfl
  | unsaved hr hc ho hs =>
    obtain ⟨bytes, hb, -⟩ := FileSystem.read_of_readScan hr
    obtain ⟨l, hl, he⟩ := FileSystem.read_eq_ok_iff.mp hb
    rw [hb]
    exact hs.extends.read hl (hs.entryAt?_file he nofun)
  | @saved _ _ output _ hr hc ho hs =>
    obtain ⟨bytes, hb, -⟩ := FileSystem.read_of_readScan hr
    obtain ⟨l, hl, he⟩ := FileSystem.read_eq_ok_iff.mp hb
    rw [hb]
    refine hs.extends.read hl (hs.entryAt?_file he fun _ hout => ?_)
    exact hn output l rfl hout (hs.extends.locate hl)

/-- When the output goes into the input, both have one name, and the mesh takes the scan's place. -/
theorem Performed.replaced {output : Path} {l : Location}
    (h : options.Performed fs (.ok output) fs') (hout : fs'.locate output = .ok l)
    (hin : fs'.locate (Path.ofString options.input) = .ok l) :
    (Path.ofString options.input).fileName?.map options.format.rename =
        (Path.ofString options.input).fileName? ∧
      ∃ s m, fs.readScan (Path.ofString options.input) = .ok s ∧
        (s.convert options.settings).mesh = .ok m ∧
        fs'.read (Path.ofString options.input) = .ok (options.format.contents m) := by
  cases h with
  | @saved s m _ _ hr hc ho hs =>
    obtain ⟨l', hl', he⟩ := hs.locate
    rw [hout] at hl'
    cases hl'
    refine ⟨?_, s, m, hr, hc, FileSystem.read_eq_ok_iff.mpr ⟨l, hin, he⟩⟩
    obtain ⟨name, hn, hlast⟩ := getLast?_of_outputPath ho hout
    rw [FileSystem.getLast?_of_file hin he hn, Option.some.injEq, String.ofList_inj] at hlast
    rw [hn, Option.map_some, ← hlast]

/-- The file that a conversion leaves at the path it gives is its input. -/
def Overwrites (options : ConvertOptions) (fs : FileSystem) : Prop :=
  ∃ output l, (options.perform fs).1.1 = .ok output ∧
    (options.perform fs).2.locate output = .ok l ∧
    (options.perform fs).2.locate (Path.ofString options.input) = .ok l

theorem input_kept_unless_overwritten (options : ConvertOptions) (fs : FileSystem) :
    (¬ options.Overwrites fs →
      (options.perform fs).2.read (Path.ofString options.input) =
        fs.read (Path.ofString options.input)) ∧
    (options.Overwrites fs →
      (Path.ofString options.input).fileName?.map options.format.rename =
          (Path.ofString options.input).fileName? ∧
        ∃ s m, fs.readScan (Path.ofString options.input) = .ok s ∧
          (s.convert options.settings).mesh = .ok m ∧
          (options.perform fs).2.read (Path.ofString options.input) =
            .ok (options.format.contents m)) := by
  have h := options.performed fs
  constructor
  · intro hn
    exact h.read_input fun output l hr hout hin => hn ⟨output, l, hr, hout, hin⟩
  · rintro ⟨output, l, hr, hout, hin⟩
    rw [hr] at h
    exact h.replaced hout hin

theorem head?_contents_obj (m : Mesh) :
    ((OutputFormat.stream .obj).contents m).head? = some 35 := by
  have hp : StreamFormat.obj.pieces m =
      Format.utf8 ("# mesh " ++ m.meshName ++ "\n") :: (StreamFormat.obj.pieces m).tail := rfl
  unfold OutputFormat.contents
  dsimp only
  rw [← StreamFormat.flatten_pieces, hp, Format.utf8_append, Format.utf8_append]
  rfl

/-- A scan that is kept in a file with the extension of the default format does not survive its own
conversion. -/
theorem input_overwritten :
    ∃ options fs, parse ["s.obj"] = .ok (.run options) ∧
      fs.read (Path.ofString options.input) =
        .ok [1, 1, 1, 2, 0, 0, 0, 0, 3, 232, 0, 0, 3, 232] ∧
      (options.perform fs).2.read (Path.ofString options.input) ≠
        fs.read (Path.ofString options.input) := by
  -- One line of two points. The rendering begins with a number sign, the scan with its step size.
  refine ⟨{ input := "s.obj" }, FileSystem.fresh.put ["work", "s.obj"]
    (.file [1, 1, 1, 2, 0, 0, 0, 0, 3, 232, 0, 0, 3, 232]), parse_input (by decide), rfl, ?_⟩
  have hs := performed { input := "s.obj" } (FileSystem.fresh.put ["work", "s.obj"]
    (.file [1, 1, 1, 2, 0, 0, 0, 0, 3, 232, 0, 0, 3, 232]))
  obtain ⟨m, hm⟩ : ∃ m, ((⟨⟨1, 1, 1, 2, 0, 0⟩, [1000, 1000]⟩ : Scan).convert {}).mesh = .ok m :=
    ⟨_, rfl⟩
  have ho : ({ input := "s.obj" } : ConvertOptions).outputPath = .ok (Path.ofString "./s.obj") :=
    rfl
  obtain ⟨-, hs⟩ := hs.eq_saved rfl hm ho rfl rfl
  rw [hs]
  intro he
  have hc : (OutputFormat.stream .obj).contents m =
      [1, 1, 1, 2, 0, 0, 0, 0, 3, 232, 0, 0, 3, 232] := Except.ok.inj he
  have hhead := head?_contents_obj m
  rw [hc] at hhead
  cases hhead

end ConvertOptions

end RotaryScan.CommandLine
