import RotaryScan.Proofs.Saving

namespace RotaryScan

namespace OutputFormat

variable (format : OutputFormat) (m : Mesh)

def lines : List String :=
  match format with
  | stream format => format.lines m
  | cloud => Format.Pcd.lines m.vertices

def vertexLines : List String :=
  match format with
  | stream .obj => m.vertices.map Format.Obj.vertexLine
  | stream .ply => m.vertices.map Format.Ply.vertexLine
  | stream .csv => m.vertices.mapIdx Format.Csv.row
  | cloud => m.vertices.map Format.Pcd.pointLine

theorem contents_eq : format.contents m = Format.utf8 (Format.unlines (format.lines m)) := by
  cases format <;> rfl

theorem length_vertexLines : (format.vertexLines m).length = m.vertices.length := by
  cases format with
  | stream format => cases format <;> simp [vertexLines]
  | cloud => simp [vertexLines]

theorem vertexLines_infix : format.vertexLines m <:+: format.lines m := by
  cases format with
  | stream format =>
    cases format with
    | obj => exact ⟨_, m.faces.map Format.Obj.faceLine, rfl⟩
    | ply => exact ⟨Format.Ply.header m, Format.Ply.faceLines m, rfl⟩
    | csv => exact (List.suffix_cons Format.Csv.header _).isInfix
  | cloud => exact (List.suffix_append (Format.Pcd.header m.vertices.length) _).isInfix

end OutputFormat

namespace CommandLine.ConvertOptions

/-- A conversion that succeeds has turned the scan in its input into a mesh, and the path that it gives
leads to the rendering of the mesh, whatever stood there before. All else is as it was, but for missing
directories above that path. -/
theorem run_delivers (options : ConvertOptions) (fs : FileSystem) (output : Path)
    (h : (options.perform fs).1.1 = .ok output) :
    options.outputPath = .ok output ∧
    ∃ bytes s m l,
      (fs.read (Path.ofString options.input) = .ok bytes ∧ Scan.decode bytes = .ok s ∧
        (s.convert options.settings).mesh = .ok m) ∧
      ((options.perform fs).2.read output =
          .ok (Format.utf8 (Format.unlines (options.format.lines m))) ∧
        options.format.vertexLines m <:+: options.format.lines m ∧
        (options.format.vertexLines m).length = m.vertices.length ∧ 0 < m.vertices.length) ∧
      ((options.perform fs).2.locate output = .ok l ∧
        (options.perform fs).2.workingDirectory = fs.workingDirectory ∧
        ∀ l', l' ≠ l → fs.KeptOrMade output.above (options.perform fs).2 l') := by
  have hp := options.performed fs
  rw [h] at hp
  cases hp with
  | @saved s m _ _ hr hc ho hs =>
    obtain ⟨bytes, hread, hdecode⟩ := FileSystem.read_of_readScan hr
    obtain ⟨l, hl, he⟩ := hs.locate
    rw [options.format.contents_eq] at he
    refine ⟨ho, bytes, s, m, l, ⟨hread, hdecode, hc⟩, ⟨?_, ?_, ?_, ?_⟩, hl, ?_, ?_⟩
    · exact FileSystem.read_eq_ok_iff.mpr ⟨l, hl, he⟩
    · exact options.format.vertexLines_infix m
    · exact options.format.length_vertexLines m
    · exact List.length_pos_iff.mpr (Scan.vertices_ne_nil hc)
    · exact hs.extends.workingDirectory
    · intro l' hne
      apply hs.keptOrMade
      intro _ hl'
      rw [hl, Except.ok.injEq] at hl'
      exact hne hl'.symm

theorem run_delivers_into_new_directory :
    ∃ (options : ConvertOptions) (fs : FileSystem) (m : Mesh),
      (options.perform fs).1.1 = .ok (Path.ofString "out/s.pcd") ∧
      options.format = .cloud ∧ fs.entryAt? ["work", "out"] = none ∧
      (options.perform fs).2.read (Path.ofString "out/s.pcd") =
        .ok (Format.utf8 (Format.unlines (options.format.lines m))) ∧
      0 < m.vertices.length := by
  have h : (perform { input := "s.dat", format := .cloud, outputDirectory := some "out" }
      (FileSystem.fresh.put ["work", "s.dat"]
        (.file [1, 1, 1, 2, 0, 0, 0, 0, 3, 232, 0, 0, 3, 232]))).1.1 =
      .ok (Path.ofString "out/s.pcd") := rfl
  obtain ⟨-, -, -, m, -, -, ⟨hread, -, -, hv⟩, -⟩ := run_delivers _ _ _ h
  exact ⟨_, _, m, h, rfl, rfl, hread, hv⟩

/-- A conversion that fails leaves every file as it is and creates none. If there is no mesh or no name
for its file, not even a directory is made, and otherwise only some above the output. -/
theorem failed_run_keeps_files (options : ConvertOptions) (fs : FileSystem) (e : Failure)
    (h : (options.perform fs).1.1 = .error e) :
    (∀ l bytes, (options.perform fs).2.entryAt? l = some (.file bytes) ↔
      fs.entryAt? l = some (.file bytes)) ∧
    ((∃ cause, e = .read cause) ∨ (∃ input cause, e = .unconvertible input cause) ∨
      (∃ input, e = .noFileName input) → (options.perform fs).2 = fs) ∧
    ((options.perform fs).2 ≠ fs → ∃ output, options.outputPath = .ok output ∧
      ∀ l, fs.KeptOrMade output.above (options.perform fs).2 l) := by
  have hp := options.performed fs
  rw [h] at hp
  generalize (options.perform fs).2 = after at hp
  cases hp with
  | unread | unconverted | unnamed =>
    exact ⟨fun _ _ => Iff.rfl, fun _ => rfl, fun hn => absurd rfl hn⟩
  | @unsaved _ _ output _ _ _ _ ho hs =>
    have hkept (l) : fs.KeptOrMade output.above after l := hs.keptOrMade nofun
    refine ⟨fun l => (hkept l).entryAt?_file_iff, ?_, fun _ => ⟨output, ho, hkept⟩⟩
    -- The failures that leave no trace are ruled out by now.
    obtain ⟨_, _, rfl⟩ | ⟨_, rfl⟩ := hs.eq_notCreated <;> simp

/-- The output directory cannot be made, because a file has its name; only a directory on the way to it
is new. -/
theorem failed_run_keeps_files_below_file :
    ∃ (options : ConvertOptions) (fs : FileSystem),
      (options.perform fs).1.1 =
        .error (.directoryNotCreated (Path.ofString "new/../s.dat") .exists) ∧
      fs.entryAt? ["work", "new"] = none ∧
      (options.perform fs).2.entryAt? ["work", "new"] = some .directory ∧
      (options.perform fs).2.entryAt? ["work", "s.dat"] =
        some (.file [1, 1, 1, 2, 0, 0, 0, 0, 3, 232, 0, 0, 3, 232]) := by
  have h : (perform { input := "s.dat", outputDirectory := some "new/../s.dat" }
      (FileSystem.fresh.put ["work", "s.dat"]
        (.file [1, 1, 1, 2, 0, 0, 0, 0, 3, 232, 0, 0, 3, 232]))).1.1 =
      .error (.directoryNotCreated (Path.ofString "new/../s.dat") .exists) := rfl
  exact ⟨_, _, h, rfl, rfl, ((failed_run_keeps_files _ _ _ h).1 ["work", "s.dat"] _).mpr rfl⟩

end CommandLine.ConvertOptions

end RotaryScan
