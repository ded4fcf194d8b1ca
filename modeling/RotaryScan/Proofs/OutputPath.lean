import RotaryScan.Proofs.Components
import RotaryScan.Proofs.Records

namespace RotaryScan

namespace Path

variable {p q : Path} {stem extension name : List Char}

/-- What stands after the last point of a name, unless nothing stands before it. -/
def extensionOf? (name : List Char) : Option (List Char) :=
  let before := (name.reverse.dropWhile (· ≠ '.')).drop 1
  if before = [] then none else some (name.reverse.takeWhile (· ≠ '.')).reverse

def extension? (p : Path) : Option (List Char) := p.fileName?.bind extensionOf?

/-- Whatever points a stem has, it is split off again at the point put behind it. -/
theorem split_append (hs : stem ≠ []) (he : '.' ∉ extension) :
    stemOf (stem ++ '.' :: extension) = stem ∧
      extensionOf? (stem ++ '.' :: extension) = some extension := by
  have hr : (stem ++ '.' :: extension).reverse = extension.reverse ++ '.' :: stem.reverse := by simp
  have hpoint : '.' ∉ extension.reverse := by rwa [List.mem_reverse]
  have hstem : stem.reverse ≠ [] := by rwa [Ne, List.reverse_eq_nil_iff]
  have hbefore : ((extension.reverse ++ '.' :: stem.reverse).dropWhile (· ≠ '.')).drop 1 =
      stem.reverse := by
    rw [dropWhile_append_mark hpoint, List.drop_one, List.tail_cons]
  constructor
  · rw [stemOf, hr, hbefore, if_neg hstem, List.reverse_reverse]
  · rw [extensionOf?, hr, hbefore, if_neg hstem, takeWhile_append_mark hpoint, List.reverse_reverse]

theorem stemOf_ne_nil (h : name ≠ []) : stemOf name ≠ [] := by
  unfold stemOf
  dsimp only
  split
  · exact h
  · next hb => rwa [Ne, List.reverse_eq_nil_iff]

end Path

namespace CommandLine.ConvertOptions

variable {options other : ConvertOptions} {output output' : Path} {name : List Char}

/-- Where the output lies: where it is asked for, or else where the input lies, which for a bare name
is here. -/
def directoryComponents (options : ConvertOptions) : List Component :=
  match options.outputDirectory with
  | some directory => (Path.ofString directory).components
  | none =>
    match (Path.ofString options.input).components.dropLast with
    | [] => [.here]
    | above => above

theorem components_directory (h : (Path.ofString options.input).fileName? = some name) :
    options.directory.components = options.directoryComponents := by
  rw [directory, directoryComponents]
  cases options.outputDirectory with
  | some => rfl
  | none =>
    obtain ⟨q, hq⟩ := Path.exists_parent h
    dsimp only
    rw [hq, ← Path.components_parent hq]
    dsimp only
    by_cases hc : q.chars = []
    · have hempty : q.components = [] := by
        obtain ⟨chars⟩ := q
        cases hc
        rfl
      rw [if_pos hc, hempty]
      rfl
    · rw [if_neg hc]
      split
      · next he => exact absurd (Path.chars_eq_nil_of_parent hq he) hc
      · rfl

theorem outputPath_components (h : options.outputPath = .ok output) :
    ∃ name, (Path.ofString options.input).fileName? = some name ∧
      output.components = options.directoryComponents ++ [.name (options.format.rename name)] := by
  obtain ⟨name, hn, rfl⟩ := outputPath_eq_ok h
  refine ⟨name, hn, ?_⟩
  rw [← components_directory hn]
  exact Path.components_join (options.format.not_mem_rename (Path.not_mem_fileName? hn))
    (options.format.isSkipped_rename name) _ (options.format.rename_ne_up name)

theorem outputPath_eq_error_iff (options : ConvertOptions) (e : Failure) :
    options.outputPath = .error e ↔
      (Path.ofString options.input).fileName? = none ∧ e = .noFileName options.input := by
  unfold outputPath Path.fileStem?
  cases (Path.ofString options.input).fileName? with
  | none => simp [eq_comm]
  | some name => simp

theorem fileName?_of_outputPath (h : options.outputPath = .ok output) :
    ∃ name, (Path.ofString options.input).fileName? = some name ∧
      output.fileName? = some (options.format.rename name) := by
  obtain ⟨name, hn, hc⟩ := outputPath_components h
  exact ⟨name, hn, Path.fileName?_eq_some_iff.mpr (by rw [hc, List.getLast?_concat])⟩

theorem outputPath_names (h : options.outputPath = .ok output) :
    output.fileStem? = (Path.ofString options.input).fileStem? ∧
      output.extension? = some options.format.extension.toList := by
  obtain ⟨name, hn, hname⟩ := fileName?_of_outputPath h
  have hne : name ≠ [] := by
    rintro rfl
    cases (Path.proper_of_fileName? hn).1
  obtain ⟨hstem, hextension⟩ := Path.split_append (Path.stemOf_ne_nil hne)
    (options.format.not_mem_extension rfl)
  rw [Path.fileStem?, Path.fileStem?, Path.extension?, hname, hn]
  exact ⟨congrArg some hstem, hextension⟩

theorem format_of_components (h : options.outputPath = .ok output)
    (h' : other.outputPath = .ok output') (hc : output'.components = output.components) :
    other.format = options.format := by
  have hextension : output'.extension? = output.extension? := by
    rw [Path.extension?, Path.extension?, Path.fileName?_congr hc]
  rw [(outputPath_names h').2, (outputPath_names h).2, Option.some.injEq, String.toList_inj] at hextension
  exact OutputFormat.extension_injective hextension

/-- There is no output exactly when the input does not end in a name. Otherwise the output keeps the
stem of the input, has the extension of its format, and lies where it should. So outputs in different
formats have different paths. -/
theorem output_renamed (options : ConvertOptions) :
    (∀ e, options.outputPath = .error e ↔
      ((Path.ofString options.input).components = [] ∨
        (Path.ofString options.input).components = [.root] ∨
        (Path.ofString options.input).components = [.here] ∨
        (Path.ofString options.input).components.getLast? = some .up) ∧
      e = .noFileName options.input) ∧
    ∀ output, options.outputPath = .ok output →
      (output.fileStem? = (Path.ofString options.input).fileStem? ∧
        output.extension? = some options.format.extension.toList) ∧
      (∃ parent, output.parent? = some parent ∧
        parent.components = options.directoryComponents) ∧
      ∀ (other : ConvertOptions) (output' : Path), other.outputPath = .ok output' →
        other.format ≠ options.format → output'.components ≠ output.components := by
  constructor
  · intro e
    rw [outputPath_eq_error_iff, Path.fileName?_eq_none_iff]
  · intro output h
    obtain ⟨name, -, hname⟩ := fileName?_of_outputPath h
    obtain ⟨parent, hp⟩ := Path.exists_parent hname
    obtain ⟨_, -, hc⟩ := outputPath_components h
    refine ⟨outputPath_names h, ⟨parent, hp, ?_⟩, fun _ _ h' hn hc => hn (format_of_components h h' hc)⟩
    rw [Path.components_parent hp, hc, List.dropLast_concat]

theorem output_renamed_points :
    ∃ (options : ConvertOptions) (output output' : Path), options.input = "scans/.//.b..c/." ∧
      options.outputPath = .ok output ∧ output.text = "scans/.b..pcd" ∧
      output.fileStem? = some ['.', 'b', '.'] ∧ output.extension? = some ['p', 'c', 'd'] ∧
      (∃ parent, output.parent? = some parent ∧
        parent.components = [.name ['s', 'c', 'a', 'n', 's']]) ∧
      ({ input := options.input, outputDirectory := some "./scans" } : ConvertOptions).outputPath =
        .ok output' ∧ output'.components ≠ output.components := by
  have ho : ({ input := "scans/.//.b..c/.", format := .cloud } : ConvertOptions).outputPath =
    .ok (Path.ofString "scans/.b..pcd") := rfl
  obtain ⟨⟨hs, he⟩, ⟨parent, hp, hc⟩, hother⟩ := (output_renamed _).2 _ ho
  refine ⟨_, _, Path.ofString "./scans/.b..obj", rfl, ho, rfl, hs, he, ⟨parent, hp, hc⟩, rfl, ?_⟩
  exact hother { input := "scans/.//.b..c/.", outputDirectory := some "./scans" } _ rfl (by decide)

end CommandLine.ConvertOptions

end RotaryScan
