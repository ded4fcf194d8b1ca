import RotaryScan.Program
import RotaryScan.Proofs.Growth

namespace RotaryScan

theorem not_mem_of_mem_splitOn {separator : Char} {chars segment : List Char}
    (h : segment ∈ chars.splitOn separator) : separator ∉ segment := by
  induction chars generalizing segment with
  | nil =>
    rw [List.splitOn_nil, List.mem_singleton] at h
    subst h
    exact List.not_mem_nil
  | cons c chars ih =>
    rw [List.splitOn_cons_eq_if_modifyHead] at h
    split at h
    · cases h with
      | head => exact List.not_mem_nil
      | tail _ h => exact ih h
    · next hc =>
      cases hs : chars.splitOn separator with
      | nil => exact absurd hs (List.splitOn_ne_nil _ _)
      | cons first rest =>
        rw [hs] at h ih
        cases h with
        | head =>
          rw [List.mem_cons, not_or]
          exact ⟨fun he => hc (beq_iff_eq.mpr he.symm), ih List.mem_cons_self⟩
        | tail _ h => exact ih (List.mem_cons_of_mem _ h)

namespace Path

variable {p : Path} {segment name : List Char}

def last? (p : Path) : Option (List Char) := (p.chars.splitOn '/').getLast?

theorem exists_last (p : Path) : ∃ segment, p.last? = some segment :=
  ⟨_, List.getLast?_eq_some_getLast (List.splitOn_ne_nil _ _)⟩

/-- What leads a path is not part of its body, but both end alike. -/
theorem getLast?_body (h : p.chars ≠ ['.']) : p.body.getLast? = p.last? := by
  have hslash (rest : List Char) : ('/' :: rest).splitOn '/' = [] :: rest.splitOn '/' :=
    List.splitOn_append_cons_self [] rest
  have hcons (first rest : List Char) :
      (first :: rest.splitOn '/').getLast? = (rest.splitOn '/').getLast? := by
    cases hr : rest.splitOn '/' with
    | nil => exact absurd hr (List.splitOn_ne_nil _ _)
    | cons second rest => exact List.getLast?_cons_cons
  obtain ⟨chars⟩ := p
  unfold last? body lead
  dsimp only
  split
  · next rest =>
    rw [hslash, hcons]
    rfl
  · exact absurd rfl h
  · next rest =>
    have hd : ('.' :: '/' :: rest).splitOn '/' = ['.'] :: rest.splitOn '/' :=
      List.splitOn_append_cons_self ['.'] rest
    rw [hd, hcons]
    change (('/' :: rest).splitOn '/').getLast? = _
    rw [hslash, hcons]
  · rfl

theorem fileName?_eq (hl : p.last? = some segment) (hs : isSkipped segment = false) :
    p.fileName? = if segment = ['.', '.'] then none else some segment := by
  have hc : p.chars ≠ ['.'] := by
    intro hc
    unfold last? at hl
    rw [hc] at hl
    cases hl
    cases hs
  have hb : p.body.getLast? = some segment := (getLast?_body hc).trans hl
  -- A body that ends in a name has nothing to drop.
  have hn : p.named = p.body := by
    refine List.rdropWhile_eq_self_iff.mpr fun hne => ?_
    rw [List.getLast?_eq_some_getLast hne, Option.some.injEq] at hb
    rw [hb, hs]
    nofun
  unfold fileName?
  rw [hn, hb]

theorem not_mem_fileName? (h : p.fileName? = some name) : '/' ∉ name := by
  unfold fileName? at h
  split at h
  · next segment hl =>
    split at h
    · cases h
    · cases h
      have hm : name ∈ p.body := (List.rdropWhile_prefix _ _).subset (List.mem_of_getLast? hl)
      exact not_mem_of_mem_splitOn hm
  · cases h

theorem stemOf_prefix (name : List Char) : stemOf name <+: name := by
  unfold stemOf
  dsimp only
  split
  · exact List.prefix_rfl
  · rw [← List.reverse_suffix, List.reverse_reverse]
    exact (List.drop_suffix _ _).trans (List.dropWhile_suffix _)

theorem last?_join (directory : Path) (h : '/' ∉ name) : (directory.join name).last? = some name := by
  have ha (above : List Char) : ((above ++ '/' :: name).splitOn '/').getLast? = some name := by
    rw [List.splitOn_append_cons_self, List.splitOn_eq_singleton h, List.getLast?_append]
    rfl
  unfold join last?
  split
  · rw [List.splitOn_eq_singleton h]
    rfl
  · next hl =>
    obtain ⟨above, hc⟩ := List.getLast?_eq_some_iff.mp hl
    rw [hc, List.append_assoc]
    exact ha above
  · exact ha directory.chars

end Path

namespace FileSystem

variable {fs : FileSystem} {p : Path} {l : Location} {segment : List Char}

theorem isSkipped_iff : Path.isSkipped segment = true ↔
    String.ofList segment = "" ∨ String.ofList segment = "." := by
  have hempty : String.ofList segment = "" ↔ segment = [] := String.ofList_inj
  have hpoint : String.ofList segment = "." ↔ segment = ['.'] := String.ofList_inj
  unfold Path.isSkipped
  rw [hempty, hpoint, Bool.or_eq_true, beq_iff_eq, beq_iff_eq]

theorem step_of_locate (hl : fs.locate p = .ok l) (h : p.last? = some segment) :
    ∃ directory, fs.step directory (String.ofList segment) = .ok l := by
  obtain ⟨above, ha⟩ := List.getLast?_eq_some_iff.mp h
  obtain ⟨-, hw⟩ := locate_eq_ok_iff.mp hl
  unfold segments at hw
  rw [ha, List.map_append, walk_append, bind_eq_ok] at hw
  obtain ⟨directory, -, hw⟩ := hw
  rw [List.map_singleton, walk_singleton] at hw
  exact ⟨directory, hw⟩

theorem getLast?_of_locate (hl : fs.locate p = .ok l) (h : p.last? = some segment)
    (hs : Path.isSkipped segment = false) (hu : segment ≠ ['.', '.']) :
    l.getLast? = some (String.ofList segment) := by
  obtain ⟨directory, hstep⟩ := step_of_locate hl h
  have hup : String.ofList segment ≠ ".." := fun he => hu (String.ofList_inj.mp he)
  rw [step_eq_ok_iff, if_neg (by rw [← isSkipped_iff, hs]; nofun), if_neg hup] at hstep
  obtain ⟨-, hc, -⟩ := hstep
  rw [child_eq_ok hc, List.getLast?_concat]

/-- A path that ends in a slash or a point leads to no file. -/
theorem isSkipped_of_file {bytes : List UInt8} (hl : fs.locate p = .ok l)
    (he : fs.entryAt? l = some (.file bytes)) (h : p.last? = some segment) :
    Path.isSkipped segment = false := by
  obtain ⟨directory, hstep⟩ := step_of_locate hl h
  obtain ⟨hd, hstep⟩ := (step_eq_ok_iff _).mp hstep
  by_contra hs
  rw [Bool.not_eq_false, isSkipped_iff] at hs
  rw [if_pos hs] at hstep
  rw [hstep, he] at hd
  cases hd

/-- The place of a file has the name that its path ends in. -/
theorem getLast?_of_file {bytes : List UInt8} {name : List Char} (hl : fs.locate p = .ok l)
    (he : fs.entryAt? l = some (.file bytes)) (hn : p.fileName? = some name) :
    l.getLast? = some (String.ofList name) := by
  obtain ⟨segment, h⟩ := p.exists_last
  have hs := isSkipped_of_file hl he h
  rw [Path.fileName?_eq h hs] at hn
  split at hn
  · cases hn
  · next hu =>
    cases hn
    exact getLast?_of_locate hl h hs hu

end FileSystem

namespace OutputFormat

theorem length_extension (format : OutputFormat) : format.extension.toList.length = 3 := by
  cases format with
  | stream format => cases format <;> rfl
  | cloud => rfl

theorem not_mem_extension (format : OutputFormat) {c : Char} (h : c.isLower = false) :
    c ∉ format.extension.toList := by
  have hlower : format.extension.toList.all Char.isLower = true := by
    cases format with
    | stream format => cases format <;> rfl
    | cloud => rfl
  intro hc
  rw [List.all_eq_true.mp hlower c hc] at h
  cases h

def rename (format : OutputFormat) (name : List Char) : List Char :=
  Path.stemOf name ++ '.' :: format.extension.toList

theorem not_mem_rename (format : OutputFormat) {name : List Char} (h : '/' ∉ name) :
    '/' ∉ format.rename name := by
  unfold rename
  rw [List.mem_append, List.mem_cons, not_or, not_or]
  exact ⟨fun hm => h ((Path.stemOf_prefix name).subset hm), by decide, format.not_mem_extension rfl⟩

theorem four_le_length_rename (format : OutputFormat) (name : List Char) :
    4 ≤ (format.rename name).length := by
  unfold rename
  rw [List.length_append, List.length_cons, format.length_extension]
  omega

theorem isSkipped_rename (format : OutputFormat) (name : List Char) :
    Path.isSkipped (format.rename name) = false := by
  have hlength := format.four_le_length_rename name
  unfold Path.isSkipped
  rw [Bool.or_eq_false_iff, beq_eq_false_iff_ne, beq_eq_false_iff_ne]
  constructor <;> intro he <;> simp [he] at hlength

theorem rename_ne_up (format : OutputFormat) (name : List Char) :
    format.rename name ≠ ['.', '.'] := by
  intro he
  have hlength := format.four_le_length_rename name
  simp [he] at hlength

end OutputFormat

namespace CommandLine.ConvertOptions

variable {options : ConvertOptions} {output : Path}

theorem outputPath_eq_ok (h : options.outputPath = .ok output) :
    ∃ name, (Path.ofString options.input).fileName? = some name ∧
      output = options.directory.join (options.format.rename name) := by
  unfold outputPath Path.fileStem? at h
  cases hn : (Path.ofString options.input).fileName? with
  | none =>
    rw [hn] at h
    cases h
  | some name =>
    rw [hn] at h
    cases h
    exact ⟨name, rfl, rfl⟩

theorem getLast?_of_outputPath {fs : FileSystem} {l : Location}
    (h : options.outputPath = .ok output) (hl : fs.locate output = .ok l) :
    ∃ name, (Path.ofString options.input).fileName? = some name ∧
      l.getLast? = some (String.ofList (options.format.rename name)) := by
  obtain ⟨name, hn, rfl⟩ := outputPath_eq_ok h
  have hlast := options.directory.last?_join
    (options.format.not_mem_rename (Path.not_mem_fileName? hn))
  exact ⟨name, hn, FileSystem.getLast?_of_locate hl hlast (options.format.isSkipped_rename name)
    (options.format.rename_ne_up name)⟩

end CommandLine.ConvertOptions

end RotaryScan
