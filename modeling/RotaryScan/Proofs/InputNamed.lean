import RotaryScan.Proofs.Naming
import RotaryScan.Proofs.Saving

namespace RotaryScan

namespace FileSystem

variable {fs after : FileSystem} {directories : List Path} {l : Location} {p : Path}

/-- What a directory lies in is a directory, too, so that two points never lead to a file. -/
def Nested (fs : FileSystem) : Prop :=
  ∀ l, fs.entryAt? l = some .directory → fs.entryAt? l.dropLast = some .directory

theorem nested_fresh : fresh.Nested := by
  intro l hl
  by_cases hn : l = []
  · rw [hn]
    rfl
  · by_cases hw : l = ["work"]
    · rw [hw]
      rfl
    · simp [entryAt?, fresh, List.lookup_cons, hn, beq_false_of_ne hw] at hl

section Nested

variable (h : fs.Nested)
include h

theorem Nested.put_file (hl : fs.entryAt? l ≠ some .directory) (bytes : List UInt8) :
    (fs.put l (.file bytes)).Nested := by
  intro l' hd
  by_cases he : l' = l
  · rw [he, entryAt?_put fs _ (ne_nil_of_entryAt? hl)] at hd
    cases hd
  · rw [entryAt?_put_of_ne fs _ he] at hd
    exact (extends_put hl _).directory _ (h l' hd)

theorem Nested.makeDirectory (hm : fs.makeDirectory p = .ok after) : after.Nested := by
  obtain ⟨l, hl, rfl, -, habove⟩ := makeDirectory_eq_ok hm
  have hext : fs.Extends (fs.put l .directory) := extends_put (by rw [hl]; nofun) .directory
  intro l' hd
  by_cases he : l' = l
  · rw [he]
    exact hext.directory _ habove
  · rw [entryAt?_put_of_ne fs _ he] at hd
    exact hext.directory _ (h l' hd)

theorem Nested.made (hm : Made directories fs after) : after.Nested := by
  induction hm with
  | nothing => exact h
  | next _ _ hm ih => exact ih.makeDirectory hm

theorem Nested.saved {bytes : List UInt8} {r : Except Failure Unit}
    (hs : Writer.Saved p bytes fs r after) : after.Nested := by
  have hprepared := h.made (fs.made_prepare p)
  cases hs with
  | noDirectory => exact hprepared
  | noFile => exact hprepared
  | written _ ht => exact hprepared.put_file (truncate_eq_ok ht).1 bytes

/-- A path that leads to a file ends in a name. -/
theorem Nested.exists_fileName? {bytes : List UInt8} (hr : fs.read p = .ok bytes) :
    ∃ name, p.fileName? = some name := by
  obtain ⟨l, hl, he⟩ := read_eq_ok_iff.mp hr
  obtain ⟨segment, hlast⟩ := p.exists_last
  have hs := isSkipped_of_file hl he hlast
  have hu : segment ≠ ['.', '.'] := by
    rintro rfl
    obtain ⟨directory, hstep⟩ := step_of_locate hl hlast
    obtain ⟨hd, hstep⟩ := (step_eq_ok_iff _).mp hstep
    rw [if_neg (by decide), if_pos rfl] at hstep
    have habove := h directory hd
    rw [hstep, he] at habove
    cases habove
  exact ⟨segment, by rw [Path.fileName?_eq hlast hs, if_neg hu]⟩

end Nested

end FileSystem

namespace CommandLine.ConvertOptions

variable {options : ConvertOptions} {fs fs' : FileSystem} {r : Except Failure Path}

theorem exists_outputPath_of_read (h : fs.Nested) {bytes : List UInt8}
    (hr : fs.read (Path.ofString options.input) = .ok bytes) :
    ∃ output, options.outputPath = .ok output := by
  obtain ⟨name, hn⟩ := h.exists_fileName? hr
  rw [outputPath, Path.fileStem?, hn]
  exact ⟨_, rfl⟩

theorem Performed.nested (h : fs.Nested) (hp : options.Performed fs r fs') : fs'.Nested := by
  cases hp with
  | unread | unconverted | unnamed => exact h
  | unsaved _ _ _ hs => exact h.saved hs
  | saved _ _ _ hs => exact h.saved hs

/-- A scan that can be read has a name to call its output by, so that a conversion fails only for its
input, for the scan in it, or for a file or directory that it cannot create. The files that it leaves
are such that this holds of the next conversion, too. -/
theorem output_named (options : ConvertOptions) (fs : FileSystem) (h : fs.Nested) :
    (∀ s, fs.readScan (Path.ofString options.input) = .ok s →
      ∃ output, options.outputPath = .ok output) ∧
    (∀ e, (options.perform fs).1.1 = .error e →
      (∃ cause, fs.readScan (Path.ofString options.input) = .error cause ∧ e = .read cause) ∨
      (∃ s cause, fs.readScan (Path.ofString options.input) = .ok s ∧
        (s.convert options.settings).mesh = .error cause ∧
        e = .unconvertible options.input cause) ∨
      ∃ output, options.outputPath = .ok output ∧
        ((∃ parent cause, e = .directoryNotCreated parent cause) ∨
          ∃ cause, e = .fileNotCreated output cause)) ∧
    (options.perform fs).2.Nested := by
  have houtput : ∀ s, fs.readScan (Path.ofString options.input) = .ok s →
      ∃ output, options.outputPath = .ok output := by
    intro s hr
    obtain ⟨bytes, hbytes, -⟩ := FileSystem.read_of_readScan hr
    exact exists_outputPath_of_read h hbytes
  have hp := options.performed fs
  refine ⟨houtput, ?_, hp.nested h⟩
  intro e he
  rw [he] at hp
  generalize (options.perform fs).2 = after at hp
  cases hp with
  | unread hr => exact .inl ⟨_, hr, rfl⟩
  | unconverted hr hc => exact .inr (.inl ⟨_, _, hr, hc, rfl⟩)
  | unnamed hr _ ho =>
    obtain ⟨output, houtput⟩ := houtput _ hr
    rw [ho] at houtput
    cases houtput
  | unsaved _ _ ho hs => exact .inr (.inr ⟨_, ho, hs.eq_notCreated⟩)

/-- An input that is called by way of its own directory is read, and a directory is refused when it is
read, not for want of a name. -/
theorem output_named_through_points :
    ∃ fs : FileSystem, fs.Nested ∧
      (∃ output, ({ input := "./../work/s.dat" } : ConvertOptions).outputPath = .ok output) ∧
      (perform { input := "../work/.." } fs).1.1 =
        .error (.read (.unreadable (Path.ofString "../work/..") .isDirectory)) := by
  have h : (FileSystem.fresh.put ["work", "s.dat"]
      (.file [1, 1, 1, 2, 0, 0, 0, 0, 3, 232, 0, 0, 3, 232])).Nested :=
    FileSystem.nested_fresh.put_file (by decide) _
  have hnamed := (output_named { input := "./../work/s.dat" } _ h).1 _ rfl
  exact ⟨_, h, hnamed, rfl⟩

end CommandLine.ConvertOptions

end RotaryScan
