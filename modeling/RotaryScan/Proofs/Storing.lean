import RotaryScan.Mock
import RotaryScan.Proofs.Codec
import RotaryScan.Proofs.Saving

namespace RotaryScan

namespace FileSystem

variable {fs before after last opened : FileSystem} {l l' : Location} {p : Path}

/-- What there was stays as it was, and perhaps there is more. -/
structure Keeps (before after : FileSystem) : Prop where
  workingDirectory : after.workingDirectory = before.workingDirectory
  entry : ∀ l e, before.entryAt? l = some e → after.entryAt? l = some e

theorem Keeps.refl (fs : FileSystem) : fs.Keeps fs := ⟨rfl, fun _ _ h => h⟩

theorem Keeps.trans (h₁ : before.Keeps after) (h₂ : after.Keeps last) : before.Keeps last :=
  ⟨h₂.workingDirectory.trans h₁.workingDirectory, fun l e h => h₂.entry l e (h₁.entry l e h)⟩

theorem Keeps.extends (h : before.Keeps after) : before.Extends after := by
  refine ⟨h.workingDirectory, fun l => h.entry l .directory, ?_⟩
  intro l hl
  obtain ⟨e, he⟩ := Option.ne_none_iff_exists'.mp hl
  rw [h.entry l e he]
  nofun

theorem keeps_put (h : fs.entryAt? l = none) (e : Entry) : fs.Keeps (fs.put l e) := by
  refine ⟨rfl, ?_⟩
  intro l' e' he
  have hne : l' ≠ l := by
    rintro rfl
    rw [h] at he
    cases he
  rwa [entryAt?_put_of_ne fs e hne]

/-- Whether a path ends in a name, and all before it leads to this directory. -/
structure Names (fs : FileSystem) (p : Path) (directory : Location) (name : String) : Prop where
  accepted : refusal? p = none
  ordinary : name ≠ "" ∧ name ≠ "." ∧ name ≠ ".."
  segments : ∃ above, segments p = above ++ [name] ∧ fs.walk (fs.start p) above = .ok directory
  isDirectory : fs.entryAt? directory = some .directory

section Names

variable {directory : Location} {name : String}

theorem slot_eq_named_iff :
    fs.slot p = .ok (.named directory name false) ↔ fs.Names p directory name := by
  constructor
  · intro hs
    obtain ⟨hd, hn, above, empties, hp, -, hslash, hw⟩ := slot_named hs
    rw [hslash rfl] at hp
    exact ⟨refusal?_of_slot hs, hn, ⟨above, hp, hw⟩, hd⟩
  · rintro ⟨hr, ⟨hempty, hdot, hdots⟩, ⟨above, hp, hw⟩, hd⟩
    have ht : trimmed p = above ++ [name] := by
      rw [trimmed, hp]
      exact List.rdropWhile_concat_neg _ _ _ (by simpa using hempty)
    rw [slot_eq fs hr, ht, hp, List.getLast?_concat, List.dropLast_concat, hw]
    change (if fs.entryAt? directory ≠ some .directory then _ else _) = _
    rw [if_neg (not_not_intro hd), if_neg (not_or.mpr ⟨hdot, hdots⟩), decide_eq_false (Nat.lt_irrefl _)]

theorem Names.mono (h : before.Names p directory name) (hext : before.Extends after) :
    after.Names p directory name := by
  obtain ⟨hr, hn, ⟨above, hp, hw⟩, hd⟩ := h
  refine ⟨hr, hn, ⟨above, hp, ?_⟩, hext.directory directory hd⟩
  rw [hext.start]
  exact hext.walk hw

theorem Names.locate_eq_ok_iff (h : fs.Names p directory name) :
    fs.locate p = .ok l ↔ child directory name = .ok l ∧ fs.entryAt? l ≠ none := by
  obtain ⟨hr, ⟨hempty, hdot, hdots⟩, ⟨above, hp, hw⟩, hd⟩ := h
  rw [FileSystem.locate_eq_ok_iff, and_iff_right hr, hp, walk_append, hw]
  change fs.walk directory [name] = .ok l ↔ _
  rw [walk_singleton, step_eq_ok_iff, and_iff_right hd, if_neg (not_or.mpr ⟨hempty, hdot⟩),
    if_neg hdots]

end Names

def Vacant (fs : FileSystem) (p : Path) (l : Location) : Prop :=
  ∃ directory name, fs.Names p directory name ∧ child directory name = .ok l ∧ fs.entryAt? l = none

theorem Vacant.entryAt?_eq_none (h : fs.Vacant p l) : fs.entryAt? l = none := by
  obtain ⟨_, _, -, -, hn⟩ := h
  exact hn

theorem Vacant.ne_nil (h : fs.Vacant p l) : l ≠ [] := by
  apply ne_nil_of_entryAt?
  rw [h.entryAt?_eq_none]
  nofun

theorem Vacant.locate_ne_ok (h : fs.Vacant p l) : fs.locate p ≠ .ok l' := by
  obtain ⟨_, _, hname, hc, hn⟩ := h
  rw [ne_eq, hname.locate_eq_ok_iff, hc]
  rintro ⟨hl, he⟩
  cases hl
  exact he hn

theorem Vacant.locate (h : before.Vacant p l) (hext : before.Extends after)
    (he : after.entryAt? l ≠ none) : after.locate p = .ok l := by
  obtain ⟨_, _, hname, hc, -⟩ := h
  exact (hname.mono hext).locate_eq_ok_iff.mpr ⟨hc, he⟩

theorem createNew_eq_ok_iff :
    fs.createNew p = .ok (l, after) ↔ fs.Vacant p l ∧ after = fs.put l (.file []) := by
  rw [createNew, bind_eq_ok]
  constructor
  · rintro ⟨slot, hs, h⟩
    match slot, hs, h with
    | .standing, _, h => cases h
    | .named _ _ true, _, h => cases h
    | .named directory name false, hs, h =>
      obtain ⟨l', hc, h⟩ := bind_eq_ok.mp h
      split at h
      · cases h
      · next hn =>
        cases h
        exact ⟨⟨directory, name, slot_eq_named_iff.mp hs, hc, not_not.mp hn⟩, rfl⟩
  · rintro ⟨⟨directory, name, hname, hc, hn⟩, rfl⟩
    refine ⟨_, slot_eq_named_iff.mpr hname, bind_eq_ok.mpr ⟨l, hc, ?_⟩⟩
    rw [if_neg (not_not_intro hn)]
    rfl

/-- What was created once is there, and is not created again. -/
theorem Vacant.createNew_again (h : before.Vacant p l) (hext : before.Extends after)
    (he : after.entryAt? l ≠ none) : after.createNew p = .error .exists := by
  obtain ⟨directory, name, hname, hc, -⟩ := h
  rw [createNew, slot_eq_named_iff.mpr (hname.mono hext)]
  change child directory name >>= _ = _
  rw [hc]
  exact if_pos he

theorem locate_of_lookup {e : Entry} (h : fs.lookup p = .ok e) : ∃ l, fs.locate p = .ok l := by
  obtain ⟨l, hl, -⟩ := bind_eq_ok.mp h
  exact ⟨l, hl⟩

end FileSystem

namespace Scan

variable {s : Scan} {p : Path} {fs fs' : FileSystem} {l : Location}

theorem ends_store_error {cause : FileError} (s : Scan) (h : fs.createNew p = .error cause) :
    (s.store p : Task (StateM FileSystem) Unit).Ends fs (.error (.fileNotCreated p cause)) fs :=
  (Task.ends_createNew_error h).bind_error

theorem ends_store (s : Scan) (h : fs.Vacant p l) :
    (s.store p : Task (StateM FileSystem) Unit).Ends fs (.ok ()) (fs.put l (.file s.encode)) := by
  have hcreate := Task.ends_createNew (FileSystem.createNew_eq_ok_iff.mpr ⟨h, rfl⟩)
  let buffer := s.pieces.foldl (Buffer.pushWithin bufferSize) {}
  have hb : buffer.passed.toList ++ buffer.pending.toList = s.encode :=
    Buffer.contents_foldl_pushWithin bufferSize s.pieces {}
  have hpassed := Task.ends_append l buffer.passed.toList (fs.put l (.file []))
  rw [FileSystem.append_put fs _ _ h.ne_nil, List.nil_append] at hpassed
  have hpending := Task.ends_append l buffer.pending.toList (fs.put l (.file buffer.passed.toList))
  rw [FileSystem.append_put fs _ _ h.ne_nil, hb] at hpending
  exact hcreate.bind (hpassed.bind (hpending.bind (Task.ends_report _ _)))

def storeOn (s : Scan) (p : Path) (fs : FileSystem) : Except Failure Unit × FileSystem :=
  (s.store p : Task (StateM FileSystem) Unit).runOn fs

theorem storeOn_cases (s : Scan) (p : Path) (fs : FileSystem) :
    (∃ cause, fs.createNew p = .error cause ∧
      s.storeOn p fs = (.error (.fileNotCreated p cause), fs)) ∨
    ∃ l, fs.Vacant p l ∧ s.storeOn p fs = (.ok (), fs.put l (.file s.encode)) := by
  cases hc : fs.createNew p with
  | error cause => exact .inl ⟨cause, rfl, (ends_store_error s hc).runOn_eq⟩
  | ok made =>
    have hv := (FileSystem.createNew_eq_ok_iff.mp hc).1
    exact .inr ⟨made.1, hv, (ends_store s hv).runOn_eq⟩

theorem keeps_storeOn (s : Scan) (p : Path) (fs : FileSystem) : fs.Keeps (s.storeOn p fs).2 := by
  obtain ⟨_, -, h⟩ | ⟨l, hv, h⟩ := s.storeOn_cases p fs
  · rw [h]
    exact .refl fs
  · rw [h]
    exact FileSystem.keeps_put hv.entryAt?_eq_none _

def storeAll (scans : List (Scan × Path)) (fs : FileSystem) : FileSystem :=
  scans.foldl (fun fs (s, p) => (s.storeOn p fs).2) fs

theorem keeps_storeAll (scans : List (Scan × Path)) (fs : FileSystem) :
    fs.Keeps (storeAll scans fs) := by
  induction scans generalizing fs with
  | nil => exact .refl fs
  | cons stored scans ih =>
    exact (keeps_storeOn stored.1 stored.2 fs).trans (ih _)

/-- What is new after a scan was stored, and what is not. -/
structure Stored (s : Scan) (p : Path) (l : Location) (before after : FileSystem) : Prop where
  absent : before.entryAt? l = none
  locate : after.locate p = .ok l
  file : after.entryAt? l = some (.file s.encode)
  others : ∀ l', l' ≠ l → after.entryAt? l' = before.entryAt? l'
  workingDirectory : after.workingDirectory = before.workingDirectory

def readOn (p : Path) (fs : FileSystem) : Except Failure Scan × FileSystem :=
  (Task.readScan p : Task (StateM FileSystem) Scan).runOn fs

theorem readOn_of_locate (hl : fs.locate p = .ok l) (he : fs.entryAt? l = some (.file s.encode)) :
    readOn p fs = (.ok s, fs) := by
  have hr := FileSystem.read_eq_ok_iff.mpr ⟨l, hl, he⟩
  have h := Task.ends_readScan p fs
  rw [FileSystem.readScan, hr] at h
  change Task.Ends _ fs (((Scan.decode s.encode).mapError .malformed).mapError .read) fs at h
  rw [decode_encode] at h
  exact h.runOn_eq

section Vacant

variable (h : fs.Vacant p l)
include h

theorem storeOn_of_vacant (s : Scan) : s.storeOn p fs = (.ok (), fs.put l (.file s.encode)) :=
  (ends_store s h).runOn_eq

theorem stored_of_vacant (s : Scan) : s.Stored p l fs (fs.put l (.file s.encode)) := by
  have he := FileSystem.entryAt?_put fs (.file s.encode) h.ne_nil
  have hk := FileSystem.keeps_put h.entryAt?_eq_none (.file s.encode)
  refine ⟨h.entryAt?_eq_none, h.locate hk.extends ?_, he, ?_, rfl⟩
  · rw [he]
    nofun
  · intro l' hne
    exact FileSystem.entryAt?_put_of_ne fs _ hne

/-- Whatever keeps the file of a scan, the scan is read, and no other is stored there. -/
theorem read_and_refused_of_keeps (t : Scan) (hk : fs.Keeps fs')
    (he : fs'.entryAt? l = some (.file s.encode)) :
    readOn p fs' = (.ok s, fs') ∧
      t.storeOn p fs' = (.error (.fileNotCreated p .exists), fs') := by
  have hne : fs'.entryAt? l ≠ none := by
    rw [he]
    nofun
  constructor
  · exact readOn_of_locate (h.locate hk.extends hne) he
  · exact (ends_store_error t (h.createNew_again hk.extends hne)).runOn_eq

end Vacant

end Scan

theorem CommandLine.MockOptions.runOn_of_rejected {options : MockOptions} {e : Failure}
    (fs : FileSystem) (h : options.settings.generate = .error e) :
    (options.run : Task (StateM FileSystem) Path).runOn fs = (.error e, fs) := by
  have hg : (liftM options.settings.generate : Task (StateM FileSystem) Scan).Ends fs (.error e) fs := by
    rw [h]
    exact Task.ends_throw e fs
  exact hg.bind_error.runOn_eq

namespace Scan

/-- Storing a scan adds a file where nothing was, and otherwise nothing happens. What was stored stays
what is read, whatever is stored later. -/
theorem stored_once :
    (∀ (s : Scan) (p : Path) (fs : FileSystem),
      (∀ e, fs.lookup p = .ok e →
        ∃ cause, s.storeOn p fs = (.error (.fileNotCreated p cause), fs)) ∧
      ((∀ l, ¬fs.Vacant p l) →
        ∃ cause, s.storeOn p fs = (.error (.fileNotCreated p cause), fs)) ∧
      ∀ l, fs.Vacant p l → ∃ after, s.storeOn p fs = (.ok (), after) ∧ s.Stored p l fs after ∧
        readOn p after = (.ok s, after) ∧
        ∀ later (t : Scan), readOn p (storeAll later after) = (.ok s, storeAll later after) ∧
          t.storeOn p (storeAll later after) =
            (.error (.fileNotCreated p .exists), storeAll later after)) ∧
    ∀ (options : CommandLine.MockOptions) (fs : FileSystem) (e : Failure),
      options.settings.generate = .error e →
        (options.run : Task (StateM FileSystem) Path).runOn fs = (.error e, fs) := by
  refine ⟨?_, fun options fs e => options.runOn_of_rejected fs⟩
  intro s p fs
  have hrefused : (∀ l, ¬fs.Vacant p l) →
      ∃ cause, s.storeOn p fs = (.error (.fileNotCreated p cause), fs) := by
    intro h
    obtain ⟨cause, -, hs⟩ | ⟨l, hv, -⟩ := s.storeOn_cases p fs
    · exact ⟨cause, hs⟩
    · exact absurd hv (h l)
  refine ⟨?_, hrefused, ?_⟩
  · intro e he
    obtain ⟨l, hl⟩ := FileSystem.locate_of_lookup he
    exact hrefused fun _ hv => hv.locate_ne_ok hl
  · intro l hv
    have hstored := stored_of_vacant hv s
    have hk := FileSystem.keeps_put hv.entryAt?_eq_none (.file s.encode)
    refine ⟨_, storeOn_of_vacant hv s, hstored, (read_and_refused_of_keeps hv s hk hstored.file).1, ?_⟩
    intro later t
    have hlater := keeps_storeAll later (fs.put l (.file s.encode))
    exact read_and_refused_of_keeps hv t (hk.trans hlater) (hlater.entry l _ hstored.file)

theorem stored_once_fresh : ∃ after,
    (Scan.mk { lineCount := 1, pointCount := 1 } [7]).storeOn (Path.ofString "s.dat")
      FileSystem.fresh = (.ok (), after) ∧
    after.read (Path.ofString "s.dat") = .ok [1, 1, 1, 1, 0, 0, 0, 0, 0, 7] ∧
    (Scan.mk { lineCount := 0, pointCount := 0 } []).storeOn (Path.ofString "s.dat") after =
      (.error (.fileNotCreated (Path.ofString "s.dat") .exists), after) ∧
    readOn (Path.ofString "s.dat") after =
      (.ok (Scan.mk { lineCount := 1, pointCount := 1 } [7]), after) ∧
    ({ output := "t.dat", settings := { mean := -5 } } : CommandLine.MockOptions).run.runOn after =
      (.error (.negativeMean (-5)), after) := by
  obtain ⟨hstore, hmock⟩ := stored_once
  have hv : FileSystem.fresh.Vacant (Path.ofString "s.dat") ["work", "s.dat"] :=
    (FileSystem.createNew_eq_ok_iff.mp (rfl : FileSystem.fresh.createNew (Path.ofString "s.dat") =
      .ok (["work", "s.dat"], FileSystem.fresh.put ["work", "s.dat"] (.file [])))).1
  obtain ⟨after, hs, hstored, hread, hlater⟩ :=
    (hstore (Scan.mk { lineCount := 1, pointCount := 1 } [7]) _ _).2.2 _ hv
  refine ⟨after, hs, ?_, (hlater [] _).2, hread, ?_⟩
  · exact FileSystem.read_eq_ok_iff.mpr ⟨_, hstored.locate, hstored.file⟩
  · exact hmock _ _ _ rfl

end Scan

end RotaryScan
