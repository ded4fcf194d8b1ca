import RotaryScan.Proofs.Execution
import RotaryScan.Proofs.Placement

namespace RotaryScan

namespace Format

theorem utf8_append (s t : String) : utf8 (s ++ t) = utf8 s ++ utf8 t := by
  simp [utf8, String.toByteArray_append]

theorem utf8_join (strings : List String) :
    utf8 (String.join strings) = (strings.map utf8).flatten := by
  induction strings with
  | nil => rfl
  | cons s strings ih => rw [String.join_cons, utf8_append, ih, List.map_cons, List.flatten_cons]

end Format

theorem StreamFormat.flatten_pieces (format : StreamFormat) (m : Mesh) :
    (format.pieces m).flatten = Format.utf8 (format.render m) := by
  rw [render, Format.unlines, Format.utf8_join, List.map_map]
  rfl

theorem Buffer.contents_foldl_pushWithin (capacity : Nat) (pieces : List (List UInt8)) (b : Buffer) :
    (pieces.foldl (pushWithin capacity) b).contents = b.contents ++ pieces.flatten := by
  induction pieces generalizing b with
  | nil => simp
  | cons piece pieces ih =>
    rw [List.foldl_cons, ih, contents_pushWithin, List.flatten_cons, List.append_assoc]

theorem Buffer.contents_foldl_push (pieces : List (List UInt8)) (b : Buffer) :
    (pieces.foldl push b).contents = b.contents ++ pieces.flatten :=
  contents_foldl_pushWithin capacity pieces b

/-- The bytes of a file that holds a mesh. -/
def OutputFormat.contents (format : OutputFormat) (m : Mesh) : List UInt8 :=
  match format with
  | stream format => Format.utf8 (format.render m)
  | cloud => Format.utf8 (Format.unlines (Format.Pcd.lines m.vertices))

namespace CloudWriter

variable {fs fs' : FileSystem} {l : Location} {w : CloudWriter}

theorem ends_store (ht : fs.truncate w.path = .ok (l, fs')) :
    (w.store : Task (StateM FileSystem) Unit).Ends fs (.ok ())
      (fs.put l (.file (Format.utf8 (Format.unlines (Format.Pcd.lines w.points))))) := by
  obtain ⟨hd, rfl, -⟩ := FileSystem.truncate_eq_ok ht
  have ha := Task.ends_append l (Format.utf8 (Format.unlines (Format.Pcd.lines w.points)))
    (fs.put l (.file []))
  rw [FileSystem.append_put fs _ _ (FileSystem.ne_nil_of_entryAt? hd), List.nil_append] at ha
  exact (Task.ends_truncate ht).bind ha

theorem ends_store_error {e : FileError} (ht : fs.truncate w.path = .error e) :
    (w.store : Task (StateM FileSystem) Unit).Ends fs (.error (.fileNotCreated w.path e)) fs :=
  (Task.ends_truncate_error ht).bind_error

theorem endsWith_finish_empty (hw : w.points = []) (fs : FileSystem) :
    (finish : Task (StateT CloudWriter (StateM FileSystem)) Unit).EndsWith w fs (.ok ()) w fs := by
  apply (Task.endsWith_get w fs).bind
  rw [if_pos (by simpa using hw)]
  exact Task.endsWith_pure () w fs

variable (hw : w.points ≠ [])
include hw

theorem endsWith_finish (ht : fs.truncate w.path = .ok (l, fs')) :
    (finish : Task (StateT CloudWriter (StateM FileSystem)) Unit).EndsWith w fs (.ok ())
      { w with points := [] }
      (fs.put l (.file (Format.utf8 (Format.unlines (Format.Pcd.lines w.points))))) := by
  apply (Task.endsWith_get w fs).bind
  rw [if_neg (by simpa using hw)]
  exact ((ends_store ht).endsWith w).bind
    ((Task.endsWith_report _ w _).bind (Task.endsWith_modify ({ · with points := [] }) w _))

/-- The points are given up behind the last step that can fail. -/
theorem endsWith_finish_error {e : FileError} (ht : fs.truncate w.path = .error e) :
    (finish : Task (StateT CloudWriter (StateM FileSystem)) Unit).EndsWith w fs
      (.error (.fileNotCreated w.path e)) w fs := by
  apply (Task.endsWith_get w fs).bind
  rw [if_neg (by simpa using hw)]
  exact ((ends_store_error ht).endsWith w).bind_error

end CloudWriter

namespace Writer

variable {fs fs' : FileSystem} {p : Path} {l : Location} {m : Mesh}

/-- A writer's whole life: one mesh goes into one file. -/
def save (format : OutputFormat) (p : Path) (m : Mesh) : Task (StateM FileSystem) Unit := do
  let writer ← create format p
  let writer ← writer.write m
  let writer ← writer.finish
  writer.close

/-- How saving ends: without a directory, without a file, or with these bytes in a file. -/
inductive Saved (p : Path) (bytes : List UInt8) (fs : FileSystem) :
    Except Failure Unit → FileSystem → Prop
  | noDirectory {e : Failure} (hd : (fs.prepare p).1 = .error e) :
    Saved p bytes fs (.error e) (fs.prepare p).2
  | noFile {e : FileError} (hd : (fs.prepare p).1 = .ok ())
    (ht : (fs.prepare p).2.truncate p = .error e) :
    Saved p bytes fs (.error (.fileNotCreated p e)) (fs.prepare p).2
  | written {l : Location} {fs' : FileSystem} (hd : (fs.prepare p).1 = .ok ())
    (ht : (fs.prepare p).2.truncate p = .ok (l, fs')) :
    Saved p bytes fs (.ok ()) ((fs.prepare p).2.put l (.file bytes))

section Saved

variable {bytes : List UInt8} {r : Except Failure Unit}

theorem Saved.extends (h : Saved p bytes fs r fs') : fs.Extends fs' := by
  have hm := (fs.made_prepare p).extends
  cases h with
  | noDirectory => exact hm
  | noFile => exact hm
  | written hd ht =>
    obtain ⟨hl, -, -⟩ := FileSystem.truncate_eq_ok ht
    exact hm.trans (FileSystem.extends_put hl (.file bytes))

theorem Saved.locate (h : Saved p bytes fs (.ok ()) fs') :
    ∃ l, fs'.locate p = .ok l ∧ fs'.entryAt? l = some (.file bytes) := by
  cases h with
  | @written l _ hd ht =>
    obtain ⟨hl, -, -⟩ := FileSystem.truncate_eq_ok ht
    exact ⟨l, FileSystem.locate_of_truncate ht bytes,
      FileSystem.entryAt?_put _ _ (FileSystem.ne_nil_of_entryAt? hl)⟩

theorem Saved.keptOrMade (h : Saved p bytes fs r fs') (hn : r = .ok () → fs'.locate p ≠ .ok l) :
    fs.KeptOrMade p.above fs' l := by
  have hmade := (fs.made_prepare p).keptOrMade l
  cases h with
  | noDirectory => exact hmade
  | noFile => exact hmade
  | @written l' _ hd ht =>
    obtain ⟨hl, -, -⟩ := FileSystem.truncate_eq_ok ht
    -- The place written to is the one the path leads to afterwards, too.
    have hne : l ≠ l' := by
      rintro rfl
      exact hn rfl (FileSystem.locate_of_truncate ht bytes)
    exact hmade.put hne hl (.file bytes)

theorem Saved.entryAt?_file {old : List UInt8} (h : Saved p bytes fs r fs')
    (he : fs.entryAt? l = some (.file old)) (hn : r = .ok () → fs'.locate p ≠ .ok l) :
    fs'.entryAt? l = some (.file old) :=
  ((h.keptOrMade hn).entryAt?_file_iff old).mpr he

theorem Saved.eq_notCreated {e : Failure} (h : Saved p bytes fs (.error e) fs') :
    (∃ parent cause, e = .directoryNotCreated parent cause) ∨ ∃ cause, e = .fileNotCreated p cause := by
  cases h with
  | noDirectory hd => exact .inl (FileSystem.prepare_eq_error hd)
  | @noFile cause => exact .inr ⟨cause, rfl⟩

end Saved

/-- What a stream writer writes at once and what it keeps back until the end are the rendering. -/
theorem ends_stream (format : StreamFormat) (fs : FileSystem) (m : Mesh) (hl : l ≠ []) :
    Task.Ends (do
      let writer ← (stream ⟨format, l, #[]⟩ : Writer Location).write m
      let writer ← writer.finish
      writer.close) (fs.put l (.file [])) (.ok ())
      (fs.put l (.file ((OutputFormat.stream format).contents m))) := by
  let buffer := (format.pieces m).foldl Buffer.push { pending := #[] }
  have hb : buffer.passed.toList ++ buffer.pending.toList = Format.utf8 (format.render m) := by
    have h := Buffer.contents_foldl_push (format.pieces m) { pending := #[] }
    rwa [format.flatten_pieces] at h
  -- What was passed on, what finishing writes, and nothing more on closing.
  have hfs : (((fs.put l (.file [])).append l buffer.passed.toList).append l
      buffer.pending.toList).append l [] =
        fs.put l (.file ((OutputFormat.stream format).contents m)) := by
    rw [FileSystem.append_put fs _ _ hl, FileSystem.append_put fs _ _ hl,
      FileSystem.append_put fs _ _ hl, List.nil_append, List.append_nil, hb]
    rfl
  intro log
  rw [← hfs]
  exact ⟨log ++ [format.event m], rfl⟩

theorem ends_save_stream (format : StreamFormat) (p : Path) (m : Mesh)
    (hd : (fs.prepare p).1 = .ok ()) :
    ∃ r fs', Saved p ((OutputFormat.stream format).contents m) fs r fs' ∧
      (save (.stream format) p m).Ends fs r fs' := by
  have he := Task.ends_ensureParent p fs
  rw [hd] at he
  cases ht : (fs.prepare p).2.truncate p with
  | error e =>
    exact ⟨_, _, .noFile hd ht, (he.bind (Task.ends_truncate_error ht).bind_error).bind_error⟩
  | ok opened =>
    obtain ⟨l, fs'⟩ := opened
    refine ⟨_, _, .written hd ht, ?_⟩
    obtain ⟨hl, rfl, -⟩ := FileSystem.truncate_eq_ok ht
    have hc : (create (.stream format) p : Task (StateM FileSystem) (Writer Location)).Ends fs
        (.ok (.stream ⟨format, l, #[]⟩)) ((fs.prepare p).2.put l (.file [])) :=
      he.bind ((Task.ends_truncate ht).bind (Task.ends_pure (stream ⟨format, l, #[]⟩) _))
    exact hc.bind (ends_stream format _ m (FileSystem.ne_nil_of_entryAt? hl))

theorem ends_save_cloud (p : Path) (hv : m.vertices ≠ []) (hd : (fs.prepare p).1 = .ok ()) :
    ∃ r fs', Saved p (OutputFormat.cloud.contents m) fs r fs' ∧
      (save .cloud p m).Ends fs r fs' := by
  have he := Task.ends_ensureParent p fs
  rw [hd] at he
  have hc : (create .cloud p : Task (StateM FileSystem) (Writer Location)).Ends fs
      (.ok (.cloud ⟨p, []⟩)) (fs.prepare p).2 := he.bind (Task.ends_pure _ _)
  have hw : ((cloud ⟨p, []⟩ : Writer Location).write m : Task (StateM FileSystem) _).Ends
      (fs.prepare p).2 (.ok (cloud ⟨p, m.vertices⟩)) (fs.prepare p).2 := Task.ends_pure _ _
  cases ht : (fs.prepare p).2.truncate p with
  | error e =>
    exact ⟨_, _, .noFile hd ht,
      hc.bind (hw.bind (CloudWriter.endsWith_finish_error hv ht).update.bind_error.bind_error)⟩
  | ok opened =>
    have hf : ((cloud ⟨p, m.vertices⟩ : Writer Location).finish : Task (StateM FileSystem) _).Ends
        (fs.prepare p).2 (.ok (cloud ⟨p, []⟩))
        ((fs.prepare p).2.put opened.1 (.file (OutputFormat.cloud.contents m))) :=
      (CloudWriter.endsWith_finish hv ht).update.bind (Task.ends_pure _ _)
    exact ⟨_, _, .written hd ht, hc.bind (hw.bind (hf.bind (Task.ends_pure () _)))⟩

theorem ends_save (format : OutputFormat) (p : Path) (fs : FileSystem) (hv : m.vertices ≠ []) :
    ∃ r fs', Saved p (format.contents m) fs r fs' ∧ (save format p m).Ends fs r fs' := by
  cases hd : (fs.prepare p).1 with
  | error e =>
    have he := Task.ends_ensureParent p fs
    rw [hd] at he
    exact ⟨_, _, .noDirectory hd, he.bind_error.bind_error⟩
  | ok u =>
    cases format with
    | stream format => exact ends_save_stream format p m hd
    | cloud => exact ends_save_cloud p hv hd

end Writer

namespace CommandLine.ConvertOptions

/-- How a conversion ends: it stops before it writes, or as saving the mesh ends. -/
inductive Performed (options : ConvertOptions) (fs : FileSystem) :
    Except Failure Path → FileSystem → Prop
  | unread {e : ReadError} (hr : fs.readScan (Path.ofString options.input) = .error e) :
    Performed options fs (.error (.read e)) fs
  | unconverted {s : Scan} {e : ConversionError}
    (hr : fs.readScan (Path.ofString options.input) = .ok s)
    (hc : (s.convert options.settings).mesh = .error e) :
    Performed options fs (.error (.unconvertible options.input e)) fs
  | unnamed {s : Scan} {m : Mesh} {e : Failure}
    (hr : fs.readScan (Path.ofString options.input) = .ok s)
    (hc : (s.convert options.settings).mesh = .ok m) (ho : options.outputPath = .error e) :
    Performed options fs (.error e) fs
  | unsaved {s : Scan} {m : Mesh} {output : Path} {e : Failure} {fs' : FileSystem}
    (hr : fs.readScan (Path.ofString options.input) = .ok s)
    (hc : (s.convert options.settings).mesh = .ok m) (ho : options.outputPath = .ok output)
    (hs : Writer.Saved output (options.format.contents m) fs (.error e) fs') :
    Performed options fs (.error e) fs'
  | saved {s : Scan} {m : Mesh} {output : Path} {fs' : FileSystem}
    (hr : fs.readScan (Path.ofString options.input) = .ok s)
    (hc : (s.convert options.settings).mesh = .ok m) (ho : options.outputPath = .ok output)
    (hs : Writer.Saved output (options.format.contents m) fs (.ok ()) fs') :
    Performed options fs (.ok output) fs'

def perform (options : ConvertOptions) (fs : FileSystem) :
    (Except Failure Path × List Event) × FileSystem :=
  (options.run : Task (StateM FileSystem) Path).execute.run fs

def deliver (options : ConvertOptions) (outcome : Except ConversionError Mesh) :
    Task (StateM FileSystem) Path := do
  let mesh ← match outcome with
    | .ok mesh => pure mesh
    | .error e => throw (.unconvertible options.input e)
  let output ← options.outputPath
  Writer.save options.format output mesh
  Task.report [.scanConverted mesh.vertexCount output]
  return output

theorem run_eq (options : ConvertOptions) :
    (options.run : Task (StateM FileSystem) Path) = (do
      let scan ← Task.readScan (Path.ofString options.input)
      Task.report [.scanRead options.input scan.header scan.samples.length]
      Task.report (scan.convert options.settings).log
      options.deliver (scan.convert options.settings).mesh) := by
  unfold run deliver
  apply bind_congr
  intro scan
  apply bind_congr
  intro _
  apply bind_congr
  intro _
  cases (scan.convert options.settings).mesh with
  | ok mesh => simp only [Writer.save, bind_assoc]
  | error e => simp only [Writer.save, bind_assoc]

theorem ends_deliver {options : ConvertOptions} {fs : FileSystem} {s : Scan}
    (hr : fs.readScan (Path.ofString options.input) = .ok s) :
    ∃ r fs', options.Performed fs r fs' ∧
      (options.deliver (s.convert options.settings).mesh).Ends fs r fs' := by
  unfold deliver
  cases hc : (s.convert options.settings).mesh with
  | error e => exact ⟨_, _, .unconverted hr hc, (Task.ends_throw _ fs).bind_error⟩
  | ok m =>
    have hm := Task.ends_pure m fs
    cases ho : options.outputPath with
    | error e => exact ⟨_, _, .unnamed hr hc ho, hm.bind (Task.ends_throw e fs).bind_error⟩
    | ok output =>
      have hp := Task.ends_pure output fs
      obtain ⟨r, fs', hsaved, he⟩ :=
        Writer.ends_save options.format output fs (Scan.vertices_ne_nil hc)
      cases r with
      | error e => exact ⟨_, _, .unsaved hr hc ho hsaved, hm.bind (hp.bind he.bind_error)⟩
      | ok u =>
        refine ⟨_, _, .saved hr hc ho hsaved, hm.bind (hp.bind (he.bind ?_))⟩
        exact (Task.ends_report _ fs').bind (Task.ends_pure output fs')

theorem ends_run (options : ConvertOptions) (fs : FileSystem) :
    ∃ r fs', options.Performed fs r fs' ∧
      (options.run : Task (StateM FileSystem) Path).Ends fs r fs' := by
  rw [run_eq]
  have hread := Task.ends_readScan (Path.ofString options.input) fs
  cases hr : fs.readScan (Path.ofString options.input) with
  | error e =>
    rw [hr] at hread
    exact ⟨_, _, .unread hr, hread.bind_error⟩
  | ok s =>
    rw [hr] at hread
    obtain ⟨r, fs', hp, hd⟩ := ends_deliver hr
    exact ⟨r, fs', hp,
      hread.bind ((Task.ends_report _ fs).bind ((Task.ends_report _ fs).bind hd))⟩

theorem performed (options : ConvertOptions) (fs : FileSystem) :
    options.Performed fs (options.perform fs).1.1 (options.perform fs).2 := by
  obtain ⟨r, fs', hp, he⟩ := options.ends_run fs
  obtain ⟨log, he⟩ := he []
  unfold perform Task.execute
  rw [he]
  exact hp

theorem Performed.eq_saved {options : ConvertOptions} {fs fs' : FileSystem}
    {r : Except Failure Path} {s : Scan} {m : Mesh} {output : Path} {l : Location}
    {opened : FileSystem} (h : options.Performed fs r fs')
    (hr : fs.readScan (Path.ofString options.input) = .ok s)
    (hc : (s.convert options.settings).mesh = .ok m) (ho : options.outputPath = .ok output)
    (hd : (fs.prepare output).1 = .ok ())
    (ht : (fs.prepare output).2.truncate output = .ok (l, opened)) :
    r = .ok output ∧
      fs' = (fs.prepare output).2.put l (.file (options.format.contents m)) := by
  cases h with
  | unread hr' =>
    rw [hr] at hr'
    cases hr'
  | unconverted hr' hc' =>
    rw [hr] at hr'
    cases hr'
    rw [hc] at hc'
    cases hc'
  | unnamed _ _ ho' =>
    rw [ho] at ho'
    cases ho'
  | unsaved _ _ ho' hs =>
    rw [ho] at ho'
    cases ho'
    cases hs with
    | noDirectory hd' =>
      rw [hd] at hd'
      cases hd'
    | noFile _ ht' =>
      rw [ht] at ht'
      cases ht'
  | saved hr' hc' ho' hs =>
    rw [hr] at hr'
    cases hr'
    rw [hc] at hc'
    cases hc'
    rw [ho] at ho'
    cases ho'
    cases hs with
    | written _ ht' =>
      rw [ht] at ht'
      cases ht'
      exact ⟨rfl, rfl⟩

end CommandLine.ConvertOptions

end RotaryScan
