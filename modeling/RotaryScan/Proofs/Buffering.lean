import RotaryScan.Proofs.ObjNumbering

namespace RotaryScan

theorem Task.Ends.unique {α : Type} {task : Task (StateM FileSystem) α}
    {fs after after' : FileSystem} {r r' : Except Failure α} (h : task.Ends fs r after)
    (h' : task.Ends fs r' after') : r = r' ∧ after = after' := by
  obtain ⟨log, h⟩ := h []
  obtain ⟨log', h'⟩ := h' []
  have he : ((r, log), after) = ((r', log'), after') := h.symm.trans h'
  cases he
  exact ⟨rfl, rfl⟩

def StreamWriter.push (w : StreamWriter Location) (pieces : List (List UInt8)) :
    Task (StateM FileSystem) (StreamWriter Location) := do
  let buffer := pieces.foldl Buffer.push { pending := w.pending }
  Task.append w.handle buffer.passed.toList
  return { w with pending := buffer.pending }

theorem StreamWriter.write_eq (w : StreamWriter Location) (m : Mesh) :
    (w.write m : Task (StateM FileSystem) (StreamWriter Location)) = (do
      let next ← w.push (w.format.pieces m)
      Task.report [w.format.event m]
      return next) := rfl

namespace Writer

inductive Call
  | write (m : Mesh)
  | finish

def Call.meshes : Call → List Mesh
  | write m => [m]
  | finish => []

def ask (w : Writer Location) : Call → Task (StateM FileSystem) (Writer Location)
  | .write m => w.write m
  | .finish => w.finish

def serve (w : Writer Location) (calls : List Call) : Task (StateM FileSystem) (Writer Location) :=
  calls.foldlM ask w

/-- The renderings of the meshes of calls, each by a fresh writer in memory, one after the other. -/
def renderings (format : StreamFormat) (calls : List Call) : List UInt8 :=
  (calls.flatMap Call.meshes).flatMap fun m => format.written [m]

theorem renderings_append (format : StreamFormat) (calls calls' : List Call) :
    renderings format (calls ++ calls') = renderings format calls ++ renderings format calls' := by
  simp [renderings]

theorem renderings_write (format : StreamFormat) (m : Mesh) :
    renderings format [.write m] = (format.pieces m).flatten := by
  simp [renderings, Call.meshes, format.written_eq, format.flatten_pieces, StreamFormat.text,
    StreamFormat.render]

theorem renderings_finish (format : StreamFormat) : renderings format [.finish] = [] := rfl

/-- A stream writer in the middle of its work: what its file holds and what it keeps back are together
these bytes, and those that it had when it last finished are in the file. -/
def Midway (format : StreamFormat) (l : Location) (opened : FileSystem) (bytes finished : List UInt8)
    (w : Writer Location) (fs : FileSystem) : Prop :=
  ∃ passed pending, w = stream ⟨format, l, pending⟩ ∧ fs = opened.put l (.file passed) ∧
    passed ++ pending.toList = bytes ∧ finished <+: passed

section Midway

variable {format : StreamFormat} {l : Location} {opened fs : FileSystem}
  {bytes finished : List UInt8} {w : Writer Location} (hl : l ≠ [])
include hl

variable (opened) in
/-- However a text is divided into pieces, and wherever the buffer is emptied on the way, nothing is
lost and nothing is moved. -/
theorem ends_push (passed : List UInt8) (pending : Array UInt8) (pieces : List (List UInt8)) :
    ∃ more pending', passed ++ more ++ pending'.toList = passed ++ pending.toList ++ pieces.flatten ∧
      (StreamWriter.push ⟨format, l, pending⟩ pieces).Ends (opened.put l (.file passed))
        (.ok ⟨format, l, pending'⟩) (opened.put l (.file (passed ++ more))) := by
  let buffer := pieces.foldl Buffer.push { pending }
  have hb : buffer.passed.toList ++ buffer.pending.toList = pending.toList ++ pieces.flatten :=
    Buffer.contents_foldl_push pieces { pending }
  have ha := Task.ends_append l buffer.passed.toList (opened.put l (.file passed))
  rw [FileSystem.append_put opened _ _ hl] at ha
  refine ⟨buffer.passed.toList, buffer.pending, ?_, ha.bind (Task.ends_pure _ _)⟩
  rw [List.append_assoc, hb, List.append_assoc]

theorem Midway.write (h : Midway format l opened bytes finished w fs) (m : Mesh) :
    ∃ w' fs', (w.write m : Task (StateM FileSystem) _).Ends fs (.ok w') fs' ∧
      Midway format l opened (bytes ++ renderings format [.write m]) finished w' fs' := by
  obtain ⟨passed, pending, rfl, rfl, rfl, hf⟩ := h
  obtain ⟨more, pending', he, hp⟩ := ends_push opened hl passed pending (format.pieces m)
  refine ⟨stream ⟨format, l, pending'⟩, opened.put l (.file (passed ++ more)), ?_, ?_⟩
  · have hw : (StreamWriter.write ⟨format, l, pending⟩ m : Task (StateM FileSystem) _).Ends
        (opened.put l (.file passed)) (.ok ⟨format, l, pending'⟩)
        (opened.put l (.file (passed ++ more))) := by
      rw [StreamWriter.write_eq]
      exact hp.bind ((Task.ends_report _ _).bind (Task.ends_pure _ _))
    exact hw.bind (Task.ends_pure _ _)
  · rw [renderings_write]
    exact ⟨passed ++ more, pending', rfl, rfl, he, hf.trans (List.prefix_append _ _)⟩

theorem ends_flush (passed : List UInt8) (pending : Array UInt8) :
    (StreamWriter.flush ⟨format, l, pending⟩ : Task (StateM FileSystem) _).Ends
      (opened.put l (.file passed)) (.ok ⟨format, l, #[]⟩)
      (opened.put l (.file (passed ++ pending.toList))) := by
  have ha := Task.ends_append l pending.toList (opened.put l (.file passed))
  rw [FileSystem.append_put opened _ _ hl] at ha
  exact ha.bind (Task.ends_pure _ _)

theorem Midway.ends_finish (h : Midway format l opened bytes finished w fs) :
    (w.finish : Task (StateM FileSystem) _).Ends fs (.ok (stream ⟨format, l, #[]⟩))
      (opened.put l (.file bytes)) := by
  obtain ⟨passed, pending, rfl, rfl, rfl, -⟩ := h
  exact (ends_flush hl passed pending).bind (Task.ends_pure _ _)

theorem Midway.ends_close (h : Midway format l opened bytes finished w fs) :
    (w.close : Task (StateM FileSystem) Unit).Ends fs (.ok ()) (opened.put l (.file bytes)) := by
  obtain ⟨passed, pending, rfl, rfl, rfl, -⟩ := h
  exact (ends_flush hl passed pending).bind (Task.ends_pure () _)

omit hl in
theorem midway_finished (format : StreamFormat) (l : Location) (opened : FileSystem)
    (bytes : List UInt8) :
    Midway format l opened bytes bytes (stream ⟨format, l, #[]⟩) (opened.put l (.file bytes)) :=
  ⟨bytes, #[], rfl, rfl, List.append_nil bytes, List.prefix_rfl⟩

theorem Midway.ask (h : Midway format l opened bytes finished w fs) (call : Call) :
    ∃ finished' w' fs', (w.ask call).Ends fs (.ok w') fs' ∧
      Midway format l opened (bytes ++ renderings format [call]) finished' w' fs' ∧
      finished <+: finished' ∧ (call = .finish → bytes <+: finished') := by
  cases call with
  | write m =>
    obtain ⟨w', fs', he, hw⟩ := h.write hl m
    exact ⟨finished, w', fs', he, hw, List.prefix_rfl, nofun⟩
  | finish =>
    refine ⟨bytes, _, _, h.ends_finish hl, ?_, ?_, fun _ => List.prefix_rfl⟩
    · rw [renderings_finish, List.append_nil]
      exact midway_finished format l opened bytes
    · obtain ⟨passed, pending, -, -, rfl, hf⟩ := h
      exact hf.trans (List.prefix_append _ _)

/-- No call fails, and each adds its rendering. What was written before a call to finish is in the file
from then on. -/
theorem Midway.serve (h : Midway format l opened bytes finished w fs) (calls : List Call) :
    ∃ finished' w' fs', (w.serve calls).Ends fs (.ok w') fs' ∧
      Midway format l opened (bytes ++ renderings format calls) finished' w' fs' ∧
      finished <+: finished' ∧
      ∀ before rest, calls = before ++ .finish :: rest →
        bytes ++ renderings format before <+: finished' := by
  induction calls generalizing bytes finished w fs with
  | nil =>
    refine ⟨finished, w, fs, Task.ends_pure w fs, ?_, List.prefix_rfl, ?_⟩
    · rwa [renderings, List.flatMap_nil, List.flatMap_nil, List.append_nil]
    · intro before rest hs
      simp at hs
  | cons call calls ih =>
    obtain ⟨middle, w₁, fs₁, he₁, h₁, hm, hfinish⟩ := h.ask hl call
    obtain ⟨finished', w', fs', he, h', hf, hbefore⟩ := ih h₁
    have hr : renderings format (call :: calls) =
        renderings format [call] ++ renderings format calls :=
      renderings_append format [call] calls
    refine ⟨finished', w', fs', he₁.bind he, ?_, hm.trans hf, ?_⟩
    · rwa [hr, ← List.append_assoc]
    · intro before rest hs
      cases before with
      | nil =>
        obtain ⟨rfl, rfl⟩ := List.cons.inj hs
        rw [renderings, List.flatMap_nil, List.flatMap_nil, List.append_nil]
        exact (hfinish rfl).trans hf
      | cons first before =>
        obtain ⟨rfl, rfl⟩ := List.cons.inj hs
        have hb := hbefore before rest rfl
        rwa [List.append_assoc, ← renderings_append] at hb

end Midway

/-- What the file of a stream writer holds after these calls, and what becomes of it then. Nothing else
is touched. -/
structure Concatenates (format : StreamFormat) (p : Path) (l : Location) (opened : FileSystem)
    (calls : List Call) (w : Writer Location) (fs : FileSystem) : Prop where
  content : ∃ bytes, fs.read p = .ok bytes ∧ bytes <+: renderings format calls ∧
    ∀ before rest, calls = before ++ .finish :: rest → renderings format before <+: bytes
  finished : calls.getLast? = some .finish → fs.read p = .ok (renderings format calls)
  finish : ∃ w' fs', (w.finish : Task (StateM FileSystem) _).Ends fs (.ok w') fs' ∧
    fs'.read p = .ok (renderings format calls) ∧
    (w'.finish : Task (StateM FileSystem) _).Ends fs' (.ok w') fs'
  close : (w.close : Task (StateM FileSystem) Unit).Ends fs (.ok ())
      (opened.put l (.file (renderings format calls))) ∧
    (opened.put l (.file (renderings format calls))).read p = .ok (renderings format calls)
  frame : fs.locate p = .ok l ∧ ∀ l', l' ≠ l → fs.entryAt? l' = opened.entryAt? l'

theorem Midway.concatenates {format : StreamFormat} {p : Path} {l : Location}
    {opened fs : FileSystem} {calls : List Call} {finished : List UInt8} {w : Writer Location}
    (h : Midway format l opened (renderings format calls) finished w fs) (hl : l ≠ [])
    (hp : ∀ bytes, (opened.put l (.file bytes)).locate p = .ok l)
    (hbefore : ∀ before rest, calls = before ++ .finish :: rest →
      renderings format before <+: finished) : Concatenates format p l opened calls w fs := by
  have hread (bytes : List UInt8) : (opened.put l (.file bytes)).read p = .ok bytes :=
    FileSystem.read_eq_ok_iff.mpr ⟨l, hp bytes, FileSystem.entryAt?_put opened _ hl⟩
  have hfinish := h.ends_finish hl
  have hclose := h.ends_close hl
  obtain ⟨passed, pending, -, rfl, hbytes, hf⟩ := h
  have hprefix : passed <+: renderings format calls := by
    rw [← hbytes]
    exact List.prefix_append _ _
  refine ⟨⟨passed, hread passed, hprefix, fun before rest hs => (hbefore before rest hs).trans hf⟩,
    ?_, ?_, ⟨hclose, hread _⟩, hp passed, fun l' hne => FileSystem.entryAt?_put_of_ne opened _ hne⟩
  · intro hlast
    -- The calls before the last one have the same renderings as all of them.
    have hs : calls = calls.dropLast ++ [.finish] := (List.dropLast_append_getLast? _ hlast).symm
    have hr : renderings format calls.dropLast = renderings format calls := by
      conv_rhs => rw [hs, renderings_append, renderings_finish, List.append_nil]
    have hall := (hbefore calls.dropLast [] hs).trans hf
    rw [hr] at hall
    rw [hread, hprefix.eq_of_length_le hall.length_le]
  · exact ⟨_, _, hfinish, hread _, (midway_finished format l opened _).ends_finish hl⟩

theorem midway_of_create {format : StreamFormat} {p : Path} {fs opened : FileSystem}
    {w : Writer Location}
    (h : (create (.stream format) p : Task (StateM FileSystem) _).Ends fs (.ok w) opened) :
    ∃ l, l ≠ [] ∧ (∀ bytes, (opened.put l (.file bytes)).locate p = .ok l) ∧
      Midway format l opened [] [] w opened := by
  have he := Task.ends_ensureParent p fs
  cases hd : (fs.prepare p).1 with
  | error e =>
    rw [hd] at he
    have hc : (create (.stream format) p : Task (StateM FileSystem) (Writer Location)).Ends fs
        (.error e) (fs.prepare p).2 := he.bind_error
    cases (h.unique hc).1
  | ok u =>
    rw [hd] at he
    cases ht : (fs.prepare p).2.truncate p with
    | error e =>
      have hc : (create (.stream format) p : Task (StateM FileSystem) (Writer Location)).Ends fs
          (.error (.fileNotCreated p e)) (fs.prepare p).2 :=
        he.bind (Task.ends_truncate_error ht).bind_error
      cases (h.unique hc).1
    | ok made =>
      obtain ⟨l, fs'⟩ := made
      have hc : (create (.stream format) p : Task (StateM FileSystem) (Writer Location)).Ends fs
          (.ok (stream ⟨format, l, #[]⟩)) fs' :=
        he.bind ((Task.ends_truncate ht).bind (Task.ends_pure _ _))
      obtain ⟨hw, rfl⟩ := h.unique hc
      cases hw
      obtain ⟨hdir, rfl, -⟩ := FileSystem.truncate_eq_ok ht
      refine ⟨l, FileSystem.ne_nil_of_entryAt? hdir, ?_, [], #[], rfl, ?_, rfl, List.prefix_rfl⟩
      · intro bytes
        rw [FileSystem.put_put]
        exact FileSystem.locate_of_truncate ht bytes
      · rw [FileSystem.put_put]

/-- A stream writer does what writing the renderings one after the other would do: once it has finished
or is given up they are all in its file, whatever stood there before and however often it has finished
on the way. In between the file holds a beginning of them, and all that was written before it last
finished. -/
theorem stream_writer_concatenates (format : StreamFormat) (p : Path) (fs opened : FileSystem)
    (w : Writer Location)
    (h : (create (.stream format) p : Task (StateM FileSystem) _).Ends fs (.ok w) opened) :
    ∃ l, ∀ calls : List Call, ∃ w' after, (w.serve calls).Ends opened (.ok w') after ∧
      Concatenates format p l opened calls w' after := by
  obtain ⟨l, hl, hp, hm⟩ := midway_of_create h
  refine ⟨l, fun calls => ?_⟩
  obtain ⟨finished, w', after, he, hm', -, hbefore⟩ := hm.serve hl calls
  exact ⟨w', after, he, hm'.concatenates hl hp hbefore⟩

/-- An old file makes way for two meshes, of which the first is there while the second is written. -/
theorem stream_writer_concatenates_two_tiles :
    ∃ (fs opened : FileSystem) (w : Writer Location),
      fs.read (Path.ofString "m.obj") = .ok [1, 2, 3] ∧
      (create (.stream .obj) (Path.ofString "m.obj") : Task (StateM FileSystem) _).Ends fs (.ok w)
        opened ∧
      ∃ w' after bytes,
        (w.serve [.write (Format.Obj.tile 0), .finish, .write (Format.Obj.tile 1)]).Ends opened (.ok w')
          after ∧
        after.read (Path.ofString "m.obj") = .ok bytes ∧
        StreamFormat.obj.written [Format.Obj.tile 0] <+: bytes ∧
        ∃ closed, (w'.close : Task (StateM FileSystem) Unit).Ends after (.ok ()) closed ∧
          closed.read (Path.ofString "m.obj") = .ok (StreamFormat.obj.written [Format.Obj.tile 0] ++
            StreamFormat.obj.written [Format.Obj.tile 1]) := by
  have hc : (create (.stream .obj) (Path.ofString "m.obj") : Task (StateM FileSystem) _).Ends
      (FileSystem.fresh.put ["work", "m.obj"] (.file [1, 2, 3]))
      (.ok (stream ⟨.obj, ["work", "m.obj"], #[]⟩))
      (FileSystem.fresh.put ["work", "m.obj"] (.file [])) := fun log => ⟨log, rfl⟩
  obtain ⟨l, h⟩ := stream_writer_concatenates _ _ _ _ _ hc
  obtain ⟨w', after, he, hcat⟩ :=
    h [.write (Format.Obj.tile 0), .finish, .write (Format.Obj.tile 1)]
  obtain ⟨bytes, hread, -, hbefore⟩ := hcat.content
  have hfirst := hbefore [.write (Format.Obj.tile 0)] [.write (Format.Obj.tile 1)] rfl
  rw [renderings, List.flatMap_singleton, Call.meshes, List.flatMap_singleton] at hfirst
  exact ⟨_, _, _, rfl, hc, w', after, bytes, he, hread, hfirst, _, hcat.close.1, hcat.close.2⟩

end Writer

end RotaryScan
