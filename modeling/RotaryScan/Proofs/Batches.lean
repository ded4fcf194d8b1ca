import Mathlib
import RotaryScan.Proofs.Records
import RotaryScan.Proofs.Saving

namespace RotaryScan

namespace Format

/-- Spaces behind a token do not belong to it. -/
theorem keyword_padded {token : String} (h : IsToken token) (count : Nat) :
    keyword (token ++ String.ofList (List.replicate count ' ')) = token := by
  have ht : ∀ c ∈ token.toList, (c != ' ') = true := by
    intro c hc
    rw [bne_iff_ne]
    rintro rfl
    exact not_mem_of_isToken h rfl hc
  rw [keyword, String.toList_append, List.takeWhile_append_of_pos ht, String.toList_ofList,
    List.takeWhile_replicate, bne_self_eq_false, if_neg (by decide), List.append_nil,
    String.ofList_toList]

namespace Pcd

def text (points : List Vertex) : String := unlines (lines points)

def headerLines (text : String) : List String := (cut '\n' text).takeWhile (· ≠ "DATA ascii")

def dataLines (text : String) : List String :=
  ((cut '\n' text).dropWhile (· ≠ "DATA ascii")).tail.dropLast

def headerNumbers (word text : String) : List (Option Nat) :=
  (records word (headerLines text)).map fun r => (keyword r).toNat?

/-- Whether a text holds these points, one a line, and says how many lines there are. -/
structure Holds (text : String) (points : List Vertex) : Prop where
  dataLines : dataLines text = points.map pointLine
  width : headerNumbers "WIDTH" text = [some (Pcd.dataLines text).length]
  count : headerNumbers "POINTS" text = [some (Pcd.dataLines text).length]

def declarations (count : Nat) : List String :=
  ["# .PCD v.7 - Point Cloud Data file format", "VERSION .7",
    "FIELDS x y z line point sample radius", "SIZE 8 8 8 1 1 4 8", "TYPE F F F U U U F",
    "COUNT 1 1 1 1 1 1 1"] ++ [count.repr].map ("WIDTH" ++ " " ++ ·) ++
    ["HEIGHT 1", "VIEWPOINT 0 0 0 1 0 0 0"] ++ [paddedCount count].map ("POINTS" ++ " " ++ ·)

theorem lines_eq (points : List Vertex) :
    lines points = declarations points.length ++ "DATA ascii" :: points.map pointLine := rfl

theorem records_declarations {word : String} (count : Nat)
    (hw : word ∈ ["WIDTH", "POINTS", "DATA"]) : records word (declarations count) =
      (if "WIDTH" = word then [count.repr] else []) ++
        if "POINTS" = word then [paddedCount count] else [] := by
  have hs : ∀ word ∈ ["WIDTH", "POINTS", "DATA"],
      records word ["# .PCD v.7 - Point Cloud Data file format", "VERSION .7",
        "FIELDS x y z line point sample radius", "SIZE 8 8 8 1 1 4 8", "TYPE F F F U U U F",
        "COUNT 1 1 1 1 1 1 1"] = [] ∧
      records word ["HEIGHT 1", "VIEWPOINT 0 0 0 1 0 0 0"] = [] := by decide
  rw [declarations, records_append, records_append, records_append, (hs word hw).1, (hs word hw).2,
    records_map word (by decide), records_map word (by decide)]
  simp

def pointTokens (v : Vertex) : List String :=
  coordinates v.toPosition ++
    [v.line.toNat.repr, v.point.toNat.repr, v.sample.toNat.repr, Decimal.text v.radius]

theorem isToken_of_mem_pointTokens {v : Vertex} {t : String} (h : t ∈ pointTokens v) : IsToken t := by
  rw [pointTokens, List.mem_append] at h
  obtain h | h := h
  · exact isToken_of_mem_coordinates h
  · simp only [List.mem_cons, List.not_mem_nil, or_false] at h
    obtain rfl | rfl | rfl | rfl := h
    · exact isToken_repr _
    · exact isToken_repr _
    · exact isToken_repr _
    · exact isToken_text _

theorem cut_pointLine (v : Vertex) : cut ' ' (pointLine v) = pointTokens v :=
  cut_record (fun _ => isToken_of_mem_pointTokens) (List.cons_ne_nil _ _)

theorem newline_not_mem_lines (points : List Vertex) :
    ∀ line ∈ lines points, '\n' ∉ line.toList := by
  have hp : ∀ line ∈ points.map pointLine, '\n' ∉ line.toList := by
    rw [List.forall_mem_map]
    intro v _
    exact newline_not_mem_record fun _ => isToken_of_mem_pointTokens
  rw [lines_eq, List.forall_mem_append, List.forall_mem_cons]
  refine ⟨?_, by simp, hp⟩
  simp only [declarations, List.forall_mem_append]
  refine ⟨⟨⟨by simp, newline_not_mem_map (by simp) (by simp)⟩, by simp⟩,
    newline_not_mem_map (by simp) ?_⟩
  simp [paddedCount]

theorem mark_not_mem_declarations (count : Nat) : "DATA ascii" ∉ declarations count := by
  intro h
  have hr := rest_mem_records (by decide : keyword "DATA ascii" = "DATA") h
  simp [records_declarations] at hr

theorem cut_text (points : List Vertex) : cut '\n' (text points) =
    declarations points.length ++ "DATA ascii" :: (points.map pointLine ++ [""]) := by
  rw [text, cut_unlines (newline_not_mem_lines points), lines_eq, List.append_assoc, List.cons_append]

theorem headerLines_text (points : List Vertex) :
    headerLines (text points) = declarations points.length := by
  rw [headerLines, cut_text, takeWhile_append_mark (mark_not_mem_declarations _)]

theorem dataLines_text (points : List Vertex) :
    dataLines (text points) = points.map pointLine := by
  rw [dataLines, cut_text, dropWhile_append_mark (mark_not_mem_declarations _), List.tail_cons,
    List.dropLast_concat]

theorem holds_text (points : List Vertex) : Holds (text points) points := by
  have hpadded := keyword_padded (isToken_repr points.length)
  have hwidth : keyword points.length.repr = points.length.repr := by simpa using hpadded 0
  have hcount : keyword (paddedCount points.length) = points.length.repr := hpadded _
  refine ⟨dataLines_text points, ?_, ?_⟩
  · rw [headerNumbers, headerLines_text, records_declarations _ (by decide), dataLines_text]
    simp [hwidth, Nat.toNat?_repr]
  · rw [headerNumbers, headerLines_text, records_declarations _ (by decide), dataLines_text]
    simp [hcount, Nat.toNat?_repr]

end Pcd

end Format

namespace CloudWriter

theorem finish_cases (w : CloudWriter) (fs : FileSystem) :
    (w.points = [] ∧ finish.runFrom w fs = ((.ok (), w), fs)) ∨
    (∃ cause, w.points ≠ [] ∧ fs.truncate w.path = .error cause ∧
      finish.runFrom w fs = ((.error (.fileNotCreated w.path cause), w), fs)) ∨
    (∃ l opened, w.points ≠ [] ∧ fs.truncate w.path = .ok (l, opened) ∧
      finish.runFrom w fs = ((.ok (), { w with points := [] }),
        fs.put l (.file (Format.utf8 (Format.Pcd.text w.points))))) := by
  by_cases hp : w.points = []
  · exact .inl ⟨hp, (endsWith_finish_empty hp fs).runFrom_eq⟩
  · cases ht : fs.truncate w.path with
    | error cause =>
      exact .inr (.inl ⟨cause, hp, rfl, (endsWith_finish_error hp ht).runFrom_eq⟩)
    | ok made =>
      obtain ⟨l, opened⟩ := made
      exact .inr (.inr ⟨l, opened, hp, rfl, (endsWith_finish hp ht).runFrom_eq⟩)

inductive Step
  | write (m : Mesh)
  | finish
  | others (files : FileSystem)

def Step.points : Step → List Vertex
  | write m => m.vertices
  | finish | others _ => []

/-- A writer in use and the files as they are. Each time that it has stored points, what its path then
led to is noted. -/
structure Session where
  writer : CloudWriter
  files : FileSystem
  stored : List (Except FileError (List UInt8)) := []

namespace Session

/-- What an attempt to finish makes of the writer is taken over, whether it fails or not. -/
def next (s : Session) : Step → Session
  | .write m => { s with writer := s.writer.write m }
  | .finish =>
    let done := finish.runFrom s.writer s.files
    { writer := done.1.2
      files := done.2
      stored := if done.1.1.isOk ∧ s.writer.points ≠ [] then s.stored ++ [done.2.read s.writer.path]
        else s.stored }
  | .others files => { s with files }

def run (s : Session) (steps : List Step) : Session := steps.foldl next s

/-- Whether the batches that were stored and the points that are still held are these points. -/
def Accounts (s : Session) (points : List Vertex) : Prop :=
  ∃ batches : List (List Vertex),
    s.stored = batches.map (fun batch => .ok (Format.utf8 (Format.Pcd.text batch))) ∧
      [] ∉ batches ∧ batches.flatten ++ s.writer.points = points

theorem read_stored {fs opened : FileSystem} {p : Path} {l : Location}
    (ht : fs.truncate p = .ok (l, opened)) (bytes : List UInt8) :
    (fs.put l (.file bytes)).read p = .ok bytes := by
  obtain ⟨hd, -, -⟩ := FileSystem.truncate_eq_ok ht
  exact FileSystem.read_eq_ok_iff.mpr ⟨l, FileSystem.locate_of_truncate ht bytes,
    FileSystem.entryAt?_put fs _ (FileSystem.ne_nil_of_entryAt? hd)⟩

variable {s : Session} {points : List Vertex}

theorem next_finish_of_kept {r : Except Failure Unit}
    (hf : finish.runFrom s.writer s.files = ((r, s.writer), s.files))
    (hr : r.isOk → s.writer.points = []) : s.next .finish = s := by
  rw [next, hf, if_neg fun h => h.2 (hr h.1)]

theorem next_finish_of_stored {l : Location} {opened : FileSystem} (hp : s.writer.points ≠ [])
    (ht : s.files.truncate s.writer.path = .ok (l, opened)) : s.next .finish =
      { writer := { s.writer with points := [] }
        files := s.files.put l (.file (Format.utf8 (Format.Pcd.text s.writer.points)))
        stored := s.stored ++ [.ok (Format.utf8 (Format.Pcd.text s.writer.points))] } := by
  rw [next, (endsWith_finish hp ht).runFrom_eq, if_pos ⟨rfl, hp⟩, read_stored ht]
  rfl

theorem Accounts.next (h : s.Accounts points) (step : Step) :
    (s.next step).Accounts (points ++ step.points) := by
  obtain ⟨batches, hs, hn, rfl⟩ := h
  cases step with
  | write m => exact ⟨batches, hs, hn, (List.append_assoc _ _ _).symm⟩
  | others files => exact ⟨batches, hs, hn, (List.append_nil _).symm⟩
  | finish =>
    rw [Step.points, List.append_nil]
    obtain ⟨hp, hf⟩ | ⟨cause, -, -, hf⟩ | ⟨l, opened, hp, ht, -⟩ :=
      s.writer.finish_cases s.files
    · rw [next_finish_of_kept hf fun _ => hp]
      exact ⟨batches, hs, hn, rfl⟩
    · rw [next_finish_of_kept hf nofun]
      exact ⟨batches, hs, hn, rfl⟩
    · rw [next_finish_of_stored hp ht]
      refine ⟨batches ++ [s.writer.points], ?_, ?_, ?_⟩
      · simp [hs]
      · simp [hn, Ne.symm hp]
      · simp

theorem Accounts.run (h : s.Accounts points) (steps : List Step) :
    (s.run steps).Accounts (points ++ steps.flatMap Step.points) := by
  induction steps generalizing s points with
  | nil => simpa [Session.run] using h
  | cons step steps ih =>
    have hs := ih (h.next step)
    rwa [List.append_assoc] at hs

theorem path_next (s : Session) (step : Step) : (s.next step).writer.path = s.writer.path := by
  cases step with
  | write m | others files => rfl
  | finish =>
    obtain ⟨hp, hf⟩ | ⟨cause, -, -, hf⟩ | ⟨l, opened, hp, ht, -⟩ :=
      s.writer.finish_cases s.files
    · rw [next_finish_of_kept hf fun _ => hp]
    · rw [next_finish_of_kept hf nofun]
    · rw [next_finish_of_stored hp ht]

theorem path_run (s : Session) (steps : List Step) : (s.run steps).writer.path = s.writer.path := by
  induction steps generalizing s with
  | nil => rfl
  | cons step steps ih => exact (ih (s.next step)).trans (s.path_next step)

structure Finishes (s : Session) : Prop where
  empty : s.writer.points = [] → finish.runFrom s.writer s.files = ((.ok (), s.writer), s.files) ∧
    s.next .finish = s
  failed : ∀ e w after, finish.runFrom s.writer s.files = ((.error e, w), after) →
    (∃ cause, s.files.truncate s.writer.path = .error cause ∧
      e = .fileNotCreated s.writer.path cause) ∧ w = s.writer ∧ after = s.files ∧ s.next .finish = s
  stored : ∀ w after, s.writer.points ≠ [] →
    finish.runFrom s.writer s.files = ((.ok (), w), after) →
      w = { s.writer with points := [] } ∧
      ∃ text l, after.read s.writer.path = .ok (Format.utf8 text) ∧
        Format.Pcd.Holds text s.writer.points ∧ after.locate s.writer.path = .ok l ∧
        ∀ l', l' ≠ l → after.entryAt? l' = s.files.entryAt? l'

theorem finishes (s : Session) : s.Finishes := by
  obtain ⟨hp, hf⟩ | ⟨cause, hp, ht, hf⟩ | ⟨l, opened, hp, ht, hf⟩ := s.writer.finish_cases s.files
  · refine ⟨fun _ => ⟨hf, next_finish_of_kept hf fun _ => hp⟩, ?_, fun _ _ hne => absurd hp hne⟩
    intro e w after he
    rw [hf] at he
    cases he
  · refine ⟨fun he => absurd he hp, ?_, ?_⟩
    · intro e w after he
      rw [hf] at he
      cases he
      exact ⟨⟨cause, ht, rfl⟩, rfl, rfl, next_finish_of_kept hf nofun⟩
    · intro w after _ he
      rw [hf] at he
      cases he
  · refine ⟨fun he => absurd he hp, ?_, ?_⟩
    · intro e w after he
      rw [hf] at he
      cases he
    · intro w after _ he
      rw [hf] at he
      cases he
      exact ⟨rfl, _, l, read_stored ht _, Format.Pcd.holds_text _,
        FileSystem.locate_of_truncate ht _, fun l' hne => FileSystem.entryAt?_put_of_ne _ _ hne⟩

end Session

/-- Whatever is asked of a writer, and whatever others do to the files meanwhile, the batches that it
has stored and the points that it still holds are those of all its meshes in order. A writer that
cannot create its file loses nothing, and one without points does nothing. -/
theorem points_kept_in_order (w : CloudWriter) (files : FileSystem) (steps : List Step) :
    ((Session.mk w files []).run steps).Accounts (w.points ++ steps.flatMap Step.points) ∧
      ((Session.mk w files []).run steps).writer.path = w.path ∧
      ((Session.mk w files []).run steps).Finishes := by
  have hs : (Session.mk w files []).Accounts w.points := ⟨[], rfl, List.not_mem_nil, rfl⟩
  exact ⟨hs.run steps, Session.path_run _ steps, Session.finishes _⟩

/-- A directory stands in the way when the writer finishes first. The next time, it stores the points of
both meshes. -/
theorem points_kept_until_directory_gone :
    ∃ (m : Mesh) (files blocked : FileSystem) (w : CloudWriter),
      m.vertices ≠ [] ∧ w.points = [] ∧
      blocked.truncate w.path = .error .isDirectory ∧
      ((Session.mk w files []).run [.write m, .others blocked, .finish]).writer.points = m.vertices ∧
      ((Session.mk w files []).run [.write m, .others blocked, .finish, .write m, .others files,
        .finish]).stored = [.ok (Format.utf8 (Format.Pcd.text (m.vertices ++ m.vertices)))] := by
  let v : Vertex := { x := 0, y := 1, z := 0, line := 0, point := 0, sample := 100, radius := 1 }
  let m : Mesh := { vertices := [v], faces := [] }
  let w : CloudWriter := { path := Path.ofString "c.pcd" }
  let blocked := FileSystem.fresh.put ["work", "c.pcd"] .directory
  obtain ⟨last, hl⟩ : ∃ last, last = (Session.mk w FileSystem.fresh []).run
    [.write m, .others blocked, .finish, .write m, .others FileSystem.fresh, .finish] := ⟨_, rfl⟩
  have hb : last.stored.length = 1 := by
    rw [hl]
    decide +kernel
  have he : last.writer.points.isEmpty := by
    rw [hl]
    decide +kernel
  obtain ⟨⟨batches, hs, -, hp⟩, -, -⟩ := points_kept_in_order w FileSystem.fresh
    [.write m, .others blocked, .finish, .write m, .others FileSystem.fresh, .finish]
  rw [← hl] at hs hp
  obtain ⟨batch, rfl⟩ : ∃ batch, batches = [batch] := by
    rw [← List.length_eq_one_iff, ← hb, hs, List.length_map]
  have hv : batch = m.vertices ++ m.vertices := by
    rw [List.isEmpty_iff.mp he, List.append_nil, List.flatten_singleton] at hp
    exact hp
  refine ⟨m, FileSystem.fresh, blocked, w, List.cons_ne_nil _ _, rfl, rfl, rfl, ?_⟩
  rw [← hl, hs, hv]
  rfl

end CloudWriter

end RotaryScan
