import Mathlib.Data.List.DropRight
import RotaryScan.FileSystem.Storage

namespace RotaryScan

theorem bind_eq_ok {ε α β : Type} {x : Except ε α} {f : α → Except ε β} {b : β} :
    x >>= f = .ok b ↔ ∃ a, x = .ok a ∧ f a = .ok b := by
  cases x with
  | error e =>
    constructor
    · nofun
    · rintro ⟨a, ha, -⟩
      cases ha
  | ok a =>
    constructor
    · intro h
      exact ⟨a, rfl, h⟩
    · rintro ⟨a, ha, h⟩
      cases ha
      exact h

namespace FileSystem

variable {fs before after last : FileSystem} {l l' : Location} {p : Path}

theorem lookup_filter_ne (entries : List (Location × Entry)) (h : l' ≠ l) :
    (entries.filter (·.1 != l)).lookup l' = entries.lookup l' := by
  induction entries with
  | nil => rfl
  | cons entry entries ih =>
    obtain ⟨place, e⟩ := entry
    by_cases hp : place = l
    · subst hp
      rw [List.filter_cons_of_neg (by simp), ih, List.lookup_cons, beq_false_of_ne h]
    · rw [List.filter_cons_of_pos (by simpa using hp), List.lookup_cons, List.lookup_cons, ih]

theorem entryAt?_put_of_ne (fs : FileSystem) (e : Entry) (h : l' ≠ l) :
    (fs.put l e).entryAt? l' = fs.entryAt? l' := by
  simp only [entryAt?, put, List.lookup_cons, beq_false_of_ne h, lookup_filter_ne fs.entries h]

theorem put_put (fs : FileSystem) (l : Location) (e e' : Entry) :
    (fs.put l e).put l e' = fs.put l e' := by
  simp [put, List.filter_filter]

theorem append_put (fs : FileSystem) (old new : List UInt8) (h : l ≠ []) :
    (fs.put l (.file old)).append l new = fs.put l (.file (old ++ new)) := by
  simp only [append, entryAt?_put fs (.file old) h, put_put]

theorem ne_nil_of_entryAt? (h : fs.entryAt? l ≠ some .directory) : l ≠ [] := by
  rintro rfl
  exact h rfl

theorem child_eq_ok {directory : Location} {name : String} (h : child directory name = .ok l) :
    l = directory ++ [name] := by
  unfold child at h
  split at h
  · cases h
  · cases h
    rfl

theorem step_eq_ok_iff (segment : String) : fs.step l segment = .ok l' ↔
    fs.entryAt? l = some .directory ∧
      if segment = "" ∨ segment = "." then l = l'
      else if segment = ".." then l.dropLast = l'
      else child l segment = .ok l' ∧ fs.entryAt? l' ≠ none := by
  unfold step
  by_cases hd : fs.entryAt? l = some .directory
  · rw [if_neg (not_not_intro hd), and_iff_right hd]
    split
    · rw [Except.ok.injEq]
    split
    · rw [Except.ok.injEq]
    · rw [bind_eq_ok]
      constructor
      · rintro ⟨next, hc, h⟩
        split at h
        · cases h
        · next hp =>
          cases h
          exact ⟨hc, hp⟩
      · rintro ⟨hc, hp⟩
        exact ⟨l', hc, if_neg hp⟩
  · rw [if_pos hd]
    exact ⟨nofun, fun h => absurd h.1 hd⟩

theorem walk_cons (fs : FileSystem) (l : Location) (segment : String) (segments : List String) :
    fs.walk l (segment :: segments) = fs.step l segment >>= (fs.walk · segments) := rfl

theorem walk_append (fs : FileSystem) (l : Location) (first second : List String) :
    fs.walk l (first ++ second) = fs.walk l first >>= (fs.walk · second) :=
  List.foldlM_append

theorem walk_singleton (fs : FileSystem) (l : Location) (segment : String) :
    fs.walk l [segment] = fs.step l segment := by
  rw [walk_cons]
  cases fs.step l segment <;> rfl

theorem locate_eq_ok_iff : fs.locate p = .ok l ↔
    refusal? p = none ∧ fs.walk (fs.start p) (segments p) = .ok l := by
  unfold locate
  cases refusal? p with
  | none => exact (and_iff_right rfl).symm
  | some e => exact ⟨nofun, nofun⟩

theorem read_eq_ok_iff {bytes : List UInt8} : fs.read p = .ok bytes ↔
    ∃ l, fs.locate p = .ok l ∧ fs.entryAt? l = some (.file bytes) := by
  unfold read lookup
  rw [bind_eq_ok]
  constructor
  · rintro ⟨e, he, h⟩
    obtain ⟨l, hl, he⟩ := bind_eq_ok.mp he
    refine ⟨l, hl, ?_⟩
    split at he
    · next hl =>
      cases he
      cases e with
      | directory => cases h
      | file old =>
        cases h
        exact hl
    · cases he
  · rintro ⟨l, hl, he⟩
    refine ⟨.file bytes, bind_eq_ok.mpr ⟨l, hl, ?_⟩, rfl⟩
    rw [he]
    rfl

/-- Nothing is lost: directories stay directories, and where something was, something is. -/
structure Extends (before after : FileSystem) : Prop where
  workingDirectory : after.workingDirectory = before.workingDirectory
  directory : ∀ l, before.entryAt? l = some .directory → after.entryAt? l = some .directory
  present : ∀ l, before.entryAt? l ≠ none → after.entryAt? l ≠ none

theorem Extends.refl (fs : FileSystem) : fs.Extends fs := ⟨rfl, fun _ h => h, fun _ h => h⟩

theorem Extends.trans (h₁ : before.Extends after) (h₂ : after.Extends last) : before.Extends last :=
  ⟨h₂.workingDirectory.trans h₁.workingDirectory, fun l h => h₂.directory l (h₁.directory l h),
    fun l h => h₂.present l (h₁.present l h)⟩

theorem extends_put (h : fs.entryAt? l ≠ some .directory) (e : Entry) :
    fs.Extends (fs.put l e) := by
  refine ⟨rfl, ?_, ?_⟩
  · intro l' hd
    have hl : l' ≠ l := by
      rintro rfl
      exact h hd
    rwa [entryAt?_put_of_ne fs e hl]
  · intro l' hp
    by_cases hl : l' = l
    · subst hl
      rw [entryAt?_put fs e (ne_nil_of_entryAt? h)]
      nofun
    · rwa [entryAt?_put_of_ne fs e hl]

section Locate

variable (h : before.Extends after)
include h

theorem Extends.step {segment : String} (hs : before.step l segment = .ok l') :
    after.step l segment = .ok l' := by
  rw [step_eq_ok_iff] at hs ⊢
  obtain ⟨hd, hs⟩ := hs
  refine ⟨h.directory l hd, ?_⟩
  split
  · next h₁ => rwa [if_pos h₁] at hs
  · next h₁ =>
    rw [if_neg h₁] at hs
    split
    · next h₂ => rwa [if_pos h₂] at hs
    · next h₂ =>
      rw [if_neg h₂] at hs
      exact ⟨hs.1, h.present l' hs.2⟩

theorem Extends.walk {segments : List String} (hw : before.walk l segments = .ok l') :
    after.walk l segments = .ok l' := by
  induction segments generalizing l with
  | nil => exact hw
  | cons segment segments ih =>
    rw [walk_cons, bind_eq_ok] at hw ⊢
    obtain ⟨next, hs, hw⟩ := hw
    exact ⟨next, h.step hs, ih hw⟩

theorem Extends.start (p : Path) : after.start p = before.start p := by
  simp only [FileSystem.start, h.workingDirectory]

theorem Extends.locate (hl : before.locate p = .ok l) : after.locate p = .ok l := by
  rw [locate_eq_ok_iff] at hl ⊢
  rw [h.start]
  exact ⟨hl.1, h.walk hl.2⟩

theorem Extends.read {bytes : List UInt8} (hl : before.locate p = .ok l)
    (he : after.entryAt? l = some (.file bytes)) : after.read p = .ok bytes :=
  read_eq_ok_iff.mpr ⟨l, h.locate hl, he⟩

end Locate

section Slot

variable {directory : Location} {name : String} {slash : Bool}

def trimmed (p : Path) : List String := (segments p).rdropWhile (· = "")

theorem slot_eq (fs : FileSystem) (hr : refusal? p = none) : fs.slot p =
    match (trimmed p).getLast? with
    | none => .ok .standing
    | some last => fs.walk (fs.start p) (trimmed p).dropLast >>= fun l =>
        if fs.entryAt? l ≠ some .directory then .error .notDirectory
        else if last = "." ∨ last = ".." then .ok .standing
        else .ok (.named l last ((trimmed p).length < (segments p).length)) := by
  unfold slot
  rw [hr]
  rfl

theorem refusal?_of_slot {s : Slot} (h : fs.slot p = .ok s) : refusal? p = none := by
  cases hr : refusal? p with
  | none => rfl
  | some e =>
    unfold slot at h
    rw [hr] at h
    cases h

theorem getLast?_trimmed_ne (h : (trimmed p).getLast? = some name) : name ≠ "" := by
  have hne : trimmed p ≠ [] := by
    intro he
    rw [he] at h
    cases h
  have hl := List.rdropWhile_last_not (· = "") (segments p) hne
  rw [decide_eq_true_eq] at hl
  rw [List.getLast?_eq_some_getLast hne, Option.some.injEq] at h
  rw [← h]
  exact hl

/-- A new name stands at the end of its path, where at most slashes follow it, and the way there leads
to a directory. -/
theorem slot_named (h : fs.slot p = .ok (.named directory name slash)) :
    fs.entryAt? directory = some .directory ∧ (name ≠ "" ∧ name ≠ "." ∧ name ≠ "..") ∧
      ∃ above empties, segments p = above ++ name :: empties ∧ (∀ s ∈ empties, s = "") ∧
        (slash = false → empties = []) ∧ fs.walk (fs.start p) above = .ok directory := by
  rw [slot_eq fs (refusal?_of_slot h)] at h
  split at h
  · cases h
  · next last hlast =>
    obtain ⟨l, hw, h⟩ := bind_eq_ok.mp h
    split at h
    · cases h
    split at h
    · cases h
    · next hd hdots =>
      cases h
      rw [not_or] at hdots
      have hparts : trimmed p ++ (segments p).rtakeWhile (· = "") = segments p :=
        List.rdropWhile_append_rtakeWhile
      refine ⟨not_not.mp hd, ⟨getLast?_trimmed_ne hlast, hdots⟩, (trimmed p).dropLast,
        (segments p).rtakeWhile (· = ""), ?_, ?_, ?_, hw⟩
      · rw [List.append_cons, List.dropLast_append_getLast? name hlast, hparts]
      · intro s hs
        have hs := List.mem_rtakeWhile_imp hs
        exact of_decide_eq_true hs
      · intro hs
        have hlength := congrArg List.length hparts
        rw [List.length_append] at hlength
        have ht : ¬(trimmed p).length < (segments p).length := of_decide_eq_false hs
        exact List.eq_nil_of_length_eq_zero (by omega)

theorem walk_empties {empties : List String} (hd : fs.entryAt? l = some .directory)
    (h : ∀ s ∈ empties, s = "") : fs.walk l empties = .ok l := by
  induction empties with
  | nil => rfl
  | cons segment empties ih =>
    rw [walk_cons, bind_eq_ok]
    refine ⟨l, (step_eq_ok_iff segment).mpr ⟨hd, ?_⟩, ih fun s hs => h s (List.mem_cons_of_mem _ hs)⟩
    rw [if_pos (.inl (h segment List.mem_cons_self))]

/-- Once something is where a new name was going to be, its path leads there; after a slash this has to
be a directory. -/
theorem locate_of_slot_named (hs : fs.slot p = .ok (.named directory name slash))
    (hc : child directory name = .ok l) (hext : fs.Extends after) (he : after.entryAt? l ≠ none)
    (hl : slash = true → after.entryAt? l = some .directory) : after.locate p = .ok l := by
  obtain ⟨hd, ⟨hempty, hdot, hdots⟩, above, empties, hp, hempties, hslash, hw⟩ := slot_named hs
  have hstep : after.step directory name = .ok l := by
    rw [step_eq_ok_iff, if_neg (not_or.mpr ⟨hempty, hdot⟩), if_neg hdots]
    exact ⟨hext.directory directory hd, hc, he⟩
  have hrest : after.walk l empties = .ok l := by
    cases slash with
    | false =>
      rw [hslash rfl]
      rfl
    | true => exact walk_empties (hl rfl) hempties
  refine locate_eq_ok_iff.mpr ⟨refusal?_of_slot hs, ?_⟩
  rw [hext.start, hp, walk_append, bind_eq_ok]
  refine ⟨directory, hext.walk hw, ?_⟩
  rw [walk_cons, bind_eq_ok]
  exact ⟨l, hstep, hrest⟩

/-- A file that is opened for writing is emptied or new, and nothing else changes. The path names it
from then on. -/
theorem truncate_eq_ok (h : fs.truncate p = .ok (l, after)) :
    fs.entryAt? l ≠ some .directory ∧ after = fs.put l (.file []) ∧ after.locate p = .ok l := by
  unfold truncate at h
  obtain ⟨slot, hs, h⟩ := bind_eq_ok.mp h
  match slot, hs, h with
  | .standing, _, h => cases h
  | .named _ _ true, _, h => cases h
  | .named directory name false, hs, h =>
    obtain ⟨next, hc, h⟩ := bind_eq_ok.mp h
    split at h
    · cases h
    · next hn =>
      cases h
      have he := entryAt?_put fs (.file []) (ne_nil_of_entryAt? hn)
      exact ⟨hn, rfl, locate_of_slot_named hs hc (extends_put hn _) (by rw [he]; nofun) nofun⟩

theorem locate_of_truncate (h : fs.truncate p = .ok (l, after)) (bytes : List UInt8) :
    (fs.put l (.file bytes)).locate p = .ok l := by
  obtain ⟨hd, rfl, hl⟩ := truncate_eq_ok h
  have he := entryAt?_put fs (.file []) (ne_nil_of_entryAt? hd)
  have hext := extends_put (by rw [he]; nofun) (.file bytes)
  rw [put_put] at hext
  exact hext.locate hl

/-- A directory that is made was missing in one that is there, and nothing else changes. The path names
it from then on. -/
theorem makeDirectory_eq_ok (h : fs.makeDirectory p = .ok after) :
    ∃ l, fs.entryAt? l = none ∧ after = fs.put l .directory ∧ after.locate p = .ok l ∧
      fs.entryAt? l.dropLast = some .directory := by
  unfold makeDirectory at h
  obtain ⟨slot, hs, h⟩ := bind_eq_ok.mp h
  cases slot with
  | standing => cases h
  | named directory name slash =>
    obtain ⟨l, hc, h⟩ := bind_eq_ok.mp h
    split at h
    · cases h
    · next hn =>
      cases h
      have hl : fs.entryAt? l ≠ some .directory := by
        rw [not_not.mp hn]
        nofun
      have he := entryAt?_put fs .directory (ne_nil_of_entryAt? hl)
      refine ⟨l, not_not.mp hn, rfl,
        locate_of_slot_named hs hc (extends_put hl _) (by rw [he]; nofun) fun _ => he, ?_⟩
      rw [child_eq_ok hc, List.dropLast_concat]
      exact (slot_named hs).1

end Slot

end FileSystem

end RotaryScan
