import RotaryScan.Program
import RotaryScan.Proofs.Growth

namespace RotaryScan

def Path.above (p : Path) : List Path :=
  match p.parent? with
  | some parent => parent.ancestors
  | none => []

namespace FileSystem

/-- The file systems that come of making some of these directories. -/
inductive Made (directories : List Path) (before : FileSystem) : FileSystem → Prop
  | nothing : Made directories before before
  | next {middle after : FileSystem} {p : Path} (h : Made directories before middle)
    (hp : p ∈ directories) (hm : middle.makeDirectory p = .ok after) : Made directories before after

variable {before after fs : FileSystem} {directories directories' : List Path}

theorem Made.mono (h : Made directories before after) (hs : directories ⊆ directories') :
    Made directories' before after := by
  induction h with
  | nothing => exact .nothing
  | next _ hp hm ih => exact .next ih (hs hp) hm

theorem Made.extends (h : Made directories before after) : before.Extends after := by
  induction h with
  | nothing => exact .refl before
  | next _ _ hm ih =>
    obtain ⟨l, hl, rfl, -⟩ := makeDirectory_eq_ok hm
    exact ih.trans (extends_put (by rw [hl]; nofun) .directory)

/-- A place is as it was, or one of these directories has come to be where nothing was. -/
def KeptOrMade (before : FileSystem) (directories : List Path) (after : FileSystem) (l : Location) :
    Prop :=
  after.entryAt? l = before.entryAt? l ∨
    before.entryAt? l = none ∧ after.entryAt? l = some .directory ∧
      ∃ p ∈ directories, after.locate p = .ok l

theorem KeptOrMade.entryAt?_file_iff {l : Location} (h : before.KeptOrMade directories after l)
    (bytes : List UInt8) :
    after.entryAt? l = some (.file bytes) ↔ before.entryAt? l = some (.file bytes) := by
  obtain h | ⟨hb, ha, -⟩ := h
  · rw [h]
  · rw [hb, ha]
    exact ⟨nofun, nofun⟩

theorem KeptOrMade.put {l l' : Location} (h : before.KeptOrMade directories after l) (hne : l ≠ l')
    (hl : after.entryAt? l' ≠ some .directory) (e : Entry) :
    before.KeptOrMade directories (after.put l' e) l := by
  have hput := entryAt?_put_of_ne after e hne
  obtain h | ⟨hb, ha, p, hp, hlocate⟩ := h
  · exact .inl (hput.trans h)
  · exact .inr ⟨hb, hput.trans ha, p, hp, (extends_put hl e).locate hlocate⟩

theorem Made.keptOrMade (h : Made directories before after) (l : Location) :
    before.KeptOrMade directories after l := by
  induction h with
  | nothing => exact .inl rfl
  | @next middle after p h hp hm ih =>
    obtain ⟨l', hl, rfl, hlocate, -⟩ := makeDirectory_eq_ok hm
    have hd : middle.entryAt? l' ≠ some .directory := by
      rw [hl]
      nofun
    by_cases he : l = l'
    · subst he
      obtain ih | ⟨-, ha, -⟩ := ih
      · have hput := entryAt?_put middle .directory (ne_nil_of_entryAt? hd)
        exact .inr ⟨ih ▸ hl, hput, p, hp, hlocate⟩
      -- What was made before is there, and is not made again.
      · exact absurd ha hd
    · exact ih.put he hd .directory

theorem bind_apply {σ α β : Type} (x : StateM σ α) (f : α → StateM σ β) (s : σ) :
    (x >>= f) s = f (x s).1 (x s).2 := rfl

theorem attempt_ok {α : Type} {operation : FileSystem → Except FileError (α × FileSystem)} {a : α}
    (h : operation fs = .ok (a, after)) : attempt operation fs = (.ok a, after) := by
  rw [attempt, h]

theorem attempt_error {α : Type} {operation : FileSystem → Except FileError (α × FileSystem)}
    {e : FileError} (h : operation fs = .error e) : attempt operation fs = (.error e, fs) := by
  rw [attempt, h]

theorem makeDirectory_apply_ok {p : Path} (h : fs.makeDirectory p = .ok after) :
    (Storage.makeDirectory p : StateM FileSystem _) fs = (.ok (), after) :=
  attempt_ok (by rw [h]; rfl)

theorem makeDirectory_apply_error {p : Path} {e : FileError} (h : fs.makeDirectory p = .error e) :
    (Storage.makeDirectory p : StateM FileSystem _) fs = (.error e, fs) :=
  attempt_error (by rw [h]; rfl)

theorem made_makeDirectoriesOf (paths : List Path) (fs : FileSystem) :
    Made paths fs ((Storage.makeDirectoriesOf paths : StateM FileSystem _) fs).2 := by
  induction paths with
  | nil => exact .nothing
  | cons p parents ih =>
    have hp : p ∈ p :: parents := List.mem_cons_self
    unfold Storage.makeDirectoriesOf
    by_cases he : p.chars = []
    · rw [if_pos he]
      exact .nothing
    rw [if_neg he, bind_apply]
    cases hm : fs.makeDirectory p with
    | ok after =>
      rw [makeDirectory_apply_ok hm]
      exact .next .nothing hp hm
    | error e =>
      rw [makeDirectory_apply_error hm]
      cases e with
      | notFound =>
        change Made _ fs ((Storage.makeDirectoriesOf parents >>= fun r => _ : StateM FileSystem _) fs).2
        rw [bind_apply]
        generalize (Storage.makeDirectoriesOf parents : StateM FileSystem _) fs = made at ih ⊢
        obtain ⟨r, middle⟩ := made
        -- The directory is tried again among the files that the attempt on its parents left.
        have hmade : Made (p :: parents) fs middle := ih.mono (List.subset_cons_self p parents)
        cases r with
        | error e => exact hmade
        | ok u =>
          change Made _ fs ((Storage.makeDirectory p >>= fun r => _ : StateM FileSystem _) middle).2
          rw [bind_apply]
          cases hm : middle.makeDirectory p with
          | ok after =>
            rw [makeDirectory_apply_ok hm]
            exact hmade.next hp hm
          | error e =>
            rw [makeDirectory_apply_error hm]
            exact hmade
      | _ => exact .nothing

def prepare (fs : FileSystem) (p : Path) : Except Failure Unit × FileSystem :=
  match p.parent? with
  | none => (.ok (), fs)
  | some parent =>
    if parent.chars = [] then (.ok (), fs)
    else
      let made := (Storage.makeDirectories parent : StateM FileSystem _).run fs
      (made.1.mapError (.directoryNotCreated parent), made.2)

theorem made_prepare (fs : FileSystem) (p : Path) : fs.Made p.above (fs.prepare p).2 := by
  unfold prepare Path.above
  cases p.parent? with
  | none => exact .nothing
  | some parent =>
    dsimp only
    split
    · exact .nothing
    · exact made_makeDirectoriesOf parent.ancestors fs

theorem prepare_eq_error {p : Path} {e : Failure} (h : (fs.prepare p).1 = .error e) :
    ∃ parent cause, e = .directoryNotCreated parent cause := by
  unfold prepare at h
  split at h
  · cases h
  · next parent _ =>
    split at h
    · cases h
    · dsimp only at h
      cases hm : ((Storage.makeDirectories parent : StateM FileSystem _).run fs).1 with
      | ok u =>
        rw [hm] at h
        cases h
      | error cause =>
        rw [hm] at h
        cases h
        exact ⟨parent, cause, rfl⟩

def readScan (fs : FileSystem) (p : Path) : Except ReadError Scan :=
  match fs.read p with
  | .error e => .error (.unreadable p e)
  | .ok bytes => (Scan.decode bytes).mapError .malformed

theorem read_of_readScan {p : Path} {s : Scan} (h : fs.readScan p = .ok s) :
    ∃ bytes, fs.read p = .ok bytes ∧ Scan.decode bytes = .ok s := by
  unfold readScan at h
  cases hr : fs.read p with
  | error e =>
    rw [hr] at h
    cases h
  | ok bytes =>
    rw [hr] at h
    dsimp only at h
    refine ⟨bytes, rfl, ?_⟩
    cases hd : Scan.decode bytes with
    | error e =>
      rw [hd] at h
      cases h
    | ok s' =>
      rw [hd] at h
      cases h
      rfl

end FileSystem

namespace Task

variable {α β : Type} {fs fs' fs'' : FileSystem} {p : Path} {l : Location}

/-- A task that starts on some files ends with this outcome and leaves these files, whatever was
reported before. -/
def Ends (task : Task (StateM FileSystem) α) (fs : FileSystem) (r : Except Failure α)
    (fs' : FileSystem) : Prop :=
  ∀ log, ∃ log', (task.run.run log).run fs = ((r, log'), fs')

def runOn (task : Task (StateM FileSystem) α) (fs : FileSystem) : Except Failure α × FileSystem :=
  let done := task.execute.run fs
  (done.1.1, done.2)

theorem Ends.runOn_eq {task : Task (StateM FileSystem) α} {r : Except Failure α}
    (h : task.Ends fs r fs') : task.runOn fs = (r, fs') := by
  obtain ⟨log, h⟩ := h []
  have he : task.execute.run fs = ((r, log), fs') := h
  rw [runOn, he]

section Bind

variable {task : Task (StateM FileSystem) α} {next : α → Task (StateM FileSystem) β}

theorem Ends.bind {a : α} {r : Except Failure β} (h : task.Ends fs (.ok a) fs')
    (hn : (next a).Ends fs' r fs'') : (task >>= next).Ends fs r fs'' := by
  intro log
  obtain ⟨log', h⟩ := h log
  obtain ⟨log'', hn⟩ := hn log'
  refine ⟨log'', ?_⟩
  rw [ExceptT.run_bind, StateT.run_bind, StateT.run_bind, h]
  exact hn

theorem Ends.bind_error {e : Failure} (h : task.Ends fs (.error e) fs') :
    (task >>= next).Ends fs (.error e) fs' := by
  intro log
  obtain ⟨log', h⟩ := h log
  refine ⟨log', ?_⟩
  rw [ExceptT.run_bind, StateT.run_bind, StateT.run_bind, h]
  rfl

theorem ends_lift {action : StateM FileSystem α} {a : α} (h : action fs = (a, fs')) :
    (liftM action : Task (StateM FileSystem) α).Ends fs (.ok a) fs' := by
  intro log
  refine ⟨log, ?_⟩
  change ((Except.ok (action fs).1, log), (action fs).2) = _
  rw [h]

end Bind

theorem ends_pure (a : α) (fs : FileSystem) :
    (pure a : Task (StateM FileSystem) α).Ends fs (.ok a) fs := fun log => ⟨log, rfl⟩

theorem ends_throw (e : Failure) (fs : FileSystem) :
    (throw e : Task (StateM FileSystem) α).Ends fs (.error e) fs := fun log => ⟨log, rfl⟩

theorem ends_report (events : List Event) (fs : FileSystem) :
    (report events : Task (StateM FileSystem) Unit).Ends fs (.ok ()) fs :=
  fun log => ⟨log ++ events, rfl⟩

theorem ends_append (l : Location) (bytes : List UInt8) (fs : FileSystem) :
    (append l bytes : Task (StateM FileSystem) Unit).Ends fs (.ok ()) (fs.append l bytes) :=
  ends_lift rfl

theorem ends_truncate (h : fs.truncate p = .ok (l, fs')) :
    (truncate p : Task (StateM FileSystem) Location).Ends fs (.ok l) fs' :=
  (ends_lift (FileSystem.attempt_ok h)).bind (ends_pure l fs')

theorem ends_truncate_error {e : FileError} (h : fs.truncate p = .error e) :
    (truncate p : Task (StateM FileSystem) Location).Ends fs (.error (.fileNotCreated p e)) fs :=
  (ends_lift (FileSystem.attempt_error h)).bind (ends_throw _ fs)

theorem ends_createNew (h : fs.createNew p = .ok (l, fs')) :
    (createNew p : Task (StateM FileSystem) Location).Ends fs (.ok l) fs' :=
  (ends_lift (FileSystem.attempt_ok h)).bind (ends_pure l fs')

theorem ends_createNew_error {e : FileError} (h : fs.createNew p = .error e) :
    (createNew p : Task (StateM FileSystem) Location).Ends fs (.error (.fileNotCreated p e)) fs :=
  (ends_lift (FileSystem.attempt_error h)).bind (ends_throw _ fs)

theorem ends_readScan (p : Path) (fs : FileSystem) :
    (readScan p : Task (StateM FileSystem) Scan).Ends fs ((fs.readScan p).mapError .read) fs := by
  have hr : (Storage.read p : StateM FileSystem _) fs = (fs.read p, fs) := rfl
  unfold readScan FileSystem.readScan
  apply (ends_lift hr).bind
  cases fs.read p with
  | error e => exact ends_throw _ fs
  | ok bytes =>
    dsimp only
    cases Scan.decode bytes with
    | error e => exact ends_throw _ fs
    | ok scan => exact (ends_report _ fs).bind (ends_pure scan fs)

theorem ends_ensureParent (p : Path) (fs : FileSystem) :
    (ensureParent p).Ends fs (fs.prepare p).1 (fs.prepare p).2 := by
  unfold ensureParent FileSystem.prepare
  cases p.parent? with
  | none => exact ends_pure () fs
  | some parent =>
    dsimp only
    by_cases hc : parent.chars = []
    · rw [if_pos hc, if_neg (not_not_intro hc)]
      exact ends_pure () fs
    rw [if_neg hc, if_pos hc]
    cases hd : (Storage.makeDirectories parent : StateM FileSystem _).run fs with
    | mk made fs' =>
      apply (ends_lift hd).bind
      cases made with
      | ok u => exact ends_pure () fs'
      | error e => exact ends_throw _ fs'

section State

variable {σ : Type} {s s' s'' : σ}

/-- A task on a value and on some files ends with this outcome and leaves this value and these files,
whatever was reported before. -/
def EndsWith (task : Task (StateT σ (StateM FileSystem)) α) (s : σ) (fs : FileSystem)
    (r : Except Failure α) (s' : σ) (fs' : FileSystem) : Prop :=
  ∀ log, ∃ log', ((task.run.run log).run s).run fs = (((r, log'), s'), fs')

def runFrom (task : Task (StateT σ (StateM FileSystem)) α) (s : σ) (fs : FileSystem) :
    (Except Failure α × σ) × FileSystem :=
  let done := (task.execute.run s).run fs
  ((done.1.1.1, done.1.2), done.2)

theorem EndsWith.runFrom_eq {task : Task (StateT σ (StateM FileSystem)) α} {r : Except Failure α}
    (h : task.EndsWith s fs r s' fs') : task.runFrom s fs = ((r, s'), fs') := by
  obtain ⟨log, h⟩ := h []
  have he : (task.execute.run s).run fs = (((r, log), s'), fs') := h
  rw [runFrom, he]

section Bind

variable {task : Task (StateT σ (StateM FileSystem)) α}
  {next : α → Task (StateT σ (StateM FileSystem)) β}

theorem EndsWith.bind {a : α} {r : Except Failure β} (h : task.EndsWith s fs (.ok a) s' fs')
    (hn : (next a).EndsWith s' fs' r s'' fs'') : (task >>= next).EndsWith s fs r s'' fs'' := by
  intro log
  obtain ⟨log', h⟩ := h log
  obtain ⟨log'', hn⟩ := hn log'
  refine ⟨log'', ?_⟩
  rw [ExceptT.run_bind, StateT.run_bind, StateT.run_bind, StateT.run_bind, h]
  exact hn

theorem EndsWith.bind_error {e : Failure} (h : task.EndsWith s fs (.error e) s' fs') :
    (task >>= next).EndsWith s fs (.error e) s' fs' := by
  intro log
  obtain ⟨log', h⟩ := h log
  refine ⟨log', ?_⟩
  rw [ExceptT.run_bind, StateT.run_bind, StateT.run_bind, StateT.run_bind, h]
  rfl

end Bind

theorem Ends.endsWith {task : Task (StateM FileSystem) α} {r : Except Failure α}
    (h : task.Ends fs r fs') (s : σ) :
    (liftM task : Task (StateT σ (StateM FileSystem)) α).EndsWith s fs r s fs' := by
  intro log
  obtain ⟨log', h⟩ := h log
  refine ⟨log', ?_⟩
  change ((((task.run.run log).run fs).1, s), ((task.run.run log).run fs).2) = _
  rw [h]

theorem EndsWith.update {task : Task (StateT σ (StateM FileSystem)) Unit} {r : Except Failure Unit}
    (h : task.EndsWith s fs r s' fs') : (task.update s).Ends fs (r.map fun () => s') fs' := by
  intro log
  obtain ⟨log', h⟩ := h log
  refine ⟨log', ?_⟩
  change (fun done : ((Except Failure Unit × List Event) × σ) × FileSystem =>
    ((done.1.1.1.map fun () => done.1.2, done.1.1.2), done.2))
      (((task.run.run log).run s).run fs) = _
  rw [h]

theorem endsWith_pure (a : α) (s : σ) (fs : FileSystem) :
    (pure a : Task (StateT σ (StateM FileSystem)) α).EndsWith s fs (.ok a) s fs :=
  fun log => ⟨log, rfl⟩

theorem endsWith_get (s : σ) (fs : FileSystem) :
    (getThe σ : Task (StateT σ (StateM FileSystem)) σ).EndsWith s fs (.ok s) s fs :=
  fun log => ⟨log, rfl⟩

theorem endsWith_modify (f : σ → σ) (s : σ) (fs : FileSystem) :
    (modifyThe σ f : Task (StateT σ (StateM FileSystem)) PUnit).EndsWith s fs (.ok ()) (f s) fs :=
  fun log => ⟨log, rfl⟩

theorem endsWith_report (events : List Event) (s : σ) (fs : FileSystem) :
    (report events : Task (StateT σ (StateM FileSystem)) Unit).EndsWith s fs (.ok ()) s fs :=
  fun log => ⟨log ++ events, rfl⟩

end State

end Task

end RotaryScan
