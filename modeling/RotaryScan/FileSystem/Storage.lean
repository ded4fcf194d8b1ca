import RotaryScan.FileSystem.Basic

namespace RotaryScan

/-- A place where files live, and how an open file is named there. -/
class Storage (m : Type → Type) (Handle : outParam Type) where
  read : Path → m (Except FileError (List UInt8))
  truncate : Path → m (Except FileError Handle)
  createNew : Path → m (Except FileError Handle)
  append : Handle → List UInt8 → m Unit
  makeDirectory : Path → m (Except FileError Unit)
  isDirectory : Path → m Bool

namespace FileSystem

/-- An operation of the system that fails has changed nothing. -/
def attempt {α : Type} (operation : FileSystem → Except FileError (α × FileSystem)) :
    StateM FileSystem (Except FileError α) := fun fs =>
  match operation fs with
  | .ok (a, after) => (.ok a, after)
  | .error e => (.error e, fs)

instance : Storage (StateM FileSystem) Location where
  read p := fun fs => (fs.read p, fs)
  truncate p := attempt (·.truncate p)
  createNew p := attempt (·.createNew p)
  append l bytes := fun fs => ((), fs.append l bytes)
  makeDirectory p := attempt fun fs => (fs.makeDirectory p).map ((), ·)
  isDirectory p := fun fs => (fs.isDirectory p, fs)

def fresh : FileSystem := ⟨[(["work"], .directory)], ["work"]⟩

def below (fs : FileSystem) (l : Location) : List (Location × Entry) :=
  let inside := fs.entries.filterMap fun (place, entry) =>
    if l.isPrefixOf place ∧ place ≠ l then some (place.drop l.length, entry) else none
  inside.mergeSort fun a b => !(b.1 < a.1)

end FileSystem

namespace Storage

variable {m : Type → Type} {Handle : Type} [Monad m] [Storage m Handle]

/-- A directory that could not be created may be there already. -/
def settle (p : Path) (e : FileError) : m (Except FileError Unit) := do
  return if ← isDirectory p then .ok () else .error e

/-- Creates the first directory of a list in which each path is followed by its parent, after those
above it that are missing. -/
def makeDirectoriesOf : List Path → m (Except FileError Unit)
  | [] => return .ok ()
  | p :: parents => do
    if p.chars = [] then return .ok ()
    match ← makeDirectory p with
    | .ok () => return .ok ()
    | .error .notFound =>
      match ← makeDirectoriesOf parents with
      | .error e => return .error e
      | .ok () =>
        match ← makeDirectory p with
        | .ok () => return .ok ()
        | .error e => settle p e
    | .error e => settle p e

def makeDirectories (p : Path) : m (Except FileError Unit) := makeDirectoriesOf p.ancestors

end Storage

end RotaryScan
