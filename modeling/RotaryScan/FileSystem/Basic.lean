import RotaryScan.Path

namespace RotaryScan

inductive FileError
  | notFound
  | exists
  | notDirectory
  | isDirectory
  | nameTooLong
  | embeddedNul
  | other (text : String)
  deriving DecidableEq, Repr

def FileError.message : FileError → String
  | .notFound => "No such file or directory (os error 2)"
  | .exists => "File exists (os error 17)"
  | .notDirectory => "Not a directory (os error 20)"
  | .isDirectory => "Is a directory (os error 21)"
  | .nameTooLong => "File name too long (os error 36)"
  | .embeddedNul => "file name contained an unexpected NUL byte"
  | .other text => text

/-- The names on the way from the root to a file or directory. -/
abbrev Location := List String

inductive Entry
  | directory
  | file (bytes : List UInt8)
  deriving DecidableEq, Repr

/-- Files and directories by location, and the directory that relative paths start from. The root
is always a directory. -/
structure FileSystem where
  entries : List (Location × Entry)
  workingDirectory : Location
  deriving Repr

namespace FileSystem

def entryAt? (fs : FileSystem) (l : Location) : Option Entry :=
  if l = [] then some .directory else fs.entries.lookup l

def put (fs : FileSystem) (l : Location) (e : Entry) : FileSystem :=
  { fs with entries := (l, e) :: fs.entries.filter (·.1 != l) }

def remove (fs : FileSystem) (l : Location) : FileSystem :=
  { fs with entries := fs.entries.filter fun (place, _) => !l.isPrefixOf place }

def child (directory : Location) (name : String) : Except FileError Location :=
  if 255 < name.utf8ByteSize then .error .nameTooLong else .ok (directory ++ [name])

def step (fs : FileSystem) (l : Location) (segment : String) : Except FileError Location :=
  if fs.entryAt? l ≠ some .directory then .error .notDirectory
  else if segment = "" ∨ segment = "." then .ok l
  else if segment = ".." then .ok l.dropLast
  else do
    let next ← child l segment
    if fs.entryAt? next = none then throw .notFound else return next

def walk (fs : FileSystem) (start : Location) (segments : List String) :
    Except FileError Location :=
  segments.foldlM fs.step start

def segments (p : Path) : List String := (p.chars.splitOn '/').map String.ofList

def start (fs : FileSystem) (p : Path) : Location :=
  if p.chars.head? = some '/' then [] else fs.workingDirectory

/-- What is wrong with a path before any directory is looked at. -/
def refusal? (p : Path) : Option FileError :=
  if '\x00' ∈ p.chars then some .embeddedNul
  else if p.chars = [] then some .notFound
  else if 4096 ≤ p.text.utf8ByteSize then some .nameTooLong
  else none

def locate (fs : FileSystem) (p : Path) : Except FileError Location :=
  match refusal? p with
  | some e => .error e
  | none => fs.walk (fs.start p) (segments p)

def lookup (fs : FileSystem) (p : Path) : Except FileError Entry := do
  let l ← fs.locate p
  match fs.entryAt? l with
  | some e => return e
  | none => throw .notFound

def fileExists (fs : FileSystem) (p : Path) : Bool := (fs.lookup p).isOk

def isDirectory (fs : FileSystem) (p : Path) : Bool :=
  match fs.lookup p with
  | .ok .directory => true
  | _ => false

def read (fs : FileSystem) (p : Path) : Except FileError (List UInt8) := do
  match ← fs.lookup p with
  | .file bytes => return bytes
  | .directory => throw .isDirectory

inductive Slot
  /-- A path that ends in a point, in two points, or at the root: a directory that is there. -/
  | standing
  | named (directory : Location) (name : String) (slash : Bool)
  deriving DecidableEq, Repr

def slot (fs : FileSystem) (p : Path) : Except FileError Slot := do
  if let some e := refusal? p then throw e
  let parts := segments p
  let trimmed := (parts.reverse.dropWhile (· = "")).reverse
  match trimmed.getLast? with
  | none => return .standing
  | some last =>
    let directory ← fs.walk (fs.start p) trimmed.dropLast
    if fs.entryAt? directory ≠ some .directory then throw .notDirectory
    else if last = "." ∨ last = ".." then return .standing
    else return .named directory last (trimmed.length < parts.length)

/-- Where a file is created when the path may name an old one, whose content is then lost. A slash
at the end asks for a directory, whatever the name before it. -/
def truncate (fs : FileSystem) (p : Path) : Except FileError (Location × FileSystem) := do
  match ← fs.slot p with
  | .standing | .named _ _ true => throw .isDirectory
  | .named directory name false =>
    let l ← child directory name
    if fs.entryAt? l = some .directory then throw .isDirectory
    else return (l, fs.put l (.file []))

def createNew (fs : FileSystem) (p : Path) : Except FileError (Location × FileSystem) := do
  match ← fs.slot p with
  | .standing => throw .exists
  | .named _ _ true => throw .isDirectory
  | .named directory name false =>
    let l ← child directory name
    if fs.entryAt? l ≠ none then throw .exists
    else return (l, fs.put l (.file []))

def makeDirectory (fs : FileSystem) (p : Path) : Except FileError FileSystem := do
  match ← fs.slot p with
  | .standing => throw .exists
  | .named directory name _ =>
    let l ← child directory name
    if fs.entryAt? l ≠ none then throw .exists
    else return fs.put l .directory

def append (fs : FileSystem) (l : Location) (bytes : List UInt8) : FileSystem :=
  match fs.entryAt? l with
  | some (.file old) => fs.put l (.file (old ++ bytes))
  | _ => fs

theorem entryAt?_put (fs : FileSystem) {l : Location} (e : Entry) (h : l ≠ []) :
    (fs.put l e).entryAt? l = some e := by
  simp [entryAt?, put, h]

end FileSystem

end RotaryScan
