import RotaryScan.Conversion
import RotaryScan.Decimal.Printer
import RotaryScan.FileSystem.Storage

namespace RotaryScan

inductive ReadError
  | unreadable (path : Path) (cause : FileError)
  | malformed (cause : FormatError)
  deriving DecidableEq, Repr

inductive Failure
  | read (cause : ReadError)
  | unconvertible (input : String) (cause : ConversionError)
  | noFileName (input : String)
  | directoryNotCreated (path : Path) (cause : FileError)
  | fileNotCreated (path : Path) (cause : FileError)
  | negativeMean (mean : Float)
  | invalidDeviation (deviation : Float)

/-- The text of a read error. The cause is part of it and also its source. -/
def ReadError.causes : ReadError → List String
  | .unreadable path cause => [s!"cannot read {path.text}: {cause.message}", cause.message]
  | .malformed cause => [cause.message]

def ReadError.message (e : ReadError) : String := e.causes.headD ""

namespace Failure

/-- The texts of a failure and of what caused it, from the outermost inwards. -/
def causes : Failure → List String
  | read cause => cause.causes
  | unconvertible input cause => [s!"cannot convert {input}", cause.message]
  | noFileName input => [s!"input has no file name: {input}"]
  | directoryNotCreated path cause =>
    [s!"cannot create output directory {path.text}", cause.message]
  | fileNotCreated path cause => [s!"cannot create {path.text}", cause.message]
  | negativeMean mean => [s!"mean must not be negative: {Decimal.text mean}"]
  | invalidDeviation deviation => [s!"invalid standard deviation: {Decimal.text deviation}"]

def message (e : Failure) : String := e.causes.headD ""

def chain (e : Failure) : String := String.intercalate ": " e.causes

end Failure

/-- Steps that may fail; the events of those before a failure are kept. -/
abbrev Task (m : Type → Type) := ExceptT Failure (StateT (List Event) m)

namespace Task

variable {m : Type → Type} {Handle α : Type} [Monad m] [Storage m Handle]

def report (events : List Event) : Task m Unit := modify (· ++ events)

def execute (task : Task m α) : m (Except Failure α × List Event) := (ExceptT.run task).run []

def readScan (p : Path) : Task m Scan := do
  match ← (Storage.read p : m _) with
  | .error e => throw (.read (.unreadable p e))
  | .ok bytes =>
    match Scan.decode bytes with
    | .error e => throw (.read (.malformed e))
    | .ok scan =>
      report [.headerRead scan.header]
      return scan

def ensureParent (p : Path) : Task m Unit := do
  if let some parent := p.parent? then
    if parent.chars ≠ [] then
      if let .error e ← (Storage.makeDirectories parent : m _) then
        throw (.directoryNotCreated parent e)

def truncate (p : Path) : Task m Handle := do
  match ← (Storage.truncate p : m _) with
  | .error e => throw (.fileNotCreated p e)
  | .ok handle => return handle

def createNew (p : Path) : Task m Handle := do
  match ← (Storage.createNew p : m _) with
  | .error e => throw (.fileNotCreated p e)
  | .ok handle => return handle

def append (handle : Handle) (bytes : List UInt8) : Task m Unit :=
  (Storage.append handle bytes : m _)

section State

/- Tasks that also change a value. What they have made of it is there when they fail, too. -/
variable {σ : Type}

instance : MonadLift (Task m) (Task (StateT σ m)) where
  monadLift task := ExceptT.mk fun log => StateT.lift (task.run.run log)

/-- Carries out a task on a value that is given up when the task fails. -/
def update (task : Task (StateT σ m) Unit) (s : σ) : Task m σ :=
  ExceptT.mk fun log => do
    let ((outcome, log), s) ← (task.run.run log).run s
    return (outcome.map fun () => s, log)

end State

end Task

end RotaryScan
