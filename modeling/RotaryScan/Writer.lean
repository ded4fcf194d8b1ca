import RotaryScan.Format.Output
import RotaryScan.Task

namespace RotaryScan

namespace Buffer

def capacity : Nat := 262144

def push : Buffer → List UInt8 → Buffer := pushWithin capacity

end Buffer

structure StreamWriter (Handle : Type) where
  format : StreamFormat
  handle : Handle
  pending : Array UInt8 := #[]

structure CloudWriter where
  path : Path
  points : List Vertex := []

inductive Writer (Handle : Type)
  | stream (writer : StreamWriter Handle)
  | cloud (writer : CloudWriter)

variable {m : Type → Type} {Handle : Type} [Monad m] [Storage m Handle]

namespace StreamWriter

def write (w : StreamWriter Handle) (mesh : Mesh) : Task m (StreamWriter Handle) := do
  let buffer := (w.format.pieces mesh).foldl Buffer.push { pending := w.pending }
  Task.append w.handle buffer.passed.toList
  Task.report [w.format.event mesh]
  return { w with pending := buffer.pending }

def flush (w : StreamWriter Handle) : Task m (StreamWriter Handle) := do
  Task.append w.handle w.pending.toList
  return { w with pending := #[] }

end StreamWriter

namespace CloudWriter

def write (w : CloudWriter) (mesh : Mesh) : CloudWriter :=
  { w with points := w.points ++ mesh.vertices }

def store (w : CloudWriter) : Task m Unit := do
  let handle ← Task.truncate w.path
  Task.append handle (Format.utf8 (Format.unlines (Format.Pcd.lines w.points)))

/-- Without points no file is created. The writer keeps its points until they are stored. -/
def finish : Task (StateT CloudWriter m) Unit := do
  let w ← getThe CloudWriter
  unless w.points.isEmpty do
    (w.store : Task m Unit)
    Task.report [.cloudWritten w.points.length w.path]
    modifyThe CloudWriter ({ · with points := [] })

end CloudWriter

namespace Writer

def create (format : OutputFormat) (p : Path) : Task m (Writer Handle) := do
  Task.ensureParent p
  match format with
  | .stream format => return .stream { format, handle := ← Task.truncate p }
  | .cloud => return .cloud { path := p }

def write (w : Writer Handle) (mesh : Mesh) : Task m (Writer Handle) := do
  match w with
  | stream w => return stream (← w.write mesh)
  | cloud w => return cloud (w.write mesh)

def finish (w : Writer Handle) : Task m (Writer Handle) := do
  match w with
  | stream w => return stream (← w.flush)
  | cloud w => return cloud (← CloudWriter.finish.update w)

/-- Gives the writer up. What a stream writer has kept back is still written. -/
def close (w : Writer Handle) : Task m Unit := do
  match w with
  | stream w => discard w.flush
  | cloud _ => return

end Writer

end RotaryScan
