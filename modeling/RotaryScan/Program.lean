import RotaryScan.CommandLine.Convert
import RotaryScan.CommandLine.Mock
import RotaryScan.Writer

namespace RotaryScan

open CommandLine

variable {m : Type → Type} {Handle : Type} [Monad m] [Storage m Handle]

namespace CommandLine.ConvertOptions

def directory (options : ConvertOptions) : Path :=
  match options.outputDirectory with
  | some directory => Path.ofString directory
  | none =>
    match (Path.ofString options.input).parent? with
    | some parent => if parent.chars = [] then Path.ofString "." else parent
    | none => Path.ofString "."

def outputPath (options : ConvertOptions) : Except Failure Path :=
  match (Path.ofString options.input).fileStem? with
  | some stem => .ok (options.directory.join (stem ++ '.' :: options.format.extension.toList))
  | none => .error (.noFileName options.input)

def run (options : ConvertOptions) : Task m Path := do
  let scan ← Task.readScan (Path.ofString options.input)
  Task.report [.scanRead options.input scan.header scan.samples.length]
  let conversion := scan.convert options.settings
  Task.report conversion.log
  let mesh ← match conversion.mesh with
    | .ok mesh => pure mesh
    | .error e => throw (.unconvertible options.input e)
  let output ← options.outputPath
  let writer ← Writer.create options.format output
  let writer ← writer.write mesh
  let writer ← writer.finish
  writer.close
  Task.report [.scanConverted mesh.vertexCount output]
  return output

end CommandLine.ConvertOptions

namespace CommandLine.MockOptions

def run (options : MockOptions) : Task m Path := do
  let scan ← options.settings.generate
  scan.store (Path.ofString options.output)
  return Path.ofString options.output

end CommandLine.MockOptions

inductive Program
  | convert
  | mock
  deriving DecidableEq, Repr

namespace Program

def name : Program → String
  | convert => ConvertOptions.program
  | mock => MockOptions.program

def ofName? (name : String) : Option Program := [convert, mock].find? (·.name == name)

end Program

structure Exit where
  code : Nat
  output : String := ""
  errorLines : List String := []
  deriving DecidableEq, Repr

namespace Exit

/-- The log of a finished task without its debug lines, and at its end the failure. -/
def ofTask {α : Type} (elapsed : String) : Except Failure α × List Event → Exit
  | (outcome, log) =>
    let shown := (log.filter (·.level ≠ .debug)).map fun e => Text.display (e.line elapsed)
    match outcome with
    | .ok _ => { code := 0, errorLines := shown }
    | .error e =>
      { code := 1
        errorLines := shown ++ [Text.display (Level.error.label ++ " " ++ e.chain)] }

/-- Runs what a command line asks for, or says why it cannot be read. The exit awaits the text of
the time that the task took. -/
def ofRequest {α : Type} (usage : String) (run : α → Task m Path) :
    Except ArgumentError (Request α) → m (String → Exit)
  | .error e => return fun _ => { code := 2, output := usage, errorLines := [e.message] }
  | .ok .help => return fun _ => { code := 0, output := usage }
  | .ok (.run options) => do
    let done ← (run options).execute
    return fun elapsed => ofTask elapsed done

end Exit

def Program.perform (program : Program) (arguments : List String) : m (String → Exit) :=
  match program with
  | .convert =>
    Exit.ofRequest ConvertOptions.usage ConvertOptions.run (ConvertOptions.parse arguments)
  | .mock => Exit.ofRequest MockOptions.usage MockOptions.run (MockOptions.parse arguments)

end RotaryScan
