import RotaryScan.Program

namespace RotaryScan

/-- The cause that the operating system gives; some calls give the number of it negated. -/
def fileErrorOfCode (code : UInt32) (details : String) : FileError :=
  let code := if code < 0x80000000 then code else -code
  match code with
  | 2 => .notFound
  | 17 => .exists
  | 20 => .notDirectory
  | 21 => .isDirectory
  | 36 => .nameTooLong
  | _ => .other s!"{details} (os error {code})"

def fileError : IO.Error → FileError
  | .alreadyExists _ code details | .resourceExhausted _ code details
  | .invalidArgument _ code details | .permissionDenied _ code details
  | .inappropriateType _ code details | .noSuchThing _ code details
  | .noFileOrDirectory _ code details | .interrupted _ code details
  | .otherError code details | .resourceBusy code details | .resourceVanished code details
  | .unsupportedOperation code details | .hardwareFault code details
  | .unsatisfiedConstraints code details | .illegalOperation code details
  | .protocolError code details | .timeExpired code details => fileErrorOfCode code details
  | e => .other e.toString

def guarded {α : Type} (action : IO α) : IO (Except FileError α) := do
  try return .ok (← action) catch e => return .error (fileError e)

instance : Storage IO IO.FS.Handle where
  read p := guarded do return (← IO.FS.readBinFile p.text).data.toList
  truncate p := guarded (IO.FS.Handle.mk p.text .write)
  createNew p := guarded (IO.FS.Handle.mk p.text .writeNew)
  append handle bytes := handle.write bytes.toByteArray
  makeDirectory p := guarded (IO.FS.createDir p.text)
  isDirectory p := do
    match ← guarded (IO.FS.realPath p.text) with
    | .ok real => real.isDir
    | .error _ => return false

def runProgram (program : Program) (arguments : List String) : IO UInt32 := do
  let start ← IO.monoNanosNow
  let exit ← program.perform arguments
  let exit := exit (Text.elapsed ((← IO.monoNanosNow) - start))
  IO.print exit.output
  exit.errorLines.forM IO.eprintln
  return UInt32.ofNat exit.code

end RotaryScan

open RotaryScan in
def main (arguments : List String) : IO UInt32 := do
  let names := [Program.convert.name, Program.mock.name]
  match arguments with
  | name :: rest =>
    match Program.ofName? name with
    | some program => runProgram program rest
    | none => IO.eprintln s!"unknown program: {name}"; return 2
  | [] => IO.eprintln ("one of these programs comes first: " ++ ", ".intercalate names); return 2
