import RotaryScan.CommandLine.Basic
import RotaryScan.Conversion
import RotaryScan.Decimal.Reader
import RotaryScan.Format.Output

namespace RotaryScan.CommandLine

structure ConvertOptions where
  input : String
  format : OutputFormat := .stream .obj
  outputDirectory : Option String := none
  settings : Settings := {}
  quiet : Bool := false

namespace ConvertOptions

def specs : List OptionSpec :=
  [⟨'o', "output", "obj|ply|csv|pcd", "output type"⟩,
    ⟨'d', "out-dir", "DIR", "output directory (default: next to the input)"⟩,
    ⟨'n', "name", "NAME", "object name"⟩,
    ⟨'s', "scale", "F", "sample to distance factor (default 0.01)"⟩,
    ⟨'a', "step-angle", "DEG", "angle of one step in degrees (default 1.8)"⟩,
    ⟨'l', "legacy-winding", none, "use the legacy face index formula (flips odd lines)"⟩,
    ⟨'p', "partial", none, "accept scans that stopped before the last line"⟩,
    ⟨'b', "build", none, "attach a build order revealing faces over time"⟩,
    ⟨'q', "quiet", none, "hide the progress bar"⟩,
    helpSpec]

def outputFormat (found : Matches) : Except ArgumentError OutputFormat :=
  match found.value? "output" with
  | none => .ok (.stream .obj)
  | some name =>
    match OutputFormat.ofName? name with
    | some format => .ok format
    | none => .error (.unknownFormat name)

def readFinite? (s : String) : Option Float := (Decimal.read? s).filter Float.isFinite

/-- An object name is a single token of a line. -/
def isName (name : String) : Bool :=
  name ≠ "" && name.toList.all fun c => !(Text.isControl c || Text.isBlank c)

def objectName (found : Matches) : Except ArgumentError (Option String) :=
  match found.value? "name" with
  | none => .ok none
  | some name => if isName name then .ok (some name) else .error (.invalidName name)

def ofMatches (found : Matches) : Except ArgumentError ConvertOptions := do
  let some input := found.free.head? | throw .missingInput
  let defaults : Settings := {}
  let format ← outputFormat found
  let scale ← valueOr found "scale" readFinite? defaults.scale
  let stepAngle ← valueOr found "step-angle" readFinite? defaults.stepAngle
  let objectName ← objectName found
  return {
    input, format
    outputDirectory := found.value? "out-dir"
    settings := {
      scale, stepAngle, objectName
      winding := if found.has "legacy-winding" then .legacy else .consistent
      allowPartial := found.has "partial"
      build := found.has "build" }
    quiet := found.has "quiet" }

def parse : List String → Except ArgumentError (Request ConvertOptions) :=
  parseWith specs ofMatches

def program : String := "rscan-parser-rs"

def usage : String := CommandLine.usage program "input" specs

end ConvertOptions

end RotaryScan.CommandLine
