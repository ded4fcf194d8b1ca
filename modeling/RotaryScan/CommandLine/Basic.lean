import RotaryScan.CommandLine.Options
import RotaryScan.Text.Basic

namespace RotaryScan.CommandLine

inductive ArgumentError
  | misused (cause : OptionError)
  | missingInput
  | missingOutput
  | unknownFormat (name : String)
  | invalidValue (option value : String)
  | invalidName (name : String)
  deriving DecidableEq, Repr

def ArgumentError.message : ArgumentError → String
  | misused cause => cause.message
  | missingInput => "missing input file"
  | missingOutput => "missing output file"
  | unknownFormat name => s!"unknown output type: {name}"
  | invalidValue option value => s!"invalid {option}: {value}"
  | invalidName name => "invalid object name: " ++ Text.quote name

inductive Request (α : Type)
  | help
  | run (options : α)

/-- Reads a command line: help goes before all that could be wrong with the values found. -/
def parseWith {α : Type} (specs : List OptionSpec) (ofMatches : Matches → Except ArgumentError α)
    (arguments : List String) : Except ArgumentError (Request α) := do
  let found ← (matchOptions specs arguments).mapError .misused
  if found.has "help" then return .help
  return .run (← ofMatches found)

def valueOr {α : Type} (found : Matches) (option : String) (read? : String → Option α)
    (otherwise : α) : Except ArgumentError α :=
  match found.value? option with
  | none => .ok otherwise
  | some value =>
    match read? value with
    | some a => .ok a
    | none => .error (.invalidValue option value)

def helpSpec : OptionSpec := ⟨'h', "help", none, "print this help menu"⟩

def descriptionColumn : Nat := 24

def spaces (count : Nat) : String := String.ofList (List.replicate count ' ')

namespace OptionSpec

def names (s : OptionSpec) : String :=
  (match s.short with
    | some c => "-" ++ String.singleton c ++ ", "
    | none => spaces 4) ++
  "--" ++ s.long ++ " " ++ s.hint.getD ""

/-- A row of the usage text. Where the names leave no room the description has a line of its own. -/
def usageRow (s : OptionSpec) : String :=
  let left := spaces 4 ++ s.names
  if left.length < descriptionColumn then
    left ++ spaces (descriptionColumn - left.length) ++ s.description
  else left ++ "\n" ++ spaces descriptionColumn ++ s.description

end OptionSpec

def usage (program operand : String) (specs : List OptionSpec) : String :=
  s!"Usage: {program} [options] <{operand}>\n\nOptions:\n" ++
    String.join (specs.map fun spec => spec.usageRow ++ "\n")

end RotaryScan.CommandLine
