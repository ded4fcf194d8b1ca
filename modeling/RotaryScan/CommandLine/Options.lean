namespace RotaryScan.CommandLine

/-- An option that a program knows. With a `hint` it takes a value, without one it is a flag. -/
structure OptionSpec where
  short : Option Char
  long : String
  hint : Option String := none
  description : String
  deriving DecidableEq, Repr

inductive OptionName
  | short (c : Char)
  | long (name : String)
  deriving DecidableEq, Repr

inductive OptionError
  | unrecognized (name : OptionName)
  | missingValue (name : OptionName)
  | unexpectedValue (name : OptionName)
  | repeated (long : String)
  deriving DecidableEq, Repr

def OptionName.text : OptionName → String
  | short c => String.singleton c
  | long name => name

def OptionError.message : OptionError → String
  | unrecognized name => s!"Unrecognized option: '{name.text}'"
  | missingValue name => s!"Argument to option '{name.text}' missing"
  | unexpectedValue name => s!"Option '{name.text}' does not take an argument"
  | repeated long => s!"Option '{long}' given more than once"

namespace OptionSpec

def takesValue (s : OptionSpec) : Bool := s.hint.isSome

def hasName (s : OptionSpec) : OptionName → Bool
  | .short c => s.short == some c
  | .long name => s.long == name

end OptionSpec

structure Setting where
  long : String
  value : Option String := none
  deriving DecidableEq, Repr

structure Matches where
  settings : List Setting := []
  free : List String := []
  deriving DecidableEq, Repr

namespace Matches

def value? (m : Matches) (long : String) : Option String :=
  (m.settings.find? (·.long == long)).bind Setting.value

def has (m : Matches) (long : String) : Bool := m.settings.any (·.long == long)

def count (m : Matches) (long : String) : Nat := m.settings.countP (·.long == long)

def addFree (argument : String) (m : Matches) : Matches := { m with free := argument :: m.free }

def addSettings (settings : List Setting) (m : Matches) : Matches :=
  { m with settings := settings ++ m.settings }

end Matches

/-- What a single argument is. An option may still wait for its value, which is then the next
argument whatever it looks like. -/
inductive Argument
  | free
  | endOfOptions
  | options (settings : List Setting) (waiting : Option (OptionSpec × OptionName))
  deriving DecidableEq, Repr

variable (specs : List OptionSpec)

def find? (name : OptionName) : Except OptionError OptionSpec :=
  match specs.find? (·.hasName name) with
  | some spec => .ok spec
  | none => .error (.unrecognized name)

/-- A name of a single byte stands for the short option of that letter. -/
def nameOfLong (name : List Char) : OptionName :=
  match name with
  | [c] => if c.toNat < 128 then .short c else .long (String.ofList name)
  | _ => .long (String.ofList name)

def longOption (body : List Char) : Except OptionError Argument := do
  let name := nameOfLong (body.takeWhile (· ≠ '='))
  let spec ← find? specs name
  match body.dropWhile (· ≠ '=') with
  | [] =>
    if spec.takesValue then return .options [] (some (spec, name))
    else return .options [⟨spec.long, none⟩] none
  | _ :: value =>
    if spec.takesValue then return .options [⟨spec.long, some (String.ofList value)⟩] none
    else throw (.unexpectedValue name)

/-- What follows a single dash: flags, up to an option that takes the rest as its value. -/
def shortOptions : List Char → Except OptionError (List Setting × Option (OptionSpec × OptionName))
  | [] => .ok ([], none)
  | c :: rest => do
    let spec ← find? specs (.short c)
    if spec.takesValue then
      if rest = [] then return ([], some (spec, .short c))
      else return ([⟨spec.long, some (String.ofList rest)⟩], none)
    else
      let (settings, waiting) ← shortOptions rest
      return (⟨spec.long, none⟩ :: settings, waiting)

def classify (argument : String) : Except OptionError Argument :=
  match argument.toList with
  | ['-', '-'] => .ok .endOfOptions
  | '-' :: '-' :: body => longOption specs body
  | '-' :: c :: rest => do
    let (settings, waiting) ← shortOptions specs (c :: rest)
    return .options settings waiting
  | _ => .ok .free

def walk : List String → Except OptionError Matches
  | [] => .ok {}
  | argument :: rest => do
    match ← classify specs argument with
    | .free => return (← walk rest).addFree argument
    | .endOfOptions => return { free := rest }
    | .options settings none => return (← walk rest).addSettings settings
    | .options settings (some (spec, name)) =>
      match rest with
      | [] => throw (.missingValue name)
      | value :: rest => return (← walk rest).addSettings (settings ++ [⟨spec.long, some value⟩])

def matchOptions (arguments : List String) : Except OptionError Matches := do
  let found ← walk specs arguments
  match specs.find? fun spec => 1 < found.count spec.long with
  | some spec => throw (.repeated spec.long)
  | none => return found

end RotaryScan.CommandLine
