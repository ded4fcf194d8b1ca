namespace RotaryScan

structure Path where
  chars : List Char
  deriving DecidableEq, Repr

inductive Component
  | root
  | here
  | up
  | name (chars : List Char)
  deriving DecidableEq, Repr

namespace Path

def ofString (s : String) : Path := ⟨s.toList⟩

def text (p : Path) : String := String.ofList p.chars

def isSkipped (segment : List Char) : Bool := segment == [] || segment == ['.']

/-- A leading slash or a leading point, which are never skipped. -/
def lead (p : Path) : List Char :=
  match p.chars with
  | '/' :: _ => ['/']
  | ['.'] => ['.']
  | '.' :: '/' :: _ => ['.']
  | _ => []

def body (p : Path) : List (List Char) := (p.chars.drop p.lead.length).splitOn '/'

def dropSkippedEnd (segments : List (List Char)) : List (List Char) :=
  (segments.reverse.dropWhile isSkipped).reverse

def named (p : Path) : List (List Char) := dropSkippedEnd p.body

def componentOf (segment : List Char) : Component :=
  if segment = ['.', '.'] then .up else .name segment

def components (p : Path) : List Component :=
  (match p.lead with
    | ['/'] => [.root]
    | ['.'] => [.here]
    | _ => []) ++
  (p.body.filter fun segment => !isSkipped segment).map componentOf

/-- The text before the last component, without the separators at its end. A root and an empty path
have no parent. -/
def parent? (p : Path) : Option Path :=
  match p.named.getLast? with
  | some _ => some ⟨p.lead ++ ['/'].intercalate (dropSkippedEnd p.named.dropLast)⟩
  | none => if p.lead = ['.'] then some ⟨[]⟩ else none

def ancestorsWithin : Nat → Path → List Path
  | 0, p => [p]
  | count + 1, p =>
    match p.parent? with
    | some parent => p :: ancestorsWithin count parent
    | none => [p]

/-- A path, its parent, the parent of that, and so on. Every parent is shorter, so that no more
parents than characters can be there. -/
def ancestors (p : Path) : List Path := p.ancestorsWithin p.chars.length

def fileName? (p : Path) : Option (List Char) :=
  match p.named.getLast? with
  | some segment => if segment = ['.', '.'] then none else some segment
  | none => none

/-- A name without its extension: what stands before the last point, unless that is nothing. -/
def stemOf (name : List Char) : List Char :=
  let before := (name.reverse.dropWhile (· ≠ '.')).drop 1
  if before = [] then name else before.reverse

def fileStem? (p : Path) : Option (List Char) := p.fileName?.map stemOf

def join (directory : Path) (name : List Char) : Path :=
  match directory.chars.getLast? with
  | none => ⟨name⟩
  | some '/' => ⟨directory.chars ++ name⟩
  | some _ => ⟨directory.chars ++ '/' :: name⟩

end Path

end RotaryScan
