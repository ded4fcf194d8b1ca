import RotaryScan.Grid

namespace RotaryScan

/-- The corners of a four-sided face, in the order they are walked. -/
structure Quad (α : Type) where
  first : α
  second : α
  third : α
  fourth : α
  deriving DecidableEq, Repr

namespace Quad

variable {α β : Type}

def map (f : α → β) (q : Quad α) : Quad β := ⟨f q.first, f q.second, f q.third, f q.fourth⟩

def corners (q : Quad α) : List α := [q.first, q.second, q.third, q.fourth]

end Quad

/-- In which order the corners of a face are walked. The legacy order mirrors only the upper line,
so that its faces flip on odd lines. -/
inductive Winding
  | consistent
  | legacy
  deriving DecidableEq, Repr

namespace Grid

def quad (g : Grid) (line point : Nat) : Winding → Quad Nat
  | .consistent =>
    ⟨g.vertexIndex line point, g.vertexIndex line (point + 1),
      g.vertexIndex (line + 1) (point + 1), g.vertexIndex (line + 1) point⟩
  | .legacy =>
    ⟨line * g.points + point, line * g.points + point + 1,
      (line + 1) * g.points + g.points - point - 2, (line + 1) * g.points + g.points - point - 1⟩

def faces (g : Grid) (completeLines : Nat) (winding : Winding) : List (Quad UInt32) :=
  let lines := min completeLines g.lines
  if lines < 2 ∨ g.points < 2 then []
  else (List.range (lines - 1)).flatMap fun line =>
    (List.range (g.points - 1)).map fun point => (g.quad line point winding).map UInt32.ofNat

end Grid

def flippedLines (completeLines : Nat) : List Nat :=
  (List.range (completeLines - 1)).filter (· % 2 = 1)

end RotaryScan
