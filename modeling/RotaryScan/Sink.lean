namespace RotaryScan

/-- Takes bytes until its room is used up; `none` is a sink without a limit. -/
structure Sink where
  room : Option Nat
  taken : Array UInt8 := #[]

namespace Sink

def fullMessage : String := "failed to write whole buffer"

def fits (s : Sink) (piece : List UInt8) : Bool :=
  match s.room with
  | none => true
  | some room => piece.length ≤ room

def accept (s : Sink) (piece : List UInt8) : Sink :=
  match s.room with
  | none => { s with taken := s.taken ++ piece }
  | some room => ⟨some (room - piece.length), s.taken ++ piece.take room⟩

/-- Takes the pieces in turn, up to and with the first that does not fit; the flag tells whether
all of them did. -/
def acceptAll : Sink → List (List UInt8) → Sink × Bool
  | s, [] => (s, true)
  | s, piece :: rest =>
    if s.fits piece then (s.accept piece).acceptAll rest else (s.accept piece, false)

end Sink

structure Buffer where
  passed : Array UInt8 := #[]
  pending : Array UInt8 := #[]
  deriving DecidableEq, Repr

namespace Buffer

/-- A piece that does not fit pushes out what is kept, and one that never fits is passed on. -/
def pushWithin (capacity : Nat) (b : Buffer) (piece : List UInt8) : Buffer :=
  let emptied : Buffer :=
    if capacity < b.pending.size + piece.length then ⟨b.passed ++ b.pending, #[]⟩ else b
  if capacity ≤ piece.length then { emptied with passed := emptied.passed ++ piece }
  else { emptied with pending := emptied.pending ++ piece }

def contents (b : Buffer) : List UInt8 := b.passed.toList ++ b.pending.toList

theorem contents_pushWithin (capacity : Nat) (b : Buffer) (piece : List UInt8) :
    (b.pushWithin capacity piece).contents = b.contents ++ piece := by
  have hp : capacity ≤ piece.length → ¬ capacity < b.pending.size + piece.length →
      b.pending.toList = [] := by
    intro h₁ h₂
    exact List.eq_nil_of_length_eq_zero (by rw [Array.length_toList]; omega)
  unfold pushWithin contents
  split <;> split <;> simp_all

end Buffer

end RotaryScan
