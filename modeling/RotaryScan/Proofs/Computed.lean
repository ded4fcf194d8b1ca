import RotaryScan.Winding

namespace RotaryScan

inductive Fault
  | overflow
  | negative
  | divisionByZero
  deriving DecidableEq, Repr

/-- A number computed in 64 bits, or the first thing that went wrong. -/
structure Computed where
  value : Except Fault Nat

namespace Computed

def of (n : Nat) : Computed := ⟨.ok n⟩

instance : Coe Nat Computed := ⟨of⟩

instance (n : Nat) : OfNat Computed n := ⟨of n⟩

def combine (fault : Fault) (defined : Nat → Nat → Prop) [∀ m n, Decidable (defined m n)]
    (operation : Nat → Nat → Nat) (a b : Computed) : Computed :=
  ⟨do
    let m ← a.value
    let n ← b.value
    if defined m n then return operation m n else throw fault⟩

instance : Add Computed := ⟨combine .overflow (fun m n => m + n < UInt64.size) (· + ·)⟩

instance : Mul Computed := ⟨combine .overflow (fun m n => m * n < UInt64.size) (· * ·)⟩

instance : Sub Computed := ⟨combine .negative (fun m n => n ≤ m) (· - ·)⟩

instance : Div Computed := ⟨combine .divisionByZero (fun _ n => n ≠ 0) (· / ·)⟩

instance : Mod Computed := ⟨combine .divisionByZero (fun _ n => n ≠ 0) (· % ·)⟩

def byte (a : Computed) : Except Fault UInt8 := do
  let n ← a.value
  if n < UInt8.size then return .ofNat n else throw .overflow

def word (a : Computed) : Except Fault UInt32 := do
  let n ← a.value
  if n < UInt32.size then return .ofNat n else throw .overflow

variable {m n : Nat}

@[simp] theorem value_of : (of n).value = .ok n := rfl

theorem ofNat_eq (n : Nat) : (OfNat.ofNat n : Computed) = of (OfNat.ofNat n) := rfl

theorem combine_of {fault : Fault} {defined : Nat → Nat → Prop} [∀ m n, Decidable (defined m n)]
    {operation : Nat → Nat → Nat} (h : defined m n) :
    combine fault defined operation m n = of (operation m n) :=
  congrArg Computed.mk (if_pos h)

theorem of_add (h : m + n < UInt64.size) : of m + of n = of (m + n) := combine_of h

theorem of_mul (h : m * n < UInt64.size) : of m * of n = of (m * n) := combine_of h

theorem of_sub (h : n ≤ m) : of m - of n = of (m - n) := combine_of h

theorem of_div (h : n ≠ 0) : of m / of n = of (m / n) := combine_of h

theorem of_mod (h : n ≠ 0) : of m % of n = of (m % n) := combine_of h

theorem byte_of (h : n < UInt8.size) : (of n).byte = .ok (.ofNat n) := if_pos h

theorem word_of (h : n < UInt32.size) : (of n).word = .ok (.ofNat n) := if_pos h

end Computed

section Steps

variable {α β : Type} {f : α → Except Fault β} {g : α → β}

@[simp] theorem ok_bind (a : α) : (.ok a >>= f) = f a := rfl

@[simp] theorem ok_map (a : α) : (g <$> .ok a : Except Fault β) = .ok (g a) := rfl

theorem mapM_eq_ok {l : List α} (h : ∀ a ∈ l, f a = .ok (g a)) : l.mapM f = .ok (l.map g) := by
  induction l with
  | nil => rfl
  | cons a l ih =>
    rw [List.mapM_cons, h a List.mem_cons_self, ih fun b hb => h b (List.mem_cons_of_mem a hb)]
    rfl

def Quad.traverse (f : α → Except Fault β) (q : Quad α) : Except Fault (Quad β) :=
  return ⟨← f q.first, ← f q.second, ← f q.third, ← f q.fourth⟩

theorem Quad.traverse_map {γ : Type} (h : γ → α) (q : Quad γ) :
    (q.map h).traverse f = q.traverse (f ∘ h) :=
  rfl

theorem Quad.traverse_eq_ok {q : Quad α} (h : ∀ a ∈ q.corners, f a = .ok (g a)) :
    q.traverse f = .ok (q.map g) := by
  simp only [corners, List.forall_mem_cons] at h
  obtain ⟨h₁, h₂, h₃, h₄, -⟩ := h
  rw [traverse, h₁, h₂, h₃, h₄]
  rfl

end Steps

end RotaryScan
