import RotaryScan.Format.Lines
import RotaryScan.Text.Basic

namespace RotaryScan

namespace Text

def IsGraphic (c : Char) : Prop := 0x20 < c.toNat ∧ c.toNat < 0x7f

theorem isBlank_of_isGraphic {c : Char} (h : IsGraphic c) : isBlank c = false := by
  obtain ⟨hl, hr⟩ := h
  simp [isBlank, inRanges]
  omega

theorem isGraphic_of_isDigit {c : Char} (h : c.isDigit) : IsGraphic c := by
  simp only [Char.isDigit, ge_iff_le, Bool.and_eq_true, decide_eq_true_eq, UInt32.le_iff_toNat_le] at h
  change 48 ≤ c.toNat ∧ c.toNat ≤ 57 at h
  unfold IsGraphic
  omega

end Text

namespace Decimal

/-- The characters that the text of a number can have. -/
def IsNumeric (c : Char) : Prop := c.isDigit ∨ c ∈ ['.', '-', 'N', 'a', 'i', 'n', 'f']

instance (c : Char) : Decidable (IsNumeric c) := inferInstanceAs (Decidable (_ ∨ _))

theorem isGraphic_of_isNumeric {c : Char} (h : IsNumeric c) : Text.IsGraphic c := by
  have hothers : ∀ c ∈ ['.', '-', 'N', 'a', 'i', 'n', 'f'], Text.IsGraphic c := by simp [Text.IsGraphic]
  exact h.elim Text.isGraphic_of_isDigit (hothers c)

theorem isNumeric_of_mem_toDigits {n : Nat} {c : Char} (h : c ∈ Nat.toDigits 10 n) : IsNumeric c :=
  .inl (Nat.isDigit_of_mem_toDigits (by decide) (by decide) h)

theorem isNumeric_of_mem_positional {n : Numeral} {c : Char} (h : c ∈ n.positional) :
    IsNumeric c := by
  have hzeros (count : Nat) (hc : c ∈ List.replicate count '0') : IsNumeric c := by
    rw [List.eq_of_mem_replicate hc]
    decide
  unfold Numeral.positional at h
  dsimp only at h
  split at h
  · rw [List.mem_append] at h
    exact h.elim isNumeric_of_mem_toDigits (hzeros _)
  split at h
  · rw [List.mem_append, List.mem_cons] at h
    obtain h | rfl | h := h
    · exact isNumeric_of_mem_toDigits (List.mem_of_mem_take h)
    · decide
    · exact isNumeric_of_mem_toDigits (List.mem_of_mem_drop h)
  · rw [List.mem_cons, List.mem_cons, List.mem_append] at h
    obtain rfl | rfl | h | h := h
    · decide
    · decide
    · exact hzeros _ h
    · exact isNumeric_of_mem_toDigits h

theorem positional_ne_nil (n : Numeral) : n.positional ≠ [] := by
  unfold Numeral.positional
  dsimp only
  split
  · simp
  split <;> simp

theorem isNumeric_of_mem_signed {negative : Bool} {digits : List Char} {c : Char}
    (hd : ∀ d ∈ digits, IsNumeric d) (h : c ∈ signed negative digits) : IsNumeric c := by
  cases negative with
  | false => exact hd c h
  | true =>
    obtain rfl | h := List.mem_cons.mp h
    · decide
    · exact hd c h

theorem signed_ne_nil {digits : List Char} (negative : Bool) (h : digits ≠ []) :
    signed negative digits ≠ [] := by
  cases negative with
  | false => exact h
  | true => exact List.cons_ne_nil _ _

theorem isNumeric_of_mem_digits {d : Dyadic} {c : Char} (h : c ∈ d.digits) : IsNumeric c := by
  unfold Dyadic.digits at h
  split at h
  · obtain rfl := List.mem_singleton.mp h
    decide
  · exact isNumeric_of_mem_positional h

theorem digits_ne_nil (d : Dyadic) : d.digits ≠ [] := by
  unfold Dyadic.digits
  split
  · exact List.cons_ne_nil _ _
  · exact positional_ne_nil _

theorem isNumeric_of_mem_chars {x : Float} {c : Char} (h : c ∈ chars x) : IsNumeric c := by
  unfold chars at h
  split at h
  · revert c
    simp [IsNumeric]
  · exact isNumeric_of_mem_signed (by simp [IsNumeric]) h
  · exact isNumeric_of_mem_signed (fun _ => isNumeric_of_mem_digits) h

theorem chars_ne_nil (x : Float) : chars x ≠ [] := by
  unfold chars
  split
  · exact List.cons_ne_nil _ _
  · exact signed_ne_nil _ (List.cons_ne_nil _ _)
  · exact signed_ne_nil _ (digits_ne_nil _)

end Decimal

namespace Format

/-- A text without white space, and not an empty one. -/
def IsToken (s : String) : Prop := s ≠ "" ∧ ∀ c ∈ s.toList, Text.isBlank c = false

instance (s : String) : Decidable (IsToken s) :=
  @instDecidableAnd _ _ inferInstance (List.decidableBAll _ _)

def IsNumeral (s : String) : Prop := s ≠ "" ∧ ∀ c ∈ s.toList, Decimal.IsNumeric c

theorem isToken_of_isNumeral {s : String} (h : IsNumeral s) : IsToken s :=
  ⟨h.1, fun c hc => Text.isBlank_of_isGraphic (Decimal.isGraphic_of_isNumeric (h.2 c hc))⟩

theorem comma_not_mem_of_isNumeral {s : String} (h : IsNumeral s) : ',' ∉ s.toList := by
  intro hc
  exact absurd (h.2 ',' hc) (by decide)

theorem isNumeral_repr (n : Nat) : IsNumeral n.repr := by
  constructor
  · simp
  · intro c hc
    rw [Nat.toList_repr] at hc
    exact Decimal.isNumeric_of_mem_toDigits hc

theorem isNumeral_text (x : Float) : IsNumeral (Decimal.text x) := by
  constructor
  · simpa [Decimal.text] using Decimal.chars_ne_nil x
  · intro c hc
    rw [Decimal.text, String.toList_ofList] at hc
    exact Decimal.isNumeric_of_mem_chars hc

theorem isToken_repr (n : Nat) : IsToken n.repr := isToken_of_isNumeral (isNumeral_repr n)

theorem isToken_text (x : Float) : IsToken (Decimal.text x) := isToken_of_isNumeral (isNumeral_text x)

theorem isToken_of_mem_coordinates {p : Position} {s : String} (h : s ∈ coordinates p) :
    IsToken s := by
  simp only [coordinates, List.mem_cons, List.not_mem_nil, or_false] at h
  obtain rfl | rfl | rfl := h <;> exact isToken_text _

end Format

end RotaryScan
