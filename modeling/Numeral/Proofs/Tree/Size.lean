import Numeral.Proofs.Grammar.DigitGroup
import Numeral.Proofs.Tree.Nodes

set_option autoImplicit false

namespace Numeral

open Grammar

theorem length_separatorEntries_le (start : Nat) (text : Text) :
    (separatorEntries start text).length ≤ Text.byteLength text := by
  induction text generalizing start with
  | nil => rfl
  | cons c cs ih =>
    have positive := c.utf8Size_pos
    have later := ih (start + c.utf8Size)
    rw [separatorEntries, Text.byteLength]
    split
    next => simp only [List.length_cons]; omega
    next => omega

namespace Grammar

def Piece.Compact (piece : Piece) : Prop :=
  ∀ start, (piece.entries start).length ≤ Text.byteLength piece.chars

theorem compact_flat {tag : Tag} {chars : Text} (flat : tag.isDigitGroup = false)
    (nonempty : chars ≠ []) : Piece.Compact ⟨tag, chars⟩ := by
  intro start
  have positive := Text.byteLength_pos nonempty
  simp only [Piece.entries, flat, Bool.false_eq_true, if_false, List.length_cons, List.length_nil]
  exact positive

-- The first character of a group is a digit, so its separators leave a byte for the group.
theorem compact_group {radix : Radix} {tag : Tag} {word : Text} (member : word ∈ digitGroup radix) :
    Piece.Compact ⟨tag, word⟩ := by
  intro start
  obtain ⟨d, isDigit, later, -, rfl⟩ := mem_digitGroup.1 member
  have positive := d.utf8Size_pos
  have other : d ≠ separator := by
    rintro rfl
    have digit := (Radix.isDigit_iff radix _).2 isDigit
    exact absurd (digit.symm.trans (underscore_not_digit radix)) (by decide)
  have inner := length_separatorEntries_le (start + d.utf8Size) later
  simp only [Piece.entries, separatorEntries, other, if_false, Text.byteLength]
  split
  next => simp only [List.length_cons]; omega
  next => simp only [List.length_cons, List.length_nil]; omega

theorem Step.Takes.compact {form : Form} {step : Step} {pieces : List Piece}
    (taken : step.Takes form pieces) : ∀ piece ∈ pieces, piece.Compact := by
  induction taken with
  | unprefixed | noSeparator | noDigits | noExponent => simp
  | letteredPrefix | barePrefix | separator | point =>
    exact List.forall_mem_singleton.2 (compact_flat rfl (by simp))
  | digits group => exact List.forall_mem_singleton.2 (compact_group group)
  | integer member =>
    exact List.forall_mem_singleton.2 (compact_group (mem_decimalInteger.1 member).1)
  | maybeDigits _ ih | maybeExponent _ ih => exact ih
  | unsignedExponent known group =>
    simpa using ⟨compact_flat rfl (by simp), compact_group group⟩
  | signedExponent sign known group =>
    simpa using ⟨compact_flat rfl (by simp), compact_flat rfl (by simp), compact_group group⟩

theorem TakesAll.compact {form : Form} {steps : List Step} {pieces : List Piece}
    (taken : TakesAll form steps pieces) : ∀ piece ∈ pieces, piece.Compact := by
  induction taken with
  | nil => simp
  | cons first _ ih => exact List.forall_mem_append.2 ⟨first.compact, ih⟩

theorem Production.Derives.compact {production : Production} {imaginary : Bool}
    {pieces : List Piece} (derived : production.Derives imaginary pieces) :
    ∀ piece ∈ pieces, piece.Compact := by
  obtain ⟨taken, takesAll, rfl⟩ := derived
  refine List.forall_mem_append.2 ⟨takesAll.compact, ?_⟩
  cases imaginary with
  | false => simp [unit]
  | true => exact List.forall_mem_singleton.2 (compact_flat rfl (by simp))

theorem length_allEntries_le {pieces : List Piece} (compact : ∀ piece ∈ pieces, piece.Compact)
    (start : Nat) :
    (Piece.allEntries start pieces).length ≤ Text.byteLength (written pieces) := by
  induction pieces generalizing start with
  | nil => rfl
  | cons piece rest ih =>
    obtain ⟨first, later⟩ := List.forall_mem_cons.1 compact
    have one := first start
    have more := ih later (start + Text.byteLength piece.chars)
    simp only [Piece.allEntries, List.length_append, written_cons, Text.byteLength_append]
    omega

end Grammar

end Numeral
