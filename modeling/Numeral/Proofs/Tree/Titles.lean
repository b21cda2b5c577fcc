import Mathlib.Data.List.Basic
import Numeral.Proofs.Text.Printed
import Numeral.Tree

/-!
The words of an outline. Titles hold neither a digit nor a newline and do not start with a blank,
and no two tags that a tree can have share one; so a line of an outline can be read back.
-/

set_option autoImplicit false

namespace Numeral

def Wordy (s : String) : Prop :=
  ∀ c ∈ s.toList, c.isDigit = false ∧ c ≠ Text.newline

-- what is written out is looked at as the characters that it is written with
theorem wordy_ofList {cs : List Char}
    (words : (cs.all fun c => !c.isDigit && c != Text.newline) = true) :
    Wordy (String.ofList cs) := by
  simpa [Wordy] using words

theorem Wordy.append {s t : String} (first : Wordy s) (second : Wordy t) : Wordy (s ++ t) := by
  unfold Wordy
  rw [String.toList_append]
  exact List.forall_mem_append.2 ⟨first, second⟩

theorem Wordy.oneLine {s : String} (wordy : Wordy s) : OneLine s :=
  fun member => (wordy _ member).2 rfl

def Unindented (s : String) : Prop :=
  ∃ c cs, s.toList = c :: cs ∧ c ≠ ' '

theorem unindented_ofList {c : Char} {cs : List Char} (visible : c ≠ ' ') :
    Unindented (String.ofList (c :: cs)) :=
  ⟨c, cs, String.toList_ofList, visible⟩

theorem Unindented.append {s t : String} (unindented : Unindented s) : Unindented (s ++ t) := by
  obtain ⟨c, cs, same, visible⟩ := unindented
  exact ⟨c, cs ++ t.toList, by rw [String.toList_append, same, List.cons_append], visible⟩

theorem Radix.print_wordy (radix : Radix) : Wordy radix.print := by
  cases radix <;> exact wordy_ofList (by decide)

theorem Radix.name_wordy (radix : Radix) : Wordy radix.name := by
  cases radix <;> exact wordy_ofList (by decide)

theorem Sign.print_wordy (sign : Sign) : Wordy sign.print := by
  cases sign <;> exact wordy_ofList (by decide)

theorem Form.name_wordy (form : Form) : Wordy form.name := by
  cases form <;> exact wordy_ofList (by decide)

theorem Range.print_oneLine (range : Range) : OneLine range.print :=
  ((oneLine_number _).append (oneLine_ofList (by decide))).append (oneLine_number _)

namespace Kind

theorem name_wordy (kind : Kind) : Wordy kind.name := by
  unfold name
  split
  next => exact wordy_ofList (by decide)
  next form _ =>
    have imaginary : Wordy "imaginary " := wordy_ofList (by decide)
    split
    next => exact imaginary.append form.name_wordy
    next => exact form.name_wordy

theorem print_wordy (kind : Kind) : Wordy kind.print := by
  have fields (radix : Radix) (imaginary : Bool) :
      Wordy (" \x7b radix: " ++ radix.print ++ ", imaginary: " ++ toString imaginary ++ " \x7d") := by
    have opened : Wordy " \x7b radix: " := wordy_ofList (by decide)
    have between : Wordy ", imaginary: " := wordy_ofList (by decide)
    have flag : Wordy (toString imaginary) := by
      cases imaginary <;> exact wordy_ofList (by decide)
    have closed : Wordy " \x7d" := wordy_ofList (by decide)
    exact (((opened.append radix.print_wordy).append between).append flag).append closed
  cases kind with
  | int radix imaginary =>
    have head : Wordy "Int" := wordy_ofList (by decide)
    exact head.append (fields radix imaginary)
  | float radix imaginary =>
    have head : Wordy "Float" := wordy_ofList (by decide)
    exact head.append (fields radix imaginary)
  | invalid => exact wordy_ofList (by decide)

end Kind

namespace Tag

theorem enclosed_wordy {head inner : String} (first : Wordy head) (middle : Wordy inner) :
    Wordy (head ++ inner ++ ")") :=
  (first.append middle).append (wordy_ofList (by decide))

theorem print_wordy (tag : Tag) : Wordy tag.print := by
  cases tag with
  | literal kind => exact enclosed_wordy (wordy_ofList (by decide)) kind.print_wordy
  | radixPrefix radix | digits radix | point radix | exponentMarker radix | exponentDigits radix =>
    exact enclosed_wordy (wordy_ofList (by decide)) radix.print_wordy
  | exponentSign sign radix =>
    have head : Wordy "ExponentSign(" := wordy_ofList (by decide)
    have comma : Wordy ", " := wordy_ofList (by decide)
    exact enclosed_wordy ((head.append sign.print_wordy).append comma) radix.print_wordy
  | separator | imaginary => exact wordy_ofList (by decide)

theorem title_wordy (tag : Tag) : Wordy tag.title := by
  cases tag with
  | literal kind => exact enclosed_wordy (wordy_ofList (by decide)) kind.name_wordy
  | _ => exact print_wordy _

theorem title_unindented (tag : Tag) : Unindented tag.title := by
  cases tag with
  | literal kind => exact (unindented_ofList (by decide)).append.append
  | radixPrefix radix | digits radix | point radix | exponentMarker radix | exponentDigits radix =>
    exact (unindented_ofList (by decide)).append.append
  | exponentSign sign radix => exact (unindented_ofList (by decide)).append.append.append.append
  | separator | imaginary => exact unindented_ofList (by decide)

theorem scope_wordy {tag : Tag} {scope : String} (here : tag.scope? = some scope) :
    Wordy scope := by
  unfold scope? at here
  split at here
  all_goals cases here
  case h_4 radix _ =>
    have head : Wordy "keyword.other.unit." := wordy_ofList (by decide)
    exact head.append radix.name_wordy
  case h_5 radix =>
    have head : Wordy "constant.numeric." := wordy_ofList (by decide)
    exact head.append radix.name_wordy
  all_goals exact wordy_ofList (by decide)

end Tag

def Kind.possible : List Kind :=
  .invalid :: Form.precedence.flatMap fun form => [.ofForm form false, .ofForm form true]

theorem Kind.ofForm_possible (form : Form) (imaginary : Bool) : ofForm form imaginary ∈ possible := by
  cases form <;> cases imaginary <;> decide

namespace Tag

def ofRadix (radix : Radix) : List Tag :=
  [.radixPrefix radix, .digits radix, .point radix, .exponentMarker radix,
    .exponentSign .pos radix, .exponentSign .neg radix, .exponentDigits radix]

def possible : List Tag :=
  Kind.possible.map .literal ++ [Radix.binary, .octal, .decimal, .hexadecimal].flatMap ofRadix ++
    [.separator, .imaginary]

theorem literal_possible {kind : Kind} (known : kind ∈ Kind.possible) : .literal kind ∈ possible :=
  List.mem_append_left _ (List.mem_append_left _ (List.mem_map_of_mem known))

theorem part_possible {tag : Tag} (part : ∀ kind, tag ≠ .literal kind) : tag ∈ possible := by
  cases tag with
  | literal kind => exact absurd rfl (part kind)
  | radixPrefix radix | digits radix | point radix | exponentMarker radix | exponentDigits radix =>
    cases radix <;> decide
  | exponentSign sign radix => cases sign <;> cases radix <;> decide
  | separator | imaginary => decide

theorem title_inj : ∀ tag ∈ possible, ∀ other ∈ possible, tag.title = other.title →
    tag = other := by
  decide +kernel

end Tag

end Numeral
