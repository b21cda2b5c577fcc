import Numeral.Proofs.Search.Forms

set_option autoImplicit false

namespace Numeral

open Grammar

theorem result_flatMap (forms : List Form) (cut : Text.Excerpt) :
    (parseExcerpt (forms.flatMap productionsOf) cut).result =
      forms.findSome? fun form => (parseExcerpt (productionsOf form) cut).result := by
  induction forms with
  | nil => rfl
  | cons form rest ih =>
    rw [List.flatMap_cons, List.findSome?_cons, parseExcerpt, parse, Search.firstOf_append,
      Trial.result_orElse]
    change ((parseExcerpt (productionsOf form) cut).result.or
      (parseExcerpt (rest.flatMap productionsOf) cut).result) = _
    rw [ih]
    cases (parseExcerpt (productionsOf form) cut).result <;> rfl

namespace Search

section

variable {cut : Text.Excerpt} (fits : cut.stop ≤ Range.largestBound)

include fits

theorem classifyAs_eq_none {form : Form}
    (failed : (parseExcerpt (productionsOf form) cut).result = none) :
    classifyAs cut.whole cut.range form = .ok none := by
  rw [classifyAs_eq cut fits, failed]
  rfl

theorem outcome_first_form :
    (∃ front form back, Form.precedence = front ++ form :: back ∧
        (∀ earlier ∈ front, classifyAs cut.whole cut.range earlier = .ok none) ∧
        classifyAs cut.whole cut.range form = .ok (some cut.outcome.1.entries)) ∨
      ((∀ form ∈ Form.precedence, classifyAs cut.whole cut.range form = .ok none) ∧
        cut.outcome.1.entries = [⟨.literal .invalid, cut.range, 0⟩]) := by
  have whole : cut.outcome.1 = treeOf cut.range (parseExcerpt productions cut).result :=
    outcome_fst cut.range (parseExcerpt productions cut)
  have forms : (parseExcerpt productions cut).result =
      Form.precedence.findSome? fun form => (parseExcerpt (productionsOf form) cut).result :=
    result_flatMap Form.precedence cut
  rw [whole]
  cases found : (parseExcerpt productions cut).result with
  | some reading =>
    rw [found] at forms
    obtain ⟨front, form, back, order, reads, earlier⟩ := List.findSome?_eq_some_iff.1 forms.symm
    refine .inl ⟨front, form, back, order, ?_, ?_⟩
    next => exact fun other member => classifyAs_eq_none fits (earlier other member)
    next =>
      rw [classifyAs_eq cut fits, reads]
      rfl
  | none =>
    rw [found] at forms
    have failed := List.findSome?_eq_none_iff.1 forms.symm
    exact .inr ⟨fun form member => classifyAs_eq_none fits (failed form member), rfl⟩

end

/-- Nothing that a failed rule, alternative or form wrote is left: the tree is that of the first
form that reads the range alone, and an invalid one is a bare root. -/
theorem classify_first_form (cut : Text.Excerpt) (fits : cut.stop ≤ Range.largestBound) :
    ∃ tree obstacle?, Numeral.classify cut.whole cut.start cut.stop = .ok tree ∧
      classify cut.whole cut.range = .ok (tree.entries, obstacle?) ∧
      (∀ form, ∃ alone, Numeral.classifyAs cut.whole cut.start cut.stop form = .ok alone ∧
        classifyAs cut.whole cut.range form = .ok (alone.map Tree.entries)) ∧
      ((∃ front form back, Form.precedence = front ++ form :: back ∧
          (∀ earlier ∈ front, classifyAs cut.whole cut.range earlier = .ok none) ∧
          classifyAs cut.whole cut.range form = .ok (some tree.entries)) ∨
        ((∀ form ∈ Form.precedence, classifyAs cut.whole cut.range form = .ok none) ∧
          tree.entries = [⟨.literal .invalid, cut.range, 0⟩])) := by
  refine ⟨cut.outcome.1, _, classify_whole cut fits, classify_eq cut fits, ?_,
    outcome_first_form fits⟩
  intro form
  refine ⟨_, classifyAs_whole cut fits form, ?_⟩
  rw [classifyAs_eq cut fits, Option.map_map]
  rfl

-- The digits and the marker are written before it turns out that the exponent has no digits.
theorem classify_first_form_unfinished :
    ∃ obstacle?, classify ['x', '1', 'e'] ⟨1, 3⟩ =
      .ok ([⟨.literal .invalid, ⟨1, 3⟩, 0⟩], obstacle?) := by
  obtain ⟨tree, obstacle?, plain, searched, -⟩ :=
    classify_first_form ⟨['x'], ['1', 'e'], []⟩ (by decide)
  have invalid : Numeral.classify ['x', '1', 'e'] 1 3 = .ok (.invalid ⟨1, 3⟩) := rfl
  obtain rfl := Except.ok.inj (plain.symm.trans invalid)
  exact ⟨obstacle?, searched⟩

end Search

end Numeral
