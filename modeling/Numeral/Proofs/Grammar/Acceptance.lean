import Numeral.Proofs.Grammar.Prediction
import Numeral.Proofs.Text.Excerpt

set_option autoImplicit false

namespace Numeral

namespace Grammar

-- So a word of a form is never also another word with the unit.
theorem unit_not_taken : ∀ production ∈ productions,
    'i' ∉ production.steps.flatMap (Step.alphabet production.form) := by
  decide +kernel

theorem TakesAll.chars {form : Form} {steps : List Step} {pieces : List Piece}
    (taken : TakesAll form steps pieces) :
    ∀ c ∈ written pieces, c ∈ steps.flatMap (Step.alphabet form) := by
  induction taken with
  | nil => simp
  | cons first rest ih =>
    intro c inside
    obtain early | late : c ∈ written _ ∨ c ∈ written _ := by simpa using inside
    next => exact List.mem_flatMap.2 ⟨_, List.mem_cons_self, first.chars c early⟩
    next => simpa using Or.inr (List.mem_flatMap.1 (ih c late))

theorem unit_not_mem_language {form : Form} {word : Text} (member : word ∈ language form) :
    'i' ∉ word := by
  obtain ⟨steps, known, pieces, taken, rfl⟩ := mem_language.1 member
  intro inside
  exact unit_not_taken ⟨form, steps⟩ (mem_productions.2 known) (taken.chars _ inside)

def Spells (form : Form) (imaginary : Bool) (chars : Text) : Prop :=
  ∃ word ∈ language form, chars = word ++ written (unit imaginary)

theorem Spells.imaginary_iff {form : Form} {imaginary : Bool} {chars : Text}
    (spelled : Spells form imaginary chars) : imaginary = true ↔ 'i' ∈ chars := by
  obtain ⟨word, member, rfl⟩ := spelled
  cases imaginary <;> simp [unit, unit_not_mem_language member]

theorem spells_real {form : Form} {chars : Text} :
    Spells form false chars ↔ chars ∈ language form := by
  simp [Spells, unit]

theorem spells_imaginary {form : Form} {chars : Text} :
    Spells form true chars ↔ ∃ word ∈ language form, chars = word ++ ['i'] := by
  simp [Spells, unit]

theorem spells_iff_derives {form : Form} {imaginary : Bool} {chars : Text} :
    Spells form imaginary chars ↔
      ∃ production ∈ productionsOf form, ∃ pieces,
        production.Derives imaginary pieces ∧ written pieces = chars := by
  constructor
  next =>
    rintro ⟨word, member, rfl⟩
    obtain ⟨steps, known, pieces, taken, rfl⟩ := mem_language.1 member
    exact ⟨⟨form, steps⟩, mem_productionsOf.2 ⟨rfl, mem_productions.2 known⟩,
      pieces ++ unit imaginary, ⟨pieces, taken, rfl⟩, written_append _ _⟩
  next =>
    rintro ⟨production, known, _, ⟨pieces, taken, rfl⟩, rfl⟩
    obtain ⟨rfl, listed⟩ := mem_productionsOf.1 known
    exact ⟨_, mem_language.2 ⟨_, mem_productions.1 listed, pieces, taken, rfl⟩,
      written_append _ _⟩

theorem parse_productionsOf_some {form : Form} {chars : Text} {wordAfter : Bool}
    {reading : Reading}
    (found : (parse (productionsOf form) chars wordAfter).result = some reading) :
    reading.form = form ∧ Spells form reading.imaginary chars ∧
      (reading.imaginary = true → wordAfter = false) := by
  rw [parse, Trial.result_firstOf] at found
  obtain ⟨production, known, parsed⟩ := List.exists_of_findSome?_eq_some found
  obtain ⟨same, derived, text, free⟩ := Production.parse_sound parsed
  exact ⟨same.trans (mem_productionsOf.1 known).1,
    spells_iff_derives.2 ⟨production, known, _, derived, text⟩, free⟩

theorem parse_productionsOf_isSome {form : Form} {imaginary : Bool} {chars : Text}
    {wordAfter : Bool} (spelled : Spells form imaginary chars)
    (free : imaginary = true → wordAfter = false) :
    (parse (productionsOf form) chars wordAfter).result.isSome = true := by
  obtain ⟨production, known, pieces, derived, rfl⟩ := spells_iff_derives.1 spelled
  rw [parse, Trial.result_firstOf, List.findSome?_isSome_iff]
  refine ⟨production, known, ?_⟩
  rw [Production.parse_derived (mem_productionsOf.1 known).2 derived free]
  rfl

end Grammar

open Grammar

theorem classifyAs_isSome_iff_language (cut : Text.Excerpt) (form : Form)
    (fits : cut.stop ≤ Range.largestBound) :
    ∃ outcome, classifyAs cut.whole cut.start cut.stop form = .ok outcome ∧
      (outcome.isSome = true ↔
        cut.inside ∈ language form ∨
          ∃ word ∈ language form, cut.inside = word ++ ['i'] ∧
            ∀ c, cut.after.head? = some c → Unicode.isWord c = false) ∧
      ∀ tree, outcome = some tree →
        ∃ imaginary, tree.kind = .ofForm form imaginary ∧
          (imaginary = true ↔ ∃ word ∈ language form, cut.inside = word ++ ['i']) := by
  have free : cut.after.head?.any Unicode.isWord = false ↔
      ∀ c, cut.after.head? = some c → Unicode.isWord c = false := by
    simp [Option.any_eq_false]
  refine ⟨_, classifyAs_whole cut fits form, ?_, ?_⟩
  next =>
    rw [Option.isSome_map, parseExcerpt]
    constructor
    next =>
      intro accepted
      obtain ⟨reading, parsed⟩ := Option.isSome_iff_exists.1 accepted
      obtain ⟨-, spelled, unfollowed⟩ := parse_productionsOf_some parsed
      cases imaginary : reading.imaginary with
      | false => exact .inl (spells_real.1 (imaginary ▸ spelled))
      | true =>
        obtain ⟨word, member, same⟩ := spells_imaginary.1 (imaginary ▸ spelled)
        exact .inr ⟨word, member, same, free.1 (unfollowed imaginary)⟩
    next =>
      rintro (member | ⟨word, member, same, unfollowed⟩)
      next => exact parse_productionsOf_isSome (spells_real.2 member) (by simp)
      next =>
        exact parse_productionsOf_isSome (spells_imaginary.2 ⟨word, member, same⟩)
          fun _ => free.2 unfollowed
  next =>
    intro tree same
    obtain ⟨reading, parsed, rfl⟩ := Option.map_eq_some_iff.1 same
    obtain ⟨rfl, spelled, -⟩ := parse_productionsOf_some parsed
    refine ⟨reading.imaginary, rfl, fun imaginary => ?_, ?_⟩
    next => exact spells_imaginary.1 (imaginary ▸ spelled)
    next =>
      rintro ⟨word, -, text⟩
      exact spelled.imaginary_iff.2 (by simp [text])

theorem classifyAs_isSome_iff_language_hex :
    Text.Excerpt.stop ⟨['='], ['0', 'X', '_', 'f', 'i'], [';']⟩ ≤ Range.largestBound ∧
      ∃ outcome, classifyAs ['=', '0', 'X', '_', 'f', 'i', ';'] 1 6 .hexInt = .ok outcome ∧
        (outcome.isSome = true ↔
          ['0', 'X', '_', 'f', 'i'] ∈ language .hexInt ∨
            ∃ word ∈ language .hexInt, ['0', 'X', '_', 'f', 'i'] = word ++ ['i'] ∧
              ∀ c, some ';' = some c → Unicode.isWord c = false) ∧
        ∀ tree, outcome = some tree →
          ∃ imaginary, tree.kind = .ofForm .hexInt imaginary ∧
            (imaginary = true ↔
              ∃ word ∈ language .hexInt, ['0', 'X', '_', 'f', 'i'] = word ++ ['i']) :=
  ⟨by decide, classifyAs_isSome_iff_language ⟨['='], ['0', 'X', '_', 'f', 'i'], [';']⟩ .hexInt
    (by decide)⟩

end Numeral
