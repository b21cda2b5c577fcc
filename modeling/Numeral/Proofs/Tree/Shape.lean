import Numeral.Proofs.Grammar.Soundness
import Numeral.Proofs.Tree.Nodes

set_option autoImplicit false

namespace Numeral

open Grammar

def Tag.radix? : Tag → Option Radix
  | .literal kind => kind.radix?
  | .radixPrefix radix | .digits radix | .point radix | .exponentMarker radix
  | .exponentSign _ radix | .exponentDigits radix => some radix
  | .separator | .imaginary => none

/-- The text may be that of a part with the tag; literals are never parts. -/
def Tag.Fits : Tag → Text → Prop
  | .literal _, _ => False
  | .radixPrefix radix, chars =>
    (radix = .octal ∧ chars = ['0']) ∨ ∃ letter ∈ radix.prefixLetters, chars = ['0', letter]
  | .digits radix, chars => ∀ c ∈ chars, radix.isDigit c = true ∨ c = '_'
  | .separator, chars => chars = ['_']
  | .point _, chars => chars = ['.']
  | .exponentMarker radix, chars => ∃ marker ∈ radix.exponentMarkers, chars = [marker]
  | .exponentSign sign _, chars => chars = [sign.char]
  | .exponentDigits _, chars => ∀ c ∈ chars, Radix.decimal.isDigit c = true ∨ c = '_'
  | .imaginary, chars => chars = ['i']

theorem Tag.Fits.no_underscore {tag : Tag} {chars : Text} (fits : tag.Fits chars)
    (ungrouped : tag.isDigitGroup = false) (other : tag ≠ .separator) : '_' ∉ chars := by
  cases tag with
  | literal kind => exact fits.elim
  | digits radix | exponentDigits radix => simp [isDigitGroup] at ungrouped
  | separator => exact absurd rfl other
  | radixPrefix radix =>
    rcases fits with ⟨-, rfl⟩ | ⟨letter, known, rfl⟩
    next => decide
    next =>
      have letters : '_' ∉ radix.prefixLetters := by cases radix <;> decide
      rintro inside
      obtain rfl : '_' = letter := by simpa using inside
      exact letters known
  | point radix | imaginary =>
    obtain rfl := fits
    decide
  | exponentMarker radix =>
    obtain ⟨marker, known, rfl⟩ := fits
    have markers : '_' ∉ radix.exponentMarkers := by cases radix <;> decide
    rintro inside
    obtain rfl : '_' = marker := by simpa using inside
    exact markers known
  | exponentSign sign radix =>
    obtain rfl := fits
    cases sign <;> decide

structure Grammar.Piece.Proper (radix : Radix) (piece : Piece) : Prop where
  nonempty : piece.chars ≠ []
  fits : piece.tag.Fits piece.chars
  radix_eq : ∀ other, piece.tag.radix? = some other → other = radix

namespace Grammar

theorem digitGroup_proper {radix : Radix} {word : Text} (member : word ∈ digitGroup radix) :
    word ≠ [] ∧ ∀ c ∈ word, radix.isDigit c = true ∨ c = '_' := by
  constructor
  next =>
    rintro rfl
    obtain ⟨d, -, starts⟩ := digitGroup_head member
    simp at starts
  next =>
    intro c inside
    rcases digitGroup_chars member c inside with isDigit | ⟨-, isSeparator⟩
    next => exact .inl ((Radix.isDigit_iff radix c).2 isDigit)
    next => exact .inr isSeparator

theorem Step.Takes.proper {form : Form} {step : Step} {pieces : List Piece}
    (taken : step.Takes form pieces) (decimal : step = .integer → form.radix = .decimal) :
    ∀ piece ∈ pieces, piece.Proper form.radix ∧ piece.tag ≠ .imaginary := by
  have own : ∀ other, some form.radix = some other → other = form.radix :=
    fun other same => (Option.some.inj same).symm
  have marked {marker : Char} (known : marker ∈ form.radix.exponentMarkers) :
      Piece.Proper form.radix ⟨.exponentMarker form.radix, [marker]⟩ :=
    ⟨by simp, ⟨marker, known, rfl⟩, own⟩
  have scaled {word : Text} (group : word ∈ digitGroup .decimal) :
      Piece.Proper form.radix ⟨.exponentDigits form.radix, word⟩ :=
    ⟨(digitGroup_proper group).1, (digitGroup_proper group).2, own⟩
  induction taken with
  | unprefixed | noSeparator | noDigits | noExponent => simp
  | letteredPrefix known =>
    exact List.forall_mem_singleton.2 ⟨⟨by simp, .inr ⟨_, known, rfl⟩, own⟩, by simp⟩
  | barePrefix octal =>
    exact List.forall_mem_singleton.2 ⟨⟨by simp, .inl ⟨octal, rfl⟩, own⟩, by simp⟩
  | separator => exact List.forall_mem_singleton.2 ⟨⟨by simp, rfl, by simp [Tag.radix?]⟩, by simp⟩
  | digits group =>
    obtain ⟨nonempty, digits⟩ := digitGroup_proper group
    exact List.forall_mem_singleton.2 ⟨⟨nonempty, digits, own⟩, by simp⟩
  | maybeDigits _ ih | maybeExponent _ ih => exact ih (by simp)
  | integer member =>
    obtain ⟨nonempty, digits⟩ := digitGroup_proper (mem_decimalInteger.1 member).1
    -- its digits are decimal whatever the form
    rw [decimal rfl] at own ⊢
    exact List.forall_mem_singleton.2 ⟨⟨nonempty, digits, own⟩, by simp⟩
  | point => exact List.forall_mem_singleton.2 ⟨⟨by simp, rfl, own⟩, by simp⟩
  | unsignedExponent known group => simpa using ⟨marked known, scaled group⟩
  | signedExponent sign known group =>
    have signed : Piece.Proper form.radix ⟨.exponentSign sign form.radix, [sign.char]⟩ :=
      ⟨by simp, rfl, own⟩
    simpa using ⟨marked known, signed, scaled group⟩

theorem TakesAll.proper {form : Form} {steps : List Step} {pieces : List Piece}
    (taken : TakesAll form steps pieces) (decimal : .integer ∈ steps → form.radix = .decimal) :
    ∀ piece ∈ pieces, piece.Proper form.radix ∧ piece.tag ≠ .imaginary := by
  induction taken with
  | nil => simp
  | @cons step steps front back first rest ih =>
    intro piece member
    rcases List.mem_append.1 member with early | late
    next => exact first.proper (fun same => decimal (same ▸ List.mem_cons_self)) piece early
    next => exact ih (fun later => decimal (List.mem_cons_of_mem _ later)) piece late

theorem integer_decimal : ∀ production ∈ productions,
    .integer ∈ production.steps → production.form.radix = .decimal := by
  decide +kernel

theorem unit_proper (radix : Radix) (imaginary : Bool) :
    ∀ piece ∈ unit imaginary, piece.Proper radix := by
  cases imaginary with
  | false => simp [unit]
  | true => exact List.forall_mem_singleton.2 ⟨by simp, rfl, by simp [Tag.radix?]⟩

theorem Production.Derives.proper {production : Production} {imaginary : Bool}
    {pieces : List Piece} (known : production ∈ productions)
    (derived : production.Derives imaginary pieces) :
    ∀ piece ∈ pieces, piece.Proper production.form.radix := by
  obtain ⟨taken, takesAll, rfl⟩ := derived
  intro piece member
  rcases List.mem_append.1 member with early | late
  next => exact (takesAll.proper (integer_decimal production known) piece early).1
  next => exact unit_proper _ imaginary piece late

theorem Piece.Proper.separators {radix : Radix} {piece : Piece} (proper : piece.Proper radix)
    (start : Nat) :
    (piece.entries start).filter (·.tag = .separator) = separatorEntries start piece.chars := by
  cases grouped : piece.tag.isDigitGroup with
  | true =>
    have own : piece.tag ≠ .separator := by
      intro same
      simp [same, Tag.isDigitGroup] at grouped
    have leaves : ∀ entry ∈ separatorEntries start piece.chars, entry.tag = .separator := by
      intro entry member
      obtain ⟨n, -, rfl⟩ := mem_separatorEntries.1 member
      rfl
    simpa [entries, grouped, own] using leaves
  | false =>
    by_cases own : piece.tag = .separator
    next =>
      have chars : Tag.separator.Fits piece.chars := own ▸ proper.fits
      simp only [Tag.Fits] at chars
      simp [entries, own, chars, Tag.isDigitGroup, separatorEntries, separator, Text.byteLength]
    next =>
      -- no other tag fits a text with an underscore
      have nothing : separatorEntries start piece.chars = [] := by
        refine List.eq_nil_iff_forall_not_mem.2 fun entry member => ?_
        obtain ⟨n, ⟨front, back, same, -⟩, -⟩ := mem_separatorEntries.1 member
        exact proper.fits.no_underscore grouped own (by simp [same])
      simp [entries, grouped, own, nothing]

theorem separators_allEntries {radix : Radix} {pieces : List Piece}
    (proper : ∀ piece ∈ pieces, piece.Proper radix) (start : Nat) :
    (Piece.allEntries start pieces).filter (·.tag = .separator) =
      separatorEntries start (written pieces) := by
  induction pieces generalizing start with
  | nil => rfl
  | cons piece rest ih =>
    have first := (proper piece List.mem_cons_self).separators start
    have later := ih (fun other member => proper other (List.mem_cons_of_mem _ member))
      (start + Text.byteLength piece.chars)
    rw [Piece.allEntries, List.filter_append, first, later, written_cons, separatorEntries_append]

end Grammar

/-- A part of a numeral: it lies flat, or it is a digit group over its separators. -/
structure Node.IsPart (node : Node) (source : Text) : Prop where
  complete : node.entry.descendants = node.below.length
  grouped : node.below ≠ [] → node.tag.isDigitGroup = true
  leaves : node.children = node.below.map fun entry => ⟨entry, []⟩
  separators : ∀ entry ∈ node.below, ∃ offset, entry = separatorAt offset
  increasing : node.below.Pairwise fun first second => first.range.start < second.range.start
  mem_below : node.tag.isDigitGroup = true → ∀ offset,
    separatorAt offset ∈ node.below ↔
      source.HasAt '_' offset ∧ node.range.start ≤ offset ∧ offset < node.range.stop

structure Tree.Describes (tree : Tree) (cut : Text.Excerpt) : Prop where
  range_eq : tree.range = cut.range
  valid : tree.kind ≠ .invalid
  tile : Node.Tile cut.stop cut.start tree.root.children
  texts : ∃ texts, (tree.root.children.mapM fun child => child.range.text cut.whole) = .ok texts ∧
    texts.flatten = cut.inside
  parts_eq : tree.parts = tree.root.children.flatMap fun child => child.entry :: child.below
  isPart : ∀ child ∈ tree.root.children, child.IsPart cut.whole
  fits : ∀ entry ∈ tree.parts, ∃ chars,
    entry.range.text cut.whole = .ok chars ∧ entry.tag.Fits chars
  radix_eq : ∀ entry ∈ tree.parts, ∀ radix, entry.tag.radix? = some radix →
    tree.kind.radix? = some radix
  separators_increasing : (tree.parts.filter (·.tag = .separator)).Pairwise fun first second =>
    first.range.start < second.range.start
  mem_separators : ∀ entry, entry ∈ tree.parts ∧ entry.tag = .separator ↔
    ∃ offset, entry = separatorAt offset ∧
      cut.whole.HasAt '_' offset ∧ cut.start ≤ offset ∧ offset < cut.stop
  imaginary_iff : (∃ child ∈ tree.root.children, child.tag = .imaginary) ↔
    tree.kind.isImaginary = true
  imaginary_last : ∀ child ∈ tree.root.children.dropLast, child.tag ≠ .imaginary

theorem mem_separatorEntries_whole (cut : Text.Excerpt) (entry : Entry) :
    entry ∈ separatorEntries cut.start cut.inside ↔
      ∃ offset, entry = separatorAt offset ∧
        cut.whole.HasAt '_' offset ∧ cut.start ≤ offset ∧ offset < cut.stop := by
  simp only [mem_separatorEntries, Text.Excerpt.hasAt_inside]
  constructor
  next =>
    rintro ⟨n, found, rfl⟩
    exact ⟨_, rfl, n, found, rfl⟩
  next =>
    rintro ⟨_, rfl, n, found, rfl⟩
    exact ⟨n, found, rfl⟩

theorem separatorAt_injective : Function.Injective separatorAt := by
  intro first second same
  exact congrArg (fun entry => entry.range.start) same

theorem node_isPart (before after : Text) (piece : Piece) :
    (piece.node (Text.byteLength before)).IsPart (before ++ piece.chars ++ after) := by
  have complete (start : Nat) :
      (piece.node start).entry.descendants = (piece.node start).below.length := rfl
  cases grouped : piece.tag.isDigitGroup with
  | false =>
    have flat (start : Nat) : (piece.node start).below = [] := by simp [Piece.node, grouped]
    exact
      { complete := complete _
        grouped := fun deep => absurd (flat _) deep
        leaves := by simp [Node.children, flat, Node.siblings]
        separators := by simp [flat]
        increasing := by simp [flat]
        mem_below := fun again => absurd (grouped.symm.trans again) (by decide) }
  | true =>
    have below (start : Nat) :
        (piece.node start).below = separatorEntries start piece.chars := by
      simp [Piece.node, grouped]
    have leaf {start : Nat} : ∀ entry ∈ separatorEntries start piece.chars,
        ∃ offset, entry = separatorAt offset := by
      intro entry member
      obtain ⟨n, -, same⟩ := mem_separatorEntries.1 member
      exact ⟨_, same⟩
    refine
      { complete := complete _
        grouped := fun _ => grouped
        leaves := ?_
        separators := by simpa only [below] using leaf
        increasing := by simpa only [below] using separatorEntries_sorted _ _
        mem_below := ?_ }
    next =>
      rw [Node.children, below]
      refine siblings_leaves fun entry member => ?_
      obtain ⟨offset, rfl⟩ := leaf entry member
      rfl
    next =>
      intro _ offset
      have stop : (piece.node (Text.byteLength before)).range.stop =
          Text.Excerpt.stop ⟨before, piece.chars, after⟩ := (Text.byteLength_append _ _).symm
      rw [below, stop]
      refine (mem_separatorEntries_whole ⟨before, piece.chars, after⟩ _).trans ?_
      constructor
      next =>
        rintro ⟨other, same, found⟩
        obtain rfl := separatorAt_injective same
        exact found
      next => exact fun found => ⟨offset, rfl, found⟩

theorem separatorAt_text {source : Text} {offset : Nat} (found : source.HasAt '_' offset) :
    (separatorAt offset).range.text source = .ok ['_'] := by
  obtain ⟨front, back, rfl, rfl⟩ := found
  have width : '_'.utf8Size = 1 := rfl
  have taken := Range.text_whole ⟨front, ['_'], back⟩
  simpa [Text.Excerpt.range, Text.Excerpt.start, Text.Excerpt.stop, Text.Excerpt.whole,
    Text.byteLength, separatorAt, width] using taken

theorem Kind.radix?_ofForm (form : Form) (imaginary : Bool) :
    (ofForm form imaginary).radix? = some form.radix := by
  cases form <;> rfl

theorem Kind.ofForm_valid (form : Form) (imaginary : Bool) : ofForm form imaginary ≠ .invalid := by
  cases form <;> simp [ofForm, Form.isFloat]

-- The unit is the last piece if it is there, and no step takes one.
theorem Grammar.Production.Derives.tags {production : Production} {imaginary : Bool}
    {pieces : List Piece} (known : production ∈ productions)
    (derived : production.Derives imaginary pieces) :
    (.imaginary ∈ pieces.map Piece.tag ↔ imaginary = true) ∧
      .imaginary ∉ (pieces.map Piece.tag).dropLast := by
  obtain ⟨taken, takesAll, rfl⟩ := derived
  have inner : .imaginary ∉ taken.map Piece.tag := by
    intro member
    obtain ⟨piece, inside, same⟩ := List.mem_map.1 member
    exact (takesAll.proper (integer_decimal production known) piece inside).2 same
  cases imaginary with
  | false =>
    rw [unit, List.append_nil]
    exact ⟨by simpa using inner, fun member => inner (List.mem_of_mem_dropLast member)⟩
  | true =>
    rw [unit, List.map_append, List.map_singleton, List.dropLast_concat]
    exact ⟨by simp, inner⟩

section

variable {cut : Text.Excerpt} {pieces : List Piece} (text : written pieces = cut.inside)

include text

theorem mem_nodes_whole {node : Node} (member : node ∈ Piece.nodes cut.start pieces) :
    ∃ before piece after, piece ∈ pieces ∧ node = piece.node (Text.byteLength before) ∧
      cut.whole = before ++ piece.chars ++ after := by
  obtain ⟨front, piece, back, rfl, rfl⟩ := mem_nodes.1 member
  refine ⟨cut.before ++ written front, piece, written back ++ cut.after, by simp, ?_, ?_⟩
  next =>
    rw [Text.byteLength_append]
    rfl
  next => simp [Text.Excerpt.whole, ← text]

theorem isPart_whole {node : Node} (member : node ∈ Piece.nodes cut.start pieces) :
    node.IsPart cut.whole := by
  obtain ⟨before, piece, after, -, rfl, whole⟩ := mem_nodes_whole text member
  rw [whole]
  exact node_isPart before after piece

theorem entry_fits {radix : Radix} (proper : ∀ piece ∈ pieces, piece.Proper radix) {entry : Entry}
    (member : entry ∈ Piece.allEntries cut.start pieces) :
    (∃ chars, entry.range.text cut.whole = .ok chars ∧ entry.tag.Fits chars) ∧
      ∀ other, entry.tag.radix? = some other → other = radix := by
  obtain ⟨node, inside, rfl | below⟩ := mem_allEntries.1 member
  next =>
    obtain ⟨before, piece, after, listed, rfl, whole⟩ := mem_nodes_whole text inside
    rw [whole]
    exact ⟨⟨_, node_text before after piece, (proper piece listed).fits⟩,
      (proper piece listed).radix_eq⟩
  next =>
    have part := isPart_whole text inside
    obtain ⟨offset, rfl⟩ := part.separators entry below
    have deep := part.grouped (List.ne_nil_of_mem below)
    obtain ⟨found, -⟩ := (part.mem_below deep offset).1 below
    exact ⟨⟨_, separatorAt_text found, rfl⟩, by simp [separatorAt, Tag.radix?]⟩

end

theorem ofReading_describes {production : Production} {reading : Reading} {cut : Text.Excerpt}
    (known : production ∈ productions) (form : reading.form = production.form)
    (derived : production.Derives reading.imaginary reading.pieces)
    (text : written reading.pieces = cut.inside) :
    (Tree.ofReading cut.range reading).Describes cut := by
  have proper := derived.proper known
  have children : (Tree.ofReading cut.range reading).root.children =
      Piece.nodes cut.start reading.pieces := siblings_allEntries cut.start reading.pieces
  -- the separators depend on the text alone, not on how it was cut into pieces
  have separators := separators_allEntries proper cut.start
  rw [text] at separators
  obtain ⟨imaginary_iff, imaginary_last⟩ := derived.tags known
  rw [← nodes_tags cut.start, ← children] at imaginary_iff imaginary_last
  refine
    { range_eq := rfl
      valid := Kind.ofForm_valid _ _
      tile := ?_
      texts := ⟨reading.pieces.map Piece.chars, ?_, ?_⟩
      parts_eq := (siblings_flatMap _).symm
      isPart := ?_
      fits := fun entry member => (entry_fits text proper member).1
      radix_eq := ?_
      separators_increasing := ?_
      mem_separators := ?_
      imaginary_iff := ?_
      imaginary_last := ?_ }
  next =>
    have tile := nodes_tile (fun piece listed => (proper piece listed).nonempty) cut.start
    rw [text] at tile
    rw [children, Text.Excerpt.stop, Text.byteLength_append]
    exact tile
  next =>
    have texts := nodes_texts cut.before cut.after reading.pieces
    rw [text] at texts
    rw [children]
    exact texts
  next => rw [← text, written, List.flatMap_def]
  next =>
    rw [children]
    exact fun child member => isPart_whole text member
  next =>
    intro entry member radix same
    rw [(entry_fits text proper member).2 radix same, ← form]
    exact Kind.radix?_ofForm reading.form reading.imaginary
  next =>
    change (List.filter _ (Piece.allEntries cut.start reading.pieces)).Pairwise _
    rw [separators]
    exact separatorEntries_sorted cut.start cut.inside
  next =>
    intro entry
    rw [← mem_separatorEntries_whole, ← separators, List.mem_filter, decide_eq_true_iff]
    rfl
  next =>
    rw [← List.mem_map, imaginary_iff]
    exact (Bool.eq_iff_iff.1 (Kind.isImaginary_ofForm _ _)).symm
  next =>
    intro child member same
    rw [← List.map_dropLast] at imaginary_last
    exact imaginary_last (List.mem_map.2 ⟨child, member, same⟩)

theorem parseExcerpt_describes {table : List Production} {cut : Text.Excerpt} {reading : Reading}
    (listed : ∀ production ∈ table, production ∈ productions)
    (found : (parseExcerpt table cut).result = some reading) :
    (Tree.ofReading cut.range reading).Describes cut := by
  rw [parseExcerpt, parse, Trial.result_firstOf] at found
  obtain ⟨production, member, parsed⟩ := List.exists_of_findSome?_eq_some found
  obtain ⟨form, derived, text, -⟩ := Production.parse_sound parsed
  exact ofReading_describes (listed production member) form derived text

theorem classify_tree_shape (cut : Text.Excerpt) (fits : cut.stop ≤ Range.largestBound) :
    (∃ tree, classify cut.whole cut.start cut.stop = .ok tree ∧
      (tree.Describes cut ∨
        tree.kind = .invalid ∧ tree.size = 1 ∧ tree.root.range = cut.range)) ∧
    ∀ form, ∃ outcome, classifyAs cut.whole cut.start cut.stop form = .ok outcome ∧
      ∀ tree, outcome = some tree → tree.Describes cut := by
  constructor
  next =>
    refine ⟨_, examineBy_whole cut fits productions, ?_⟩
    cases parsed : (parseExcerpt productions cut).result with
    | none => exact .inr ⟨rfl, rfl, rfl⟩
    | some reading => exact .inl (parseExcerpt_describes (fun _ listed => listed) parsed)
  next =>
    intro form
    refine ⟨_, classifyAs_whole cut fits form, ?_⟩
    intro tree same
    obtain ⟨reading, parsed, rfl⟩ := Option.map_eq_some_iff.1 same
    exact parseExcerpt_describes (fun _ listed => (mem_productionsOf.1 listed).2) parsed

theorem classify_tree_shape_imaginary :
    ∃ tree, classify ['=', '1', '_', '0', '.', 'e', '-', '2', 'i'] 1 9 = .ok tree ∧
      tree.Describes ⟨['='], ['1', '_', '0', '.', 'e', '-', '2', 'i'], []⟩ := by
  obtain ⟨⟨tree, found, described | ⟨invalid, -⟩⟩, -⟩ :=
    classify_tree_shape ⟨['='], ['1', '_', '0', '.', 'e', '-', '2', 'i'], []⟩ (by decide)
  next => exact ⟨tree, found, described⟩
  next =>
    have kind : (.ok tree.kind : Except Fault Kind) = .ok (.float .decimal true) :=
      (congrArg (Except.map Tree.kind) found).symm
    exact absurd (invalid.symm.trans (Except.ok.inj kind)) (by decide)

end Numeral
