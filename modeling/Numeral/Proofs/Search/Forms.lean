import Numeral.Proofs.Search.Rules
import Numeral.Proofs.Tree.Shape
import Numeral.Proofs.Tree.Shift

/-!
A search tries alternative after alternative and form after form on one list of entries. Each that
fails is taken back whole, so the list ends up as if only the one that succeeds had been tried.
-/

set_option autoImplicit false

namespace Numeral

open Grammar

namespace Grammar

theorem compact_reading {form : Form} {cut : Text.Excerpt} {reading : Reading}
    (found : (parseExcerpt (productionsOf form) cut).result = some reading) :
    reading.form = form ∧
      (Piece.allEntries cut.start reading.pieces).length ≤ Text.byteLength cut.inside := by
  rw [parseExcerpt, parse, Trial.result_firstOf] at found
  obtain ⟨production, known, parsed⟩ := List.exists_of_findSome?_eq_some found
  obtain ⟨same, derived, text, -⟩ := Production.parse_sound parsed
  exact ⟨same.trans (mem_productionsOf.1 known).1, text ▸ length_allEntries_le derived.compact _⟩

theorem expectEnd_result {form : Form} {cursor last : Cursor}
    (found : (expectEnd form cursor).result = some last) : last = cursor := by
  unfold expectEnd at found
  split at found
  next => exact (Option.some.inj found).symm
  next => simp [Cursor.miss] at found

def treeOf (range : Range) (result : Option Reading) : Tree :=
  (result.map (Tree.ofReading range)).getD (.invalid range)

theorem outcome_fst (range : Range) (trial : Trial Reading) :
    (outcome range trial).1 = treeOf range trial.result := by
  unfold outcome
  cases trial.result <;> rfl

def Reading.shown (start : Nat) (reading : Reading) : Bool × List Entry :=
  (reading.imaginary, Piece.allEntries start reading.pieces)

end Grammar

namespace Search

section

variable {cut : Text.Excerpt} {form : Form} (fits : cut.stop ≤ Range.largestBound)

include fits

theorem finish_follows {cursor : Cursor} (inside : cursor.text = cut.inside) :
    Follows cut form (Reading.shown cut.start) (cursor.shown cut.start).2
      (do
        let last ← optional takeImaginary (cursor.shown cut.start).1
        expectEnd last
        return last ≠ (cursor.shown cut.start).1)
      (Grammar.finish form (cut.after.head?.any Unicode.isWord) cursor) := by
  refine ((takeImaginary_tracks fits).optional cursor inside).andThen
    ((inside ▸ takeImaginary_within).optional cursor) fun last found => ?_
  have moves := optional_imaginary_moves found
  have ended := moves.text_eq.trans inside
  refine (expectEnd_follows ended).andThen (ended ▸ expectEnd_decides.within) fun stop same => ?_
  obtain rfl := expectEnd_result same
  have unitTaken : decide ((stop.shown cut.start).1 ≠ (cursor.shown cut.start).1) =
      (Grammar.takeImaginary form (cut.after.head?.any Unicode.isWord) cursor).result.isSome := by
    rw [Cursor.shown, Cursor.shown, moves.read_eq, Text.byteLength_append]
    cases (Grammar.takeImaginary form (cut.after.head?.any Unicode.isWord) cursor).result.isSome with
    | false => simp [unit, Text.byteLength]
    | true =>
      have single : 'i'.utf8Size = 1 := rfl
      simp [unit, Text.byteLength, single]
  exact .done unitTaken rfl

theorem sequence_follows (form : Form) (steps : List Step) :
    Follows cut form (Reading.shown cut.start) []
      (do
        let start := (← get).span.start
        let stop ← takeSteps form.radix steps start
        let last ← optional takeImaginary stop
        expectEnd last
        return last ≠ stop)
      (Production.parse cut.inside (cut.after.head?.any Unicode.isWord) ⟨form, steps⟩) := by
  refine .look fun misses => ?_
  refine (takeSteps_tracks fits steps ⟨[], cut.inside⟩ rfl).andThen (runSteps_within steps)
    fun last found => ?_
  obtain ⟨_, -, moves⟩ := runSteps_moves found
  exact finish_follows fits moves.text_eq

omit fits in
def Settles (cut : Text.Excerpt) (form : Form) (attempt : Attempt Bool) (trial : Trial Reading) :
    Prop :=
  ∀ misses, (∀ miss ∈ misses, miss.read <+: cut.inside) →
    Ends attempt (cut.search form misses []) (trial.result.map Reading.imaginary)
      (cut.search form (misses ++ trial.misses) (treeOf cut.range trial.result).parts)

theorem takeAlternative_settles (steps : List Step) :
    Settles cut form (takeAlternative form steps)
      (Production.parse cut.inside (cut.after.head?.any Unicode.isWord) ⟨form, steps⟩) := by
  intro misses within
  obtain ⟨added, ends, shown⟩ := sequence_follows fits form steps misses within
  refine .bind (mark_ends _) ?_
  cases found : (Production.parse cut.inside (cut.after.head?.any Unicode.isWord)
    ⟨form, steps⟩).result with
  | none =>
    rw [found] at ends
    exact .orElse_none ends (.bind rollback_ends (.failure _))
  | some reading =>
    rw [found, shown reading found] at ends
    exact .orElse ends

omit fits in
theorem Settles.orElse {first other : Attempt Bool} {trial : Trial Reading}
    {later : Unit → Trial Reading} (one : Settles cut form first trial)
    (within : trial.Within cut.inside) (two : Settles cut form other (later ())) :
    Settles cut form (first <|> other) (trial.orElse later) := by
  intro misses known
  have ends := one misses known
  unfold Trial.orElse
  cases found : trial.result with
  | none =>
    rw [found] at ends
    have goes := two (misses ++ trial.misses) fun miss member =>
      (List.mem_append.1 member).elim (known miss) (within miss)
    rw [List.append_assoc] at goes
    exact .orElse_none ends goes
  | some reading =>
    rw [found] at ends
    exact .orElse ends

theorem takeAlternatives_settles (form : Form) (alternatives : List (List Step)) :
    Settles cut form (alternatives.firstM (takeAlternative form))
      (parse (alternatives.map fun steps => ⟨form, steps⟩) cut.inside
        (cut.after.head?.any Unicode.isWord)) := by
  induction alternatives with
  | nil =>
    intro misses _
    rw [parse, List.map_nil, Trial.firstOf, Trial.fail, List.append_nil]
    exact .failure _
  | cons steps rest ih =>
    exact (takeAlternative_settles fits steps).orElse (Production.parse_within _ _ _) ih

theorem finish_ends (tag : Tag) {misses : List Miss} {entries : List Entry}
    (few : entries.length ≤ Range.largestBound) :
    Ends (finish tag) (cut.search form misses entries) (some ())
      { cut.search form misses [] with
        entries := ⟨tag, cut.range, entries.length⟩ :: entries } := by
  have count : countOf entries.length = entries.length := Nat.mod_eq_of_lt (Nat.lt_succ_of_le few)
  have first : cut.start ≤ Range.largestBound := Nat.le_trans cut.start_le_stop fits
  refine .bind (.get _) (.bind (.set rfl) (.bind (.get _) ?_))
  refine .bind (ofInts_ends first fits _) (.set ?_)
  simp [Text.Excerpt.search, Text.Excerpt.range, count]

theorem takeForm_ends (form : Form) {misses : List Miss}
    (within : ∀ miss ∈ misses, miss.read <+: cut.inside)
    (earlier : Form) :
    Ends (takeForm form) (cut.search earlier misses [])
      ((parseExcerpt (productionsOf form) cut).result.map fun _ => ())
      { cut.search form (misses ++ (parseExcerpt (productionsOf form) cut).misses) [] with
        entries := (treeOf cut.range (parseExcerpt (productionsOf form) cut).result).entries } := by
  have tried := takeAlternatives_settles fits form (alternatives form) misses within
  change Ends _ _ ((parseExcerpt (productionsOf form) cut).result.map _) (cut.search form
    (misses ++ (parseExcerpt (productionsOf form) cut).misses)
    (treeOf cut.range (parseExcerpt (productionsOf form) cut).result).parts) at tried
  refine .bind (.modify rfl) ?_
  cases found : (parseExcerpt (productionsOf form) cut).result with
  | none =>
    rw [found] at tried
    exact .bind_none tried
  | some reading =>
    rw [found] at tried
    obtain ⟨rfl, few⟩ := compact_reading found
    have bound : Text.byteLength cut.inside ≤ cut.stop := by simp [Text.Excerpt.stop]
    exact .bind tried (finish_ends fits _ (Nat.le_trans few (Nat.le_trans bound fits)))

omit fits in
theorem firstOf_append {α β : Type} (rule : β → Trial α) (front back : List β) :
    Trial.firstOf rule (front ++ back) =
      (Trial.firstOf rule front).orElse fun _ => Trial.firstOf rule back := by
  induction front with
  | nil => rfl
  | cons choice rest ih =>
    rw [List.cons_append, Trial.firstOf, Trial.firstOf, ih]
    unfold Trial.orElse
    cases (rule choice).result with
    | some value => rfl
    | none =>
      cases (Trial.firstOf rule rest).result <;> simp

theorem takeForms_ends {misses : List Miss} (within : ∀ miss ∈ misses, miss.read <+: cut.inside)
    (earlier : Form) (forms : List Form) :
    ∃ last, Ends (forms.firstM takeForm) (cut.search earlier misses [])
        ((parseExcerpt (forms.flatMap productionsOf) cut).result.map fun _ => ()) last ∧
      last.entries =
        (treeOf cut.range (parseExcerpt (forms.flatMap productionsOf) cut).result).entries ∧
      last.furthest = (Miss.furthest (misses ++
        (parseExcerpt (forms.flatMap productionsOf) cut).misses)).map (Miss.obstacle cut.start) := by
  induction forms generalizing earlier misses with
  | nil =>
    refine ⟨_, .failure _, rfl, ?_⟩
    simp [parseExcerpt, parse, Trial.firstOf, Trial.fail, Text.Excerpt.search]
  | cons form rest ih =>
    have first := takeForm_ends fits form within earlier
    have both : parseExcerpt ((form :: rest).flatMap productionsOf) cut =
        (parseExcerpt (productionsOf form) cut).orElse fun _ =>
          parseExcerpt (rest.flatMap productionsOf) cut := by
      rw [parseExcerpt, List.flatMap_cons, parse, firstOf_append]
      rfl
    rw [both]
    unfold Trial.orElse
    cases found : (parseExcerpt (productionsOf form) cut).result with
    | some reading =>
      rw [found] at first
      exact ⟨_, .orElse first, rfl, rfl⟩
    | none =>
      rw [found] at first
      have known : ∀ miss ∈ misses ++ (parseExcerpt (productionsOf form) cut).misses,
          miss.read <+: cut.inside := fun miss member =>
        (List.mem_append.1 member).elim (within miss) (parse_within _ _ _ miss)
      obtain ⟨last, ends, entries, furthest⟩ := ih known form
      rw [List.append_assoc] at furthest
      exact ⟨last, .orElse_none first ends, entries, furthest⟩

end

theorem classify_eq (cut : Text.Excerpt) (fits : cut.stop ≤ Range.largestBound) :
    classify cut.whole cut.range =
      .ok (cut.outcome.1.entries, cut.outcome.2.map (Miss.obstacle cut.start)) := by
  obtain ⟨last, ends, entries, furthest⟩ :=
    takeForms_ends fits (List.forall_mem_nil _) .decimalFloat Form.precedence
  change Ends _ _ ((parseExcerpt productions cut).result.map _) last at ends
  change last.entries = (treeOf cut.range (parseExcerpt productions cut).result).entries at entries
  change last.furthest =
    (Miss.furthest (parseExcerpt productions cut).misses).map _ at furthest
  unfold classify Text.Excerpt.outcome outcome
  rw [new_whole]
  simp only [bind, Except.bind]
  rw [ends]
  cases found : (parseExcerpt productions cut).result with
  | none =>
    rw [found] at entries
    simp only [Option.map_none, entries, furthest]
    rfl
  | some reading =>
    rw [found] at entries
    simp only [Option.map_some, entries]
    rfl

theorem classifyAs_eq (cut : Text.Excerpt) (fits : cut.stop ≤ Range.largestBound) (form : Form) :
    classifyAs cut.whole cut.range form =
      .ok ((parseExcerpt (productionsOf form) cut).result.map fun reading =>
        (Tree.ofReading cut.range reading).entries) := by
  have ends := takeForm_ends fits form (List.forall_mem_nil _) .decimalFloat
  unfold classifyAs
  rw [new_whole]
  simp only [bind, Except.bind]
  rw [ends]
  cases (parseExcerpt (productionsOf form) cut).result <;> rfl

end Search

end Numeral
