import Numeral.Proofs.Candidate.Found
import Numeral.Proofs.Text.Bytes

set_option autoImplicit false

namespace Numeral

open Grammar

namespace Candidate

structure Neutral (c : Char) : Prop where
  not_word : Unicode.isWord c = false
  not_point : c ≠ '.'
  not_plus : c ≠ '+'
  not_minus : c ≠ '-'

theorem ascii_of_isAsciiWord {c : Char} (word : Unicode.isAsciiWord c = true) :
    c.toNat < 0x80 := by
  have bound (d : Char) (below : c ≤ d) : c.toNat ≤ d.toNat := below
  have codes : '9'.toNat < 0x80 ∧ 'z'.toNat < 0x80 ∧ 'Z'.toNat < 0x80 := by decide
  simp only [Unicode.isAsciiWord, Bool.or_eq_true, Bool.and_eq_true, decide_eq_true_eq,
    beq_iff_eq] at word
  rcases word with ((⟨-, digit⟩ | ⟨-, small⟩) | ⟨-, capital⟩) | rfl
  next => exact Nat.lt_of_le_of_lt (bound '9' digit) codes.1
  next => exact Nat.lt_of_le_of_lt (bound 'z' small) codes.2.1
  next => exact Nat.lt_of_le_of_lt (bound 'Z' capital) codes.2.2
  next => decide

theorem isWord_of_isAsciiWord {c : Char} (word : Unicode.isAsciiWord c = true) :
    Unicode.isWord c = true := by
  rw [Unicode.isWord, if_pos (ascii_of_isAsciiWord word), word]

theorem asciiOnly_isInterior : Text.AsciiOnly isInterior := by
  apply Text.AsciiOnly.or _ (Text.asciiOnly_beq (by decide))
  intro c word
  exact ascii_of_isAsciiWord word

theorem asciiOnly_isSign : Text.AsciiOnly isSign :=
  (Text.asciiOnly_beq (by decide)).or (Text.asciiOnly_beq (by decide))

namespace Neutral

variable {c : Char} (neutral : Neutral c)

include neutral

theorem not_interior : isInterior c = false := by
  have ascii : Unicode.isAsciiWord c = false := by
    cases word : Unicode.isAsciiWord c with
    | false => rfl
    | true => exact neutral.not_word.symm.trans (isWord_of_isAsciiWord word) |>.symm
  simp [isInterior, ascii, point, neutral.not_point]

theorem not_sign : isSign c = false := by
  simp [isSign, neutral.not_plus, neutral.not_minus]

theorem not_digit : isDigit c = false := by
  cases digit : isDigit c with
  | false => rfl
  | true => exact neutral.not_interior.symm.trans (isDigit_isInterior digit) |>.symm

theorem run_append (signed : Bool) (a b : Text) : run signed (a ++ c :: b) = run signed a := by
  induction a generalizing signed with
  | nil => simp [run, neutral.not_interior, neutral.not_sign]
  | cons d ds ih => simp only [List.cons_append, run, ih]

theorem starts_append (before : Option Char) (d : Char) (a b : Text) :
    starts before (d :: (a ++ c :: b)) = starts before (d :: a) := by
  cases a with
  | nil => simp [starts, neutral.not_digit]
  | cons e es => rfl

theorem starts_self (before : Option Char) (b : Text) : starts before (c :: b) = false := by
  simp [starts, neutral.not_digit, point, neutral.not_point]

theorem after_append (done a b : Text) :
    after done (a ++ c :: b) = after done a ++ after (done ++ a ++ [c]) b := by
  induction done, a using walk_induction with
  | nil done =>
    rw [after_nil, List.nil_append, List.nil_append, List.append_nil,
      after_skip (neutral.starts_self _ b)]
  | skip done d a missing ih =>
    have missing' : starts done.getLast? (d :: (a ++ c :: b)) = false :=
      (neutral.starts_append _ d a b).trans missing
    rw [after_skip missing, List.cons_append, after_skip missing', ih]
    simp
  | found done chars rest same begun ended ih =>
    have same' : run false (chars ++ (rest ++ c :: b)) = chars := by
      rw [← List.append_assoc, neutral.run_append, same]
    have begun' : starts done.getLast? (chars ++ (rest ++ c :: b)) = true := by
      cases chars with
      | nil => exact absurd (run_pos_of_starts begun) (by rw [same]; simp)
      | cons d chars =>
        rw [← List.append_assoc]
        exact (neutral.starts_append _ d (chars ++ rest) b).trans begun
    rw [after_found same begun, List.append_assoc, after_found same' begun', ih]
    simp

end Neutral

theorem after_append_left (front done text : Text)
    (free : front.getLast?.any Unicode.isWord = false) :
    after (front ++ done) text = (after done text).map fun ends =>
      (Text.byteLength front + ends.1, Text.byteLength front + ends.2) := by
  have starts_eq (done text : Text) :
      starts (front ++ done).getLast? text = starts done.getLast? text := by
    cases done using List.reverseRecOn with
    | nil =>
      cases text with
      | nil => rfl
      | cons c cs => simp [starts, free]
    | append_singleton done c => simp
  induction done, text using walk_induction with
  | nil done => simp [after_nil]
  | skip done c cs missing ih =>
    rw [after_skip missing, after_skip ((starts_eq done _).trans missing), List.append_assoc, ih]
  | found done chars rest same begun ended ih =>
    rw [after_found same begun, after_found same ((starts_eq done _).trans begun),
      List.append_assoc, ih]
    simp

theorem all_append {c : Char} (neutral : Neutral c) (a b : Text) :
    all (a ++ c :: b) = all a ++ (all b).map fun ends =>
      (Text.byteLength (a ++ [c]) + ends.1, Text.byteLength (a ++ [c]) + ends.2) := by
  have behind := after_append_left (a ++ [c]) [] b (by simp [neutral.not_word])
  rw [List.append_nil] at behind
  rw [all_eq_after, neutral.after_append, List.nil_append, behind]
  rfl

end Candidate

namespace Text.Excerpt

def followedBy (rest : Text) (cut : Text.Excerpt) : Text.Excerpt :=
  { cut with after := cut.after ++ rest }

def precededBy (front : Text) (cut : Text.Excerpt) : Text.Excerpt :=
  { cut with before := front ++ cut.before }

variable (cut : Text.Excerpt)

@[simp] theorem whole_followedBy (rest : Text) :
    (cut.followedBy rest).whole = cut.whole ++ rest := by
  simp [whole, followedBy]

@[simp] theorem whole_precededBy (front : Text) :
    (cut.precededBy front).whole = front ++ cut.whole := by
  simp [whole, precededBy]

theorem ends_precededBy (front : Text) :
    (cut.precededBy front).ends =
      (byteLength front + cut.ends.1, byteLength front + cut.ends.2) := by
  simp [ends, start, stop, precededBy]

theorem outcome_followedBy {c : Char} (neutral : Candidate.Neutral c) (rest : Text) :
    (cut.followedBy (c :: rest)).outcome = cut.outcome := by
  have agree : (cut.after ++ c :: rest).head?.any Unicode.isWord =
      cut.after.head?.any Unicode.isWord := by
    cases cut.after with
    | nil => simp [neutral.not_word]
    | cons d ds => rfl
  have same : parseExcerpt productions (cut.followedBy (c :: rest)) =
      parseExcerpt productions cut := parseExcerpt_congr productions rfl fun _ => agree
  rw [outcome, same]
  rfl

theorem outcome_precededBy (front : Text) :
    (cut.precededBy front).outcome =
      (cut.outcome.1.shift (byteLength front), cut.outcome.2) :=
  outcome_moved (byteLength_append front cut.before) rfl fun _ => rfl

end Text.Excerpt

namespace Candidate

theorem cuts_append {c : Char} (neutral : Neutral c) {a b : Text} {early late : List Text.Excerpt}
    (first : Cuts a early) (second : Cuts b late) :
    Cuts (a ++ c :: b)
      (early.map (Text.Excerpt.followedBy (c :: b)) ++
        late.map (Text.Excerpt.precededBy (a ++ [c]))) where
  ends_eq := by
    rw [all_append neutral, ← first.ends_eq, ← second.ends_eq, List.map_append, List.map_map,
      List.map_map, List.map_map]
    congr 1
    exact List.map_congr_left fun cut _ => cut.ends_precededBy _
  whole_eq := by
    intro cut member
    rcases List.mem_append.1 member with front | back
    next =>
      obtain ⟨source, known, rfl⟩ := List.mem_map.1 front
      rw [source.whole_followedBy, first.whole_eq source known]
    next =>
      obtain ⟨source, known, rfl⟩ := List.mem_map.1 back
      rw [source.whole_precededBy, second.whole_eq source known, List.append_assoc]
      rfl
  chars := by
    intro cut member
    rcases List.mem_append.1 member with front | back
    next =>
      obtain ⟨source, known, rfl⟩ := List.mem_map.1 front
      exact first.chars source known
    next =>
      obtain ⟨source, known, rfl⟩ := List.mem_map.1 back
      exact second.chars source known

end Candidate

open Candidate

theorem findAll_append_neutral (a b : Text) {c : Char} (neutral : Neutral c)
    (fits : Text.byteLength (a ++ c :: b) ≤ Range.largestBound) :
    ∃ early late, findAll a = .ok early ∧ findAll b = .ok late ∧
      findAll (a ++ c :: b) =
        .ok (early ++ late.map (Tree.shift (Text.byteLength a + c.utf8Size))) ∧
      ∀ tree ∈ early ++ late.map (Tree.shift (Text.byteLength a + c.utf8Size)),
        ∃ chars, tree.range.text (a ++ c :: b) = .ok chars ∧ c ∉ chars := by
  obtain ⟨early, first⟩ := exists_cuts a
  obtain ⟨late, second⟩ := exists_cuts b
  have known := cuts_append neutral first second
  have width : Text.byteLength (a ++ c :: b) =
      Text.byteLength a + (c.utf8Size + Text.byteLength b) := Text.byteLength_append a (c :: b)
  have gap : Text.byteLength (a ++ [c]) = Text.byteLength a + c.utf8Size :=
    Text.byteLength_append a [c]
  have trees : (early.map (Text.Excerpt.followedBy (c :: b)) ++
      late.map (Text.Excerpt.precededBy (a ++ [c]))).map (fun cut => cut.outcome.1) =
      early.map (fun cut => cut.outcome.1) ++
        (late.map fun cut => cut.outcome.1).map
          (Tree.shift (Text.byteLength a + c.utf8Size)) := by
    simp only [List.map_append, List.map_map, Function.comp_def,
      Text.Excerpt.outcome_followedBy _ neutral, Text.Excerpt.outcome_precededBy, gap]
  refine ⟨_, _, findAll_cuts first (by omega), findAll_cuts second (by omega), ?_, ?_⟩
  next => rw [findAll_cuts known fits, trees]
  next =>
    rw [← trees]
    intro tree member
    obtain ⟨cut, listed, rfl⟩ := List.mem_map.1 member
    refine ⟨cut.inside, ?_, fun inside => ?_⟩
    next =>
      rw [cut.outcome_range, ← known.whole_eq cut listed]
      exact Range.text_whole cut
    next =>
      rcases known.chars cut listed c inside with interior | sign
      next => exact absurd (neutral.not_interior.symm.trans interior) (by decide)
      next => exact absurd (neutral.not_sign.symm.trans sign) (by decide)

theorem findAll_append_newline :
    Neutral '\n' ∧ Text.byteLength ['1', 'i', '\n', '.', '5'] ≤ Range.largestBound ∧
      ∃ early late, findAll ['1', 'i'] = .ok early ∧ findAll ['.', '5'] = .ok late ∧
        findAll ['1', 'i', '\n', '.', '5'] = .ok (early ++ late.map (Tree.shift 3)) := by
  have neutral : Neutral '\n' := ⟨by decide, by decide, by decide, by decide⟩
  obtain ⟨early, late, first, second, both, -⟩ :=
    findAll_append_neutral ['1', 'i'] ['.', '5'] neutral (by decide)
  exact ⟨neutral, by decide, early, late, first, second, both⟩

end Numeral
