import Numeral.Proofs.Grammar.Unseen
import Numeral.Proofs.Search.Totality

set_option autoImplicit false

namespace Numeral

open Grammar

def Text.Excerpt.map (f : Char → Char) (cut : Text.Excerpt) : Text.Excerpt :=
  ⟨cut.before.map f, cut.inside.map f, cut.after.map f⟩

section

variable {f : Char → Char} (unseen : Unseen f)

include unseen

namespace Text

theorem byteLength_map (text : Text) : byteLength (text.map f) = byteLength text := by
  induction text with
  | nil => rfl
  | cons c cs ih => rw [List.map_cons, byteLength, ih, unseen.width, byteLength]

theorem splitAt?_map (text : Text) (offset : Nat) :
    splitAt? (text.map f) offset =
      (splitAt? text offset).map fun parts => (parts.1.map f, parts.2.map f) := by
  induction text generalizing offset with
  | nil => cases offset <;> rfl
  | cons c cs ih =>
    cases offset with
    | zero => rfl
    | succ offset =>
      simp only [List.map_cons, splitAt?, unseen.width, ih]
      split_ifs
      next => simp [Function.comp_def]
      next => rfl

namespace Excerpt

variable (cut : Excerpt)

omit unseen in
theorem whole_map : (cut.map f).whole = cut.whole.map f := by
  simp [whole, map]

theorem start_map : (cut.map f).start = cut.start :=
  byteLength_map unseen cut.before

theorem stop_map : (cut.map f).stop = cut.stop := by
  rw [stop, map, ← List.map_append, byteLength_map unseen, stop]

theorem range_map : (cut.map f).range = cut.range := by
  rw [range, cut.start_map unseen, cut.stop_map unseen, range]

end Excerpt

end Text

theorem separatorEntries_map (start : Nat) (text : Text) :
    separatorEntries start (text.map f) = separatorEntries start text := by
  induction text generalizing start with
  | nil => rfl
  | cons c cs ih =>
    simp only [List.map_cons, separatorEntries, unseen.width,
      unseen.mark_iff separator (by simp), ih]

namespace Grammar

theorem Piece.allEntries_map (start : Nat) (pieces : List Piece) :
    Piece.allEntries start (pieces.map (Piece.map f)) = Piece.allEntries start pieces := by
  induction pieces generalizing start with
  | nil => rfl
  | cons piece rest ih =>
    have entries : (piece.map f).entries start = piece.entries start := by
      simp only [Piece.entries, Piece.map, separatorEntries_map unseen, Text.byteLength_map unseen]
    rw [List.map_cons, allEntries, allEntries, entries, ih, Piece.map, Text.byteLength_map unseen]

theorem parseExcerpt_map (table : List Production) (cut : Text.Excerpt) :
    parseExcerpt table (cut.map f) = (parseExcerpt table cut).map f (Reading.map f) := by
  have word : (cut.after.map f).head?.any Unicode.isWord = cut.after.head?.any Unicode.isWord := by
    simp only [List.head?_map, Option.any_map, unseen.isWord_eq]
  rw [parseExcerpt, Text.Excerpt.map, word, parse_map unseen]
  rfl

end Grammar

theorem Tree.ofReading_map (range : Range) (reading : Reading) :
    Tree.ofReading range (reading.map f) = Tree.ofReading range reading := by
  simp only [Tree.ofReading, Reading.map, Piece.allEntries_map unseen]

namespace Miss

omit unseen in
theorem furthest_map (misses : List Miss) :
    furthest (misses.map (Miss.map f)) = (furthest misses).map (Miss.map f) := by
  induction misses with
  | nil => rfl
  | cons miss rest ih =>
    simp only [List.map_cons, furthest, ih]
    cases furthest rest with
    | none => rfl
    | some later =>
      simp only [Option.map_some, Miss.map, List.length_map]
      split_ifs <;> rfl

theorem obstacle_map (start : Nat) (miss : Miss) :
    (miss.map f).obstacle start = miss.obstacle start := by
  simp only [obstacle, Miss.map, Text.byteLength_map unseen]

end Miss

theorem outcome_map (cut : Text.Excerpt) :
    (cut.map f).outcome = (cut.outcome.1, cut.outcome.2.map (Miss.map f)) := by
  unfold Text.Excerpt.outcome outcome
  rw [parseExcerpt_map unseen, cut.range_map unseen]
  cases found : (parseExcerpt productions cut).result with
  | none => simp [Trial.map, found, Miss.furthest_map]
  | some reading => simp [Trial.map, found, Tree.ofReading_map unseen]

theorem Range.Flaw.map {text : Text} {start stop : Nat} {fault : Fault}
    (flaw : Flaw text start stop fault) : Flaw (text.map f) start stop fault := by
  have boundary (offset : Nat) : Text.IsBoundary (text.map f) offset ↔ text.IsBoundary offset := by
    rw [Text.isBoundary_iff, Text.isBoundary_iff, Text.splitAt?_map unseen, Option.isSome_map]
  have length := Text.byteLength_map unseen text
  cases flaw with
  | start large => exact .start large
  | stop first large => exact .stop first large
  | order first last backward => exact .order first last backward
  | bounds last forward outside =>
    rw [← length] at outside ⊢
    exact .bounds last forward outside
  | boundary last forward inside apart =>
    rw [← length] at inside
    exact .boundary last forward inside (by rwa [boundary, boundary])

section

variable {text : Text} {start stop : Nat}

theorem Range.Decides.eq_of_map {α : Type} {outcome other : Except Fault α}
    (decides : Decides text start stop outcome) (changed : Decides (text.map f) start stop other)
    (cuts : ∀ cut : Text.Excerpt, cut.whole = text → cut.start = start → cut.stop = stop →
      cut.stop ≤ largestBound → other = outcome) : other = outcome := by
  rcases flaw_or_cut text start stop with ⟨fault, flaw⟩ | ⟨cut, whole, first, last, fits⟩
  next => rw [(decides fault).2 flaw, (changed fault).2 (flaw.map unseen)]
  next => exact cuts cut whole first last fits

theorem classify_map : classify (text.map f) start stop = classify text start stop := by
  refine (classify_decides _ _ _).eq_of_map unseen (classify_decides _ _ _) ?_
  rintro cut rfl rfl rfl fits
  have changed := classify_whole (cut.map f) (by rwa [cut.stop_map unseen])
  rw [cut.whole_map, cut.start_map unseen, cut.stop_map unseen, outcome_map unseen] at changed
  rw [changed, classify_whole cut fits]

theorem classifyAs_map (form : Form) :
    classifyAs (text.map f) start stop form = classifyAs text start stop form := by
  refine (classifyAs_decides _ _ _ form).eq_of_map unseen (classifyAs_decides _ _ _ form) ?_
  rintro cut rfl rfl rfl fits
  have changed := classifyAs_whole (cut.map f) (by rwa [cut.stop_map unseen]) form
  rw [cut.whole_map, cut.start_map unseen, cut.stop_map unseen, cut.range_map unseen,
    parseExcerpt_map unseen, Trial.map, Option.map_map] at changed
  rw [changed, classifyAs_whole cut fits form]
  simp only [Function.comp_def, Tree.ofReading_map unseen]

namespace Search

theorem classifyBetween_map :
    classifyBetween (text.map f) start stop = classifyBetween text start stop := by
  refine (classifyBetween_decides _ _ _).eq_of_map unseen (classifyBetween_decides _ _ _) ?_
  rintro cut rfl rfl rfl fits
  have changed := classifyBetween_whole (cut.map f) (by rwa [cut.stop_map unseen])
  rw [cut.whole_map, cut.start_map unseen, cut.stop_map unseen, outcome_map unseen,
    Option.map_map] at changed
  rw [changed, classifyBetween_whole cut fits]
  simp only [Function.comp_def, Miss.obstacle_map unseen]

theorem classifyAsBetween_map (form : Form) :
    classifyAsBetween (text.map f) start stop form = classifyAsBetween text start stop form := by
  refine (classifyAsBetween_decides _ _ _ form).eq_of_map unseen
    (classifyAsBetween_decides _ _ _ form) ?_
  rintro cut rfl rfl rfl fits
  have changed := classifyAsBetween_whole (cut.map f) (by rwa [cut.stop_map unseen]) form
  rw [cut.whole_map, cut.start_map unseen, cut.stop_map unseen, cut.range_map unseen,
    parseExcerpt_map unseen, Trial.map, Option.map_map] at changed
  rw [changed, classifyAsBetween_whole cut fits form]
  simp only [Function.comp_def, Tree.ofReading_map unseen]

end Search

end

namespace Candidate

theorem isInterior_map (c : Char) : isInterior (f c) = isInterior c := by
  rw [isInterior, isInterior, unseen.isAsciiWord_eq, unseen.beq_eq point (by simp)]

theorem isSign_map (c : Char) : isSign (f c) = isSign c := by
  rw [isSign, isSign, unseen.beq_eq '+' (by simp), unseen.beq_eq '-' (by simp)]

-- the markers of a sign are those of an exponent
theorem isMarker_map (c : Char) : isMarker (f c) = isMarker c := by
  have decimal := unseen.marker_iff .decimal c
  have hexadecimal := unseen.marker_iff .hexadecimal c
  simp only [Radix.exponentMarkers, List.mem_cons, List.not_mem_nil, or_false] at *
  rw [Bool.eq_iff_iff]
  simp only [isMarker, Bool.or_eq_true, beq_iff_eq, or_assoc]
  grind

theorem run_map (signed : Bool) (text : Text) :
    run signed (text.map f) = (run signed text).map f := by
  induction text generalizing signed with
  | nil => rfl
  | cons c cs ih =>
    simp only [List.map_cons, run, isInterior_map unseen, isSign_map unseen, isMarker_map unseen,
      ih]
    split_ifs <;> rfl

theorem starts_map (before : Option Char) (text : Text) :
    starts (before.map f) (text.map f) = starts before text := by
  cases text with
  | nil => rfl
  | cons c cs =>
    have digit (d : Char) : isDigit (f d) = isDigit d := unseen.isDigit_eq .decimal d
    simp only [List.map_cons, starts, Option.any_map, List.head?_map, unseen.isWord_eq, digit,
      unseen.beq_eq point (by simp)]

theorem scan_map (text : Text) (offset : Nat) : scan (text.map f) offset = scan text offset := by
  unfold scan
  rw [Text.splitAt?_map unseen, Option.bind_map]
  refine congrArg _ (funext fun parts => ?_)
  simp only [Function.comp_def, List.getLast?_map, starts_map unseen, run_map unseen,
    Text.byteLength_map unseen]

theorem after_map (done rest : Text) : after (done.map f) (rest.map f) = after done rest := by
  induction done, rest using walk_induction with
  | nil done => rw [List.map_nil, after_nil, after_nil]
  | skip done c cs missing ih =>
    have changed := starts_map unseen done.getLast? (c :: cs)
    rw [← List.getLast?_map, missing, List.map_cons] at changed
    rw [List.map_cons, after_skip changed, after_skip missing, ← ih, List.map_append]
    rfl
  | found done chars rest same begun _ ih =>
    have changed := starts_map unseen done.getLast? (chars ++ rest)
    have runs := run_map unseen false (chars ++ rest)
    rw [← List.getLast?_map, begun, List.map_append] at changed
    rw [same, List.map_append] at runs
    rw [List.map_append, after_found runs changed, after_found same begun, ← ih, ← List.map_append,
      Text.byteLength_map unseen, Text.byteLength_map unseen]

end Candidate

variable (text : Text)

theorem recognize_map (offset : Nat) : recognize (text.map f) offset = recognize text offset := by
  unfold recognize
  rw [Candidate.scan_map unseen]
  simp only [classify_map unseen]

theorem findAll_map : findAll (text.map f) = findAll text := by
  have same : Candidate.all (text.map f) = Candidate.all text := Candidate.after_map unseen [] text
  unfold findAll
  rw [same]
  simp only [classify_map unseen]

end

/-- The same character, or the same letter of the other case. The unit has only one. -/
def Recased (c d : Char) : Prop :=
  d = c ∨ c ≠ 'i' ∧ c ≠ 'I' ∧ (d = c.toLower ∨ d = c.toUpper)

def lowered (c : Char) : Char :=
  if c = 'I' then c else c.toLower

def asciiLetters : List Char :=
  (List.range 26).map (fun n => Char.ofNat (65 + n)) ++
    (List.range 26).map fun n => Char.ofNat (97 + n)

theorem letter_or_caseless (c : Char) :
    c ∈ asciiLetters ∨ c.toLower = c ∧ c.toUpper = c := by
  have letter {first : Nat} (after : first ≤ c.toNat) (before : c.toNat < first + 26) :
      c ∈ (List.range 26).map fun n => Char.ofNat (first + n) := by
    refine List.mem_map.2 ⟨c.toNat - first, List.mem_range.2 (by omega), ?_⟩
    rw [Nat.add_sub_cancel' after, Char.ofNat_toNat]
  by_cases upper : 65 ≤ c.toNat ∧ c.toNat < 65 + 26
  next => exact .inl (List.mem_append_left _ (letter upper.1 upper.2))
  next =>
    by_cases lower : 97 ≤ c.toNat ∧ c.toNat < 97 + 26
    next => exact .inl (List.mem_append_right _ (letter lower.1 lower.2))
    next =>
      exact .inr ⟨dif_neg fun within => upper ⟨within.1, Nat.lt_succ_of_le within.2⟩,
        dif_neg fun within => lower ⟨within.1, Nat.lt_succ_of_le within.2⟩⟩

theorem lowered_congr {α : Type} [DecidableEq α] (view : Char → α)
    (letters : asciiLetters.all fun c => view (lowered c) = view c) (c : Char) :
    view (lowered c) = view c := by
  rcases letter_or_caseless c with letter | ⟨caseless, -⟩
  next => exact of_decide_eq_true (List.all_eq_true.1 letters c letter)
  next =>
    unfold lowered
    split_ifs
    next => rfl
    next => rw [caseless]

theorem unseen_lowered : Unseen lowered where
  width := lowered_congr Char.utf8Size (by decide +kernel)
  mark_iff mark known c := by
    simp only [List.mem_cons, List.not_mem_nil, or_false] at known
    have letters : asciiLetters.all fun c => decide (lowered c = mark) = decide (c = mark) := by
      rcases known with rfl | rfl | rfl | rfl | rfl | rfl <;> decide +kernel
    have same := lowered_congr (fun c => decide (c = mark)) letters c
    rwa [decide_eq_decide] at same
  isDigit_eq radix := lowered_congr radix.isDigit (by cases radix <;> decide +kernel)
  letter_iff radix c := by
    have same := lowered_congr (fun c => decide (c ∈ radix.prefixLetters))
      (by cases radix <;> decide +kernel) c
    rwa [decide_eq_decide] at same
  marker_iff radix c := by
    have same := lowered_congr (fun c => decide (c ∈ radix.exponentMarkers))
      (by cases radix <;> decide +kernel) c
    rwa [decide_eq_decide] at same
  isWord_eq := lowered_congr Unicode.isWord (by decide +kernel)
  isAsciiWord_eq := lowered_congr Unicode.isAsciiWord (by decide +kernel)

theorem lowered_eq {c d : Char} (recased : Recased c d) : lowered d = lowered c := by
  rcases recased with rfl | ⟨small, big, cased⟩
  next => rfl
  next =>
    rcases letter_or_caseless c with letter | ⟨lower, upper⟩
    next =>
      have letters : asciiLetters.all fun c => c ≠ 'i' → c ≠ 'I' →
          lowered c.toLower = lowered c ∧ lowered c.toUpper = lowered c := by decide +kernel
      have same := of_decide_eq_true (List.all_eq_true.1 letters c letter) small big
      rcases cased with rfl | rfl
      next => exact same.1
      next => exact same.2
    next =>
      rw [lower, upper, or_self] at cased
      rw [cased]

theorem lowered_text {text other : Text} (recased : List.Forall₂ Recased text other) :
    other.map lowered = text.map lowered := by
  induction recased with
  | nil => rfl
  | cons first _ ih => rw [List.map_cons, List.map_cons, lowered_eq first, ih]

theorem classify_recased {text other : Text} (recased : List.Forall₂ Recased text other) :
    (∀ offset, Candidate.scan other offset = Candidate.scan text offset) ∧
      (∀ start stop,
        classify other start stop = classify text start stop ∧
        Search.classifyBetween other start stop = Search.classifyBetween text start stop ∧
        ∀ form, classifyAs other start stop form = classifyAs text start stop form ∧
          Search.classifyAsBetween other start stop form =
            Search.classifyAsBetween text start stop form) ∧
      (∀ offset, recognize other offset = recognize text offset) ∧
      findAll other = findAll text := by
  have same := lowered_text recased
  have unseen := unseen_lowered
  refine ⟨fun offset => ?_, fun start stop => ⟨?_, ?_, fun form => ⟨?_, ?_⟩⟩, fun offset => ?_, ?_⟩
  next => rw [← Candidate.scan_map unseen, same, Candidate.scan_map unseen]
  next => rw [← classify_map unseen, same, classify_map unseen]
  next => rw [← Search.classifyBetween_map unseen, same, Search.classifyBetween_map unseen]
  next => rw [← classifyAs_map unseen, same, classifyAs_map unseen]
  next => rw [← Search.classifyAsBetween_map unseen, same, Search.classifyAsBetween_map unseen]
  next => rw [← recognize_map unseen, same, recognize_map unseen]
  next => rw [← findAll_map unseen, same, findAll_map unseen]

theorem classify_recased_signed :
    List.Forall₂ Recased ['0', 'x', 'A', 'p', '-', '1'] ['0', 'X', 'a', 'P', '-', '1'] ∧
      classify ['0', 'X', 'a', 'P', '-', '1'] 0 6 = classify ['0', 'x', 'A', 'p', '-', '1'] 0 6 ∧
      Candidate.scan ['0', 'X', 'a', 'P', '-', '1'] 0 = some 6 := by
  have recased :
      List.Forall₂ Recased ['0', 'x', 'A', 'p', '-', '1'] ['0', 'X', 'a', 'P', '-', '1'] := by
    unfold Recased
    simp
  obtain ⟨scanned, classified, -, -⟩ := classify_recased recased
  exact ⟨recased, (classified 0 6).1, (scanned 0).trans rfl⟩

end Numeral
