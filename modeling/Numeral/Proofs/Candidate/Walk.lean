import Mathlib.Data.List.DropRight
import Numeral.Proofs.Text.Excerpt

set_option autoImplicit false

namespace Numeral

namespace Candidate

theorem isDigit_isInterior {c : Char} (digit : isDigit c = true) : isInterior c = true := by
  simp only [isDigit, Radix.isDigit, Bool.and_eq_true] at digit
  simp [isInterior, Unicode.isAsciiWord, digit.1, digit.2]

theorem isDigit_isWord {c : Char} (digit : isDigit c = true) : Unicode.isWord c = true := by
  simp only [isDigit, Radix.isDigit, Bool.and_eq_true, decide_eq_true_eq] at digit
  have ascii : c.toNat < 0x80 := by
    have below : c.toNat ≤ '9'.toNat := digit.2
    have nine : '9'.toNat = 57 := rfl
    omega
  simp [Unicode.isWord, ascii, Unicode.isAsciiWord, digit.1, digit.2]

theorem starts_head {before : Option Char} {text : Text} (found : starts before text = true) :
    ∃ c, text.head? = some c ∧ isInterior c = true := by
  cases text with
  | nil => simp [starts] at found
  | cons c cs =>
    refine ⟨c, rfl, ?_⟩
    simp only [starts, Bool.and_eq_true, Bool.or_eq_true] at found
    rcases found.2 with digit | ⟨pointed, -⟩
    next => exact isDigit_isInterior digit
    next => simp [isInterior, pointed]

theorem starts_before {before : Option Char} {text : Text} (found : starts before text = true) :
    before.any Unicode.isWord = false := by
  cases text with
  | nil => simp [starts] at found
  | cons c cs =>
    simp only [starts, Bool.and_eq_true, Bool.not_eq_true'] at found
    exact found.1

theorem starts_digit {before : Option Char} {d : Char} {cs : Text} (digit : isDigit d = true)
    (free : before.any Unicode.isWord = false) : starts before (d :: cs) = true := by
  simp [starts, digit, free]

theorem run_rest (signed : Bool) (text : Text) :
    ∃ rest, text = run signed text ++ rest ∧ ∀ c, rest.head? = some c → isInterior c = false := by
  induction text generalizing signed with
  | nil => exact ⟨[], by simp [run], by simp⟩
  | cons c cs ih =>
    by_cases inside : (isInterior c || (signed && isSign c)) = true
    next =>
      obtain ⟨rest, split, ends⟩ := ih (isMarker c)
      refine ⟨rest, ?_, ends⟩
      rw [run, if_pos inside, List.cons_append, ← split]
    next =>
      refine ⟨c :: cs, by rw [run, if_neg inside, List.nil_append], ?_⟩
      rintro _ ⟨⟩
      simp only [Bool.or_eq_true, not_or, Bool.not_eq_true] at inside
      exact inside.1

theorem scan_eq_some {text : Text} {start stop : Nat} (found : scan text start = some stop) :
    ∃ front back, text = front ++ back ∧ Text.byteLength front = start ∧
      starts front.getLast? back = true ∧
      stop = start + Text.byteLength (run false back) := by
  obtain ⟨⟨front, back⟩, split, rest⟩ := Option.bind_eq_some_iff.1 found
  obtain ⟨whole, length⟩ := Text.eq_of_splitAt? split
  by_cases begun : starts front.getLast? back = true
  next =>
    simp only [begun, if_true, Option.some.injEq] at rest
    exact ⟨front, back, whole, length, begun, rest.symm⟩
  next => simp [begun] at rest

theorem scan_append (front back : Text) :
    scan (front ++ back) (Text.byteLength front) =
      if starts front.getLast? back = true then
        some (Text.byteLength (front ++ run false back))
      else none := by
  simp [scan, Text.splitAt?_byteLength]

theorem scan_lt {text : Text} {start stop : Nat} (found : scan text start = some stop) :
    start < stop := by
  obtain ⟨front, back, -, -, begun, rfl⟩ := scan_eq_some found
  have nonempty := List.ne_nil_of_length_pos (run_pos_of_starts begun)
  have positive := Text.byteLength_pos nonempty
  omega

def after (done rest : Text) : List (Nat × Nat) :=
  allFrom (Text.byteLength done) done.getLast? rest

theorem all_eq_after (text : Text) : all text = after [] text := rfl

theorem after_nil (done : Text) : after done [] = [] := by
  rw [after, allFrom, dif_neg (by simp [starts])]

theorem after_skip {done cs : Text} {c : Char} (missing : starts done.getLast? (c :: cs) = false) :
    after done (c :: cs) = after (done ++ [c]) cs := by
  rw [after, allFrom, dif_neg (by simp [missing]), after]
  simp [Text.byteLength]

theorem after_found {done chars rest : Text} (same : run false (chars ++ rest) = chars)
    (begun : starts done.getLast? (chars ++ rest) = true) :
    after done (chars ++ rest) =
      (Text.byteLength done, Text.byteLength (done ++ chars)) :: after (done ++ chars) rest := by
  have nonempty := List.ne_nil_of_length_pos (run_pos_of_starts begun)
  rw [same] at nonempty
  rw [after, allFrom, dif_pos begun, after]
  simp [same, List.getLast?_append_of_ne_nil _ nonempty]

theorem walk_induction {motive : Text → Text → Prop} (nil : ∀ done, motive done [])
    (skip : ∀ done c cs, starts done.getLast? (c :: cs) = false → motive (done ++ [c]) cs →
      motive done (c :: cs))
    (found : ∀ done chars rest, run false (chars ++ rest) = chars →
      starts done.getLast? (chars ++ rest) = true →
      (∀ c, rest.head? = some c → isInterior c = false) → motive (done ++ chars) rest →
      motive done (chars ++ rest))
    (done text : Text) : motive done text := by
  by_cases begun : starts done.getLast? text = true
  next =>
    obtain ⟨rest, split, ends⟩ := run_rest false text
    -- a run is never empty
    have shorter : rest.length < text.length := by
      have positive := run_pos_of_starts begun
      have length := congrArg List.length split
      rw [List.length_append] at length
      omega
    have later := walk_induction nil skip found (done ++ run false text) rest
    have step := found done (run false text) rest
    rw [← split] at step
    exact step rfl begun ends later
  next =>
    cases text with
    | nil => exact nil done
    | cons c cs =>
      exact skip done c cs (by simpa using begun) (walk_induction nil skip found (done ++ [c]) cs)
termination_by text.length

theorem after_scan (done text : Text) :
    ∀ ends ∈ after done text,
      scan (done ++ text) ends.1 = some ends.2 ∧ Text.byteLength done ≤ ends.1 := by
  induction done, text using walk_induction with
  | nil done => simp [after_nil]
  | skip done c cs missing ih =>
    intro ends member
    rw [after_skip missing] at member
    have later := ih ends member
    rw [List.append_assoc, Text.byteLength_append] at later
    exact ⟨later.1, by omega⟩
  | found done chars rest same begun _ ih =>
    intro ends member
    rw [after_found same begun] at member
    rcases List.mem_cons.1 member with rfl | member
    next =>
      refine ⟨?_, Nat.le_refl _⟩
      rw [scan_append, if_pos begun, same]
    next =>
      have later := ih ends member
      rw [List.append_assoc, Text.byteLength_append] at later
      exact ⟨later.1, by omega⟩

-- What follows a run cannot start a candidate, so the next one is further on.
theorem after_separated (done text : Text) :
    (after done text).Pairwise fun first second => first.2 < second.1 := by
  induction done, text using walk_induction with
  | nil done => simp [after_nil]
  | skip done c cs missing ih => rwa [after_skip missing]
  | found done chars rest same begun ended ih =>
    rw [after_found same begun]
    refine .cons ?_ ih
    intro ends member
    obtain ⟨scanned, bound⟩ := after_scan (done ++ chars) rest ends member
    refine Nat.lt_of_le_of_ne bound fun touching => ?_
    change Text.byteLength (done ++ chars) = ends.1 at touching
    rw [← touching, scan_append] at scanned
    by_cases again : starts (done ++ chars).getLast? rest = true
    next =>
      obtain ⟨c, head, inside⟩ := starts_head again
      rw [ended c head] at inside
      exact absurd inside (by decide)
    next =>
      rw [if_neg again] at scanned
      exact absurd scanned (by simp)

theorem after_complete (done text : Text) :
    ∀ front back, text = front ++ back → starts (done ++ front).getLast? back = true →
      ∃ ends ∈ after done text,
        ends.1 ≤ Text.byteLength (done ++ front) ∧ Text.byteLength (done ++ front) < ends.2 := by
  induction done, text using walk_induction with
  | nil done =>
    intro front back same begun
    obtain ⟨rfl, rfl⟩ := List.append_eq_nil_iff.1 same.symm
    simp [starts] at begun
  | skip done c cs missing ih =>
    intro front back same begun
    cases front with
    | nil =>
      rw [List.append_nil, ← List.nil_append back, ← same, missing] at begun
      exact absurd begun (by decide)
    | cons d front =>
      obtain ⟨rfl, rfl⟩ := List.cons.inj same
      have later := ih front back rfl
      rw [List.append_assoc, List.singleton_append] at later
      rw [after_skip missing]
      exact later begun
  | found done chars rest same begun _ ih =>
    intro front back split begun'
    rw [after_found same begun]
    -- the position is in this candidate, or the walk gets to it later
    by_cases within : Text.byteLength (done ++ front) < Text.byteLength (done ++ chars)
    next =>
      refine ⟨_, List.mem_cons_self, ?_, within⟩
      change Text.byteLength done ≤ _
      rw [Text.byteLength_append]
      omega
    next =>
      have order : Text.byteLength chars ≤ Text.byteLength front := by
        simp only [Text.byteLength_append] at within
        omega
      obtain ⟨between, rfl, rfl⟩ := Text.append_of_byteLength_le split order
      have later := ih between back rfl
      rw [List.append_assoc] at later
      obtain ⟨ends, member, inside⟩ := later begun'
      exact ⟨ends, List.mem_cons_of_mem _ member, inside⟩

theorem maximal_digits (before after : Text) {d : Char} (digit : isDigit d = true) :
    ∃ front digits rest, before ++ d :: after = front ++ digits ++ rest ∧
      (∀ c ∈ digits, isDigit c = true) ∧
      (∀ c, front.getLast? = some c → isDigit c = false) ∧
      (∀ c, rest.head? = some c → isDigit c = false) ∧
      Text.byteLength front ≤ Text.byteLength before ∧
      Text.byteLength before < Text.byteLength (front ++ digits) := by
  have early : before = before.rdropWhile isDigit ++ before.rtakeWhile isDigit :=
    (List.rdropWhile_append_rtakeWhile ..).symm
  have late : after = after.takeWhile isDigit ++ after.dropWhile isDigit :=
    List.takeWhile_append_dropWhile.symm
  have width := congrArg Text.byteLength early
  rw [Text.byteLength_append] at width
  refine ⟨before.rdropWhile isDigit, before.rtakeWhile isDigit ++ d :: after.takeWhile isDigit,
    after.dropWhile isDigit, ?_, ?_, ?_, ?_, by omega, ?_⟩
  next =>
    rw [← List.append_assoc, ← early, List.append_assoc, List.cons_append, ← late]
  next =>
    intro c inside
    obtain here | rfl | there := by simpa using inside
    next => exact List.mem_rtakeWhile_imp here
    next => exact digit
    next => exact List.mem_takeWhile_imp there
  next =>
    intro c last
    have nonempty : before.rdropWhile isDigit ≠ [] := by
      intro nothing
      simp [nothing] at last
    rw [List.getLast?_eq_some_getLast nonempty] at last
    obtain rfl := Option.some.inj last
    simpa using List.rdropWhile_last_not isDigit before nonempty
  next =>
    intro c head
    have stopped := List.head?_dropWhile_not isDigit after
    rwa [head] at stopped
  next =>
    have positive : 0 < Text.byteLength (d :: after.takeWhile isDigit) :=
      Text.byteLength_pos (by simp)
    simp only [Text.byteLength_append]
    omega

theorem digits_around_cut {a b front digits rest : Text} (whole : a ++ b = front ++ digits ++ rest)
    (all : ∀ d ∈ digits, isDigit d = true)
    (later : Text.byteLength front < Text.byteLength a)
    (earlier : Text.byteLength a < Text.byteLength (front ++ digits)) :
    (∃ c, a.getLast? = some c ∧ isDigit c = true) ∧
      ∃ c, b.head? = some c ∧ isDigit c = true := by
  obtain ⟨left, right, rfl, rfl, rfl⟩ :=
    Text.cut_inside whole (Nat.le_of_lt later) (Nat.le_of_lt earlier)
  simp only [Text.byteLength_append] at later earlier
  constructor
  next =>
    have nonempty : left ≠ [] := by
      rintro rfl
      simp [Text.byteLength] at later
    have last := List.getLast?_eq_some_getLast nonempty
    exact ⟨left.getLast nonempty, by rw [List.getLast?_append_of_ne_nil _ nonempty, last],
      all _ (List.mem_append_left _ (List.getLast_mem nonempty))⟩
  next =>
    cases right with
    | nil => simp [Text.byteLength] at earlier
    | cons c right => exact ⟨c, rfl, all c (by simp)⟩

theorem scan_takes_digits {text front digits rest : Text} {start stop offset : Nat}
    (whole : text = front ++ digits ++ rest) (all : ∀ d ∈ digits, isDigit d = true)
    (found : scan text start = some stop) (inside : start ≤ offset ∧ offset < stop)
    (within : Text.byteLength front ≤ offset ∧ offset < Text.byteLength (front ++ digits)) :
    start ≤ Text.byteLength front ∧ Text.byteLength (front ++ digits) ≤ stop := by
  obtain ⟨before, back, split, rfl, begun, rfl⟩ := scan_eq_some found
  obtain ⟨after, runs, ends⟩ := run_rest false back
  constructor
  next =>
    -- it cannot start behind a digit
    by_contra late
    obtain ⟨⟨c, last, digit⟩, -⟩ :=
      digits_around_cut (split.symm.trans whole) all (by omega) (by omega)
    have free := starts_before begun
    rw [last, Option.any_some, isDigit_isWord digit] at free
    exact absurd free (by decide)
  next =>
    -- nor stop in front of one
    by_contra short
    rw [← Text.byteLength_append] at inside short
    have cut : (before ++ run false back) ++ after = front ++ digits ++ rest := by
      rw [List.append_assoc, ← runs, ← split, whole]
    obtain ⟨-, c, head, digit⟩ := digits_around_cut cut all (by omega) (by omega)
    have interior := isDigit_isInterior digit
    rw [ends c head] at interior
    exact absurd interior (by decide)

/-- The offset is in a run of digits that goes on from a word, and none of the run is taken. -/
def Blocked (text : Text) (taken : Nat → Prop) (offset : Nat) : Prop :=
  ∃ front c digits rest, text = (front ++ [c]) ++ digits ++ rest ∧
    Unicode.isWord c = true ∧ isDigit c = false ∧
    (∀ d ∈ digits, isDigit d = true) ∧ (∀ d, rest.head? = some d → isDigit d = false) ∧
    Text.byteLength (front ++ [c]) ≤ offset ∧
    offset < Text.byteLength ((front ++ [c]) ++ digits) ∧
    ∀ other, Text.byteLength (front ++ [c]) ≤ other →
      other < Text.byteLength ((front ++ [c]) ++ digits) → ¬taken other

theorem blocked_of_untaken {text : Text} {d : Char} {offset : Nat} (found : text.HasAt d offset)
    (digit : isDigit d = true)
    (untaken : ¬∃ ends ∈ all text, ends.1 ≤ offset ∧ offset < ends.2) :
    Blocked text (fun other => ∃ ends ∈ all text, ends.1 ≤ other ∧ other < ends.2) offset := by
  obtain ⟨before, after, rfl, rfl⟩ := found
  obtain ⟨front, digits, rest, whole, allDigits, ahead, behind, lower, upper⟩ :=
    maximal_digits before after digit
  rw [whole] at untaken ⊢
  -- a candidate that takes any of the run takes all of it
  have free : ∀ other, Text.byteLength front ≤ other → other < Text.byteLength (front ++ digits) →
      ¬∃ ends ∈ all (front ++ digits ++ rest), ends.1 ≤ other ∧ other < ends.2 := by
    rintro other above below ⟨ends, member, inside⟩
    obtain ⟨scanned, -⟩ := after_scan [] _ ends member
    obtain ⟨begins, covers⟩ := scan_takes_digits rfl allDigits scanned inside ⟨above, below⟩
    exact untaken ⟨ends, member, by omega, by omega⟩
  have nonempty : Text.byteLength front < Text.byteLength (front ++ digits) := by omega
  -- with no word in front, a candidate would start at the first digit
  cases word : front.getLast?.any Unicode.isWord with
  | true =>
    obtain ⟨c, last, isWord⟩ := (Option.any_eq_true ..).1 word
    obtain ⟨front, rfl⟩ := List.getLast?_eq_some_iff.1 last
    exact ⟨front, c, digits, rest, rfl, isWord, ahead c last, allDigits, behind, lower, upper, free⟩
  | false =>
    cases digits with
    | nil => simp at nonempty
    | cons e digits =>
      have begun : starts front.getLast? (e :: digits ++ rest) = true :=
        starts_digit (allDigits e (by simp)) word
      have taken := after_complete [] (front ++ (e :: digits) ++ rest) front _
        (List.append_assoc front (e :: digits) rest) begun
      exact absurd taken (free _ (Nat.le_refl _) nonempty)

end Candidate

theorem mapM_ok {α β ε : Type} (f : α → Except ε β) (back : β → α) (values : List α)
    (each : ∀ value ∈ values, ∃ result, f value = .ok result ∧ back result = value) :
    ∃ results, values.mapM f = .ok results ∧ results.map back = values ∧
      ∀ result ∈ results, f (back result) = .ok result := by
  induction values with
  | nil => exact ⟨[], rfl, rfl, by simp⟩
  | cons value values ih =>
    obtain ⟨result, made, same⟩ := each value List.mem_cons_self
    obtain ⟨results, rest, backs, makes⟩ :=
      ih fun other member => each other (List.mem_cons_of_mem _ member)
    refine ⟨result :: results, ?_, by rw [List.map_cons, same, backs], ?_⟩
    next => simp [List.mapM_cons, made, rest, bind, Except.bind, pure, Except.pure]
    next => exact List.forall_mem_cons.2 ⟨by rw [same, made], makes⟩

theorem classify_scanned {text : Text} {start stop : Nat}
    (fits : Text.byteLength text ≤ Range.largestBound)
    (found : Candidate.scan text start = some stop) :
    ∃ tree, classify text start stop = .ok tree ∧ tree.range = ⟨start, stop⟩ := by
  obtain ⟨before, back, rfl, rfl, -, rfl⟩ := Candidate.scan_eq_some found
  obtain ⟨after, runs, -⟩ := Candidate.run_rest false back
  let cut : Text.Excerpt := ⟨before, Candidate.run false back, after⟩
  have whole : cut.whole = before ++ back := by
    rw [runs, ← List.append_assoc]
    rfl
  have stop : cut.stop = Text.byteLength before + Text.byteLength (Candidate.run false back) :=
    Text.byteLength_append _ _
  have classified := examineBy_whole cut
    (Nat.le_trans (whole ▸ cut.stop_le_length) fits) Grammar.productions
  rw [whole, stop] at classified
  refine ⟨_, classified, ?_⟩
  rw [← stop]
  cases (parseExcerpt Grammar.productions cut).result <;> rfl

def Covers (trees : List Tree) (offset : Nat) : Prop :=
  ∃ tree ∈ trees, tree.range.start ≤ offset ∧ offset < tree.range.stop

theorem findAll_walk (text : Text) (fits : Text.byteLength text ≤ Range.largestBound) :
    ∃ trees, findAll text = .ok trees ∧
      (∀ tree ∈ trees, tree.range.start < tree.range.stop ∧
        Candidate.scan text tree.range.start = some tree.range.stop ∧
        recognize text tree.range.start = .ok (some tree)) ∧
      trees.Pairwise (fun first second => first.range.stop < second.range.start) ∧
      (∀ offset stop, Candidate.scan text offset = some stop → Covers trees offset) ∧
      ∀ d offset, text.HasAt d offset → Candidate.isDigit d = true → ¬Covers trees offset →
        Candidate.Blocked text (Covers trees) offset := by
  have scanned : ∀ ends ∈ Candidate.all text, Candidate.scan text ends.1 = some ends.2 :=
    fun ends member => (Candidate.after_scan [] text ends member).1
  obtain ⟨trees, made, spans, makes⟩ :=
    mapM_ok (fun ends => classify text ends.1 ends.2)
      (fun tree => (tree.range.start, tree.range.stop)) (Candidate.all text) (by
        intro ends member
        obtain ⟨tree, classified, range⟩ := classify_scanned fits (scanned ends member)
        exact ⟨tree, classified, by rw [range]⟩)
  have covers : Covers trees =
      fun offset => ∃ ends ∈ Candidate.all text, ends.1 ≤ offset ∧ offset < ends.2 := by
    funext offset
    rw [← spans]
    simp [Covers]
  refine ⟨trees, made, ?_, ?_, ?_, ?_⟩
  next =>
    intro tree member
    have found := scanned (tree.range.start, tree.range.stop)
      (spans ▸ List.mem_map_of_mem member)
    refine ⟨Candidate.scan_lt found, found, ?_⟩
    have classified : classify text tree.range.start tree.range.stop = .ok tree :=
      makes tree member
    simp [recognize, found, classified, Except.map]
  next =>
    have separated := Candidate.after_separated [] text
    rw [← Candidate.all_eq_after, ← spans] at separated
    exact List.pairwise_map.1 separated
  next =>
    intro offset stop found
    obtain ⟨front, back, whole, rfl, begun, -⟩ := Candidate.scan_eq_some found
    rw [covers]
    exact Candidate.after_complete [] text front back whole begun
  next =>
    intro d offset found digit untaken
    rw [covers] at untaken ⊢
    exact Candidate.blocked_of_untaken found digit untaken

theorem findAll_walk_word :
    Text.byteLength ['a', '1', ' ', '2'] ≤ Range.largestBound ∧
      ∃ trees, findAll ['a', '1', ' ', '2'] = .ok trees ∧ Covers trees 3 ∧
        Candidate.Blocked ['a', '1', ' ', '2'] (Covers trees) 1 := by
  obtain ⟨trees, made, sound, -, complete, blocked⟩ :=
    findAll_walk ['a', '1', ' ', '2'] (by decide)
  refine ⟨by decide, trees, made, complete 3 4 rfl, ?_⟩
  refine blocked '1' 1 ⟨['a'], [' ', '2'], rfl, rfl⟩ rfl ?_
  rintro ⟨tree, member, low, -⟩
  obtain ⟨-, scanned, -⟩ := sound tree member
  obtain start | start : tree.range.start = 0 ∨ tree.range.start = 1 := by omega
  next =>
    have nowhere : Candidate.scan ['a', '1', ' ', '2'] 0 = none := rfl
    simp [start, nowhere] at scanned
  next =>
    have nowhere : Candidate.scan ['a', '1', ' ', '2'] 1 = none := rfl
    simp [start, nowhere] at scanned

end Numeral
