import Mathlib.Order.Bounds.Basic
import Numeral.Proofs.Search.Totality

set_option autoImplicit false

namespace Numeral

open Grammar

namespace Grammar

def groupLengths (radix : Radix) (text : Text) : Set Nat :=
  {length | ∃ word ∈ digitGroup radix, word <+: text ∧ Text.byteLength word = length}

theorem group_greatest {radix : Radix} {text : Text} (found : group radix text ≠ []) :
    IsGreatest (groupLengths radix text) (Text.byteLength (group radix text)) := by
  refine ⟨⟨_, group_mem found, group_isPrefix radix text, rfl⟩, ?_⟩
  rintro _ ⟨word, member, ahead, rfl⟩
  exact Text.byteLength_le_of_prefix (prefix_group member ahead)

end Grammar

namespace Search

def DigitAt (search : Search) (radix : Radix) (offset : Nat) : Prop :=
  search.span.start ≤ offset ∧ offset < search.span.stop ∧
    ∃ d ∈ radix.digits, search.text.HasAt d offset

/-- The longest group from one offset to the other was written, and nothing else was done. -/
structure Grouped (radix : Radix) (tag : Tag) (search : Search) (offset stop : Nat)
    (last : Search) : Prop where
  longest : ∃ rest length, search.text.slice? offset search.span.stop = some rest ∧
    IsGreatest (groupLengths radix rest) length ∧ stop = offset + length
  written : ∃ separators : List Entry,
    last = search.write (⟨tag, ⟨offset, stop⟩, separators.length⟩ :: separators) ∧
    (separators.Pairwise fun first second => first.range.start < second.range.start) ∧
    (∀ entry, entry ∈ separators ↔ ∃ place, search.text.HasAt '_' place ∧ offset ≤ place ∧
      place < stop ∧ entry = ⟨.separator, ⟨place, place + 1⟩, 0⟩) ∧
    -- the loop that finds the end does not need more room than the span has
    ∀ room, search.span.stop ≤ offset + 1 + room →
      Ends (takeGroupTail radix room (offset + 1))
        (search.write [⟨tag, ⟨offset, offset⟩, 0⟩]) (some stop)
        (search.write (⟨tag, ⟨offset, offset⟩, 0⟩ :: separators))
  between : ∀ place, search.text.HasAt '_' place → offset ≤ place → place < stop →
    offset < place ∧ place + 1 < stop ∧ search.DigitAt radix (place - 1) ∧
      search.DigitAt radix (place + 1)

section

variable {cut : Text.Excerpt} {search : Search} (across : Over cut search)

include across

theorem digitAt_iff {radix : Radix} {offset : Nat} :
    search.DigitAt radix offset ↔
      ∃ d ∈ radix.digits, ∃ front back, cut.inside = front ++ d :: back ∧
        offset = cut.start + Text.byteLength front := by
  rw [DigitAt, across.text_eq, across.span_eq]
  constructor
  next =>
    rintro ⟨after, before, d, isDigit, there⟩
    obtain ⟨_, ⟨front, back, around, rfl⟩, place⟩ :=
      (cut.hasAt_inside d offset).1 ⟨there, after, before⟩
    exact ⟨d, isDigit, front, back, around, place⟩
  next =>
    rintro ⟨d, isDigit, front, back, around, place⟩
    obtain ⟨there, after, before⟩ :=
      (cut.hasAt_inside d offset).2 ⟨_, ⟨front, back, around, rfl⟩, place⟩
    exact ⟨after, before, d, isDigit, there⟩

omit across in
theorem isDigit_outside {radix : Radix} {offset : Nat}
    (none : ¬∃ d ∈ radix.digits,
      cut.whole.HasAt d offset ∧ cut.start ≤ offset ∧ offset < cut.stop) :
    Reads cut (isDigit radix offset) false := by
  by_cases outside : offset < cut.start ∨ cut.stop ≤ offset
  next => exact (byte_outside outside).bind (.pure _)
  next =>
    obtain ⟨after, before⟩ := not_or.1 outside
    have after := Nat.not_lt.1 after
    have before := Nat.not_le.1 before
    obtain ⟨b, there⟩ := Text.exists_byteAt (Nat.lt_of_lt_of_le before cut.stop_le_length)
    have other : radix.isDigit b = false := by
      refine Bool.eq_false_iff.2 fun digit => none ⟨b, (Radix.isDigit_iff radix b).1 digit, ?_⟩
      have ascii := Text.asciiOnly_isDigit radix b digit
      exact ⟨(Text.byteAt?_eq_some_iff ascii).1 there, after, before⟩
    have read : Reads cut (isDigit radix offset) (Option.any radix.isDigit (some b)) :=
      (byte_inside after before there).bind (.pure _)
    rwa [Option.any_some, other] at read

section

variable {radix : Radix} {front cs : Text} {c : Char} (around : cut.inside = front ++ c :: cs)

include around

theorem longest_taken (digit : radix.isDigit c = true) : ∃ rest length,
    search.text.slice? (cut.start + Text.byteLength front) search.span.stop = some rest ∧
      IsGreatest (groupLengths radix rest) length ∧
      cut.start + Text.byteLength (front ++ c :: groupTail radix cs) =
        cut.start + Text.byteLength front + length := by
  have taken : group radix (c :: cs) = c :: groupTail radix cs := if_pos digit
  let ahead : Text.Excerpt := ⟨cut.before ++ front, c :: cs, cut.after⟩
  have whole : search.text = ahead.whole := by
    simp [across.text_eq, ahead, Text.Excerpt.whole, around]
  have start : cut.start + Text.byteLength front = ahead.start :=
    (Text.byteLength_append ..).symm
  have stop : search.span.stop = ahead.stop := by
    rw [across.span_eq]
    simp [ahead, Text.Excerpt.range, Text.Excerpt.stop, around]
  refine ⟨c :: cs, _, ?_, group_greatest (by simp [taken]), ?_⟩
  next => rw [Text.slice?, whole, start, stop, Text.excerpt?_whole]; rfl
  next => rw [taken, Text.byteLength_append, Nat.add_assoc]

theorem underscore_taken {place : Nat} :
    (search.text.HasAt '_' place ∧ cut.start + Text.byteLength front ≤ place ∧
      place < cut.start + Text.byteLength (front ++ c :: groupTail radix cs)) ↔
      ∃ n, Text.HasAt (c :: groupTail radix cs) '_' n ∧
        place = cut.start + Text.byteLength front + n := by
  obtain ⟨tail, left⟩ := groupTail_isPrefix radix cs
  let taken : Text.Excerpt := ⟨cut.before ++ front, c :: groupTail radix cs, tail ++ cut.after⟩
  have whole : search.text = taken.whole := by
    rw [across.text_eq, Text.Excerpt.whole, around, ← left]
    simp [taken, Text.Excerpt.whole]
  have start : cut.start + Text.byteLength front = taken.start :=
    (Text.byteLength_append ..).symm
  have stop : cut.start + Text.byteLength (front ++ c :: groupTail radix cs) = taken.stop := by
    simp [taken, Text.Excerpt.stop, Text.Excerpt.start]
  rw [whole, start, stop]
  exact taken.hasAt_inside '_' place

theorem underscore_between (digit : radix.isDigit c = true) {n : Nat}
    (there : Text.HasAt (c :: groupTail radix cs) '_' n) :
    0 < n ∧ n + 1 < Text.byteLength (c :: groupTail radix cs) ∧
      search.DigitAt radix (cut.start + Text.byteLength front + n - 1) ∧
      search.DigitAt radix (cut.start + Text.byteLength front + n + 1) := by
  have taken : group radix (c :: cs) = c :: groupTail radix cs := if_pos digit
  have member : c :: groupTail radix cs ∈ digitGroup radix :=
    taken ▸ group_mem (by simp [taken])
  obtain ⟨tail, left⟩ := groupTail_isPrefix radix cs
  obtain ⟨before, behind, here, rfl⟩ := there
  obtain ⟨⟨d, isDigit, last⟩, e, isNext, next⟩ := digitGroup_between member here
  obtain ⟨init, rfl⟩ := List.getLast?_eq_some_iff.1 last
  obtain ⟨rest, rfl⟩ := List.head?_eq_some_iff.1 next
  have single : d.utf8Size = 1 :=
    (Text.asciiOnly_isDigit radix).utf8Size_eq ((Radix.isDigit_iff radix d).2 isDigit)
  have width : Text.byteLength (init ++ [d]) = Text.byteLength init + 1 :=
    Text.byteLength_concat single
  have length : Text.byteLength (c :: groupTail radix cs) =
      Text.byteLength (init ++ [d]) + (1 + (e.utf8Size + Text.byteLength rest)) := by
    rw [here, Text.byteLength_append]
    rfl
  have whole : cut.inside = front ++ (init ++ [d] ++ '_' :: e :: rest) ++ tail := by
    rw [← here, around, List.append_assoc, List.cons_append, left]
  have positive := e.utf8Size_pos
  refine ⟨by omega, by omega, (digitAt_iff across).2 ?_, (digitAt_iff across).2 ?_⟩
  next =>
    refine ⟨d, isDigit, front ++ init, '_' :: e :: rest ++ tail, by simp [whole], ?_⟩
    rw [width, Text.byteLength_append]
    omega
  next =>
    refine ⟨e, isNext, front ++ (init ++ [d] ++ ['_']), rest ++ tail, by simp [whole], ?_⟩
    have one : '_'.utf8Size = 1 := rfl
    rw [width, Text.byteLength_append, Text.byteLength_concat one, width]
    omega

theorem grouped (fits : cut.stop ≤ Range.largestBound) (digit : radix.isDigit c = true)
    (tag : Tag) :
    Grouped radix tag search (cut.start + Text.byteLength front)
      (cut.start + Text.byteLength (front ++ c :: groupTail radix cs))
      (search.write (groupEntries tag (cut.start + Text.byteLength front)
        (c :: groupTail radix cs))) where
  longest := longest_taken across around digit
  written := by
    refine ⟨separatorEntries (cut.start + Text.byteLength front) (c :: groupTail radix cs),
      ?_, separatorEntries_sorted _ _, fun entry => ?_, fun room enough => ?_⟩
    next => rw [groupEntries, Text.byteLength_append, Nat.add_assoc]
    next =>
      rw [mem_separatorEntries]
      constructor
      next =>
        rintro ⟨n, inside, rfl⟩
        obtain ⟨there, after, before⟩ := (underscore_taken across around).2 ⟨n, inside, rfl⟩
        exact ⟨_, there, after, before, rfl⟩
      next =>
        rintro ⟨place, there, after, before, rfl⟩
        obtain ⟨n, inside, rfl⟩ := (underscore_taken across around).1 ⟨there, after, before⟩
        exact ⟨n, inside, rfl⟩
    next => exact takeGroupTail_opened fits radix tag around digit across enough
  between := by
    intro place there after before
    obtain ⟨n, inside, rfl⟩ := (underscore_taken across around).1 ⟨there, after, before⟩
    obtain ⟨first, last, digits⟩ := underscore_between across around digit inside
    rw [Text.byteLength_append]
    exact ⟨by omega, by omega, digits⟩

end

end

theorem entries_note (obstacle : Obstacle) (search : Search) :
    (search.note obstacle).entries = search.entries := by
  unfold note
  split <;> rfl

theorem takeGroup_longest {search : Search}
    (sound : ∀ fault, ¬Range.Flaw search.text search.span.start search.span.stop fault)
    (radix : Radix) (tag : Tag) (want : Want) (offset : Nat) :
    ∃ stop? last, Ends (takeGroup radix tag want offset) search stop? last ∧
      (stop? = none ↔ ¬search.DigitAt radix offset) ∧
      (stop? = none → last.entries = search.entries) ∧
      ∀ stop, stop? = some stop → Grouped radix tag search offset stop last := by
  rcases flaw_or_cut search.text search.span.start search.span.stop with
    ⟨fault, flaw⟩ | ⟨cut, whole, first, last, fits⟩
  next => exact (sound fault flaw).elim
  next =>
    have across : Over cut search := ⟨whole.symm, by rw [Text.Excerpt.range, first, last]⟩
    by_cases here : search.DigitAt radix offset
    next =>
      obtain ⟨c, isDigit, front, cs, around, rfl⟩ := (digitAt_iff across).1 here
      have digit := (Radix.isDigit_iff radix c).2 isDigit
      refine ⟨_, _, takeGroup_ends fits radix tag around digit across want, by simp [here],
        by simp, ?_⟩
      rintro stop found
      obtain rfl := Option.some.inj found
      exact grouped across around fits digit tag
    next =>
      -- also a byte in the middle of a character may stand here, but then it is no digit
      have unseen : Reads cut (isDigit radix offset) false := by
        refine isDigit_outside ?_
        rintro ⟨d, isDigit, there, after, before⟩
        exact here ⟨first ▸ after, last ▸ before, d, isDigit, whole ▸ there⟩
      exact ⟨none, _, .bind (unseen search across) (.bind (.modify rfl) (.failure _)),
        by simp [here], fun _ => entries_note _ search, by simp⟩

/-- The span ends behind the second separator, which is no part of the group then. -/
theorem takeGroup_longest_clipped :
    let search : Search :=
      ⟨['é', '1', '_', '2', '_', '3'], ⟨2, 6⟩, [⟨.literal .invalid, ⟨2, 6⟩, 0⟩], none, .decimalFloat⟩
    (∀ fault, ¬Range.Flaw search.text search.span.start search.span.stop fault) ∧
      Grouped .decimal (.digits .decimal) search 2 5
        (search.write [⟨.digits .decimal, ⟨2, 5⟩, 1⟩, ⟨.separator, ⟨3, 4⟩, 0⟩]) := by
  intro search
  have first : Text.IsBoundary search.text 2 := Text.isBoundary_iff.2 rfl
  have last : Text.IsBoundary search.text 6 := Text.isBoundary_iff.2 rfl
  have sound : ∀ fault, ¬Range.Flaw search.text search.span.start search.span.stop fault := by
    rintro _ (⟨large⟩ | ⟨-, large⟩ | ⟨-, -, backward⟩ | ⟨-, -, outside⟩ | ⟨-, -, -, apart⟩)
    next => exact absurd large (by decide)
    next => exact absurd large (by decide)
    next => exact absurd backward (by decide)
    next => exact absurd outside (by decide)
    next => exact apart ⟨first, last⟩
  obtain ⟨stop?, left, ended, -, -, taken⟩ :=
    takeGroup_longest sound .decimal (.digits .decimal) (.digit .decimal) 2
  have computed : Ends (takeGroup .decimal (.digits .decimal) (.digit .decimal) 2) search (some 5)
      (search.write [⟨.digits .decimal, ⟨2, 5⟩, 1⟩, ⟨.separator, ⟨3, 4⟩, 0⟩]) := by
    unfold Ends
    decide +kernel
  obtain ⟨rfl, rfl⟩ := Prod.mk.inj (Except.ok.inj (ended.symm.trans computed))
  exact ⟨sound, taken 5 rfl⟩

end Search

end Numeral
