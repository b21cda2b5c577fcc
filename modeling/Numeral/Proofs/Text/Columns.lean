import Mathlib.Data.List.TakeWhile
import Numeral.Proofs.Text.Excerpt
import Numeral.Report.Snippet

set_option autoImplicit false

namespace Numeral

namespace Text

theorem charsBefore_zero (text : Text) : charsBefore text 0 = 0 := by
  cases text <;> rfl

theorem charsBefore_append (front back : Text) (n : Nat) :
    charsBefore (front ++ back) (byteLength front + n) = front.length + charsBefore back n := by
  induction front with
  | nil => simp [byteLength]
  | cons c cs ih =>
    have positive := c.utf8Size_pos
    obtain ⟨m, same⟩ : ∃ m, byteLength (c :: cs) + n = m + 1 :=
      ⟨byteLength (c :: cs) + n - 1, by rw [byteLength]; omega⟩
    have rest : m + 1 - c.utf8Size = byteLength cs + n := by
      rw [byteLength] at same
      omega
    rw [List.cons_append, same, charsBefore, rest, ih, List.length_cons]
    omega

theorem charsBefore_byteLength (front back : Text) :
    charsBefore (front ++ back) (byteLength front) = front.length := by
  have whole := charsBefore_append front back 0
  rwa [Nat.add_zero, charsBefore_zero, Nat.add_zero] at whole

theorem charsBefore_inside {c : Char} {n : Nat} (positive : 0 < n) (inside : n ≤ c.utf8Size)
    (front back : Text) :
    charsBefore (front ++ c :: back) (byteLength front + n) = front.length + 1 := by
  obtain ⟨m, rfl⟩ : ∃ m, n = m + 1 := ⟨n - 1, by omega⟩
  have rest : m + 1 - c.utf8Size = 0 := by omega
  rw [charsBefore_append, charsBefore, rest, charsBefore_zero]

theorem exists_skipped (text : Text) : ∃ skipped, text = skipped ++ lastLine text := by
  refine ⟨(text.reverse.dropWhile (· != newline)).reverse, ?_⟩
  rw [lastLine, ← List.reverse_append, List.takeWhile_append_dropWhile, List.reverse_reverse]

theorem byteLength_skipped {text skipped : Text} (split : text = skipped ++ lastLine text) :
    byteLength text - byteLength (lastLine text) = byteLength skipped := by
  have sum := congrArg byteLength split
  rw [byteLength_append] at sum
  omega

theorem newline_notMem_lastLine (text : Text) : newline ∉ lastLine text := by
  intro member
  have other := List.mem_takeWhile_imp (List.mem_reverse.1 member)
  simp at other

end Text

namespace Passage

open Text

theorem crop_at (passage : Passage) {front back : Text} (whole : passage.file.text = front ++ back)
    (first : passage.earliest = byteLength front) :
    ∃ skipped, front = skipped ++ lastLine front ∧
      passage.crop = .ok ⟨passage.file.path, front.count newline + 1, lastLine front ++ back,
        passage.labels.map fun label =>
          underline (lastLine front ++ back) (byteLength skipped) label
            (passage.shownRange label)⟩ := by
  obtain ⟨skipped, split⟩ := exists_skipped front
  refine ⟨skipped, split, ?_⟩
  rw [crop, whole, first, splitAt?_byteLength]
  simp only [byteLength_skipped split]

/-- The range begins with the character at the byte offset and ends in it, perhaps before its end. -/
structure CoversChar (range : Range) (offset : Nat) (c : Char) : Prop where
  start_eq : range.start = offset
  start_lt : range.start < range.stop
  stop_le : range.stop ≤ range.start + c.utf8Size

section

variable (length offset : Nat) (c : Char)

theorem widen_of_lt {range : Range} (order : range.start < range.stop) :
    widen length range = range := by
  rw [widen, if_neg]
  rintro ⟨same, -⟩
  exact absurd same (Nat.ne_of_lt order)

theorem widen_char : CoversChar (widen length ⟨offset, offset + c.utf8Size⟩) offset c := by
  have positive := c.utf8Size_pos
  rw [widen_of_lt length (by simpa using positive)]
  exact ⟨rfl, by simpa using positive, Nat.le_refl _⟩

theorem widen_empty (inside : offset < length) :
    CoversChar (widen length ⟨offset, offset⟩) offset c := by
  have positive := c.utf8Size_pos
  rw [widen, if_pos ⟨rfl, Nat.zero_lt_of_lt inside⟩, if_neg (Nat.ne_of_lt inside)]
  exact ⟨rfl, Nat.lt_succ_self offset, Nat.add_le_add_left positive offset⟩

theorem widen_end : CoversChar (widen (offset + 1) ⟨offset + 1, offset + 1⟩) offset c := by
  have positive := c.utf8Size_pos
  rw [widen, if_pos ⟨rfl, Nat.succ_pos offset⟩, if_pos rfl]
  exact ⟨rfl, Nat.lt_succ_self offset, Nat.add_le_add_left positive offset⟩

end

section

variable (skipped front : Text) (label : Label) {range : Range}

theorem underline_chars (chars back : Text) (start : range.start = byteLength (skipped ++ front))
    (stop : range.stop = byteLength (skipped ++ front ++ chars)) :
    underline (front ++ chars ++ back) (byteLength skipped) label range =
      ⟨front.length, (front ++ chars).length, label.severity, label.message⟩ := by
  have first : range.start - byteLength skipped = byteLength front := by
    rw [start, byteLength_append]
    omega
  have last : range.stop - byteLength skipped = byteLength (front ++ chars) := by
    rw [stop, List.append_assoc, byteLength_append]
    omega
  rw [underline, first, last, charsBefore_byteLength, List.append_assoc, charsBefore_byteLength]

theorem underline_char (c : Char) (back : Text)
    (covers : CoversChar range (byteLength (skipped ++ front)) c) :
    underline (front ++ c :: back) (byteLength skipped) label range =
      ⟨front.length, front.length + 1, label.severity, label.message⟩ := by
  obtain ⟨start, order, stop⟩ := covers
  rw [byteLength_append] at start
  have first : range.start - byteLength skipped = byteLength front := by omega
  have last : range.stop - byteLength skipped = byteLength front + (range.stop - range.start) := by
    omega
  rw [underline, first, last, charsBefore_byteLength, charsBefore_inside (by omega) (by omega)]

end

theorem gather_eq {files : List SourceFile} {file : SourceFile} {index : Nat}
    (stored : files[index]? = some file) (first : Label) (rest : List Label)
    (here : ∀ label ∈ first :: rest, label.file = index) :
    gather files (first :: rest) = .ok [⟨index, file, first :: rest⟩] := by
  obtain ⟨mine, others⟩ := List.forall_mem_cons.1 here
  induction rest generalizing first with
  | nil => simp [gather, mine, stored, Except.map, add]
  | cons second rest ih =>
    obtain ⟨next, later⟩ := List.forall_mem_cons.1 others
    have gathered := ih second others next later
    rw [gather, mine, stored]
    simp [gathered, Except.map, add, mine]

end Passage

end Numeral
