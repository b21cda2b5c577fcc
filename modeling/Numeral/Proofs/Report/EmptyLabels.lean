import Numeral.Proofs.Report.Annotations

set_option autoImplicit false

namespace Numeral

namespace Text

theorem IsBoundary.le {text : Text} {offset : Nat} (between : text.IsBoundary offset) :
    offset ≤ byteLength text := by
  obtain ⟨front, back, rfl, rfl⟩ := between
  rw [byteLength_append]
  exact Nat.le_add_right _ _

theorem exists_char {text : Text} {offset : Nat} (between : text.IsBoundary offset)
    (inside : offset < byteLength text) :
    ∃ cut : Excerpt, cut.whole = text ∧ cut.start = offset ∧ ∃ c, cut.inside = [c] := by
  obtain ⟨front, back, rfl, rfl⟩ := between
  cases back with
  | nil => simp at inside
  | cons c cs => exact ⟨⟨front, [c], cs⟩, by simp [Excerpt.whole], rfl, c, rfl⟩

theorem boundary_le_front {front : Text} {c : Char} {offset : Nat}
    (between : IsBoundary (front ++ [c]) offset) (inside : offset < byteLength (front ++ [c])) :
    offset ≤ byteLength front := by
  obtain ⟨early, late, same, rfl⟩ := between
  refine Nat.not_lt.1 fun further => ?_
  obtain ⟨middle, rfl, last⟩ := append_of_byteLength_le same (Nat.le_of_lt further)
  cases middle with
  | nil => simp at further
  | cons d ds =>
    obtain ⟨rfl, empty⟩ := List.cons.inj last
    obtain ⟨rfl, -⟩ := List.append_eq_nil_iff.1 empty.symm
    exact absurd inside (Nat.lt_irrefl _)

end Text

def Label.AtEnd (file : SourceFile) (label : Label) : Prop :=
  label.range = ⟨file.length, file.length⟩

/-- All labels are empty and behind a last character of several bytes. -/
structure Label.Stranded (file : SourceFile) (labels : List Label) : Prop where
  wide : ∃ c, file.text.getLast? = some c ∧ 1 < c.utf8Size
  nonempty : labels ≠ []
  at_end : ∀ label ∈ labels, label.AtEnd file

inductive Label.MarkedBy (file : SourceFile) (slice : Slice) (label : Label)
    (underline : Underline) : Prop where
  | range {cut : Text.Excerpt} (whole : cut.whole = file.text) (range : cut.range = label.range)
      (nonempty : label.range.start < label.range.stop) (covers : underline.Covers slice cut)
  | char {cut : Text.Excerpt} {c : Char} (whole : cut.whole = file.text) (single : cut.inside = [c])
      (empty : label.range = ⟨cut.start, cut.start⟩) (covers : underline.Covers slice cut)
  | last {cut : Text.Excerpt} {c : Char} (whole : cut.whole = file.text) (single : cut.inside = [c])
      (ends : cut.after = []) (narrow : c.utf8Size = 1) (empty : label.AtEnd file)
      (covers : underline.Covers slice cut)
  | nothing {front : Text} {c : Char} (whole : file.text = front ++ [c]) (wide : 1 < c.utf8Size)
      (empty : label.AtEnd file) (start : underline.start = slice.source.length)
      (stop : underline.stop = slice.source.length)

namespace Passage

variable {passage : Passage}

theorem shownRange_start {label : Label} (sound : label.Sound passage.file)
    (other : ¬label.AtEnd passage.file) :
    (passage.shownRange label).start = label.range.start ∧
      label.range.start < passage.file.length := by
  have inside : label.range.stop ≤ passage.file.length := sound.last.le
  rcases Nat.lt_or_eq_of_le sound.order with some | empty
  next => exact ⟨by rw [shownRange, widen_of_lt _ some], Nat.lt_of_lt_of_le some inside⟩
  next =>
    have ahead : label.range.stop ≠ passage.file.length := by
      intro ends
      exact other (by rw [Label.AtEnd, ← ends]; exact congrArg (Range.mk · _) empty)
    have positive : 0 < passage.file.length := by omega
    refine ⟨?_, by omega⟩
    rw [shownRange, widen, if_pos ⟨empty, positive⟩, if_neg ahead]

theorem shownRange_end {label : Label} (text : passage.file.text ≠ [])
    (ends : label.AtEnd passage.file) :
    passage.shownRange label = ⟨passage.file.length - 1, passage.file.length⟩ := by
  have positive : 0 < passage.file.length := Text.byteLength_pos text
  rw [shownRange, ends, widen, if_pos ⟨rfl, positive⟩, if_pos rfl]

theorem not_boundary_of_wide {front : Text} {c : Char} (wide : 1 < c.utf8Size) :
    ¬Text.IsBoundary (front ++ [c]) (Text.byteLength (front ++ [c]) - 1) := by
  intro between
  have width : Text.byteLength (front ++ [c]) = Text.byteLength front + c.utf8Size :=
    Text.byteLength_append front [c]
  have behind := Text.boundary_le_front between (by omega)
  omega

theorem underline_wide {c : Char} (wide : 1 < c.utf8Size) (skipped before : Text) (label : Label) :
    underline (before ++ [c]) (Text.byteLength skipped) label
        ⟨Text.byteLength (skipped ++ before ++ [c]) - 1,
          Text.byteLength (skipped ++ before ++ [c])⟩ =
      ⟨(before ++ [c]).length, (before ++ [c]).length, label.severity, label.message⟩ := by
  have width : Text.byteLength (skipped ++ before ++ [c]) =
      Text.byteLength skipped + (Text.byteLength before + c.utf8Size) := by
    rw [List.append_assoc, Text.byteLength_append, Text.byteLength_append]
    rfl
  have start : Text.byteLength (skipped ++ before ++ [c]) - 1 - Text.byteLength skipped =
      Text.byteLength before + (c.utf8Size - 1) := by omega
  have stop : Text.byteLength (skipped ++ before ++ [c]) - Text.byteLength skipped =
      Text.byteLength before + c.utf8Size := by omega
  rw [underline, start, stop, Text.charsBefore_inside (by omega) (by omega),
    Text.charsBefore_inside (by omega) (by omega), List.length_append]
  rfl

theorem crop_stranded (stranded : Label.Stranded passage.file passage.labels) :
    passage.crop = .error .badSlice := by
  obtain ⟨⟨c, last, wide⟩, nonempty, ends⟩ := stranded
  obtain ⟨front, whole⟩ := List.getLast?_eq_some_iff.1 last
  obtain ⟨label, member, earliest⟩ := exists_earliest nonempty
  rw [shownRange_end (by simp [whole]) (ends label member)] at earliest
  have apart : ¬passage.file.text.IsBoundary passage.earliest := by
    rw [← earliest, SourceFile.length, whole]
    exact not_boundary_of_wide wide
  rw [Text.isBoundary_iff, Bool.not_eq_true, Option.isSome_eq_false_iff, Option.isNone_iff_eq_none]
    at apart
  rw [crop, apart]

section

variable (text : passage.file.text ≠ []) {label : Label}

include text

theorem exists_last :
    ∃ front c, passage.file.text = front ++ [c] ∧
      passage.file.length = Text.byteLength front + c.utf8Size := by
  obtain ⟨front, c, whole⟩ := (List.eq_nil_or_concat' passage.file.text).resolve_left text
  refine ⟨front, c, whole, ?_⟩
  rw [SourceFile.length, whole]
  exact Text.byteLength_append front [c]

theorem CroppedTo.marked_end {skipped : Text} {slice : Slice}
    (cropped : passage.CroppedTo skipped slice) (member : label ∈ passage.labels)
    (between : passage.file.text.IsBoundary passage.earliest) (ends : label.AtEnd passage.file) :
    label.MarkedBy passage.file slice (underline slice.source (Text.byteLength skipped) label
      (passage.shownRange label)) := by
  obtain ⟨front, c, whole, width⟩ := exists_last text
  let cut : Text.Excerpt := ⟨front, [c], []⟩
  have same : cut.whole = passage.file.text := by simp [cut, Text.Excerpt.whole, whole]
  by_cases wide : 1 < c.utf8Size
  next =>
    have early : passage.earliest ≤ Text.byteLength front := by
      have least : passage.earliest ≤ passage.file.length - 1 := by
        have shown := earliest_le member
        rwa [shownRange_end text ends] at shown
      have inside : passage.earliest < Text.byteLength passage.file.text := by
        change _ < passage.file.length
        omega
      rw [whole] at between inside
      exact Text.boundary_le_front between inside
    -- both ends are behind the first byte of the last character, and round up past it
    obtain ⟨before, rfl, source⟩ := cropped.behind cut same early
    rw [shownRange_end text ends, SourceFile.length, whole, source, List.append_nil,
      underline_wide wide]
    exact .nothing whole wide ends (by simp [source, cut]) (by simp [source, cut])
  next =>
    have narrow : c.utf8Size = 1 := by
      have positive := c.utf8Size_pos
      omega
    refine .last same rfl rfl narrow ends (cropped.covers member same (.inr ⟨c, rfl, ?_⟩))
    rw [shownRange, ends, width, narrow]
    exact widen_end _ c

omit text in
theorem CroppedTo.marked_inside {skipped : Text} {slice : Slice}
    (cropped : passage.CroppedTo skipped slice) (member : label ∈ passage.labels)
    (sound : label.Sound passage.file) (other : ¬label.AtEnd passage.file) :
    label.MarkedBy passage.file slice (underline slice.source (Text.byteLength skipped) label
      (passage.shownRange label)) := by
  obtain ⟨-, ahead⟩ := shownRange_start sound other
  rcases Nat.lt_or_eq_of_le sound.order with some | empty
  next =>
    obtain ⟨cut, whole, range⟩ := sound.exists_cut
    have same : passage.shownRange label = cut.range := by rw [range]; exact widen_of_lt _ some
    exact .range whole range some (cropped.covers member whole (.inl same))
  next =>
    obtain ⟨cut, whole, start, c, single⟩ := Text.exists_char sound.first ahead
    have here : label.range = ⟨cut.start, cut.start⟩ := by
      rw [start]
      exact congrArg (Range.mk label.range.start) empty.symm
    refine .char whole single here (cropped.covers member whole (.inr ⟨c, single, ?_⟩))
    rw [shownRange, here]
    exact widen_empty _ _ c (by rw [start]; exact ahead)

end

section

variable (nonempty : passage.labels ≠ []) (text : passage.file.text ≠ [])
  (sound : ∀ label ∈ passage.labels, label.Sound passage.file)
  (shown : ¬Label.Stranded passage.file passage.labels)

include nonempty text sound shown

theorem earliest_between : passage.file.text.IsBoundary passage.earliest := by
  obtain ⟨label, member, earliest⟩ := exists_earliest nonempty
  by_cases ends : label.AtEnd passage.file
  next =>
    rw [shownRange_end text ends] at earliest
    have late : passage.file.length - 1 = passage.earliest := earliest
    obtain ⟨front, c, whole, width⟩ := exists_last text
    by_cases wide : 1 < c.utf8Size
    next =>
      -- some other label is in front of the last character, so this one is not the earliest
      obtain ⟨other, listed, before⟩ : ∃ other ∈ passage.labels, ¬other.AtEnd passage.file := by
        by_contra all
        push Not at all
        exact shown ⟨⟨c, by rw [whole, List.getLast?_concat], wide⟩, nonempty, all⟩
      obtain ⟨start, inside⟩ := shownRange_start (sound other listed) before
      have least := earliest_le listed
      have first := (sound other listed).first
      rw [whole] at first
      rw [SourceFile.length, whole] at inside
      have far := Text.boundary_le_front first inside
      omega
    next =>
      have positive := c.utf8Size_pos
      exact ⟨front, [c], whole, by omega⟩
  next =>
    rw [← earliest, (shownRange_start (sound label member) ends).1]
    exact (sound label member).first

theorem crop_marks :
    ∃ slice, passage.crop = .ok slice ∧
      List.Forall₂ (Label.MarkedBy passage.file slice) passage.labels slice.underlines := by
  have between := earliest_between nonempty text sound shown
  obtain ⟨slice, skipped, cropped, left⟩ := exists_croppedTo between
  refine ⟨slice, cropped, ?_⟩
  rw [left.underlines_eq, List.forall₂_map_right_iff, List.forall₂_same]
  intro label member
  by_cases ends : label.AtEnd passage.file
  next => exact left.marked_end text member between ends
  next => exact left.marked_inside member (sound label member) ends

end

end Passage

/-- What is shown of labels of one file: they are stranded, or none is without its characters unless
it is behind a last one of several bytes. -/
theorem Diagnostic.slices_of_file {files : List SourceFile} {diagnostic : Diagnostic} {index : Nat}
    {file : SourceFile} (stored : files[index]? = some file) (text : file.text ≠ [])
    (sound : ∀ label ∈ diagnostic.labels, label.file = index ∧ label.Sound file) :
    Label.Stranded file diagnostic.labels ∧ diagnostic.prepare files = .error .badSlice ∨
      diagnostic.labels = [] ∧ diagnostic.prepare files = .ok [] ∨
      ¬Label.Stranded file diagnostic.labels ∧ ∃ slice, diagnostic.prepare files = .ok [slice] ∧
        List.Forall₂ (Label.MarkedBy file slice) diagnostic.labels slice.underlines := by
  rw [prepare_eq fun label member => (sound label member).2.order]
  cases same : diagnostic.labels with
  | nil => exact .inr (.inl ⟨rfl, by rw [Diagnostic.slices, same]; rfl⟩)
  | cons first rest =>
    rw [same] at sound
    let passage : Passage := ⟨index, file, first :: rest⟩
    have sliced : diagnostic.slices files = [passage].mapM Passage.crop := by
      rw [Diagnostic.slices, same,
        Passage.gather_eq stored first rest fun label member => (sound label member).1]
      rfl
    have nonempty : passage.labels ≠ [] := List.cons_ne_nil first rest
    by_cases stranded : Label.Stranded file (first :: rest)
    next =>
      have failed : passage.crop = .error .badSlice := Passage.crop_stranded stranded
      exact .inl ⟨stranded, by rw [sliced, List.mapM_cons, failed]; rfl⟩
    next =>
      obtain ⟨slice, cropped, marked⟩ :=
        Passage.crop_marks nonempty text (fun label member => (sound label member).2) stranded
      exact .inr (.inr ⟨stranded, slice, by rw [sliced, List.mapM_cons, cropped]; rfl, marked⟩)

theorem Diagnostic.slices_of_file_end :
    ∃ slice,
      prepare [⟨"a", ['é', ' ']⟩] ⟨.error, "", [⟨0, ⟨3, 3⟩, .error, ""⟩], [], false⟩ =
          .ok [slice] ∧
        Label.MarkedBy ⟨"a", ['é', ' ']⟩ slice ⟨0, ⟨3, 3⟩, .error, ""⟩ ⟨1, 2, .error, ""⟩ := by
  let file : SourceFile := ⟨"a", ['é', ' ']⟩
  let diagnostic : Diagnostic := ⟨.error, "", [⟨0, ⟨3, 3⟩, .error, ""⟩], [], false⟩
  have prepared : diagnostic.prepare [file] =
      .ok [⟨"a", 1, ['é', ' '], [⟨1, 2, .error, ""⟩]⟩] := by decide +kernel
  have sound : ∀ label ∈ diagnostic.labels, label.file = 0 ∧ label.Sound file := by
    have last : Text.IsBoundary ['é', ' '] 3 := Text.isBoundary_iff.2 rfl
    simpa [diagnostic] using ⟨Nat.le_refl 3, last, last⟩
  have stored : [file][0]? = some file := rfl
  refine ⟨_, prepared, ?_⟩
  rcases slices_of_file stored (by simp [file]) sound with
    ⟨-, failed⟩ | ⟨none, -⟩ | ⟨-, slice, shown, marked⟩
  next => simp [prepared] at failed
  next => simp [diagnostic] at none
  next =>
    obtain rfl := (List.cons.inj (Except.ok.inj (prepared.symm.trans shown))).1
    exact (List.forall₂_cons.1 marked).1

theorem Diagnostic.slices_of_file_stranded :
    Label.Sound ⟨"a", ['é']⟩ ⟨0, ⟨2, 2⟩, .error, ""⟩ ∧
      prepare [⟨"a", ['é']⟩] ⟨.error, "", [⟨0, ⟨2, 2⟩, .error, ""⟩], [], false⟩ =
        .error .badSlice := by
  have first : Text.IsBoundary ['é'] 2 := Text.isBoundary_iff.2 rfl
  exact ⟨⟨Nat.le_refl _, first, first⟩, by decide +kernel⟩

end Numeral
