import Numeral.Proofs.Report.Passages
import Numeral.Proofs.Results
import Numeral.Proofs.Text.Lines

set_option autoImplicit false

namespace Numeral

namespace Passage

def marked (passage : Passage) : Slice :=
  ⟨passage.file.path, 1, passage.file.text, passage.labels.map fun label =>
    ⟨(passage.shownRange label).start, (passage.shownRange label).stop, label.severity,
      label.message⟩⟩

def join (passage : Passage) : List Passage → List Passage
  | [] => [passage]
  | next :: rest =>
    if next.index = passage.index then
      { next with labels := passage.labels ++ next.labels } :: rest
    else passage :: next :: rest

theorem join_single (label : Label) (file : SourceFile) (passages : List Passage) :
    join ⟨label.file, file, [label]⟩ passages = add label file passages := by
  cases passages <;> rfl

theorem join_add {label : Label} {index : Nat} {file : SourceFile} (earlier : List Label)
    (same : label.file = index) (passages : List Passage) :
    join ⟨index, file, earlier⟩ (add label file passages) =
      join ⟨index, file, earlier ++ [label]⟩ passages := by
  subst same
  cases passages with
  | nil => simp [add, join]
  | cons passage rest =>
    by_cases here : passage.index = label.file
    next => simp [add, join, here]
    next => simp [add, join, here]

theorem join_add_other {label : Label} (passage : Passage) (file : SourceFile)
    (other : passage.index ≠ label.file) (passages : List Passage) :
    join passage (add label file passages) = passage :: add label file passages := by
  cases passages with
  | nil => simp [add, join, Ne.symm other]
  | cons next rest =>
    by_cases here : next.index = label.file
    next => simp [add, join, here, Ne.symm other]
    next => simp [add, join, here, Ne.symm other]

end Passage

namespace Slice

open Passage

theorem minus_eq {offset count : Nat} (order : count ≤ offset) :
    minus offset count = .ok (offset - count) :=
  if_pos order

theorem widened_eq (source : Text) (range : Range) :
    widened source range = .ok (widen (Text.byteLength source) range) := by
  have nonempty : source ≠ [] ↔ 0 < Text.byteLength source := by
    refine ⟨Text.byteLength_pos, ?_⟩
    rintro positive rfl
    exact absurd positive (Nat.lt_irrefl 0)
  unfold widened widen
  simp only [nonempty]
  split
  next empty =>
    split
    next last =>
      rw [minus_eq (by omega), empty.1]
      rfl
    next => rw [empty.1]
  next => rfl

theorem mark_eq (index : Nat) (file : SourceFile) (earlier : List Label) (label : Label) :
    (marked ⟨index, file, earlier⟩).mark label =
      .ok (marked ⟨index, file, earlier ++ [label]⟩) := by
  unfold mark
  rw [widened_eq]
  simp [marked, shownRange, SourceFile.length, bind, Except.bind, pure, Except.pure]

variable {files : List SourceFile}

theorem markAll_from {index : Nat} {file : SourceFile} (stored : files[index]? = some file)
    (labels earlier : List Label) (before : List Slice) :
    markAll files labels (some index) (before ++ [marked ⟨index, file, earlier⟩]) =
      (gather files labels).map fun passages =>
        before ++ (join ⟨index, file, earlier⟩ passages).map marked := by
  -- the last slice is that of a passage which goes on while labels are of its file
  induction labels generalizing index file earlier before with
  | nil => rfl
  | cons label rest ih =>
    rw [markAll, gather]
    cases known : files[label.file]? with
    | none => rfl
    | some next =>
      by_cases same : index = label.file
      next =>
        subst same
        obtain rfl : file = next := Option.some.inj (stored.symm.trans known)
        simp only [if_true, List.getLast?_concat, List.dropLast_concat, mark_eq, bind, Except.bind]
        rw [ih stored]
        cases gather files rest with
        | error fault => rfl
        | ok passages => simp [Except.map, join_add earlier rfl]
      next =>
        have other : ¬some index = some label.file := fun both => same (Option.some.inj both)
        have begun : ofFile next = marked ⟨label.file, next, []⟩ := rfl
        simp only [other, if_false, List.getLast?_concat, List.dropLast_concat, begun, mark_eq,
          bind, Except.bind]
        rw [ih known]
        cases gather files rest with
        | error fault => rfl
        | ok passages =>
          simp [Except.map, join_single, join_add_other ⟨index, file, earlier⟩ next same]

theorem markAll_eq (labels : List Label) :
    markAll files labels none [] = (gather files labels).map (List.map marked) := by
  cases labels with
  | nil => rfl
  | cons label rest =>
    rw [markAll, gather]
    cases known : files[label.file]? with
    | none => rfl
    | some file =>
      have begun : ofFile file = marked ⟨label.file, file, []⟩ := rfl
      have first := markAll_from known rest [label] []
      simp only [reduceCtorEq, if_false, List.nil_append, List.getLast?_singleton,
        List.dropLast_singleton, begun, mark_eq, bind, Except.bind]
      simp only [List.nil_append] at first
      rw [first]
      cases gather files rest with
      | error fault => rfl
      | ok passages => simp [Except.map, join_single]

theorem rebase_eq {source : Text} {skipped : Nat} {underline : Underline}
    (first : skipped ≤ underline.start) (last : skipped ≤ underline.stop) :
    rebase source skipped underline =
      .ok { underline with
        start := Text.charsBefore source (underline.start - skipped)
        stop := Text.charsBefore source (underline.stop - skipped) } := by
  simp [rebase, minus_eq first, minus_eq last, Text.charOffset_eq, bind, Except.bind, pure,
    Except.pure]

end Slice

namespace Passage

theorem marked_earliest (passage : Passage) :
    (passage.marked.underlines.map Underline.start).min?.getD 0 = passage.earliest := by
  rw [marked, List.map_map]
  rfl

theorem earliest_le {passage : Passage} {label : Label} (member : label ∈ passage.labels) :
    passage.earliest ≤ (passage.shownRange label).start := by
  have listed : (passage.shownRange label).start ∈
      passage.labels.map fun label => (passage.shownRange label).start :=
    List.mem_map_of_mem member
  unfold earliest
  cases least : (passage.labels.map fun label => (passage.shownRange label).start).min? with
  | none => simp [List.min?_eq_none_iff.1 least] at listed
  | some first => exact (List.min?_eq_some_iff.1 least).2 _ listed

theorem widen_le {length : Nat} {range : Range} (order : range.start ≤ range.stop) :
    (widen length range).start ≤ (widen length range).stop := by
  unfold widen
  split_ifs
  next => exact Nat.le_trans (Nat.sub_le ..) order
  next => exact Nat.le_succ_of_le order
  next => exact order

/-- Every difference is taken from an offset that is not in front of what is left out. -/
theorem marked_crop {passage : Passage}
    (order : ∀ label ∈ passage.labels, label.range.start ≤ label.range.stop) :
    passage.marked.crop = passage.crop := by
  have text : passage.marked.source = passage.file.text := rfl
  cases cut : Text.splitAt? passage.file.text passage.earliest with
  | none => rw [Slice.crop, crop, marked_earliest, text, cut]
  | some parts =>
    obtain ⟨front, back⟩ := parts
    obtain ⟨whole, length⟩ := Text.eq_of_splitAt? cut
    obtain ⟨skipped, split, cropped⟩ := passage.crop_at whole length.symm
    have width := Text.byteLength_skipped split
    have rest : Text.from? passage.file.text (Text.byteLength skipped) =
        some (Text.lastLine front ++ back) := by
      have parts : passage.file.text = skipped ++ (Text.lastLine front ++ back) := by
        rw [whole, ← List.append_assoc, ← split]
      rw [Text.from?, parts, Text.splitAt?_byteLength]
      rfl
    have moved : passage.marked.underlines.mapM
        (Slice.rebase (Text.lastLine front ++ back) (Text.byteLength skipped)) =
        .ok (passage.labels.map fun label =>
          underline (Text.lastLine front ++ back) (Text.byteLength skipped) label
            (passage.shownRange label)) := by
      refine mapM_map_ok fun label member => ?_
      -- what is left out ends in front of the earliest label
      have first : Text.byteLength skipped ≤ (passage.shownRange label).start := by
        have least := earliest_le member
        omega
      exact Slice.rebase_eq first (Nat.le_trans first (widen_le (order label member)))
    rw [cropped, Slice.crop, marked_earliest, text, cut]
    simp only [Text.linesBefore_bytes, width, rest, moved, bind, Except.bind, pure, Except.pure]
    rfl

end Passage

theorem Diagnostic.prepare_eq {files : List SourceFile} {diagnostic : Diagnostic}
    (order : ∀ label ∈ diagnostic.labels, label.range.start ≤ label.range.stop) :
    diagnostic.prepare files = diagnostic.slices files := by
  rw [prepare, slices, Slice.markAll_eq]
  cases gathered : Passage.gather files diagnostic.labels with
  | error fault => rfl
  | ok passages =>
    have flat := (Passage.gather_own gathered).1
    change (passages.map Passage.marked).mapM Slice.crop = passages.mapM Passage.crop
    rw [List.mapM_map]
    refine mapM_congr fun passage member => Passage.marked_crop fun label inside => order label ?_
    rw [← flat]
    exact List.mem_flatMap.2 ⟨passage, member, inside⟩

end Numeral
