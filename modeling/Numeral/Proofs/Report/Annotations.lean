import Numeral.Proofs.Report.Cropping
import Numeral.Proofs.Search.Totality

set_option autoImplicit false

namespace Numeral

namespace Text

theorem skipped_ends {front skipped : Text} (split : front = skipped ++ lastLine front) :
    skipped = [] ∨ skipped.getLast? = some newline := by
  have parts := List.takeWhile_append_dropWhile (p := (· != newline)) (l := front.reverse)
  have line : front.reverse.takeWhile (· != newline) = (lastLine front).reverse := by
    rw [lastLine, List.reverse_reverse]
  have whole : front.reverse = (lastLine front).reverse ++ skipped.reverse := by
    rw [← List.reverse_append, ← split]
  have rest : front.reverse.dropWhile (· != newline) = skipped.reverse := by
    rw [line] at parts
    exact List.append_cancel_left (parts.trans whole)
  have head := List.head?_dropWhile_not (· != newline) front.reverse
  rw [rest, List.head?_reverse] at head
  cases last : skipped.getLast? with
  | none => exact .inl (List.getLast?_eq_none_iff.1 last)
  | some c =>
    rw [last] at head
    exact .inr (by simpa using head)

end Text

/-- What is inside the cut is underlined, the cut being one of the file that the slice shows. -/
def Underline.Covers (slice : Slice) (cut : Text.Excerpt) (underline : Underline) : Prop :=
  ∃ skipped before, cut.before = skipped ++ before ∧
    slice.source = before ++ cut.inside ++ cut.after ∧
    underline.start = before.length ∧ underline.stop = (before ++ cut.inside).length

structure Slice.ShowsFrom (file : SourceFile) (slice : Slice) (offset : Nat) : Prop where
  path_eq : slice.path = file.path
  lines : ∃ skipped line rest, file.text = skipped ++ slice.source ∧
    (skipped = [] ∨ skipped.getLast? = some Text.newline) ∧
    slice.firstLine = 1 + skipped.count Text.newline ∧
    slice.source = line ++ rest ∧ Text.newline ∉ line ∧
    Text.byteLength (skipped ++ line) = offset

namespace Passage

theorem exists_earliest {passage : Passage} (nonempty : passage.labels ≠ []) :
    ∃ label ∈ passage.labels, (passage.shownRange label).start = passage.earliest := by
  have listed : passage.labels.map (fun label => (passage.shownRange label).start) ≠ [] := by
    simpa using nonempty
  unfold earliest
  cases least : (passage.labels.map fun label => (passage.shownRange label).start).min? with
  | none => exact absurd (List.min?_eq_none_iff.1 least) listed
  | some first => exact List.mem_map.1 (List.min?_eq_some_iff.1 least).1

/-- The range is that of the part inside, or is the beginning of the one character that is. -/
def Spans (range : Range) (cut : Text.Excerpt) : Prop :=
  range = cut.range ∨ ∃ c, cut.inside = [c] ∧ CoversChar range cut.start c

theorem Spans.start_eq {range : Range} {cut : Text.Excerpt} (spans : Spans range cut) :
    range.start = cut.start := by
  rcases spans with rfl | ⟨c, -, covers⟩
  next => rfl
  next => exact covers.start_eq

theorem Spans.covers {range : Range} {cut : Text.Excerpt} (spans : Spans range cut)
    {slice : Slice} {skipped before : Text} (shown : cut.before = skipped ++ before)
    (source : slice.source = before ++ cut.inside ++ cut.after) (label : Label) :
    (underline slice.source (Text.byteLength skipped) label range).Covers slice cut := by
  refine ⟨skipped, before, shown, source, ?_⟩
  rw [source]
  rcases spans with rfl | ⟨c, single, covers⟩
  next =>
    rw [underline_chars skipped before label cut.inside cut.after]
    next => exact ⟨rfl, rfl⟩
    next => rw [← shown]; rfl
    next => rw [← shown]; rfl
  next =>
    have start : cut.start = Text.byteLength (skipped ++ before) := by rw [← shown]; rfl
    rw [start] at covers
    rw [single, List.append_assoc, List.singleton_append,
      underline_char skipped before label c cut.after covers, List.length_append]
    exact ⟨rfl, rfl⟩

/-- The slice shows the file without what is skipped, and nothing that is cut out of the file behind
the start of the earliest label reaches into that. -/
structure CroppedTo (passage : Passage) (skipped : Text) (slice : Slice) : Prop where
  shows_from : slice.ShowsFrom passage.file passage.earliest
  underlines_eq : slice.underlines = passage.labels.map fun label =>
    underline slice.source (Text.byteLength skipped) label (passage.shownRange label)
  behind : ∀ cut : Text.Excerpt, cut.whole = passage.file.text → passage.earliest ≤ cut.start →
    ∃ before, cut.before = skipped ++ before ∧ slice.source = before ++ cut.inside ++ cut.after

theorem exists_croppedTo {passage : Passage}
    (between : passage.file.text.IsBoundary passage.earliest) :
    ∃ slice skipped, passage.crop = .ok slice ∧ passage.CroppedTo skipped slice := by
  obtain ⟨front, back, whole, length⟩ := between
  obtain ⟨skipped, split, cropped⟩ := passage.crop_at whole length.symm
  have text : passage.file.text = skipped ++ (Text.lastLine front ++ back) := by
    rw [← List.append_assoc, ← split, whole]
  refine ⟨_, skipped, cropped, ⟨rfl, skipped, Text.lastLine front, back, text,
    Text.skipped_ends split, ?_, rfl, Text.newline_notMem_lastLine front, ?_⟩, rfl,
    fun cut same behind => ?_⟩
  next =>
    have none : (Text.lastLine front).count Text.newline = 0 :=
      List.count_eq_zero.2 (Text.newline_notMem_lastLine front)
    have sum := congrArg (List.count Text.newline) split
    rw [List.count_append, none, Nat.add_zero] at sum
    rw [sum, Nat.add_comm]
  next => rw [← split, length]
  next =>
    -- the earliest label starts in the line that is kept, so that what is behind is in the source
    rw [Text.Excerpt.whole, List.append_assoc, whole] at same
    rw [← length] at behind
    obtain ⟨middle, before, rest⟩ := Text.append_of_byteLength_le same.symm behind
    refine ⟨Text.lastLine front ++ middle, ?_, ?_⟩
    next => rw [← List.append_assoc, ← split, before]
    next => simp [rest]

theorem CroppedTo.covers {passage : Passage} {skipped : Text} {slice : Slice}
    (cropped : passage.CroppedTo skipped slice) {label : Label} (member : label ∈ passage.labels)
    {cut : Text.Excerpt} (whole : cut.whole = passage.file.text)
    (spans : Spans (passage.shownRange label) cut) :
    (underline slice.source (Text.byteLength skipped) label (passage.shownRange label)).Covers
      slice cut := by
  obtain ⟨before, shown, source⟩ := cropped.behind cut whole (spans.start_eq ▸ earliest_le member)
  exact spans.covers shown source label

end Passage

theorem Underline.Covers.text {slice : Slice} {cut : Text.Excerpt} {underline : Underline}
    (covers : underline.Covers slice cut) (nonempty : cut.inside ≠ []) :
    underline.start < underline.stop ∧ underline.stop ≤ slice.source.length ∧
      (slice.source.drop underline.start).take (underline.stop - underline.start) =
        cut.inside := by
  obtain ⟨skipped, before, -, source, first, last⟩ := covers
  have width := List.length_pos_iff.2 nonempty
  rw [first, last, source, List.length_append, Nat.add_sub_cancel_left, List.append_assoc,
    List.drop_left, List.take_left]
  exact ⟨by omega, by simp, rfl⟩

structure Passage.ShownBy (passage : Passage) (slice : Slice) : Prop where
  shows_from : ∃ label ∈ passage.labels, slice.ShowsFrom passage.file label.range.start ∧
    ∀ other ∈ passage.labels, label.range.start ≤ other.range.start
  underlined : List.Forall₂ (fun label underline =>
    underline.severity = label.severity ∧ underline.message = label.message ∧
      underline.start < underline.stop ∧ underline.stop ≤ slice.source.length ∧
      Text.slice? passage.file.text label.range.start label.range.stop =
        some ((slice.source.drop underline.start).take (underline.stop - underline.start)) ∧
      ∃ cut : Text.Excerpt, cut.whole = passage.file.text ∧ cut.range = label.range ∧
        underline.Covers slice cut)
    passage.labels slice.underlines

structure Label.Sound (file : SourceFile) (label : Label) : Prop where
  order : label.range.start ≤ label.range.stop
  first : file.text.IsBoundary label.range.start
  last : file.text.IsBoundary label.range.stop

theorem Label.Sound.exists_cut {file : SourceFile} {label : Label} (sound : label.Sound file) :
    ∃ cut : Text.Excerpt, cut.whole = file.text ∧ cut.range = label.range := by
  obtain ⟨cut, whole, start, stop⟩ := Text.exists_excerpt sound.order sound.first sound.last
  exact ⟨cut, whole, by rw [Text.Excerpt.range, start, stop]⟩

theorem Text.Excerpt.inside_ne_nil {cut : Text.Excerpt} (nonempty : cut.start < cut.stop) :
    cut.inside ≠ [] := by
  intro none
  rw [start, stop, none, List.append_nil] at nonempty
  exact absurd nonempty (Nat.lt_irrefl _)

theorem Passage.crop_shown {passage : Passage} (nonempty : passage.labels ≠ [])
    (sound : ∀ label ∈ passage.labels, label.Sound passage.file ∧
      label.range.start < label.range.stop) :
    ∃ slice, passage.crop = .ok slice ∧ passage.ShownBy slice := by
  have narrow (label : Label) (member : label ∈ passage.labels) :
      passage.shownRange label = label.range :=
    widen_of_lt _ (sound label member).2
  obtain ⟨label, member, earliest⟩ := exists_earliest nonempty
  rw [narrow label member] at earliest
  have between := (sound label member).1.first
  rw [earliest] at between
  obtain ⟨slice, skipped, cropped, left⟩ := exists_croppedTo between
  refine ⟨slice, cropped, ⟨label, member, earliest ▸ left.shows_from, fun other inside => ?_⟩, ?_⟩
  next =>
    rw [earliest, ← narrow other inside]
    exact earliest_le inside
  next =>
    rw [left.underlines_eq, List.forall₂_map_right_iff, List.forall₂_same]
    intro label inside
    obtain ⟨cut, whole, range⟩ := (sound label inside).1.exists_cut
    have covers := left.covers inside whole (.inl ((narrow label inside).trans range.symm))
    have order := (sound label inside).2
    rw [← range] at order ⊢
    obtain ⟨some, within, text⟩ := covers.text (Text.Excerpt.inside_ne_nil order)
    have taken := Text.excerpt?_whole cut
    rw [whole] at taken
    refine ⟨rfl, rfl, some, within, ?_, cut, whole, rfl, covers⟩
    rw [text]
    exact congrArg (Option.map Text.Excerpt.inside) taken

theorem Diagnostic.slices_faithful {files : List SourceFile} {diagnostic : Diagnostic}
    (sound : ∀ label ∈ diagnostic.labels, ∃ file, files[label.file]? = some file ∧
      label.range.start < label.range.stop ∧ file.text.IsBoundary label.range.start ∧
      file.text.IsBoundary label.range.stop) :
    ∃ passages slices, diagnostic.prepare files = .ok slices ∧
      diagnostic.slices files = .ok slices ∧
      passages.flatMap Passage.labels = diagnostic.labels ∧
      (passages.IsChain fun a b => a.index ≠ b.index) ∧
      (∀ passage ∈ passages, passage.labels ≠ [] ∧ passage.Own files) ∧
      List.Forall₂ Passage.ShownBy passages slices := by
  obtain ⟨passages, gathered, flat, own⟩ := Passage.exists_gather fun label member => by
    obtain ⟨file, stored, -⟩ := sound label member
    exact ⟨file, stored⟩
  obtain ⟨nonempty, parted⟩ := Passage.gather_parted gathered
  have each : ∀ passage ∈ passages, ∃ slice, passage.crop = .ok slice ∧ passage.ShownBy slice := by
    intro passage member
    refine Passage.crop_shown (nonempty passage member) fun label inside => ?_
    have listed : label ∈ diagnostic.labels := flat ▸ List.mem_flatMap.2 ⟨passage, member, inside⟩
    obtain ⟨file, stored, some, first, last⟩ := sound label listed
    rw [(own passage member).labels_eq label inside, (own passage member).stored] at stored
    obtain rfl := Option.some.inj stored
    exact ⟨⟨Nat.le_of_lt some, first, last⟩, some⟩
  obtain ⟨slices, shown⟩ := exists_forall₂ each
  have sliced : diagnostic.slices files = .ok slices := by
    rw [Diagnostic.slices, gathered]
    exact (mapM_ok_iff _ _ _).2 (shown.imp fun _ _ both => both.1)
  have order : ∀ label ∈ diagnostic.labels, label.range.start ≤ label.range.stop := by
    intro label member
    obtain ⟨file, -, some, -⟩ := sound label member
    exact Nat.le_of_lt some
  exact ⟨passages, slices, (prepare_eq order).trans sliced, sliced, flat, parted,
    fun passage member => ⟨nonempty passage member, own passage member⟩,
    shown.imp fun _ _ both => both.2⟩

theorem Diagnostic.slices_faithful_alternating :
    ∃ passages slices,
      prepare [⟨"a", ['é', '\n', 'ü', '=', '1', '_']⟩, ⟨"b", ['0', 'g']⟩]
        ⟨.error, "", [⟨0, ⟨6, 8⟩, .error, "x"⟩, ⟨0, ⟨3, 5⟩, .note, "y"⟩, ⟨1, ⟨0, 2⟩, .error, "z"⟩,
          ⟨0, ⟨0, 2⟩, .help, "w"⟩], [], false⟩ = .ok slices ∧
      (slices.map fun slice => (slice.path, slice.firstLine, slice.source)) =
        [("a", 2, ['ü', '=', '1', '_']), ("b", 1, ['0', 'g']),
          ("a", 1, ['é', '\n', 'ü', '=', '1', '_'])] ∧
      List.Forall₂ Passage.ShownBy passages slices := by
  let files : List SourceFile := [⟨"a", ['é', '\n', 'ü', '=', '1', '_']⟩, ⟨"b", ['0', 'g']⟩]
  let diagnostic : Diagnostic :=
    ⟨.error, "", [⟨0, ⟨6, 8⟩, .error, "x"⟩, ⟨0, ⟨3, 5⟩, .note, "y"⟩, ⟨1, ⟨0, 2⟩, .error, "z"⟩,
      ⟨0, ⟨0, 2⟩, .help, "w"⟩], [], false⟩
  have sound : ∀ label ∈ diagnostic.labels, ∃ file, files[label.file]? = some file ∧
      label.range.start < label.range.stop ∧ file.text.IsBoundary label.range.start ∧
      file.text.IsBoundary label.range.stop := by
    simp only [diagnostic, List.forall_mem_cons, List.not_mem_nil, false_implies, implies_true,
      Text.isBoundary_iff, and_true]
    exact ⟨⟨_, rfl, by decide, rfl, rfl⟩, ⟨_, rfl, by decide, rfl, rfl⟩,
      ⟨_, rfl, by decide, rfl, rfl⟩, ⟨_, rfl, by decide, rfl, rfl⟩⟩
  obtain ⟨passages, slices, prepared, -, -, -, -, shown⟩ := slices_faithful sound
  refine ⟨passages, slices, prepared, ?_, shown⟩
  have lines : (diagnostic.prepare files).map (List.map fun slice =>
      (slice.path, slice.firstLine, slice.source)) =
        .ok [("a", 2, ['ü', '=', '1', '_']), ("b", 1, ['0', 'g']),
          ("a", 1, ['é', '\n', 'ü', '=', '1', '_'])] := by decide +kernel
  rw [prepared] at lines
  exact Except.ok.inj lines

end Numeral
