import Numeral.Proofs.Search.Survey
import Numeral.Source

/-!
Three ways to count on from an offset: exactly, up to the largest offset and no further, or not at
all once there is none behind it. Where bounds lie inside a text that is not too long, a text is
cut alike in all of them.
-/

set_option autoImplicit false

namespace Numeral

namespace Bound

def exactStart : Bound → Nat
  | included n => n
  | excluded n => n + 1
  | unbounded => 0

def exactStop (limit : Nat) : Bound → Nat
  | included n => n + 1
  | excluded n => n
  | unbounded => limit

def checkedStart : Bound → Except Fault Nat
  | included n => return n
  | excluded n => Search.plus n 1
  | unbounded => return 0

def checkedStop (limit : Nat) : Bound → Except Fault Nat
  | included n => Search.plus n 1
  | excluded n => return n
  | unbounded => return limit

section

variable {bound : Bound} {limit : Nat}

theorem successor_eq {n : Nat}
    (small : n + 1 ≤ Range.largestBound ∨ successor n ≤ Range.largestBound) :
    successor n = n + 1 := by
  simp only [successor, largestOffset, Range.largestBound] at small ⊢
  omega

theorem asStart_eq (small : bound.exactStart ≤ Range.largestBound ∨
    bound.asStart ≤ Range.largestBound) : bound.asStart = bound.exactStart := by
  cases bound with
  | included n => rfl
  | excluded n => exact successor_eq small
  | unbounded => rfl

theorem asStop_eq (small : bound.exactStop limit ≤ Range.largestBound ∨
    bound.asStop limit ≤ Range.largestBound) : bound.asStop limit = bound.exactStop limit := by
  cases bound with
  | included n => exact successor_eq small
  | excluded n => rfl
  | unbounded => rfl

theorem plus_exact {n next : Nat} (counted : Search.plus n 1 = .ok next) : next = n + 1 := by
  unfold Search.plus at counted
  split at counted
  next => exact (Except.ok.inj counted).symm
  next => cases counted

theorem exactStart_of_checked {start : Nat} (counted : bound.checkedStart = .ok start) :
    start = bound.exactStart := by
  cases bound with
  | included n => exact (Except.ok.inj counted).symm
  | excluded n => exact plus_exact counted
  | unbounded => exact (Except.ok.inj counted).symm

theorem exactStop_of_checked {stop : Nat} (counted : bound.checkedStop limit = .ok stop) :
    stop = bound.exactStop limit := by
  cases bound with
  | included n => exact plus_exact counted
  | excluded n => exact (Except.ok.inj counted).symm
  | unbounded => exact (Except.ok.inj counted).symm

theorem checkedStart_eq (small : bound.exactStart ≤ largestOffset) :
    bound.checkedStart = .ok bound.exactStart := by
  cases bound with
  | included n => rfl
  | excluded n => exact Search.plus_eq_ok small
  | unbounded => rfl

theorem checkedStop_eq (small : bound.exactStop limit ≤ largestOffset) :
    bound.checkedStop limit = .ok (bound.exactStop limit) := by
  cases bound with
  | included n => exact Search.plus_eq_ok small
  | excluded n => rfl
  | unbounded => rfl

end

end Bound

namespace Bounds

def exact (bounds : Bounds) (limit : Nat) : Range :=
  ⟨bounds.start.exactStart, bounds.stop.exactStop limit⟩

/-- Cuts by bounds directly, counting on with a check. -/
def checkedText (bounds : Bounds) (source : Text) : Except Fault Text := do
  let start ← bounds.start.checkedStart
  let stop ← bounds.stop.checkedStop (Text.byteLength source)
  Range.text ⟨start, stop⟩ source

theorem text_eq (bounds : Bounds) (source : Text) :
    bounds.text source = (bounds.exact (Text.byteLength source)).text source := rfl

end Bounds

namespace Range

theorem text_inside {range : Range} {source part : Text} (cut : range.text source = .ok part) :
    range.start ≤ range.stop ∧ range.stop ≤ Text.byteLength source := by
  unfold text Text.slice? at cut
  cases found : Text.excerpt? source range.start range.stop with
  | none =>
    rw [found] at cut
    cases cut
  | some excerpt =>
    obtain ⟨whole, start, stop⟩ := Text.excerpt?_eq_some_iff.1 found
    rw [whole, start, stop]
    exact ⟨excerpt.start_le_stop, excerpt.stop_le_length⟩

/-- A range resolved is the exact one, whether or not an end of it would have saturated. -/
theorem resolve_exact {bounds : Bounds} {limit : Nat} {range : Range} :
    resolve bounds limit = .ok range ↔
      range = bounds.exact limit ∧ range.start ≤ range.stop ∧ range.stop ≤ limit ∧
        range.stop ≤ largestBound := by
  rw [resolve_eq_ok_iff, and_congr_left_iff]
  rintro ⟨order, -, fits⟩
  -- an end that saturates is too large both ways, so inside a range none does
  have first := Nat.le_trans order fits
  constructor
  next =>
    rintro rfl
    rw [Bounds.exact, ← Bound.asStart_eq (.inr first), ← Bound.asStop_eq (.inr fits)]
  next =>
    rintro rfl
    rw [Bound.asStart_eq (.inl first), Bound.asStop_eq (.inl fits)]
    rfl

end Range

namespace Bounds

variable {bounds : Bounds} {source part : Text}

theorem checkedText_eq_ok_iff (fits : Text.byteLength source ≤ Bound.largestOffset) :
    bounds.checkedText source = .ok part ↔ bounds.text source = .ok part := by
  rw [text_eq]
  constructor
  next =>
    intro cut
    unfold checkedText at cut
    cases first : bounds.start.checkedStart with
    | error fault =>
      rw [first] at cut
      cases cut
    | ok start =>
      cases last : bounds.stop.checkedStop (Text.byteLength source) with
      | error fault =>
        rw [first, last] at cut
        cases cut
      | ok stop =>
        rw [first, last] at cut
        obtain rfl := Bound.exactStart_of_checked first
        obtain rfl := Bound.exactStop_of_checked last
        exact cut
  next =>
    intro cut
    obtain ⟨order, inside⟩ := Range.text_inside cut
    have last := Nat.le_trans inside fits
    unfold checkedText
    rw [Bound.checkedStart_eq (Nat.le_trans order last), Bound.checkedStop_eq last]
    exact cut

end Bounds

namespace SourceFile

theorem span_text {file : SourceFile} (fits : file.length ≤ Range.largestBound) {bounds : Bounds}
    {part : Text} :
    (file.span bounds >>= fun range => range.text file.text) = .ok part ↔
      bounds.text file.text = .ok part := by
  rw [Bounds.text_eq]
  constructor
  next =>
    intro cut
    cases resolved : file.span bounds with
    | error fault =>
      rw [resolved] at cut
      cases cut
    | ok range =>
      rw [resolved] at cut
      obtain ⟨rfl, -⟩ := Range.resolve_exact.1 resolved
      exact cut
  next =>
    intro cut
    obtain ⟨order, inside⟩ := Range.text_inside cut
    have resolved : file.span bounds = .ok (bounds.exact file.length) :=
      Range.resolve_exact.2 ⟨rfl, order, inside, Nat.le_trans inside fits⟩
    rw [resolved]
    exact cut

theorem span_text_iff {file : SourceFile} (fits : file.length ≤ Range.largestBound)
    (bounds : Bounds) :
    (∀ part, (file.span bounds >>= fun range => range.text file.text) = .ok part ↔
      bounds.text file.text = .ok part) ∧
    (∀ part, bounds.checkedText file.text = .ok part ↔ bounds.text file.text = .ok part) ∧
    ∀ (others : Bounds) (limit : Nat) (range : Range),
      Range.resolve others limit = .ok range ↔
        range = others.exact limit ∧ range.start ≤ range.stop ∧ range.stop ≤ limit ∧
          range.stop ≤ Range.largestBound := by
  have room : Range.largestBound ≤ Bound.largestOffset := by decide
  exact ⟨fun part => span_text fits,
    fun part => Bounds.checkedText_eq_ok_iff (Nat.le_trans fits room),
    fun others limit range => Range.resolve_exact⟩

theorem span_text_iff_largest :
    ∃ file : SourceFile, file.length = 3 ∧
      (file.span ⟨.excluded 0, .included 2⟩ >>= fun range => range.text file.text) = .ok ['é'] ∧
      (∀ part, (file.span ⟨.unbounded, .included Bound.largestOffset⟩ >>=
        fun range => range.text file.text) ≠ .ok part) ∧
      ∀ range, Range.resolve ⟨.excluded Bound.largestOffset, .unbounded⟩ Bound.largestOffset ≠
        .ok range := by
  let file : SourceFile := ⟨"a", ['1', 'é']⟩
  have fits : file.length ≤ Range.largestBound := by decide
  have cut : Bounds.text ⟨.excluded 0, .included 2⟩ file.text = .ok ['é'] := by decide
  have beyond : Bounds.text ⟨.unbounded, .included Bound.largestOffset⟩ file.text =
      .error .badSlice := rfl
  obtain ⟨inner, -, resolved⟩ := span_text_iff fits ⟨.excluded 0, .included 2⟩
  obtain ⟨outer, -, -⟩ := span_text_iff fits ⟨.unbounded, .included Bound.largestOffset⟩
  refine ⟨file, rfl, (inner _).2 cut, fun part taken => ?_, fun range made => ?_⟩
  next => cases beyond.symm.trans ((outer part).1 taken)
  next =>
    obtain ⟨rfl, -, -, small⟩ := (resolved _ _ _).1 made
    exact absurd small (by decide)

end SourceFile

end Numeral
