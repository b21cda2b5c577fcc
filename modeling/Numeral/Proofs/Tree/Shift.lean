import Numeral.Proofs.Grammar.Misses
import Numeral.Proofs.Text.Excerpt

set_option autoImplicit false

namespace Numeral

open Grammar

def Range.shift (gap : Nat) (range : Range) : Range :=
  ⟨gap + range.start, gap + range.stop⟩

def Entry.shift (gap : Nat) (entry : Entry) : Entry :=
  { entry with range := entry.range.shift gap }

def Tree.shift (gap : Nat) (tree : Tree) : Tree :=
  ⟨tree.kind, tree.range.shift gap, tree.parts.map (Entry.shift gap)⟩

theorem Tree.entries_shift (gap : Nat) (tree : Tree) :
    (tree.shift gap).entries = tree.entries.map (Entry.shift gap) := by
  simp [entries, shift, Entry.shift]

theorem separatorEntries_shift (gap start : Nat) (text : Text) :
    separatorEntries (gap + start) text =
      (separatorEntries start text).map (Entry.shift gap) := by
  induction text generalizing start with
  | nil => rfl
  | cons c cs ih =>
    by_cases isSeparator : c = separator <;>
      simp [separatorEntries, isSeparator, Nat.add_assoc, ih, Entry.shift, Range.shift]

theorem Grammar.Piece.entries_shift (gap start : Nat) (piece : Piece) :
    piece.entries (gap + start) = (piece.entries start).map (Entry.shift gap) := by
  cases grouped : piece.tag.isDigitGroup <;>
    simp [entries, grouped, separatorEntries_shift, Entry.shift, Range.shift, Nat.add_assoc]

theorem Grammar.Piece.allEntries_shift (gap start : Nat) (pieces : List Piece) :
    Piece.allEntries (gap + start) pieces =
      (Piece.allEntries start pieces).map (Entry.shift gap) := by
  induction pieces generalizing start with
  | nil => rfl
  | cons piece rest ih =>
    rw [allEntries, allEntries, List.map_append, piece.entries_shift, Nat.add_assoc, ih]

theorem Tree.ofReading_shift (gap : Nat) (range : Range) (reading : Reading) :
    Tree.ofReading (range.shift gap) reading = (Tree.ofReading range reading).shift gap := by
  simp only [Tree.ofReading, Tree.shift, Tree.mk.injEq, true_and]
  exact Piece.allEntries_shift gap range.start reading.pieces

def Grammar.outcome (range : Range) (trial : Trial Reading) : Tree × Option Miss :=
  match trial.result with
  | some reading => (.ofReading range reading, none)
  | none => (.invalid range, Miss.furthest trial.misses)

theorem Grammar.outcome_shift (gap : Nat) (range : Range) (trial : Trial Reading) :
    outcome (range.shift gap) trial =
      ((outcome range trial).1.shift gap, (outcome range trial).2) := by
  unfold outcome
  cases trial.result with
  | none => rfl
  | some reading => simp only [Tree.ofReading_shift]

theorem examineBy_outcome (table : List Production) (cut : Text.Excerpt)
    (fits : cut.stop ≤ Range.largestBound) :
    examineBy table cut.whole cut.start cut.stop =
      .ok (outcome cut.range (parseExcerpt table cut)) := by
  simp only [examineBy, excerptAt_whole cut fits, bind, Except.bind]
  unfold outcome
  cases (parseExcerpt table cut).result <;> rfl

def Text.Excerpt.outcome (cut : Text.Excerpt) : Tree × Option Miss :=
  Grammar.outcome cut.range (parseExcerpt productions cut)

theorem Text.Excerpt.outcome_range (cut : Text.Excerpt) : cut.outcome.1.range = cut.range := by
  unfold outcome Grammar.outcome
  split <;> rfl

theorem examine_whole (cut : Text.Excerpt) (fits : cut.stop ≤ Range.largestBound) :
    examine cut.whole cut.start cut.stop = .ok cut.outcome :=
  examineBy_outcome productions cut fits

theorem classify_whole (cut : Text.Excerpt) (fits : cut.stop ≤ Range.largestBound) :
    classify cut.whole cut.start cut.stop = .ok cut.outcome.1 := by
  rw [classify, examine_whole cut fits]
  rfl

theorem parseExcerpt_congr (table : List Production) {cut other : Text.Excerpt}
    (same : cut.inside = other.inside)
    (agree : cut.inside.getLast? = some 'i' →
      cut.after.head?.any Unicode.isWord = other.after.head?.any Unicode.isWord) :
    parseExcerpt table cut = parseExcerpt table other := by
  rw [parseExcerpt, parseExcerpt, ← same]
  exact parse_congr table agree

theorem Text.Excerpt.outcome_moved {cut other : Text.Excerpt} {gap : Nat}
    (further : other.start = gap + cut.start) (same : other.inside = cut.inside)
    (agree : cut.inside.getLast? = some 'i' →
      other.after.head?.any Unicode.isWord = cut.after.head?.any Unicode.isWord) :
    other.outcome = (cut.outcome.1.shift gap, cut.outcome.2) := by
  have stop (any : Text.Excerpt) : any.stop = any.start + Text.byteLength any.inside :=
    Text.byteLength_append _ _
  have range_eq : other.range = cut.range.shift gap := by
    simp only [range, Range.shift, stop, further, same, Nat.add_assoc]
  have parsed : parseExcerpt productions other = parseExcerpt productions cut :=
    parseExcerpt_congr productions same fun last => agree (same ▸ last)
  rw [outcome, range_eq, parsed, outcome_shift]
  rfl

end Numeral
