import Numeral.Proofs.Search.Ends
import Numeral.Proofs.Tree.Nodes

/-!
When an attempt of a search does what a trial says. On success the entries are those of the
trial's result; what a failed attempt wrote is still there, behind what was written before.
-/

set_option autoImplicit false

namespace Numeral

open Grammar

def Grammar.Cursor.shown (start : Nat) (cursor : Cursor) : Nat × List Entry :=
  (start + Text.byteLength cursor.read, Piece.allEntries start cursor.pieces)

namespace Search

variable {α β γ δ : Type} {cut : Text.Excerpt} {form : Form}

/-- The attempt gives what is in view of the trial's result, and misses what the trial misses. -/
def Follows (cut : Text.Excerpt) (form : Form) (view : β → α × List Entry) (entries : List Entry)
    (attempt : Attempt α) (trial : Trial β) : Prop :=
  ∀ misses, (∀ miss ∈ misses, miss.read <+: cut.inside) → ∃ added,
    Ends attempt (cut.search form misses entries) (trial.result.map fun value => (view value).1)
      (cut.search form (misses ++ trial.misses) (entries ++ added)) ∧
    ∀ value, trial.result = some value → entries ++ added = (view value).2

namespace Follows

variable {view : β → α × List Entry} {entries : List Entry} {trial : Trial β}

theorem read {first : Attempt γ} {next : γ → Attempt α} {value : γ}
    (known : Reads cut first value) (later : Follows cut form view entries (next value) trial) :
    Follows cut form view entries (first >>= next) trial := by
  intro misses within
  obtain ⟨added, ends, shown⟩ := later misses within
  exact ⟨added, .bind (known _ (over_search ..)) ends, shown⟩

theorem look {next : Search → Attempt α}
    (later : ∀ misses,
      Follows cut form view entries (next (cut.search form misses entries)) trial) :
    Follows cut form view entries (get >>= next) trial := by
  intro misses within
  obtain ⟨added, ends, shown⟩ := later misses misses within
  exact ⟨added, .bind (.get _) ends, shown⟩

theorem done {value : β} {a : α} (gives : a = (view value).1) (same : entries = (view value).2) :
    Follows cut form view entries (pure a) (.done value) := by
  intro misses _
  refine ⟨[], ?_, ?_⟩
  next => simpa [Trial.done, gives] using Ends.pure _ _
  next =>
    intro other found
    obtain rfl := Option.some.inj found
    rw [List.append_nil, same]

theorem fail : Follows cut form view entries failure .fail := by
  intro misses _
  exact ⟨[], by simpa [Trial.fail] using Ends.failure _, by simp⟩

section

variable {cursor : Cursor} (inside : cursor.text = cut.inside)

include inside

theorem stuck {more : Text} (ahead : more <+: cursor.rest) (want : Want) :
    Follows cut form view entries (miss (cut.start + Text.byteLength (cursor.read ++ more)) want)
      (cursor.miss form more want) := by
  intro misses within
  refine ⟨[], ?_, by simp [Cursor.miss]⟩
  have front : cursor.read ++ more <+: cut.inside := by
    rw [← inside]
    exact (List.prefix_append_right_inj cursor.read).2 ahead
  rw [List.append_nil]
  exact miss_ends ⟨form, cursor.read ++ more, want⟩ within front rfl

theorem stuckHere (want : Want) :
    Follows cut form view entries (miss (cursor.shown cut.start).1 want)
      (cursor.miss form [] want) := by
  have missed : Follows cut form view entries _ _ := stuck inside List.nil_prefix want
  rwa [List.append_nil] at missed

theorem stuckPast {c : Char} {rest : Text} (left : cursor.rest = c :: rest)
    (single : c.utf8Size = 1) (want : Want) :
    Follows cut form view entries (miss ((cursor.shown cut.start).1 + 1) want)
      (cursor.miss form [c] want) := by
  have ahead : [c] <+: cursor.rest := ⟨rest, left.symm⟩
  have missed : Follows cut form view entries _ _ := stuck inside ahead want
  rwa [Text.byteLength_concat single, ← Nat.add_assoc] at missed

end

theorem andThen {first : Attempt α} {next : α → Attempt γ} {later : β → Trial δ}
    {onward : δ → γ × List Entry} (start : Follows cut form view entries first trial)
    (within : trial.Within cut.inside)
    (rest : ∀ value, trial.result = some value →
      Follows cut form onward (view value).2 (next (view value).1) (later value)) :
    Follows cut form onward entries (first >>= next) (trial.andThen later) := by
  intro misses known
  obtain ⟨added, ends, shown⟩ := start misses known
  unfold Trial.andThen
  cases found : trial.result with
  | none =>
    rw [found] at ends
    exact ⟨added, .bind_none ends, by simp⟩
  | some value =>
    rw [found] at ends
    rw [shown value found] at ends
    obtain ⟨more, goes, reached⟩ := rest value found (misses ++ trial.misses) fun miss member =>
      (List.mem_append.1 member).elim (known miss) (within miss)
    refine ⟨added ++ more, ?_, ?_⟩
    next =>
      rw [← List.append_assoc, ← List.append_assoc, shown value found]
      exact .bind ends goes
    next =>
      intro last same
      rw [← List.append_assoc, shown value found]
      exact reached last same

end Follows

/-- Over the cut, wherever a cursor stands, the rule does what is done with the cursor. -/
def Tracks (cut : Text.Excerpt) (form : Form) (rule : Nat → Attempt Nat)
    (step : Cursor → Trial Cursor) : Prop :=
  ∀ cursor, cursor.text = cut.inside →
    Follows cut form (Cursor.shown cut.start) (cursor.shown cut.start).2
      (rule (cursor.shown cut.start).1) (step cursor)

theorem Tracks.andThen {first second : Nat → Attempt Nat} {step later : Cursor → Trial Cursor}
    (start : Tracks cut form first step) (rest : Tracks cut form second later)
    (within : ∀ cursor, (step cursor).Within cursor.text)
    (keeps : ∀ cursor next, (step cursor).result = some next → next.text = cursor.text) :
    Tracks cut form (fun offset => first offset >>= second)
      fun cursor => (step cursor).andThen later := by
  intro cursor inside
  refine (start cursor inside).andThen (inside ▸ within cursor) fun next found => ?_
  exact rest next ((keeps cursor next found).trans inside)

theorem Tracks.optional {rule : Nat → Attempt Nat} {step : Cursor → Trial Cursor}
    (tracks : Tracks cut form rule step) :
    Tracks cut form (optional rule) fun cursor => (step cursor).optional cursor := by
  intro cursor inside misses known
  obtain ⟨added, ends, shown⟩ := tracks cursor inside misses known
  unfold Search.optional
  cases found : (step cursor).result with
  | none =>
    rw [found] at ends
    refine ⟨[], ?_, ?_⟩
    next =>
      rw [Trial.result_optional, found, List.append_nil]
      exact .bind (mark_ends _) (.orElse_none ends (.bind rollback_ends (.pure _ _)))
    next =>
      intro value same
      rw [Trial.result_optional, found] at same
      rw [← Option.some.inj same, List.append_nil]
      rfl
  | some next =>
    rw [found] at ends
    refine ⟨added, ?_, ?_⟩
    next =>
      rw [Trial.result_optional, found]
      exact .bind (mark_ends _) (.orElse ends)
    next =>
      intro value same
      rw [Trial.result_optional, found] at same
      rw [← Option.some.inj same]
      exact shown next found

section

variable {cursor : Cursor} (inside : cursor.text = cut.inside)

include inside

theorem shown_le {front rest : Text} (start : cursor.rest = front ++ rest) :
    (cursor.shown cut.start).1 + Text.byteLength front ≤ cut.stop := by
  have around : cut.inside = cursor.read ++ (front ++ rest) := by rw [← inside, ← start]; rfl
  rw [stop_around around, Text.byteLength_append, Cursor.shown]
  omega

theorem plus_shown (fits : cut.stop ≤ Range.largestBound) {count : Nat} (few : count ≤ 2) :
    Reads cut (liftM (plus (cursor.shown cut.start).1 count))
      ((cursor.shown cut.start).1 + count) :=
  plus_around inside.symm fits few

theorem Follows.take (fits : cut.stop ≤ Range.largestBound) {tag : Tag} {chars rest : Text}
    (start : cursor.rest = chars ++ rest) (flat : tag.isDigitGroup = false) {stop : Nat}
    (place : stop = (cursor.shown cut.start).1 + Text.byteLength chars) :
    Follows cut form (Cursor.shown cut.start) (cursor.shown cut.start).2
      (leaf tag (cursor.shown cut.start).1 stop >>= fun _ => pure stop)
      (.done (cursor.take tag chars rest)) := by
  intro misses _
  have small : stop ≤ Range.largestBound := place ▸ Nat.le_trans (shown_le inside start) fits
  have first : (cursor.shown cut.start).1 ≤ Range.largestBound := by omega
  have moved : ((cursor.take tag chars rest).shown cut.start).1 = stop := by
    rw [place, Cursor.shown, Cursor.read_take, Text.byteLength_append, Cursor.shown, Nat.add_assoc]
  refine ⟨[⟨tag, ⟨(cursor.shown cut.start).1, stop⟩, 0⟩], ?_, ?_⟩
  next =>
    rw [Trial.result_done, Option.map_some, moved, Trial.done, List.append_nil]
    exact .bind (leaf_ends tag first small _) (.pure _ _)
  next =>
    intro next found
    obtain rfl := Option.some.inj found
    simp [Cursor.shown, Cursor.take, Piece.allEntries_append, Piece.allEntries, Piece.entries, flat,
      place, Cursor.read]

end

end Search

end Numeral
