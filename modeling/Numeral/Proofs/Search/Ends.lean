import Numeral.Grammar.Search
import Numeral.Proofs.Grammar.Misses
import Numeral.Proofs.Text.Bytes

set_option autoImplicit false

namespace Numeral

def Miss.obstacle (start : Nat) (miss : Miss) : Obstacle :=
  ⟨start + Text.byteLength miss.read, miss.want, miss.form⟩

namespace Search

open Grammar

variable {α β : Type} {search middle last : Search}

/-- The attempt comes to its end without a fault. -/
def Ends (attempt : Attempt α) (search : Search) (result : Option α) (last : Search) : Prop :=
  attempt.run.run search = .ok (result, last)

namespace Ends

theorem bind {first : Attempt α} {next : α → Attempt β} {a : α} {result : Option β}
    (ran : Ends first search (some a) middle) (later : Ends (next a) middle result last) :
    Ends (first >>= next) search result last := by
  unfold Ends at *
  rw [OptionT.run_bind, Option.elimM, StateT.run_bind, ran]
  exact later

theorem bind_none {first : Attempt α} {next : α → Attempt β}
    (ran : Ends first search none last) : Ends (first >>= next) search none last := by
  unfold Ends at *
  rw [OptionT.run_bind, Option.elimM, StateT.run_bind, ran]
  rfl

theorem orElse {first other : Attempt α} {a : α} (ran : Ends first search (some a) last) :
    Ends (first <|> other) search (some a) last := by
  unfold Ends at *
  rw [OptionT.run_orElse, Option.elimM, StateT.run_bind, ran]
  rfl

theorem orElse_none {first other : Attempt α} {result : Option α}
    (ran : Ends first search none middle) (later : Ends other middle result last) :
    Ends (first <|> other) search result last := by
  unfold Ends at *
  rw [OptionT.run_orElse, Option.elimM, StateT.run_bind, ran]
  exact later

theorem pure (a : α) (search : Search) : Ends (pure a) search (some a) search := rfl

theorem failure (search : Search) : Ends (failure : Attempt α) search none search := rfl

theorem get (search : Search) : Ends get search (some search) search := rfl

theorem set {next : Search} (same : next = last) :
    Ends (set next) search (some ()) last := by
  rw [same]
  rfl

theorem modify {change : Search → Search} (same : change search = last) :
    Ends (modify change) search (some ()) last := by
  rw [← same]
  rfl

theorem lift {made : Except Fault α} {a : α} (fine : made = .ok a) (search : Search) :
    Ends (liftM made) search (some a) search := by
  rw [fine]
  rfl

end Ends

theorem ofInts_ends {start stop : Nat} (first : start ≤ Range.largestBound)
    (second : stop ≤ Range.largestBound) (search : Search) :
    Ends (liftM (Range.ofInts start stop)) search (some ⟨start, stop⟩) search := by
  refine .lift ?_ search
  simp [Range.ofInts, Range.boundOf, first, second, bind, Except.bind, pure, Except.pure]

end Search

def Text.Excerpt.search (cut : Text.Excerpt) (form : Form) (misses : List Miss)
    (entries : List Entry) : Search :=
  ⟨cut.whole, cut.range, ⟨.literal .invalid, cut.range, 0⟩ :: entries,
    (Miss.furthest misses).map (Miss.obstacle cut.start), form⟩

namespace Search

open Grammar

variable {α β : Type} {cut : Text.Excerpt} {form : Form} {misses : List Miss}
  {entries : List Entry}

theorem new_whole (cut : Text.Excerpt) :
    new cut.whole cut.range = .ok (cut.search .decimalFloat [] []) := by
  have first : Text.splitAt? cut.whole cut.start = some (cut.before, cut.inside ++ cut.after) := by
    rw [Text.Excerpt.whole, List.append_assoc]
    exact Text.splitAt?_byteLength _ _
  have second : Text.splitAt? cut.whole cut.stop = some (cut.before ++ cut.inside, cut.after) :=
    Text.splitAt?_byteLength _ _
  have order := cut.start_le_stop
  have inside := cut.stop_le_length
  simp only [new, Range.check, Text.Excerpt.range, Nat.not_lt.2 order, Nat.not_lt.2 inside,
    if_false, bind, Except.bind, first, second]
  rfl

theorem mark_ends (search : Search) : Ends mark search (some search.entries.length) search := rfl

def write (added : List Entry) (search : Search) : Search :=
  { search with entries := search.entries ++ added }

@[simp] theorem write_search (form : Form) (misses : List Miss) (entries added : List Entry) :
    (cut.search form misses entries).write added = cut.search form misses (entries ++ added) :=
  rfl

@[simp] theorem write_write (first second : List Entry) (search : Search) :
    (search.write first).write second = search.write (first ++ second) := by
  simp [write]

theorem openNode_ends {start : Nat} (fits : start ≤ Range.largestBound) (tag : Tag)
    (search : Search) :
    Ends (openNode tag start) search (some search.entries.length)
      (search.write [⟨tag, ⟨start, start⟩, 0⟩]) :=
  .bind (ofInts_ends fits fits _) <| .bind (mark_ends _) <| .bind (.modify rfl) (.pure _ _)

theorem closeNode_ends {start stop : Nat} {tag : Tag} {below : List Entry}
    (first : start ≤ Range.largestBound) (second : stop ≤ Range.largestBound)
    (few : below.length ≤ Range.largestBound) (search : Search) :
    Ends (closeNode search.entries.length stop)
      (search.write (⟨tag, ⟨start, start⟩, 0⟩ :: below)) (some ())
      (search.write (⟨tag, ⟨start, stop⟩, below.length⟩ :: below)) := by
  have here : (search.write (⟨tag, ⟨start, start⟩, 0⟩ :: below)).entries[
      search.entries.length]? = some ⟨tag, ⟨start, start⟩, 0⟩ := by
    simp [write]
  have count : countOf below.length = below.length := Nat.mod_eq_of_lt (Nat.lt_succ_of_le few)
  refine .bind (.get _) ?_
  rw [here]
  refine .bind (ofInts_ends first second _) (.set ?_)
  simp [write, count]

theorem leaf_ends {start stop : Nat} (tag : Tag) (first : start ≤ Range.largestBound)
    (second : stop ≤ Range.largestBound) (search : Search) :
    Ends (leaf tag start stop) search (some ()) (search.write [⟨tag, ⟨start, stop⟩, 0⟩]) :=
  .bind (openNode_ends first tag search) (closeNode_ends first second (Nat.zero_le _) search)

theorem rollback_ends {added : List Entry} :
    Ends (rollback (entries.length + 1)) (cut.search form misses (entries ++ added)) (some ())
      (cut.search form misses entries) := by
  unfold rollback
  rw [if_neg (Nat.succ_ne_zero _)]
  exact .modify (by simp [Text.Excerpt.search])

theorem miss_ends (miss : Miss) (known : ∀ other ∈ misses, other.read <+: cut.inside)
    (ahead : miss.read <+: cut.inside) (own : miss.form = form) :
    Ends (Search.miss (cut.start + Text.byteLength miss.read) miss.want : Attempt α)
      (cut.search form misses entries) none (cut.search form (misses ++ [miss]) entries) := by
  refine .bind (.modify ?_) (.failure _)
  have further : ∀ best ∈ misses,
      cut.start + Text.byteLength best.read < cut.start + Text.byteLength miss.read ↔
        best.read.length < miss.read.length := fun best member => by
    rw [Nat.add_lt_add_iff_left, Text.byteLength_lt_iff (known best member) ahead]
  cases best : Miss.furthest misses with
  | none => simp [note, Text.Excerpt.search, Miss.furthest_concat, best, Miss.obstacle, own]
  | some other =>
    have order := further other (Miss.furthest_mem best)
    by_cases later : other.read.length < miss.read.length <;>
      simp [note, Text.Excerpt.search, Miss.furthest_concat, best, Miss.obstacle, own, order, later]

/-- The search goes over the cut, whatever it has written and missed. -/
structure Over (cut : Text.Excerpt) (search : Search) : Prop where
  text_eq : search.text = cut.whole
  span_eq : search.span = cut.range

theorem over_search (cut : Text.Excerpt) (form : Form) (misses : List Miss)
    (entries : List Entry) : Over cut (cut.search form misses entries) :=
  ⟨rfl, rfl⟩

theorem Over.write {search : Search} (across : Over cut search) (added : List Entry) :
    Over cut (search.write added) :=
  ⟨across.text_eq, across.span_eq⟩

def Reads (cut : Text.Excerpt) (attempt : Attempt α) (value : α) : Prop :=
  ∀ search, Over cut search → Ends attempt search (some value) search

theorem Reads.bind {first : Attempt α} {next : α → Attempt β} {a : α} {b : β}
    (read : Reads cut first a) (later : Reads cut (next a) b) : Reads cut (first >>= next) b :=
  fun search across => (read search across).bind (later search across)

theorem Reads.pure (value : α) : Reads cut (pure value) value :=
  fun _ _ => .pure _ _

theorem byte_outside {offset : Nat} (outside : offset < cut.start ∨ cut.stop ≤ offset) :
    Reads cut (byte offset) none := by
  intro search across
  refine .bind (.get _) ?_
  have gone : offset < search.span.start ∨ search.span.stop ≤ offset := by
    rw [across.span_eq]
    exact outside
  rw [if_pos gone]
  exact .pure _ _

theorem byte_inside {offset : Nat} {b : Char} (after : cut.start ≤ offset)
    (before : offset < cut.stop) (there : Text.byteAt? cut.whole offset = some b) :
    Reads cut (byte offset) (some b) := by
  intro search across
  refine .bind (.get _) ?_
  have inside : ¬(offset < search.span.start ∨ search.span.stop ≤ offset) := by
    rw [across.span_eq]
    exact not_or.2 ⟨Nat.not_lt.2 after, Nat.not_le.2 before⟩
  have found : search.text.byteAt? offset = some b := across.text_eq ▸ there
  rw [if_neg inside, found]
  exact .pure _ _

theorem exists_byte (cut : Text.Excerpt) (offset : Nat) : ∃ b, Reads cut (byte offset) b := by
  by_cases outside : offset < cut.start ∨ cut.stop ≤ offset
  next => exact ⟨none, byte_outside outside⟩
  next =>
    obtain ⟨after, before⟩ := not_or.1 outside
    have before := Nat.not_le.1 before
    obtain ⟨b, there⟩ := Text.exists_byteAt (Nat.lt_of_lt_of_le before cut.stop_le_length)
    exact ⟨some b, byte_inside (Nat.not_lt.1 after) before there⟩

section

variable {front back : Text} (around : cut.inside = front ++ back)

include around

theorem stop_around : cut.stop = cut.start + Text.byteLength front + Text.byteLength back := by
  rw [Text.Excerpt.stop, around, Text.byteLength_append, Text.byteLength_append,
    Text.Excerpt.start, Nat.add_assoc]

theorem plus_around (fits : cut.stop ≤ Range.largestBound) {count : Nat} (few : count ≤ 2) :
    Reads cut (liftM (plus (cut.start + Text.byteLength front) count))
      (cut.start + Text.byteLength front + count) := by
  have stop := stop_around around
  have room : Range.largestBound + 2 ≤ Bound.largestOffset := by decide
  exact fun _ _ => .lift (if_pos (by omega)) _

theorem byte_ahead :
    Reads cut (byte (cut.start + Text.byteLength front)) (back.head?.map Text.firstByte) := by
  have stop := stop_around around
  cases back with
  | nil => exact byte_outside (.inr (Nat.le_of_eq stop))
  | cons c cs =>
    have there := Text.byteAt?_ahead (cut.before ++ front) (c :: cs ++ cut.after)
    rw [Text.byteLength_append] at there
    have whole : cut.whole = cut.before ++ front ++ (c :: cs ++ cut.after) := by
      simp [Text.Excerpt.whole, around]
    have positive : 0 < Text.byteLength (c :: cs) := Text.byteLength_pos (by simp)
    refine byte_inside (Nat.le_add_right _ _) (by omega) ?_
    rw [whole]
    exact there

theorem byte_behind (fits : cut.stop ≤ Range.largestBound) :
    Reads cut (byte (behind (cut.start + Text.byteLength front)))
      (front.getLast?.map Text.lastByte) := by
  rcases List.eq_nil_or_concat' front with rfl | ⟨init, c, rfl⟩
  next =>
    refine byte_outside ?_
    rw [behind]
    split
    next =>
      have wide : Range.largestBound ≤ Bound.largestOffset := by decide
      exact .inr (Nat.le_trans fits wide)
    next nonzero =>
      simp only [Text.byteLength, Nat.add_zero] at nonzero ⊢
      omega
  next =>
    have positive : 0 < Text.byteLength (init ++ [c]) := Text.byteLength_pos (by simp)
    have stop := stop_around around
    have whole : cut.whole = cut.before ++ init ++ [c] ++ (back ++ cut.after) := by
      simp [Text.Excerpt.whole, around]
    have there := Text.byteAt?_behind (cut.before ++ init) (back ++ cut.after) c
    rw [← whole] at there
    have place : behind (cut.start + Text.byteLength (init ++ [c])) =
        Text.byteLength (cut.before ++ init ++ [c]) - 1 := by
      rw [behind, if_neg (by omega)]
      simp [Text.Excerpt.start]
    rw [← place] at there
    rw [behind, if_neg (by omega)] at there ⊢
    rw [List.getLast?_concat]
    exact byte_inside (by omega) (by omega) there

theorem isDigit_ahead (radix : Radix) :
    Reads cut (isDigit radix (cut.start + Text.byteLength front)) (startsWithDigit radix back) := by
  have seen : (back.head?.map Text.firstByte).any radix.isDigit = startsWithDigit radix back := by
    rw [(Text.asciiOnly_isDigit radix).any_firstByte]
    cases back <;> rfl
  rw [← seen]
  exact (byte_ahead around).bind (.pure _)

theorem isDigit_behind (fits : cut.stop ≤ Range.largestBound) (radix : Radix) :
    Reads cut (isDigit radix (behind (cut.start + Text.byteLength front)))
      (front.getLast?.any radix.isDigit) := by
  rw [← (Text.asciiOnly_isDigit radix).any_lastByte]
  exact (byte_behind around fits).bind (.pure _)

end

theorem exists_isDigit (cut : Text.Excerpt) (radix : Radix) (offset : Nat) :
    ∃ found, Reads cut (isDigit radix offset) found := by
  obtain ⟨b, read⟩ := exists_byte cut offset
  exact ⟨_, read.bind (.pure _)⟩

theorem around_concat {front rest : Text} {c : Char} (around : cut.inside = front ++ c :: rest) :
    cut.inside = front ++ [c] ++ rest := by
  rw [around, List.append_assoc, List.singleton_append]

section

variable {front rest : Text} {c : Char} (around : cut.inside = front ++ c :: rest)
  (single : c.utf8Size = 1)

include around single

theorem byte_next :
    Reads cut (byte (cut.start + Text.byteLength front + 1)) (rest.head?.map Text.firstByte) := by
  have next := byte_ahead (around_concat around)
  rwa [Text.byteLength_concat single, ← Nat.add_assoc] at next

theorem isDigit_next (radix : Radix) :
    Reads cut (isDigit radix (cut.start + Text.byteLength front + 1))
      (startsWithDigit radix rest) := by
  have next := isDigit_ahead (around_concat around) radix
  rwa [Text.byteLength_concat single, ← Nat.add_assoc] at next

end

end Search

end Numeral
