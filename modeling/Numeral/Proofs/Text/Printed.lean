import Mathlib.Data.List.Basic
import Numeral.Text.Quoted

set_option autoImplicit false

namespace Numeral

theorem append_inj_of_head {α : Type} {p : α → Prop} {a b c d : List α} (first : ∀ x ∈ a, p x)
    (second : ∀ x ∈ c, p x) (stops : ∀ x ∈ b.head?, ¬p x) (ends : ∀ x ∈ d.head?, ¬p x)
    (same : a ++ b = c ++ d) : a = c ∧ b = d := by
  -- the longer word would go on with what has to stop the other
  have whole (e f g : List α) (inside : ∀ x ∈ e ++ f, p x)
      (outside : ∀ x ∈ (f ++ g).head?, ¬p x) : f = [] := by
    cases f with
    | nil => rfl
    | cons x f => exact absurd (inside x (by simp)) (outside x (by simp))
  rcases List.append_eq_append_iff.1 same with ⟨between, rfl, rfl⟩ | ⟨between, rfl, rfl⟩
  next =>
    obtain rfl := whole a between d second stops
    simp
  next =>
    obtain rfl := whole c between b first ends
    simp

namespace Text

def IsLine (text : Text) : Prop :=
  ∃ body, newline ∉ body ∧ text = body ++ [newline]

theorem linesFrom_line (line rest : Text) {body : Text} (unbroken : newline ∉ body) :
    linesFrom line (body ++ newline :: rest) = Line.ofEnded (line ++ body) :: linesFrom [] rest := by
  induction body generalizing line with
  | nil => simp [linesFrom]
  | cons c body ih =>
    have other : c ≠ newline := fun same => unbroken (by simp [same])
    have next := ih (line ++ [c]) fun member => unbroken (List.mem_cons_of_mem _ member)
    simpa [linesFrom, other] using next

theorem length_lines_flatten {parts : List Text} (each : ∀ part ∈ parts, IsLine part) :
    (lines parts.flatten).length = parts.length := by
  induction parts with
  | nil => rfl
  | cons part rest ih =>
    have later := ih fun other member => each other (List.mem_cons_of_mem _ member)
    obtain ⟨body, unbroken, rfl⟩ := each part List.mem_cons_self
    have first := linesFrom_line [] rest.flatten unbroken
    simp only [List.nil_append] at first
    simp [lines, first, ← later]

theorem flatten_lines_inj {parts others : List Text} (each : ∀ part ∈ parts, IsLine part)
    (again : ∀ part ∈ others, IsLine part) (same : parts.flatten = others.flatten) :
    parts = others := by
  induction parts generalizing others with
  | nil =>
    cases others with
    | nil => rfl
    | cons other others =>
      obtain ⟨body, -, rfl⟩ := again other List.mem_cons_self
      simp at same
  | cons part parts ih =>
    obtain ⟨body, unbroken, rfl⟩ := each part List.mem_cons_self
    cases others with
    | nil => simp at same
    | cons other others =>
      obtain ⟨back, whole, rfl⟩ := again other List.mem_cons_self
      simp only [List.flatten_cons, List.append_assoc, List.singleton_append] at same
      obtain ⟨rfl, rest⟩ := append_inj_of_head (p := (· ≠ newline))
        (fun c member ends => unbroken (ends ▸ member))
        (fun c member ends => whole (ends ▸ member)) (by simp) (by simp) same
      have later := ih (fun part member => each part (List.mem_cons_of_mem _ member))
        (fun part member => again part (List.mem_cons_of_mem _ member)) (List.cons.inj rest).2
      rw [later]

end Text

def OneLine (s : String) : Prop :=
  Text.newline ∉ s.toList

theorem oneLine_ofList {cs : List Char} (unbroken : Text.newline ∉ cs) :
    OneLine (String.ofList cs) := by
  rwa [OneLine, String.toList_ofList]

theorem OneLine.append {s t : String} (first : OneLine s) (second : OneLine t) :
    OneLine (s ++ t) := by
  simp only [OneLine, String.toList_append, List.mem_append, not_or]
  exact ⟨first, second⟩

theorem oneLine_join {parts : List String} (each : ∀ part ∈ parts, OneLine part) :
    OneLine (String.join parts) := by
  rw [OneLine, String.toList_join, List.mem_flatMap]
  rintro ⟨part, member, broken⟩
  exact each part member broken

theorem OneLine.isLine {s : String} (unbroken : OneLine s) : Text.IsLine (s ++ "\n").toList :=
  ⟨s.toList, unbroken, String.toList_append⟩

theorem notMem_toDigits {c : Char} (other : ∀ n, Nat.digitChar n ≠ c) {base : Nat}
    (large : 1 < base) (n : Nat) : c ∉ Nat.toDigits base n := by
  induction n using Nat.strongRecOn with
  | ind n ih =>
    rw [Nat.toDigits_eq_if large]
    split
    next => simp [(other n).symm]
    next small =>
      have smaller : n / base < n := Nat.div_lt_self (by omega) large
      simp [ih _ smaller, (other _).symm]

theorem newline_notMem_toDigits {base : Nat} (large : 1 < base) (n : Nat) :
    Text.newline ∉ Nat.toDigits base n :=
  notMem_toDigits (fun n => Nat.digitChar_ne _ (by decide)) large n

theorem oneLine_number (n : Nat) : OneLine (toString n) := by
  rw [Nat.toString_eq_ofList_toDigits]
  exact oneLine_ofList (newline_notMem_toDigits (by decide) n)

theorem isDigit_of_mem_number {n : Nat} {c : Char} (member : c ∈ (toString n).toList) :
    c.isDigit = true := by
  rw [Nat.toString_eq_ofList_toDigits, String.toList_ofList] at member
  exact Nat.isDigit_of_mem_toDigits (by decide) (by decide) member

theorem number_head (n : Nat) (rest : List Char) :
    ∀ c ∈ ((toString n).toList ++ rest).head?, c.isDigit = true := by
  intro c first
  have nonempty : (toString n).toList ≠ [] := by
    rw [Nat.toString_eq_ofList_toDigits, String.toList_ofList]
    exact Nat.toDigits_ne_nil
  rw [List.head?_append_of_ne_nil _ nonempty] at first
  exact isDigit_of_mem_number (List.mem_of_mem_head? first)

theorem number_inj {n m : Nat} {rest more : List Char}
    (stops : ∀ c ∈ rest.head?, ¬c.isDigit = true) (ends : ∀ c ∈ more.head?, ¬c.isDigit = true)
    (same : (toString n).toList ++ rest = (toString m).toList ++ more) : n = m ∧ rest = more := by
  obtain ⟨numbers, rests⟩ := append_inj_of_head (fun _ => isDigit_of_mem_number)
    (fun _ => isDigit_of_mem_number) stops ends same
  have values := congrArg (fun digits => Nat.ofDigitChars 10 digits 0) numbers
  simp only [Nat.toString_eq_ofList_toDigits, String.toList_ofList,
    Nat.ofDigitChars_ten_toDigits] at values
  exact ⟨values, rests⟩

namespace Text.Quoting

variable (quoting : Quoting)

theorem newline_notMem_escape (leading : Bool) (c : Char) :
    newline ∉ quoting.escape leading c := by
  have hex : newline ∉ "\\u\x7b".toList ++ Nat.toDigits 16 c.toNat ++ "\x7d".toList := by
    simp only [List.mem_append, newline_notMem_toDigits (by decide : 1 < 16), or_false, not_or]
    decide
  have other (unbroken : ¬(c == '\n') = true) : newline ≠ c :=
    fun same => unbroken (by simp [← same, newline])
  unfold escape
  split_ifs with zero tab carriage ends special quoted mark shown
  next => decide
  next => decide
  next => decide
  next => decide
  next => simpa using ⟨by decide, other ends⟩
  next => simpa using ⟨by decide, other ends⟩
  next => exact hex
  next => simpa using other ends
  next => exact hex

theorem quote_oneLine (text : Text) : OneLine (quoting.quote text) := by
  cases text with
  | nil => exact oneLine_ofList (by decide)
  | cons c cs =>
    have first := quoting.newline_notMem_escape true c
    have rest := quoting.newline_notMem_escape false
    have mark : newline ≠ '"' := by decide
    exact oneLine_ofList (by simp [first, rest, mark])

end Text.Quoting

end Numeral
