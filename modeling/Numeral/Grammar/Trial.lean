import Numeral.Form
import Numeral.Text

/-!
Trials of a rule: a result if the rule matched, and all that was missed on the way, also by parts
of it that were optional. The miss that got furthest is what a reader is told.
-/

set_option autoImplicit false

namespace Numeral

inductive Want where
  | digit (radix : Radix)
  | exponentDigit
  | point
  | exponent (radix : Radix)
  | finish
  deriving DecidableEq

def Want.name : Want → String
  | .digit radix => radix.name ++ " digit"
  | .exponentDigit => "exponent digit"
  | .point => String.ofList ['`', Numeral.point, '`']
  | .exponent radix =>
    match radix.exponentMarkers with
    | [lower, upper] => String.ofList ['`', lower, '`', ' ', 'o', 'r', ' ', '`', upper, '`']
    | _ => "exponent"
  | .finish => "end of literal"

structure Miss where
  form : Form
  read : Text
  want : Want
  deriving DecidableEq

/-- Of the misses that read most, the first. -/
def Miss.furthest : List Miss → Option Miss
  | [] => none
  | miss :: rest =>
    match furthest rest with
    | some later => if miss.read.length < later.read.length then some later else some miss
    | none => some miss

structure Trial (α : Type) where
  misses : List Miss
  result : Option α

namespace Trial

variable {α β : Type}

def done (value : α) : Trial α :=
  ⟨[], some value⟩

def fail : Trial α :=
  ⟨[], none⟩

def stuck (miss : Miss) : Trial α :=
  ⟨[miss], none⟩

def andThen (trial : Trial α) (next : α → Trial β) : Trial β :=
  match trial.result with
  | none => ⟨trial.misses, none⟩
  | some value =>
    let later := next value
    ⟨trial.misses ++ later.misses, later.result⟩

def orElse (trial : Trial α) (other : Unit → Trial α) : Trial α :=
  match trial.result with
  | some value => ⟨trial.misses, some value⟩
  | none =>
    let second := other ()
    ⟨trial.misses ++ second.misses, second.result⟩

/-- Goes on with `value` where the trial failed; what it missed still counts. -/
def optional (value : α) (trial : Trial α) : Trial α :=
  ⟨trial.misses, some (trial.result.getD value)⟩

def firstOf (rule : β → Trial α) : List β → Trial α
  | [] => fail
  | choice :: rest => (rule choice).orElse fun _ => firstOf rule rest

@[simp] theorem result_done (value : α) : (done value).result = some value := rfl

@[simp] theorem result_fail : (fail : Trial α).result = none := rfl

@[simp] theorem result_stuck (miss : Miss) : (stuck miss : Trial α).result = none := rfl

@[simp] theorem result_andThen (trial : Trial α) (next : α → Trial β) :
    (trial.andThen next).result = trial.result.bind fun value => (next value).result := by
  unfold andThen
  cases trial.result <;> rfl

@[simp] theorem result_orElse (trial : Trial α) (other : Unit → Trial α) :
    (trial.orElse other).result = trial.result.or (other ()).result := by
  unfold orElse
  cases trial.result <;> rfl

@[simp] theorem result_optional (value : α) (trial : Trial α) :
    (trial.optional value).result = some (trial.result.getD value) := rfl

theorem result_firstOf (rule : β → Trial α) (choices : List β) :
    (firstOf rule choices).result = choices.findSome? fun choice => (rule choice).result := by
  induction choices with
  | nil => rfl
  | cons choice rest ih =>
    simp only [firstOf, result_orElse, ih, List.findSome?_cons]
    cases (rule choice).result <;> rfl

end Trial

end Numeral
