import Modelwright.Text.Case
import Modelwright.Text.Numeric
import Modelwright.Text.Uppercase

namespace Modelwright.Naming

open Modelwright.Text

inductive CharClass where
  | upper
  | lower
  | digit
  | separator
  deriving DecidableEq, Repr

/-- A letter that is not a capital counts as small, whatever its script. -/
def classify (c : Char) : CharClass :=
  if isUppercase c then .upper
  else if isAlphabetic c then .lower
  else if isNumeric c then .digit
  else .separator

/-- Whether a word ends between two neighbours, given what follows the second.  A capital in a run
of capitals starts a word when a small letter follows it. -/
def breaks : CharClass → CharClass → Option CharClass → Bool
  | .lower, .upper, _ => true
  | .upper, .upper, next => next = some .lower
  | .digit, .upper, _ => true
  | .digit, .lower, _ => true
  | .upper, .digit, _ => true
  | .lower, .digit, _ => true
  | _, _, _ => false

def joins (c : Char) : List Char → Bool
  | [] => false
  | d :: rest =>
    classify d != .separator && !breaks (classify c) (classify d) (rest.head?.map classify)

def prepend (c : Char) : List (List Char) → List (List Char)
  | [] => [[c]]
  | word :: words => (c :: word) :: words

def wordsOf : List Char → List (List Char)
  | [] => []
  | c :: rest =>
    if classify c = .separator then wordsOf rest
    else if joins c rest then prepend c (wordsOf rest)
    else [c] :: wordsOf rest

def words (s : String) : List String :=
  (wordsOf s.toList).map String.ofList

@[simp] theorem wordsOf_nil : wordsOf [] = [] := rfl

theorem wordsOf_separator {c : Char} (h : classify c = .separator) (rest : List Char) :
    wordsOf (c :: rest) = wordsOf rest := by
  simp [wordsOf, h]

theorem flatten_prepend (c : Char) (words : List (List Char)) :
    (prepend c words).flatten = c :: words.flatten := by
  cases words <;> simp [prepend]

end Modelwright.Naming
