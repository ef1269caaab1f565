import Modelwright.Proofs.Outline.Line
import Modelwright.Proofs.Target.Literals
import Modelwright.Proofs.Text.Pieces

namespace Modelwright.Outline

open Modelwright.Text Modelwright.Target

/-! Names that statements bind. -/

/-- The text does not continue an identifier that stands before it. -/
def Ends (text : List Char) : Prop :=
  ∀ c ∈ text.head?, isIdentifierChar c = false

theorem ends_cons {c : Char} (apart : isIdentifierChar c = false) (rest : List Char) :
    Ends (c :: rest) := by
  rintro _ ⟨⟩
  exact apart

theorem not_isIdentifierChar_of_isBlank {c : Char} (blank : isBlank c = true) :
    isIdentifierChar c = false := by
  have apart : ∀ range ∈ blankRanges, ∀ point ∈ List.range' range.1 (range.2 + 1 - range.1),
      isIdentifierChar (Char.ofNat point) = false := by
    decide +kernel
  obtain ⟨range, listed, first, last⟩ := inRanges_iff.mp blank
  have within : c.toNat ∈ List.range' range.1 (range.2 + 1 - range.1) := by
    rw [List.mem_range'_1]
    omega
  rw [← Char.ofNat_toNat c]
  exact apart range listed c.toNat within

theorem ends_append_of_blank {gap rest : List Char} (blank : ∀ c ∈ gap, isBlank c = true)
    (ends : Ends rest) : Ends (gap ++ rest) := by
  cases gap with
  | nil => exact ends
  | cons c more =>
      exact ends_cons (not_isIdentifierChar_of_isBlank (blank c List.mem_cons_self)) (more ++ rest)

section Shapes

variable {chars rest : List Char}

theorem isIdentifierChar_of_shape (shape : hasIdentifierShape chars = true) :
    ∀ c ∈ chars, isIdentifierChar c = true := by
  cases chars with
  | nil => cases shape
  | cons first more =>
      rw [hasIdentifierShape, Bool.and_eq_true, List.all_eq_true] at shape
      refine List.forall_mem_cons.mpr ⟨?_, shape.2⟩
      rcases Bool.or_eq_true_iff.mp shape.1 with letter | underscore
      · simp [isIdentifierChar, isAlphanumeric, letter]
      · simp [isIdentifierChar, underscore]

theorem not_isDigit_of_shape {c : Char} (shape : hasIdentifierShape (c :: rest) = true) :
    c.isDigit = false := by
  by_contra digit
  rw [Bool.not_eq_false] at digit
  have first := (Bool.and_eq_true_iff.mp shape).1
  rw [not_isAlphabetic_of_isDigit digit, Bool.false_or] at first
  rw [eq_of_beq first] at digit
  cases digit

theorem identifier_append_of_shape (shape : hasIdentifierShape chars = true) (ends : Ends rest) :
    identifier (chars ++ rest) = chars := by
  have part := isIdentifierChar_of_shape shape
  have stops : rest.takeWhile isIdentifierChar = [] := by
    cases rest with
    | nil => rfl
    | cons c more => rw [List.takeWhile_cons_of_neg (by simp [ends c rfl])]
  cases chars with
  | nil => cases shape
  | cons c more =>
      rw [List.cons_append, identifier, not_isDigit_of_shape shape, if_neg Bool.false_ne_true,
        ← List.cons_append, List.takeWhile_append_of_pos part, stops, List.append_nil]

theorem trimStart_append_of_shape (shape : hasIdentifierShape chars = true) :
    trimStart (chars ++ rest) = chars ++ rest := by
  refine trimStart_eq_self_iff.mpr fun c first => ?_
  cases chars with
  | nil => cases shape
  | cons d more =>
      obtain rfl := Option.some.inj first
      by_contra blank
      have apart := not_isIdentifierChar_of_isBlank (Bool.not_eq_false _ ▸ blank)
      rw [isIdentifierChar_of_shape shape d List.mem_cons_self] at apart
      cases apart

end Shapes

inductive Form where
  | assigned
  | annotated
  | function
  | coroutine

def Form.isFunction : Form → Bool
  | assigned => false
  | annotated => false
  | function => true
  | coroutine => true

/-- The statement starts like one of the form that binds the name. -/
inductive Binds (name : String) : Form → List Char → Prop
  | assigned (gap value : List Char) (blank : ∀ c ∈ gap, isBlank c = true)
      (single : value.head? ≠ some '=') :
      Binds name .assigned (name.toList ++ (gap ++ '=' :: value))
  | annotated (gap hint : List Char) (blank : ∀ c ∈ gap, isBlank c = true) :
      Binds name .annotated (name.toList ++ (gap ++ ':' :: hint))
  | function (gap rest : List Char) (blank : ∀ c ∈ gap, isBlank c = true) :
      Binds name .function ("def ".toList ++ (name.toList ++ (gap ++ '(' :: rest)))
  | coroutine (gap rest : List Char) (blank : ∀ c ∈ gap, isBlank c = true) :
      Binds name .coroutine ("async def ".toList ++ (name.toList ++ (gap ++ '(' :: rest)))

section Names

variable {name : String} {rest : List Char}

theorem dropLiteral?_keyword (named : isIdentifier name = true) (ends : Ends rest) (word : String)
    (keyword : isKeyword word = true) (more : List Char) :
    dropLiteral? (word.toList ++ ' ' :: more) (name.toList ++ rest) = none := by
  have shapes : ∀ word ∈ keywords, hasIdentifierShape word.toList = true := by decide +kernel
  have space : isIdentifierChar ' ' = false := by decide +kernel
  obtain ⟨shape, noKeyword⟩ := Bool.and_eq_true_iff.mp named
  refine Option.eq_none_iff_forall_ne_some.mpr fun behind found => ?_
  have split := dropLiteral?_eq_some_iff.mp found
  rw [List.append_assoc, List.cons_append] at split
  have same : name.toList = word.toList := by
    rw [← identifier_append_of_shape shape ends, split]
    exact identifier_append_of_shape (shapes word (List.contains_iff_mem.mp keyword))
      (ends_cons space _)
  rw [String.toList_inj.mp same, keyword] at noKeyword
  cases noKeyword

/-- Of the words that start statements two are names. -/
theorem mem_statementWords_iff (named : isIdentifier name = true) :
    name ∈ statementWords ↔ name = "match" ∨ name = "case" := by
  have others : ∀ word ∈ statementWords,
      word = "match" ∨ word = "case" ∨ isKeyword word = true := by
    decide
  constructor
  · intro listed
    rcases others name listed with first | second | keyword
    · exact .inl first
    · exact .inr second
    · rw [isIdentifier, keyword, Bool.not_true, Bool.and_false] at named
      cases named
  · rintro (rfl | rfl)
    · decide
    · decide

theorem nonEmptyName_of_isIdentifier (named : isIdentifier name = true) :
    nonEmptyName name.toList = some name := by
  have stands : name.toList ≠ [] := by
    intro empty
    rw [isIdentifier, empty] at named
    cases named
  rw [nonEmptyName, List.isEmpty_eq_false_iff.mpr stands, if_neg Bool.false_ne_true,
    String.ofList_toList]

theorem declaredName?_of_definedFunction? {text : List Char} (named : isIdentifier name = true)
    (ends : Ends rest) (defined : definedFunction? text = some (name.toList ++ rest)) :
    declaredName? text = some name := by
  have shape := (Bool.and_eq_true_iff.mp named).1
  simp only [declaredName?, defined, trimStart_append_of_shape shape,
    identifier_append_of_shape shape ends, nonEmptyName_of_isIdentifier named]

theorem declaredName?_of_isBinding {gap : List Char} (named : isIdentifier name = true)
    (blank : ∀ c ∈ gap, isBlank c = true) (ends : Ends rest) (binding : isBinding rest = true)
    (stands : trimStart rest = rest) :
    declaredName? (name.toList ++ (gap ++ rest)) =
      if name = "match" ∨ name = "case" then none else some name := by
  have shape := (Bool.and_eq_true_iff.mp named).1
  have behind := ends_append_of_blank blank ends
  have noFunction : definedFunction? (name.toList ++ (gap ++ rest)) = none := by
    rw [definedFunction?, Option.or_eq_none_iff]
    exact ⟨dropLiteral?_keyword named behind "async" (by decide) "def ".toList,
      dropLiteral?_keyword named behind "def" (by decide) []⟩
  simp only [declaredName?, noFunction, identifier_append_of_shape shape behind,
    String.ofList_toList, mem_statementWords_iff named, List.drop_left,
    trimStart_append_of_blank blank, stands, binding, if_true, nonEmptyName_of_isIdentifier named]

theorem declaredClass?_of_isIdentifier {gap : List Char} (named : isIdentifier name = true)
    (blank : ∀ c ∈ gap, isBlank c = true) (ends : Ends rest) :
    declaredClass? (name.toList ++ (gap ++ rest)) = none := by
  have other := dropLiteral?_keyword named (ends_append_of_blank blank ends) "class" (by decide) []
  rw [declaredClass?]
  exact congrArg (Option.bind · _) other

end Names

theorem declaredName?_of_binds {name : String} {form : Form} {text : List Char}
    (named : isIdentifier name = true) (binds : Binds name form text) :
    declaredClass? text = none ∧
      declaredName? text =
        if form.isFunction = false ∧ (name = "match" ∨ name = "case") then none else some name := by
  have bracket : isIdentifierChar '(' = false := by decide +kernel
  have equals : isIdentifierChar '=' = false := by decide +kernel
  have colon : isIdentifierChar ':' = false := by decide +kernel
  cases binds with
  | assigned gap value blank single =>
      have ends := ends_cons equals value
      refine ⟨declaredClass?_of_isIdentifier named blank ends, ?_⟩
      rw [declaredName?_of_isBinding named blank ends (by simpa [isBinding_cons] using single) rfl]
      simp [Form.isFunction]
  | annotated gap hint blank =>
      have ends := ends_cons colon hint
      refine ⟨declaredClass?_of_isIdentifier named blank ends, ?_⟩
      rw [declaredName?_of_isBinding named blank ends rfl rfl]
      simp [Form.isFunction]
  | function gap rest blank =>
      have ends := ends_append_of_blank blank (ends_cons bracket rest)
      refine ⟨rfl, ?_⟩
      rw [declaredName?_of_definedFunction? named ends rfl]
      simp [Form.isFunction]
  | coroutine gap rest blank =>
      have ends := ends_append_of_blank blank (ends_cons bracket rest)
      refine ⟨rfl, ?_⟩
      rw [declaredName?_of_definedFunction? named ends rfl]
      simp [Form.isFunction]

end Modelwright.Outline
