import Modelwright.Proofs.Outline.Layout

namespace Modelwright.Outline

open Modelwright.Text Modelwright.Target

/-! First lines of statements. -/

theorem not_isBlank_of_isIdentifierChar {c : Char} (part : isIdentifierChar c = true) :
    isBlank c = false := by
  by_contra blank
  rw [not_isIdentifierChar_of_isBlank (Bool.not_eq_false _ ▸ blank)] at part
  cases part

def Bracketless (text : List Char) : Prop :=
  ∀ c ∈ text, c ∉ brackets

instance (text : List Char) : Decidable (Bracketless text) :=
  decidable_of_iff (text.all (· ∉ brackets) = true) (by simp [Bracketless])

theorem not_bracket_of_isIdentifierChar {c : Char} (part : isIdentifierChar c = true) :
    c ∉ brackets := by
  intro bracket
  have apart : brackets.all (!isIdentifierChar ·) = true := by decide +kernel
  have other := List.all_eq_true.mp apart c bracket
  simp [part] at other

theorem break_not_mem_of_bracketless {before after : List Char} {last : Nat}
    (behind : openBehind? 0 (before ++ after) = some last)
    (bracketless : Bracketless before) : '\n' ∉ before := by
  intro breaks
  obtain ⟨first, rest, rfl, -⟩ := List.eq_append_cons_of_mem breaks
  rw [List.append_assoc, List.cons_append] at behind
  obtain ⟨inside, reached, within, -⟩ := openBehind?_break behind
  have none := bracketDepth_of_bracketless
    (fun c member => bracketless c (List.mem_append_left _ member)) 0
  rw [bracketDepth_of_openBehind? reached] at none
  exact Nat.ne_of_gt within none

theorem trim_firstLine {before : List Char} (stop : Char) (after : List Char)
    (whole : '\n' ∉ before) (stands : isBlank stop = false)
    (first : ∀ c, (before ++ [stop]).head? = some c → isBlank c = false) :
    ∃ later, later <+: after ∧
      trim (firstLine (before ++ stop :: after)) = before ++ stop :: later := by
  have apart : stop ≠ '\n' := by
    rintro rfl
    cases stands
  have kept : firstLine (before ++ stop :: after) = before ++ stop :: firstLine after := by
    rw [firstLine, List.takeWhile_append_of_pos, List.takeWhile_cons_of_pos (by simp [apart])]
    · rfl
    · intro c member
      have other : c ≠ '\n' := by
        rintro rfl
        exact whole member
      simp [other]
  have start : trimStart (before ++ stop :: firstLine after) =
      before ++ stop :: firstLine after := by
    refine trimStart_eq_self_iff.mpr fun c leads => first c ?_
    cases before with
    | nil => exact leads
    | cons d rest => exact leads
  refine ⟨trimEnd (firstLine after), (trimEnd_starts _).trans (List.takeWhile_prefix _), ?_⟩
  rw [kept, trim, start, trimEnd_append stands]

theorem head?_of_starts {first text : List Char} (starts : first <+: text) {c : Char}
    (leads : first.head? = some c) : text.head? = some c := by
  obtain ⟨rest, rfl⟩ := starts
  rw [List.head?_append, leads, Option.some_or]

section Names

variable {name : String} (named : isIdentifier name = true)
include named

theorem isIdentifierChar_of_named : ∀ c ∈ name.toList, isIdentifierChar c = true :=
  isIdentifierChar_of_shape (Bool.and_eq_true_iff.mp named).1

theorem exists_concat_of_named : ∃ start last, name.toList = start ++ [last] := by
  have something : name.toList ≠ [] := by
    intro empty
    rw [isIdentifier, empty] at named
    cases named
  exact ⟨_, _, (List.dropLast_concat_getLast something).symm⟩

theorem head?_named (rest : List Char) :
    ∀ c, (name.toList ++ rest).head? = some c → isBlank c = false := by
  intro c leads
  have shape := (Bool.and_eq_true_iff.mp named).1
  exact trimStart_eq_self_iff.mp (trimStart_append_of_shape shape) c leads

theorem bracketless_named {gap : List Char} (blank : ∀ c ∈ gap, isBlank c = true) :
    Bracketless (name.toList ++ gap) := by
  intro c member
  rcases List.mem_append.mp member with part | space
  · exact not_bracket_of_isIdentifierChar (isIdentifierChar_of_named named c part)
  · exact not_bracket_of_isBlank (blank c space)

theorem trim_firstLine_function (word : List Char) {gap rest : List Char}
    (bracketless : Bracketless word) (stands : ∃ c, word.head? = some c ∧ isBlank c = false)
    (blank : ∀ c ∈ gap, isBlank c = true)
    (closed : openBehind? 0 (word ++ (name.toList ++ (gap ++ '(' :: rest))) = some 0) :
    ∃ later, trim (firstLine (word ++ (name.toList ++ (gap ++ '(' :: rest)))) =
      word ++ (name.toList ++ (gap ++ '(' :: later)) := by
  rw [← List.append_assoc name.toList, ← List.append_assoc] at closed ⊢
  have whole := break_not_mem_of_bracketless closed
    (List.forall_mem_append.mpr ⟨bracketless, bracketless_named named blank⟩)
  have first : ∀ c, (word ++ (name.toList ++ gap) ++ ['(']).head? = some c →
      isBlank c = false := by
    obtain ⟨d, leads, stands⟩ := stands
    obtain ⟨more, rfl⟩ := List.head?_eq_some_iff.mp leads
    rintro c ⟨⟩
    exact stands
  obtain ⟨later, -, split⟩ := trim_firstLine '(' rest whole (by decide) first
  exact ⟨later, by rw [split, List.append_assoc, List.append_assoc]⟩

theorem Binds.firstLine {form : Form} {text : List Char} (binds : Binds name form text)
    (closed : openBehind? 0 text = some 0) : Binds name form (trim (firstLine text)) := by
  cases binds with
  | assigned gap value blank single =>
      rw [← List.append_assoc] at closed ⊢
      have whole := break_not_mem_of_bracketless closed (bracketless_named named blank)
      obtain ⟨later, starts, split⟩ := trim_firstLine '=' value whole
        (by decide) (by simpa using head?_named named (gap ++ ['=']))
      rw [split, List.append_assoc]
      exact .assigned gap later blank fun again => single (head?_of_starts starts again)
  | annotated gap hint blank =>
      rw [← List.append_assoc] at closed ⊢
      have whole := break_not_mem_of_bracketless closed (bracketless_named named blank)
      obtain ⟨later, -, split⟩ := trim_firstLine ':' hint whole
        (by decide) (by simpa using head?_named named (gap ++ [':']))
      rw [split, List.append_assoc]
      exact .annotated gap later blank
  | function gap rest blank =>
      obtain ⟨later, split⟩ := trim_firstLine_function named "def ".toList (by decide)
        ⟨'d', rfl, by decide⟩ blank closed
      rw [split]
      exact .function gap later blank
  | coroutine gap rest blank =>
      obtain ⟨later, split⟩ := trim_firstLine_function named "async def ".toList (by decide)
        ⟨'a', rfl, by decide⟩ blank closed
      rw [split]
      exact .coroutine gap later blank

theorem Heads.firstLine {text : List Char} (heads : Heads name text)
    (closed : openBehind? 0 text = some 0) : Heads name (trim (firstLine text)) := by
  obtain ⟨rest, ends, rfl⟩ := heads
  obtain ⟨start, last, split⟩ := exists_concat_of_named named
  have part := isIdentifierChar_of_named named
  rw [split] at part
  have regroup (more : List Char) : "class ".toList ++ (name.toList ++ more) =
      ("class ".toList ++ start) ++ last :: more := by
    rw [split, List.append_assoc, List.append_assoc, List.singleton_append]
  have word : Bracketless "class ".toList := by decide
  have bracketless : Bracketless ("class ".toList ++ start) :=
    List.forall_mem_append.mpr ⟨word, fun c member =>
      not_bracket_of_isIdentifierChar (part c (List.mem_append_left _ member))⟩
  rw [regroup] at closed ⊢
  obtain ⟨later, starts, trimmed⟩ := trim_firstLine last rest
    (break_not_mem_of_bracketless closed bracketless)
    (not_isBlank_of_isIdentifierChar (part last (List.mem_append_right _ List.mem_cons_self)))
    (by rintro c ⟨⟩; decide)
  exact ⟨later, fun c leads => ends c (head?_of_starts starts leads), by rw [trimmed, regroup]⟩

theorem declared_of_heads {text : List Char} (heads : Heads name text) :
    declaredClass? text = some name ∧ declaredName? text = none := by
  obtain ⟨rest, ends, rfl⟩ := heads
  have shape := (Bool.and_eq_true_iff.mp named).1
  constructor
  · have found := dropLiteral?_eq_some_iff.mpr
      (rfl : "class ".toList ++ (name.toList ++ rest) = "class ".toList ++ (name.toList ++ rest))
    rw [declaredClass?, found, Option.bind_some, trimStart_append_of_shape shape,
      identifier_append_of_shape shape ends, nonEmptyName_of_isIdentifier named]
  · -- The header starts with a word that is not in the scan's list, but no binding stands behind.
    have space : isIdentifierChar ' ' = false := by decide +kernel
    have word : identifier ("class".toList ++ ' ' :: (name.toList ++ rest)) = "class".toList :=
      identifier_append_of_shape (by decide +kernel) (ends_cons space _)
    have noFunction : definedFunction? ("class".toList ++ ' ' :: (name.toList ++ rest)) = none :=
      rfl
    have blank : ∀ c ∈ [' '], isBlank c = true := List.forall_mem_singleton.mpr (by decide)
    have noBinding : isBinding (trimStart (' ' :: (name.toList ++ rest))) = false := by
      have behind : trimStart (' ' :: (name.toList ++ rest)) = name.toList ++ rest :=
        (trimStart_append_of_blank blank).trans (trimStart_append_of_shape shape)
      rw [behind]
      cases chars : name.toList with
      | nil =>
          rw [chars] at shape
          cases shape
      | cons c more =>
          have part := isIdentifierChar_of_named named c (chars ▸ List.mem_cons_self)
          rw [List.cons_append, isBinding_cons]
          have apart : c ≠ '=' ∧ c ≠ ':' := by
            constructor
            · rintro rfl
              revert part
              decide +kernel
            · rintro rfl
              revert part
              decide +kernel
          simp [apart]
    change declaredName? ("class".toList ++ ' ' :: (name.toList ++ rest)) = none
    simp only [declaredName?, noFunction, word, List.drop_left, noBinding, Bool.false_eq_true,
      if_false, ite_self]

end Names

theorem declared_of_atSign {text : List Char} (atSign : text.head? = some '@') :
    declaredClass? (trim (firstLine text)) = none ∧
      declaredName? (trim (firstLine text)) = none := by
  obtain ⟨rest, rfl⟩ := List.head?_eq_some_iff.mp atSign
  obtain ⟨later, -, split⟩ := trim_firstLine '@' rest
    List.not_mem_nil (by decide) (by rintro c ⟨⟩; decide)
  rw [List.nil_append, List.nil_append] at split
  have noName : identifier ('@' :: later) = [] := by
    have stops : isIdentifierChar '@' = false := by decide +kernel
    simp [identifier, stops]
  have noFunction : definedFunction? ('@' :: later) = none := rfl
  have noBinding : isBinding (trimStart ('@' :: later)) = false := by
    rw [trimStart, List.dropWhile_cons_of_neg (by decide), isBinding_cons]
    rfl
  rw [split]
  refine ⟨rfl, ?_⟩
  simp only [declaredName?, noFunction, noName, List.length_nil, List.drop_zero, noBinding,
    Bool.false_eq_true, if_false, ite_self]

end Modelwright.Outline
