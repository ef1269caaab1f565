import Modelwright.Text.Blank

namespace Modelwright.Text

def trimStart (chars : List Char) : List Char :=
  chars.dropWhile isBlank

def trimEnd (chars : List Char) : List Char :=
  (chars.reverse.dropWhile isBlank).reverse

def trim (chars : List Char) : List Char :=
  trimEnd (trimStart chars)

/-- The pieces between the separators; there is one more piece than separators. -/
def pieces (separator : Char) : List Char → List (List Char)
  | [] => [[]]
  | c :: rest =>
    if c = separator then [] :: pieces separator rest
    else match pieces separator rest with
      | [] => [[c]]
      | piece :: more => (c :: piece) :: more

@[simp] theorem pieces_nil (separator : Char) : pieces separator [] = [[]] := rfl

theorem pieces_ne_nil (separator : Char) (chars : List Char) : pieces separator chars ≠ [] := by
  cases chars with
  | nil => simp
  | cons c rest =>
    unfold pieces
    split
    · simp
    · split <;> simp

theorem pieces_append_separator (separator : Char) (first second : List Char) :
    pieces separator (first ++ separator :: second) =
      pieces separator first ++ pieces separator second := by
  induction first with
  | nil => simp [pieces]
  | cons c rest ih =>
      by_cases separates : c = separator
      · simp [pieces, separates, ih]
      · rw [List.cons_append, pieces, if_neg separates, pieces, if_neg separates, ih]
        cases found : pieces separator rest with
        | nil => exact absurd found (pieces_ne_nil separator rest)
        | cons piece more => rfl

theorem pieces_of_not_mem {separator : Char} {chars : List Char} (whole : separator ∉ chars) :
    pieces separator chars = [chars] := by
  induction chars with
  | nil => rfl
  | cons c rest ih =>
      obtain ⟨apart, others⟩ := not_or.mp (mt List.mem_cons.mpr whole)
      rw [pieces, if_neg (Ne.symm apart), ih others]

def dropReturn (line : List Char) : List Char :=
  if line.getLast? = some '\r' then line.dropLast else line

/-- Lines end with a newline or with the text; the break is not part of the line. -/
def lines (chars : List Char) : List (List Char) :=
  let parts := pieces '\n' chars
  let final := parts.getLast?.getD []
  parts.dropLast.map dropReturn ++ if final.isEmpty then [] else [final]

def dropLiteral? : List Char → List Char → Option (List Char)
  | [], chars => some chars
  | _ :: _, [] => none
  | p :: start, c :: chars => if p = c then dropLiteral? start chars else none

def startsWith (start chars : List Char) : Bool :=
  (dropLiteral? start chars).isSome

theorem dropLiteral?_eq_some_iff {start chars rest : List Char} :
    dropLiteral? start chars = some rest ↔ chars = start ++ rest := by
  induction start generalizing chars with
  | nil => simp [dropLiteral?]
  | cons p more ih =>
      cases chars with
      | nil => simp [dropLiteral?]
      | cons c others =>
          by_cases same : p = c
          · simp [dropLiteral?, same, ih]
          · simp [dropLiteral?, same, Ne.symm same]

theorem startsWith_iff {start chars : List Char} :
    startsWith start chars = true ↔ start <+: chars := by
  simp only [startsWith, Option.isSome_iff_exists, dropLiteral?_eq_some_iff, List.IsPrefix,
    eq_comm (a := chars)]

def indexOf? (part : List Char) : List Char → Option Nat
  | [] => if part.isEmpty then some 0 else none
  | c :: rest =>
    if startsWith part (c :: rest) then some 0 else (indexOf? part rest).map (· + 1)

def holds (part chars : List Char) : Bool :=
  (indexOf? part chars).isSome

theorem holds_iff {part chars : List Char} : holds part chars = true ↔ part <:+: chars := by
  induction chars with
  | nil => cases part <;> simp [holds, indexOf?]
  | cons c rest ih =>
      rw [List.infix_cons_iff, ← startsWith_iff, ← ih, holds, holds, indexOf?]
      cases startsWith part (c :: rest) with
      | true => simp
      | false => simp

/-- The number of disjoint occurrences, counted from the left; `skip` characters are passed
over first. -/
def occurrencesFrom (part : List Char) (skip : Nat) : List Char → Nat
  | [] => 0
  | c :: rest =>
    match skip with
    | k + 1 => occurrencesFrom part k rest
    | 0 =>
      if startsWith part (c :: rest) then occurrencesFrom part (part.length - 1) rest + 1
      else occurrencesFrom part 0 rest

def occurrences (part chars : List Char) : Nat :=
  occurrencesFrom part 0 chars

end Modelwright.Text

namespace Modelwright

def trimText (s : String) : String :=
  String.ofList (Text.trim s.toList)

def trimTextEnd (s : String) : String :=
  String.ofList (Text.trimEnd s.toList)

end Modelwright
