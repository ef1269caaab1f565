import Mathlib.Data.List.DropRight
import Modelwright.Proofs.Outline.Line

namespace Modelwright.Text

open Modelwright.Outline

/-! Pieces of a text put together again, and what trimming leaves of a text of trimmed lines. -/

def join (separator : Char) : List (List Char) → List Char
  | [] => []
  | [piece] => piece
  | piece :: more => piece ++ separator :: join separator more

variable {separator : Char}

@[simp] theorem join_nil : join separator [] = [] := rfl

@[simp] theorem join_singleton (piece : List Char) : join separator [piece] = piece := rfl

theorem join_cons_cons (piece second : List Char) (more : List (List Char)) :
    join separator (piece :: second :: more) =
      piece ++ separator :: join separator (second :: more) := rfl

theorem join_cons {piece : List Char} {more : List (List Char)} (some : more ≠ []) :
    join separator (piece :: more) = piece ++ separator :: join separator more := by
  cases more with
  | nil => exact absurd rfl some
  | cons second others => rfl

theorem join_concat {lines : List (List Char)} (some : lines ≠ []) (line : List Char) :
    join separator (lines ++ [line]) = join separator lines ++ separator :: line := by
  induction lines with
  | nil => exact absurd rfl some
  | cons first rest ih =>
      cases rest with
      | nil => rfl
      | cons second others =>
          rw [List.cons_append, List.cons_append, join_cons_cons, ← List.cons_append,
            ih (List.cons_ne_nil _ _), join_cons_cons, List.append_assoc, List.cons_append]

theorem reverse_join (lines : List (List Char)) :
    (join separator lines).reverse = join separator (lines.map List.reverse).reverse := by
  induction lines with
  | nil => rfl
  | cons first rest ih =>
      cases rest with
      | nil => rfl
      | cons second others =>
          have turned : ((first :: second :: others).map List.reverse).reverse =
              ((second :: others).map List.reverse).reverse ++ [first.reverse] := by
            simp
          rw [turned, join_concat (by simp), ← ih, join_cons_cons, List.reverse_append,
            List.reverse_cons, List.append_assoc, List.singleton_append]

theorem join_pieces (chars : List Char) : join separator (pieces separator chars) = chars := by
  induction chars with
  | nil => rfl
  | cons c rest ih =>
      rw [pieces]
      split
      · next same =>
          cases found : pieces separator rest with
          | nil => exact absurd found (pieces_ne_nil separator rest)
          | cons piece more => rw [join_cons_cons, ← found, ih, same, List.nil_append]
      · cases found : pieces separator rest with
        | nil => exact absurd found (pieces_ne_nil separator rest)
        | cons piece more =>
            rw [found] at ih
            cases more with
            | nil => simpa using ih
            | cons second others =>
                rw [join_cons_cons] at ih
                rw [join_cons_cons, List.cons_append, ih]

theorem not_mem_of_mem_pieces {chars piece : List Char} (listed : piece ∈ pieces separator chars) :
    separator ∉ piece := by
  induction chars generalizing piece with
  | nil =>
      rw [List.mem_singleton.mp listed]
      exact List.not_mem_nil
  | cons c rest ih =>
      rw [pieces] at listed
      split at listed
      · rcases List.mem_cons.mp listed with rfl | listed
        · exact List.not_mem_nil
        · exact ih listed
      · next other =>
          cases found : pieces separator rest with
          | nil => exact absurd found (pieces_ne_nil separator rest)
          | cons first more =>
              rw [found] at ih listed
              rcases List.mem_cons.mp listed with rfl | listed
              · exact List.not_mem_cons_of_ne_of_not_mem (Ne.symm other) (ih List.mem_cons_self)
              · exact ih (List.mem_cons_of_mem _ listed)

theorem pieces_join {lines : List (List Char)} (some : lines ≠ [])
    (whole : ∀ line ∈ lines, separator ∉ line) :
    pieces separator (join separator lines) = lines := by
  induction lines with
  | nil => exact absurd rfl some
  | cons first rest ih =>
      obtain ⟨here, later⟩ := List.forall_mem_cons.mp whole
      cases rest with
      | nil => exact pieces_of_not_mem here
      | cons second others =>
          rw [join_cons_cons, pieces_append_separator, ih (by simp) later,
            pieces_of_not_mem here]
          rfl

theorem mem_join_iff {c : Char} (other : c ≠ separator) {lines : List (List Char)} :
    c ∈ join separator lines ↔ ∃ line ∈ lines, c ∈ line := by
  induction lines with
  | nil => simp
  | cons first rest ih =>
      cases rest with
      | nil => simp
      | cons second others =>
          rw [join_cons_cons, List.mem_append, List.mem_cons, ih, List.exists_mem_cons_iff]
          simp [other]

theorem pieces_join_eq_flatMap {lines : List (List Char)} (some : lines ≠ []) :
    pieces separator (join separator lines) = lines.flatMap (pieces separator) := by
  induction lines with
  | nil => exact absurd rfl some
  | cons first rest ih =>
      cases rest with
      | nil => simp
      | cons second others =>
          rw [join_cons_cons, pieces_append_separator, ih (by simp)]
          rfl

/-- Cutting lines leaves them as they are where there is nothing to cut at. -/
theorem flatMap_pieces_eq_self_iff {lines : List (List Char)} :
    lines.flatMap (pieces separator) = lines ↔ ∀ line ∈ lines, separator ∉ line := by
  constructor
  · intro same line listed
    rw [← same] at listed
    obtain ⟨whole, -, piece⟩ := List.mem_flatMap.mp listed
    exact not_mem_of_mem_pieces piece
  · intro whole
    rw [List.flatMap_congr fun line listed => pieces_of_not_mem (whole line listed)]
    exact List.flatMap_singleton' lines

theorem toList_intercalate_newline (lines : List String) :
    ("\n".intercalate lines).toList = join '\n' (lines.map String.toList) := by
  induction lines with
  | nil => rfl
  | cons first rest ih =>
      cases rest with
      | nil => simp
      | cons second others =>
          rw [String.intercalate_cons_cons, String.toList_append, String.toList_append, ih]
          simp [join_cons_cons]

theorem trimStart_append_of_blank {blank chars : List Char} (all : ∀ c ∈ blank, isBlank c = true) :
    trimStart (blank ++ chars) = trimStart chars := by
  rw [trimStart, List.dropWhile_append_of_pos all, trimStart]

theorem trim_append_of_blank {chars blank : List Char} (all : ∀ c ∈ blank, isBlank c = true) :
    trim (chars ++ blank) = trim chars := by
  induction blank generalizing chars with
  | nil => rw [List.append_nil]
  | cons c rest ih =>
      obtain ⟨first, others⟩ := List.forall_mem_cons.mp all
      rw [List.append_cons, ih others, trim_concat_blank first]

theorem trimStart_trimStart (chars : List Char) : trimStart (trimStart chars) = trimStart chars :=
  List.dropWhile_idempotent isBlank chars

theorem trimStart_eq_self_iff {chars : List Char} :
    trimStart chars = chars ↔ ∀ c, chars.head? = some c → isBlank c = false := by
  cases chars with
  | nil => simp [trimStart]
  | cons c rest =>
      cases blank : isBlank c with
      | false => simp [trimStart, blank]
      | true =>
          have shorter := (List.dropWhile_sublist isBlank (l := rest)).length_le
          simp only [trimStart, List.dropWhile_cons_of_pos blank, List.head?_cons,
            Option.some.injEq, forall_eq', blank, Bool.true_eq_false, iff_false]
          intro same
          rw [same, List.length_cons] at shorter
          omega

theorem not_isBlank_of_getLast?_trimEnd {chars : List Char} {c : Char}
    (last : (trimEnd chars).getLast? = some c) : isBlank c = false := by
  have leads : (trimStart chars.reverse).head? = some c := by
    rw [← List.getLast?_reverse]
    exact last
  exact trimStart_eq_self_iff.mp (trimStart_trimStart _) c leads

structure IsTrimmed (chars : List Char) : Prop where
  first : ∀ c, chars.head? = some c → isBlank c = false
  last : ∀ c, chars.getLast? = some c → isBlank c = false

theorem trim_eq_self_of_isTrimmed {chars : List Char} (trimmed : IsTrimmed chars) :
    trim chars = chars := by
  have start := trimStart_eq_self_iff.mpr trimmed.first
  have back : trimStart chars.reverse = chars.reverse := by
    refine trimStart_eq_self_iff.mpr ?_
    rw [List.head?_reverse]
    exact trimmed.last
  rw [trim, start, trimEnd_eq, back, List.reverse_reverse]

theorem isTrimmed_trim (chars : List Char) : IsTrimmed (trim chars) := by
  constructor
  · intro c first
    obtain ⟨rest, split⟩ := List.head?_eq_some_iff.mp first
    obtain ⟨behind, grown⟩ := trimEnd_starts (trimStart chars)
    have leads : (trimStart chars).head? = some c := by
      rw [← grown, ← trim, split]
      rfl
    exact trimStart_eq_self_iff.mp (trimStart_trimStart chars) c leads
  · exact fun c last => not_isBlank_of_getLast?_trimEnd last

theorem mem_of_mem_trim {chars : List Char} {c : Char} (listed : c ∈ trim chars) : c ∈ chars :=
  (List.dropWhile_sublist isBlank).subset ((trimEnd_starts _).subset listed)

theorem trimStart_join {lines : List (List Char)}
    (trimmed : ∀ line ∈ lines, ∀ c, line.head? = some c → isBlank c = false) :
    trimStart (join '\n' lines) = join '\n' (lines.dropWhile List.isEmpty) := by
  induction lines with
  | nil => rfl
  | cons first rest ih =>
      obtain ⟨here, later⟩ := List.forall_mem_cons.mp trimmed
      cases first with
      | nil =>
          rw [List.dropWhile_cons_of_pos rfl, ← ih later]
          cases rest with
          | nil => rfl
          | cons second others => rfl
      | cons c more =>
          have stands : isBlank c = false := here c rfl
          rw [List.dropWhile_cons_of_neg (by simp)]
          refine trimStart_eq_self_iff.mpr fun d leads => ?_
          cases rest with
          | nil => exact here d leads
          | cons second others =>
              exact here d leads

/-- Trimming leaves out lines at both ends. -/
theorem trim_join {lines : List (List Char)} (trimmed : ∀ line ∈ lines, IsTrimmed line) :
    ∃ kept, trim (join '\n' lines) = join '\n' kept ∧ ∀ line ∈ kept, line ∈ lines := by
  have start := trimStart_join fun line listed => (trimmed line listed).first
  have within : ∀ line ∈ lines.dropWhile List.isEmpty, line ∈ lines := fun line listed =>
    (List.dropWhile_sublist _).subset listed
  refine ⟨((((lines.dropWhile List.isEmpty).map List.reverse).reverse.dropWhile
    List.isEmpty).map List.reverse).reverse, ?_, ?_⟩
  · rw [trim, start, trimEnd_eq, reverse_join, trimStart_join, reverse_join]
    intro line listed c first
    obtain ⟨original, known, rfl⟩ := List.mem_map.mp (List.mem_reverse.mp listed)
    rw [List.head?_reverse] at first
    exact (trimmed original (within original known)).last c first
  · intro line listed
    obtain ⟨turned, known, rfl⟩ := List.mem_map.mp (List.mem_reverse.mp listed)
    have turnedBack := (List.dropWhile_sublist _).subset known
    obtain ⟨original, stands, rfl⟩ := List.mem_map.mp (List.mem_reverse.mp turnedBack)
    rw [List.reverse_reverse]
    exact within original stands

end Modelwright.Text
