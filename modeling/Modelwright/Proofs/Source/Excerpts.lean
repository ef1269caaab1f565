import Modelwright.Proofs.Outcome
import Modelwright.Proofs.Text.Pieces
import Modelwright.Proofs.Text.Slices
import Modelwright.Source.Parser

namespace Modelwright

open Modelwright.Text

/-! The excerpt of an error: which line it shows and which of its characters are marked. -/

namespace Text

/-- The line, its break left out, stands between what is in front of it and what is behind. -/
structure IsLine (earlier line later : List Char) : Prop where
  begins : earlier = [] ∨ ∃ front, earlier = front ++ ['\n']
  single : '\n' ∉ line
  ends : later = [] ∨ (∃ behind, later = '\n' :: behind ∧ line.getLast? ≠ some '\r') ∨
    ∃ behind, later = '\r' :: '\n' :: behind

theorem length_pieces (separator : Char) (chars : List Char) :
    (pieces separator chars).length = chars.count separator + 1 := by
  induction chars with
  | nil => rfl
  | cons c rest ih =>
      by_cases separates : c = separator
      · rw [pieces, if_pos separates, List.length_cons, ih, separates, List.count_cons_self]
      · rw [pieces, if_neg separates, List.count_cons_of_ne separates, ← ih]
        cases found : pieces separator rest with
        | nil => exact absurd found (pieces_ne_nil separator rest)
        | cons piece more => rfl

theorem dropReturn_of_getLast? {line : List Char} (other : line.getLast? ≠ some '\r') :
    dropReturn line = line :=
  if_neg other

theorem dropReturn_concat (line : List Char) : dropReturn (line ++ ['\r']) = line := by
  simp [dropReturn]

/-- Of the pieces at newlines the last one is a line as it stands, if it is not empty. -/
theorem lines_getElem?_of_pieces {chars : List Char} {front more : List (List Char)}
    {piece : List Char} (cut : pieces '\n' chars = front ++ piece :: more) (nonempty : piece ≠ []) :
    (lines chars)[front.length]? = some (if more = [] then piece else dropReturn piece) := by
  rw [lines, cut]
  cases more with
  | nil => simp [nonempty]
  | cons next others =>
      have kept : (front ++ piece :: next :: others).dropLast =
          front ++ piece :: (next :: others).dropLast := by
        simp [List.dropLast_append_of_ne_nil]
      simp only [kept, List.map_append, List.map_cons, List.append_assoc, List.cons_append]
      rw [List.getElem?_append_right (by simp)]
      simp

namespace IsLine

variable {earlier line later : List Char}

theorem exists_pieces (stands : IsLine earlier line later) (nonempty : line ≠ []) :
    ∃ front piece more, pieces '\n' (earlier ++ (line ++ later)) = front ++ piece :: more ∧
      front.length = earlier.count '\n' ∧ piece ≠ [] ∧
      (if more = [] then piece else dropReturn piece) = line := by
  obtain ⟨front, same, size⟩ : ∃ front, pieces '\n' (earlier ++ (line ++ later)) =
      front ++ pieces '\n' (line ++ later) ∧ front.length = earlier.count '\n' := by
    rcases stands.begins with rfl | ⟨front, rfl⟩
    · exact ⟨[], rfl, rfl⟩
    · refine ⟨pieces '\n' front, ?_, ?_⟩
      · rw [List.append_assoc, List.singleton_append, pieces_append_separator]
      · simp [length_pieces]
  rcases stands.ends with rfl | ⟨behind, rfl, unreturned⟩ | ⟨behind, rfl⟩
  · refine ⟨front, line, [], ?_, size, nonempty, if_pos rfl⟩
    rw [same, List.append_nil, pieces_of_not_mem stands.single]
  · refine ⟨front, line, pieces '\n' behind, ?_, size, nonempty, ?_⟩
    · rw [same, pieces_append_separator, pieces_of_not_mem stands.single, List.singleton_append]
    · rw [if_neg (pieces_ne_nil _ _), dropReturn_of_getLast? unreturned]
  · have single : '\n' ∉ line ++ ['\r'] := by simp [stands.single]
    refine ⟨front, line ++ ['\r'], pieces '\n' behind, ?_, size, by simp, ?_⟩
    · rw [same, List.append_cons, pieces_append_separator, pieces_of_not_mem single,
        List.singleton_append]
    · rw [if_neg (pieces_ne_nil _ _), dropReturn_concat]

theorem lines_getElem? (stands : IsLine earlier line later) (nonempty : line ≠ []) :
    (lines (earlier ++ (line ++ later)))[earlier.count '\n']? = some line := by
  obtain ⟨front, piece, more, cut, size, filled, same⟩ := stands.exists_pieces nonempty
  rw [← size, lines_getElem?_of_pieces cut filled, same]

/-- A place in the line has the number of the line, and a column for each character in front. -/
theorem lineColumn_eq {lead rest : List Char} (stands : IsLine earlier (lead ++ rest) later) :
    lineColumn (earlier ++ (lead ++ rest ++ later)) (byteLength (earlier ++ lead)) =
      (earlier.count '\n' + 1, lead.length + 1) := by
  have single : '\n' ∉ lead := fun listed => stands.single (List.mem_append_left _ listed)
  have before : takeBytes (byteLength (earlier ++ lead)) (earlier ++ (lead ++ rest ++ later)) =
      earlier ++ lead := by
    rw [List.append_assoc, ← List.append_assoc earlier, takeBytes_append]
  have inLine : ∀ c ∈ lead.reverse, (c != '\n') = true := by
    intro c listed
    rw [bne_iff_ne]
    rintro rfl
    exact single (List.mem_reverse.mp listed)
  have column : (earlier ++ lead).reverse.takeWhile (· != '\n') = lead.reverse := by
    rw [List.reverse_append, List.takeWhile_append_of_pos inLine]
    rcases stands.begins with rfl | ⟨front, rfl⟩
    · simp
    · simp
  rw [lineColumn, before, column, List.count_append, List.count_eq_zero_of_not_mem single,
    List.length_reverse,
    Nat.add_zero]

end IsLine

theorem append_newline_inj {first second behind after : List Char} (firstSingle : '\n' ∉ first)
    (secondSingle : '\n' ∉ second) (same : first ++ '\n' :: behind = second ++ '\n' :: after) :
    first = second ∧ behind = after := by
  have starts : ∀ (line rest : List Char), '\n' ∉ line →
      (line ++ '\n' :: rest).takeWhile (· != '\n') = line := by
    intro line rest single
    rw [List.takeWhile_append_of_pos, List.takeWhile_cons_of_neg (by simp), List.append_nil]
    intro c listed
    rw [bne_iff_ne]
    rintro rfl
    exact single listed
  have lines : first = second := by
    rw [← starts first behind firstSingle, same, starts second after secondSingle]
  rw [lines] at same
  exact ⟨lines, (List.cons.inj (List.append_cancel_left same)).2⟩

theorem length_le_byteLength (chars : List Char) : chars.length ≤ byteLength chars := by
  induction chars with
  | nil => exact Nat.le_refl _
  | cons c rest ih =>
      have size := c.utf8Size_pos
      rw [List.length_cons, byteLength_cons]
      omega

theorem byteLength_eq_length_iff {chars : List Char} :
    byteLength chars = chars.length ↔ ∀ c ∈ chars, c.utf8Size = 1 := by
  induction chars with
  | nil => simp
  | cons c rest ih =>
      have size := c.utf8Size_pos
      have least := length_le_byteLength rest
      rw [List.forall_mem_cons, ← ih, byteLength_cons, List.length_cons]
      omega

end Text

namespace Excerpt

/-- Behind the heading the text shows a line after its label, and the marks in the line below. -/
structure Shows (text heading label line marked below : List Char) : Prop where
  text_eq : text = heading ++ (label ++ line ++ '\n' :: (marked ++ '\n' :: below))
  label_single : '\n' ∉ label
  marked_single : '\n' ∉ marked

/-- A caret or a tilde stands in the column. -/
def IsMarked (marked : List Char) (column : Nat) : Prop :=
  marked[column]? = some '^' ∨ marked[column]? = some '~'

/-- The marks stand below the characters that are covered and below no others. -/
def MarksExactly (label lead covered marked : List Char) : Prop :=
  ∀ column, IsMarked marked column ↔ label.length + lead.length ≤ column ∧
    column < label.length + lead.length + covered.length

def heading (message : String) (line column : Nat) : String :=
  "error: " ++ message ++ "\n  --> line " ++ toString line ++ ":" ++ toString column ++ "\n   |\n"

def label (line : Nat) : List Char :=
  (lineNumber line).toList ++ ['|', ' ']

def markerLine (column width lineLength : Nat) : List Char :=
  [' ', ' ', ' ', '|'] ++ (marker column width lineLength).toList

theorem Shows.unique {text heading label line marked below other others left : List Char}
    (shows : Shows text heading label line marked below)
    (again : Shows text heading other line others left) (single : '\n' ∉ line) :
    label = other ∧ marked = others := by
  have same := List.append_cancel_left (shows.text_eq.symm.trans again.text_eq)
  obtain ⟨labels, behind⟩ := append_newline_inj (by simp [shows.label_single, single])
    (by simp [again.label_single, single]) same
  obtain ⟨marks, -⟩ := append_newline_inj shows.marked_single again.marked_single behind
  exact ⟨List.append_cancel_right labels, marks⟩

theorem newline_not_mem_label (line : Nat) : '\n' ∉ label line := by
  have digits : '\n' ∉ Nat.toDigits 10 line := fun listed =>
    absurd (Nat.isDigit_of_mem_toDigits (by decide) (by decide) listed) (by decide)
  simp [label, lineNumber, digits]

theorem length_label (line : Nat) : (label line).length = 5 ↔ line < 1000 := by
  have width := @Nat.length_toDigits_le_iff 10 line 3 (by decide) (by decide)
  have size : (toString line).length = (Nat.toDigits 10 line).length := by
    rw [Nat.toString_eq_ofList_toDigits, ← String.length_toList, String.toList_ofList]
  simp only [label, lineNumber, size, String.toList_append, String.toList_ofList,
    List.length_append, List.length_replicate, List.length_cons, List.length_nil,
    String.length_toList]
  omega

theorem markerLine_eq (column width lineLength : Nat) :
    markerLine column width lineLength =
      ([' ', ' ', ' ', '|'] ++ List.replicate column ' ') ++
        '^' :: List.replicate (min width (lineLength + 1 - column) - 1) '~' := by
  simp [markerLine, marker]

theorem newline_not_mem_markerLine (column width lineLength : Nat) :
    '\n' ∉ markerLine column width lineLength := by
  simp [markerLine_eq]

theorem isMarked_iff {pad : List Char} (clear : ∀ c ∈ pad, c ≠ '^' ∧ c ≠ '~') (more column : Nat) :
    IsMarked (pad ++ '^' :: List.replicate more '~') column ↔
      pad.length ≤ column ∧ column < pad.length + 1 + more := by
  rcases Nat.lt_or_ge column pad.length with inside | behind
  · have apart := clear _ (List.getElem_mem inside)
    rw [IsMarked, List.getElem?_append_left inside, List.getElem?_eq_getElem inside]
    simp only [Option.some.injEq, apart, or_self, false_iff]
    omega
  · obtain ⟨further, rfl⟩ := Nat.exists_eq_add_of_le behind
    rw [IsMarked, List.getElem?_append_right behind, Nat.add_sub_cancel_left]
    cases further with
    | zero => simp; omega
    | succ further =>
        simp only [List.getElem?_cons_succ, List.getElem?_replicate]
        split <;> simp <;> omega

/-- The marks are as many as the bytes that are covered, up to the end of the line, and they begin
where a label of five characters lets the covered characters begin. -/
theorem marksExactly_iff {number : Nat} {lead covered trail : List Char} (nonempty : covered ≠ []) :
    MarksExactly (label number) lead covered
        (markerLine (lead.length + 1) (byteLength covered) (lead ++ (covered ++ trail)).length) ↔
      number < 1000 ∧ (trail = [] ∨ ∀ c ∈ covered, c.utf8Size = 1) := by
  have clear : ∀ c ∈ [' ', ' ', ' ', '|'] ++ List.replicate (lead.length + 1) ' ',
      c ≠ '^' ∧ c ≠ '~' := by
    simp
  have some : 0 < covered.length := List.length_pos_of_ne_nil nonempty
  have least := length_le_byteLength covered
  rw [← length_label, ← byteLength_eq_length_iff, ← List.length_eq_zero_iff]
  simp only [MarksExactly, markerLine_eq, isMarked_iff clear, List.length_append,
    List.length_cons, List.length_nil, List.length_replicate]
  constructor
  · intro marks
    have first := marks (5 + lead.length)
    have labelled := marks ((label number).length + lead.length)
    have last := marks (5 + lead.length + covered.length)
    omega
  · intro fits column
    omega

end Excerpt

open Excerpt

theorem shows_excerpt {message : String} {hint : Option String} {earlier lead covered trail
    later : List Char} (stands : IsLine earlier (lead ++ (covered ++ trail)) later)
    (nonempty : covered ≠ []) :
    Shows
      (excerpt (String.ofList (earlier ++ (lead ++ (covered ++ trail) ++ later))) message
        ⟨byteLength (earlier ++ lead), byteLength (earlier ++ lead) + byteLength covered⟩
        hint).toList
      (heading message (earlier.count '\n' + 1) (lead.length + 1)).toList
      (label (earlier.count '\n' + 1)) (lead ++ (covered ++ trail))
      (markerLine (lead.length + 1) (byteLength covered) (lead ++ (covered ++ trail)).length)
      (hintLine hint).toList where
  text_eq := by
    have place := stands.lineColumn_eq
    have shown := stands.lines_getElem? (by simp [nonempty])
    simp only [excerpt, quotation, String.toList_ofList, List.append_assoc] at place shown ⊢
    simp only [place, Nat.add_sub_cancel, shown, Span.width, Nat.add_sub_cancel_left]
    simp [heading, label, markerLine]
  label_single := newline_not_mem_label _
  marked_single := newline_not_mem_markerLine _ _ _

namespace Excerpt

/-- The text shows the line and marks exactly what is covered of it. -/
def PointsAt (text heading lead covered trail : List Char) : Prop :=
  ∃ label marked below, Shows text heading label (lead ++ (covered ++ trail)) marked below ∧
    MarksExactly label lead covered marked

end Excerpt

theorem pointsAt_excerpt_iff {message : String} {hint : Option String} {earlier lead covered trail
    later : List Char} (stands : IsLine earlier (lead ++ (covered ++ trail)) later)
    (nonempty : covered ≠ []) :
    PointsAt
      (excerpt (String.ofList (earlier ++ (lead ++ (covered ++ trail) ++ later))) message
        ⟨byteLength (earlier ++ lead), byteLength (earlier ++ lead) + byteLength covered⟩
        hint).toList
      (heading message (earlier.count '\n' + 1) (lead.length + 1)).toList lead covered trail ↔
      earlier.count '\n' + 1 < 1000 ∧ (trail = [] ∨ ∀ c ∈ covered, c.utf8Size = 1) := by
  have shows := @shows_excerpt message hint _ _ _ _ _ stands nonempty
  refine Iff.trans ⟨?_, fun exactly => ⟨_, _, _, shows, exactly⟩⟩ (marksExactly_iff nonempty)
  rintro ⟨label, marked, below, again, exactly⟩
  obtain ⟨labels, marks⟩ := again.unique shows stands.single
  rwa [labels, marks] at exactly

namespace Source

/-- For a span within a line the formatted error shows the line.  It marks exactly what the span
covers where the number of the line has at most three digits, and the span goes to the end of the
line or covers characters of one byte only. -/
theorem format_pointsAt_iff {error : ParseError} {source : String} {earlier lead covered trail
    later : List Char} (stands : IsLine earlier (lead ++ (covered ++ trail)) later)
    (split : source.toList = earlier ++ (lead ++ (covered ++ trail) ++ later))
    (nonempty : covered ≠ [])
    (span : error.span =
      ⟨byteLength (earlier ++ lead), byteLength (earlier ++ lead) + byteLength covered⟩) :
    (∃ label marked below, Shows (error.format source).toList
      (heading error.message (earlier.count '\n' + 1) (lead.length + 1)).toList label
      (lead ++ (covered ++ trail)) marked below) ∧
    (PointsAt (error.format source).toList
      (heading error.message (earlier.count '\n' + 1) (lead.length + 1)).toList lead covered trail ↔
      earlier.count '\n' + 1 < 1000 ∧ (trail = [] ∨ ∀ c ∈ covered, c.utf8Size = 1)) := by
  have whole : source = String.ofList (earlier ++ (lead ++ (covered ++ trail) ++ later)) := by
    rw [← split, String.ofList_toList]
  rw [ParseError.format, span, whole]
  exact ⟨⟨_, _, _, shows_excerpt stands nonempty⟩, pointsAt_excerpt_iff stands nonempty⟩

/-- A string that is not closed is marked to the end of its line, wide characters and all. -/
def unclosedSource : String :=
  "model A \x7b\n  a \"né\n\x7d"

def unclosedError : ParseError :=
  ⟨.unrecognized "\"né", ⟨14, 18⟩⟩

theorem format_pointsAt_unclosed :
    parse unclosedSource = .error unclosedError ∧
    IsLine "model A \x7b\n".toList "  a \"né".toList "\n\x7d".toList ∧
    PointsAt (unclosedError.format unclosedSource).toList (heading unclosedError.message 2 5).toList
      "  a ".toList "\"né".toList [] := by
  have stands : IsLine "model A \x7b\n".toList "  a \"né".toList "\n\x7d".toList :=
    ⟨.inr ⟨"model A \x7b".toList, rfl⟩, by decide, .inr (.inl ⟨['\x7d'], rfl, by decide⟩)⟩
  have pointed := @format_pointsAt_iff unclosedError unclosedSource "model A \x7b\n".toList
    "  a ".toList "\"né".toList [] "\n\x7d".toList stands rfl (by decide) (by decide)
  exact ⟨by cbv, stands, pointed.2.mpr ⟨by decide, .inl rfl⟩⟩

/-- Behind a character of two bytes one mark too many stands under what follows the span. -/
def accentedSource : String :=
  "model A \x7b\n  \"é\" x\n\x7d"

def accentedError : ParseError :=
  ⟨.mismatch .modelMember (some (.text "é")), ⟨12, 16⟩⟩

theorem accented_not_pointsAt :
    parse accentedSource = .error accentedError ∧
    IsLine "model A \x7b\n".toList "  \"é\" x".toList "\n\x7d".toList ∧
    ¬ PointsAt (accentedError.format accentedSource).toList
      (heading accentedError.message 2 3).toList "  ".toList "\"é\"".toList " x".toList := by
  have stands : IsLine "model A \x7b\n".toList "  \"é\" x".toList "\n\x7d".toList :=
    ⟨.inr ⟨"model A \x7b".toList, rfl⟩, by decide, .inr (.inl ⟨['\x7d'], rfl, by decide⟩)⟩
  refine ⟨by cbv, stands, fun pointed => ?_⟩
  have marked := @pointsAt_excerpt_iff accentedError.message accentedError.hint?
    "model A \x7b\n".toList "  ".toList "\"é\"".toList " x".toList "\n\x7d".toList stands
    (by decide)
  obtain ⟨-, ends | narrow⟩ := marked.mp pointed
  · cases ends
  · exact absurd (narrow 'é' (by decide)) (by decide)

end Source

end Modelwright
