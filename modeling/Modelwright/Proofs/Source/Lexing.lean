import Modelwright.Proofs.Outcome
import Modelwright.Proofs.Source.Spelling

namespace Modelwright.Source

open Modelwright.Text

inductive LexesTo : List Char → List Token → Prop
  | done : LexesTo [] []
  | skip {c : Char} {rest : List Char} {found : Reading Char (rest.length + 1) Match}
      {tokens : List Token} (matched : match? c rest = some found)
      (passed : found.value.token = none) (more : LexesTo found.rest tokens) :
      LexesTo (c :: rest) tokens
  | token {c : Char} {rest : List Char} {found : Reading Char (rest.length + 1) Match}
      {t : Token} {tokens : List Token} (matched : match? c rest = some found)
      (kept : found.value.token = some t) (more : LexesTo found.rest tokens) :
      LexesTo (c :: rest) (t :: tokens)

theorem lexesTo_of_lexFrom {offset : Nat} {chars : List Char} {lexemes : List Lexeme}
    (lexed : lexFrom offset chars = .ok lexemes) : LexesTo chars (lexemes.map (·.token)) := by
  induction offset, chars using lexFrom.induct generalizing lexemes with
  | case1 offset =>
      rw [lexFrom] at lexed
      cases lexed
      exact .done
  | case2 offset c rest missed =>
      rw [lexFrom, missed] at lexed
      cases lexed
  | case3 offset c rest found matched stop shorter =>
      rename_i ih
      rw [lexFrom, matched] at lexed
      obtain ⟨more, lexedMore, made⟩ := Outcome.bind_eq_ok_iff.mp lexed
      cases kept : found.value.token with
      | none =>
          simp only [kept, Outcome.pure_eq_ok_iff] at made
          rw [← made]
          exact .skip matched kept (ih lexedMore)
      | some t =>
          simp only [kept, Outcome.pure_eq_ok_iff] at made
          rw [← made]
          exact .token matched kept (ih lexedMore)

theorem lexFrom_of_lexesTo {chars : List Char} {tokens : List Token} (lexes : LexesTo chars tokens)
    (offset : Nat) :
    ∃ lexemes, lexFrom offset chars = .ok lexemes ∧ lexemes.map (·.token) = tokens := by
  induction lexes generalizing offset with
  | done => exact ⟨[], by rw [lexFrom], rfl⟩
  | @skip c rest found tokens matched passed more ih =>
      obtain ⟨lexemes, lexed, same⟩ := ih (offset + byteLength found.value.text)
      refine ⟨lexemes, ?_, same⟩
      rw [lexFrom, matched]
      exact Outcome.bind_eq_ok_iff.mpr ⟨lexemes, lexed, by simp [passed]⟩
  | @token c rest found t tokens matched kept more ih =>
      obtain ⟨lexemes, lexed, same⟩ := ih (offset + byteLength found.value.text)
      refine ⟨⟨t, ⟨offset, offset + byteLength found.value.text⟩⟩ :: lexemes, ?_, by simp [same]⟩
      rw [lexFrom, matched]
      exact Outcome.bind_eq_ok_iff.mpr ⟨lexemes, lexed, by simp [kept]⟩

theorem isGap_iff {c : Char} : isGap c = true ↔ c = ' ' ∨ c = '\t' ∨ c = '\r' ∨ c = '\n' := by
  simp [isGap, or_assoc]

theorem isBlank_of_isGap {c : Char} (gap : isGap c = true) : isBlank c = true := by
  rcases isGap_iff.mp gap with rfl | rfl | rfl | rfl
  all_goals decide

theorem not_isIdentifierChar_of_isGap {c : Char} (gap : isGap c = true) :
    isIdentifierChar c = false ∧ c.isDigit = false ∧ c ≠ '.' := by
  rcases isGap_iff.mp gap with rfl | rfl | rfl | rfl
  all_goals decide

theorem not_isGap_of_isIdentifierChar {c : Char} (part : isIdentifierChar c = true) :
    isGap c = false := by
  by_contra gap
  rw [Bool.not_eq_false] at gap
  rw [(not_isIdentifierChar_of_isGap gap).1] at part
  cases part

theorem isIdentifierChar_of_start {c : Char} (start : isIdentifierStart c = true) :
    isIdentifierChar c = true := by
  simp only [isIdentifierStart, isIdentifierChar, Char.isAlphanum, Bool.or_eq_true] at start ⊢
  tauto

theorem isIdentifierChar_of_isDigit {c : Char} (digit : c.isDigit = true) :
    isIdentifierChar c = true := by
  simp [isIdentifierChar, Char.isAlphanum, digit]

theorem not_isIdentifierStart_of_isDigit {c : Char} (digit : c.isDigit = true) :
    isIdentifierStart c = false := by
  have other : c ≠ '_' := by
    rintro rfl
    cases digit
  simp [isIdentifierStart, not_isAlpha_of_isDigit digit, other]

/-- A run of such items ends here. -/
def Stops {α : Type} (p : α → Bool) (items : List α) : Prop :=
  ∀ item, items.head? = some item → p item = false

namespace Stops

variable {α : Type} {p : α → Bool} {run rest : List α}

theorem takeWhile_append (stops : Stops p rest) (all : ∀ item ∈ run, p item = true) :
    (run ++ rest).takeWhile p = run := by
  rw [List.takeWhile_append_of_pos all]
  cases rest with
  | nil => simp
  | cons first more => simp [stops first rfl]

theorem dropWhile_append (stops : Stops p rest) (all : ∀ item ∈ run, p item = true) :
    (run ++ rest).dropWhile p = rest := by
  rw [List.dropWhile_append_of_pos all]
  cases rest with
  | nil => rfl
  | cons first more => simp [stops first rfl]

end Stops

theorem match?_of_isGap {c : Char} (gap : isGap c = true) (rest : List Char) :
    match? c rest = some (matchRun [c] isGap (fun _ => none) rest) := by
  rw [match?.eq_def, if_pos gap]

theorem lexesTo_dropWhile_isGap_iff {chars : List Char} {tokens : List Token} :
    LexesTo (chars.dropWhile isGap) tokens ↔ LexesTo chars tokens := by
  cases chars with
  | nil => rfl
  | cons c rest =>
      cases gap : isGap c with
      | false => simp [gap]
      | true =>
          rw [List.dropWhile_cons_of_pos gap]
          constructor
          · exact fun lexes => .skip (match?_of_isGap gap rest) rfl lexes
          · intro lexes
            cases lexes with
            | skip matched passed more =>
                rw [match?_of_isGap gap] at matched
                cases matched
                exact more
            | token matched kept more =>
                rw [match?_of_isGap gap] at matched
                cases matched
                cases kept

theorem lexesTo_gap_iff {gap chars : List Char} {tokens : List Token}
    (blank : ∀ c ∈ gap, isGap c = true) : LexesTo (gap ++ chars) tokens ↔ LexesTo chars tokens := by
  rw [← lexesTo_dropWhile_isGap_iff, List.dropWhile_append_of_pos blank,
    lexesTo_dropWhile_isGap_iff]

/-- What may follow the spelling of a token: nothing or a gap, and for a doc comment a line that is
blank to its end. -/
def Token.Ends : Token → List Char → Prop
  | .doc _, rest => ∀ c ∈ rest.takeWhile isInLine, isGap c = true
  | _, rest => ∀ c, rest.head? = some c → isGap c = true

/-- The text goes on with a gap, if it does not end. -/
def GapFollows (rest : List Char) : Prop :=
  ∀ c, rest.head? = some c → isGap c = true

namespace GapFollows

variable {rest : List Char}

theorem stops_identifierChar (gap : GapFollows rest) : Stops isIdentifierChar rest :=
  fun c first => (not_isIdentifierChar_of_isGap (gap c first)).1

theorem stops_digit (gap : GapFollows rest) : Stops Char.isDigit rest :=
  fun c first => (not_isIdentifierChar_of_isGap (gap c first)).2.1

theorem fractionPart_eq (gap : GapFollows rest) : fractionPart rest = ([], rest) := by
  unfold fractionPart
  split
  · exact absurd rfl (not_isIdentifierChar_of_isGap (gap '.' rfl)).2.2
  · rfl

end GapFollows

theorem fractionPart_decimals {decimals rest : List Char} (stops : Stops Char.isDigit rest)
    (more : decimals ≠ []) (all : ∀ c ∈ decimals, c.isDigit = true) :
    fractionPart ('.' :: decimals ++ rest) = ('.' :: decimals, rest) := by
  cases decimals with
  | nil => exact absurd rfl more
  | cons d others =>
      obtain ⟨first, others⟩ := List.forall_mem_cons.mp all
      simp [fractionPart, first, stops.takeWhile_append others, stops.dropWhile_append others]

theorem match?_of_start {c : Char} (start : isIdentifierStart c = true) (rest : List Char) :
    match? c rest = some (matchRun [c] isIdentifierChar
      (fun more => some (.identifier (String.ofList (c :: more)))) rest) := by
  have gapless := not_isGap_of_isIdentifierChar (isIdentifierChar_of_start start)
  rw [match?.eq_def, gapless, if_neg Bool.false_ne_true, if_pos start]

theorem match?_of_isDigit {c : Char} (digit : c.isDigit = true) (rest : List Char) :
    match? c rest = some (matchNumber [c] rest) := by
  have gapless := not_isGap_of_isIdentifierChar (isIdentifierChar_of_isDigit digit)
  rw [match?.eq_def, gapless, not_isIdentifierStart_of_isDigit digit, if_neg Bool.false_ne_true,
    if_neg Bool.false_ne_true, if_pos digit]

theorem match?_minus {d : Char} (digit : d.isDigit = true) (digits : List Char) :
    match? '-' (d :: digits) =
      some ((matchNumber ['-', d] digits).weaken (Nat.succ_le_succ (Nat.le_succ _))) := by
  have minus : match? '-' (d :: digits) =
      if d.isDigit then
        some ((matchNumber ['-', d] digits).weaken (Nat.succ_le_succ (Nat.le_succ _)))
      else none := rfl
  rw [minus, if_pos digit]

theorem match?_quote {rest items after : List Char}
    (read : stringItems rest = (items, '"' :: after)) :
    ∃ shorter, match? '"' rest = some ⟨⟨'"' :: items ++ ['"'],
      some (.text (String.ofList (unescape items)))⟩, after, shorter⟩ := by
  have left := length_stringItems_le rest
  rw [read, List.length_cons] at left
  refine ⟨by omega, ?_⟩
  rw [match?.eq_def]
  simp only [show isGap '"' = false by decide, show isIdentifierStart '"' = false by decide,
    show Char.isDigit '"' = false by decide, Bool.false_eq_true, if_false, Char.reduceEq, if_true]
  split
  · next same =>
      rw [read] at same
      cases same
      rfl
  · next other => exact absurd read (other items after)

theorem match?_atSign {chars : List Char} (single : chars.head? ≠ some '@') :
    match? '@' chars = some ⟨⟨['@'], some .atSign⟩, chars, Nat.lt_succ_self _⟩ := by
  cases chars with
  | nil => rfl
  | cons d others =>
      have other : d ≠ '@' := fun same => single (by rw [same]; rfl)
      rw [match?.eq_def]
      simp [show isGap '@' = false by decide, show isIdentifierStart '@' = false by decide,
        show Char.isDigit '@' = false by decide, other]

theorem match?_of_punctuation {c : Char} {t : Token} (stands : Token.punctuation? c = some t)
    (single : c ≠ '@') (rest : List Char) :
    match? c rest = some ⟨⟨[c], some t⟩, rest, Nat.lt_succ_self _⟩ := by
  unfold Token.punctuation? at stands
  split at stands
  · exact absurd rfl single
  all_goals cases stands
  all_goals rfl

theorem lexesTo_identifier {chars rest : List Char} {tokens : List Token}
    (identifier : IsIdentifier chars) (gap : GapFollows rest) (more : LexesTo rest tokens) :
    LexesTo (chars ++ rest) (.identifier (String.ofList chars) :: tokens) := by
  obtain ⟨c, others, rfl, start, all⟩ := identifier
  have stops := gap.stops_identifierChar
  refine .token (match?_of_start start (others ++ rest)) ?_ ?_
  · simp only [matchRun, stops.takeWhile_append all]
  · simpa only [matchRun, stops.dropWhile_append all] using more

theorem matchNumber_append {start digits fraction rest : List Char}
    (all : ∀ c ∈ digits, c.isDigit = true) (stops : Stops Char.isDigit (fraction ++ rest))
    (read : fractionPart (fraction ++ rest) = (fraction, rest)) :
    (matchNumber start (digits ++ (fraction ++ rest))).value.token =
        some (.number (String.ofList (start ++ digits ++ fraction))) ∧
      (matchNumber start (digits ++ (fraction ++ rest))).rest = rest := by
  simp only [matchNumber, stops.takeWhile_append all, stops.dropWhile_append all, read, and_self]

theorem lexesTo_number_parts {sign digits fraction rest : List Char} {tokens : List Token}
    (signed : sign = [] ∨ sign = ['-']) (some : digits ≠ [])
    (all : ∀ c ∈ digits, c.isDigit = true) (stops : Stops Char.isDigit (fraction ++ rest))
    (read : fractionPart (fraction ++ rest) = (fraction, rest)) (more : LexesTo rest tokens) :
    LexesTo (sign ++ digits ++ fraction ++ rest)
      (.number (String.ofList (sign ++ digits ++ fraction)) :: tokens) := by
  cases digits with
  | nil => exact absurd rfl some
  | cons d others =>
      obtain ⟨first, others⟩ := List.forall_mem_cons.mp all
      rcases signed with rfl | rfl
      · obtain ⟨token, left⟩ := @matchNumber_append [d] _ _ _ others stops read
        have lexed := LexesTo.token (match?_of_isDigit first _) token (left ▸ more)
        simpa using lexed
      · obtain ⟨token, left⟩ := @matchNumber_append ['-', d] _ _ _ others stops read
        have lexed := LexesTo.token (match?_minus first _) token (left ▸ more)
        simpa using lexed

theorem lexesTo_number {chars rest : List Char} {tokens : List Token} (numeral : IsNumeral chars)
    (gap : GapFollows rest) (more : LexesTo rest tokens) :
    LexesTo (chars ++ rest) (.number (String.ofList chars) :: tokens) := by
  cases numeral with
  | whole signed some all =>
      have lexed := @lexesTo_number_parts _ _ [] _ _ signed some all gap.stops_digit
        gap.fractionPart_eq more
      simpa using lexed
  | fraction signed some all decimal others =>
      refine lexesTo_number_parts signed some all ?_
        (fractionPart_decimals gap.stops_digit decimal others) more
      intro c first
      obtain rfl : '.' = c := by simpa using first
      rfl

theorem lexesTo_text {value rest : List Char} {tokens : List Token} (more : LexesTo rest tokens) :
    LexesTo ('"' :: escape value ++ ['"'] ++ rest) (.text (String.ofList value) :: tokens) := by
  obtain ⟨shorter, matched⟩ := match?_quote (stringItems_escape value rest)
  rw [unescape_escape] at matched
  have lexed := LexesTo.token matched rfl more
  simpa using lexed

theorem lexesTo_doc {line rest : List Char} {tokens : List Token} (trimmed : IsTrimmedLine line)
    (blank : ∀ c ∈ rest.takeWhile isInLine, isGap c = true) (more : LexesTo rest tokens) :
    LexesTo (['/', '/', '/', ' '] ++ line ++ rest) (.doc (String.ofList line) :: tokens) := by
  have inLine : ∀ c ∈ ' ' :: line, isInLine c = true := by
    intro c listed
    rcases List.mem_cons.mp listed with rfl | listed
    · rfl
    · rw [isInLine, bne_iff_ne]
      rintro rfl
      exact trimmed.line listed
  have matched : match? '/' ('/' :: '/' :: ((' ' :: line) ++ rest)) =
      some ((matchRun ['/', '/', '/'] isInLine
        (fun text => some (.doc (String.ofList (trim text)))) ((' ' :: line) ++ rest)).weaken
          (by simp)) := rfl
  refine .token matched ?_ ?_
  · -- What stands behind the comment in its line is trimmed off.
    have payload : trim (' ' :: line ++ rest.takeWhile isInLine) = line := by
      rw [trim_append_of_blank fun c listed => isBlank_of_isGap (blank c listed), trim,
        ← List.singleton_append,
        trimStart_append_of_blank (List.forall_mem_singleton.mpr (isBlank_of_isGap rfl)), ← trim,
        trim_eq_self_of_isTrimmed trimmed.trimmed]
    simp only [Reading.weaken_value, matchRun, List.takeWhile_append_of_pos inLine, payload]
  · simp only [Reading.weaken_rest, matchRun, List.dropWhile_append_of_pos inLine]
    rw [← lexesTo_gap_iff blank, List.takeWhile_append_dropWhile]
    exact more

theorem lexesTo_punctuation {c : Char} {rest : List Char} {t : Token} {tokens : List Token}
    (stands : Token.punctuation? c = some t) (single : c ≠ '@') (more : LexesTo rest tokens) :
    LexesTo ([c] ++ rest) (t :: tokens) :=
  .token (match?_of_punctuation stands single rest) rfl more

theorem lexesTo_spelling {t : Token} {rest : List Char} {tokens : List Token} (proper : t.Proper)
    (ends : t.Ends rest) (more : LexesTo rest tokens) :
    LexesTo (t.spelling ++ rest) (t :: tokens) := by
  cases t with
  | doc line => simpa [Token.spelling] using lexesTo_doc proper ends more
  | identifier name => simpa [Token.spelling] using lexesTo_identifier proper ends more
  | text value => simpa [Token.spelling] using @lexesTo_text value.toList _ _ more
  | number digits => simpa [Token.spelling] using lexesTo_number proper ends more
  | doubleAtSign =>
      have matched : match? '@' ('@' :: rest) =
          some ⟨⟨['@', '@'], some .doubleAtSign⟩, rest, by simp only [List.length_cons]; omega⟩ :=
        rfl
      exact .token matched rfl more
  | atSign =>
      -- A second sign would be taken together with the first.
      have single : rest.head? ≠ some '@' := fun first => absurd (ends '@' first) (by decide)
      exact .token (match?_atSign single) rfl more
  | _ => exact lexesTo_punctuation rfl (by decide) more

/-- The tokens stand in the text one after the other, with gaps between them. -/
inductive LaidOut : List Token → List Char → Prop
  | gap {gap : List Char} (blank : ∀ c ∈ gap, isGap c = true) : LaidOut [] gap
  | token {gap rest : List Char} {t : Token} {tokens : List Token}
      (blank : ∀ c ∈ gap, isGap c = true) (ends : t.Ends rest) (more : LaidOut tokens rest) :
      LaidOut (t :: tokens) (gap ++ (t.spelling ++ rest))

theorem LaidOut.behind {gap chars : List Char} {tokens : List Token}
    (blank : ∀ c ∈ gap, isGap c = true) (laid : LaidOut tokens chars) :
    LaidOut tokens (gap ++ chars) := by
  cases laid with
  | gap more => exact .gap (List.forall_mem_append.mpr ⟨blank, more⟩)
  | token more ends others =>
      rw [← List.append_assoc]
      exact .token (List.forall_mem_append.mpr ⟨blank, more⟩) ends others

theorem lexesTo_of_laidOut {tokens : List Token} {chars : List Char} (laid : LaidOut tokens chars)
    (proper : ∀ t ∈ tokens, t.Proper) : LexesTo chars tokens := by
  induction laid with
  | @gap gap blank =>
      rw [← List.append_nil gap, lexesTo_gap_iff blank]
      exact .done
  | token blank ends more ih =>
      obtain ⟨first, others⟩ := List.forall_mem_cons.mp proper
      rw [lexesTo_gap_iff blank]
      exact lexesTo_spelling first ends (ih others)

end Modelwright.Source
