import Modelwright.Proofs.Source.Lexing

namespace Modelwright.Source

open Modelwright.Text

inductive IsStringBody : List Char → Prop
  | done : IsStringBody []
  | escaped {c : Char} {items : List Char} (line : c ≠ '\n') (more : IsStringBody items) :
      IsStringBody ('\\' :: c :: items)
  | plain {c : Char} {items : List Char} (quote : c ≠ '"') (line : c ≠ '\n') (whole : c ≠ '\\')
      (more : IsStringBody items) : IsStringBody (c :: items)

theorem IsStringBody.stringItems_eq {items : List Char} (body : IsStringBody items)
    (rest : List Char) : stringItems (items ++ '"' :: rest) = (items, '"' :: rest) := by
  induction body with
  | done => simp [stringItems]
  | escaped line more ih => simp [stringItems, line, ih]
  | @plain c items quote line whole more ih =>
      have single : ∀ (d : Char) (others : List Char), c = '\\' →
          items ++ '"' :: rest = d :: others → False := fun _ _ same => absurd same whole
      rw [List.cons_append, stringItems.eq_3 _ _ single, ih]
      simp [quote, line, whole]

theorem IsStringBody.newline_not_mem {items : List Char} (body : IsStringBody items) :
    '\n' ∉ items := by
  induction body with
  | done => exact List.not_mem_nil
  | escaped line more ih => simp [line.symm, ih]
  | plain quote line whole more ih => simp [line.symm, ih]

theorem isStringBody_stringItems (chars : List Char) : IsStringBody (stringItems chars).1 := by
  induction chars using stringItems.induct with
  | case1 => exact .done
  | case2 => exact .done
  | case3 c rest line items after read ih =>
      rw [read] at ih
      simpa [stringItems, line, read] using .escaped line ih
  | case4 c rest single stops =>
      rw [stringItems.eq_3 _ _ single, if_pos stops]
      exact .done
  | case5 c rest single goes items after read ih =>
      rw [read] at ih
      obtain ⟨quote, line, whole⟩ : c ≠ '"' ∧ c ≠ '\n' ∧ c ≠ '\\' := by simpa using goes
      rw [stringItems.eq_3 _ _ single, if_neg goes, read]
      exact .plain quote line whole ih

/-- The text is one match in front of the rest: a gap, a comment or the spelling of a token. -/
inductive Matches : List Char → Option Token → List Char → Prop
  | gap {c : Char} {run rest : List Char} (gap : isGap c = true)
      (all : ∀ d ∈ run, isGap d = true) (stops : Stops isGap rest) : Matches (c :: run) none rest
  | identifier {c : Char} {run rest : List Char} (start : isIdentifierStart c = true)
      (all : ∀ d ∈ run, isIdentifierChar d = true) (stops : Stops isIdentifierChar rest) :
      Matches (c :: run) (some (.identifier (String.ofList (c :: run)))) rest
  | number {sign digits fraction rest : List Char} (signed : sign = [] ∨ sign = ['-'])
      (nonempty : digits ≠ []) (all : ∀ d ∈ digits, d.isDigit = true)
      (stops : Stops Char.isDigit (fraction ++ rest))
      (read : fractionPart (fraction ++ rest) = (fraction, rest)) :
      Matches (sign ++ digits ++ fraction)
        (some (.number (String.ofList (sign ++ digits ++ fraction)))) rest
  | doc {line rest : List Char} (all : ∀ d ∈ line, isInLine d = true)
      (stops : Stops isInLine rest) :
      Matches ('/' :: '/' :: '/' :: line) (some (.doc (String.ofList (trim line)))) rest
  | comment {line rest : List Char} (plain : (line ++ rest).head? ≠ some '/')
      (all : ∀ d ∈ line, isInLine d = true) (stops : Stops isInLine rest) :
      Matches ('/' :: '/' :: line) none rest
  | text {items rest : List Char} (body : IsStringBody items) :
      Matches ('"' :: items ++ ['"']) (some (.text (String.ofList (unescape items)))) rest
  | doubleAtSign {rest : List Char} : Matches ['@', '@'] (some .doubleAtSign) rest
  | atSign {rest : List Char} (single : rest.head? ≠ some '@') : Matches ['@'] (some .atSign) rest
  | punctuation {c : Char} {t : Token} {rest : List Char} (stands : Token.punctuation? c = some t)
      (single : c ≠ '@') : Matches [c] (some t) rest

theorem stops_dropWhile {α : Type} (p : α → Bool) (items : List α) :
    Stops p (items.dropWhile p) := by
  intro item first
  have leads := List.head?_dropWhile_not p items
  rw [first] at leads
  simpa using leads

theorem fractionPart_append (chars : List Char) :
    (fractionPart chars).1 ++ (fractionPart chars).2 = chars := by
  unfold fractionPart
  split
  · split
    · rw [List.cons_append, List.cons_append, List.takeWhile_append_dropWhile]
    · rfl
  · rfl

theorem fractionPart_cases (chars : List Char) :
    (fractionPart chars).1 = [] ∨ ∃ decimals, (fractionPart chars).1 = '.' :: decimals ∧
      decimals ≠ [] ∧ ∀ c ∈ decimals, c.isDigit = true := by
  unfold fractionPart
  split
  · next d rest =>
      split
      · next digit =>
          refine .inr ⟨d :: rest.takeWhile Char.isDigit, rfl, List.cons_ne_nil _ _, ?_⟩
          exact List.forall_mem_cons.mpr ⟨digit, fun c listed => List.mem_takeWhile_imp listed⟩
      · exact .inl rfl
  · exact .inl rfl

theorem matches_matchNumber {sign digits : List Char} (signed : sign = [] ∨ sign = ['-'])
    (nonempty : digits ≠ []) (all : ∀ d ∈ digits, d.isDigit = true) (chars : List Char) :
    let found := matchNumber (sign ++ digits) chars
    ∃ more, found.value.text = sign ++ digits ++ more ∧ chars = more ++ found.rest ∧
      Matches (sign ++ digits ++ more) found.value.token found.rest := by
  have parts := fractionPart_append (chars.dropWhile Char.isDigit)
  refine ⟨chars.takeWhile Char.isDigit ++ (fractionPart (chars.dropWhile Char.isDigit)).1, ?_, ?_,
    ?_⟩
  · simp [matchNumber]
  · simp [matchNumber, parts]
  · have grown : ∀ d ∈ digits ++ chars.takeWhile Char.isDigit, d.isDigit = true :=
      List.forall_mem_append.mpr ⟨all, fun d listed => List.mem_takeWhile_imp listed⟩
    have number := @Matches.number sign _ (fractionPart (chars.dropWhile Char.isDigit)).1
      (fractionPart (chars.dropWhile Char.isDigit)).2 signed (by simp [nonempty]) grown
      (parts.symm ▸ stops_dropWhile _ chars) (by rw [parts])
    simpa [matchNumber] using number

theorem stringItems_closed {rest items after : List Char}
    (read : stringItems rest = (items, '"' :: after)) : rest = items ++ '"' :: after := by
  simpa [read] using (stringItems_append rest).symm

/-- What has been found is a match of the characters from their start on. -/
def IsFound (c : Char) (rest : List Char) (found : Reading Char (rest.length + 1) Match) : Prop :=
  ∃ more, found.value.text = c :: more ∧ rest = more ++ found.rest ∧
    Matches (c :: more) found.value.token found.rest

section Patterns

variable {c : Char} {rest : List Char}

theorem isFound_gap (gap : isGap c = true) (rest : List Char) :
    IsFound c rest (matchRun [c] isGap (fun _ => none) rest) :=
  ⟨rest.takeWhile isGap, rfl, List.takeWhile_append_dropWhile.symm,
    .gap gap (fun _ listed => List.mem_takeWhile_imp listed) (stops_dropWhile _ _)⟩

theorem isFound_identifier (start : isIdentifierStart c = true) (rest : List Char) :
    IsFound c rest (matchRun [c] isIdentifierChar
      (fun more => some (.identifier (String.ofList (c :: more)))) rest) :=
  ⟨rest.takeWhile isIdentifierChar, rfl, List.takeWhile_append_dropWhile.symm,
    .identifier start (fun _ listed => List.mem_takeWhile_imp listed) (stops_dropWhile _ _)⟩

theorem isFound_number (digit : c.isDigit = true) (rest : List Char) :
    IsFound c rest (matchNumber [c] rest) :=
  @matches_matchNumber [] [c] (.inl rfl) (by simp) (by simpa using digit) rest

theorem isFound_negative {d : Char} {digits : List Char} (digit : d.isDigit = true)
    (shorter : digits.length + 1 ≤ (d :: digits).length + 1) :
    IsFound '-' (d :: digits) ((matchNumber ['-', d] digits).weaken shorter) := by
  obtain ⟨more, text, split, number⟩ :=
    @matches_matchNumber ['-'] [d] (.inr rfl) (by simp) (by simpa using digit) digits
  exact ⟨d :: more, by simpa using text, congrArg (d :: ·) split, by simpa using number⟩

theorem isFound_doc {line : List Char}
    (shorter : line.length + 1 ≤ ('/' :: '/' :: line).length + 1) :
    IsFound '/' ('/' :: '/' :: line) ((matchRun ['/', '/', '/'] isInLine
      (fun text => some (.doc (String.ofList (trim text)))) line).weaken shorter) :=
  ⟨'/' :: '/' :: line.takeWhile isInLine, by simp [matchRun], by simp [matchRun],
    .doc (fun _ listed => List.mem_takeWhile_imp listed) (stops_dropWhile _ _)⟩

theorem isFound_comment {line : List Char} (plain : line.head? ≠ some '/')
    (shorter : line.length + 1 ≤ ('/' :: line).length + 1) :
    IsFound '/' ('/' :: line)
      ((matchRun ['/', '/'] isInLine (fun _ => none) line).weaken shorter) := by
  refine ⟨'/' :: line.takeWhile isInLine, by simp [matchRun], by simp [matchRun], ?_⟩
  refine .comment ?_ (fun _ listed => List.mem_takeWhile_imp listed) (stops_dropWhile _ _)
  simpa only [Reading.weaken_rest, matchRun, List.takeWhile_append_dropWhile] using plain

theorem isFound_text {items after : List Char} (read : stringItems rest = (items, '"' :: after))
    (shorter : after.length < rest.length + 1) :
    IsFound '"' rest
      ⟨⟨'"' :: items ++ ['"'], some (.text (String.ofList (unescape items)))⟩, after, shorter⟩ := by
  have body := isStringBody_stringItems rest
  rw [read] at body
  exact ⟨items ++ ['"'], by simp, by simp [stringItems_closed read], .text body⟩

theorem isFound_atSign (single : rest.head? ≠ some '@')
    (shorter : rest.length < rest.length + 1) :
    IsFound '@' rest ⟨⟨['@'], some .atSign⟩, rest, shorter⟩ :=
  ⟨[], rfl, rfl, .atSign single⟩

variable {found : Reading Char (rest.length + 1) Match}

theorem isFound_of_minus (matched : match? '-' rest = some found) : IsFound '-' rest found := by
  rw [match?.eq_def, if_neg (by decide), if_neg (by decide), if_neg (by decide), if_pos rfl]
    at matched
  split at matched
  · split at matched
    · next digit =>
        cases matched
        exact isFound_negative digit _
    · cases matched
  · cases matched

theorem isFound_of_slash (matched : match? '/' rest = some found) : IsFound '/' rest found := by
  rw [match?.eq_def, if_neg (by decide), if_neg (by decide), if_neg (by decide),
    if_neg (by decide), if_pos rfl] at matched
  split at matched
  · cases matched
    exact isFound_doc _
  · next line plain =>
      cases matched
      refine isFound_comment (fun first => ?_) _
      obtain ⟨more, rfl⟩ := List.head?_eq_some_iff.mp first
      exact plain more rfl
  · cases matched

theorem isFound_of_quote (matched : match? '"' rest = some found) : IsFound '"' rest found := by
  rw [match?.eq_def, if_neg (by decide), if_neg (by decide), if_neg (by decide),
    if_neg (by decide), if_neg (by decide), if_pos rfl] at matched
  split at matched
  · next read =>
      cases matched
      exact isFound_text read _
  · cases matched

theorem isFound_of_atSign (matched : match? '@' rest = some found) : IsFound '@' rest found := by
  rw [match?.eq_def, if_neg (by decide), if_neg (by decide), if_neg (by decide),
    if_neg (by decide), if_neg (by decide), if_neg (by decide), if_pos rfl] at matched
  split at matched
  · cases matched
    exact ⟨['@'], rfl, rfl, .doubleAtSign⟩
  · next single =>
      cases matched
      refine isFound_atSign (fun first => ?_) _
      obtain ⟨more, rfl⟩ := List.head?_eq_some_iff.mp first
      exact single more rfl

theorem matches_of_match? (matched : match? c rest = some found) : IsFound c rest found := by
  by_cases minus : c = '-'
  · subst minus
    exact isFound_of_minus matched
  by_cases slash : c = '/'
  · subst slash
    exact isFound_of_slash matched
  by_cases quote : c = '"'
  · subst quote
    exact isFound_of_quote matched
  by_cases sign : c = '@'
  · subst sign
    exact isFound_of_atSign matched
  rw [match?.eq_def, if_neg minus, if_neg slash, if_neg quote, if_neg sign] at matched
  split at matched
  · next gap =>
      cases matched
      exact isFound_gap gap rest
  split at matched
  · next start =>
      cases matched
      exact isFound_identifier start rest
  split at matched
  · next digit =>
      cases matched
      exact isFound_number digit rest
  · obtain ⟨token, stands, rfl⟩ := Option.map_eq_some_iff.mp matched
    exact ⟨[], rfl, rfl, .punctuation stands sign⟩

end Patterns

theorem match?_comment {chars : List Char} (plain : chars.head? ≠ some '/') :
    match? '/' ('/' :: chars) =
      some ((matchRun ['/', '/'] isInLine (fun _ => none) chars).weaken (Nat.le_succ _)) := by
  cases chars with
  | nil => rfl
  | cons d others =>
      have other : d ≠ '/' := fun same => plain (by rw [same]; rfl)
      rw [match?.eq_def]
      simp [show isGap '/' = false by decide, show isIdentifierStart '/' = false by decide,
        show Char.isDigit '/' = false by decide, other]

theorem match?_of_matches {text rest : List Char} {token : Option Token}
    (matching : Matches text token rest) :
    ∃ c behind found, text ++ rest = c :: behind ∧ match? c behind = some found ∧
      found.value.token = token ∧ found.rest = rest := by
  cases matching with
  | gap gap all stops =>
      exact ⟨_, _, _, rfl, match?_of_isGap gap _, rfl, stops.dropWhile_append all⟩
  | identifier first all stops =>
      refine ⟨_, _, _, rfl, match?_of_start first _, ?_, stops.dropWhile_append all⟩
      simp only [matchRun, List.append_eq, stops.takeWhile_append all]
  | @number sign digits fraction _ signed nonempty all stops read =>
      cases digits with
      | nil => exact absurd rfl nonempty
      | cons d others =>
          obtain ⟨digit, all⟩ := List.forall_mem_cons.mp all
          rcases signed with rfl | rfl
          · obtain ⟨token, left⟩ := @matchNumber_append [d] _ _ _ all stops read
            exact ⟨d, _, _, by simp, match?_of_isDigit digit _, by simpa using token, left⟩
          · obtain ⟨token, left⟩ := @matchNumber_append ['-', d] _ _ _ all stops read
            exact ⟨'-', _, _, by simp, match?_minus digit _, by simpa using token, left⟩
  | doc all stops =>
      refine ⟨_, _, _, rfl, rfl, ?_, stops.dropWhile_append all⟩
      simp only [Reading.weaken_value, matchRun, List.append_eq, stops.takeWhile_append all]
  | comment plain all stops =>
      exact ⟨_, _, _, rfl, match?_comment plain, rfl, stops.dropWhile_append all⟩
  | text body =>
      obtain ⟨shorter, matched⟩ := match?_quote (body.stringItems_eq rest)
      exact ⟨_, _, _, by simp, matched, rfl, rfl⟩
  | doubleAtSign => exact ⟨_, _, _, rfl, rfl, rfl, rfl⟩
  | atSign single => exact ⟨_, _, _, rfl, match?_atSign single, rfl, rfl⟩
  | punctuation stands single =>
      exact ⟨_, _, _, rfl, match?_of_punctuation stands single _, rfl, rfl⟩

theorem Matches.lexesTo_iff {text rest : List Char} {token : Option Token} {tokens : List Token}
    (matching : Matches text token rest) :
    LexesTo (text ++ rest) tokens ↔ ∃ more, tokens = token.toList ++ more ∧ LexesTo rest more := by
  obtain ⟨c, behind, found, start, matched, kept, left⟩ := match?_of_matches matching
  rw [start]
  constructor
  · intro lexes
    cases lexes with
    | skip same passed lexes =>
        rw [matched] at same
        cases same
        rw [kept] at passed
        exact ⟨tokens, by simp [passed], left ▸ lexes⟩
    | @token _ _ _ t others same found lexes =>
        rw [matched] at same
        cases same
        rw [kept] at found
        exact ⟨others, by simp [found], left ▸ lexes⟩
  · rintro ⟨more, rfl, lexes⟩
    rw [← left] at lexes
    cases token with
    | none => exact .skip matched kept lexes
    | some t => exact .token matched kept lexes

theorem isNumeral_of_fractionPart {sign digits fraction rest : List Char}
    (signed : sign = [] ∨ sign = ['-']) (nonempty : digits ≠ [])
    (all : ∀ d ∈ digits, d.isDigit = true)
    (read : fractionPart (fraction ++ rest) = (fraction, rest)) :
    IsNumeral (sign ++ digits ++ fraction) := by
  have parts := fractionPart_cases (fraction ++ rest)
  rw [read] at parts
  rcases parts with none | ⟨decimals, begins, more, others⟩
  · dsimp only at none
    rw [none, List.append_nil]
    exact .whole signed nonempty all
  · dsimp only at begins
    rw [begins]
    exact .fraction signed nonempty all more others

theorem Matches.proper {text rest : List Char} {t : Token}
    (matching : Matches text (some t) rest) : t.Proper := by
  cases matching with
  | @identifier c run _ start all stops =>
      rw [Token.Proper, String.toList_ofList]
      exact ⟨c, run, rfl, start, all⟩
  | number signed nonempty all stops read =>
      rw [Token.Proper, String.toList_ofList]
      exact isNumeral_of_fractionPart signed nonempty all read
  | doc all stops =>
      rw [Token.Proper, String.toList_ofList]
      exact ⟨fun newline => absurd (all _ (mem_of_mem_trim newline)) (by decide), isTrimmed_trim _⟩
  | text body => trivial
  | doubleAtSign => trivial
  | atSign single => trivial
  | punctuation stands single =>
      unfold Token.punctuation? at stands
      split at stands
      all_goals cases stands
      all_goals trivial

theorem proper_of_lexesTo {chars : List Char} {tokens : List Token} (lexes : LexesTo chars tokens) :
    ∀ t ∈ tokens, t.Proper := by
  induction lexes with
  | done => exact List.forall_mem_nil _
  | skip matched passed more ih => exact ih
  | token matched kept more ih =>
      obtain ⟨_, _, _, matching⟩ := matches_of_match? matched
      exact List.forall_mem_cons.mpr ⟨(kept ▸ matching).proper, ih⟩

end Modelwright.Source
