import Modelwright.Proofs.Source.Matching

namespace Modelwright.Source

open Modelwright.Text

/-! The patterns of the language, each on its own.  A match is the longest text at its place that
fits one of them. -/

/-- The text fits a pattern, which says what token it stands for; gaps and plain comments stand for
none. -/
inductive Fits : List Char → Option Token → Prop
  | gap {run : List Char} (nonempty : run ≠ []) (all : ∀ c ∈ run, isGap c = true) : Fits run none
  | comment {line : List Char} (plain : line.head? ≠ some '/')
      (all : ∀ c ∈ line, isInLine c = true) : Fits ('/' :: '/' :: line) none
  | doc {line : List Char} (all : ∀ c ∈ line, isInLine c = true) :
      Fits ('/' :: '/' :: '/' :: line) (some (.doc (String.ofList (trim line))))
  | identifier {chars : List Char} (identifier : IsIdentifier chars) :
      Fits chars (some (.identifier (String.ofList chars)))
  | text {items : List Char} (body : IsStringBody items) :
      Fits ('"' :: items ++ ['"']) (some (.text (String.ofList (unescape items))))
  | number {chars : List Char} (numeral : IsNumeral chars) :
      Fits chars (some (.number (String.ofList chars)))
  | doubleAtSign : Fits ['@', '@'] (some .doubleAtSign)
  | punctuation {c : Char} {t : Token} (stands : Token.punctuation? c = some t) : Fits [c] (some t)

/-- Of the texts that the characters begin with none that fits a pattern is longer, and the text
itself fits no other way. -/
structure Longest (text : List Char) (token : Option Token) (chars : List Char) : Prop where
  fits : Fits text token
  only : ∀ kind, Fits text kind → kind = token
  begins : text <+: chars
  longest : ∀ other kind, Fits other kind → other <+: chars → other.length ≤ text.length

theorem length_takeWhile_append {p : Char → Bool} {run : List Char}
    (all : ∀ c ∈ run, p c = true) (after : List Char) :
    run.length ≤ ((run ++ after).takeWhile p).length := by
  rw [List.takeWhile_append_of_pos all, List.length_append]
  exact Nat.le_add_right _ _

/-- At the place of a text that fits there is a match that takes no less. -/
def MatchedAt (text after : List Char) : Prop :=
  ∃ c rest found, text ++ after = c :: rest ∧ match? c rest = some found ∧
    text.length ≤ found.value.text.length

theorem matchedAt_number_parts {sign digits fraction after : List Char}
    (signed : sign = [] ∨ sign = ['-']) (nonempty : digits ≠ [])
    (all : ∀ c ∈ digits, c.isDigit = true)
    (taken : fraction.length ≤
      (fractionPart ((digits ++ fraction ++ after).dropWhile Char.isDigit)).1.length) :
    MatchedAt (sign ++ digits ++ fraction) after := by
  cases digits with
  | nil => exact absurd rfl nonempty
  | cons d others =>
      obtain ⟨digit, all⟩ := List.forall_mem_cons.mp all
      have run := length_takeWhile_append all (fraction ++ after)
      rw [List.append_assoc, List.cons_append, List.dropWhile_cons_of_pos digit] at taken
      rcases signed with rfl | rfl
      · refine ⟨d, others ++ (fraction ++ after), _, by simp, match?_of_isDigit digit _, ?_⟩
        simp only [matchNumber, List.length_append, List.length_cons, List.length_nil]
        omega
      · refine ⟨'-', d :: (others ++ (fraction ++ after)), _, by simp, match?_minus digit _, ?_⟩
        simp only [Reading.weaken_value, matchNumber, List.length_append, List.length_cons,
          List.length_nil]
        omega

theorem matchedAt_number {chars after : List Char} (numeral : IsNumeral chars) :
    MatchedAt chars after := by
  cases numeral with
  | whole signed nonempty all =>
      have matched := @matchedAt_number_parts _ _ [] after signed nonempty all (Nat.zero_le _)
      rwa [List.append_nil] at matched
  | @fraction sign digits decimals signed nonempty all more others =>
      refine matchedAt_number_parts signed nonempty all ?_
      have point : Stops Char.isDigit ('.' :: (decimals ++ after)) := by
        intro c first
        obtain rfl : '.' = c := by simpa using first
        rfl
      rw [List.append_assoc, List.cons_append, point.dropWhile_append all]
      cases decimals with
      | nil => exact absurd rfl more
      | cons d behind =>
          obtain ⟨digit, others⟩ := List.forall_mem_cons.mp others
          have run := length_takeWhile_append others after
          simp only [List.cons_append, fractionPart, digit, if_true, List.length_cons]
          omega

theorem Fits.matchedAt {text : List Char} {token : Option Token} (fits : Fits text token)
    (after : List Char) : MatchedAt text after := by
  cases fits with
  | gap nonempty all =>
      cases text with
      | nil => exact absurd rfl nonempty
      | cons c others =>
          obtain ⟨first, others⟩ := List.forall_mem_cons.mp all
          exact ⟨c, _, _, rfl, match?_of_isGap first _,
            Nat.succ_le_succ (length_takeWhile_append others after)⟩
  | @comment line plain all =>
      cases line with
      | nil =>
          -- The slashes may be the beginning of a doc comment.
          by_cases third : after.head? = some '/'
          · obtain ⟨behind, rfl⟩ := List.head?_eq_some_iff.mp third
            exact ⟨'/', _, _, rfl, rfl, Nat.le_add_left _ _⟩
          · exact ⟨'/', _, _, rfl, match?_comment third, Nat.le_add_left _ _⟩
      | cons c others =>
          refine ⟨'/', _, _, rfl, @match?_comment ((c :: others) ++ after) plain, ?_⟩
          exact Nat.succ_le_succ (Nat.succ_le_succ (length_takeWhile_append all after))
  | doc all =>
      refine ⟨'/', _, _, rfl, rfl, ?_⟩
      exact Nat.succ_le_succ <| Nat.succ_le_succ <| Nat.succ_le_succ <|
        length_takeWhile_append all after
  | identifier identifier =>
      obtain ⟨c, more, rfl, start, all⟩ := identifier
      exact ⟨c, _, _, rfl, match?_of_start start _,
        Nat.succ_le_succ (length_takeWhile_append all after)⟩
  | @text items body =>
      obtain ⟨_, matched⟩ := match?_quote (body.stringItems_eq after)
      exact ⟨'"', _, _, by simp, matched, Nat.le_refl _⟩
  | number numeral => exact matchedAt_number numeral
  | doubleAtSign => exact ⟨'@', _, _, rfl, rfl, Nat.le_refl _⟩
  | @punctuation c t stands =>
      by_cases sign : c = '@'
      · rw [sign]
        by_cases second : after.head? = some '@'
        · obtain ⟨behind, rfl⟩ := List.head?_eq_some_iff.mp second
          exact ⟨'@', _, _, rfl, rfl, Nat.le_add_left _ _⟩
        · exact ⟨'@', _, _, rfl, match?_atSign second, Nat.le_refl _⟩
      · exact ⟨c, _, _, rfl, match?_of_punctuation stands sign _, Nat.le_refl _⟩

theorem not_begins_of_match?_eq_none {c : Char} {rest text : List Char} {token : Option Token}
    (missed : match? c rest = none) (fits : Fits text token) : ¬ text <+: c :: rest := by
  rintro ⟨after, split⟩
  obtain ⟨d, others, found, start, matched, -⟩ := fits.matchedAt after
  obtain ⟨rfl, rfl⟩ := List.cons.inj (split.symm.trans start)
  rw [missed] at matched
  cases matched

theorem Matches.fits {text rest : List Char} {token : Option Token}
    (matching : Matches text token rest) : Fits text token := by
  cases matching with
  | gap gap all stops => exact .gap (List.cons_ne_nil _ _) (List.forall_mem_cons.mpr ⟨gap, all⟩)
  | identifier start all stops => exact .identifier ⟨_, _, rfl, start, all⟩
  | number signed nonempty all stops read =>
      exact .number (isNumeral_of_fractionPart signed nonempty all read)
  | doc all stops => exact .doc all
  | @comment line _ plain all stops =>
      refine .comment ?_ all
      cases line with
      | nil => simp
      | cons c more => exact plain
  | text body => exact .text body
  | doubleAtSign => exact .doubleAtSign
  | atSign single => exact .punctuation rfl
  | punctuation stands single => exact .punctuation stands

theorem IsNumeral.matches {chars : List Char} (numeral : IsNumeral chars) :
    Matches chars (some (.number (String.ofList chars))) [] := by
  have ends : Stops Char.isDigit [] := fun c first => by cases first
  cases numeral with
  | whole signed nonempty all =>
      have matching := @Matches.number _ _ [] [] signed nonempty all ends rfl
      rwa [List.append_nil] at matching
  | fraction signed nonempty all more others =>
      refine .number signed nonempty all ?_ (fractionPart_decimals ends more others)
      intro c first
      obtain rfl : '.' = c := by simpa using first
      rfl

theorem Fits.matches {text : List Char} {token : Option Token} (fits : Fits text token) :
    Matches text token [] := by
  have ends : ∀ p : Char → Bool, Stops p [] := fun p c first => by cases first
  cases fits with
  | gap nonempty all =>
      cases text with
      | nil => exact absurd rfl nonempty
      | cons c others =>
          obtain ⟨first, others⟩ := List.forall_mem_cons.mp all
          exact .gap first others (ends _)
  | comment plain all => exact .comment (by rwa [List.append_nil]) all (ends _)
  | doc all => exact .doc all (ends _)
  | identifier identifier =>
      obtain ⟨c, more, rfl, start, all⟩ := identifier
      exact .identifier start all (ends _)
  | text body => exact .text body
  | number numeral => exact numeral.matches
  | doubleAtSign => exact .doubleAtSign
  | @punctuation c t stands =>
      by_cases sign : c = '@'
      · rw [sign] at stands ⊢
        obtain rfl := Option.some.inj stands
        exact .atSign (by simp)
      · exact .punctuation stands sign

theorem Fits.unique {text : List Char} {token kind : Option Token} (fits : Fits text token)
    (other : Fits text kind) : kind = token := by
  obtain ⟨c, rest, found, start, matched, rfl, -⟩ := match?_of_matches fits.matches
  obtain ⟨d, others, again, restart, rematched, rfl, -⟩ := match?_of_matches other.matches
  obtain ⟨rfl, rfl⟩ := List.cons.inj (start.symm.trans restart)
  obtain rfl := Option.some.inj (matched.symm.trans rematched)
  rfl

theorem longest_of_match? {c : Char} {rest : List Char}
    {found : Reading Char (rest.length + 1) Match} (matched : match? c rest = some found) :
    Longest found.value.text found.value.token (c :: rest) := by
  obtain ⟨more, text, split, matching⟩ := matches_of_match? matched
  have fits : Fits found.value.text found.value.token := text ▸ matching.fits
  refine ⟨fits, fun _ => fits.unique, ⟨found.rest, by rw [text, List.cons_append, ← split]⟩, ?_⟩
  rintro other kind fits ⟨after, begins⟩
  obtain ⟨d, others, again, start, rematched, least⟩ := fits.matchedAt after
  obtain ⟨rfl, rfl⟩ := List.cons.inj (begins.symm.trans start)
  obtain rfl := Option.some.inj (matched.symm.trans rematched)
  exact least

end Modelwright.Source
