import Modelwright.Proofs.Source.Patterns
import Modelwright.Proofs.Text.Slices

namespace Modelwright.Source

open Modelwright.Text

/-! A text falls without gap or overlap into its tokens and what is passed over between them. -/

/-- What is ahead falls into longest matches up to what is left.  The lexemes are the matches that
stand for a token, each where it stands behind `before`. -/
inductive Tiles : List Char → List Char → List Lexeme → List Char → Prop
  | done {before left : List Char} : Tiles before left [] left
  | passed {before text rest left : List Char} {lexemes : List Lexeme}
      (longest : Longest text none (text ++ rest))
      (more : Tiles (before ++ text) rest lexemes left) : Tiles before (text ++ rest) lexemes left
  | kept {before text rest left : List Char} {token : Token} {lexemes : List Lexeme}
      (longest : Longest text (some token) (text ++ rest))
      (more : Tiles (before ++ text) rest lexemes left) :
      Tiles before (text ++ rest)
        (⟨token, ⟨byteLength before, byteLength before + byteLength text⟩⟩ :: lexemes) left

theorem Longest.nonempty {text chars : List Char} {token : Option Token}
    (longest : Longest text token chars) : text ≠ [] := by
  rintro rfl
  obtain ⟨c, _, _, start, -⟩ := match?_of_matches longest.fits.matches
  cases start

theorem exists_longest_of_match? {c : Char} {rest : List Char}
    {found : Reading Char (rest.length + 1) Match} (matched : match? c rest = some found) :
    c :: rest = found.value.text ++ found.rest ∧
      Longest found.value.text found.value.token (found.value.text ++ found.rest) := by
  obtain ⟨more, text, split, -⟩ := matches_of_match? matched
  have whole : c :: rest = found.value.text ++ found.rest := by
    rw [text, List.cons_append, ← split]
  exact ⟨whole, whole ▸ longest_of_match? matched⟩

theorem tiles_of_lexFrom_ok {before chars : List Char} {lexemes : List Lexeme}
    (lexed : lexFrom (byteLength before) chars = .ok lexemes) : Tiles before chars lexemes [] := by
  generalize place : byteLength before = offset at lexed
  induction offset, chars using lexFrom.induct generalizing before lexemes with
  | case1 offset =>
      rw [lexFrom] at lexed
      cases lexed
      exact .done
  | case2 offset c rest missed =>
      rw [lexFrom, missed] at lexed
      cases lexed
  | case3 offset c rest found matched stop shorter =>
      rename_i ih
      obtain ⟨whole, longest⟩ := exists_longest_of_match? matched
      rw [lexFrom, matched] at lexed
      obtain ⟨more, lexedMore, made⟩ := Outcome.bind_eq_ok_iff.mp lexed
      have tiles := @ih (before ++ found.value.text) more (by rw [byteLength_append, place])
        lexedMore
      rw [whole]
      cases kind : found.value.token with
      | none =>
          simp only [kind, Outcome.pure_eq_ok_iff] at made
          rw [kind] at longest
          exact made ▸ .passed longest tiles
      | some token =>
          simp only [kind, Outcome.pure_eq_ok_iff] at made
          rw [kind] at longest
          rw [← made, ← place]
          exact .kept longest tiles

/-- Where reading fails the text in front of the error is tiled and nothing matches behind it. -/
theorem tiles_of_lexFrom_error {before chars : List Char} {error : ParseError}
    (refused : lexFrom (byteLength before) chars = .error error) :
    ∃ lexemes passed c rest, Tiles before chars lexemes (c :: rest) ∧ chars = passed ++ c :: rest ∧
      match? c rest = none ∧ error.span.start = byteLength (before ++ passed) := by
  generalize place : byteLength before = offset at refused
  induction offset, chars using lexFrom.induct generalizing before with
  | case1 offset =>
      rw [lexFrom] at refused
      cases refused
  | case2 offset c rest missed =>
      rw [lexFrom, missed] at refused
      cases refused
      exact ⟨[], [], c, rest, .done, rfl, missed, by rw [List.append_nil, place]⟩
  | case3 offset c rest found matched stop shorter =>
      rename_i ih
      obtain ⟨whole, longest⟩ := exists_longest_of_match? matched
      have refusedMore : lexFrom stop found.rest = .error error := by
        rw [lexFrom, matched] at refused
        cases more : lexFrom stop found.rest with
        | error other =>
            simp only [stop] at more
            simp only [more, bind, Except.bind] at refused
            exact refused
        | ok lexemes =>
            simp only [stop] at more
            simp only [more, bind, Except.bind] at refused
            split at refused
            all_goals cases refused
      obtain ⟨lexemes, passed, d, others, tiles, split, missed, start⟩ :=
        @ih (before ++ found.value.text) (by rw [byteLength_append, place]) refusedMore
      have behind : c :: rest = found.value.text ++ passed ++ d :: others := by
        rw [whole, split, List.append_assoc]
      rw [List.append_assoc] at start
      rw [whole] at behind ⊢
      cases kind : found.value.token with
      | none =>
          rw [kind] at longest
          exact ⟨lexemes, _, d, others, .passed longest tiles, behind, missed, start⟩
      | some token =>
          rw [kind] at longest
          exact ⟨_, _, d, others, .kept longest tiles, behind, missed, start⟩

/-- The lexeme stands behind `front`, and its text is the longest match there. -/
structure StandsAt (source front text after : List Char) (lexeme : Lexeme) : Prop where
  split : source = front ++ (text ++ after)
  span : lexeme.span = ⟨byteLength front, byteLength front + byteLength text⟩
  longest : Longest text (some lexeme.token) (text ++ after)

namespace Tiles

variable {before ahead left : List Char} {lexemes : List Lexeme}

theorem exists_append (tiles : Tiles before ahead lexemes left) :
    ∃ passed, ahead = passed ++ left := by
  induction tiles with
  | done => exact ⟨[], rfl⟩
  | @passed _ text _ _ _ _ _ ih | @kept _ text _ _ _ _ _ _ ih =>
      obtain ⟨passed, rfl⟩ := ih
      exact ⟨text ++ passed, by rw [List.append_assoc]⟩

theorem standsAt (tiles : Tiles before ahead lexemes left) :
    ∀ lexeme ∈ lexemes, ∃ front text after, StandsAt (before ++ ahead) front text after lexeme ∧
      byteLength before ≤ byteLength front ∧ byteLength left ≤ byteLength after := by
  induction tiles with
  | done => exact List.forall_mem_nil _
  | passed longest more ih =>
      intro lexeme listed
      obtain ⟨front, text, after, stands, behind, within⟩ := ih lexeme listed
      rw [List.append_assoc] at stands
      rw [byteLength_append] at behind
      exact ⟨front, text, after, stands, Nat.le_of_add_right_le behind, within⟩
  | @kept before text rest left token lexemes longest more ih =>
      obtain ⟨passed, split⟩ := more.exists_append
      refine List.forall_mem_cons.mpr
        ⟨⟨before, text, rest, ⟨rfl, rfl, longest⟩, Nat.le_refl _, ?_⟩, ?_⟩
      · rw [split, byteLength_append]
        exact Nat.le_add_left _ _
      · intro lexeme listed
        obtain ⟨front, text, after, stands, behind, within⟩ := ih lexeme listed
        rw [List.append_assoc] at stands
        rw [byteLength_append] at behind
        exact ⟨front, text, after, stands, Nat.le_of_add_right_le behind, within⟩

theorem increasing (tiles : Tiles before ahead lexemes left) :
    lexemes.Pairwise fun first second => first.span.stop ≤ second.span.start := by
  induction tiles with
  | done => exact .nil
  | passed longest more ih => exact ih
  | kept longest more ih =>
      refine .cons (fun lexeme listed => ?_) ih
      obtain ⟨front, text, after, stands, behind, -⟩ := more.standsAt lexeme listed
      rw [stands.span]
      rwa [byteLength_append] at behind

end Tiles

/-- The text falls into gaps and plain comments, each of them the longest match where it stands. -/
inductive IsPassedOver : (chars after : List Char) → Prop
  | nil {after : List Char} : IsPassedOver [] after
  | cons {text more after : List Char} (longest : Longest text none (text ++ (more ++ after)))
      (others : IsPassedOver more after) : IsPassedOver (text ++ more) after

/-- The spans in front of, between and behind the lexemes. -/
def gaps (start : Nat) (lexemes : List Lexeme) (stop : Nat) : List Span :=
  match lexemes with
  | [] => [⟨start, stop⟩]
  | lexeme :: more => ⟨start, lexeme.span.start⟩ :: gaps lexeme.span.stop more stop

theorem IsPassedOver.concat {chars text rest : List Char}
    (passed : IsPassedOver chars (text ++ rest)) (longest : Longest text none (text ++ rest)) :
    IsPassedOver (chars ++ text) rest := by
  generalize behind : text ++ rest = after at passed
  induction passed with
  | nil =>
      have last : Longest text none (text ++ ([] ++ rest)) := longest
      simpa using IsPassedOver.cons last .nil
  | @cons first more after begins others ih =>
      rw [← behind, ← List.append_assoc more] at begins
      rw [List.append_assoc]
      exact .cons begins (ih behind)

theorem slice_pending (front pending ahead : List Char) :
    slice ⟨byteLength front, byteLength (front ++ pending)⟩ (front ++ pending ++ ahead) =
      pending := by
  rw [byteLength_append, List.append_assoc, slice_append]

/-- The induction carries what has been passed over since the last lexeme. -/
theorem Tiles.between {before front pending ahead left : List Char} {lexemes : List Lexeme}
    {stop : Nat} (tiles : Tiles before ahead lexemes left) (start : before = front ++ pending)
    (passed : IsPassedOver pending ahead)
    (ends : stop + byteLength left = byteLength (before ++ ahead)) :
    ∀ gap ∈ gaps (byteLength front) lexemes stop,
      IsPassedOver (slice gap (before ++ ahead)) (dropBytes gap.stop (before ++ ahead)) := by
  induction tiles generalizing front pending with
  | @done before left =>
      have size : stop = byteLength before := by
        rw [byteLength_append] at ends
        omega
      rw [gaps, List.forall_mem_singleton, size, start, slice_pending, dropBytes_append]
      exact passed
  | @passed before text rest left lexemes longest more ih =>
      rw [← List.append_assoc] at ends ⊢
      exact ih (by rw [start, List.append_assoc]) (passed.concat longest) ends
  | @kept before text rest left token lexemes longest more ih =>
      rw [gaps, List.forall_mem_cons]
      constructor
      · rw [start, slice_pending, dropBytes_append]
        exact passed
      · rw [← byteLength_append]
        rw [← List.append_assoc] at ends ⊢
        exact ih (List.append_nil _).symm .nil ends

/-- An end of a character, or of the text. -/
def IsCharacterBorder (source : List Char) (place : Nat) : Prop :=
  ∃ before after, source = before ++ after ∧ place = byteLength before

/-- Up to a place of the text its bytes belong to the lexemes, or to gaps and comments between
them. -/
structure Accounts (source : List Char) (lexemes : List Lexeme) (stop : Nat) : Prop where
  nonempty : ∀ lexeme ∈ lexemes, lexeme.span.start < lexeme.span.stop
  increasing : lexemes.Pairwise fun first second => first.span.stop ≤ second.span.start
  within : ∀ lexeme ∈ lexemes, lexeme.span.stop ≤ stop
  borders : ∀ lexeme ∈ lexemes, IsCharacterBorder source lexeme.span.start ∧
    IsCharacterBorder source lexeme.span.stop
  between : ∀ gap ∈ gaps 0 lexemes stop,
    IsPassedOver (slice gap source) (dropBytes gap.stop source)
  longest : ∀ lexeme ∈ lexemes, Longest (slice lexeme.span source) (some lexeme.token)
    (dropBytes lexeme.span.start source)
  again : ∀ lexeme ∈ lexemes, tokenize (String.ofList (slice lexeme.span source)) =
    .ok [⟨lexeme.token, ⟨0, lexeme.span.width⟩⟩]

theorem tokenize_of_fits {text : List Char} {token : Token} (fits : Fits text (some token)) :
    tokenize (String.ofList text) = .ok [⟨token, ⟨0, byteLength text⟩⟩] := by
  obtain ⟨c, behind, found, start, matched, kept, left⟩ := match?_of_matches fits.matches
  obtain ⟨whole, -⟩ := exists_longest_of_match? matched
  rw [left, List.append_nil] at whole
  rw [List.append_nil] at start
  have nothing : ∀ offset, lexFrom offset [] = .ok [] := fun offset => by rw [lexFrom]
  rw [tokenize, String.toList_ofList, start, lexFrom, matched]
  simp only [left, nothing, kept, bind, Except.bind, pure, Except.pure, Nat.zero_add, whole]

namespace StandsAt

variable {source front text after : List Char} {lexeme : Lexeme}

theorem slice_eq (stands : StandsAt source front text after lexeme) :
    slice lexeme.span source = text := by
  rw [stands.span, stands.split, slice_append]

theorem dropBytes_eq (stands : StandsAt source front text after lexeme) :
    dropBytes lexeme.span.start source = text ++ after := by
  rw [stands.span, stands.split, dropBytes_append]

theorem width_eq (stands : StandsAt source front text after lexeme) :
    lexeme.span.width = byteLength text := by
  rw [stands.span, Span.width, Nat.add_sub_cancel_left]

end StandsAt

theorem Tiles.accounts {source passed left : List Char} {lexemes : List Lexeme}
    (tiles : Tiles [] source lexemes left) (split : source = passed ++ left) :
    Accounts source lexemes (byteLength passed) where
  nonempty lexeme listed := by
    obtain ⟨front, text, after, stands, -⟩ := tiles.standsAt lexeme listed
    rw [stands.span]
    exact Nat.lt_add_of_pos_right (byteLength_pos stands.longest.nonempty)
  increasing := tiles.increasing
  within lexeme listed := by
    obtain ⟨front, text, after, stands, -, behind⟩ := tiles.standsAt lexeme listed
    have size := congrArg byteLength (split.symm.trans stands.split)
    simp only [byteLength_append] at size
    rw [stands.span]
    dsimp only
    omega
  borders lexeme listed := by
    obtain ⟨front, text, after, stands, -⟩ := tiles.standsAt lexeme listed
    rw [stands.span]
    refine ⟨⟨front, text ++ after, stands.split, rfl⟩, front ++ text, after, ?_, ?_⟩
    · rw [List.append_assoc]
      exact stands.split
    · rw [byteLength_append]
  between := by
    have ends : byteLength passed + byteLength left = byteLength ([] ++ source) := by
      rw [split, List.nil_append, byteLength_append]
    exact @Tiles.between [] [] [] _ _ _ _ tiles rfl .nil ends
  longest lexeme listed := by
    obtain ⟨front, text, after, stands, -⟩ := tiles.standsAt lexeme listed
    have here : StandsAt source front text after lexeme := stands
    rw [here.slice_eq, here.dropBytes_eq]
    exact stands.longest
  again lexeme listed := by
    obtain ⟨front, text, after, stands, -⟩ := tiles.standsAt lexeme listed
    have here : StandsAt source front text after lexeme := stands
    rw [here.slice_eq, here.width_eq]
    exact tokenize_of_fits stands.longest.fits

theorem accounts_of_tokenize {source : String} {lexemes : List Lexeme}
    (lexed : tokenize source = .ok lexemes) :
    Accounts source.toList lexemes (byteLength source.toList) := by
  have tiles : Tiles [] source.toList lexemes [] := tiles_of_lexFrom_ok lexed
  exact tiles.accounts (List.append_nil _).symm

/-- All of the text is accounted for, or all in front of a place where it goes on and nothing
matches. -/
def AccountsFor (source : List Char) : Except ParseError (List Lexeme) → Prop
  | .ok lexemes => Accounts source lexemes (byteLength source)
  | .error error =>
    IsCharacterBorder source error.span.start ∧ dropBytes error.span.start source ≠ [] ∧
      (∃ lexemes, Accounts source lexemes error.span.start) ∧
      ∀ text token, Fits text token → ¬ text <+: dropBytes error.span.start source

theorem accountsFor_tokenize (source : String) : AccountsFor source.toList (tokenize source) := by
  cases lexed : tokenize source with
  | ok lexemes => exact accounts_of_tokenize lexed
  | error error =>
      obtain ⟨lexemes, passed, c, rest, tiles, split, missed, start⟩ :=
        @tiles_of_lexFrom_error [] _ _ lexed
      have behind : dropBytes error.span.start source.toList = c :: rest := by
        rw [start, split]
        exact dropBytes_append passed (c :: rest)
      refine ⟨⟨passed, c :: rest, split, start⟩, ?_, ⟨lexemes, start ▸ tiles.accounts split⟩, ?_⟩
      · rw [behind]
        exact List.cons_ne_nil _ _
      · intro text token fits
        rw [behind]
        exact not_begins_of_match?_eq_none missed fits

end Modelwright.Source
