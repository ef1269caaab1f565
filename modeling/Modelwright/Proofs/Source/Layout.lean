import Modelwright.Proofs.Source.Agreement
import Modelwright.Proofs.Source.Borders

namespace Modelwright.Source

open Modelwright.Text

/-! Layout does not count: neither white space at the borders of tokens nor the kind of line breaks
changes what is read. -/

/-- The text with a carriage return in front of every newline. -/
def withReturns (chars : List Char) : List Char :=
  chars.flatMap fun c => if c = '\n' then ['\r', '\n'] else [c]

@[simp] theorem withReturns_newline (rest : List Char) :
    withReturns ('\n' :: rest) = '\r' :: '\n' :: withReturns rest := rfl

theorem withReturns_cons {c : Char} (solid : c ≠ '\n') (rest : List Char) :
    withReturns (c :: rest) = c :: withReturns rest := by
  simp [withReturns, solid]

theorem withReturns_append {text : List Char} (line : '\n' ∉ text) (rest : List Char) :
    withReturns (text ++ rest) = text ++ withReturns rest := by
  induction text with
  | nil => rfl
  | cons c more ih =>
      obtain ⟨solid, others⟩ := not_or.mp (mt List.mem_cons.mpr line)
      rw [List.cons_append, withReturns_cons (Ne.symm solid), ih others, List.cons_append]

theorem dropWhile_isGap_withReturns (chars : List Char) :
    (withReturns chars).dropWhile isGap = withReturns (chars.dropWhile isGap) := by
  induction chars with
  | nil => rfl
  | cons c rest ih =>
      by_cases newline : c = '\n'
      · rw [newline]
        exact ih
      · rw [withReturns_cons newline]
        cases gap : isGap c with
        | true => rw [List.dropWhile_cons_of_pos gap, List.dropWhile_cons_of_pos gap, ih]
        | false =>
            rw [List.dropWhile_cons_of_neg (by simp [gap]),
              List.dropWhile_cons_of_neg (by simp [gap]), withReturns_cons newline]

theorem starts_withReturns {chars others : List Char} {c : Char}
    (start : withReturns chars = c :: others) :
    (∃ rest, chars = c :: rest ∧ c ≠ '\n' ∧ others = withReturns rest) ∨
      c = '\r' ∧ others.head? = some '\n' := by
  cases chars with
  | nil => cases start
  | cons d rest =>
      by_cases newline : d = '\n'
      · rw [newline, withReturns_newline] at start
        obtain ⟨rfl, rfl⟩ := List.cons.inj start
        exact .inr ⟨rfl, rfl⟩
      · rw [withReturns_cons newline] at start
        obtain ⟨rfl, rfl⟩ := List.cons.inj start
        exact .inl ⟨rest, rfl, newline, rfl⟩

theorem mayFollow_withReturns (rest : List Char) : MayFollow rest (withReturns rest) := by
  cases rest with
  | nil => exact ⟨fun c first => .inr first, fun none => none, fun _ c listed => by cases listed⟩
  | cons c more =>
      by_cases newline : c = '\n'
      · rw [newline, withReturns_newline]
        refine ⟨?_, fun _ => rfl, ?_⟩
        · rintro d first
          obtain rfl : '\r' = d := by simpa using first
          exact .inl rfl
        · intro _ d listed
          obtain rfl : d = '\r' := by simpa [List.takeWhile, isInLine] using listed
          rfl
      · rw [withReturns_cons newline]
        refine ⟨fun d first => .inr first, ?_, ?_⟩
        · rw [fractionPart_eq_nil_iff, fractionPart_eq_nil_iff]
          rintro none d others same
          obtain ⟨rfl, behind⟩ := List.cons.inj same
          rcases starts_withReturns behind with ⟨rest, rfl, -, -⟩ | ⟨rfl, -⟩
          · exact none d rest rfl
          · rfl
        · intro stops d listed
          simp [stops c rfl] at listed

theorem Matches.newline_not_mem {text rest : List Char} {token : Option Token}
    (matching : Matches text token rest) (solid : ∀ c, text.head? = some c → isGap c = false) :
    '\n' ∉ text := by
  intro newline
  cases matching with
  | @gap c run _ gap all stops =>
      rw [solid c rfl] at gap
      cases gap
  | @identifier c run _ start all stops =>
      rcases List.mem_cons.mp newline with rfl | newline
      · cases start
      · cases all _ newline
  | @number sign digits fraction _ signed nonempty all stops read =>
      have parts := fractionPart_cases (fraction ++ rest)
      rw [read] at parts
      rcases List.mem_append.mp newline with newline | newline
      · rcases List.mem_append.mp newline with newline | newline
        · rcases signed with rfl | rfl
          all_goals simp at newline
        · cases all _ newline
      · rcases parts with none | ⟨decimals, begins, more, others⟩
        · dsimp only at none
          simp [none] at newline
        · dsimp only at begins
          rw [begins, List.mem_cons] at newline
          rcases newline with newline | newline
          · cases newline
          · cases others _ newline
  | @doc line _ all stops =>
      have newline : '\n' ∈ line := by simpa using newline
      cases all _ newline
  | @comment line _ plain all stops =>
      have newline : '\n' ∈ line := by simpa using newline
      cases all _ newline
  | @text items _ body =>
      have newline : '\n' ∈ items := by simpa using newline
      exact body.newline_not_mem newline
  | doubleAtSign => simp at newline
  | atSign single => simp at newline
  | punctuation stands single =>
      rw [List.mem_singleton] at newline
      rw [← newline] at stands
      cases stands

theorem IsStringBody.head?_ne {items : List Char} (body : IsStringBody items) (rest : List Char) :
    (items ++ '"' :: rest).head? ≠ some '\n' := by
  cases body with
  | done => simp
  | escaped line more => simp
  | plain quote line whole more => simpa using line

theorem IsStringBody.of_withReturns {items chars others : List Char} (body : IsStringBody items)
    (closed : withReturns chars = items ++ '"' :: others) :
    ∃ rest, chars = items ++ '"' :: rest := by
  induction body generalizing chars with
  | done =>
      rcases starts_withReturns closed with ⟨rest, rfl, -, -⟩ | ⟨other, -⟩
      · exact ⟨rest, rfl⟩
      · cases other
  | escaped line more ih =>
      rcases starts_withReturns closed with ⟨behind, rfl, -, closed⟩ | ⟨other, -⟩
      · rcases starts_withReturns closed.symm with ⟨inside, rfl, -, closed⟩ | ⟨-, broken⟩
        · obtain ⟨rest, rfl⟩ := ih closed.symm
          exact ⟨rest, rfl⟩
        · exact absurd broken (more.head?_ne _)
      · cases other
  | plain quote line whole more ih =>
      rcases starts_withReturns closed with ⟨inside, rfl, -, closed⟩ | ⟨-, broken⟩
      · obtain ⟨rest, rfl⟩ := ih closed.symm
        exact ⟨rest, rfl⟩
      · exact absurd broken (more.head?_ne _)

theorem match?_slashes_ne_none (rest : List Char) : match? '/' ('/' :: rest) ≠ none := by
  by_cases plain : rest.head? = some '/'
  · obtain ⟨line, rfl⟩ := List.head?_eq_some_iff.mp plain
    exact Option.some_ne_none _
  · rw [match?_comment plain]
    exact Option.some_ne_none _

theorem match?_atSign_ne_none (rest : List Char) : match? '@' rest ≠ none := by
  by_cases single : rest.head? = some '@'
  · obtain ⟨behind, rfl⟩ := List.head?_eq_some_iff.mp single
    exact Option.some_ne_none _
  · rw [match?_atSign single]
    exact Option.some_ne_none _

theorem Matches.ne_none_of_withReturns {c : Char} {run left rest : List Char} {token : Option Token}
    (matching : Matches (c :: run) token left) (whole : withReturns rest = run ++ left) :
    match? c rest ≠ none := by
  generalize start : c :: run = text at matching
  cases matching with
  | gap gap all stops =>
      cases start
      exact match?_of_isGap gap _ ▸ Option.some_ne_none _
  | identifier first all stops =>
      cases start
      exact match?_of_start first _ ▸ Option.some_ne_none _
  | @number sign digits fraction _ signed nonempty all stops read =>
      cases digits with
      | nil => exact absurd rfl nonempty
      | cons d others =>
          have digit := all d List.mem_cons_self
          rcases signed with rfl | rfl
          · cases start
            exact match?_of_isDigit digit _ ▸ Option.some_ne_none _
          · cases start
            rcases starts_withReturns whole with ⟨behind, rfl, -, -⟩ | ⟨rfl, -⟩
            · exact match?_minus digit _ ▸ Option.some_ne_none _
            · cases digit
  | doc all stops =>
      cases start
      rcases starts_withReturns whole with ⟨behind, rfl, -, -⟩ | ⟨other, -⟩
      · exact match?_slashes_ne_none _
      · cases other
  | comment plain all stops =>
      cases start
      rcases starts_withReturns whole with ⟨behind, rfl, -, -⟩ | ⟨other, -⟩
      · exact match?_slashes_ne_none _
      · cases other
  | @text items _ body =>
      cases start
      have closed : withReturns rest = items ++ '"' :: left := by simpa using whole
      obtain ⟨behind, rfl⟩ := body.of_withReturns closed
      obtain ⟨_, matched⟩ := match?_quote (body.stringItems_eq behind)
      exact matched ▸ Option.some_ne_none _
  | doubleAtSign =>
      cases start
      exact match?_atSign_ne_none _
  | atSign single =>
      cases start
      exact match?_atSign_ne_none _
  | punctuation stands single =>
      cases start
      exact match?_of_punctuation stands single _ ▸ Option.some_ne_none _

theorem match?_withReturns_eq_none {c : Char} {rest : List Char}
    (missed : match? c rest = none) : match? c (withReturns rest) = none := by
  by_contra met
  obtain ⟨found, matched⟩ := Option.ne_none_iff_exists'.mp met
  obtain ⟨run, -, whole, matching⟩ := matches_of_match? matched
  exact matching.ne_none_of_withReturns whole missed

theorem lexesTo_withReturns_iff {chars : List Char} {tokens : List Token} :
    LexesTo (withReturns chars) tokens ↔ LexesTo chars tokens := by
  match chars with
  | [] => rfl
  | c :: rest =>
      cases gap : isGap c with
      | true =>
          have shorter := length_dropWhile_le isGap rest
          rw [← lexesTo_dropWhile_isGap_iff, dropWhile_isGap_withReturns,
            List.dropWhile_cons_of_pos gap, lexesTo_withReturns_iff,
            ← @lexesTo_dropWhile_isGap_iff (c :: rest), List.dropWhile_cons_of_pos gap]
      | false =>
          have newline : c ≠ '\n' := by
            rintro rfl
            cases gap
          cases matched : match? c rest with
          | none =>
              rw [withReturns_cons newline]
              have missed := match?_withReturns_eq_none matched
              constructor
              · rintro (_ | ⟨found, _, _⟩ | ⟨found, _, _⟩)
                all_goals
                  rw [missed] at found
                  cases found
              · rintro (_ | ⟨found, _, _⟩ | ⟨found, _, _⟩)
                all_goals
                  rw [matched] at found
                  cases found
          | some found =>
              obtain ⟨run, -, whole, matching⟩ := matches_of_match? matched
              have shorter := found.shorter
              have line : '\n' ∉ c :: run := by
                refine matching.newline_not_mem fun d first => ?_
                obtain rfl : c = d := by simpa using first
                exact gap
              rw [whole, ← List.cons_append, withReturns_append line, matching.lexesTo_iff,
                matching.lexesTo_relaid_iff (mayFollow_withReturns _)]
              have behind : ∀ more,
                  LexesTo (withReturns found.rest) more ↔ LexesTo found.rest more :=
                fun more => lexesTo_withReturns_iff
              simp only [behind]
termination_by chars.length

/-- The tokens of a text with what they hold, if it has any. -/
def tokens? (source : String) : Option (List Token) :=
  (tokenize source).toOption.map (·.map (·.token))

theorem tokens?_eq_some_iff {source : String} {tokens : List Token} :
    tokens? source = some tokens ↔ LexesTo source.toList tokens := by
  rw [tokens?, tokenize, Option.map_eq_some_iff]
  constructor
  · rintro ⟨lexemes, lexed, rfl⟩
    cases read : lexFrom 0 source.toList with
    | error error => simp [read, Except.toOption] at lexed
    | ok found =>
        obtain rfl : found = lexemes := by simpa [read, Except.toOption] using lexed
        exact lexesTo_of_lexFrom read
  · intro lexes
    obtain ⟨lexemes, lexed, same⟩ := lexFrom_of_lexesTo lexes 0
    exact ⟨lexemes, by rw [lexed]; rfl, same⟩

/-- The document that is read off a text without its spans, or what is wrong with the text. -/
def unplaced (source : String) : Except Fault Document :=
  ((parse source).map Document.withoutSpans).mapError ParseError.fault

theorem unplaced_eq_of_alike {source other : String} {first second : List Lexeme}
    (lexed : tokenize source = .ok first) (relexed : tokenize other = .ok second)
    (alike : Alike first second) : unplaced source = unplaced other := by
  cases read : parseDocument first with
  | ok d =>
      obtain ⟨found, again, same⟩ := (parseDocument_eq_ok_iff.mp read).moved alike
      have reread : parseDocument second = .ok ⟨found⟩ := parseDocument_eq_ok_iff.mpr again
      have documents : d.withoutSpans = Document.withoutSpans ⟨found⟩ := by
        rw [Document.withoutSpans, Document.withoutSpans, same]
      simp [unplaced, parse, lexed, relexed, read, reread, bind, Except.bind, pure, Except.pure,
        Except.map, Except.mapError, documents]
  | error mismatch =>
      obtain ⟨other, reread, wanted, found⟩ := refusedAlike_parseDocument alike _ read
      simp [unplaced, parse, lexed, relexed, read, reread, bind, Except.bind, throw, throwThe,
        MonadExceptOf.throw, Except.map, Except.mapError, Mismatch.error, wanted, found]

theorem unplaced_eq_of_tokens?_eq {source other : String} {tokens : List Token}
    (read : tokens? source = some tokens) (reread : tokens? other = some tokens) :
    unplaced source = unplaced other := by
  obtain ⟨first, lexed, same⟩ := lexFrom_of_lexesTo (tokens?_eq_some_iff.mp read) 0
  obtain ⟨second, relexed, again⟩ := lexFrom_of_lexesTo (tokens?_eq_some_iff.mp reread) 0
  exact unplaced_eq_of_alike lexed relexed (same.trans again.symm)

/-- White space at the ends of tokens changes neither the tokens nor the document or the message
that follows from them, and carriage returns in front of newlines change no tokens. -/
theorem tokens_kept_by_layout (source : String) :
    (∀ lexemes before gap after, tokenize source = .ok lexemes → source.toList = before ++ after →
      IsBoundary 0 (byteLength source.toList) lexemes (byteLength before) →
      (∀ c ∈ gap, isGap c = true) →
        tokens? (String.ofList (before ++ (gap ++ after))) = some (lexemes.map (·.token)) ∧
        unplaced (String.ofList (before ++ (gap ++ after))) = unplaced source) ∧
    tokens? (String.ofList (withReturns source.toList)) = tokens? source := by
  constructor
  · intro lexemes before gap after lexed split bounds blank
    have border : Border before after := by
      refine border_of_isBoundary lexed split ?_
      simpa using bounds
    have lexes := lexesTo_of_lexFrom lexed
    have moved : tokens? (String.ofList (before ++ (gap ++ after))) =
        some (lexemes.map (·.token)) := by
      rw [tokens?_eq_some_iff, String.toList_ofList, border.lexesTo_insert_iff blank, ← split]
      exact lexes
    exact ⟨moved, unplaced_eq_of_tokens?_eq moved (tokens?_eq_some_iff.mpr lexes)⟩
  · refine Option.ext fun tokens => ?_
    rw [tokens?_eq_some_iff, tokens?_eq_some_iff, String.toList_ofList, lexesTo_withReturns_iff]

/-- A line break goes into the line of a doc comment, where the comment ends. -/
def noteSource : String :=
  "/// a" ++ "\nmodel M \x7bs T @b//c\n\x7d"

def noteLexemes : List Lexeme :=
  [⟨.doc "a", ⟨0, 5⟩⟩, ⟨.identifier "model", ⟨6, 11⟩⟩, ⟨.identifier "M", ⟨12, 13⟩⟩,
    ⟨.leftBrace, ⟨14, 15⟩⟩, ⟨.identifier "s", ⟨15, 16⟩⟩, ⟨.identifier "T", ⟨17, 18⟩⟩,
    ⟨.atSign, ⟨19, 20⟩⟩, ⟨.identifier "b", ⟨20, 21⟩⟩, ⟨.rightBrace, ⟨25, 26⟩⟩]

theorem tokens_kept_by_layout_note :
    tokenize noteSource = .ok noteLexemes ∧
    IsBoundary 0 (byteLength noteSource.toList) noteLexemes (byteLength "/// a".toList) ∧
    tokens? "/// a \t\r\n\nmodel M \x7bs T @b//c\n\x7d" = some (noteLexemes.map (·.token)) ∧
    unplaced "/// a \t\r\n\nmodel M \x7bs T @b//c\n\x7d" = unplaced noteSource ∧
    tokens? "/// a\r\nmodel M \x7bs T @b//c\r\n\x7d" = tokens? noteSource := by
  have lexed : tokenize noteSource = .ok noteLexemes := by cbv
  have bounds : IsBoundary 0 (byteLength noteSource.toList) noteLexemes
      (byteLength "/// a".toList) :=
    .inr (.inr ⟨⟨.doc "a", ⟨0, 5⟩⟩, List.mem_cons_self, .inr rfl⟩)
  obtain ⟨inserted, returned⟩ := tokens_kept_by_layout noteSource
  obtain ⟨moved, same⟩ := inserted noteLexemes "/// a".toList [' ', '\t', '\r', '\n']
    "\nmodel M \x7bs T @b//c\n\x7d".toList lexed String.toList_append bounds (by simp [isGap])
  exact ⟨lexed, bounds, moved, same, by simpa [noteSource, withReturns] using returned⟩

end Modelwright.Source
