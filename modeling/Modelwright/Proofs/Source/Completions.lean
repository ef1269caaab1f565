import Modelwright.Proofs.Source.Agreement
import Modelwright.Proofs.Source.Viability

namespace Modelwright.Source

section Single

variable {tokens : List Lexeme}

theorem reader_expectToken_cons (token : Token) (span : Span) (rest : List Lexeme) :
    reader (expectToken token) (⟨token, span⟩ :: rest) = .ok (span, rest) :=
  result_eq_ok_iff.mpr (reads_expectToken_iff.mpr rfl)

theorem reader_expectName_cons (wanted : Expectation) (name : String) (span : Span)
    (rest : List Lexeme) :
    reader (expectName wanted) (⟨.identifier name, span⟩ :: rest) = .ok (⟨name, span⟩, rest) :=
  result_eq_ok_iff.mpr (reads_name wanted name span rest)

theorem tracks_expectToken {token : Token} (plain : ¬ Extends token) :
    Tracks (reader (expectToken token)) tokens := by
  refine .step rfl (fun lexeme rest _ => ?_)
    (completes_of_cons ⟨token, default⟩ plain (reader_expectToken_cons token default))
  obtain ⟨found, span⟩ := lexeme
  by_cases same : found = token
  · subst same
    exact .inl ⟨pure span, .pure _, reader_expectToken_cons found span⟩
  · exact .inr ⟨.token token, fun other => by simp [reader, expectToken, same]⟩

theorem tracks_expectName {wanted : Expectation} : Tracks (reader (expectName wanted)) tokens := by
  refine .step rfl (fun lexeme rest _ => ?_)
    (completes_of_cons ⟨.identifier "x", default⟩ (by decide)
      (reader_expectName_cons wanted "x" default))
  obtain ⟨found, span⟩ := lexeme
  cases found with
  | identifier name =>
      exact .inl ⟨pure ⟨name, span⟩, .pure _, reader_expectName_cons wanted name span⟩
  | _ => exact .inr ⟨wanted, fun other => rfl⟩

theorem tracks_expectText : Tracks (reader expectText) tokens := by
  refine .step rfl (fun lexeme rest _ => ?_)
    (completes_of_cons ⟨.text "", default⟩ (by decide) fun _ => rfl)
  obtain ⟨found, span⟩ := lexeme
  cases found with
  | text value => exact .inl ⟨pure value, .pure _, fun _ => rfl⟩
  | _ => exact .inr ⟨.text, fun other => rfl⟩

end Single

theorem shorter_of_reader {α : Type} {p : (tokens : List Lexeme) → Parsed α tokens.length}
    {tokens rest : List Lexeme} {value : α} (read : reader p tokens = .ok (value, rest)) :
    rest.length < tokens.length := by
  obtain ⟨shorter, -⟩ := result_eq_ok_iff.mp read
  exact shorter

/-- What follows a reader that takes something is needed for shorter lists of lexemes only. -/
theorem Tracks.bind_shorter {α β : Type} {p : (tokens : List Lexeme) → Parsed α tokens.length}
    {q : α → Reader β} {bound : Nat} (tracks : ∀ tokens, Tracks (reader p) tokens)
    (more : ∀ value tokens, tokens.length < bound → Tracks (q value) tokens) {tokens : List Lexeme}
    (within : tokens.length ≤ bound) (inside : 0 < bound) : Tracks (reader p >>= q) tokens :=
  (tracks tokens).bind
    (fun value rest read => more value rest (Nat.lt_of_lt_of_le (shorter_of_reader read) within))
    fun value => more value [] inside

theorem exists_of_bind_eq_ok {α β : Type} {p : Reader α} {q : α → Reader β}
    {tokens rest : List Lexeme} {value : β} (read : (p >>= q) tokens = .ok (value, rest)) :
    ∃ first between, p tokens = .ok (first, between) ∧ q first between = .ok (value, rest) := by
  cases first : p tokens with
  | error mismatch =>
      rw [Tracks.bind_eq_error first] at read
      cases read
  | ok found =>
      rw [Tracks.bind_eq_ok first] at read
      exact ⟨found.1, found.2, rfl, read⟩

theorem tracks_moreOrClose {α : Type} {closing : Token} {others : Reader α} {more : α → α}
    {last : Span → α} {tokens : List Lexeme} (plain : ¬ Extends closing) (single : closing ≠ .comma)
    (tracks : ∀ after, after.length < tokens.length → Tracks others after) :
    Tracks (moreOrClose closing others more last) tokens := by
  by_cases comma : nextToken tokens = some .comma
  · obtain ⟨span, after, rfl⟩ := exists_of_nextToken comma
    exact (tracks after (Nat.lt_succ_self _)).map.cons fun other => rfl
  · refine (tracks_expectToken plain).map.of_agree (· ≠ some .comma) comma
      (fun other => moreOrClose_of_ne) fun read => ?_
    obtain ⟨span, between, closed, -⟩ := exists_of_bind_eq_ok read
    rw [reads_expectToken_iff.mp (result_eq_ok_iff.mp closed)]
    exact fun same => single (Option.some.inj same)

theorem completes_expr : Completes (reader expr) [] :=
  completes_of_cons ⟨.text "", default⟩ (by decide) fun _ => by
    rw [reader, expr]
    rfl

theorem reader_expr_of_startsNamed {tokens : List Lexeme} (named : StartsNamed tokens) :
    ∃ value rest, reader expr tokens = .ok (value, rest) ∧ nextToken rest = some .colon := by
  obtain ⟨name, first, second⟩ := named
  obtain ⟨span, rest, rfl⟩ := exists_of_nextToken first
  rw [List.tail_cons] at second
  have ends : nextToken rest ≠ some .leftParen := by
    rw [second]
    decide
  by_cases yes : name = "true"
  · exact ⟨_, rest, result_eq_ok_iff.mpr (yes ▸ reads_expr .yes), second⟩
  by_cases no : name = "false"
  · exact ⟨_, rest, result_eq_ok_iff.mpr (no ▸ reads_expr .no), second⟩
  · exact ⟨_, rest, reader_expr_constant ⟨yes, no⟩ ends, second⟩

theorem StartsNamed.of_append {taken rest other : List Lexeme}
    (named : StartsNamed (taken ++ other)) (noFurther : NoFurther rest other)
    (nonempty : taken ≠ []) : StartsNamed (taken ++ rest) := by
  obtain ⟨name, first, second⟩ := named
  match taken with
  | [] => exact absurd rfl nonempty
  | [lexeme] => exact ⟨name, first, noFurther .colon (by decide) second⟩
  | lexeme :: next :: more => exact ⟨name, first, second⟩

/-- An argument without a name is a value.  That it has no name is seen from the second lexeme, so
what follows the value counts as well. -/
theorem tracks_positional {tokens : List Lexeme} (unnamed : ¬ StartsNamed tokens)
    (tracks : Tracks (reader expr) tokens) : Tracks (reader argument) tokens := by
  have positional : Tracks (do return Argument.mk none (← reader expr)) tokens := tracks.map
  refine ⟨fun {value rest} read => ?_, fun {mismatch} read => ?_⟩
  · rw [reader_argument unnamed] at read
    obtain ⟨found, between, first, same⟩ := exists_of_bind_eq_ok read
    cases same
    obtain ⟨taken, split, again⟩ := positional.taken read
    have nonempty : taken ≠ [] := by
      rintro rfl
      exact absurd (shorter_of_reader first) (by simp [split])
    refine ⟨taken, split, fun other noFurther => ?_⟩
    rw [reader_argument, again other noFurther]
    exact fun named => unnamed (split ▸ named.of_append noFurther nonempty)
  · rw [reader_argument unnamed] at read
    obtain ⟨before, after, rfl, found, again, completion, value, completes⟩ :=
      positional.refused read
    refine ⟨before, after, rfl, found, fun other head => ?_,
      completion, value, fun rest closes => ?_⟩
    · have refused := again other head
      rw [reader_argument, refused]
      intro named
      obtain ⟨value, rest, taken, -⟩ := reader_expr_of_startsNamed named
      rw [Tracks.bind_eq_ok taken] at refused
      cases refused
    · obtain ⟨closesMore, read⟩ := completes rest closes
      rw [reader_argument, read]
      · exact ⟨closesMore, rfl⟩
      intro named
      obtain ⟨value, left, taken, colon⟩ := reader_expr_of_startsNamed named
      rw [Tracks.bind_eq_ok taken] at read
      cases read
      exact nomatch closes .colon (by decide) colon

mutual

theorem tracks_expr (tokens : List Lexeme) : Tracks (reader expr) tokens := by
  have ends : reader expr [] = .error ⟨.value, none⟩ := by
    rw [reader, expr]
    rfl
  refine .step ends (fun lexeme rest split => ?_) completes_expr
  obtain ⟨token, span⟩ := lexeme
  have inside : rest.length < tokens.length := by simp [split]
  cases token with
  | text value => exact .inl ⟨pure (.text value), .pure _, fun _ => by rw [reader, expr]; rfl⟩
  | number digits => exact .inl ⟨pure (.number digits), .pure _, fun _ => by rw [reader, expr]; rfl⟩
  | identifier name =>
      refine .inl ⟨fun other => reader expr (⟨.identifier name, span⟩ :: other), ?_, fun _ => rfl⟩
      by_cases yes : name = "true"
      · exact .absent fun other _ => result_eq_ok_iff.mpr (yes ▸ reads_expr .yes)
      by_cases no : name = "false"
      · exact .absent fun other _ => result_eq_ok_iff.mpr (no ▸ reads_expr .no)
      by_cases opens : nextToken rest = some .leftParen
      · obtain ⟨opening, more, rfl⟩ := exists_of_nextToken opens
        have behind : more.length < tokens.length := Nat.lt_of_succ_lt inside
        exact (tracks_arguments more).map.cons fun other => reader_expr_call ⟨yes, no⟩ opening
      · exact .absent fun other noFurther =>
          reader_expr_constant ⟨yes, no⟩ (noFurther.ne (by decide) opens)
  | leftBracket => exact .inl ⟨_, (tracks_items rest).map, fun _ => reader_expr_array⟩
  | _ => exact .inr ⟨.value, fun _ => by simp [reader, expr]⟩
termination_by (tokens.length, 0)

theorem tracks_items (tokens : List Lexeme) : Tracks (reader items) tokens := by
  by_cases closes : nextToken tokens = some .rightBracket
  · obtain ⟨span, rest, rfl⟩ := exists_of_nextToken closes
    exact (Tracks.pure []).cons fun _ => by rw [reader, items]; rfl
  refine Tracks.of_agree (· ≠ some .rightBracket) ?_ closes (fun _ => reader_items) fun read => ?_
  · refine (tracks_expr tokens).bind (fun first rest read => ?_) fun first => ?_
    · have shorter := shorter_of_reader read
      exact tracks_moreOrClose (by decide) (by decide) fun after behind => tracks_items after
    · exact tracks_moreOrClose (by decide) (by decide) fun after behind => nomatch behind
  · obtain ⟨first, between, read, -⟩ := exists_of_bind_eq_ok read
    have derived := readsExpr_of_reads (result_eq_ok_iff.mp read)
    exact nextToken_ne_iff.mpr fun _ _ start => not_readsExpr_rightBracket start derived
termination_by (tokens.length, 1)

theorem tracks_argument (tokens : List Lexeme) : Tracks (reader argument) tokens := by
  by_cases named : StartsNamed tokens
  · obtain ⟨name, first, second⟩ := named
    obtain ⟨span, rest, rfl⟩ := exists_of_nextToken first
    obtain ⟨colon, inside, rfl⟩ := exists_of_nextToken second
    exact (tracks_expr inside).map.behind [⟨.identifier name, span⟩, ⟨.colon, colon⟩] fun _ =>
      reader_argument_named
  · exact tracks_positional named (tracks_expr tokens)
termination_by (tokens.length, 1)

theorem tracks_arguments (tokens : List Lexeme) : Tracks (reader arguments) tokens := by
  by_cases closes : nextToken tokens = some .rightParen
  · obtain ⟨span, rest, rfl⟩ := exists_of_nextToken closes
    exact (Tracks.pure ([], span.stop)).cons fun _ => by rw [reader, arguments]; rfl
  refine Tracks.of_agree (· ≠ some .rightParen) ?_ closes (fun _ => reader_arguments) fun read => ?_
  · refine (tracks_argument tokens).bind (fun first rest read => ?_) fun first => ?_
    · have shorter := shorter_of_reader read
      exact tracks_moreOrClose (by decide) (by decide) fun after behind => tracks_arguments after
    · exact tracks_moreOrClose (by decide) (by decide) fun after behind => nomatch behind
  · obtain ⟨first, between, read, -⟩ := exists_of_bind_eq_ok read
    have derived := readsArgument_of_reads (result_eq_ok_iff.mp read)
    exact nextToken_ne_iff.mpr fun _ _ start => not_readsArgument_rightParen start derived
termination_by (tokens.length, 2)

end

theorem tracks_dotted (name : Name) (tokens : List Lexeme) :
    Tracks (reader (dotted name)) tokens := by
  by_cases dot : nextToken tokens = some .dot
  · obtain ⟨span, rest, split⟩ := exists_of_nextToken dot
    have inside : rest.length < tokens.length := by simp [split]
    rw [split]
    refine Tracks.cons ?_ fun _ => reader_dotted_part name
    exact .bind_shorter (fun _ => tracks_expectName) (fun part left shorter => tracks_dotted _ left)
      (Nat.le_of_lt inside) (Nat.zero_lt_of_lt inside)
  · exact .absent fun other noFurther =>
      result_eq_ok_iff.mpr (reads_dotted_iff.mpr (.stop (noFurther.ne (by decide) dot)))
termination_by tokens.length

theorem tracks_optionalArguments (stop : Nat) (tokens : List Lexeme) :
    Tracks (reader (optionalArguments stop)) tokens := by
  by_cases opens : nextToken tokens = some .leftParen
  · obtain ⟨span, rest, rfl⟩ := exists_of_nextToken opens
    exact (tracks_arguments rest).cons fun _ => reader_optionalArguments_present stop
  · exact .absent fun other noFurther => result_eq_ok_iff.mpr
      (reads_optionalArguments_iff.mpr (.absent (noFurther.ne (by decide) opens)))

theorem tracks_markAfter (sign : Span) (tokens : List Lexeme) :
    Tracks (reader (markAfter sign)) tokens := by
  rw [reader_markAfter]
  exact .chain (fun _ => tracks_expectName) (fun first => .chain (tracks_dotted first)
    fun name => .chain (tracks_optionalArguments _) fun _ _ => .pure _) tokens

theorem tracks_attributes (tokens : List Lexeme) : Tracks (reader attributes) tokens := by
  by_cases signed : nextToken tokens = some .atSign
  · obtain ⟨sign, rest, split⟩ := exists_of_nextToken signed
    have inside : rest.length < tokens.length := by simp [split]
    rw [split]
    refine Tracks.cons ?_ fun _ => reader_attributes_more
    exact .bind_shorter (tracks_markAfter sign) (fun first left shorter =>
      (tracks_attributes left).map) (Nat.le_of_lt inside) (Nat.zero_lt_of_lt inside)
  · exact .absent fun other noFurther => result_eq_ok_iff.mpr
      (reads_attributes_iff.mpr (.none (noFurther.ne (by decide) signed)))
termination_by tokens.length

theorem tracks_unsupportedType (name : Name) (tokens : List Lexeme) :
    Tracks (reader (unsupportedType name)) tokens := by
  by_cases opens : name.text = "Unsupported" ∧ nextToken tokens = some .leftParen
  · obtain ⟨announced, opens⟩ := opens
    obtain ⟨span, rest, rfl⟩ := exists_of_nextToken opens
    refine Tracks.cons ?_ fun _ => reader_unsupportedType_present announced
    exact .chain (fun _ => tracks_expectText) (fun type => .chain
      (fun _ => tracks_expectToken (by decide)) fun _ _ => .pure _) rest
  · refine .absent fun other noFurther => result_eq_ok_iff.mpr
      (reads_unsupportedType_iff.mpr (.absent fun announced => ?_))
    exact noFurther.ne (by decide) fun next => opens ⟨announced, next⟩

theorem tracks_arity (stop : Nat) (tokens : List Lexeme) : Tracks (reader (arity stop)) tokens := by
  by_cases opens : nextToken tokens = some .leftBracket
  · obtain ⟨span, rest, rfl⟩ := exists_of_nextToken opens
    exact (tracks_expectToken (by decide)).map.cons fun _ => reader_arity_list stop
  by_cases asks : nextToken tokens = some .question
  · obtain ⟨span, rest, rfl⟩ := exists_of_nextToken asks
    exact (Tracks.pure (Arity.optional, span.stop)).cons fun _ => rfl
  · exact .absent fun other noFurther => result_eq_ok_iff.mpr (reads_arity_iff.mpr
      (.required (noFurther.ne (by decide) opens) (noFurther.ne (by decide) asks)))

theorem tracks_typeRef (tokens : List Lexeme) : Tracks (reader typeRef) tokens := by
  rw [reader_typeRef]
  exact .chain (fun _ => tracks_expectName) (fun name => .chain (tracks_unsupportedType name)
    fun type => .chain (tracks_arity _) fun _ _ => .pure _) tokens

theorem tracks_field (text : Option String) (tokens : List Lexeme) :
    Tracks (reader (field text)) tokens := by
  rw [reader_field]
  exact .chain (fun _ => tracks_expectName) (fun name => .chain tracks_typeRef
    fun type => .chain tracks_attributes fun _ _ => .pure _) tokens

theorem tracks_enumValue (text : Option String) (tokens : List Lexeme) :
    Tracks (reader (enumValue text)) tokens := by
  rw [reader_enumValue]
  exact .chain (fun _ => tracks_expectName) (fun name => .chain tracks_attributes
    fun _ _ => .pure _) tokens

end Modelwright.Source
