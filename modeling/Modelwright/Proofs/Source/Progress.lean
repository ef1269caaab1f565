import Modelwright.Proofs.Source.Iterations

namespace Modelwright.Source

/-! Every reader of the parser goes on in the lexemes and every loop and nesting of it ends,
whatever the lexemes are. -/

/-- A value whose parts are read by the reader given, in at most so many rounds. -/
def valueStep (bound : Nat) (value : Trial Expr) : Trial Expr := do
  let found ← tried (nextLexeme .value)
  match found.token with
  | .text text => return .text text
  | .number digits => return .number digits
  | .identifier name =>
    if name = "true" then return .boolean true
    else if name = "false" then return .boolean false
    else
      match ← tried (eaten .leftParen) with
      | some _ => return .call name (← inRounds (argumentRound value) bound []).1
      | none => return .constant name
  | .leftBracket => return .array (← inRounds (itemRound value) bound [])
  | _ => throw ⟨.value, some found⟩

def valueWithin : Nat → Trial Expr
  | 0 => fun _ => none
  | depth + 1 => valueStep depth (valueWithin depth)

section Values

variable {tokens : List Lexeme} {bound : Nat} {value : Trial Expr}

theorem agrees_items {start : List Lexeme}
    (inner : ∀ ahead, Takes 0 start ahead → Agrees value (reader expr) ahead)
    (enough : start.length < bound) :
    Agrees (inRounds (itemRound value) bound []) (reader items) start := by
  rw [← behind_nil (reader items)]
  exact inRounds_of_goes (fun found ahead reached => goes_itemRound found (inner ahead reached))
    bound [] start (.refl start) enough

theorem argumentsBehind_nil : argumentsBehind [] = reader arguments := by
  simp [argumentsBehind]

theorem agrees_arguments {start : List Lexeme}
    (inner : ∀ ahead, Takes 0 start ahead → Agrees value (reader expr) ahead)
    (enough : start.length < bound) :
    Agrees (inRounds (argumentRound value) bound []) (reader arguments) start := by
  rw [← argumentsBehind_nil]
  refine inRounds_of_goes (fun found ahead reached => ?_) bound [] start (.refl start) enough
  exact goes_argumentRound found fun further takes => inner further (reached.trans_zero takes)

theorem agrees_valueStep (inner : ∀ ahead, Takes 1 tokens ahead → Agrees value (reader expr) ahead)
    (enough : tokens.length ≤ bound) : Agrees (valueStep bound value) (reader expr) tokens := by
  have ends : reader expr [] = .error ⟨.value, none⟩ := by
    rw [reader, expr]
    rfl
  match tokens with
  | [] => exact congrArg some ends.symm
  | ⟨token, span⟩ :: rest =>
      have reached (ahead : List Lexeme) (takes : Takes 0 rest ahead) :=
        inner ahead (.cons_trans ⟨token, span⟩ takes)
      rw [Agrees, valueStep, bind_eq_of_taken (congrArg some rfl)]
      cases token with
      | leftBracket =>
          rw [reader_expr_array]
          exact (agrees_items reached enough).bind fun _ _ _ => rfl
      | identifier name =>
          by_cases yes : name = "true"
          · simp only [if_pos yes]
            exact congrArg some (result_eq_ok_iff.mpr (yes ▸ reads_expr .yes)).symm
          by_cases no : name = "false"
          · simp only [if_neg yes, if_pos no]
            exact congrArg some (result_eq_ok_iff.mpr (no ▸ reads_expr .no)).symm
          simp only [if_neg yes, if_neg no]
          by_cases opens : nextToken rest = some .leftParen
          · obtain ⟨opening, inside, rfl⟩ := exists_of_nextToken opens
            rw [bind_eaten_present, reader_expr_call ⟨yes, no⟩]
            rw [List.length_cons, List.length_cons] at enough
            exact (agrees_arguments (fun ahead takes =>
              reached ahead ((Takes.cons_trans _ takes).mono (Nat.zero_le 1))) (by omega)).bind
                fun _ _ _ => rfl
          · rw [bind_eaten_absent opens, reader_expr_constant ⟨yes, no⟩ opens]
            rfl
      | text | number =>
          rw [reader, expr]
          rfl
      | _ =>
          simp only [reader, expr, result_error]
          rfl

/-- By induction on the depth: a value in a value has fewer lexemes ahead. -/
theorem agrees_valueWithin {depth : Nat} (enough : tokens.length < depth) :
    Agrees (valueWithin depth) (reader expr) tokens := by
  induction depth generalizing tokens with
  | zero => exact absurd enough (Nat.not_lt_zero _)
  | succ depth ih =>
      refine agrees_valueStep (fun ahead takes => ih ?_) (Nat.le_of_lt_succ enough)
      have shorter := takes.length_le
      omega

end Values

/-- How many lexemes every reader takes at least; what is optional may take none. -/
structure ReadersAdvance : Prop where
  token : ∀ token, Advances 1 (reader (expectToken token))
  name : ∀ wanted, Advances 1 (reader (expectName wanted))
  text : Advances 1 (reader expectText)
  documentation : Advances 0 takenDocs
  value : Advances 1 (reader expr)
  items : Advances 1 (reader items)
  argument : Advances 1 (reader argument)
  arguments : Advances 1 (reader arguments)
  dotted : ∀ name, Advances 0 (reader (dotted name))
  optionalArguments : ∀ stop, Advances 0 (reader (optionalArguments stop))
  mark : ∀ sign, Advances 2 (signedMark sign)
  marks : Advances 0 (reader attributes)
  unsupportedType : ∀ name, Advances 0 (reader (unsupportedType name))
  arity : ∀ stop, Advances 0 (reader (arity stop))
  type : Advances 1 (reader typeRef)
  declaration : ∀ text, Advances 1 (reader (field text))
  valueDeclaration : ∀ text, Advances 1 (reader (enumValue text))
  properties : Advances 1 (reader properties)
  fields : Advances 1 (reader (members .modelMember field))
  enumValues : Advances 1 (reader (members .enumMember enumValue))
  braces : ∀ depth, Advances 1 (reader (skipBraces depth))
  propertyBlock : Advances 1 (reader propertyBlock)
  modelBlock : ∀ text, Advances 1 (reader (modelBlock text))
  enumBlock : ∀ text, Advances 1 (reader (enumBlock text))
  otherBlock : ∀ keyword, Advances 1 (reader (otherBlock keyword))
  block : ∀ text, Advances 1 (blockFrom text)
  document : Advances 0 allBlocks

theorem advances_takenDocs : Advances 0 takenDocs where
  taken {tokens text rest} read := by
    obtain ⟨-, rfl⟩ := Prod.mk.inj (Except.ok.inj (takenDocs_eq tokens ▸ read))
    exact .afterDocs tokens
  refused {tokens mismatch} read := nomatch (takenDocs_eq tokens).symm.trans read

theorem advances_allBlocks : Advances 0 allBlocks where
  taken {tokens found rest} read := by
    cases made : blocks tokens with
    | error mismatch => simp [allBlocks, made, Except.map] at read
    | ok all =>
        simp only [allBlocks, made, Except.map, Except.ok.injEq, Prod.mk.injEq] at read
        exact ⟨tokens.length, Nat.zero_le _, Nat.le_refl _, by simp [← read.2]⟩
  refused {tokens mismatch} read := by
    cases made : blocks tokens with
    | ok all => simp [allBlocks, made, Except.map] at read
    | error same =>
        simp only [allBlocks, made, Except.map, Except.error.injEq] at read
        obtain ⟨before, after, rfl, found, -⟩ := blocks_refused made
        exact ⟨after, .append (Nat.zero_le _) after, read ▸ found⟩

theorem readersAdvance : ReadersAdvance where
  token := advances_expectToken
  name _ := advances_name
  text := advances_reader fun _ => tracks_expectText
  documentation := advances_takenDocs
  value := advances_reader tracks_expr
  items := advances_reader tracks_items
  argument := advances_reader tracks_argument
  arguments := advances_reader tracks_arguments
  dotted name := advances_optional (tracks_dotted name)
  optionalArguments stop := advances_optional (tracks_optionalArguments stop)
  mark := advances_signedMark
  marks := advances_optional tracks_attributes
  unsupportedType name := advances_optional (tracks_unsupportedType name)
  arity stop := advances_optional (tracks_arity stop)
  type := advances_reader tracks_typeRef
  declaration text := advances_reader (tracks_field text)
  valueDeclaration text := advances_reader (tracks_enumValue text)
  properties := advances_reader tracks_properties
  fields := advances_reader tracks_fields
  enumValues := advances_reader tracks_enumValues
  braces depth := advances_reader (tracks_skipBraces depth)
  propertyBlock := advances_reader tracks_propertyBlock
  modelBlock text := advances_reader (tracks_modelBlock text)
  enumBlock text := advances_reader (tracks_enumBlock text)
  otherBlock keyword := advances_reader (tracks_otherBlock keyword)
  block _ := advances_blockFrom
  document := advances_allBlocks

/-- Every round of every loop takes a lexeme or leaves, and the loops come to what the readers come
to. -/
structure LoopsProgress : Prop where
  documentation : IsLoop docRound fun lines => behind lines docLines
  dotted : IsLoop dottedRound fun name => reader (dotted name)
  marks : IsLoop attributeRound fun found => behind found (reader attributes)
  items : IsLoop (itemRound (tried (reader expr))) fun found => behind found (reader items)
  arguments : IsLoop (argumentRound (tried (reader expr))) argumentsBehind
  properties : IsLoop propertyRound fun found => behind found (reader properties)
  fields : IsLoop (memberRound .modelMember fun text => reader (field text))
    fun found => behind found (reader (members .modelMember field))
  enumValues : IsLoop (memberRound .enumMember fun text => reader (enumValue text))
    fun found => behind found (reader (members .enumMember enumValue))
  braces : IsLoop braceRound skipped
  blocks : IsLoop blockRound fun found => behind found allBlocks

theorem loopsProgress : LoopsProgress where
  documentation := isLoop_of_goes goes_docRound
  dotted := isLoop_of_goes goes_dottedRound
  marks := isLoop_of_goes goes_attributeRound
  items := isLoop_of_goes fun found tokens => goes_itemRound found (agrees_tried _ tokens)
  arguments := isLoop_of_goes fun found _ => goes_argumentRound found fun ahead _ =>
    agrees_tried _ ahead
  properties := isLoop_of_goes goes_propertyRound
  fields := isLoop_of_goes (goes_memberRound tracks_field)
  enumValues := isLoop_of_goes (goes_memberRound tracks_enumValue)
  braces := isLoop_of_goes goes_braceRound
  blocks := isLoop_of_goes goes_blockRound

/-- Values in a value are read further on, so a value is read within as many levels as there are
lexemes and one more. -/
structure NestingEnds : Prop where
  step : ∀ {tokens bound value},
    (∀ ahead, Takes 1 tokens ahead → Agrees value (reader expr) ahead) →
    tokens.length ≤ bound → Agrees (valueStep bound value) (reader expr) tokens
  run : ∀ {tokens depth}, tokens.length < depth → Agrees (valueWithin depth) (reader expr) tokens

theorem nestingEnds : NestingEnds :=
  ⟨agrees_valueStep, agrees_valueWithin⟩

/-- Whatever the lexemes are, every reader, every round and every value in a value goes on in them.
So the rounds over the document end, and those that succeed leave no lexeme. -/
theorem parseDocument_progresses : ReadersAdvance ∧ LoopsProgress ∧ NestingEnds ∧
    ∀ tokens bound, tokens.length < bound → inRounds blockRound bound [] tokens =
      some ((parseDocument tokens).map fun d => (d.blocks, [])) := by
  refine ⟨readersAdvance, loopsProgress, nestingEnds, fun tokens bound enough => ?_⟩
  rw [loopsProgress.blocks.ends [] tokens bound enough, behind_nil, allBlocks, parseDocument]
  cases blocks tokens with
  | error mismatch => rfl
  | ok found => rfl

/-- `model A { f T @default([1 }`: neither the list nor what is around it is closed. -/
def unclosedTokens : List Lexeme :=
  bare [.identifier "model", .identifier "A", .leftBrace, .identifier "f", .identifier "T", .atSign,
    .identifier "default", .leftParen, .leftBracket, .number "1", .rightBrace]

theorem parseDocument_progresses_unclosed : unclosedTokens.length < 12 ∧
    inRounds blockRound 12 [] unclosedTokens =
      some (.error ⟨.token .rightBracket, some ⟨.rightBrace, origin⟩⟩) := by
  have enough : unclosedTokens.length < 12 := by decide
  have refused : parseDocument unclosedTokens =
      .error ⟨.token .rightBracket, some ⟨.rightBrace, origin⟩⟩ := by cbv
  refine ⟨enough, ?_⟩
  rw [parseDocument_progresses.2.2.2 unclosedTokens 12 enough, refused]
  rfl

end Modelwright.Source
