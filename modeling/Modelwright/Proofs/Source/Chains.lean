import Modelwright.Proofs.Source.Blocks

namespace Modelwright.Source

/-! The readers as chains of readers.  What they say of lengths is left out, so that a reader is a
function of the lexemes ahead and what follows it takes what it leaves. -/

abbrev Reader (α : Type) := StateT (List Lexeme) (Except Mismatch) α

def result {α : Type} {n : Nat} : Parsed α n → Except Mismatch (α × List Lexeme)
  | .ok r => .ok (r.value, r.rest)
  | .error mismatch => .error mismatch

def reader {α : Type} {bound : List Lexeme → Nat}
    (p : (tokens : List Lexeme) → Parsed α (bound tokens)) : Reader α :=
  fun tokens => result (p tokens)

section Outcomes

variable {α β : Type} {n m : Nat}

@[simp] theorem result_ok (r : Reading Lexeme n α) :
    result (.ok r : Parsed α n) = .ok (r.value, r.rest) := rfl

@[simp] theorem result_error (mismatch : Mismatch) :
    result (.error mismatch : Parsed α n) = .error mismatch := rfl

theorem result_bind {x : Parsed α n} {f : Reading Lexeme n α → Parsed β m} {p : Reader α}
    {q : α → Reader β} {tokens : List Lexeme} (first : result x = p tokens)
    (continues : ∀ r, result (f r) = q r.value r.rest) :
    result (x >>= f) = (p >>= q) tokens := by
  cases x with
  | error mismatch =>
      have refused : p tokens = .error mismatch := first.symm
      simp [bind, Except.bind, StateT.bind, refused]
  | ok r =>
      have taken : p tokens = .ok (r.value, r.rest) := first.symm
      simp [bind, Except.bind, StateT.bind, taken, continues]

theorem result_weaken (x : Parsed α n) (le : n ≤ m) :
    result (do return (← x).weaken le) = result x := by
  cases x with
  | error mismatch => rfl
  | ok r => rfl

theorem result_eq_ok_iff {x : Parsed α n} {value : α} {rest : List Lexeme} :
    result x = .ok (value, rest) ↔ Reads x value rest := by
  cases x with
  | error mismatch => simp
  | ok r => simp [eq_comm]

end Outcomes

/-- Behind one part of a list: a comma and the other parts, or what closes the list. -/
def moreOrClose {α : Type} (closing : Token) (others : Reader α) (more : α → α) (last : Span → α) :
    Reader α
  | ⟨.comma, _⟩ :: tokens => (do return more (← others)) tokens
  | tokens => (do return last (← reader (expectToken closing))) tokens

theorem moreOrClose_of_ne {α : Type} {closing : Token} {others : Reader α} {more : α → α}
    {last : Span → α} {tokens : List Lexeme} (single : nextToken tokens ≠ some .comma) :
    moreOrClose closing others more last tokens =
      (do return last (← reader (expectToken closing))) tokens := by
  unfold moreOrClose
  split
  · exact absurd rfl single
  · rfl

def moreItems (first : Expr) : Reader (List Expr) :=
  moreOrClose .rightBracket (reader items) (first :: ·) fun _ => [first]

def moreArguments (first : Argument) : Reader (List Argument × Nat) :=
  moreOrClose .rightParen (reader arguments) (fun others => (first :: others.1, others.2))
    fun closing => ([first], closing.stop)

section Values

variable {tokens rest : List Lexeme} {span : Span}

theorem reader_expr_call {name : String} (plain : IsPlainName name) (opening : Span) :
    reader expr (⟨.identifier name, span⟩ :: ⟨.leftParen, opening⟩ :: rest) =
      (do return Expr.call name (← reader arguments).1) rest := by
  rw [reader, expr.eq_4, if_neg plain.1, if_neg plain.2]
  exact result_bind rfl fun _ => rfl

theorem reader_expr_constant {name : String} (plain : IsPlainName name)
    (ends : nextToken rest ≠ some .leftParen) :
    reader expr (⟨.identifier name, span⟩ :: rest) = .ok (.constant name, rest) :=
  result_eq_ok_iff.mpr (reads_expr (.constant plain ends))

theorem reader_expr_array :
    reader expr (⟨.leftBracket, span⟩ :: rest) = (do return Expr.array (← reader items)) rest := by
  rw [reader, expr]
  exact result_bind rfl fun _ => rfl

theorem reader_items (open_ : nextToken tokens ≠ some .rightBracket) :
    reader items tokens = (do moreItems (← reader expr)) tokens := by
  rw [reader, items.eq_2 _ (nextToken_ne_iff.mp open_)]
  refine result_bind rfl fun first => ?_
  obtain ⟨value, left, shorter⟩ := first
  dsimp only
  split
  · exact result_bind rfl fun _ => rfl
  · next single =>
    rw [moreItems, moreOrClose_of_ne (nextToken_ne_iff.mpr single)]
    exact result_bind rfl fun _ => rfl

theorem reader_argument_named {name : String} {colon : Span} :
    reader argument (⟨.identifier name, span⟩ :: ⟨.colon, colon⟩ :: rest) =
      (do return Argument.mk (some name) (← reader expr)) rest := by
  rw [reader, argument]
  exact result_bind rfl fun _ => rfl

theorem reader_argument (unnamed : ¬ StartsNamed tokens) :
    reader argument tokens = (do return Argument.mk none (← reader expr)) tokens := by
  rw [reader, argument.eq_2]
  · exact result_bind rfl fun _ => rfl
  · rintro name span colon inside rfl
    exact unnamed ⟨name, rfl, rfl⟩

theorem reader_arguments (open_ : nextToken tokens ≠ some .rightParen) :
    reader arguments tokens = (do moreArguments (← reader argument)) tokens := by
  rw [reader, arguments.eq_2 _ (nextToken_ne_iff.mp open_)]
  refine result_bind rfl fun first => ?_
  obtain ⟨value, left, shorter⟩ := first
  dsimp only
  split
  · exact result_bind rfl fun _ => rfl
  · next single =>
    rw [moreArguments, moreOrClose_of_ne (nextToken_ne_iff.mpr single)]
    exact result_bind rfl fun _ => rfl

end Values

section Attributes

variable {tokens rest : List Lexeme} {span : Span}

theorem reader_dotted_part (name : Name) :
    reader (dotted name) (⟨.dot, span⟩ :: rest) = (do
      let part ← reader (expectName .identifier)
      reader (dotted ⟨name.text ++ "." ++ part.text, name.span.merge part.span⟩)) rest := by
  match rest with
  | [] => rfl
  | ⟨token, place⟩ :: inside =>
      cases token with
      | identifier part => exact result_weaken _ _
      | _ => rfl

theorem reader_optionalArguments_present (stop : Nat) :
    reader (optionalArguments stop) (⟨.leftParen, span⟩ :: rest) = reader arguments rest :=
  result_weaken _ _

theorem reader_markAfter (sign : Span) :
    reader (markAfter sign) = do
      let first ← reader (expectName .attributeName)
      let name ← reader (dotted first)
      let arguments ← reader (optionalArguments name.span.stop)
      return ⟨name, arguments.1, ⟨sign.start, arguments.2⟩⟩ := by
  funext tokens
  exact result_bind rfl fun first => result_bind rfl fun name => result_bind rfl fun _ => rfl

theorem reader_attributes_more :
    reader attributes (⟨.atSign, span⟩ :: rest) = (do
      let first ← reader (markAfter span)
      let more ← reader attributes
      return first :: more) rest := by
  rw [reader, attributes]
  exact result_bind rfl fun first => result_bind rfl fun _ => rfl

end Attributes

section Declarations

variable {tokens rest : List Lexeme} {span : Span}

theorem reader_unsupportedType_present {name : Name} (announced : name.text = "Unsupported") :
    reader (unsupportedType name) (⟨.leftParen, span⟩ :: rest) = (do
      let type ← reader expectText
      let closing ← reader (expectToken .rightParen)
      return (some type, closing.stop)) rest := by
  rw [reader, unsupportedType, if_pos announced]
  exact result_bind rfl fun type => result_bind rfl fun _ => rfl

theorem reader_arity_list (stop : Nat) :
    reader (arity stop) (⟨.leftBracket, span⟩ :: rest) = (do
      return (Arity.list, (← reader (expectToken .rightBracket)).stop)) rest :=
  result_bind rfl fun _ => rfl

theorem reader_typeRef : reader typeRef = do
    let name ← reader (expectName .identifier)
    let unsupported ← reader (unsupportedType name)
    let arity ← reader (arity unsupported.2)
    return (⟨name, arity.1, unsupported.1⟩, arity.2) := by
  funext tokens
  exact result_bind rfl fun name => result_bind rfl fun type => result_bind rfl fun _ => rfl

theorem reader_field (text : Option String) : reader (field text) = do
    let name ← reader (expectName .identifier)
    let type ← reader typeRef
    let marks ← reader attributes
    return ⟨name, type.1, marks, text, ⟨name.span.start, endOfAttributes type.2 marks⟩⟩ := by
  funext tokens
  exact result_bind rfl fun name => result_bind rfl fun type => result_bind rfl fun _ => rfl

theorem reader_enumValue (text : Option String) : reader (enumValue text) = do
    let name ← reader (expectName .identifier)
    let marks ← reader attributes
    return ⟨name, text, marks⟩ := by
  funext tokens
  exact result_bind rfl fun name => result_bind rfl fun _ => rfl

end Declarations

section Blocks

variable {α : Type} {tokens rest : List Lexeme} {span : Span} {wanted : Expectation}
  {declaration : Option String → (tokens : List Lexeme) → Parsed α tokens.length}

theorem reader_members_close (start : afterDocs tokens = ⟨.rightBrace, span⟩ :: rest) :
    reader (members wanted declaration) tokens = .ok ([], rest) := by
  rw [reader, members]
  split
  · next same =>
      rw [start] at same
      cases same
      rfl
  all_goals simp_all

theorem reader_members_mark (start : afterDocs tokens = ⟨.doubleAtSign, span⟩ :: rest) :
    reader (members wanted declaration) tokens = (do
      let first ← reader (markAfter span)
      let more ← reader (members wanted declaration)
      return Member.mark first :: more) rest := by
  rw [reader, members]
  split
  · simp_all
  · next same =>
      rw [start] at same
      cases same
      exact result_bind rfl fun first => result_bind rfl fun _ => rfl
  all_goals simp_all

theorem reader_members_declaration {name : String}
    (start : nextToken (afterDocs tokens) = some (.identifier name)) :
    reader (members wanted declaration) tokens = (do
      let first ← reader (declaration (documentation tokens))
      let more ← reader (members wanted declaration)
      return Member.declaration first :: more) (afterDocs tokens) := by
  rw [reader, members]
  split
  · next same => simp [same, nextToken] at start
  · next same => simp [same, nextToken] at start
  · next same =>
      refine result_bind ?_ fun first => result_bind rfl fun _ => rfl
      rw [same]
      rfl
  · next other => exact absurd start (nextToken_ne_iff.mpr (other _))

theorem reader_members_refused (open_ : nextToken (afterDocs tokens) ≠ some .rightBrace)
    (unmarked : nextToken (afterDocs tokens) ≠ some .doubleAtSign)
    (unnamed : ∀ name, nextToken (afterDocs tokens) ≠ some (.identifier name)) :
    reader (members wanted declaration) tokens = .error ⟨wanted, (afterDocs tokens).head?⟩ := by
  rw [reader, members_refused open_ unmarked unnamed]
  rfl

theorem reader_properties_close (start : afterDocs tokens = ⟨.rightBrace, span⟩ :: rest) :
    reader properties tokens = .ok ([], rest) := by
  rw [reader, properties]
  split
  · next same =>
      rw [start] at same
      cases same
      rfl
  · next other => exact (other _ _ start).elim

theorem reader_properties (open_ : nextToken (afterDocs tokens) ≠ some .rightBrace) :
    reader properties tokens = (do
      let key ← reader (expectName .identifier)
      let _ ← reader (expectToken .equals)
      let value ← reader expr
      let more ← reader properties
      return Property.mk key value :: more) (afterDocs tokens) := by
  rw [reader, properties]
  split
  · next same => exact absurd (by rw [same]; rfl) open_
  · exact result_bind rfl fun key => result_bind rfl fun _ => result_bind rfl fun value =>
      result_bind rfl fun _ => rfl

/-- Each lexeme changes at most how many braces are open, or it closes the block. -/
theorem reader_skipBraces_cons (depth : Nat) (lexeme : Lexeme) :
    (∀ rest, reader (skipBraces depth) (lexeme :: rest) = .ok ((), rest)) ∨
      ∃ left, ∀ rest,
        reader (skipBraces depth) (lexeme :: rest) = reader (skipBraces left) rest := by
  by_cases opening : lexeme.token = .leftBrace
  · refine .inr ⟨depth + 1, fun rest => ?_⟩
    rw [reader, skipBraces.eq_2 _ _ _ opening]
    exact result_weaken _ _
  by_cases closing : lexeme.token = .rightBrace
  · cases depth with
    | zero =>
        refine .inl fun rest => ?_
        rw [reader, skipBraces.eq_3 _ _ closing]
        rfl
    | succ depth =>
        refine .inr ⟨depth, fun rest => ?_⟩
        rw [reader, skipBraces.eq_4 _ _ _ closing]
        exact result_weaken _ _
  · refine .inr ⟨depth, fun rest => ?_⟩
    rw [reader, skipBraces.eq_5 _ _ _ opening (fun same _ => closing same)
      (fun _ same _ => closing same)]
    exact result_weaken _ _

theorem reader_skipBraces_close (depth : Nat) (span : Span) :
    reader (skipBraces depth) (⟨.rightBrace, span⟩ :: rest) =
      if depth = 0 then .ok ((), rest) else reader (skipBraces (depth - 1)) rest := by
  cases depth with
  | zero => rfl
  | succ depth => exact result_weaken _ _

theorem reader_blockName : reader blockName = do
    let name ← reader (expectName .identifier)
    let _ ← reader (expectToken .leftBrace)
    return name := by
  funext tokens
  exact result_bind rfl fun name => result_bind rfl fun _ => rfl

theorem reader_propertyBlock : reader propertyBlock = do
    let name ← reader blockName
    return ⟨name, ← reader properties⟩ := by
  funext tokens
  exact result_bind rfl fun name => result_bind rfl fun _ => rfl

theorem reader_modelBlock (text : Option String) : reader (modelBlock text) = do
    let name ← reader blockName
    let found ← reader (members .modelMember field)
    return ⟨name, text, found.filterMap Member.declaration?, found.filterMap Member.mark?⟩ := by
  funext tokens
  exact result_bind rfl fun name => result_bind rfl fun _ => rfl

theorem reader_enumBlock (text : Option String) : reader (enumBlock text) = do
    let name ← reader blockName
    let found ← reader (members .enumMember enumValue)
    return ⟨name, text, found.filterMap Member.declaration?, found.filterMap Member.mark?⟩ := by
  funext tokens
  exact result_bind rfl fun name => result_bind rfl fun _ => rfl

theorem reader_otherBlock (keyword : String) : reader (otherBlock keyword) = do
    let name ← reader blockName
    let _ ← reader (skipBraces 0)
    return .other keyword name := by
  funext tokens
  exact result_bind rfl fun name => result_bind rfl fun _ => rfl

end Blocks

end Modelwright.Source
