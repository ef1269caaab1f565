import Modelwright.Proofs.Source.Rounds

namespace Modelwright.Source

open Modelwright.Text

/-! The loops of the parser, one round each, and that every round takes a lexeme or leaves the loop
it belongs to. -/

def peeked : Reader (Option Lexeme) :=
  fun tokens => .ok (tokens.head?, tokens)

/-- Where the token stands if it is next; it is taken then. -/
def eaten (token : Token) : Reader (Option Span)
  | [] => .ok (none, [])
  | found :: rest =>
    if found.token = token then .ok (some found.span, rest) else .ok (none, found :: rest)

def nextLexeme (wanted : Expectation) : Reader Lexeme
  | [] => .error ⟨wanted, none⟩
  | found :: rest => .ok (found, rest)

def docLine : Reader (Option String)
  | ⟨.doc text, _⟩ :: rest => .ok (some text, rest)
  | tokens => .ok (none, tokens)

def docLines : Reader (List String) :=
  fun tokens => .ok ((tokens.takeWhile isDoc).filterMap docText?, afterDocs tokens)

def joined (lines : List String) : Option String :=
  let text := trimText ("\n".intercalate lines)
  if text.isEmpty then none else some text

def takenDocs : Reader (Option String) := do
  return joined (← docLines)

def argumentName : Reader (Option String)
  | ⟨.identifier name, _⟩ :: ⟨.colon, _⟩ :: rest => .ok (some name, rest)
  | tokens => .ok (none, tokens)

def signedMark (sign : Token) : Reader Attribute := do
  reader (markAfter (← reader (expectToken sign)))

section Looking

variable {α : Type} {token : Token} {tokens rest : List Lexeme} {span : Span}

theorem bind_peeked (more : Option Lexeme → Trial α) :
    (tried peeked >>= more) tokens = more tokens.head? tokens := rfl

theorem takenDocs_eq (tokens : List Lexeme) :
    takenDocs tokens = .ok (documentation tokens, afterDocs tokens) := rfl

theorem bind_takenDocs (more : Option String → Trial α) :
    (tried takenDocs >>= more) tokens = more (documentation tokens) (afterDocs tokens) :=
  bind_eq_of_taken (congrArg some (takenDocs_eq tokens))

theorem bind_eaten_present (more : Option Span → Trial α) :
    (tried (eaten token) >>= more) (⟨token, span⟩ :: rest) = more (some span) rest :=
  bind_eq_of_taken (by simp [tried, eaten])

theorem bind_eaten_absent (single : nextToken tokens ≠ some token) (more : Option Span → Trial α) :
    (tried (eaten token) >>= more) tokens = more none tokens := by
  refine bind_eq_of_taken (congrArg some ?_)
  match tokens with
  | [] => rfl
  | found :: rest => exact if_neg fun same => single (congrArg some same)

theorem signedMark_cons (sign : Token) :
    signedMark sign (⟨sign, span⟩ :: rest) = reader (markAfter span) rest :=
  Tracks.bind_eq_ok (reader_expectToken_cons sign span rest)

end Looking

theorem advances_expectToken (token : Token) : Advances 1 (reader (expectToken token)) where
  taken {tokens span rest} read := by
    rw [reads_expectToken_iff.mp (result_eq_ok_iff.mp read)]
    exact .cons _ rest
  refused {tokens mismatch} read := by
    refine ⟨tokens, .refl tokens, ?_⟩
    cases tokens with
    | nil =>
        cases read
        rfl
    | cons found rest =>
        by_cases same : found.token = token
        · simp [reader, expectToken, same] at read
        · simp only [reader, expectToken, if_neg same, result_error] at read
          cases read
          rfl

theorem advances_name {wanted : Expectation} : Advances 1 (reader (expectName wanted)) :=
  advances_reader fun _ => tracks_expectName

theorem advances_signedMark (sign : Token) : Advances 2 (signedMark sign) :=
  (advances_expectToken sign).bind fun span => advances_reader (tracks_markAfter span)

theorem advances_blockFrom {text : Option String} : Advances 1 (blockFrom text) :=
  .of_tracks (tracks_blockFrom text) fun read => Nat.one_add_le_iff.mpr (shorter_of_blockFrom read)

section Found

variable {α β : Type}

def behind (found : List α) (p : Reader (List α)) : Reader (List α) := do
  return found ++ (← p)

theorem behind_nil (p : Reader (List α)) : behind [] p = p := by
  simp [behind]

theorem behind_bind (found : List α) (p : Reader β) (q : β → Reader (List α)) :
    behind found (p >>= q) = p >>= fun value => behind found (q value) := by
  simp [behind]

theorem behind_more (found : List α) (first : α) (p : Reader (List α)) :
    behind found (do return first :: (← p)) = behind (found ++ [first]) p := by
  simp [behind]

theorem behind_none {p : Reader (List α)} {tokens rest : List Lexeme}
    (none : p tokens = .ok ([], rest)) (found : List α) :
    behind found p tokens = .ok (found, rest) := by
  simp [behind, bind, StateT.bind, Except.bind, none, pure, StateT.pure, Except.pure]

theorem behind_congr {p q : Reader (List α)} {tokens ahead : List Lexeme}
    (same : p tokens = q ahead) (found : List α) : behind found p tokens = behind found q ahead :=
  bind_eq_bind same _

end Found

section Loops

variable {α β : Type}

def docRound (lines : List String) : Trial (Turn (List String) (List String)) := do
  match ← tried docLine with
  | some line => return .again (lines ++ [line])
  | none => return .leave lines

def dottedRound (name : Name) : Trial (Turn Name Name) := do
  match ← tried (eaten .dot) with
  | none => return .leave name
  | some _ =>
    let part ← tried (reader (expectName .identifier))
    return .again ⟨name.text ++ "." ++ part.text, name.span.merge part.span⟩

def attributeRound (found : List Attribute) : Trial (Turn (List Attribute) (List Attribute)) := do
  match ← tried peeked with
  | some ⟨.atSign, _⟩ => return .again (found ++ [← tried (signedMark .atSign)])
  | _ => return .leave found

/-- Parts with commas between them, through what closes them. -/
def partRound (closing : Token) (part : Trial α) (result : List α → Span → β) (found : List α) :
    Trial (Turn (List α) β) := do
  match ← tried (eaten closing) with
  | some span => return .leave (result found span)
  | none =>
    let first ← part
    match ← tried (eaten .comma) with
    | some _ => return .again (found ++ [first])
    | none =>
      let span ← tried (reader (expectToken closing))
      return .leave (result (found ++ [first]) span)

def itemRound (value : Trial Expr) : List Expr → Trial (Turn (List Expr) (List Expr)) :=
  partRound .rightBracket value fun found _ => found

def argumentWith (value : Trial Expr) : Trial Argument := do
  let name ← tried argumentName
  return ⟨name, ← value⟩

def argumentRound (value : Trial Expr) :
    List Argument → Trial (Turn (List Argument) (List Argument × Nat)) :=
  partRound .rightParen (argumentWith value) fun found closing => (found, closing.stop)

def propertyRound (found : List Property) : Trial (Turn (List Property) (List Property)) := do
  let _ ← tried takenDocs
  match ← tried (eaten .rightBrace) with
  | some _ => return .leave found
  | none =>
    let key ← tried (reader (expectName .identifier))
    let _ ← tried (reader (expectToken .equals))
    let value ← tried (reader expr)
    return .again (found ++ [⟨key, value⟩])

def memberRound (wanted : Expectation) (declaration : Option String → Reader α)
    (found : List (Member α)) : Trial (Turn (List (Member α)) (List (Member α))) := do
  let text ← tried takenDocs
  match ← tried peeked with
  | some ⟨.rightBrace, _⟩ =>
    let _ ← tried (reader (expectToken .rightBrace))
    return .leave found
  | some ⟨.doubleAtSign, _⟩ => return .again (found ++ [.mark (← tried (signedMark .doubleAtSign))])
  | some ⟨.identifier _, _⟩ => return .again (found ++ [.declaration (← tried (declaration text))])
  | next => throw ⟨wanted, next⟩

/-- The state is how many braces are open. -/
def braceRound : Nat → Trial (Turn Nat Unit)
  | 0 => return .leave ()
  | depth + 1 => do
    match (← tried (nextLexeme (.token .rightBrace))).token with
    | .leftBrace => return .again (depth + 2)
    | .rightBrace => return .again depth
    | _ => return .again (depth + 1)

def blockRound (found : List Block) : Trial (Turn (List Block) (List Block)) := do
  let text ← tried takenDocs
  match ← tried peeked with
  | none => return .leave found
  | some _ => return .again (found ++ [← tried (blockFrom text)])

def skipped : Nat → Reader Unit
  | 0 => pure ()
  | depth + 1 => reader (skipBraces depth)

def allBlocks : Reader (List Block) :=
  fun tokens => (blocks tokens).map fun found => (found, [])

variable {tokens rest : List Lexeme} {span : Span}

theorem docLines_plain (plain : IsPlain (nextToken tokens)) :
    docLines tokens = .ok ([], tokens) := by
  have nothing : tokens.takeWhile isDoc = [] ∧ afterDocs tokens = tokens := by
    cases tokens with
    | nil => exact ⟨rfl, rfl⟩
    | cons lexeme rest => simp [afterDocs, isDoc_eq_false_of_isPlain plain]
  rw [docLines, nothing.1, nothing.2]
  rfl

theorem docLine_plain (plain : IsPlain (nextToken tokens)) :
    docLine tokens = .ok (none, tokens) := by
  unfold docLine
  split
  · exact absurd rfl (plain _)
  · rfl

theorem goes_docRound (lines : List String) (tokens : List Lexeme) :
    Goes (fun lines => behind lines docLines) lines tokens (docRound lines tokens) := by
  by_cases doc : ∃ text, nextToken tokens = some (.doc text)
  · obtain ⟨text, next⟩ := doc
    obtain ⟨span, rest, rfl⟩ := exists_of_nextToken next
    have line : docLines (⟨.doc text, span⟩ :: rest) = (do return text :: (← docLines)) rest := rfl
    exact .again (.cons _ _) ((behind_congr line lines).trans (by rw [behind_more]))
  · have plain : IsPlain (nextToken tokens) := not_exists.mp doc
    rw [docRound, bind_eq_of_taken (congrArg some (docLine_plain plain))]
    exact .leave (.refl tokens) (behind_none (docLines_plain plain) lines)

theorem goes_dottedRound (name : Name) (tokens : List Lexeme) :
    Goes (fun name => reader (dotted name)) name tokens (dottedRound name tokens) := by
  by_cases dot : nextToken tokens = some .dot
  · obtain ⟨span, rest, rfl⟩ := exists_of_nextToken dot
    rw [dottedRound, bind_eaten_present]
    exact .bind_again (agrees_tried _ _) (reader_dotted_part name) fun read =>
      .cons_trans _ (advances_name.taken read)
  · rw [dottedRound, bind_eaten_absent dot]
    exact .leave (.refl tokens) (result_eq_ok_iff.mpr (reads_dotted_iff.mpr (.stop dot)))

theorem goes_attributeRound (found : List Attribute) (tokens : List Lexeme) :
    Goes (fun found => behind found (reader attributes)) found tokens
      (attributeRound found tokens) := by
  rw [attributeRound, bind_peeked]
  by_cases signed : nextToken tokens = some .atSign
  · obtain ⟨span, rest, rfl⟩ := exists_of_nextToken signed
    refine .bind_again (agrees_tried _ _) ?_ fun read =>
      ((advances_signedMark .atSign).taken read).mono (by decide)
    rw [behind_congr reader_attributes_more, behind_bind, bind_eq_bind (signedMark_cons _)]
    simp only [behind_more]
  · have none : reader attributes tokens = .ok ([], tokens) :=
      result_eq_ok_iff.mpr (reads_attributes_iff.mpr (.none signed))
    have leaves : Goes (fun found => behind found (reader attributes)) found tokens
        (some (.ok (.leave found, tokens))) := .leave (.refl tokens) (behind_none none found)
    match tokens with
    | [] => exact leaves
    | ⟨token, span⟩ :: rest =>
        cases token with
        | atSign => exact absurd rfl signed
        | _ => exact leaves

theorem moreOrClose_comma {closing : Token} {others : Reader α} {more : α → α} {last : Span → α}
    (span : Span) (rest : List Lexeme) :
    moreOrClose closing others more last (⟨.comma, span⟩ :: rest) =
      (do return more (← others)) rest := rfl

theorem map_moreOrClose {closing : Token} {others : Reader α} {more : α → α} {last : Span → α}
    (f : α → β) : (do return f (← moreOrClose closing others more last)) =
      moreOrClose closing (do return f (more (← others))) id fun span => f (last span) := by
  funext tokens
  by_cases comma : nextToken tokens = some .comma
  · obtain ⟨span, rest, rfl⟩ := exists_of_nextToken comma
    rw [bind_eq_bind (moreOrClose_comma span rest), moreOrClose_comma]
    simp
  · rw [bind_eq_bind (moreOrClose_of_ne comma), moreOrClose_of_ne comma]
    simp

/-- The rounds of a list of parts, given that the loop as a whole reads a part and what is behind
it. -/
theorem goes_partRound {closing : Token} {part : Trial α} {p : Reader α}
    {result : List α → Span → β} {whole : List α → Reader β} {found : List α}
    (closes : ∀ span rest, whole found (⟨closing, span⟩ :: rest) = .ok (result found span, rest))
    (opens : nextToken tokens ≠ some closing → whole found tokens = (do
      let first ← p
      moreOrClose closing (whole (found ++ [first])) id (result (found ++ [first]))) tokens)
    (agrees : Agrees part p tokens)
    (takes : ∀ {value rest}, p tokens = .ok (value, rest) → Takes 1 tokens rest) :
    Goes whole found tokens (partRound closing part result found tokens) := by
  by_cases closed : nextToken tokens = some closing
  · obtain ⟨span, rest, rfl⟩ := exists_of_nextToken closed
    rw [partRound, bind_eaten_present]
    exact .leave ((Takes.cons _ rest).mono (Nat.zero_le 1)) (closes span rest)
  · rw [partRound, bind_eaten_absent closed]
    refine .bind agrees (opens closed) fun first rest read same => ?_
    have reached := takes read
    by_cases comma : nextToken rest = some .comma
    · obtain ⟨span, after, rfl⟩ := exists_of_nextToken comma
      rw [bind_eaten_present]
      rw [moreOrClose_comma, bind_pure_comp, id_map] at same
      exact .again ((reached.trans (.cons _ after)).mono (by decide)) same
    · rw [bind_eaten_absent comma]
      refine .bind (agrees_tried _ rest) (same.trans (moreOrClose_of_ne comma))
        fun span left closed same => ?_
      exact .leave ((reached.trans ((advances_expectToken closing).taken closed)).mono
        (Nat.zero_le _)) same

theorem goes_itemRound {value : Trial Expr} (found : List Expr)
    (agrees : Agrees value (reader expr) tokens) :
    Goes (fun found => behind found (reader items)) found tokens
      (itemRound value found tokens) := by
  refine goes_partRound (fun span rest => ?_) (fun opened => ?_) agrees
    (advances_reader tracks_expr).taken
  · exact behind_none (result_eq_ok_iff.mpr (reads_items .close)) found
  · rw [behind_congr (reader_items opened), behind_bind]
    simp only [moreItems, behind, map_moreOrClose]
    simp

theorem argumentName_unnamed (unnamed : ¬ StartsNamed tokens) :
    argumentName tokens = .ok (none, tokens) := by
  unfold argumentName
  split
  · exact absurd ⟨_, rfl, rfl⟩ unnamed
  · rfl

theorem takes_of_argumentName {name : Option String}
    (read : argumentName tokens = .ok (name, rest)) :
    Takes 0 tokens rest := by
  unfold argumentName at read
  split at read
  · cases read
    exact (Takes.cons_trans _ (.cons _ _)).mono (Nat.zero_le 1)
  · cases read
    exact .refl _

theorem reader_argument_eq : reader argument = (do
    let name ← argumentName
    return ⟨name, ← reader expr⟩ : Reader Argument) := by
  funext tokens
  by_cases named : StartsNamed tokens
  · obtain ⟨name, first, second⟩ := named
    obtain ⟨span, rest, rfl⟩ := exists_of_nextToken first
    obtain ⟨colon, inside, rfl⟩ := exists_of_nextToken second
    exact reader_argument_named
  · rw [reader_argument named, Tracks.bind_eq_ok (argumentName_unnamed named)]

theorem agrees_argumentWith {value : Trial Expr}
    (agrees : ∀ ahead, Takes 0 tokens ahead → Agrees value (reader expr) ahead) :
    Agrees (argumentWith value) (reader argument) tokens := by
  rw [reader_argument_eq]
  exact .bind (agrees_tried _ tokens) fun name ahead read =>
    .bind (agrees ahead (takes_of_argumentName read)) fun _ _ _ => rfl

def argumentsBehind (found : List Argument) : Reader (List Argument × Nat) := do
  let more ← reader arguments
  return (found ++ more.1, more.2)

theorem goes_argumentRound {value : Trial Expr} (found : List Argument)
    (agrees : ∀ ahead, Takes 0 tokens ahead → Agrees value (reader expr) ahead) :
    Goes argumentsBehind found tokens (argumentRound value found tokens) := by
  refine goes_partRound (fun span rest => ?_) (fun opened => ?_) (agrees_argumentWith agrees)
    (advances_reader tracks_argument).taken
  · have none : reader arguments (⟨.rightParen, span⟩ :: rest) = .ok (([], span.stop), rest) :=
      result_eq_ok_iff.mpr (reads_arguments .close)
    rw [argumentsBehind, Tracks.bind_eq_ok none, List.append_nil]
    rfl
  · rw [argumentsBehind, bind_eq_bind (reader_arguments opened), bind_assoc]
    simp only [moreArguments, map_moreOrClose]
    simp [argumentsBehind]

theorem goes_propertyRound (found : List Property) (tokens : List Lexeme) :
    Goes (fun found => behind found (reader properties)) found tokens
      (propertyRound found tokens) := by
  have skipped := Takes.afterDocs tokens
  rw [propertyRound, bind_takenDocs]
  by_cases closes : nextToken (afterDocs tokens) = some .rightBrace
  · obtain ⟨span, rest, start⟩ := exists_of_nextToken closes
    rw [start] at skipped ⊢
    rw [bind_eaten_present]
    exact .leave ((skipped.trans_zero (.cons _ rest)).mono (Nat.zero_le 1))
      (behind_none (reader_properties_close start) found)
  · rw [bind_eaten_absent closes]
    have whole := behind_congr (reader_properties closes) found
    simp only [behind_bind _ (reader (expectName _)), behind_bind _ (reader (expectToken _)),
      behind_bind _ (reader expr), behind_more] at whole
    refine .bind (agrees_tried _ _) whole fun key left named same => ?_
    have named := advances_name.taken named
    refine .bind (agrees_tried _ _) same fun equals right read same => ?_
    have equals := (advances_expectToken _).taken read
    refine .bind_again (agrees_tried _ _) same fun read => ?_
    have valued := (advances_reader tracks_expr).taken read
    exact (skipped.trans (named.trans (equals.trans valued))).mono (by decide)

theorem goes_memberRound {wanted : Expectation}
    {declaration : Option String → (tokens : List Lexeme) → Parsed α tokens.length}
    (declares : ∀ text tokens, Tracks (reader (declaration text)) tokens)
    (found : List (Member α)) (tokens : List Lexeme) :
    Goes (fun found => behind found (reader (members wanted declaration))) found tokens
      (memberRound wanted (fun text => reader (declaration text)) found tokens) := by
  have skipped := Takes.afterDocs tokens
  rw [memberRound, bind_takenDocs, bind_peeked]
  by_cases closes : nextToken (afterDocs tokens) = some .rightBrace
  · obtain ⟨span, rest, start⟩ := exists_of_nextToken closes
    rw [start] at skipped ⊢
    exact .leave ((skipped.trans_zero (.cons _ rest)).mono (Nat.zero_le 1))
      (behind_none (reader_members_close start) found)
  by_cases marked : nextToken (afterDocs tokens) = some .doubleAtSign
  · obtain ⟨span, rest, start⟩ := exists_of_nextToken marked
    rw [start] at skipped ⊢
    refine .bind_again (agrees_tried _ _) ?_ fun read =>
      (skipped.trans ((advances_signedMark _).taken read)).mono (by decide)
    rw [behind_congr (reader_members_mark start), behind_bind, bind_eq_bind (signedMark_cons _)]
    simp only [behind_more]
  by_cases named : ∃ name, nextToken (afterDocs tokens) = some (.identifier name)
  · obtain ⟨name, next⟩ := named
    obtain ⟨span, rest, start⟩ := exists_of_nextToken next
    rw [start]
    refine .bind_again (agrees_tried _ _) ?_ fun read =>
      (start ▸ skipped).trans_zero ((advances_reader (declares _)).taken read)
    rw [behind_congr (reader_members_declaration next), behind_bind, start]
    simp only [behind_more]
  · have ends : Goes (fun found => behind found (reader (members wanted declaration))) found tokens
        (some (.error ⟨wanted, (afterDocs tokens).head?⟩)) :=
      .refused (Tracks.bind_eq_error (reader_members_refused closes marked fun name next =>
        named ⟨name, next⟩))
    generalize afterDocs tokens = ahead at *
    match ahead with
    | [] => exact ends
    | ⟨token, span⟩ :: rest =>
        cases token with
        | rightBrace => exact absurd rfl closes
        | doubleAtSign => exact absurd rfl marked
        | identifier name => exact absurd ⟨name, rfl⟩ named
        | _ => exact ends

theorem goes_braceRound (depth : Nat) (tokens : List Lexeme) :
    Goes skipped depth tokens (braceRound depth tokens) := by
  match depth, tokens with
  | 0, tokens => exact .leave (.refl tokens) rfl
  | depth + 1, [] => exact .refused rfl
  | depth + 1, ⟨token, span⟩ :: rest =>
    cases token with
    | leftBrace => exact .again (.cons _ rest) (result_weaken _ _)
    | rightBrace =>
        refine .again (.cons _ rest) ((reader_skipBraces_close depth span).trans ?_)
        cases depth with
        | zero => rfl
        | succ depth => rfl
    | _ => exact .again (.cons _ rest) (result_weaken _ _)

theorem allBlocks_done (ends : afterDocs tokens = []) : allBlocks tokens = .ok ([], []) := by
  have all : ∀ lexeme ∈ tokens, isDoc lexeme = true := List.dropWhile_eq_nil_iff.mp ends
  rw [allBlocks, blocks_docs all]
  rfl

theorem allBlocks_block (goesOn : afterDocs tokens ≠ []) :
    allBlocks tokens = (do
      let first ← blockFrom (documentation tokens)
      return first :: (← allBlocks)) (afterDocs tokens) := by
  obtain ⟨docs, ahead, rfl, all, plain⟩ := exists_docs tokens
  rw [afterDocs_append all plain] at goesOn ⊢
  rw [allBlocks, blocks_append all plain goesOn, documentation_append all plain]
  cases first : blockFrom (documentation docs) ahead with
  | error mismatch =>
      rw [Tracks.bind_eq_error first]
      rfl
  | ok found =>
      obtain ⟨block, rest⟩ := found
      rw [Tracks.bind_eq_ok first]
      change Except.map _ (blocks rest >>= fun others => pure (block :: others)) = _
      cases more : blocks rest with
      | error mismatch =>
          have refused : allBlocks rest = .error mismatch := by
            rw [allBlocks, more]
            rfl
          rw [Tracks.bind_eq_error refused]
          rfl
      | ok others =>
          have whole : allBlocks rest = .ok (others, []) := by
            rw [allBlocks, more]
            rfl
          rw [Tracks.bind_eq_ok whole]
          rfl

theorem goes_blockRound (found : List Block) (tokens : List Lexeme) :
    Goes (fun found => behind found allBlocks) found tokens (blockRound found tokens) := by
  have skipped := Takes.afterDocs tokens
  rw [blockRound, bind_takenDocs, bind_peeked]
  by_cases ends : afterDocs tokens = []
  · rw [ends] at skipped ⊢
    exact .leave skipped (behind_none (allBlocks_done ends) found)
  · have whole := behind_congr (allBlocks_block ends) found
    rw [behind_bind] at whole
    simp only [behind_more] at whole
    generalize afterDocs tokens = ahead at *
    match ahead with
    | [] => exact absurd rfl ends
    | lexeme :: rest => exact .bind_again (agrees_tried _ _) whole fun read =>
        skipped.trans_zero (advances_blockFrom.taken read)

end Loops

end Modelwright.Source
