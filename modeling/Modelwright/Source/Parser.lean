import Modelwright.Source.Lexer
import Modelwright.Source.Syntax

namespace Modelwright.Source

open Modelwright.Text

/-! Reading of documents by recursive descent.  Every reader says how much of the tokens it leaves:
fewer than it was given, or for the optional parts not more. -/

abbrev Parsed (α : Type) (bound : Nat) := Except Mismatch (Reading Lexeme bound α)

def expectToken (token : Token) (tokens : List Lexeme) : Parsed Span tokens.length :=
  match tokens with
  | [] => .error ⟨.token token, none⟩
  | found :: rest =>
    if found.token = token then .ok ⟨found.span, rest, Nat.lt_succ_self _⟩
    else .error ⟨.token token, some found⟩

def expectName (wanted : Expectation) (tokens : List Lexeme) : Parsed Name tokens.length :=
  match tokens with
  | [] => .error ⟨wanted, none⟩
  | ⟨.identifier name, span⟩ :: rest => .ok ⟨⟨name, span⟩, rest, Nat.lt_succ_self _⟩
  | found :: _ => .error ⟨wanted, some found⟩

def expectText (tokens : List Lexeme) : Parsed String tokens.length :=
  match tokens with
  | [] => .error ⟨.text, none⟩
  | ⟨.text value, _⟩ :: rest => .ok ⟨value, rest, Nat.lt_succ_self _⟩
  | found :: _ => .error ⟨.text, some found⟩

mutual

def expr (tokens : List Lexeme) : Parsed Expr tokens.length :=
  match tokens with
  | [] => .error ⟨.value, none⟩
  | ⟨.text value, _⟩ :: rest => .ok ⟨.text value, rest, Nat.lt_succ_self _⟩
  | ⟨.number digits, _⟩ :: rest => .ok ⟨.number digits, rest, Nat.lt_succ_self _⟩
  | ⟨.identifier name, _⟩ :: rest =>
    if name = "true" then .ok ⟨.boolean true, rest, Nat.lt_succ_self _⟩
    else if name = "false" then .ok ⟨.boolean false, rest, Nat.lt_succ_self _⟩
    else
      match rest with
      | ⟨.leftParen, _⟩ :: inside => do
        let read ← arguments inside
        return (read.map fun value => .call name value.1).weaken
          (by simp only [List.length_cons]; omega)
      | after => .ok ⟨.constant name, after, Nat.lt_succ_self _⟩
  | ⟨.leftBracket, _⟩ :: rest => do
    let read ← items rest
    return (read.map .array).weaken (by simp)
  | found :: _ => .error ⟨.value, some found⟩
termination_by (tokens.length, 0)

/-- The items of an array through its closing bracket; a comma may stand behind the last. -/
def items (tokens : List Lexeme) : Parsed (List Expr) tokens.length :=
  match tokens with
  | ⟨.rightBracket, _⟩ :: rest => .ok ⟨[], rest, Nat.lt_succ_self _⟩
  | tokens => do
    let first ← expr tokens
    have hfirst := first.shorter
    match hrest : first.rest with
    | ⟨.comma, _⟩ :: after =>
      have : after.length < tokens.length := by
        simp only [hrest, List.length_cons] at hfirst
        omega
      let more ← items after
      return (more.map (first.value :: ·)).weaken (by omega)
    | rest =>
      let close ← expectToken .rightBracket rest
      return ⟨[first.value], close.rest, by
        have := close.shorter
        rw [hrest] at hfirst
        omega⟩
termination_by (tokens.length, 1)

def argument (tokens : List Lexeme) : Parsed Argument tokens.length :=
  match tokens with
  | ⟨.identifier name, _⟩ :: ⟨.colon, _⟩ :: rest => do
    let read ← expr rest
    return (read.map (.mk (some name))).weaken (by simp only [List.length_cons]; omega)
  | tokens => do
    let read ← expr tokens
    return read.map (.mk none)
termination_by (tokens.length, 1)

def arguments (tokens : List Lexeme) : Parsed (List Argument × Nat) tokens.length :=
  match tokens with
  | ⟨.rightParen, span⟩ :: rest => .ok ⟨([], span.stop), rest, Nat.lt_succ_self _⟩
  | tokens => do
    let first ← argument tokens
    have hfirst := first.shorter
    match hrest : first.rest with
    | ⟨.comma, _⟩ :: after =>
      have : after.length < tokens.length := by
        simp only [hrest, List.length_cons] at hfirst
        omega
      let more ← arguments after
      return (more.map fun value => (first.value :: value.1, value.2)).weaken (by omega)
    | rest =>
      let close ← expectToken .rightParen rest
      return ⟨([first.value], close.value.stop), close.rest, by
        have := close.shorter
        rw [hrest] at hfirst
        omega⟩
termination_by (tokens.length, 2)

end

def dotted (name : Name) : (tokens : List Lexeme) → Parsed Name (tokens.length + 1)
  | ⟨.dot, _⟩ :: ⟨.identifier part, span⟩ :: rest => do
    let read ← dotted ⟨name.text ++ "." ++ part, name.span.merge span⟩ rest
    return read.weaken (by simp)
  | ⟨.dot, _⟩ :: rest => .error ⟨.identifier, rest.head?⟩
  | tokens => .ok ⟨name, tokens, Nat.lt_succ_self _⟩

def optionalArguments (stop : Nat) (tokens : List Lexeme) :
    Parsed (List Argument × Nat) (tokens.length + 1) :=
  match tokens with
  | ⟨.leftParen, _⟩ :: inside => do
    let read ← arguments inside
    return read.weaken (by simp only [List.length_cons]; omega)
  | tokens => .ok ⟨([], stop), tokens, Nat.lt_succ_self _⟩

def markAfter (sign : Span) (tokens : List Lexeme) : Parsed Attribute tokens.length := do
  let first ← expectName .attributeName tokens
  let name ← dotted first.value first.rest
  let arguments ← optionalArguments name.value.span.stop name.rest
  return ⟨⟨name.value, arguments.value.1, ⟨sign.start, arguments.value.2⟩⟩, arguments.rest, by
    have h1 := first.shorter
    have h2 := name.shorter
    have h3 := arguments.shorter
    omega⟩

def attributes (tokens : List Lexeme) : Parsed (List Attribute) (tokens.length + 1) :=
  match tokens with
  | ⟨.atSign, sign⟩ :: rest => do
    let first ← markAfter sign rest
    have hfirst := first.shorter
    let more ← attributes first.rest
    return (more.map (first.value :: ·)).weaken (by simp only [List.length_cons]; omega)
  | tokens => .ok ⟨[], tokens, Nat.lt_succ_self _⟩
termination_by tokens.length

def isDoc (lexeme : Lexeme) : Bool :=
  match lexeme.token with
  | .doc _ => true
  | _ => false

def docText? (lexeme : Lexeme) : Option String :=
  match lexeme.token with
  | .doc text => some text
  | _ => none

/-- The doc comments in front, a line each, unless they are all blank. -/
def documentation (tokens : List Lexeme) : Option String :=
  let text := trimText ("\n".intercalate ((tokens.takeWhile isDoc).filterMap docText?))
  if text.isEmpty then none else some text

def afterDocs (tokens : List Lexeme) : List Lexeme :=
  tokens.dropWhile isDoc

theorem length_afterDocs_le (tokens : List Lexeme) : (afterDocs tokens).length ≤ tokens.length :=
  length_dropWhile_le _ _

/-- The database type in parentheses, for the name that announces one. -/
def unsupportedType (name : Name) (tokens : List Lexeme) :
    Parsed (Option String × Nat) (tokens.length + 1) :=
  match tokens with
  | ⟨.leftParen, span⟩ :: inside =>
    if name.text = "Unsupported" then do
      let type ← expectText inside
      let close ← expectToken .rightParen type.rest
      return ⟨(some type.value, close.value.stop), close.rest, by
        have h1 := type.shorter
        have h2 := close.shorter
        simp only [List.length_cons]
        omega⟩
    else .ok ⟨(none, name.span.stop), ⟨.leftParen, span⟩ :: inside, Nat.lt_succ_self _⟩
  | tokens => .ok ⟨(none, name.span.stop), tokens, Nat.lt_succ_self _⟩

def arity (stop : Nat) (tokens : List Lexeme) : Parsed (Arity × Nat) (tokens.length + 1) :=
  match tokens with
  | ⟨.leftBracket, _⟩ :: rest => do
    let close ← expectToken .rightBracket rest
    return ⟨(.list, close.value.stop), close.rest, by
      have := close.shorter
      simp only [List.length_cons]
      omega⟩
  | ⟨.question, span⟩ :: rest =>
    .ok ⟨(.optional, span.stop), rest, by simp only [List.length_cons]; omega⟩
  | tokens => .ok ⟨(.required, stop), tokens, Nat.lt_succ_self _⟩

def typeRef (tokens : List Lexeme) : Parsed (TypeRef × Nat) tokens.length := do
  let name ← expectName .identifier tokens
  let unsupported ← unsupportedType name.value name.rest
  let arity ← arity unsupported.value.2 unsupported.rest
  return ⟨(⟨name.value, arity.value.1, unsupported.value.1⟩, arity.value.2), arity.rest, by
    have h1 := name.shorter
    have h2 := unsupported.shorter
    have h3 := arity.shorter
    omega⟩

def endOfAttributes (stop : Nat) (attributes : List Attribute) : Nat :=
  (attributes.getLast?.map (·.span.stop)).getD stop

def field (documentation : Option String) (tokens : List Lexeme) :
    Parsed FieldDecl tokens.length := do
  let name ← expectName .identifier tokens
  let type ← typeRef name.rest
  let marks ← attributes type.rest
  return ⟨⟨name.value, type.value.1, marks.value, documentation,
      ⟨name.value.span.start, endOfAttributes type.value.2 marks.value⟩⟩, marks.rest, by
    have h1 := name.shorter
    have h2 := type.shorter
    have h3 := marks.shorter
    omega⟩

def enumValue (documentation : Option String) (tokens : List Lexeme) :
    Parsed EnumValueDecl tokens.length := do
  let name ← expectName .identifier tokens
  let marks ← attributes name.rest
  return ⟨⟨name.value, documentation, marks.value⟩, marks.rest, by
    have h1 := name.shorter
    have h2 := marks.shorter
    omega⟩

/-- What stands in the braces of a block: declarations and block attributes. -/
inductive Member (α : Type) where
  | declaration (value : α)
  | mark (mark : Attribute)

namespace Member

def declaration? : Member α → Option α
  | declaration value => some value
  | mark _ => none

def mark? : Member α → Option Attribute
  | declaration _ => none
  | mark value => some value

end Member

def members (wanted : Expectation)
    (declaration : Option String → (tokens : List Lexeme) → Parsed α tokens.length)
    (tokens : List Lexeme) : Parsed (List (Member α)) tokens.length :=
  have hdocs := length_afterDocs_le tokens
  match hafter : afterDocs tokens with
  | ⟨.rightBrace, _⟩ :: rest => .ok ⟨[], rest, by
      simp only [hafter, List.length_cons] at hdocs
      omega⟩
  | ⟨.doubleAtSign, sign⟩ :: rest => do
    let first ← markAfter sign rest
    have hfirst : first.rest.length < tokens.length := by
      have := first.shorter
      simp only [hafter, List.length_cons] at hdocs
      omega
    let more ← members wanted declaration first.rest
    return (more.map (.mark first.value :: ·)).weaken (by omega)
  | ⟨.identifier name, span⟩ :: rest => do
    let first ← declaration (documentation tokens) (⟨.identifier name, span⟩ :: rest)
    have hfirst : first.rest.length < tokens.length := by
      have := first.shorter
      simp only [hafter] at hdocs
      omega
    let more ← members wanted declaration first.rest
    return (more.map (.declaration first.value :: ·)).weaken (by omega)
  | found => .error ⟨wanted, found.head?⟩
termination_by tokens.length

/-- The properties of a block through its closing brace; doc comments between them are dropped. -/
def properties (tokens : List Lexeme) : Parsed (List Property) tokens.length :=
  have hdocs := length_afterDocs_le tokens
  match hafter : afterDocs tokens with
  | ⟨.rightBrace, _⟩ :: rest => .ok ⟨[], rest, by
      simp only [hafter, List.length_cons] at hdocs
      omega⟩
  | rest => do
    let key ← expectName .identifier rest
    let equals ← expectToken .equals key.rest
    let value ← expr equals.rest
    have hvalue : value.rest.length < tokens.length := by
      have h1 := key.shorter
      have h2 := equals.shorter
      have h3 := value.shorter
      rw [hafter] at hdocs
      omega
    let more ← properties value.rest
    return (more.map (⟨key.value, value.value⟩ :: ·)).weaken (by omega)
termination_by tokens.length

/-- The rest of a block whose braces are balanced, when `depth` more are open. -/
def skipBraces (depth : Nat) : (tokens : List Lexeme) → Parsed Unit tokens.length
  | [] => .error ⟨.token .rightBrace, none⟩
  | lexeme :: rest => do
    match lexeme.token, depth with
    | .leftBrace, depth => return (← skipBraces (depth + 1) rest).weaken (Nat.le_succ _)
    | .rightBrace, 0 => return ⟨(), rest, Nat.lt_succ_self _⟩
    | .rightBrace, depth + 1 => return (← skipBraces depth rest).weaken (Nat.le_succ _)
    | _, depth => return (← skipBraces depth rest).weaken (Nat.le_succ _)

def blockName (tokens : List Lexeme) : Parsed Name tokens.length := do
  let name ← expectName .identifier tokens
  let brace ← expectToken .leftBrace name.rest
  return ⟨name.value, brace.rest, by
    have h1 := name.shorter
    have h2 := brace.shorter
    omega⟩

def propertyBlock (tokens : List Lexeme) : Parsed PropertyBlock tokens.length := do
  let name ← blockName tokens
  let body ← properties name.rest
  return (body.map fun properties => ⟨name.value, properties⟩).weaken (Nat.le_of_lt name.shorter)

def modelBlock (documentation : Option String) (tokens : List Lexeme) :
    Parsed ModelBlock tokens.length := do
  let name ← blockName tokens
  let body ← members .modelMember field name.rest
  return (body.map fun members => {
      name := name.value
      documentation
      fields := members.filterMap Member.declaration?
      attributes := members.filterMap Member.mark? }).weaken (Nat.le_of_lt name.shorter)

def enumBlock (documentation : Option String) (tokens : List Lexeme) :
    Parsed EnumBlock tokens.length := do
  let name ← blockName tokens
  let body ← members .enumMember enumValue name.rest
  return (body.map fun members => {
      name := name.value
      documentation
      values := members.filterMap Member.declaration?
      attributes := members.filterMap Member.mark? }).weaken (Nat.le_of_lt name.shorter)

def otherBlock (keyword : String) (tokens : List Lexeme) : Parsed Block tokens.length := do
  let name ← blockName tokens
  let body ← skipBraces 0 name.rest
  return (body.map fun _ => .other keyword name.value).weaken (Nat.le_of_lt name.shorter)

def blockAfter (documentation : Option String) (keyword : Name) (tokens : List Lexeme) :
    Parsed Block tokens.length :=
  if keyword.text = "datasource" then return (← propertyBlock tokens).map .datasource
  else if keyword.text = "generator" then return (← propertyBlock tokens).map .generator
  else if keyword.text = "model" then return (← modelBlock documentation tokens).map .model
  else if keyword.text = "enum" then return (← enumBlock documentation tokens).map .enumeration
  else if keyword.text = "type" ∨ keyword.text = "view" then otherBlock keyword.text tokens
  else .error ⟨.blockKeyword, some ⟨.identifier keyword.text, keyword.span⟩⟩

def blocks (tokens : List Lexeme) : Except Mismatch (List Block) :=
  match hafter : afterDocs tokens with
  | [] => .ok []
  | first :: rest => do
    let keyword ← expectName .identifier (first :: rest)
    let block ← blockAfter (documentation tokens) keyword.value keyword.rest
    have : block.rest.length < tokens.length := by
      have h1 := keyword.shorter
      have h2 := block.shorter
      have h3 := length_afterDocs_le tokens
      rw [hafter] at h3
      omega
    return block.value :: (← blocks block.rest)
termination_by tokens.length

def parseDocument (tokens : List Lexeme) : Except Mismatch Document := do
  return ⟨← blocks tokens⟩

def parse (source : String) : Except ParseError Document := do
  let tokens ← tokenize source
  match parseDocument tokens with
  | .ok document => return document
  | .error mismatch => throw (mismatch.error (byteLength source.toList))

end Modelwright.Source
