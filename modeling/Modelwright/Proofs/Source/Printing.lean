import Modelwright.Proofs.Source.Lexing
import Modelwright.Proofs.Source.Places

namespace Modelwright.Source

open Modelwright.Text

mutual

def Expr.tokens : Expr → List Token
  | .text value => [.text value]
  | .number digits => [.number digits]
  | .boolean true => [.identifier "true"]
  | .boolean false => [.identifier "false"]
  | .constant name => [.identifier name]
  | .call function arguments => .identifier function :: .leftParen :: argumentsTokens arguments
  | .array items => .leftBracket :: itemsTokens items

def itemsTokens : List Expr → List Token
  | [] => [.rightBracket]
  | [item] => item.tokens ++ [.rightBracket]
  | item :: others => item.tokens ++ .comma :: itemsTokens others

def Argument.tokens : Argument → List Token
  | .mk (some name) value => .identifier name :: .colon :: value.tokens
  | .mk none value => value.tokens

def argumentsTokens : List Argument → List Token
  | [] => [.rightParen]
  | [argument] => argument.tokens ++ [.rightParen]
  | argument :: others => argument.tokens ++ .comma :: argumentsTokens others

end

/-- A doc comment for each line. -/
def docTokens : Option String → List Token
  | none => []
  | some text => (pieces '\n' text.toList).map fun line => .doc (String.ofList line)

def dotTokens (parts : List (List Char)) : List Token :=
  parts.flatMap fun part => [.dot, .identifier (String.ofList part)]

def dottedTokens (name : String) : List Token :=
  match pieces '.' name.toList with
  | [] => []
  | first :: parts => .identifier (String.ofList first) :: dotTokens parts

def optionalArgumentsTokens : List Argument → List Token
  | [] => []
  | arguments => .leftParen :: argumentsTokens arguments

namespace Attribute

def tokens (mark : Attribute) : List Token :=
  dottedTokens mark.name.text ++ optionalArgumentsTokens mark.arguments

end Attribute

def marksTokens (sign : Token) (marks : List Attribute) : List Token :=
  marks.flatMap fun mark => sign :: mark.tokens

def Arity.tokens : Arity → List Token
  | .required => []
  | .optional => [.question]
  | .list => [.leftBracket, .rightBracket]

def unsupportedTokens : Option String → List Token
  | none => []
  | some type => [.leftParen, .text type, .rightParen]

namespace TypeRef

def tokens (type : TypeRef) : List Token :=
  .identifier type.name.text :: unsupportedTokens type.unsupported ++ type.arity.tokens

end TypeRef

namespace FieldDecl

def tokens (field : FieldDecl) : List Token :=
  .identifier field.name.text :: field.type.tokens ++ marksTokens .atSign field.attributes

end FieldDecl

namespace EnumValueDecl

def tokens (value : EnumValueDecl) : List Token :=
  .identifier value.name.text :: marksTokens .atSign value.attributes

end EnumValueDecl

namespace Property

def tokens (property : Property) : List Token :=
  .identifier property.key.text :: .equals :: property.value.tokens

end Property

def blockTokens (keyword name : String) (body : List Token) : List Token :=
  .identifier keyword :: .identifier name :: .leftBrace :: body ++ [.rightBrace]

namespace Block

def tokens : Block → List Token
  | datasource block =>
    blockTokens "datasource" block.name.text (block.properties.flatMap (·.tokens))
  | generator block =>
    blockTokens "generator" block.name.text (block.properties.flatMap (·.tokens))
  | model block =>
    docTokens block.documentation ++ blockTokens "model" block.name.text
      ((block.fields.flatMap fun field => docTokens field.documentation ++ field.tokens) ++
        marksTokens .doubleAtSign block.attributes)
  | enumeration block =>
    docTokens block.documentation ++ blockTokens "enum" block.name.text
      ((block.values.flatMap fun value => docTokens value.documentation ++ value.tokens) ++
        marksTokens .doubleAtSign block.attributes)
  | other keyword name => blockTokens keyword name.text []

end Block

namespace Document

def tokens (d : Document) : List Token :=
  d.blocks.flatMap (·.tokens)

end Document

/-- What stands between a token and the next: a doc comment takes its line. -/
def Token.separator : Token → Char
  | .doc _ => '\n'
  | _ => ' '

theorem Token.isGap_separator (token : Token) : isGap token.separator = true := by
  cases token <;> rfl

theorem Token.ends_separator (token : Token) (rest : List Char) :
    token.Ends ([token.separator] ++ rest) := by
  cases token with
  | doc line =>
      rw [Ends, separator, List.singleton_append, List.takeWhile_cons_of_neg (by decide)]
      exact List.forall_mem_nil _
  | _ =>
      rintro c first
      cases first
      rfl

namespace Document

def print (d : Document) : String :=
  String.ofList (d.tokens.flatMap fun token => token.spelling ++ [token.separator])

/-- The text is the document, with its tokens set apart by gaps. -/
def PrintsAs (d : Document) (text : String) : Prop :=
  LaidOut d.tokens text.toList

theorem printsAs_print (d : Document) : d.PrintsAs d.print := by
  rw [PrintsAs, print, String.toList_ofList]
  induction d.tokens with
  | nil => exact .gap (List.forall_mem_nil _)
  | cons token others ih =>
      have separated : ∀ c ∈ [token.separator], isGap c = true := by
        simp [token.isGap_separator]
      rw [List.flatMap_cons, List.append_assoc, ← List.nil_append (token.spelling ++ _)]
      exact .token (List.forall_mem_nil _) (token.ends_separator _) (ih.behind separated)

end Document

end Modelwright.Source
