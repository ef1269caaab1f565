import Modelwright.Format.Json.Reader
import Modelwright.Models.Imports
import Modelwright.Models.Members
import Modelwright.Outline.Basic
import Modelwright.Target.Syntax

namespace Modelwright

open Modelwright.Target

/-- What declarations depend on beyond their member. -/
structure Frame where
  schema : Schema
  settings : Settings
  extension : Option ExtensionModule

namespace Frame

def casing (frame : Frame) : Casing :=
  .ofSettings frame.settings

def extensionClass? (frame : Frame) (className : String) : Option OutlineClass :=
  frame.extension.bind (·.class? className)

end Frame

def fieldsMember (name : String) : Expr :=
  .member (.name "fields") name

def typingMember (name : String) : Expr :=
  .member (.name "typing") name

abbrev Keyword := String × Expr

def textKeyword (key : String) (value : Option String) : List Keyword :=
  (value.map fun text => (key, Expr.text text)).toList

def flagKeyword (key : String) (flag : Bool) : List Keyword :=
  if flag then [(key, .bool true)] else []

def sizeKeyword (key : String) (size : Nat) : Keyword :=
  (key, .int size)

namespace ScalarType

def fieldClass : ScalarType → String
  | .int => "IntField"
  | .bigInt => "BigIntField"
  | .float => "FloatField"
  | .decimal => "DecimalField"
  | .boolean => "BooleanField"
  | .string => "CharField"
  | .dateTime => "DatetimeField"
  | .json => "JSONField"
  | .bytes => "BinaryField"

end ScalarType

namespace FieldType

def fieldClass : FieldType → String
  | .scalar type => type.fieldClass
  | .varchar _ => "CharField"
  | .fixed _ _ => "DecimalField"
  | .enumeration _ => "CharEnumField"

/-- The sizes or the enumeration that the type needs; the settings give sizes it lacks. -/
def keywords (casing : Casing) (sizes : FieldSizes) : FieldType → List Keyword
  | .scalar .string => [sizeKeyword "max_length" sizes.stringLength]
  | .scalar .decimal =>
    [sizeKeyword "max_digits" sizes.decimalDigits, sizeKeyword "decimal_places" sizes.decimalPlaces]
  | .scalar _ => []
  | .varchar length => [sizeKeyword "max_length" length]
  | .fixed precision scale =>
    [sizeKeyword "max_digits" precision, sizeKeyword "decimal_places" scale]
  | .enumeration name => [("enum_type", .name (casing.className name))]

end FieldType

/-- An integer of 64 bits, written with or without a sign. -/
def integerOfText? (text : String) : Option Int :=
  let (negative, digits) := match text.toList with
    | '-' :: rest => (true, rest)
    | '+' :: rest => (false, rest)
    | chars => (false, chars)
  if digits.isEmpty || !digits.all Char.isDigit then none
  else
    let n : Nat := digits.foldl (fun value c => value * 10 + (c.toNat - '0'.toNat)) 0
    let value : Int := if negative then -n else n
    if -0x8000000000000000 ≤ value ∧ value < 0x8000000000000000 then some value else none

/-- A literal default.  Text may stand for a member of an enumeration, for a data value or for an
integer, by the type of the field. -/
def literalDefault (casing : Casing) (type : FieldType) (value : Json) : Expr :=
  match type, value with
  | .enumeration name, .string text => .member (.name (casing.className name)) text
  | .scalar .json, .string text =>
    match Json.ofText? text with
    | some parsed => .data parsed
    | none => .text text
  | type, .string text =>
    if type.isInteger then
      match integerOfText? text with
      | some n => .int n
      | none => .text text
    else .data (.string text)
  | _, value => .data value

/-- Whether an expression is a display of a list or a dictionary, which must not be shared. -/
def isContainer : Expr → Bool
  | .data (.array _) => true
  | .data (.object _) => true
  | _ => false

def literalKeyword (casing : Casing) (type : FieldType) (value : Json) : Keyword :=
  let literal := literalDefault casing type value
  ("default", if type = .scalar .json ∧ isContainer literal then .thunk literal else literal)

def randomText : Expr :=
  .thunk (.call (.name "str") [.call (.member (.name "uuid") "uuid4") [] []] [])

/-- The keywords of a generated default; none if the library has no counterpart. -/
def generatorKeywords? (field : Field) : Generator → Option (List Keyword)
  | .autoincrement => some (if field.primaryKey then [] else [("generated", .bool true)])
  | .dbGenerated => some [("generated", .bool true)]
  | .now =>
    if field.type.isDateTime then
      some (if field.updatedAt then [] else [("auto_now_add", .bool true)])
    else none
  | .uuid => if field.type.isText then some [("default", randomText)] else none
  | .cuid => none

def Generator.libraries : Generator → List Library
  | .uuid => [.uuid]
  | _ => []

def defaultKeywords {ε : Type} (casing : Casing) (owner : String) (field : Field) :
    Rendered ε (List Keyword) :=
  match field.default with
  | none => return []
  | some (.literal value) => return [literalKeyword casing field.type value]
  | some (.generator generator) =>
    match generatorKeywords? field generator with
    | some keywords => do
      Rendered.request generator.libraries
      return keywords
    | none => do
      Rendered.warn (.defaultOnlyDocumented owner generator.functionName)
      return []

def updatedAtKeywords {ε : Type} (owner : String) (field : Field) : Logged ε (List Keyword) :=
  if !field.updatedAt then return []
  else if field.type.isDateTime then return [("auto_now", .bool true)]
  else do
    Logged.warn (.updatedAtIgnored owner)
    return []

def keyKeywords (field : Field) : List Keyword :=
  if field.primaryKey then
    ("pk", .bool true) ::
      if field.type.isInteger && !field.isAutoincrement then [("generated", .bool false)] else []
  else []

def fieldKeywords {ε : Type} (frame : Frame) (owner : String) (field : Field) :
    Rendered ε (List Keyword) := do
  let default ← defaultKeywords frame.casing owner field
  let updatedAt ← (updatedAtKeywords owner field : Logged ε (List Keyword))
  return textKeyword "source_field" field.column ++ keyKeywords field ++
    field.type.keywords frame.casing frame.settings.fieldSizes ++ default ++ updatedAt ++
    flagKeyword "unique" field.unique ++ flagKeyword "null" field.nullable ++
    textKeyword "description" field.description

def fieldDeclaration {ε : Type} (frame : Frame) (entity : String) (field : Field) :
    Rendered ε Declaration := do
  let keywords ← fieldKeywords frame (entity ++ "." ++ field.name) field
  return .assigned (frame.casing.valueName field.name)
    (.call (fieldsMember field.type.fieldClass) [] keywords)

namespace Relation

def fieldFunction (relation : Relation) : String :=
  if relation.isOneToOne then "OneToOneField" else "ForeignKeyField"

def annotationName (relation : Relation) : String :=
  if relation.isOneToOne then "OneToOneRelation" else "ForeignKeyRelation"

end Relation

/-- The field that a relation refers to: the one it leads to, or else the one it names. -/
def referredField (schema : Schema) (relation : Relation) : Option String :=
  ((schema.targetField? relation).map (·.name)).or relation.toField

def deletePolicyExpr (policy : DeletePolicy) : Expr :=
  fieldsMember (Naming.screamingSnakeCase policy.sourceName)

def relationKeywords (frame : Frame) (entity : String) (relation : Relation) : List Keyword :=
  let casing := frame.casing
  [("source_field", .text relation.sourceColumn),
    ("model_name",
      .text (Naming.modelReference frame.settings.appName (casing.className relation.target)))] ++
    textKeyword "to_field" ((referredField frame.schema relation).map casing.valueName) ++
    [("related_name", .text (casing.valueName (relation.reverseName entity)))] ++
    ((relation.onDelete.filter (· ≠ .noAction)).map fun policy =>
      ("on_delete", deletePolicyExpr policy)).toList ++
    flagKeyword "null" relation.nullable ++ textKeyword "description" relation.description

def relationDeclaration (frame : Frame) (entity : String) (relation : Relation) : Declaration :=
  let target := Expr.text (frame.casing.className relation.target)
  .annotatedAssigned (frame.casing.valueName relation.name)
    (.subscript (fieldsMember relation.annotationName)
      [.subscript (typingMember "Union") [target, typingMember "Any"]])
    (.call (fieldsMember relation.fieldFunction) [] (relationKeywords frame entity relation))

def declareRelation {ε : Type} (frame : Frame) (entity : String) (relation : Relation) :
    Rendered ε Declaration := do
  Rendered.request [.typing]
  return relationDeclaration frame entity relation

namespace ReverseRelation

def annotationName (reverse : ReverseRelation) : String :=
  if reverse.isCollection then "ReverseRelation" else "BackwardOneToOneRelation"

end ReverseRelation

def reverseDeclaration (casing : Casing) (reverse : ReverseRelation) : Declaration :=
  .annotated (casing.valueName reverse.name)
    (.subscript (fieldsMember reverse.annotationName)
      [.text (casing.className reverse.owner.name)])

def memberDeclaration {ε : Type} (frame : Frame) (entity : String) :
    Member → Rendered ε Declaration
  | .field field => fieldDeclaration frame entity field
  | .relation relation => declareRelation frame entity relation
  | .reverse reverse => return reverseDeclaration frame.casing reverse

end Modelwright
