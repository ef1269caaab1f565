import Modelwright.Schema.Basic
import Modelwright.Source.Parser
import Modelwright.Warning

namespace Modelwright.Source

/-! Schemas of documents.  What a schema cannot express is an error; a mark that means nothing to it
is a warning. -/

inductive LowerError where
  | unsupportedBlock (keyword name : String)
  | unknownType (model field type : String)
  | unsupportedType (model field type : String)
  | scalarList (model field : String)
  | compositeId (model : String)
  | compositeRelation (model field : String)
  | missingReferences (model field : String)
  | unknownForeignKeyField (model field key : String)
  | missingOppositeRelation (model field target : String)
  | manyToMany (model field target : String)
  | listWithForeignKey (model field : String)
  | invalidReferentialAction (model field action : String)
  | invalidAttributeArgument (owner mark : String)
  deriving DecidableEq, Repr

namespace LowerError

def message : LowerError → String
  | unsupportedBlock keyword name => "'" ++ keyword ++ " " ++ name ++ "' blocks are not supported"
  | unknownType model field type =>
    "field " ++ model ++ "." ++ field ++ " has unknown type '" ++ type ++ "'"
  | unsupportedType model field type =>
    "field " ++ model ++ "." ++ field ++ " uses an Unsupported(\"" ++ type ++ "\") type"
  | scalarList model field =>
    "field " ++ model ++ "." ++ field ++ " is a scalar list, which has no Tortoise field"
  | compositeId model => "model '" ++ model ++ "' declares a composite primary key (@@id)"
  | compositeRelation model field =>
    "relation " ++ model ++ "." ++ field ++ " spans more than one column"
  | missingReferences model field =>
    "relation " ++ model ++ "." ++ field ++ " declares fields but no references"
  | unknownForeignKeyField model field key =>
    "relation " ++ model ++ "." ++ field ++ " names '" ++ key ++
      "' in fields, which is not a scalar field of '" ++ model ++ "'"
  | missingOppositeRelation model field target =>
    "relation " ++ model ++ "." ++ field ++ " has no opposite relation field on '" ++ target ++ "'"
  | manyToMany model field target =>
    "relation " ++ model ++ "." ++ field ++ " to '" ++ target ++
      "' is an implicit many-to-many relation"
  | listWithForeignKey model field =>
    "relation " ++ model ++ "." ++ field ++ " is a list but declares its foreign key fields"
  | invalidReferentialAction model field action =>
    "relation " ++ model ++ "." ++ field ++ " has unknown referential action '" ++ action ++ "'"
  | invalidAttributeArgument owner mark => owner ++ ": invalid argument for @" ++ mark

end LowerError

/-- A generator block.  Its options are the properties that no engine interprets. -/
structure GeneratorBlock where
  name : String
  provider : Option String
  output : Option String
  options : List (String × String)
  deriving DecidableEq, Repr, Inhabited

structure Declarations where
  schema : Schema
  generators : List GeneratorBlock
  deriving Inhabited

abbrev Lowered := Logged LowerError

structure Scope where
  models : List ModelBlock
  enums : List EnumBlock

inductive Resolved where
  | scalar (type : ScalarType)
  | enumeration (name : String)
  | model (target : ModelBlock)

namespace Scope

def model? (scope : Scope) (name : String) : Option ModelBlock :=
  scope.models.find? (·.name.text = name)

/-- Scalar types come before enumerations, enumerations before models. -/
def resolveName? (scope : Scope) (name : String) : Option Resolved :=
  ((ScalarType.ofSourceName? name).map Resolved.scalar).or <|
    ((scope.enums.find? (·.name.text = name)).map fun e => Resolved.enumeration e.name.text).or <|
      (scope.model? name).map .model

def resolve (scope : Scope) (owner : ModelBlock) (field : FieldDecl) :
    Except LowerError Resolved :=
  match field.type.unsupported with
  | some type => .error (.unsupportedType owner.name.text field.name.text type)
  | none =>
    match scope.resolveName? field.type.name.text with
    | some resolved => .ok resolved
    | none => .error (.unknownType owner.name.text field.name.text field.type.name.text)

end Scope

def nameArgument (owner : String) (mark : Attribute) : Except LowerError String :=
  match (mark.main? "name").bind Expr.text? with
  | some text => .ok text
  | none => .error (.invalidAttributeArgument owner mark.name.text)

def sizeOfExpr? : Expr → Option Nat
  | .number digits =>
    if digits.toList.all Char.isDigit then
      let n := digits.toList.foldl (fun value c => value * 10 + (c.toNat - '0'.toNat)) 0
      if n < 1 <<< 32 then some n else none
    else none
  | _ => none

def digitsValue (digits : List Char) : Nat :=
  digits.foldl (fun value c => value * 10 + (c.toNat - '0'.toNat)) 0

/-- The value of a number token: an integer of 64 bits, or else the nearest fraction. -/
def numberOfDigits? (text : String) : Option Number :=
  let negative := text.toList.head? = some '-'
  let chars := if negative then text.toList.drop 1 else text.toList
  let whole := chars.takeWhile Char.isDigit
  let fraction := (chars.dropWhile Char.isDigit).drop 1
  let integer : Int := if negative then -(digitsValue whole) else digitsValue whole
  if whole.length = chars.length ∧ -0x8000000000000000 ≤ integer ∧ integer < 0x8000000000000000 then
    some (.int integer)
  else
    (Binary64.ofDecimal? negative (digitsValue (whole ++ fraction)) (-fraction.length)).map .float

/-- Properties that are not options. -/
def engineProperties : List String :=
  ["provider", "output", "binaryTargets", "previewFeatures", "engineType"]

def option? (generator : String) (property : Property) :
    Lowered (Option (String × String)) :=
  if property.key.text ∈ engineProperties then return none
  else match property.value.plainText? with
    | some text => return some (property.key.text, text)
    | none => do
      Logged.warn (.generatorOptionIgnored generator property.key.text)
      return none

def generatorBlock (block : PropertyBlock) : Lowered GeneratorBlock := do
  let options ← block.properties.mapM (option? block.name.text)
  return {
    name := block.name.text
    provider := (block.property? "provider").bind Expr.plainText?
    output := (block.property? "output").bind Expr.plainText?
    options := options.filterMap id }

def enumValueName (enumeration : String) (value : EnumValueDecl) : Lowered String := do
  if value.attributes.any (·.name.text = "map") then
    Logged.warn (.enumValueMapIgnored enumeration value.name.text)
  return value.name.text

def enumeration (block : EnumBlock) : Lowered Enumeration := do
  block.attributes.forM fun mark =>
    Logged.warn (.enumAttributeIgnored block.name.text mark.name.text)
  let values ← block.values.mapM (enumValueName block.name.text)
  return ⟨block.name.text, values, block.documentation⟩

/-- The default that a value declares; a list or an unknown function declares none. -/
def defaultValue? (owner : String) : Expr → Lowered (Option DefaultValue)
  | .call function _ =>
    match Generator.ofFunctionName? function with
    | some generator => return some (.generator generator)
    | none => do
      Logged.warn (.defaultFunctionIgnored owner function)
      return none
  | .text value => return some (.literal (.string value))
  | .constant name => return some (.literal (.string name))
  | .boolean value => return some (.literal (.bool value))
  | .number digits =>
    match numberOfDigits? digits with
    | some number => return some (.literal (.number number))
    | none => Logged.fail (.invalidAttributeArgument owner "default")
  | .array _ => do
    Logged.warn (.listDefaultIgnored owner)
    return none

/-- A native type that fits the field refines its type. -/
def nativeType? (type : FieldType) (mark : Attribute) : Option (Option FieldType) :=
  let size (index : Nat) : Option Nat := mark.positional[index]?.bind sizeOfExpr?
  if (mark.name.text = "db.VarChar" ∨ mark.name.text = "db.Char") ∧ type = .scalar .string then
    some ((size 0).map .varchar)
  else if mark.name.text = "db.Decimal" ∧ type = .scalar .decimal then
    some do return .fixed (← size 0) (← size 1)
  else none

def applyMark (owner : String) (field : Field) (mark : Attribute) : Lowered Field :=
  let name := mark.name.text
  if name = "id" then return { field with primaryKey := true }
  else if name = "unique" then return { field with unique := true }
  else if name = "updatedAt" then return { field with updatedAt := true }
  else if name = "map" then do
    let column ← Logged.ofExcept (nameArgument owner mark)
    return { field with column := some column }
  else if name = "default" then
    match mark.main? "value" with
    | none => Logged.fail (.invalidAttributeArgument owner "default")
    | some value => do
      let default ← defaultValue? owner value
      return { field with default := default }
  else match nativeType? field.type mark with
    | some (some type) => return { field with type := type }
    | some none => Logged.fail (.invalidAttributeArgument owner name)
    | none =>
      if Text.startsWith "db.".toList name.toList then return field
      else do
        Logged.warn (.fieldAttributeIgnored owner name)
        return field

def scalarField (model : ModelBlock) (decl : FieldDecl) (type : FieldType) : Lowered Field :=
  let start := { Field.plain decl.name.text type with
    nullable := decl.type.arity = .optional
    description := decl.documentation }
  decl.attributes.foldlM (applyMark (model.name.text ++ "." ++ decl.name.text)) start

def relationName? (field : FieldDecl) : Option String :=
  ((field.attribute? "relation").bind (·.main? "name")).bind Expr.text?

/-- The fields that hold a relation's key, if the relation is declared on this side. -/
def keyFields? (field : FieldDecl) : Option Expr :=
  (field.attribute? "relation").bind (·.named? "fields")

def isOpposite (model : ModelBlock) (field : FieldDecl) (target : ModelBlock)
    (candidate : FieldDecl) : Bool :=
  candidate.type.name.text = model.name.text &&
    !(model.name.text = target.name.text && candidate.name.text = field.name.text) &&
      relationName? candidate = relationName? field

/-- The field of the target that leads back through the same relation. -/
def opposite? (model : ModelBlock) (field : FieldDecl) (target : ModelBlock) : Option FieldDecl :=
  target.fields.find? (isOpposite model field target)

def deletePolicy? (model : ModelBlock) (field : FieldDecl) (mark : Attribute) :
    Except LowerError (Option DeletePolicy) :=
  match mark.named? "onDelete" with
  | none => .ok none
  | some value =>
    match value.constant? with
    | none =>
      .error (.invalidAttributeArgument (model.name.text ++ "." ++ field.name.text) "relation")
    | some action =>
      match DeletePolicy.ofSourceName? action with
      | some policy => .ok (some policy)
      | none => .error (.invalidReferentialAction model.name.text field.name.text action)

def keyField? (scope : Scope) (model : ModelBlock) (name : String) : Option FieldDecl :=
  (model.field? name).filter fun field =>
    match scope.resolve model field with
    | .ok (.model _) => false
    | .ok _ => true
    | .error _ => false

def ownedRelation (scope : Scope) (model : ModelBlock) (field : FieldDecl) (target : ModelBlock)
    (opposite : FieldDecl) (mark : Attribute) (keys : Expr) : Except LowerError Relation := do
  let owner := model.name.text ++ "." ++ field.name.text
  let invalid : LowerError := .invalidAttributeArgument owner "relation"
  if field.type.arity = .list then throw (.listWithForeignKey model.name.text field.name.text)
  let some keys := keys.constants? | throw invalid
  let some references := mark.named? "references"
    | throw (.missingReferences model.name.text field.name.text)
  let some references := references.constants? | throw invalid
  let ([keyName], [reference]) := (keys, references)
    | throw (.compositeRelation model.name.text field.name.text)
  let some key := keyField? scope model keyName
    | throw (.unknownForeignKeyField model.name.text field.name.text keyName)
  let onDelete ← deletePolicy? model field mark
  let column ← match key.attribute? "map" with
    | some map => nameArgument owner map
    | none => pure key.name.text
  return {
    name := field.name.text
    kind := if opposite.type.arity = .list then .foreignKey else .oneToOne
    target := target.name.text
    nullable := field.type.arity = .optional
    column := some column
    toField := some reference
    onDelete := onDelete
    relatedName := some opposite.name.text
    description := field.documentation }

/-- The relation that a field declares; the other side of one declares none. -/
def relation? (scope : Scope) (model : ModelBlock) (field : FieldDecl) (target : ModelBlock) :
    Except LowerError (Option Relation) :=
  match opposite? model field target with
  | none => .error (.missingOppositeRelation model.name.text field.name.text target.name.text)
  | some opposite =>
    match field.attribute? "relation", keyFields? field with
    | some mark, some keys => do
      return some (← ownedRelation scope model field target opposite mark keys)
    | _, _ =>
      if (keyFields? opposite).isSome then .ok none
      else if field.type.arity = .list ∧ opposite.type.arity = .list then
        .error (.manyToMany model.name.text field.name.text target.name.text)
      else .error (.missingReferences model.name.text field.name.text)

def applyBlockMark (model : String) (table : Option String) (mark : Attribute) :
    Lowered (Option String) :=
  if mark.name.text = "map" then do
    return some (← Logged.ofExcept (nameArgument model mark))
  else if mark.name.text = "id" then Logged.fail (.compositeId model)
  else do
    Logged.warn (.blockAttributeIgnored model mark.name.text)
    return table

/-- The names that relations use as keys; the fields of these names belong to the relations. -/
def foreignKeys (model : ModelBlock) : List String :=
  model.fields.flatMap fun field => ((keyFields? field).bind Expr.constants?).getD []

inductive FieldResult where
  | field (field : Field)
  | relation (relation : Relation)
  | folded

namespace FieldResult

def field? : FieldResult → Option Field
  | field f => some f
  | _ => none

def relation? : FieldResult → Option Relation
  | relation r => some r
  | _ => none

end FieldResult

def columnField (model : ModelBlock) (decl : FieldDecl) (type : FieldType) :
    Lowered FieldResult :=
  if decl.type.arity = .list then Logged.fail (.scalarList model.name.text decl.name.text)
  else if decl.name.text ∈ foreignKeys model then return .folded
  else return .field (← scalarField model decl type)

def fieldResult (scope : Scope) (model : ModelBlock) (decl : FieldDecl) : Lowered FieldResult := do
  match ← Logged.ofExcept (scope.resolve model decl) with
  | .model target =>
    match ← Logged.ofExcept (relation? scope model decl target) with
    | some relation => return .relation relation
    | none => return .folded
  | .scalar type => columnField model decl (.scalar type)
  | .enumeration name => columnField model decl (.enumeration name)

def entity (scope : Scope) (model : ModelBlock) : Lowered Entity := do
  let table ← model.attributes.foldlM (applyBlockMark model.name.text) none
  let results ← model.fields.mapM (fieldResult scope model)
  return {
    name := model.name.text
    table := table
    description := model.documentation
    fields := results.filterMap FieldResult.field?
    relations := results.filterMap FieldResult.relation? }

namespace Block

def model? : Block → Option ModelBlock
  | model block => some block
  | _ => none

def enum? : Block → Option EnumBlock
  | enumeration block => some block
  | _ => none

end Block

def generator? : Block → Lowered (Option GeneratorBlock)
  | .generator block => return some (← generatorBlock block)
  | .other keyword name => Logged.fail (.unsupportedBlock keyword name.text)
  | _ => return none

def Document.scope (document : Document) : Scope :=
  ⟨document.blocks.filterMap Block.model?, document.blocks.filterMap Block.enum?⟩

def lower (document : Document) : Lowered Declarations := do
  let generators ← document.blocks.mapM generator?
  let enums ← document.scope.enums.mapM enumeration
  let entities ← document.scope.models.mapM (entity document.scope)
  return ⟨⟨enums, entities⟩, generators.filterMap id⟩

inductive SourceError where
  | parse (error : ParseError)
  | lower (error : LowerError)
  deriving DecidableEq, Repr

namespace SourceError

def message : SourceError → String
  | parse error => "parse error: " ++ error.message
  | lower error => error.message

def format (source : String) : SourceError → String
  | parse error => error.format source
  | lower error => "error: " ++ error.message ++ "\n"

end SourceError

def declarations (source : String) : Logged SourceError Declarations :=
  match parse source with
  | .error error => Logged.fail (.parse error)
  | .ok document =>
    ⟨(lower document).outcome.mapError .lower, (lower document).warnings⟩

end Modelwright.Source
