import Modelwright.Format.Record
import Modelwright.Schema.Basic

namespace Modelwright

/-! Schemas as data: how they are written, and how they are read from the nodes of a document. -/

namespace ScalarType

def dataName : ScalarType → String
  | .int => "int"
  | .bigInt => "big_int"
  | .float => "float"
  | .decimal => "decimal"
  | .boolean => "boolean"
  | .string => "string"
  | .dateTime => "date_time"
  | .json => "json"
  | .bytes => "bytes"

end ScalarType

namespace Generator

def dataName : Generator → String
  | .autoincrement => "autoincrement"
  | .now => "now"
  | .uuid => "uuid"
  | .cuid => "cuid"
  | .dbGenerated => "db_generated"

end Generator

namespace DeletePolicy

def dataName : DeletePolicy → String
  | .cascade => "cascade"
  | .restrict => "restrict"
  | .setNull => "set_null"
  | .setDefault => "set_default"
  | .noAction => "no_action"

end DeletePolicy

namespace RelationKind

def all : List RelationKind := [.oneToOne, .foreignKey]

def dataName : RelationKind → String
  | .oneToOne => "one_to_one"
  | .foreignKey => "foreign_key"

end RelationKind

def named (name : α → String) (cases : List α) : List (String × α) :=
  cases.map fun c => (name c, c)

def natJson (n : Nat) : Json := .number (.int n)

def optionalEntry (key : String) (value : Option α) (write : α → Json) : List (String × Json) :=
  match value with
  | none => []
  | some v => [(key, write v)]

def flagEntry (key : String) (flag : Bool) : List (String × Json) :=
  if flag then [(key, .bool true)] else []

def listEntry (key : String) (values : List α) (write : α → Json) : List (String × Json) :=
  if values.isEmpty then [] else [(key, .array (values.map write))]

namespace FieldType

def toJson : FieldType → Json
  | .scalar type => .string type.dataName
  | .varchar length => .object [("kind", .string "varchar"), ("length", natJson length)]
  | .fixed precision scale =>
    .object [("kind", .string "decimal"), ("precision", natJson precision),
      ("scale", natJson scale)]
  | .enumeration name => .object [("kind", .string "enum"), ("name", .string name)]

end FieldType

namespace DefaultValue

def toJson : DefaultValue → Json
  | .generator g => .object [("generator", .string g.dataName)]
  | .literal value => .object [("literal", value)]

end DefaultValue

namespace Enumeration

def toJson (e : Enumeration) : Json :=
  .object <| [("name", .string e.name), ("values", .array (e.values.map .string))] ++
    optionalEntry "description" e.description .string

end Enumeration

namespace Field

def toJson (field : Field) : Json :=
  .object <| [("name", .string field.name), ("type", field.type.toJson),
      ("nullable", .bool field.nullable)] ++
    flagEntry "primary_key" field.primaryKey ++ flagEntry "unique" field.unique ++
    optionalEntry "default" field.default DefaultValue.toJson ++
    flagEntry "updated_at" field.updatedAt ++ optionalEntry "db_name" field.column .string ++
    optionalEntry "description" field.description .string

end Field

namespace Relation

def toJson (relation : Relation) : Json :=
  .object <| [("name", .string relation.name), ("kind", .string relation.kind.dataName),
      ("target", .string relation.target), ("nullable", .bool relation.nullable)] ++
    optionalEntry "source_field" relation.column .string ++
    optionalEntry "to_field" relation.toField .string ++
    optionalEntry "on_delete" relation.onDelete (fun policy => .string policy.dataName) ++
    optionalEntry "related_name" relation.relatedName .string ++
    optionalEntry "description" relation.description .string

end Relation

namespace Entity

def toJson (entity : Entity) : Json :=
  .object <| [("name", .string entity.name)] ++ optionalEntry "table" entity.table .string ++
    optionalEntry "description" entity.description .string ++
    [("fields", .array (entity.fields.map Field.toJson))] ++
    listEntry "relations" entity.relations Relation.toJson

end Entity

namespace Schema

def toJson (schema : Schema) : Json :=
  .object <| listEntry "enums" schema.enums Enumeration.toJson ++
    [("entities", .array (schema.entities.map Entity.toJson))]

end Schema

namespace Node

/-- Whether the node is readable without knowing what is wanted: no tags, and every scalar has a
value. -/
def isOpen : Node → Bool
  | .scalar reading => reading.value?.isSome
  | .sequence items => itemsOpen items
  | .mapping entries => entriesOpen entries
  | .tagged _ _ => false
where
  itemsOpen : List Node → Bool
    | [] => true
    | item :: items => isOpen item && itemsOpen items
  entriesOpen : List (Node × Node) → Bool
    | [] => true
    | (key, value) :: entries => isOpen key && isOpen value && entriesOpen entries

def value? (node : Node) : Option Json :=
  node.scalar?.bind (·.value?)

/-- A name among others, written out or given by its position. -/
def nameAmong? (names : List String) (node : Node) : Option String :=
  match node.value? with
  | some (.string s) => some s
  | some (.number (.int _)) => (node.scalar?.bind (·.nat?)).map (names.getD · "")
  | _ => none

def openText? (node : Node) : Option String :=
  node.value?.bind (·.string?)

def openSize? (node : Node) : Option Nat :=
  match node.value? with
  | some (.number (.int n)) => if 0 ≤ n ∧ n < 0x100000000 then some n.toNat else none
  | _ => none

def isKindKey (node : Node) : Bool :=
  node.value?.any fun value => value.string? == some "kind"

end Node

namespace FieldType

/-- A scalar type is its name, or a mapping of the name to nothing. -/
def scalarOfNode? (node : Node) : Option ScalarType :=
  let types := named ScalarType.dataName ScalarType.all
  match node with
  | .mapping [(key, payload)] =>
    if payload.isNull then (key.nameAmong? (types.map (·.1))).bind (List.lookup · types) else none
  | _ => node.openText?.bind (List.lookup · types)

def kinds : List String := ["varchar", "decimal", "enum"]

def ofKind? (kind : String) (places : List String → Option Record) : Option FieldType :=
  if kind = "varchar" then do
    let record ← places ["length"]
    return .varchar (← record.required "length" Node.openSize?)
  else if kind = "decimal" then do
    let record ← places ["precision", "scale"]
    return .fixed (← record.required "precision" Node.openSize?)
      (← record.required "scale" Node.openSize?)
  else if kind = "enum" then do
    let record ← places ["name"]
    return .enumeration (← record.required "name" Node.openText?)
  else none

/-- The places of a sized type in a mapping; a repeated place is an error, an unknown one is
not. -/
def placesOfEntries? (entries : List (Node × Node)) (names : List String) : Option Record := do
  let named ← entries.mapM fun entry => do return (← entry.1.nameAmong? names, entry.2)
  let known := named.filter fun entry => names.contains entry.1
  if (known.map (·.1)).Nodup then some known else none

def placesOfItems? (items : List Node) (names : List String) : Option Record :=
  if items.length ≤ names.length then some (names.zip items) else none

def sizedOfNode? : Node → Option FieldType
  | .mapping entries =>
    match entries.filter (·.1.isKindKey) with
    | [(_, kind)] => do
      ofKind? (← kind.nameAmong? kinds) (placesOfEntries? (entries.filter (!·.1.isKindKey)))
    | _ => none
  | .sequence (kind :: items) => do ofKind? (← kind.nameAmong? kinds) (placesOfItems? items)
  | _ => none

/-- The name of a scalar type, or a sized type with its kind.  Five nodes are around it. -/
def ofNode? (dialect : Dialect) (node : Node) : Option FieldType :=
  if node.isOpen && node.fits dialect 5 then
    (scalarOfNode? node).map .scalar <|> sizedOfNode? node
  else none

end FieldType

namespace DefaultValue

/-- A literal may be any value.  Five nodes are around it, and the mapping that names it if the
case is written as a key. -/
def ofNode? (dialect : Dialect) (node : Node) : Option DefaultValue := do
  match ← node.variant? dialect with
  | ("generator", some body) =>
    return .generator (← body.case? dialect (named Generator.dataName Generator.all))
  | ("literal", some body) =>
    if body.fits dialect (if dialect.keyedVariants then 6 else 5) then
      return .literal (← body.json?)
    else none
  | _ => none

end DefaultValue

namespace Enumeration

def places : List String := ["name", "values", "description"]

def ofNode? (dialect : Dialect) (node : Node) : Option Enumeration := do
  let record ← node.record? dialect places
  return {
    name := ← record.required "name" Node.text?
    values := ← record.required "values" (Node.list? Node.text?)
    description := ← record.optional "description" Node.text? }

end Enumeration

namespace Field

def places : List String :=
  ["name", "type", "nullable", "primary_key", "unique", "default", "updated_at", "db_name",
    "description"]

def ofNode? (dialect : Dialect) (node : Node) : Option Field := do
  let record ← node.record? dialect places
  return {
    name := ← record.required "name" Node.text?
    type := ← record.required "type" (FieldType.ofNode? dialect)
    nullable := ← record.withDefault "nullable" false Node.bool?
    primaryKey := ← record.withDefault "primary_key" false Node.bool?
    unique := ← record.withDefault "unique" false Node.bool?
    default := ← record.optional "default" (DefaultValue.ofNode? dialect)
    updatedAt := ← record.withDefault "updated_at" false Node.bool?
    column := ← record.optional "db_name" Node.text?
    description := ← record.optional "description" Node.text? }

end Field

namespace Relation

def places : List String :=
  ["name", "kind", "target", "nullable", "source_field", "to_field", "on_delete",
    "related_name", "description"]

def ofNode? (dialect : Dialect) (node : Node) : Option Relation := do
  let record ← node.record? dialect places
  return {
    name := ← record.required "name" Node.text?
    kind := ← record.required "kind"
      (Node.case? dialect (named RelationKind.dataName RelationKind.all))
    target := ← record.required "target" Node.text?
    nullable := ← record.withDefault "nullable" false Node.bool?
    column := ← record.optional "source_field" Node.text?
    toField := ← record.optional "to_field" Node.text?
    onDelete := ← record.optional "on_delete"
      (Node.case? dialect (named DeletePolicy.dataName DeletePolicy.all))
    relatedName := ← record.optional "related_name" Node.text?
    description := ← record.optional "description" Node.text? }

end Relation

namespace Entity

def places : List String := ["name", "table", "description", "fields", "relations"]

def ofNode? (dialect : Dialect) (node : Node) : Option Entity := do
  let record ← node.record? dialect places
  return {
    name := ← record.required "name" Node.text?
    table := ← record.optional "table" Node.text?
    description := ← record.optional "description" Node.text?
    fields := ← record.required "fields" (Node.list? (Field.ofNode? dialect))
    relations := ← record.withDefault "relations" [] (Node.list? (Relation.ofNode? dialect)) }

end Entity

namespace Schema

def places : List String := ["enums", "entities"]

def ofNode? (dialect : Dialect) (node : Node) : Option Schema := do
  let record ← node.record? dialect places
  return {
    enums := ← record.withDefault "enums" [] (Node.list? (Enumeration.ofNode? dialect))
    entities := ← record.required "entities" (Node.list? (Entity.ofNode? dialect)) }

end Schema

end Modelwright
