import Modelwright.Format.Json.Value
import Modelwright.Naming.Convention

namespace Modelwright

inductive ScalarType where
  | int
  | bigInt
  | float
  | decimal
  | boolean
  | string
  | dateTime
  | json
  | bytes
  deriving DecidableEq, Repr, Inhabited

namespace ScalarType

def all : List ScalarType :=
  [.int, .bigInt, .float, .decimal, .boolean, .string, .dateTime, .json, .bytes]

def sourceName : ScalarType → String
  | .int => "Int"
  | .bigInt => "BigInt"
  | .float => "Float"
  | .decimal => "Decimal"
  | .boolean => "Boolean"
  | .string => "String"
  | .dateTime => "DateTime"
  | .json => "Json"
  | .bytes => "Bytes"

def ofSourceName? (name : String) : Option ScalarType :=
  all.find? (·.sourceName = name)

@[simp] theorem ofSourceName?_sourceName (type : ScalarType) :
    ofSourceName? type.sourceName = some type := by
  cases type <;> rfl

end ScalarType

inductive FieldType where
  | scalar (type : ScalarType)
  | varchar (length : Nat)
  | fixed (precision scale : Nat)
  | enumeration (name : String)
  deriving DecidableEq, Repr, Inhabited

namespace FieldType

def isInteger : FieldType → Bool
  | .scalar .int => true
  | .scalar .bigInt => true
  | _ => false

def isDateTime : FieldType → Bool
  | .scalar .dateTime => true
  | _ => false

def isText : FieldType → Bool
  | .scalar .string => true
  | .varchar _ => true
  | _ => false

def enumName? : FieldType → Option String
  | .enumeration name => some name
  | _ => none

def sourceName : FieldType → String
  | .scalar type => type.sourceName
  | .varchar _ => "String"
  | .fixed _ _ => "Decimal"
  | .enumeration name => name

theorem isInteger_iff {type : FieldType} :
    type.isInteger = true ↔ type = .scalar .int ∨ type = .scalar .bigInt := by
  cases type with
  | scalar type => cases type <;> simp [isInteger]
  | varchar length => simp [isInteger]
  | fixed precision scale => simp [isInteger]
  | enumeration name => simp [isInteger]

theorem enumName?_eq_some_iff {type : FieldType} {name : String} :
    type.enumName? = some name ↔ type = .enumeration name := by
  cases type with
  | enumeration other => simp [enumName?]
  | scalar type => simp [enumName?]
  | varchar length => simp [enumName?]
  | fixed precision scale => simp [enumName?]

end FieldType

/-- A default that is computed when a row is made. -/
inductive Generator where
  | autoincrement
  | now
  | uuid
  | cuid
  | dbGenerated
  deriving DecidableEq, Repr, Inhabited

namespace Generator

def all : List Generator := [.autoincrement, .now, .uuid, .cuid, .dbGenerated]

def functionName : Generator → String
  | .autoincrement => "autoincrement"
  | .now => "now"
  | .uuid => "uuid"
  | .cuid => "cuid"
  | .dbGenerated => "dbgenerated"

def ofFunctionName? (name : String) : Option Generator :=
  all.find? (·.functionName = name)

end Generator

inductive DefaultValue where
  | generator (generator : Generator)
  | literal (value : Json)
  deriving Repr, Inhabited

namespace DefaultValue

def generator? : DefaultValue → Option Generator
  | .generator g => some g
  | .literal _ => none

def isAutoincrement (value : DefaultValue) : Bool :=
  value.generator? = some .autoincrement

end DefaultValue

/-- What happens to a row when the row that it refers to is deleted. -/
inductive DeletePolicy where
  | cascade
  | restrict
  | setNull
  | setDefault
  | noAction
  deriving DecidableEq, Repr, Inhabited

namespace DeletePolicy

def all : List DeletePolicy := [.cascade, .restrict, .setNull, .setDefault, .noAction]

def sourceName : DeletePolicy → String
  | .cascade => "Cascade"
  | .restrict => "Restrict"
  | .setNull => "SetNull"
  | .setDefault => "SetDefault"
  | .noAction => "NoAction"

def ofSourceName? (name : String) : Option DeletePolicy :=
  all.find? (·.sourceName = name)

@[simp] theorem ofSourceName?_sourceName (policy : DeletePolicy) :
    ofSourceName? policy.sourceName = some policy := by
  cases policy <;> rfl

end DeletePolicy

structure Enumeration where
  name : String
  values : List String
  description : Option String
  deriving DecidableEq, Repr, Inhabited

structure Field where
  name : String
  type : FieldType
  nullable : Bool
  primaryKey : Bool
  unique : Bool
  default : Option DefaultValue
  /-- Set to the current time on every save. -/
  updatedAt : Bool
  /-- The column's name when it is not the field's. -/
  column : Option String
  description : Option String
  deriving Repr, Inhabited

namespace Field

def plain (name : String) (type : FieldType) : Field :=
  ⟨name, type, false, false, false, none, false, none, none⟩

def isRequired (field : Field) : Bool :=
  !field.nullable && field.default.isNone

def isAutoincrement (field : Field) : Bool :=
  (field.default.map (·.isAutoincrement)).getD false

theorem isAutoincrement_iff {field : Field} :
    field.isAutoincrement = true ↔ field.default = some (.generator .autoincrement) := by
  unfold isAutoincrement
  cases field.default with
  | none => simp
  | some default =>
      cases default with
      | generator generator => simp [DefaultValue.isAutoincrement, DefaultValue.generator?]
      | literal value => simp [DefaultValue.isAutoincrement, DefaultValue.generator?]

end Field

inductive RelationKind where
  | oneToOne
  | foreignKey
  deriving DecidableEq, Repr, Inhabited

/-- A relation on the side that holds the foreign key. -/
structure Relation where
  name : String
  kind : RelationKind
  target : String
  nullable : Bool
  column : Option String
  /-- The field of the target that is referred to, if it is not the primary key. -/
  toField : Option String
  onDelete : Option DeletePolicy
  relatedName : Option String
  description : Option String
  deriving DecidableEq, Repr, Inhabited

namespace Relation

def isOneToOne (relation : Relation) : Bool :=
  relation.kind = .oneToOne

def sourceColumn (relation : Relation) : String :=
  relation.column.getD (Naming.foreignKeyColumn relation.name)

def reverseName (relation : Relation) (owner : String) : String :=
  relation.relatedName.getD (Naming.reverseName owner relation.name)

end Relation

structure Entity where
  name : String
  table : Option String
  description : Option String
  fields : List Field
  relations : List Relation
  deriving Repr, Inhabited

namespace Entity

def tableName (entity : Entity) : String :=
  entity.table.getD entity.name

def field? (entity : Entity) (name : String) : Option Field :=
  entity.fields.find? (·.name = name)

def relation? (entity : Entity) (name : String) : Option Relation :=
  entity.relations.find? (·.name = name)

def primaryKey? (entity : Entity) : Option Field :=
  entity.fields.find? (·.primaryKey)

def memberNames (entity : Entity) : List String :=
  entity.fields.map (·.name) ++ entity.relations.map (·.name)

end Entity

structure Schema where
  enums : List Enumeration
  entities : List Entity
  deriving Repr, Inhabited

structure ReverseRelation where
  owner : Entity
  relation : Relation
  deriving Repr, Inhabited

namespace ReverseRelation

def name (reverse : ReverseRelation) : String :=
  reverse.relation.reverseName reverse.owner.name

/-- From its target a foreign key is seen as many objects, a one-to-one relation as at most one. -/
def isCollection (reverse : ReverseRelation) : Bool :=
  reverse.relation.kind = .foreignKey

end ReverseRelation

namespace Schema

def entity? (schema : Schema) (name : String) : Option Entity :=
  schema.entities.find? (·.name = name)

def enum? (schema : Schema) (name : String) : Option Enumeration :=
  schema.enums.find? (·.name = name)

/-- The relations that lead to an entity, by owner and then in order of declaration. -/
def reverseRelations (schema : Schema) (name : String) : List ReverseRelation :=
  schema.entities.flatMap fun owner =>
    (owner.relations.filter (·.target = name)).map fun relation => ⟨owner, relation⟩

def targetField? (schema : Schema) (relation : Relation) : Option Field :=
  (schema.entity? relation.target).bind fun target =>
    match relation.toField with
    | some name => target.field? name
    | none => target.primaryKey?

theorem mem_reverseRelations {schema : Schema} {name : String} {reverse : ReverseRelation} :
    reverse ∈ schema.reverseRelations name ↔
      reverse.owner ∈ schema.entities ∧ reverse.relation ∈ reverse.owner.relations ∧
        reverse.relation.target = name := by
  obtain ⟨owner, relation⟩ := reverse
  simp only [reverseRelations, List.mem_flatMap, List.mem_map, List.mem_filter,
    decide_eq_true_eq, ReverseRelation.mk.injEq]
  constructor
  · rintro ⟨e, he, r, ⟨hr, ht⟩, rfl, rfl⟩
    exact ⟨he, hr, ht⟩
  · rintro ⟨he, hr, ht⟩
    exact ⟨owner, he, relation, ⟨hr, ht⟩, rfl, rfl⟩

end Schema

end Modelwright
