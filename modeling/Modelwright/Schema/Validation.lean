import Modelwright.Format.Json.Writer
import Modelwright.Schema.Basic
import Modelwright.Text.Case

namespace Modelwright

open Modelwright.Text

/-! Well-formed schemas.  Enumerations come first, then each entity on its own, then relations, then
the names of reverse accessors; the first violation is reported. -/

inductive SchemaError where
  | duplicateEntityName (entity : String)
  | duplicateEnumName (enumeration : String)
  | enumEntityNameClash (name : String)
  | emptyEnum (enumeration : String)
  | duplicateEnumValue (enumeration value : String)
  | duplicateFieldName (entity member : String)
  | reverseRelationNameClash (entity accessor owner : String)
  | missingPrimaryKey (entity : String)
  | multiplePrimaryKeys (entity fields : String)
  | relationTargetNotFound (entity relation target : String)
  | relationTargetFieldNotFound (entity relation target field : String)
  | setNullOnRequiredRelation (entity relation : String)
  | unknownEnum (entity field enumeration : String)
  | invalidEnumDefault (entity field value enumeration : String)
  | autoincrementOnNonInteger (entity field : String)
  deriving DecidableEq, Repr

namespace SchemaError

def message : SchemaError → String
  | duplicateEntityName entity => "duplicate entity name: " ++ entity
  | duplicateEnumName enumeration => "duplicate enum name: " ++ enumeration
  | enumEntityNameClash name =>
    "name '" ++ name ++ "' is declared both as an enum and as an entity"
  | emptyEnum enumeration => "enum '" ++ enumeration ++ "' has no values"
  | duplicateEnumValue enumeration value =>
    "enum '" ++ enumeration ++ "' has duplicate value: '" ++ value ++ "'"
  | duplicateFieldName entity member =>
    "entity '" ++ entity ++ "' declares '" ++ member ++
      "' more than once (names are compared case-insensitively)"
  | reverseRelationNameClash entity accessor owner =>
    "reverse relation '" ++ accessor ++ "' from '" ++ owner ++
      "' collides with a declared member of '" ++ entity ++ "'"
  | missingPrimaryKey entity => "entity '" ++ entity ++ "' must have a primary key"
  | multiplePrimaryKeys entity fields =>
    "entity '" ++ entity ++ "' declares more than one primary key: " ++ fields
  | relationTargetNotFound entity relation target =>
    "relation references undeclared entity: " ++ entity ++ "." ++ relation ++ " -> " ++ target
  | relationTargetFieldNotFound entity relation target field =>
    "relation references non-existent field: " ++ entity ++ "." ++ relation ++ " -> " ++ target ++
      "." ++ field
  | setNullOnRequiredRelation entity relation =>
    "relation " ++ entity ++ "." ++ relation ++ " uses set-null on delete but is not nullable"
  | unknownEnum entity field enumeration =>
    "field " ++ entity ++ "." ++ field ++ " references undeclared enum '" ++ enumeration ++ "'"
  | invalidEnumDefault entity field value enumeration =>
    "field " ++ entity ++ "." ++ field ++ " has default '" ++ value ++
      "' which is not a value of enum '" ++ enumeration ++ "'"
  | autoincrementOnNonInteger entity field =>
    "field " ++ entity ++ "." ++ field ++ " uses autoincrement but is not an integer"

end SchemaError

/-- The first item whose key was seen before or belongs to an earlier item. -/
def firstRepeat? [DecidableEq β] (key : α → β) (seen : List β) : List α → Option α
  | [] => none
  | item :: rest =>
    if key item ∈ seen then some item else firstRepeat? key (key item :: seen) rest

theorem firstRepeat?_eq_none_iff [DecidableEq β] {key : α → β} {seen : List β} {items : List α} :
    firstRepeat? key seen items = none ↔
      (items.map key).Nodup ∧ ∀ item ∈ items, key item ∉ seen := by
  induction items generalizing seen with
  | nil => simp [firstRepeat?]
  | cons item rest ih =>
    simp only [firstRepeat?, List.map_cons, List.nodup_cons, List.mem_cons, forall_eq_or_imp,
      List.mem_map, not_exists, not_and]
    split
    · simp_all
    · rename_i hnew
      rw [ih]
      grind

/-- The text under which a literal is looked up among the values of an enumeration. -/
def Json.enumText : Json → String
  | .string s => s
  | value => value.compact

namespace Schema

def enumViolation? (entityNames seen : List String) : List Enumeration → Option SchemaError
  | [] => none
  | e :: rest =>
    if e.name ∈ seen then some (.duplicateEnumName e.name)
    else if e.name ∈ entityNames then some (.enumEntityNameClash e.name)
    else if e.values.isEmpty then some (.emptyEnum e.name)
    else match firstRepeat? id [] e.values with
      | some value => some (.duplicateEnumValue e.name value)
      | none => enumViolation? entityNames (e.name :: seen) rest

def defaultViolation? (entity : Entity) (field : Field) (e : Enumeration) : Option SchemaError :=
  match field.default with
  | some (.literal value) =>
    if value.enumText ∈ e.values then none
    else some (.invalidEnumDefault entity.name field.name value.enumText e.name)
  | _ => none

def enumUseViolation? (schema : Schema) (entity : Entity) (field : Field) : Option SchemaError :=
  match field.type.enumName? with
  | none => none
  | some name =>
    match schema.enum? name with
    | none => some (.unknownEnum entity.name field.name name)
    | some e => defaultViolation? entity field e

def fieldViolation? (schema : Schema) (entity : Entity) (field : Field) : Option SchemaError :=
  (schema.enumUseViolation? entity field).or <|
    if field.isAutoincrement && !field.type.isInteger then
      some (.autoincrementOnNonInteger entity.name field.name)
    else none

def primaryKeyViolation? (entity : Entity) : Option SchemaError :=
  match (entity.fields.filter (·.primaryKey)).map (·.name) with
  | [] => some (.missingPrimaryKey entity.name)
  | [_] => none
  | names => some (.multiplePrimaryKeys entity.name (", ".intercalate names))

def entityViolation? (schema : Schema) (entity : Entity) : Option SchemaError :=
  ((firstRepeat? lowercase [] entity.memberNames).map (.duplicateFieldName entity.name)).or <|
    (primaryKeyViolation? entity).or <|
      entity.fields.findSome? (schema.fieldViolation? entity)

def relationViolation? (schema : Schema) (entity : Entity) (relation : Relation) :
    Option SchemaError :=
  match schema.entity? relation.target with
  | none => some (.relationTargetNotFound entity.name relation.name relation.target)
  | some target =>
    if (schema.targetField? relation).isNone then
      some (.relationTargetFieldNotFound entity.name relation.name target.name
        (relation.toField.getD "<primary key>"))
    else if relation.onDelete = some .setNull ∧ relation.nullable = false then
      some (.setNullOnRequiredRelation entity.name relation.name)
    else none

def reverseNameViolation? (schema : Schema) (entity : Entity) : Option SchemaError :=
  (firstRepeat? (fun reverse => lowercase reverse.name) (entity.memberNames.map lowercase)
    (schema.reverseRelations entity.name)).map fun reverse =>
      .reverseRelationNameClash entity.name reverse.name reverse.owner.name

def violation? (schema : Schema) : Option SchemaError :=
  ((firstRepeat? id [] (schema.entities.map (·.name))).map .duplicateEntityName).or <|
    (enumViolation? (schema.entities.map (·.name)) [] schema.enums).or <|
      (schema.entities.findSome? schema.entityViolation?).or <|
        (schema.entities.findSome? fun entity =>
          entity.relations.findSome? (schema.relationViolation? entity)).or <|
            schema.entities.findSome? schema.reverseNameViolation?

def validate (schema : Schema) : Except SchemaError Unit :=
  match schema.violation? with
  | none => .ok ()
  | some error => .error error

@[simp] theorem validate_eq_ok_iff {schema : Schema} :
    schema.validate = .ok () ↔ schema.violation? = none := by
  unfold validate
  split <;> simp_all

end Schema

end Modelwright
