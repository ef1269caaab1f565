import Mathlib.Data.List.Nodup
import Modelwright.Schema.Validation

namespace Modelwright

open Modelwright.Text

namespace Schema

/-! Well-formedness as one condition on all entities, and its agreement with the staged check. -/

/-- The names that stand for an attribute of an entity's class. -/
def attributeSources (schema : Schema) (entity : Entity) : List String :=
  entity.memberNames ++ (schema.reverseRelations entity.name).map (·.name)

structure WellFormedEnum (schema : Schema) (e : Enumeration) : Prop where
  noEntity : e.name ∉ schema.entities.map (·.name)
  inhabited : e.values ≠ []
  values_nodup : e.values.Nodup

structure WellFormedField (schema : Schema) (field : Field) : Prop where
  enumUse : ∀ name, field.type.enumName? = some name →
    ∃ e, schema.enum? name = some e ∧
      ∀ value, field.default = some (.literal value) → value.enumText ∈ e.values
  autoincrement : field.isAutoincrement = true → field.type.isInteger = true

structure WellFormedRelation (schema : Schema) (relation : Relation) : Prop where
  target : (schema.entity? relation.target).isSome = true
  targetField : (schema.targetField? relation).isSome = true
  setNull : relation.onDelete = some .setNull → relation.nullable = true

structure WellFormedEntity (schema : Schema) (entity : Entity) : Prop where
  attributes_nodup : ((schema.attributeSources entity).map lowercase).Nodup
  primaryKey : ∃ field, entity.fields.filter (·.primaryKey) = [field]
  fields : ∀ field ∈ entity.fields, schema.WellFormedField field
  relations : ∀ relation ∈ entity.relations, schema.WellFormedRelation relation

structure WellFormed (schema : Schema) : Prop where
  entities_nodup : (schema.entities.map (·.name)).Nodup
  enums_nodup : (schema.enums.map (·.name)).Nodup
  enums : ∀ e ∈ schema.enums, schema.WellFormedEnum e
  entities : ∀ entity ∈ schema.entities, schema.WellFormedEntity entity

namespace WellFormedEntity

variable {schema : Schema} {entity : Entity}

theorem attributeSources_nodup (valid : schema.WellFormedEntity entity) :
    (schema.attributeSources entity).Nodup :=
  List.Nodup.of_map lowercase valid.attributes_nodup

theorem relations_nodup (valid : schema.WellFormedEntity entity) :
    (entity.relations.map (·.name)).Nodup := by
  refine valid.attributeSources_nodup.sublist ?_
  exact (List.sublist_append_right _ _).trans (List.sublist_append_left _ _)

theorem reverseNames_nodup (valid : schema.WellFormedEntity entity) :
    ((schema.reverseRelations entity.name).map (·.name)).Nodup :=
  valid.attributeSources_nodup.sublist (List.sublist_append_right _ _)

theorem relation_ne_reverse (valid : schema.WellFormedEntity entity) {relation : Relation}
    {reverse : ReverseRelation} (declared : relation ∈ entity.relations)
    (seen : reverse ∈ schema.reverseRelations entity.name) : relation.name ≠ reverse.name := by
  have apart := (List.nodup_append.mp valid.attributeSources_nodup).2.2
  have known : relation.name ∈ entity.memberNames :=
    List.mem_append_right _ (List.mem_map_of_mem declared)
  exact apart _ known _ (List.mem_map_of_mem seen)

end WellFormedEntity

theorem mem_of_enum? {schema : Schema} {name : String} {e : Enumeration}
    (found : schema.enum? name = some e) : e ∈ schema.enums ∧ e.name = name :=
  ⟨List.mem_of_find?_eq_some found, by simpa using List.find?_some found⟩

theorem mem_of_entity? {schema : Schema} {name : String} {entity : Entity}
    (found : schema.entity? name = some entity) :
    entity ∈ schema.entities ∧ entity.name = name :=
  ⟨List.mem_of_find?_eq_some found, by simpa using List.find?_some found⟩

theorem enumViolation?_eq_none_iff {entityNames seen : List String} {enums : List Enumeration} :
    enumViolation? entityNames seen enums = none ↔
      (enums.map (·.name)).Nodup ∧ ∀ e ∈ enums,
        e.name ∉ seen ∧ e.name ∉ entityNames ∧ e.values ≠ [] ∧ e.values.Nodup := by
  induction enums generalizing seen with
  | nil => simp [enumViolation?]
  | cons e rest ih =>
      have valuesRepeat : firstRepeat? id [] e.values = none ↔ e.values.Nodup := by
        simp [firstRepeat?_eq_none_iff]
      simp only [enumViolation?, List.map_cons, List.nodup_cons, List.forall_mem_cons,
        List.mem_map]
      by_cases known : e.name ∈ seen
      · simp [known]
      · by_cases clash : e.name ∈ entityNames
        · simp [known, clash]
        · by_cases empty : e.values = []
          · simp [known, clash, empty]
          · cases repeated : firstRepeat? id [] e.values with
            | some value =>
                have repeats : ¬ e.values.Nodup := fun nodup => by
                  simp [valuesRepeat.mpr nodup] at repeated
                simp [known, clash, empty, repeats]
            | none =>
                have nodup := valuesRepeat.mp repeated
                simp only [known, clash, List.isEmpty_iff, empty, if_false, ih,
                  List.mem_cons, not_false_eq_true, true_and, nodup, ne_eq]
                grind

theorem enumUseViolation?_eq_none_iff {schema : Schema} {entity : Entity} {field : Field} :
    schema.enumUseViolation? entity field = none ↔
      ∀ name, field.type.enumName? = some name →
        ∃ e, schema.enum? name = some e ∧
          ∀ value, field.default = some (.literal value) → value.enumText ∈ e.values := by
  unfold enumUseViolation? defaultViolation?
  cases field.type.enumName? with
  | none => simp
  | some name =>
      cases found : schema.enum? name with
      | none => simp [found]
      | some e =>
          cases field.default with
          | none => simp [found]
          | some default => cases default <;> simp [found]

theorem fieldViolation?_eq_none_iff {schema : Schema} {entity : Entity} {field : Field} :
    schema.fieldViolation? entity field = none ↔ schema.WellFormedField field := by
  rw [fieldViolation?, Option.or_eq_none_iff, enumUseViolation?_eq_none_iff]
  constructor
  · rintro ⟨enumUse, integer⟩
    refine ⟨enumUse, fun automatic => ?_⟩
    simpa [automatic] using integer
  · rintro ⟨enumUse, integer⟩
    refine ⟨enumUse, ?_⟩
    by_cases automatic : field.isAutoincrement = true
    · simp [integer automatic]
    · simp [automatic]

theorem primaryKeyViolation?_eq_none_iff {entity : Entity} :
    primaryKeyViolation? entity = none ↔
      ∃ field, entity.fields.filter (·.primaryKey) = [field] := by
  unfold primaryKeyViolation?
  generalize entity.fields.filter (·.primaryKey) = keys
  match keys with
  | [] => simp
  | [field] => simp
  | first :: second :: rest => simp

theorem relationViolation?_eq_none_iff {schema : Schema} {entity : Entity}
    {relation : Relation} :
    schema.relationViolation? entity relation = none ↔
      schema.WellFormedRelation relation := by
  unfold relationViolation?
  constructor
  · intro accepted
    cases target : schema.entity? relation.target with
    | none => simp [target] at accepted
    | some entity =>
        simp only [target] at accepted
        by_cases found : (schema.targetField? relation).isNone = true
        · simp [found] at accepted
        · refine ⟨by simp [target], by simpa [Option.isSome_iff_ne_none] using found, ?_⟩
          intro setNull
          simpa [found, setNull] using accepted
  · rintro ⟨target, targetField, setNull⟩
    obtain ⟨entity, target⟩ := Option.isSome_iff_exists.mp target
    obtain ⟨field, targetField⟩ := Option.isSome_iff_exists.mp targetField
    simpa [target, targetField] using setNull

theorem attributes_nodup_iff {schema : Schema} {entity : Entity} :
    ((schema.attributeSources entity).map lowercase).Nodup ↔
      firstRepeat? lowercase [] entity.memberNames = none ∧
        schema.reverseNameViolation? entity = none := by
  simp only [attributeSources, reverseNameViolation?, Option.map_eq_none_iff,
    firstRepeat?_eq_none_iff, List.map_append, List.map_map, List.nodup_append]
  constructor
  · rintro ⟨members, reverses, apart⟩
    refine ⟨⟨members, by simp⟩, reverses, fun reverse member known => ?_⟩
    exact apart _ known _ (List.mem_map_of_mem member) rfl
  · rintro ⟨⟨members, -⟩, reverses, apart⟩
    refine ⟨members, reverses, ?_⟩
    rintro name known other reached rfl
    obtain ⟨reverse, member, rfl⟩ := List.mem_map.mp reached
    exact apart reverse member known

theorem validate_eq_ok_iff_wellFormed {schema : Schema} :
    schema.validate = .ok () ↔ schema.WellFormed := by
  simp only [validate_eq_ok_iff, violation?, entityViolation?, Option.or_eq_none_iff,
    Option.map_eq_none_iff, List.findSome?_eq_none_iff, firstRepeat?_eq_none_iff,
    enumViolation?_eq_none_iff, fieldViolation?_eq_none_iff,
    primaryKeyViolation?_eq_none_iff, relationViolation?_eq_none_iff]
  constructor
  · rintro ⟨⟨entities, -⟩, ⟨enums, enumeration⟩, entity, relation, reverse⟩
    refine ⟨by simpa using entities, enums, ?_, ?_⟩
    · intro e member
      obtain ⟨-, noEntity, inhabited, values⟩ := enumeration e member
      exact ⟨noEntity, inhabited, values⟩
    · intro e member
      obtain ⟨members, primaryKey, fields⟩ := entity e member
      exact ⟨attributes_nodup_iff.mpr
          ⟨firstRepeat?_eq_none_iff.mpr members, reverse e member⟩,
        primaryKey, fields, relation e member⟩
  · rintro ⟨entities, enums, enumeration, entity⟩
    refine ⟨⟨by simpa using entities, by simp⟩, ⟨enums, ?_⟩, ?_, ?_, ?_⟩
    · intro e member
      obtain ⟨noEntity, inhabited, values⟩ := enumeration e member
      exact ⟨by simp, noEntity, inhabited, values⟩
    · intro e member
      obtain ⟨attributes, primaryKey, fields, -⟩ := entity e member
      exact ⟨firstRepeat?_eq_none_iff.mp (attributes_nodup_iff.mp attributes).1,
        primaryKey, fields⟩
    · exact fun e member => (entity e member).relations
    · exact fun e member =>
        (attributes_nodup_iff.mp (entity e member).attributes_nodup).2

end Schema

end Modelwright
