import Modelwright.Proofs.Schema.WellFormed

namespace Modelwright

open Modelwright.Text

/-! Consistency of a schema as one condition, and the violation that each error describes. -/

/-- The item stands behind another one with its key, or its key was seen before. -/
def Repeats (key : α → β) (seen : List β) (items : List α) (item : α) : Prop :=
  ∃ before after, items = before ++ item :: after ∧ (key item ∈ seen ∨ key item ∈ before.map key)

theorem Repeats.cons {key : α → β} {seen : List β} {first item : α} {rest : List α}
    (repeated : Repeats key (key first :: seen) rest item) :
    Repeats key seen (first :: rest) item := by
  obtain ⟨before, after, rfl, known⟩ := repeated
  refine ⟨first :: before, after, rfl, ?_⟩
  rw [List.map_cons, List.mem_cons]
  rcases known with seenKey | earlier
  · rcases List.mem_cons.mp seenKey with same | seenKey
    · exact .inr (.inl same)
    · exact .inl seenKey
  · exact .inr (.inr earlier)

theorem repeats_of_firstRepeat? [DecidableEq β] {key : α → β} {seen : List β} {items : List α}
    {item : α} (found : firstRepeat? key seen items = some item) :
    Repeats key seen items item := by
  induction items generalizing seen with
  | nil => simp [firstRepeat?] at found
  | cons first rest ih =>
      unfold firstRepeat? at found
      split at found
      · rename_i known
        obtain rfl := Option.some.inj found
        exact ⟨[], rest, rfl, .inl known⟩
      · exact (ih found).cons

theorem Repeats.not_nodup {key : α → β} {seen : List β} {items : List α} {item : α}
    (repeated : Repeats key seen items item) : ¬ (seen ++ items.map key).Nodup := by
  intro nodup
  obtain ⟨before, after, rfl, known⟩ := repeated
  rw [List.map_append, List.map_cons, ← List.append_assoc, List.nodup_append] at nodup
  refine nodup.2.2 (key item) ?_ (key item) List.mem_cons_self rfl
  exact List.mem_append.mpr known

namespace Schema

structure Consistent (schema : Schema) : Prop where
  entityNames_nodup : (schema.entities.map (·.name)).Nodup
  enumNames_nodup : (schema.enums.map (·.name)).Nodup
  names_apart : ∀ e ∈ schema.enums, ∀ entity ∈ schema.entities, e.name ≠ entity.name
  enum_inhabited : ∀ e ∈ schema.enums, e.values ≠ []
  enumValues_nodup : ∀ e ∈ schema.enums, e.values.Nodup
  attributes_nodup : ∀ entity ∈ schema.entities,
    ((schema.attributeSources entity).map lowercase).Nodup
  onePrimaryKey : ∀ entity ∈ schema.entities, entity.fields.countP (·.primaryKey) = 1
  enumField : ∀ entity ∈ schema.entities, ∀ field ∈ entity.fields, ∀ name,
    field.type = .enumeration name → ∃ e ∈ schema.enums, e.name = name ∧
      ∀ value, field.default = some (.literal value) → value.enumText ∈ e.values
  autoincrement : ∀ entity ∈ schema.entities, ∀ field ∈ entity.fields,
    field.default = some (.generator .autoincrement) →
      field.type = .scalar .int ∨ field.type = .scalar .bigInt
  relationTarget : ∀ entity ∈ schema.entities, ∀ relation ∈ entity.relations,
    ∃ target ∈ schema.entities, target.name = relation.target ∧
      ∀ name, relation.toField = some name → ∃ field ∈ target.fields, field.name = name
  setNull : ∀ entity ∈ schema.entities, ∀ relation ∈ entity.relations,
    relation.onDelete = some .setNull → relation.nullable = true

/-- The schema has the violation that the error describes. -/
inductive Violates (schema : Schema) : SchemaError → Prop
  | duplicateEntityName {name : String}
      (repeated : Repeats id [] (schema.entities.map (·.name)) name) :
      Violates schema (.duplicateEntityName name)
  | duplicateEnumName {e : Enumeration} (repeated : Repeats (·.name) [] schema.enums e) :
      Violates schema (.duplicateEnumName e.name)
  | enumEntityNameClash {e : Enumeration} {entity : Entity} (declared : e ∈ schema.enums)
      (member : entity ∈ schema.entities) (same : e.name = entity.name) :
      Violates schema (.enumEntityNameClash e.name)
  | emptyEnum {e : Enumeration} (declared : e ∈ schema.enums) (empty : e.values = []) :
      Violates schema (.emptyEnum e.name)
  | duplicateEnumValue {e : Enumeration} {value : String} (declared : e ∈ schema.enums)
      (repeated : Repeats id [] e.values value) :
      Violates schema (.duplicateEnumValue e.name value)
  | duplicateFieldName {entity : Entity} {name : String} (member : entity ∈ schema.entities)
      (repeated : Repeats lowercase [] entity.memberNames name) :
      Violates schema (.duplicateFieldName entity.name name)
  | reverseRelationNameClash {entity : Entity} {reverse : ReverseRelation}
      (member : entity ∈ schema.entities)
      (repeated : Repeats (fun reverse => lowercase reverse.name)
        (entity.memberNames.map lowercase) (schema.reverseRelations entity.name) reverse) :
      Violates schema (.reverseRelationNameClash entity.name reverse.name reverse.owner.name)
  | missingPrimaryKey {entity : Entity} (member : entity ∈ schema.entities)
      (missing : ∀ field ∈ entity.fields, field.primaryKey = false) :
      Violates schema (.missingPrimaryKey entity.name)
  | multiplePrimaryKeys {entity : Entity} (member : entity ∈ schema.entities)
      (several : 1 < entity.fields.countP (·.primaryKey)) :
      Violates schema (.multiplePrimaryKeys entity.name
        (", ".intercalate ((entity.fields.filter (·.primaryKey)).map (·.name))))
  | relationTargetNotFound {entity : Entity} {relation : Relation}
      (member : entity ∈ schema.entities) (declared : relation ∈ entity.relations)
      (absent : ∀ target ∈ schema.entities, target.name ≠ relation.target) :
      Violates schema (.relationTargetNotFound entity.name relation.name relation.target)
  | relationTargetFieldNotFound {entity target : Entity} {relation : Relation} {name : String}
      (member : entity ∈ schema.entities) (declared : relation ∈ entity.relations)
      (reached : target ∈ schema.entities) (targetName : target.name = relation.target)
      (referred : relation.toField = some name)
      (absent : ∀ field ∈ target.fields, field.name ≠ name) :
      Violates schema
        (.relationTargetFieldNotFound entity.name relation.name target.name name)
  | setNullOnRequiredRelation {entity : Entity} {relation : Relation}
      (member : entity ∈ schema.entities) (declared : relation ∈ entity.relations)
      (setNull : relation.onDelete = some .setNull) (required : relation.nullable = false) :
      Violates schema (.setNullOnRequiredRelation entity.name relation.name)
  | unknownEnum {entity : Entity} {field : Field} {name : String}
      (member : entity ∈ schema.entities) (declared : field ∈ entity.fields)
      (type : field.type = .enumeration name) (absent : ∀ e ∈ schema.enums, e.name ≠ name) :
      Violates schema (.unknownEnum entity.name field.name name)
  | invalidEnumDefault {entity : Entity} {field : Field} {e : Enumeration} {value : Json}
      (member : entity ∈ schema.entities) (declared : field ∈ entity.fields)
      (known : e ∈ schema.enums) (type : field.type = .enumeration e.name)
      (default : field.default = some (.literal value)) (absent : value.enumText ∉ e.values) :
      Violates schema (.invalidEnumDefault entity.name field.name value.enumText e.name)
  | autoincrementOnNonInteger {entity : Entity} {field : Field}
      (member : entity ∈ schema.entities) (declared : field ∈ entity.fields)
      (default : field.default = some (.generator .autoincrement))
      (noInt : field.type ≠ .scalar .int) (noBigInt : field.type ≠ .scalar .bigInt) :
      Violates schema (.autoincrementOnNonInteger entity.name field.name)

theorem Violates.not_consistent {schema : Schema} {error : SchemaError}
    (violated : schema.Violates error) : ¬ schema.Consistent := by
  intro consistent
  cases violated with
  | duplicateEntityName repeated =>
      exact repeated.not_nodup (by simpa using consistent.entityNames_nodup)
  | duplicateEnumName repeated =>
      exact repeated.not_nodup (by simpa using consistent.enumNames_nodup)
  | enumEntityNameClash declared member same =>
      exact consistent.names_apart _ declared _ member same
  | emptyEnum declared empty => exact consistent.enum_inhabited _ declared empty
  | duplicateEnumValue declared repeated =>
      exact repeated.not_nodup (by simpa using consistent.enumValues_nodup _ declared)
  | duplicateFieldName member repeated =>
      have nodup := consistent.attributes_nodup _ member
      rw [attributeSources, List.map_append] at nodup
      exact repeated.not_nodup (List.nodup_append.mp nodup).1
  | reverseRelationNameClash member repeated =>
      have nodup := consistent.attributes_nodup _ member
      rw [attributeSources, List.map_append, List.map_map] at nodup
      exact repeated.not_nodup nodup
  | missingPrimaryKey member missing =>
      have noKey := List.countP_eq_zero.mpr fun field declared =>
        Bool.not_eq_true _ ▸ missing field declared
      have oneKey := consistent.onePrimaryKey _ member
      exact Nat.zero_ne_one (noKey.symm.trans oneKey)
  | multiplePrimaryKeys member several =>
      exact absurd (consistent.onePrimaryKey _ member) (Nat.ne_of_gt several)
  | relationTargetNotFound member declared absent =>
      obtain ⟨target, reached, name, -⟩ := consistent.relationTarget _ member _ declared
      exact absent target reached name
  | relationTargetFieldNotFound member declared reached targetName referred absent =>
      obtain ⟨target, known, name, fields⟩ := consistent.relationTarget _ member _ declared
      obtain rfl := List.inj_on_of_nodup_map consistent.entityNames_nodup known reached
        (name.trans targetName.symm)
      obtain ⟨field, fieldMember, fieldName⟩ := fields _ referred
      exact absent field fieldMember fieldName
  | setNullOnRequiredRelation member declared setNull required =>
      exact absurd (consistent.setNull _ member _ declared setNull) (by simp [required])
  | unknownEnum member declared type absent =>
      obtain ⟨e, known, name, -⟩ := consistent.enumField _ member _ declared _ type
      exact absent e known name
  | invalidEnumDefault member declared known type default absent =>
      obtain ⟨e, listed, name, values⟩ := consistent.enumField _ member _ declared _ type
      obtain rfl := List.inj_on_of_nodup_map consistent.enumNames_nodup listed known name
      exact absent (values _ default)
  | autoincrementOnNonInteger member declared default noInt noBigInt =>
      exact (consistent.autoincrement _ member _ declared default).elim noInt noBigInt

variable {schema : Schema} {error : SchemaError}

theorem violates_of_enumViolation? {enums : List Enumeration} {seen : List String}
    (found : enumViolation? (schema.entities.map (·.name)) seen enums = some error)
    (listed : ∀ e, Repeats (·.name) seen enums e → Repeats (·.name) [] schema.enums e)
    (declared : ∀ e ∈ enums, e ∈ schema.enums) : schema.Violates error := by
  induction enums generalizing seen with
  | nil => simp [enumViolation?] at found
  | cons e rest ih =>
      have known : e ∈ schema.enums := declared e List.mem_cons_self
      unfold enumViolation? at found
      split at found
      · rename_i repeated
        obtain rfl := Option.some.inj found
        exact .duplicateEnumName (listed e ⟨[], rest, rfl, .inl repeated⟩)
      split at found
      · rename_i clash
        obtain rfl := Option.some.inj found
        obtain ⟨entity, member, same⟩ := List.mem_map.mp clash
        exact .enumEntityNameClash known member same.symm
      split at found
      · rename_i empty
        obtain rfl := Option.some.inj found
        exact .emptyEnum known (List.isEmpty_iff.mp empty)
      split at found
      · rename_i value repeated
        obtain rfl := Option.some.inj found
        exact .duplicateEnumValue known (repeats_of_firstRepeat? repeated)
      · exact ih found (fun other repeated => listed other repeated.cons)
          fun other member => declared other (List.mem_cons_of_mem e member)

theorem violates_of_fieldViolation? {entity : Entity} {field : Field}
    (member : entity ∈ schema.entities) (declared : field ∈ entity.fields)
    (found : schema.fieldViolation? entity field = some error) : schema.Violates error := by
  rcases Option.or_eq_some_iff.mp found with enumUse | ⟨-, automatic⟩
  · unfold enumUseViolation? at enumUse
    split at enumUse
    · cases enumUse
    rename_i name named
    have type := FieldType.enumName?_eq_some_iff.mp named
    split at enumUse
    · rename_i unknown
      obtain rfl := Option.some.inj enumUse
      exact .unknownEnum member declared type (by simpa [enum?] using unknown)
    · rename_i e known
      obtain ⟨listed, rfl⟩ := mem_of_enum? known
      unfold defaultViolation? at enumUse
      split at enumUse
      · rename_i value default
        split at enumUse
        · cases enumUse
        · rename_i absent
          obtain rfl := Option.some.inj enumUse
          exact .invalidEnumDefault member declared listed type default absent
      · cases enumUse
  · split at automatic
    · rename_i misused
      obtain rfl := Option.some.inj automatic
      rw [Bool.and_eq_true, Bool.not_eq_true', ← Bool.not_eq_true, FieldType.isInteger_iff,
        not_or, Field.isAutoincrement_iff] at misused
      obtain ⟨default, noInt, noBigInt⟩ := misused
      exact .autoincrementOnNonInteger member declared default noInt noBigInt
    · cases automatic

theorem violates_of_primaryKeyViolation? {entity : Entity} (member : entity ∈ schema.entities)
    (found : primaryKeyViolation? entity = some error) : schema.Violates error := by
  have count : entity.fields.countP (·.primaryKey) =
      ((entity.fields.filter (·.primaryKey)).map (·.name)).length := by
    rw [List.length_map, List.countP_eq_length_filter]
  unfold primaryKeyViolation? at found
  split at found
  · rename_i noKeys
    obtain rfl := Option.some.inj found
    refine .missingPrimaryKey member fun field declared => ?_
    have rejected := List.filter_eq_nil_iff.mp (List.map_eq_nil_iff.mp noKeys) field declared
    exact Bool.not_eq_true _ ▸ rejected
  · cases found
  · rename_i names noKey noOther
    obtain rfl := Option.some.inj found
    refine .multiplePrimaryKeys member ?_
    rw [count]
    match keys : (entity.fields.filter (·.primaryKey)).map (·.name) with
    | [] => exact absurd keys noKey
    | [name] => exact absurd keys (noOther name)
    | first :: second :: rest =>
        rw [keys]
        simp

theorem violates_of_entityViolation? {entity : Entity} (member : entity ∈ schema.entities)
    (found : schema.entityViolation? entity = some error) : schema.Violates error := by
  rcases Option.or_eq_some_iff.mp found with names | ⟨-, found⟩
  · obtain ⟨name, repeated, rfl⟩ := Option.map_eq_some_iff.mp names
    exact .duplicateFieldName member (repeats_of_firstRepeat? repeated)
  rcases Option.or_eq_some_iff.mp found with keys | ⟨-, fields⟩
  · exact violates_of_primaryKeyViolation? member keys
  · obtain ⟨field, declared, found⟩ := List.exists_of_findSome?_eq_some fields
    exact violates_of_fieldViolation? member declared found

theorem exists_toField_of_targetField? {relation : Relation} {target : Entity}
    (keyed : ∃ field, target.fields.filter (·.primaryKey) = [field])
    (reached : schema.entity? relation.target = some target)
    (missing : schema.targetField? relation = none) :
    ∃ name, relation.toField = some name ∧ ∀ field ∈ target.fields, field.name ≠ name := by
  simp only [targetField?, reached, Option.bind_some] at missing
  cases toField : relation.toField with
  | some name =>
      refine ⟨name, rfl, ?_⟩
      simpa [toField, Entity.field?] using missing
  | none =>
      obtain ⟨field, keys⟩ := keyed
      rw [toField] at missing
      have found : field ∈ target.fields.filter (·.primaryKey) := by simp [keys]
      obtain ⟨declared, primary⟩ := List.mem_filter.mp found
      exact absurd primary (List.find?_eq_none.mp missing field declared)

theorem violates_of_relationViolation? {entity : Entity} {relation : Relation}
    (keyed : ∀ target ∈ schema.entities, ∃ field, target.fields.filter (·.primaryKey) = [field])
    (member : entity ∈ schema.entities) (declared : relation ∈ entity.relations)
    (found : schema.relationViolation? entity relation = some error) :
    schema.Violates error := by
  unfold relationViolation? at found
  split at found
  · rename_i absent
    obtain rfl := Option.some.inj found
    exact .relationTargetNotFound member declared (by simpa [entity?] using absent)
  rename_i target reached
  obtain ⟨targetMember, targetName⟩ := mem_of_entity? reached
  split at found
  · rename_i missing
    obtain rfl := Option.some.inj found
    obtain ⟨name, toField, absent⟩ := exists_toField_of_targetField?
      (keyed target targetMember) reached (Option.isNone_iff_eq_none.mp missing)
    rw [toField]
    exact .relationTargetFieldNotFound member declared targetMember targetName toField absent
  split at found
  · rename_i required
    obtain rfl := Option.some.inj found
    exact .setNullOnRequiredRelation member declared required.1 required.2
  · cases found

theorem violates_of_violation? (found : schema.violation? = some error) :
    schema.Violates error := by
  rcases Option.or_eq_some_iff.mp found with entityNames | ⟨-, found⟩
  · obtain ⟨name, repeated, rfl⟩ := Option.map_eq_some_iff.mp entityNames
    exact .duplicateEntityName (repeats_of_firstRepeat? repeated)
  rcases Option.or_eq_some_iff.mp found with enums | ⟨-, found⟩
  · exact violates_of_enumViolation? enums (fun _ repeated => repeated) fun _ member => member
  rcases Option.or_eq_some_iff.mp found with entities | ⟨noneSoFar, found⟩
  · obtain ⟨entity, member, found⟩ := List.exists_of_findSome?_eq_some entities
    exact violates_of_entityViolation? member found
  rcases Option.or_eq_some_iff.mp found with relations | ⟨-, reverses⟩
  · obtain ⟨entity, member, relations⟩ := List.exists_of_findSome?_eq_some relations
    obtain ⟨relation, declared, found⟩ := List.exists_of_findSome?_eq_some relations
    refine violates_of_relationViolation? (fun target reached => ?_) member declared found
    have accepted := List.findSome?_eq_none_iff.mp noneSoFar target reached
    exact primaryKeyViolation?_eq_none_iff.mp
      (Option.or_eq_none_iff.mp (Option.or_eq_none_iff.mp accepted).2).1
  · obtain ⟨entity, member, reverses⟩ := List.exists_of_findSome?_eq_some reverses
    obtain ⟨reverse, repeated, rfl⟩ := Option.map_eq_some_iff.mp reverses
    exact .reverseRelationNameClash member (repeats_of_firstRepeat? repeated)

theorem validate_eq_error_iff :
    schema.validate = .error error ↔ schema.violation? = some error := by
  unfold validate
  split <;> simp_all

/-- Keys are looked at once no two entities share a name, so the entity that is reported to have
none is the one of that name. -/
theorem noKey_of_missingPrimaryKey {entity : Entity} (member : entity ∈ schema.entities)
    (refused : schema.validate = .error (.missingPrimaryKey entity.name)) :
    ∀ field ∈ entity.fields, field.primaryKey = false := by
  have found := validate_eq_error_iff.mp refused
  have apart : (schema.entities.map (·.name)).Nodup := by
    rcases Option.or_eq_some_iff.mp found with names | ⟨names, -⟩
    · obtain ⟨name, -, same⟩ := Option.map_eq_some_iff.mp names
      cases same
    · simpa using (firstRepeat?_eq_none_iff.mp (Option.map_eq_none_iff.mp names)).1
  generalize reported : SchemaError.missingPrimaryKey entity.name = error at found
  cases violates_of_violation? found with
  | missingPrimaryKey known missing =>
      have name := SchemaError.missingPrimaryKey.inj reported
      rwa [List.inj_on_of_nodup_map apart member known name]
  | _ => cases reported

theorem WellFormed.consistent (valid : schema.WellFormed) : schema.Consistent where
  entityNames_nodup := valid.entities_nodup
  enumNames_nodup := valid.enums_nodup
  names_apart e listed entity member same :=
    (valid.enums e listed).noEntity (same ▸ List.mem_map_of_mem member)
  enum_inhabited e listed := (valid.enums e listed).inhabited
  enumValues_nodup e listed := (valid.enums e listed).values_nodup
  attributes_nodup entity member := (valid.entities entity member).attributes_nodup
  onePrimaryKey entity member := by
    obtain ⟨field, keys⟩ := (valid.entities entity member).primaryKey
    rw [List.countP_eq_length_filter, keys, List.length_singleton]
  enumField entity member field declared name type := by
    obtain ⟨e, found, values⟩ := ((valid.entities entity member).fields field declared).enumUse
      name (by rw [type, FieldType.enumName?])
    obtain ⟨listed, rfl⟩ := mem_of_enum? found
    exact ⟨e, listed, rfl, values⟩
  autoincrement entity member field declared default :=
    FieldType.isInteger_iff.mp (((valid.entities entity member).fields field declared).autoincrement
      (Field.isAutoincrement_iff.mpr default))
  relationTarget entity member relation declared := by
    have lawful := (valid.entities entity member).relations relation declared
    obtain ⟨target, reached⟩ := Option.isSome_iff_exists.mp lawful.target
    obtain ⟨targetMember, targetName⟩ := mem_of_entity? reached
    refine ⟨target, targetMember, targetName, fun name toField => ?_⟩
    have found := lawful.targetField
    simp only [targetField?, reached, toField, Option.bind_some] at found
    simpa [Entity.field?] using found
  setNull entity member relation declared :=
    ((valid.entities entity member).relations relation declared).setNull

/-- A schema is accepted exactly if it is consistent, and the error of any other one describes a
violation that is there. -/
theorem validate_ok_iff_consistent_and_error_violates (schema : Schema) :
    (schema.validate = .ok () ↔ schema.Consistent) ∧
      (∀ error, schema.validate = .error error → schema.Violates error) ∧
      ∀ error, schema.Violates error → ¬ schema.Consistent := by
  refine ⟨⟨fun accepted => ?_, fun consistent => ?_⟩, fun error refused => ?_, fun _ violated => ?_⟩
  · exact (validate_eq_ok_iff_wellFormed.mp accepted).consistent
  · cases outcome : schema.validate with
    | ok done => rfl
    | error error =>
        have violated := violates_of_violation? (validate_eq_error_iff.mp outcome)
        exact absurd consistent violated.not_consistent
  · exact violates_of_violation? (validate_eq_error_iff.mp refused)
  · exact violated.not_consistent

end Schema

end Modelwright
