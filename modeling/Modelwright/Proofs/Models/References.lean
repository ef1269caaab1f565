import Modelwright.Proofs.Arrangement
import Modelwright.Proofs.Models.Keywords
import Modelwright.Proofs.Models.Scopes
import Modelwright.Proofs.Schema.WellFormed

namespace Modelwright

open Modelwright.Target

/-! Cross references of a generated module: what a declaration names is there, and what is named
back names the declaration's class. -/

def Frame.Emits (frame : Frame) (m : Target.Module) (entity : Entity) (c : ModelClass) : Prop :=
  (entity, c) ∈ frame.schema.entities.zip m.models

def Frame.EmitsEnum (frame : Frame) (m : Target.Module) (e : Enumeration) (c : EnumClass) : Prop :=
  (e, c) ∈ frame.schema.enums.zip m.enums

/-- The text of the class ends before that of any model starts. -/
def PrecedesModels (m : Target.Module) (c : EnumClass) : Prop :=
  ∃ before after, m.lines = before ++ c.render ++ after ∧
    ∀ model ∈ m.models, model.render <:+: after

/-- The declaration is that of a relation from one entity to another, the class of which is in the
module. -/
structure Leads (frame : Frame) (m : Target.Module) (entity : Entity) (d : Declaration)
    (relation : Relation) (target : Entity) (c : ModelClass) : Prop where
  declared : relation ∈ entity.relations
  name : d.name = frame.casing.valueName relation.name
  reaches : target.name = relation.target
  emitted : frame.Emits m target c

/-- The annotation that shows a relation on the class it leads to. -/
def accessorHint (kind : RelationKind) (owner : String) : Expr :=
  .subscript
    (.member (.name "fields")
      (match kind with
        | .foreignKey => "ReverseRelation"
        | .oneToOne => "BackwardOneToOneRelation"))
    [.text owner]

namespace Schema

def forwardRelations (schema : Schema) : List ReverseRelation :=
  schema.entities.flatMap fun owner => owner.relations.map fun relation => ⟨owner, relation⟩

/-- The reverse accessors of all entities, each under the name of the entity that has it. -/
def accessors (schema : Schema) : List (String × ReverseRelation) :=
  schema.entities.flatMap fun target =>
    (schema.reverseRelations target.name).map fun reverse => (target.name, reverse)

end Schema

structure CrossReferences (frame : Frame) (m : Target.Module) : Prop where
  classes_nodup : (m.enums.map (·.name) ++ m.models.map (·.name)).Nodup
  models : m.models.length = frame.schema.entities.length
  enumType : ∀ {entity c d value}, frame.Emits m entity c → d ∈ c.declarations →
    ("enum_type", value) ∈ d.keywords →
      ∃ field ∈ entity.fields, ∃ e enumClass,
        d.name = frame.casing.valueName field.name ∧ field.type = .enumeration e.name ∧
          frame.EmitsEnum m e enumClass ∧ value = .name enumClass.name ∧
          PrecedesModels m enumClass
  modelName : ∀ {entity c d value}, frame.Emits m entity c → d ∈ c.declarations →
    ("model_name", value) ∈ d.keywords →
      ∃ relation target targetClass, Leads frame m entity d relation target targetClass ∧
        value = .text (frame.settings.appName ++ "." ++ targetClass.name)
  toField : ∀ {entity c d value}, frame.Emits m entity c → d ∈ c.declarations →
    ("to_field", value) ∈ d.keywords →
      ∃ relation target targetClass, Leads frame m entity d relation target targetClass ∧
        ∃ field ∈ target.fields, value = .text (frame.casing.valueName field.name)
  relatedName : ∀ {entity c d value}, frame.Emits m entity c → d ∈ c.declarations →
    ("related_name", value) ∈ d.keywords →
      ∃ relation target targetClass, Leads frame m entity d relation target targetClass ∧
        ∃ reverse, Member.reverse reverse ∈ frame.schema.members target ∧
          reverse.owner = entity ∧ reverse.relation = relation ∧
          value = .text (frame.casing.valueName reverse.name) ∧
          ((∃ handWritten, frame.extensionClass? targetClass.name = some handWritten ∧
              handWritten.declares (frame.casing.valueName reverse.name) = true) ∨
            .annotated (frame.casing.valueName reverse.name)
                (accessorHint relation.kind c.name) ∈ targetClass.declarations)
  forward_nodup : frame.schema.forwardRelations.Nodup
  pairing : frame.schema.accessors.Perm
    (frame.schema.forwardRelations.map fun forward => (forward.relation.target, forward))
  accessors_nodup : ∀ target ∈ frame.schema.entities,
    ((frame.schema.reverseRelations target.name).map fun reverse =>
      frame.casing.valueName reverse.name).Nodup
  textForm : ∀ {entity c key}, frame.Emits m entity c → c.shownKey = some key →
    ∃ field, entity.fields.filter (·.primaryKey) = [field] ∧
      key = frame.casing.valueName field.name

variable {frame : Frame}

theorem emits_generatedModule_iff {entity : Entity} {c : ModelClass} :
    frame.Emits frame.generatedModule entity c ↔
      entity ∈ frame.schema.entities ∧ c = entity.generatedClass frame :=
  Arrangement.mem_zip_map_iff

theorem emitsEnum_generatedModule_iff {e : Enumeration} {c : EnumClass} :
    frame.EmitsEnum frame.generatedModule e c ↔
      e ∈ frame.schema.enums ∧ c = e.generatedClass frame.casing :=
  Arrangement.mem_zip_map_iff

theorem mem_declarations_iff {entity : Entity} {d : Declaration} :
    d ∈ (entity.generatedClass frame).declarations ↔
      ∃ member ∈ frame.schema.members entity,
        (frame.extensionClass? (frame.casing.className entity.name)).any
            (·.declares (member.attributeName frame.casing)) = false ∧
          d = member.declaration frame entity.name := by
  simp only [Entity.generatedClass, List.mem_filterMap, Member.composed?,
    Option.ite_none_left_eq_some, Option.some.injEq, Bool.not_eq_true]
  simp only [eq_comm (a := d)]

theorem mem_members_iff {schema : Schema} {entity : Entity} {member : Member} :
    member ∈ schema.members entity ↔
      (∃ field ∈ entity.fields, member = .field field) ∨
        (∃ relation ∈ entity.relations, member = .relation relation) ∨
          ∃ reverse ∈ schema.reverseRelations entity.name, member = .reverse reverse := by
  simp only [Schema.members, List.mem_append, List.mem_map, or_assoc, eq_comm]

theorem field_of_enumType {entity : Entity} {d : Declaration} {value : Expr}
    (declared : d ∈ (entity.generatedClass frame).declarations)
    (keyword : ("enum_type", value) ∈ d.keywords) :
    ∃ field ∈ entity.fields, ∃ name, d.name = frame.casing.valueName field.name ∧
      field.type = .enumeration name ∧ value = .name (frame.casing.className name) := by
  obtain ⟨member, listed, -, rfl⟩ := mem_declarations_iff.mp declared
  rcases mem_members_iff.mp listed with ⟨field, known, rfl⟩ | ⟨relation, -, rfl⟩ | ⟨reverse, -, rfl⟩
  · rcases mem_arguments keyword with common | typed
    · simp [commonKeys] at common
    · rcases mem_typeKeywords typed with ⟨size, -⟩ | ⟨name, type, -, rfl⟩
      · simp at size
      · exact ⟨field, known, name, rfl, type, rfl⟩
  · simpa using mem_relationKeywords keyword
  · exact absurd keyword List.not_mem_nil

theorem relation_of_reference {entity : Entity} {d : Declaration} {key : String} {value : Expr}
    (declared : d ∈ (entity.generatedClass frame).declarations)
    (keyword : (key, value) ∈ d.keywords)
    (reference : key ∈ ["model_name", "to_field", "related_name"]) :
    ∃ relation ∈ entity.relations, d.name = frame.casing.valueName relation.name ∧
      (key, value) ∈ relationKeywords frame entity.name relation := by
  obtain ⟨member, listed, -, rfl⟩ := mem_declarations_iff.mp declared
  rcases mem_members_iff.mp listed with ⟨field, -, rfl⟩ | ⟨relation, known, rfl⟩ | ⟨reverse, -, rfl⟩
  · rcases mem_arguments keyword with common | typed
    · simp only [commonKeys, List.mem_cons, List.not_mem_nil, or_false] at common reference
      rcases reference with rfl | rfl | rfl <;> simp at common
    · rcases mem_typeKeywords typed with ⟨size, -⟩ | ⟨name, -, rfl, -⟩
      · simp only [List.mem_cons, List.not_mem_nil, or_false] at size reference
        rcases reference with rfl | rfl | rfl <;> simp at size
      · simp at reference
  · exact ⟨relation, known, rfl, keyword⟩
  · exact absurd keyword List.not_mem_nil

theorem classNames_nodup {names : List String}
    (named : classNames frame.casing frame.schema = .ok names) :
    (frame.generatedModule.enums.map (·.name) ++
      frame.generatedModule.models.map (·.name)).Nodup := by
  simpa [Frame.generatedModule, assemble, Function.comp_def, Enumeration.generatedClass,
    Entity.generatedClass, Schema.classSources] using classSpellings_nodup named

theorem precedesModels_of_mem {m : Target.Module} {c : EnumClass} (member : c ∈ m.enums) :
    PrecedesModels m c := by
  obtain ⟨former, later, split⟩ := List.append_of_mem member
  let block (lines : List String) : List String := "" :: "" :: lines
  refine ⟨m.headerLines ++ "" :: m.importLines ++
      ((former.map EnumClass.render).flatMap block ++ ["", ""]),
    (later.map EnumClass.render ++ m.models.map ModelClass.render).flatMap block ++
      ["", "", m.exportLine], ?_, ?_⟩
  · simp [Target.Module.lines, Target.Module.classLines, split, block]
  · intro model modelMember
    obtain ⟨first, second, models⟩ := List.append_of_mem modelMember
    refine ⟨(later.map EnumClass.render ++ first.map ModelClass.render).flatMap block ++ ["", ""],
      (second.map ModelClass.render).flatMap block ++ ["", "", m.exportLine], ?_⟩
    simp [models, block]

namespace Schema

theorem mem_of_targetField? {schema : Schema} {relation : Relation} {target : Entity}
    {field : Field} (reached : schema.entity? relation.target = some target)
    (found : schema.targetField? relation = some field) : field ∈ target.fields := by
  simp only [targetField?, reached, Option.bind_some] at found
  cases key : relation.toField with
  | none =>
      simp only [key] at found
      exact List.mem_of_find?_eq_some found
  | some name =>
      simp only [key] at found
      exact List.mem_of_find?_eq_some found

theorem reverseRelations_eq_filter (schema : Schema) (name : String) :
    schema.reverseRelations name =
      schema.forwardRelations.filter (·.relation.target = name) := by
  simp only [reverseRelations, forwardRelations, List.filter_flatMap, List.filter_map,
    Function.comp_def]

theorem accessors_perm {schema : Schema} (valid : schema.WellFormed) :
    schema.accessors.Perm
      (schema.forwardRelations.map fun forward => (forward.relation.target, forward)) := by
  have covered : ∀ forward ∈ schema.forwardRelations,
      forward.relation.target ∈ schema.entities.map (·.name) := by
    intro forward member
    simp only [forwardRelations, List.mem_flatMap, List.mem_map] at member
    obtain ⟨owner, ownerMember, relation, relationMember, rfl⟩ := member
    have reached := ((valid.entities owner ownerMember).relations relation relationMember).target
    obtain ⟨target, found⟩ := Option.isSome_iff_exists.mp reached
    obtain ⟨targetMember, name⟩ := mem_of_entity? found
    exact List.mem_map.mpr ⟨target, targetMember, name⟩
  -- The accessors are the forward relations, sorted by target.
  have grouped : schema.accessors = ((schema.entities.map (·.name)).flatMap fun name =>
      schema.forwardRelations.filter (·.relation.target = name)).map
        fun forward => (forward.relation.target, forward) := by
    simp only [accessors, reverseRelations_eq_filter, List.flatMap_map, List.map_flatMap]
    refine List.flatMap_congr fun target _ => List.map_congr_left fun reverse member => ?_
    simp only [List.mem_filter, decide_eq_true_eq] at member
    rw [member.2]
  rw [grouped]
  exact (Arrangement.flatMap_filter_perm valid.entities_nodup covered).map _

theorem forwardRelations_nodup {schema : Schema} (valid : schema.WellFormed) :
    schema.forwardRelations.Nodup := by
  rw [forwardRelations, List.nodup_flatMap]
  constructor
  · intro owner member
    have names := (valid.entities owner member).relations_nodup
    exact (List.Nodup.of_map _ names).map fun _ _ same => (ReverseRelation.mk.inj same).2
  · refine (List.pairwise_map.mp valid.entities_nodup).imp ?_
    intro first second apart forward firstMember secondMember
    obtain ⟨_, _, rfl⟩ := List.mem_map.mp firstMember
    obtain ⟨_, _, same⟩ := List.mem_map.mp secondMember
    exact apart (congrArg (fun reverse : ReverseRelation => reverse.owner.name) same).symm

end Schema

theorem leads_of_relation (valid : frame.schema.WellFormed) {entity : Entity} {d : Declaration}
    {relation : Relation} (member : entity ∈ frame.schema.entities)
    (declared : relation ∈ entity.relations)
    (name : d.name = frame.casing.valueName relation.name) :
    ∃ target, frame.schema.entity? relation.target = some target ∧
      Leads frame frame.generatedModule entity d relation target
        (target.generatedClass frame) := by
  have reached := ((valid.entities entity member).relations relation declared).target
  obtain ⟨target, found⟩ := Option.isSome_iff_exists.mp reached
  obtain ⟨targetMember, targetName⟩ := Schema.mem_of_entity? found
  exact ⟨target, found, declared, name, targetName,
    emits_generatedModule_iff.mpr ⟨targetMember, rfl⟩⟩

theorem referredField_eq_some {schema : Schema} (valid : schema.WellFormed) {entity : Entity}
    {relation : Relation} {target : Entity} {name : String} (member : entity ∈ schema.entities)
    (declared : relation ∈ entity.relations)
    (reached : schema.entity? relation.target = some target)
    (referred : referredField schema relation = some name) :
    ∃ field ∈ target.fields, field.name = name := by
  have known := ((valid.entities entity member).relations relation declared).targetField
  obtain ⟨field, found⟩ := Option.isSome_iff_exists.mp known
  refine ⟨field, Schema.mem_of_targetField? reached found, ?_⟩
  simpa [referredField, found] using referred

theorem reverse_mem_members {schema : Schema} {entity target : Entity} {relation : Relation}
    (member : entity ∈ schema.entities) (declared : relation ∈ entity.relations)
    (reaches : target.name = relation.target) :
    Member.reverse ⟨entity, relation⟩ ∈ schema.members target := by
  refine mem_members_iff.mpr (.inr (.inr ⟨⟨entity, relation⟩, ?_, rfl⟩))
  exact Schema.mem_reverseRelations.mpr ⟨member, declared, reaches.symm⟩

theorem reverseDeclaration_eq (casing : Casing) (reverse : ReverseRelation) :
    reverseDeclaration casing reverse =
      .annotated (casing.valueName reverse.name)
        (accessorHint reverse.relation.kind (casing.className reverse.owner.name)) := by
  unfold reverseDeclaration accessorHint ReverseRelation.annotationName
    ReverseRelation.isCollection
  cases reverse.relation.kind with
  | foreignKey => rfl
  | oneToOne => rfl

theorem overridden_or_declared {entity : Entity} {member : Member}
    (listed : member ∈ frame.schema.members entity) :
    (∃ handWritten, frame.extensionClass? (entity.generatedClass frame).name = some handWritten ∧
        handWritten.declares (member.attributeName frame.casing) = true) ∨
      member.declaration frame entity.name ∈ (entity.generatedClass frame).declarations := by
  cases overridden : (frame.extensionClass? (frame.casing.className entity.name)).any
      (·.declares (member.attributeName frame.casing)) with
  | true => exact .inl (Option.any_eq_true _ _ |>.mp overridden)
  | false => exact .inr (mem_declarations_iff.mpr ⟨member, listed, overridden, rfl⟩)

theorem accessorNames_nodup {entity : Entity} (checked : entity.MembersChecked frame) :
    ((frame.schema.reverseRelations entity.name).map fun reverse =>
      frame.casing.valueName reverse.name).Nodup := by
  have attributes := (entityScope_run_eq_ok_iff.mp (run_entityScope_eq_ok_iff.mpr checked)).2
  simp only [Schema.members, List.map_append, List.map_map] at attributes
  exact (List.nodup_append.mp attributes).1.sublist (List.sublist_append_right _ _)

theorem primaryKey?_eq_some {entity : Entity} {field : Field}
    (only : entity.fields.filter (·.primaryKey) = [field]) : entity.primaryKey? = some field := by
  rw [Entity.primaryKey?, ← List.head?_filter, only]
  rfl

theorem shownKey_of_only {casing : Casing} {entity : Entity} {extension : Option OutlineClass}
    {field : Field} {key : String} (only : entity.fields.filter (·.primaryKey) = [field])
    (shown : shownKey casing entity extension = some key) :
    key = casing.valueName field.name := by
  unfold shownKey at shown
  split at shown
  · simp at shown
  · simpa [primaryKey?_eq_some only, eq_comm] using shown

theorem enumType_resolves (valid : frame.schema.WellFormed) {entity : Entity} {d : Declaration}
    {value : Expr} (member : entity ∈ frame.schema.entities)
    (declared : d ∈ (entity.generatedClass frame).declarations)
    (keyword : ("enum_type", value) ∈ d.keywords) :
    ∃ field ∈ entity.fields, ∃ e enumClass,
      d.name = frame.casing.valueName field.name ∧ field.type = .enumeration e.name ∧
        frame.EmitsEnum frame.generatedModule e enumClass ∧ value = .name enumClass.name ∧
        PrecedesModels frame.generatedModule enumClass := by
  obtain ⟨field, listed, name, fieldName, type, rfl⟩ := field_of_enumType declared keyword
  obtain ⟨e, found, -⟩ := ((valid.entities entity member).fields field listed).enumUse name
    (by rw [type, FieldType.enumName?])
  obtain ⟨known, rfl⟩ := Schema.mem_of_enum? found
  have emitted : frame.EmitsEnum frame.generatedModule e (e.generatedClass frame.casing) :=
    emitsEnum_generatedModule_iff.mpr ⟨known, rfl⟩
  exact ⟨field, listed, e, _, fieldName, type, emitted, rfl,
    precedesModels_of_mem (List.of_mem_zip emitted).2⟩

theorem modelName_resolves (valid : frame.schema.WellFormed) {entity : Entity} {d : Declaration}
    {value : Expr} (member : entity ∈ frame.schema.entities)
    (declared : d ∈ (entity.generatedClass frame).declarations)
    (keyword : ("model_name", value) ∈ d.keywords) :
    ∃ relation target targetClass,
      Leads frame frame.generatedModule entity d relation target targetClass ∧
        value = .text (frame.settings.appName ++ "." ++ targetClass.name) := by
  obtain ⟨relation, listed, name, keyword⟩ := relation_of_reference declared keyword (by simp)
  obtain ⟨target, -, leads⟩ := leads_of_relation valid member listed name
  have value : value = .text (Naming.modelReference frame.settings.appName
      (frame.casing.className relation.target)) := by
    simpa using mem_relationKeywords keyword
  rw [← leads.reaches] at value
  exact ⟨relation, target, _, leads, value⟩

theorem toField_resolves (valid : frame.schema.WellFormed) {entity : Entity} {d : Declaration}
    {value : Expr} (member : entity ∈ frame.schema.entities)
    (declared : d ∈ (entity.generatedClass frame).declarations)
    (keyword : ("to_field", value) ∈ d.keywords) :
    ∃ relation target targetClass,
      Leads frame frame.generatedModule entity d relation target targetClass ∧
        ∃ field ∈ target.fields, value = .text (frame.casing.valueName field.name) := by
  obtain ⟨relation, listed, name, keyword⟩ := relation_of_reference declared keyword (by simp)
  obtain ⟨target, found, leads⟩ := leads_of_relation valid member listed name
  have value : ∃ fieldName, referredField frame.schema relation = some fieldName ∧
      value = .text (frame.casing.valueName fieldName) := by
    simpa using mem_relationKeywords keyword
  obtain ⟨fieldName, referred, rfl⟩ := value
  obtain ⟨field, fieldMember, rfl⟩ := referredField_eq_some valid member listed found referred
  exact ⟨relation, target, _, leads, field, fieldMember, rfl⟩

theorem relatedName_resolves (valid : frame.schema.WellFormed) {entity : Entity} {d : Declaration}
    {value : Expr} (member : entity ∈ frame.schema.entities)
    (declared : d ∈ (entity.generatedClass frame).declarations)
    (keyword : ("related_name", value) ∈ d.keywords) :
    ∃ relation target targetClass,
      Leads frame frame.generatedModule entity d relation target targetClass ∧
        ∃ reverse, Member.reverse reverse ∈ frame.schema.members target ∧
          reverse.owner = entity ∧ reverse.relation = relation ∧
          value = .text (frame.casing.valueName reverse.name) ∧
          ((∃ handWritten, frame.extensionClass? targetClass.name = some handWritten ∧
              handWritten.declares (frame.casing.valueName reverse.name) = true) ∨
            .annotated (frame.casing.valueName reverse.name)
                (accessorHint relation.kind (entity.generatedClass frame).name) ∈
              targetClass.declarations) := by
  obtain ⟨relation, listed, name, keyword⟩ := relation_of_reference declared keyword (by simp)
  obtain ⟨target, -, leads⟩ := leads_of_relation valid member listed name
  have value : value = .text (frame.casing.valueName (relation.reverseName entity.name)) := by
    simpa using mem_relationKeywords keyword
  have accessor := reverse_mem_members member listed leads.reaches
  have shown := overridden_or_declared accessor
  simp only [Member.declaration, reverseDeclaration_eq] at shown
  exact ⟨relation, target, _, leads, ⟨entity, relation⟩, accessor, rfl, rfl, value, shown⟩

/-- Every cross reference of a module made from a valid schema resolves. -/
theorem crossReferences_of_generated {schema : Schema} {settings : Settings}
    {extension : Option ExtensionModule} {m : Target.Module}
    (valid : schema.validate = .ok ())
    (generated : (modelsModule schema settings extension).outcome = .ok m) :
    CrossReferences ⟨schema, settings, extension⟩ m := by
  replace valid := Schema.validate_eq_ok_iff_wellFormed.mp valid
  obtain ⟨⟨names, named⟩, -, checked, rfl⟩ := outcome_modelsModule_eq_ok_iff.mp generated
  refine {
    classes_nodup := classNames_nodup named
    models := by simp [Frame.generatedModule, assemble]
    enumType := ?_
    modelName := ?_
    toField := ?_
    relatedName := ?_
    forward_nodup := Schema.forwardRelations_nodup valid
    pairing := Schema.accessors_perm valid
    accessors_nodup := fun target member => accessorNames_nodup (checked target member)
    textForm := ?_ }
  · intro entity c d value emitted declared keyword
    obtain ⟨member, rfl⟩ := emits_generatedModule_iff.mp emitted
    exact enumType_resolves valid member declared keyword
  · intro entity c d value emitted declared keyword
    obtain ⟨member, rfl⟩ := emits_generatedModule_iff.mp emitted
    exact modelName_resolves valid member declared keyword
  · intro entity c d value emitted declared keyword
    obtain ⟨member, rfl⟩ := emits_generatedModule_iff.mp emitted
    exact toField_resolves valid member declared keyword
  · intro entity c d value emitted declared keyword
    obtain ⟨member, rfl⟩ := emits_generatedModule_iff.mp emitted
    exact relatedName_resolves valid member declared keyword
  · intro entity c key emitted shown
    obtain ⟨member, rfl⟩ := emits_generatedModule_iff.mp emitted
    obtain ⟨field, only⟩ := (valid.entities entity member).primaryKey
    exact ⟨field, only, shownKey_of_only only shown⟩

/-- A schema with an enumeration, a reverse accessor that the extension declares, and a relation of
an entity to itself. -/
def staff : Schema where
  enums := [⟨"Grade", ["JUNIOR", "SENIOR"], none⟩]
  entities := [
    ⟨"Team", none, none, [{ Field.plain "id" (.scalar .int) with primaryKey := true }], []⟩,
    ⟨"Employee", none, none,
      [{ Field.plain "badgeId" (.scalar .int) with primaryKey := true },
        Field.plain "grade" (.enumeration "Grade")],
      [⟨"team", .foreignKey, "Team", false, none, none, none, some "members", none⟩,
        ⟨"mentor", .oneToOne, "Employee", true, none, some "badgeId", some .setNull, none,
          none⟩]⟩]

def staffModule : ExtensionModule := ⟨"app.staff", [⟨"Team", ["members"], []⟩]⟩

theorem crossReferences_staff :
    staff.validate = .ok () ∧
      ∃ m, (modelsModule staff .standard (some staffModule)).outcome = .ok m ∧
        CrossReferences ⟨staff, .standard, some staffModule⟩ m := by
  have valid : staff.validate = .ok () := by decide +kernel
  have accepted : (modelsModule staff .standard (some staffModule)).outcome.isOk = true := by
    decide +kernel
  obtain ⟨m, generated⟩ := Outcome.exists_of_isOk accepted
  exact ⟨valid, m, generated, crossReferences_of_generated valid generated⟩

end Modelwright
