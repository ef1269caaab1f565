import Modelwright.Proofs.Models.Quiet

namespace Modelwright

open Modelwright.Target
open Modelwright.Target.Skeleton

/-! Free texts of a schema: they reach the generated module inside of literals only. -/

def hollowText (text : Option String) : Option String :=
  text.map fun _ => ""

def Enumeration.hollow (e : Enumeration) : Enumeration :=
  { e with description := hollowText e.description }

def Field.hollow (field : Field) : Field :=
  { field with
    column := hollowText field.column
    description := hollowText field.description }

def Relation.hollow (relation : Relation) : Relation :=
  { relation with
    column := hollowText relation.column
    description := hollowText relation.description }

def Entity.hollow (entity : Entity) : Entity :=
  { entity with
    table := hollowText entity.table
    description := hollowText entity.description
    fields := entity.fields.map Field.hollow
    relations := entity.relations.map Relation.hollow }

def Schema.hollow (schema : Schema) : Schema :=
  ⟨schema.enums.map Enumeration.hollow, schema.entities.map Entity.hollow⟩

def Settings.hollow (settings : Settings) : Settings :=
  { settings with appName := "" }

def Frame.hollow (frame : Frame) : Frame :=
  ⟨frame.schema.hollow, frame.settings.hollow, frame.extension⟩

def ReverseRelation.hollow (reverse : ReverseRelation) : ReverseRelation :=
  ⟨reverse.owner.hollow, reverse.relation.hollow⟩

namespace Member

def hollow : Member → Member
  | field f => .field f.hollow
  | relation r => .relation r.hollow
  | reverse r => .reverse r.hollow

@[simp] theorem attributeName_hollow (casing : Casing) (member : Member) :
    member.hollow.attributeName casing = member.attributeName casing := by
  cases member with
  | field f => rfl
  | relation r => rfl
  | reverse r => rfl

end Member

@[simp] theorem Frame.casing_hollow (frame : Frame) : frame.hollow.casing = frame.casing := rfl

namespace Schema

theorem reverseRelations_hollow (schema : Schema) (name : String) :
    schema.hollow.reverseRelations name =
      (schema.reverseRelations name).map ReverseRelation.hollow := by
  simp only [reverseRelations, hollow, List.flatMap_map, List.map_flatMap]
  refine List.flatMap_congr fun owner _ => ?_
  simp only [Entity.hollow, List.filter_map, List.map_map]
  rfl

theorem members_hollow (schema : Schema) (entity : Entity) :
    schema.hollow.members entity.hollow = (schema.members entity).map Member.hollow := by
  have reverses : schema.hollow.reverseRelations entity.hollow.name =
      (schema.reverseRelations entity.name).map ReverseRelation.hollow :=
    reverseRelations_hollow schema entity.name
  rw [members, reverses]
  simp only [members, Entity.hollow, List.map_append, List.map_map]
  rfl

theorem entity?_hollow (schema : Schema) (name : String) :
    schema.hollow.entity? name = (schema.entity? name).map Entity.hollow := by
  rw [entity?, hollow, List.find?_map]
  rfl

theorem primaryKey?_hollow (entity : Entity) :
    entity.hollow.primaryKey? = entity.primaryKey?.map Field.hollow := by
  rw [Entity.primaryKey?, Entity.hollow, List.find?_map]
  rfl

theorem field?_hollow (entity : Entity) (name : String) :
    entity.hollow.field? name = (entity.field? name).map Field.hollow := by
  rw [Entity.field?, Entity.hollow, List.find?_map]
  rfl

theorem targetField?_hollow (schema : Schema) (relation : Relation) :
    schema.hollow.targetField? relation.hollow =
      (schema.targetField? relation).map Field.hollow := by
  have target : schema.hollow.entity? relation.hollow.target =
      (schema.entity? relation.target).map Entity.hollow :=
    entity?_hollow schema relation.target
  have toField : relation.hollow.toField = relation.toField := rfl
  rw [targetField?, targetField?, target, toField]
  cases schema.entity? relation.target with
  | none => rfl
  | some entity =>
      cases relation.toField with
      | none => exact primaryKey?_hollow entity
      | some name => exact field?_hollow entity name

end Schema

theorem referredField_hollow (schema : Schema) (relation : Relation) :
    referredField schema.hollow relation.hollow = referredField schema relation := by
  rw [referredField, referredField, Schema.targetField?_hollow, Option.map_map]
  rfl

def hollowKeyword (keyword : Keyword) : Keyword :=
  (keyword.1, keyword.2.hollow)

theorem hollow_call (function : Expr) (keywords : List Keyword) :
    (Expr.call function [] keywords).hollow =
      .call function.hollow [] (keywords.map hollowKeyword) := by
  rw [Expr.hollow, Expr.hollowKeywords_eq_map]
  rfl

theorem textKeyword_hollow (key : String) (text : Option String) :
    (textKeyword key (hollowText text)).map hollowKeyword =
      (textKeyword key text).map hollowKeyword := by
  cases text with
  | none => rfl
  | some text => rfl

theorem arguments_hollow (frame : Frame) (field : Field) :
    (field.hollow.arguments frame.hollow).map hollowKeyword =
      (field.arguments frame).map hollowKeyword := by
  have column := textKeyword_hollow "source_field" field.column
  have description := textKeyword_hollow "description" field.description
  have keys : keyKeywords field.hollow = keyKeywords field := rfl
  have defaults : field.hollow.defaultArguments frame.casing =
      field.defaultArguments frame.casing := rfl
  have updates : field.hollow.updatedAtArguments = field.updatedAtArguments := rfl
  rw [Field.arguments, Field.arguments, keys, updates, Frame.casing_hollow, defaults]
  simp only [List.map_append]
  exact congrArg₂ (· ++ ·) (by rw [← column]; rfl) description

theorem relationKeywords_hollow (frame : Frame) (entity : String) (relation : Relation) :
    (relationKeywords frame.hollow entity relation.hollow).map hollowKeyword =
      (relationKeywords frame entity relation).map hollowKeyword := by
  have referred : referredField frame.hollow.schema relation.hollow =
      referredField frame.schema relation := referredField_hollow frame.schema relation
  have description := textKeyword_hollow "description" relation.description
  simp only [relationKeywords, List.map_append, referred, Frame.casing_hollow]
  exact congrArg₂ (· ++ ·) rfl description

theorem declaration_hollow (frame : Frame) (entity : String) (member : Member) :
    (member.hollow.declaration frame.hollow entity).hollow =
      (member.declaration frame entity).hollow := by
  cases member with
  | field field =>
      simp only [Member.hollow, Member.declaration, Field.declaration, Declaration.hollow,
        hollow_call, arguments_hollow]
      rfl
  | relation relation =>
      simp only [Member.hollow, Member.declaration, relationDeclaration, Declaration.hollow,
        hollow_call, relationKeywords_hollow]
      rfl
  | reverse reverse => rfl

theorem composed?_hollow (frame : Frame) (entity : String) (extension : Option OutlineClass)
    (member : Member) :
    (member.hollow.composed? frame.hollow entity extension).map Declaration.hollow =
      (member.composed? frame entity extension).map Declaration.hollow := by
  unfold Member.composed?
  rw [Frame.casing_hollow, Member.attributeName_hollow]
  split
  · rfl
  · exact congrArg some (declaration_hollow frame entity member)

theorem generatedMeta_hollow (entity : Entity) (extension : Option OutlineClass) :
    (entity.hollow.generatedMeta extension).hollow = (entity.generatedMeta extension).hollow := by
  unfold Entity.generatedMeta
  split
  · rfl
  · split
    · rfl
    · rfl

theorem shownKey_hollow (casing : Casing) (entity : Entity) (extension : Option OutlineClass) :
    shownKey casing entity.hollow extension = shownKey casing entity extension := by
  unfold shownKey
  rw [Schema.primaryKey?_hollow, Option.map_map]
  rfl

theorem generatedClass_hollow (frame : Frame) (entity : Entity) :
    (entity.hollow.generatedClass frame.hollow).hollow =
      (entity.generatedClass frame).hollow := by
  have members : frame.hollow.schema.members entity.hollow =
      (frame.schema.members entity).map Member.hollow := Schema.members_hollow _ _
  simp only [Entity.generatedClass, ModelClass.hollow, members, Frame.casing_hollow,
    shownKey_hollow, generatedMeta_hollow, List.map_filterMap, List.filterMap_map]
  simp only [Function.comp_def, composed?_hollow]
  rfl

/-- Free texts decide on no import. -/
theorem composedRequests_hollow (casing : Casing) (extension : Option OutlineClass)
    (member : Member) :
    member.hollow.composedRequests casing extension = member.composedRequests casing extension := by
  unfold Member.composedRequests
  rw [Member.attributeName_hollow]
  cases member with
  | field f => rfl
  | relation r => rfl
  | reverse r => rfl

theorem entityRequests_hollow (frame : Frame) (entity : Entity) :
    entity.hollow.requests frame.hollow = entity.requests frame := by
  have members : frame.hollow.schema.members entity.hollow =
      (frame.schema.members entity).map Member.hollow := Schema.members_hollow _ _
  simp only [Entity.requests, members, Frame.casing_hollow, List.flatMap_map,
    composedRequests_hollow]
  rfl

theorem frameRequests_hollow (frame : Frame) : frame.hollow.requests = frame.requests := by
  have enums : frame.hollow.schema.enums = frame.schema.enums.map Enumeration.hollow := rfl
  have entities : frame.hollow.schema.entities = frame.schema.entities.map Entity.hollow := rfl
  simp only [Frame.requests, enums, entities, List.flatMap_map, entityRequests_hollow]

theorem hollow_assemble (extension : Option ExtensionModule) (used : UsedImports)
    (enums : List EnumClass) (models : List ModelClass) :
    (assemble extension used enums models).hollow =
      assemble extension used (enums.map EnumClass.hollow) (models.map ModelClass.hollow) :=
  rfl

theorem generatedModule_hollow (frame : Frame) :
    frame.hollow.generatedModule.hollow = frame.generatedModule.hollow := by
  rw [Frame.generatedModule, Frame.generatedModule, hollow_assemble, hollow_assemble]
  have enums : (frame.hollow.schema.enums.map (·.generatedClass frame.hollow.casing)).map
      EnumClass.hollow =
        (frame.schema.enums.map (·.generatedClass frame.casing)).map EnumClass.hollow := by
    simp only [Frame.hollow, Schema.hollow, List.map_map]
    rfl
  have models : (frame.hollow.schema.entities.map (·.generatedClass frame.hollow)).map
      ModelClass.hollow =
        (frame.schema.entities.map (·.generatedClass frame)).map ModelClass.hollow := by
    have entities : frame.hollow.schema.entities = frame.schema.entities.map Entity.hollow := rfl
    rw [entities, List.map_map, List.map_map, List.map_map]
    exact List.map_congr_left fun entity _ => generatedClass_hollow frame entity
  rw [enums, models, frameRequests_hollow]
  rfl

theorem skeleton_of_generated {schema : Schema} {settings : Settings}
    {extension : Option ExtensionModule} {m : Target.Module} (valid : schema.validate = .ok ())
    (quoteless : ∀ module ∈ extension, Quoteless module.importPath)
    (generated : (modelsModule schema settings extension).outcome = .ok m) :
    ∃ text, skeleton m.render = some text ∧
      skeleton (Frame.hollow ⟨schema, settings, extension⟩).generatedModule.hollow.render =
        some text := by
  replace valid := Schema.validate_eq_ok_iff_wellFormed.mp valid
  have usable := usable_of_generated generated
  obtain ⟨-, -, -, rfl⟩ := outcome_modelsModule_eq_ok_iff.mp generated
  -- Both sides are taken to the hollow module, so two runs meet there.
  rw [generatedModule_hollow]
  exact Module.skeleton_hollow (quiet_generatedModule usable valid quoteless)

/-- Two schemas and settings that differ in the contents of their free texts only give modules that
differ in the contents of literals only. -/
theorem skeleton_eq_of_hollow_eq {schema other : Schema} {settings otherSettings : Settings}
    {extension : Option ExtensionModule} {m n : Target.Module}
    (valid : schema.validate = .ok ()) (otherValid : other.validate = .ok ())
    (sameSchema : schema.hollow = other.hollow)
    (sameSettings : settings.hollow = otherSettings.hollow)
    (quoteless : ∀ module ∈ extension, Quoteless module.importPath)
    (generated : (modelsModule schema settings extension).outcome = .ok m)
    (otherGenerated : (modelsModule other otherSettings extension).outcome = .ok n) :
    ∃ text, skeleton m.render = some text ∧ skeleton n.render = some text := by
  obtain ⟨text, scanned, hollow⟩ := skeleton_of_generated valid quoteless generated
  obtain ⟨otherText, otherScanned, otherHollow⟩ :=
    skeleton_of_generated otherValid quoteless otherGenerated
  have same : text = otherText := by
    rw [Frame.hollow, sameSchema, sameSettings] at hollow
    exact Option.some.inj (hollow.symm.trans otherHollow)
  exact ⟨text, scanned, same ▸ otherScanned⟩

def notes (text : String) : Schema where
  enums := [⟨"Kind", ["NEW", "OLD"], some text⟩]
  entities := [
    ⟨"Note", some text, some text,
      [{ Field.plain "id" (.scalar .int) with
          primaryKey := true, column := some text, description := some text },
        { Field.plain "kind" (.enumeration "Kind") with
            default := some (.literal (.string "NEW")) }],
      [⟨"parent", .oneToOne, "Note", true, some text, none, none, none, some text⟩]⟩]

def notesSettings (text : String) : Settings :=
  { Settings.standard with appName := text }

def notesModule : ExtensionModule := ⟨"app.notes", [⟨"Note", ["__str__"], []⟩]⟩

theorem skeleton_eq_notes :
    (notes "it's").validate = .ok () ∧ (notes "'''\nexit() \\").validate = .ok () ∧
      (notes "it's").hollow = (notes "'''\nexit() \\").hollow ∧
      (notesSettings "it's").hollow = (notesSettings "'''\nexit() \\").hollow ∧
      (∀ module ∈ some notesModule, Quoteless module.importPath) ∧
      ∃ m n text,
        (modelsModule (notes "it's") (notesSettings "it's") (some notesModule)).outcome = .ok m ∧
        (modelsModule (notes "'''\nexit() \\") (notesSettings "'''\nexit() \\")
          (some notesModule)).outcome = .ok n ∧
        skeleton m.render = some text ∧ skeleton n.render = some text := by
  have valid : (notes "it's").validate = .ok () := by decide +kernel
  have otherValid : (notes "'''\nexit() \\").validate = .ok () := by decide +kernel
  have sameSchema : (notes "it's").hollow = (notes "'''\nexit() \\").hollow := rfl
  have sameSettings : (notesSettings "it's").hollow = (notesSettings "'''\nexit() \\").hollow :=
    rfl
  have quoteless : ∀ module ∈ some notesModule, Quoteless module.importPath := by decide
  have accepted : (modelsModule (notes "it's") (notesSettings "it's")
      (some notesModule)).outcome.isOk = true := by decide +kernel
  have otherAccepted : (modelsModule (notes "'''\nexit() \\") (notesSettings "'''\nexit() \\")
      (some notesModule)).outcome.isOk = true := by decide +kernel
  obtain ⟨m, generated⟩ := Outcome.exists_of_isOk accepted
  obtain ⟨n, otherGenerated⟩ := Outcome.exists_of_isOk otherAccepted
  obtain ⟨text, scanned, otherScanned⟩ := skeleton_eq_of_hollow_eq valid otherValid sameSchema
    sameSettings quoteless generated otherGenerated
  exact ⟨valid, otherValid, sameSchema, sameSettings, quoteless, m, n, text, generated,
    otherGenerated, scanned, otherScanned⟩

def quotedModule : ExtensionModule := ⟨"m'''", [⟨"Note", [], []⟩]⟩

def note : Schema where
  enums := []
  entities := [⟨"Note", none, some "x",
    [{ Field.plain "id" (.scalar .int) with primaryKey := true }], []⟩]

theorem literal_opened_by_path :
    ¬ ∀ (schema other : Schema) (settings otherSettings : Settings)
        (extension : Option ExtensionModule) (m n : Target.Module),
      schema.validate = .ok () → other.validate = .ok () → schema.hollow = other.hollow →
        settings.hollow = otherSettings.hollow →
        (modelsModule schema settings extension).outcome = .ok m →
        (modelsModule other otherSettings extension).outcome = .ok n →
          ∃ text, skeleton m.render = some text ∧ skeleton n.render = some text := by
  intro claimed
  let frame : Frame := ⟨note, .standard, some quotedModule⟩
  have valid : note.validate = .ok () := by decide +kernel
  have generated : (modelsModule note .standard (some quotedModule)).outcome =
      .ok frame.generatedModule := by rfl
  have inside : (run .code (linesText frame.generatedModule.lines)).1.isOutside = false := by
    decide +kernel
  obtain ⟨text, scanned, -⟩ := claimed note note .standard .standard (some quotedModule)
    frame.generatedModule frame.generatedModule valid valid rfl rfl generated generated
  rw [Module.skeleton_eq_none inside] at scanned
  exact nomatch scanned

end Modelwright
