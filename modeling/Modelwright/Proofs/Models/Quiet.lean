import Modelwright.Proofs.Models.Keywords
import Modelwright.Proofs.Models.Scopes
import Modelwright.Proofs.Schema.WellFormed
import Modelwright.Proofs.Target.Hollow

namespace Modelwright

open Modelwright.Target
open Modelwright.Target.Skeleton

/-- The names of the schema, spelled for the module, are plain. -/
structure Frame.Usable (frame : Frame) : Prop where
  enums : ∀ e ∈ frame.schema.enums, Plain (frame.casing.className e.name)
  values : ∀ e ∈ frame.schema.enums, ∀ value ∈ e.values, Plain value
  entities : ∀ entity ∈ frame.schema.entities, Plain (frame.casing.className entity.name)
  members : ∀ entity ∈ frame.schema.entities, ∀ member ∈ frame.schema.members entity,
    Plain (member.attributeName frame.casing)

theorem usable_of_generated {schema : Schema} {settings : Settings}
    {extension : Option ExtensionModule} {m : Target.Module}
    (generated : (modelsModule schema settings extension).outcome = .ok m) :
    Frame.Usable ⟨schema, settings, extension⟩ := by
  have ordered := namesInOrder_of_generated generated
  have className (name : String) (known : name ∈ schema.classSources) :
      Plain ((Casing.ofSettings settings).className name) :=
    plain_of_isIdentifier (ordered.classes _ (List.mem_map_of_mem known)).1
  refine ⟨fun e member => ?_, fun e member value valueMember => ?_, fun entity member => ?_,
    fun entity member part listed => ?_⟩
  · exact className _ (List.mem_append_left _ (List.mem_map_of_mem member))
  · exact plain_of_isIdentifier (ordered.values e member value valueMember)
  · exact className _ (List.mem_append_right _ (List.mem_map_of_mem member))
  · exact plain_of_isIdentifier (ordered.attributes entity member part listed)

def QuietKeyword (keyword : Keyword) : Prop :=
  Plain keyword.1 ∧ keyword.2.Quiet

theorem quiet_call {function : Expr} {keywords : List Keyword} (quiet : function.Quiet)
    (keywordsQuiet : ∀ keyword ∈ keywords, QuietKeyword keyword) :
    (Expr.call function [] keywords).Quiet :=
  .call quiet (List.forall_mem_nil _) (fun keyword member => (keywordsQuiet keyword member).1)
    fun keyword member => (keywordsQuiet keyword member).2

theorem quiet_textKeyword {key : String} (plain : Plain key) (value : Option String) :
    ∀ keyword ∈ textKeyword key value, QuietKeyword keyword := by
  intro keyword member
  obtain ⟨text, -, rfl⟩ := Option.map_eq_some_iff.mp (Option.mem_toList.mp member)
  exact ⟨plain, .text text⟩

theorem quiet_flagKeyword {key : String} (plain : Plain key) (flag : Bool) :
    ∀ keyword ∈ flagKeyword key flag, QuietKeyword keyword := by
  intro keyword member
  cases flag with
  | false => exact absurd member List.not_mem_nil
  | true =>
      rw [List.mem_singleton.mp member]
      exact ⟨plain, .bool true⟩

theorem quiet_keyKeywords (field : Field) :
    ∀ keyword ∈ keyKeywords field, QuietKeyword keyword := by
  intro keyword member
  rcases mem_keyKeywords member with rfl | rfl
  · exact ⟨by decide, .bool true⟩
  · exact ⟨by decide, .bool false⟩

theorem quiet_typeKeywords {casing : Casing} {type : FieldType} (sizes : FieldSizes)
    (enumPlain : ∀ name, type.enumName? = some name → Plain (casing.className name)) :
    ∀ keyword ∈ type.keywords casing sizes, QuietKeyword keyword := by
  have sizeKeys : ∀ key ∈ ["max_length", "max_digits", "decimal_places"], Plain key := by decide
  have enumKey : Plain "enum_type" := by decide
  rintro ⟨key, value⟩ member
  rcases mem_typeKeywords member with ⟨sized, size, rfl⟩ | ⟨name, rfl, rfl, rfl⟩
  · exact ⟨sizeKeys key sized, .int size⟩
  · exact ⟨enumKey, .name (enumPlain name rfl)⟩

theorem quiet_literalDefault {casing : Casing} {type : FieldType} {value : Json}
    (enumPlain : ∀ name, type.enumName? = some name →
      Plain (casing.className name) ∧ Plain value.enumText) :
    (literalDefault casing type value).Quiet := by
  unfold literalDefault
  split
  · next name text =>
      obtain ⟨className, member⟩ := enumPlain name rfl
      exact .member (.name className) member
  · split
    · exact .data _
    · exact .text _
  · split
    · split
      · exact .int _
      · exact .text _
    · exact .data _
  · exact .data _

theorem quiet_randomText : randomText.Quiet := by
  have random : (Expr.call (.member (.name "uuid") "uuid4") [] []).Quiet :=
    quiet_call (.member (.name (by decide)) (by decide)) (List.forall_mem_nil _)
  exact .thunk (.call (.name (by decide)) (List.forall_mem_singleton.mpr random)
    (List.forall_mem_nil _) (List.forall_mem_nil _))

theorem quiet_defaultArguments {casing : Casing} {field : Field}
    (enumPlain : ∀ name, field.type.enumName? = some name →
      Plain (casing.className name) ∧
        ∀ value, field.default = some (.literal value) → Plain value.enumText) :
    ∀ keyword ∈ field.defaultArguments casing, QuietKeyword keyword := by
  intro keyword member
  rcases mem_defaultArguments member with ⟨value, default, rfl⟩ | rfl | rfl | rfl
  · have literal : (literalDefault casing field.type value).Quiet :=
      quiet_literalDefault fun name found =>
        ⟨(enumPlain name found).1, (enumPlain name found).2 value default⟩
    have key : Plain "default" := by decide
    refine ⟨key, ?_⟩
    unfold literalKeyword
    dsimp only
    split
    · exact .thunk literal
    · exact literal
  · exact ⟨by decide, .bool true⟩
  · exact ⟨by decide, .bool true⟩
  · exact ⟨by decide, quiet_randomText⟩

theorem quiet_arguments {frame : Frame} {field : Field}
    (enumPlain : ∀ name, field.type.enumName? = some name →
      Plain (frame.casing.className name) ∧
        ∀ value, field.default = some (.literal value) → Plain value.enumText) :
    ∀ keyword ∈ field.arguments frame, QuietKeyword keyword := by
  unfold Field.arguments Field.updatedAtArguments
  simp only [List.forall_mem_append]
  have types := quiet_typeKeywords frame.settings.fieldSizes
    fun name found => (enumPlain name found).1
  exact ⟨⟨⟨⟨⟨⟨⟨quiet_textKeyword (by decide) _, quiet_keyKeywords field⟩, types⟩,
    quiet_defaultArguments enumPlain⟩, quiet_flagKeyword (by decide) _⟩,
    quiet_flagKeyword (by decide) _⟩, quiet_flagKeyword (by decide) _⟩,
    quiet_textKeyword (by decide) _⟩

theorem quiet_deletePolicyExpr (policy : DeletePolicy) : (deletePolicyExpr policy).Quiet := by
  refine .member (.name (by decide)) ?_
  cases policy <;> decide +kernel

theorem quiet_relationKeywords (frame : Frame) (entity : String) (relation : Relation) :
    ∀ keyword ∈ relationKeywords frame entity relation, QuietKeyword keyword := by
  have text (key value : String) (plain : Plain key) : QuietKeyword (key, .text value) :=
    ⟨plain, .text value⟩
  unfold relationKeywords
  simp only [List.forall_mem_append, List.forall_mem_cons]
  refine ⟨⟨⟨⟨⟨⟨text _ _ (by decide), text _ _ (by decide), List.forall_mem_nil _⟩,
    quiet_textKeyword (by decide) _⟩, text _ _ (by decide), List.forall_mem_nil _⟩, ?_⟩,
    quiet_flagKeyword (by decide) _⟩, quiet_textKeyword (by decide) _⟩
  intro keyword member
  obtain ⟨policy, -, rfl⟩ := Option.map_eq_some_iff.mp (Option.mem_toList.mp member)
  have key : Plain "on_delete" := by decide
  exact ⟨key, quiet_deletePolicyExpr policy⟩

theorem quiet_fieldsMember {name : String} (plain : Plain name) : (fieldsMember name).Quiet :=
  .member (.name (by decide)) plain

theorem quiet_fieldDeclaration {frame : Frame} {field : Field}
    (name : Plain (frame.casing.valueName field.name))
    (enumPlain : ∀ name, field.type.enumName? = some name →
      Plain (frame.casing.className name) ∧
        ∀ value, field.default = some (.literal value) → Plain value.enumText) :
    (field.declaration frame).Quiet := by
  have fieldClass : Plain field.type.fieldClass := by
    cases field.type with
    | scalar scalar => cases scalar <;> decide
    | varchar size => exact (by decide : Plain "CharField")
    | fixed precision scale => exact (by decide : Plain "DecimalField")
    | enumeration name => exact (by decide : Plain "CharEnumField")
  exact .assigned name (quiet_call (quiet_fieldsMember fieldClass) (quiet_arguments enumPlain))

theorem quiet_relationDeclaration {frame : Frame} {relation : Relation} (entity : String)
    (name : Plain (frame.casing.valueName relation.name)) :
    (relationDeclaration frame entity relation).Quiet := by
  have annotation : Plain relation.annotationName := by
    unfold Relation.annotationName
    split <;> decide
  have function : Plain relation.fieldFunction := by
    unfold Relation.fieldFunction
    split <;> decide
  have any : (typingMember "Any").Quiet := .member (.name (by decide)) (by decide)
  have union : (typingMember "Union").Quiet := .member (.name (by decide)) (by decide)
  refine .annotatedAssigned name (.subscript (quiet_fieldsMember annotation) ?_)
    (quiet_call (quiet_fieldsMember function) (quiet_relationKeywords frame entity relation))
  refine List.forall_mem_singleton.mpr (.subscript union ?_)
  exact List.forall_mem_cons.mpr ⟨.text _, List.forall_mem_singleton.mpr any⟩

theorem quiet_reverseDeclaration {casing : Casing} {reverse : ReverseRelation}
    (name : Plain (casing.valueName reverse.name)) :
    (reverseDeclaration casing reverse).Quiet := by
  have annotation : Plain reverse.annotationName := by
    unfold ReverseRelation.annotationName
    split <;> decide
  exact .annotated name (.subscript (quiet_fieldsMember annotation)
    (List.forall_mem_singleton.mpr (.text _)))

section Classes

variable {frame : Frame}

theorem enumPlain_of_valid (usable : frame.Usable) (valid : frame.schema.WellFormed)
    {entity : Entity} {field : Field} (known : entity ∈ frame.schema.entities)
    (declared : field ∈ entity.fields) {name : String}
    (found : field.type.enumName? = some name) :
    Plain (frame.casing.className name) ∧
      ∀ value, field.default = some (.literal value) → Plain value.enumText := by
  obtain ⟨e, foundEnum, defaults⟩ :=
    ((valid.entities entity known).fields field declared).enumUse name found
  obtain ⟨member, rfl⟩ := Schema.mem_of_enum? foundEnum
  exact ⟨usable.enums e member,
    fun value default => usable.values e member _ (defaults value default)⟩

theorem quiet_memberDeclaration (usable : frame.Usable) (valid : frame.schema.WellFormed)
    {entity : Entity} (known : entity ∈ frame.schema.entities) {member : Member}
    (listed : member ∈ frame.schema.members entity) :
    (member.declaration frame entity.name).Quiet := by
  have name := usable.members entity known member listed
  cases member with
  | field field =>
      have declared : field ∈ entity.fields := by
        simpa [Schema.members] using listed
      exact quiet_fieldDeclaration name fun _ found =>
        enumPlain_of_valid usable valid known declared found
  | relation relation => exact quiet_relationDeclaration entity.name name
  | reverse reverse => exact quiet_reverseDeclaration name

theorem name_of_extensionClass? {className : String} {c : OutlineClass}
    (found : frame.extensionClass? className = some c) : c.name = className := by
  obtain ⟨module, -, found⟩ := Option.bind_eq_some_iff.mp found
  simpa using List.find?_some found

theorem quiet_shownKey (usable : frame.Usable) {entity : Entity}
    (known : entity ∈ frame.schema.entities) (extension : Option OutlineClass) :
    ∀ key ∈ shownKey frame.casing entity extension, Plain key := by
  unfold shownKey
  split
  · exact fun _ member => nomatch member
  · intro key member
    rw [Option.mem_some_iff] at member
    cases found : entity.primaryKey? with
    | none =>
        rw [found, Option.map_none, Option.getD_none] at member
        rw [← member]
        decide
    | some field =>
        have declared : Member.field field ∈ frame.schema.members entity := by
          simp [Schema.members, List.mem_of_find?_eq_some found]
        rw [found, Option.map_some, Option.getD_some] at member
        have name : Plain ((Member.field field).attributeName frame.casing) :=
          usable.members entity known (.field field) declared
        rw [← member]
        exact name

theorem quiet_generatedClass (usable : frame.Usable) (valid : frame.schema.WellFormed)
    {entity : Entity} (known : entity ∈ frame.schema.entities) :
    (entity.generatedClass frame).Quiet := by
  have name := usable.entities entity known
  have base {c : OutlineClass}
      (found : frame.extensionClass? (frame.casing.className entity.name) = some c) :
      Plain c.name :=
    name_of_extensionClass? found ▸ name
  refine ⟨name, ?_, ?_, ?_, quiet_shownKey usable known _⟩
  · intro class_ member
    obtain ⟨c, found, rfl⟩ := Option.map_eq_some_iff.mp member
    exact base found
  · intro d member
    obtain ⟨part, listed, composed⟩ := List.mem_filterMap.mp member
    simp only [Member.composed?, Option.ite_none_left_eq_some, Option.some.injEq] at composed
    exact composed.2 ▸ quiet_memberDeclaration usable valid known listed
  · intro class_ member
    unfold Entity.generatedClass Entity.generatedMeta at member
    dsimp only at member
    split at member
    · exact nomatch member
    next c block found =>
      obtain ⟨holder, foundClass, pair⟩ := Option.bind_eq_some_iff.mp found
      obtain ⟨_, -, same⟩ := Option.map_eq_some_iff.mp pair
      obtain ⟨rfl, -⟩ := Prod.mk.inj same
      obtain rfl := Option.some.inj member
      exact base foundClass

theorem quiet_generatedModule (usable : frame.Usable) (valid : frame.schema.WellFormed)
    (quoteless : ∀ module ∈ frame.extension, Quoteless module.importPath) :
    frame.generatedModule.Quiet := by
  refine ⟨?_, ?_, ?_, ?_⟩
  · have header : ∀ line ∈ headerText, Plain line := by decide
    exact header
  · intro path member
    unfold Frame.generatedModule assemble at member
    dsimp only at member
    split at member
    · obtain ⟨module, found, rfl⟩ := Option.map_eq_some_iff.mp member
      exact quoteless module found
    · exact nomatch member
  · intro c member
    obtain ⟨e, known, rfl⟩ := List.mem_map.mp member
    exact ⟨usable.enums e known, usable.values e known⟩
  · intro c member
    obtain ⟨entity, known, rfl⟩ := List.mem_map.mp member
    exact quiet_generatedClass usable valid known

end Classes

end Modelwright
