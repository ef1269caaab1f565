import Modelwright.Proofs.Models.Uses
import Modelwright.Proofs.Target.Calls
import Modelwright.Proofs.Target.ImportLines

namespace Modelwright

open Modelwright.Target

/-! The import statements of a generated module against what its classes use. -/

/-- The enumeration's class and its member are identifiers where a text is the field's default. -/
def Field.SpellsDefault (casing : Casing) (field : Field) : Prop :=
  ∀ name text, field.type = .enumeration name → field.default = some (.literal (.string text)) →
    isIdentifier (casing.className name) = true ∧ isIdentifier text = true

def Frame.SpellsDefaults (frame : Frame) : Prop :=
  ∀ entity ∈ frame.schema.entities, ∀ field ∈ entity.fields, field.SpellsDefault frame.casing

def Target.Module.DefaultCallsUuid (m : Target.Module) : Prop :=
  ∃ c ∈ m.models, ∃ d ∈ c.declarations, ∃ value, ("default", value) ∈ d.keywords ∧ value.CallsUuid

structure ImportsMatch (frame : Frame) (m : Target.Module) : Prop where
  typing : "import typing" ∈ m.lines ↔ ∃ entity c relation, frame.Emits m entity c ∧
    relation ∈ entity.relations ∧ relationDeclaration frame entity.name relation ∈ c.declarations
  uuid_used : "import uuid" ∈ m.lines → m.DefaultCallsUuid
  uuid_imported : frame.SpellsDefaults → m.DefaultCallsUuid → "import uuid" ∈ m.lines
  enum : "from enum import Enum" ∈ m.lines ↔ ∃ e c, frame.EmitsEnum m e c
  extension : ∀ path, extensionImport path ∈ m.lines ↔
    frame.extension.map (·.importPath) = some path ∧
      ∃ c ∈ m.models, ∃ name, extensionMember name ∈ c.bases

variable {frame : Frame}

theorem callsUuid_randomText : randomText.CallsUuid :=
  ⟨"lambda: str(".toList, "))".toList, by decide⟩

theorem uncalled_text (value : String) : Uncalled (Expr.text value).render :=
  .textLiteral value

theorem uncalled_int (value : Int) : Uncalled (Expr.int value).render :=
  .of_callFree (callFree_number (.int value))

theorem uncalled_literalDefault {casing : Casing} {type : FieldType} {value : Json}
    (spelled : ∀ name text, type = .enumeration name → value = .string text →
      isIdentifier (casing.className name) = true ∧ isIdentifier text = true) :
    Uncalled (literalDefault casing type value).render := by
  unfold literalDefault
  split
  · next name text =>
      obtain ⟨class_, member⟩ := spelled name text rfl rfl
      have point : CallFree "." := by decide
      exact .of_callFree ((CallFree.of_isIdentifier class_).append point |>.append
        (.of_isIdentifier member))
  · next text =>
      cases Json.ofText? text with
      | none => exact uncalled_text text
      | some parsed => exact uncalled_dataLiteral parsed
  · next type text _ _ =>
      split
      · cases integerOfText? text with
        | none => exact uncalled_text text
        | some n => exact uncalled_int n
      · exact uncalled_text text
  · exact uncalled_dataLiteral _

theorem uncalled_literalKeyword {casing : Casing} {type : FieldType} {value : Json}
    (spelled : ∀ name text, type = .enumeration name → value = .string text →
      isIdentifier (casing.className name) = true ∧ isIdentifier text = true) :
    Uncalled (literalKeyword casing type value).2.render := by
  have literal := uncalled_literalDefault spelled
  rw [literalKeyword]
  split
  · exact literal.callFree_append (by decide)
  · exact literal

theorem drawsRandomText_of_callsUuid {field : Field} {value : Expr}
    (spelled : field.SpellsDefault frame.casing)
    (default : ("default", value) ∈ field.arguments frame) (calls : value.CallsUuid) :
    (Member.field field).DrawsRandomText := by
  rcases mem_defaultArguments (default_mem_arguments_iff.mp default) with
    ⟨literal, given, same⟩ | same | same | same
  · have written : value = (literalKeyword frame.casing field.type literal).2 :=
      congrArg Prod.snd same
    have uncalled : Uncalled (literalKeyword frame.casing field.type literal).2.render := by
      apply uncalled_literalKeyword
      intro name text type textual
      exact spelled name text type (textual ▸ given)
    rw [← written] at uncalled
    exact absurd calls (Expr.not_callsUuid uncalled)
  · simp at same
  · simp at same
  · obtain rfl : value = randomText := congrArg Prod.snd same
    rcases argument_cases default with closed | ⟨name, -, named | ⟨text, named⟩⟩ | ⟨-, draws⟩
    · cases closed.2
    · cases named
    · cases named
    · exact draws

theorem relation_declared_iff {entity : Entity} :
    (∃ relation ∈ entity.relations,
        relationDeclaration frame entity.name relation ∈
          (entity.generatedClass frame).declarations) ↔
      ∃ relation, .relation relation ∈ entity.kept frame := by
  rw [declarations_generatedClass]
  constructor
  · intro declared
    obtain ⟨relation, -, listed⟩ := declared
    obtain ⟨member, kept, same⟩ := List.mem_map.mp listed
    cases member with
    | field f => cases same
    | relation other => exact ⟨other, kept⟩
    | reverse r => cases same
  · intro kept
    obtain ⟨relation, kept⟩ := kept
    exact ⟨relation, (relation_mem_kept_iff.mp kept).1, List.mem_map_of_mem kept⟩

theorem defaultCallsUuid_of_draws {entity : Entity} {member : Member}
    (listed : entity ∈ frame.schema.entities) (kept : member ∈ entity.kept frame)
    (draws : member.DrawsRandomText) : frame.generatedModule.DefaultCallsUuid := by
  refine ⟨entity.generatedClass frame, List.mem_map_of_mem listed,
    member.declaration frame entity.name, ?_, randomText, ?_, callsUuid_randomText⟩
  · rw [declarations_generatedClass]
    exact List.mem_map_of_mem kept
  · cases member with
    | field f => exact randomText_mem_arguments draws
    | relation r => cases draws
    | reverse r => cases draws

theorem draws_of_defaultCallsUuid (spelled : frame.SpellsDefaults)
    (called : frame.generatedModule.DefaultCallsUuid) :
    ∃ entity ∈ frame.schema.entities, ∃ member ∈ entity.kept frame, member.DrawsRandomText := by
  obtain ⟨c, listed, d, declared, value, default, calls⟩ := called
  have inModule : d ∈ frame.generatedModule.models.flatMap (·.declarations) :=
    List.mem_flatMap.mpr ⟨c, listed, declared⟩
  obtain ⟨entity, known, member, kept, rfl⟩ := mem_declarations_generatedModule_iff.mp inModule
  refine ⟨entity, known, member, kept, ?_⟩
  cases member with
  | field f =>
      have own : f ∈ entity.fields := by
        simpa [mem_members_iff] using (List.mem_filter.mp kept).1
      exact drawsRandomText_of_callsUuid (spelled entity known f own) default calls
  | relation r => simpa using mem_relationKeywords default
  | reverse r => cases default

theorem extended_isSome_iff {c : ModelClass} :
    c.extended.isSome = true ↔ ∃ name, extensionMember name ∈ c.bases := by
  rw [ModelClass.bases]
  cases c.extended with
  | none => simp [extensionMember]
  | some name => exact iff_of_true rfl ⟨name, List.mem_cons_self⟩

theorem spellsDefaults_of_valid {schema : Schema} {settings : Settings}
    {extension : Option ExtensionModule} {m : Target.Module} (valid : schema.validate = .ok ())
    (generated : (modelsModule schema settings extension).outcome = .ok m) :
    Frame.SpellsDefaults ⟨schema, settings, extension⟩ := by
  have wellFormed := Schema.validate_eq_ok_iff_wellFormed.mp valid
  have ordered := namesInOrder_of_generated generated
  intro entity known field own name text type default
  have typed : field.type.enumName? = some name := by rw [type]; rfl
  obtain ⟨e, found, isValue⟩ :=
    ((wellFormed.entities entity known).fields field own).enumUse name typed
  obtain ⟨listed, rfl⟩ := Schema.mem_of_enum? found
  constructor
  · apply (ordered.classes _ _).1
    exact List.mem_map_of_mem (List.mem_append_left _ (List.mem_map_of_mem listed))
  · exact ordered.values e listed text (isValue _ default)

theorem header_generatedModule : ∀ line ∈ frame.generatedModule.header, ¬ LeadsImport line := by
  have plain : ∀ line ∈ headerText, ¬ LeadsImport line := by decide +kernel
  exact plain

theorem importsMatch_generatedModule (frame : Frame) :
    ImportsMatch frame frame.generatedModule where
  typing := by
    rw [Target.Module.typing_mem_lines_iff header_generatedModule, usesTyping_iff]
    simp only [emits_generatedModule_iff]
    constructor
    · intro used
      obtain ⟨entity, listed, kept⟩ := used
      obtain ⟨relation, own, declared⟩ := relation_declared_iff.mpr kept
      exact ⟨entity, _, relation, ⟨listed, rfl⟩, own, declared⟩
    · intro declared
      obtain ⟨entity, _, relation, ⟨listed, rfl⟩, own, declared⟩ := declared
      exact ⟨entity, listed, relation_declared_iff.mp ⟨relation, own, declared⟩⟩
  uuid_used imported := by
    rw [Target.Module.uuid_mem_lines_iff header_generatedModule, usesUuid_iff] at imported
    obtain ⟨entity, listed, member, kept, draws⟩ := imported
    exact defaultCallsUuid_of_draws listed kept draws
  uuid_imported spelled called := by
    rw [Target.Module.uuid_mem_lines_iff header_generatedModule, usesUuid_iff]
    exact draws_of_defaultCallsUuid spelled called
  enum := by
    rw [Target.Module.enum_mem_lines_iff header_generatedModule, usesEnum_iff]
    simp only [emitsEnum_generatedModule_iff]
    constructor
    · intro declared
      obtain ⟨e, listed⟩ := List.exists_mem_of_ne_nil _ declared
      exact ⟨e, _, listed, rfl⟩
    · intro emitted
      obtain ⟨e, _, listed, -⟩ := emitted
      exact List.ne_nil_of_mem listed
  extension path := by
    rw [Target.Module.extension_mem_lines_iff header_generatedModule,
      extension_generatedModule_iff]
    simp only [extended_isSome_iff]

/-- A generated module imports what its classes use and nothing else, where defaults of enumerations
are spelled like identifiers, as those of a valid schema are. -/
theorem imports_match_uses {schema : Schema} {settings : Settings}
    {extension : Option ExtensionModule} {m : Target.Module}
    (generated : (modelsModule schema settings extension).outcome = .ok m) :
    ImportsMatch ⟨schema, settings, extension⟩ m ∧
      (schema.validate = .ok () → Frame.SpellsDefaults ⟨schema, settings, extension⟩) := by
  constructor
  · obtain ⟨-, -, -, rfl⟩ := outcome_modelsModule_eq_ok_iff.mp generated
    exact importsMatch_generatedModule _
  · intro valid
    exact spellsDefaults_of_valid valid generated

def visit : Entity :=
  ⟨"Visit", none, none,
    [{ Field.plain "id" (.scalar .string) with
      primaryKey := true, default := some (.generator .uuid) }], []⟩

theorem imports_match_visits :
    ∃ m, (modelsModule ⟨[], [visit]⟩ .standard none).outcome = .ok m ∧
      ImportsMatch ⟨⟨[], [visit]⟩, .standard, none⟩ m ∧
      Frame.SpellsDefaults ⟨⟨[], [visit]⟩, .standard, none⟩ ∧ "import uuid" ∈ m.lines := by
  have accepted : (modelsModule ⟨[], [visit]⟩ .standard none).outcome.isOk = true := by
    decide +kernel
  obtain ⟨m, generated⟩ := Outcome.exists_of_isOk accepted
  obtain ⟨imports, spelled⟩ := imports_match_uses generated
  refine ⟨m, generated, imports, spelled (by decide +kernel), ?_⟩
  obtain ⟨-, -, -, rfl⟩ := outcome_modelsModule_eq_ok_iff.mp generated
  decide +kernel

/-- The enumeration, which no schema with this field declares, is called like the library. -/
def codeField : Field :=
  { Field.plain "code" (.enumeration "uuid") with
    default := some (.literal (.string "uuid4()")) }

def ticket : Entity :=
  ⟨"Ticket", none, none,
    [{ Field.plain "id" (.scalar .int) with primaryKey := true }, codeField], []⟩

def verbatimClasses : Settings := { Settings.standard with pascalClassNames := false }

/-- A default may call what is not imported if it is no identifier. -/
theorem uuid_called_unimported :
    ∃ m, (modelsModule ⟨[], [ticket]⟩ verbatimClasses none).outcome = .ok m ∧
      "import uuid" ∉ m.lines ∧ m.DefaultCallsUuid ∧
      "    code = fields.CharEnumField(enum_type=uuid, default=uuid.uuid4())" ∈ m.lines := by
  have accepted : (modelsModule ⟨[], [ticket]⟩ verbatimClasses none).outcome.isOk = true := by
    decide +kernel
  obtain ⟨m, generated⟩ := Outcome.exists_of_isOk accepted
  have listed := generatedClass_mem_models generated
    (show ticket ∈ [ticket] from List.mem_cons_self)
  have declared : codeField.declaration ⟨⟨[], [ticket]⟩, verbatimClasses, none⟩ ∈
      (ticket.generatedClass ⟨⟨[], [ticket]⟩, verbatimClasses, none⟩).declarations :=
    mem_declarations_iff.mpr ⟨.field codeField,
      mem_members_iff.mpr (.inl ⟨codeField, by simp [ticket], rfl⟩), rfl, rfl⟩
  have called : m.DefaultCallsUuid := by
    refine ⟨_, listed, _, declared, .member (.name "uuid") "uuid4()", ?_, [], [')'], by decide⟩
    exact default_mem_arguments_iff.mpr List.mem_cons_self
  obtain ⟨-, -, -, rfl⟩ := outcome_modelsModule_eq_ok_iff.mp generated
  exact ⟨_, generated, by decide +kernel, called, by decide +kernel⟩

end Modelwright
