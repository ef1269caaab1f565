import Modelwright.Models.Render
import Modelwright.Proofs.Models.Rendering

namespace Modelwright

open Modelwright.Target

/-! What is generated once the names are in order.  Each part is a plain function of the schema and
the settings; the checks only decide whether the parts are made at all. -/

namespace Field

def defaultArguments (casing : Casing) (field : Field) : List Keyword :=
  match field.default with
  | none => []
  | some (.literal value) => [literalKeyword casing field.type value]
  | some (.generator generator) => (generatorKeywords? field generator).getD []

def updatedAtArguments (field : Field) : List Keyword :=
  flagKeyword "auto_now" (field.updatedAt && field.type.isDateTime)

def arguments (frame : Frame) (field : Field) : List Keyword :=
  textKeyword "source_field" field.column ++ keyKeywords field ++
    field.type.keywords frame.casing frame.settings.fieldSizes ++
    field.defaultArguments frame.casing ++ field.updatedAtArguments ++
    flagKeyword "unique" field.unique ++ flagKeyword "null" field.nullable ++
    textKeyword "description" field.description

def declaration (frame : Frame) (field : Field) : Declaration :=
  .assigned (frame.casing.valueName field.name)
    (.call (fieldsMember field.type.fieldClass) [] (field.arguments frame))

def requests (field : Field) : List Library :=
  match field.default with
  | some (.generator generator) =>
    if (generatorKeywords? field generator).isSome then generator.libraries else []
  | _ => []

end Field

namespace Member

def declaration (frame : Frame) (entity : String) : Member → Declaration
  | field f => f.declaration frame
  | relation r => relationDeclaration frame entity r
  | reverse r => reverseDeclaration frame.casing r

def requests : Member → List Library
  | field f => f.requests
  | relation _ => [.typing]
  | reverse _ => []

/-- The declaration, unless the hand-written class has one of the name. -/
def composed? (frame : Frame) (entity : String) (extension : Option OutlineClass)
    (member : Member) : Option Declaration :=
  if extension.any (·.declares (member.attributeName frame.casing)) then none
  else some (member.declaration frame entity)

/-- A member that is left to the hand-written class requests nothing. -/
def composedRequests (casing : Casing) (extension : Option OutlineClass) (member : Member) :
    List Library :=
  if extension.any (·.declares (member.attributeName casing)) then [] else member.requests

end Member

theorem emits_defaultKeywords {ε : Type} (casing : Casing) (owner : String) (field : Field) :
    Emits (defaultKeywords casing owner field : Rendered ε (List Keyword)) (.ok ())
      (field.defaultArguments casing) field.requests := by
  unfold defaultKeywords Field.defaultArguments Field.requests
  cases field.default with
  | none => exact .pure _
  | some default =>
      cases default with
      | literal value => exact .pure _
      | generator generator =>
          cases found : generatorKeywords? field generator with
          | some keywords =>
              simp only [found]
              exact (Emits.request _).result fun _ => keywords
          | none =>
              simp only [found]
              exact (Emits.warn _).result fun _ => []

theorem outcome_updatedAtKeywords {ε : Type} (owner : String) (field : Field) :
    (updatedAtKeywords owner field : Logged ε (List Keyword)).outcome =
      .ok field.updatedAtArguments := by
  unfold updatedAtKeywords Field.updatedAtArguments flagKeyword
  cases field.updatedAt with
  | false => rfl
  | true =>
      cases field.type.isDateTime with
      | false => rfl
      | true => rfl

theorem emits_updatedAtKeywords {ε : Type} (owner : String) (field : Field) :
    Emits (liftM (updatedAtKeywords owner field : Logged ε (List Keyword)) : Rendered ε _) (.ok ())
      field.updatedAtArguments [] :=
  .logged (outcome_updatedAtKeywords owner field)

theorem emits_fieldKeywords {ε : Type} (frame : Frame) (owner : String) (field : Field) :
    Emits (fieldKeywords frame owner field : Rendered ε (List Keyword)) (.ok ())
      (field.arguments frame) field.requests :=
  (emits_defaultKeywords frame.casing owner field).bindQuiet
    ((emits_updatedAtKeywords owner field).result _)

theorem emits_fieldDeclaration {ε : Type} (frame : Frame) (entity : String) (field : Field) :
    Emits (fieldDeclaration frame entity field : Rendered ε Declaration) (.ok ())
      (field.declaration frame) field.requests :=
  (emits_fieldKeywords frame (entity ++ "." ++ field.name) field).result _

theorem emits_memberDeclaration {ε : Type} (frame : Frame) (entity : String)
    (member : Member) :
    Emits (memberDeclaration frame entity member : Rendered ε Declaration) (.ok ())
      (member.declaration frame entity) member.requests := by
  cases member with
  | field f => exact emits_fieldDeclaration frame entity f
  | relation r => exact (Emits.request [.typing]).result _
  | reverse r => exact .pure _

theorem emits_composedDeclaration? (frame : Frame) (entity : String)
    (extension : Option OutlineClass) (member : Member) :
    Emits (composedDeclaration? frame entity extension member) (.ok ())
      (member.composed? frame entity extension)
      (member.composedRequests frame.casing extension) := by
  unfold composedDeclaration? Member.composed? Member.composedRequests
  rw [← Option.isSome_filter]
  dsimp only
  cases extension.filter (·.declares (member.attributeName frame.casing)) with
  | some c => exact (Emits.warn _).result fun _ => none
  | none => exact (emits_memberDeclaration frame entity member).result some

namespace Entity

def generatedMeta (entity : Entity) (extension : Option OutlineClass) : MetaClass :=
  match extension.bind fun c => (c.block? "Meta").map fun block => (c, block) with
  | none => ⟨none, some entity.tableName⟩
  | some (c, block) => ⟨some c.name, if block.defines "table" then none else some entity.tableName⟩

def generatedClass (frame : Frame) (entity : Entity) : ModelClass :=
  let name := frame.casing.className entity.name
  let extension := frame.extensionClass? name
  let members := frame.schema.members entity
  { name := name
    extended := extension.map (·.name)
    documentation := withDescription entity.description
      ("fields:" :: members.flatMap (memberDescription frame.casing))
    declarations := members.filterMap (Member.composed? frame entity.name extension)
    settings := entity.generatedMeta extension
    shownKey := Modelwright.shownKey frame.casing entity extension }

def requests (frame : Frame) (entity : Entity) : List Library :=
  let extension := frame.extensionClass? (frame.casing.className entity.name)
  (extension.map fun _ => Library.extension).toList ++
    (frame.schema.members entity).flatMap (Member.composedRequests frame.casing extension)

def checks (frame : Frame) (entity : Entity) : Except ExportError PUnit :=
  checkMembers frame.casing entity.name [] (frame.schema.members entity) >>= fun _ => .ok ()

/-- The attributes of the entity's class are usable and apart. -/
def MembersChecked (frame : Frame) (entity : Entity) : Prop :=
  ∃ registry, checkMembers frame.casing entity.name [] (frame.schema.members entity) = .ok registry

end Entity

theorem outcome_metaClass (entity : Entity) (extension : Option OutlineClass) :
    (metaClass entity extension).outcome = .ok (entity.generatedMeta extension) := by
  unfold metaClass Entity.generatedMeta
  generalize (extension.bind fun c => (c.block? "Meta").map fun block => (c, block)) = found
  match found with
  | none => rfl
  | some (c, block) =>
      by_cases defined : block.defines "table" = true
      · simp [defined]
      · simp [defined]

theorem emits_modelClass (frame : Frame) (entity : Entity) :
    Emits (modelClass frame entity) (entity.checks frame) (entity.generatedClass frame)
      (entity.requests frame) := by
  let extension := frame.extensionClass? (frame.casing.className entity.name)
  have composed : Emits ((frame.schema.members entity).mapM
      (composedDeclaration? frame entity.name extension)) (.ok ())
      ((frame.schema.members entity).map (Member.composed? frame entity.name extension))
      ((frame.schema.members entity).flatMap
        (Member.composedRequests frame.casing extension)) :=
    .mapM_total fun member _ => emits_composedDeclaration? frame entity.name extension member
  have settings : Emits (liftM (metaClass entity extension)) (.ok ())
      (entity.generatedMeta extension) [] := .logged (outcome_metaClass entity extension)
  have declarations : ((frame.schema.members entity).map
      (Member.composed? frame entity.name extension)).filterMap id =
        (entity.generatedClass frame).declarations := by
    rw [List.filterMap_map]
    rfl
  refine Emits.check ((Emits.request _).bind (composed.bindQuiet ?_))
  rw [declarations]
  exact settings.result _

theorem Entity.checks_eq_ok_iff {frame : Frame} {entity : Entity} :
    entity.checks frame = .ok () ↔ entity.MembersChecked frame := by
  simp only [Entity.checks, Outcome.bind_eq_ok_iff, Entity.MembersChecked, and_true]

namespace Enumeration

def generatedClass (casing : Casing) (e : Enumeration) : EnumClass where
  name := casing.className e.name
  documentation := withDescription e.description (e.values.map ("- " ++ ·))
  members := e.values

def checks (e : Enumeration) : Except ExportError PUnit :=
  e.values.forM (checkIdentifier e.name)

end Enumeration

theorem emits_declareEnum (casing : Casing) (e : Enumeration) :
    Emits (declareEnum casing e) e.checks (e.generatedClass casing) [.enums] :=
  (Emits.request [.enums]).bindQuiet (.logged rfl)

theorem Enumeration.checks_eq_ok_iff {e : Enumeration} :
    e.checks = .ok () ↔ ∀ value ∈ e.values, isIdentifier value = true := by
  rw [checks, List.forM_eq_forM, Outcome.forM_eq_ok_iff]
  simp only [checkIdentifier_eq_ok_iff]

namespace Frame

/-- What is requested while the classes of the module are made, in their order. -/
def requests (frame : Frame) : List Library :=
  frame.schema.enums.flatMap (fun _ => [.enums]) ++
    frame.schema.entities.flatMap (·.requests frame)

def generatedModule (frame : Frame) : Target.Module :=
  assemble frame.extension (({} : UsedImports).addAll frame.requests)
    (frame.schema.enums.map (·.generatedClass frame.casing))
    (frame.schema.entities.map (·.generatedClass frame))

end Frame

theorem emits_moduleClasses (frame : Frame) :
    Emits (moduleClasses frame)
      (forM frame.schema.enums Enumeration.checks >>= fun _ =>
        forM frame.schema.entities (Entity.checks frame))
      (frame.schema.enums.map (·.generatedClass frame.casing),
        frame.schema.entities.map (·.generatedClass frame))
      frame.requests := by
  have enums := Emits.mapM fun e (_ : e ∈ frame.schema.enums) => emits_declareEnum frame.casing e
  have models := Emits.mapM fun entity (_ : entity ∈ frame.schema.entities) =>
    emits_modelClass frame entity
  exact enums.bind (models.result _)

theorem outcome_warnUnmatched (extension : Option ExtensionModule) (names : List String) :
    (warnUnmatched extension names).outcome = .ok () := by
  cases extension with
  | none => rfl
  | some module =>
      simp only [warnUnmatched, List.forM_eq_forM, Logged.outcome_forM,
        Outcome.forM_eq_ok_iff]
      exact fun _ _ => rfl

theorem outcome_modelsModule_eq_checks (schema : Schema) (settings : Settings)
    (extension : Option ExtensionModule) :
    (modelsModule schema settings extension).outcome =
      classNames (.ofSettings settings) schema >>= fun _ =>
        forM schema.enums Enumeration.checks >>= fun _ =>
          forM schema.entities (Entity.checks ⟨schema, settings, extension⟩) >>= fun _ =>
            .ok (Frame.generatedModule ⟨schema, settings, extension⟩) := by
  simp only [modelsModule, Logged.outcome_bind, Logged.outcome_ofExcept, outcome_warnUnmatched,
    Logged.outcome_pure]
  refine bind_congr fun names => ?_
  show ((moduleClasses ⟨schema, settings, extension⟩) {}).outcome >>= _ = _
  rw [emits_moduleClasses, bind_assoc, bind_assoc]
  rfl

theorem outcome_modelsModule_eq_ok_iff {schema : Schema} {settings : Settings}
    {extension : Option ExtensionModule} {m : Target.Module} :
    (modelsModule schema settings extension).outcome = .ok m ↔
      (∃ names, classNames (.ofSettings settings) schema = .ok names) ∧
      (∀ e ∈ schema.enums, ∀ value ∈ e.values, isIdentifier value = true) ∧
      (∀ entity ∈ schema.entities, entity.MembersChecked ⟨schema, settings, extension⟩) ∧
      m = Frame.generatedModule ⟨schema, settings, extension⟩ := by
  have values : forM schema.enums Enumeration.checks = .ok () ↔
      ∀ e ∈ schema.enums, ∀ value ∈ e.values, isIdentifier value = true := by
    simp only [Outcome.forM_eq_ok_iff, Enumeration.checks_eq_ok_iff]
  have members : forM schema.entities (Entity.checks ⟨schema, settings, extension⟩) = .ok () ↔
      ∀ entity ∈ schema.entities, entity.MembersChecked ⟨schema, settings, extension⟩ := by
    simp only [Outcome.forM_eq_ok_iff, Entity.checks_eq_ok_iff]
  simp only [outcome_modelsModule_eq_checks, Outcome.bind_eq_ok_iff]
  constructor
  · rintro ⟨names, named, _, valuesChecked, _, membersChecked, made⟩
    exact ⟨⟨names, named⟩, values.mp valuesChecked, members.mp membersChecked,
      (Except.ok.inj made).symm⟩
  · rintro ⟨⟨names, named⟩, valuesChecked, membersChecked, rfl⟩
    exact ⟨names, named, (), values.mpr valuesChecked, (), members.mpr membersChecked, rfl⟩

end Modelwright
