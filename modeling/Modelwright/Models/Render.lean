import Modelwright.Models.Describe
import Modelwright.Program

namespace Modelwright

open Modelwright.Target

/-! The models module of a schema.  Names are checked before anything is generated from them; what a
hand-written class declares is left out of the generated one. -/

abbrev Exported := Logged ExportError

/-- Names that the module binds before its classes. -/
def reservedNames : List String := ["Enum", "Model", "fields", "typing", "uuid", extensionAlias]

def reservedClaims : Registry :=
  reservedNames.map fun name => (name, "import " ++ name)

def claimClasses (casing : Casing) (registry : Registry) :
    List String → Except ExportError (List String)
  | [] => .ok []
  | declared :: rest => do
    let name := casing.className declared
    checkIdentifier declared name
    match registry.claim name declared with
    | .error first => .error (.classNameCollision name first declared)
    | .ok registry => return name :: (← claimClasses casing registry rest)

def classNames (casing : Casing) (schema : Schema) : Except ExportError (List String) :=
  claimClasses casing reservedClaims
    (schema.enums.map (·.name) ++ schema.entities.map (·.name))

def enumClass (casing : Casing) (e : Enumeration) : Except ExportError EnumClass := do
  e.values.forM (checkIdentifier e.name)
  return {
    name := casing.className e.name
    documentation := withDescription e.description (e.values.map ("- " ++ ·))
    members := e.values }

def declareEnum (casing : Casing) (e : Enumeration) : Rendered ExportError EnumClass := do
  Rendered.request [.enums]
  Logged.ofExcept (enumClass casing e)

/-- The declaration of a member, unless the hand-written class declares its name. -/
def composedDeclaration? (frame : Frame) (entity : String) (extension : Option OutlineClass)
    (member : Member) : Rendered ExportError (Option Declaration) :=
  let name := member.attributeName frame.casing
  match extension.filter (·.declares name) with
  | some c => do
    Rendered.warn (.attributeOverridden entity name c.name)
    return none
  | none => return some (← memberDeclaration frame entity member)

/-- The settings class; it extends the hand-written one and leaves out what that one defines. -/
def metaClass (entity : Entity) (extension : Option OutlineClass) : Exported MetaClass :=
  match extension.bind fun c => (c.block? "Meta").map fun block => (c, block) with
  | none => return ⟨none, some entity.tableName⟩
  | some (c, block) => do
    if block.defines "table" then
      Logged.warn (.tableOverridden entity.name)
      return ⟨some c.name, none⟩
    else return ⟨some c.name, some entity.tableName⟩

def shownKey (casing : Casing) (entity : Entity) (extension : Option OutlineClass) :
    Option String :=
  if extension.any (·.declares "__str__") then none
  else some ((entity.primaryKey?.map fun field => casing.valueName field.name).getD "pk")

def modelClass (frame : Frame) (entity : Entity) : Rendered ExportError ModelClass := do
  let casing := frame.casing
  let members := frame.schema.members entity
  let _ ← Logged.ofExcept (checkMembers casing entity.name [] members)
  let name := casing.className entity.name
  let extension := frame.extensionClass? name
  Rendered.request (extension.map fun _ => Library.extension).toList
  let declarations ← members.mapM (composedDeclaration? frame entity.name extension)
  let settings ← metaClass entity extension
  return {
    name := name
    extended := extension.map (·.name)
    documentation := withDescription entity.description
      ("fields:" :: members.flatMap (memberDescription casing))
    declarations := declarations.filterMap id
    settings := settings
    shownKey := shownKey casing entity extension }

def warnUnmatched (extension : Option ExtensionModule) (modelNames : List String) :
    Exported Unit :=
  match extension with
  | none => return ()
  | some module =>
    (module.classes.filter fun c => !modelNames.contains c.name).forM fun c =>
      Logged.warn (.extensionClassUnmatched module.importPath c.name)

def headerText : List String :=
  ["This file is generated by " ++ programName ++ " (" ++ programVersion ++ ").",
    "Please do not modify it directly."]

def assemble (extension : Option ExtensionModule) (used : UsedImports) (enums : List EnumClass)
    (models : List ModelClass) : Target.Module where
  header := headerText
  usesTyping := used.typing
  usesUuid := used.uuid
  usesEnum := used.enums
  extension := if used.extension then extension.map (·.importPath) else none
  enums := enums
  models := models

def moduleClasses (frame : Frame) : Rendered ExportError (List EnumClass × List ModelClass) := do
  let enums ← frame.schema.enums.mapM (declareEnum frame.casing)
  let models ← frame.schema.entities.mapM (modelClass frame)
  return (enums, models)

/-- The module imports what has been requested when all its classes are made. -/
def modelsModule (schema : Schema) (settings : Settings) (extension : Option ExtensionModule) :
    Exported Target.Module := do
  let frame : Frame := ⟨schema, settings, extension⟩
  let names ← Logged.ofExcept (classNames frame.casing schema)
  warnUnmatched extension (names.drop schema.enums.length)
  let ((enums, models), used) ← (moduleClasses frame).run {}
  return assemble extension used enums models

end Modelwright
