import Modelwright.Files.System
import Modelwright.Format.Json.Reader
import Modelwright.Format.Yaml.Document
import Modelwright.Outline.Scan
import Modelwright.Project.Error
import Modelwright.Schema.Shape
import Modelwright.Settings.Codec

namespace Modelwright

open FileSystem Source

structure Project where
  /-- With the options of the schema's generator block. -/
  settings : Settings
  schema : Schema
  extension : Option ExtensionModule
  deriving Repr

def settingsOfText? (text : String) : Option Settings :=
  (Json.document? text.toList).bind (Settings.ofNode? Json.dialect)

def plainDeclarations (schema : Schema) : Declarations := ⟨schema, []⟩

def declarationsOfText (format : SchemaFormat) (path text : String) :
    Logged LoadError Declarations :=
  match format with
  | .prisma =>
    (Source.declarations text).mapError (.sourceMalformed path text)
  | .json =>
    match (Json.document? text.toList).bind (Schema.ofNode? Json.dialect) with
    | some schema => pure (plainDeclarations schema)
    | none => .fail (.jsonMalformed path)
  | .yaml =>
    match (Yaml.document? Schema.shape text).bind (Schema.ofNode? Yaml.dialect) with
    | some schema => pure (plainDeclarations schema)
    | none => .fail (.yamlMalformed path)

def validDeclarations (format : SchemaFormat) (path text : String) :
    Logged LoadError Declarations := do
  let declarations ← declarationsOfText format path text
  match declarations.schema.validate with
  | .ok () => return declarations
  | .error error => .fail (.schemaInvalid error)

variable {m : Type → Type} [Monad m] [FileSystem m]

def loadSettingsFrom (path : String) : ExceptT LoadError m Settings := do
  if ← pathExists path then
    match ← readText? path with
    | none => throw (.settingsUnreadable path)
    | some text =>
      match settingsOfText? text with
      | none => throw (.settingsMalformed path)
      | some settings => return settings
  else throw (.settingsNotAt path)

def loadSettings : ExceptT LoadError m Settings := do
  if ← pathExists Settings.fileName then loadSettingsFrom Settings.fileName
  else throw .settingsMissing

/-- The settings of a directory, the standard ones if it has none. -/
def loadSettingsOrStandard (directory : Option String) : ExceptT LoadError m Settings := do
  let path := match directory with
    | none => Settings.fileName
    | some directory => Path.join directory Settings.fileName
  if ← pathExists path then loadSettingsFrom path else return .standard

def loadSchemaAs (format : SchemaFormat) (path : String) : m (Logged LoadError Declarations) := do
  match ← readText? path with
  | none => return .fail (.schemaUnreadable path)
  | some text => return validDeclarations format path text

/-- The format follows from the name of the file. -/
def loadSchema (path : String) : m (Logged LoadError Declarations) :=
  match SchemaFormat.ofPath? path with
  | none => return .fail (.formatUnknown path)
  | some format => loadSchemaAs format path

def loadExtension (settings : Settings) : ExceptT LoadError m (Option ExtensionModule) := do
  match settings.extension with
  | none => return none
  | some extension =>
    match ← readText? extension.path with
    | none => throw (.extensionUnreadable extension.path)
    | some text => return some ⟨extension.importPath, outline text⟩

/-- The schema of the settings, in the format that they give or that its name tells. -/
def loadSchemaOf (settings : Settings) : m (Logged LoadError Declarations) :=
  match settings.resolvedFormat? with
  | none => loadSchema settings.schema
  | some format => loadSchemaAs format settings.schema

def loadProjectOf (settings : Settings) (declarations : Declarations) :
    ExceptT LoadError m Project := do
  match settings.applyBlock declarations.generators settings.schema with
  | (_, some error) => throw (.overlay error)
  | (settings, none) =>
    return ⟨settings, declarations.schema, ← loadExtension settings⟩

def loadProject (settings : Settings) : m (Logged LoadError Project) := do
  let loaded ← loadSchemaOf settings
  loaded.followedBy fun declarations =>
    return .ofExcept (← (loadProjectOf settings declarations).run)

end Modelwright
