import Modelwright.Files.Path

namespace Modelwright

inductive SchemaFormat where
  | prisma
  | json
  | yaml
  deriving DecidableEq, Repr, Inhabited

namespace SchemaFormat

def all : List SchemaFormat := [.prisma, .json, .yaml]

def dataName : SchemaFormat → String
  | .prisma => "prisma"
  | .json => "json"
  | .yaml => "yaml"

def ofFileExtension? (extension : String) : Option SchemaFormat :=
  [("prisma", prisma), ("json", json), ("yaml", yaml), ("yml", yaml)].lookup extension

def ofPath? (path : String) : Option SchemaFormat :=
  (Path.fileExtension? path).bind ofFileExtension?

end SchemaFormat

structure ExtensionSettings where
  path : String
  importPath : String
  deriving DecidableEq, Repr, Inhabited

/-- Sizes of columns for which the schema gives none. -/
structure FieldSizes where
  stringLength : Nat
  decimalDigits : Nat
  decimalPlaces : Nat
  deriving DecidableEq, Repr, Inhabited

namespace FieldSizes

def standard : FieldSizes := ⟨255, 12, 2⟩

end FieldSizes

structure Settings where
  schema : String
  /-- The format of the schema file when its name does not tell. -/
  schemaFormat : Option SchemaFormat
  outputDir : String
  modelsFile : String
  appName : String
  pascalClassNames : Bool
  snakeValueNames : Bool
  createPackageInit : Bool
  /-- The generator block of the schema whose options overlay the settings. -/
  generator : Option String
  extension : Option ExtensionSettings
  fieldSizes : FieldSizes
  deriving DecidableEq, Repr, Inhabited

namespace Settings

def fileName : String := "tortoise-gen.json"

def standard : Settings where
  schema := "prisma/schema.prisma"
  schemaFormat := none
  outputDir := "prisma/generated"
  modelsFile := "models.py"
  appName := "models"
  pascalClassNames := true
  snakeValueNames := true
  createPackageInit := true
  generator := none
  extension := none
  fieldSizes := .standard

def resolvedFormat? (settings : Settings) : Option SchemaFormat :=
  settings.schemaFormat.or (SchemaFormat.ofPath? settings.schema)

def modelsPath (settings : Settings) : String :=
  Path.join settings.outputDir settings.modelsFile

def initPath (settings : Settings) : String :=
  Path.join settings.outputDir "__init__.py"

end Settings

end Modelwright
