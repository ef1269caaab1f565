import Modelwright.Schema.Codec
import Modelwright.Settings.Basic

namespace Modelwright

namespace ExtensionSettings

def toJson (extension : ExtensionSettings) : Json :=
  .object [("path", .string extension.path), ("module", .string extension.importPath)]

def ofNode? (dialect : Dialect) (node : Node) : Option ExtensionSettings := do
  let record ← node.record? dialect ["path", "module"]
  return {
    path := ← record.required "path" Node.text?
    importPath := ← record.required "module" Node.text? }

end ExtensionSettings

namespace FieldSizes

def toJson (sizes : FieldSizes) : Json :=
  .object [("stringMaxLength", natJson sizes.stringLength),
    ("decimalMaxDigits", natJson sizes.decimalDigits),
    ("decimalPlaces", natJson sizes.decimalPlaces)]

def ofNode? (dialect : Dialect) (node : Node) : Option FieldSizes := do
  let record ← node.record? dialect ["stringMaxLength", "decimalMaxDigits", "decimalPlaces"]
  return {
    stringLength := ← record.withDefault "stringMaxLength" standard.stringLength Node.size?
    decimalDigits := ← record.withDefault "decimalMaxDigits" standard.decimalDigits Node.size?
    decimalPlaces := ← record.withDefault "decimalPlaces" standard.decimalPlaces Node.size? }

end FieldSizes

namespace Settings

def places : List String :=
  ["schema", "schemaFormat", "outputDir", "modelsFile", "appName", "classNamePascalCase",
    "valueNameSnakeCase", "createPyPackageInitFile", "generator", "extension", "fieldDefaults"]

def toJson (settings : Settings) : Json :=
  .object <| [("schema", .string settings.schema)] ++
    optionalEntry "schemaFormat" settings.schemaFormat (fun format => .string format.dataName) ++
    [("outputDir", .string settings.outputDir), ("modelsFile", .string settings.modelsFile),
      ("appName", .string settings.appName),
      ("classNamePascalCase", .bool settings.pascalClassNames),
      ("valueNameSnakeCase", .bool settings.snakeValueNames),
      ("createPyPackageInitFile", .bool settings.createPackageInit)] ++
    optionalEntry "generator" settings.generator .string ++
    optionalEntry "extension" settings.extension ExtensionSettings.toJson ++
    [("fieldDefaults", settings.fieldSizes.toJson)]

/-- Every place may be left out. -/
def ofNode? (dialect : Dialect) (node : Node) : Option Settings := do
  let record ← node.record? dialect places
  return {
    schema := ← record.withDefault "schema" standard.schema Node.text?
    schemaFormat :=
      ← record.optional "schemaFormat"
        (Node.case? dialect (named SchemaFormat.dataName SchemaFormat.all))
    outputDir := ← record.withDefault "outputDir" standard.outputDir Node.text?
    modelsFile := ← record.withDefault "modelsFile" standard.modelsFile Node.text?
    appName := ← record.withDefault "appName" standard.appName Node.text?
    pascalClassNames :=
      ← record.withDefault "classNamePascalCase" standard.pascalClassNames Node.bool?
    snakeValueNames := ← record.withDefault "valueNameSnakeCase" standard.snakeValueNames Node.bool?
    createPackageInit :=
      ← record.withDefault "createPyPackageInitFile" standard.createPackageInit Node.bool?
    generator := ← record.optional "generator" Node.text?
    extension := ← record.optional "extension" (ExtensionSettings.ofNode? dialect)
    fieldSizes :=
      ← record.withDefault "fieldDefaults" standard.fieldSizes (FieldSizes.ofNode? dialect) }

end Settings

end Modelwright
