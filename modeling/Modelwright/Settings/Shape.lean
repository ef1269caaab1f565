import Modelwright.Format.Shape
import Modelwright.Settings.Basic

namespace Modelwright

namespace ExtensionSettings

def shape : Shape :=
  .record [("path", .text), ("module", .text)] []

end ExtensionSettings

namespace FieldSizes

def shape : Shape :=
  .record [] [("stringMaxLength", .size), ("decimalMaxDigits", .size), ("decimalPlaces", .size)]

end FieldSizes

namespace Settings

def shape : Shape :=
  .record []
    [("schema", .text),
      ("schemaFormat", .optional (.oneOf (SchemaFormat.all.map SchemaFormat.dataName))),
      ("outputDir", .text), ("modelsFile", .text), ("appName", .text),
      ("classNamePascalCase", .flag), ("valueNameSnakeCase", .flag),
      ("createPyPackageInitFile", .flag), ("generator", .optional .text),
      ("extension", .optional ExtensionSettings.shape), ("fieldDefaults", FieldSizes.shape)]

end Settings

end Modelwright
