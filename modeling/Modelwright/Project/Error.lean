import Modelwright.Program
import Modelwright.Schema.Validation
import Modelwright.Settings.Overlay

namespace Modelwright

inductive LoadError where
  | settingsMissing
  | settingsNotAt (path : String)
  | settingsUnreadable (path : String)
  | settingsMalformed (path : String)
  | formatUnknown (path : String)
  | schemaUnreadable (path : String)
  | sourceMalformed (path source : String) (error : Source.SourceError)
  | jsonMalformed (path : String)
  | yamlMalformed (path : String)
  | schemaInvalid (error : SchemaError)
  | overlay (error : OverlayError)
  | extensionUnreadable (path : String)
  deriving Repr

namespace LoadError

def context : LoadError → String
  | settingsMissing =>
    Settings.fileName ++ " not found. Run '" ++ programName ++ " init' first."
  | settingsNotAt path => Settings.fileName ++ " not found at: " ++ path
  | settingsUnreadable path => "read " ++ path
  | settingsMalformed path => "parse " ++ path
  | formatUnknown path =>
    "unrecognized schema file extension: " ++ path ++
      " (expected .prisma, .json, .yaml or .yml)"
  | schemaUnreadable path => "read schema file: " ++ path
  | sourceMalformed path _ _ => "parse Prisma schema: " ++ path
  | jsonMalformed path => "parse JSON schema: " ++ path
  | yamlMalformed path => "parse YAML schema: " ++ path
  | schemaInvalid error => "schema validation failed: " ++ error.message
  | overlay (.blockNotFound name) => "generator block '" ++ name ++ "' not found in schema"
  | overlay (.option block _) => "generator block '" ++ block ++ "'"
  | extensionUnreadable path => "read extension module: " ++ path

def cause? : LoadError → Option String
  | sourceMalformed _ source error => some (trimTextEnd (error.format source))
  | overlay (.option _ error) => some error.message
  | _ => none

def message (error : LoadError) : String :=
  match error.cause? with
  | none => error.context
  | some cause => error.context ++ ": " ++ cause

end LoadError

end Modelwright
