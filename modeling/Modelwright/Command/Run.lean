import Modelwright.Command.Arguments
import Modelwright.Files.Staging
import Modelwright.Format.Json.Writer
import Modelwright.Project.Load
import Modelwright.Schema.Shape
import Modelwright.Settings.Shape

namespace Modelwright

open FileSystem

/-! A command answers with what it prints; nothing is printed behind an error. -/

inductive CommandError where
  | settingsExist
  | noDirectory (path : String)
  | unwritable (path : String)
  | load (error : LoadError)
  | render (error : ExportError)
  | output (error : WriteError)
  deriving Repr

namespace CommandError

def context : CommandError → String
  | settingsExist => Settings.fileName ++ " already exists"
  | noDirectory path => "create dir " ++ path
  | unwritable path => "write " ++ path
  | load error => error.context
  | render error => "render models: " ++ error.message
  | output error => error.message

def message : CommandError → String
  | load error => error.message
  | error => error.context

end CommandError

def printed (lines : List String) : String :=
  String.join (lines.map (· ++ "\n"))

namespace GenerateOptions

def locate (options : GenerateOptions) (settings : Settings) : Settings :=
  { settings with
    schema := options.schema.getD settings.schema
    schemaFormat := options.format.or settings.schemaFormat }

/-- The output directory given by option wins over all others. -/
def redirect (options : GenerateOptions) (settings : Settings) : Settings :=
  { settings with outputDir := options.outputDir.getD settings.outputDir }

end GenerateOptions

namespace Project

def render (project : Project) : Logged CommandError Target.Module :=
  (modelsModule project.schema project.settings project.extension).mapError .render

def outputFiles (project : Project) : Logged CommandError (List OutputFile) :=
  (Modelwright.outputFiles project.schema project.settings project.extension).mapError .render

def summary (project : Project) : List String :=
  let extension := match project.extension with
    | none => []
    | some module =>
      ["  Extension: " ++ module.importPath ++ " (" ++ toString module.classes.length ++
        " classes)"]
  ["Configuration:", "  Schema: " ++ project.settings.schema,
    "  Models module: " ++ project.settings.modelsPath,
    "  App name: " ++ project.settings.appName] ++ extension ++
    ["", "Schema OK: " ++ toString project.schema.enums.length ++ " enums, " ++
      toString project.schema.entities.length ++ " models"]

end Project

def outcomeLine : String × WriteOutcome → String
  | (path, .written) => "Generated " ++ path
  | (path, .kept) => "Kept " ++ path ++ " (exists)"

variable {m : Type → Type} [Monad m] [FileSystem m]

def runInit : ExceptT CommandError m String := do
  if ← pathExists Settings.fileName then throw .settingsExist
  else if ← write Settings.fileName (Settings.standard.toJson.pretty 0) then
    return printed ["Created " ++ Settings.fileName]
  else throw (.unwritable Settings.fileName)

def loadAdjusted (adjust : Settings → Settings) : m (Logged CommandError Project) := do
  match ← (loadSettingsOrStandard none).run with
  | .error error => return .fail (.load error)
  | .ok settings => return (← loadProject (adjust settings)).mapError .load

def runCheck (format : Option SchemaFormat) : m (Logged CommandError String) := do
  let loaded ← loadAdjusted fun settings =>
    { settings with schemaFormat := format.or settings.schemaFormat }
  return do
    let project ← loaded
    let _ ← project.render
    return printed project.summary

/-- The files are written, or the first of them is printed. -/
def deliver (dryRun : Bool) (files : List OutputFile) : ExceptT CommandError m String := do
  if dryRun then return (files.head?.map (·.contents)).getD ""
  else
    let outcomes ← (writeFiles files).adapt .output
    return printed (outcomes.map outcomeLine)

def runGenerate (options : GenerateOptions) : m (Logged CommandError String) := do
  let loaded ← loadAdjusted options.locate
  let rendered : Logged CommandError (List OutputFile) := do
    let project ← loaded
    { project with settings := options.redirect project.settings }.outputFiles
  rendered.followedBy fun files => return .ofExcept (← (deliver options.dryRun files).run)

def writeJson (path : String) (value : Json) : ExceptT CommandError m Unit := do
  if ← write path (value.pretty 0) then return else throw (.unwritable path)

def runJsonSchema (directory : String) : ExceptT CommandError m String := do
  let present ← pathExists directory
  let made ← if present then pure true else createDirectories directory
  if !made then throw (.noDirectory directory)
  let schemaPath := Path.join directory "schema.schema.json"
  let settingsPath := Path.join directory "config.schema.json"
  writeJson schemaPath (Schema.shape.document "Schema")
  writeJson settingsPath (Settings.shape.document "GeneratorConfig")
  return printed ["Wrote schemas:", "  " ++ schemaPath, "  " ++ settingsPath]

def Command.run : Command → m (Logged CommandError String)
  | .init => return .ofExcept (← runInit.run)
  | .check format => runCheck format
  | .generate options => runGenerate options
  | .jsonSchema directory => return .ofExcept (← (runJsonSchema directory).run)

/-- What a run of the program leaves to be seen, apart from files. -/
structure Report where
  exitCode : Nat
  output : String
  error : Option CommandError
  warnings : List Warning
  stop : Option Stop
  deriving Repr

namespace Report

def ofLogged (result : Logged CommandError String) : Report :=
  match result.outcome with
  | .ok output => ⟨0, output, none, result.warnings, none⟩
  | .error error => ⟨1, "", some error, result.warnings, none⟩

end Report

def usage : List String :=
  ["Usage: " ++ programName ++ " [OPTIONS] <COMMAND>", "", "Commands:", "  init", "  check",
    "  generate", "  json-schema"]

def runArguments (arguments : List String) : m Report := do
  match Command.ofArguments [] arguments with
  | .ok command => return .ofLogged (← command.run)
  | .error .misuse => return ⟨2, "", none, [], some .misuse⟩
  | .error .help => return ⟨0, printed usage, none, [], some .help⟩
  | .error .version =>
    return ⟨0, printed [programName ++ " " ++ programVersion], none, [], some .version⟩

end Modelwright
