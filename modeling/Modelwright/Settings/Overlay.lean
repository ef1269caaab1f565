import Modelwright.Settings.Basic
import Modelwright.Source.Lowering

namespace Modelwright

open Modelwright.Source

/-! Settings overlaid with the options of a generator block.  An option that cannot be applied stops
the overlay; what was applied before it stays. -/

inductive OptionError where
  | unknownOption (key : String)
  | invalidBool (key value : String)
  deriving DecidableEq, Repr

namespace OptionError

def message : OptionError → String
  | unknownOption key => "no such generator option: " ++ key
  | invalidBool key value =>
    "generator option '" ++ key ++ "' expects true or false, got '" ++ value ++ "'"

end OptionError

inductive OverlayError where
  | blockNotFound (name : String)
  | option (block : String) (error : OptionError)
  deriving DecidableEq, Repr

namespace Settings

def boolOption (key value : String) : Except OptionError Bool :=
  if value = "true" then .ok true
  else if value = "false" then .ok false
  else .error (.invalidBool key value)

def applyOption (settings : Settings) (key value : String) : Except OptionError Settings :=
  if key = "modelsFile" then .ok { settings with modelsFile := value }
  else if key = "appName" then .ok { settings with appName := value }
  else if key = "classNamePascalCase" then do
    return { settings with pascalClassNames := ← boolOption key value }
  else if key = "valueNameSnakeCase" then do
    return { settings with snakeValueNames := ← boolOption key value }
  else if key = "createPyPackageInitFile" then do
    return { settings with createPackageInit := ← boolOption key value }
  else .error (.unknownOption key)

/-- The options in order, up to the first that cannot be applied. -/
def applyOptions (settings : Settings) :
    List (String × String) → Settings × Option OptionError
  | [] => (settings, none)
  | (key, value) :: rest =>
    match settings.applyOption key value with
    | .ok settings => settings.applyOptions rest
    | .error error => (settings, some error)

/-- Whether a block is meant for this program when none is named. -/
def isProvided (block : GeneratorBlock) : Bool :=
  match block.provider with
  | some provider => Text.holds "tortoise".toList provider.toList
  | none => false

def selectBlock (settings : Settings) (blocks : List GeneratorBlock) :
    Except OverlayError (Option GeneratorBlock) :=
  match settings.generator with
  | none => .ok (blocks.find? isProvided)
  | some name =>
    match blocks.find? (·.name = name) with
    | some block => .ok (some block)
    | none => .error (.blockNotFound name)

/-- The output directory that a block gives, seen from the directory of the schema. -/
def placeOutput (settings : Settings) (schemaPath : String) (block : GeneratorBlock) : Settings :=
  match block.output with
  | none => settings
  | some output =>
    { settings with outputDir := Path.join ((Path.parent? schemaPath).getD "") output }

def applyBlock (settings : Settings) (blocks : List GeneratorBlock) (schemaPath : String) :
    Settings × Option OverlayError :=
  match settings.selectBlock blocks with
  | .error error => (settings, some error)
  | .ok none => (settings, none)
  | .ok (some block) =>
    match settings.applyOptions block.options with
    | (settings, some error) => (settings, some (.option block.name error))
    | (settings, none) => (settings.placeOutput schemaPath block, none)

end Settings

end Modelwright
