import Modelwright.Settings.Basic

namespace Modelwright

structure GenerateOptions where
  schema : Option String
  format : Option SchemaFormat
  outputDir : Option String
  dryRun : Bool
  deriving DecidableEq, Repr, Inhabited

inductive Command where
  | init
  | check (format : Option SchemaFormat)
  | generate (options : GenerateOptions)
  | jsonSchema (outputDir : String)
  deriving DecidableEq, Repr, Inhabited

/-- Why no command is to be run. -/
inductive Stop where
  | misuse
  | help
  | version
  deriving DecidableEq, Repr, Inhabited

inductive OptionKind where
  | flag
  /-- An option with a value, and which values it takes. -/
  | valued (accepts : String → Bool)
  | stop (reason : Stop)

structure OptionRule where
  name : String
  short : Option Char
  kind : OptionKind

namespace OptionRule

def verbose : OptionRule := ⟨"verbose", some 'v', .flag⟩

def help : OptionRule := ⟨"help", some 'h', .stop .help⟩

def version : OptionRule := ⟨"version", some 'V', .stop .version⟩

def isPath (value : String) : Bool := !value.isEmpty

def schema : OptionRule := ⟨"schema", none, .valued isPath⟩

def out : OptionRule := ⟨"out", some 'o', .valued isPath⟩

def format : OptionRule :=
  ⟨"format", none, .valued (SchemaFormat.all.map SchemaFormat.dataName).contains⟩

def dryRun : OptionRule := ⟨"dry-run", none, .flag⟩

def general : List OptionRule := [verbose, help, version]

def ofCommand? (name : String) : Option (List OptionRule) :=
  [("init", []), ("check", [format]), ("generate", [schema, format, out, dryRun]),
    ("json-schema", [out])].lookup name |>.map (· ++ [verbose, help])

end OptionRule

abbrev GivenOptions := List (String × String)

namespace GivenOptions

/-- No option is given twice. -/
def add (given : GivenOptions) (rule : OptionRule) (value : String) :
    Except Stop GivenOptions :=
  if (given.lookup rule.name).isSome then .error .misuse
  else .ok (given ++ [(rule.name, value)])

def addValue (given : GivenOptions) (rule : OptionRule) (value : String) :
    Except Stop GivenOptions :=
  match rule.kind with
  | .valued accepts => if accepts value then given.add rule value else .error .misuse
  | .flag => .error .misuse
  | .stop _ => .error .misuse

def has (given : GivenOptions) (rule : OptionRule) : Bool :=
  (given.lookup rule.name).isSome

def value? (given : GivenOptions) (rule : OptionRule) : Option String :=
  given.lookup rule.name

def format? (given : GivenOptions) : Option SchemaFormat :=
  (given.value? .format).bind fun name => SchemaFormat.all.find? (·.dataName = name)

end GivenOptions

/-- The options after an argument, and the rule that waits for the next one as its value. -/
abbrev ReadArgument := Except Stop (GivenOptions × Option OptionRule)

def readBare (given : GivenOptions) (rule : OptionRule) : ReadArgument :=
  match rule.kind with
  | .flag => do return (← given.add rule "", none)
  | .valued _ => .ok (given, some rule)
  | .stop reason => .error reason

def readLong (rules : List OptionRule) (given : GivenOptions) (chars : List Char) :
    ReadArgument :=
  let name := String.ofList (chars.takeWhile (· != '='))
  match rules.find? (·.name = name), chars.dropWhile (· != '=') with
  | none, _ => .error .misuse
  | some rule, [] => readBare given rule
  | some rule, _ :: value => do return (← given.addValue rule (String.ofList value), none)

/-- Options by their letters; the first with a value takes what follows its letter. -/
def readShort (rules : List OptionRule) (given : GivenOptions) : List Char → ReadArgument
  | [] => .ok (given, none)
  | c :: rest => do
    match rules.find? (·.short = some c) with
    | none => .error .misuse
    | some rule =>
      match rule.kind, rest with
      | .valued _, '=' :: value => return (← given.addValue rule (String.ofList value), none)
      | .valued _, v :: value => return (← given.addValue rule (String.ofList (v :: value)), none)
      | _, _ =>
        let (given, awaiting) ← readBare given rule
        if awaiting.isSome then return (given, awaiting) else readShort rules given rest

/-- Whether an argument looks like an option; a dash alone does not. -/
def isOption (argument : String) : Bool :=
  argument.toList.head? == some '-' && argument != "-"

def readOption (rules : List OptionRule) (given : GivenOptions) (argument : String) :
    ReadArgument :=
  match argument.toList with
  | '-' :: '-' :: name => readLong rules given name
  | '-' :: c :: letters => readShort rules given (c :: letters)
  | _ => .error .misuse

/-- The options behind a command.  Two dashes end them, and nothing may follow. -/
def readOptions (rules : List OptionRule) (given : GivenOptions) (awaiting : Option OptionRule) :
    List String → Except Stop GivenOptions
  | [] => if awaiting.isSome then .error .misuse else .ok given
  | argument :: rest => do
    match awaiting with
    | some rule =>
      if isOption argument then .error .misuse
      else readOptions rules (← given.addValue rule argument) none rest
    | none =>
      if argument = "--" then if rest.isEmpty then return given else .error .misuse
      else
        let (given, awaiting) ← readOption rules given argument
        readOptions rules given awaiting rest

namespace Command

def ofOptions? (name : String) (given : GivenOptions) : Option Command :=
  if name = "init" then some .init
  else if name = "check" then some (.check given.format?)
  else if name = "generate" then
    some (.generate ⟨given.value? .schema, given.format?, given.value? .out, given.has .dryRun⟩)
  else if name = "json-schema" then
    some (.jsonSchema ((given.value? .out).getD "schemas"))
  else none

/-- The command of an argument list; options in front of it have no values. -/
def ofArguments (given : GivenOptions) : List String → Except Stop Command
  | [] => .error .misuse
  | argument :: rest => do
    match OptionRule.ofCommand? argument with
    | some rules =>
      match ofOptions? argument (← readOptions rules [] none rest) with
      | some command => return command
      | none => .error .misuse
    | none =>
      if argument = "help" then .error .help
      else if argument = "--" then .error .misuse
      else
        let (given, _) ← readOption OptionRule.general given argument
        ofArguments given rest

end Command

end Modelwright
