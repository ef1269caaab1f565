import Modelwright.Files.Path
import Modelwright.Files.System
import Modelwright.Models.Files

namespace Modelwright

open FileSystem

/-! Writing several files or none of them.  Contents go to temporary siblings first, which take the
places of their targets once all are written. -/

inductive WriteOutcome where
  | written
  | kept
  deriving DecidableEq, Repr, Inhabited

inductive WriteError where
  | noDirectory (path : String)
  | noFileName (path : String)
  | unwritable (path : String)
  /-- A target could not be replaced; some were before. -/
  | unreplaceable (path : String) (replaced : List String)
  deriving DecidableEq, Repr, Inhabited

namespace WriteError

def message : WriteError → String
  | noDirectory path => "create output dir " ++ path
  | noFileName path => "output path has no file name: " ++ path
  | unwritable path => "write " ++ path
  | unreplaceable path replaced =>
    "replace " ++ path ++
      if replaced.isEmpty then "" else " (already replaced: " ++ ", ".intercalate replaced ++ ")"

end WriteError

/-- A file whose contents wait beside its target. -/
structure Staged where
  temporary : String
  target : String
  deriving DecidableEq, Repr, Inhabited

/-- The hidden sibling that holds the contents of a file for a while. -/
def temporaryPath? (target : String) : Option String :=
  (Path.fileName? target).map fun name => Path.withFileName target ("." ++ name ++ ".tmp")

variable {m : Type → Type} [Monad m] [FileSystem m]

def ensure (success : m Bool) (error : WriteError) : ExceptT WriteError m Unit := do
  if ← success then return else throw error

def stage (file : OutputFile) : ExceptT WriteError m Staged := do
  match Path.parent? file.path with
  | none => pure ()
  | some parent =>
    if parent.isEmpty then pure () else ensure (createDirectories parent) (.noDirectory parent)
  match temporaryPath? file.path with
  | none => throw (.noFileName file.path)
  | some temporary =>
    ensure (write temporary file.contents) (.unwritable temporary)
    return ⟨temporary, file.path⟩

def dropStaged : List Staged → m Unit
  | [] => return
  | file :: rest => do
    let _ ← remove file.temporary
    dropStaged rest

def isKept (file : OutputFile) : m Bool :=
  match file.policy with
  | .overwrite => return false
  | .createIfAbsent => pathExists file.path

/-- The files staged, in addition to those staged before, and the paths of those kept. -/
def stageAll (staged : List Staged) :
    List OutputFile → ExceptT WriteError m (List Staged × List String)
  | [] => return (staged, [])
  | file :: rest => do
    if ← isKept file then
      let (staged, kept) ← stageAll staged rest
      return (staged, file.path :: kept)
    else
      let next ← tryCatch (stage file) fun error => do
        dropStaged staged
        throw error
      stageAll (staged ++ [next]) rest

/-- The staged files take their places; `replaced` did so before. -/
def replaceAll (replaced : List String) : List Staged → ExceptT WriteError m Unit
  | [] => return
  | file :: rest => do
    if ← rename file.temporary file.target then replaceAll (replaced ++ [file.target]) rest
    else
      dropStaged (file :: rest)
      throw (.unreplaceable file.target replaced)

/-- What became of each file, those kept first. -/
def writeFiles (files : List OutputFile) :
    ExceptT WriteError m (List (String × WriteOutcome)) := do
  let (staged, kept) ← stageAll [] files
  replaceAll [] staged
  return kept.map (·, .kept) ++ staged.map (·.target, .written)

end Modelwright
