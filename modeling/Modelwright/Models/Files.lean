import Modelwright.Models.Render

namespace Modelwright

inductive WritePolicy where
  | overwrite
  /-- A file that exists is left as it is. -/
  | createIfAbsent
  deriving DecidableEq, Repr, Inhabited

structure OutputFile where
  path : String
  contents : String
  policy : WritePolicy
  deriving DecidableEq, Repr, Inhabited

def initFile (settings : Settings) : List OutputFile :=
  if settings.createPackageInit then [⟨settings.initPath, "", .createIfAbsent⟩] else []

def outputFiles (schema : Schema) (settings : Settings) (extension : Option ExtensionModule) :
    Exported (List OutputFile) := do
  let module ← modelsModule schema settings extension
  return ⟨settings.modelsPath, module.render, .overwrite⟩ :: initFile settings

end Modelwright
