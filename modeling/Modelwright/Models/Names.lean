import Modelwright.Naming.Convention
import Modelwright.Settings.Basic
import Modelwright.Target.Identifier

namespace Modelwright

open Modelwright.Target

structure Casing where
  pascalClasses : Bool
  snakeValues : Bool
  deriving DecidableEq, Repr

namespace Casing

def ofSettings (settings : Settings) : Casing :=
  ⟨settings.pascalClassNames, settings.snakeValueNames⟩

def className (casing : Casing) (name : String) : String :=
  if casing.pascalClasses then Naming.pascalCase name else name

def valueName (casing : Casing) (name : String) : String :=
  if casing.snakeValues then Naming.snakeCase name else name

@[simp] theorem className_verbatim (snake : Bool) (name : String) :
    (Casing.mk false snake).className name = name := rfl

@[simp] theorem valueName_verbatim (pascal : Bool) (name : String) :
    (Casing.mk pascal false).valueName name = name := rfl

end Casing

inductive ExportError where
  | classNameCollision (name first second : String)
  | memberNameCollision (entity name first second : String)
  | invalidIdentifier (owner name : String)
  deriving DecidableEq, Repr

namespace ExportError

def message : ExportError → String
  | classNameCollision name first second =>
    "'" ++ first ++ "' and '" ++ second ++ "' both become class '" ++ name ++ "'"
  | memberNameCollision entity name first second =>
    entity ++ ": '" ++ first ++ "' and '" ++ second ++ "' both become attribute '" ++ name ++ "'"
  | invalidIdentifier owner name =>
    owner ++ ": '" ++ name ++ "' is not a usable Python identifier"

end ExportError

/-- Claimed names, each with its claimant. -/
abbrev Registry := List (String × String)

namespace Registry

/-- The earlier claimant of the name, or the registry with the new claim. -/
def claim (registry : Registry) (name claimant : String) : Except String Registry :=
  match registry.lookup name with
  | some first => .error first
  | none => .ok ((name, claimant) :: registry)

end Registry

def checkIdentifier (owner name : String) : Except ExportError Unit :=
  if isIdentifier name then .ok () else .error (.invalidIdentifier owner name)

@[simp] theorem checkIdentifier_eq_ok_iff {owner name : String} :
    checkIdentifier owner name = .ok () ↔ isIdentifier name = true := by
  unfold checkIdentifier
  split <;> simp_all

end Modelwright
