import Modelwright.Warning

namespace Modelwright

/-! Imports that a module needs for some of its statements only.  They are requested while those
statements are made. -/

inductive Library where
  | typing
  | uuid
  | enums
  | extension
  deriving DecidableEq, Repr

structure UsedImports where
  typing : Bool := false
  uuid : Bool := false
  enums : Bool := false
  extension : Bool := false
  deriving DecidableEq, Repr

namespace UsedImports

def add (used : UsedImports) : Library → UsedImports
  | .typing => { used with typing := true }
  | .uuid => { used with uuid := true }
  | .enums => { used with enums := true }
  | .extension => { used with extension := true }

def addAll (used : UsedImports) (libraries : List Library) : UsedImports :=
  libraries.foldl add used

end UsedImports

/-- A computation that requests imports and gives warnings; it may fail. -/
abbrev Rendered (ε : Type) :=
  StateT UsedImports (Logged ε)

namespace Rendered

def request {ε : Type} (libraries : List Library) : Rendered ε Unit :=
  modify (·.addAll libraries)

def warn {ε : Type} (warning : Warning) : Rendered ε Unit :=
  (Logged.warn warning : Logged ε Unit)

end Rendered

end Modelwright
