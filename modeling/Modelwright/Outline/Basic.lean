namespace Modelwright

/-- A nested class that only holds settings. -/
structure OutlineBlock where
  name : String
  keys : List String
  deriving DecidableEq, Repr, Inhabited

namespace OutlineBlock

def defines (block : OutlineBlock) (key : String) : Bool :=
  block.keys.contains key

end OutlineBlock

structure OutlineClass where
  name : String
  attributes : List String
  blocks : List OutlineBlock
  deriving DecidableEq, Repr, Inhabited

namespace OutlineClass

def block? (c : OutlineClass) (name : String) : Option OutlineBlock :=
  c.blocks.find? (·.name = name)

/-- Whether the class declares a name itself: as a value, a method or a nested block. -/
def declares (c : OutlineClass) (name : String) : Bool :=
  c.attributes.contains name || (c.block? name).isSome

/-- A name is listed once, where it is first declared. -/
def addAttribute (c : OutlineClass) (name : String) : OutlineClass :=
  if c.attributes.contains name then c else { c with attributes := c.attributes ++ [name] }

end OutlineClass

structure ExtensionModule where
  importPath : String
  classes : List OutlineClass
  deriving DecidableEq, Repr, Inhabited

namespace ExtensionModule

def class? (module : ExtensionModule) (name : String) : Option OutlineClass :=
  module.classes.find? (·.name = name)

end ExtensionModule

end Modelwright
