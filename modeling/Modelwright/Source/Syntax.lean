import Modelwright.Text.Span

namespace Modelwright.Source

/-! Syntax trees of schema documents. -/

mutual

inductive Expr where
  | text (value : String)
  | number (digits : String)
  | boolean (value : Bool)
  /-- A bare name: a value of an enumeration or a delete policy. -/
  | constant (name : String)
  | call (function : String) (arguments : List Argument)
  | array (items : List Expr)

inductive Argument where
  | mk (name : Option String) (value : Expr)

end

instance : Inhabited Expr := ⟨.array []⟩

namespace Argument

def name : Argument → Option String
  | mk name _ => name

def value : Argument → Expr
  | mk _ value => value

@[simp] theorem name_mk (name : Option String) (value : Expr) : (mk name value).name = name := rfl

@[simp] theorem value_mk (name : Option String) (value : Expr) : (mk name value).value = value :=
  rfl

end Argument

namespace Expr

def text? : Expr → Option String
  | text value => some value
  | _ => none

def constant? : Expr → Option String
  | constant name => some name
  | _ => none

def constants? : Expr → Option (List String)
  | array items => items.mapM constant?
  | _ => none

def plainText? : Expr → Option String
  | text value => some value
  | number digits => some digits
  | constant name => some name
  | boolean true => some "true"
  | boolean false => some "false"
  | _ => none

end Expr

/-- An attribute; the name of a native type keeps its dots. -/
structure Attribute where
  name : Name
  arguments : List Argument
  span : Span
  deriving Inhabited

namespace Attribute

def named? (mark : Attribute) (name : String) : Option Expr :=
  (mark.arguments.find? (·.name = some name)).map (·.value)

def positional (mark : Attribute) : List Expr :=
  (mark.arguments.filter (·.name = none)).map (·.value)

/-- The argument of the given name, or else the first one without a name. -/
def main? (mark : Attribute) (name : String) : Option Expr :=
  (mark.named? name).or mark.positional.head?

end Attribute

inductive Arity where
  | required
  | optional
  | list
  deriving DecidableEq, Repr, Inhabited

structure TypeRef where
  name : Name
  arity : Arity
  /-- The database type of a field that the language cannot express. -/
  unsupported : Option String
  deriving Inhabited

structure FieldDecl where
  name : Name
  type : TypeRef
  attributes : List Attribute
  documentation : Option String
  span : Span
  deriving Inhabited

namespace FieldDecl

def attribute? (field : FieldDecl) (name : String) : Option Attribute :=
  field.attributes.find? (·.name.text = name)

end FieldDecl

structure Property where
  key : Name
  value : Expr
  deriving Inhabited

structure PropertyBlock where
  name : Name
  properties : List Property
  deriving Inhabited

namespace PropertyBlock

def property? (block : PropertyBlock) (key : String) : Option Expr :=
  (block.properties.find? (·.key.text = key)).map (·.value)

end PropertyBlock

structure ModelBlock where
  name : Name
  documentation : Option String
  fields : List FieldDecl
  attributes : List Attribute
  deriving Inhabited

namespace ModelBlock

def field? (model : ModelBlock) (name : String) : Option FieldDecl :=
  model.fields.find? (·.name.text = name)

end ModelBlock

structure EnumValueDecl where
  name : Name
  documentation : Option String
  attributes : List Attribute
  deriving Inhabited

structure EnumBlock where
  name : Name
  documentation : Option String
  values : List EnumValueDecl
  attributes : List Attribute
  deriving Inhabited

inductive Block where
  | datasource (block : PropertyBlock)
  | generator (block : PropertyBlock)
  | model (block : ModelBlock)
  | enumeration (block : EnumBlock)
  | other (keyword : String) (name : Name)
  deriving Inhabited

structure Document where
  blocks : List Block
  deriving Inhabited

end Modelwright.Source
