import Modelwright.Target.Docstring
import Modelwright.Target.Literal

namespace Modelwright.Target

/-! Generated modules as syntax trees, and their text. -/

inductive Expr where
  | name (name : String)
  | member (of : Expr) (name : String)
  | text (value : String)
  | int (value : Int)
  | bool (value : Bool)
  | data (value : Json)
  /-- A function without parameters. -/
  | thunk (body : Expr)
  | call (function : Expr) (arguments : List Expr) (keywords : List (String × Expr))
  | subscript (of : Expr) (indices : List Expr)

instance : Inhabited Expr := ⟨.name ""⟩

namespace Expr

def render : Expr → String
  | name n => n
  | member of n => of.render ++ "." ++ n
  | text value => textLiteral value
  | int value => toString value
  | bool true => "True"
  | bool false => "False"
  | data value => dataLiteral value
  | thunk body => "lambda: " ++ body.render
  | call function arguments keywords =>
    function.render ++ "(" ++
      ", ".intercalate (renderAll arguments ++ renderKeywords keywords) ++ ")"
  | subscript of indices =>
    of.render ++ "[" ++ ", ".intercalate (renderAll indices) ++ "]"
where
  renderAll : List Expr → List String
    | [] => []
    | e :: rest => e.render :: renderAll rest
  renderKeywords : List (String × Expr) → List String
    | [] => []
    | (key, e) :: rest => (key ++ "=" ++ e.render) :: renderKeywords rest

end Expr

inductive Declaration where
  | assigned (name : String) (value : Expr)
  | annotatedAssigned (name : String) (typeHint : Expr) (value : Expr)
  | annotated (name : String) (typeHint : Expr)
  deriving Inhabited

namespace Declaration

def name : Declaration → String
  | assigned n _ => n
  | annotatedAssigned n _ _ => n
  | annotated n _ => n

def render : Declaration → String
  | assigned n value => n ++ " = " ++ value.render
  | annotatedAssigned n typeHint value =>
    n ++ ": " ++ typeHint.render ++ " = " ++ value.render
  | annotated n typeHint => n ++ ": " ++ typeHint.render

end Declaration

/-- A class whose members are its values' own names. -/
structure EnumClass where
  name : String
  documentation : List String
  members : List String
  deriving Inhabited

structure MetaClass where
  /-- The hand-written class whose settings these extend. -/
  extended : Option String
  table : Option String
  deriving Inhabited

structure ModelClass where
  name : String
  extended : Option String
  documentation : List String
  declarations : List Declaration
  settings : MetaClass
  /-- The attribute that the text form of an object shows, if the class defines that form. -/
  shownKey : Option String
  deriving Inhabited

structure Module where
  header : List String
  usesTyping : Bool
  usesUuid : Bool
  usesEnum : Bool
  /-- The import path of the hand-written module, if any class extends one of its classes. -/
  extension : Option String
  enums : List EnumClass
  models : List ModelClass
  deriving Inhabited

def indent : String := "    "

def extensionAlias : String := "_extension"

def extensionMember (name : String) : Expr :=
  .member (.name extensionAlias) name

namespace EnumClass

def render (e : EnumClass) : List String :=
  ("class " ++ e.name ++ "(str, Enum):") :: docLines indent e.documentation ++
    e.members.map fun value => indent ++ value ++ " = " ++ textLiteral value

end EnumClass

namespace MetaClass

def body (settings : MetaClass) : List String :=
  match settings.table with
  | some table => [indent ++ indent ++ "table = " ++ textLiteral table]
  | none => [indent ++ indent ++ "pass"]

def render (settings : MetaClass) : List String :=
  (match settings.extended with
    | some c => indent ++ "class Meta(" ++ (Expr.member (extensionMember c) "Meta").render ++ "):"
    | none => indent ++ "class Meta:") :: settings.body

end MetaClass

namespace ModelClass

/-- A hand-written base stands before the library's. -/
def bases (c : ModelClass) : List Expr :=
  (c.extended.map extensionMember).toList ++ [.name "Model"]

def textMethod (className : String) (key : Option String) : List String :=
  match key with
  | none => []
  | some key =>
    ["", indent ++ "def __str__(self) -> str:",
      indent ++ indent ++ "return f'" ++ className ++ "<\x7bself." ++ key ++ "\x7d>'"]

def render (c : ModelClass) : List String :=
  ("class " ++ c.name ++ "(" ++ ", ".intercalate (c.bases.map Expr.render) ++ "):") ::
    docLines indent c.documentation ++
    c.declarations.map (fun declaration => indent ++ declaration.render) ++
    "" :: c.settings.render ++ textMethod c.name c.shownKey

end ModelClass

namespace Module

def importLines (m : Module) : List String :=
  let standard :=
    (if m.usesTyping then ["import typing"] else []) ++
      (if m.usesUuid then ["import uuid"] else []) ++
        if m.usesEnum then ["from enum import Enum"] else []
  standard ++ (if standard.isEmpty then [] else [""]) ++
    ["from tortoise import fields", "from tortoise.models import Model"] ++
      match m.extension with
      | none => []
      | some path => ["", "import " ++ path ++ " as " ++ extensionAlias]

def headerLines (m : Module) : List String :=
  "__doc__ = '''" :: m.header ++ ["'''"]

def exportLine (m : Module) : String :=
  let names := m.enums.map (·.name) ++ m.models.map (·.name)
  "__all__ = [" ++ ", ".intercalate (names.map textLiteral) ++ "]"

def classLines (m : Module) : List (List String) :=
  m.enums.map EnumClass.render ++ m.models.map ModelClass.render

/-- Two blank lines stand before every class and before the list of exported names. -/
def lines (m : Module) : List String :=
  m.headerLines ++ "" :: m.importLines ++
    (m.classLines.flatMap fun block => "" :: "" :: block) ++ ["", "", m.exportLine]

def render (m : Module) : String :=
  "\n".intercalate m.lines ++ "\n"

end Module

end Modelwright.Target
