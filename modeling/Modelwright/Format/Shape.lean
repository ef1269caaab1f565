import Modelwright.Format.Json.Value

namespace Modelwright

inductive Shape where
  | nothing
  | text
  | flag
  | size
  | anything
  | oneOf (names : List String)
  | list (item : Shape)
  /-- The places that must be filled, and others that may. -/
  | record (required allowed : List (String × Shape))
  | either (shapes : List Shape)
  deriving Inhabited

namespace Shape

def optional (shape : Shape) : Shape := .either [shape, .nothing]

def typed (name : String) : List (String × Json) := [("type", .string name)]

def keywords : Shape → List (String × Json)
  | nothing => typed "null"
  | text => typed "string"
  | flag => typed "boolean"
  | size =>
    typed "integer" ++ [("minimum", .number (.int 0)), ("maximum", .number (.int 0xffffffff))]
  | anything => []
  | oneOf names => [("enum", .array (names.map .string))]
  | list item => typed "array" ++ [("items", .object (keywords item))]
  | record required allowed =>
    typed "object" ++ [("properties", .object (properties required ++ properties allowed)),
      ("required", .array (required.map fun place => .string place.1))]
  | either shapes => [("anyOf", .array (alternatives shapes))]
where
  properties : List (String × Shape) → List (String × Json)
    | [] => []
    | (name, shape) :: places => (name, .object (keywords shape)) :: properties places
  alternatives : List Shape → List Json
    | [] => []
    | shape :: shapes => .object (keywords shape) :: alternatives shapes

def document (title : String) (shape : Shape) : Json :=
  .object (("title", .string title) :: shape.keywords)

end Shape

end Modelwright
