import Modelwright.Models.Declare

namespace Modelwright

def numberMark : String := "🔟"

def relationMark : String := "🪢"

namespace FieldType

def mark : FieldType → String
  | .scalar .int => numberMark
  | .scalar .bigInt => numberMark
  | .scalar .float => numberMark
  | .scalar .decimal => numberMark
  | .scalar .boolean => "✅"
  | .scalar .string => "🆎"
  | .scalar .dateTime => "🕑"
  | .scalar .json => "🪢"
  | .scalar .bytes => "💾"
  | .varchar _ => "🆎"
  | .fixed _ _ => numberMark
  | .enumeration _ => "🪢"

end FieldType

def memberLine (mark : String) (required : Bool) (name type : String) : String :=
  "- " ++ mark ++ " " ++ (if required then "*" else "") ++ name ++ " [" ++ type ++ "]"

/-- The type's name, with a question mark if the value may be missing. -/
def typeLabel (name : String) (nullable : Bool) : String :=
  name ++ if nullable then "?" else ""

def descriptionLines (description : Option String) : List String :=
  match description with
  | none => []
  | some text =>
    ["  - doc: " ++ String.ofList (text.toList.map fun c => if c = '\n' then ' ' else c)]

def defaultText (casing : Casing) (type : FieldType) : DefaultValue → String
  | .generator generator => generator.functionName ++ "()"
  | .literal value => (literalDefault casing type value).render

def defaultLines (casing : Casing) (field : Field) : List String :=
  match field.default with
  | none => []
  | some value => ["  - default: " ++ defaultText casing field.type value]

def fieldDescription (casing : Casing) (field : Field) : List String :=
  let head := memberLine field.type.mark field.isRequired field.name
    (typeLabel field.type.sourceName field.nullable)
  (head ++ (if field.primaryKey then " 🔑" else "") ++ if field.unique then " 📌" else "") ::
    defaultLines casing field ++ descriptionLines field.description

def relationDescription (relation : Relation) : List String :=
  memberLine relationMark (!relation.nullable) relation.name
      (typeLabel relation.target relation.nullable) ::
    descriptionLines relation.description

def reverseDescription (reverse : ReverseRelation) : List String :=
  [memberLine relationMark false reverse.name reverse.owner.name]

def memberDescription (casing : Casing) : Member → List String
  | .field field => fieldDescription casing field
  | .relation relation => relationDescription relation
  | .reverse reverse => reverseDescription reverse

def withDescription (description : Option String) (lines : List String) : List String :=
  match description with
  | none => lines
  | some text => text :: "" :: lines

end Modelwright
