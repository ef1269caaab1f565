import Modelwright.Models.Names
import Modelwright.Schema.Basic

namespace Modelwright

inductive Member where
  | field (field : Field)
  | relation (relation : Relation)
  | reverse (reverse : ReverseRelation)
  deriving Inhabited

namespace Member

def sourceName : Member → String
  | field f => f.name
  | relation r => r.name
  | reverse r => r.name

def label : Member → String
  | field f => f.name
  | relation r => r.name
  | reverse r => r.name ++ " (reverse of " ++ r.owner.name ++ "." ++ r.relation.name ++ ")"

def attributeName (casing : Casing) (member : Member) : String :=
  casing.valueName member.sourceName

/-- The names that a member takes in its class, with what takes them.  A relation also takes the
name of its key. -/
def claims (casing : Casing) (member : Member) : List (String × String) :=
  (member.attributeName casing, member.label) ::
    match member with
    | relation r =>
      [(Naming.foreignKeyAttribute (member.attributeName casing), r.name ++ " (key attribute)")]
    | _ => []

end Member

namespace Schema

def members (schema : Schema) (entity : Entity) : List Member :=
  entity.fields.map .field ++ entity.relations.map .relation ++
    (schema.reverseRelations entity.name).map .reverse

end Schema

def claimAll (entity : String) (registry : Registry) :
    List (String × String) → Except ExportError Registry
  | [] => .ok registry
  | (name, label) :: rest =>
    match registry.claim name label with
    | .ok registry => claimAll entity registry rest
    | .error first => .error (.memberNameCollision entity name first label)

def checkMembers (casing : Casing) (entity : String) (registry : Registry) :
    List Member → Except ExportError Registry
  | [] => .ok registry
  | member :: rest => do
    checkIdentifier entity (member.attributeName casing)
    let registry ← claimAll entity registry (member.claims casing)
    checkMembers casing entity registry rest

end Modelwright
