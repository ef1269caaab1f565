import Modelwright.Format.Shape
import Modelwright.Schema.Codec

namespace Modelwright

namespace FieldType

def sizedShape (kind : String) (places : List (String × Shape)) : Shape :=
  .record (("kind", .oneOf [kind]) :: places) []

def shape : Shape :=
  .either [.oneOf (ScalarType.all.map ScalarType.dataName),
    sizedShape "varchar" [("length", .size)],
    sizedShape "decimal" [("precision", .size), ("scale", .size)],
    sizedShape "enum" [("name", .text)]]

end FieldType

namespace DefaultValue

def shape : Shape :=
  .either [.record [("generator", .oneOf (Generator.all.map Generator.dataName))] [],
    .record [("literal", .anything)] []]

end DefaultValue

namespace Enumeration

def shape : Shape :=
  .record [("name", .text), ("values", .list .text)] [("description", .optional .text)]

end Enumeration

namespace Field

def shape : Shape :=
  .record [("name", .text), ("type", FieldType.shape)]
    [("nullable", .flag), ("primary_key", .flag), ("unique", .flag),
      ("default", .optional DefaultValue.shape), ("updated_at", .flag),
      ("db_name", .optional .text), ("description", .optional .text)]

end Field

namespace Relation

def shape : Shape :=
  .record
    [("name", .text), ("kind", .oneOf (RelationKind.all.map RelationKind.dataName)),
      ("target", .text)]
    [("nullable", .flag), ("source_field", .optional .text), ("to_field", .optional .text),
      ("on_delete", .optional (.oneOf (DeletePolicy.all.map DeletePolicy.dataName))),
      ("related_name", .optional .text), ("description", .optional .text)]

end Relation

namespace Entity

def shape : Shape :=
  .record [("name", .text), ("fields", .list Field.shape)]
    [("table", .optional .text), ("description", .optional .text),
      ("relations", .list Relation.shape)]

end Entity

namespace Schema

def shape : Shape :=
  .record [("entities", .list Entity.shape)] [("enums", .list Enumeration.shape)]

end Schema

end Modelwright
