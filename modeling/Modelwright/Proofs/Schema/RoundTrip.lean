import Modelwright.Format.Json.Reader
import Modelwright.Proofs.Format.Arranged
import Modelwright.Schema.Codec

namespace Modelwright

open Json

section Entries

theorem lookup_entry (key name : String) (value : Json) :
    List.lookup name [(key, value)] = if name = key then some value else none := by
  by_cases same : name = key
  · simp [same]
  · simp [List.lookup_cons, beq_false_of_ne same, same]

@[simp] theorem lookup_optionalEntry (key name : String) (value : Option α) (write : α → Json) :
    (optionalEntry key value write).lookup name = if name = key then value.map write else none := by
  cases value with
  | none => simp [optionalEntry]
  | some v => exact lookup_entry key name (write v)

@[simp] theorem lookup_flagEntry (key name : String) (flag : Bool) :
    (flagEntry key flag).lookup name =
      if name = key then (if flag then some (.bool true) else none) else none := by
  cases flag with
  | false => simp [flagEntry]
  | true => exact lookup_entry key name (.bool true)

@[simp] theorem lookup_listEntry (key name : String) (values : List α) (write : α → Json) :
    (listEntry key values write).lookup name =
      if name = key then (if values.isEmpty then none else some (.array (values.map write)))
      else none := by
  cases values with
  | nil => simp [listEntry]
  | cons value values => exact lookup_entry key name _

theorem keys_optionalEntry (key : String) (value : Option α) (write : α → Json) :
    ((optionalEntry key value write).map Prod.fst).Sublist [key] := by
  cases value with
  | none => exact List.nil_sublist _
  | some v => exact .refl _

theorem keys_flagEntry (key : String) (flag : Bool) :
    ((flagEntry key flag).map Prod.fst).Sublist [key] := by
  cases flag with
  | false => exact List.nil_sublist _
  | true => exact .refl _

theorem keys_listEntry (key : String) (values : List α) (write : α → Json) :
    ((listEntry key values write).map Prod.fst).Sublist [key] := by
  cases values with
  | nil => exact List.nil_sublist _
  | cons value values => exact .refl _

end Entries

mutual

theorem isOpen_node : ∀ value : Json, value.node.isOpen = true
  | .null => rfl
  | .bool _ => rfl
  | .number _ => rfl
  | .string _ => rfl
  | .array items => itemsOpen_nodes items
  | .object entries => entriesOpen_entryNodes entries

theorem itemsOpen_nodes : ∀ items : List Json, Node.isOpen.itemsOpen (node.nodes items) = true
  | [] => rfl
  | item :: items => by
    rw [node.nodes, Node.isOpen.itemsOpen, isOpen_node item, itemsOpen_nodes items]
    rfl

theorem entriesOpen_entryNodes : ∀ entries : List (String × Json),
    Node.isOpen.entriesOpen (node.entryNodes entries) = true
  | [] => rfl
  | (key, value) :: entries => by
    rw [node.entryNodes, Node.isOpen.entriesOpen, isOpen_node value, entriesOpen_entryNodes entries]
    rfl

end

def isSize (n : Nat) : Bool :=
  n < 0x100000000

def FieldType.isStored : FieldType → Bool
  | .scalar _ => true
  | .varchar length => isSize length
  | .fixed precision scale => isSize precision && isSize scale
  | .enumeration _ => true

def DefaultValue.isStored : DefaultValue → Bool
  | .generator _ => true
  | .literal value => value.isStored

def Field.isStored (field : Field) : Bool :=
  field.type.isStored && field.default.all DefaultValue.isStored

/-- The sizes and the literals of a schema are such as are kept in memory. -/
def Schema.isStored (schema : Schema) : Bool :=
  schema.entities.all fun entity => entity.fields.all Field.isStored

variable {arrange : List (String × Json) → List (String × Json)}

namespace FieldType

theorem placesOfEntries?_entryNodes (names : List String) (entries : List (String × Json)) :
    placesOfEntries? (entries.map entryNode) names =
      Node.knownEntries? names (entries.map entryNode) := by
  rw [placesOfEntries?, Node.knownEntries?, List.mapM_map, List.mapM_map]
  rfl

theorem sizedOfNode?_object {kind : String} {placed rest : List (String × Json)}
    (perm : placed.Perm (("kind", .string kind) :: rest))
    (apart : ("kind" :: rest.map Prod.fst).Nodup) :
    ∃ others : List (String × Json), others.Perm rest ∧ sizedOfNode? (Json.object placed).node =
      ofKind? kind (placesOfEntries? (others.map entryNode)) := by
  have keys : (placed.map Prod.fst).Nodup := (perm.map Prod.fst).nodup_iff.mpr apart
  have kindOnly : placed.filter (fun entry => entry.1 == "kind") = [("kind", .string kind)] := by
    refine Arrangement.filter_eq_singleton keys (perm.mem_iff.mpr List.mem_cons_self) rfl ?_
    exact fun entry same => eq_of_beq same
  have restOnly : rest.filter (fun entry => !(entry.1 == "kind")) = rest := by
    refine List.filter_eq_self.mpr fun entry listed => ?_
    have other : entry.1 ≠ "kind" := fun same =>
      (List.nodup_cons.mp apart).1 (same ▸ List.mem_map_of_mem listed)
    rw [beq_false_of_ne other]
    rfl
  refine ⟨placed.filter fun entry => !(entry.1 == "kind"), ?_, ?_⟩
  · have filtered := perm.filter fun entry => !(entry.1 == "kind")
    rw [List.filter_cons_of_neg (by simp), restOnly] at filtered
    exact filtered
  · -- A node is the key of the kind when its text is.
    have kindNodes : (placed.map entryNode).filter (·.1.isKindKey) =
        [entryNode ("kind", .string kind)] := by
      rw [List.filter_map]
      exact congrArg (List.map entryNode) kindOnly
    have otherNodes : (placed.map entryNode).filter (!·.1.isKindKey) =
        (placed.filter fun entry => !(entry.1 == "kind")).map entryNode := by
      rw [List.filter_map]
      rfl
    rw [node, entryNodes_eq_map, sizedOfNode?, kindNodes, otherNodes]
    rfl

/-- A mapping of several entries names no scalar type. -/
theorem scalarOfNode?_object {placed : List (String × Json)} (several : 2 ≤ placed.length) :
    scalarOfNode? (Json.object placed).node = none := by
  match placed, several with
  | _ :: _ :: _, _ => rfl

theorem ofNode?_object {placed : List (String × Json)} (several : 2 ≤ placed.length) :
    ofNode? Json.valueDialect (Json.object placed).node =
      sizedOfNode? (Json.object placed).node := by
  rw [ofNode?, isOpen_node, scalarOfNode?_object several]
  rfl

theorem exists_sized (arranges : Arranges arrange) (kind : String)
    (entry : String × Json) (rest : List (String × Json)) (names : List String)
    (named : (entry :: rest).map Prod.fst = names) (apart : ("kind" :: names).Nodup) :
    ∃ places record,
      ofNode? Json.valueDialect
        ((Json.object (("kind", .string kind) :: entry :: rest)).arranged arrange).node =
          ofKind? kind places ∧
      places names = some record ∧ record.Holds arrange (entry :: rest) := by
  subst named
  have nodup : ((("kind", Json.string kind) :: entry :: rest).map Prod.fst).Nodup := apart
  obtain ⟨placed, written, perm⟩ := exists_arranged_object arranges nodup
  have several : 2 ≤ placed.length := by
    rw [perm.length_eq, List.length_map, List.length_cons, List.length_cons]
    omega
  have apartArranged : ("kind" :: ((entry :: rest).map fun entry =>
      (entry.1, entry.2.arranged arrange)).map Prod.fst).Nodup := by
    rwa [List.map_map]
  obtain ⟨others, othersPerm, read⟩ := sizedOfNode?_object perm apartArranged
  have keys := keys_perm othersPerm
  have restNodup := (List.nodup_cons.mp apart).2
  refine ⟨_, recordOf others, written ▸ (ofNode?_object several).trans read, ?_,
    holds_of_perm othersPerm restNodup⟩
  rw [placesOfEntries?_entryNodes]
  exact knownEntries?_entryNodes (fun key listed => keys.mem_iff.mp listed)
    (keys.nodup_iff.mpr restNodup)

theorem openSize?_natJson {n : Nat} (stored : isSize n = true) :
    ((natJson n).arranged arrange).node.openSize? = some n := by
  have below : n < 0x100000000 := of_decide_eq_true stored
  have bounds : 0 ≤ (n : Int) ∧ (n : Int) < 0x100000000 := by omega
  show (if 0 ≤ (n : Int) ∧ (n : Int) < 0x100000000 then some (n : Int).toNat else none) = _
  rw [if_pos bounds, Int.toNat_natCast]

theorem ofNode?_toJson (arranges : Arranges arrange) (type : FieldType)
    (stored : type.isStored = true) :
    ofNode? Json.valueDialect (type.toJson.arranged arrange).node = some type := by
  cases type with
  | scalar type => cases type <;> rfl
  | varchar length =>
      obtain ⟨places, record, read, known, holds⟩ :=
        exists_sized arranges "varchar" ("length", natJson length) [] ["length"] rfl (by decide)
      have size : record.required "length" Node.openSize? = some length :=
        (holds.required _ rfl).trans (openSize?_natJson stored)
      rw [toJson, read, ofKind?, if_pos rfl, known]
      simp only [Option.bind_eq_bind, Option.bind_some, size]
      rfl
  | fixed precision scale =>
      obtain ⟨precise, scaled⟩ := Bool.and_eq_true_iff.mp stored
      obtain ⟨places, record, read, known, holds⟩ :=
        exists_sized arranges "decimal" ("precision", natJson precision)
          [("scale", natJson scale)] ["precision", "scale"] rfl (by decide)
      have first : record.required "precision" Node.openSize? = some precision :=
        (holds.required _ rfl).trans (openSize?_natJson precise)
      have second : record.required "scale" Node.openSize? = some scale :=
        (holds.required _ rfl).trans (openSize?_natJson scaled)
      rw [toJson, read, ofKind?, if_neg (by decide), if_pos rfl, known]
      simp only [Option.bind_eq_bind, Option.bind_some, first, second]
      rfl
  | enumeration name =>
      obtain ⟨places, record, read, known, holds⟩ :=
        exists_sized arranges "enum" ("name", .string name) [] ["name"] rfl (by decide)
      have named : record.required "name" Node.openText? = some name :=
        holds.required (.string name) rfl
      rw [toJson, read, ofKind?, if_neg (by decide), if_neg (by decide), if_pos rfl, known]
      simp only [Option.bind_eq_bind, Option.bind_some, named]
      rfl

end FieldType

namespace DefaultValue

theorem ofNode?_toJson (arranges : Arranges arrange) (default : DefaultValue)
    (stored : default.isStored = true) :
    ofNode? Json.valueDialect (default.toJson.arranged arrange).node = some default := by
  cases default with
  | generator generator =>
      rw [toJson, arranged_singleton arranges]
      cases generator <;> rfl
  | literal value =>
      rw [toJson, arranged_singleton arranges]
      show ((value.arranged arrange).node.json?.bind fun value => some (literal value)) = _
      rw [json?_node_arranged arranges value stored]
      rfl

end DefaultValue

section Fields

theorem Field.keys_within (field : Field) :
    (field.toJson.entries.map Prod.fst).Sublist Field.places := by
  have front : ["name", "type", "nullable"].Sublist ["name", "type", "nullable"] := .refl _
  simp only [Field.toJson, entries, List.map_append]
  exact (((((front.append (keys_flagEntry _ _)).append (keys_flagEntry _ _)).append
    (keys_optionalEntry _ _ _)).append (keys_flagEntry _ _)).append
      (keys_optionalEntry _ _ _)).append (keys_optionalEntry _ _ _)

theorem missing?_default (default : DefaultValue) :
    (default.toJson.arranged arrange).node.missing? = some false := by
  cases default with
  | generator generator => rfl
  | literal value => rfl

theorem Field.ofNode?_toJson (arranges : Arranges arrange) (field : Field)
    (stored : field.isStored = true) :
    Field.ofNode? Json.valueDialect (field.toJson.arranged arrange).node = some field := by
  obtain ⟨storedType, storedDefault⟩ := Bool.and_eq_true_iff.mp stored
  obtain ⟨record, written, holds⟩ :=
    exists_holds arranges Json.valueDialect rfl field.keys_within (by decide)
  have name : record.required "name" Node.text? = some field.name :=
    holds.required (.string field.name) rfl
  have type : record.required "type" (FieldType.ofNode? Json.valueDialect) = some field.type :=
    (holds.required _ rfl).trans (FieldType.ofNode?_toJson arranges field.type storedType)
  have nullable : record.withDefault "nullable" false Node.bool? = some field.nullable :=
    holds.withDefault (.bool field.nullable) rfl false
  have primaryKey : record.withDefault "primary_key" false Node.bool? = some field.primaryKey :=
    holds.flag (by simp [Field.toJson, entries, List.lookup_append, List.lookup_cons])
  have unique : record.withDefault "unique" false Node.bool? = some field.unique :=
    holds.flag (by simp [Field.toJson, entries, List.lookup_append, List.lookup_cons])
  have default : record.optional "default" (DefaultValue.ofNode? Json.valueDialect) =
      some field.default :=
    holds.optional DefaultValue.toJson
      (by simp [Field.toJson, entries, List.lookup_append, List.lookup_cons])
      missing?_default fun default given =>
        DefaultValue.ofNode?_toJson arranges default (by simpa [given] using storedDefault)
  have updatedAt : record.withDefault "updated_at" false Node.bool? = some field.updatedAt :=
    holds.flag (by simp [Field.toJson, entries, List.lookup_append, List.lookup_cons])
  have column : record.optional "db_name" Node.text? = some field.column :=
    holds.text (by simp [Field.toJson, entries, List.lookup_append, List.lookup_cons])
  have description : record.optional "description" Node.text? = some field.description :=
    holds.text (by simp [Field.toJson, entries, List.lookup_append, List.lookup_cons])
  rw [Field.ofNode?, written]
  simp only [Option.bind_eq_bind, Option.bind_some, name, type, nullable, primaryKey, unique,
    default, updatedAt, column, description]
  rfl

end Fields

section Enumerations

theorem Enumeration.keys_within (e : Enumeration) :
    (e.toJson.entries.map Prod.fst).Sublist Enumeration.places := by
  rw [Enumeration.toJson, entries, List.map_append]
  exact (List.Sublist.refl ["name", "values"]).append (keys_optionalEntry _ _ _)

theorem Enumeration.ofNode?_toJson (arranges : Arranges arrange) (e : Enumeration) :
    Enumeration.ofNode? Json.valueDialect (e.toJson.arranged arrange).node = some e := by
  obtain ⟨record, written, holds⟩ :=
    exists_holds arranges Json.valueDialect rfl e.keys_within (by decide)
  have name : record.required "name" Node.text? = some e.name :=
    holds.required (.string e.name) rfl
  have values : record.required "values" (Node.list? Node.text?) = some e.values :=
    (holds.required (.array (e.values.map .string)) rfl).trans (list?_node_arranged fun _ _ => rfl)
  have description : record.optional "description" Node.text? = some e.description :=
    holds.text (by simp [Enumeration.toJson, entries, List.lookup_cons])
  rw [Enumeration.ofNode?, written]
  simp only [Option.bind_eq_bind, Option.bind_some, name, values, description]
  rfl

end Enumerations

section Relations

theorem case?_kind (kind : RelationKind) :
    Node.case? Json.valueDialect (named RelationKind.dataName RelationKind.all)
      ((Json.string kind.dataName).arranged arrange).node = some kind := by
  cases kind <;> rfl

theorem case?_policy (policy : DeletePolicy) :
    Node.case? Json.valueDialect (named DeletePolicy.dataName DeletePolicy.all)
      ((Json.string policy.dataName).arranged arrange).node = some policy := by
  cases policy <;> rfl

theorem Relation.keys_within (relation : Relation) :
    (relation.toJson.entries.map Prod.fst).Sublist Relation.places := by
  have front : ["name", "kind", "target", "nullable"].Sublist
      ["name", "kind", "target", "nullable"] := .refl _
  simp only [Relation.toJson, entries, List.map_append]
  exact ((((front.append (keys_optionalEntry _ _ _)).append (keys_optionalEntry _ _ _)).append
    (keys_optionalEntry _ _ _)).append (keys_optionalEntry _ _ _)).append
      (keys_optionalEntry _ _ _)

theorem Relation.ofNode?_toJson (arranges : Arranges arrange) (relation : Relation) :
    Relation.ofNode? Json.valueDialect (relation.toJson.arranged arrange).node =
      some relation := by
  obtain ⟨record, written, holds⟩ :=
    exists_holds arranges Json.valueDialect rfl relation.keys_within (by decide)
  have name : record.required "name" Node.text? = some relation.name :=
    holds.required (.string relation.name) rfl
  have kind : record.required "kind" (Node.case? Json.valueDialect
      (named RelationKind.dataName RelationKind.all)) = some relation.kind :=
    (holds.required (.string relation.kind.dataName) rfl).trans (case?_kind _)
  have target : record.required "target" Node.text? = some relation.target :=
    holds.required (.string relation.target) rfl
  have nullable : record.withDefault "nullable" false Node.bool? = some relation.nullable :=
    holds.withDefault (.bool relation.nullable) rfl false
  have column : record.optional "source_field" Node.text? = some relation.column :=
    holds.text (by simp [Relation.toJson, entries, List.lookup_append, List.lookup_cons])
  have toField : record.optional "to_field" Node.text? = some relation.toField :=
    holds.text (by simp [Relation.toJson, entries, List.lookup_append, List.lookup_cons])
  have onDelete : record.optional "on_delete" (Node.case? Json.valueDialect
      (named DeletePolicy.dataName DeletePolicy.all)) = some relation.onDelete :=
    holds.optional (fun policy => .string policy.dataName)
      (by simp [Relation.toJson, entries, List.lookup_append, List.lookup_cons]) (fun _ => rfl)
      fun _ _ => case?_policy _
  have relatedName : record.optional "related_name" Node.text? = some relation.relatedName :=
    holds.text (by simp [Relation.toJson, entries, List.lookup_append, List.lookup_cons])
  have description : record.optional "description" Node.text? = some relation.description :=
    holds.text (by simp [Relation.toJson, entries, List.lookup_append, List.lookup_cons])
  rw [Relation.ofNode?, written]
  simp only [Option.bind_eq_bind, Option.bind_some, name, kind, target, nullable, column, toField,
    onDelete, relatedName, description]
  rfl

end Relations

section Schemas

theorem Entity.keys_within (entity : Entity) :
    (entity.toJson.entries.map Prod.fst).Sublist Entity.places := by
  have front : ["name"].Sublist ["name"] := .refl _
  have fields : ["fields"].Sublist ["fields"] := .refl _
  simp only [Entity.toJson, entries, List.map_append]
  exact (((front.append (keys_optionalEntry _ _ _)).append (keys_optionalEntry _ _ _)).append
    fields).append (keys_listEntry _ _ _)

theorem Entity.ofNode?_toJson (arranges : Arranges arrange) (entity : Entity)
    (stored : entity.fields.all Field.isStored = true) :
    Entity.ofNode? Json.valueDialect (entity.toJson.arranged arrange).node = some entity := by
  obtain ⟨record, written, holds⟩ :=
    exists_holds arranges Json.valueDialect rfl entity.keys_within (by decide)
  have name : record.required "name" Node.text? = some entity.name :=
    holds.required (.string entity.name) rfl
  have table : record.optional "table" Node.text? = some entity.table :=
    holds.text (by simp [Entity.toJson, entries, List.lookup_append, List.lookup_cons])
  have description : record.optional "description" Node.text? = some entity.description :=
    holds.text (by simp [Entity.toJson, entries, List.lookup_append, List.lookup_cons])
  have fields : record.required "fields" (Node.list? (Field.ofNode? Json.valueDialect)) =
      some entity.fields := by
    refine (holds.required (.array (entity.fields.map Field.toJson))
      (by simp [Entity.toJson, entries, List.lookup_append, List.lookup_cons])).trans ?_
    exact list?_node_arranged fun field listed =>
      Field.ofNode?_toJson arranges field (List.all_eq_true.mp stored field listed)
  have relations : record.withDefault "relations" []
      (Node.list? (Relation.ofNode? Json.valueDialect)) = some entity.relations :=
    holds.list Relation.toJson
      (by simp [Entity.toJson, entries, List.lookup_append, List.lookup_cons])
      fun relation _ => Relation.ofNode?_toJson arranges relation
  rw [Entity.ofNode?, written]
  simp only [Option.bind_eq_bind, Option.bind_some, name, table, description, fields, relations]
  rfl

theorem Schema.keys_within (schema : Schema) :
    (schema.toJson.entries.map Prod.fst).Sublist Schema.places := by
  rw [Schema.toJson, entries, List.map_append]
  exact (keys_listEntry _ _ _).append (List.Sublist.refl ["entities"])

theorem Schema.ofNode?_toJson (arranges : Arranges arrange) (schema : Schema)
    (stored : schema.isStored = true) :
    Schema.ofNode? Json.valueDialect (schema.toJson.arranged arrange).node = some schema := by
  obtain ⟨record, written, holds⟩ :=
    exists_holds arranges Json.valueDialect rfl schema.keys_within (by decide)
  have enums : record.withDefault "enums" []
      (Node.list? (Enumeration.ofNode? Json.valueDialect)) = some schema.enums :=
    holds.list Enumeration.toJson
      (by simp [Schema.toJson, entries, List.lookup_append, List.lookup_cons])
      fun e _ => Enumeration.ofNode?_toJson arranges e
  have entities : record.required "entities" (Node.list? (Entity.ofNode? Json.valueDialect)) =
      some schema.entities := by
    refine (holds.required (.array (schema.entities.map Entity.toJson))
      (by simp [Schema.toJson, entries, List.lookup_append])).trans ?_
    exact list?_node_arranged fun entity listed =>
      Entity.ofNode?_toJson arranges entity (List.all_eq_true.mp stored entity listed)
  rw [Schema.ofNode?, written]
  simp only [Option.bind_eq_bind, Option.bind_some, enums, entities]
  rfl

end Schemas

end Modelwright
