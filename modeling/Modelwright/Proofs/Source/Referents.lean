import Modelwright.Proofs.Schema.Consistency
import Modelwright.Proofs.Source.Columns
import Modelwright.Proofs.Source.Folding
import Modelwright.Proofs.Source.Resolution

namespace Modelwright.Source

/-! What the names in a lowered schema stand for: a type name is resolved in the scope of the whole
document, and all that is in scope is lowered. -/

theorem Scope.exists_enum_of_resolve {scope : Scope} {owner : ModelBlock} {decl : FieldDecl}
    {name : String} (resolved : scope.resolve owner decl = .ok (.enumeration name)) :
    ∃ block ∈ scope.enums, block.name.text = name := by
  unfold resolve at resolved
  split at resolved
  next => cases resolved
  next =>
  split at resolved
  next meaning found =>
    obtain rfl := Except.ok.inj resolved
    rw [resolveName?, Option.or_eq_some_iff, Option.or_eq_some_iff] at found
    rcases found with scalar | ⟨-, enumeration | ⟨-, model⟩⟩
    · simp at scalar
    · obtain ⟨block, known, same⟩ := Option.map_eq_some_iff.mp enumeration
      exact ⟨block, List.mem_of_find?_eq_some known, Resolved.enumeration.inj same⟩
    · simp at model
  next => cases resolved

section Document

variable {document : Document} {declared : Declarations} {entity : Entity}

theorem exists_enum_of_lower (lowered : (lower document).outcome = .ok declared)
    (member : entity ∈ declared.schema.entities) {field : Field} (listed : field ∈ entity.fields)
    {name : String} (typed : field.type = .enumeration name) :
    ∃ e ∈ declared.schema.enums, e.name = name := by
  obtain ⟨model, -, columns⟩ := Arrangement.exists_left_of_forall₂ (columns_of_lower lowered) member
  obtain ⟨decl, -, makes⟩ := Arrangement.exists_left_of_forall₂ columns listed
  have resolved := makes.resolve_of_enumName? (FieldType.enumName?_eq_some_iff.mpr typed)
  obtain ⟨block, known, named⟩ := Scope.exists_enum_of_resolve resolved
  have emitted : name ∈ declared.schema.enums.map (·.name) := by
    rw [enumNames_of_lower lowered, ← named]
    exact List.mem_map_of_mem known
  exact List.mem_map.mp emitted

theorem exists_target_of_lower (lowered : (lower document).outcome = .ok declared)
    (member : entity ∈ declared.schema.entities) {relation : Relation}
    (listed : relation ∈ entity.relations) :
    ∃ target ∈ declared.schema.entities, target.name = relation.target := by
  have entities := entities_of_lower lowered
  obtain ⟨model, -, results, lowersTo⟩ := Arrangement.exists_left_of_forall₂ entities member
  rw [lowersTo.relations, mem_relations_iff lowersTo.become] at listed
  obtain ⟨decl, -, block, resolved, made⟩ := listed
  obtain ⟨opposite, key, -, declares⟩ := declares_of_relation? made
  obtain ⟨-, known, -⟩ := Scope.typeName_of_resolve resolved
  obtain ⟨target, emitted, _, targetLowersTo⟩ := Arrangement.exists_of_forall₂ entities known
  exact ⟨target, emitted, targetLowersTo.name.trans declares.target.symm⟩

end Document

/-- Every enumeration and every entity that a lowered schema names is in it, so the validation
misses none. -/
theorem referents_of_lower {document : Document} {declared : Declarations}
    (lowered : (lower document).outcome = .ok declared) :
    (∀ entity ∈ declared.schema.entities, ∀ field ∈ entity.fields, ∀ name,
        field.type = .enumeration name → ∃ e ∈ declared.schema.enums, e.name = name) ∧
      (∀ entity ∈ declared.schema.entities, ∀ relation ∈ entity.relations,
        ∃ target ∈ declared.schema.entities, target.name = relation.target) ∧
      (∀ entity field name,
        declared.schema.validate ≠ .error (.unknownEnum entity field name)) ∧
      ∀ entity relation target,
        declared.schema.validate ≠ .error (.relationTargetNotFound entity relation target) := by
  refine ⟨fun entity member field listed name typed => ?_, fun entity member relation listed => ?_,
    fun entity field name refused => ?_, fun entity relation target refused => ?_⟩
  · exact exists_enum_of_lower lowered member listed typed
  · exact exists_target_of_lower lowered member listed
  · cases Schema.violates_of_violation? (Schema.validate_eq_error_iff.mp refused) with
    | unknownEnum member listed typed absent =>
        obtain ⟨e, known, named⟩ := exists_enum_of_lower lowered member listed typed
        exact absent e known named
  · cases Schema.violates_of_violation? (Schema.validate_eq_error_iff.mp refused) with
    | relationTargetNotFound member listed absent =>
        obtain ⟨target, known, named⟩ := exists_target_of_lower lowered member listed
        exact absent target known named

/-- A model that is named like an enumeration, and one that refers to itself. -/
def branchSource : String :=
  "model Branch \x7b\n id Int @id\n kind Kind @default(LEAF)\n parentId Int?\n" ++
    " parent Branch? @relation(fields: [parentId], references: [id])\n children Branch[]\n\x7d\n" ++
    "model Kind \x7b\n id Int @id\n\x7d\nenum Kind \x7b\n LEAF\n KNOT\n\x7d\n"

theorem referents_of_branch :
    ∃ document declared, parse branchSource = .ok document ∧
      (lower document).outcome = .ok declared ∧
      (∀ entity ∈ declared.schema.entities, ∀ field ∈ entity.fields, ∀ name,
        field.type = .enumeration name → ∃ e ∈ declared.schema.enums, e.name = name) ∧
      ∀ entity ∈ declared.schema.entities, ∀ relation ∈ entity.relations,
        ∃ target ∈ declared.schema.entities, target.name = relation.target := by
  have accepted : (declarations branchSource).outcome.isOk = true := by cbv
  obtain ⟨declared, run⟩ := Outcome.exists_of_isOk accepted
  obtain ⟨document, parsed, lowered⟩ := exists_of_declarations run
  obtain ⟨enums, targets, -⟩ := referents_of_lower lowered
  exact ⟨document, declared, parsed, lowered, enums, targets⟩

end Modelwright.Source
