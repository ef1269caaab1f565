import Modelwright.Proofs.Arrangement
import Modelwright.Proofs.Schema.WellFormed
import Modelwright.Proofs.Source.Lowered

namespace Modelwright.Source

/-- No two models share a name, and no enumeration has the name of a model. -/
structure Scope.Distinct (scope : Scope) : Prop where
  models_nodup : (scope.models.map (·.name.text)).Nodup
  enums_apart : ∀ e ∈ scope.enums, e.name.text ∉ scope.models.map (·.name.text)

theorem Scope.Distinct.model_eq {scope : Scope} (distinct : scope.Distinct)
    {first second : ModelBlock} (firstMember : first ∈ scope.models)
    (secondMember : second ∈ scope.models) (name : first.name.text = second.name.text) :
    first = second :=
  List.inj_on_of_nodup_map distinct.models_nodup firstMember secondMember name

/-- The schema is valid and is what the declarations in scope become. -/
structure Accepted (scope : Scope) (schema : Schema) : Prop where
  entities : List.Forall₂ (fun model entity => ∃ results, LowersTo scope model entity results)
    scope.models schema.entities
  enumNames : schema.enums.map (·.name) = scope.enums.map (·.name.text)
  valid : schema.WellFormed

theorem name_of_enumeration {block : EnumBlock} {e : Enumeration}
    (lowered : (enumeration block).outcome = .ok e) : e.name = block.name.text := by
  simp only [enumeration, Logged.outcome_bind, Outcome.bind_eq_ok_iff, Logged.outcome_pure,
    Except.ok.injEq] at lowered
  obtain ⟨_, -, values, -, rfl⟩ := lowered
  rfl

theorem enumNames_of_lower {document : Document} {declared : Declarations}
    (lowered : (lower document).outcome = .ok declared) :
    declared.schema.enums.map (·.name) = document.scope.enums.map (·.name.text) := by
  simp only [lower, Logged.outcome_bind, Outcome.bind_eq_ok_iff, Logged.outcome_mapM,
    Outcome.mapM_eq_ok_iff, Logged.outcome_pure, Except.ok.injEq] at lowered
  obtain ⟨generators, -, enums, enumsRun, entities, -, rfl⟩ := lowered
  exact Arrangement.map_eq_of_forall₂ (enumsRun.imp fun _ _ => name_of_enumeration)

theorem accepted_of_lower {document : Document} {declared : Declarations}
    (lowered : (lower document).outcome = .ok declared)
    (valid : declared.schema.validate = .ok ()) : Accepted document.scope declared.schema :=
  ⟨entities_of_lower lowered, enumNames_of_lower lowered,
    Schema.validate_eq_ok_iff_wellFormed.mp valid⟩

namespace Accepted

variable {scope : Scope} {schema : Schema}

theorem entityNames (accepted : Accepted scope schema) :
    schema.entities.map (·.name) = scope.models.map (·.name.text) :=
  Arrangement.map_eq_of_forall₂ (accepted.entities.imp fun _ _ ⟨_, lowersTo⟩ => lowersTo.name)

theorem distinct (accepted : Accepted scope schema) : scope.Distinct := by
  refine ⟨accepted.entityNames ▸ accepted.valid.entities_nodup, fun block member => ?_⟩
  have named : block.name.text ∈ schema.enums.map (·.name) :=
    accepted.enumNames ▸ List.mem_map_of_mem member
  obtain ⟨e, known, name⟩ := List.mem_map.mp named
  rw [← accepted.entityNames, ← name]
  exact (accepted.valid.enums e known).noEntity

theorem exists_entity (accepted : Accepted scope schema) {model : ModelBlock}
    (member : model ∈ scope.models) :
    ∃ entity ∈ schema.entities, ∃ results, LowersTo scope model entity results :=
  Arrangement.exists_of_forall₂ accepted.entities member

theorem exists_model (accepted : Accepted scope schema) {entity : Entity}
    (member : entity ∈ schema.entities) :
    ∃ model ∈ scope.models, ∃ results, LowersTo scope model entity results :=
  Arrangement.exists_left_of_forall₂ accepted.entities member

end Accepted

theorem resolved_of_mem {scope : Scope} {model : ModelBlock} {decls : List FieldDecl}
    {results : List FieldResult} (become : List.Forall₂ (Becomes scope model) decls results)
    {decl : FieldDecl} (member : decl ∈ decls) :
    ∃ resolved, scope.resolve model decl = .ok resolved := by
  have exists_of_column (column : scope.isColumn model decl = true) :
      ∃ resolved, scope.resolve model decl = .ok resolved := by
    cases resolution : scope.resolve model decl with
    | ok resolved => exact ⟨resolved, rfl⟩
    | error error => simp [Scope.isColumn, resolution] at column
  obtain ⟨result, -, becomes⟩ := Arrangement.exists_of_forall₂ become member
  cases becomes with
  | relation resolved lowered => exact ⟨_, resolved⟩
  | accessor resolved lowered => exact ⟨_, resolved⟩
  | column column free name => exact exists_of_column column
  | key column taken => exact exists_of_column column

namespace Scope

variable {scope : Scope} {owner target : ModelBlock} {field : FieldDecl}

theorem typeName_of_resolve (resolved : scope.resolve owner field = .ok (.model target)) :
    ScalarType.ofSourceName? field.type.name.text = none ∧ target ∈ scope.models ∧
      field.type.name.text = target.name.text := by
  unfold resolve at resolved
  split at resolved
  · exact nomatch resolved
  split at resolved
  next meaning found =>
    obtain rfl := Except.ok.inj resolved
    rw [resolveName?, Option.or_eq_some_iff, Option.or_eq_some_iff] at found
    rcases found with scalar | ⟨noScalar, enumeration | ⟨-, model⟩⟩
    · simp at scalar
    · simp at enumeration
    · simp only [model?, Option.map_eq_some_iff, Resolved.model.injEq, exists_eq_right] at model
      refine ⟨by simpa using noScalar, List.mem_of_find?_eq_some model, ?_⟩
      simpa [eq_comm] using List.find?_some model
  next => exact nomatch resolved

theorem resolve_eq_model (distinct : scope.Distinct) {resolved : Resolved}
    (accepted : scope.resolve owner field = .ok resolved)
    (noScalar : ScalarType.ofSourceName? field.type.name.text = none)
    (member : target ∈ scope.models) (named : field.type.name.text = target.name.text) :
    scope.resolve owner field = .ok (.model target) := by
  have noEnum : scope.enums.find? (·.name.text = field.type.name.text) = none := by
    rw [List.find?_eq_none]
    intro e known same
    refine distinct.enums_apart e known ?_
    rw [of_decide_eq_true same, named]
    exact List.mem_map_of_mem member
  have found : scope.models.find? (·.name.text = target.name.text) = some target :=
    Arrangement.find?_key_eq_some distinct.models_nodup member
  have meaning : scope.resolveName? field.type.name.text = some (.model target) := by
    rw [resolveName?, noScalar, noEnum, model?, named, found]
    rfl
  unfold resolve at accepted ⊢
  split at accepted
  · exact nomatch accepted
  next supported => simp only [meaning]

end Scope

/-- The type of a lowered field that has the name of a model, and of no scalar type, is the
model. -/
theorem Accepted.resolve_eq_model {scope : Scope} {schema : Schema}
    (accepted : Accepted scope schema) {owner target : ModelBlock} {field : FieldDecl}
    (ownerMember : owner ∈ scope.models) (member : field ∈ owner.fields)
    (targetMember : target ∈ scope.models)
    (noScalar : ScalarType.ofSourceName? target.name.text = none)
    (named : field.type.name.text = target.name.text) :
    scope.resolve owner field = .ok (.model target) := by
  obtain ⟨entity, -, results, lowersTo⟩ := accepted.exists_entity ownerMember
  obtain ⟨meaning, resolution⟩ := resolved_of_mem lowersTo.become member
  exact Scope.resolve_eq_model accepted.distinct resolution (named ▸ noScalar) targetMember named

end Modelwright.Source
