import Modelwright.Proofs.Arrangement
import Modelwright.Proofs.Source.Lowered

namespace Modelwright.Source

/-! The fields of an entity: one for each column of the model that no relation takes as its key, in
their order. -/

def Scope.columnType? (scope : Scope) (model : ModelBlock) (decl : FieldDecl) : Option FieldType :=
  match scope.resolve model decl with
  | .ok (.scalar type) => some (.scalar type)
  | .ok (.enumeration name) => some (.enumeration name)
  | .ok (.model _) => none
  | .error _ => none

/-- Whether the declaration is a column that no relation of the model names as its key. -/
def Scope.keeps (scope : Scope) (model : ModelBlock) (decl : FieldDecl) : Bool :=
  scope.isColumn model decl && decide (decl.name.text ∉ foreignKeys model)

/-- The field is what the attributes of the declaration make of a plain field of its type. -/
def Scope.Makes (scope : Scope) (model : ModelBlock) (decl : FieldDecl) (field : Field) : Prop :=
  ∃ type, scope.columnType? model decl = some type ∧
    (scalarField model decl type).outcome = .ok field

theorem Scope.isColumn_of_columnType? {scope : Scope} {model : ModelBlock} {decl : FieldDecl}
    {type : FieldType} (found : scope.columnType? model decl = some type) :
    scope.isColumn model decl = true := by
  unfold columnType? at found
  unfold isColumn
  split at found
  next resolution => rw [resolution]
  next resolution => rw [resolution]
  next => cases found
  next => cases found

theorem Scope.keeps_iff {scope : Scope} {model : ModelBlock} {decl : FieldDecl} :
    scope.keeps model decl = true ↔
      scope.isColumn model decl = true ∧ decl.name.text ∉ foreignKeys model := by
  rw [keeps, Bool.and_eq_true, decide_eq_true_eq]

section Columns

variable {scope : Scope} {model : ModelBlock} {decl : FieldDecl} {result : FieldResult}

theorem field?_of_columnField {type : FieldType}
    (found : scope.columnType? model decl = some type)
    (lowered : (columnField model decl type).outcome = .ok result) :
    (scope.keeps model decl = true →
        ∃ field, result.field? = some field ∧ scope.Makes model decl field) ∧
      (scope.keeps model decl = false → result.field? = none) := by
  unfold columnField at lowered
  split at lowered
  next => cases lowered
  next =>
    split at lowered
    next taken =>
      obtain rfl := Except.ok.inj lowered
      exact ⟨fun kept => absurd taken (Scope.keeps_iff.mp kept).2, fun _ => rfl⟩
    next free =>
      simp only [Logged.outcome_bind, Outcome.bind_eq_ok_iff, Logged.outcome_pure,
        Except.ok.injEq] at lowered
      obtain ⟨field, made, rfl⟩ := lowered
      have kept : scope.keeps model decl = true :=
        Scope.keeps_iff.mpr ⟨Scope.isColumn_of_columnType? found, free⟩
      refine ⟨fun _ => ⟨field, rfl, type, found, made⟩, fun dropped => ?_⟩
      rw [kept] at dropped
      cases dropped

theorem field?_of_fieldResult (lowered : (fieldResult scope model decl).outcome = .ok result) :
    (scope.keeps model decl = true →
        ∃ field, result.field? = some field ∧ scope.Makes model decl field) ∧
      (scope.keeps model decl = false → result.field? = none) := by
  simp only [fieldResult, Logged.outcome_bind, Logged.outcome_ofExcept,
    Outcome.bind_eq_ok_iff] at lowered
  obtain ⟨resolved, resolution, lowered⟩ := lowered
  cases resolved with
  | scalar type =>
      exact field?_of_columnField (by simp [Scope.columnType?, resolution]) lowered
  | enumeration name =>
      exact field?_of_columnField (by simp [Scope.columnType?, resolution]) lowered
  | model target =>
      have noColumn : scope.keeps model decl = false := by
        simp [Scope.keeps, Scope.isColumn, resolution]
      have noField : result.field? = none := by
        simp only [Logged.outcome_bind, Logged.outcome_ofExcept, Outcome.bind_eq_ok_iff] at lowered
        obtain ⟨relation, -, lowered⟩ := lowered
        cases relation with
        | some relation =>
            obtain rfl := Except.ok.inj lowered
            rfl
        | none =>
            obtain rfl := Except.ok.inj lowered
            rfl
      exact ⟨fun kept => absurd kept (by simp [noColumn]), fun _ => noField⟩

theorem fields_of_entity {lowered : Entity} (run : (entity scope model).outcome = .ok lowered) :
    List.Forall₂ (scope.Makes model) (model.fields.filter (scope.keeps model)) lowered.fields := by
  simp only [entity, Logged.outcome_bind, Outcome.bind_eq_ok_iff, Logged.outcome_mapM,
    Outcome.mapM_eq_ok_iff, Logged.outcome_pure, Except.ok.injEq] at run
  obtain ⟨table, -, results, fieldsRun, rfl⟩ := run
  exact Arrangement.forall₂_filter_filterMap (fieldsRun.imp fun _ _ => field?_of_fieldResult)

end Columns

theorem columns_of_lower {document : Document} {declared : Declarations}
    (lowered : (lower document).outcome = .ok declared) :
    List.Forall₂ (fun model entity => List.Forall₂ (document.scope.Makes model)
        (model.fields.filter (document.scope.keeps model)) entity.fields)
      document.scope.models declared.schema.entities := by
  simp only [lower, Logged.outcome_bind, Outcome.bind_eq_ok_iff, Logged.outcome_mapM,
    Outcome.mapM_eq_ok_iff, Logged.outcome_pure, Except.ok.injEq] at lowered
  obtain ⟨generators, -, enums, -, entities, entitiesRun, rfl⟩ := lowered
  exact entitiesRun.imp fun _ _ => fields_of_entity

namespace Scope.Makes

variable {scope : Scope} {model : ModelBlock} {decl : FieldDecl} {field : Field}

theorem primaryKey_eq (makes : scope.Makes model decl field) :
    field.primaryKey = decl.isMarkedKey := by
  obtain ⟨type, -, lowered⟩ := makes
  exact primaryKey_scalarField lowered

theorem name_eq (makes : scope.Makes model decl field) : field.name = decl.name.text := by
  obtain ⟨type, -, lowered⟩ := makes
  exact name_scalarField lowered

theorem resolve_of_enumName? {name : String} (makes : scope.Makes model decl field)
    (typed : field.type.enumName? = some name) :
    scope.resolve model decl = .ok (.enumeration name) := by
  obtain ⟨type, found, lowered⟩ := makes
  rw [enumName?_scalarField lowered, FieldType.enumName?_eq_some_iff] at typed
  obtain rfl := typed
  unfold columnType? at found
  split at found
  next type resolution => simp at found
  next other resolution =>
    obtain rfl : other = name := by simpa using found
    exact resolution
  next => cases found
  next => cases found

end Scope.Makes

end Modelwright.Source
