import Modelwright.Proofs.Source.Marks

namespace Modelwright.Source

/-- The field holds a value of its own, of a scalar type or of an enumeration. -/
def Scope.isColumn (scope : Scope) (model : ModelBlock) (field : FieldDecl) : Bool :=
  match scope.resolve model field with
  | .ok (.model _) => false
  | .ok _ => true
  | .error _ => false

def FieldDecl.column? (field : FieldDecl) : Option String :=
  match field.attribute? "map" with
  | some mark => (mark.main? "name").bind Expr.text?
  | none => some field.name.text

def FieldDecl.keyNames (field : FieldDecl) : List String :=
  ((keyFields? field).bind Expr.constants?).getD []

theorem attribute?_of_keyFields? {field : FieldDecl} {keys : Expr}
    (found : keyFields? field = some keys) :
    ∃ mark, field.attribute? "relation" = some mark := by
  obtain ⟨mark, named, -⟩ := Option.bind_eq_some_iff.mp found
  exact ⟨mark, named⟩

theorem nameArgument_eq_ok_iff {owner : String} {mark : Attribute} {text : String} :
    nameArgument owner mark = .ok text ↔ (mark.main? "name").bind Expr.text? = some text := by
  unfold nameArgument
  cases (mark.main? "name").bind Expr.text? with
  | none => simp
  | some found => simp

/-- A relation as the side that holds the key declares it. -/
structure Declares (scope : Scope) (model : ModelBlock) (field : FieldDecl) (target : ModelBlock)
    (opposite key : FieldDecl) (relation : Relation) : Prop where
  arity : field.type.arity ≠ .list
  keyNames : field.keyNames = [key.name.text]
  keyField : keyField? scope model key.name.text = some key
  name : relation.name = field.name.text
  target : relation.target = target.name.text
  kind : relation.kind = .foreignKey ↔ opposite.type.arity = .list
  column : relation.column = key.column?
  column_isSome : key.column?.isSome = true
  relatedName : relation.relatedName = some opposite.name.text

theorem name_of_keyField? {scope : Scope} {model : ModelBlock} {name : String} {key : FieldDecl}
    (found : keyField? scope model name = some key) : key.name.text = name := by
  have named := (Option.filter_eq_some_iff.mp found).1
  simpa using List.find?_some named

theorem declares_of_ownedRelation {scope : Scope} {model : ModelBlock} {field : FieldDecl}
    {target : ModelBlock} {opposite : FieldDecl} {mark : Attribute} {keys : Expr}
    {relation : Relation} (found : keyFields? field = some keys)
    (owned : ownedRelation scope model field target opposite mark keys = .ok relation) :
    ∃ key, Declares scope model field target opposite key relation := by
  unfold ownedRelation at owned
  dsimp only at owned
  -- One split for each guard, in the order of the checks.
  split at owned
  · exact nomatch owned
  rename_i arity
  split at owned
  next names constants =>
    split at owned
    next references named =>
      split at owned
      next referenced referencedNames =>
        split at owned
        next keyName reference single =>
          obtain ⟨rfl, rfl⟩ := Prod.mk.inj single
          split at owned
          next key keyFound =>
            obtain rfl := name_of_keyField? keyFound
            rw [Outcome.bind_eq_ok_iff] at owned
            obtain ⟨onDelete, -, owned⟩ := owned
            have keyNames : field.keyNames = [key.name.text] := by
              rw [FieldDecl.keyNames, found, Option.bind_some, constants, Option.getD_some]
            split at owned
            next map mapped =>
              rw [Outcome.bind_eq_ok_iff] at owned
              obtain ⟨column, argument, owned⟩ := owned
              have columnFound : key.column? = some column := by
                rw [FieldDecl.column?, mapped]
                exact nameArgument_eq_ok_iff.mp argument
              obtain rfl := Outcome.pure_eq_ok_iff.mp owned
              exact ⟨key, arity, keyNames, keyFound, rfl, rfl, by simp, columnFound.symm,
                by rw [columnFound]; rfl, rfl⟩
            next unmapped =>
              have columnFound : key.column? = some key.name.text := by
                rw [FieldDecl.column?, unmapped]
              obtain rfl := Outcome.pure_eq_ok_iff.mp owned
              exact ⟨key, arity, keyNames, keyFound, rfl, rfl, by simp, columnFound.symm,
                by rw [columnFound]; rfl, rfl⟩
          next => exact nomatch owned
        next => exact nomatch owned
      next => exact nomatch owned
    next => exact nomatch owned
  next => exact nomatch owned

theorem declares_of_relation? {scope : Scope} {model : ModelBlock} {field : FieldDecl}
    {target : ModelBlock} {relation : Relation}
    (lowered : relation? scope model field target = .ok (some relation)) :
    ∃ opposite key, opposite? model field target = some opposite ∧
      Declares scope model field target opposite key relation := by
  unfold relation? at lowered
  split at lowered
  · simp at lowered
  next opposite found =>
    split at lowered
    next mark keys marked named =>
      rw [Outcome.bind_eq_ok_iff] at lowered
      obtain ⟨owned, ownedRun, same⟩ := lowered
      obtain rfl := Option.some.inj (Outcome.pure_eq_ok_iff.mp same)
      obtain ⟨key, declares⟩ := declares_of_ownedRelation named ownedRun
      exact ⟨opposite, key, found, declares⟩
    next =>
      split at lowered
      · simp at lowered
      · split at lowered
        · simp at lowered
        · simp at lowered

theorem keyFields?_isSome_of_declares {scope : Scope} {model : ModelBlock} {field : FieldDecl}
    {target : ModelBlock} {opposite key : FieldDecl} {relation : Relation}
    (declares : Declares scope model field target opposite key relation) :
    (keyFields? field).isSome = true := by
  cases found : keyFields? field with
  | some keys => rfl
  | none =>
      have keyNames := declares.keyNames
      rw [FieldDecl.keyNames, found] at keyNames
      simp at keyNames

/-- A relation field that declares no relation leads to one that holds the key. -/
theorem opposite?_of_relation?_none {scope : Scope} {model : ModelBlock} {field : FieldDecl}
    {target : ModelBlock} (lowered : relation? scope model field target = .ok none) :
    keyFields? field = none ∧ ∃ opposite, opposite? model field target = some opposite ∧
      (keyFields? opposite).isSome = true := by
  unfold relation? at lowered
  split at lowered
  · simp at lowered
  next opposite found =>
    split at lowered
    next mark keys marked named =>
      rw [Outcome.bind_eq_ok_iff] at lowered
      obtain ⟨owned, -, same⟩ := lowered
      exact absurd (Outcome.pure_eq_ok_iff.mp same) (by simp)
    next unmarked =>
      have keyless : keyFields? field = none := by
        cases named : keyFields? field with
        | none => rfl
        | some keys =>
            obtain ⟨mark, marked⟩ := attribute?_of_keyFields? named
            exact absurd named (unmarked mark keys marked)
      split at lowered
      next holds => exact ⟨keyless, opposite, found, holds⟩
      next =>
        split at lowered
        · simp at lowered
        · simp at lowered

inductive Becomes (scope : Scope) (model : ModelBlock) (decl : FieldDecl) : FieldResult → Prop
  | relation {target : ModelBlock} {relation : Relation}
      (resolved : scope.resolve model decl = .ok (.model target))
      (lowered : relation? scope model decl target = .ok (some relation)) :
      Becomes scope model decl (.relation relation)
  | accessor {target : ModelBlock}
      (resolved : scope.resolve model decl = .ok (.model target))
      (lowered : relation? scope model decl target = .ok none) :
      Becomes scope model decl .folded
  | column {field : Field}
      (column : scope.isColumn model decl = true)
      (free : decl.name.text ∉ foreignKeys model)
      (name : field.name = decl.name.text) :
      Becomes scope model decl (.field field)
  | key
      (column : scope.isColumn model decl = true)
      (taken : decl.name.text ∈ foreignKeys model) :
      Becomes scope model decl .folded

theorem becomes_of_columnField {scope : Scope} {model : ModelBlock} {decl : FieldDecl}
    {type : FieldType} {result : FieldResult} (column : scope.isColumn model decl = true)
    (lowered : (columnField model decl type).outcome = .ok result) :
    Becomes scope model decl result := by
  unfold columnField at lowered
  split at lowered
  · simp at lowered
  · split at lowered
    next taken =>
      obtain rfl := Except.ok.inj lowered
      exact .key column taken
    next free =>
      simp only [Logged.outcome_bind, Outcome.bind_eq_ok_iff, Logged.outcome_pure,
        Except.ok.injEq] at lowered
      obtain ⟨field, fieldRun, rfl⟩ := lowered
      exact .column column free (name_scalarField fieldRun)

theorem becomes_of_fieldResult {scope : Scope} {model : ModelBlock} {decl : FieldDecl}
    {result : FieldResult} (lowered : (fieldResult scope model decl).outcome = .ok result) :
    Becomes scope model decl result := by
  simp only [fieldResult, Logged.outcome_bind, Logged.outcome_ofExcept,
    Outcome.bind_eq_ok_iff] at lowered
  obtain ⟨resolved, resolution, lowered⟩ := lowered
  cases resolved with
  | scalar type =>
      exact becomes_of_columnField (by simp [Scope.isColumn, resolution]) lowered
  | enumeration name =>
      exact becomes_of_columnField (by simp [Scope.isColumn, resolution]) lowered
  | model target =>
      simp only [Logged.outcome_bind, Logged.outcome_ofExcept,
        Outcome.bind_eq_ok_iff] at lowered
      obtain ⟨relation, relationRun, lowered⟩ := lowered
      cases relation with
      | some relation =>
          obtain rfl := Except.ok.inj lowered
          exact .relation resolution relationRun
      | none =>
          obtain rfl := Except.ok.inj lowered
          exact .accessor resolution relationRun

/-- The entity is what the fields of the model become, in their order. -/
structure LowersTo (scope : Scope) (model : ModelBlock) (entity : Entity)
    (results : List FieldResult) : Prop where
  name : entity.name = model.name.text
  become : List.Forall₂ (Becomes scope model) model.fields results
  fields : entity.fields = results.filterMap FieldResult.field?
  relations : entity.relations = results.filterMap FieldResult.relation?

theorem lowersTo_of_entity {scope : Scope} {model : ModelBlock} {lowered : Entity}
    (run : (entity scope model).outcome = .ok lowered) :
    ∃ results, LowersTo scope model lowered results := by
  simp only [entity, Logged.outcome_bind, Outcome.bind_eq_ok_iff, Logged.outcome_mapM,
    Outcome.mapM_eq_ok_iff, Logged.outcome_pure, Except.ok.injEq] at run
  obtain ⟨table, -, results, fieldsRun, rfl⟩ := run
  exact ⟨results, rfl, fieldsRun.imp fun _ _ => becomes_of_fieldResult, rfl, rfl⟩

theorem entities_of_lower {document : Document} {declarations : Declarations}
    (lowered : (lower document).outcome = .ok declarations) :
    List.Forall₂ (fun model entity => ∃ results,
      LowersTo document.scope model entity results)
      document.scope.models declarations.schema.entities := by
  simp only [lower, Logged.outcome_bind, Outcome.bind_eq_ok_iff, Logged.outcome_mapM,
    Outcome.mapM_eq_ok_iff, Logged.outcome_pure, Except.ok.injEq] at lowered
  obtain ⟨generators, -, enums, -, entities, entitiesRun, rfl⟩ := lowered
  exact entitiesRun.imp fun _ _ => lowersTo_of_entity

theorem exists_of_declarations {source : String} {declared : Declarations}
    (accepted : (declarations source).outcome = .ok declared) :
    ∃ document, parse source = .ok document ∧ (lower document).outcome = .ok declared := by
  unfold declarations at accepted
  cases parsed : parse source with
  | error error => simp [parsed] at accepted
  | ok document =>
      simp only [parsed] at accepted
      cases lowered : (lower document).outcome with
      | error error => simp [lowered, Except.mapError] at accepted
      | ok found =>
          simp only [lowered, Except.mapError, Except.ok.injEq] at accepted
          exact ⟨document, rfl, by rw [lowered, accepted]⟩

end Modelwright.Source
